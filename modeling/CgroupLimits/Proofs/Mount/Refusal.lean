import CgroupLimits.Proofs.Mount.LineGrammar
import CgroupLimits.Proofs.Text.NumeralFault

/-!
# Why a mount line is refused

A line may be wrong in several places at once, and the error names one of
them. The shape of the whole line comes first, however the ids are written;
then the mount id, then the parent id. An id is refused for the first thing
wrong with its numeral.
-/

set_option autoImplicit false

namespace CgroupLimits.LineFields
open CgroupLimits

structure IsShapeOf (fields : LineFields) (line : Text) : Prop where
  wellFormed : fields.IsWellFormed
  startsAtTop : fields.StartsAtTop
  written : fields.toLine = line

def IsId (value : Text) : Prop := ∃ id : Int32, Numeral.Denotes value id.toInt

def IdFault (value : Text) (fault : NumeralFault) : Prop :=
  Numeral.FirstFault (-2147483648) 2147483647 value fault

theorem is_shape_of_iff (fields : LineFields) (line : Text) :
    fields.IsShapeOf line ↔
      ofLine? line = some fields ∧ fields.isComplete ∧ fields.isRooted := by
  rw [← and_assoc, ← is_well_formed_to_line_iff, ← starts_at_top_iff]
  constructor
  · intro h
    exact ⟨⟨h.wellFormed, h.written⟩, h.startsAtTop⟩
  · intro h
    exact ⟨h.1.1, h.2, h.1.2⟩

theorem exists_read_id {value : Text} (h : IsId value) (field : IdField) :
    ∃ id, readId field value = .ok id := by
  obtain ⟨id, hd⟩ := h
  exact ⟨id, (read_id_eq_ok_iff field value id).mpr hd⟩

theorem not_is_id_of_int32 {value : Text} {fault : NumeralFault}
    (h : Numeral.int32 value = .error fault) : ¬ IsId value := by
  rintro ⟨id, hd⟩
  rw [(Numeral.int32_eq_ok_iff value id).mpr hd] at h
  cases h

theorem exists_first_fault {value : Text} (hn : value ≠ []) (h : ¬ IsId value) :
    ∃ fault, IdFault value fault := by
  cases hr : Numeral.int32 value with
  | ok id => exact absurd ⟨id, (Numeral.int32_eq_ok_iff value id).mp hr⟩ h
  | error fault => exact ⟨fault, (Numeral.int32_eq_error_iff hn fault).mp hr⟩

theorem read_id_eq_error {value : Text} (hn : value ≠ []) {fault : NumeralFault}
    (h : IdFault value fault) (field : IdField) :
    readId field value = .error (.invalidId field value fault) := by
  rw [readId, (Numeral.int32_eq_error_iff hn fault).mpr h]
  rfl

end CgroupLimits.LineFields

namespace CgroupLimits.MountPoint
open CgroupLimits

/-- The error names this field, with its text and the first thing wrong with it. -/
def RefusedFor (line : Text) (name value : Text) : Prop :=
  (∃ fault, LineFields.IdFault value fault) ∧
  ∀ fault, LineFields.IdFault value fault → fault ≠ .empty ∧
    ∃ field, IdField.name field = name ∧ ofLine line = .error (.invalidId field value fault)

variable {line : Text} {fields : LineFields}

theorem eq_of_name_eq {first second : IdField} (h : first.name = second.name) : first = second := by
  cases first <;> cases second <;> first | rfl | exact absurd h (by decide)

theorem RefusedFor.of_line_eq (field : IdField) {value : Text} {fault : NumeralFault}
    (h : RefusedFor line field.name value) (hf : LineFields.IdFault value fault) :
    ofLine line = .error (.invalidId field value fault) := by
  obtain ⟨-, other, hn, he⟩ := h.2 fault hf
  rwa [eq_of_name_eq hn] at he

theorem of_line_of_no_shape (h : ∀ fields : LineFields, ¬ fields.IsShapeOf line) :
    ofLine line = .error (.malformed line) := by
  rw [ofLine]
  split
  · rename_i fields hf
    have hs := mt (LineFields.is_shape_of_iff fields line).mpr (h fields)
    rw [if_neg]
    rw [Bool.and_eq_true]
    exact fun hc => hs ⟨hf, hc⟩
  · rfl

theorem of_line_of_shape (h : fields.IsShapeOf line) : ofLine line = fields.toMountPoint := by
  obtain ⟨hf, hc, hr⟩ := (LineFields.is_shape_of_iff fields line).mp h
  simp only [ofLine, hf, hc, hr, Bool.and_self, if_true]

theorem refused_for_of_not_is_id {value : Text} (hn : value ≠ []) (hi : ¬ LineFields.IsId value)
    (field : IdField)
    (h : ∀ error, LineFields.readId field value = .error error → ofLine line = .error error) :
    RefusedFor line field.name value := by
  refine ⟨LineFields.exists_first_fault hn hi, ?_⟩
  intro fault hf
  exact ⟨hf.ne_empty, field, rfl, h _ (LineFields.read_id_eq_error hn hf field)⟩

/-- The error of a line that is refused, for every combination of faults. -/
theorem of_line_refusal (line : Text) :
    ((∀ fields : LineFields, ¬ fields.IsShapeOf line) → ofLine line = .error (.malformed line)) ∧
    ∀ fields : LineFields, fields.IsShapeOf line →
      (¬ LineFields.IsId fields.mountId → RefusedFor line "mount ID".toList fields.mountId) ∧
      (LineFields.IsId fields.mountId → ¬ LineFields.IsId fields.parentId →
        RefusedFor line "parent ID".toList fields.parentId) ∧
      (LineFields.IsId fields.mountId → LineFields.IsId fields.parentId →
        ∃ mount, ofLine line = .ok mount) := by
  constructor
  · exact of_line_of_no_shape
  · intro fields hs
    have ho := of_line_of_shape hs
    have hf := hs.wellFormed.fixedFields
    refine ⟨?_, ?_, ?_⟩
    · intro hi
      apply refused_for_of_not_is_id (hf _ (by simp)).1 hi .mountId
      intro error he
      rw [ho, LineFields.toMountPoint, he]
      rfl
    · intro hm hi
      obtain ⟨id, hid⟩ := LineFields.exists_read_id hm .mountId
      apply refused_for_of_not_is_id (hf _ (by simp)).1 hi .parentId
      intro error he
      rw [ho, LineFields.toMountPoint, hid, he]
      rfl
    · intro hm hp
      obtain ⟨id, hid⟩ := LineFields.exists_read_id hm .mountId
      obtain ⟨parent, hparent⟩ := LineFields.exists_read_id hp .parentId
      rw [ho, LineFields.toMountPoint, hid, hparent]
      exact ⟨_, rfl⟩

def overflowFields : LineFields :=
  { driveFields with mountId := "+2147483648x".toList, parentId := "one".toList }

def underflowFields : LineFields :=
  { driveFields with mountId := "-0".toList, parentId := "-2147483649".toList }

def unrootedLine : Text := "one two 8:1 / mnt rw - ext4 /dev/sda1 rw".toList

theorem first_fault_overflow : LineFields.IdFault overflowFields.mountId .tooLarge := by
  have hs : Numeral.Denotes "+214748364".toList 214748364 :=
    ⟨"214748364".toList, ⟨by decide, by simp⟩, Or.inl ⟨Or.inr rfl, by decide⟩⟩
  have hd : Numeral.Denotes ("+214748364".toList ++ ['8']) 2147483648 :=
    ⟨"2147483648".toList, ⟨by decide, by simp⟩, Or.inl ⟨Or.inr rfl, by decide⟩⟩
  exact .outOfRange (.number hs (by decide)) (by decide) hd (.above (by decide)) ['x']

theorem first_fault_underflow : LineFields.IdFault underflowFields.parentId .tooSmall := by
  have hs : Numeral.Denotes "-214748364".toList (-214748364) :=
    ⟨"214748364".toList, ⟨by decide, by simp⟩, Or.inr ⟨rfl, by decide⟩⟩
  have hd : Numeral.Denotes ("-214748364".toList ++ ['9']) (-2147483649) :=
    ⟨"2147483649".toList, ⟨by decide, by simp⟩, Or.inr ⟨rfl, by decide⟩⟩
  exact .outOfRange (.number hs (by decide)) (by decide) hd (.below (by decide)) []

theorem of_line_refusal_several_faults :
    (∀ fields : LineFields, ¬ fields.IsShapeOf unrootedLine) ∧
      ofLine unrootedLine = .error (.malformed unrootedLine) ∧
      overflowFields.IsShapeOf overflowFields.toLine ∧
      ¬ LineFields.IsId overflowFields.mountId ∧
      ofLine overflowFields.toLine =
        .error (.invalidId .mountId "+2147483648x".toList .tooLarge) ∧
      underflowFields.IsShapeOf underflowFields.toLine ∧
      LineFields.IsId underflowFields.mountId ∧ ¬ LineFields.IsId underflowFields.parentId ∧
      ofLine underflowFields.toLine =
        .error (.invalidId .parentId "-2147483649".toList .tooSmall) := by
  have hn : ∀ fields : LineFields, ¬ fields.IsShapeOf unrootedLine := by
    intro fields h
    obtain ⟨hf, -, hr⟩ := (LineFields.is_shape_of_iff _ _).mp h
    have hu : (LineFields.ofLine? unrootedLine).all (! ·.isRooted) := by decide +kernel
    rw [hf, Option.all_some, hr] at hu
    cases hu
  have ho : overflowFields.IsShapeOf overflowFields.toLine :=
    ⟨⟨by decide, by decide, by decide, by decide, by decide⟩, ⟨by decide, by decide⟩, rfl⟩
  have hu : underflowFields.IsShapeOf underflowFields.toLine :=
    ⟨⟨by decide, by decide, by decide, by decide, by decide⟩, ⟨by decide, by decide⟩, rfl⟩
  have hlarge : Numeral.int32 overflowFields.mountId = .error .tooLarge := by decide
  have hsmall : Numeral.int32 underflowFields.parentId = .error .tooSmall := by decide
  have hom := LineFields.not_is_id_of_int32 hlarge
  have hup := LineFields.not_is_id_of_int32 hsmall
  have hum : LineFields.IsId underflowFields.mountId :=
    ⟨0, "0".toList, ⟨by decide, by simp⟩, Or.inr ⟨rfl, by decide⟩⟩
  refine ⟨hn, (of_line_refusal _).1 hn, ho, hom, ?_, hu, hum, hup, ?_⟩
  · exact (((of_line_refusal _).2 _ ho).1 hom).of_line_eq .mountId first_fault_overflow
  · exact (((of_line_refusal _).2 _ hu).2.1 hum hup).of_line_eq .parentId first_fault_underflow

end CgroupLimits.MountPoint

import CgroupLimits.Mount.Line
import CgroupLimits.Proofs.Path.NormalForm
import CgroupLimits.Proofs.Stages
import CgroupLimits.Proofs.Text.NumeralValue
import CgroupLimits.Proofs.Text.Pieces
import Mathlib.Data.List.Basic

/-!
# The grammar of a mount line

A line is read exactly if it is the fields joined by single spaces, and a line
can be cut into such fields in one way only. Cutting is settled first, for any
fields, empty ones included: the full cut at spaces shows where the separator
is, and the limited cut agrees with it up to the super options.
-/

set_option autoImplicit false

namespace CgroupLimits.LineFields
open CgroupLimits

def toLine (fields : LineFields) : Text :=
  joinWith ' ' ([fields.mountId, fields.parentId, fields.deviceId, fields.root, fields.mountPoint,
      fields.options] ++ fields.optionalFields ++
    [['-'], fields.fsType, fields.mountSource, fields.superOptions])

structure IsCut (fields : LineFields) : Prop where
  before : ∀ field ∈ fields.beforeSeparator, ' ' ∉ field
  optionalFields : ['-'] ∉ fields.optionalFields
  fsType : ' ' ∉ fields.fsType
  mountSource : ' ' ∉ fields.mountSource

theorem to_line_eq (fields : LineFields) :
    fields.toLine = joinWith ' ' (fields.beforeSeparator ++
      [separator, fields.fsType, fields.mountSource, fields.superOptions]) := rfl

theorem split_on_to_line {fields : LineFields} (h : fields.IsCut) :
    splitOn ' ' fields.toLine = fields.beforeSeparator ++
      separator :: fields.fsType :: fields.mountSource :: splitOn ' ' fields.superOptions := by
  have hp : ∀ field ∈ fields.beforeSeparator ++ [separator, fields.fsType, fields.mountSource],
      ' ' ∉ field := by
    intro field hm
    rcases List.mem_append.mp hm with hm | hm
    · exact h.before field hm
    · simp only [List.mem_cons, List.not_mem_nil, or_false] at hm
      rcases hm with rfl | rfl | rfl
      · decide
      · exact h.fsType
      · exact h.mountSource
  have hs := split_on_join_with_concat ' ' _ fields.superOptions hp
  simpa [to_line_eq] using hs

theorem separator_mem_to_line (fields : LineFields) : '-' ∈ fields.toLine := by
  have hs : separator ∈ fields.beforeSeparator ++
      [separator, fields.fsType, fields.mountSource, fields.superOptions] := by simp
  rw [to_line_eq]
  exact mem_join_with ' ' hs List.mem_cons_self

theorem get_last?_to_line {fields : LineFields} (h : fields.superOptions ≠ []) :
    fields.toLine.getLast? = fields.superOptions.getLast? := by
  have hl := get_last?_join_with_concat ' ' (fields.beforeSeparator ++
    [separator, fields.fsType, fields.mountSource]) h
  rwa [List.append_assoc] at hl

section Separator
variable {line : Text} {first after : List Text}

theorem separator_index?_of_split_on (h : splitOn ' ' line = first ++ separator :: after)
    (hl : fixedFieldCount ≤ first.length) (hf : separator ∉ first.drop fixedFieldCount) :
    separatorIndex? line = some first.length := by
  have hn : (first.drop fixedFieldCount).findIdx? (· == separator) = none := by
    rw [List.findIdx?_eq_none_iff]
    intro field hm
    rw [beq_eq_false_iff_ne]
    exact fun he => hf (he ▸ hm)
  rw [separatorIndex?, h, List.drop_append_of_le_length hl, List.findIdx?_append, hn,
    Option.none_or, List.findIdx?_cons, if_pos (beq_self_eq_true _)]
  simp only [Option.map_some, List.length_drop]
  congr 1
  omega

theorem exists_of_find_idx? {α : Type} {p : α → Bool} {xs : List α} {i : Nat}
    (h : xs.findIdx? p = some i) :
    ∃ before x after, xs = before ++ x :: after ∧ before.length = i ∧ p x ∧
      ∀ y ∈ before, ¬ p y := by
  induction xs generalizing i with
  | nil => cases h
  | cons x xs ih =>
    rw [List.findIdx?_cons] at h
    by_cases hx : p x
    · rw [if_pos hx] at h
      exact ⟨[], x, xs, rfl, Option.some.inj h, hx, by simp⟩
    · rw [if_neg hx] at h
      obtain ⟨j, hj, rfl⟩ := Option.map_eq_some_iff.mp h
      obtain ⟨before, y, after, rfl, rfl, hy, hb⟩ := ih hj
      exact ⟨x :: before, y, after, rfl, rfl, hy, by simpa [hx] using hb⟩

theorem split_on_of_separator_index? {index : Nat} (h : separatorIndex? line = some index) :
    ∃ first after, splitOn ' ' line = first ++ separator :: after ∧ first.length = index ∧
      fixedFieldCount ≤ first.length ∧ separator ∉ first.drop fixedFieldCount := by
  obtain ⟨i, hi, rfl⟩ := Option.map_eq_some_iff.mp h
  obtain ⟨before, x, after, hd, rfl, hx, hb⟩ := exists_of_find_idx? hi
  have hl := congrArg List.length hd
  rw [List.length_drop, List.length_append, List.length_cons] at hl
  have ht : ((splitOn ' ' line).take fixedFieldCount).length = fixedFieldCount := by
    rw [List.length_take]
    omega
  have hs : splitOn ' ' line =
      ((splitOn ' ' line).take fixedFieldCount ++ before) ++ separator :: after := by
    rw [List.append_assoc, ← eq_of_beq hx, ← hd, List.take_append_drop]
  have hn : separator ∉ before := fun hm => hb separator hm (beq_self_eq_true _)
  have hf : ((splitOn ' ' line).take fixedFieldCount ++ before).drop fixedFieldCount = before :=
    List.drop_left' ht
  have hc : ((splitOn ' ' line).take fixedFieldCount ++ before).length =
      before.length+fixedFieldCount := by
    rw [List.length_append, ht, Nat.add_comm]
  exact ⟨_, after, hs, hc, by omega, hf.symm ▸ hn⟩

theorem split_at_most_of_split_on {fsType mountSource : Text} {rest : List Text}
    (h : splitOn ' ' line = first ++ separator :: fsType :: mountSource :: rest)
    (hr : rest ≠ []) :
    splitAtMost (first.length+4) ' ' line =
      first ++ [separator, fsType, mountSource, joinWith ' ' rest] := by
  have hl := List.length_pos_iff.mpr hr
  have hs : first ++ separator :: fsType :: mountSource :: rest =
      (first ++ [separator, fsType, mountSource]) ++ rest := by simp
  have hc : first.length+3 = (first ++ [separator, fsType, mountSource]).length := by simp
  rw [split_at_most_eq, h, if_pos (by simp; omega), hs, hc, List.take_left, List.drop_left]
  simp

theorem split_at_most_of_short (h : splitOn ' ' line = first ++ separator :: after)
    (ha : after.length ≤ 2) :
    splitAtMost (first.length+4) ' ' line = first ++ separator :: after := by
  rw [split_at_most_eq, h, if_neg (by simp; omega)]

end Separator

theorem exists_of_length {first : List Text} (h : fixedFieldCount ≤ first.length) :
    ∃ mountId parentId deviceId root mountPoint options optionalFields,
      first = mountId :: parentId :: deviceId :: root :: mountPoint :: options ::
        optionalFields := by
  match first, h with
  | mountId :: parentId :: deviceId :: root :: mountPoint :: options :: optionalFields, _ =>
    exact ⟨mountId, parentId, deviceId, root, mountPoint, options, optionalFields, rfl⟩

theorem drop_separator (first after : List Text) :
    (first ++ separator :: after).drop (first.length+1) = after := by
  rw [← List.drop_drop, List.drop_left]
  rfl

theorem of_line?_eq_some_iff (line : Text) (fields : LineFields) :
    ofLine? line = some fields ↔ fields.IsCut ∧ fields.toLine = line := by
  constructor
  · intro h
    rw [ofLine?] at h
    split at h
    · cases h
    · rename_i index hi
      -- Of the full cut it only matters how many fields follow the separator.
      obtain ⟨first, after, hs, rfl, hl, hf⟩ := split_on_of_separator_index? hi
      have hp : ∀ field ∈ first ++ separator :: after, ' ' ∉ field := by
        intro field hm
        exact not_mem_of_mem_split_on (hs ▸ hm)
      have hj := join_with_split_at_most (first.length+3) ' ' line
      obtain ⟨mountId, parentId, deviceId, root, mountPoint, options, optionalFields, rfl⟩ :=
        exists_of_length hl
      match after with
      | fsType :: mountSource :: next :: rest =>
        have hm := split_at_most_of_split_on hs (List.cons_ne_nil next rest)
        rw [hm] at hj
        simp only [hm, List.take_left, drop_separator] at h
        cases h
        have hb : ∀ field ∈ mountId :: parentId :: deviceId :: root :: mountPoint :: options ::
            optionalFields, ' ' ∉ field := fun field hb => hp field (List.mem_append_left _ hb)
        exact ⟨⟨hb, hf, hp fsType (by simp), hp mountSource (by simp)⟩, hj⟩
      | [] | [_] | [_, _] =>
        have hm := split_at_most_of_short hs (by simp)
        simp only [hm, List.take_left, drop_separator] at h
        cases h
  · intro h
    obtain ⟨hc, rfl⟩ := h
    have hs := split_on_to_line hc
    have hi := separator_index?_of_split_on hs (by simp [beforeSeparator, fixedFieldCount])
      hc.optionalFields
    have hm := split_at_most_of_split_on hs (split_on_ne_nil ' ' fields.superOptions)
    rw [join_with_split_on] at hm
    simp only [ofLine?, hi, hm, List.take_left, drop_separator]
    rfl

/-- The shape of a line: no field is missing, and there is no second separator
right behind the first. -/
structure IsWellFormed (fields : LineFields) : Prop where
  fixedFields : ∀ field ∈ [fields.mountId, fields.parentId, fields.deviceId, fields.root,
    fields.mountPoint, fields.options], field ≠ [] ∧ ' ' ∉ field
  optionalFields : ∀ field ∈ fields.optionalFields, field ≠ [] ∧ ' ' ∉ field ∧ field ≠ ['-']
  fsType : fields.fsType ≠ [] ∧ ' ' ∉ fields.fsType ∧ fields.fsType ≠ ['-']
  mountSource : fields.mountSource ≠ [] ∧ ' ' ∉ fields.mountSource ∧ fields.mountSource ≠ ['-']
  superOptions : fields.superOptions ≠ []

structure StartsAtTop (fields : LineFields) : Prop where
  root : ['/'] <+: Octal.decode fields.root
  mountPoint : ['/'] <+: Octal.decode fields.mountPoint

/-- The mount that the fields stand for. -/
structure Describes (fields : LineFields) (mount : MountPoint) : Prop where
  mountId : Numeral.Denotes fields.mountId mount.mountId.toInt
  parentId : Numeral.Denotes fields.parentId mount.parentId.toInt
  deviceId : mount.deviceId = fields.deviceId
  root : mount.root = Octal.decode fields.root
  mountPoint : mount.mountPoint = Octal.decode fields.mountPoint
  options : mount.options = splitOn ',' fields.options
  optionalFields : mount.optionalFields = fields.optionalFields
  fsType : mount.fsType = fields.fsType
  mountSource : mount.mountSource = Octal.decode fields.mountSource
  superOptions : mount.superOptions = splitOn ',' fields.superOptions

theorem is_complete_iff (fields : LineFields) :
    fields.isComplete ↔ (∀ field ∈ fields.beforeSeparator, field ≠ []) ∧
      (fields.fsType ≠ [] ∧ fields.fsType ≠ ['-']) ∧
      (fields.mountSource ≠ [] ∧ fields.mountSource ≠ ['-']) ∧ fields.superOptions ≠ [] := by
  simp [isComplete, separator, and_assoc]

theorem is_well_formed_iff (fields : LineFields) :
    fields.IsWellFormed ↔ fields.IsCut ∧ fields.isComplete := by
  have hb : ∀ field, field ∈ fields.beforeSeparator ↔
      field ∈ [fields.mountId, fields.parentId, fields.deviceId, fields.root, fields.mountPoint,
        fields.options] ∨ field ∈ fields.optionalFields := by
    intro field
    rw [← List.mem_append]
    rfl
  rw [is_complete_iff]
  constructor
  · intro h
    have hf : ∀ field ∈ fields.beforeSeparator, field ≠ [] ∧ ' ' ∉ field := by
      intro field hm
      rcases (hb field).mp hm with hm | hm
      · exact h.fixedFields field hm
      · have ho := h.optionalFields field hm
        exact ⟨ho.1, ho.2.1⟩
    have hs : ['-'] ∉ fields.optionalFields := fun hm => (h.optionalFields _ hm).2.2 rfl
    have hc : fields.IsCut := ⟨fun field hm => (hf field hm).2, hs, h.fsType.2.1, h.mountSource.2.1⟩
    exact ⟨hc, fun field hm => (hf field hm).1, ⟨h.fsType.1, h.fsType.2.2⟩,
      ⟨h.mountSource.1, h.mountSource.2.2⟩, h.superOptions⟩
  · intro h
    obtain ⟨hc, hn, ht, hs, hu⟩ := h
    constructor
    · intro field hm
      have hf := (hb field).mpr (Or.inl hm)
      exact ⟨hn field hf, hc.before field hf⟩
    · intro field hm
      have hf := (hb field).mpr (Or.inr hm)
      exact ⟨hn field hf, hc.before field hf, fun he => hc.optionalFields (he ▸ hm)⟩
    · exact ⟨ht.1, hc.fsType, ht.2⟩
    · exact ⟨hs.1, hc.mountSource, hs.2⟩
    · exact hu

theorem is_well_formed_to_line_iff (line : Text) (fields : LineFields) :
    fields.IsWellFormed ∧ fields.toLine = line ↔
      ofLine? line = some fields ∧ fields.isComplete := by
  rw [is_well_formed_iff, of_line?_eq_some_iff, and_right_comm]

theorem starts_at_top_iff (fields : LineFields) : fields.StartsAtTop ↔ fields.isRooted := by
  rw [isRooted, Bool.and_eq_true, Path.is_absolute_iff, Path.is_absolute_iff]
  exact ⟨fun h => ⟨h.root, h.mountPoint⟩, fun h => ⟨h.1, h.2⟩⟩

theorem read_id_eq_ok_iff (field : IdField) (value : Text) (id : Int32) :
    readId field value = .ok id ↔ Numeral.Denotes value id.toInt := by
  rw [readId, map_error_eq_ok, Numeral.int32_eq_ok_iff]

theorem to_mount_point_eq_ok_iff (fields : LineFields) (mount : MountPoint) :
    fields.toMountPoint = .ok mount ↔ fields.Describes mount := by
  simp only [toMountPoint, bind_eq_ok, read_id_eq_ok_iff]
  constructor
  · intro h
    obtain ⟨mountId, hm, parentId, hp, he⟩ := h
    cases he
    exact ⟨hm, hp, rfl, rfl, rfl, rfl, rfl, rfl, rfl, rfl⟩
  · intro h
    obtain ⟨hm, hp, hd, hr, hx, ho, hf, ht, hs, hu⟩ := h
    refine ⟨mount.mountId, hm, mount.parentId, hp, ?_⟩
    rw [decodedRoot, decodedMountPoint, ← hd, ← hr, ← hx, ← ho, ← hf, ← ht, ← hs, ← hu]
    rfl

end CgroupLimits.LineFields

namespace CgroupLimits.MountPoint
open CgroupLimits

theorem of_line_eq_ok (line : Text) (mount : MountPoint) :
    ofLine line = .ok mount ↔ ∃ fields, LineFields.ofLine? line = some fields ∧
      (fields.isComplete ∧ fields.isRooted) ∧ fields.toMountPoint = .ok mount := by
  rw [ofLine]
  cases LineFields.ofLine? line with
  | none => simp
  | some fields =>
    by_cases hc : fields.isComplete ∧ fields.isRooted
    · simp [hc]
    · simp [hc]

theorem of_line_to_line {fields : LineFields} {mount : MountPoint} (hw : fields.IsWellFormed)
    (hs : fields.StartsAtTop) (hd : fields.Describes mount) : ofLine fields.toLine = .ok mount := by
  obtain ⟨hc, hp⟩ := (LineFields.is_well_formed_to_line_iff fields.toLine fields).mp ⟨hw, rfl⟩
  have hr := (LineFields.starts_at_top_iff fields).mp hs
  have hm := (LineFields.to_mount_point_eq_ok_iff fields mount).mpr hd
  exact (of_line_eq_ok _ mount).mpr ⟨fields, hc, ⟨hp, hr⟩, hm⟩

theorem exists_fields_of_line_read {line : Text} {mount : MountPoint}
    (h : ofLine line = .ok mount) :
    ∃ fields : LineFields, fields.toLine = line ∧ fields.IsWellFormed ∧ fields.StartsAtTop ∧
      fields.Describes mount := by
  obtain ⟨fields, hf, ⟨hc, hr⟩, hm⟩ := (of_line_eq_ok line mount).mp h
  obtain ⟨hw, ht⟩ := (LineFields.is_well_formed_to_line_iff line fields).mpr ⟨hf, hc⟩
  exact ⟨fields, ht, hw, (LineFields.starts_at_top_iff fields).mpr hr,
    (LineFields.to_mount_point_eq_ok_iff fields mount).mp hm⟩

theorem not_is_all_blank_of_line_read {line : Text} {mount : MountPoint}
    (h : ofLine line = .ok mount) : ¬ line.isAllBlank = true := by
  obtain ⟨fields, rfl, -⟩ := exists_fields_of_line_read h
  intro hb
  exact absurd (List.all_eq_true.mp hb '-' fields.separator_mem_to_line) (by decide)

/-- A line is accepted exactly if it is written with well-formed fields, and no
other fields give the same line. -/
theorem of_line_eq_ok_iff (line : Text) :
    (∀ mount, ofLine line = .ok mount ↔ ∃ fields : LineFields,
      (fields.IsWellFormed ∧ fields.toLine = line) ∧ fields.StartsAtTop ∧
        fields.Describes mount) ∧
    (∀ fields other : LineFields, fields.IsWellFormed ∧ fields.toLine = line →
      other.IsWellFormed ∧ other.toLine = line → fields = other) ∧
    ∀ (fields : LineFields) mount, fields.Describes mount →
      joinWith ',' mount.superOptions = fields.superOptions := by
  refine ⟨?_, ?_, ?_⟩
  · intro mount
    rw [of_line_eq_ok]
    simp only [LineFields.is_well_formed_to_line_iff, LineFields.starts_at_top_iff,
      LineFields.to_mount_point_eq_ok_iff, and_assoc]
  · intro fields other hf ho
    rw [LineFields.is_well_formed_to_line_iff] at hf ho
    exact Option.some.inj (hf.1.symm.trans ho.1)
  · intro fields mount h
    rw [h.superOptions, join_with_split_on]

def driveFields : LineFields where
  mountId := "+560".toList
  parentId := "-77".toList
  deviceId := "-".toList
  root := "/".toList
  mountPoint := "/Docker\\040host".toList
  options := "rw,noatime".toList
  optionalFields := ["shared:1".toList]
  fsType := "9p".toList
  mountSource := "drvfs".toList
  superOptions := "rw,path=C:\\Program Files - x,mmap".toList

def driveMount : MountPoint where
  mountId := 560
  parentId := -77
  deviceId := "-".toList
  root := "/".toList
  mountPoint := "/Docker host".toList
  options := ["rw".toList, "noatime".toList]
  optionalFields := ["shared:1".toList]
  fsType := "9p".toList
  mountSource := "drvfs".toList
  superOptions := ["rw".toList, "path=C:\\Program Files - x".toList, "mmap".toList]

theorem of_line_drive :
    ofLine driveFields.toLine = .ok driveMount ∧
      ∀ other : LineFields, other.IsWellFormed ∧ other.toLine = driveFields.toLine →
        driveFields = other := by
  have hw : driveFields.IsWellFormed :=
    ⟨by decide, by decide, by decide, by decide, by decide⟩
  have hs : driveFields.StartsAtTop := ⟨by decide, by decide⟩
  have hm : Numeral.Denotes driveFields.mountId driveMount.mountId.toInt :=
    ⟨"560".toList, ⟨by decide, by simp⟩, Or.inl ⟨Or.inr rfl, by decide⟩⟩
  have hp : Numeral.Denotes driveFields.parentId driveMount.parentId.toInt :=
    ⟨"77".toList, ⟨by decide, by simp⟩, Or.inr ⟨rfl, by decide⟩⟩
  have hd : driveFields.Describes driveMount :=
    ⟨hm, hp, rfl, by decide, by decide, by decide, rfl, rfl, by decide, by decide⟩
  have h := of_line_eq_ok_iff driveFields.toLine
  constructor
  · exact (h.1 driveMount).mpr ⟨driveFields, ⟨hw, rfl⟩, hs, hd⟩
  · intro other ho
    exact h.2.1 driveFields other ⟨hw, rfl⟩ ho

end CgroupLimits.MountPoint

import CgroupLimits.Group.Error
import CgroupLimits.Proofs.Text.Quotation
import Mathlib.Data.List.Nodup

/-!
# What an error message tells

A message may carry texts that someone else has written, several in one
message, and one message may be part of another. Since the texts are quoted,
every message is a single line, and no two errors have the same one: neither
the kind of an error nor a text that it carries can be mistaken for another.
Only what the system says of its own faults is taken over as it is.
-/

set_option autoImplicit false

namespace CgroupLimits

/-- Messages on one line each, as far as the texts taken over are, from which
the error can be told. -/
structure Unmistakable {Error : Type} (message : Error → Text) (takenOver : Error → List Text) :
    Prop where
  oneLine : ∀ error, (∀ text ∈ takenOver error, HasNoControl text) → HasNoControl (message error)
  distinct : Function.Injective message

theorem IoFault.message_injective : Function.Injective message := by
  rintro ⟨first⟩ ⟨second⟩ rfl
  rfl

namespace NumeralFault

def all : List NumeralFault := [.empty, .invalidDigit, .tooLarge, .tooSmall]

theorem mem_all (fault : NumeralFault) : fault ∈ all := by
  cases fault <;> decide

theorem has_no_control_message (fault : NumeralFault) : HasNoControl fault.message := by
  have h : ∀ fault ∈ all, HasNoControl fault.message := by decide
  exact h fault (mem_all fault)

theorem message_injective : Function.Injective message := by
  have h : (all.map message).Nodup := by decide +kernel
  intro first second he
  exact List.inj_on_of_nodup_map h (mem_all first) (mem_all second) he

end NumeralFault

namespace LineError

theorem message_invalid_id (field : IdField) (value : Text) (fault : NumeralFault) :
    (invalidId field value fault).message = "invalid ".toList ++ (field.name ++ (" ".toList ++
      (value.quoted ++ (": ".toList ++ fault.message)))) := by
  change "invalid ".toList ++ field.name ++ " ".toList ++ value.quoted ++ ": ".toList ++
    fault.message = _
  simp only [List.append_assoc]

theorem field_eq_of_name {first second : IdField} {x y : Text}
    (h : first.name ++ x = second.name ++ y) : first = second := by
  cases first with
  | mountId =>
    cases second with
    | mountId => rfl
    | parentId => cases h
  | parentId =>
    cases second with
    | mountId => cases h
    | parentId => rfl

theorem invalid_id_ne_malformed (field : IdField) (value line : Text) (fault : NumeralFault) :
    (invalidId field value fault).message ≠ (malformed line).message := by
  intro h
  cases field with
  | mountId => cases h
  | parentId => cases h

theorem message_injective : Function.Injective message := by
  intro first second h
  cases first with
  | invalidId field value fault =>
    cases second with
    | invalidId other _ _ =>
      rw [message_invalid_id, message_invalid_id, List.append_cancel_left_eq] at h
      obtain rfl := field_eq_of_name h
      rw [List.append_cancel_left_eq, List.append_cancel_left_eq, quoted_append_eq_iff,
        List.append_cancel_left_eq] at h
      rw [h.1, NumeralFault.message_injective h.2]
    | malformed line => exact absurd h (invalid_id_ne_malformed field value line fault)
  | malformed line =>
    cases second with
    | invalidId field value fault =>
      exact absurd h.symm (invalid_id_ne_malformed field value line fault)
    | malformed other => rw [quoted_eq_iff.mp (List.append_cancel_left h)]

theorem has_no_control_message (error : LineError) : HasNoControl error.message := by
  cases error with
  | invalidId field value fault =>
    have hf : HasNoControl field.name := by cases field <;> decide
    simp only [message_invalid_id, has_no_control_append]
    exact ⟨by decide, hf, by decide, has_no_control_quoted value, by decide,
      fault.has_no_control_message⟩
  | malformed line => exact (has_no_control_append _ _).mpr ⟨by decide, has_no_control_quoted line⟩

end LineError

namespace TranslateError

theorem message_not_absolute (path : Text) :
    (notAbsolute path).message = "path ".toList ++ (path.quoted ++ " is not absolute".toList) := by
  change "path ".toList ++ path.quoted ++ " is not absolute".toList = _
  rw [List.append_assoc]

theorem message_not_exposed (mountPoint root path : Text) :
    (notExposed mountPoint root path).message = "path ".toList ++ (path.quoted ++
      (" is not exposed by mount ".toList ++ (mountPoint.quoted ++ (" of ".toList ++
        root.quoted)))) := by
  change "path ".toList ++ path.quoted ++ " is not exposed by mount ".toList ++
    mountPoint.quoted ++ " of ".toList ++ root.quoted = _
  simp only [List.append_assoc]

theorem not_absolute_ne_not_exposed (path mountPoint root other : Text) :
    (notAbsolute path).message ≠ (notExposed mountPoint root other).message := by
  intro h
  rw [message_not_absolute, message_not_exposed, List.append_cancel_left_eq,
    quoted_append_eq_iff] at h
  cases h.2

theorem message_injective : Function.Injective message := by
  intro first second h
  cases first with
  | notAbsolute path =>
    cases second with
    | notAbsolute other =>
      rw [message_not_absolute, message_not_absolute, List.append_cancel_left_eq,
        quoted_append_eq_iff] at h
      rw [h.1]
    | notExposed mountPoint root other =>
      exact absurd h (not_absolute_ne_not_exposed path mountPoint root other)
  | notExposed mountPoint root path =>
    cases second with
    | notAbsolute other =>
      exact absurd h.symm (not_absolute_ne_not_exposed other mountPoint root path)
    | notExposed _ _ _ =>
      rw [message_not_exposed, message_not_exposed, List.append_cancel_left_eq,
        quoted_append_eq_iff, List.append_cancel_left_eq, quoted_append_eq_iff,
        List.append_cancel_left_eq, quoted_eq_iff] at h
      rw [h.1, h.2.1, h.2.2]

theorem has_no_control_message (error : TranslateError) : HasNoControl error.message := by
  cases error with
  | notAbsolute path =>
    simp only [message_not_absolute, has_no_control_append]
    exact ⟨by decide, has_no_control_quoted path, by decide⟩
  | notExposed mountPoint root path =>
    simp only [message_not_exposed, has_no_control_append]
    exact ⟨by decide, has_no_control_quoted path, by decide, has_no_control_quoted mountPoint,
      by decide, has_no_control_quoted root⟩

end TranslateError

namespace TableError

/-- What the message takes over from the system. -/
def takenOver : TableError → List Text
  | .io fault => [fault.message]
  | .line _ => []

theorem io_ne_line (fault : IoFault) (error : LineError) :
    (io fault).message ≠ (line error).message := by
  intro h
  have hr : (io fault).message[10]? = some 'r' := rfl
  have hp : (line error).message[10]? = some 'p' := rfl
  rw [h, hp] at hr
  cases hr

theorem message_injective : Function.Injective message := by
  intro first second h
  cases first with
  | io fault =>
    cases second with
    | io other => rw [IoFault.message_injective (List.append_cancel_left h)]
    | line error => exact absurd h (io_ne_line fault error)
  | line error =>
    cases second with
    | io fault => exact absurd h.symm (io_ne_line fault error)
    | line other => rw [LineError.message_injective (List.append_cancel_left h)]

theorem has_no_control_message (error : TableError)
    (h : ∀ text ∈ error.takenOver, HasNoControl text) : HasNoControl error.message := by
  cases error with
  | io fault => exact (has_no_control_append _ _).mpr ⟨by decide, h _ List.mem_cons_self⟩
  | line error => exact (has_no_control_append _ _).mpr ⟨by decide, error.has_no_control_message⟩

end TableError

namespace GroupError

def takenOver : GroupError → List Text
  | .io fault => [fault.message]
  | .mountTable error => error.takenOver
  | .internal errno => [errno]
  | _ => []

/-- The first letter of a message. Only two kinds share theirs. -/
def initial : GroupError → Char
  | .io _ => 'I'
  | .mountTable _ => 'f'
  | .translate _ => 'p'
  | .malformedEntry _ => 'i'
  | .invalidValue _ _ => 'i'
  | .notMounted => 'n'
  | .internal _ => 's'

theorem head?_message (error : GroupError) : error.message.head? = some error.initial := by
  cases error with
  | io fault => rfl
  | mountTable error => cases error <;> rfl
  | translate error => cases error <;> rfl
  | malformedEntry line => rfl
  | invalidValue path value => rfl
  | notMounted => rfl
  | internal errno => rfl

theorem message_invalid_value (path value : Text) :
    (invalidValue path value).message =
      "invalid value ".toList ++ (value.quoted ++ (" in ".toList ++ path.quoted)) := by
  change "invalid value ".toList ++ value.quoted ++ " in ".toList ++ path.quoted = _
  simp only [List.append_assoc]

theorem malformed_entry_ne_invalid_value (line path value : Text) :
    (malformedEntry line).message ≠ (invalidValue path value).message := by
  intro h
  cases h

theorem message_injective : Function.Injective message := by
  intro first second h
  have hi := congrArg List.head? h
  rw [head?_message, head?_message] at hi
  cases first with
  | io fault =>
    cases second with
    | io other => rw [IoFault.message_injective (List.append_cancel_left h)]
    | _ => simp [initial] at hi
  | mountTable error =>
    cases second with
    | mountTable other => rw [@TableError.message_injective error other h]
    | _ => simp [initial] at hi
  | translate error =>
    cases second with
    | translate other => rw [@TranslateError.message_injective error other h]
    | _ => simp [initial] at hi
  | malformedEntry line =>
    cases second with
    | malformedEntry other => rw [quoted_eq_iff.mp (List.append_cancel_left h)]
    | invalidValue path value => exact absurd h (malformed_entry_ne_invalid_value line path value)
    | _ => simp [initial] at hi
  | invalidValue path value =>
    cases second with
    | malformedEntry line => exact absurd h.symm (malformed_entry_ne_invalid_value line path value)
    | invalidValue _ _ =>
      rw [message_invalid_value, message_invalid_value, List.append_cancel_left_eq,
        quoted_append_eq_iff, List.append_cancel_left_eq, quoted_eq_iff] at h
      rw [h.1, h.2]
    | _ => simp [initial] at hi
  | notMounted =>
    cases second with
    | notMounted => rfl
    | _ => simp [initial] at hi
  | internal errno =>
    cases second with
    | internal other => rw [List.append_cancel_left h]
    | _ => simp [initial] at hi

theorem has_no_control_message (error : GroupError)
    (h : ∀ text ∈ error.takenOver, HasNoControl text) : HasNoControl error.message := by
  cases error with
  | io fault => exact (has_no_control_append _ _).mpr ⟨by decide, h _ List.mem_cons_self⟩
  | mountTable error => exact error.has_no_control_message h
  | translate error => exact error.has_no_control_message
  | malformedEntry line =>
    exact (has_no_control_append _ _).mpr ⟨by decide, has_no_control_quoted line⟩
  | invalidValue path value =>
    simp only [message_invalid_value, has_no_control_append]
    exact ⟨by decide, has_no_control_quoted value, by decide, has_no_control_quoted path⟩
  | notMounted => decide
  | internal errno => exact (has_no_control_append _ _).mpr ⟨by decide, h _ List.mem_cons_self⟩

end GroupError

end CgroupLimits

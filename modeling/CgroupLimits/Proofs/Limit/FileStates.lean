import CgroupLimits.Proofs.Limit.FirstLine
import CgroupLimits.Proofs.Text.Strict

/-!
# A control file in every state

A control file may be missing, break off, hold bytes that are no text, start
with a blank line, or say something. Each state has one outcome of its own,
first for the line that is read and then for the integer that it should be. A
blank line is reported with the whole file, a line that is no integer by itself.
-/

set_option autoImplicit false

namespace CgroupLimits.ControlFile
open CgroupLimits

/-- The line that counts: what stands before the first line feed, without the
blanks around it. -/
structure IsFirstLine (content line : Text) : Prop where
  trimmed : line = [] ∨ Text.IsTrimmed line
  whole : '\n' ∉ line
  placed : ∃ before after rest : Text, (∀ c ∈ before ++ after, Text.isBlank c ∧ c ≠ '\n') ∧
    (rest = [] ∨ ['\n'] <+: rest) ∧ content = before ++ line ++ after ++ rest

theorem first_line_of_blanks {before after rest : Text}
    (hb : ∀ c ∈ before ++ after, Text.isBlank c ∧ c ≠ '\n')
    (hr : rest = [] ∨ ['\n'] <+: rest) : firstLineOf (before ++ after ++ rest) = [] := by
  have hl : '\n' ∉ before ++ after := fun hm => (hb _ hm).2 rfl
  rw [firstLineOf, take_while_line hl hr]
  exact Text.trim_of_blanks fun c hc => (hb c hc).1

theorem is_first_line_first_line_of (content : Text) :
    IsFirstLine content (firstLineOf content) where
  trimmed := by
    by_cases h : firstLineOf content = []
    · exact Or.inl h
    · exact Or.inr (Text.is_trimmed_trim h)
  whole := by
    intro hm
    have ht := List.mem_takeWhile_imp (Text.mem_of_mem_trim hm)
    simp at ht
  placed := exists_first_line_of content

theorem is_first_line_iff (content line : Text) :
    IsFirstLine content line ↔ firstLineOf content = line := by
  constructor
  · intro h
    obtain ⟨ht, hn, before, after, rest, hb, hr, rfl⟩ := h
    rcases ht with rfl | ht
    · rw [List.append_nil]
      exact first_line_of_blanks hb hr
    · exact first_line_of_surrounded hb hr ht hn
  · rintro rfl
    exact is_first_line_first_line_of content

inductive LineReading (files : Files) (path : Text) : Except GroupError Text → Prop
  | unopened {fault : IoFault} (unopened : files path = .error fault) :
      LineReading files path (.error (.io fault))
  | broken {source : Source} {fault : IoFault} (opened : files path = .ok source)
      (breaks : source.fault = some fault) : LineReading files path (.error (.io fault))
  | noText {source : Source} (opened : files path = .ok source) (unbroken : source.fault = none)
      (noText : ∀ content, source.content ≠ Utf8.encode content) :
      LineReading files path (.error (.io .notUtf8))
  | blank {content : Text} (holds : files path = .ok { content := Utf8.encode content })
      (first : IsFirstLine content []) :
      LineReading files path (.error (.invalidValue path content))
  | line {content line : Text} (holds : files path = .ok { content := Utf8.encode content })
      (first : IsFirstLine content line) (ne_nil : line ≠ []) : LineReading files path (.ok line)

inductive IntReading (files : Files) (path : Text) : Except GroupError Int64 → Prop
  | unread {error : GroupError} (unread : LineReading files path (.error error)) :
      IntReading files path (.error error)
  | noInteger {line : Text} (reads : LineReading files path (.ok line))
      (noInteger : ∀ n : Int64, ¬ Numeral.Denotes line n.toInt) :
      IntReading files path (.error (.invalidValue path line))
  | integer {line : Text} {n : Int64} (reads : LineReading files path (.ok line))
      (denotes : Numeral.Denotes line n.toInt) : IntReading files path (.ok n)

theorem text_eq_ok_iff (source : Source) (content : Text) :
    source.text = .ok content ↔ source = { content := Utf8.encode content } := by
  obtain ⟨bytes, fault⟩ := source
  cases fault with
  | some fault => simp [Source.text]
  | none =>
    rw [Source.mk.injEq, ← Utf8.decode?_eq_some_iff]
    cases hd : Utf8.decode? bytes <;> simp [Source.text, hd]

theorem text_eq_error_iff (source : Source) (fault : IoFault) :
    source.text = .error fault ↔ source.fault = some fault ∨
      source.fault = none ∧ (∀ content, source.content ≠ Utf8.encode content) ∧
        fault = .notUtf8 := by
  obtain ⟨bytes, found⟩ := source
  cases found with
  | some found => simp [Source.text]
  | none =>
    rw [← Utf8.decode?_eq_none_iff]
    cases hd : Utf8.decode? bytes with
    | none => simp [Source.text, hd, eq_comm]
    | some content => simp [Source.text, hd]

section Readings
variable {files : Files} {directory parameter : Text}

theorem read_first_line_of_fault {source : Source} {fault : IoFault}
    (h : files (Path.join directory parameter) = .ok source) (hf : source.text = .error fault) :
    readFirstLine files directory parameter = .error (.io fault) := by
  simp only [readFirstLine, h, hf, Except.mapError, bind, Except.bind]

theorem LineReading.read_first_line_eq {result : Except GroupError Text}
    (h : LineReading files (Path.join directory parameter) result) :
    readFirstLine files directory parameter = result := by
  cases h with
  | unopened unopened =>
    simp only [readFirstLine, unopened, Except.mapError, bind, Except.bind]
  | broken opened breaks =>
    exact read_first_line_of_fault opened ((text_eq_error_iff _ _).mpr (Or.inl breaks))
  | noText opened unbroken noText =>
    exact read_first_line_of_fault opened
      ((text_eq_error_iff _ _).mpr (Or.inr ⟨unbroken, noText, rfl⟩))
  | blank holds first =>
    rw [read_first_line_of_holds holds, if_pos ((is_first_line_iff _ _).mp first)]
  | line holds first ne_nil =>
    obtain rfl := (is_first_line_iff _ _).mp first
    rw [read_first_line_of_holds holds, if_neg ne_nil]

variable (files directory parameter) in
theorem line_reading_read_first_line :
    LineReading files (Path.join directory parameter)
      (readFirstLine files directory parameter) := by
  cases hs : files (Path.join directory parameter) with
  | error fault =>
    rw [LineReading.read_first_line_eq (.unopened hs)]
    exact .unopened hs
  | ok source =>
    cases ht : source.text with
    | error fault =>
      rw [read_first_line_of_fault hs ht]
      rcases (text_eq_error_iff source fault).mp ht with hb | ⟨hb, hn, rfl⟩
      · exact .broken hs hb
      · exact .noText hs hb hn
    | ok content =>
      rw [text_eq_ok_iff] at ht
      subst ht
      rw [read_first_line_of_holds hs]
      split
      · rename_i hl
        exact .blank hs ((is_first_line_iff _ _).mpr hl)
      · rename_i hl
        exact .line hs (is_first_line_first_line_of content) hl

/-- Every state of the file has its outcome, and no other. -/
theorem read_first_line_eq_iff (result : Except GroupError Text) :
    readFirstLine files directory parameter = result ↔
      LineReading files (Path.join directory parameter) result := by
  constructor
  · rintro rfl
    exact line_reading_read_first_line files directory parameter
  · exact LineReading.read_first_line_eq

theorem IntReading.read_int_eq {result : Except GroupError Int64}
    (h : IntReading files (Path.join directory parameter) result) :
    readInt files directory parameter = result := by
  cases h with
  | unread unread => simp only [readInt, unread.read_first_line_eq, bind, Except.bind]
  | @noInteger line reads noInteger =>
    cases hn : Numeral.int64 line with
    | ok n => exact absurd ((Numeral.int64_eq_ok_iff line n).mp hn) (noInteger n)
    | error fault =>
      simp only [readInt, reads.read_first_line_eq, hn, bind, Except.bind]
      rfl
  | @integer line n reads denotes =>
    simp only [readInt, reads.read_first_line_eq, (Numeral.int64_eq_ok_iff line n).mpr denotes,
      bind, Except.bind]
    rfl

variable (files directory parameter) in
theorem exists_int_reading :
    ∃ result, IntReading files (Path.join directory parameter) result := by
  cases hl : readFirstLine files directory parameter with
  | error error => exact ⟨_, .unread ((read_first_line_eq_iff _).mp hl)⟩
  | ok line =>
    have reads := (read_first_line_eq_iff _).mp hl
    by_cases hn : ∃ n : Int64, Numeral.Denotes line n.toInt
    · obtain ⟨n, hn⟩ := hn
      exact ⟨_, .integer reads hn⟩
    · exact ⟨_, .noInteger reads fun n h => hn ⟨n, h⟩⟩

theorem read_int_eq_iff (result : Except GroupError Int64) :
    readInt files directory parameter = result ↔
      IntReading files (Path.join directory parameter) result := by
  constructor
  · rintro rfl
    obtain ⟨result, hr⟩ := exists_int_reading files directory parameter
    rw [hr.read_int_eq]
    exact hr
  · exact IntReading.read_int_eq

end Readings
end CgroupLimits.ControlFile

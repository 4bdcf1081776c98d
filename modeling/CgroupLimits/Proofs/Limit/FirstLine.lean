import CgroupLimits.Limit.ControlFile
import CgroupLimits.Proofs.Files.Writing
import CgroupLimits.Proofs.Text.NumeralValue

/-!
# What a control file says

Only the first line of a control file counts, and of that line not the blanks
around it. So a file says the same with or without a final line feed, with
spaces before a number, or with more lines behind it.
-/

set_option autoImplicit false

namespace CgroupLimits.ControlFile
open CgroupLimits

/-- The first line is this text, blanks around it aside. -/
def Says (files : Files) (directory parameter line : Text) : Prop :=
  ∃ before after rest : Text, (∀ c ∈ before ++ after, Text.isBlank c ∧ c ≠ '\n') ∧
    (rest = [] ∨ ['\n'] <+: rest) ∧ files (Path.join directory parameter) =
      .ok { content := Utf8.encode (before ++ line ++ after ++ rest) }

theorem take_while_line {line rest : Text} (hl : '\n' ∉ line) (hr : rest = [] ∨ ['\n'] <+: rest) :
    (line ++ rest).takeWhile (· != '\n') = line := by
  have hp : ∀ c ∈ line, (c != '\n') = true := by
    intro c hc
    rw [bne_iff_ne]
    rintro rfl
    exact hl hc
  rw [List.takeWhile_append_of_pos hp]
  rcases hr with rfl | ⟨tail, rfl⟩ <;> simp

theorem text_encode (content : Text) :
    ({ content := Utf8.encode content } : Source).text = .ok content := by
  simp [Source.text, Utf8.decode?_encode]

theorem exists_line (content : Text) :
    ∃ rest, content = content.takeWhile (· != '\n') ++ rest ∧ (rest = [] ∨ ['\n'] <+: rest) := by
  refine ⟨content.dropWhile (· != '\n'), List.takeWhile_append_dropWhile.symm, ?_⟩
  cases hd : content.dropWhile (· != '\n') with
  | nil => exact Or.inl rfl
  | cons c rest =>
    have hc := List.head?_dropWhile_not (· != '\n') content
    rw [hd] at hc
    obtain rfl : c = '\n' := by simpa using hc
    exact Or.inr ⟨rest, rfl⟩

section FirstLine
variable {before line after rest : Text}

theorem first_line_of_surrounded (hb : ∀ c ∈ before ++ after, Text.isBlank c ∧ c ≠ '\n')
    (hr : rest = [] ∨ ['\n'] <+: rest) (ht : Text.IsTrimmed line) (hn : '\n' ∉ line) :
    firstLineOf (before ++ line ++ after ++ rest) = line := by
  have hl : '\n' ∉ before ++ line ++ after := by
    simp only [List.mem_append, not_or]
    exact ⟨⟨fun hm => (hb _ (List.mem_append_left _ hm)).2 rfl, hn⟩,
      fun hm => (hb _ (List.mem_append_right _ hm)).2 rfl⟩
  rw [firstLineOf, take_while_line hl hr]
  apply Text.trim_surrounded
  · intro c hc
    exact (hb c (List.mem_append_left _ hc)).1
  · exact ht
  · intro c hc
    exact (hb c (List.mem_append_right _ hc)).1

theorem exists_first_line_of (content : Text) :
    ∃ before after rest, (∀ c ∈ before ++ after, Text.isBlank c ∧ c ≠ '\n') ∧
      (rest = [] ∨ ['\n'] <+: rest) ∧
      content = before ++ firstLineOf content ++ after ++ rest := by
  obtain ⟨rest, hc, hr⟩ := exists_line content
  obtain ⟨before, after, hs, hb⟩ := Text.exists_surrounded (content.takeWhile (· != '\n'))
  refine ⟨before, after, rest, ?_, hr, ?_⟩
  · intro c hm
    have hl : c ∈ content.takeWhile (· != '\n') := by
      rw [hs]
      rcases List.mem_append.mp hm with hm | hm
      · exact List.mem_append_left _ (List.mem_append_left _ hm)
      · exact List.mem_append_right _ hm
    exact ⟨hb c hm, by simpa using List.mem_takeWhile_imp hl⟩
  · rw [firstLineOf, ← hs, ← hc]

end FirstLine

section Says
variable {files : Files} {directory parameter line : Text}

theorem says_iff (ht : Text.IsTrimmed line) (hn : '\n' ∉ line) :
    Says files directory parameter line ↔
      ∃ content, files (Path.join directory parameter) = .ok { content := Utf8.encode content } ∧
        firstLineOf content = line := by
  constructor
  · intro h
    obtain ⟨before, after, rest, hb, hr, hf⟩ := h
    exact ⟨_, hf, first_line_of_surrounded hb hr ht hn⟩
  · intro h
    obtain ⟨content, hf, rfl⟩ := h
    obtain ⟨before, after, rest, hb, hr, hc⟩ := exists_first_line_of content
    exact ⟨before, after, rest, hb, hr, hc ▸ hf⟩

theorem read_first_line_of_holds {content : Text}
    (h : files (Path.join directory parameter) = .ok { content := Utf8.encode content }) :
    readFirstLine files directory parameter =
      if firstLineOf content = [] then
        .error (.invalidValue (Path.join directory parameter) content)
      else .ok (firstLineOf content) := by
  simp only [readFirstLine, h, text_encode, Except.mapError, bind, Except.bind]
  rfl

/-- A control file that has been written is read for what was written. -/
theorem read_first_line_of_written {tree new : Tree} {content : Text}
    (h : (Tree.Change.write (Path.join directory parameter) (Utf8.encode content)).run.run tree =
      (.ok (), new)) :
    readFirstLine new.files directory parameter =
      if firstLineOf content = [] then
        .error (.invalidValue (Path.join directory parameter) content)
      else .ok (firstLineOf content) := by
  obtain ⟨-, hf, -⟩ | ⟨fault, hr, -⟩ := Tree.Change.files_write h
  · exact read_first_line_of_holds hf
  · cases hr

theorem read_first_line_of_says (h : Says files directory parameter line)
    (ht : Text.IsTrimmed line) (hn : '\n' ∉ line) :
    readFirstLine files directory parameter = .ok line := by
  obtain ⟨content, hf, hs⟩ := (says_iff ht hn).mp h
  rw [read_first_line_of_holds hf, hs, if_neg ht.ne_nil]

theorem read_int_of_says {n : Int64} (h : Says files directory parameter line)
    (hd : Numeral.Denotes line n.toInt) : readInt files directory parameter = .ok n := by
  have hn : '\n' ∉ line := hd.not_mem_of_is_blank (by decide)
  rw [readInt, read_first_line_of_says h hd.is_trimmed hn]
  simp only [bind, Except.bind, (Numeral.int64_eq_ok_iff line n).mpr hd]
  rfl

theorem read_int_of_says_outside {n : Int} (h : Says files directory parameter line)
    (hd : Numeral.Denotes line n) (ho : ∀ m : Int64, m.toInt ≠ n) :
    readInt files directory parameter =
      .error (.invalidValue (Path.join directory parameter) line) := by
  have hn : '\n' ∉ line := hd.not_mem_of_is_blank (by decide)
  obtain ⟨fault, hf⟩ := Numeral.exists_int64_eq_error hd ho
  rw [readInt, read_first_line_of_says h hd.is_trimmed hn]
  simp only [bind, Except.bind, hf]
  rfl

end Says
end CgroupLimits.ControlFile

import CgroupLimits.Proofs.Limit.FileStates
import CgroupLimits.Proofs.Limit.MemoryCeiling
import CgroupLimits.Proofs.Limit.QuotaFiles

/-!
# The same memory limit in both versions

The first version reads its limit as a signed number and has a ceiling for no
limit, the second one reads an unsigned number and has a word. On the numbers
below the ceiling they agree, and they refuse the same texts, but for the word
and for zero with a minus sign. Each is also held against every other text.
-/

set_option autoImplicit false

namespace CgroupLimits

namespace MemoryLimit

/-- What a first line comes to in the two versions. A number has its place
below or above zero, the ceiling and the ends of the two integer types. -/
inductive LineOutcomes (ceiling : ℕ) (path path' line : Text) :
    Except GroupError (Option UInt64) → Except GroupError (Option UInt64) → Prop
  | limit {n : UInt64} (denotes : Numeral.DenotesUnsigned line n.toNat)
      (below : n.toNat < ceiling) :
      LineOutcomes ceiling path path' line (.ok (some n)) (.ok (some n))
  | unlimitedNumber {n : UInt64} (denotes : Numeral.DenotesUnsigned line n.toNat)
      (reached : ceiling ≤ n.toNat) (signed : n.toNat < 2^63) :
      LineOutcomes ceiling path path' line (.ok none) (.ok (some n))
  | unsignedNumber {n : UInt64} (denotes : Numeral.DenotesUnsigned line n.toNat)
      (unsigned : 2^63 ≤ n.toNat) :
      LineOutcomes ceiling path path' line (.error (.invalidValue path line)) (.ok (some n))
  | negativeZero (denotes : Numeral.Denotes line 0) (minus : line.head? = some '-') :
      LineOutcomes ceiling path path' line (.ok (some 0)) (.error (.invalidValue path' line))
  | negative {n : ℤ} (denotes : Numeral.Denotes line n) (negative : n < 0) (signed : -2^63 ≤ n) :
      LineOutcomes ceiling path path' line (.error (.invalidValue path (Numeral.ofInt n)))
        (.error (.invalidValue path' line))
  | outOfRange {n : ℤ} (denotes : Numeral.Denotes line n) (outside : n < -2^63 ∨ 2^64 ≤ n) :
      LineOutcomes ceiling path path' line (.error (.invalidValue path line))
        (.error (.invalidValue path' line))
  | unlimitedWord (isWord : line = "max".toList) :
      LineOutcomes ceiling path path' line (.error (.invalidValue path line)) (.ok none)
  | noNumber (noNumber : ∀ n, ¬ Numeral.Denotes line n) (noWord : line ≠ "max".toList) :
      LineOutcomes ceiling path path' line (.error (.invalidValue path line))
        (.error (.invalidValue path' line))

inductive Outcomes (ceiling : ℕ) (path path' content : Text) :
    Except GroupError (Option UInt64) → Except GroupError (Option UInt64) → Prop
  | blank (first : ControlFile.IsFirstLine content []) :
      Outcomes ceiling path path' content (.error (.invalidValue path content))
        (.error (.invalidValue path' content))
  | line {line : Text} {result result' : Except GroupError (Option UInt64)}
      (first : ControlFile.IsFirstLine content line) (ne_nil : line ≠ [])
      (outcomes : LineOutcomes ceiling path path' line result result') :
      Outcomes ceiling path path' content result result'

theorem exists_line_outcomes (ceiling : ℕ) (path path' line : Text) :
    ∃ result result', LineOutcomes ceiling path path' line result result' := by
  by_cases hw : line = "max".toList
  · exact ⟨_, _, .unlimitedWord hw⟩
  by_cases hd : ∃ n, Numeral.Denotes line n
  · obtain ⟨n, hd⟩ := hd
    by_cases hn : n < 0
    · by_cases hs : n < -2^63
      · exact ⟨_, _, .outOfRange hd (Or.inl hs)⟩
      · exact ⟨_, _, .negative hd hn (Int.not_lt.mp hs)⟩
    by_cases hm : line.head? = some '-'
    · obtain rfl : n = 0 := by
        have hz := hd.nonpos_of_minus hm
        omega
      exact ⟨_, _, .negativeZero hd hm⟩
    obtain ⟨m, rfl⟩ := Int.eq_ofNat_of_zero_le (Int.not_lt.mp hn)
    by_cases hl : 2^64 ≤ m
    · exact ⟨_, _, .outOfRange hd (Or.inr (by exact_mod_cast hl))⟩
    have hr : (UInt64.ofNat m).toNat = m := UInt64.toNat_ofNat_of_lt' (Nat.not_le.mp hl)
    have hu : Numeral.DenotesUnsigned line (UInt64.ofNat m).toNat := hr.symm ▸ ⟨hd, hm⟩
    by_cases hc : (UInt64.ofNat m).toNat < ceiling
    · exact ⟨_, _, .limit hu hc⟩
    by_cases hs : (UInt64.ofNat m).toNat < 2^63
    · exact ⟨_, _, .unlimitedNumber hu (Nat.not_lt.mp hc) hs⟩
    · exact ⟨_, _, .unsignedNumber hu (Nat.not_lt.mp hs)⟩
  · exact ⟨_, _, .noNumber (not_exists.mp hd) hw⟩

theorem exists_outcomes (ceiling : ℕ) (path path' content : Text) :
    ∃ result result', Outcomes ceiling path path' content result result' := by
  have first := ControlFile.is_first_line_first_line_of content
  by_cases hn : ControlFile.firstLineOf content = []
  · exact ⟨_, _, .blank (hn ▸ first)⟩
  · obtain ⟨result, result', outcomes⟩ :=
      exists_line_outcomes ceiling path path' (ControlFile.firstLineOf content)
    exact ⟨_, _, .line first hn outcomes⟩

theorem Outcomes.is_first_line_of_none {ceiling : ℕ} {path path' content : Text}
    {result : Except GroupError (Option UInt64)}
    (h : Outcomes ceiling path path' content result (.ok none)) :
    ControlFile.IsFirstLine content "max".toList := by
  cases h with
  | line first ne_nil outcomes =>
    cases outcomes with
    | unlimitedWord isWord => exact isWord ▸ first

end MemoryLimit

namespace ControlFile
variable {files : Files} {answer : PageSizeAnswer} {directory content line : Text}

theorem IsFirstLine.says {parameter : Text} (first : IsFirstLine content line)
    (holds : files (Path.join directory parameter) = .ok { content := Utf8.encode content }) :
    Says files directory parameter line := by
  obtain ⟨before, after, rest, hb, hr, rfl⟩ := first.placed
  exact ⟨before, after, rest, hb, hr, holds⟩

theorem memory_limit_v1_of_no_number (hr : readFirstLine files directory memoryLimitFile = .ok line)
    (hd : ∀ n, ¬ Numeral.Denotes line n) :
    memoryLimitV1 files answer directory =
      .error (.invalidValue (Path.join directory memoryLimitFile) line) := by
  have hi : readInt files directory memoryLimitFile =
      .error (.invalidValue (Path.join directory memoryLimitFile) line) :=
    (read_int_eq_iff _).mpr (.noInteger ((read_first_line_eq_iff _).mp hr) fun n => hd n.toInt)
  simp only [memoryLimitV1, hi, bind, Except.bind]

section SecondVersion
variable (hr : readFirstLine files directory memoryMaxFile = .ok line)
include hr

theorem memory_limit_v2_of_word (hw : line = unlimitedWord) :
    memoryLimitV2 files directory = .ok none := by
  simp only [memoryLimitV2, hr, bind, Except.bind, if_pos hw]
  rfl

theorem memory_limit_v2_of_number {n : UInt64} (hd : Numeral.DenotesUnsigned line n.toNat) :
    memoryLimitV2 files directory = .ok (some n) := by
  simp only [memoryLimitV2, hr, bind, Except.bind, if_neg (ne_unlimited_word hd.1),
    (Numeral.uint64_eq_ok_iff line n).mpr hd]
  rfl

theorem memory_limit_v2_of_refused (hw : line ≠ unlimitedWord)
    (hd : ∀ n : UInt64, ¬ Numeral.DenotesUnsigned line n.toNat) :
    memoryLimitV2 files directory =
      .error (.invalidValue (Path.join directory memoryMaxFile) line) := by
  cases hn : Numeral.uint64 line with
  | ok n => exact absurd ((Numeral.uint64_eq_ok_iff line n).mp hn) (hd n)
  | error fault =>
    simp only [memoryLimitV2, hr, bind, Except.bind, if_neg hw, hn]
    rfl

theorem memory_limit_v2_of_outside {n : ℤ} (hd : Numeral.Denotes line n)
    (ho : ∀ m : UInt64, (m.toNat : ℤ) ≠ n) :
    memoryLimitV2 files directory =
      .error (.invalidValue (Path.join directory memoryMaxFile) line) :=
  memory_limit_v2_of_refused hr (ne_unlimited_word hd) fun m hm => ho m (hm.1.unique hd)

end SecondVersion

section Line
variable {old new : Files} {first second : Text} {page : ℕ}
  {result result' : Except GroupError (Option UInt64)}

theorem memory_limit_of_line_outcomes (hp : pageSize answer = .ok page)
    (ho : old (Path.join first memoryLimitFile) = .ok { content := Utf8.encode content })
    (hn : new (Path.join second memoryMaxFile) = .ok { content := Utf8.encode content })
    (isFirst : IsFirstLine content line) (ne_nil : line ≠ [])
    (h : MemoryLimit.LineOutcomes (unlimitedBytes page) (Path.join first memoryLimitFile)
      (Path.join second memoryMaxFile) line result result') :
    memoryLimitV1 old answer first = result ∧ memoryLimitV2 new second = result' := by
  have hs := isFirst.says ho
  have hr := LineReading.read_first_line_eq (.line ho isFirst ne_nil)
  have hr' := LineReading.read_first_line_eq (.line hn isFirst ne_nil)
  have hu := unlimited_bytes_pos hp
  have hm : unlimitedBytes page ≤ 2^63-1 := Nat.sub_le _ _
  cases h with
  | @limit n denotes below =>
    refine ⟨?_, memory_limit_v2_of_number hr' denotes⟩
    rw [memory_limit_v1_of_number hs denotes.1 hp, if_neg (by omega), if_neg (by omega),
      Int.toNat_natCast, if_pos below, UInt64.ofNat_toNat]
  | unlimitedNumber denotes reached signed =>
    refine ⟨?_, memory_limit_v2_of_number hr' denotes⟩
    rw [memory_limit_v1_of_number hs denotes.1 hp, if_neg (by omega), if_neg (by omega),
      Int.toNat_natCast, if_neg (Nat.not_lt.mpr reached)]
  | unsignedNumber denotes unsigned =>
    refine ⟨?_, memory_limit_v2_of_number hr' denotes⟩
    rw [memory_limit_v1_of_number hs denotes.1 hp, if_pos (by omega)]
  | negativeZero denotes minus =>
    constructor
    · rw [memory_limit_v1_of_number hs denotes hp, if_neg (by omega), if_neg (by omega),
        Int.toNat_zero, if_pos hu]
      rfl
    · exact memory_limit_v2_of_refused hr' (ne_unlimited_word denotes) fun n hn => hn.2 minus
  | negative denotes negative signed =>
    constructor
    · rw [memory_limit_v1_of_number hs denotes hp, if_neg (by omega), if_pos negative]
    · apply memory_limit_v2_of_outside hr' denotes
      omega
  | outOfRange denotes outside =>
    constructor
    · rw [memory_limit_v1_of_number hs denotes hp, if_pos (by omega)]
    · apply memory_limit_v2_of_outside hr' denotes
      intro m
      have hm := m.toNat_lt
      omega
  | unlimitedWord isWord =>
    refine ⟨memory_limit_v1_of_no_number hr ?_, memory_limit_v2_of_word hr' isWord⟩
    intro n denotes
    exact ne_unlimited_word denotes isWord
  | noNumber noNumber noWord =>
    exact ⟨memory_limit_v1_of_no_number hr noNumber,
      memory_limit_v2_of_refused hr' noWord fun n denotes => noNumber n.toNat denotes.1⟩

theorem memory_limit_of_outcomes (hp : pageSize answer = .ok page)
    (ho : old (Path.join first memoryLimitFile) = .ok { content := Utf8.encode content })
    (hn : new (Path.join second memoryMaxFile) = .ok { content := Utf8.encode content })
    (h : MemoryLimit.Outcomes (unlimitedBytes page) (Path.join first memoryLimitFile)
      (Path.join second memoryMaxFile) content result result') :
    memoryLimitV1 old answer first = result ∧ memoryLimitV2 new second = result' := by
  cases h with
  | blank isFirst =>
    have hr := LineReading.read_first_line_eq (.blank ho isFirst)
    have hr' := LineReading.read_first_line_eq (.blank hn isFirst)
    constructor
    · simp only [memoryLimitV1, readInt, hr, bind, Except.bind]
    · simp only [memoryLimitV2, hr', bind, Except.bind]
  | line isFirst ne_nil outcomes =>
    exact memory_limit_of_line_outcomes hp ho hn isFirst ne_nil outcomes

end Line
end ControlFile

namespace Groups

/-- One content in the files of both versions has one pair of outcomes, and only
the word comes to no limit in the second version. -/
theorem memory_limit_versions_agree {old new : Files} {answer : PageSizeAnswer}
    {directories : Directories} {first second content : Text} {page ceiling : ℕ}
    (found : directories.find? "memory".toList = some first)
    (ho : old (Path.join first "memory.limit_in_bytes".toList) =
      .ok { content := Utf8.encode content })
    (hn : new (Path.join second "memory.max".toList) = .ok { content := Utf8.encode content })
    (hp : pageSize answer = .ok page)
    (hc : IsGreatest {m | page ∣ m ∧ m ≤ 2^63-1} ceiling) (answer' : PageSizeAnswer) :
    (∀ result result', (Groups.v1 directories).memoryLimit old answer = result ∧
        (Groups.v2 second).memoryLimit new answer' = result' ↔
      MemoryLimit.Outcomes ceiling (Path.join first "memory.limit_in_bytes".toList)
        (Path.join second "memory.max".toList) content result result') ∧
    ((Groups.v2 second).memoryLimit new answer' = .ok none ↔
      ControlFile.IsFirstLine content "max".toList) := by
  obtain rfl : ceiling = unlimitedBytes page := hc.unique (is_greatest_unlimited_bytes page)
  have hn' : (Groups.v2 second).memoryLimit new answer' = ControlFile.memoryLimitV2 new second :=
    rfl
  rw [memory_limit_of_found found, hn']
  have sound := fun result result' =>
    @ControlFile.memory_limit_of_outcomes answer content old new first second page result result'
      hp ho hn
  obtain ⟨limit, limit', outcomes⟩ := MemoryLimit.exists_outcomes (unlimitedBytes page)
    (Path.join first memoryLimitFile) (Path.join second memoryMaxFile) content
  have limits := sound limit limit' outcomes
  constructor
  · intro result result'
    constructor
    · intro h
      rw [← h.1, ← h.2, limits.1, limits.2]
      exact outcomes
    · exact sound result result'
  · constructor
    · intro hm
      rw [← limits.2, hm] at outcomes
      exact outcomes.is_first_line_of_none
    · intro isFirst
      exact (sound _ _ (.line isFirst (by decide) (.unlimitedWord rfl))).2

def memoryFiles (content : Text) : Files := fun path =>
  if path = "/memory/memory.limit_in_bytes".toList ∨ path = "/unified/memory.max".toList then
    .ok { content := Utf8.encode content }
  else .error .noSuchFile

def readBoth (content : Text) :
    Except GroupError (Option UInt64) × Except GroupError (Option UInt64) :=
  ((Groups.v1 memoryDirectories).memoryLimit (memoryFiles content) (.ok (some 4096)),
    (Groups.v2 "/unified".toList).memoryLimit (memoryFiles content) (.ok (some 4096)))

theorem memory_limit_versions_agree_spelled :
    memoryDirectories.find? "memory".toList = some "/memory".toList ∧
      pageSize (.ok (some 4096)) = .ok 4096 ∧
      IsGreatest {m : ℕ | 4096 ∣ m ∧ m ≤ 2^63-1} 9223372036854771712 ∧
      readBoth "\t+009223372036854771711\r\nmax".toList =
        (.ok (some 9223372036854771711), .ok (some 9223372036854771711)) ∧
      readBoth "9223372036854771712\n".toList = (.ok none, .ok (some 9223372036854771712)) ∧
      readBoth "-0".toList =
        (.ok (some 0), .error (.invalidValue "/unified/memory.max".toList "-0".toList)) ∧
      readBoth " -007\n".toList =
        (.error (.invalidValue "/memory/memory.limit_in_bytes".toList "-7".toList),
          .error (.invalidValue "/unified/memory.max".toList "-007".toList)) ∧
      readBoth "max".toList =
        (.error (.invalidValue "/memory/memory.limit_in_bytes".toList "max".toList), .ok none) ∧
      readBoth "\r\n4096\n".toList =
        (.error (.invalidValue "/memory/memory.limit_in_bytes".toList "\r\n4096\n".toList),
          .error (.invalidValue "/unified/memory.max".toList "\r\n4096\n".toList)) := by
  have found : memoryDirectories.find? "memory".toList = some "/memory".toList := rfl
  have holds : ∀ content,
      memoryFiles content (Path.join "/memory".toList "memory.limit_in_bytes".toList) =
        .ok { content := Utf8.encode content } := fun _ => rfl
  have holds' : ∀ content,
      memoryFiles content (Path.join "/unified".toList "memory.max".toList) =
        .ok { content := Utf8.encode content } := fun _ => rfl
  have known : pageSize (.ok (some 4096)) = .ok 4096 := rfl
  have outcomes : ∀ {content result result'},
      MemoryLimit.Outcomes 9223372036854771712 "/memory/memory.limit_in_bytes".toList
        "/unified/memory.max".toList content result result' →
      readBoth content = (result, result') := by
    intro content result result' h
    have agree := memory_limit_versions_agree found (holds content) (holds' content) known
      is_greatest_whole_pages (.ok (some 4096))
    exact Prod.ext_iff.mpr ((agree.1 result result').mpr h)
  have firstLine : ∀ {content line : Text}, ControlFile.firstLineOf content = line →
      ControlFile.IsFirstLine content line := (ControlFile.is_first_line_iff _ _).mpr
  have below : Numeral.DenotesUnsigned "+009223372036854771711".toList
      (9223372036854771711 : UInt64).toNat := (Numeral.uint64_eq_ok_iff _ _).mp (by decide +kernel)
  have reached : Numeral.DenotesUnsigned "9223372036854771712".toList
      (9223372036854771712 : UInt64).toNat := (Numeral.uint64_eq_ok_iff _ _).mp (by decide +kernel)
  have zero : Numeral.Denotes "-0".toList (0 : Int64).toInt :=
    (Numeral.int64_eq_ok_iff _ _).mp (by decide +kernel)
  have seven : Numeral.Denotes "-007".toList (-7 : Int64).toInt :=
    (Numeral.int64_eq_ok_iff _ _).mp (by decide +kernel)
  refine ⟨found, known, is_greatest_whole_pages, ?_, ?_, ?_, ?_, ?_, ?_⟩
  · exact outcomes (.line (firstLine (by decide +kernel)) below.1.ne_nil (.limit below (by decide)))
  · exact outcomes (.line (firstLine (by decide +kernel)) reached.1.ne_nil
      (.unlimitedNumber reached (by decide) (by decide)))
  · exact outcomes (.line (firstLine (by decide +kernel)) zero.ne_nil (.negativeZero zero rfl))
  · exact outcomes (.line (firstLine (by decide +kernel)) seven.ne_nil
      (.negative seven (by decide) (by decide)))
  · exact outcomes (.line (firstLine (by decide +kernel)) (by decide) (.unlimitedWord rfl))
  · exact outcomes (.blank (firstLine (by decide +kernel)))

end Groups
end CgroupLimits

import CgroupLimits.Limit.Quota
import CgroupLimits.Proofs.Limit.FirstLine

/-!
# The files of a CPU quota

What each version makes of the numbers that its files say, in whatever
spelling. The two differ in where they look for the numbers and in what stands
for no limit, not in what they make of them.
-/

set_option autoImplicit false

namespace CgroupLimits

namespace Text
variable {s t gap : Text}

def IsField (s : Text) : Prop := s ≠ [] ∧ ∀ c ∈ s, ¬ isBlank c

def IsGap (gap : Text) : Prop := gap ≠ [] ∧ ∀ c ∈ gap, isBlank c ∧ c ≠ '\n'

instance : DecidablePred IsField := fun s =>
  decidable_of_iff (s ≠ [] ∧ s.all fun c => !isBlank c) <| by simp [IsField]

instance : DecidablePred IsGap := fun gap =>
  decidable_of_iff (gap ≠ [] ∧ gap.all fun c => isBlank c && c != '\n') <| by simp [IsGap]

theorem IsField.is_trimmed (h : IsField s) : IsTrimmed s := is_trimmed_of_not_blank h.1 h.2

theorem IsField.line_feed_not_mem (h : IsField s) : '\n' ∉ s := fun hm => h.2 _ hm (by decide)

theorem IsField.words (h : IsField s) : s.words = [s] := words_of_not_blank h.1 h.2

theorem IsField.pair_line_feed_not_mem (hs : IsField s) (hg : IsGap gap) (ht : IsField t) :
    '\n' ∉ s ++ (gap ++ t) := by
  simp only [List.mem_append, not_or]
  exact ⟨hs.line_feed_not_mem, fun hm => (hg.2 _ hm).2 rfl, ht.line_feed_not_mem⟩

theorem IsField.pair_words (hs : IsField s) (hg : IsGap gap) (ht : IsField t) :
    (s ++ (gap ++ t)).words = [s, t] := by
  have hb : ∀ c ∈ gap, isBlank c := fun c hc => (hg.2 c hc).1
  rw [words_gap hg.1 hb, hs.words, ht.words]
  rfl

end Text

theorem Numeral.Denotes.is_field {s : Text} {n : ℤ} (h : Denotes s n) : Text.IsField s :=
  ⟨h.ne_nil, h.not_is_blank⟩

namespace ControlFile
variable {first second gap : Text} {quota period : Int64}

theorem is_field_unlimited_word : Text.IsField unlimitedWord := by
  decide +kernel

theorem ne_unlimited_word {n : ℤ} (h : Numeral.Denotes first n) : first ≠ unlimitedWord := by
  rintro rfl
  have hm : 'm' ∈ unlimitedWord := List.mem_cons_self
  exact absurd (h.mem hm) (by decide)

theorem le_zero_iff (n : Int64) : n ≤ 0 ↔ n.toInt ≤ 0 := by
  rw [Int64.le_iff_toInt_le, Int64.toInt_zero]

theorem positive?_of_denotes (h : Numeral.Denotes first quota.toInt) :
    positive? first = if quota.toInt ≤ 0 then none else some quota := by
  rw [positive?, (Numeral.int64_eq_ok_iff first quota).mpr h]
  simp only [le_zero_iff]

section Words
variable {line : Text}

theorem cpu_max_of?_unlimited (h : line.words = [unlimitedWord]) : cpuMaxOf? line = some none := by
  simp only [cpuMaxOf?, h, if_true]

theorem cpu_max_of?_unlimited_field (h : line.words = [unlimitedWord, second]) :
    cpuMaxOf? line = some none := by
  simp only [cpuMaxOf?, h, if_true]

theorem cpu_max_of?_single (h : line.words = [first]) (hq : Numeral.Denotes first quota.toInt)
    (h0 : 0 < quota.toInt) : cpuMaxOf? line = some (some (cpusOf quota defaultPeriod)) := by
  simp only [cpuMaxOf?, h, if_neg (ne_unlimited_word hq), positive?_of_denotes hq,
    if_neg (Int.not_le.mpr h0), Option.map_some]

theorem cpu_max_of?_pair (h : line.words = [first, second]) (hq : Numeral.Denotes first quota.toInt)
    (hp : Numeral.Denotes second period.toInt) (h0 : 0 < quota.toInt) :
    cpuMaxOf? line = if period.toInt ≤ 0 then none else some (some (cpusOf quota period)) := by
  simp only [cpuMaxOf?, h, if_neg (ne_unlimited_word hq), positive?_of_denotes hq,
    positive?_of_denotes hp, if_neg (Int.not_le.mpr h0)]
  by_cases hp0 : period.toInt ≤ 0
  · simp only [if_pos hp0]
  · simp only [if_neg hp0]

end Words

section Files
variable {files : Files} {directory : Text}

section Read

/-- Without a limit the period is not looked at. -/
theorem cpu_quota_v1_nonpositive (hr : readInt files directory quotaFile = .ok quota)
    (h0 : quota.toInt ≤ 0) : cpuQuotaV1 files directory = .ok none := by
  simp only [cpuQuotaV1, hr, bind, Except.bind, if_pos ((le_zero_iff quota).mpr h0)]
  rfl

theorem cpu_quota_v1_positive (hr : readInt files directory quotaFile = .ok quota)
    (h0 : 0 < quota.toInt) (hp : readInt files directory periodFile = .ok period) :
    cpuQuotaV1 files directory =
      if period.toInt ≤ 0 then
        .error (.invalidValue (Path.join directory periodFile) (Numeral.ofInt period.toInt))
      else .ok (some (cpusOf quota period)) := by
  simp only [cpuQuotaV1, hr, hp, bind, Except.bind, le_zero_iff, if_neg (Int.not_le.mpr h0)]
  rfl

theorem cpu_quota_v2_of_line {line : Text}
    (hr : readFirstLine files directory cpuMaxFile = .ok line) :
    cpuQuotaV2 files directory =
      match cpuMaxOf? line with
      | some quota => .ok quota
      | none => .error (.invalidValue (Path.join directory cpuMaxFile) line) := by
  simp only [cpuQuotaV2, hr, bind, Except.bind]
  cases cpuMaxOf? line <;> rfl

end Read

theorem cpu_quota_v1_unlimited (hs : Says files directory quotaFile first)
    (hq : Numeral.Denotes first quota.toInt) (h0 : quota.toInt ≤ 0) :
    cpuQuotaV1 files directory = .ok none := by
  have hr := read_int_of_says hs hq
  exact cpu_quota_v1_nonpositive hr h0

theorem cpu_quota_v1_limited (hs : Says files directory quotaFile first)
    (hq : Numeral.Denotes first quota.toInt) (ht : Says files directory periodFile second)
    (hp : Numeral.Denotes second period.toInt) (h0 : 0 < quota.toInt) :
    cpuQuotaV1 files directory =
      if period.toInt ≤ 0 then
        .error (.invalidValue (Path.join directory periodFile) (Numeral.ofInt period.toInt))
      else .ok (some (cpusOf quota period)) := by
  have hr := read_int_of_says hs hq
  have hr' := read_int_of_says ht hp
  exact cpu_quota_v1_positive hr h0 hr'

theorem cpu_quota_v2_eq {line : Text} (hs : Says files directory cpuMaxFile line)
    (ht : Text.IsTrimmed line) (hn : '\n' ∉ line) :
    cpuQuotaV2 files directory =
      match cpuMaxOf? line with
      | some quota => .ok quota
      | none => .error (.invalidValue (Path.join directory cpuMaxFile) line) := by
  have hr := read_first_line_of_says hs ht hn
  exact cpu_quota_v2_of_line hr

theorem cpu_quota_v2_unlimited (hs : Says files directory cpuMaxFile unlimitedWord) :
    cpuQuotaV2 files directory = .ok none := by
  have hm := is_field_unlimited_word
  rw [cpu_quota_v2_eq hs hm.is_trimmed hm.line_feed_not_mem, cpu_max_of?_unlimited hm.words]

theorem cpu_quota_v2_unlimited_field
    (hs : Says files directory cpuMaxFile (unlimitedWord ++ (gap ++ second)))
    (hg : Text.IsGap gap) (hf : Text.IsField second) :
    cpuQuotaV2 files directory = .ok none := by
  have hm := is_field_unlimited_word
  rw [cpu_quota_v2_eq hs (hm.is_trimmed.append hf.is_trimmed gap) (hm.pair_line_feed_not_mem hg hf),
    cpu_max_of?_unlimited_field (hm.pair_words hg hf)]

theorem cpu_quota_v2_single (hs : Says files directory cpuMaxFile first)
    (hq : Numeral.Denotes first quota.toInt) (h0 : 0 < quota.toInt) :
    cpuQuotaV2 files directory = .ok (some (cpusOf quota defaultPeriod)) := by
  have hf := hq.is_field
  rw [cpu_quota_v2_eq hs hf.is_trimmed hf.line_feed_not_mem, cpu_max_of?_single hf.words hq h0]

theorem cpu_quota_v2_limited (hs : Says files directory cpuMaxFile (first ++ (gap ++ second)))
    (hq : Numeral.Denotes first quota.toInt) (hg : Text.IsGap gap)
    (hp : Numeral.Denotes second period.toInt) (h0 : 0 < quota.toInt) :
    cpuQuotaV2 files directory =
      if period.toInt ≤ 0 then
        .error (.invalidValue (Path.join directory cpuMaxFile) (first ++ (gap ++ second)))
      else .ok (some (cpusOf quota period)) := by
  have hf := hq.is_field
  have hs' := hp.is_field
  rw [cpu_quota_v2_eq hs (hf.is_trimmed.append hs'.is_trimmed gap)
      (hf.pair_line_feed_not_mem hg hs'),
    cpu_max_of?_pair (hf.pair_words hg hs') hq hp h0]
  by_cases hp0 : period.toInt ≤ 0
  · simp only [if_pos hp0]
  · simp only [if_neg hp0]

end Files
end ControlFile
end CgroupLimits

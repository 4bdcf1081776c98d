import CgroupLimits.Proofs.Limit.FileStates
import CgroupLimits.Proofs.Limit.VersionAgreement

/-!
# What the words of a quota come to

The second version states a quota and its period as fields of one line. The
line has one reading as fields, and they decide: `max` alone or with anything
behind it is no limit, two positive integers are a quota for a period, one is a
quota for the default period, and all else is refused together with the line.
-/

set_option autoImplicit false

namespace CgroupLimits

namespace Text

inductive Fields : Text → List Text → Prop
  | single {s : Text} (isField : IsField s) : Fields s [s]
  | cons {s gap t : Text} {fields : List Text} (isField : IsField s) (isGap : IsGap gap)
      (rest : Fields t fields) : Fields (s ++ (gap ++ t)) (s :: fields)

theorem Fields.words {line : Text} {fields : List Text} (h : Fields line fields) :
    line.words = fields := by
  induction h with
  | single isField => exact isField.words
  | cons isField isGap rest ih =>
    have hb : ∀ c ∈ _, isBlank c := fun c hc => (isGap.2 c hc).1
    rw [words_gap isGap.1 hb, isField.words, ih]
    rfl

theorem Fields.ne_nil {line : Text} {fields : List Text} (h : Fields line fields) : line ≠ [] := by
  cases h with
  | single isField => exact isField.1
  | cons isField isGap rest => exact List.append_ne_nil_of_left_ne_nil isField.1 _

theorem Fields.extend {c : Char} (hc : ¬ isBlank c) {line : Text} {fields : List Text}
    (h : Fields line fields) : ∃ extended, Fields (c :: line) extended := by
  have hf : ∀ s : Text, IsField s → IsField (c :: s) := by
    intro s hs
    refine ⟨List.cons_ne_nil _ _, ?_⟩
    intro d hd
    rcases List.mem_cons.mp hd with rfl | hd
    · exact hc
    · exact hs.2 d hd
  cases h with
  | single isField => exact ⟨_, .single (hf _ isField)⟩
  | cons isField isGap rest => exact ⟨_, .cons (hf _ isField) isGap rest⟩

theorem exists_fields_behind {line : Text} (hn : line ≠ [])
    (hl : ∀ c, line.getLast? = some c → ¬ isBlank c) (hf : '\n' ∉ line) :
    ∃ blanks body fields, line = blanks ++ body ∧ (∀ c ∈ blanks, isBlank c ∧ c ≠ '\n') ∧
      Fields body fields := by
  induction line with
  | nil => exact absurd rfl hn
  | cons c rest ih =>
    have hc : c ≠ '\n' := fun he => hf (he ▸ List.mem_cons_self)
    by_cases hr : rest = []
    · subst rest
      have hs : IsField [c] := ⟨List.cons_ne_nil _ _, by simpa using hl c rfl⟩
      exact ⟨[], [c], [[c]], rfl, by simp, .single hs⟩
    rw [List.getLast?_cons_of_ne_nil hr] at hl
    obtain ⟨blanks, body, fields, rfl, hb, hs⟩ :=
      ih hr hl fun hm => hf (List.mem_cons_of_mem _ hm)
    -- A blank joins the ones in front; a character joins a field or, before blanks, is one.
    by_cases hcb : isBlank c
    · exact ⟨c :: blanks, body, fields, rfl, by simpa [hcb, hc] using hb, hs⟩
    by_cases hg : blanks = []
    · subst blanks
      obtain ⟨extended, he⟩ := hs.extend hcb
      exact ⟨[], c :: body, extended, rfl, by simp, he⟩
    · have hs' : IsField [c] := ⟨List.cons_ne_nil _ _, by simpa using hcb⟩
      exact ⟨[], c :: (blanks ++ body), [c] :: fields, rfl, by simp, .cons hs' ⟨hg, hb⟩ hs⟩

theorem exists_fields {line : Text} (ht : IsTrimmed line) (hf : '\n' ∉ line) :
    ∃ fields, Fields line fields := by
  obtain ⟨blanks, body, fields, rfl, hb, hs⟩ := exists_fields_behind ht.ne_nil ht.last hf
  cases blanks with
  | nil => exact ⟨fields, hs⟩
  | cons c blanks => exact absurd (hb c List.mem_cons_self).1 (ht.first c rfl)

end Text

namespace CpuMax

inductive Unlimited : List Text → Prop
  | word : Unlimited ["max".toList]
  | withField (second : Text) : Unlimited ["max".toList, second]

inductive Limited : List Text → Int64 → Int64 → Prop
  | pair {first second : Text} {quota period : Int64}
      (denotesQuota : Numeral.Denotes first quota.toInt) (positive : 0 < quota.toInt)
      (denotesPeriod : Numeral.Denotes second period.toInt) (positivePeriod : 0 < period.toInt) :
      Limited [first, second] quota period
  | single {first : Text} {quota : Int64} (denotesQuota : Numeral.Denotes first quota.toInt)
      (positive : 0 < quota.toInt) : Limited [first] quota 100000

/-- What a file at a path with some content comes to. -/
inductive Outcome (path content : Text) : Except GroupError (Option Binary64) → Prop
  | blank (first : ControlFile.IsFirstLine content []) :
      Outcome path content (.error (.invalidValue path content))
  | unlimited {line : Text} {fields : List Text}
      (first : ControlFile.IsFirstLine content line) (parted : Text.Fields line fields)
      (unlimited : Unlimited fields) : Outcome path content (.ok none)
  | limited {line : Text} {fields : List Text} {quota period : Int64}
      (first : ControlFile.IsFirstLine content line) (parted : Text.Fields line fields)
      (limited : Limited fields quota period) :
      Outcome path content
        (.ok (some ((Binary64.ofInt quota.toInt).div (Binary64.ofInt period.toInt))))
  | refused {line : Text} {fields : List Text}
      (first : ControlFile.IsFirstLine content line) (parted : Text.Fields line fields)
      (notUnlimited : ¬ Unlimited fields)
      (notLimited : ∀ quota period, ¬ Limited fields quota period) :
      Outcome path content (.error (.invalidValue path line))

end CpuMax

namespace ControlFile
variable {line field first second : Text} {fields : List Text}

theorem positive?_eq_some_iff (field : Text) (n : Int64) :
    positive? field = some n ↔ Numeral.Denotes field n.toInt ∧ 0 < n.toInt := by
  rw [← Numeral.int64_eq_ok_iff, positive?]
  cases Numeral.int64 field with
  | error fault => simp
  | ok m =>
    simp only [le_zero_iff, Except.ok.injEq]
    constructor
    · intro h
      split at h
      · cases h
      · rename_i hm
        obtain rfl := Option.some.inj h
        exact ⟨rfl, Int.not_le.mp hm⟩
    · rintro ⟨rfl, hm⟩
      rw [if_neg (Int.not_le.mpr hm)]

theorem cpu_max_of?_of_unlimited (hw : line.words = fields) (h : CpuMax.Unlimited fields) :
    cpuMaxOf? line = some none := by
  cases h with
  | word => exact cpu_max_of?_unlimited hw
  | withField second => exact cpu_max_of?_unlimited_field hw

theorem cpu_max_of?_of_limited {quota period : Int64} (hw : line.words = fields)
    (h : CpuMax.Limited fields quota period) :
    cpuMaxOf? line = some (some (cpusOf quota period)) := by
  cases h with
  | pair denotesQuota positive denotesPeriod positivePeriod =>
    rw [cpu_max_of?_pair hw denotesQuota denotesPeriod positive,
      if_neg (Int.not_le.mpr positivePeriod)]
  | single denotesQuota positive => exact cpu_max_of?_single hw denotesQuota positive

theorem cpu_max_of?_cases (hw : line.words = fields) {result : Option Binary64}
    (h : cpuMaxOf? line = some result) :
    CpuMax.Unlimited fields ∧ result = none ∨
      ∃ quota period, CpuMax.Limited fields quota period ∧ result = some (cpusOf quota period) := by
  rw [cpuMaxOf?, hw] at h
  rcases fields with _ | ⟨first, _ | ⟨second, _ | ⟨third, rest⟩⟩⟩
  · cases h
  · by_cases hm : first = unlimitedWord
    · subst first
      simp only [if_true, Option.some.injEq] at h
      exact Or.inl ⟨.word, h.symm⟩
    simp only [if_neg hm, Option.map_eq_some_iff] at h
    obtain ⟨quota, hq, rfl⟩ := h
    obtain ⟨hd, h0⟩ := (positive?_eq_some_iff first quota).mp hq
    exact Or.inr ⟨quota, defaultPeriod, .single hd h0, rfl⟩
  · by_cases hm : first = unlimitedWord
    · subst first
      simp only [if_true, Option.some.injEq] at h
      exact Or.inl ⟨.withField second, h.symm⟩
    simp only [if_neg hm] at h
    split at h
    · rename_i quota period hq hp
      obtain ⟨hd, h0⟩ := (positive?_eq_some_iff first quota).mp hq
      obtain ⟨hd', h0'⟩ := (positive?_eq_some_iff second period).mp hp
      exact Or.inr ⟨quota, period, .pair hd h0 hd' h0', (Option.some.inj h).symm⟩
    · cases h
  · cases h

section Holds
variable {files : Files} {directory content : Text}
  {result : Except GroupError (Option Binary64)}

theorem outcome_cpu_quota_v2
    (holds : files (Path.join directory cpuMaxFile) = .ok { content := Utf8.encode content }) :
    CpuMax.Outcome (Path.join directory cpuMaxFile) content (cpuQuotaV2 files directory) := by
  have first := is_first_line_first_line_of content
  by_cases hn : firstLineOf content = []
  · have hr := read_first_line_of_holds holds
    rw [if_pos hn] at hr
    simp only [cpuQuotaV2, hr, bind, Except.bind]
    exact .blank (hn ▸ first)
  have hr := read_first_line_of_holds holds
  rw [if_neg hn] at hr
  obtain ⟨fields, parted⟩ := Text.exists_fields (first.trimmed.resolve_left hn) first.whole
  rw [cpu_quota_v2_of_line hr]
  cases hm : cpuMaxOf? (firstLineOf content) with
  | none =>
    refine .refused first parted ?_ ?_
    · intro h
      simp [cpu_max_of?_of_unlimited parted.words h] at hm
    · intro quota period h
      simp [cpu_max_of?_of_limited parted.words h] at hm
  | some result =>
    rcases cpu_max_of?_cases parted.words hm with ⟨h, rfl⟩ | ⟨quota, period, h, rfl⟩
    · exact .unlimited first parted h
    · exact .limited first parted h

theorem cpu_quota_v2_of_outcome
    (holds : files (Path.join directory cpuMaxFile) = .ok { content := Utf8.encode content })
    (h : CpuMax.Outcome (Path.join directory cpuMaxFile) content result) :
    cpuQuotaV2 files directory = result := by
  have reads : ∀ line fields, IsFirstLine content line → Text.Fields line fields →
      readFirstLine files directory cpuMaxFile = .ok line := by
    intro line fields first parted
    exact LineReading.read_first_line_eq (.line holds first parted.ne_nil)
  cases h with
  | blank first =>
    have hr := LineReading.read_first_line_eq (.blank holds first)
    simp only [cpuQuotaV2, hr, bind, Except.bind]
  | unlimited first parted unlimited =>
    rw [cpu_quota_v2_of_line (reads _ _ first parted),
      cpu_max_of?_of_unlimited parted.words unlimited]
  | limited first parted limited =>
    rw [cpu_quota_v2_of_line (reads _ _ first parted), cpu_max_of?_of_limited parted.words limited]
    rfl
  | @refused line fields first parted notUnlimited notLimited =>
    rw [cpu_quota_v2_of_line (reads _ _ first parted)]
    cases hm : cpuMaxOf? line with
    | none => rfl
    | some result =>
      rcases cpu_max_of?_cases parted.words hm with ⟨h, -⟩ | ⟨quota, period, h, -⟩
      · exact absurd h notUnlimited
      · exact absurd h (notLimited quota period)

end Holds
end ControlFile

namespace Groups

/-- The first line of `cpu.max` decides what it comes to, and it does so by its
fields alone. -/
theorem cpu_quota_of_cpu_max {files : Files} {directory content : Text}
    (holds : files (Path.join directory "cpu.max".toList) =
      .ok { content := Utf8.encode content })
    (result : Except GroupError (Option Binary64)) :
    (Groups.v2 directory).cpuQuota files = result ↔
      CpuMax.Outcome (Path.join directory "cpu.max".toList) content result := by
  constructor
  · rintro rfl
    exact ControlFile.outcome_cpu_quota_v2 holds
  · exact ControlFile.cpu_quota_v2_of_outcome holds

def cpuMaxFiles (content : Text) : Files := statedFiles [] none content

theorem cpu_max_files_holds (content : Text) :
    cpuMaxFiles content (Path.join "/unified".toList "cpu.max".toList) =
      .ok { content := Utf8.encode content } := rfl

theorem cpu_quota_of_cpu_max_fields :
    (Groups.v2 "/unified".toList).cpuQuota (cpuMaxFiles "\t\r\n7 100000\n".toList) =
        .error (.invalidValue "/unified/cpu.max".toList "\t\r\n7 100000\n".toList) ∧
      (Groups.v2 "/unified".toList).cpuQuota
          (cpuMaxFiles (Char.ofNat 12288 :: "max\t-0x\r\n7 100000".toList)) = .ok none ∧
      (Groups.v2 "/unified".toList).cpuQuota
          (cpuMaxFiles "+09223372036854775807  0001 \nmax".toList) =
        .ok (some (cpusOf 9223372036854775807 1)) ∧
      (Groups.v2 "/unified".toList).cpuQuota (cpuMaxFiles "150000".toList) =
        .ok (some ⟨0x3FF8000000000000⟩) ∧
      (Groups.v2 "/unified".toList).cpuQuota (cpuMaxFiles " 50000\t-1\nmax".toList) =
        .error (.invalidValue "/unified/cpu.max".toList "50000\t-1".toList) ∧
      (Groups.v2 "/unified".toList).cpuQuota (cpuMaxFiles "max 1 2\n".toList) =
        .error (.invalidValue "/unified/cpu.max".toList "max 1 2".toList) := by
  have outcome := fun content => cpu_quota_of_cpu_max (cpu_max_files_holds content)
  have firstLine : ∀ {content line : Text}, ControlFile.firstLineOf content = line →
      ControlFile.IsFirstLine content line := (ControlFile.is_first_line_iff _ _).mpr
  have parted : ∀ {s gap t : Text} {fields : List Text}, Text.IsField s → Text.IsGap gap →
      Text.Fields t fields → Text.Fields (s ++ (gap ++ t)) (s :: fields) := .cons
  have tab : Text.IsGap ['\t'] := by decide
  have space : Text.IsGap [' '] := by decide
  have spaces : Text.IsGap [' ', ' '] := by decide
  have word : Text.IsField "max".toList := by decide +kernel
  have first : Numeral.Denotes "+09223372036854775807".toList (9223372036854775807 : Int64).toInt :=
    (Numeral.int64_eq_ok_iff _ _).mp (by decide +kernel)
  have second : Numeral.Denotes "0001".toList (1 : Int64).toInt :=
    (Numeral.int64_eq_ok_iff _ _).mp (by decide +kernel)
  have oneAndHalf : cpusOf 150000 100000 = ⟨0x3FF8000000000000⟩ := by decide +kernel
  have alone : Numeral.Denotes "150000".toList (150000 : Int64).toInt :=
    (Numeral.int64_eq_ok_iff _ _).mp (by decide +kernel)
  have quota : Numeral.Denotes "50000".toList (50000 : Int64).toInt :=
    (Numeral.int64_eq_ok_iff _ _).mp (by decide +kernel)
  have period : Numeral.Denotes "-1".toList (-1 : Int64).toInt :=
    (Numeral.int64_eq_ok_iff _ _).mp (by decide +kernel)
  refine ⟨?_, ?_, ?_, ?_, ?_, ?_⟩
  · exact (outcome _ _).mpr (.blank (firstLine (by decide +kernel)))
  · have field : Text.Fields "-0x".toList ["-0x".toList] := .single (by decide +kernel)
    exact (outcome _ _).mpr (.unlimited (firstLine (by decide +kernel)) (parted word tab field)
      (.withField _))
  · exact (outcome _ _).mpr (.limited (firstLine (by decide +kernel))
      (parted first.is_field spaces (.single second.is_field))
      (.pair first (by decide) second (by decide)))
  · rw [← oneAndHalf]
    exact (outcome _ _).mpr (.limited (firstLine (by decide +kernel)) (.single alone.is_field)
      (.single alone (by decide)))
  · refine (outcome _ _).mpr (.refused (firstLine (by decide +kernel))
      (parted quota.is_field tab (.single period.is_field)) ?_ ?_)
    · rintro ⟨⟩
    · rintro _ _ (⟨-, -, denotes, positive⟩)
      rw [← period.unique denotes] at positive
      exact absurd positive (by decide)
  · have one : Text.IsField "1".toList := by decide +kernel
    have two : Text.IsField "2".toList := by decide +kernel
    refine (outcome _ _).mpr (.refused (firstLine (by decide +kernel))
      (parted word space (parted one space (.single two))) ?_ ?_)
    · rintro ⟨⟩
    · rintro _ _ ⟨⟩

end Groups
end CgroupLimits

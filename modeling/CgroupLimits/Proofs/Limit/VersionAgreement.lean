import CgroupLimits.Proofs.Limit.QuotaFiles

/-!
# The same CPU quota in both versions

A host that moves from v1 to v2 states its quotas in other files and in another
form. Stated in either, in whatever spelling and layout, a limit comes to the
same number of CPUs, and a period that is none is refused by both.
-/

set_option autoImplicit false

namespace CgroupLimits

inductive CpuLimit where
  | unlimited
  | perPeriod (quota period : Int64)

namespace CpuLimit

def SaysNumber (files : Files) (directory parameter : Text) (n : Int64) : Prop :=
  ∃ line, ControlFile.Says files directory parameter line ∧ Numeral.Denotes line n.toInt

/-- Without a limit the period is left open, and so is whether its file exists. -/
inductive StatedV1 (files : Files) (directory : Text) : CpuLimit → Prop
  | unlimited {quota : Int64} (nonpositive : quota.toInt ≤ 0)
      (quotaFile : SaysNumber files directory "cpu.cfs_quota_us".toList quota) :
      StatedV1 files directory .unlimited
  | perPeriod {quota period : Int64} (positive : 0 < quota.toInt)
      (quotaFile : SaysNumber files directory "cpu.cfs_quota_us".toList quota)
      (periodFile : SaysNumber files directory "cpu.cfs_period_us".toList period) :
      StatedV1 files directory (.perPeriod quota period)

/-- A quota that stands alone is one for the default period. What stands behind
`max` is any field at all. -/
inductive StatedV2 (files : Files) (directory : Text) : CpuLimit → Prop
  | unlimited (maxFile : ControlFile.Says files directory "cpu.max".toList "max".toList) :
      StatedV2 files directory .unlimited
  | unlimitedField {gap field : Text} (isGap : Text.IsGap gap) (isField : Text.IsField field)
      (maxFile : ControlFile.Says files directory "cpu.max".toList
        ("max".toList ++ (gap ++ field))) :
      StatedV2 files directory .unlimited
  | single {quota : Int64} (maxFile : SaysNumber files directory "cpu.max".toList quota) :
      StatedV2 files directory (.perPeriod quota 100000)
  | pair {first gap second : Text} {quota period : Int64}
      (denotesQuota : Numeral.Denotes first quota.toInt) (isGap : Text.IsGap gap)
      (denotesPeriod : Numeral.Denotes second period.toInt)
      (maxFile : ControlFile.Says files directory "cpu.max".toList (first ++ (gap ++ second))) :
      StatedV2 files directory (.perPeriod quota period)

inductive Agree : CpuLimit → Except GroupError (Option Binary64) →
    Except GroupError (Option Binary64) → Prop
  | unlimited : Agree .unlimited (.ok none) (.ok none)
  | limited {quota period : Int64} (positive : 0 < period.toInt) :
      Agree (.perPeriod quota period) (.ok (some (cpusOf quota period)))
        (.ok (some (cpusOf quota period)))
  | invalid {quota period : Int64} (nonpositive : period.toInt ≤ 0)
      (path value path' value' : Text) :
      Agree (.perPeriod quota period) (.error (.invalidValue path value))
        (.error (.invalidValue path' value'))

variable {old new : Files} {first second : Text} {limit : CpuLimit}

theorem agree_of_stated (ho : StatedV1 old first limit) (hn : StatedV2 new second limit) :
    Agree limit (ControlFile.cpuQuotaV1 old first) (ControlFile.cpuQuotaV2 new second) := by
  -- The sign of the v1 quota decides which forms of `cpu.max` are left.
  cases ho with
  | unlimited h0 hq =>
    obtain ⟨line, hs, hd⟩ := hq
    rw [ControlFile.cpu_quota_v1_unlimited hs hd h0]
    cases hn with
    | unlimited hm =>
      rw [ControlFile.cpu_quota_v2_unlimited hm]
      exact .unlimited
    | unlimitedField hg hf hm =>
      rw [ControlFile.cpu_quota_v2_unlimited_field hm hg hf]
      exact .unlimited
  | @perPeriod quota period h0 hq hp =>
    obtain ⟨line, hs, hd⟩ := hq
    obtain ⟨line', hs', hd'⟩ := hp
    rw [ControlFile.cpu_quota_v1_limited hs hd hs' hd' h0]
    cases hn with
    | single hm =>
      obtain ⟨word, hw, hdw⟩ := hm
      have hp0 : 0 < (100000 : Int64).toInt := by decide
      rw [ControlFile.cpu_quota_v2_single hw hdw h0, if_neg (Int.not_le.mpr hp0)]
      exact .limited hp0
    | pair hdq hg hdp hm =>
      rw [ControlFile.cpu_quota_v2_limited hm hdq hg hdp h0]
      by_cases hp0 : period.toInt ≤ 0
      · rw [if_pos hp0, if_pos hp0]
        exact .invalid hp0 _ _ _ _
      · rw [if_neg hp0, if_neg hp0]
        exact .limited (Int.not_le.mp hp0)

end CpuLimit

namespace Groups

/-- The two versions agree on every limit that both state. -/
theorem cpu_quota_versions_agree {old new : Files} {directories : Directories}
    {first second : Text} {limit : CpuLimit}
    (found : directories.find? "cpu".toList = some first)
    (ho : limit.StatedV1 old first) (hn : limit.StatedV2 new second) :
    limit.Agree ((Groups.v1 directories).cpuQuota old) ((Groups.v2 second).cpuQuota new) := by
  rw [cpu_quota_of_found found]
  exact CpuLimit.agree_of_stated ho hn

def statedFiles (quota : Text) (period : Option Text) (max : Text) : Files := fun path =>
  if path = "/cpu/cpu.cfs_quota_us".toList then .ok { content := Utf8.encode quota }
  else if path = "/cpu/cpu.cfs_period_us".toList then
    match period with
    | some content => .ok { content := Utf8.encode content }
    | none => .error .noSuchFile
  else if path = "/unified/cpu.max".toList then .ok { content := Utf8.encode max }
  else .error .noSuchFile

def statedDirectories : Directories where
  entries := [("cpu".toList, "/cpu".toList)]
  distinct := List.pairwise_singleton _ _

def spelledFiles : Files :=
  statedFiles " +0150000\r\nmax".toList (some "100000".toList)
    (Char.ofNat 12288 :: "150000\t +000100000\r\n".toList)

theorem spelled_files_stated :
    (CpuLimit.perPeriod 150000 100000).StatedV1 spelledFiles "/cpu".toList ∧
      (CpuLimit.perPeriod 150000 100000).StatedV2 spelledFiles "/unified".toList := by
  constructor
  · refine .perPeriod (by decide) ⟨"+0150000".toList, ?_, ?_⟩ ⟨"100000".toList, ?_, ?_⟩
    · have hb : Text.IsGap [' ', '\r'] := by decide
      exact ⟨[' '], ['\r'], "\nmax".toList, hb.2, Or.inr ⟨_, rfl⟩, by decide +kernel⟩
    · exact (Numeral.int64_eq_ok_iff _ _).mp (by decide +kernel)
    · exact ⟨[], [], [], by simp, Or.inl rfl, by decide +kernel⟩
    · exact (Numeral.int64_eq_ok_iff _ _).mp (by decide +kernel)
  · have hg : Text.IsGap "\t ".toList := by decide +kernel
    have hq : Numeral.Denotes "150000".toList (150000 : Int64).toInt :=
      (Numeral.int64_eq_ok_iff _ _).mp (by decide +kernel)
    have hp : Numeral.Denotes "+000100000".toList (100000 : Int64).toInt :=
      (Numeral.int64_eq_ok_iff _ _).mp (by decide +kernel)
    have hb : Text.IsGap [Char.ofNat 12288, '\r'] := by decide
    refine .pair hq hg hp ⟨[Char.ofNat 12288], ['\r'], ['\n'], hb.2, Or.inr ⟨[], rfl⟩, ?_⟩
    decide +kernel

def refusedFiles : Files := statedFiles "7".toList (some "-0\n".toList) "7 -0\n".toList

theorem refused_files_stated :
    (CpuLimit.perPeriod 7 0).StatedV1 refusedFiles "/cpu".toList ∧
      (CpuLimit.perPeriod 7 0).StatedV2 refusedFiles "/unified".toList := by
  have hq : Numeral.Denotes "7".toList (7 : Int64).toInt :=
    (Numeral.int64_eq_ok_iff _ _).mp (by decide +kernel)
  have hp : Numeral.Denotes "-0".toList (0 : Int64).toInt :=
    (Numeral.int64_eq_ok_iff _ _).mp (by decide +kernel)
  constructor
  · refine .perPeriod (by decide) ⟨"7".toList, ?_, hq⟩ ⟨"-0".toList, ?_, hp⟩
    · exact ⟨[], [], [], by simp, Or.inl rfl, by decide +kernel⟩
    · exact ⟨[], [], ['\n'], by simp, Or.inr ⟨[], rfl⟩, by decide +kernel⟩
  · have hg : Text.IsGap [' '] := by decide
    exact .pair hq hg hp ⟨[], [], ['\n'], by simp, Or.inr ⟨[], rfl⟩, by decide +kernel⟩

def defaultedFiles : Files := statedFiles "007".toList (some "+100000".toList) " 7".toList

theorem defaulted_files_stated :
    (CpuLimit.perPeriod 7 100000).StatedV1 defaultedFiles "/cpu".toList ∧
      (CpuLimit.perPeriod 7 100000).StatedV2 defaultedFiles "/unified".toList := by
  constructor
  · refine .perPeriod (by decide) ⟨"007".toList, ?_, ?_⟩ ⟨"+100000".toList, ?_, ?_⟩
    · exact ⟨[], [], [], by simp, Or.inl rfl, by decide +kernel⟩
    · exact (Numeral.int64_eq_ok_iff _ _).mp (by decide +kernel)
    · exact ⟨[], [], [], by simp, Or.inl rfl, by decide +kernel⟩
    · exact (Numeral.int64_eq_ok_iff _ _).mp (by decide +kernel)
  · refine .single ⟨"7".toList, ?_, ?_⟩
    · have hb : Text.IsGap [' '] := by decide
      exact ⟨[' '], [], [], hb.2, Or.inl rfl, by decide +kernel⟩
    · exact (Numeral.int64_eq_ok_iff _ _).mp (by decide +kernel)

def unlimitedFiles : Files := statedFiles "-1\n".toList none "max 7x\n".toList

theorem unlimited_files_stated :
    CpuLimit.unlimited.StatedV1 unlimitedFiles "/cpu".toList ∧
      CpuLimit.unlimited.StatedV2 unlimitedFiles "/unified".toList := by
  constructor
  · have hq : (-1 : Int64).toInt ≤ 0 := by decide
    refine .unlimited hq ⟨"-1".toList, ?_, ?_⟩
    · exact ⟨[], [], ['\n'], by simp, Or.inr ⟨[], rfl⟩, by decide +kernel⟩
    · exact (Numeral.int64_eq_ok_iff _ _).mp (by decide +kernel)
  · have hg : Text.IsGap [' '] := by decide
    have hf : Text.IsField "7x".toList := by decide +kernel
    refine .unlimitedField hg hf ⟨[], [], ['\n'], by simp, Or.inr ⟨[], rfl⟩, ?_⟩
    decide +kernel

theorem cpu_quota_versions_agree_stated :
    statedDirectories.find? "cpu".toList = some "/cpu".toList ∧
      (CpuLimit.perPeriod 150000 100000).Agree ((Groups.v1 statedDirectories).cpuQuota spelledFiles)
        ((Groups.v2 "/unified".toList).cpuQuota spelledFiles) ∧
      (Groups.v1 statedDirectories).cpuQuota spelledFiles = .ok (some ⟨0x3FF8000000000000⟩) ∧
      (CpuLimit.perPeriod 7 0).Agree ((Groups.v1 statedDirectories).cpuQuota refusedFiles)
        ((Groups.v2 "/unified".toList).cpuQuota refusedFiles) ∧
      (CpuLimit.perPeriod 7 100000).Agree ((Groups.v1 statedDirectories).cpuQuota defaultedFiles)
        ((Groups.v2 "/unified".toList).cpuQuota defaultedFiles) ∧
      CpuLimit.unlimited.Agree ((Groups.v1 statedDirectories).cpuQuota unlimitedFiles)
        ((Groups.v2 "/unified".toList).cpuQuota unlimitedFiles) := by
  have found : statedDirectories.find? "cpu".toList = some "/cpu".toList := rfl
  refine ⟨found, ?_, ?_, ?_, ?_, ?_⟩
  · exact cpu_quota_versions_agree found spelled_files_stated.1 spelled_files_stated.2
  · decide +kernel
  · exact cpu_quota_versions_agree found refused_files_stated.1 refused_files_stated.2
  · exact cpu_quota_versions_agree found defaulted_files_stated.1 defaulted_files_stated.2
  · exact cpu_quota_versions_agree found unlimited_files_stated.1 unlimited_files_stated.2

end Groups
end CgroupLimits

import CgroupLimits.Proofs.Limit.FileStates
import CgroupLimits.Proofs.Limit.VersionAgreement

/-!
# The branches of a quota in two files

The first version keeps a quota and its period in two files, and reads the
second one only for a quota above zero. So a group without a limit needs no
period, and what is wrong with the quota is reported whatever the period is.
The outcome hangs on the files that a run reads and on no other.
-/

set_option autoImplicit false

namespace CgroupLimits

namespace ControlFile
variable {files other : Files} {path : Text}

theorem LineReading.congr {result : Except GroupError Text} (h : LineReading files path result)
    (he : other path = files path) : LineReading other path result := by
  cases h with
  | unopened unopened => exact .unopened (he.trans unopened)
  | broken opened breaks => exact .broken (he.trans opened) breaks
  | noText opened unbroken noText => exact .noText (he.trans opened) unbroken noText
  | blank holds first => exact .blank (he.trans holds) first
  | line holds first ne_nil => exact .line (he.trans holds) first ne_nil

theorem IntReading.congr {result : Except GroupError Int64} (h : IntReading files path result)
    (he : other path = files path) : IntReading other path result := by
  cases h with
  | unread unread => exact .unread (unread.congr he)
  | noInteger reads noInteger => exact .noInteger (reads.congr he) noInteger
  | integer reads denotes => exact .integer (reads.congr he) denotes

end ControlFile

def quotaPath (directory : Text) : Text := Path.join directory "cpu.cfs_quota_us".toList

def periodPath (directory : Text) : Text := Path.join directory "cpu.cfs_period_us".toList

/-- The branch that a run takes: which files it reads, in this order, and what
it comes to. -/
inductive QuotaBranch (files : Files) (directories : Directories) :
    List Text → Except GroupError (Option Binary64) → Prop
  | noController (missing : directories.find? "cpu".toList = none) :
      QuotaBranch files directories [] (.ok none)
  | quotaUnread {directory : Text} {error : GroupError}
      (found : directories.find? "cpu".toList = some directory)
      (unread : ControlFile.IntReading files (quotaPath directory) (.error error)) :
      QuotaBranch files directories [quotaPath directory] (.error error)
  | unlimited {directory : Text} {quota : Int64}
      (found : directories.find? "cpu".toList = some directory)
      (reads : ControlFile.IntReading files (quotaPath directory) (.ok quota))
      (nonpositive : quota.toInt ≤ 0) :
      QuotaBranch files directories [quotaPath directory] (.ok none)
  | periodUnread {directory : Text} {quota : Int64} {error : GroupError}
      (found : directories.find? "cpu".toList = some directory)
      (reads : ControlFile.IntReading files (quotaPath directory) (.ok quota))
      (positive : 0 < quota.toInt)
      (unread : ControlFile.IntReading files (periodPath directory) (.error error)) :
      QuotaBranch files directories [quotaPath directory, periodPath directory] (.error error)
  | periodRefused {directory : Text} {quota period : Int64}
      (found : directories.find? "cpu".toList = some directory)
      (reads : ControlFile.IntReading files (quotaPath directory) (.ok quota))
      (positive : 0 < quota.toInt)
      (readsPeriod : ControlFile.IntReading files (periodPath directory) (.ok period))
      (nonpositive : period.toInt ≤ 0) :
      QuotaBranch files directories [quotaPath directory, periodPath directory]
        (.error (.invalidValue (periodPath directory) (Numeral.ofInt period.toInt)))
  | limited {directory : Text} {quota period : Int64}
      (found : directories.find? "cpu".toList = some directory)
      (reads : ControlFile.IntReading files (quotaPath directory) (.ok quota))
      (positive : 0 < quota.toInt)
      (readsPeriod : ControlFile.IntReading files (periodPath directory) (.ok period))
      (positivePeriod : 0 < period.toInt) :
      QuotaBranch files directories [quotaPath directory, periodPath directory]
        (.ok (some ((Binary64.ofInt quota.toInt).div (Binary64.ofInt period.toInt))))

namespace ControlFile
variable {files : Files} {directory : Text} {quota : Int64} {error : GroupError}

theorem cpu_quota_v1_of_quota_unread (hr : readInt files directory quotaFile = .error error) :
    cpuQuotaV1 files directory = .error error := by
  simp only [cpuQuotaV1, hr, bind, Except.bind]

theorem cpu_quota_v1_of_period_unread (hr : readInt files directory quotaFile = .ok quota)
    (h0 : 0 < quota.toInt) (hp : readInt files directory periodFile = .error error) :
    cpuQuotaV1 files directory = .error error := by
  simp only [cpuQuotaV1, hr, hp, bind, Except.bind, le_zero_iff, if_neg (Int.not_le.mpr h0)]

end ControlFile

namespace QuotaBranch
variable {files other : Files} {directories : Directories} {read : List Text}
  {result : Except GroupError (Option Binary64)}

theorem cpu_quota_eq (h : QuotaBranch files directories read result) :
    (Groups.v1 directories).cpuQuota files = result := by
  cases h with
  | noController missing =>
    have hd : (Groups.v1 directories).directory? cpuController = none := missing
    simp only [Groups.cpuQuota, hd]
  | quotaUnread found unread =>
    rw [Groups.cpu_quota_of_found found]
    exact ControlFile.cpu_quota_v1_of_quota_unread unread.read_int_eq
  | unlimited found reads nonpositive =>
    rw [Groups.cpu_quota_of_found found]
    exact ControlFile.cpu_quota_v1_nonpositive reads.read_int_eq nonpositive
  | periodUnread found reads positive unread =>
    rw [Groups.cpu_quota_of_found found]
    exact ControlFile.cpu_quota_v1_of_period_unread reads.read_int_eq positive unread.read_int_eq
  | periodRefused found reads positive readsPeriod nonpositive =>
    rw [Groups.cpu_quota_of_found found]
    have hq := ControlFile.cpu_quota_v1_positive reads.read_int_eq positive readsPeriod.read_int_eq
    exact hq.trans (if_pos nonpositive)
  | limited found reads positive readsPeriod positivePeriod =>
    rw [Groups.cpu_quota_of_found found]
    have hq := ControlFile.cpu_quota_v1_positive reads.read_int_eq positive readsPeriod.read_int_eq
    exact hq.trans (if_neg (Int.not_le.mpr positivePeriod))

variable (files directories) in
theorem exists_branch : ∃ read result, QuotaBranch files directories read result := by
  cases hd : directories.find? "cpu".toList with
  | none => exact ⟨_, _, .noController hd⟩
  | some directory =>
    obtain ⟨quotaResult, hq⟩ := ControlFile.exists_int_reading files directory quotaFile
    cases quotaResult with
    | error error => exact ⟨_, _, .quotaUnread hd hq⟩
    | ok quota =>
      by_cases h0 : quota.toInt ≤ 0
      · exact ⟨_, _, .unlimited hd hq h0⟩
      rw [Int.not_le] at h0
      obtain ⟨periodResult, hp⟩ := ControlFile.exists_int_reading files directory periodFile
      cases periodResult with
      | error error => exact ⟨_, _, .periodUnread hd hq h0 hp⟩
      | ok period =>
        by_cases hp0 : period.toInt ≤ 0
        · exact ⟨_, _, .periodRefused hd hq h0 hp hp0⟩
        · exact ⟨_, _, .limited hd hq h0 hp (Int.not_le.mp hp0)⟩

theorem congr (h : QuotaBranch files directories read result)
    (he : ∀ path ∈ read, other path = files path) :
    QuotaBranch other directories read result := by
  cases h with
  | noController missing => exact .noController missing
  | quotaUnread found unread => exact .quotaUnread found (unread.congr (he _ (by simp)))
  | unlimited found reads nonpositive =>
    exact .unlimited found (reads.congr (he _ (by simp))) nonpositive
  | periodUnread found reads positive unread =>
    exact .periodUnread found (reads.congr (he _ (by simp))) positive
      (unread.congr (he _ (by simp)))
  | periodRefused found reads positive readsPeriod nonpositive =>
    exact .periodRefused found (reads.congr (he _ (by simp))) positive
      (readsPeriod.congr (he _ (by simp))) nonpositive
  | limited found reads positive readsPeriod positivePeriod =>
    exact .limited found (reads.congr (he _ (by simp))) positive
      (readsPeriod.congr (he _ (by simp))) positivePeriod

end QuotaBranch

namespace Groups

/-- Every run takes one of the branches and comes to what that branch says. Two
runs agree as soon as they agree on the files that one of them reads. -/
theorem cpu_quota_by_branches (files : Files) (directories : Directories) :
    (∀ result, (Groups.v1 directories).cpuQuota files = result ↔
      ∃ read, QuotaBranch files directories read result) ∧
    ∀ read result other, QuotaBranch files directories read result →
      (∀ path ∈ read, other path = files path) →
      (Groups.v1 directories).cpuQuota other = (Groups.v1 directories).cpuQuota files := by
  constructor
  · intro result
    constructor
    · rintro rfl
      obtain ⟨read, result, h⟩ := QuotaBranch.exists_branch files directories
      rw [h.cpu_quota_eq]
      exact ⟨read, h⟩
    · rintro ⟨read, h⟩
      exact h.cpu_quota_eq
  · intro read result other h he
    rw [h.cpu_quota_eq, (h.congr he).cpu_quota_eq]

theorem cpu_quota_by_branches_refused :
    Directories.empty.find? "cpu".toList = none ∧
      (Groups.v1 Directories.empty).cpuQuota (statedFiles "x9\n".toList none []) = .ok none ∧
      (Groups.v1 statedDirectories).cpuQuota
          (statedFiles "150000\n".toList (some "100000\n".toList) []) =
        .ok (some ⟨0x3FF8000000000000⟩) ∧
      (Groups.v1 statedDirectories).cpuQuota
          (statedFiles "+7".toList (some "\t-007\r\n100000\n".toList) []) =
        .error (.invalidValue "/cpu/cpu.cfs_period_us".toList "-7".toList) ∧
      QuotaBranch (statedFiles " -1\n".toList none []) statedDirectories
        ["/cpu/cpu.cfs_quota_us".toList] (.ok none) ∧
      (∀ path ∈ ["/cpu/cpu.cfs_quota_us".toList],
        statedFiles " -1\n".toList (some "0x10".toList) [] path =
          statedFiles " -1\n".toList none [] path) ∧
      (Groups.v1 statedDirectories).cpuQuota (statedFiles " -1\n".toList (some "0x10".toList) []) =
        (Groups.v1 statedDirectories).cpuQuota (statedFiles " -1\n".toList none []) := by
  have missing : Directories.empty.find? "cpu".toList = none := rfl
  have found : statedDirectories.find? "cpu".toList = some "/cpu".toList := rfl
  have limited : QuotaBranch (statedFiles "150000\n".toList (some "100000\n".toList) [])
      statedDirectories [quotaPath "/cpu".toList, periodPath "/cpu".toList]
      (.ok (some (cpusOf 150000 100000))) := by
    have quota : ControlFile.IntReading
        (statedFiles "150000\n".toList (some "100000\n".toList) [])
        (quotaPath "/cpu".toList) (.ok 150000) :=
      (ControlFile.read_int_eq_iff _).mp (by decide +kernel)
    have period : ControlFile.IntReading
        (statedFiles "150000\n".toList (some "100000\n".toList) [])
        (periodPath "/cpu".toList) (.ok 100000) :=
      (ControlFile.read_int_eq_iff _).mp (by decide +kernel)
    exact .limited found quota (by decide) period (by decide)
  have oneAndHalf : cpusOf 150000 100000 = ⟨0x3FF8000000000000⟩ := by decide +kernel
  have refused : QuotaBranch (statedFiles "+7".toList (some "\t-007\r\n100000\n".toList) [])
      statedDirectories [quotaPath "/cpu".toList, periodPath "/cpu".toList]
      (.error (.invalidValue "/cpu/cpu.cfs_period_us".toList "-7".toList)) := by
    have quota : ControlFile.IntReading
        (statedFiles "+7".toList (some "\t-007\r\n100000\n".toList) [])
        (quotaPath "/cpu".toList) (.ok 7) := (ControlFile.read_int_eq_iff _).mp (by decide +kernel)
    have period : ControlFile.IntReading
        (statedFiles "+7".toList (some "\t-007\r\n100000\n".toList) [])
        (periodPath "/cpu".toList) (.ok (-7)) :=
      (ControlFile.read_int_eq_iff _).mp (by decide +kernel)
    exact .periodRefused found quota (by decide) period (by decide)
  have unlimited : QuotaBranch (statedFiles " -1\n".toList none []) statedDirectories
      ["/cpu/cpu.cfs_quota_us".toList] (.ok none) := by
    have quota : ControlFile.IntReading (statedFiles " -1\n".toList none [])
        (quotaPath "/cpu".toList) (.ok (-1)) :=
      (ControlFile.read_int_eq_iff _).mp (by decide +kernel)
    exact .unlimited found quota (by decide)
  have same : ∀ path ∈ ["/cpu/cpu.cfs_quota_us".toList],
      statedFiles " -1\n".toList (some "0x10".toList) [] path =
        statedFiles " -1\n".toList none [] path := by
    intro path hp
    rw [List.mem_singleton.mp hp]
    rfl
  refine ⟨missing, ?_, ?_, ?_, unlimited, same, ?_⟩
  · exact ((cpu_quota_by_branches _ _).1 _).mpr ⟨_, .noController missing⟩
  · rw [← oneAndHalf]
    exact ((cpu_quota_by_branches _ _).1 _).mpr ⟨_, limited⟩
  · exact ((cpu_quota_by_branches _ _).1 _).mpr ⟨_, refused⟩
  · exact (cpu_quota_by_branches _ _).2 _ _ _ unlimited same

end Groups
end CgroupLimits

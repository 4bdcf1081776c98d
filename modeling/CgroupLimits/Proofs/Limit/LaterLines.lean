import CgroupLimits.Limit.Quota
import CgroupLimits.Proofs.Limit.FileStates
import CgroupLimits.Proofs.Limit.VersionAgreement

/-!
# What stands behind the first line

A control file has a value as soon as something stands on its first line. Then
no later line is looked at: files that begin with the same line have the same
value, and every quota, limit and error made of it is the same. A file whose
first line is blank has no value, whatever follows.
-/

set_option autoImplicit false

namespace CgroupLimits

namespace ControlFile

def HasFirstLine (content : Text) : Prop :=
  ∃ c ∈ content.takeWhile (· != '\n'), ¬ Text.isBlank c

/-- Both have the same file at the path, or two that begin with one line. -/
inductive SameFirstLine (files other : Files) (path : Text) : Prop
  | unchanged (same : other path = files path) : SameFirstLine files other path
  | changed {content replaced : Text} (holds : files path = .ok { content := Utf8.encode content })
      (replacedBy : other path = .ok { content := Utf8.encode replaced })
      (hasFirstLine : HasFirstLine content)
      (same : replaced.takeWhile (· != '\n') = content.takeWhile (· != '\n')) :
      SameFirstLine files other path

theorem has_first_line_iff (content : Text) : HasFirstLine content ↔ firstLineOf content ≠ [] := by
  rw [HasFirstLine, firstLineOf, ne_eq, Text.trim_eq_nil_iff]
  push Not
  rfl

section Content
variable {files : Files} {directory parameter content : Text}
  (holds : files (Path.join directory parameter) = .ok { content := Utf8.encode content })
include holds

theorem read_first_line_of_has_first_line (h : HasFirstLine content) :
    readFirstLine files directory parameter = .ok (firstLineOf content) := by
  rw [read_first_line_of_holds holds, if_neg ((has_first_line_iff content).mp h)]

theorem read_first_line_of_blank (h : ¬ HasFirstLine content) :
    readFirstLine files directory parameter =
      .error (.invalidValue (Path.join directory parameter) content) := by
  have hn := mt (has_first_line_iff content).mpr h
  rw [read_first_line_of_holds holds, if_pos (not_not.mp hn)]

theorem read_first_line_eq_ok_iff (line : Text) :
    readFirstLine files directory parameter = .ok line ↔
      line ≠ [] ∧ IsFirstLine content line := by
  rw [is_first_line_iff]
  by_cases h : HasFirstLine content
  · rw [read_first_line_of_has_first_line holds h, Except.ok.injEq]
    constructor
    · rintro rfl
      exact ⟨(has_first_line_iff content).mp h, rfl⟩
    · exact And.right
  · rw [read_first_line_of_blank holds h]
    constructor
    · rintro ⟨⟩
    · rintro ⟨hn, rfl⟩
      exact absurd ((has_first_line_iff content).mpr hn) h

theorem exists_read_first_line_iff :
    (∃ line, readFirstLine files directory parameter = .ok line) ↔ HasFirstLine content := by
  constructor
  · rintro ⟨line, hl⟩
    obtain ⟨hn, first⟩ := (read_first_line_eq_ok_iff holds line).mp hl
    rw [has_first_line_iff, (is_first_line_iff content line).mp first]
    exact hn
  · intro h
    exact ⟨_, read_first_line_of_has_first_line holds h⟩

end Content

section TwoRuns
variable {files other : Files} {directory : Text}

theorem read_first_line_congr {parameter : Text}
    (h : SameFirstLine files other (Path.join directory parameter)) :
    readFirstLine other directory parameter = readFirstLine files directory parameter := by
  cases h with
  | unchanged same => simp only [readFirstLine, same]
  | @changed content replaced holds replacedBy hasFirstLine same =>
    have hs : HasFirstLine replaced := by
      rw [HasFirstLine, same]
      exact hasFirstLine
    have hl : firstLineOf replaced = firstLineOf content := by
      rw [firstLineOf, same, firstLineOf]
    rw [read_first_line_of_has_first_line holds hasFirstLine,
      read_first_line_of_has_first_line replacedBy hs, hl]

theorem read_int_congr {parameter : Text}
    (h : readFirstLine other directory parameter = readFirstLine files directory parameter) :
    readInt other directory parameter = readInt files directory parameter := by
  rw [readInt, readInt, h]

/-! Whatever is made of the files is made of the lines read from them. -/

variable (h : ∀ parameter,
  readFirstLine other directory parameter = readFirstLine files directory parameter)
include h

theorem cpu_quota_v1_congr : cpuQuotaV1 other directory = cpuQuotaV1 files directory := by
  rw [cpuQuotaV1, cpuQuotaV1, read_int_congr (h quotaFile), read_int_congr (h periodFile)]

theorem cpu_quota_v2_congr : cpuQuotaV2 other directory = cpuQuotaV2 files directory := by
  rw [cpuQuotaV2, cpuQuotaV2, h cpuMaxFile]

theorem memory_limit_v1_congr (answer : PageSizeAnswer) :
    memoryLimitV1 other answer directory = memoryLimitV1 files answer directory := by
  rw [memoryLimitV1, memoryLimitV1, read_int_congr (h memoryLimitFile)]

theorem memory_limit_v2_congr : memoryLimitV2 other directory = memoryLimitV2 files directory := by
  rw [memoryLimitV2, memoryLimitV2, h memoryMaxFile]

end TwoRuns
end ControlFile

namespace Groups
variable {files other : Files} (h : ∀ path, ControlFile.SameFirstLine files other path)
include h

theorem cpu_quota_congr (groups : Groups) : groups.cpuQuota other = groups.cpuQuota files := by
  cases hd : groups.directory? cpuController with
  | none => simp only [cpuQuota, hd]
  | some directory =>
    have hr := fun parameter =>
      ControlFile.read_first_line_congr (h (Path.join directory parameter))
    cases groups with
    | v1 directories => simp only [cpuQuota, hd, ControlFile.cpu_quota_v1_congr hr]
    | v2 unified => simp only [cpuQuota, hd, ControlFile.cpu_quota_v2_congr hr]

theorem memory_limit_congr (answer : PageSizeAnswer) (groups : Groups) :
    groups.memoryLimit other answer = groups.memoryLimit files answer := by
  cases hd : groups.directory? memoryController with
  | none => simp only [memoryLimit, hd]
  | some directory =>
    have hr := fun parameter =>
      ControlFile.read_first_line_congr (h (Path.join directory parameter))
    cases groups with
    | v1 directories => simp only [memoryLimit, hd, ControlFile.memory_limit_v1_congr hr answer]
    | v2 unified => simp only [memoryLimit, hd, ControlFile.memory_limit_v2_congr hr]

end Groups

namespace ControlFile
open Groups (statedFiles statedDirectories)

/-- The first line decides whether there is a value and what it is. Two runs on
files that begin alike have the same results, and a padded numeral is its number. -/
theorem first_line_decides (directory parameter : Text) :
    (∀ (files : Files) (content : Text),
      files (Path.join directory parameter) = .ok { content := Utf8.encode content } →
        (∀ line, readFirstLine files directory parameter = .ok line ↔
          line ≠ [] ∧ IsFirstLine content line) ∧
        ((∃ line, readFirstLine files directory parameter = .ok line) ↔ HasFirstLine content) ∧
        (¬ HasFirstLine content → readFirstLine files directory parameter =
          .error (.invalidValue (Path.join directory parameter) content))) ∧
    (∀ files other : Files, (∀ path, SameFirstLine files other path) →
      readFirstLine other directory parameter = readFirstLine files directory parameter ∧
        readInt other directory parameter = readInt files directory parameter ∧
        ∀ groups : Groups, groups.cpuQuota other = groups.cpuQuota files ∧
          ∀ answer, groups.memoryLimit other answer = groups.memoryLimit files answer) ∧
    ∀ (files : Files) (line : Text) (n : Int64), Says files directory parameter line →
      Numeral.Denotes line n.toInt → readInt files directory parameter = .ok n := by
  refine ⟨?_, ?_, ?_⟩
  · intro files content holds
    exact ⟨read_first_line_eq_ok_iff holds, exists_read_first_line_iff holds,
      read_first_line_of_blank holds⟩
  · intro files other h
    have hr := read_first_line_congr (h (Path.join directory parameter))
    refine ⟨hr, read_int_congr hr, ?_⟩
    intro groups
    exact ⟨groups.cpu_quota_congr h, fun answer => groups.memory_limit_congr h answer⟩
  · intro files line n hs hd
    exact read_int_of_says hs hd

def paddedFiles (later : Text) : Files :=
  statedFiles ("\t+0150000 \r".toList ++ later) (some "100000".toList) []

def blankContent : Text := "\t\r\n150000\n".toList

theorem padded_files_same (path : Text) :
    SameFirstLine (paddedFiles "\n-1\nmax".toList) (paddedFiles []) path := by
  by_cases hp : path = "/cpu/cpu.cfs_quota_us".toList
  · subst path
    exact .changed rfl rfl ⟨'+', by decide +kernel, by decide⟩ (by decide +kernel)
  · refine .unchanged ?_
    rw [paddedFiles, statedFiles, if_neg hp, paddedFiles, statedFiles, if_neg hp]

theorem first_line_decides_padded :
    statedFiles blankContent none [] (Path.join "/cpu".toList "cpu.cfs_quota_us".toList) =
        .ok { content := Utf8.encode blankContent } ∧
      ¬ HasFirstLine blankContent ∧
      readFirstLine (statedFiles blankContent none []) "/cpu".toList "cpu.cfs_quota_us".toList =
        .error (.invalidValue "/cpu/cpu.cfs_quota_us".toList blankContent) ∧
      (∀ path, SameFirstLine (paddedFiles "\n-1\nmax".toList) (paddedFiles []) path) ∧
      (Groups.v1 statedDirectories).cpuQuota (paddedFiles []) =
        (Groups.v1 statedDirectories).cpuQuota (paddedFiles "\n-1\nmax".toList) ∧
      Says (paddedFiles "\n-1\nmax".toList) "/cpu".toList "cpu.cfs_quota_us".toList
        "+0150000".toList ∧
      Numeral.Denotes "+0150000".toList (150000 : Int64).toInt ∧
      readInt (paddedFiles "\n-1\nmax".toList) "/cpu".toList "cpu.cfs_quota_us".toList =
        .ok 150000 := by
  obtain ⟨one, two, number⟩ := first_line_decides "/cpu".toList "cpu.cfs_quota_us".toList
  have holds : statedFiles blankContent none []
      (Path.join "/cpu".toList "cpu.cfs_quota_us".toList) =
        .ok { content := Utf8.encode blankContent } := rfl
  have blank : ¬ HasFirstLine blankContent := by
    rw [has_first_line_iff]
    decide +kernel
  have denotes : Numeral.Denotes "+0150000".toList (150000 : Int64).toInt :=
    (Numeral.int64_eq_ok_iff _ _).mp (by decide +kernel)
  have stated : Says (paddedFiles "\n-1\nmax".toList) "/cpu".toList "cpu.cfs_quota_us".toList
      "+0150000".toList :=
    (says_iff denotes.is_trimmed (by decide)).mpr ⟨_, rfl, by decide +kernel⟩
  refine ⟨holds, blank, (one _ _ holds).2.2 blank, padded_files_same, ?_, stated, denotes, ?_⟩
  · exact ((two _ _ padded_files_same).2.2 _).1
  · exact number _ _ _ stated denotes

end ControlFile
end CgroupLimits

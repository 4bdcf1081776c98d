import CgroupLimits.Proofs.Report.Listing
import Mathlib.Data.List.Basic

/-!
# What a run leaves behind

A run discovers the groups, reads the CPU quota and then the memory limit. Each
stage writes what it found before the next one reads a file. So the output
tells how far the run came, and the error output which stage it stopped at and
why. Only a run that comes to its end exits with zero.
-/

set_option autoImplicit false

namespace CgroupLimits.Outcome
open CgroupLimits

def explanation (context : Text) (error : GroupError) : List Text :=
  ("Error: ".toList ++ context) :: [] :: "Caused by:".toList :: causeLines error.causes

/-- The runs with these options, by the stage that they come to. -/
inductive Run (files : Files) (host : Host) (options : Options) : Outcome → Prop
  | undiscovered {error : GroupError}
      (failed : Groups.ofFiles files options.mountTable options.membership = .error error) :
      Run files host options
        { exitCode := 1
          output := []
          errors := explanation ("failed to discover cgroups from ".toList ++
            options.mountTable.quoted ++ " and ".toList ++ options.membership.quoted) error }
  | quotaUnread {groups : Groups} {listing : List Text} {error : GroupError}
      (discovered : Groups.ofFiles files options.mountTable options.membership = .ok groups)
      (listed : Report.Lists groups listing) (failed : groups.cpuQuota files = .error error) :
      Run files host options
        { exitCode := 1
          output := listing
          errors := explanation "failed to read the CPU quota".toList error }
  | limitUnread {groups : Groups} {listing : List Text} {quota : Option Binary64}
      {procs : UInt64} {procsStatus : QuotaStatus} {error : GroupError}
      (discovered : Groups.ofFiles files options.mountTable options.membership = .ok groups)
      (listed : Report.Lists groups listing) (quotaRead : groups.cpuQuota files = .ok quota)
      (counted : procsFromQuota quota host.procs options.minProcs options.rounding =
        (procs, procsStatus))
      (failed : groups.memoryLimit files host.pageSize = .error error) :
      Run files host options
        { exitCode := 1
          output := listing ++ ["cpus: ".toList ++ Numeral.ofNat procs.toNat ++ " (".toList ++
            procsStatus.name ++ ")".toList]
          errors := explanation "failed to read the memory limit".toList error }
  | complete {groups : Groups} {listing : List Text} {quota : Option Binary64}
      {limit : Option UInt64} {procs memory : UInt64} {procsStatus : QuotaStatus}
      {memoryStatus : LimitStatus}
      (discovered : Groups.ofFiles files options.mountTable options.membership = .ok groups)
      (listed : Report.Lists groups listing) (quotaRead : groups.cpuQuota files = .ok quota)
      (counted : procsFromQuota quota host.procs options.minProcs options.rounding =
        (procs, procsStatus))
      (limitRead : groups.memoryLimit files host.pageSize = .ok limit)
      (measured : memoryFromLimit limit host.memory = (memory, memoryStatus)) :
      Run files host options
        { exitCode := 0
          output := listing ++
            ["cpus: ".toList ++ Numeral.ofNat procs.toNat ++ " (".toList ++ procsStatus.name ++
                ")".toList,
              "memory: ".toList ++ Numeral.ofNat memory.toNat ++ " bytes (".toList ++
                memoryStatus.name ++ ")".toList]
          errors := [] }

def Completes (files : Files) (host : Host) (options : Options) : Prop :=
  ∃ groups quota limit,
    Groups.ofFiles files options.mountTable options.membership = .ok groups ∧
      groups.cpuQuota files = .ok quota ∧ groups.memoryLimit files host.pageSize = .ok limit

variable {files : Files} {host : Host} {options : Options} {outcome : Outcome}

theorem run_of_report (files : Files) (host : Host) (options : Options) :
    Run files host options (ofReport (Report.ofFiles files host options)) := by
  cases hd : Groups.ofFiles files options.mountTable options.membership with
  | error error =>
    rw [Report.ofFiles, hd]
    exact .undiscovered hd
  | ok groups =>
    have hl := Report.lists_group_lines groups
    rw [Report.ofFiles, hd]
    cases hq : groups.cpuQuota files with
    | error error =>
      simp only [Report.cpuStage, hq, Report.after, List.append_nil]
      exact .quotaUnread hd hl hq
    | ok quota =>
      cases hm : groups.memoryLimit files host.pageSize with
      | error error =>
        simp only [Report.cpuStage, hq, Report.memoryStage, hm, Report.after, List.append_nil]
        exact .limitUnread hd hl hq rfl hm
      | ok limit =>
        simp only [Report.cpuStage, hq, Report.memoryStage, hm, Report.after]
        exact .complete hd hl hq rfl hm rfl

theorem Run.eq_of_report (h : Run files host options outcome) :
    outcome = ofReport (Report.ofFiles files host options) := by
  cases h with
  | undiscovered failed =>
    rw [Report.ofFiles, failed]
    rfl
  | quotaUnread discovered listed failed =>
    rw [listed.unique (Report.lists_group_lines _), Report.ofFiles, discovered]
    simp only [Report.cpuStage, failed, Report.after, List.append_nil]
    rfl
  | limitUnread discovered listed quotaRead counted failed =>
    rw [listed.unique (Report.lists_group_lines _), Report.ofFiles, discovered]
    simp only [Report.cpuStage, quotaRead, counted, Report.memoryStage, failed, Report.after,
      List.append_nil]
    rfl
  | complete discovered listed quotaRead counted limitRead measured =>
    rw [listed.unique (Report.lists_group_lines _), Report.ofFiles, discovered]
    simp only [Report.cpuStage, quotaRead, counted, Report.memoryStage, limitRead, measured,
      Report.after]
    rfl

theorem Run.exit_code_eq (h : Run files host options outcome) :
    outcome.exitCode = 0 ∧ Completes files host options ∨
      outcome.exitCode = 1 ∧ ¬ Completes files host options := by
  cases h with
  | undiscovered failed =>
    refine Or.inr ⟨rfl, ?_⟩
    rintro ⟨groups, quota, limit, hd, -, -⟩
    cases failed.symm.trans hd
  | quotaUnread discovered listed failed =>
    refine Or.inr ⟨rfl, ?_⟩
    rintro ⟨groups, quota, limit, hd, hq, -⟩
    cases discovered.symm.trans hd
    cases failed.symm.trans hq
  | limitUnread discovered listed quotaRead counted failed =>
    refine Or.inr ⟨rfl, ?_⟩
    rintro ⟨groups, quota, limit, hd, -, hm⟩
    cases discovered.symm.trans hd
    cases failed.symm.trans hm
  | complete discovered listed quotaRead counted limitRead measured =>
    exact Or.inl ⟨rfl, _, _, _, discovered, quotaRead, limitRead⟩

theorem head?_causes (error : GroupError) : error.causes.head? = some error.message := by
  cases error with
  | mountTable error => cases error <;> rfl
  | _ => rfl

/-- A run with accepted arguments is decided by the first stage that fails, and
its exit code says whether one did. -/
theorem of_arguments_by_stages {arguments : List Text}
    (h : CommandLine.parse arguments = .ok (.report options)) (files : Files) (host : Host) :
    (∀ outcome, ofArguments files host arguments = outcome ↔ Run files host options outcome) ∧
    ((ofArguments files host arguments).exitCode = 0 ↔ Completes files host options) ∧
    ((ofArguments files host arguments).exitCode = 1 ↔ ¬ Completes files host options) ∧
    ∀ error : GroupError, error.causes.head? = some error.message := by
  have ho : ofArguments files host arguments = ofReport (Report.ofFiles files host options) := by
    rw [ofArguments, h]
  have hr : Run files host options (ofArguments files host arguments) :=
    ho ▸ run_of_report files host options
  refine ⟨?_, ?_, ?_, head?_causes⟩
  · intro outcome
    constructor
    · rintro rfl
      exact hr
    · intro hrun
      rw [ho, hrun.eq_of_report]
  · rcases hr.exit_code_eq with ⟨he, hc⟩ | ⟨he, hc⟩ <;> simp [he, hc]
  · rcases hr.exit_code_eq with ⟨he, hc⟩ | ⟨he, hc⟩ <;> simp [he, hc]

def sampleArguments : List Text :=
  ["--mountinfo=m".toList, "--rounding".toList, "ceil".toList, "--min-procs=2".toList,
    "--cgroup".toList, "c".toList]

def sampleOptions : Options where
  mountTable := "m".toList
  membership := "c".toList
  minProcs := 2
  rounding := .ceil

def separateFiles : Files := fun path =>
  if path = "m".toList then
    .ok { content := Utf8.encode "32 23 0:25 / /mem rw - cgroup cgroup rw,memory\n".toList ++
      Utf8.encode "31 23 0:24 / /cpu rw - cgroup cgroup rw,cpu\n".toList }
  else if path = "c".toList then
    .ok { content := Utf8.encode "3:memory:/a\n2:cpu:/a\n".toList }
  else if path = "/cpu/a/cpu.cfs_quota_us".toList then
    .ok { content := Utf8.encode "250000\n".toList }
  else if path = "/cpu/a/cpu.cfs_period_us".toList then
    .ok { content := Utf8.encode "100000\n".toList }
  else if path = "/mem/a/memory.limit_in_bytes".toList then
    .ok { content := Utf8.encode "4096\n".toList }
  else .error .noSuchFile

def separateDirectories : Directories where
  entries := [("memory".toList, "/mem/a".toList), ("cpu".toList, "/cpu/a".toList)]
  distinct := by decide

def separateListing : List Text :=
  ["cgroup: v1".toList, "  cpu: /cpu/a".toList, "  memory: /mem/a".toList]

def unifiedFiles (quota : Text) : Files := fun path =>
  if path = "m".toList then
    .ok { content := Utf8.encode "30 23 0:26 /ctr /u rw - cgroup2 cgroup2 rw\n".toList }
  else if path = "c".toList then .ok { content := Utf8.encode "0::/ctr/app\n".toList }
  else if path = "/u/app/cpu.max".toList then .ok { content := Utf8.encode quota }
  else .error .noSuchFile

def unifiedListing : List Text := ["cgroup: v2".toList, "  unified: /u/app".toList]

def sampleHost : Host := ⟨8, 17179869184, .ok (some 4096)⟩

def mutedHost : Host := { sampleHost with pageSize := .error "EINVAL: Invalid argument".toList }

theorem lists_separate_directories :
    Report.Lists (.v1 separateDirectories) separateListing := by
  have hp : [("cpu".toList, "/cpu/a".toList), ("memory".toList, "/mem/a".toList)].Perm
      separateDirectories.entries := .swap _ _ []
  exact .v1 hp (List.pairwise_pair.mpr (by decide +kernel))

theorem of_arguments_by_stages_sample :
    CommandLine.parse sampleArguments = .ok (.report sampleOptions) ∧
      ofArguments separateFiles sampleHost sampleArguments =
        ⟨0, separateListing ++ ["cpus: 3 (used)".toList, "memory: 4096 bytes (used)".toList],
          []⟩ ∧
      Completes separateFiles sampleHost sampleOptions ∧
      ofArguments separateFiles mutedHost sampleArguments =
        ⟨1, separateListing ++ ["cpus: 3 (used)".toList],
          ["Error: failed to read the memory limit".toList, [], "Caused by:".toList,
            "    0: system call failed: EINVAL: Invalid argument".toList,
            "    1: EINVAL: Invalid argument".toList]⟩ ∧
      ofArguments (unifiedFiles "50000\n".toList) sampleHost sampleArguments =
        ⟨1, unifiedListing ++ ["cpus: 2 (min used)".toList],
          ["Error: failed to read the memory limit".toList, [], "Caused by:".toList,
            "    0: I/O error: No such file or directory (os error 2)".toList,
            "    1: No such file or directory (os error 2)".toList]⟩ ∧
      ofArguments (unifiedFiles "many\n".toList) sampleHost sampleArguments =
        ⟨1, unifiedListing,
          ["Error: failed to read the CPU quota".toList, [], "Caused by:".toList,
            "    invalid value \"many\" in \"/u/app/cpu.max\"".toList]⟩ ∧
      ¬ Completes (unifiedFiles "many\n".toList) sampleHost sampleOptions ∧
      ofArguments (fun _ => .error .permissionDenied) sampleHost sampleArguments =
        ⟨1, [],
          ["Error: failed to discover cgroups from \"m\" and \"c\"".toList, [],
            "Caused by:".toList, "    0: I/O error: Permission denied (os error 13)".toList,
            "    1: Permission denied (os error 13)".toList]⟩ := by
  have hp : CommandLine.parse sampleArguments = .ok (.report sampleOptions) := by
    decide +kernel
  have discovered : Groups.ofFiles separateFiles "m".toList "c".toList =
      .ok (.v1 separateDirectories) := by decide +kernel
  have quotaRead : (Groups.v1 separateDirectories).cpuQuota separateFiles =
      .ok (some (cpusOf 250000 100000)) := by decide +kernel
  have counted : procsFromQuota (some (cpusOf 250000 100000)) 8 2 .ceil = (3, .used) := by
    decide +kernel
  have limitRead : (Groups.v1 separateDirectories).memoryLimit separateFiles
      sampleHost.pageSize = .ok (some 4096) := by decide +kernel
  have limitUnread : (Groups.v1 separateDirectories).memoryLimit separateFiles
      mutedHost.pageSize = .error (.internal "EINVAL: Invalid argument".toList) := by
    decide +kernel
  have complete : ofArguments separateFiles sampleHost sampleArguments = _ :=
    ((of_arguments_by_stages hp separateFiles sampleHost).1 _).mpr
      (.complete discovered lists_separate_directories quotaRead counted limitRead rfl)
  have muted : ofArguments separateFiles mutedHost sampleArguments = _ :=
    ((of_arguments_by_stages hp separateFiles mutedHost).1 _).mpr
      (.limitUnread discovered lists_separate_directories quotaRead counted limitUnread)
  refine ⟨hp, complete.trans (by decide +kernel), ?_, muted.trans (by decide +kernel), ?_, ?_, ?_,
    ?_⟩
  · exact (of_arguments_by_stages hp _ sampleHost).2.1.mp (by rw [complete])
  · decide +kernel
  · decide +kernel
  · exact (of_arguments_by_stages hp _ sampleHost).2.2.1.mp (by decide +kernel)
  · decide +kernel

end CgroupLimits.Outcome

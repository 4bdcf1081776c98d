import CgroupLimits.CommandLine
import CgroupLimits.Host
import CgroupLimits.Limit.Quota

/-!
# The report

Three stages, each of which reads files: discovery, the CPU quota, the memory
limit. A stage that succeeds writes its lines, the first one that fails ends
the report, and what was written before it stays. The failure names its stage
and then its causes, from the outermost to the innermost.
-/

set_option autoImplicit false

namespace CgroupLimits

inductive Stage where
  | discovery (mountTable membership : Text)
  | cpuQuota
  | memoryLimit
  deriving DecidableEq, Repr

def Stage.context : Stage → Text
  | .discovery mountTable membership =>
    "failed to discover cgroups from ".toList ++ mountTable.quoted ++ " and ".toList
      ++ membership.quoted
  | .cpuQuota => "failed to read the CPU quota".toList
  | .memoryLimit => "failed to read the memory limit".toList

structure Failure where
  stage : Stage
  error : GroupError
  deriving DecidableEq, Repr

structure Report where
  lines : List Text
  failure : Option Failure := none
  deriving DecidableEq, Repr

/-- Each cause is one message; the ones inside it follow. -/
def LineError.causes (error : LineError) : List Text :=
  match error with
  | .invalidId _ _ fault => [error.message, fault.message]
  | .malformed _ => [error.message]

def GroupError.causes (error : GroupError) : List Text :=
  match error with
  | .io fault => [error.message, fault.message]
  | .mountTable (.io fault) => [error.message, fault.message]
  | .mountTable (.line lineError) => error.message :: lineError.causes
  | .internal errno => [error.message, errno]
  | _ => [error.message]

namespace Report

/-- Names compare by the bytes of their UTF-8 form. -/
def nameLe (x y : Text × Text) : Bool := decide (Utf8.encode x.1 ≤ Utf8.encode y.1)

def directoryLine (entry : Text × Text) : Text :=
  "  ".toList ++ entry.1 ++ ": ".toList ++ entry.2

def groupLines : Groups → List Text
  | .v1 directories =>
    "cgroup: v1".toList :: (directories.entries.mergeSort nameLe).map directoryLine
  | .v2 directory => ["cgroup: v2".toList, directoryLine ("unified".toList, directory)]

def cpusLine (answer : UInt64 × QuotaStatus) : Text :=
  "cpus: ".toList ++ Numeral.ofNat answer.1.toNat ++ " (".toList ++ answer.2.name ++ ")".toList

def memoryLine (answer : UInt64 × LimitStatus) : Text :=
  "memory: ".toList ++ Numeral.ofNat answer.1.toNat ++ " bytes (".toList ++ answer.2.name
    ++ ")".toList

def memoryStage (files : Files) (host : Host) (groups : Groups) : Report :=
  match groups.memoryLimit files host.pageSize with
  | .error error => { lines := [], failure := some ⟨.memoryLimit, error⟩ }
  | .ok limit => { lines := [memoryLine (memoryFromLimit limit host.memory)] }

def after (lines : List Text) (rest : Report) : Report := { rest with lines := lines ++ rest.lines }

def cpuStage (files : Files) (host : Host) (options : Options) (groups : Groups) : Report :=
  match groups.cpuQuota files with
  | .error error => { lines := [], failure := some ⟨.cpuQuota, error⟩ }
  | .ok quota =>
    after [cpusLine (procsFromQuota quota host.procs options.minProcs options.rounding)]
      (memoryStage files host groups)

def ofFiles (files : Files) (host : Host) (options : Options) : Report :=
  match Groups.ofFiles files options.mountTable options.membership with
  | .error error =>
    { lines := [], failure := some ⟨.discovery options.mountTable options.membership, error⟩ }
  | .ok groups => after (groupLines groups) (cpuStage files host options groups)

end Report

/-- A single cause stands alone, several are numbered from zero. -/
def causeLines : List Text → List Text
  | [cause] => ["    ".toList ++ cause]
  | causes =>
    causes.zipIdx.map fun (cause, index) =>
      "    ".toList ++ Numeral.ofNat index ++ ": ".toList ++ cause

def Failure.lines (failure : Failure) : List Text :=
  ("Error: ".toList ++ failure.stage.context) :: [] :: "Caused by:".toList ::
    causeLines failure.error.causes

/-- What a run leaves behind: its exit code and the lines of its two outputs. -/
structure Outcome where
  exitCode : UInt8
  output : List Text
  errors : List Text
  deriving DecidableEq, Repr

namespace Outcome

def ofReport (report : Report) : Outcome :=
  match report.failure with
  | none => ⟨0, report.lines, []⟩
  | some failure => ⟨1, report.lines, failure.lines⟩

def versionLine : Text := "cgquota 0.1.0".toList

def helpLines : List Text :=
  ["Discover the cgroup limits that actually apply to a containerized process".toList,
    [],
    "Usage: cgquota [OPTIONS]".toList,
    [],
    "Options:".toList,
    "      --mountinfo <MOUNTINFO>  The mount table to read".toList ++
      " [default: /proc/self/mountinfo]".toList,
    "      --cgroup <CGROUP>        The cgroup membership file to read".toList ++
      " [default: /proc/self/cgroup]".toList,
    "      --min-procs <MIN_PROCS>  The lowest CPU count to report when a quota is set".toList ++
      " [default: 1]".toList,
    "      --rounding <ROUNDING>    How to turn a fractional CPU quota into a CPU count".toList ++
      " [default: floor] [possible values: floor, ceil]".toList,
    "  -h, --help                   Print help".toList,
    "  -V, --version                Print version".toList]

/-- A command line that is refused has an exit code of its own. What is said
about it is left to the caller, who is given the error by `CommandLine.parse`. -/
def ofArguments (files : Files) (host : Host) (arguments : List Text) : Outcome :=
  match CommandLine.parse arguments with
  | .error _ => ⟨2, [], []⟩
  | .ok .version => ⟨0, [versionLine], []⟩
  | .ok .help => ⟨0, helpLines, []⟩
  | .ok (.report options) => ofReport (Report.ofFiles files host options)

end Outcome
end CgroupLimits

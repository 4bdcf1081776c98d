import CgroupLimits.Binary64
import CgroupLimits.Group.Discovery
import CgroupLimits.Limit.ControlFile
import CgroupLimits.Limit.PageSize

/-!
# CPU quotas and memory limits

Both versions state a CPU quota as time per period: v1 in two files, v2 as one
or two words of `cpu.max`. Without a limit v1 has a negative quota and the
largest page-aligned number of bytes, v2 the word `max`. No controller means no
limit.
-/

set_option autoImplicit false

namespace CgroupLimits

def cpuController : Text := "cpu".toList

def memoryController : Text := "memory".toList

def quotaFile : Text := "cpu.cfs_quota_us".toList

def periodFile : Text := "cpu.cfs_period_us".toList

def cpuMaxFile : Text := "cpu.max".toList

def memoryLimitFile : Text := "memory.limit_in_bytes".toList

def memoryMaxFile : Text := "memory.max".toList

def unlimitedWord : Text := "max".toList

/-- The period, in microseconds, of a `cpu.max` that names none. -/
def defaultPeriod : Int64 := 100000

/-- Both integers are rounded to binary64 before they are divided. -/
def cpusOf (quota period : Int64) : Binary64 :=
  (Binary64.ofInt quota.toInt).div (Binary64.ofInt period.toInt)

namespace ControlFile

/-- The period is not looked at while the quota says that there is no limit. -/
def cpuQuotaV1 (files : Files) (directory : Text) : Except GroupError (Option Binary64) := do
  let quota ← readInt files directory quotaFile
  if quota ≤ 0 then return none
  else
    let period ← readInt files directory periodFile
    if period ≤ 0 then
      throw (.invalidValue (Path.join directory periodFile) (Numeral.ofInt period.toInt))
    else return some (cpusOf quota period)

def positive? (field : Text) : Option Int64 :=
  match Numeral.int64 field with
  | .ok n => if n ≤ 0 then none else some n
  | .error _ => none

def cpuMaxOf? (line : Text) : Option (Option Binary64) :=
  match line.words with
  | [quota] =>
    if quota = unlimitedWord then some none
    else (positive? quota).map fun q => some (cpusOf q defaultPeriod)
  | [quota, period] =>
    if quota = unlimitedWord then some none
    else match positive? quota, positive? period with
      | some q, some p => some (some (cpusOf q p))
      | _, _ => none
  | _ => none

def cpuQuotaV2 (files : Files) (directory : Text) : Except GroupError (Option Binary64) := do
  let line ← readFirstLine files directory cpuMaxFile
  match cpuMaxOf? line with
  | some quota => return quota
  | none => throw (.invalidValue (Path.join directory cpuMaxFile) line)

def memoryLimitV1 (files : Files) (answer : PageSizeAnswer) (directory : Text) :
    Except GroupError (Option UInt64) := do
  let limit ← readInt files directory memoryLimitFile
  if limit < 0 then
    throw (.invalidValue (Path.join directory memoryLimitFile) (Numeral.ofInt limit.toInt))
  else
    let page ← pageSize answer
    if limit.toInt.toNat < unlimitedBytes page then
      return some (UInt64.ofNat limit.toInt.toNat)
    else return none

def memoryLimitV2 (files : Files) (directory : Text) : Except GroupError (Option UInt64) := do
  let line ← readFirstLine files directory memoryMaxFile
  if line = unlimitedWord then return none
  else match Numeral.uint64 line with
    | .ok limit => return some limit
    | .error _ => throw (.invalidValue (Path.join directory memoryMaxFile) line)

end ControlFile

namespace Groups

def cpuQuota (files : Files) (groups : Groups) : Except GroupError (Option Binary64) :=
  match groups.directory? cpuController, groups with
  | none, _ => .ok none
  | some directory, .v1 _ => ControlFile.cpuQuotaV1 files directory
  | some directory, .v2 _ => ControlFile.cpuQuotaV2 files directory

def memoryLimit (files : Files) (answer : PageSizeAnswer) (groups : Groups) :
    Except GroupError (Option UInt64) :=
  match groups.directory? memoryController, groups with
  | none, _ => .ok none
  | some directory, .v1 _ => ControlFile.memoryLimitV1 files answer directory
  | some directory, .v2 _ => ControlFile.memoryLimitV2 files directory

section Found
variable {directories : Directories} {directory : Text}

theorem cpu_quota_of_found (found : directories.find? "cpu".toList = some directory)
    (files : Files) :
    (Groups.v1 directories).cpuQuota files = ControlFile.cpuQuotaV1 files directory := by
  have hd : (Groups.v1 directories).directory? cpuController = some directory := found
  simp only [cpuQuota, hd]

theorem memory_limit_of_found (found : directories.find? "memory".toList = some directory)
    (files : Files) (answer : PageSizeAnswer) :
    (Groups.v1 directories).memoryLimit files answer =
      ControlFile.memoryLimitV1 files answer directory := by
  have hd : (Groups.v1 directories).directory? memoryController = some directory := found
  simp only [memoryLimit, hd]

end Found

/-- Every file that a quota or a limit of these groups can be read from. -/
def controlFiles (groups : Groups) : List Text :=
  let at? (controller : Text) (parameters : List Text) : List Text :=
    match groups.directory? controller with
    | some directory => parameters.map (Path.join directory)
    | none => []
  match groups with
  | .v1 _ => at? cpuController [quotaFile, periodFile] ++ at? memoryController [memoryLimitFile]
  | .v2 _ => at? cpuController [cpuMaxFile] ++ at? memoryController [memoryMaxFile]

end Groups
end CgroupLimits

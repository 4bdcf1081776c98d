import CgroupLimits.Limit.PageSize
import CgroupLimits.Text.Blank

/-!
# The host

The CPUs that are online and the memory of the machine are what a process may
use where nothing limits it; the size of a page bounds what counts as a limit.
The kernel lists the CPUs as ranges, `0-3,6`, and the memory on the line
`MemTotal` of a table, in units of 1024 bytes. The size of a page is in the
vector that every process starts with.
-/

set_option autoImplicit false

namespace CgroupLimits

structure Host where
  procs : UInt64
  memory : UInt64
  pageSize : PageSizeAnswer
  deriving Repr

namespace Host

def natural? (s : Text) : Option Nat :=
  match Numeral.uint64 s with
  | .ok n => some n.toNat
  | .error _ => none

def cpusInRange? (range : Text) : Option Nat :=
  match (splitOn '-' range).map natural? with
  | [some _] => some 1
  | [some first, some last] => if first ≤ last then some (last-first+1) else none
  | _ => none

def cpusOnline? (list : Text) : Option Nat :=
  (splitOn ',' list.trim).foldl
    (fun total range => total.bind fun n => (cpusInRange? range).map (n+·)) (some 0)

def memoryTotal? (table : Text) : Option Nat :=
  (splitOn '\n' table).findSome? fun line =>
    match Text.words line with
    | label :: amount :: _ =>
      if label = "MemTotal:".toList then (natural? amount).map (·*1024) else none
    | _ => none

def word (bytes : Bytes) : Nat := bytes.foldr (fun byte value => byte.toNat+256*value) 0

/-- The value of a key in a vector of pairs of 64-bit words. -/
def valueOf? (key : Nat) (vector : Bytes) : Option Nat :=
  if vector.length < 16 then none
  else if word (vector.take 8) = key then some (word ((vector.drop 8).take 8))
  else valueOf? key (vector.drop 16)
termination_by vector.length

def pageSizeKey : Nat := 6

def ofReadings? (cpuList memoryTable : Text) (vector : Bytes) : Option Host :=
  match cpusOnline? cpuList, memoryTotal? memoryTable with
  | some procs, some memory => some {
      procs := UInt64.ofNat procs
      memory := UInt64.ofNat memory
      pageSize := .ok ((valueOf? pageSizeKey vector).map Int64.ofNat) }
  | _, _ => none

end Host
end CgroupLimits

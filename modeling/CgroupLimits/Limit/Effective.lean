import CgroupLimits.Binary64
import CgroupLimits.Text.Basic

/-!
# What a process may use

A quota becomes a whole number of CPUs, at least a given minimum; without one
the CPUs of the host count. A memory limit replaces the memory of the host.
Each answer says where it comes from.
-/

set_option autoImplicit false

namespace CgroupLimits

inductive Rounding where
  | floor
  | ceil
  deriving DecidableEq, Repr

instance : Inhabited Rounding := ⟨.floor⟩

inductive QuotaStatus where
  | undefined
  | used
  | minimumUsed
  deriving DecidableEq, Repr

inductive LimitStatus where
  | undefined
  | used
  deriving DecidableEq, Repr

def QuotaStatus.name : QuotaStatus → Text
  | .undefined => "undefined".toList
  | .used => "used".toList
  | .minimumUsed => "min used".toList

def LimitStatus.name : LimitStatus → Text
  | .undefined => "undefined".toList
  | .used => "used".toList

inductive RoundingError where
  | unknownName (name : Text)
  deriving DecidableEq, Repr

def RoundingError.message : RoundingError → Text
  | .unknownName name => "invalid variant: ".toList ++ name

namespace Rounding

def name : Rounding → Text
  | .floor => "floor".toList
  | .ceil => "ceil".toList

def matchesName (ignoreCase : Bool) (rounding : Rounding) (s : Text) : Bool :=
  if ignoreCase then s.map Char.toLower == rounding.name else s == rounding.name

/-- Ignoring case concerns the ASCII letters only. -/
def ofName (ignoreCase : Bool) (s : Text) : Except RoundingError Rounding :=
  if matchesName ignoreCase .floor s then .ok .floor
  else if matchesName ignoreCase .ceil s then .ok .ceil
  else .error (.unknownName s)

def wholeCpus (rounding : Rounding) (units : Nat) : Nat :=
  match rounding with
  | .floor => units / Binary64.unitsPerOne
  | .ceil => (units+(Binary64.unitsPerOne-1)) / Binary64.unitsPerOne

def largestCount : Nat := 18446744073709551615

/-- The rounded number as a count. What is below zero, and what is no number,
counts zero; what is too large counts as much as there is room for. -/
def count (rounding : Rounding) (x : Binary64) : UInt64 :=
  match x.decode with
  | .finite false units => UInt64.ofNat (min (rounding.wholeCpus units) largestCount)
  | .finite true _ => 0
  | .infinite false => UInt64.ofNat largestCount
  | .infinite true => 0
  | .nan => 0

end Rounding

/-- A quota below the minimum is raised to it. The minimum says nothing about
a process without a quota. -/
def procsFromQuota (quota : Option Binary64) (hostProcs minProcs : UInt64)
    (rounding : Rounding) : UInt64 × QuotaStatus :=
  match quota with
  | none => (hostProcs, .undefined)
  | some cpus =>
    if rounding.count cpus < minProcs then (minProcs, .minimumUsed)
    else (rounding.count cpus, .used)

def memoryFromLimit (limit : Option UInt64) (hostTotal : UInt64) : UInt64 × LimitStatus :=
  match limit with
  | none => (hostTotal, .undefined)
  | some bytes => (bytes, .used)

end CgroupLimits

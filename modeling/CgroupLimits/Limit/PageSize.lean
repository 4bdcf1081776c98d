import CgroupLimits.Group.Error

/-!
# The size of a page

The system is asked how large a page is. The call can fail, and a size that the
system does not know, or that is not positive, is taken to be 4096 bytes.
-/

set_option autoImplicit false

namespace CgroupLimits

/-- What the system answers; without a size it knows none. -/
abbrev PageSizeAnswer := Except Text (Option Int64)

def defaultPageSize : Nat := 4096

def pageSize (answer : PageSizeAnswer) : Except GroupError Nat :=
  match answer with
  | .error errno => .error (.internal errno)
  | .ok (some size) => .ok (if 0 < size then size.toInt.toNat else defaultPageSize)
  | .ok none => .ok defaultPageSize

/-- The largest number of whole pages that a signed 64-bit count can hold. -/
def unlimitedBytes (page : Nat) : Nat := 9223372036854775807 - 9223372036854775807 % page

end CgroupLimits

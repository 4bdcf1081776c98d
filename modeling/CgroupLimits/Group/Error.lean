import CgroupLimits.Mount.Table

/-!
# What can go wrong with groups

One error for discovery and for the control files. What goes wrong in the mount
table, or when a path is not exposed by a mount, keeps its own wording. A call
of the system that fails without a file is known by what the system says of it.
-/

set_option autoImplicit false

namespace CgroupLimits

inductive GroupError where
  | io (fault : IoFault)
  | mountTable (error : TableError)
  | translate (error : TranslateError)
  | malformedEntry (line : Text)
  | invalidValue (path value : Text)
  | notMounted
  | internal (errno : Text)
  deriving DecidableEq, Repr

def GroupError.message : GroupError → Text
  | .io fault => "I/O error: ".toList ++ fault.message
  | .mountTable error => error.message
  | .translate error => error.message
  | .malformedEntry line => "invalid cgroup line: ".toList ++ line.quoted
  | .invalidValue path value =>
    "invalid value ".toList ++ value.quoted ++ " in ".toList ++ path.quoted
  | .notMounted => "no cgroup hierarchy is mounted for this process".toList
  | .internal errno => "system call failed: ".toList ++ errno

end CgroupLimits

import CgroupLimits.Path
import CgroupLimits.Text.Quoted

/-!
# Mount points

A mount shows one directory of a filesystem, its root, at one place of ours,
its mount point. A path of the filesystem is visible through the mount exactly
if it lies at or below the root, compared by component after normalizing, and
what lies below the root is then found below the mount point.
-/

set_option autoImplicit false

namespace CgroupLimits

structure MountPoint where
  mountId : Int32
  parentId : Int32
  deviceId : Text
  root : Text
  mountPoint : Text
  options : List Text
  optionalFields : List Text
  fsType : Text
  mountSource : Text
  superOptions : List Text
  deriving DecidableEq, Repr

inductive TranslateError where
  | notAbsolute (path : Text)
  | notExposed (mountPoint root path : Text)
  deriving DecidableEq, Repr

def TranslateError.message : TranslateError → Text
  | .notAbsolute path => "path ".toList ++ path.quoted ++ " is not absolute".toList
  | .notExposed mountPoint root path =>
    "path ".toList ++ path.quoted ++ " is not exposed by mount ".toList ++ mountPoint.quoted
      ++ " of ".toList ++ root.quoted

/-- Where a path of the mounted filesystem is visible. -/
def MountPoint.translate (mount : MountPoint) (path : Text) : Except TranslateError Text :=
  if Path.isAbsolute path then
    match (Path.normalize mount.root).isPrefixOf? (Path.normalize path) with
    | some below => .ok (Path.absolute (Path.normalize mount.mountPoint ++ below))
    | none => .error (.notExposed mount.mountPoint mount.root path)
  else .error (.notAbsolute path)

end CgroupLimits

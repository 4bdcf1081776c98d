import CgroupLimits.Group.Directories
import CgroupLimits.Group.Membership

/-!
# Discovering the groups of a process

The membership names each group from the root of its hierarchy; the mount
table says which part of a hierarchy is mounted where. Together they give the
directories that can be opened from inside a container.

A process that is only in the unified hierarchy has one directory for every
controller. As soon as one entry belongs to another hierarchy, each controller
has a directory of its own, or none if no mount exposes its group.
-/

set_option autoImplicit false

namespace CgroupLimits

inductive Groups where
  | v1 (directories : Directories)
  | v2 (directory : Text)
  deriving DecidableEq, Repr

namespace Groups

def controllerFsType : Text := "cgroup".toList

def unifiedFsType : Text := "cgroup2".toList

/-- The entry that speaks for a controller; of several the last one. -/
def entryFor? (entries : List Membership) (controller : Text) : Option Membership :=
  entries.reverse.find? (·.controllers.contains controller)

/-- One mount and one of its super options. A mount that does not expose the
group changes nothing, for another mount may expose it. -/
def addController (entries : List Membership) (mount : MountPoint) (found : Directories)
    (controller : Text) : Directories :=
  match entryFor? entries controller with
  | none => found
  | some entry =>
    match mount.translate entry.group with
    | .ok directory => found.insert controller directory
    | .error _ => found

def addMount (entries : List Membership) (found : Directories) (mount : MountPoint) :
    Directories :=
  if mount.fsType = controllerFsType then
    mount.superOptions.foldl (addController entries mount) found
  else found

def perController (mounts : List MountPoint) (entries : List Membership) : Directories :=
  mounts.foldl (addMount entries) Directories.empty

def unified (mounts : List MountPoint) (entries : List Membership) : Except GroupError Groups :=
  match entries.head?, mounts.find? (·.fsType == unifiedFsType) with
  | some entry, some mount =>
    match mount.translate entry.group with
    | .ok directory => .ok (.v2 directory)
    | .error error => .error (.translate error)
  | _, _ => .error .notMounted

def ofTables (mounts : List MountPoint) (entries : List Membership) :
    Except GroupError Groups :=
  if entries.all Membership.isUnified then unified mounts entries
  else
    let found := perController mounts entries
    if found.isEmpty then .error .notMounted else .ok (.v1 found)

def ofSources (mountTable membership : Source) : Except GroupError Groups := do
  let mounts ← (MountTable.read mountTable).mapError .mountTable
  let entries ← MembershipTable.read membership
  ofTables mounts entries

/-- Both files are opened before either of them is read. -/
def ofFiles (files : Files) (mountTable membership : Text) : Except GroupError Groups := do
  let mountSource ← (files mountTable).mapError .io
  let membershipSource ← (files membership).mapError .io
  ofSources mountSource membershipSource

/-- The directory with the control files of a controller. -/
def directory? (groups : Groups) (controller : Text) : Option Text :=
  match groups with
  | .v1 directories => directories.find? controller
  | .v2 directory => some directory

end Groups
end CgroupLimits

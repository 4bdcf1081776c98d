import CgroupLimits.Mount.Basic
import CgroupLimits.Text.Numeral
import CgroupLimits.Text.Octal

/-!
# Lines of a mount table

A line has six fixed fields, any number of optional ones, a lone `-`, and then
the filesystem type, the mount source and the super options:

    36 35 98:0 /mnt1 /mnt2 rw,noatime master:1 - ext3 /dev/root rw,errors=continue

Exactly one space stands between fields. The super options are the whole
remainder, for some filesystems put spaces there. The separator is looked for
behind the fixed fields only, so one of those may itself be `-`.
-/

set_option autoImplicit false

namespace CgroupLimits

inductive IdField where
  | mountId
  | parentId
  deriving DecidableEq, Repr

def IdField.name : IdField → Text
  | .mountId => "mount ID".toList
  | .parentId => "parent ID".toList

inductive LineError where
  | invalidId (field : IdField) (value : Text) (fault : NumeralFault)
  | malformed (line : Text)
  deriving DecidableEq, Repr

def NumeralFault.message : NumeralFault → Text
  | .empty => "cannot parse integer from empty string".toList
  | .invalidDigit => "invalid digit found in string".toList
  | .tooLarge => "number too large to fit in target type".toList
  | .tooSmall => "number too small to fit in target type".toList

def LineError.message : LineError → Text
  | .invalidId field value fault =>
    "invalid ".toList ++ field.name ++ " ".toList ++ value.quoted ++ ": ".toList ++ fault.message
  | .malformed line => "invalid mountinfo line: ".toList ++ line.quoted

def separator : Text := ['-']

def fixedFieldCount : Nat := 6

structure LineFields where
  mountId : Text
  parentId : Text
  deviceId : Text
  root : Text
  mountPoint : Text
  options : Text
  optionalFields : List Text
  fsType : Text
  mountSource : Text
  superOptions : Text
  deriving DecidableEq, Repr

namespace LineFields

def separatorIndex? (line : Text) : Option Nat :=
  (((splitOn ' ' line).drop fixedFieldCount).findIdx? (· == separator)).map (·+fixedFieldCount)

/-- Behind the separator only three more fields are cut off, so that the last
one keeps its spaces. -/
def ofLine? (line : Text) : Option LineFields :=
  match separatorIndex? line with
  | none => none
  | some index =>
    let fields := splitAtMost (index+4) ' ' line
    match fields.take index, fields.drop (index+1) with
    | mountId :: parentId :: deviceId :: root :: mountPoint :: options :: optionalFields,
        [fsType, mountSource, superOptions] =>
      some { mountId, parentId, deviceId, root, mountPoint, options, optionalFields, fsType,
             mountSource, superOptions }
    | _, _ => none

def beforeSeparator (fields : LineFields) : List Text :=
  fields.mountId :: fields.parentId :: fields.deviceId :: fields.root :: fields.mountPoint ::
    fields.options :: fields.optionalFields

/-- No field is missing, and no second separator follows the first. -/
def isComplete (fields : LineFields) : Bool :=
  fields.beforeSeparator.all (· != []) &&
    [fields.fsType, fields.mountSource].all (fun field => field != [] && field != separator) &&
    fields.superOptions != []

def decodedRoot (fields : LineFields) : Text := Octal.decode fields.root

def decodedMountPoint (fields : LineFields) : Text := Octal.decode fields.mountPoint

def isRooted (fields : LineFields) : Bool :=
  Path.isAbsolute fields.decodedRoot && Path.isAbsolute fields.decodedMountPoint

def readId (field : IdField) (value : Text) : Except LineError Int32 :=
  (Numeral.int32 value).mapError (.invalidId field value)

def toMountPoint (fields : LineFields) : Except LineError MountPoint := do
  let mountId ← readId .mountId fields.mountId
  let parentId ← readId .parentId fields.parentId
  return {
    mountId, parentId
    deviceId := fields.deviceId
    root := fields.decodedRoot
    mountPoint := fields.decodedMountPoint
    options := splitOn ',' fields.options
    optionalFields := fields.optionalFields
    fsType := fields.fsType
    mountSource := Octal.decode fields.mountSource
    superOptions := splitOn ',' fields.superOptions }

end LineFields

namespace MountPoint

/-- The shape of the line is judged before its ids. -/
def ofLine (line : Text) : Except LineError MountPoint :=
  match LineFields.ofLine? line with
  | some fields =>
    if fields.isComplete && fields.isRooted then fields.toMountPoint
    else .error (.malformed line)
  | none => .error (.malformed line)

def toLine (mount : MountPoint) : Text :=
  joinWith ' ' (
    [Numeral.ofInt mount.mountId.toInt, Numeral.ofInt mount.parentId.toInt, mount.deviceId,
      Octal.encode mount.root, Octal.encode mount.mountPoint, joinWith ',' mount.options] ++
    mount.optionalFields ++
    [separator, mount.fsType, Octal.encode mount.mountSource, joinWith ',' mount.superOptions])

end MountPoint
end CgroupLimits

import CgroupLimits.Group.Error

/-!
# Control files

A control file holds its value on the first line. What follows that line is
never looked at, except that a file whose first line is blank is reported with
its whole content.
-/

set_option autoImplicit false

namespace CgroupLimits.ControlFile
open CgroupLimits

def firstLineOf (content : Text) : Text := Text.trim (content.takeWhile (· != '\n'))

/-- The first line without the blanks around it. -/
def readFirstLine (files : Files) (directory parameter : Text) : Except GroupError Text := do
  let path := Path.join directory parameter
  let source ← (files path).mapError .io
  let content ← source.text.mapError .io
  if firstLineOf content = [] then throw (.invalidValue path content)
  else return firstLineOf content

def readInt (files : Files) (directory parameter : Text) : Except GroupError Int64 := do
  let line ← readFirstLine files directory parameter
  match Numeral.int64 line with
  | .ok n => return n
  | .error _ => throw (.invalidValue (Path.join directory parameter) line)

end CgroupLimits.ControlFile

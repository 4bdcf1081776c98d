import CgroupLimits.Text.Numeral
import CgroupLimits.Text.Utf8

/-!
# Files as they are read

Opening a path either fails or gives a source: the bytes that arrive and, if
the reading breaks off, the fault that ends it. A directory opens like a file
and fails when it is read.
-/

set_option autoImplicit false

namespace CgroupLimits

/-- A fault is known by its message only. -/
structure IoFault where
  message : Text
  deriving DecidableEq, Repr

namespace IoFault

/-- What a call of the system ends with: its errors have a description and a number. -/
def ofSystem (description : Text) (number : Nat) : IoFault where
  message := description ++ " (os error ".toList ++ Numeral.ofNat number ++ ")".toList

def noSuchFile : IoFault := ofSystem "No such file or directory".toList 2

def permissionDenied : IoFault := ofSystem "Permission denied".toList 13

def fileExists : IoFault := ofSystem "File exists".toList 17

def notADirectory : IoFault := ofSystem "Not a directory".toList 20

def isADirectory : IoFault := ofSystem "Is a directory".toList 21

def nameTooLong : IoFault := ofSystem "File name too long".toList 36

def nulInPath : IoFault := ⟨"file name contained an unexpected NUL byte".toList⟩

def notUtf8 : IoFault := ⟨"stream did not contain valid UTF-8".toList⟩

end IoFault

structure Source where
  content : Bytes
  fault : Option IoFault := none
  deriving DecidableEq, Repr

abbrev Files := Text → Except IoFault Source

def lineFeed : UInt8 := 0x0A

namespace Source

/-- The lines that a line feed ends, without it. -/
def finishedLines (source : Source) : List Bytes := (splitOn lineFeed source.content).dropLast

/-- What follows the last line feed; a broken reading never delivers it. -/
def unfinishedLine (source : Source) : Bytes := (splitOn lineFeed source.content).getLastD []

def text (source : Source) : Except IoFault Text :=
  match source.fault with
  | some fault => .error fault
  | none =>
    match Utf8.decode? source.content with
    | some content => .ok content
    | none => .error .notUtf8

end Source
end CgroupLimits

import CgroupLimits.Text.Basic

/-!
# Paths by component

A path is read as a walk from the top: empty components and `.` stay, `..`
goes up and stays at the top, anything else goes down. Where the walk ends is
the normal form of the path, and two spellings name the same place when their
normal forms agree. No file is consulted.
-/

set_option autoImplicit false

namespace CgroupLimits.Path
open CgroupLimits

/-- One component of the walk; `place` lists the components from the top. -/
def descend (place : List Text) (component : Text) : List Text :=
  if component = [] ∨ component = ['.'] then place
  else if component = ['.', '.'] then place.dropLast
  else place ++ [component]

def walk (place : List Text) (components : List Text) : List Text :=
  components.foldl descend place

def normalize (path : Text) : List Text := walk [] (splitOn '/' path)

def isAbsolute (path : Text) : Bool := path.head? == some '/'

def absolute (place : List Text) : Text := '/' :: joinWith '/' place

/-- The path of `entry` within the directory `base`. An absolute entry is kept
as it is. Nothing is normalized, so an empty entry leaves a trailing slash. -/
def join (base entry : Text) : Text :=
  if isAbsolute entry then entry
  else if base = [] ∨ base.getLast? = some '/' then base ++ entry
  else base ++ '/' :: entry

end CgroupLimits.Path

import CgroupLimits.Files.Basic
import CgroupLimits.Path

/-!
# A tree of files

A file system held as a value: files and directories by their place, without
links. Every path is walked component by component, and every component is
looked up in a directory: a slash behind a file fails, and so does a name that
does not exist even if `..` follows it. What makes directories makes every one
that the path passes through, also where `..` leaves it again.
-/

set_option autoImplicit false

namespace CgroupLimits

inductive Node where
  | file (content : Bytes)
  | directory
  deriving DecidableEq, Repr

/-- Relative paths start at the working directory. -/
structure Tree where
  nodes : List (List Text × Node)
  workingDirectory : List Text
  deriving Repr

namespace Tree

def empty : Tree := ⟨[], []⟩

def node? (tree : Tree) (place : List Text) : Option Node :=
  if place = [] then some .directory else tree.nodes.lookup place

def erase (tree : Tree) (place : List Text) : Tree :=
  { tree with nodes := tree.nodes.filter (·.1 != place) }

def put (tree : Tree) (place : List Text) (node : Node) : Tree :=
  { tree with nodes := (place, node) :: (tree.erase place).nodes }

def longestName : Nat := 255

def pathLimit : Nat := 4096

def isTooLong (name : Text) : Bool := decide (longestName < (Utf8.encode name).length)

def isStep (component : Text) : Bool :=
  component == [] || component == ['.'] || component == ['.', '.']

/-- One component looked up from the node at `place`. -/
def enter (tree : Tree) (place : List Text) (component : Text) :
    Except IoFault (List Text) :=
  if tree.node? place ≠ some .directory then .error .notADirectory
  else if isStep component then
    .ok (if component = ['.', '.'] then place.dropLast else place)
  else if isTooLong component then .error .nameTooLong
  else if (tree.node? (place ++ [component])).isNone then .error .noSuchFile
  else .ok (place ++ [component])

def components (path : Text) : Except IoFault (List Text) :=
  if path.contains '\x00' then .error .nulInPath
  else if path = [] then .error .noSuchFile
  else if pathLimit ≤ (Utf8.encode path).length then .error .nameTooLong
  else .ok (splitOn '/' path)

def start (tree : Tree) (path : Text) : List Text :=
  if Path.isAbsolute path then [] else tree.workingDirectory

def locate (tree : Tree) (path : Text) : Except IoFault (List Text) := do
  (← components path).foldlM tree.enter (tree.start path)

def files (tree : Tree) : Files := fun path =>
  match tree.locate path with
  | .error fault => .error fault
  | .ok place =>
    match tree.node? place with
    | some (.file content) => .ok { content }
    | some .directory => .ok { content := [], fault := some .isADirectory }
    | none => .error .noSuchFile

/-- The directory that holds the last name of the path, and that name. -/
def entry (tree : Tree) (path : Text) : Except IoFault (List Text × Text) := do
  let names := (← components path).reverse.dropWhile (· == [])
  let place ← names.tail.reverse.foldlM tree.enter (tree.start path)
  if tree.node? place = some .directory then return (place, names.headD [])
  else throw .notADirectory

def isDirectory (tree : Tree) (path : Text) : Bool :=
  match tree.locate path with
  | .ok place => tree.node? place == some .directory
  | .error _ => false

def addDirectory (tree : Tree) (path : Text) : Except IoFault Tree := do
  let (place, name) ← tree.entry path
  if isStep name then throw .fileExists
  else if isTooLong name then throw .nameTooLong
  else if (tree.node? (place ++ [name])).isSome then throw .fileExists
  else return tree.put (place ++ [name]) .directory

def lacksParent (tree : Tree) (path : Text) : Bool :=
  match tree.addDirectory path with
  | .error fault => fault == .noSuchFile
  | .ok _ => false

def putFile (tree : Tree) (path : Text) (content : Bytes) : Except IoFault Tree := do
  let (place, name) ← tree.entry path
  if isStep name ∨ path.getLast? = some '/' then throw .isADirectory
  else if isTooLong name then throw .nameTooLong
  else if tree.node? (place ++ [name]) = some .directory then throw .isADirectory
  else return tree.put (place ++ [name]) (.file content)

def remove (tree : Tree) (path : Text) : Except IoFault Tree := do
  let place ← tree.locate path
  if tree.node? place = some .directory then throw .isADirectory else return tree.erase place

/-- A change of a tree in several steps. One that fails keeps what the steps
before the fault have made. -/
abbrev Change := ExceptT IoFault (StateM Tree)

namespace Change

def step (next : Tree → Except IoFault Tree) : Change Unit := do
  match next (← get) with
  | .ok tree => set tree
  | .error fault => throw fault

def ensureDirectory (path : Text) : Change Unit := do
  match (← get).addDirectory path with
  | .ok tree => set tree
  | .error fault =>
    if fault = .fileExists ∧ (← get).isDirectory path then return else throw fault

/-- Makes the directory after `above` if it lacks one to stand in. -/
def ensureWithin (above : Change Unit) (path : Text) : Change Unit := do
  if (← get).lacksParent path then above
  ensureDirectory path

def isIdle (component : Text) : Bool := component == [] || component == ['.']

/-- The directories along a path; `components` lists the last one first. -/
def ensureAll : List Text → Change Unit
  | [] => return
  | name :: above =>
    if isIdle name then ensureAll above
    else ensureWithin (ensureAll above) (joinWith '/' (name :: above).reverse)

def ensureParent (path : Text) : Change Unit :=
  ensureAll ((splitOn '/' path).reverse.dropWhile isIdle).tail

def makeDirectory (path : Text) : Change Unit := ensureWithin (ensureParent path) path

def write (path : Text) (content : Bytes) : Change Unit := do
  ensureParent path
  step (putFile · path content)

def remove (path : Text) : Change Unit := step (Tree.remove · path)

end Change
end Tree
end CgroupLimits

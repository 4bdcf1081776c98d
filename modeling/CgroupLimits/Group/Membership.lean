import CgroupLimits.Group.Error

/-!
# Membership of a process

The membership file says, hierarchy by hierarchy, which group a process is in:

    2:cpu,cpuacct:/docker/abc
    0::/user.slice

The group is all that follows the second colon. The entry with id zero and no
controller belongs to the unified hierarchy. Unlike mount paths, entries must
be UTF-8.
-/

set_option autoImplicit false

namespace CgroupLimits

structure Membership where
  hierarchyId : UInt32
  controllers : List Text
  group : Text
  deriving DecidableEq, Repr

namespace Membership

def isUnified (entry : Membership) : Bool := entry.hierarchyId == 0 && entry.controllers.isEmpty

/-- An empty list of controllers is written as nothing at all. -/
def readControllers (field : Text) : List Text :=
  if field = [] then [] else splitOn ',' field

def ofLine (line : Text) : Except GroupError Membership :=
  match splitAtMost 3 ':' line with
  | [id, controllers, group] =>
    match Numeral.uint32 id with
    | .ok hierarchyId =>
      .ok { hierarchyId, controllers := readControllers controllers, group }
    | .error _ => .error (.malformedEntry line)
  | _ => .error (.malformedEntry line)

def toLine (entry : Membership) : Text :=
  joinWith ':'
    [Numeral.ofNat entry.hierarchyId.toNat, joinWith ',' entry.controllers, entry.group]

end Membership

namespace MembershipTable

/-- The entry of a line, if the line is not blank. -/
def ofText (line : Text) : Except GroupError (List Membership) :=
  if line.isAllBlank then .ok [] else (Membership.ofLine line).map ([·])

def withoutReturn (line : Text) : Text :=
  if line.getLast? = some '\r' then line.dropLast else line

def decodeLine (line : Bytes) : Except GroupError Text :=
  match Utf8.decode? line with
  | some text => .ok text
  | none => .error (.io .notUtf8)

def ofLines : List Bytes → Except GroupError (List Membership)
  | [] => .ok []
  | line :: lines => do
    let text ← decodeLine line
    let entry ← ofText (withoutReturn text)
    let entries ← ofLines lines
    return entry ++ entries

/-- A carriage return before the end of a line belongs to the line ending only
where a line feed follows. -/
def read (source : Source) : Except GroupError (List Membership) := do
  let entries ← ofLines source.finishedLines
  match source.fault with
  | some fault => throw (.io fault)
  | none =>
    let text ← decodeLine source.unfinishedLine
    let last ← ofText text
    return entries ++ last

end MembershipTable
end CgroupLimits

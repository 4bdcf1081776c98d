import CgroupLimits.Files.Basic
import CgroupLimits.Mount.Line
import CgroupLimits.Text.Blank

/-!
# The mount table

One mount a line, blank lines aside. Paths are arbitrary bytes, so a line is
decoded lossily: a path that is no UTF-8 spoils neither its line nor the
table. The first line that is no mount is the error of the whole table.
-/

set_option autoImplicit false

namespace CgroupLimits

inductive TableError where
  | io (fault : IoFault)
  | line (error : LineError)
  deriving DecidableEq, Repr

def TableError.message : TableError → Text
  | .io fault => "failed to read mount table: ".toList ++ fault.message
  | .line error => "failed to parse mount table: ".toList ++ error.message

namespace MountTable

def endsLine (c : Char) : Bool := c == '\n' || c == '\r'

def lineText (line : Bytes) : Text := Text.trimEndWhen endsLine (Utf8.decodeLossy line)

def ofLines : List Bytes → Except LineError (List MountPoint)
  | [] => .ok []
  | line :: lines =>
    if (lineText line).isAllBlank then ofLines lines
    else do
      let mount ← MountPoint.ofLine (lineText line)
      let mounts ← ofLines lines
      return mount :: mounts

/-- A reading that breaks off reports its fault, unless a line before it is
bad. -/
def read (source : Source) : Except TableError (List MountPoint) := do
  let mounts ← (ofLines source.finishedLines).mapError .line
  match source.fault with
  | some fault => throw (.io fault)
  | none =>
    let last ← (ofLines [source.unfinishedLine]).mapError .line
    return mounts ++ last

end MountTable
end CgroupLimits

import CgroupLimits.Report

/-!
# The command

Reads the files that a report can ask for and prints what the report says.
All decisions are made by `Outcome.ofArguments`.
-/

set_option autoImplicit false

namespace CgroupLimits.Command

/-- The errors of the system come with its description and their number. -/
def faultOf : IO.Error → IoFault
  | .alreadyExists _ number text | .interrupted _ number text
  | .noFileOrDirectory _ number text | .invalidArgument _ number text
  | .permissionDenied _ number text | .resourceExhausted _ number text
  | .inappropriateType _ number text | .noSuchThing _ number text
  | .otherError number text | .resourceBusy number text | .resourceVanished number text
  | .unsupportedOperation number text | .hardwareFault number text
  | .unsatisfiedConstraints number text | .illegalOperation number text
  | .protocolError number text | .timeExpired number text => .ofSystem text.toList number.toNat
  | .unexpectedEof => ⟨"unexpected end of file".toList⟩
  | .userError text => ⟨text.toList⟩

partial def readRest (handle : IO.FS.Handle) (content : ByteArray) : IO Source := do
  match ← (handle.read 65536).toBaseIO with
  | .error e => return { content := content.toList, fault := some (faultOf e) }
  | .ok chunk =>
    if chunk.isEmpty then return { content := content.toList }
    else readRest handle (content ++ chunk)

def fetch (path : Text) : IO (Text × Except IoFault Source) := do
  if path.contains '\x00' then return (path, .error .nulInPath)
  match ← (IO.FS.Handle.mk (String.ofList path) .read).toBaseIO with
  | .error e => return (path, .error (faultOf e))
  | .ok handle => return (path, .ok (← readRest handle ByteArray.empty))

def filesOf (fetched : List (Text × Except IoFault Source)) : Files := fun path =>
  (fetched.lookup path).getD (.error .noSuchFile)

def fetchFor (options : Options) : IO Files := do
  let tables ← [options.mountTable, options.membership].mapM fetch
  match Groups.ofFiles (filesOf tables) options.mountTable options.membership with
  | .error _ => return filesOf tables
  | .ok groups => return filesOf (tables ++ (← groups.controlFiles.mapM fetch))

def bytesAt (path : Text) : IO Bytes := do
  match (← fetch path).2 with
  | .ok source => return source.content
  | .error _ => return []

def textAt (path : Text) : IO Text := return Utf8.decodeLossy (← bytesAt path)

def host : IO Host := do
  let cpuList ← textAt "/sys/devices/system/cpu/online".toList
  let memoryTable ← textAt "/proc/meminfo".toList
  let vector ← bytesAt "/proc/self/auxv".toList
  match Host.ofReadings? cpuList memoryTable vector with
  | some found => return found
  | none => throw (IO.userError "the size of the host is unknown")

def printTo (stream : IO.FS.Stream) (lines : List Text) : IO Unit :=
  lines.forM fun line => stream.putStrLn (String.ofList line)

end CgroupLimits.Command

open CgroupLimits CgroupLimits.Command in
def main (arguments : List String) : IO UInt32 := do
  let arguments := arguments.map String.toList
  let (files, size) ←
    match CommandLine.parse arguments with
    | .ok (.report options) => pure (← fetchFor options, ← host)
    | .ok _ => pure (filesOf [], ⟨0, 0, .ok none⟩)
    | .error error => do
      IO.eprintln (reprStr error)
      pure (filesOf [], ⟨0, 0, .ok none⟩)
  let outcome := Outcome.ofArguments files size arguments
  printTo (← IO.getStdout) outcome.output
  printTo (← IO.getStderr) outcome.errors
  return outcome.exitCode.toUInt32

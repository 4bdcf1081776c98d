import CgroupLimits.Limit.Effective
import CgroupLimits.Text.Numeral

/-!
# The command line

Four options, each given at most once, with the value in the next argument or
behind an equals sign. The arguments are read from the left, and the first one
that is wrong, or that asks for the version or for help, ends the reading.
-/

set_option autoImplicit false

namespace CgroupLimits

inductive Setting where
  | mountTable
  | membership
  | minProcs
  | rounding
  deriving DecidableEq, Repr

namespace Setting

def name : Setting → Text
  | .mountTable => "mountinfo".toList
  | .membership => "cgroup".toList
  | .minProcs => "min-procs".toList
  | .rounding => "rounding".toList

def all : List Setting := [.mountTable, .membership, .minProcs, .rounding]

def named? (name : Text) : Option Setting := all.find? (·.name == name)

end Setting

inductive UsageError where
  | unknownOption (argument : Text)
  | unexpectedArgument (argument : Text)
  | unexpectedValue (argument : Text)
  | missingValue (setting : Setting)
  | badValue (setting : Setting) (value : Text)
  | repeated (setting : Setting)
  deriving DecidableEq, Repr

structure Options where
  mountTable : Text
  membership : Text
  minProcs : UInt64
  rounding : Rounding
  deriving DecidableEq, Repr

inductive Command where
  | report (options : Options)
  | version
  | help
  deriving DecidableEq, Repr

namespace CommandLine

structure Given where
  mountTable : Option Text := none
  membership : Option Text := none
  minProcs : Option UInt64 := none
  rounding : Option Rounding := none
  deriving DecidableEq, Repr

namespace Given

def options (given : Given) : Options where
  mountTable := given.mountTable.getD "/proc/self/mountinfo".toList
  membership := given.membership.getD "/proc/self/cgroup".toList
  minProcs := given.minProcs.getD 1
  rounding := given.rounding.getD default

def once {α : Type} (setting : Setting) (old : Option α) (new : α) :
    Except UsageError (Option α) :=
  if old.isSome then .error (.repeated setting) else .ok (some new)

def pathOf (setting : Setting) (value : Text) : Except UsageError Text :=
  if value = [] then .error (.badValue setting value) else .ok value

def set (given : Given) (setting : Setting) (value : Text) : Except UsageError Given := do
  match setting with
  | .mountTable =>
    let path ← pathOf setting value
    return { given with mountTable := ← once setting given.mountTable path }
  | .membership =>
    let path ← pathOf setting value
    return { given with membership := ← once setting given.membership path }
  | .minProcs =>
    let least ← (Numeral.uint64 value).mapError fun _ => .badValue setting value
    return { given with minProcs := ← once setting given.minProcs least }
  | .rounding =>
    let mode ← (Rounding.ofName false value).mapError fun _ => .badValue setting value
    return { given with rounding := ← once setting given.rounding mode }

end Given

/-- An argument by its form. A lone `-` is plain. -/
inductive Argument where
  | endOfOptions
  | long (name : Text) (value : Option Text)
  | short (flag : Char)
  | plain
  deriving DecidableEq, Repr

def isEquals (c : Char) : Bool := c == '='

def Argument.ofText : Text → Argument
  | ['-', '-'] => .endOfOptions
  | '-' :: '-' :: body =>
    .long (body.takeWhile (!isEquals ·)) (body.dropWhile (!isEquals ·)).tail?
  | '-' :: flag :: _ => .short flag
  | _ => .plain

inductive Stop where
  | answered (command : Command)
  | refused (error : UsageError)
  deriving DecidableEq, Repr

/-- A reading waits for the value of `pending`, if that is set. -/
structure Reading where
  given : Given := {}
  pending : Option Setting := none
  optionsEnded : Bool := false
  deriving DecidableEq, Repr

namespace Reading

def assign (reading : Reading) (setting : Setting) (value : Text) : Except Stop Reading := do
  let given ← (reading.given.set setting value).mapError .refused
  return { reading with given, pending := none }

def flag (argument : Text) (short : Char) : Stop :=
  if short = 'V' then .answered .version
  else if short = 'h' then .answered .help
  else .refused (.unknownOption argument)

def longOption (reading : Reading) (argument name : Text) (value : Option Text) :
    Except Stop Reading :=
  match Setting.named? name, value with
  | some setting, some value => reading.assign setting value
  | some setting, none => .ok { reading with pending := some setting }
  | none, some _ =>
    if name = "version".toList ∨ name = "help".toList then
      .error (.refused (.unexpectedValue argument))
    else .error (.refused (.unknownOption argument))
  | none, none =>
    if name = "version".toList then .error (.answered .version)
    else if name = "help".toList then .error (.answered .help)
    else .error (.refused (.unknownOption argument))

def step (reading : Reading) (argument : Text) : Except Stop Reading :=
  if reading.optionsEnded then .error (.refused (.unexpectedArgument argument))
  else
    match reading.pending, Argument.ofText argument with
    | some setting, .plain => reading.assign setting argument
    | some setting, _ => .error (.refused (.missingValue setting))
    | none, .endOfOptions => .ok { reading with optionsEnded := true }
    | none, .long name value => reading.longOption argument name value
    | none, .short short => .error (flag argument short)
    | none, .plain => .error (.refused (.unexpectedArgument argument))

def finish (reading : Reading) : Except UsageError Command :=
  match reading.pending with
  | some setting => .error (.missingValue setting)
  | none => .ok (.report reading.given.options)

end Reading

def parse (arguments : List Text) : Except UsageError Command :=
  match arguments.foldlM Reading.step {} with
  | .ok reading => reading.finish
  | .error (.answered command) => .ok command
  | .error (.refused error) => .error error

end CommandLine
end CgroupLimits

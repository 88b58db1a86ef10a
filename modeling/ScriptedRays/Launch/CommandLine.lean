import ScriptedRays.Device.Backend
import ScriptedRays.Launch.Style
import ScriptedRays.Text.Integer
import ScriptedRays.Text.Numeral

/-!
# CommandLine — the options of a run

An option takes a value: attached to it, or the next argument.  A value that stands by itself is only
examined when the next option comes or the arguments end, so an argument that does not belong there
at all is complained of before it; an attached value is examined at once.
-/

namespace ScriptedRays

/-- An option that takes a value. -/
inductive Flag where
  | config
  | backend
  | frames
  deriving DecidableEq, Inhabited

namespace Flag

def all : List Flag := [config, backend, frames]

/-- The name behind two dashes. -/
def name : Flag → String
  | config => "config"
  | backend => "backend"
  | frames => "frames"

/-- The letter behind one dash. -/
def letter? : Flag → Option Char
  | config => some 'c'
  | backend => some 'b'
  | frames => none

/-- What its value is called. -/
def placeholder : Flag → String
  | config => "CONFIG"
  | backend => "BACKEND"
  | frames => "FRAMES"

/-- The option with its value, as messages show it. -/
def usage (f : Flag) : String := "--" ++ f.name ++ " <" ++ f.placeholder ++ ">"

end Flag

/-- The options that were given. -/
structure Options where
  config : Option String := none
  backend : Option Preference := none
  frames : Option UInt32 := none
  deriving DecidableEq, Inhabited

namespace Options

def defaultFrames : UInt32 := 3

/-- Whether an option was given. -/
def has (o : Options) : Flag → Bool
  | .config => o.config.isSome
  | .backend => o.backend.isSome
  | .frames => o.frames.isSome

end Options

/-- What is wrong with the arguments. -/
inductive Misuse where
  | unexpected (argument : String)
  | missing (flag : Flag)
  | repeated (flag : Flag)
  | invalid (flag : Flag) (value reason : String)
  /-- The request for help takes no value. -/
  | helpValue (value : String)
  deriving DecidableEq, Inhabited

/-- The wording, in colours. -/
def Misuse.message (m : Misuse) : String :=
  let wrong (s : String) : String := "'" ++ Style.yellow.paint true s ++ "'"
  let known (s : String) : String := "'" ++ Style.bold.paint true s ++ "'"
  Style.red.paint true "error:" ++ " " ++
    match m with
    | unexpected argument => "unexpected argument " ++ wrong argument ++ " found"
    | missing flag => "a value is required for " ++ wrong flag.usage ++ " but none was supplied"
    | repeated flag => "the argument " ++ wrong flag.usage ++ " cannot be used multiple times"
    | invalid flag value reason =>
      "invalid value " ++ wrong value ++ " for " ++ known flag.usage ++ ": " ++ reason
    | helpValue value =>
      "unexpected value " ++ wrong value ++ " for " ++ known "--help" ++
        " found; no more were expected"

/-- Why the arguments do not lead to a run. -/
inductive Halt where
  | help
  | misuse (m : Misuse)
  deriving DecidableEq, Inhabited

namespace Options

/-- A number of frames. -/
def readFrames (s : String) : Except String UInt32 :=
  match Text.readInteger s with
  | .error fault => .error fault.message
  | .ok n =>
    if 0 ≤ n ∧ n < UInt32.size then .ok (UInt32.ofNat n.toNat)
    else .error (Text.signed n ++ " is not in 0..=4294967295")

/-- Gives an option its value. -/
def give (o : Options) (f : Flag) (value : String) : Except Halt Options :=
  if o.has f then .error (.misuse (.repeated f))
  else
    let invalid (reason : String) : Halt := .misuse (.invalid f value reason)
    match f with
    | .config =>
      if value.isEmpty then .error (.misuse (.missing f)) else .ok { o with config := some value }
    | .backend =>
      match Preference.parse value with
      | .ok p => .ok { o with backend := some p }
      | .error e => .error (invalid e.message)
    | .frames =>
      match readFrames value with
      | .ok n => .ok { o with frames := some n }
      | .error reason => .error (invalid reason)

end Options

/-- The options so far, and the last one begun, which may still be without its value. -/
structure Scan where
  options : Options := {}
  begun : Option (Flag × Option String) := none
  deriving DecidableEq, Inhabited

namespace Scan

/-- Examines the option that was begun. -/
def settle (s : Scan) : Except Halt Options :=
  match s.begun with
  | none => .ok s.options
  | some (f, none) => .error (.misuse (.missing f))
  | some (f, some value) => s.options.give f value

/-- Meets an option, with the value attached to it if there is one. -/
def meet (s : Scan) (f : Flag) (attached : Option String) : Except Halt Scan := do
  let o ← s.settle
  match attached with
  | none => return ⟨o, some (f, none)⟩
  | some value => return ⟨← o.give f value, none⟩

/-- Meets a request for help. -/
def meetHelp (s : Scan) : Except Halt Scan := do
  discard s.settle
  throw .help

def unexpected (argument : String) : Except Halt Scan := .error (.misuse (.unexpected argument))

/-- An argument behind two dashes: a name, perhaps with an equals sign and a value. -/
def long (s : Scan) (argument : List Char) : Except Halt Scan :=
  let name := String.ofList (argument.takeWhile (· ≠ '='))
  let attached :=
    match argument.dropWhile (· ≠ '=') with
    | [] => none
    | _ :: value => some (String.ofList value)
  match Flag.all.find? fun f => f.name == name with
  | some f => s.meet f attached
  | none =>
    if name = "help" then
      match attached with
      | none => s.meetHelp
      | some value => .error (.misuse (.helpValue value))
    else unexpected ("--" ++ name)

/-- An argument behind one dash: a letter, perhaps with a value, which may have an equals sign before
it. -/
def short (s : Scan) (letter : Char) (rest : List Char) : Except Halt Scan :=
  match Flag.all.find? fun f => f.letter? == some letter with
  | some f =>
    s.meet f <|
      match rest with
      | [] => none
      | '=' :: value | value => some (String.ofList value)
  | none => if letter = 'h' then s.meetHelp else unexpected (String.ofList ['-', letter])

/-- An argument without dashes: the value of the option begun, or out of place. -/
def bare (s : Scan) (argument : String) : Except Halt Scan :=
  match s.begun with
  | some (f, none) => .ok { s with begun := some (f, some argument) }
  | _ => unexpected argument

/-- The options in all the arguments.  Behind two dashes that stand alone nothing is in place. -/
def run (s : Scan) : List String → Except Halt Options
  | [] => s.settle
  | argument :: rest =>
    match argument.toList with
    | ['-', '-'] =>
      match rest with
      | [] => s.settle
      | stray :: _ => .error (.misuse (.unexpected stray))
    | '-' :: '-' :: name => do (← s.long name).run rest
    | '-' :: letter :: more => do (← s.short letter more).run rest
    | _ => do (← s.bare argument).run rest

end Scan

/-- The options that arguments give. -/
def Options.parse (arguments : List String) : Except Halt Options := Scan.run {} arguments

end ScriptedRays

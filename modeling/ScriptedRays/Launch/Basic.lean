import ScriptedRays.Config.Load
import ScriptedRays.Launch.Help
import ScriptedRays.Launch.Scene
import ScriptedRays.Text.Sequence

/-!
# Launch — a whole run of the program

The arguments give the options, the options and the environment the configuration, and with it the
scene is played.  What a run leaves behind is a report, as data; the lines in which it is told come
last.
-/

namespace ScriptedRays

/-- The configuration in force: what is said on the command line comes last. -/
def Options.configure (o : Options) (read : String → Except Unreadable String)
    (env : Environment) : Except Config.Failure Config := do
  return (← Config.load o.config read env).update { backend := o.backend }

/-- Everything that is told when the scene is played under a configuration. -/
def Scene.records (config : Config) (frames : Nat) : List Record :=
  let run : Run := ({} : Run).tell (.info ("config: backend = " ++ config.backend.name ++
    ", log_level = " ++ config.verbosity.label))
  let (_, run) := run.after (run.session.startPreferred config.backend)
  let run := Scene.play frames run
  let (left, run) := run.after run.session.cleanup
  let run :=
    if 0 < left.total then
      run.tell (.warn (Text.decimal left.total ++ " resources were still alive at cleanup"))
    else run
  run.told.reverse

/-- What a run of the program leaves behind. -/
inductive Report where
  | help
  | misused (m : Misuse)
  | unconfigured (f : Config.Failure)
  /-- The scene was played; these are the records shown. -/
  | played (shown : List Record)

/-- A run of the program. -/
def launch (arguments : List String) (read : String → Except Unreadable String)
    (env : Environment) : Report :=
  match Options.parse arguments with
  | .error .help => .help
  | .error (.misuse m) => .misused m
  | .ok o =>
    match o.configure read env with
    | .error f => .unconfigured f
    | .ok config =>
      let installed := config.verbosity.install none
      .played ((installed.log ++ Scene.records config (o.frames.getD Options.defaultFrames).toNat).filter
        fun r => installed.state.allows r.severity)

/-- When and where a record was told. -/
structure Stamp where
  /-- The time of the day, as the host's clock shows it. -/
  time : String
  /-- The file with the path to it. -/
  file : String
  /-- The line of the file, zero where it is not known. -/
  line : Nat

/-- The file without the path to it, whichever slash the path is written with, and the line. -/
def Stamp.place (s : Stamp) : String :=
  let name := (s.file.toList.reverse.takeWhile fun c => c != '/' && c != '\\').reverse
  String.ofList name ++ ":" ++ Text.decimal s.line

namespace Report

def exitCode : Report → UInt32
  | help | played _ => 0
  | unconfigured _ => 1
  | misused _ => 2

/-- The variables that ask for colours and forbid them. -/
def colourVariable : String := "CLICOLOR_FORCE"

def noColourVariable : String := "NO_COLOR"

/-- Whether to use colours where the output is no terminal: if one variable asks for them and the
other does not forbid it.  An empty variable counts as not set. -/
def colours (env : Environment) : Bool :=
  let isSet (name : String) : Bool := (env name).any fun value => !value.isEmpty
  isSet colourVariable && !isSet noColourVariable

/-- The style of a record's front. -/
def style : Severity → Style
  | .error => .red
  | .warn => .yellow
  | .info => .green
  | .debug => .blue
  | .trace => .cyan

/-- A record as a line, with the time and the place at which it was told. -/
def line (colours : Bool) (stamp : Stamp) (r : Record) : String :=
  let label := r.severity.label
  let padding := String.ofList (List.replicate (5 - label.length) ' ')
  (style r.severity).paint colours ("[" ++ stamp.time ++ "] " ++ label ++ padding) ++ " " ++
    Style.grey.paint colours ("[" ++ stamp.place ++ "]") ++ " " ++ r.text

/-- The lines on standard output. -/
def output (colours : Bool) : Report → List String
  | help => Help.lines colours
  | misused _ | unconfigured _ | played _ => []

/-- What is said about the arguments.  Arguments are shown as they are, so without colours the control
sequences in them are left out together with those of the colours. -/
def complaint (colours : Bool) (m : Misuse) : String :=
  let advice := "For more information, try '" ++ Style.bold.paint true "--help" ++ "'."
  let text := "\n".intercalate [m.message, "", advice]
  if colours then text else Text.withoutSequences text

/-- The lines on standard error, given the stamp of each record that is shown. -/
def errorOutput (colours : Bool) (stamps : Nat → Stamp) : Report → List String
  | help => []
  | misused m => (complaint colours m).splitOn "\n"
  | unconfigured f => ["Error: " ++ f.message, "", "Caused by:", "    " ++ f.reason]
  | played shown => shown.mapIdx fun i => line colours (stamps i)

end Report

end ScriptedRays

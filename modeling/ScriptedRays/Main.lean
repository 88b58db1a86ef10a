import ScriptedRays.Launch.Basic

/-!
# Main — the command line program
-/

open ScriptedRays

/-- The text of a file, or why it cannot be had. -/
def readText (path : String) : IO (Except Unreadable String) := do
  if path.contains '\x00' then return .error .nulInPath
  try
    return Bytes.text (← IO.FS.readBinFile path).toList
  catch
    | .noFileOrDirectory .. => return .error .missing
    -- A directory can be opened; it is reading that fails, and then no path is told.
    | .inappropriateType none .. => return .error .directory
    | .inappropriateType (some _) .. => return .error .throughFile
    | .invalidArgument .. => return .error .longName
    | .permissionDenied .. => return .error (.refused "Permission denied" 13)
    | _ => return .error (.refused "Input/output error" 5)

/-- The hours, minutes and seconds in some milliseconds. -/
def clockText (milliseconds : Nat) : String :=
  let seconds := milliseconds / 1000
  let two (n : Nat) : String := (if n < 10 then "0" else "") ++ Text.decimal n
  two (seconds / 3600) ++ ":" ++ two (seconds / 60 % 60) ++ ":" ++ two (seconds % 60)

/-- Plays the scene as the arguments and the environment ask, and tells how it went. -/
def main (arguments : List String) : IO UInt32 := do
  let names :=
    [Config.backendVariable, Config.verbosityVariable, Report.colourVariable,
      Report.noColourVariable]
  let values ← names.mapM fun name => return (name, ← IO.getEnv name)
  let env : Environment := fun name => (values.lookup name).join
  let path := (Options.parse arguments).toOption.bind Options.config
  let text ← path.elim (pure (.error .missing)) readText
  let report := launch arguments (fun _ => text) env
  let colours := Report.colours env
  let stamp : Stamp := ⟨clockText (← IO.monoMsNow), "rt-lifecycle", 0⟩
  for line in report.output colours do
    IO.println line
  for line in report.errorOutput colours fun _ => stamp do
    IO.eprintln line
  return report.exitCode

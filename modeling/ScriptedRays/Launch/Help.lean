import ScriptedRays.Launch.CommandLine

/-!
# Help — the summary of the options
-/

namespace ScriptedRays.Help

/-- What an option is for. -/
def purpose : Flag → String
  | .config => "TOML config file"
  | .backend => "Backend preference: auto | none | dxr | vulkan | metal"
  | .frames =>
    "Number of update + trace frames [default: " ++
      Text.decimal Options.defaultFrames.toNat ++ "]"

/-- An entry of the summary: a letter, a name and a placeholder in a column, then the purpose. -/
def entry (colours : Bool) (letter : Option Char) (name placeholder purpose : String) : String :=
  let literal := Style.bold.paint colours
  let width := (Flag.all.map fun f => f.name.length + f.placeholder.length + 3).max?.getD 0
  let front :=
    match letter with
    | some c => literal (String.ofList ['-', c]) ++ ", "
    | none => "    "
  let taken := name.length + (if placeholder.isEmpty then 0 else placeholder.length + 3)
  "  " ++ front ++ literal ("--" ++ name) ++
    (if placeholder.isEmpty then "" else " <" ++ placeholder ++ ">") ++
    String.ofList (List.replicate (width - taken + 2) ' ') ++ purpose

/-- The lines of the summary. -/
def lines (colours : Bool) : List String :=
  [Style.heading.paint colours "Usage:" ++ " " ++ Style.bold.paint colours "rt-lifecycle" ++
      " [OPTIONS]",
    "",
    Style.heading.paint colours "Options:"] ++
  Flag.all.map (fun f => entry colours f.letter? f.name f.placeholder (purpose f)) ++
  [entry colours (some 'h') "help" "" "Print help"]

end ScriptedRays.Help

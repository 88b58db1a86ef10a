/-!
# Style — colours on a terminal

A styled text stands between escape sequences; without colours it stands alone.
-/

namespace ScriptedRays

/-- The codes that switch a style on, none for plain text. -/
structure Style where
  codes : List String
  deriving DecidableEq, Inhabited

namespace Style

def bold : Style := ⟨["1"]⟩

def heading : Style := ⟨["1", "4"]⟩

def red : Style := ⟨["1", "31"]⟩

def green : Style := ⟨["32"]⟩

def yellow : Style := ⟨["33"]⟩

def blue : Style := ⟨["34"]⟩

def cyan : Style := ⟨["36"]⟩

def grey : Style := ⟨["38;2;110;110;110"]⟩

/-- The sequence of a code. -/
def sequence (code : String) : String := "\x1b[" ++ code ++ "m"

/-- A text in a style. -/
def paint (colours : Bool) (style : Style) (s : String) : String :=
  if colours = true ∧ style.codes ≠ [] then
    String.join (style.codes.map sequence) ++ s ++ sequence "0"
  else s

end Style

end ScriptedRays

import ScriptedRays.Session.Basic

/-!
# Global — the one session of a script thread

A host that can only add plain functions to its scripts keeps one session for each thread on which they
run, and lends it to whatever works on it.  Until that is done there is nothing to be lent: whatever
asks for the session meanwhile, from within, fails at once and changes nothing.
-/

namespace ScriptedRays

/-- The session of a thread: none while it is lent. -/
structure Global where
  session : Option Session := some {}

namespace Global

instance : Inhabited Global := ⟨{}⟩

/-- What the borrower of a session sees of the global. -/
def lent : Global := ⟨none⟩

/-- Lends the session to some code and takes it back from it.  There is no outcome where the session is
lent already. -/
def lend {α : Type} (g : Global) (code : Session → Global → Outcome Session α) :
    Option (Outcome Global α) :=
  g.session.map fun s =>
    let done := code s lent
    ⟨done.value, ⟨some done.state⟩, done.log⟩

/-- Takes the device for a preference into use. -/
def start (g : Global) (preference : Preference) : Option (Outcome Global Unit) :=
  g.lend fun s _ => s.startPreferred preference

/-- Calls a function by its name. -/
def call (g : Global) (name : String) (args : List Value) : Option (Outcome Global (Option Value)) :=
  g.lend fun s _ => s.call name args

def cleanup (g : Global) : Option (Outcome Global Stats) := g.lend fun s _ => s.cleanup

/-- **No session is lent twice.**  Whatever has it, and whatever it does with the global meanwhile, it
gets no second one. -/
theorem lend_lent {α : Type} (code : Session → Global → Outcome Session α) :
    lent.lend code = none := rfl

/-- **A global does what its session does, and has it back afterwards**; where there is none it does
nothing. -/
theorem lend_eq_some_iff {α : Type} {g : Global} {code : Session → Global → Outcome Session α}
    {done : Outcome Global α} :
    g.lend code = some done ↔ ∃ s, g.session = some s ∧ done.value = (code s lent).value ∧
      done.state.session = some (code s lent).state ∧ done.log = (code s lent).log := by
  unfold lend
  rw [Option.map_eq_some_iff]
  refine exists_congr fun s => and_congr_right fun _ => ?_
  constructor
  · rintro rfl
    exact ⟨rfl, rfl, rfl⟩
  · obtain ⟨value, ⟨session⟩, log⟩ := done
    rintro ⟨rfl, rfl, rfl⟩
    rfl

end Global

end ScriptedRays

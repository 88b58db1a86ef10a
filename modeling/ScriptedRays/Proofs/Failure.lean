import ScriptedRays.Proofs.Contents

/-!
# Failure — requests that come to nothing

A request that fails leaves registry and contents as they were; the device hears of it only if it
was the device that failed, by the one creation it refused (`attempt_fails`).  So failing calls can
be put anywhere into a run without any other call noticing (`run_without_failures`).
-/

namespace ScriptedRays

namespace Session

/-- What a failed request leaves of a session. -/
structure LeftByFailure (s t : Session) (request : Request) (e : Error) : Prop where
  /-- All that is registered, and the ids that come next, stay the same. -/
  registry : t.renderer.map Renderer.registry = s.renderer.map Renderer.registry
  /-- All devices hold what they held. -/
  contents : t.bare = s.bare
  /-- Where it was not the device that failed, it was not asked for anything. -/
  unasked : (∀ kind, e ≠ .deviceFailure kind) → t = s
  /-- Where it was the device, it received one creation of that kind. -/
  refused : ∀ kind, e = .deviceFailure kind → request = .create kind ∧
    ∃ r g source, s.renderer = some ⟨.recording r, g⟩ ∧
      t.renderer = some ⟨.recording (r.record (.create kind source)), g⟩ ∧
      (r.record (.create kind source)).calls = r.calls ++ [Call.creation source]

theorem LeftByFailure.of_eq {s : Session} {request : Request} {e : Error}
    (he : ∀ kind, e ≠ .deviceFailure kind) : LeftByFailure s s request e where
  registry := rfl
  contents := rfl
  unasked _ := rfl
  refused kind h := absurd h (he kind)

/-- What becomes of a session in a request that fails. -/
theorem attempt_fails {s : Session} (hfew : ∀ kind, s.issued kind < 2 ^ 31) {request : Request}
    {args : List Value} {e : Error} (h : (s.attempt request args).value = .error e) :
    LeftByFailure s (s.attempt request args).state request e := by
  have hi := fun kind => Ledger.succ_lt_size (hfew kind)
  -- only a refusal of the device leaves a trace, which is one more record of a creation
  rcases attempt_cases hi request args with hs | ⟨g, r, g', r', hr, hstate, hanswer⟩
  · rw [hs] at h ⊢
    obtain rfl : Error.unsupported = e := Except.error.inj h
    exact LeftByFailure.of_eq nofun
  · rw [h] at hanswer
    rw [hstate]
    cases hanswer with
    | failed he =>
      have hsame : ({ s with renderer := some ⟨.recording r, g⟩ } : Session) = s := by
        rw [← hr]
      rw [hsame]
      exact LeftByFailure.of_eq he.ne_deviceFailure
    | @refused kind source hsource hn =>
      rw [Recorder.perform_of_mints_none hn]
      refine ⟨?_, ?_, fun hne => absurd rfl (hne kind), ?_⟩
      · rw [hr]
        rfl
      · obtain ⟨renderer, retired⟩ := s
        obtain rfl : renderer = some ⟨.recording r, g⟩ := hr
        rfl
      · intro k hk
        obtain rfl : kind = k := Error.deviceFailure.inj hk
        refine ⟨rfl, r, g, source, hr, rfl, ?_⟩
        show (r.history ++ [Command.create kind source]).filterMap Command.call? = _
        rw [List.filterMap_append]
        rfl

/-- The call makes a request that fails. -/
def Fails (s : Session) (a : Action) : Prop :=
  ∃ request args e, a = .call (Request.name request) args ∧
    (s.attempt request args).value = .error e

theorem Fails.bare_act {s : Session} {a : Action} (h : s.Fails a)
    (hfew : ∀ kind, s.issued kind < 2 ^ 31) : (s.act a).state.bare = s.bare := by
  obtain ⟨request, args, e, rfl, he⟩ := h
  show (s.call request.name args).state.bare = s.bare
  rw [(s.call_request request args).1]
  exact (attempt_fails hfew he).contents

/-- Wherever a run is marked, a call fails. -/
def FailsAt : Session → List Bool → List Action → Prop
  | s, mark :: marks, a :: rest =>
    (mark = true → s.Fails a) ∧ FailsAt (s.act a).state marks rest
  | _, _, _ => True

end Session

/-- The elements of a list that are not marked. -/
def unmarked {α : Type} : List Bool → List α → List α
  | true :: marks, _ :: rest => unmarked marks rest
  | false :: marks, x :: rest => x :: unmarked marks rest
  | _, rest => rest

namespace Session

theorem unmarked_nil {α : Type} (marks : List Bool) : unmarked marks ([] : List α) = [] := by
  rcases marks with _ | ⟨_ | _, _⟩ <;> rfl

theorem answers_congr {s t : Session} (h : s.bare = t.bare) (run : List Action) :
    s.answers run = t.answers run ∧ (s.acts run).bare = (t.acts run).bare := by
  induction run generalizing s t with
  | nil => exact ⟨rfl, h⟩
  | cons a rest ih =>
    obtain ⟨hv, hs⟩ := act_congr h a
    obtain ⟨hanswers, hacts⟩ := ih hs
    exact ⟨congrArg₂ List.cons hv hanswers, hacts⟩

/-- The failing calls of a run make no difference to the rest of it. -/
theorem run_without_failures {s t : Session} {marks : List Bool} {run : List Action}
    (h : s.bare = t.bare) (hfew : ∀ kind, s.issued kind + creations kind s run < 2 ^ 31)
    (hfails : s.FailsAt marks run) :
    unmarked marks (s.answers run) = t.answers (unmarked marks run) ∧
      (s.acts run).bare = (t.acts (unmarked marks run)).bare := by
  -- the two sessions differ in their records only, and what fails is done on one of them alone
  induction run generalizing s t marks with
  | nil =>
    rw [unmarked_nil]
    exact ⟨unmarked_nil marks, h⟩
  | cons a rest ih =>
    obtain ⟨hnow, hrest⟩ := few_act hfew
    rcases marks with _ | ⟨mark, marks⟩
    · exact answers_congr h (a :: rest)
    · cases mark with
      | true =>
        have hsame := (hfails.1 rfl).bare_act hnow
        exact ih (hsame.trans h) hrest hfails.2
      | false =>
        obtain ⟨hv, hs⟩ := act_congr h a
        obtain ⟨hanswers, hacts⟩ := ih hs hrest hfails.2
        exact ⟨congrArg₂ List.cons hv hanswers, hacts⟩

/-- **Nothing happens by halves.**  In every session that a run reaches, whatever device is in use,
a call whose request fails gives null if it was to create something and undefined otherwise, and leaves
the session as it was.  Hence a run with failing calls in it gives the other calls the same answers, and
ends with the same contents, as the run without them. -/
theorem failures_change_nothing :
    (∀ run : List Action, (∀ kind, creations kind {} run < 2 ^ 31) →
      ∀ (request : Request) (args : List Value) (e : Error),
        ((({} : Session).acts run).attempt request args).value = .error e →
          (∀ kind, request = .create kind →
            ((({} : Session).acts run).call request.name args).value = some .null) ∧
          (request = .updateTlas ∨ request = .traceRays →
            ((({} : Session).acts run).call request.name args).value = some .undefined) ∧
          LeftByFailure (({} : Session).acts run)
            ((({} : Session).acts run).call request.name args).state request e) ∧
    ∀ (marks : List Bool) (run : List Action), (∀ kind, creations kind {} run < 2 ^ 31) →
      ({} : Session).FailsAt marks run →
        unmarked marks (({} : Session).answers run) =
            ({} : Session).answers (unmarked marks run) ∧
          (({} : Session).acts run).bare = (({} : Session).acts (unmarked marks run)).bare := by
  refine ⟨?_, ?_⟩
  · intro run hfew request args e he
    obtain ⟨hstate, hvalue⟩ := (({} : Session).acts run).call_request request args
    rw [hstate, hvalue, he]
    refine ⟨?_, ?_, attempt_fails (issued_acts_lt hfew) he⟩
    · rintro kind rfl
      rfl
    · rintro (rfl | rfl) <;> rfl
  · intro marks run hfew hfails
    refine run_without_failures rfl ?_ hfails
    intro kind
    rw [issued_new, Nat.zero_add]
    exact hfew kind

/-- The sample run from the start on, and the actions in it before the creation that is made to
fail. -/
def sampleRun : List Action := .start (.recording .fresh) :: Action.sample

def sampleFront : List Action := sampleRun.take 6

theorem failures_change_nothing_sample :
    ((({} : Session).acts sampleFront).call (Request.name (.create .geometry))
      [Action.triangle]).value = some .null ∧
    (∃ e, LeftByFailure (({} : Session).acts sampleFront)
      ((({} : Session).acts sampleFront).call (Request.name (.create .geometry))
        [Action.triangle]).state (.create .geometry) e) ∧
    unmarked [false, false, false, false, false, false, true] (({} : Session).answers sampleRun) =
      ({} : Session).answers
        (unmarked [false, false, false, false, false, false, true] sampleRun) := by
  have hfails : ∃ e, ((({} : Session).acts sampleFront).attempt (.create .geometry)
      [Action.triangle]).value = .error e := by
    have herror : (((({} : Session).acts sampleFront).attempt (.create .geometry)
      [Action.triangle]).value).isOk = false := by decide +kernel
    generalize ((({} : Session).acts sampleFront).attempt (.create .geometry)
      [Action.triangle]).value = value at herror ⊢
    cases value with
    | error e => exact ⟨e, rfl⟩
    | ok v => exact absurd herror nofun
  obtain ⟨e, he⟩ := hfails
  have hfront : ∀ kind, creations kind {} sampleFront < 2 ^ 31 := by
    intro kind
    cases kind <;> decide +kernel
  have hrun : ∀ kind, creations kind {} sampleRun < 2 ^ 31 := by
    intro kind
    cases kind <;> decide +kernel
  obtain ⟨hnull, -, hleft⟩ := failures_change_nothing.1 sampleFront hfront _ _ e he
  refine ⟨hnull .geometry rfl, ⟨e, hleft⟩, ?_⟩
  refine (failures_change_nothing.2 _ sampleRun hrun ?_).1
  refine ⟨nofun, nofun, nofun, nofun, nofun, nofun, fun _ => ?_, trivial⟩
  exact ⟨.create .geometry, [Action.triangle], e, rfl, he⟩

end Session

end ScriptedRays

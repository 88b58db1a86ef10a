import ScriptedRays.Proofs.Action

/-!
# Forwarding — what a device is asked to do

In every run of a session on a new device, each command that reached the device made sense to it at
that moment, and the device refused none but for the host's switch.  With the switch off a creation
succeeds exactly when its argument can be read (`forwards_only_valid`).
-/

namespace ScriptedRays

open Recorder (fresh minted)

/-- A command given to a new device after others: it makes sense at that moment, the device has
nothing to tell about it unless creations are made to fail, and an update has as many instances as
the scene was built from. -/
structure Command.Proper (front : List Command) (c : Command) : Prop where
  valid : (fresh.performAll front).Valid c
  accepted : (fresh.performAll front).told c = [] ∨
    ∃ kind source, c = .create kind source ∧ (fresh.performAll front).failing = true ∧
      (fresh.performAll front).told c = [.warn (Recorder.rejection kind)]
  counted : ∀ tlas instances, c = .updateTlas tlas instances →
    ∃ n earlier built later, tlas.native = some n ∧
      front = earlier ++ Command.create .tlas built :: later ∧
      (fresh.performAll earlier).mints .tlas (.create .tlas built) = some n ∧
      List.length built = instances.length

theorem Recorder.failing_of_not_canCreate {r : Recorder} (hs : r.supported = true)
    (hc : r.canCreate = false) : r.failing = true := by
  unfold canCreate at hc
  rw [hs] at hc
  cases hf : r.failing with
  | true => rfl
  | false =>
    rw [hf] at hc
    exact absurd hc (by decide)

namespace InStep

variable {g : Registry} {r : Recorder}

theorem proper (h : InStep g r) (hfew : ∀ kind, (g.ledger kind).issued < 2 ^ 31)
    {front back : List Command} {c : Command} (hc : r.history = front ++ c :: back) :
    c.Proper front := by
  have hv := h.valid
  have hm := h.length_minted_lt hfew
  rw [hc] at hv hm
  obtain ⟨hfront, hvalid, hmfront⟩ := Recorder.replay_prefix hv hm
  have hr := Recorder.inRange_replay hfront hmfront
  have hs : (fresh.performAll front).supported = true := by
    rw [Recorder.supported_performAll]
    rfl
  refine ⟨hvalid, ?_, ?_⟩
  · rcases Recorder.told_of_valid hr hvalid with hnone | ⟨kind, source, he, hcan, htold⟩
    · exact Or.inl hnone
    · exact Or.inr ⟨kind, source, he, Recorder.failing_of_not_canCreate hs hcan, htold⟩
  · rintro tlas instances rfl
    obtain ⟨⟨n, now, hn, hin, hl⟩, -⟩ := hvalid
    have hheld : (some n, now.length) ∈ (fresh.performAll front).holdings .tlas :=
      Recorder.mem_holdings.2 ⟨n, now, rfl, hin, rfl⟩
    obtain ⟨earlier, built, later, hfront', hmint, hcount⟩ :=
      Recorder.exists_creation hfront hmfront hheld
    exact ⟨n, earlier, built, later, hn, hfront', hmint, hcount.trans hl.symm⟩

/-- A creation succeeds exactly where its source can be read, unless creations are made to fail. -/
theorem create_answer_iff (h : InStep g r) (hfew : ∀ kind, (g.ledger kind).issued < 2 ^ 31)
    (hf : r.failing = false) (kind : Kind) (args : List Value) :
    (∃ id, ((⟨.recording r, g⟩ : Renderer).answer args (.create kind)).value =
        .ok (Wrapper.make kind id)) ↔
      ∃ source, g.readSource kind (argument args 0) = .ok source := by
  constructor
  · rintro ⟨id, hid⟩
    obtain ⟨g', r', -, hanswered⟩ := (Renderer.concluded h.supported args (.create kind)).answered
      fun k => Ledger.succ_lt_size (hfew k)
    rw [hid] at hanswered
    exact hanswered.exists_source
  · rintro ⟨source, hs⟩
    have hsource := h.held.usable ((g.reads_source kind _).1 source hs)
    have hcan : r.canCreate = true := by
      unfold Recorder.canCreate
      rw [h.supported, hf]
      rfl
    obtain ⟨n, hn⟩ := Recorder.exists_mints (h.inRange hfew) hcan hsource
    obtain ⟨id, t, ht⟩ := Ledger.exists_insert (Ledger.succ_lt_size (hfew kind))
      (Entry.ofSource source ⟨some n, 0⟩).withId
    refine ⟨id, ?_⟩
    rw [Renderer.answer_create_of_ok h.supported hs, Renderer.enroll_of_mints_some hn ht]

end InStep

namespace Session

/-- **Only valid commands reach a device.**  In every run on a new device, for as long as it stays
in use, the device is what its history makes of a new one, each command in it was a proper one, and
with creations not made to fail a call that creates gives a wrapper exactly when its argument can
be read. -/
theorem forwards_only_valid (s : Session) {run : List Action}
    (hnew : ∀ device, Action.start device ∈ run → device = .recording .fresh)
    (hfew : ∀ kind, creations kind s.anew run < 2 ^ 31) {rt : Renderer}
    (h : (s.anew.acts run).renderer = some rt) :
    ∃ r, rt.device = .recording r ∧ fresh.performAll r.history = r ∧
      (∀ front c back, r.history = front ++ c :: back → c.Proper front) ∧
      (r.failing = false → ∀ kind args,
        (∃ id, ((s.anew.acts run).call kind.creation args).value = some (Wrapper.make kind id)) ↔
          ∃ source, rt.registry.readSource kind (argument args 0) = .ok source) := by
  obtain ⟨r, g, rfl, hstep, hissued⟩ := s.exists_inStep hnew hfew h
  refine ⟨r, rfl, hstep.replay, fun front c back hc => hstep.proper hissued hc, ?_⟩
  intro hf kind args
  rw [← hstep.create_answer_iff hissued hf kind args]
  refine exists_congr fun id => ?_
  rw [call_create_iff]
  unfold attempt
  rw [h]

theorem forwards_only_valid_sample :
    ∃ rt r, (({} : Session).anew.acts Action.sample).renderer = some rt ∧
      rt.device = .recording r ∧ fresh.performAll r.history = r ∧
      (∀ front c back, r.history = front ++ c :: back → c.Proper front) ∧
      (r.failing = false → ∀ kind args,
        (∃ id, ((({} : Session).anew.acts Action.sample).call kind.creation args).value =
          some (Wrapper.make kind id)) ↔
            ∃ source, rt.registry.readSource kind (argument args 0) = .ok source) := by
  obtain ⟨rt, h⟩ := Action.exists_sample
  obtain ⟨r, hr⟩ := forwards_only_valid {} Action.sample_new Action.sample_few h
  exact ⟨rt, r, h, hr⟩

end Session

end ScriptedRays

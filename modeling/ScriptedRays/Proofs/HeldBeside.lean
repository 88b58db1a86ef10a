import Mathlib.Data.Option.Basic
import ScriptedRays.Proofs.Answer

/-!
# HeldBeside — a registry in front of a device that holds other things too

A device may hold things of its own when it is taken into use.  What a registry tells is held beside them
if both together are all that the device holds (`HeldBeside`).  Every step keeps it so, and so does a
creation that is undone at once (`HeldBeside.continues`), whatever was given out and taken back in
between: all that is asked is that there is room for one resource more.
-/

namespace ScriptedRays

/-- What is registered and some other things are all that the recorder holds, and can be told apart
there. -/
structure HeldBeside (others : Kind → List (Option Native × Nat)) (g : Registry) (r : Recorder) :
    Prop where
  inRange : r.InRange
  holdings : ∀ kind, (others kind ++ g.holdings kind).Perm (r.holdings kind)

theorem Registry.holdings_new (kind : Kind) : Registry.holdings {} kind = [] := by
  cases kind <;> rfl

/-- What is registered before anything is registered is held on any device. -/
theorem heldBeside_new {r : Recorder} (h : r.InRange) : HeldBeside r.holdings {} r := by
  refine ⟨h, fun kind => ?_⟩
  rw [Registry.holdings_new, List.append_nil]

namespace HeldBeside

variable {others : Kind → List (Option Native × Nat)} {g g' : Registry} {r r' : Recorder}
  (h : HeldBeside others g r)
include h

theorem held : Held g r := fun kind _ _ he =>
  (h.holdings kind).mem_iff.1 (List.mem_append_right _ (Registry.mem_holdings he))

/-- No two ids share a resource. -/
theorem apart {kind : Kind} {id other : UInt32} {e e' : Entry kind}
    (he : (g.ledger kind).get? id = some e) (he' : (g.ledger kind).get? other = some e')
    (hn : e.handle.native = e'.handle.native) : id = other := by
  have hfirst := ((h.holdings kind).map Prod.fst).nodup_iff.2 (by
    rw [Recorder.map_fst_holdings]
    exact (Arena.nodup_handles (h.inRange kind)).map (Option.some_injective _))
  rw [List.map_append, List.nodup_append] at hfirst
  have hregistered := hfirst.2.1
  unfold Registry.holdings at hregistered
  rw [List.map_map] at hregistered
  have hpair := List.inj_on_of_nodup_map hregistered (Ledger.get?_eq_some_iff.1 he)
    (Ledger.get?_eq_some_iff.1 he') hn
  exact (Prod.mk.inj hpair).1

/-- What is registered stays held where the registry follows the recorder, as long as there is room for
what is created. -/
theorem follows {c : Command} (hf : Follows g g' r c)
    (hroom : ∀ kind, (r.mints kind c).isSome → (r.arena kind).size + 1 < UInt32.size) :
    HeldBeside others g' (r.perform c) :=
  ⟨h.inRange.perform hroom, fun kind => hf.matched kind (others kind) (h.holdings kind)⟩

/-- A release asks for no room. -/
theorem released {kind : Kind} {id : UInt32} {e : Entry kind}
    (he : (g.ledger kind).get? id = some e) :
    HeldBeside others (g.withLedger kind ((g.ledger kind).erase id))
      (r.perform (.destroy kind e.handle)) :=
  h.follows (follows_released h.inRange (h.held he) he) fun _ hmint => absurd hmint nofun

section Room

variable (hroom : ∀ kind, (r.arena kind).size + 1 < UInt32.size)
include hroom

/-- After a step, what is registered is still held beside the same things. -/
theorem step (st : Step g r g' r') : HeldBeside others g' r' := by
  rcases st.follows h.inRange h.held with ⟨rfl, rfl⟩ | ⟨c, -, rfl, hf⟩
  · exact h
  · exact h.follows hf fun kind _ => hroom kind

/-- So does a creation that is undone at once. -/
theorem undone {kind : Kind} {source : Source kind} {n : Native}
    (hn : r.mints kind (.create kind source) = some n) :
    HeldBeside others g ((r.perform (.create kind source)).perform (.destroy kind ⟨some n, 0⟩)) := by
  obtain ⟨hnew, hcreated⟩ := Recorder.holdings_create hn
  have hrange : (r.perform (.create kind source)).InRange :=
    h.inRange.perform fun kind _ => hroom kind
  have hin : ((⟨some n, 0⟩ : Handle kind).native, source.instanceCount) ∈
      (r.perform (.create kind source)).holdings kind := hnew.mem_iff.2 List.mem_cons_self
  obtain ⟨hgone, hdestroyed⟩ := Recorder.holdings_destroy hrange hin
  refine ⟨hrange.perform (c := .destroy kind _) fun k hk => absurd hk nofun, fun k => ?_⟩
  refine (h.holdings k).trans ?_
  by_cases hk : k = kind
  · subst hk
    exact (hnew.symm.trans hgone).cons_inv
  · rw [hdestroyed k hk, hcreated k hk]

/-- **Whatever goes on**, what is registered is still held beside the same things. -/
theorem continues (hc : Renderer.Continues g r g' r') : HeldBeside others g' r' := by
  cases hc with
  | step st => exact h.step hroom st
  | undone hn => exact h.undone hroom hn

end Room

end HeldBeside

end ScriptedRays

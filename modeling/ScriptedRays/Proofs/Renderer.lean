import ScriptedRays.Proofs.Account
import ScriptedRays.Proofs.Reading

/-!
# Renderer — a registry in step with a recorder

Whatever a renderer does on a recorder that supports ray tracing is one `Step`: a command to the
recorder, and an entry added or taken out where a resource comes or goes.  A step keeps the two
records of what there is the same (`InStep.step`), so every command is valid when it is given.
-/

namespace ScriptedRays

namespace Entry

/-- How many instances an entry says there are, if it is that of a scene. -/
def instances : {kind : Kind} → Entry kind → Nat
  | .geometry, _ => 0
  | .blas, _ => 0
  | .tlas, e => e.instanceCount

@[simp] theorem instances_withId {kind : Kind} (e : Entry kind) (id : UInt32) :
    (e.withId id).instances = e.instances := by
  cases kind <;> rfl

@[simp] theorem handle_ofSource {kind : Kind} (source : Source kind) (h : Handle kind) :
    (ofSource source h).handle = h := by
  cases kind <;> rfl

@[simp] theorem instances_ofSource {kind : Kind} (source : Source kind) (h : Handle kind) :
    (ofSource source h).instances = source.instanceCount := by
  cases kind <;> rfl

end Entry

namespace Registry

/-- The native handles registered for a kind, each with the number of instances told with it. -/
def holdings (g : Registry) (kind : Kind) : List (Option Native × Nat) :=
  (g.ledger kind).entries.map fun p => ((Entry.handle p.2).native, Entry.instances p.2)

theorem mem_holdings {g : Registry} {kind : Kind} {id : UInt32} {e : Entry kind}
    (h : (g.ledger kind).get? id = some e) : (e.handle.native, e.instances) ∈ g.holdings kind :=
  List.mem_map.2 ⟨(id, e), Ledger.get?_eq_some_iff.1 h, rfl⟩

theorem holdings_withLedger_of_ne (g : Registry) {kind other : Kind} (t : Ledger (Entry kind))
    (h : other ≠ kind) : (g.withLedger kind t).holdings other = g.holdings other := by
  unfold holdings
  rw [ledger_withLedger_of_ne g t h]

theorem perm_holdings_insert {g : Registry} {kind : Kind} {e : Entry kind} {id : UInt32}
    {t : Ledger (Entry kind)} (h : (g.ledger kind).insert e.withId = some (id, t)) :
    ((g.withLedger kind t).holdings kind).Perm
      ((e.handle.native, e.instances) :: g.holdings kind) := by
  have hperm := (Ledger.perm_insert h).map
    fun p => ((Entry.handle p.2).native, Entry.instances p.2)
  rw [List.map_cons, Entry.handle_withId, Entry.instances_withId, Handle.native_withId] at hperm
  unfold holdings
  rw [ledger_withLedger]
  exact hperm

theorem issued_erase (g : Registry) (kind other : Kind) (id : UInt32) :
    ((g.withLedger kind ((g.ledger kind).erase id)).ledger other).issued =
      (g.ledger other).issued := by
  by_cases hk : other = kind
  · subst hk
    rw [ledger_withLedger]
    rfl
  · rw [ledger_withLedger_of_ne g _ hk]

theorem holdings_erase {g : Registry} {kind : Kind} {id : UInt32} {e : Entry kind}
    (h : (g.ledger kind).get? id = some e) :
    (g.holdings kind).Perm ((e.handle.native, e.instances) ::
      (g.withLedger kind ((g.ledger kind).erase id)).holdings kind) := by
  have hperm := (Ledger.perm_erase h).map
    fun p => ((Entry.handle p.2).native, Entry.instances p.2)
  unfold holdings
  rw [ledger_withLedger]
  exact hperm

end Registry

open Recorder (fresh minted)

/-! ### Steps -/

/-- What can happen to a registry and a recorder at a time. -/
inductive Step (g : Registry) (r : Recorder) : Registry → Recorder → Prop
  | idle : Step g r g r
  | refused {kind : Kind} {source : Source kind} (hs : source.Usable g.Knows)
      (hn : r.mints kind (.create kind source) = none) :
      Step g r g (r.perform (.create kind source))
  | created {kind : Kind} {source : Source kind} {n : Native} {id : UInt32}
      {t : Ledger (Entry kind)}
      (hs : source.Usable g.Knows) (hn : r.mints kind (.create kind source) = some n)
      (ht : (g.ledger kind).insert (Entry.ofSource source ⟨some n, 0⟩).withId = some (id, t)) :
      Step g r (g.withLedger kind t) (r.perform (.create kind source))
  | updated {id : UInt32} {e : Entry .tlas} {instances : List Instance}
      (he : (g.ledger .tlas).get? id = some e) (hl : instances.length = e.instanceCount)
      (hi : ∀ i ∈ instances, g.Knows .blas i.blas) :
      Step g r g (r.perform (.updateTlas e.handle instances))
  | traced {trace : Trace} (ht : g.Knows .tlas trace.tlas) (hw : 1 ≤ trace.width)
      (hh : 1 ≤ trace.height) : Step g r g (r.perform (.traceRays trace))
  | released {kind : Kind} {id : UInt32} {e : Entry kind} (he : (g.ledger kind).get? id = some e) :
      Step g r (g.withLedger kind ((g.ledger kind).erase id)) (r.perform (.destroy kind e.handle))
  | switched (failing : Bool) : Step g r g (r.perform (.setFailing failing))

theorem Step.supported {g g' : Registry} {r r' : Recorder} (h : Step g r g' r') :
    r'.supported = r.supported := by
  cases h with
  | idle => rfl
  | _ => exact Recorder.supported_perform r _

/-- All that is registered is held, scenes with as many instances as are told. -/
def Held (g : Registry) (r : Recorder) : Prop :=
  ∀ ⦃kind : Kind⦄ ⦃id : UInt32⦄ ⦃e : Entry kind⦄, (g.ledger kind).get? id = some e →
    (e.handle.native, e.instances) ∈ r.holdings kind

namespace Held

variable {g : Registry} {r : Recorder}

theorem holds_of_knows (h : Held g r) {kind : Kind} {x : Handle kind} (hx : g.Knows kind x) :
    r.Holds kind x := by
  obtain ⟨id, e, he, rfl⟩ := hx
  exact Recorder.holds_of_mem_holdings (h he)

theorem usable (h : Held g r) {kind : Kind} {source : Source kind} (hs : source.Usable g.Knows) :
    source.Usable r.Holds := hs.mono fun _ _ hx => h.holds_of_knows hx

theorem valid_update (h : Held g r) {id : UInt32} {e : Entry .tlas} {instances : List Instance}
    (he : (g.ledger .tlas).get? id = some e) (hl : instances.length = e.instanceCount)
    (hi : ∀ i ∈ instances, g.Knows .blas i.blas) :
    r.Valid (.updateTlas (Entry.handle e) instances) := by
  obtain ⟨n, built, hn, hm, hcount⟩ := Recorder.mem_holdings.1 (h he)
  exact ⟨⟨n, built, hn, hm, hl.trans hcount.symm⟩, fun i hin => h.holds_of_knows (hi i hin)⟩

end Held

/-- A registry follows a recorder through a command: it issues an id where the recorder gives out a
handle, and whatever else the recorder holds, the two gain and lose the same. -/
structure Follows (g g' : Registry) (r : Recorder) (c : Command) : Prop where
  issued : ∀ kind, (g'.ledger kind).issued =
    (g.ledger kind).issued + (r.mints kind c).toList.length
  matched : ∀ kind others, (others ++ g.holdings kind).Perm (r.holdings kind) →
    (others ++ g'.holdings kind).Perm ((r.perform c).holdings kind)

section Follows

variable {g : Registry} {r : Recorder}

/-- A valid command that neither adds a resource nor takes one out leaves the registry as it is. -/
theorem follows_same (hr : r.InRange) {c : Command} (hv : r.Valid c)
    (hn : ∀ kind, r.mints kind c = none) (hd : ∀ kind handle, c ≠ .destroy kind handle) :
    Follows g g r c := by
  refine ⟨fun kind => by rw [hn kind]; rfl, fun kind others hperm => ?_⟩
  rw [Recorder.holdings_perform hr hv (hn kind) (hd kind)]
  exact hperm

theorem follows_created {kind : Kind} {source : Source kind} {n : Native} {id : UInt32}
    {t : Ledger (Entry kind)} (hn : r.mints kind (.create kind source) = some n)
    (ht : (g.ledger kind).insert (Entry.ofSource source ⟨some n, 0⟩).withId = some (id, t)) :
    Follows g (g.withLedger kind t) r (.create kind source) := by
  obtain ⟨hnew, hother⟩ := Recorder.holdings_create hn
  refine ⟨fun k => ?_, fun k others hperm => ?_⟩
  -- one more id is issued, and one more handle given out, of this kind only
  · by_cases hk : k = kind
    · subst hk
      rw [Registry.ledger_withLedger, Ledger.issued_insert ht, hn]
      rfl
    · rw [Registry.ledger_withLedger_of_ne g t hk,
        show r.mints k (.create kind source) = none from if_neg (Ne.symm hk)]
      rfl
  · by_cases hk : k = kind
    · subst hk
      have hadd := Registry.perm_holdings_insert ht
      rw [Entry.handle_ofSource, Entry.instances_ofSource] at hadd
      have hmoved := (hadd.append_left others).trans (List.perm_middle.trans (hperm.cons _))
      exact hmoved.trans hnew.symm
    · rw [Registry.holdings_withLedger_of_ne g t hk, hother k hk]
      exact hperm

theorem follows_released (hr : r.InRange) {kind : Kind} {id : UInt32} {e : Entry kind}
    (hheld : (e.handle.native, e.instances) ∈ r.holdings kind)
    (he : (g.ledger kind).get? id = some e) :
    Follows g (g.withLedger kind ((g.ledger kind).erase id)) r (.destroy kind e.handle) := by
  obtain ⟨hgone, hother⟩ := Recorder.holdings_destroy hr hheld
  refine ⟨fun k => g.issued_erase kind k id, fun k others hperm => ?_⟩
  by_cases hk : k = kind
  · subst hk
    -- both records lose the same pair
    have hleft := ((Registry.holdings_erase he).symm.append_left others).trans hperm
    exact (List.perm_middle.symm.trans (hleft.trans hgone)).cons_inv
  · rw [Registry.holdings_withLedger_of_ne g _ hk, hother k hk]
    exact hperm

end Follows

/-- **What a step is.**  Either nothing happens, or the recorder carries out a command that makes
sense to it and the registry follows. -/
theorem Step.follows {g g' : Registry} {r r' : Recorder} (st : Step g r g' r') (hr : r.InRange)
    (h : Held g r) :
    (g' = g ∧ r' = r) ∨ ∃ c, r.Valid c ∧ r' = r.perform c ∧ Follows g g' r c := by
  cases st with
  | idle => exact Or.inl ⟨rfl, rfl⟩
  | @refused kind source hs hn =>
    have hv : r.Valid (.create kind source) := h.usable hs
    refine Or.inr ⟨_, hv, rfl, follows_same hr hv (fun k => ?_) nofun⟩
    by_cases hk : k = kind
    · subst hk
      exact hn
    · exact if_neg (Ne.symm hk)
  | @created kind source n id t hs hn ht =>
    have hv : r.Valid (.create kind source) := h.usable hs
    exact Or.inr ⟨_, hv, rfl, follows_created hn ht⟩
  | updated he hl hi =>
    have hv := h.valid_update he hl hi
    exact Or.inr ⟨_, hv, rfl, follows_same hr hv (fun _ => rfl) nofun⟩
  | @traced trace ht hw hh =>
    have hv : r.Valid (.traceRays trace) := ⟨h.holds_of_knows ht, hw, hh⟩
    exact Or.inr ⟨_, hv, rfl, follows_same hr hv (fun _ => rfl) nofun⟩
  | @released kind id e he =>
    have hv : r.Valid (.destroy kind e.handle) := Recorder.holds_of_mem_holdings (h he)
    exact Or.inr ⟨_, hv, rfl, follows_released hr (h he) he⟩
  | switched failing =>
    have hv : r.Valid (.setFailing failing) := trivial
    exact Or.inr ⟨_, hv, rfl, follows_same hr hv (fun _ => rfl) nofun⟩

/-! ### A recorder as old as its registry -/

/-- A recorder that was new when the registry was, has only been given valid commands, and holds
what is registered and nothing else. -/
structure InStep (g : Registry) (r : Recorder) : Prop where
  replay : fresh.performAll r.history = r
  valid : fresh.ValidRun r.history
  issued : ∀ kind, (minted kind fresh r.history).length = (g.ledger kind).issued
  matched : ∀ kind, (g.holdings kind).Perm (r.holdings kind)

theorem inStep_fresh : InStep {} fresh where
  replay := rfl
  valid := trivial
  issued kind := by cases kind <;> rfl
  matched kind := by cases kind <;> exact List.Perm.refl _

namespace InStep

variable {g g' : Registry} {r r' : Recorder}

theorem supported (h : InStep g r) : r.supported = true := by
  rw [← h.replay, Recorder.supported_performAll]
  rfl

theorem held (h : InStep g r) : Held g r := fun kind _ _ he =>
  (h.matched kind).mem_iff.1 (Registry.mem_holdings he)

section Few

variable (h : InStep g r) (hfew : ∀ kind, (g.ledger kind).issued < 2 ^ 31)
include h hfew

theorem length_minted_lt (kind : Kind) : (minted kind fresh r.history).length < 2 ^ 31 := by
  rw [h.issued kind]
  exact hfew kind

theorem accounted (kind : Kind) : r.Accounted kind (minted kind fresh r.history) := by
  have hacc := Recorder.accounted_replay h.valid (h.length_minted_lt hfew) kind
  rw [h.replay] at hacc
  exact hacc

theorem inRange : r.InRange := fun kind =>
  (h.accounted hfew kind).within.fits (h.length_minted_lt hfew kind)

/-- **A step keeps registry and recorder in step.** -/
theorem step (st : Step g r g' r') : InStep g' r' := by
  rcases st.follows (h.inRange hfew) h.held with ⟨rfl, rfl⟩ | ⟨c, hv, rfl, hf⟩
  · exact h
  refine ⟨?_, ?_, fun kind => ?_, fun kind => hf.matched kind [] (h.matched kind)⟩
  · rw [Recorder.history_perform, Recorder.performAll_append, h.replay]
    rfl
  · rw [Recorder.history_perform, Recorder.validRun_append, h.replay]
    exact ⟨h.valid, hv, trivial⟩
  · rw [Recorder.history_perform, Recorder.minted_append, h.replay, List.length_append,
      h.issued kind, Recorder.minted_singleton, hf.issued kind]

end Few

end InStep

end ScriptedRays

import Mathlib.Logic.Function.Basic
import ScriptedRays.Proofs.HeldBeside

/-!
# Denotation — what an id stands for

A registry may stand in front of a device that is not new.  The device then holds what is registered
beside other things, of which there were a known number at most (`HeldWithin`, `HeldWithin.heldBeside`);
every step keeps it so (`HeldWithin.step`).  An id stands for one resource, whose content only the
commands about that id change (`content?_created`, `content?_released`, `content?_updated`,
`content?_same`).
-/

namespace ScriptedRays

theorem Registry.toOption_resolve (g : Registry) (kind : Kind) (id : UInt32) :
    (g.resolve kind id).toOption = (g.ledger kind).get? id := by
  unfold resolve
  cases (g.ledger kind).get? id <;> rfl

namespace Renderer

/-- The entry registered under an id. -/
def entryOf? (rt : Renderer) (kind : Kind) (id : UInt32) : Option (Entry kind) :=
  (rt.registry.resolve kind id).toOption

/-- What the device keeps of the resource registered under an id. -/
def content? (rt : Renderer) (kind : Kind) (id : UInt32) : Option (Content kind) :=
  rt.device.recorder?.bind fun r =>
    (rt.entryOf? kind id).bind fun e => r.find? kind (Entry.handle e).native

theorem entryOf?_eq (rt : Renderer) (kind : Kind) (id : UInt32) :
    rt.entryOf? kind id = (rt.registry.ledger kind).get? id :=
  rt.registry.toOption_resolve kind id

theorem content?_recording (r : Recorder) (g : Registry) (kind : Kind) (id : UInt32) :
    (⟨.recording r, g⟩ : Renderer).content? kind id =
      ((g.ledger kind).get? id).bind fun e => r.find? kind (Entry.handle e).native := by
  rw [← entryOf?_eq ⟨.recording r, g⟩]
  rfl

end Renderer

/-! ### Contents on a device -/

/-- Where registry and arena of a kind stay, so do the contents. -/
theorem Renderer.content?_same {g g' : Registry} {r r' : Recorder} {kind : Kind}
    (hg : g'.ledger kind = g.ledger kind) (hr : r'.arena kind = r.arena kind) :
    (⟨.recording r', g'⟩ : Renderer).content? kind =
      (⟨.recording r, g⟩ : Renderer).content? kind := by
  funext id
  rw [content?_recording, content?_recording, hg]
  unfold Recorder.find?
  rw [hr]

namespace HeldBeside

variable {others others' : Kind → List (Option Native × Nat)} {g g' : Registry} {r r' : Recorder}
  (h : HeldBeside others g r) {kind : Kind} {id : UInt32} {e : Entry kind}
include h

/-- An entry is that of an item in the arena of its kind. -/
theorem exists_item (he : (g.ledger kind).get? id = some e) :
    ∃ n x, e.handle.native = some n ∧ (n, x) ∈ (r.arena kind).toList ∧
      Content.instanceCount x = e.instances :=
  Recorder.mem_holdings.1 (h.held he)

theorem content?_of_mem {n : Native} {x : Content kind} (he : (g.ledger kind).get? id = some e)
    (hn : e.handle.native = some n) (hx : (n, x) ∈ (r.arena kind).toList) :
    (⟨.recording r, g⟩ : Renderer).content? kind id = some x := by
  rw [Renderer.content?_recording, he, Option.bind_some, hn]
  exact Arena.get?_of_mem (h.inRange kind) hx

/-- An id keeps its content if it keeps its entry and the recorder keeps what is registered with
it. -/
theorem content?_eq (h' : HeldBeside others' g' r')
    (he : (g'.ledger kind).get? id = (g.ledger kind).get? id)
    (hkeep : ∀ e n x, (g.ledger kind).get? id = some e → e.handle.native = some n →
      (n, x) ∈ (r.arena kind).toList → (n, x) ∈ (r'.arena kind).toList) :
    (⟨.recording r', g'⟩ : Renderer).content? kind id =
      (⟨.recording r, g⟩ : Renderer).content? kind id := by
  cases hid : (g.ledger kind).get? id with
  | none => rw [Renderer.content?_recording, Renderer.content?_recording, he, hid]; rfl
  | some e =>
    obtain ⟨n, x, hn, hx, -⟩ := h.exists_item hid
    rw [h.content?_of_mem hid hn hx]
    exact h'.content?_of_mem (he.trans hid) hn (hkeep e n x hid hn hx)

/-- A release takes the content away from one id. -/
theorem content?_released (he : (g.ledger kind).get? id = some e) :
    (⟨.recording (r.perform (.destroy kind e.handle)),
        g.withLedger kind ((g.ledger kind).erase id)⟩ : Renderer).content? kind =
      Function.update ((⟨.recording r, g⟩ : Renderer).content? kind) id none := by
  obtain ⟨n, x, hn, hx, -⟩ := h.exists_item he
  funext other
  by_cases ho : other = id
  · subst ho
    rw [Function.update_self, Renderer.content?_recording, Registry.ledger_withLedger,
      Ledger.get?_erase, if_pos rfl]
    rfl
  · rw [Function.update_of_ne ho]
    refine h.content?_eq (h.released he) ?_ fun e' n' y he' hn' hy => ?_
    · rw [Registry.ledger_withLedger, Ledger.get?_erase, if_neg ho]
    · rw [Recorder.arena_destroy, hn]
      refine (Arena.mem_erase (h.inRange kind) hx).2 ⟨hy, ?_⟩
      rintro rfl
      exact ho (h.apart he' he (hn'.trans hn.symm))

end HeldBeside

/-! ### Registries whose entries are held -/

/-- All that is registered is held by the recorder, beside other things: those had been put in
before, at most `m` of each kind. -/
structure HeldWithin (m : Kind → Nat) (g : Registry) (r : Recorder) : Prop where
  within : ∀ kind, (r.arena kind).Within (m kind + (g.ledger kind).issued)
  matched : ∀ kind, ∃ others, (others ++ g.holdings kind).Perm (r.holdings kind)

theorem heldWithin_new {m : Kind → Nat} {r : Recorder} (h : ∀ kind, (r.arena kind).Within (m kind)) :
    HeldWithin m {} r := by
  refine ⟨fun kind => ?_, fun kind => ⟨r.holdings kind, ?_⟩⟩
  · cases kind <;> exact h _
  · rw [Registry.holdings_new, List.append_nil]

namespace HeldWithin

variable {m : Kind → Nat} {g g' : Registry} {r r' : Recorder}

theorem held (h : HeldWithin m g r) : Held g r := by
  intro kind id e he
  obtain ⟨others, hperm⟩ := h.matched kind
  exact hperm.mem_iff.1 (List.mem_append_right _ (Registry.mem_holdings he))

/-- An entry is that of an item in the arena of its kind. -/
theorem exists_item (h : HeldWithin m g r) {kind : Kind} {id : UInt32} {e : Entry kind}
    (he : (g.ledger kind).get? id = some e) :
    ∃ n x, e.handle.native = some n ∧ (n, x) ∈ (r.arena kind).toList ∧
      Content.instanceCount x = e.instances :=
  Recorder.mem_holdings.1 (h.held he)

section Few

variable (h : HeldWithin m g r) (hfew : ∀ kind, m kind + (g.ledger kind).issued < 2 ^ 31)
include h hfew

theorem inRange : r.InRange := fun kind => (h.within kind).fits (hfew kind)

/-- What else the device holds is the same for all kinds at once. -/
theorem heldBeside : ∃ others, HeldBeside others g r := by
  obtain ⟨others, hperm⟩ := Classical.skolem.1 h.matched
  exact ⟨others, h.inRange hfew, hperm⟩

/-- **After a step, what is registered is still held.** -/
theorem step (st : Step g r g' r') : HeldWithin m g' r' := by
  rcases st.follows (h.inRange hfew) h.held with ⟨rfl, rfl⟩ | ⟨c, hv, rfl, hf⟩
  · exact h
  refine ⟨fun kind => ?_, fun kind => ?_⟩
  · rw [hf.issued kind, ← Nat.add_assoc]
    exact Recorder.within_perform (h.within kind) (hfew kind) _
  · obtain ⟨others, hperm⟩ := h.matched kind
    exact ⟨others, hf.matched kind others hperm⟩

theorem exists_content {kind : Kind} {id : UInt32} {e : Entry kind}
    (he : (g.ledger kind).get? id = some e) :
    ∃ x, (⟨.recording r, g⟩ : Renderer).content? kind id = some x ∧
      Content.instanceCount x = e.instances := by
  obtain ⟨others, hl⟩ := h.heldBeside hfew
  obtain ⟨n, x, hn, hx, hcount⟩ := hl.exists_item he
  exact ⟨x, hl.content?_of_mem he hn hx, hcount⟩

end Few

end HeldWithin

/-! ### What commands change -/

namespace HeldWithin

variable {m : Kind → Nat} {g : Registry} {r : Recorder} (h : HeldWithin m g r)
  (hfew : ∀ kind, m kind + (g.ledger kind).issued < 2 ^ 31)
include h hfew

/-- A creation gives the new id the content made of the source. -/
theorem content?_created {kind : Kind} {source : Source kind} {n : Native} {id : UInt32}
    {t : Ledger (Entry kind)} (hs : source.Usable g.Knows)
    (hn : r.mints kind (.create kind source) = some n)
    (ht : (g.ledger kind).insert (Entry.ofSource source ⟨some n, 0⟩).withId = some (id, t))
    (hlast : m kind + (g.ledger kind).issued + 1 < 2 ^ 31) :
    ∃ x, r.content kind source = .ok x ∧
      (⟨.recording (r.perform (.create kind source)), g.withLedger kind t⟩ : Renderer).content?
          kind =
        Function.update ((⟨.recording r, g⟩ : Renderer).content? kind) id (some x) := by
  obtain ⟨x, hx, hnew, hcreate⟩ := Recorder.create_of_mints hn
  have h' := h.step hfew (Step.created hs hn ht)
  have hfew' : ∀ k, m k + ((g.withLedger kind t).ledger k).issued < 2 ^ 31 := by
    intro k
    by_cases hk : k = kind
    · subst hk
      rw [Registry.ledger_withLedger, Ledger.issued_insert ht]
      exact hlast
    · rw [Registry.ledger_withLedger_of_ne g t hk]
      exact hfew k
  obtain ⟨others, hl⟩ := h.heldBeside hfew
  obtain ⟨others', hl'⟩ := h'.heldBeside hfew'
  have hget := Ledger.get?_insert ht
  have harena := Recorder.arena_create hcreate
  refine ⟨x, hx, funext fun other => ?_⟩
  -- the new id has the new item; the others keep their entries, and the arena their items
  by_cases ho : other = id
  · subst ho
    rw [Function.update_self]
    have hentry : ((g.withLedger kind t).ledger kind).get? other =
        some ((Entry.ofSource source ⟨some n, 0⟩).withId other) := by
      rw [Registry.ledger_withLedger, hget, if_pos rfl]
    refine hl'.content?_of_mem (n := n) hentry ?_ ?_
    · rw [Entry.handle_withId, Entry.handle_ofSource]
      rfl
    · rw [harena, ← hnew]
      exact Arena.mem_insert.2 (Or.inl rfl)
  · rw [Function.update_of_ne ho]
    refine hl.content?_eq hl' ?_ fun e n' y _ _ hy => ?_
    · rw [Registry.ledger_withLedger, hget, if_neg ho]
    · rw [harena]
      exact Arena.mem_insert.2 (Or.inr hy)

/-- A release takes the content away from one id. -/
theorem content?_released {kind : Kind} {id : UInt32} {e : Entry kind}
    (he : (g.ledger kind).get? id = some e) :
    (⟨.recording (r.perform (.destroy kind e.handle)),
        g.withLedger kind ((g.ledger kind).erase id)⟩ : Renderer).content? kind =
      Function.update ((⟨.recording r, g⟩ : Renderer).content? kind) id none := by
  obtain ⟨others, hl⟩ := h.heldBeside hfew
  exact hl.content?_released he

/-- An update gives the scene that it names the new instances. -/
theorem content?_updated {id : UInt32} {e : Entry .tlas} {instances : List Instance}
    (he : (g.ledger .tlas).get? id = some e) (hl : instances.length = e.instanceCount)
    (hi : ∀ i ∈ instances, g.Knows .blas i.blas) :
    (⟨.recording (r.perform (.updateTlas e.handle instances)), g⟩ : Renderer).content? .tlas =
      Function.update ((⟨.recording r, g⟩ : Renderer).content? .tlas) id (some instances) := by
  obtain ⟨others, hbeside⟩ := h.heldBeside hfew
  obtain ⟨others', hbeside'⟩ := (h.step hfew (Step.updated he hl hi)).heldBeside hfew
  obtain ⟨n, built, hn, hm, -⟩ := h.exists_item he
  -- the arena afterwards: the new content under the old handle, and all the others as they were
  have hmem := fun p => Arena.mem_update (h.inRange hfew .tlas) hm
    (f := fun _ => instances) (p := p)
  have harena : (r.perform (.updateTlas e.handle instances)).arena .tlas =
      (r.arena .tlas).update (some n) fun _ => instances := by
    rw [← hn]
    exact Recorder.arena_updateTlas (h.inRange hfew) (h.held.valid_update he hl hi)
  funext other
  by_cases ho : other = id
  · subst ho
    rw [Function.update_self]
    refine hbeside'.content?_of_mem he hn ?_
    rw [harena]
    exact (hmem _).2 (Or.inl rfl)
  · rw [Function.update_of_ne ho]
    refine hbeside.content?_eq hbeside' rfl fun e' n' y he' hn' hy => ?_
    rw [harena]
    refine (hmem _).2 (Or.inr ⟨hy, ?_⟩)
    -- two ids never share a handle, so the content of another id is not the one replaced
    rintro rfl
    exact ho (hbeside.apart he' he (hn'.trans hn.symm))

end HeldWithin

/-! ### Renderers -/

namespace Renderer

/-- What the registry of a renderer tells is held by its device, and is nothing if the device creates
nothing. -/
structure RegistryHeld (m : Kind → Nat) (rt : Renderer) : Prop where
  heldWithin : ∀ r, rt.device = .recording r → HeldWithin m rt.registry r
  empty : rt.device = .stub → ∀ kind id, (rt.registry.ledger kind).get? id = none

namespace RegistryHeld

variable {m : Kind → Nat} {rt rt' : Renderer} (h : rt.RegistryHeld m)
  (hfew : ∀ kind, m kind + (rt.registry.ledger kind).issued < 2 ^ 31)
include h hfew

theorem moves (hmoves : rt.Moves rt') : rt'.RegistryHeld m := by
  cases hmoves with
  | unrecorded hnone => exact ⟨nofun, fun _ kind id => hnone kind id (h.empty rfl kind id)⟩
  | @recorded g g' r r' hstep =>
    refine ⟨fun _ hr => ?_, nofun⟩
    obtain rfl := Device.recording.inj hr
    exact (h.heldWithin r rfl).step hfew hstep

/-- What is registered is there, a scene with as many instances as are told. -/
theorem exists_content {kind : Kind} {id : UInt32} {e : Entry kind}
    (he : rt.entryOf? kind id = some e) :
    ∃ x, rt.content? kind id = some x ∧ Content.instanceCount x = e.instances := by
  rw [entryOf?_eq] at he
  obtain ⟨_ | r, g⟩ := rt
  · rw [h.empty rfl] at he
    exact absurd he nofun
  · exact (h.heldWithin r rfl).exists_content hfew he

end RegistryHeld

section Destroy

variable {rt : Renderer} {kind : Kind} {wrapper : Value}

/-- Destroying takes an id's entry away. -/
theorem entryOf?_destroy {id : UInt32} (hread : Wrapper.read kind wrapper = .ok id) :
    (rt.destroy kind wrapper).state.entryOf? kind = Function.update (rt.entryOf? kind) id none := by
  rcases rt.destroy_cases kind wrapper with ⟨h, hnone⟩ | ⟨id', e, hread', -, h⟩
  · rw [h]
    refine Function.eq_update_self_iff.2 ?_
    rw [entryOf?_eq]
    exact hnone id hread
  · obtain rfl : id = id' := Except.ok.inj (hread.symm.trans hread')
    rw [h]
    funext other
    rw [Function.update_apply, entryOf?_eq, entryOf?_eq, Registry.ledger_withLedger,
      Ledger.get?_erase]

/-- Destroying takes an id's content away. -/
theorem content?_destroy {m : Kind → Nat} (hheld : rt.RegistryHeld m)
    (hfew : ∀ kind, m kind + (rt.registry.ledger kind).issued < 2 ^ 31) {id : UInt32}
    (hread : Wrapper.read kind wrapper = .ok id) :
    (rt.destroy kind wrapper).state.content? kind = Function.update (rt.content? kind) id none := by
  obtain ⟨_ | r, g⟩ := rt
  · obtain ⟨g', hstub⟩ :
        ∃ g', ((⟨.stub, g⟩ : Renderer).destroy kind wrapper).state = ⟨.stub, g'⟩ := by
      rcases destroy_cases ⟨.stub, g⟩ kind wrapper with ⟨h, -⟩ | ⟨id', e, -, -, h⟩
      · exact ⟨g, h⟩
      · exact ⟨_, h⟩
    rw [hstub]
    exact Function.eq_update_self_iff.2 rfl
  · rcases destroy_cases ⟨.recording r, g⟩ kind wrapper with ⟨h, hnone⟩ | ⟨id', e, hread', he, h⟩
    · rw [h]
      refine Function.eq_update_self_iff.2 ?_
      rw [content?_recording, hnone id hread]
      rfl
    · obtain rfl : id = id' := Except.ok.inj (hread.symm.trans hread')
      rw [h]
      exact (hheld.heldWithin r rfl).content?_released hfew he

/-- Destroying leaves the other kinds alone. -/
theorem destroy_of_ne {other : Kind} (hk : other ≠ kind) :
    (rt.destroy kind wrapper).state.entryOf? other = rt.entryOf? other ∧
      (rt.destroy kind wrapper).state.content? other = rt.content? other := by
  rcases rt.destroy_cases kind wrapper with ⟨h, -⟩ | ⟨id', e, -, -, h⟩
  · rw [h]
    exact ⟨rfl, rfl⟩
  · have hledger := Registry.ledger_withLedger_of_ne rt.registry
      ((rt.registry.ledger kind).erase id') hk
    rw [h]
    refine ⟨funext fun id => by rw [entryOf?_eq, entryOf?_eq, hledger], ?_⟩
    obtain ⟨_ | r, g⟩ := rt
    · rfl
    · exact content?_same hledger (Recorder.arena_destroy_of_ne r e.handle hk)

end Destroy

end Renderer

end ScriptedRays

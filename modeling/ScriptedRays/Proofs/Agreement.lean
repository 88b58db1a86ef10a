import Mathlib.Data.Set.Function
import ScriptedRays.Proofs.Action
import ScriptedRays.Proofs.HeldBeside

/-!
# Agreement — what is registered is what is there

In every run of a session on a new device, the ids of a kind stand for the resources that the device
holds of that kind, one for one (`registry_agrees`): nothing registered is missing on the device, no
two ids share a resource, and the device holds nothing that no id stands for.
-/

namespace ScriptedRays

namespace Registry

/-- The ids in use for a kind. -/
def ids (g : Registry) (kind : Kind) : Set UInt32 := {id | g.contains kind id = true}

/-- The native handle registered under an id. -/
def native (g : Registry) (kind : Kind) (id : UInt32) : Option Native :=
  ((g.ledger kind).get? id).bind fun e => (Entry.handle e).native

theorem native_of_get? {g : Registry} {kind : Kind} {id : UInt32} {e : Entry kind}
    (h : (g.ledger kind).get? id = some e) : g.native kind id = e.handle.native := by
  unfold native
  rw [h]
  rfl

theorem mem_ids {g : Registry} {kind : Kind} {id : UInt32} :
    id ∈ g.ids kind ↔ ∃ e, (g.ledger kind).get? id = some e := by
  show ((g.ledger kind).get? id).isSome = true ↔ _
  exact Option.isSome_iff_exists

end Registry

/-- The native handles of the resources that a recorder holds of a kind, as a registry gives
them. -/
def Recorder.natives (r : Recorder) (kind : Kind) : Set (Option Native) :=
  {native | ∃ n ∈ (r.arena kind).handles, native = some n}

/-- The agreement of a registry with the recorder behind it. -/
structure Agreement (g : Registry) (r : Recorder) : Prop where
  /-- Ids and resources match one for one; no id stands for a null handle. -/
  bijective : ∀ kind, Set.BijOn (g.native kind) (g.ids kind) (r.natives kind)
  /-- The handle under an id finds what the recorder holds. -/
  found : ∀ kind, ∀ id ∈ g.ids kind, ∃ content, r.find? kind (g.native kind id) = some content
  /-- A scene has as many instances as its entry says. -/
  counted : ∀ id e, (g.ledger .tlas).get? id = some e →
    ∃ instances, r.find? .tlas (Entry.handle e).native = some instances ∧
      instances.length = e.instanceCount
  /-- The registry counts what the recorder holds. -/
  stats : g.stats = ⟨r.live .geometry, r.live .blas, r.live .tlas⟩

namespace InStep

variable {g : Registry} {r : Recorder}

theorem perm_natives (h : InStep g r) (kind : Kind) :
    ((g.ledger kind).entries.map fun p => (Entry.handle p.2).native).Perm
      ((r.arena kind).handles.map some) := by
  have hperm := (h.matched kind).map Prod.fst
  rw [Recorder.map_fst_holdings] at hperm
  unfold Registry.holdings at hperm
  rw [List.map_map] at hperm
  exact hperm

theorem size_ledger (h : InStep g r) (kind : Kind) : (g.ledger kind).size = r.live kind := by
  have hlen := (h.perm_natives kind).length_eq
  rw [List.length_map, List.length_map, Arena.length_handles, Ledger.length_entries] at hlen
  exact hlen

section Few

variable (h : InStep g r) (hfew : ∀ kind, (g.ledger kind).issued < 2 ^ 31)
include h hfew

/-- Nothing else is on the recorder. -/
theorem heldBeside : HeldBeside (fun _ => []) g r := ⟨h.inRange hfew, h.matched⟩

theorem bijOn_native (kind : Kind) : Set.BijOn (g.native kind) (g.ids kind) (r.natives kind) := by
  refine ⟨?_, ?_, ?_⟩
  · intro id hid
    obtain ⟨e, he⟩ := Registry.mem_ids.1 hid
    obtain ⟨n, hn, hin⟩ := Recorder.holds_of_mem_holdings (h.held he)
    rw [Registry.native_of_get? he]
    exact ⟨n, hin, hn⟩
  · intro id hid other hother hsame
    obtain ⟨e, he⟩ := Registry.mem_ids.1 hid
    obtain ⟨e', he'⟩ := Registry.mem_ids.1 hother
    rw [Registry.native_of_get? he, Registry.native_of_get? he'] at hsame
    exact (h.heldBeside hfew).apart he he' hsame
  · rintro _ ⟨n, hn, rfl⟩
    have hmem := (h.perm_natives kind).mem_iff.2 (List.mem_map.2 ⟨n, hn, rfl⟩)
    obtain ⟨⟨id, e⟩, hin, hnative⟩ := List.mem_map.1 hmem
    have he : (g.ledger kind).get? id = some e := Ledger.get?_eq_some_iff.2 hin
    refine ⟨id, Registry.mem_ids.2 ⟨e, he⟩, ?_⟩
    rw [Registry.native_of_get? he]
    exact hnative

theorem find?_of_get? {kind : Kind} {id : UInt32} {e : Entry kind}
    (he : (g.ledger kind).get? id = some e) :
    ∃ content, r.find? kind e.handle.native = some content ∧
      Content.instanceCount content = e.instances := by
  obtain ⟨n, content, hn, hin, hcount⟩ := Recorder.mem_holdings.1 (h.held he)
  refine ⟨content, ?_, hcount⟩
  unfold Recorder.find?
  rw [hn]
  exact Arena.get?_of_mem (h.inRange hfew kind) hin

theorem agreement : Agreement g r where
  bijective := h.bijOn_native hfew
  found := by
    intro kind id hid
    obtain ⟨e, he⟩ := Registry.mem_ids.1 hid
    obtain ⟨content, hfound, -⟩ := h.find?_of_get? hfew he
    rw [Registry.native_of_get? he]
    exact ⟨content, hfound⟩
  counted := by
    intro id e he
    obtain ⟨instances, hfound, hcount⟩ := h.find?_of_get? hfew he
    exact ⟨instances, hfound, hcount⟩
  stats := by
    have hg : g.geometries.size = r.live .geometry := h.size_ledger .geometry
    have hb : g.blases.size = r.live .blas := h.size_ledger .blas
    have ht : g.tlases.size = r.live .tlas := h.size_ledger .tlas
    unfold Registry.stats
    rw [hg, hb, ht]

end Few

end InStep

namespace Session

/-- **Registered is what is there.**  In every run on a new device, for as long as it stays in use,
the registry and the device agree, and the session tells how many resources the device holds. -/
theorem registry_agrees (s : Session) {run : List Action}
    (hnew : ∀ device, Action.start device ∈ run → device = .recording .fresh)
    (hfew : ∀ kind, creations kind s.anew run < 2 ^ 31) {rt : Renderer}
    (h : (s.anew.acts run).renderer = some rt) :
    ∃ r, rt.device = .recording r ∧ Agreement rt.registry r ∧
      (s.anew.acts run).stats = ⟨r.live .geometry, r.live .blas, r.live .tlas⟩ := by
  obtain ⟨r, g, rfl, hstep, hissued⟩ := s.exists_inStep hnew hfew h
  have hagree := hstep.agreement hissued
  refine ⟨r, rfl, hagree, ?_⟩
  unfold stats
  rw [h]
  exact hagree.stats

theorem registry_agrees_sample :
    ∃ rt r, (({} : Session).anew.acts Action.sample).renderer = some rt ∧
      rt.device = .recording r ∧ Agreement rt.registry r ∧
      (({} : Session).anew.acts Action.sample).stats =
        ⟨r.live .geometry, r.live .blas, r.live .tlas⟩ := by
  obtain ⟨rt, h⟩ := Action.exists_sample
  obtain ⟨r, hr⟩ := registry_agrees {} Action.sample_new Action.sample_few h
  exact ⟨rt, r, h, hr⟩

end Session

end ScriptedRays

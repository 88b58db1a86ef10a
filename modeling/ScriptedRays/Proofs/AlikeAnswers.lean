import ScriptedRays.Proofs.Denotation
import ScriptedRays.Proofs.Likeness

/-!
# AlikeAnswers — renderers that answer alike

Two recorders may hold different resources under different handles.  They are alike if they support the
same, refuse to create at the same time, and hold what registries alike tell (`RecordersAlike`): a request
fails on both with the same error or succeeds on both with the same answer and the same records, and
leaves both alike (`RecordersAlike.answer`).
-/

namespace ScriptedRays

/-- The same answer with the same records, and states that are related. -/
structure Outcome.Matches {σ τ α : Type} (R : σ → τ → Prop) (o : Outcome σ α) (p : Outcome τ α) :
    Prop where
  value : o.value = p.value
  log : o.log = p.log
  state : R o.state p.state

theorem Agrees.cases {α β : Type} {R : α → β → Prop} {x : Except Error α} {y : Except Error β}
    (h : Agrees R x y) :
    (∃ e, x = .error e ∧ y = .error e) ∨ ∃ a b, x = .ok a ∧ y = .ok b ∧ R a b := by
  cases h with
  | error e => exact Or.inl ⟨e, rfl, rfl⟩
  | ok hab => exact Or.inr ⟨_, _, rfl, rfl, hab⟩

/-! ### Renderers -/

/-- Recorders that support the same, refuse to create at the same time, and hold what registries alike
tell. -/
structure RecordersAlike (m : Kind → Nat) (g : Registry) (r : Recorder) (g' : Registry)
    (r' : Recorder) : Prop where
  alike : g.Alike g'
  supported : r.supported = r'.supported
  failing : r.failing = r'.failing
  heldWithin : HeldWithin m g r
  heldWithin' : HeldWithin m g' r'

/-- Renderers on recorders alike. -/
inductive Renderer.Alike (m : Kind → Nat) : Renderer → Renderer → Prop
  | recording {g g' : Registry} {r r' : Recorder} (h : RecordersAlike m g r g' r') :
      Alike m ⟨.recording r, g⟩ ⟨.recording r', g'⟩

open Renderer (Alike)

namespace RecordersAlike

variable {m : Kind → Nat} {g g' : Registry} {r r' : Recorder} (h : RecordersAlike m g r g' r')
include h

/-- A request that is read alike is answered alike if what is done then is. -/
theorem request {α β : Type} {R : α → α → Prop} {read : Registry → Except Error α}
    {act act' : α → Outcome Renderer (Except Error β)} (hread : Agrees R (read g) (read g'))
    (hact : ∀ a b, read g = .ok a → read g' = .ok b → R a b →
      (act a).Matches (Alike m) (act' b)) :
    ((⟨.recording r, g⟩ : Renderer).request read act).Matches (Alike m)
      ((⟨.recording r', g'⟩ : Renderer).request read act') := by
  have hfail : ∀ e : Error,
      ((⟨.recording r, g⟩ : Renderer).fail e : Outcome Renderer (Except Error β)).Matches (Alike m)
        ((⟨.recording r', g'⟩ : Renderer).fail e) := fun e => ⟨rfl, rfl, Alike.recording h⟩
  have hsup : (⟨.recording r', g'⟩ : Renderer).device.isSupported =
      (⟨.recording r, g⟩ : Renderer).device.isSupported := h.supported.symm
  cases hs : (⟨.recording r, g⟩ : Renderer).device.isSupported with
  | false =>
    rw [Renderer.request_of_unsupported hs, Renderer.request_of_unsupported (hsup.trans hs)]
    exact hfail .unsupported
  | true =>
    rcases hread.cases with ⟨e, he, he'⟩ | ⟨a, b, ha, hb, hab⟩
    · rw [Renderer.request_of_error hs he, Renderer.request_of_error (hsup.trans hs) he']
      exact hfail e
    · rw [Renderer.request_of_ok hs ha, Renderer.request_of_ok (hsup.trans hs) hb]
      exact hact a b ha hb hab

variable (hfew : ∀ kind, m kind + (g.ledger kind).issued < 2 ^ 31)
include hfew

theorem few (kind : Kind) : m kind + (g'.ledger kind).issued < 2 ^ 31 := by
  rw [← h.alike.issued kind]
  exact hfew kind

/-- Commands other than the switch leave recorders alike. -/
theorem perform {c c' : Command} {k k' : Registry} (st : Step g r k (r.perform c))
    (st' : Step g' r' k' (r'.perform c')) (hk : k.Alike k')
    (hc : ∀ failing, c ≠ .setFailing failing) (hc' : ∀ failing, c' ≠ .setFailing failing) :
    Alike m ⟨.recording (r.perform c), k⟩ ⟨.recording (r'.perform c'), k'⟩ := by
  refine Alike.recording ⟨hk, ?_, ?_, h.heldWithin.step hfew st, h.heldWithin'.step (h.few hfew) st'⟩
  · rw [Recorder.supported_perform, Recorder.supported_perform, h.supported]
  · rw [Recorder.failing_perform r hc, Recorder.failing_perform r' hc', h.failing]

/-- A creation succeeds on both recorders, with the same id, or fails on both. -/
theorem enroll {kind : Kind} {source source' : Source kind} (hs : source.Usable g.Knows)
    (hs' : source'.Usable g'.Knows) (hcount : source.instanceCount = source'.instanceCount)
    (hlast : (g.ledger kind).issued + 1 < UInt32.size) :
    (Renderer.enroll kind g (Device.create kind source (.recording r))
      (Entry.ofSource source)).Matches (Alike m)
      (Renderer.enroll kind g' (Device.create kind source' (.recording r'))
        (Entry.ofSource source')) := by
  have hcan : r.canCreate = r'.canCreate := by
    unfold Recorder.canCreate
    rw [h.supported, h.failing]
  cases hc : r.canCreate with
  | false =>
    have hc' := hcan ▸ hc
    have hn := Recorder.mints_of_not_canCreate hc kind source
    have hn' := Recorder.mints_of_not_canCreate hc' kind source'
    rw [Renderer.enroll_of_mints_none hn, Renderer.enroll_of_mints_none hn']
    have htold := Recorder.told_of_not_canCreate hc kind source
    have htold' := Recorder.told_of_not_canCreate hc' kind source'
    exact ⟨rfl, htold.trans htold'.symm,
      h.perform hfew (Step.refused hs hn) (Step.refused hs' hn') h.alike nofun nofun⟩
  | true =>
    obtain ⟨n, hn⟩ := Recorder.exists_mints (h.heldWithin.inRange hfew) hc
      (h.heldWithin.held.usable hs)
    obtain ⟨n', hn'⟩ := Recorder.exists_mints (h.heldWithin'.inRange (h.few hfew)) (hcan ▸ hc)
      (h.heldWithin'.held.usable hs')
    obtain ⟨id, t, ht⟩ := Ledger.exists_insert hlast (Entry.ofSource source ⟨some n, 0⟩).withId
    rw [h.alike.issued kind] at hlast
    obtain ⟨id', t', ht'⟩ := Ledger.exists_insert hlast
      (Entry.ofSource source' ⟨some n', 0⟩).withId
    have hinstances : (Entry.ofSource source ⟨some n, 0⟩).instances =
        (Entry.ofSource source' ⟨some n', 0⟩).instances := by
      rw [Entry.instances_ofSource, Entry.instances_ofSource, hcount]
    -- the handles may differ; the ids come from ledgers that have issued as many
    obtain ⟨rfl, hk⟩ := h.alike.insert hinstances ht ht'
    rw [Renderer.enroll_of_mints_some hn ht, Renderer.enroll_of_mints_some hn' ht']
    refine ⟨rfl, ?_, h.perform hfew (Step.created hs hn ht) (Step.created hs' hn' ht') hk nofun
      nofun⟩
    rw [Entry.remark_congr hinstances]

/-- **Requests are answered alike.** -/
theorem answer (args : List Value) (request : Request) :
    ((⟨.recording r, g⟩ : Renderer).answer args request).Matches (Alike m)
      ((⟨.recording r', g'⟩ : Renderer).answer args request) := by
  cases request with
  | create kind =>
    unfold Renderer.answer Renderer.create
    refine h.request (h.alike.readSource kind _) fun source source' hs hs' hcount => ?_
    have hlast := Ledger.succ_lt_size_of_add (hfew kind)
    exact h.enroll hfew ((g.reads_source kind _).1 source hs)
      ((g'.reads_source kind _).1 source' hs') hcount hlast
  | updateTlas =>
    unfold Renderer.answer Renderer.updateTlas
    refine h.request (h.alike.readUpdate _ _) ?_
    rintro ⟨scene, instances⟩ ⟨scene', instances'⟩ hu hu' -
    obtain ⟨id, e, he, rfl, hl, hi⟩ := (g.reads_update _ _).1 _ hu
    obtain ⟨id', e', he', rfl, hl', hi'⟩ := (g'.reads_update _ _).1 _ hu'
    -- both updates are valid, so neither recorder tells of anything
    have hlog := Recorder.updateTlas_of_valid (h.heldWithin.inRange hfew)
      (h.heldWithin.held.valid_update he hl hi)
    have hlog' := Recorder.updateTlas_of_valid (h.heldWithin'.inRange (h.few hfew))
      (h.heldWithin'.held.valid_update he' hl' hi')
    refine ⟨rfl, ?_, h.perform hfew (Step.updated he hl hi) (Step.updated he' hl' hi') h.alike nofun
      nofun⟩
    show (r.updateTlas _ _).log = (r'.updateTlas _ _).log
    rw [hlog, hlog']
  | traceRays =>
    unfold Renderer.answer Renderer.traceRays
    refine h.request (h.alike.readTrace _) fun trace trace' ht ht' _ => ?_
    obtain ⟨hk, hw, hh⟩ := (g.reads_trace _).1 trace ht
    obtain ⟨hk', hw', hh'⟩ := (g'.reads_trace _).1 trace' ht'
    exact ⟨rfl, rfl, h.perform hfew (Step.traced hk hw hh) (Step.traced hk' hw' hh') h.alike nofun
      nofun⟩

/-- Resources are destroyed alike. -/
theorem destroy (kind : Kind) (wrapper : Value) :
    ((⟨.recording r, g⟩ : Renderer).destroy kind wrapper).Matches (Alike m)
      ((⟨.recording r', g'⟩ : Renderer).destroy kind wrapper) := by
  unfold Renderer.destroy
  cases Wrapper.read kind wrapper with
  | error e => exact ⟨rfl, rfl, Alike.recording h⟩
  | ok id =>
    unfold Renderer.release Registry.release
    rcases h.alike.get?_cases kind id with ⟨he, he'⟩ | ⟨e, e', he, he', -⟩
    · simp only [he, he']
      exact ⟨rfl, rfl, Alike.recording h⟩
    · simp only [he, he']
      exact ⟨rfl, rfl, h.perform hfew (Step.released he) (Step.released he') (h.alike.erase kind id)
        nofun nofun⟩

theorem setFailing (failing : Bool) :
    Alike m ⟨.recording (r.setFailing failing), g⟩ ⟨.recording (r'.setFailing failing), g'⟩ :=
  Alike.recording ⟨h.alike, h.supported, rfl, h.heldWithin.step hfew (Step.switched failing),
    h.heldWithin'.step (h.few hfew) (Step.switched failing)⟩

end RecordersAlike

end ScriptedRays

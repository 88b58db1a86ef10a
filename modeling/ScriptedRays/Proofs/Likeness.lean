import ScriptedRays.Proofs.Renderer

/-!
# Likeness — registries that a script cannot tell apart

Two registries are alike if the same ids are in use, the same come next, and scenes were built from
as many instances; their native handles may differ.  What a script asks for is then read with the
same success and the same error (`readSource`, `readUpdate`, `readTrace`), and registries alike stay
so where both get or lose an entry under the same id (`insert`, `erase`).
-/

namespace ScriptedRays

/-- Both fail with the same error, or both succeed with results that are related. -/
inductive Agrees {α β : Type} (R : α → β → Prop) : Except Error α → Except Error β → Prop
  | error (e : Error) : Agrees R (.error e) (.error e)
  | ok {a : α} {b : β} (h : R a b) : Agrees R (.ok a) (.ok b)

namespace Agrees

variable {α β γ δ : Type} {R : α → β → Prop} {S : γ → δ → Prop}

theorem refl {R : α → α → Prop} (h : ∀ a, R a a) (x : Except Error α) : Agrees R x x := by
  cases x with
  | error e => exact error e
  | ok a => exact ok (h a)

theorem mono {R' : α → β → Prop} {x : Except Error α} {y : Except Error β} (h : Agrees R x y)
    (hR : ∀ a b, R a b → R' a b) : Agrees R' x y := by
  cases h with
  | error e => exact error e
  | ok hab => exact ok (hR _ _ hab)

theorem bind {x : Except Error α} {y : Except Error β} {f : α → Except Error γ}
    {f' : β → Except Error δ} (h : Agrees R x y) (hf : ∀ a b, R a b → Agrees S (f a) (f' b)) :
    Agrees S (x >>= f) (y >>= f') := by
  cases h with
  | error e => exact error e
  | ok hab => exact hf _ _ hab

/-- Lists are read alike if their elements are. -/
theorem each {read : Value → Except Error α} {read' : Value → Except Error β}
    (h : ∀ v, Agrees R (read v) (read' v)) (first : Nat) (vs : List Value) :
    Agrees (fun as bs => List.length as = List.length bs) (readEachFrom read first vs)
      (readEachFrom read' first vs) := by
  induction vs generalizing first with
  | nil => exact ok rfl
  | cons v rest ih =>
    unfold readEachFrom
    have hv := h v
    have hrest := ih (first + 1)
    -- the element fails on both sides alike, and then so does the list
    generalize read v = x, read' v = y at hv
    cases hv with
    | error e => exact error _
    | ok hab =>
      generalize readEachFrom read (first + 1) rest = xs,
        readEachFrom read' (first + 1) rest = ys at hrest
      cases hrest with
      | error e => exact error e
      | ok hlen => exact ok (by rw [List.length_cons, List.length_cons, hlen])

end Agrees

theorem Entry.remark_congr {kind : Kind} {e e' : Entry kind} (h : e.instances = e'.instances) :
    e.remark = e'.remark := by
  cases kind with
  | geometry => rfl
  | blas => rfl
  | tlas =>
    obtain ⟨_, count⟩ := e
    obtain ⟨_, count'⟩ := e'
    obtain rfl : count = count' := h
    rfl

namespace Registry

/-- The same ids are in use and the same come next, scenes with as many instances. -/
structure Alike (g g' : Registry) : Prop where
  issued : ∀ kind, (g.ledger kind).issued = (g'.ledger kind).issued
  entries : ∀ kind id, ((g.ledger kind).get? id).map Entry.instances =
    ((g'.ledger kind).get? id).map Entry.instances

namespace Alike

variable {g g' : Registry} (h : Alike g g')
include h

/-- An id is in use in both or in none. -/
theorem get?_cases (kind : Kind) (id : UInt32) :
    ((g.ledger kind).get? id = none ∧ (g'.ledger kind).get? id = none) ∨
      ∃ e e', (g.ledger kind).get? id = some e ∧ (g'.ledger kind).get? id = some e' ∧
        e.instances = e'.instances := by
  have hid := h.entries kind id
  cases he : (g.ledger kind).get? id with
  | none =>
    rw [he] at hid
    exact Or.inl ⟨rfl, Option.map_eq_none_iff.1 hid.symm⟩
  | some e =>
    rw [he] at hid
    obtain ⟨e', he', hcount⟩ := Option.map_eq_some_iff.1 hid.symm
    exact Or.inr ⟨e, e', rfl, he', hcount.symm⟩

/-! ### Requests -/

theorem lookup (kind : Kind) (v : Value) :
    Agrees (fun e e' => Entry.instances e = Entry.instances e') (g.lookup kind v)
      (g'.lookup kind v) := by
  unfold Registry.lookup resolve
  cases Wrapper.read kind v with
  | error e => exact Agrees.error e
  | ok id =>
    rcases h.get?_cases kind id with ⟨he, he'⟩ | ⟨e, e', he, he', hcount⟩
    · simp only [he, he']
      exact Agrees.error _
    · simp only [he, he']
      exact Agrees.ok hcount

theorem readInstance (v : Value) :
    Agrees (fun _ _ => True) (Instance.read g v) (Instance.read g' v) := by
  unfold Instance.read
  cases v.object? with
  | none => exact Agrees.error _
  | some o =>
    dsimp only
    split
    · exact Agrees.error _
    · have hblas := h.lookup .blas (o.get "blas")
      generalize g.lookup .blas (o.get "blas") = x, g'.lookup .blas (o.get "blas") = y at hblas
      cases hblas with
      | error e => exact Agrees.error e
      | ok => exact Agrees.ok trivial

/-- Sources are read alike. -/
theorem readSource (kind : Kind) (v : Value) :
    Agrees (fun source source' => Source.instanceCount source = Source.instanceCount source')
      (g.readSource kind v) (g'.readSource kind v) := by
  cases kind with
  | geometry =>
    exact (Agrees.refl (fun _ => rfl) (Mesh.read v)).mono fun _ _ _ => rfl
  | blas =>
    show Agrees _ (g.readGeometries v) (g'.readGeometries v)
    unfold readGeometries
    split
    · exact Agrees.error _
    · exact Agrees.error _
    · exact (Agrees.each (h.lookup .geometry) 0 _).mono fun _ _ _ => rfl
  | tlas =>
    show Agrees _ (g.readBuild v) (g'.readBuild v)
    unfold readBuild
    split
    · exact Agrees.error _
    · exact Agrees.error _
    · exact Agrees.each h.readInstance 0 _

theorem readUpdate (scene instances : Value) :
    Agrees (fun _ _ => True) (g.readUpdate scene instances) (g'.readUpdate scene instances) := by
  unfold Registry.readUpdate
  have hscene := h.lookup .tlas scene
  generalize g.lookup .tlas scene = x, g'.lookup .tlas scene = y at hscene
  cases hscene with
  | error e => exact Agrees.error e
  | @ok e e' hcount =>
    have hcount' : SceneEntry.instanceCount e = SceneEntry.instanceCount e' := hcount
    dsimp only
    split
    · exact Agrees.error _
    next elements _ =>
    rw [hcount']
    split
    · have heach : Agrees _ (readEach (Instance.read g) elements)
          (readEach (Instance.read g') elements) := Agrees.each h.readInstance 0 elements
      generalize readEach (Instance.read g) elements = xs,
        readEach (Instance.read g') elements = ys at heach
      cases heach with
      | error e => exact Agrees.error e
      | ok => exact Agrees.ok trivial
    · exact Agrees.error _

theorem readTrace (options : Value) :
    Agrees (fun _ _ => True) (g.readTrace options) (g'.readTrace options) := by
  unfold Registry.readTrace
  split
  · exact Agrees.error _
  · next o _ =>
    refine (h.lookup .tlas _).bind fun e e' _ => ?_
    refine (Agrees.refl (fun _ => rfl) _).bind fun width _ hw => ?_
    refine (Agrees.refl (fun _ => rfl) _).bind fun height _ hh => ?_
    subst hw hh
    split
    · exact Agrees.error _
    · refine (Agrees.refl (fun _ => rfl) _).bind fun uniforms _ hu => ?_
      exact Agrees.ok trivial

/-! ### Entries that come and go -/

theorem insert {kind : Kind} {e e' : Entry kind} {id id' : UInt32} {t t' : Ledger (Entry kind)}
    (hcount : e.instances = e'.instances) (ht : (g.ledger kind).insert e.withId = some (id, t))
    (ht' : (g'.ledger kind).insert e'.withId = some (id', t')) :
    id = id' ∧ Alike (g.withLedger kind t) (g'.withLedger kind t') := by
  have hid : id = id' := by
    apply UInt32.toNat_inj.1
    rw [Ledger.toNat_of_insert ht, Ledger.toNat_of_insert ht', h.issued kind]
  subst hid
  refine ⟨rfl, fun k => ?_, fun k other => ?_⟩
  · by_cases hk : k = kind
    · subst hk
      rw [ledger_withLedger, ledger_withLedger, Ledger.issued_insert ht,
        Ledger.issued_insert ht', h.issued k]
    · rw [ledger_withLedger_of_ne g t hk, ledger_withLedger_of_ne g' t' hk]
      exact h.issued k
  · by_cases hk : k = kind
    · subst hk
      rw [ledger_withLedger, ledger_withLedger, Ledger.get?_insert ht, Ledger.get?_insert ht']
      by_cases ho : other = id
      · rw [if_pos ho, if_pos ho, Option.map_some, Option.map_some, Entry.instances_withId,
          Entry.instances_withId, hcount]
      · rw [if_neg ho, if_neg ho]
        exact h.entries k other
    · rw [ledger_withLedger_of_ne g t hk, ledger_withLedger_of_ne g' t' hk]
      exact h.entries k other

theorem erase (kind : Kind) (id : UInt32) :
    Alike (g.withLedger kind ((g.ledger kind).erase id))
      (g'.withLedger kind ((g'.ledger kind).erase id)) := by
  refine ⟨fun k => ?_, fun k other => ?_⟩
  · rw [g.issued_erase kind k id, g'.issued_erase kind k id]
    exact h.issued k
  · by_cases hk : k = kind
    · subst hk
      rw [ledger_withLedger, ledger_withLedger, Ledger.get?_erase, Ledger.get?_erase]
      by_cases ho : other = id
      · rw [if_pos ho, if_pos ho]
      · rw [if_neg ho, if_neg ho]
        exact h.entries k other
    · rw [ledger_withLedger_of_ne g _ hk, ledger_withLedger_of_ne g' _ hk]
      exact h.entries k other

theorem size_ledger (kind : Kind) : (g.ledger kind).size = (g'.ledger kind).size := by
  have hids : ((g.ledger kind).entries.map Prod.fst).Perm
      ((g'.ledger kind).entries.map Prod.fst) := by
    refine (List.perm_ext_iff_of_nodup (Ledger.nodup_ids _) (Ledger.nodup_ids _)).2 fun id => ?_
    rw [Ledger.mem_ids, Ledger.mem_ids]
    rcases h.get?_cases kind id with ⟨he, he'⟩ | ⟨e, e', he, he', -⟩
    · rw [he, he']
    · exact iff_of_true ⟨e, he⟩ ⟨e', he'⟩
  have hlen := hids.length_eq
  rw [List.length_map, List.length_map, Ledger.length_entries, Ledger.length_entries] at hlen
  exact hlen

theorem stats : g.stats = g'.stats := by
  have hg : g.geometries.size = g'.geometries.size := h.size_ledger .geometry
  have hb : g.blases.size = g'.blases.size := h.size_ledger .blas
  have ht : g.tlases.size = g'.tlases.size := h.size_ledger .tlas
  unfold Registry.stats
  rw [hg, hb, ht]

end Alike

end Registry

end ScriptedRays

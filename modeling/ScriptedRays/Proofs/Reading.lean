import Mathlib.Data.List.Forall2
import ScriptedRays.Proofs.Recorder
import ScriptedRays.Proofs.Ledger
import ScriptedRays.Session.Renderer

/-!
# Reading — what may be relied on once a request is read

Whatever is read names registered resources only and has something in it, whatever fails does so
because of the input (`reads_source`, `reads_update`, `reads_trace`).  The rules for `Reads` follow
the ways in which readers are put together.
-/

namespace ScriptedRays

/-- The failure is one of the input. -/
def Error.OfInput : Error → Prop
  | invalidInput _ _ => True
  | unresolved _ _ _ => True
  | unsupported => False
  | deviceFailure _ => False

theorem Error.OfInput.atPosition {e : Error} (h : e.OfInput) (n : Nat) :
    (e.atPosition n).OfInput := by
  cases e with
  | invalidInput complaint positions => trivial
  | unresolved kind id position => trivial
  | unsupported => exact h
  | deviceFailure kind => exact h

theorem Error.OfInput.ne_deviceFailure {e : Error} (h : e.OfInput) (kind : Kind) :
    e ≠ .deviceFailure kind := by
  rintro rfl
  exact h

/-- What is read satisfies a property, and what fails does so because of the input. -/
def Reads {α : Type} (x : Except Error α) (P : α → Prop) : Prop :=
  (∀ a, x = .ok a → P a) ∧ ∀ e, x = .error e → e.OfInput

namespace Reads

variable {α β : Type} {P : α → Prop} {Q : β → Prop}

theorem ok {a : α} (h : P a) : Reads (.ok a) P :=
  ⟨fun _ he => Except.ok.inj he ▸ h, nofun⟩

theorem error {e : Error} (h : e.OfInput) : Reads (.error e) P :=
  ⟨nofun, fun _ he => Except.error.inj he ▸ h⟩

theorem mono {x : Except Error α} {R : α → Prop} (hx : Reads x P) (h : ∀ a, P a → R a) :
    Reads x R := ⟨fun a ha => h a (hx.1 a ha), hx.2⟩

theorem bind {x : Except Error α} {f : α → Except Error β} (hx : Reads x P)
    (hf : ∀ a, P a → Reads (f a) Q) : Reads (x >>= f) Q := by
  cases x with
  | error e => exact error (hx.2 e rfl)
  | ok a => exact hf a (hx.1 a rfl)

theorem map {x : Except Error α} {f : α → β} (hx : Reads x P) (hf : ∀ a, P a → Q (f a)) :
    Reads (x.map f) Q := by
  cases x with
  | error e => exact error (hx.2 e rfl)
  | ok a => exact ok (hf a (hx.1 a rfl))

theorem each {read : Value → Except Error β} (hr : ∀ v, Reads (read v) Q) (first : Nat)
    (vs : List Value) :
    Reads (readEachFrom read first vs) fun bs => bs.length = vs.length ∧ ∀ b ∈ bs, Q b := by
  induction vs generalizing first with
  | nil => exact ok ⟨rfl, by simp⟩
  | cons v rest ih =>
    unfold readEachFrom
    have hv := hr v
    cases hread : read v with
    -- the first element that cannot be read gives its own error, placed
    | error e => exact error ((hv.2 e hread).atPosition first)
    | ok b =>
      have hrest := ih (first + 1)
      cases hbs : readEachFrom read (first + 1) rest with
      | error e => exact error (hrest.2 e hbs)
      | ok bs =>
        obtain ⟨hl, hall⟩ := hrest.1 bs hbs
        refine ok ⟨by rw [List.length_cons, List.length_cons, hl], fun c hc => ?_⟩
        rcases List.mem_cons.1 hc with rfl | hc
        · exact hv.1 c hread
        · exact hall c hc

theorem each_of_ne_nil {read : Value → Except Error β} (hr : ∀ v, Reads (read v) Q)
    {vs : List Value} (hvs : vs ≠ []) :
    Reads (readEach read vs) fun bs => bs ≠ [] ∧ ∀ b ∈ bs, Q b := by
  have heach := each hr 0 vs
  refine ⟨?_, heach.2⟩
  intro bs hbs
  obtain ⟨hl, hall⟩ := heach.1 bs hbs
  refine ⟨?_, hall⟩
  rintro rfl
  exact hvs (List.eq_nil_of_length_eq_zero hl.symm)

end Reads

/-! ### Meshes -/

theorem ofNatClamp_ne_zero {n : Nat} (h : n ≠ 0) : UInt64.ofNatClamp n ≠ 0 := by
  intro he
  unfold UInt64.ofNatClamp at he
  have hn := congrArg UInt64.toNat he
  split at hn
  · next hlt =>
    rw [UInt64.toNat_ofNatLT] at hn
    exact h hn
  · exact absurd hn (by decide)

theorem reads_ofField (v : Value) (field : String) :
    Reads (Buffer.ofField v field) fun b => v = .buffer b := by
  unfold Buffer.ofField
  split
  · split
    · exact Reads.error trivial
    · exact Reads.ok rfl
  · exact Reads.error trivial
  · exact Reads.error trivial
  · exact Reads.error trivial

namespace Mesh

theorem reads_indices (count : Nat) (b : Buffer) : Reads (readIndices count b) fun _ => True := by
  unfold readIndices
  split
  · exact Reads.error trivial
  · exact Reads.ok trivial

theorem reads_optionalIndices (count : Nat) (v : Value) :
    Reads (readOptionalIndices count v) fun _ => True := by
  unfold readOptionalIndices
  split
  · exact Reads.ok trivial
  · exact Reads.ok trivial
  · split
    · exact Reads.ok trivial
    · exact (reads_indices count _).map fun _ _ => trivial
  · exact Reads.error trivial

/-- A mesh has a vertex, and its bytes are those of the buffer given for its vertices. -/
theorem reads (options : Value) :
    Reads (read options) fun m => m.vertexCount ≠ 0 ∧
      ∃ o b, options.object? = some o ∧ o.get "vertices" = .buffer b ∧ m.vertices = b.bytes := by
  unfold read
  split
  · exact Reads.error trivial
  · next o ho =>
    refine (reads_ofField _ _).bind fun vertices hvertices => ?_
    dsimp only
    split
    · exact Reads.error trivial
    next hcount =>
    split
    · exact Reads.error trivial
    split
    · exact Reads.error trivial
    refine (reads_optionalIndices _ _).bind fun indices _ => ?_
    exact Reads.ok ⟨ofNatClamp_ne_zero hcount, o, vertices, ho, hvertices, rfl⟩

end Mesh

/-! ### Registered resources -/

theorem reads_elements (purpose : String) (v : Value) :
    Reads (elementsOf purpose v) fun _ => True := by
  unfold elementsOf
  split
  · exact Reads.ok trivial
  · exact Reads.error trivial

theorem Wrapper.reads (kind : Kind) (v : Value) : Reads (Wrapper.read kind v) fun _ => True := by
  unfold Wrapper.read
  split
  · exact Reads.error trivial
  · dsimp only
    split
    · exact Reads.ok trivial
    · exact Reads.error trivial

namespace Registry

variable (g : Registry)

/-- The handle is that of a registered resource. -/
def Knows (kind : Kind) (h : Handle kind) : Prop :=
  ∃ id e, (g.ledger kind).get? id = some e ∧ Entry.handle e = h

theorem reads_lookup (kind : Kind) (v : Value) :
    Reads (g.lookup kind v) fun e => ∃ id, (g.ledger kind).get? id = some e := by
  unfold lookup resolve
  have hw := Wrapper.reads kind v
  split
  · next e he => exact Reads.error (hw.2 e he)
  · next id _ =>
    split
    · next e he => exact Reads.ok ⟨id, he⟩
    · exact Reads.error trivial

theorem reads_geometries (v : Value) :
    Reads (g.readGeometries v) fun gs => gs ≠ [] ∧ ∀ h ∈ gs, g.Knows .geometry h := by
  unfold readGeometries
  have he := reads_elements "geometry handles" v
  split
  · next e hx => exact Reads.error (he.2 e hx)
  · exact Reads.error trivial
  · next elements hne _ =>
    refine Reads.each_of_ne_nil (fun u => ?_) hne
    refine ⟨?_, (g.reads_lookup .geometry u).2⟩
    intro h hu
    obtain ⟨id, hid⟩ := (g.reads_lookup .geometry u).1 h hu
    exact ⟨id, h, hid, rfl⟩

end Registry

theorem Instance.reads (g : Registry) (v : Value) :
    Reads (Instance.read g v) fun i => g.Knows .blas i.blas := by
  unfold Instance.read
  split
  · exact Reads.error trivial
  · next o _ =>
    split
    · exact Reads.error trivial
    · have hl := g.reads_lookup .blas (o.get "blas")
      split
      · next e he => exact Reads.error (hl.2 e he)
      · next h hh =>
        obtain ⟨id, hid⟩ := hl.1 h hh
        exact Reads.ok ⟨id, h, hid, rfl⟩

namespace Registry

variable (g : Registry)

theorem reads_build (v : Value) :
    Reads (g.readBuild v) fun is => is ≠ [] ∧ ∀ i ∈ is, g.Knows .blas i.blas := by
  unfold readBuild
  have he := reads_elements "instances" v
  split
  · next e hx => exact Reads.error (he.2 e hx)
  · exact Reads.error trivial
  · next elements hne _ => exact Reads.each_of_ne_nil (Instance.reads g) hne

/-- **What a resource is made from.**  There is something, and all it names is registered. -/
theorem reads_source (kind : Kind) (v : Value) :
    Reads (g.readSource kind v) fun source => source.Usable g.Knows := by
  cases kind with
  | geometry => exact (Mesh.reads v).mono fun _ hm => hm.1
  | blas => exact g.reads_geometries v
  | tlas => exact g.reads_build v

/-- **What a scene is changed to.**  The scene is registered, the instances are as many as it was
built from, and all they name is registered. -/
theorem reads_update (scene instances : Value) :
    Reads (g.readUpdate scene instances) fun update =>
      ∃ id e, (g.ledger .tlas).get? id = some e ∧ e.handle = update.1 ∧
        update.2.length = e.instanceCount ∧ ∀ i ∈ update.2, g.Knows .blas i.blas := by
  unfold readUpdate
  have hl := g.reads_lookup .tlas scene
  split
  · next e he => exact Reads.error (hl.2 e he)
  · next entry hentry =>
    obtain ⟨id, hid⟩ := hl.1 entry hentry
    have he := reads_elements "instances" instances
    split
    · next e hx => exact Reads.error (he.2 e hx)
    · next elements _ =>
      split
      · next hcount =>
        have heach := Reads.each (Instance.reads g) 0 elements
        split
        · next e hx => exact Reads.error (heach.2 e hx)
        · next is his =>
          obtain ⟨hlen, hall⟩ := heach.1 is his
          exact Reads.ok ⟨id, entry, hid, rfl, hlen.trans hcount, hall⟩
      · exact Reads.error trivial

theorem reads_size (v : Value) (field : String) : Reads (readSize v field) fun n => 1 ≤ n := by
  unfold readSize
  split
  · next n _ =>
    split
    · exact Reads.error trivial
    · next hn =>
      refine Reads.ok (UInt32.le_iff_toNat_le.2 ?_)
      have hpos : n.toNat ≠ 0 := fun he => hn (UInt32.toNat_inj.1 he)
      show 1 ≤ n.toNat
      omega
  · exact Reads.error trivial

theorem reads_uniforms (v : Value) : Reads (readUniforms v) fun _ => True := by
  unfold readUniforms
  split
  · exact Reads.ok trivial
  · exact Reads.ok trivial
  · exact Reads.ok trivial
  · exact Reads.error trivial

/-- **What is traced.**  The scene is registered and the image has a size. -/
theorem reads_trace (options : Value) :
    Reads (g.readTrace options) fun t => g.Knows .tlas t.tlas ∧ 1 ≤ t.width ∧ 1 ≤ t.height := by
  unfold readTrace
  split
  · exact Reads.error trivial
  · next o _ =>
    refine (g.reads_lookup .tlas _).bind ?_
    rintro scene ⟨id, hid⟩
    refine (reads_size _ _).bind fun width hw => ?_
    refine (reads_size _ _).bind fun height hh => ?_
    split
    · exact Reads.error trivial
    · refine (reads_uniforms _).bind fun uniforms _ => ?_
      exact Reads.ok ⟨⟨id, scene, hid, rfl⟩, hw, hh⟩

end Registry

/-! ### What was read from -/

theorem elementsOf_eq_ok {purpose : String} {v : Value} {elements : List Value} :
    elementsOf purpose v = .ok elements ↔ v = .array elements := by
  unfold elementsOf Value.array?
  cases v with
  | array es =>
    exact ⟨fun h => congrArg _ (Except.ok.inj h), fun h => congrArg _ (Value.array.inj h)⟩
  | _ => exact ⟨nofun, nofun⟩

/-- A list is read by reading its elements. -/
theorem readEachFrom_eq_ok {α : Type} {read : Value → Except Error α} {first : Nat}
    {vs : List Value} {as : List α} :
    readEachFrom read first vs = .ok as ↔ List.Forall₂ (fun v a => read v = .ok a) vs as := by
  induction vs generalizing first as with
  | nil =>
    unfold readEachFrom
    rw [List.forall₂_nil_left_iff]
    exact ⟨fun h => (Except.ok.inj h).symm, fun h => congrArg _ h.symm⟩
  | cons v rest ih =>
    unfold readEachFrom
    rw [List.forall₂_cons_left_iff]
    cases hread : read v with
    | error e => exact ⟨nofun, fun ⟨_, _, h, _⟩ => absurd h nofun⟩
    | ok a =>
      cases hrest : readEachFrom read (first + 1) rest with
      | error e =>
        refine ⟨nofun, ?_⟩
        rintro ⟨_, us, -, hus, -⟩
        rw [ih.2 hus] at hrest
        exact absurd hrest nofun
      | ok bs =>
        constructor
        · intro h
          exact ⟨a, bs, rfl, ih.1 hrest, (Except.ok.inj h).symm⟩
        · rintro ⟨b, us, hb, hus, rfl⟩
          obtain rfl := Except.ok.inj hb
          rw [ih.2 hus] at hrest
          rw [Except.ok.inj hrest]

namespace Registry

variable {g : Registry}

theorem lookup_eq_ok {kind : Kind} {v : Value} {e : Entry kind} :
    g.lookup kind v = .ok e ↔
      ∃ id, Wrapper.read kind v = .ok id ∧ (g.ledger kind).get? id = some e := by
  unfold lookup resolve
  cases Wrapper.read kind v with
  | error e => exact ⟨nofun, fun ⟨_, h, _⟩ => absurd h nofun⟩
  | ok id =>
    cases hid : (g.ledger kind).get? id with
    | none =>
      simp only [hid]
      refine ⟨nofun, ?_⟩
      rintro ⟨other, ho, he⟩
      rw [← Except.ok.inj ho, hid] at he
      exact absurd he nofun
    | some e' =>
      simp only [hid]
      constructor
      · intro h
        exact ⟨id, rfl, by rw [hid, Except.ok.inj h]⟩
      · rintro ⟨other, ho, he⟩
        rw [← Except.ok.inj ho, hid] at he
        rw [Option.some.inj he]

theorem readGeometries_eq_ok {v : Value} {handles : List (Handle .geometry)}
    (h : g.readGeometries v = .ok handles) :
    ∃ elements, v = .array elements ∧
      List.Forall₂ (fun u x => g.lookup .geometry u = .ok x) elements handles := by
  unfold readGeometries at h
  split at h
  · exact absurd h nofun
  · exact absurd h nofun
  · next elements _ he => exact ⟨elements, elementsOf_eq_ok.1 he, readEachFrom_eq_ok.1 h⟩

theorem readBuild_eq_ok {v : Value} {instances : List Instance}
    (h : g.readBuild v = .ok instances) :
    ∃ elements, v = .array elements ∧
      List.Forall₂ (fun u i => Instance.read g u = .ok i) elements instances := by
  unfold readBuild at h
  split at h
  · exact absurd h nofun
  · exact absurd h nofun
  · next elements _ he => exact ⟨elements, elementsOf_eq_ok.1 he, readEachFrom_eq_ok.1 h⟩

theorem readUpdate_eq_ok {scene list : Value} {handle : Handle .tlas} {instances : List Instance}
    (h : g.readUpdate scene list = .ok (handle, instances)) :
    ∃ id e elements, Wrapper.read .tlas scene = .ok id ∧ (g.ledger .tlas).get? id = some e ∧
      e.handle = handle ∧ list = .array elements ∧
      List.Forall₂ (fun u i => Instance.read g u = .ok i) elements instances ∧
      instances.length = e.instanceCount := by
  unfold readUpdate at h
  cases hscene : g.lookup .tlas scene with
  | error e =>
    rw [hscene] at h
    exact absurd h nofun
  | ok entry =>
    obtain ⟨id, hread, hid⟩ := lookup_eq_ok.1 hscene
    rw [hscene] at h
    dsimp only at h
    split at h
    · exact absurd h nofun
    next elements he =>
    split at h
    next hcount =>
      split at h
      · exact absurd h nofun
      next is his =>
      obtain ⟨rfl, rfl⟩ := Prod.mk.inj (Except.ok.inj h)
      have hall := readEachFrom_eq_ok.1 his
      exact ⟨id, entry, elements, hread, hid, rfl, elementsOf_eq_ok.1 he, hall,
        hall.length_eq.symm.trans hcount⟩
    · exact absurd h nofun

end Registry

end ScriptedRays

import ScriptedRays.Proofs.Answer
import ScriptedRays.Proofs.Checks
import ScriptedRays.Proofs.Wrapper

/-!
# Batch — lists are read whole or not at all

A list of handles or instances is read exactly if each of its elements is, and then element by
element; the first element that is not makes the request fail, with its own error and its place
(`lists_exact`).  What is checked of the list as a whole comes before its elements.
-/

namespace ScriptedRays

/-! ### Elements -/

/-- What is told of the first element that cannot be read. -/
def FirstUnread {α : Type} (read : Value → Except Error α) : List Value → Error → Prop :=
  FirstAmong fun i v e => ∃ own, read v = .error own ∧ e = own.atPosition i

section Each

variable {α : Type} {read : Value → Except Error α}

theorem firstUnread_unique {vs : List Value} {e e' : Error} (h : FirstUnread read vs e)
    (h' : FirstUnread read vs e') : e = e' := by
  refine FirstAmong.unique ?_ h h'
  rintro i v e e' ⟨own, hown, rfl⟩ ⟨own', hown', rfl⟩
  rw [Except.error.inj (hown.symm.trans hown')]

/-- Where a list is not read, the first element that is not read is told of. -/
theorem readEachFrom_eq_error {first : Nat} {vs : List Value} {e : Error}
    (h : readEachFrom read first vs = .error e) :
    FirstAmong (fun i v e => ∃ own, read v = .error own ∧ e = own.atPosition (first + i)) vs e := by
  induction vs generalizing first with
  | nil => cases h
  | cons v rest ih =>
    unfold readEachFrom at h
    cases hread : read v with
    | error own =>
      rw [hread] at h
      obtain rfl := Except.error.inj h
      exact .found (i := 0) rfl ⟨own, hread, rfl⟩ fun j _ hj => absurd hj (Nat.not_lt_zero j)
    | ok a =>
      rw [hread] at h
      cases hrest : readEachFrom read (first + 1) rest with
      | ok as =>
        rw [hrest] at h
        cases h
      | error e' =>
        rw [hrest] at h
        obtain rfl := Except.error.inj h
        -- in the rest all positions are one higher, which `first + 1` makes up for
        obtain ⟨hv, ⟨own, hown, rfl⟩, hbefore⟩ := ih hrest
        next i u =>
          refine .found (i := i + 1) hv ⟨own, hown, ?_⟩ ?_
          · rw [Nat.add_assoc, Nat.add_comm 1]
          · rintro (_ | j) w hj hw e'' ⟨own'', hown'', -⟩
            · obtain rfl := Option.some.inj hw
              rw [hread] at hown''
              cases hown''
            · exact hbefore j w (Nat.lt_of_succ_lt_succ hj) hw _ ⟨own'', hown'', rfl⟩

theorem checked_readEach (read : Value → Except Error α) (vs : List Value) :
    Checked (readEach read vs) [FirstUnread read vs] fun as =>
      List.Forall₂ (fun v a => read v = .ok a) vs as where
  ok as has := by
    have hall := readEachFrom_eq_ok.1 has
    have hread : ∀ v ∈ vs, ∃ a, read v = .ok a :=
      ((List.forall₂_and_left vs as).1 (hall.imp fun v a h => ⟨⟨a, h⟩, h⟩)).1
    refine ⟨hall, List.forall_mem_singleton.2 (FirstAmong.absent ?_)⟩
    rintro i v hv e ⟨own, hown, -⟩
    obtain ⟨a, ha⟩ := hread v (List.mem_of_getElem? hv)
    exact absurd (ha.symm.trans hown) nofun
  error e he := by
    have h := readEachFrom_eq_error he
    simp only [Nat.zero_add] at h
    exact FirstFault.here h

/-! ### Lists -/

/-- Reads a list that is not empty, element by element. -/
def readList (purpose name : String) (read : Value → Except Error α) (v : Value) :
    Except Error (List α) :=
  match elementsOf purpose v with
  | .error e => .error e
  | .ok [] => .error (.invalid (.emptyList name))
  | .ok elements => readEach read elements

/-- All that can be wrong with such a list. -/
def listFaults (purpose name : String) (read : Value → Except Error α) (v : Value) :
    List (Error → Prop) :=
  [Fault (v.array? = none) (.invalid (.notArray purpose v.typeName)),
    Fault (v.array? = some []) (.invalid (.emptyList name)),
    FirstUnread read (v.array?.getD [])]

theorem checked_readList (purpose name : String) (read : Value → Except Error α) (v : Value) :
    Checked (readList purpose name read v) (listFaults purpose name read v) fun as =>
      ∃ elements, elements ≠ [] ∧ v = .array elements ∧
        List.Forall₂ (fun u a => read u = .ok a) elements as := by
  unfold readList listFaults elementsOf
  cases h : v.array? with
  | none => exact Checked.fail ⟨rfl, rfl⟩
  | some elements =>
    refine Checked.skip (Fault.absent nofun) ?_
    cases elements with
    | nil => exact Checked.fail ⟨rfl, rfl⟩
    | cons u us =>
      refine Checked.skip (Fault.absent nofun) ((checked_readEach read (u :: us)).mono ?_)
      intro as hall
      exact ⟨u :: us, List.cons_ne_nil u us, Value.array?_eq_some.1 h, hall⟩

/-- Lists are read whole or not at all, element by element; what is told of a list that is not read is
the first thing that is wrong with it. -/
structure ReadsWhole (purpose name : String) (read : Value → Except Error α)
    (whole : Value → Except Error (List α)) : Prop where
  ok : ∀ v as, whole v = .ok as ↔ ∃ elements, elements ≠ [] ∧ v = .array elements ∧
    List.Forall₂ (fun u a => read u = .ok a) elements as
  error : ∀ v e, whole v = .error e ↔ FirstFault (listFaults purpose name read v) e

theorem readsWhole_readList (purpose name : String) (read : Value → Except Error α) :
    ReadsWhole purpose name read (readList purpose name read) where
  ok v as := by
    refine ⟨fun h => ((checked_readList purpose name read v).ok as h).1, ?_⟩
    rintro ⟨elements, hne, rfl, hall⟩
    cases elements with
    | nil => exact absurd rfl hne
    | cons u us => exact readEachFrom_eq_ok.2 hall
  error v e := by
    refine (checked_readList purpose name read v).error_iff ?_
    simp only [listFaults, List.forall_mem_cons, List.not_mem_nil, false_imp_iff, implies_true,
      and_true]
    exact ⟨fun _ _ => Fault.unique, fun _ _ => Fault.unique, fun _ _ => firstUnread_unique⟩

end Each

theorem Registry.readGeometries_eq (g : Registry) :
    g.readGeometries = readList "geometry handles" "geometry" (g.lookup .geometry) := rfl

theorem Registry.readBuild_eq (g : Registry) :
    g.readBuild = readList "instances" "instance" (Instance.read g) := rfl

/-! ### What elements and scenes are read from -/

/-- The id that a value tells: zero where it tells none. -/
def Wrapper.idOf (v : Value) : UInt32 := (v.get "id").word?.getD 0

/-- The failure is one of the input, and not yet placed in a list. -/
inductive Error.Unplaced : Error → Prop
  | invalid (complaint : Complaint) : Unplaced (.invalid complaint)
  | unresolved (kind : Kind) (id : UInt32) : Unplaced (.unresolved kind id none)

theorem Wrapper.checked_read (kind : Kind) (v : Value) :
    Checked (Wrapper.read kind v)
      [Fault (v.object? = none) (.invalid (.notHandle kind v.typeName)),
        Fault (Wrapper.admits kind (v.get "type") = false) (.unresolved kind (idOf v) none)]
      fun id => id = idOf v := by
  unfold Wrapper.read
  cases ho : v.object? with
  | none => exact Checked.fail ⟨rfl, rfl⟩
  | some o =>
    refine Checked.skip (Fault.absent nofun) ?_
    simp only [← Value.get_of_object? ho]
    cases hadmits : Wrapper.admits kind (v.get "type") with
    | false => exact Checked.fail ⟨rfl, rfl⟩
    | true => exact Checked.skip (Fault.absent nofun) (Checked.pure rfl)

/-- A failure that is not yet placed is told with one place: that of the element. -/
theorem Error.Unplaced.atPosition {own : Error} (h : own.Unplaced) (i : Nat) :
    (∃ complaint, own = .invalid complaint ∧ own.atPosition i = .invalidInput complaint [i] ∧
      (own.atPosition i).message = own.message ++ " at index " ++ Text.decimal i) ∨
    ∃ kind id, own = .unresolved kind id none ∧
      own.atPosition i = .unresolved kind id (some i) := by
  cases h with
  | invalid complaint => exact Or.inl ⟨complaint, rfl, rfl, rfl⟩
  | unresolved kind id => exact Or.inr ⟨kind, id, rfl, rfl⟩

namespace Registry

variable (g : Registry)

theorem checked_resolve (kind : Kind) (id : UInt32) :
    Checked (g.resolve kind id)
      [Fault ((g.ledger kind).get? id = none) (.unresolved kind id none)] fun e =>
        (g.ledger kind).get? id = some e := by
  unfold resolve
  cases (g.ledger kind).get? id with
  | none => exact Checked.fail ⟨rfl, rfl⟩
  | some e => exact Checked.skip (Fault.absent nofun) (Checked.pure rfl)

/-- All that can be wrong with a value that must name a registered resource. -/
def lookupFaults (kind : Kind) (v : Value) : List (Error → Prop) :=
  [Fault (v.object? = none) (.invalid (.notHandle kind v.typeName)),
    Fault (Wrapper.admits kind (v.get "type") = false) (.unresolved kind (Wrapper.idOf v) none),
    Fault ((g.ledger kind).get? (Wrapper.idOf v) = none)
      (.unresolved kind (Wrapper.idOf v) none)]

theorem checked_lookup (kind : Kind) (v : Value) :
    Checked (g.lookup kind v) (g.lookupFaults kind v) fun e =>
      (g.ledger kind).get? (Wrapper.idOf v) = some e := by
  have hbind : g.lookup kind v = Wrapper.read kind v >>= g.resolve kind := by
    unfold lookup
    cases Wrapper.read kind v with
    | error e => rfl
    | ok id => rfl
  rw [hbind]
  refine (Wrapper.checked_read kind v).bind fun id hid => ?_
  subst hid
  exact g.checked_resolve kind (Wrapper.idOf v)

theorem lookup_make_of_some {kind : Kind} {id : UInt32} {e : Entry kind}
    (h : (g.ledger kind).get? id = some e) : g.lookup kind (Wrapper.make kind id) = .ok e :=
  lookup_eq_ok.2 ⟨id, Wrapper.read_make kind id, h⟩

theorem lookup_make_of_none {kind : Kind} {id : UInt32} (h : (g.ledger kind).get? id = none) :
    g.lookup kind (Wrapper.make kind id) = .error (.unresolved kind id none) := by
  unfold lookup resolve
  rw [Wrapper.read_make]
  simp only [h]

theorem lookup_unplaced {kind : Kind} {v : Value} {e : Error} (h : g.lookup kind v = .error e) :
    e.Unplaced := by
  obtain ⟨fault, hmem, he⟩ := ((g.checked_lookup kind v).error e h).exists_mem
  simp only [lookupFaults, List.mem_cons, List.not_mem_nil, or_false] at hmem
  rcases hmem with rfl | rfl | rfl
  · exact he.2 ▸ .invalid _
  · exact he.2 ▸ .unresolved _ _
  · exact he.2 ▸ .unresolved _ _

end Registry

namespace Instance

/-- All that can be wrong with an instance. -/
def faults (g : Registry) (v : Value) : List (Error → Prop) :=
  Fault (v.object? = none) (.invalid (.notInstance v.typeName)) ::
    Fault ((v.get "blas").isAbsent = true) (.invalid .instanceWithoutBlas) ::
    g.lookupFaults .blas (v.get "blas")

theorem checked_read (g : Registry) (v : Value) :
    Checked (read g v) (faults g v) fun i =>
      (g.ledger .blas).get? (Wrapper.idOf (v.get "blas")) = some i.blas := by
  unfold read faults
  cases ho : v.object? with
  | none => exact Checked.fail ⟨rfl, rfl⟩
  | some o =>
    refine Checked.skip (Fault.absent nofun) ?_
    simp only [← Value.get_of_object? ho]
    refine Checked.guard fun _ => ?_
    have hlookup := g.checked_lookup .blas (v.get "blas")
    cases hl : g.lookup .blas (v.get "blas") with
    | error e =>
      refine ⟨nofun, fun e' he => ?_⟩
      obtain rfl := Except.error.inj he
      exact hlookup.error e hl
    | ok blas =>
      refine ⟨fun i hi => ?_, nofun⟩
      obtain rfl := Except.ok.inj hi
      obtain ⟨hblas, hnone⟩ := hlookup.ok blas hl
      exact ⟨hblas, hnone⟩

theorem exists_read_of_lookup {g : Registry} {v : Value} {o : Object} {blas : Handle .blas}
    (ho : v.object? = some o) (hpresent : (v.get "blas").isAbsent = false)
    (hblas : g.lookup .blas (v.get "blas") = .ok blas) : ∃ i, read g v = .ok i := by
  unfold read
  rw [ho]
  simp only [← Value.get_of_object? ho]
  rw [hpresent, if_neg Bool.false_ne_true, hblas]
  exact ⟨_, rfl⟩

theorem read_unplaced {g : Registry} {v : Value} {e : Error} (h : read g v = .error e) :
    e.Unplaced := by
  obtain ⟨fault, hmem, he⟩ := ((checked_read g v).error e h).exists_mem
  simp only [faults, Registry.lookupFaults, List.mem_cons, List.not_mem_nil, or_false] at hmem
  rcases hmem with rfl | rfl | rfl | rfl | rfl
  · exact he.2 ▸ .invalid _
  · exact he.2 ▸ .invalid _
  · exact he.2 ▸ .invalid _
  · exact he.2 ▸ .unresolved _ _
  · exact he.2 ▸ .unresolved _ _

end Instance

namespace Registry

variable (g : Registry)

/-- How many instances the scene has that a value names. -/
def sceneCount (scene : Value) : Nat :=
  ((g.ledger .tlas).get? (Wrapper.idOf scene)).elim 0 SceneEntry.instanceCount

/-- All that can be wrong with a scene and its new instances. -/
def updateFaults (scene v : Value) : List (Error → Prop) :=
  g.lookupFaults .tlas scene ++
    [Fault (v.array? = none) (.invalid (.notArray "instances" v.typeName)),
      Fault ((v.array?.getD []).length ≠ g.sceneCount scene)
        (.invalid (.wrongInstanceCount (g.sceneCount scene) (v.array?.getD []).length)),
      FirstUnread (Instance.read g) (v.array?.getD [])]

theorem readUpdate_eq (scene v : Value) :
    g.readUpdate scene v = g.lookup .tlas scene >>= fun entry =>
      elementsOf "instances" v >>= fun elements =>
        if elements.length ≠ entry.instanceCount then
          .error (.invalid (.wrongInstanceCount entry.instanceCount elements.length))
        else (readEach (Instance.read g) elements).map fun read =>
          (SceneEntry.handle entry, read) := by
  unfold readUpdate
  cases g.lookup .tlas scene with
  | error e => rfl
  | ok entry =>
    cases elementsOf "instances" v with
    | error e => rfl
    | ok elements =>
      change (if _ then _ else _) = (if _ then _ else _)
      by_cases hcount : elements.length = entry.instanceCount
      · rw [if_pos hcount, if_neg (not_not.2 hcount)]
        cases readEach (Instance.read g) elements with
        | error e => rfl
        | ok read => rfl
      · rw [if_neg hcount, if_pos hcount]

theorem checked_readUpdate (scene v : Value) :
    Checked (g.readUpdate scene v) (g.updateFaults scene v) fun update =>
      ∃ e elements, g.lookup .tlas scene = .ok e ∧ v = .array elements ∧
        elements.length = e.instanceCount ∧ update.1 = e.handle ∧
        List.Forall₂ (fun u i => Instance.read g u = .ok i) elements update.2 := by
  rw [readUpdate_eq]
  unfold updateFaults
  refine (g.checked_lookup .tlas scene).self.bind fun e he => ?_
  have hcount : g.sceneCount scene = e.instanceCount := by
    unfold sceneCount
    rw [he.2]
    rfl
  rw [hcount]
  unfold elementsOf
  cases h : v.array? with
  | none => exact Checked.fail ⟨rfl, rfl⟩
  | some elements =>
    refine Checked.skip (Fault.absent nofun) (Checked.guard fun hlength => ?_)
    refine (checked_readEach (Instance.read g) elements).map fun instances hall => ?_
    exact ⟨e, elements, he.1, Value.array?_eq_some.1 h, not_not.1 hlength, rfl, hall⟩

theorem readUpdate_eq_ok_iff {scene v : Value} {handle : Handle .tlas}
    {instances : List Instance} :
    g.readUpdate scene v = .ok (handle, instances) ↔
      ∃ e elements, g.lookup .tlas scene = .ok e ∧ v = .array elements ∧
        elements.length = e.instanceCount ∧ handle = e.handle ∧
        List.Forall₂ (fun u i => Instance.read g u = .ok i) elements instances := by
  refine ⟨fun h => ((g.checked_readUpdate scene v).ok _ h).1, ?_⟩
  rintro ⟨e, elements, he, rfl, hlength, rfl, hall⟩
  have hread : readEach (Instance.read g) elements = .ok instances := readEachFrom_eq_ok.2 hall
  have helements : elementsOf "instances" (.array elements) = .ok elements := rfl
  rw [readUpdate_eq, he, helements]
  change (if _ then _ else _) = _
  rw [if_neg (not_not.2 hlength), hread]
  rfl

theorem readUpdate_eq_error {scene v : Value} {e : Error} :
    g.readUpdate scene v = .error e ↔ FirstFault (g.updateFaults scene v) e := by
  refine (g.checked_readUpdate scene v).error_iff ?_
  simp only [updateFaults, lookupFaults, List.cons_append, List.nil_append, List.forall_mem_cons,
    List.not_mem_nil, false_imp_iff, implies_true, and_true]
  exact ⟨fun _ _ => Fault.unique, fun _ _ => Fault.unique, fun _ _ => Fault.unique,
    fun _ _ => Fault.unique, fun _ _ => Fault.unique, fun _ _ => firstUnread_unique⟩

end Registry

namespace Renderer

/-- A creation whose source is not read leaves everything as it is. -/
theorem state_create_of_error (rt : Renderer) {kind : Kind} {v : Value} {e : Error}
    (h : rt.registry.readSource kind v = .error e) : (rt.create kind v).state = rt := by
  unfold create
  cases hs : rt.device.isSupported with
  | false => rw [request_of_unsupported hs]; rfl
  | true => rw [request_of_error hs h]; rfl

/-- A scene is changed without a change to what is registered. -/
theorem registry_updateTlas (rt : Renderer) (scene v : Value) :
    (rt.updateTlas scene v).state.registry = rt.registry := by
  unfold updateTlas
  cases hs : rt.device.isSupported with
  | false => rw [request_of_unsupported hs]; rfl
  | true =>
    cases h : rt.registry.readUpdate scene v with
    | error e => rw [request_of_error hs h]; rfl
    | ok update => rw [request_of_ok hs h]

end Renderer

namespace Registry

/-! ### Lists of handles and instances -/

/-- A list is read exactly if the list and each of its elements can be, and then element by element.
What is told of another is the first thing that is wrong with it, the list before its elements; of
the elements it is the first that cannot be read, by its own error and its place.  Reading changes
nothing. -/
theorem lists_exact (g : Registry) :
    ReadsWhole "geometry handles" "geometry" (g.lookup .geometry) g.readGeometries ∧
    ReadsWhole "instances" "instance" (Instance.read g) g.readBuild ∧
    (∀ scene v handle instances, g.readUpdate scene v = .ok (handle, instances) ↔
      ∃ e elements, g.lookup .tlas scene = .ok e ∧ v = .array elements ∧
        elements.length = e.instanceCount ∧ handle = e.handle ∧
        List.Forall₂ (fun u i => Instance.read g u = .ok i) elements instances) ∧
    (∀ scene v e, g.readUpdate scene v = .error e ↔ FirstFault (g.updateFaults scene v) e) ∧
    (∀ u own, g.lookup .geometry u = .error own ∨ Instance.read g u = .error own → ∀ i,
      (∃ complaint, own = .invalid complaint ∧ own.atPosition i = .invalidInput complaint [i] ∧
        (own.atPosition i).message = own.message ++ " at index " ++ Text.decimal i) ∨
      ∃ kind id, own = .unresolved kind id none ∧
        own.atPosition i = .unresolved kind id (some i)) ∧
    ∀ rt : Renderer, rt.registry = g →
      (∀ v e, g.readGeometries v = .error e → (rt.create .blas v).state = rt) ∧
      (∀ v e, g.readBuild v = .error e → (rt.create .tlas v).state = rt) ∧
      ∀ scene v, (rt.updateTlas scene v).state.registry = g := by
  refine ⟨?_, ?_, fun _ _ _ _ => g.readUpdate_eq_ok_iff, fun _ _ _ => g.readUpdate_eq_error,
    ?_, ?_⟩
  · rw [readGeometries_eq]
    exact readsWhole_readList _ _ _
  · rw [readBuild_eq]
    exact readsWhole_readList _ _ _
  · rintro u own (h | h) i
    · exact (g.lookup_unplaced h).atPosition i
    · exact (Instance.read_unplaced h).atPosition i
  · rintro rt rfl
    refine ⟨fun v e h => ?_, fun v e h => ?_, rt.registry_updateTlas⟩
    · exact @Renderer.state_create_of_error rt .blas v e h
    · exact @Renderer.state_create_of_error rt .tlas v e h

/-- A geometry, a structure and a scene of two instances, each with the id one. -/
def stocked : Registry :=
  let one := (({} : Registry).register .geometry ⟨some ⟨0x10, by decide⟩, 0⟩).state
  let two := (one.register .blas ⟨some ⟨0x20, by decide⟩, 0⟩).state
  (two.register .tlas ⟨⟨some ⟨0x30, by decide⟩, 0⟩, 2⟩).state

/-- Of three handles the first is registered and the second is not; of two instances the first is one
and the second is no object. -/
theorem lists_exact_stocked :
    stocked.readGeometries (.array [Wrapper.make .geometry 1, Wrapper.make .geometry 5, .null]) =
      .error (.unresolved .geometry 5 (some 1)) ∧
    stocked.readUpdate (Wrapper.make .tlas 1)
        (.array [.ofPairs [("blas", Wrapper.make .blas 1)], .null]) =
      .error (.invalidInput (.notInstance "null") [1]) ∧
    (Error.invalidInput (.notInstance "null") [1]).message =
      "expected an instance object, got null at index 1" ∧
    ∃ handle instances, stocked.readUpdate (Wrapper.make .tlas 1)
      (.array (List.replicate 2 (.ofPairs [("blas", Wrapper.make .blas 1)]))) =
        .ok (handle, instances) := by
  obtain ⟨hgeometries, -, hupdate, hfaults, -⟩ := lists_exact stocked
  have hknown : stocked.lookup .geometry (Wrapper.make .geometry 1) =
      .ok ⟨some ⟨0x10, by decide⟩, 1⟩ := lookup_make_of_some _ (by decide +kernel)
  have hunknown : stocked.lookup .geometry (Wrapper.make .geometry 5) =
      .error (.unresolved .geometry 5 none) := lookup_make_of_none _ (by decide +kernel)
  have hblas : stocked.lookup .blas (Wrapper.make .blas 1) =
      .ok ⟨some ⟨0x20, by decide⟩, 1⟩ := lookup_make_of_some _ (by decide +kernel)
  have hscene : stocked.lookup .tlas (Wrapper.make .tlas 1) =
      .ok ⟨⟨some ⟨0x30, by decide⟩, 1⟩, 2⟩ := lookup_make_of_some _ (by decide +kernel)
  obtain ⟨i, hi⟩ : ∃ i, Instance.read stocked (.ofPairs [("blas", Wrapper.make .blas 1)]) = .ok i :=
    Instance.exists_read_of_lookup rfl rfl hblas
  refine ⟨?_, ?_, by decide +kernel, ?_⟩
  · refine (hgeometries.error _ _).2 (.later (Fault.absent nofun) (.later (Fault.absent nofun) (.here ?_)))
    refine .found (i := 1) rfl ⟨_, hunknown, rfl⟩ ?_
    rintro j u hj hu e ⟨own, hown, -⟩
    obtain rfl := Nat.lt_one_iff.1 hj
    obtain rfl := Option.some.inj hu
    exact absurd (hknown.symm.trans hown) nofun
  · have hcount : stocked.sceneCount (Wrapper.make .tlas 1) = 2 := by decide +kernel
    refine (hfaults _ _ _).2 (FirstFault.append_right ((checked_lookup _ _ _).ok _ hscene).2 ?_)
    refine .later (Fault.absent nofun) (.later (Fault.absent (not_not.2 ?_)) (.here ?_))
    · rw [hcount]
      rfl
    refine .found (i := 1) rfl ⟨_, rfl, rfl⟩ ?_
    rintro j u hj hu e ⟨own, hown, -⟩
    obtain rfl := Nat.lt_one_iff.1 hj
    obtain rfl := Option.some.inj hu
    exact absurd (hi.symm.trans hown) nofun
  · exact ⟨_, [i, i], (hupdate _ _ _ _).2 ⟨_, _, hscene, rfl, rfl, rfl,
      .cons hi (.cons hi .nil)⟩⟩

end Registry

end ScriptedRays

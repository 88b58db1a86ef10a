import ScriptedRays.Proofs.Lifetime
import ScriptedRays.Proofs.Mesh

/-!
# Snapshot — what a structure over geometries is built from

A device keeps of a geometry the coordinates that lie inside its buffer, vertex by vertex
(`positions_eq_coordinates`), and of a structure built from geometries a copy of theirs.  So a
structure has the coordinates of the buffers that the geometries in its list were made from,
whatever becomes of these afterwards (`snapshot_lasts`).
-/

namespace ScriptedRays

/-! ### Coordinates in a buffer -/

namespace Mesh

/-- The three numbers at a place in a buffer: none if their twelve bytes do not all lie in it. -/
def coordinatesAt (vertices : Bytes) (place : Nat) : List Single :=
  if place + 12 ≤ vertices.length then
    (Bytes.words ((vertices.drop place).take 12)).map Single.mk
  else []

/-- The numbers of the vertices zero, one and so on, one after another. -/
def coordinates (vertices : Bytes) (count stride offset : Nat) : List Single :=
  (List.range count).flatMap fun v => coordinatesAt vertices (v * stride + offset)

theorem coordinates_succ (vertices : Bytes) (count stride offset : Nat) :
    coordinates vertices (count + 1) stride offset =
      coordinatesAt vertices offset ++ coordinates vertices count stride (offset + stride) := by
  have hshift : ∀ v, (v + 1) * stride + offset = v * stride + (offset + stride) := fun v => by
    rw [Nat.succ_mul]
    omega
  unfold coordinates
  rw [List.range_succ_eq_map, List.flatMap_cons, List.flatMap_map, Nat.zero_mul, Nat.zero_add]
  simp only [hshift]

/-- Past the end of the buffer there are no coordinates. -/
theorem coordinates_of_lt {vertices : Bytes} {offset : Nat} (h : vertices.length < offset + 12)
    (count stride : Nat) : coordinates vertices count stride offset = [] := by
  unfold coordinates
  rw [List.flatMap_eq_nil_iff]
  intro v _
  exact if_neg (by omega)

theorem readPositions_eq_coordinates (vertices : Bytes) (stride count offset : Nat) :
    (readPositions stride count (vertices.drop offset)).flatMap Position.toList =
      coordinates vertices count stride offset := by
  induction count generalizing offset with
  | zero => rfl
  | succ count ih =>
    unfold readPositions
    -- both stop at the first vertex that does not lie within the buffer
    by_cases h : offset + 12 ≤ vertices.length
    · have hlen : 12 ≤ (vertices.drop offset).length := by
        rw [List.length_drop]
        omega
      obtain ⟨p, hp, hlist⟩ := Position.read?_of_le hlen
      have hfirst : coordinatesAt vertices offset = p.toList := by
        rw [hlist]
        exact if_pos h
      rw [hp, coordinates_succ, ← ih, List.drop_drop, hfirst]
      exact List.flatMap_cons
    · rw [Position.read?_of_lt (by rw [List.length_drop]; omega),
        coordinates_of_lt (Nat.not_le.1 h)]
      rfl

/-- **What is kept of a mesh** are the coordinates at `v * stride + offset` for each vertex `v`. -/
theorem positions_eq_coordinates (m : Mesh) :
    m.positions.flatMap Position.toList =
      coordinates m.vertices m.vertexCount.toNat m.stride.toNat m.offset.toNat :=
  readPositions_eq_coordinates _ _ _ _

end Mesh

/-! ### Contents of what is built -/

/-- A structure is built from copies of what is kept of the geometries. -/
theorem Recorder.content_blas_eq_ok {r : Recorder} {handles : List (Handle .geometry)}
    {x : Content .blas} (h : r.content .blas handles = .ok x) :
    List.Forall₂ (fun g coordinates => r.find? .geometry g.native = some coordinates) handles
      x := by
  rw [content_blas] at h
  split at h
  · exact absurd h nofun
  next hknown =>
  obtain rfl := Except.ok.inj h
  rw [List.find?_eq_none] at hknown
  clear h
  induction handles with
  | nil => exact List.Forall₂.nil
  | cons g rest ih =>
    have hg : r.geometries.contains g.native = true := by
      have := hknown g List.mem_cons_self
      simpa using this
    obtain ⟨coordinates, hfound⟩ := Option.isSome_iff_exists.1 hg
    have hrest := ih fun g' hg' => hknown g' (List.mem_cons_of_mem _ hg')
    rw [List.filterMap_cons, hfound]
    exact List.Forall₂.cons hfound hrest

/-- What relates the elements of three lists in steps relates those of the first and the third. -/
theorem forall₂_trans {α β γ : Type} {R : α → β → Prop} {S : β → γ → Prop} {T : α → γ → Prop}
    (h : ∀ a b c, R a b → S b c → T a c) {as : List α} {bs : List β} {cs : List γ}
    (hR : List.Forall₂ R as bs) (hS : List.Forall₂ S bs cs) : List.Forall₂ T as cs := by
  induction hR generalizing cs with
  | nil =>
    cases hS
    exact List.Forall₂.nil
  | cons hab hrest ih =>
    cases hS with
    | cons hbc hS => exact List.Forall₂.cons (h _ _ _ hab hbc) (ih hS)

namespace Session

/-- In the run so far, the call that got the wrapper of an id made a geometry with the coordinates
given, those in the buffer of its vertices. -/
def MadeGeometry (s : Session) (run : List Action) (id : UInt32) (coordinates : List Single) :
    Prop :=
  ∃ front args back o buffer mesh, run = front ++ .call (Kind.creation .geometry) args :: back ∧
    ((s.acts front).call (Kind.creation .geometry) args).value =
      some (Wrapper.make .geometry id) ∧
    (argument args 0).object? = some o ∧ o.get "vertices" = .buffer buffer ∧
    Mesh.read (argument args 0) = .ok mesh ∧
    coordinates = Mesh.coordinates buffer.bytes mesh.vertexCount.toNat mesh.stride.toNat
      mesh.offset.toNat

/-- A content that no update can have set was made of a source. -/
theorem Sets.exists_source {s : Session} {kind : Kind} {id : UInt32} {x : Content kind} {a : Action}
    (h : s.Sets kind id x a) (hk : kind ≠ .tlas) :
    ∃ args r g source, a = .call kind.creation args ∧ s.renderer = some ⟨.recording r, g⟩ ∧
      g.readSource kind (argument args 0) = .ok source ∧ r.content kind source = .ok x ∧
      (s.call kind.creation args).value = some (Wrapper.make kind id) := by
  cases h with
  | made hr hs hx hv =>
    exact ⟨_, _, _, _, rfl, hr, hs, hx, (s.call_create_iff kind _ id).2 hv⟩
  | remade => exact absurd rfl hk

namespace Lifetime

variable {m : Kind → Nat} {s : Session} {run : List Action} (l : Lifetime m s run)
include l

/-- The coordinates kept of a geometry are those of the buffer that it was made from. -/
theorem madeGeometry (hnone : ∀ id, s.content? .geometry id = none) {id : UInt32}
    {coordinates : List Single}
    (hx : (s.acts run).content? .geometry id = some coordinates) :
    s.MadeGeometry run id coordinates := by
  obtain ⟨front, a, back, rfl, hset, -⟩ := l.last_set (hnone id) hx
  obtain ⟨args, r, g, mesh, rfl, -, hmesh, hcontent, hv⟩ := hset.exists_source nofun
  obtain ⟨-, o, buffer, ho, hbuffer, hbytes⟩ := (Mesh.reads _).1 mesh hmesh
  refine ⟨front, args, back, o, buffer, mesh, rfl, hv, ho, hbuffer, hmesh, ?_⟩
  rw [← hbytes, ← mesh.positions_eq_coordinates]
  exact (Except.ok.inj hcontent).symm

end Lifetime

/-- **A structure is a lasting snapshot.**  On any device, from its start until it is given up, a
structure over geometries that a call creates has, in the order of its list, the coordinates of the
buffers that the geometries named there were made from; and it has the same in every later session
until a call destroys it. -/
theorem snapshot_lasts (s : Session) {device : Device} {m : Kind → Nat} (hm : device.Within m)
    {run : List Action} (hlasts : ∀ a ∈ run, a.Lasts)
    (hfew : ∀ kind, m kind + creations kind (s.opened device) run < 2 ^ 31)
    {front back : List Action} {args : List Value}
    (hrun : run = front ++ .call (Kind.creation .blas) args :: back)
    (hc : ((s.opened device).acts front).creates .blas (.call (Kind.creation .blas) args) = true) :
    ∃ id elements snapshot,
      (((s.opened device).acts front).call (Kind.creation .blas) args).value =
        some (Wrapper.make .blas id) ∧
      argument args 0 = .array elements ∧
      List.Forall₂ (fun v coordinates => ∃ geometry, Wrapper.read .geometry v = .ok geometry ∧
        (s.opened device).MadeGeometry front geometry coordinates) elements snapshot ∧
      ∀ middle rest, back = middle ++ rest → (∀ b ∈ middle, ¬ b.Destroys .blas id) →
        ((s.opened device).acts (front ++ .call (Kind.creation .blas) args :: middle)).content?
          .blas id = some snapshot := by
  subst hrun
  have l := s.lifetime_opened hm hlasts hfew
  cases l.drop.changed .blas with
  | @made _ id e n x hs _ hv _ _ _ he hx =>
    obtain ⟨args', r, g, handles, ha, hr, hsource, hcontent, -⟩ := hs.exists_source nofun
    obtain rfl := (Action.call.inj ha).2
    obtain ⟨elements, harray, hread⟩ := Registry.readGeometries_eq_ok hsource
    refine ⟨id, elements, x, hv, harray, ?_, ?_⟩
    -- an element names a geometry, and what is copied of it are the coordinates it was made from
    · refine forall₂_trans (fun v handle coordinates hhandle hfound => ?_) hread
        (Recorder.content_blas_eq_ok hcontent)
      obtain ⟨geometry, hgeometry, hget⟩ := Registry.lookup_eq_ok.1 hhandle
      refine ⟨geometry, hgeometry, l.take.madeGeometry (s.content?_opened device .geometry) ?_⟩
      rw [content?_of_renderer hr, Renderer.content?_recording, hget]
      exact hfound
    · rintro middle rest rfl hd
      -- from here on only a destruction takes the content away, for structures are never updated
      have hnow := (congrFun he id).trans (Function.update_self ..)
      rw [acts_append]
      refine (l.drop.tail.take.content_lasts (show Kind.blas ≠ .tlas by decide) hnow hd).trans ?_
      rw [hx, Function.update_self]
  | destroyed _ hc' => exact absurd (hc.symm.trans hc') nofun
  | kept hs => exact absurd (hc.symm.trans hs.creates) nofun

theorem snapshot_lasts_sample :
    ∃ id elements snapshot,
      List.Forall₂ (fun v coordinates => ∃ geometry, Wrapper.read .geometry v = .ok geometry ∧
        (({} : Session).opened (.recording .fresh)).MadeGeometry (Action.sample.take 1) geometry
          coordinates) elements snapshot ∧
      ((({} : Session).opened (.recording .fresh)).acts Action.sample).content? .blas id =
        some snapshot := by
  have hrun : Action.sample = Action.sample.take 1 ++
      .call (Kind.creation .blas) [.array [Wrapper.make .geometry 1]] :: Action.sample.drop 2 := rfl
  have hc : ((({} : Session).opened (.recording .fresh)).acts (Action.sample.take 1)).creates .blas
      (.call (Kind.creation .blas) [.array [Wrapper.make .geometry 1]]) = true := by decide +kernel
  obtain ⟨id, elements, snapshot, -, -, hmade, hlast⟩ := snapshot_lasts {} Device.within_fresh
    Action.sample_lasts Action.sample_lifetime_few hrun hc
  refine ⟨id, elements, snapshot, hmade, hlast (Action.sample.drop 2) [] rfl ?_⟩
  rintro b hb ⟨args, rfl, -⟩
  simp only [Action.sample, List.drop_succ_cons, List.drop_zero, List.mem_cons, List.not_mem_nil,
    or_false] at hb
  rcases hb with h | h | h | h | h | h | h <;> simp [EntryPoint.name] at h

end Session

end ScriptedRays

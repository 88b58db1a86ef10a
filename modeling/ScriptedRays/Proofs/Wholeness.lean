import ScriptedRays.Proofs.Forged
import ScriptedRays.Proofs.LastWrite
import ScriptedRays.Proofs.Snapshot

/-!
# Wholeness — a device carries out an operation as a whole or not at all

A handle of any origin, stale or made up, hits the resource under its odd form or none (`Hits`).  A
creation adds one resource with the full snapshot of its source, exactly if every handle in the source
hits something (`CreatesWhole`); an update replaces all instances of the scene that is hit, if there
are as many (`UpdatesWhole`); a destruction takes out what is hit (`DestroysHit`).  Nothing else
changes, and each call is told in the account once (`operations_whole`).
-/

namespace ScriptedRays.Recorder

variable {r : Recorder}

/-! ### Hits -/

/-- A handle hits the resource that is kept as `x` under the native handle `n`, the odd form of its
own. -/
def Hits (r : Recorder) (kind : Kind) (h : Handle kind) (n : Native) (x : Content kind) : Prop :=
  h.native.map Native.odd = some n ∧ (n, x) ∈ (r.arena kind).toList

/-- A handle hits some resource. -/
def Hit (r : Recorder) (kind : Kind) (h : Handle kind) : Prop := ∃ n x, r.Hits kind h n x

section Hits

variable (hr : r.InRange) {kind : Kind} {h : Handle kind}
include hr

theorem exists_hits_iff {x : Content kind} :
    (∃ n, r.Hits kind h n x) ↔ r.find? kind h.native = some x := by
  unfold Hits find?
  cases h.native with
  | none => exact ⟨fun ⟨n, hn, _⟩ => absurd hn nofun, nofun⟩
  | some m =>
    rw [Arena.get?_eq_some_iff (hr kind)]
    exact ⟨fun ⟨n, hn, hm⟩ => Option.some.inj hn ▸ hm, fun hm => ⟨m.odd, rfl, hm⟩⟩

theorem hit_iff : r.Hit kind h ↔ (r.find? kind h.native).isSome = true := by
  rw [Option.isSome_iff_exists]
  simp only [← exists_hits_iff hr]
  exact exists_comm

/-- A handle hits one resource. -/
theorem Hits.unique {n m : Native} {x y : Content kind} (hx : r.Hits kind h n x)
    (hy : r.Hits kind h m y) : n = m ∧ x = y := by
  have hfind := ((exists_hits_iff hr).1 ⟨n, hx⟩).symm.trans ((exists_hits_iff hr).1 ⟨m, hy⟩)
  exact ⟨Option.some.inj (hx.1.symm.trans hy.1), Option.some.inj hfind⟩

end Hits

/-! ### Creations -/

/-- The full snapshot of a source: the coordinates of all vertices, copies of what is kept of each
geometry in the list, or all instances. -/
def Snapshot (r : Recorder) : {kind : Kind} → Source kind → Content kind → Prop
  | .geometry, m, x =>
    x = Mesh.coordinates m.vertices m.vertexCount.toNat m.stride.toNat m.offset.toNat
  | .blas, geometries, x =>
    List.Forall₂ (fun g coordinates => ∃ n, r.Hits .geometry g n coordinates) geometries x
  | .tlas, instances, x => x = instances

/-- A creation either adds one resource, with the full snapshot of its source and under the handle
that it gives, or changes no arena. -/
structure CreatesWhole (r : Recorder) (kind : Kind) (source : Source kind) : Prop where
  succeeds : (r.create kind source).value ≠ .null ↔
    r.supported = true ∧ r.failing = false ∧ source.Usable r.Hit
  added : (r.create kind source).value ≠ .null → ∃ n x,
    (r.create kind source).value = ⟨some n, 0⟩ ∧ r.Snapshot source x ∧
      ((r.create kind source).state.arena kind).toList.Perm ((n, x) :: (r.arena kind).toList) ∧
      ((r.arena kind).size + 1 < UInt32.size → n ∉ (r.arena kind).handles) ∧
      ∀ other, other ≠ kind → (r.create kind source).state.arena other = r.arena other
  refused : (r.create kind source).value = .null → ∀ other,
    (r.create kind source).state.arena other = r.arena other

theorem canCreate_iff : r.canCreate = true ↔ r.supported = true ∧ r.failing = false := by
  unfold canCreate
  rw [Bool.and_eq_true, Bool.not_eq_true']

section Creation

variable (hr : r.InRange) {kind : Kind} {source : Source kind}
include hr

/-- A source is usable if it is not empty and there is something to be kept of it. -/
theorem usable_hit_iff :
    source.Usable r.Hit ↔ source.isEmpty = false ∧ ∃ x, r.content kind source = .ok x := by
  refine ⟨fun h => ⟨h.isEmpty, ?_⟩, fun ⟨hne, hx⟩ => ?_⟩
  · exact (r.exists_content_iff h.isEmpty).2 (h.mono fun _ _ hh => (hit_iff hr).1 hh)
  · exact ((r.exists_content_iff hne).1 hx).mono fun _ _ hh => (hit_iff hr).2 hh

theorem snapshot_of_content {x : Content kind} (h : r.content kind source = .ok x) :
    r.Snapshot source x := by
  cases kind with
  | geometry =>
    obtain rfl := Except.ok.inj h
    exact Mesh.positions_eq_coordinates source
  | blas => exact (content_blas_eq_ok h).imp fun _ _ hfound => (exists_hits_iff hr).2 hfound
  | tlas => exact content_tlas_eq_ok h

/-- The handle of a new resource is one that no other has, as long as there is room. -/
theorem insert_not_mem_handles (hroom : (r.arena kind).size + 1 < UInt32.size) (x : Content kind) :
    ((r.arena kind).insert x).1 ∉ (r.arena kind).handles := by
  have hnodup := Arena.nodup_handles ((hr kind).insert hroom x)
  have hperm := ((r.arena kind).perm_insert x).map Prod.fst
  exact (List.nodup_cons.1 (hperm.nodup_iff.1 hnodup)).1

theorem createsWhole : r.CreatesWhole kind source := by
  -- the device either keeps what the source gives or refuses for a reason
  rcases r.create_spec kind source with ⟨x, hcan, hne, hx, hcreate⟩ | ⟨hno, reason, hcreate⟩
  · have hcontent := (content_iff r source x).2 hx
    rw [keep_eq, arena_record] at hcreate
    have hvalue : (r.create kind source).value ≠ .null := by
      rw [hcreate]
      nofun
    refine ⟨iff_of_true hvalue ?_, fun _ => ?_, fun h => absurd h hvalue⟩
    · exact ⟨(canCreate_iff.1 hcan).1, (canCreate_iff.1 hcan).2,
        (usable_hit_iff hr).2 ⟨hne, x, hcontent⟩⟩
    · refine ⟨((r.arena kind).insert x).1, x, ?_, snapshot_of_content hr hcontent, ?_,
        fun hroom => insert_not_mem_handles hr hroom x, fun other hother => ?_⟩
      · rw [hcreate]
      · rw [hcreate, arena_withArena]
        exact (r.arena kind).perm_insert x
      · exact r.arena_create_of_ne source hother
  · have hvalue : (r.create kind source).value = .null := by
      rw [hcreate]
      rfl
    refine ⟨iff_of_false (fun h => h hvalue) ?_, fun h => absurd hvalue h, fun _ other => ?_⟩
    · rintro ⟨hsupported, hfailing, husable⟩
      obtain ⟨hne, x, hx⟩ := (usable_hit_iff hr).1 husable
      have hnone := hno (canCreate_iff.2 ⟨hsupported, hfailing⟩) hne
      rw [(content_iff r source x).1 hx] at hnone
      cases hnone
    · rw [hcreate]
      exact arena_record r _ other

end Creation

/-! ### Updates and destructions -/

/-- An update puts its instances in place of all those of the scene that is hit, if they are as many,
and else changes no arena. -/
structure UpdatesWhole (r : Recorder) (tlas : Handle .tlas) (instances : List Instance) :
    Prop where
  replaced : ∀ n built, r.Hits .tlas tlas n built → built.length = instances.length →
    ∃ before after, (r.arena .tlas).toList = before ++ (n, built) :: after ∧
      ((r.updateTlas tlas instances).state.arena .tlas).toList =
        before ++ (n, instances) :: after ∧
      ∀ other, other ≠ .tlas → (r.updateTlas tlas instances).state.arena other = r.arena other
  ignored : (∀ n built, r.Hits .tlas tlas n built → built.length ≠ instances.length) → ∀ other,
    (r.updateTlas tlas instances).state.arena other = r.arena other

/-- A destruction takes out the resource that is hit, if any, and nothing else. -/
structure DestroysHit (r : Recorder) (kind : Kind) (handle : Handle kind) : Prop where
  taken : ∀ n x, r.Hits kind handle n x →
    (r.arena kind).toList.Perm ((n, x) :: ((r.destroy kind handle).arena kind).toList)
  missed : ¬ r.Hit kind handle → (r.destroy kind handle).arena kind = r.arena kind
  others : ∀ other, other ≠ kind → (r.destroy kind handle).arena other = r.arena other

section Changes

variable (hr : r.InRange)
include hr

theorem updatesWhole (tlas : Handle .tlas) (instances : List Instance) :
    r.UpdatesWhole tlas instances := by
  rcases updateTlas_cases r tlas instances with ⟨reason, hno, hupdate⟩ | ⟨built, hget, hl, hupdate⟩
  · refine ⟨fun n built hhits hlength => ?_, fun _ other => ?_⟩
    · exact absurd hlength (hno built ((exists_hits_iff hr).1 ⟨n, hhits⟩))
    · rw [hupdate]
      exact arena_record r _ other
  · have hfound : r.find? .tlas tlas.native = some built := hget
    obtain ⟨m, hm⟩ := (exists_hits_iff hr).2 hfound
    refine ⟨fun n built' hhits _ => ?_, fun hno => absurd hl (hno m built hm)⟩
    obtain ⟨rfl, rfl⟩ := hhits.unique hr hm
    obtain ⟨native, hnative, rfl⟩ := Option.map_eq_some_iff.1 hhits.1
    obtain ⟨_, _, before, after, -, -, -, hold, -, -, hnew⟩ := Arena.exists_slot (hr .tlas) hhits.2
    refine ⟨before, after, hold, ?_, fun other hother => ?_⟩
    · rw [hupdate, arena_withArena, hnative, ← Arena.update_odd]
      exact (hnew _).2
    · exact r.arena_updateTlas_of_ne tlas instances hother

theorem destroysHit (kind : Kind) (handle : Handle kind) : r.DestroysHit kind handle := by
  have harena : (r.destroy kind handle).arena kind = (r.arena kind).erase handle.native :=
    r.arena_destroy kind handle
  refine ⟨fun n x hhits => ?_, fun hmiss => ?_, fun other hother => ?_⟩
  · obtain ⟨native, hnative, rfl⟩ := Option.map_eq_some_iff.1 hhits.1
    rw [harena, hnative, ← Arena.erase_odd]
    exact Arena.perm_erase (hr kind) hhits.2
  · rw [hit_iff hr, Bool.not_eq_true, Option.isSome_eq_false_iff, Option.isNone_iff_eq_none] at hmiss
    rw [harena]
    cases hnative : handle.native with
    | none => rfl
    | some native =>
      rw [hnative] at hmiss
      exact Arena.erase_of_get?_eq_none hmiss
  · exact r.arena_destroy_of_ne handle hother

end Changes

/-! ### The account -/

/-- A command that is a call is told once, after all calls before it. -/
theorem calls_perform (r : Recorder) (c : Command) :
    (r.perform c).calls = r.calls ++ c.call?.toList := by
  unfold calls
  rw [history_perform, List.filterMap_append]
  cases c with
  | _ => rfl

/-- Each call is told as one of its own kind, with what it was given. -/
structure TellsCalls (r : Recorder) : Prop where
  createGeometry : ∀ m, (r.create .geometry m).state.calls =
    r.calls ++ [.createGeometry m.vertexCount m.stride m.offset m.indexCount]
  createBlas : ∀ geometries : List (Handle .geometry), (r.create .blas geometries).state.calls =
    r.calls ++ [.createBlas geometries.length]
  createTlas : ∀ instances, (r.create .tlas instances).state.calls =
    r.calls ++ [.createTlas instances]
  updateTlas : ∀ tlas instances, (r.updateTlas tlas instances).state.calls =
    r.calls ++ [.updateTlas tlas.native instances]
  destroy : ∀ kind handle, (r.destroy kind handle).calls =
    r.calls ++ [.destroy kind handle.native]
  traceRays : ∀ trace, (r.traceRays trace).calls = r.calls ++
    [.traceRays trace.tlas.native trace.width trace.height trace.output
      (trace.uniforms.map List.length)]

theorem tellsCalls (r : Recorder) : r.TellsCalls where
  createGeometry m := r.calls_perform (.create .geometry m)
  createBlas geometries := r.calls_perform (.create .blas geometries)
  createTlas instances := r.calls_perform (.create .tlas instances)
  updateTlas tlas instances := r.calls_perform (.updateTlas tlas instances)
  destroy kind handle := r.calls_perform (.destroy kind handle)
  traceRays trace := r.calls_perform (.traceRays trace)

/-- On any device whose handles can be told apart, with whatever handles and sources, each operation
is carried out as a whole or changes no arena; a trace never does.  Each call is told in the account,
refused or not, and none makes creations fail or succeed. -/
theorem operations_whole (r : Recorder) (hr : r.InRange) :
    (∀ kind source, r.CreatesWhole kind source) ∧
    (∀ tlas instances, r.UpdatesWhole tlas instances) ∧
    (∀ kind handle, r.DestroysHit kind handle) ∧
    (∀ trace other, (r.traceRays trace).arena other = r.arena other) ∧
    r.TellsCalls ∧
    ∀ c, (∀ failing, c ≠ .setFailing failing) →
      (r.perform c).supported = r.supported ∧ (r.perform c).failing = r.failing :=
  ⟨fun _ _ => createsWhole hr, updatesWhole hr, destroysHit hr,
    fun trace other => r.arena_record (.traceRays trace) other, r.tellsCalls,
    fun c hc => ⟨r.supported_perform c, r.failing_perform hc⟩⟩

/-- A device with one resource of each kind. -/
def furnished : Recorder := (blank true).performAll
  [.create .geometry point, .create .blas [first], .create .tlas [{ blas := first }]]

theorem inRange_furnished : furnished.InRange := by
  intro kind
  have hslots : (furnished.arena kind).slots.length < UInt32.size := by
    cases kind <;> decide +kernel
  exact hslots

/-- The handle that the first slot would give in its next use. -/
def early {kind : Kind} : Handle kind := ⟨some ⟨0x300000001, by decide⟩, 0⟩

/-- A made up handle serves as well as the geometry's own, one that is not yet given out makes a
creation fail halfway through its list, and a scene is replaced by as many instances only. -/
theorem operations_whole_furnished : furnished.InRange ∧
    (furnished.create .blas [first, forged]).value ≠ .null ∧
    (∀ other, (furnished.create .blas [first, early]).state.arena other = furnished.arena other) ∧
    ∀ other, (furnished.updateTlas forged []).state.arena other = furnished.arena other := by
  obtain ⟨hcreate, hupdate, -⟩ := operations_whole furnished inRange_furnished
  refine ⟨inRange_furnished, ?_, (hcreate .blas [first, early]).refused (by decide +kernel), ?_⟩
  · refine (hcreate .blas [first, forged]).succeeds.2 ⟨rfl, rfl, nofun, ?_⟩
    intro g hg
    rw [hit_iff inRange_furnished]
    rcases List.mem_cons.1 hg with rfl | hg
    · decide +kernel
    · obtain rfl := List.mem_singleton.1 hg
      decide +kernel
  · refine (hupdate forged []).ignored fun n built hhits hlength => ?_
    have hfound := (exists_hits_iff inRange_furnished).1 ⟨n, hhits⟩
    obtain rfl := List.length_eq_zero_iff.1 hlength
    exact absurd hfound (by decide +kernel)

end ScriptedRays.Recorder

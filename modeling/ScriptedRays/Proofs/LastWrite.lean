import ScriptedRays.Proofs.Lifetime

/-!
# LastWrite — which instances a scene has

A device keeps for a scene the instances of the last update that was carried out, or those the scene
was created with, each on the structure that its id stood for at that moment.  Nothing else changes
them, and there are always as many (`last_write`).
-/

namespace ScriptedRays

theorem Recorder.content_tlas_eq_ok {r : Recorder} {instances : List Instance} {x : Content .tlas}
    (h : r.content .tlas instances = .ok x) : x = instances := by
  rw [content_tlas] at h
  split at h
  · exact (Except.ok.inj h).symm
  · exact absurd h nofun

theorem Instance.read_eq_ok {g : Registry} {v : Value} {i : Instance}
    (h : Instance.read g v = .ok i) :
    ∃ o id, v.object? = some o ∧ Wrapper.read .blas (o.get "blas") = .ok id ∧
      (g.ledger .blas).get? id = some i.blas := by
  unfold Instance.read at h
  split at h
  · exact absurd h nofun
  next o ho =>
  split at h
  · exact absurd h nofun
  split at h
  · exact absurd h nofun
  next blas hblas =>
  obtain ⟨id, hread, hid⟩ := Registry.lookup_eq_ok.1 hblas
  rw [← Except.ok.inj h]
  exact ⟨o, id, ho, hread, hid⟩

/-- The array from which a call takes the instances of a scene. -/
inductive Action.Lists (elements : List Value) : Action → Prop
  | build {args : List Value} (h : argument args 0 = .array elements) :
      Lists elements (.call (Request.name (.create .tlas)) args)
  | update {args : List Value} (h : argument args 1 = .array elements) :
      Lists elements (.call (Request.name .updateTlas) args)

namespace Session

/-- An element is read as an instance on the structure that its id stands for in the session. -/
structure Places (s : Session) (v : Value) (i : Instance) : Prop where
  read : ∃ rt, s.renderer = some rt ∧ Instance.read rt.registry v = .ok i
  resolved : ∃ o id, v.object? = some o ∧ Wrapper.read .blas (o.get "blas") = .ok id ∧
    s.entryOf? .blas id = some i.blas

theorem places_of_read {s : Session} {rt : Renderer} (hs : s.renderer = some rt) {v : Value}
    {i : Instance} (h : Instance.read rt.registry v = .ok i) : s.Places v i := by
  obtain ⟨o, id, ho, hread, hid⟩ := Instance.read_eq_ok h
  refine ⟨⟨rt, hs, h⟩, o, id, ho, hread, ?_⟩
  rw [entryOf?_of_renderer hs, Renderer.entryOf?_eq]
  exact hid

/-- The instances that a call gives to a scene are those in its array. -/
theorem Sets.exists_list {s : Session} {id : UInt32} {instances : Content .tlas} {a : Action}
    (h : s.Sets .tlas id instances a) :
    ∃ elements, a.Lists elements ∧ List.Forall₂ s.Places elements instances := by
  cases h with
  | made hr hs hx hv =>
    obtain rfl := Recorder.content_tlas_eq_ok hx
    obtain ⟨elements, harray, hread⟩ := Registry.readBuild_eq_ok hs
    exact ⟨elements, Action.Lists.build harray, hread.imp fun _ _ hi => places_of_read hr hi⟩
  | remade hr hid hu hv =>
    obtain ⟨-, -, elements, -, -, -, harray, hread, -⟩ := Registry.readUpdate_eq_ok hu
    exact ⟨elements, Action.Lists.update harray, hread.imp fun _ _ hi => places_of_read hr hi⟩

theorem exists_entry {s : Session} {kind : Kind} {id : UInt32} {x : Content kind}
    (h : s.content? kind id = some x) : ∃ e, s.entryOf? kind id = some e := by
  obtain ⟨rt, hs, hx⟩ := Option.bind_eq_some_iff.1 h
  obtain ⟨r, -, hr⟩ := Option.bind_eq_some_iff.1 hx
  obtain ⟨e, he, -⟩ := Option.bind_eq_some_iff.1 hr
  rw [entryOf?_of_renderer hs]
  exact ⟨e, he⟩

/-- As long as an id stands for something, that has as many instances as before. -/
theorem Lifetime.same_count {m : Kind → Nat} {s : Session} {run back : List Action}
    (l : Lifetime m s (run ++ back)) {kind : Kind} {id : UInt32} {x y : Content kind}
    (hx : s.content? kind id = some x) (hy : (s.acts run).content? kind id = some y) :
    Content.instanceCount x = Content.instanceCount y := by
  obtain ⟨e, he⟩ := exists_entry hx
  obtain ⟨e', he'⟩ := exists_entry hy
  obtain ⟨x', hx', hcount⟩ := l.exists_content he
  obtain ⟨y', hy', hcount'⟩ := l.drop.exists_content he'
  obtain rfl := Option.some.inj (hx.symm.trans hx')
  obtain rfl := Option.some.inj (hy.symm.trans hy')
  have hd : ∀ b ∈ run, ¬ b.Destroys kind id := fun b hb hbd => by
    rw [l.take.entry_destroyed (entryOf?_issued he).2 ⟨b, hb, hbd⟩] at he'
    exact absurd he' nofun
  rw [l.take.entry_stays he hd] at he'
  rw [hcount, hcount', Option.some.inj he']

/-- **The last write counts.**  On any device, from its start until it is given up, a scene that is
registered has the instances of the last call that gave it any: the last update of it that was
carried out, or else its creation.  They were read from the array of that call, each on the
structure that its id stood for at that moment.  No other action but its destruction changes them,
and there are always as many. -/
theorem last_write (s : Session) {device : Device} {m : Kind → Nat} (hm : device.Within m)
    {run : List Action} (hlasts : ∀ a ∈ run, a.Lasts)
    (hfew : ∀ kind, m kind + creations kind (s.opened device) run < 2 ^ 31) :
    (∀ front back id e, run = front ++ back →
      ((s.opened device).acts front).entryOf? .tlas id = some e →
        ∃ instances earlier a later elements,
          ((s.opened device).acts front).content? .tlas id = some instances ∧
          front = earlier ++ a :: later ∧
          ((s.opened device).acts earlier).Sets .tlas id instances a ∧
          Along (fun t b => ∀ other, ¬ t.Sets .tlas id other b)
            ((s.opened device).acts (earlier ++ [a])) later ∧
          a.Lists elements ∧
          List.Forall₂ ((s.opened device).acts earlier).Places elements instances) ∧
    (∀ front a back id, run = front ++ a :: back →
      (∀ instances, ¬ ((s.opened device).acts front).Sets .tlas id instances a) →
      ¬ a.Destroys .tlas id →
        (((s.opened device).acts front).act a).state.content? .tlas id =
          ((s.opened device).acts front).content? .tlas id) ∧
    ∀ front middle back id instances instances', run = front ++ (middle ++ back) →
      ((s.opened device).acts front).content? .tlas id = some instances →
      ((s.opened device).acts (front ++ middle)).content? .tlas id = some instances' →
        instances.length = instances'.length := by
  have l := s.lifetime_opened hm hlasts hfew
  refine ⟨?_, ?_, ?_⟩
  · rintro front back id e rfl he
    obtain ⟨instances, hx, -⟩ := l.drop.exists_content he
    -- looking back from the end, the first call met that sets this id is the one
    obtain ⟨earlier, a, later, rfl, hset, halong⟩ :=
      l.take.last_set (s.content?_opened device .tlas id) hx
    obtain ⟨elements, hlists, hplaces⟩ := hset.exists_list
    exact ⟨instances, earlier, a, later, elements, hx, rfl, hset, halong.mono fun _ _ h => h.1,
      hlists, hplaces⟩
  · rintro front a back id rfl hsets hd
    exact (l.drop.changed .tlas).content_stays hsets hd
  · rintro front middle back id instances instances' rfl hx hy
    rw [acts_append] at hy
    exact l.drop.same_count hx hy

theorem last_write_sample :
    ∃ instances earlier a later elements,
      ((({} : Session).opened (.recording .fresh)).acts Action.sample).content? .tlas 1 =
        some instances ∧
      Action.sample = earlier ++ a :: later ∧
      ((({} : Session).opened (.recording .fresh)).acts earlier).Sets .tlas 1 instances a ∧
      a.Lists elements ∧
      List.Forall₂ ((({} : Session).opened (.recording .fresh)).acts earlier).Places elements
        instances := by
  obtain ⟨e, he⟩ : ∃ e, ((({} : Session).opened (.recording .fresh)).acts
      Action.sample).entryOf? .tlas 1 = some e := Option.isSome_iff_exists.1 (by decide +kernel)
  obtain ⟨hlast, -, -⟩ := last_write {} Device.within_fresh Action.sample_lasts
    Action.sample_lifetime_few
  obtain ⟨instances, earlier, a, later, elements, hx, hrun, hset, -, hlists, hplaces⟩ :=
    hlast Action.sample [] 1 e (List.append_nil _).symm he
  exact ⟨instances, earlier, a, later, elements, hx, hrun, hset, hlists, hplaces⟩

end Session

end ScriptedRays

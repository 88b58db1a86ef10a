import ScriptedRays.Proofs.Lifetime
import ScriptedRays.Proofs.AlikeAnswers

/-!
# Indistinct — sessions that a script cannot tell apart

Two sessions on recorders, with registries alike and creations made to fail in both or in neither,
give the same answers, records and counts whatever is called (`Alike.seen`).  So a script sees
nothing of native handles, of the coordinates of geometries and of the instances of scenes
(`natives_unseen`).
-/

namespace ScriptedRays

/-- The action is a call that destroys, whether or not it names anything. -/
def Action.IsDestroy (a : Action) : Prop :=
  ∃ kind args, a = .call (EntryPoint.destroy kind).name args

/-- Where entries tell of no instances, it only counts whether there is one. -/
theorem Entry.map_instances_eq {kind : Kind} (hzero : ∀ e : Entry kind, e.instances = 0)
    {x y : Option (Entry kind)} (h : x.isSome = y.isSome) :
    x.map Entry.instances = y.map Entry.instances := by
  have hconst : Entry.instances = fun _ : Entry kind => 0 := funext hzero
  rw [hconst]
  cases x with
  | none =>
    cases y with
    | none => rfl
    | some e => exact absurd h nofun
  | some e =>
    cases y with
    | none => exact absurd h nofun
    | some e' => rfl

namespace Session

/-! ### What is seen of a session -/

/-- What a session tells of itself. -/
structure Views where
  stats : Stats
  supported : Bool
  backend : Backend

def views (s : Session) : Views := ⟨s.stats, s.isSupported, s.backend⟩

/-- What is seen of a run: the answer to each action, what is logged, and what the session tells of
itself afterwards. -/
def seen : Session → List Action → List (Option Value × List Record × Views)
  | _, [] => []
  | s, a :: rest =>
    ((s.act a).value, (s.act a).log, (s.act a).state.views) :: seen (s.act a).state rest

/-! ### Sessions alike -/

/-- Nothing is in use in either session, or renderers alike are. -/
inductive Alike (m : Kind → Nat) (s t : Session) : Prop
  | closed (hs : s.renderer = none) (ht : t.renderer = none)
  | opened {rt rt' : Renderer} (hs : s.renderer = some rt) (ht : t.renderer = some rt')
      (h : rt.Alike m rt')

namespace Alike

variable {m : Kind → Nat} {s t : Session} (h : s.Alike m t)
include h

/-- Alike tell the same of themselves. -/
theorem views : s.views = t.views := by
  unfold Session.views stats isSupported backend
  cases h with
  | closed hs ht => rw [hs, ht]
  | opened hs ht halike =>
    rw [hs, ht]
    cases halike with
    | @recording g g' r r' hrecorders =>
      show Views.mk g.stats r.supported (if r.supported then .vulkan else .none) =
        ⟨g'.stats, r'.supported, if r'.supported then .vulkan else .none⟩
      rw [hrecorders.alike.stats, hrecorders.supported]

theorem cleanup : s.cleanup.Matches (Alike m) t.cleanup := by
  unfold Session.cleanup
  cases h with
  | closed hs ht =>
    rw [hs, ht]
    exact ⟨rfl, rfl, Alike.closed hs ht⟩
  | opened hs ht halike =>
    rw [hs, ht]
    cases halike with
    | recording hrecorders =>
      -- the devices destroy different handles; what is told of it are the counts
      unfold Renderer.releaseAll Registry.releaseAll
      simp only [hrecorders.alike.stats]
      exact ⟨rfl, rfl, Alike.closed rfl rfl⟩

variable (hfew : ∀ kind, m kind + s.issued kind < 2 ^ 31)
include hfew

theorem attempt (request : Request) (args : List Value) :
    (s.attempt request args).Matches (Alike m) (t.attempt request args) := by
  unfold Session.attempt
  cases h with
  | closed hs ht =>
    rw [hs, ht]
    exact ⟨rfl, rfl, Alike.closed hs ht⟩
  | opened hs ht halike =>
    rw [hs, ht]
    cases halike with
    | recording hrecorders =>
      have hfew' := few_of_renderer hs hfew
      have hanswer := hrecorders.answer hfew' args request
      exact ⟨hanswer.value, hanswer.log, Alike.opened rfl rfl hanswer.state⟩

theorem perform (request : Request) (args : List Value) :
    (s.perform request args).Matches (Alike m) (t.perform request args) := by
  obtain ⟨hvalue, hlog, hstate⟩ := h.attempt hfew request args
  unfold Session.perform
  generalize s.attempt request args = done, t.attempt request args = done' at hvalue hlog hstate
  obtain ⟨value, state, log⟩ := done
  obtain ⟨value', state', log'⟩ := done'
  obtain rfl : value = value' := hvalue
  obtain rfl : log = log' := hlog
  cases value with
  | ok v => exact ⟨rfl, rfl, hstate⟩
  | error e => exact ⟨rfl, rfl, hstate⟩

theorem destroy (kind : Kind) (wrapper : Value) :
    (s.destroy kind wrapper).Matches (Alike m) (t.destroy kind wrapper) := by
  unfold Session.destroy
  cases h with
  | closed hs ht =>
    rw [hs, ht]
    exact ⟨rfl, rfl, Alike.closed hs ht⟩
  | opened hs ht halike =>
    rw [hs, ht]
    cases halike with
    | recording hrecorders =>
      have hfew' := few_of_renderer hs hfew
      have hdestroy := hrecorders.destroy hfew' kind wrapper
      exact ⟨rfl, hdestroy.log, Alike.opened rfl rfl hdestroy.state⟩

theorem run (entry : EntryPoint) (args : List Value) :
    (s.run entry args).Matches (Alike m) (t.run entry args) := by
  cases entry with
  | isSupported => exact ⟨congrArg (fun v => Value.boolean (Views.supported v)) h.views, rfl, h⟩
  | getBackend =>
    exact ⟨congrArg (fun v => Value.string (Views.backend v).name) h.views, rfl, h⟩
  | request request => exact h.perform hfew request args
  | destroy kind => exact h.destroy hfew kind (argument args 0)
  | cleanup => exact ⟨rfl, h.cleanup.log, h.cleanup.state⟩

/-- **Sessions alike act alike.** -/
theorem act {a : Action} (ha : ∀ device, a ≠ .start device) :
    (s.act a).Matches (Alike m) (t.act a) := by
  cases a with
  | start device => exact absurd rfl (ha device)
  | cleanup => exact ⟨rfl, h.cleanup.log, h.cleanup.state⟩
  | setFailing failing =>
    refine ⟨rfl, rfl, ?_⟩
    show (s.setFailing failing).Alike m (t.setFailing failing)
    unfold setFailing
    cases h with
    | closed hs ht =>
      rw [hs, ht]
      exact Alike.closed rfl rfl
    | opened hs ht halike =>
      rw [hs, ht]
      cases halike with
      | recording hrecorders =>
        have hfew' := few_of_renderer hs hfew
        exact Alike.opened rfl rfl (hrecorders.setFailing hfew' failing)
  | call name args =>
    show (s.call name args).Matches (Alike m) (t.call name args)
    unfold call
    cases EntryPoint.ofName? name with
    | none => exact ⟨rfl, rfl, h⟩
    | some entry =>
      have hrun := h.run hfew entry args
      exact ⟨congrArg some hrun.value, hrun.log, hrun.state⟩

end Alike

/-- **The same is seen of sessions alike**, whatever is done to both. -/
theorem Alike.seen {m : Kind → Nat} {s t : Session} (h : s.Alike m t) {run : List Action}
    (hrun : ∀ device, .start device ∉ run)
    (hfew : ∀ kind, m kind + s.issued kind + creations kind s run < 2 ^ 31) :
    s.seen run = t.seen run := by
  induction run generalizing s t with
  | nil => rfl
  | cons a rest ih =>
    obtain ⟨hnow, hrest⟩ := few_act_add hfew
    have hact := h.act hnow (a := a) fun device ha => hrun device (ha ▸ List.mem_cons_self)
    show (_, _, _) :: (s.act a).state.seen rest = (_, _, _) :: (t.act a).state.seen rest
    rw [hact.value, hact.log, hact.state.views,
      ih hact.state (fun device hd => hrun device (List.mem_cons_of_mem _ hd)) hrest]

/-! ### States that agree -/

/-- A session in which a recorder that supports ray tracing is in use, at any point from its start
on.  The recorder need not be a new one; few enough resources were ever put into it. -/
inductive Reached (m : Kind → Nat) : Session → Prop
  | run {before : Session} {r : Recorder} {run : List Action} (hsup : r.supported = true)
      (hm : (Device.recording r).Within m) (hlasts : ∀ a ∈ run, a.Lasts)
      (hfew : ∀ kind, m kind + creations kind (before.opened (.recording r)) run < 2 ^ 31) :
      Reached m ((before.opened (.recording r)).acts run)

/-- The id that the next resource of a kind will get, if a device is in use. -/
def nextId? (s : Session) (kind : Kind) : Option UInt32 :=
  s.renderer.bind fun rt => (rt.registry.ledger kind).nextId?

/-- Whether creations are made to fail. -/
def isFailing (s : Session) : Bool :=
  s.renderer.elim false fun rt => rt.device.recorder?.elim false Recorder.failing

theorem nextId?_destroy (s : Session) (kind other : Kind) (wrapper : Value) :
    (s.destroy kind wrapper).state.nextId? other = s.nextId? other := by
  cases hs : s.renderer with
  | none => rw [destroy_of_none hs]
  | some rt =>
    have ht := destroy_of_some hs kind wrapper
    have hissued := s.issued_destroy kind other wrapper
    rw [issued_of_renderer hs, issued_of_renderer ht] at hissued
    unfold nextId?
    rw [ht, hs]
    exact Ledger.nextId?_congr hissued

theorem isFailing_destroy (s : Session) (kind : Kind) (wrapper : Value) :
    (s.destroy kind wrapper).state.isFailing = s.isFailing := by
  cases hs : s.renderer with
  | none => rw [destroy_of_none hs]
  | some rt =>
    unfold isFailing
    rw [destroy_of_some hs, hs]
    rcases rt.destroy_cases kind wrapper with ⟨h, -⟩ | ⟨id, e, -, -, h⟩
    · rw [h]
    · rw [h]
      obtain ⟨_ | r, g⟩ := rt
      · rfl
      · exact Recorder.failing_perform r (c := .destroy kind e.handle) nofun

/-- The same ids are in use and the same come next, scenes have as many instances, and creations are
made to fail in both or in neither. -/
structure Agree (s t : Session) : Prop where
  live : ∀ kind id, (s.entryOf? kind id).isSome = (t.entryOf? kind id).isSome
  next : ∀ kind, s.nextId? kind = t.nextId? kind
  counts : ∀ id, (s.entryOf? .tlas id).map SceneEntry.instanceCount =
    (t.entryOf? .tlas id).map SceneEntry.instanceCount
  failing : s.isFailing = t.isFailing

section Reached

variable {m : Kind → Nat} {s t : Session}

theorem Reached.lifetime (h : s.Reached m) : Lifetime m s [] := by
  obtain @⟨before, r, run, hsup, hm, hlasts, hfew⟩ := h
  have l := before.lifetime_opened hm hlasts hfew
  exact Lifetime.drop ((List.append_nil run).symm ▸ l)

/-- What is in use in such a session. -/
theorem Reached.exists_heldWithin (h : s.Reached m) :
    ∃ r g, s.renderer = some ⟨.recording r, g⟩ ∧ r.supported = true ∧ HeldWithin m g r ∧
      ∀ kind, m kind + (g.ledger kind).issued < 2 ^ 31 := by
  have lnow := h.lifetime
  obtain @⟨before, r, run, hsup, hm, hlasts, hfew⟩ := h
  obtain ⟨r', g', hs, hsup'⟩ := (before.lifetime_opened hm hlasts hfew).exists_recording rfl
  have hheld := lnow.registryHeld _ hs
  have hfew' := few_of_renderer hs lnow.now
  exact ⟨r', g', hs, hsup'.trans hsup, hheld.heldWithin r' rfl, hfew'⟩

/-- Agreement says that scenes have as many instances; other entries tell of none. -/
theorem entries_of_agree {rt rt' : Renderer} (hs : s.renderer = some rt)
    (ht : t.renderer = some rt') (h : s.Agree t) (kind : Kind) (id : UInt32) :
    ((rt.registry.ledger kind).get? id).map Entry.instances =
      ((rt'.registry.ledger kind).get? id).map Entry.instances := by
  have hlive := h.live kind id
  have hcount := h.counts id
  rw [entryOf?_of_renderer hs, entryOf?_of_renderer ht, Renderer.entryOf?_eq, Renderer.entryOf?_eq]
    at hlive hcount
  cases kind with
  | geometry => exact Entry.map_instances_eq (fun _ => rfl) hlive
  | blas => exact Entry.map_instances_eq (fun _ => rfl) hlive
  | tlas => exact hcount

/-- Sessions that agree are alike, whatever their devices hold. -/
theorem Agree.alike (h : s.Agree t) (hs : s.Reached m) (ht : t.Reached m) : s.Alike m t := by
  obtain ⟨r, g, hr, hsup, hwithin, hfew⟩ := hs.exists_heldWithin
  obtain ⟨r', g', hr', hsup', hwithin', hfew'⟩ := ht.exists_heldWithin
  have hnext := h.next
  have hfailing := h.failing
  unfold nextId? at hnext
  unfold isFailing at hfailing
  rw [hr, hr'] at hnext hfailing
  have hissued : ∀ kind, (g.ledger kind).issued = (g'.ledger kind).issued := fun kind =>
    (Ledger.nextId?_eq_iff (Ledger.succ_lt_size_of_add (hfew kind))).1 (hnext kind)
  exact Alike.opened hr hr' (Renderer.Alike.recording
    { alike := ⟨hissued, entries_of_agree hr hr' h⟩
      supported := hsup.trans hsup'.symm
      failing := hfailing
      heldWithin := hwithin
      heldWithin' := hwithin' })

theorem Reached.acts (h : s.Reached m) {run : List Action} (hlasts : ∀ a ∈ run, a.Lasts)
    (hfew : ∀ kind, m kind + s.issued kind + creations kind s run < 2 ^ 31) :
    (s.acts run).Reached m := by
  obtain @⟨before, r, front, hsup, hm, hlasts', hfew'⟩ := h
  have l := before.lifetime_opened hm hlasts' hfew'
  rw [← acts_append]
  refine Reached.run hsup hm (fun a ha => ?_) fun kind => ?_
  · rcases List.mem_append.1 ha with ha | ha
    · exact hlasts' a ha
    · exact hlasts a ha
  · have hsum := hfew kind
    rw [l.issued, issued_opened] at hsum
    rw [creations_append]
    omega

end Reached

/-! ### Destroying in any order -/

section Destroying

variable {run : List Action} (hrun : ∀ a ∈ run, a.IsDestroy)
include hrun

theorem lasts_of_isDestroy : ∀ a ∈ run, a.Lasts := by
  intro a ha
  obtain ⟨kind, args, rfl⟩ := hrun a ha
  show (EntryPoint.destroy kind).name ≠ EntryPoint.cleanup.name
  exact fun hname => absurd (EntryPoint.name_injective hname) nofun

theorem creations_of_isDestroy (kind : Kind) (s : Session) : creations kind s run = 0 := by
  induction run generalizing s with
  | nil => rfl
  | cons a rest ih =>
    obtain ⟨k, args, rfl⟩ := hrun a List.mem_cons_self
    have hname : (EntryPoint.destroy k).name ≠ kind.creation := fun h =>
      absurd (@EntryPoint.name_injective (.destroy k) (.request (.create kind)) h) nofun
    show (s.creates kind _).toNat + creations kind _ rest = 0
    rw [creates_of_name_ne hname, ih (fun b hb => hrun b (List.mem_cons_of_mem _ hb))]
    rfl

/-- Calls that destroy neither issue ids nor touch the switch. -/
theorem same_of_isDestroy (s : Session) :
    (∀ kind, (s.acts run).nextId? kind = s.nextId? kind) ∧
      (s.acts run).isFailing = s.isFailing := by
  induction run generalizing s with
  | nil => exact ⟨fun _ => rfl, rfl⟩
  | cons a rest ih =>
    obtain ⟨k, args, rfl⟩ := hrun a List.mem_cons_self
    obtain ⟨hnext, hfailing⟩ := ih (fun b hb => hrun b (List.mem_cons_of_mem _ hb)) (s.act _).state
    refine ⟨fun kind => (hnext kind).trans ?_, hfailing.trans ?_⟩
    · rw [act_destroy, nextId?_destroy]
    · rw [act_destroy, isFailing_destroy]

end Destroying

section Order

variable {m : Kind → Nat} {s : Session} (h : s.Reached m) {run : List Action}
  (hrun : ∀ a ∈ run, a.IsDestroy)
include h hrun

theorem Reached.lifetime_of_isDestroy : Lifetime m s run where
  registryHeld := h.lifetime.registryHeld
  lasts := lasts_of_isDestroy hrun
  few kind := by
    rw [creations_of_isDestroy hrun]
    exact h.lifetime.now kind

theorem Reached.acts_of_isDestroy : (s.acts run).Reached m :=
  have l := h.lifetime_of_isDestroy hrun
  h.acts l.lasts l.few

/-- After the same calls that destroy, in another order, there is no difference. -/
theorem Reached.agree_of_perm {other : List Action} (hperm : run.Perm other) :
    (s.acts run).Agree (s.acts other) := by
  have hother : ∀ a ∈ other, a.IsDestroy := fun a ha => hrun a (hperm.mem_iff.2 ha)
  have hentry : ∀ kind, (s.acts run).entryOf? kind = (s.acts other).entryOf? kind := fun kind => by
    funext id
    have hiff : (∃ b ∈ run, b.Destroys kind id) ↔ ∃ b ∈ other, b.Destroys kind id :=
      exists_congr fun b => and_congr_left' hperm.mem_iff
    rw [(h.lifetime_of_isDestroy hrun).entryOf?_acts (creations_of_isDestroy hrun kind s),
      (h.lifetime_of_isDestroy hother).entryOf?_acts (creations_of_isDestroy hother kind s)]
    by_cases hd : ∃ b ∈ run, b.Destroys kind id
    · rw [if_pos hd, if_pos (hiff.1 hd)]
    · rw [if_neg hd, if_neg (mt hiff.2 hd)]
  obtain ⟨hnext, hfailing⟩ := same_of_isDestroy hrun s
  obtain ⟨hnext', hfailing'⟩ := same_of_isDestroy hother s
  exact ⟨fun kind id => by rw [hentry], fun kind => (hnext kind).trans (hnext' kind).symm,
    fun id => by rw [hentry], hfailing.trans hfailing'.symm⟩

end Order

/-! ### What is never seen -/

/-- **Native handles are never seen.**  From any two states that agree, with recorders in use that
support ray tracing, the same calls get the same answers, log the same and leave sessions that tell
the same of themselves, whatever the devices hold and wherever they hold it.  In particular the
order of calls that destroy makes no difference to anything later. -/
theorem natives_unseen (m : Kind → Nat) :
    (∀ (s t : Session) (run : List Action), s.Reached m → t.Reached m → s.Agree t →
      (∀ device, .start device ∉ run) →
      (∀ kind, m kind + s.issued kind + creations kind s run < 2 ^ 31) →
        s.views = t.views ∧ s.seen run = t.seen run) ∧
    ∀ (s : Session) (calls other run : List Action), s.Reached m → (∀ a ∈ calls, a.IsDestroy) →
      calls.Perm other → (∀ device, .start device ∉ run) →
      (∀ kind, m kind + s.issued kind + creations kind (s.acts calls) run < 2 ^ 31) →
        (s.acts calls).views = (s.acts other).views ∧
          (s.acts calls).seen run = (s.acts other).seen run := by
  refine ⟨?_, ?_⟩
  · intro s t run hs ht h hrun hfew
    have halike := h.alike hs ht
    exact ⟨halike.views, halike.seen hrun hfew⟩
  · intro s calls other run hs hcalls hperm hrun hfew
    have hother : ∀ a ∈ other, a.IsDestroy := fun a ha => hcalls a (hperm.mem_iff.2 ha)
    have halike := (hs.agree_of_perm hcalls hperm).alike (hs.acts_of_isDestroy hcalls)
      (hs.acts_of_isDestroy hother)
    refine ⟨halike.views, halike.seen hrun fun kind => ?_⟩
    rw [(hs.lifetime_of_isDestroy hcalls).issued, creations_of_isDestroy hcalls, Nat.add_zero]
    exact hfew kind

end Session

/-! ### Two orders to look at -/

namespace Action

/-- A geometry is created. -/
def addTriangle : Action := call "createGeometry" [triangle]

/-- A geometry is destroyed. -/
def discard (id : UInt32) : Action :=
  call (EntryPoint.destroy .geometry).name [Wrapper.make .geometry id]

/-- A session with two geometries on a new device. -/
def paired : Session := (({} : Session).opened (.recording .fresh)).acts [addTriangle, addTriangle]

theorem paired_reached : paired.Reached fun _ => 0 := by
  refine Session.Reached.run rfl Device.within_fresh (by decide +kernel) fun kind => ?_
  cases kind <;> decide +kernel

theorem isDestroy_of_mem {a : Action} {id other : UInt32} (h : a ∈ [discard id, discard other]) :
    a.IsDestroy := by
  rcases List.mem_pair.1 h with rfl | rfl
  · exact ⟨.geometry, _, rfl⟩
  · exact ⟨.geometry, _, rfl⟩

end Action

open ScriptedRays.Action (addTriangle discard paired sample) in
/-- Which of two geometries is destroyed first decides which native handle the next one gets, and
nothing that is seen. -/
theorem Session.natives_unseen_sample :
    (((paired.acts [discard 1, discard 2]).act addTriangle).state.entryOf? .geometry 3).map
        (fun e => (Entry.handle e).native) ≠
      (((paired.acts [discard 2, discard 1]).act addTriangle).state.entryOf? .geometry 3).map
        (fun e => (Entry.handle e).native) ∧
    (paired.acts [discard 1, discard 2]).seen [addTriangle] =
      (paired.acts [discard 2, discard 1]).seen [addTriangle] ∧
    (paired.acts [discard 1, discard 2]).Agree (paired.acts [discard 2, discard 1]) ∧
    (paired.acts [discard 1, discard 2]).seen sample =
      (paired.acts [discard 2, discard 1]).seen sample := by
  have hreached := Action.paired_reached
  have hswap := List.Perm.swap (discard 2) (discard 1) []
  have hagree := hreached.agree_of_perm (fun _ => Action.isDestroy_of_mem) hswap
  obtain ⟨hall, horder⟩ := Session.natives_unseen fun _ => 0
  refine ⟨by decide +kernel, ?_, hagree, ?_⟩
  · refine (horder _ _ _ [addTriangle] hreached (fun _ => Action.isDestroy_of_mem) hswap ?_ ?_).2
    · intro device h
      exact absurd (List.mem_singleton.1 h) nofun
    · intro kind
      cases kind <;> decide +kernel
  · refine (hall _ _ sample (hreached.acts_of_isDestroy fun _ => Action.isDestroy_of_mem)
      (hreached.acts_of_isDestroy fun _ => Action.isDestroy_of_mem) hagree ?_ ?_).2
    · intro device h
      exact Action.sample_lasts _ h
    · intro kind
      cases kind <;> decide +kernel

end ScriptedRays

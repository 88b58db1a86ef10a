import ScriptedRays.Proofs.Action
import ScriptedRays.Proofs.Denotation
import ScriptedRays.Proofs.Wrapper

/-!
# Change — what one action changes

An action that leaves the device in use changes at most one id of each kind (`changed`): a creation
gives the next id an entry and a content, an update gives the id of a scene other content, a call
that destroys takes both away, and everything else keeps what there is.
-/

namespace ScriptedRays

theorem EntryPoint.name_injective : Function.Injective EntryPoint.name := by
  intro a b h
  have hname := ofName?_name a
  rw [h, ofName?_name] at hname
  exact (Option.some.inj hname).symm

/-- The request is one that can give a resource of a kind its content. -/
def Request.About (kind : Kind) : Request → Prop
  | create k => k = kind
  | updateTlas => kind = .tlas
  | traceRays => False

/-- The action is a call that destroys what an id stands for. -/
def Action.Destroys (kind : Kind) (id : UInt32) (a : Action) : Prop :=
  ∃ args, a = .call (EntryPoint.destroy kind).name args ∧
    Wrapper.read kind (argument args 0) = .ok id

namespace Session

/-- The entry registered under an id. -/
def entryOf? (s : Session) (kind : Kind) (id : UInt32) : Option (Entry kind) :=
  s.renderer.bind fun rt => rt.entryOf? kind id

/-- What the device in use keeps of the resource registered under an id. -/
def content? (s : Session) (kind : Kind) (id : UInt32) : Option (Content kind) :=
  s.renderer.bind fun rt => rt.content? kind id

theorem entryOf?_of_renderer {s : Session} {rt : Renderer} (h : s.renderer = some rt)
    (kind : Kind) : s.entryOf? kind = rt.entryOf? kind := by
  unfold entryOf?
  rw [h]
  rfl

theorem content?_of_renderer {s : Session} {rt : Renderer} (h : s.renderer = some rt)
    (kind : Kind) : s.content? kind = rt.content? kind := by
  unfold content?
  rw [h]
  rfl

/-- If anything is in use, its device holds what is registered. -/
def RegistryHeld (m : Kind → Nat) (s : Session) : Prop := ∀ rt, s.renderer = some rt → rt.RegistryHeld m

/-! ### Contents that an action sets -/

/-- A call that gives an id its content: a creation that gets the wrapper of the id, or an update
that is carried out. -/
inductive Sets (s : Session) : (kind : Kind) → UInt32 → Content kind → Action → Prop
  | made {kind : Kind} {id : UInt32} {x : Content kind} {args : List Value} {r : Recorder}
      {g : Registry} {source : Source kind} (hr : s.renderer = some ⟨.recording r, g⟩)
      (hs : g.readSource kind (argument args 0) = .ok source)
      (hx : r.content kind source = .ok x)
      (hv : (s.attempt (.create kind) args).value = .ok (Wrapper.make kind id)) :
      Sets s kind id x (.call (Request.name (.create kind)) args)
  | remade {id : UInt32} {args : List Value} {r : Recorder} {g : Registry} {scene : Handle .tlas}
      {instances : List Instance} (hr : s.renderer = some ⟨.recording r, g⟩)
      (hid : Wrapper.read .tlas (argument args 0) = .ok id)
      (hu : g.readUpdate (argument args 0) (argument args 1) = .ok (scene, instances))
      (hv : (s.attempt .updateTlas args).value = .ok .undefined) :
      Sets s .tlas id instances (.call (Request.name .updateTlas) args)

/-- Only a request that succeeds gives an id its content, and only one that is about the kind. -/
theorem Sets.request {s : Session} {kind : Kind} {id : UInt32} {x : Content kind} {a : Action}
    (h : s.Sets kind id x a) :
    ∃ request args v, a = .call (Request.name request) args ∧ request.About kind ∧
      (s.attempt request args).value = .ok v := by
  cases h with
  | made hr hs hx hv => exact ⟨_, _, _, rfl, rfl, hv⟩
  | remade hr hid hu hv => exact ⟨_, _, _, rfl, rfl, hv⟩

theorem Sets.not_destroys {s : Session} {kind : Kind} {id : UInt32} {x : Content kind} {a : Action}
    (h : s.Sets kind id x a) (k : Kind) (i : UInt32) : ¬ a.Destroys k i := by
  obtain ⟨request, args, v, rfl, -, -⟩ := h.request
  rintro ⟨args', ha, -⟩
  have hname := (Action.call.inj ha).1
  exact absurd (@EntryPoint.name_injective (.request request) (.destroy k) hname) nofun

/-- An action gives a content to at most one id of a kind. -/
theorem Sets.unique {s : Session} {kind : Kind} {id other : UInt32} {x y : Content kind}
    {a : Action} (h : s.Sets kind id x a) (h' : s.Sets kind other y a) : id = other := by
  cases h with
  | @made _ _ _ args _ _ _ hr hs hx hv =>
    generalize ha : Action.call (Request.name (.create kind)) args = a at h'
    cases h' with
    | made hr' hs' hx' hv' =>
      obtain rfl := (Action.call.inj ha).2
      exact Wrapper.make_injective kind (Except.ok.inj (hv.symm.trans hv'))
    | remade => exact absurd (Action.call.inj ha).1 (by decide)
  | @remade _ args _ _ _ _ hr hid hu hv =>
    generalize ha : Action.call (Request.name .updateTlas) args = a at h'
    cases h' with
    | made => exact absurd (Action.call.inj ha).1 (by decide)
    | remade hr' hid' hu' hv' =>
      obtain rfl := (Action.call.inj ha).2
      exact Except.ok.inj (hid.symm.trans hid')

/-! ### Actions that are not about a kind -/

/-- The action neither gives an id of a kind a content nor takes one away. -/
structure Spares (s : Session) (kind : Kind) (a : Action) : Prop where
  creates : s.creates kind a = false
  sets : ∀ id x, ¬ s.Sets kind id x a
  destroys : ∀ id, ¬ a.Destroys kind id

theorem creates_of_name_ne {s : Session} {kind : Kind} {name : String} {args : List Value}
    (h : name ≠ kind.creation) : s.creates kind (.call name args) = false := by
  show ((name == kind.creation) && _) = false
  rw [beq_eq_false_iff_ne.2 h]
  rfl

/-- A call spares a kind if it is no request about it or fails, and no call that destroys. -/
theorem spares_call {s : Session} {kind : Kind} {entry : EntryPoint} {args : List Value}
    (hrequest : ∀ request, entry = .request request → request.About kind →
      ∃ e, (s.attempt request args).value = .error e)
    (hdestroy : entry = .destroy kind → ∀ id, Wrapper.read kind (argument args 0) ≠ .ok id) :
    s.Spares kind (.call entry.name args) := by
  refine ⟨?_, fun id x hsets => ?_, ?_⟩
  · by_cases hname : entry.name = kind.creation
    · obtain rfl : entry = .request (.create kind) := EntryPoint.name_injective hname
      obtain ⟨e, he⟩ := hrequest _ rfl rfl
      have hvalue := (s.call_request (.create kind) args).2
      rw [he] at hvalue
      show (_ && (s.call (Request.name (.create kind)) args).value.elim false _) = false
      rw [hvalue]
      exact Bool.and_false _
    · exact creates_of_name_ne hname
  · obtain ⟨request, args', v, ha, habout, hv⟩ := hsets.request
    obtain ⟨hname, rfl⟩ := Action.call.inj ha
    obtain rfl := @EntryPoint.name_injective entry (.request request) hname
    obtain ⟨e, he⟩ := hrequest request rfl habout
    rw [he] at hv
    exact absurd hv nofun
  · rintro id ⟨args', ha, hread⟩
    obtain ⟨hname, rfl⟩ := Action.call.inj ha
    exact hdestroy (EntryPoint.name_injective hname) id hread

theorem spares_unknown {s : Session} {kind : Kind} {name : String} {args : List Value}
    (h : EntryPoint.ofName? name = none) : s.Spares kind (.call name args) := by
  have hne : ∀ entry : EntryPoint, name ≠ entry.name := by
    rintro entry rfl
    rw [EntryPoint.ofName?_name] at h
    exact absurd h nofun
  refine ⟨creates_of_name_ne (hne (.request (.create kind))), fun id x hsets => ?_, ?_⟩
  · obtain ⟨request, args', v, ha, -, -⟩ := hsets.request
    exact hne (.request request) (Action.call.inj ha).1
  · rintro id ⟨args', ha, -⟩
    exact hne _ (Action.call.inj ha).1

theorem spares_setFailing (s : Session) (kind : Kind) (failing : Bool) :
    s.Spares kind (.setFailing failing) := ⟨rfl, nofun, nofun⟩

theorem entryOf?_setFailing (s : Session) (failing : Bool) (kind : Kind) :
    (s.setFailing failing).entryOf? kind = s.entryOf? kind := by
  unfold entryOf? setFailing
  cases s.renderer <;> rfl

theorem content?_setFailing (s : Session) (failing : Bool) (kind : Kind) :
    (s.setFailing failing).content? kind = s.content? kind := by
  unfold content? setFailing
  cases s.renderer with
  | none => rfl
  | some rt =>
    obtain ⟨_ | r, g⟩ := rt
    · rfl
    · exact Renderer.content?_same rfl (r.arena_setFailing failing kind)

/-! ### One action -/

/-- What an action that leaves the device in use does to the ids of a kind. -/
inductive Changed (s : Session) (a : Action) : Kind → Prop
  /-- The next id gets an entry and a content. -/
  | made {kind : Kind} {id : UInt32} {e : Entry kind} {n : Native} {x : Content kind}
      (hs : s.Sets kind id x a) (hc : s.creates kind a = true)
      (hv : (s.act a).value = some (Wrapper.make kind id)) (hid : id.toNat = s.issued kind + 1)
      (hi : (s.act a).state.issued kind = s.issued kind + 1) (hn : e.handle.native = some n)
      (he : (s.act a).state.entryOf? kind = Function.update (s.entryOf? kind) id (some e))
      (hx : (s.act a).state.content? kind = Function.update (s.content? kind) id (some x)) :
      Changed s a kind
  /-- A scene gets another content, of the same size. -/
  | remade {id : UInt32} {e : Entry .tlas} {x : Content .tlas} (hs : s.Sets .tlas id x a)
      (hc : s.creates .tlas a = false) (hi : (s.act a).state.issued .tlas = s.issued .tlas)
      (hid : s.entryOf? .tlas id = some e) (he : (s.act a).state.entryOf? .tlas = s.entryOf? .tlas)
      (hx : (s.act a).state.content? .tlas = Function.update (s.content? .tlas) id (some x)) :
      Changed s a .tlas
  /-- An id loses entry and content, if it has any. -/
  | destroyed {kind : Kind} {id : UInt32} (hd : a.Destroys kind id)
      (hc : s.creates kind a = false) (hi : (s.act a).state.issued kind = s.issued kind)
      (he : (s.act a).state.entryOf? kind = Function.update (s.entryOf? kind) id none)
      (hx : (s.act a).state.content? kind = Function.update (s.content? kind) id none) :
      Changed s a kind
  | kept {kind : Kind} (hs : s.Spares kind a)
      (hi : (s.act a).state.issued kind = s.issued kind)
      (he : (s.act a).state.entryOf? kind = s.entryOf? kind)
      (hx : (s.act a).state.content? kind = s.content? kind) : Changed s a kind

theorem Changed.same {s : Session} {a : Action} {kind : Kind} (hs : s.Spares kind a)
    (h : (s.act a).state = s) : s.Changed a kind := by
  refine Changed.kept hs ?_ ?_ ?_
  · rw [h]
  · rw [h]
  · rw [h]

/-- Where ledger and arena of a kind stay, so does what ids stand for. -/
theorem Changed.of_step {s : Session} {a : Action} {kind : Kind} {g g' : Registry}
    {r r' : Recorder} (hs : s.Spares kind a) (hr : s.renderer = some ⟨.recording r, g⟩)
    (ht : (s.act a).state.renderer = some ⟨.recording r', g'⟩)
    (hg : g'.ledger kind = g.ledger kind) (ha : r'.arena kind = r.arena kind) :
    s.Changed a kind := by
  refine Changed.kept hs ?_ ?_ ?_
  · rw [issued_of_renderer hr, issued_of_renderer ht, hg]
  · rw [entryOf?_of_renderer hr, entryOf?_of_renderer ht]
    funext id
    rw [Renderer.entryOf?_eq, Renderer.entryOf?_eq, hg]
  · rw [content?_of_renderer hr, content?_of_renderer ht]
    exact Renderer.content?_same hg ha

/-! ### Calls that destroy -/

theorem act_destroy (s : Session) (kind : Kind) (args : List Value) :
    (s.act (.call (EntryPoint.destroy kind).name args)).state =
      (s.destroy kind (argument args 0)).state :=
  (call_of_ofName? (EntryPoint.ofName?_name (.destroy kind)) args).1

theorem destroy_of_none {s : Session} (h : s.renderer = none) (kind : Kind) (wrapper : Value) :
    (s.destroy kind wrapper).state = s := by
  unfold destroy
  rw [h]

theorem destroy_of_some {s : Session} {rt : Renderer} (h : s.renderer = some rt) (kind : Kind)
    (wrapper : Value) :
    (s.destroy kind wrapper).state.renderer = some (rt.destroy kind wrapper).state := by
  unfold destroy
  rw [h]

theorem entryOf?_destroy {s : Session} {kind : Kind} {wrapper : Value} {id : UInt32}
    (hread : Wrapper.read kind wrapper = .ok id) :
    (s.destroy kind wrapper).state.entryOf? kind = Function.update (s.entryOf? kind) id none := by
  cases hs : s.renderer with
  | none =>
    have hnone : s.entryOf? kind id = none := by
      unfold entryOf?
      rw [hs]
      rfl
    rw [destroy_of_none hs]
    exact Function.eq_update_self_iff.2 hnone
  | some rt =>
    rw [entryOf?_of_renderer (destroy_of_some hs kind wrapper), entryOf?_of_renderer hs]
    exact Renderer.entryOf?_destroy hread

theorem content?_destroy {m : Kind → Nat} {s : Session} (hheld : s.RegistryHeld m)
    (hfew : ∀ kind, m kind + s.issued kind < 2 ^ 31) {kind : Kind} {wrapper : Value} {id : UInt32}
    (hread : Wrapper.read kind wrapper = .ok id) :
    (s.destroy kind wrapper).state.content? kind = Function.update (s.content? kind) id none := by
  cases hs : s.renderer with
  | none =>
    have hnone : s.content? kind id = none := by
      unfold content?
      rw [hs]
      rfl
    rw [destroy_of_none hs]
    exact Function.eq_update_self_iff.2 hnone
  | some rt =>
    rw [content?_of_renderer (destroy_of_some hs kind wrapper), content?_of_renderer hs]
    exact Renderer.content?_destroy (hheld rt hs) (few_of_renderer hs hfew) hread

/-- Destroying another kind, or what names nothing, changes nothing. -/
theorem destroy_of_other {s : Session} {kind k : Kind} {wrapper : Value}
    (h : kind ≠ k ∨ ∀ id, Wrapper.read k wrapper ≠ .ok id) :
    (s.destroy k wrapper).state.entryOf? kind = s.entryOf? kind ∧
      (s.destroy k wrapper).state.content? kind = s.content? kind := by
  cases hs : s.renderer with
  | none =>
    rw [destroy_of_none hs]
    exact ⟨rfl, rfl⟩
  | some rt =>
    have ht := destroy_of_some hs k wrapper
    rw [entryOf?_of_renderer ht, entryOf?_of_renderer hs, content?_of_renderer ht,
      content?_of_renderer hs]
    rcases h with hne | hread
    · exact Renderer.destroy_of_ne hne
    · rcases rt.destroy_cases k wrapper with ⟨hsame, -⟩ | ⟨id, e, hid, -, -⟩
      · rw [hsame]
        exact ⟨rfl, rfl⟩
      · exact absurd hid (hread id)

section One

variable {m : Kind → Nat} {s : Session} (hheld : s.RegistryHeld m)
  (hfew : ∀ kind, m kind + s.issued kind < 2 ^ 31)
include hheld hfew

theorem changed_destroy (kind k : Kind) (args : List Value) :
    s.Changed (.call (EntryPoint.destroy k).name args) kind := by
  have hstate := act_destroy s k args
  have hissued := s.issued_destroy k kind (argument args 0)
  rw [← hstate] at hissued
  -- the call is about `kind` only if it is the destruction of that kind and is given one of its ids
  by_cases hother : kind ≠ k ∨ ∀ id, Wrapper.read k (argument args 0) ≠ .ok id
  · have hspares : s.Spares kind (.call (EntryPoint.destroy k).name args) := by
      refine spares_call nofun fun hk id hread => ?_
      obtain rfl := EntryPoint.destroy.inj hk
      rcases hother with hne | hno
      · exact hne rfl
      · exact hno id hread
    obtain ⟨he, hx⟩ := destroy_of_other (s := s) hother
    rw [← hstate] at he hx
    exact Changed.kept hspares hissued he hx
  · obtain ⟨hk, hread⟩ := not_or.1 hother
    obtain rfl := not_not.1 hk
    obtain ⟨id, hread⟩ := not_forall_not.1 hread
    have hc : s.creates kind (.call (EntryPoint.destroy kind).name args) = false :=
      creates_of_name_ne (by cases kind <;> decide)
    have he := @entryOf?_destroy s kind _ id hread
    have hx := content?_destroy hheld hfew hread
    rw [← hstate] at he hx
    exact Changed.destroyed ⟨args, rfl, hread⟩ hc hissued he hx

/-- A creation that succeeds gives the next id of its kind an entry and a content. -/
theorem changed_created {kind : Kind} {args : List Value} {g : Registry} {r : Recorder}
    {source : Source kind} {n : Native} {id : UInt32} {t : Ledger (Entry kind)}
    (hr : s.renderer = some ⟨.recording r, g⟩)
    (ht : (s.act (.call (Request.name (.create kind)) args)).state.renderer =
      some ⟨.recording (r.perform (.create kind source)), g.withLedger kind t⟩)
    (hv : (s.attempt (.create kind) args).value = .ok (Wrapper.make kind id))
    (hs : g.readSource kind (argument args 0) = .ok source)
    (hn : r.mints kind (.create kind source) = some n)
    (hins : (g.ledger kind).insert (Entry.ofSource source ⟨some n, 0⟩).withId = some (id, t))
    (hlast : m kind + (g.ledger kind).issued + 1 < 2 ^ 31) :
    s.Changed (.call (Request.name (.create kind)) args) kind := by
  obtain ⟨x, hx, hcontent⟩ := ((hheld _ hr).heldWithin r rfl).content?_created
    (few_of_renderer hr hfew) ((g.reads_source kind _).1 source hs) hn hins hlast
  have hanswer := (s.call_create_iff kind args id).2 hv
  refine Changed.made (Sets.made hr hs hx hv) (s.creates_request rfl hv) hanswer ?_ ?_
    (e := (Entry.ofSource source ⟨some n, 0⟩).withId id) (n := n) ?_ ?_ ?_
  · rw [issued_of_renderer hr]
    exact Ledger.toNat_of_insert hins
  · rw [issued_of_renderer ht, issued_of_renderer hr, Registry.ledger_withLedger,
      Ledger.issued_insert hins]
  · rw [Entry.handle_withId, Entry.handle_ofSource]
    rfl
  · rw [entryOf?_of_renderer ht, entryOf?_of_renderer hr]
    funext other
    rw [Function.update_apply, Renderer.entryOf?_eq, Renderer.entryOf?_eq,
      Registry.ledger_withLedger, Ledger.get?_insert hins]
  · rw [content?_of_renderer ht, content?_of_renderer hr]
    exact hcontent

/-- An update that is carried out gives the scene that it names another content. -/
theorem changed_updated {args : List Value} {g : Registry} {r : Recorder} {scene : Handle .tlas}
    {instances : List Instance} (hr : s.renderer = some ⟨.recording r, g⟩)
    (ht : (s.act (.call (Request.name .updateTlas) args)).state.renderer =
      some ⟨.recording (r.perform (.updateTlas scene instances)), g⟩)
    (hv : (s.attempt .updateTlas args).value = .ok .undefined)
    (hu : g.readUpdate (argument args 0) (argument args 1) = .ok (scene, instances)) :
    s.Changed (.call (Request.name .updateTlas) args) .tlas := by
  obtain ⟨id, e, elements, hread, hid, rfl, -, -, hlen⟩ := Registry.readUpdate_eq_ok hu
  obtain ⟨-, -, -, -, -, hknown⟩ := (g.reads_update _ _).1 _ hu
  have hc : s.creates .tlas (.call (Request.name .updateTlas) args) = false :=
    creates_of_name_ne (by decide)
  refine Changed.remade (e := e) (Sets.remade hr hread hu hv) hc ?_ ?_ ?_ ?_
  · rw [issued_of_renderer hr, issued_of_renderer ht]
  · rw [entryOf?_of_renderer hr, Renderer.entryOf?_eq]
    exact hid
  · rw [entryOf?_of_renderer hr, entryOf?_of_renderer ht]
    rfl
  · rw [content?_of_renderer hr, content?_of_renderer ht]
    exact ((hheld _ hr).heldWithin r rfl).content?_updated (few_of_renderer hr hfew) hid hlen hknown

/-- What a request does: at most one creation or one update. -/
theorem changed_request (kind : Kind) (request : Request) (args : List Value)
    (hlast : ∀ k, m k + (s.act (.call request.name args)).state.issued k < 2 ^ 31) :
    s.Changed (.call request.name args) kind := by
  have hi : ∀ k, s.issued k + 1 < UInt32.size := fun k => Ledger.succ_lt_size_of_add (hfew k)
  -- a request that fails spares all kinds, and any request those that it is not about
  have hspares : ∀ e, (s.attempt request args).value = .error e →
      s.Spares kind (.call request.name args) := by
    intro e he
    refine @spares_call s kind (.request request) args (fun q hq _ => ?_) nofun
    obtain rfl := EntryPoint.request.inj hq
    exact ⟨e, he⟩
  have hother : ¬ request.About kind → s.Spares kind (.call request.name args) := by
    intro habout
    refine @spares_call s kind (.request request) args (fun q hq hq' => ?_) nofun
    obtain rfl := EntryPoint.request.inj hq
    exact absurd hq' habout
  obtain ⟨hcall, -⟩ := s.call_request request args
  rcases attempt_cases hi request args with hs | ⟨g, r, g', r', hr, hstate, hanswered⟩
  · rw [hs] at hcall hspares
    exact Changed.same (hspares _ rfl) hcall
  · rw [hstate] at hcall
    have ht : (s.act (.call request.name args)).state.renderer = some ⟨.recording r', g'⟩ := by
      show (s.call request.name args).state.renderer = _
      rw [hcall]
    generalize hv : (s.attempt request args).value = value at hanswered hspares
    cases hanswered with
    | failed he => exact Changed.of_step (hspares _ rfl) hr ht rfl rfl
    | refused hs hn =>
      refine Changed.of_step (hspares _ rfl) hr ht rfl ?_
      rw [Recorder.perform_of_mints_none hn, Recorder.arena_record]
    | @created k source n id t hs hn hins =>
      by_cases hk : kind = k
      · subst hk
        have hbound := hlast kind
        rw [issued_of_renderer ht, Registry.ledger_withLedger, Ledger.issued_insert hins]
          at hbound
        exact changed_created hheld hfew hr ht hv hs hn hins hbound
      · exact Changed.of_step (hother (Ne.symm hk)) hr ht
          (Registry.ledger_withLedger_of_ne g t hk) (Recorder.arena_create_of_ne r source hk)
    | @updated scene instances hu =>
      by_cases hk : kind = .tlas
      · subst hk
        exact changed_updated hheld hfew hr ht hv hu
      · exact Changed.of_step (hother hk) hr ht rfl (Recorder.arena_updateTlas_of_ne r _ _ hk)
    | traced htrace =>
      refine Changed.of_step (hother id) hr ht rfl ?_
      exact Recorder.arena_record r _ kind

/-- **What one action changes**, while the device stays in use. -/
theorem changed {a : Action} (ha : a.Lasts)
    (hlast : ∀ k, m k + (s.act a).state.issued k < 2 ^ 31) (kind : Kind) : s.Changed a kind := by
  cases a with
  | start device => exact absurd ha id
  | cleanup => exact absurd ha id
  | setFailing failing =>
    exact Changed.kept (s.spares_setFailing kind failing) (s.issued_setFailing failing kind)
      (s.entryOf?_setFailing failing kind) (s.content?_setFailing failing kind)
  | call name args =>
    cases hname : EntryPoint.ofName? name with
    | none => exact Changed.same (spares_unknown hname) (call_of_ofName?_none hname args).1
    | some entry =>
      obtain rfl := EntryPoint.ofName?_eq_some hname
      have hstate := (call_of_ofName? (s := s) hname args).1
      cases entry with
      | isSupported => exact Changed.same (spares_call nofun nofun) hstate
      | getBackend => exact Changed.same (spares_call nofun nofun) hstate
      | request request => exact changed_request hheld hfew kind request args hlast
      | destroy k => exact changed_destroy hheld hfew kind k args
      | cleanup => exact absurd rfl ha

end One

end Session

end ScriptedRays

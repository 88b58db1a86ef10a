import Mathlib.Data.List.Induction
import ScriptedRays.Proofs.Change

/-!
# Lifetime — runs in which one device stays in use

From the moment at which a device is taken into use, which need not be a new one, an id that was
issued keeps its entry until it is destroyed (`Lifetime.entry_stays`), and never gets another one
(`Lifetime.entry_gone`).  The content of an id is always that of the action that set it last
(`Lifetime.last_set`).
-/

namespace ScriptedRays

/-- At most `m` resources of each kind were put into the device in all its time. -/
def Device.Within (m : Kind → Nat) (d : Device) : Prop :=
  ∀ r, d = .recording r → ∀ kind, (r.arena kind).Within (m kind)

theorem Action.Destroys.unique {a : Action} {kind : Kind} {id other : UInt32}
    (h : a.Destroys kind id) (h' : a.Destroys kind other) : id = other := by
  obtain ⟨args, rfl, hread⟩ := h
  obtain ⟨args', ha, hread'⟩ := h'
  obtain rfl := (Action.call.inj ha).2
  exact Except.ok.inj (hread.symm.trans hread')

namespace Session

theorem entryOf?_issued {s : Session} {kind : Kind} {id : UInt32} {e : Entry kind}
    (h : s.entryOf? kind id = some e) : 0 < id.toNat ∧ id.toNat ≤ s.issued kind := by
  obtain ⟨rt, hs, he⟩ := Option.bind_eq_some_iff.1 h
  rw [Renderer.entryOf?_eq] at he
  rw [issued_of_renderer hs]
  exact Ledger.mem_issued (Ledger.get?_eq_some_iff.1 he)

/-! ### One action -/

namespace Changed

variable {s : Session} {a : Action} {kind : Kind} (h : s.Changed a kind) {id : UInt32}
include h

theorem issued : (s.act a).state.issued kind = s.issued kind + (s.creates kind a).toNat := by
  cases h with
  | made hs hc hv hid hi => rw [hi, hc]; rfl
  | remade hs hc hi => rw [hi, hc]; rfl
  | destroyed hd hc hi => rw [hi, hc]; rfl
  | kept hs hi => rw [hi, hs.creates]; rfl

theorem entry_stays {e : Entry kind} (he : s.entryOf? kind id = some e)
    (hd : ¬ a.Destroys kind id) : (s.act a).state.entryOf? kind id = some e := by
  cases h with
  | @made _ id' _ _ _ hs hc hv hid hi hn he' =>
    have hne : id ≠ id' := by
      rintro rfl
      have := (entryOf?_issued he).2
      omega
    rw [he', Function.update_of_ne hne, he]
  | remade hs hc hi hid he' => rw [he', he]
  | @destroyed _ id' hd' hc hi he' =>
    have hne : id ≠ id' := by
      rintro rfl
      exact hd hd'
    rw [he', Function.update_of_ne hne, he]
  | kept hs hi he' => rw [he', he]

theorem entry_gone (hid : id.toNat ≤ s.issued kind) (he : s.entryOf? kind id = none) :
    (s.act a).state.entryOf? kind id = none := by
  cases h with
  | @made _ id' _ _ _ hs hc hv hid' hi hn he' =>
    have hne : id ≠ id' := by
      rintro rfl
      omega
    rw [he', Function.update_of_ne hne, he]
  | remade hs hc hi hid he' => rw [he', he]
  | @destroyed _ id' hd' hc hi he' =>
    rw [he', Function.update_apply, he, ite_self]
  | kept hs hi he' => rw [he', he]

theorem entry_destroyed (hd : a.Destroys kind id) : (s.act a).state.entryOf? kind id = none := by
  cases h with
  | made hs => exact absurd hd (hs.not_destroys kind id)
  | remade hs => exact absurd hd (hs.not_destroys .tlas id)
  | destroyed hd' hc hi he' =>
    rw [he', hd.unique hd', Function.update_self]
  | kept hs => exact absurd hd (hs.destroys id)

/-- An action that leaves an id alone keeps its content. -/
theorem content_stays (hs : ∀ x, ¬ s.Sets kind id x a) (hd : ¬ a.Destroys kind id) :
    (s.act a).state.content? kind id = s.content? kind id := by
  cases h with
  | @made _ id' _ _ x hs' hc hv hid' hi hn he hx =>
    have hne : id ≠ id' := by
      rintro rfl
      exact hs x hs'
    rw [hx, Function.update_of_ne hne]
  | @remade id' _ x hs' hc hi hid he hx =>
    have hne : id ≠ id' := by
      rintro rfl
      exact hs x hs'
    rw [hx, Function.update_of_ne hne]
  | @destroyed _ id' hd' hc hi he hx =>
    have hne : id ≠ id' := by
      rintro rfl
      exact hd hd'
    rw [hx, Function.update_of_ne hne]
  | kept hs' hi he hx => rw [hx]

/-- Only a scene gets another content once it has one. -/
theorem not_sets (hk : kind ≠ .tlas) {e : Entry kind} (he : s.entryOf? kind id = some e)
    (x : Content kind) : ¬ s.Sets kind id x a := by
  intro hset
  cases h with
  | made hs hc hv hid =>
    obtain rfl := hset.unique hs
    have := (entryOf?_issued he).2
    omega
  | remade => exact hk rfl
  | destroyed hd => exact hset.not_destroys _ _ hd
  | kept hs => exact hs.sets id x hset

/-- Where an id has a content after an action, either the action set it, or the id had it before and
was left alone. -/
theorem content_cases {x : Content kind} (hx : (s.act a).state.content? kind id = some x) :
    s.Sets kind id x a ∨
      s.content? kind id = some x ∧ (∀ y, ¬ s.Sets kind id y a) ∧ ¬ a.Destroys kind id := by
  -- creations and updates both give one id its content and leave the others theirs
  have hset : ∀ id' x', s.Sets kind id' x' a →
      (s.act a).state.content? kind = Function.update (s.content? kind) id' (some x') →
      s.Sets kind id x a ∨
        s.content? kind id = some x ∧ (∀ y, ¬ s.Sets kind id y a) ∧ ¬ a.Destroys kind id := by
    intro id' x' hs hx'
    rw [hx'] at hx
    by_cases hid : id = id'
    · subst hid
      rw [Function.update_self] at hx
      rw [← Option.some.inj hx]
      exact Or.inl hs
    · rw [Function.update_of_ne hid] at hx
      exact Or.inr ⟨hx, fun y hy => hid (hy.unique hs), hs.not_destroys kind id⟩
  cases h with
  | made hs hc hv hid hi hn he hx' => exact hset _ _ hs hx'
  | remade hs hc hi hid he hx' => exact hset _ _ hs hx'
  | @destroyed _ id' hd hc hi he hx' =>
    rw [hx'] at hx
    by_cases hid : id = id'
    · subst hid
      rw [Function.update_self] at hx
      exact absurd hx nofun
    · rw [Function.update_of_ne hid] at hx
      exact Or.inr ⟨hx, fun y hy => hy.not_destroys kind id' hd, fun hd' => hid (hd'.unique hd)⟩
  | kept hs hi he hx' =>
    rw [hx'] at hx
    exact Or.inr ⟨hx, hs.sets id, hs.destroys id⟩

end Changed

/-! ### Runs -/

theorem acts_append (s : Session) (front back : List Action) :
    s.acts (front ++ back) = (s.acts front).acts back := List.foldl_append

theorem acts_concat (s : Session) (run : List Action) (a : Action) :
    s.acts (run ++ [a]) = ((s.acts run).act a).state := s.acts_append run [a]

theorem creations_append (kind : Kind) (s : Session) (front back : List Action) :
    creations kind s (front ++ back) =
      creations kind s front + creations kind (s.acts front) back := by
  induction front generalizing s with
  | nil => exact (Nat.zero_add _).symm
  | cons a rest ih =>
    show (s.creates kind a).toNat + creations kind (s.act a).state (rest ++ back) = _
    rw [ih, ← Nat.add_assoc]
    rfl

/-- At every action of a run something holds. -/
def Along (P : Session → Action → Prop) : Session → List Action → Prop
  | _, [] => True
  | s, a :: rest => P s a ∧ Along P (s.act a).state rest

theorem Along.mono {P Q : Session → Action → Prop} (hPQ : ∀ t a, P t a → Q t a) {s : Session}
    {run : List Action} (h : Along P s run) : Along Q s run := by
  induction run generalizing s with
  | nil => trivial
  | cons a rest ih => exact ⟨hPQ s a h.1, ih h.2⟩

theorem along_concat {P : Session → Action → Prop} {s : Session} {run : List Action} {a : Action}
    (h : Along P s run) (ha : P (s.acts run) a) : Along P s (run ++ [a]) := by
  induction run generalizing s with
  | nil => exact ⟨ha, trivial⟩
  | cons b rest ih => exact ⟨h.1, ih h.2 ha⟩

/-- A run on a device that stays in use and gets few enough resources. -/
structure Lifetime (m : Kind → Nat) (s : Session) (run : List Action) : Prop where
  registryHeld : s.RegistryHeld m
  lasts : ∀ a ∈ run, a.Lasts
  few : ∀ kind, m kind + s.issued kind + creations kind s run < 2 ^ 31

namespace Lifetime

variable {m : Kind → Nat} {s : Session} {run front back : List Action} {a : Action}

theorem now (l : Lifetime m s run) (kind : Kind) : m kind + s.issued kind < 2 ^ 31 :=
  Nat.lt_of_le_of_lt (Nat.le_add_right _ _) (l.few kind)

theorem ids_last (l : Lifetime m s run) (kind : Kind) : s.issued kind + 1 < UInt32.size :=
  Ledger.succ_lt_size_of_add (l.now kind)

theorem tail (l : Lifetime m s (a :: back)) : Lifetime m (s.act a).state back where
  registryHeld := by
    rcases renderer_cases l.ids_last a with
      ⟨hnone, -⟩ | ⟨device, rfl, -⟩ | ⟨rt, rt', hs, ht, hmoves⟩
    · intro rt hrt
      rw [hnone] at hrt
      exact absurd hrt nofun
    · exact absurd (l.lasts _ List.mem_cons_self) id
    · intro rt'' hrt
      obtain rfl : rt' = rt'' := Option.some.inj (ht.symm.trans hrt)
      exact (l.registryHeld rt hs).moves (few_of_renderer hs l.now) hmoves
  lasts b hb := l.lasts b (List.mem_cons_of_mem _ hb)
  few := (few_act_add l.few).2

theorem changed (l : Lifetime m s (a :: back)) (kind : Kind) : s.Changed a kind :=
  Session.changed l.registryHeld l.now (l.lasts a List.mem_cons_self) l.tail.now kind

theorem drop (l : Lifetime m s (front ++ back)) : Lifetime m (s.acts front) back := by
  induction front generalizing s with
  | nil => exact l
  | cons a rest ih => exact ih l.tail

theorem take (l : Lifetime m s (front ++ back)) : Lifetime m s front where
  registryHeld := l.registryHeld
  lasts a ha := l.lasts a (List.mem_append_left _ ha)
  few kind := by
    have hsum := l.few kind
    rw [creations_append] at hsum
    omega

theorem issued (l : Lifetime m s run) (kind : Kind) :
    (s.acts run).issued kind = s.issued kind + creations kind s run := by
  induction run generalizing s with
  | nil => rfl
  | cons a rest ih =>
    show ((s.act a).state.acts rest).issued kind =
      s.issued kind + ((s.creates kind a).toNat + creations kind (s.act a).state rest)
    rw [ih l.tail, (l.changed kind).issued, Nat.add_assoc]

/-- **An entry stays until it is destroyed.** -/
theorem entry_stays (l : Lifetime m s run) {kind : Kind} {id : UInt32} {e : Entry kind}
    (he : s.entryOf? kind id = some e) (hd : ∀ b ∈ run, ¬ b.Destroys kind id) :
    (s.acts run).entryOf? kind id = some e := by
  induction run generalizing s with
  | nil => exact he
  | cons a rest ih =>
    have hnow := (l.changed kind).entry_stays he (hd a List.mem_cons_self)
    exact ih l.tail hnow fun b hb => hd b (List.mem_cons_of_mem _ hb)

/-- **An id that was issued and has no entry never gets one again.** -/
theorem entry_gone (l : Lifetime m s run) {kind : Kind} {id : UInt32}
    (hid : id.toNat ≤ s.issued kind) (he : s.entryOf? kind id = none) :
    (s.acts run).entryOf? kind id = none := by
  induction run generalizing s with
  | nil => exact he
  | cons a rest ih =>
    have hnow : id.toNat ≤ (s.act a).state.issued kind := by
      rw [(l.changed kind).issued]
      exact Nat.le_add_right_of_le hid
    exact ih l.tail hnow ((l.changed kind).entry_gone hid he)

theorem entry_destroyed (l : Lifetime m s run) {kind : Kind} {id : UInt32}
    (hid : id.toNat ≤ s.issued kind) (hd : ∃ b ∈ run, b.Destroys kind id) :
    (s.acts run).entryOf? kind id = none := by
  induction run generalizing s with
  | nil => exact absurd hd.choose_spec.1 List.not_mem_nil
  | cons a rest ih =>
    have hnow : id.toNat ≤ (s.act a).state.issued kind := by
      rw [(l.changed kind).issued]
      exact Nat.le_add_right_of_le hid
    obtain ⟨b, hb, hbd⟩ := hd
    rcases List.mem_cons.1 hb with rfl | hb
    · exact l.tail.entry_gone hnow ((l.changed kind).entry_destroyed hbd)
    · exact ih l.tail hnow ⟨b, hb, hbd⟩

open Classical in
/-- Without creations an id loses its entry if it is destroyed, and keeps what it has otherwise. -/
theorem entryOf?_acts (l : Lifetime m s run) {kind : Kind} (hnone : creations kind s run = 0)
    (id : UInt32) : (s.acts run).entryOf? kind id =
      if ∃ b ∈ run, b.Destroys kind id then none else s.entryOf? kind id := by
  have hissued : (s.acts run).issued kind = s.issued kind := by
    rw [l.issued, hnone, Nat.add_zero]
  by_cases hid : id.toNat ≤ s.issued kind
  · split_ifs with hd
    · exact l.entry_destroyed hid hd
    · cases he : s.entryOf? kind id with
      | none => exact l.entry_gone hid he
      | some e => exact l.entry_stays he fun b hb hbd => hd ⟨b, hb, hbd⟩
  · have hfuture : ∀ t : Session, t.issued kind = s.issued kind → t.entryOf? kind id = none :=
      fun t ht => Option.eq_none_iff_forall_ne_some.2 fun e he =>
        hid (ht ▸ (entryOf?_issued he).2)
    rw [hfuture _ hissued, hfuture s rfl, ite_self]

/-- **What is no scene keeps its content** until it is destroyed. -/
theorem content_lasts (l : Lifetime m s run) {kind : Kind} (hk : kind ≠ .tlas) {id : UInt32}
    {e : Entry kind} (he : s.entryOf? kind id = some e) (hd : ∀ b ∈ run, ¬ b.Destroys kind id) :
    (s.acts run).content? kind id = s.content? kind id := by
  induction run generalizing s with
  | nil => rfl
  | cons a rest ih =>
    have hchanged := l.changed kind
    have hda := hd a List.mem_cons_self
    rw [← hchanged.content_stays (hchanged.not_sets hk he) hda]
    exact ih l.tail (hchanged.entry_stays he hda) fun b hb => hd b (List.mem_cons_of_mem _ hb)

/-- A recorder in use stays in use, and goes on to support what it did. -/
theorem exists_recording (l : Lifetime m s run) {r : Recorder} {g : Registry}
    (hs : s.renderer = some ⟨.recording r, g⟩) :
    ∃ r' g', (s.acts run).renderer = some ⟨.recording r', g'⟩ ∧ r'.supported = r.supported := by
  induction run generalizing s r g with
  | nil => exact ⟨r, g, hs, rfl⟩
  | cons a rest ih =>
    have ha := l.lasts a List.mem_cons_self
    rcases renderer_cases l.ids_last a with
      ⟨-, hnone⟩ | ⟨device, rfl, -⟩ | ⟨rt, rt', hrt, ht, hmoves⟩
    · exact absurd (hs.symm.trans (hnone ha)) nofun
    · exact absurd ha id
    · obtain rfl := Option.some.inj (hs.symm.trans hrt)
      cases hmoves with
      | recorded hstep =>
        rw [← hstep.supported]
        exact ih l.tail ht

/-- What is registered is there, a scene with as many instances as are told. -/
theorem exists_content (l : Lifetime m s run) {kind : Kind} {id : UInt32} {e : Entry kind}
    (he : s.entryOf? kind id = some e) :
    ∃ x, s.content? kind id = some x ∧ Content.instanceCount x = e.instances := by
  obtain ⟨rt, hs, -⟩ := Option.bind_eq_some_iff.1 he
  rw [entryOf?_of_renderer hs] at he
  rw [content?_of_renderer hs]
  exact (l.registryHeld rt hs).exists_content (few_of_renderer hs l.now) he

/-- **A content is that of the action that set it last.**  Where no id had one at first, each that
has one now got it from some action, and no later one set it or took it away. -/
theorem last_set (l : Lifetime m s run) {kind : Kind} {id : UInt32} {x : Content kind}
    (hnone : s.content? kind id = none) (hx : (s.acts run).content? kind id = some x) :
    ∃ front a back, run = front ++ a :: back ∧ (s.acts front).Sets kind id x a ∧
      Along (fun t b => (∀ y, ¬ t.Sets kind id y b) ∧ ¬ b.Destroys kind id)
        (s.acts (front ++ [a])) back := by
  -- from the end: the last action either gave the content or left what an earlier one gave
  induction run using List.reverseRecOn with
  | nil =>
    rw [show (s.acts []).content? kind id = none from hnone] at hx
    exact absurd hx nofun
  | append_singleton run c ih =>
    rw [acts_concat] at hx
    rcases (l.drop.changed kind).content_cases hx with hset | ⟨hbefore, hsets, hd⟩
    · exact ⟨run, c, [], rfl, hset, trivial⟩
    · obtain ⟨front, a, back, rfl, hset, halong⟩ := ih l.take hbefore
      refine ⟨front, a, back ++ [c], ?_, hset, along_concat halong ?_⟩
      · rw [List.append_assoc, List.cons_append]
      · rw [← acts_append, List.append_assoc]
        exact ⟨hsets, hd⟩

end Lifetime

/-! ### Devices taken into use -/

/-- The session with a device just taken into use, whatever was in use before. -/
def opened (s : Session) (device : Device) : Session := (s.start device).state

theorem issued_opened (s : Session) (device : Device) (kind : Kind) :
    (s.opened device).issued kind = 0 := s.issued_start device kind

theorem content?_opened (s : Session) (device : Device) (kind : Kind) (id : UInt32) :
    (s.opened device).content? kind id = none := by
  cases kind <;> cases device <;> rfl

/-- A device taken into use begins a lifetime. -/
theorem lifetime_opened (s : Session) {device : Device} {m : Kind → Nat}
    (hm : device.Within m) {run : List Action} (hlasts : ∀ a ∈ run, a.Lasts)
    (hfew : ∀ kind, m kind + creations kind (s.opened device) run < 2 ^ 31) :
    Lifetime m (s.opened device) run where
  registryHeld := by
    intro rt hrt
    obtain rfl : (⟨device, {}⟩ : Renderer) = rt := Option.some.inj hrt
    exact ⟨fun r hr => heldWithin_new (hm r hr), fun _ kind id => by cases kind <;> rfl⟩
  lasts := hlasts
  few kind := by
    rw [issued_opened, Nat.add_zero]
    exact hfew kind

end Session

/-! ### The sample run as a lifetime -/

theorem Device.within_fresh : Device.Within (fun _ => 0) (.recording .fresh) := by
  intro r hr kind
  obtain rfl := Device.recording.inj hr
  cases kind <;> exact Arena.within_empty

namespace Action

theorem sample_lasts : ∀ a ∈ sample, a.Lasts := by decide +kernel

theorem sample_lifetime_few (kind : Kind) :
    0 + Session.creations kind (({} : Session).opened (.recording .fresh)) sample < 2 ^ 31 := by
  rw [Nat.zero_add]
  exact sample_few kind

end Action

end ScriptedRays

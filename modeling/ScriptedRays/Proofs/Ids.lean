import ScriptedRays.Proofs.Lifetime

/-!
# Ids — which resource an id stands for, and for how long

While a device stays in use the creations of each kind get the ids one, two, three and so on; each
id stands for the resource it was given to until it is destroyed, and for nothing before and
afterwards (`ids_denote`).
-/

namespace ScriptedRays.Session

/-- The id resolves to an entry, and the device finds a resource by the native handle in it. -/
def Denotes (s : Session) (kind : Kind) (id : UInt32) (e : Entry kind) : Prop :=
  ∃ r g n, s.renderer = some ⟨.recording r, g⟩ ∧ g.resolve kind id = .ok e ∧
    (Entry.handle e).native = some n ∧ (r.find? kind (some n)).isSome = true

namespace Lifetime

variable {m : Kind → Nat} {s : Session} {run : List Action} (l : Lifetime m s run) {kind : Kind}
include l

theorem denotes {id : UInt32} {e : Entry kind} (he : s.entryOf? kind id = some e) :
    s.Denotes kind id e := by
  obtain ⟨rt, hs, hid⟩ := Option.bind_eq_some_iff.1 he
  rw [Renderer.entryOf?_eq] at hid
  have hheld := l.registryHeld rt hs
  obtain ⟨_ | r, g⟩ := rt
  · rw [hheld.empty rfl] at hid
    exact absurd hid nofun
  · have hwithin := hheld.heldWithin r rfl
    obtain ⟨n, x, hn, hx, -⟩ := hwithin.exists_item hid
    have hfew := few_of_renderer hs l.now kind
    refine ⟨r, g, n, hs, ?_, hn, ?_⟩
    · unfold Registry.resolve
      rw [hid]
    · unfold Recorder.find?
      rw [Arena.get?_of_mem ((hwithin.within kind).fits hfew) hx]
      rfl

end Lifetime

/-- **What ids stand for.**  On any device, from its start until it is given up, the next creation
of a kind gets the next id of that kind, whatever else is done; the id stands for one and the same
resource until a call destroys it, and for nothing from then on.  Zero and the ids not given out
yet stand for nothing. -/
theorem ids_denote (s : Session) {device : Device} {m : Kind → Nat} (hm : device.Within m)
    {run : List Action} (hlasts : ∀ a ∈ run, a.Lasts)
    (hfew : ∀ kind, m kind + creations kind (s.opened device) run < 2 ^ 31) :
    (∀ front a back kind, run = front ++ a :: back →
      ((s.opened device).acts front).creates kind a = true →
        ∃ id e, id.toNat = creations kind (s.opened device) front + 1 ∧
          (((s.opened device).acts front).act a).value = some (Wrapper.make kind id) ∧
          ∀ middle rest, back = middle ++ rest →
            ((∀ b ∈ middle, ¬ b.Destroys kind id) →
              ((s.opened device).acts (front ++ a :: middle)).Denotes kind id e) ∧
            ((∃ b ∈ middle, b.Destroys kind id) →
              ((s.opened device).acts (front ++ a :: middle)).entryOf? kind id = none)) ∧
    ∀ front back kind id, run = front ++ back →
      id = 0 ∨ creations kind (s.opened device) front < id.toNat →
        ((s.opened device).acts front).entryOf? kind id = none := by
  have l := s.lifetime_opened hm hlasts hfew
  refine ⟨?_, ?_⟩
  · rintro front a back kind rfl hc
    have hissued := l.take.issued kind
    rw [issued_opened, Nat.zero_add] at hissued
    have hchanged := l.drop.changed kind
    have ltail := l.drop.tail
    cases hchanged with
    | @made _ id e n x hs _ hv hid hi hn he =>
      rw [hissued] at hid
      have hnow := (congrFun he id).trans (Function.update_self ..)
      -- up to its first destruction the id keeps its entry; after it, it is not issued again
      refine ⟨id, e, hid, hv, ?_⟩
      rintro middle rest rfl
      rw [acts_append]
      refine ⟨fun hd => ?_, fun hd => ?_⟩
      · have lafter := ltail.drop
        exact lafter.denotes (ltail.take.entry_stays hnow hd)
      · exact ltail.take.entry_destroyed (by rw [hi, hissued]; omega) hd
    | remade _ hc' => exact absurd (hc.symm.trans hc') nofun
    | destroyed _ hc' => exact absurd (hc.symm.trans hc') nofun
    | kept hs => exact absurd (hc.symm.trans hs.creates) nofun
  · rintro front back kind id rfl hid
    have hissued := l.take.issued kind
    rw [issued_opened, Nat.zero_add] at hissued
    cases he : ((s.opened device).acts front).entryOf? kind id with
    | none => rfl
    | some e =>
      -- whatever has an entry was issued, and so lies between one and the number of creations
      obtain ⟨hpos, hle⟩ := entryOf?_issued he
      rcases hid with rfl | hlt
      · exact absurd hpos (Nat.lt_irrefl 0)
      · omega

theorem ids_denote_sample :
    ∃ id e, id.toNat = 1 ∧
      ((({} : Session).opened (.recording .fresh)).act
        (.call "createGeometry" [Action.triangle])).value = some (Wrapper.make .geometry id) ∧
      ((({} : Session).opened (.recording .fresh)).acts (Action.sample.take 7)).Denotes .geometry id
        e ∧
      ((({} : Session).opened (.recording .fresh)).acts Action.sample).entryOf? .geometry id =
        none := by
  obtain ⟨hdenote, -⟩ := ids_denote {} Device.within_fresh Action.sample_lasts
    Action.sample_lifetime_few
  obtain ⟨id, e, hid, hv, hmiddle⟩ := hdenote [] _ _ .geometry rfl (by decide +kernel)
  refine ⟨id, e, hid, hv, (hmiddle ((Action.sample.drop 1).take 6) (Action.sample.drop 7) rfl).1 ?_,
    (hmiddle (Action.sample.drop 1) [] rfl).2 ?_⟩
  · rintro b hb ⟨args, rfl, -⟩
    simp only [Action.sample, List.drop_succ_cons, List.drop_zero, List.take_succ_cons,
      List.take_zero, List.mem_cons, List.not_mem_nil, or_false] at hb
    rcases hb with h | h | h | h | h | h <;> simp [EntryPoint.name] at h
  · obtain rfl : id = 1 := UInt32.toNat_inj.1 hid
    refine ⟨.call "destroyGeometry" [Wrapper.make .geometry 1], ?_, _, rfl,
      Wrapper.read_make .geometry 1⟩
    simp [Action.sample]

end ScriptedRays.Session

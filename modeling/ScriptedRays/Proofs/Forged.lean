import ScriptedRays.Proofs.Refinement
import ScriptedRays.Proofs.HandleMap

/-!
# Forged — handles never alias, whatever handles are handed in

The handles that a recorder gives out for a kind all differ (`nodup_minted`), and what is seen of a
run is what is seen of a map that gives out the same (`FindsSame.run`).  So whatever handle a command
names, it hits the resource under the odd form and no other (`handles_never_alias`).
-/

namespace ScriptedRays

namespace Recorder

/-! ### Handles given out -/

section Within

variable {r : Recorder} {kind : Kind} {n : Nat} (w : (r.arena kind).Within n)
include w

theorem spent_of_mints (hn : n < 2 ^ 31) {c : Command} {h : Native} (hc : r.mints kind c = some h) :
    ¬ (r.arena kind).Spent h ∧ ((r.perform c).arena kind).Spent h := by
  rcases arena_moves r c kind with ⟨source, x, -, -, hmint, ha⟩ | ⟨hmint, -⟩ | ⟨hmint, -⟩
  · obtain rfl : ((r.arena kind).insert x).1 = h := Option.some.inj (hmint.symm.trans hc)
    refine ⟨Arena.not_spent_insert w hn x, ?_⟩
    rw [ha]
    exact Arena.spent_of_mem (Arena.mem_handles_of_mem (Arena.mem_insert.2 (Or.inl rfl)))
  · exact absurd (hmint.symm.trans hc) nofun
  · exact absurd (hmint.symm.trans hc) nofun

end Within

/-- The bound on what was put in, after one command of a run. -/
theorem exists_within {r : Recorder} {kind : Kind} {n : Nat} (w : (r.arena kind).Within n)
    {c : Command} {rest : List Command}
    (hfew : n + (minted kind r (c :: rest)).length < 2 ^ 31) :
    n < 2 ^ 31 ∧ ∃ k, ((r.perform c).arena kind).Within k ∧
      k + (minted kind (r.perform c) rest).length < 2 ^ 31 := by
  have hsplit : minted kind r (c :: rest) =
      (r.mints kind c).toList ++ minted kind (r.perform c) rest := rfl
  rw [hsplit, List.length_append] at hfew
  have hn : n < 2 ^ 31 := by omega
  exact ⟨hn, _, within_perform w hn c, by omega⟩

theorem exists_within_performAll {r : Recorder} {kind : Kind} {n : Nat}
    (w : (r.arena kind).Within n) {front back : List Command}
    (hfew : n + (minted kind r (front ++ back)).length < 2 ^ 31) :
    ∃ k, ((r.performAll front).arena kind).Within k ∧
      k + (minted kind (r.performAll front) back).length < 2 ^ 31 := by
  induction front generalizing r n with
  | nil => exact ⟨n, w, hfew⟩
  | cons c rest ih =>
    obtain ⟨-, k, w', hfew'⟩ := exists_within w hfew
    exact ih w' hfew'

/-- **Handles given out differ**, among each other and from all that were given out before. -/
theorem nodup_minted {r : Recorder} {kind : Kind} {n : Nat} (w : (r.arena kind).Within n)
    {cs : List Command} (hfew : n + (minted kind r cs).length < 2 ^ 31) :
    (minted kind r cs).Nodup ∧ ∀ h ∈ minted kind r cs, ¬ (r.arena kind).Spent h := by
  induction cs generalizing r n with
  | nil => exact ⟨List.nodup_nil, nofun⟩
  | cons c rest ih =>
    obtain ⟨hn, k, w', hfew'⟩ := exists_within w hfew
    obtain ⟨hnodup, hfresh⟩ := ih w' hfew'
    -- no handle is given out later that was in use at the beginning, for use is never undone
    have hold : ∀ h ∈ minted kind (r.perform c) rest, ¬ (r.arena kind).Spent h := fun h hin hs =>
      hfresh h hin (hs.mono (grows_perform w hn c))
    show ((r.mints kind c).toList ++ minted kind (r.perform c) rest).Nodup ∧
      ∀ h ∈ (r.mints kind c).toList ++ minted kind (r.perform c) rest, _
    cases hc : r.mints kind c with
    | none => exact ⟨hnodup, hold⟩
    | some new =>
      obtain ⟨hnot, hspent⟩ := spent_of_mints w hn hc
      refine ⟨List.nodup_cons.2 ⟨fun hin => hfresh new hin hspent, hnodup⟩, fun h hin => ?_⟩
      rcases List.mem_cons.1 hin with rfl | hin
      · exact hnot
      · exact hold h hin

theorem spent_performAll {r : Recorder} {kind : Kind} {n : Nat} (w : (r.arena kind).Within n)
    {cs : List Command} (hfew : n + (minted kind r cs).length < 2 ^ 31) {h : Native}
    (hh : (r.arena kind).Spent h ∨ h ∈ minted kind r cs) :
    ((r.performAll cs).arena kind).Spent h := by
  induction cs generalizing r n with
  | nil => exact hh.resolve_right List.not_mem_nil
  | cons c rest ih =>
    obtain ⟨hn, k, w', hfew'⟩ := exists_within w hfew
    refine ih w' hfew' ?_
    rcases hh with hs | hin
    · exact Or.inl (hs.mono (grows_perform w hn c))
    · rcases List.mem_append.1 hin with hc | hin
      · exact Or.inl (spent_of_mints w hn (Option.mem_toList.1 hc)).2
      · exact Or.inr hin

/-- A handle that was given out and finds nothing any more. -/
def Retired (r : Recorder) (kind : Kind) (h : Native) : Prop :=
  (r.arena kind).Spent h ∧ h ∉ (r.arena kind).handles

theorem Retired.perform {r : Recorder} {kind : Kind} {h : Native} (hr : r.Retired kind h) {n : Nat}
    (w : (r.arena kind).Within n) (hn : n < 2 ^ 31) (c : Command) :
    (r.perform c).Retired kind h := by
  refine ⟨hr.1.mono (grows_perform w hn c), fun hin => ?_⟩
  obtain ⟨x, hx⟩ := Arena.exists_of_mem_handles hin
  rcases arena_moves r c kind with ⟨source, y, -, -, -, ha⟩ | ⟨-, native, ha⟩ |
    ⟨-, native, f, ha⟩
  · rw [ha] at hx
    rcases Arena.mem_insert.1 hx with he | hx
    · exact Arena.not_spent_insert w hn y ((Prod.mk.inj he).1 ▸ hr.1)
    · exact hr.2 (Arena.mem_handles_of_mem hx)
  · rw [ha] at hx
    exact hr.2 (Arena.mem_handles_of_mem (((r.arena kind).sublist_erase native).subset hx))
  · rw [ha, Arena.handles_update_of_fits (w.fits hn)] at hin
    exact hr.2 hin

theorem Retired.performAll {r : Recorder} {kind : Kind} {h : Native} (hr : r.Retired kind h)
    {n : Nat} (w : (r.arena kind).Within n) {cs : List Command}
    (hfew : n + (minted kind r cs).length < 2 ^ 31) : (r.performAll cs).Retired kind h := by
  induction cs generalizing r n with
  | nil => exact hr
  | cons c rest ih =>
    obtain ⟨hn, k, w', hfew'⟩ := exists_within w hfew
    exact ih (hr.perform w hn c) w' hfew'

end Recorder

/-- **All commands of a run.**  The same is seen of them on a recorder and on a map that still has the
handles that the recorder is to give out. -/
theorem FindsSame.run {r : Recorder} {v : HandleMap} (h : FindsSame r v) {n : Kind → Nat}
    (w : ∀ kind, (r.arena kind).Within (n kind)) {cs : List Command}
    (hfew : ∀ kind, n kind + (Recorder.minted kind r cs).length < 2 ^ 31)
    (hunused : ∀ kind, v.unused kind = Recorder.minted kind r cs) :
    answers Recorder.step r cs = answers HandleMap.step v cs := by
  induction cs generalizing r v n with
  | nil => rfl
  | cons c rest ih =>
    choose hn k w' hfew' using fun kind => Recorder.exists_within (w kind) (hfew kind)
    have hr : r.InRange := fun kind => (w kind).fits (hn kind)
    have hr' : (r.perform c).InRange := fun kind =>
      (w' kind).fits (Nat.lt_of_le_of_lt (Nat.le_add_right _ _) (hfew' kind))
    obtain ⟨hsight, hfinds, hrest⟩ := h.step hr hr' hunused
    exact congrArg₂ List.cons hsight (ih hfinds w' hfew' (congrFun hrest))

namespace Recorder

/-- A device to begin with, with nothing on it. -/
def blank (supported : Bool) : Recorder := { supported }

theorem within_blank (supported : Bool) (kind : Kind) : ((blank supported).arena kind).Within 0 := by
  cases kind <;> exact Arena.within_empty

theorem find?_blank (supported : Bool) (kind : Kind) (native : Option Native) :
    (blank supported).find? kind native = none := by
  have hempty : ((blank supported).arena kind).toList = [] := by cases kind <;> rfl
  cases native with
  | none => rfl
  | some n =>
    refine Option.eq_none_iff_forall_not_mem.2 fun x hx => ?_
    have hin := (Arena.get?_eq_some_iff ((within_blank supported kind).fits (by decide))).1 hx
    rw [hempty] at hin
    exact absurd hin List.not_mem_nil

/-- What a handle finds is destroyed with its resource, and is never found again. -/
theorem find?_after_destroy {r : Recorder} {kind : Kind} {k : Nat} (w : (r.arena kind).Within k)
    {front back : List Command} {handle : Handle kind}
    (hfew : k + (minted kind r (front ++ .destroy kind handle :: back)).length < 2 ^ 31)
    {n : Native} (hn : handle.native = some n) (hin : n.odd ∈ minted kind r front) {m : Native}
    (hm : m.odd = n.odd) :
    (r.performAll (front ++ .destroy kind handle :: back)).find? kind (some m) = none := by
  have hfront : k + (minted kind r front).length < 2 ^ 31 := by
    rw [minted_append, List.length_append] at hfew
    omega
  obtain ⟨i, wi, hfewi⟩ := exists_within_performAll w hfew
  obtain ⟨hi, j, wj, hfewj⟩ := exists_within wi hfewi
  have hfits : ((r.performAll front).arena kind).Fits := wi.fits hi
  have harena : (((r.performAll front).perform (.destroy kind handle)).arena kind) =
      ((r.performAll front).arena kind).erase (some n) := by
    rw [arena_destroy, hn]
  -- the handle was given out before and is not present: so it stays for the rest of the run
  have hretired : ((r.performAll front).perform (.destroy kind handle)).Retired kind n.odd := by
    refine ⟨(spent_performAll w hfront (Or.inr hin)).mono (grows_perform wi hi _), fun hmem => ?_⟩
    obtain ⟨x, hx⟩ := Arena.exists_of_mem_handles hmem
    rw [harena, ← Arena.get?_eq_some_iff (hfits.erase _), Arena.get?_erase hfits, if_pos rfl] at hx
    exact absurd hx nofun
  rw [performAll_append]
  have hafter := hretired.performAll wj hfewj
  have hall : j + (minted kind ((r.performAll front).perform (.destroy kind handle))
      (back ++ [])).length < 2 ^ 31 := by
    rw [List.append_nil]
    exact hfewj
  obtain ⟨l, wl, hfewl⟩ := exists_within_performAll wj hall
  refine Option.eq_none_iff_forall_not_mem.2 fun x hx => hafter.2 ?_
  have hfound := (Arena.get?_eq_some_iff (wl.fits hfewl)).1 hx
  rw [hm] at hfound
  exact Arena.mem_handles_of_mem hfound

/-- **Handles never alias.**  Whatever commands a recorder gets, with whatever handles in them: the
handles that it gives out for a kind all differ, and it is seen to do what a map from these handles
does, in which each handle hits the resource under its odd form.  So a resource that is destroyed is
never found again, under no handle at all, although its slot is used again. -/
theorem handles_never_alias (supported : Bool) (cs : List Command)
    (hfew : ∀ kind, (minted kind (blank supported) cs).length < 2 ^ 31) :
    (∀ kind, (minted kind (blank supported) cs).Nodup) ∧
    answers step (blank supported) cs =
      answers HandleMap.step { supported, unused := fun kind => minted kind (blank supported) cs } cs ∧
    (∀ front kind handle back n, cs = front ++ .destroy kind handle :: back →
      handle.native = some n → n.odd ∈ minted kind (blank supported) front →
      ∀ m, m.odd = n.odd → ((blank supported).performAll cs).find? kind (some m) = none) := by
  have hfew' : ∀ kind, 0 + (minted kind (blank supported) cs).length < 2 ^ 31 := fun kind => by
    rw [Nat.zero_add]
    exact hfew kind
  refine ⟨fun kind => (nodup_minted (within_blank supported kind) (hfew' kind)).1, ?_, ?_⟩
  · have hfinds : FindsSame (blank supported)
        { supported, unused := fun kind => minted kind (blank supported) cs } := by
      refine ⟨rfl, rfl, ?_⟩
      funext kind native
      rw [find?_blank]
      cases native <;> rfl
    exact hfinds.run (within_blank supported) hfew' fun _ => rfl
  · rintro front kind handle back n rfl hn hin m hm
    exact find?_after_destroy (within_blank supported kind) (hfew' kind) hn hin hm

/-- One vertex. -/
def point : Mesh where
  vertices := Bytes.ofWords [0, 0, 0]
  vertexCount := 1
  stride := Mesh.defaultStride
  offset := Mesh.defaultOffset
  indices := none
  indexCount := 0

/-- A handle made up: the first slot in a use that there never is, for versions are odd. -/
def forged {kind : Kind} : Handle kind := ⟨some HandleMap.spare, 0⟩

/-- What the first creation of a kind gives. -/
def first {kind : Kind} : Handle kind := ⟨some ⟨0x100000001, by decide⟩, 0⟩

/-- A geometry is used and destroyed by a made up handle; then its slot is used again, and the stale
handle hits nothing. -/
def forgeries : List Command :=
  [.create .geometry point, .create .blas [forged], .destroy .geometry forged,
    .create .geometry point, .create .blas [first], .destroy .geometry first,
    .create .tlas [{ blas := forged }], .updateTlas forged [{ blas := forged, mask := 1 }]]

theorem length_minted_forgeries (kind : Kind) :
    (minted kind (blank true) forgeries).length < 2 ^ 31 := by
  cases kind <;> decide +kernel

theorem handles_never_alias_forgeries :
    (∀ kind, (minted kind (blank true) forgeries).length < 2 ^ 31) ∧
    minted .geometry (blank true) forgeries =
      [⟨0x100000001, by decide⟩, ⟨0x300000001, by decide⟩] ∧
    (minted .geometry (blank true) forgeries).Nodup ∧
    ((blank true).performAll forgeries).find? .geometry (some ⟨1, by decide⟩) = none :=
  ⟨length_minted_forgeries, by decide +kernel,
    (handles_never_alias true forgeries length_minted_forgeries).1 .geometry,
    (handles_never_alias true forgeries length_minted_forgeries).2.2
      [.create .geometry point, .create .blas [forged]] .geometry forged _ _ rfl rfl
      (by decide +kernel) _ rfl⟩

end Recorder

end ScriptedRays

import Mathlib.Data.List.Induction
import ScriptedRays.Proofs.Recorder

/-!
# Account — every handle that a device gives out

After valid commands each handle given out for a kind either was destroyed, once, or belongs to a
resource that is present (`Accounted.performAll`).  So the history of a new device tells of every
resource it holds where it was created (`exists_creation`).
-/

namespace ScriptedRays.Recorder

/-! ### The account of a kind -/

/-- The account of a kind after handles `m` were given out: they differ, and each of them either was
destroyed, once, or belongs to a resource that is present. -/
structure Accounted (r : Recorder) (kind : Kind) (m : List Native) : Prop where
  within : (r.arena kind).Within m.length
  nodup : m.Nodup
  spent : ∀ n ∈ m, (r.arena kind).Spent n
  balance : (r.destroyed kind ++ (r.arena kind).handles.map some).Perm (m.map some)

theorem accounted_fresh (kind : Kind) : fresh.Accounted kind [] where
  within := by cases kind <;> exact Arena.within_empty
  nodup := List.nodup_nil
  spent := by simp
  balance := by cases kind <;> exact List.Perm.refl _

theorem Accounted.perform {r : Recorder} {kind : Kind} {m : List Native} {c : Command}
    (h : r.Accounted kind m) (hm : m.length < 2 ^ 31) (hv : r.Valid c) :
    (r.perform c).Accounted kind (m ++ (r.mints kind c).toList) := by
  have hdest := destroyed_of_history kind (history_perform r c)
  have hwithin := within_perform h.within hm c
  rw [← List.length_append] at hwithin
  have hspent : ∀ n ∈ m, ((r.perform c).arena kind).Spent n := fun n hn =>
    (h.spent n hn).mono (grows_perform h.within hm c)
  rcases arena_perform_cases hv kind with ⟨source, x, rfl, -, hmint, ha⟩ |
    ⟨handle, n, x, rfl, hn, hx, ha⟩ | ⟨hmint, hc, hsame⟩
  -- a creation: one more handle was given out, and it is present
  · have hc : (Command.create kind source).call?.bind (Call.destroyed? kind) = none := by
      cases kind <;> rfl
    have hperm := (Arena.perm_insert (r.arena kind) x).map Prod.fst
    rw [hmint, Option.toList_some] at hwithin ⊢
    refine ⟨hwithin, ?_, ?_, ?_⟩
    · refine List.nodup_append.2 ⟨h.nodup, List.nodup_singleton _, ?_⟩
      rintro n hn _ hs rfl
      rw [List.mem_singleton.1 hs] at hn
      exact Arena.not_spent_insert h.within hm x (h.spent _ hn)
    · intro n hn
      rcases List.mem_append.1 hn with hn | hn
      · exact hspent n hn
      · rw [List.mem_singleton.1 hn, ha]
        exact Arena.spent_of_mem (hperm.mem_iff.2 List.mem_cons_self)
    · rw [hdest, hc, Option.toList_none, List.append_nil, ha, List.map_append]
      refine (List.Perm.append_left _ (hperm.map some)).trans ?_
      refine List.perm_middle.trans ((List.Perm.cons _ h.balance).trans ?_)
      exact List.perm_append_singleton _ _ |>.symm
  -- a destruction: a handle that was present is among the destroyed ones
  · have hc : (Command.destroy kind handle).call?.bind (Call.destroyed? kind) =
        some (some n) := by
      show (if kind = kind then some handle.native else none) = _
      rw [if_pos rfl, hn]
    have hperm := (Arena.perm_erase (h.within.fits hm) hx).map Prod.fst
    rw [show r.mints kind (.destroy kind handle) = none from rfl, Option.toList_none,
      List.append_nil] at hwithin ⊢
    refine ⟨hwithin, h.nodup, hspent, ?_⟩
    rw [hdest, hc, Option.toList_some, ha, List.append_assoc]
    exact (List.Perm.append_left _ (hperm.map some).symm).trans h.balance
  -- anything else gives out no handle and takes none away
  · rw [hmint, Option.toList_none, List.append_nil] at hwithin ⊢
    refine ⟨hwithin, h.nodup, hspent, ?_⟩
    rw [hdest, hc, Option.toList_none, List.append_nil]
    rcases hsame with ha | ⟨n, x, f, hx, -, ha⟩
    · rw [ha]
      exact h.balance
    · rw [ha, Arena.handles_update (h.within.fits hm) hx f]
      exact h.balance

/-- **The account of a run.**  Whatever commands that make sense a device carries out, every handle
given out for a kind is destroyed exactly once or still belongs to a resource. -/
theorem Accounted.performAll {r : Recorder} {kind : Kind} {m : List Native} {cs : List Command}
    (h : r.Accounted kind m) (hv : r.ValidRun cs)
    (hm : (m ++ minted kind r cs).length < 2 ^ 31) :
    (r.performAll cs).Accounted kind (m ++ minted kind r cs) := by
  induction cs generalizing r m with
  | nil =>
    show r.Accounted kind (m ++ [])
    rw [List.append_nil]
    exact h
  | cons c rest ih =>
    have hsplit : m ++ minted kind r (c :: rest) =
        m ++ (r.mints kind c).toList ++ minted kind (r.perform c) rest :=
      (List.append_assoc _ _ _).symm
    rw [hsplit] at hm ⊢
    refine ih (h.perform ?_ hv.1) hv.2 hm
    rw [List.length_append, List.length_append] at hm
    omega

/-! ### Histories of a new device -/

section Replay

variable {cs : List Command} (hv : fresh.ValidRun cs)
  (hm : ∀ kind, (minted kind fresh cs).length < 2 ^ 31)
include hv hm

theorem accounted_replay (kind : Kind) :
    (fresh.performAll cs).Accounted kind (minted kind fresh cs) :=
  (accounted_fresh kind).performAll hv (hm kind)

theorem inRange_replay : (fresh.performAll cs).InRange :=
  fun kind => (accounted_replay hv hm kind).within.fits (hm kind)

end Replay

theorem length_minted_le (kind : Kind) (r : Recorder) (cs ds : List Command) :
    (minted kind r cs).length ≤ (minted kind r (cs ++ ds)).length := by
  rw [minted_append, List.length_append]
  exact Nat.le_add_right _ _

/-- A history that makes sense does so up to each of its commands. -/
theorem replay_prefix {front back : List Command} {c : Command}
    (hv : fresh.ValidRun (front ++ c :: back))
    (hm : ∀ kind, (minted kind fresh (front ++ c :: back)).length < 2 ^ 31) :
    fresh.ValidRun front ∧ (fresh.performAll front).Valid c ∧
      ∀ kind, (minted kind fresh front).length < 2 ^ 31 := by
  obtain ⟨hfront, hc, -⟩ := (validRun_append fresh front (c :: back)).1 hv
  refine ⟨hfront, hc, ?_⟩
  intro kind
  exact Nat.lt_of_le_of_lt (length_minted_le kind fresh front (c :: back)) (hm kind)

/-- A resource that is held was created in the history, from as many instances as it has now. -/
theorem exists_creation {cs : List Command} (hv : fresh.ValidRun cs)
    (hm : ∀ kind, (minted kind fresh cs).length < 2 ^ 31) {kind : Kind} {n : Native} {k : Nat}
    (hin : (some n, k) ∈ (fresh.performAll cs).holdings kind) :
    ∃ front source back, cs = front ++ Command.create kind source :: back ∧
      (fresh.performAll front).mints kind (.create kind source) = some n ∧
      source.instanceCount = k := by
  induction cs using List.reverseRecOn with
  | nil =>
    obtain ⟨n, x, -, hx, -⟩ := mem_holdings.1 hin
    cases kind <;> exact absurd hx List.not_mem_nil
  | append_singleton cs c ih =>
    obtain ⟨hvcs, hvc, hm'⟩ := replay_prefix hv hm
    have hr := inRange_replay hvcs hm'
    -- what was held before the last command
    have hold : (some n, k) ∈ (fresh.performAll cs).holdings kind →
        ∃ front source back, cs ++ [c] = front ++ Command.create kind source :: back ∧
          (fresh.performAll front).mints kind (.create kind source) = some n ∧
          source.instanceCount = k := by
      intro hin'
      obtain ⟨front, source, back, rfl, hmint, hk⟩ := ih hvcs hm' hin'
      exact ⟨front, source, back ++ [c], by rw [List.append_assoc, List.cons_append], hmint, hk⟩
    rw [performAll_append] at hin
    by_cases hgone : ∃ handle, c = .destroy kind handle
    · obtain ⟨handle, rfl⟩ := hgone
      obtain ⟨h, hn, hheld⟩ := hvc
      obtain ⟨x, hx⟩ := Arena.exists_of_mem_handles hheld
      obtain ⟨hperm, -⟩ := holdings_destroy hr (mem_holdings.2 ⟨h, x, hn, hx, rfl⟩)
      exact hold (hperm.mem_iff.2 (List.mem_cons_of_mem _ hin))
    · cases hmint : (fresh.performAll cs).mints kind c with
      | none => exact hold (holdings_perform hr hvc hmint (not_exists.1 hgone) ▸ hin)
      | some n' =>
        obtain ⟨source, rfl⟩ := eq_create_of_mints hmint
        rcases List.mem_cons.1 ((holdings_create hmint).1.mem_iff.1 hin) with he | hin'
        · obtain ⟨hn, rfl⟩ := Prod.mk.inj he
          obtain rfl := Option.some.inj hn
          exact ⟨cs, source, [], rfl, hmint, rfl⟩
        · exact hold hin'

end ScriptedRays.Recorder

import Mathlib.Data.List.Basic
import ScriptedRays.Resource.Error

/-!
# Checks — requests fail at the first thing that is wrong

What a reader checks is a list of faults, in order; a fault is a property of the errors that tell of
it.  A reader is `Checked` for such a list if it succeeds where none of the faults is there, and tells
of the first that is there where one is.  The rules for `Checked` follow the ways in which readers are
put together; what is read is told beside it, as a property.
-/

namespace ScriptedRays

/-- The fault that is there if something holds, and that one error tells of. -/
def Fault (p : Prop) (told e : Error) : Prop := p ∧ e = told

namespace Fault

variable {p : Prop} {told : Error}

theorem absent (h : ¬ p) (e : Error) : ¬ Fault p told e := fun he => h he.1

theorem unique {e e' : Error} (h : Fault p told e) (h' : Fault p told e') : e = e' :=
  h.2.trans h'.2.symm

end Fault

/-- The error tells of the first element of a list that has a fault; what the fault is of an element
may depend on its place. -/
inductive FirstAmong {α : Type} (fault : Nat → α → Error → Prop) (l : List α) (e : Error) : Prop
  | found {i : Nat} {a : α} (ha : l[i]? = some a) (h : fault i a e)
      (hbefore : ∀ j b, j < i → l[j]? = some b → ∀ e', ¬ fault j b e') : FirstAmong fault l e

namespace FirstAmong

variable {α : Type} {fault : Nat → α → Error → Prop} {l : List α} {e e' : Error}

theorem absent (h : ∀ i a, l[i]? = some a → ∀ e, ¬ fault i a e) (e : Error) :
    ¬ FirstAmong fault l e := by
  rintro ⟨ha, he, -⟩
  exact h _ _ ha e he

theorem unique (hfault : ∀ i a e e', fault i a e → fault i a e' → e = e')
    (h : FirstAmong fault l e) (h' : FirstAmong fault l e') : e = e' := by
  obtain ⟨ha, he, hbefore⟩ := h
  obtain ⟨ha', he', hbefore'⟩ := h'
  next i a i' a' =>
    have hplaces : i = i' := by
      rcases Nat.lt_trichotomy i i' with hlt | heq | hlt
      · exact absurd he (hbefore' _ _ hlt ha e)
      · exact heq
      · exact absurd he' (hbefore _ _ hlt ha' e')
    subst hplaces
    obtain rfl := Option.some.inj (ha.symm.trans ha')
    exact hfault _ _ _ _ he he'

end FirstAmong

/-- The error tells of the first fault in a list that is there. -/
inductive FirstFault : List (Error → Prop) → Error → Prop
  | here {fault : Error → Prop} {later : List (Error → Prop)} {e : Error} (h : fault e) :
      FirstFault (fault :: later) e
  | later {fault : Error → Prop} {later : List (Error → Prop)} {e : Error}
      (hnone : ∀ e', ¬ fault e') (h : FirstFault later e) : FirstFault (fault :: later) e

/-- None of the faults in a list is there. -/
def Faultless (faults : List (Error → Prop)) : Prop := ∀ fault ∈ faults, ∀ e, ¬ fault e

namespace FirstFault

variable {faults later : List (Error → Prop)} {e e' : Error}

theorem append_left (h : FirstFault faults e) (later : List (Error → Prop)) :
    FirstFault (faults ++ later) e := by
  induction h with
  | here h => exact here h
  | later hnone _ ih => exact FirstFault.later hnone ih

theorem append_right (hnone : Faultless faults) (h : FirstFault later e) :
    FirstFault (faults ++ later) e := by
  induction faults with
  | nil => exact h
  | cons fault rest ih =>
    have hrest : Faultless rest := fun f hf => hnone f (List.mem_cons_of_mem _ hf)
    exact FirstFault.later (hnone fault List.mem_cons_self) (ih hrest)

/-- The error tells of one of the faults. -/
theorem exists_mem (h : FirstFault faults e) : ∃ fault ∈ faults, fault e := by
  induction h with
  | here h => exact ⟨_, List.mem_cons_self, h⟩
  | later _ _ ih =>
    obtain ⟨fault, hmem, h⟩ := ih
    exact ⟨fault, List.mem_cons_of_mem _ hmem, h⟩

theorem not_faultless (h : FirstFault faults e) : ¬ Faultless faults := by
  intro hnone
  induction h with
  | here h => exact hnone _ List.mem_cons_self _ h
  | later _ _ ih => exact ih fun f hf => hnone f (List.mem_cons_of_mem _ hf)

/-- Where no fault can be told of in two ways, neither can the first. -/
theorem unique (hfaults : ∀ fault ∈ faults, ∀ e e', fault e → fault e' → e = e')
    (h : FirstFault faults e) (h' : FirstFault faults e') : e = e' := by
  induction h with
  | here h =>
    cases h' with
    | here h' => exact hfaults _ List.mem_cons_self _ _ h h'
    | later hnone _ => exact absurd h (hnone _)
  | later hnone _ ih =>
    cases h' with
    | here h' => exact absurd h' (hnone _)
    | later _ h' => exact ih (fun f hf => hfaults f (List.mem_cons_of_mem _ hf)) h'

end FirstFault

/-- What is read has a property and none of the faults is there, or else the failure tells of the
first that is. -/
structure Checked {α : Type} (x : Except Error α) (faults : List (Error → Prop)) (P : α → Prop) :
    Prop where
  ok : ∀ a, x = .ok a → P a ∧ Faultless faults
  error : ∀ e, x = .error e → FirstFault faults e

namespace Checked

variable {α β : Type} {x : Except Error α} {faults later : List (Error → Prop)} {P : α → Prop}
  {Q : β → Prop}

theorem pure {a : α} (h : P a) : Checked (.ok a) [] P where
  ok _ ha := ⟨Except.ok.inj ha ▸ h, nofun⟩
  error _ he := absurd he nofun

theorem mono {R : α → Prop} (hx : Checked x faults P) (h : ∀ a, P a → R a) :
    Checked x faults R where
  ok a ha := ⟨h a (hx.ok a ha).1, (hx.ok a ha).2⟩
  error := hx.error

theorem self (hx : Checked x faults P) : Checked x faults fun a => x = .ok a ∧ P a where
  ok a ha := ⟨⟨ha, (hx.ok a ha).1⟩, (hx.ok a ha).2⟩
  error := hx.error

theorem fail {fault : Error → Prop} {e : Error} (h : fault e) :
    Checked (.error e : Except Error α) (fault :: faults) P where
  ok _ ha := absurd ha nofun
  error _ he := Except.error.inj he ▸ FirstFault.here h

theorem skip {fault : Error → Prop} (h : ∀ e, ¬ fault e) (hx : Checked x faults P) :
    Checked x (fault :: faults) P where
  ok a ha := ⟨(hx.ok a ha).1, List.forall_mem_cons.2 ⟨h, (hx.ok a ha).2⟩⟩
  error e he := FirstFault.later h (hx.error e he)

/-- One check, by itself. -/
theorem guard {p : Prop} [Decidable p] {told : Error} (hx : ¬ p → Checked x faults P) :
    Checked (if p then .error told else x) (Fault p told :: faults) P := by
  by_cases hp : p
  · rw [if_pos hp]
    exact fail ⟨hp, rfl⟩
  · rw [if_neg hp]
    exact skip (Fault.absent hp) (hx hp)

theorem bind {f : α → Except Error β} (hx : Checked x faults P)
    (hf : ∀ a, P a → Checked (f a) later Q) : Checked (x >>= f) (faults ++ later) Q := by
  cases x with
  | error e =>
    refine ⟨nofun, fun e' he => ?_⟩
    obtain rfl := Except.error.inj he
    exact (hx.error e rfl).append_left later
  | ok a =>
    obtain ⟨hP, hnone⟩ := hx.ok a rfl
    have hfa := hf a hP
    refine ⟨fun b hb => ?_, fun e he => FirstFault.append_right hnone (hfa.error e he)⟩
    obtain ⟨hQ, hlater⟩ := hfa.ok b hb
    refine ⟨hQ, fun fault hfault => ?_⟩
    rcases List.mem_append.1 hfault with h | h
    · exact hnone fault h
    · exact hlater fault h

/-- One check, made by a reader of its own. -/
theorem bind_cons {fault : Error → Prop} {f : α → Except Error β} (hx : Checked x [fault] P)
    (hf : ∀ a, P a → Checked (f a) later Q) : Checked (x >>= f) (fault :: later) Q := hx.bind hf

/-- What follows may have nothing more to check. -/
theorem bind_nil {f : α → Except Error β} (hx : Checked x faults P)
    (hf : ∀ a, P a → Checked (f a) [] Q) : Checked (x >>= f) faults Q := by
  have h := hx.bind hf
  rw [List.append_nil] at h
  exact h

theorem map {f : α → β} (hx : Checked x faults P) (hf : ∀ a, P a → Q (f a)) :
    Checked (x.map f) faults Q := by
  cases x with
  | error e =>
    refine ⟨nofun, fun e' he => ?_⟩
    obtain rfl := Except.error.inj he
    exact hx.error e rfl
  | ok a =>
    obtain ⟨hP, hnone⟩ := hx.ok a rfl
    refine ⟨fun b hb => ?_, nofun⟩
    obtain rfl := Except.ok.inj hb
    exact ⟨hf a hP, hnone⟩

/-- A reader succeeds exactly where nothing is wrong. -/
theorem exists_ok_iff (hx : Checked x faults P) : (∃ a, x = .ok a) ↔ Faultless faults := by
  constructor
  · rintro ⟨a, ha⟩
    exact (hx.ok a ha).2
  · intro hnone
    cases x with
    | ok a => exact ⟨a, rfl⟩
    | error e => exact absurd hnone (hx.error e rfl).not_faultless

/-- A reader fails exactly with the first fault. -/
theorem error_iff (hx : Checked x faults P)
    (hfaults : ∀ fault ∈ faults, ∀ e e', fault e → fault e' → e = e') {e : Error} :
    x = .error e ↔ FirstFault faults e := by
  constructor
  · exact hx.error e
  · intro h
    cases x with
    | ok a => exact absurd (hx.ok a rfl).2 h.not_faultless
    | error e' => rw [(hx.error e' rfl).unique hfaults h]

end Checked

end ScriptedRays

import Mathlib.Data.List.DropRight
import Mathlib.Data.List.Forall2
import Mathlib.Logic.Basic
import ScriptedRays.Proofs.Document

/-!
# Folding — names given by hand

A name given by hand is looked up in folded form, without the blanks around it and with the letters of ASCII
in lower case (`Text.folded_eq_iff`).  So it makes no difference to put blanks around a name or to write its
letters in another case (`Text.folded_eq_of_respelt`), and a reader of names accepts what folds to a name and
complains of everything else in folded form (`Text.ReadsNames`).
-/

namespace ScriptedRays

namespace Text

/-! ### Blanks around a text -/

/-- Nothing but blanks. -/
def Blank (s : List Char) : Prop := ∀ c ∈ s, isBlank c = true

/-- What is left of a text without the blanks around it: no more is left out, for it neither begins nor ends
with a blank. -/
structure Trimmed (s core : List Char) : Prop where
  around : ∃ front back, Blank front ∧ Blank back ∧ s = front ++ core ++ back
  head : ∀ c ∈ core.head?, isBlank c = false
  last : ∀ c ∈ core.getLast?, isBlank c = false

section Trim

variable {s core front back : List Char}

theorem trim_eq_rdropWhile (s : List Char) :
    trim s = (s.dropWhile isBlank).rdropWhile isBlank := rfl

theorem rdropWhile_append_of_blank (hback : Blank back) (s : List Char) :
    (s ++ back).rdropWhile isBlank = s.rdropWhile isBlank := by
  have hreverse : ∀ c ∈ back.reverse, isBlank c = true := fun c hc => hback c (List.mem_reverse.1 hc)
  unfold List.rdropWhile
  rw [List.reverse_append, List.dropWhile_append_of_pos hreverse]

/-- Blanks around a text make no difference. -/
theorem trim_append (hfront : Blank front) (hback : Blank back) (s : List Char) :
    trim (front ++ s ++ back) = trim s := by
  rw [trim_eq_rdropWhile, List.append_assoc, List.dropWhile_append_of_pos hfront, List.dropWhile_append]
  -- where the text is all blanks, those behind it are dropped from the front as well
  split
  next hempty =>
    rw [List.dropWhile_eq_nil_iff.2 hback, trim_eq_rdropWhile, List.isEmpty_iff.1 hempty]
  next => rw [rdropWhile_append_of_blank hback, trim_eq_rdropWhile]

theorem trim_eq_self (hhead : ∀ c ∈ core.head?, isBlank c = false)
    (hlast : ∀ c ∈ core.getLast?, isBlank c = false) : trim core = core := by
  have hdrop : core.dropWhile isBlank = core := by
    refine List.dropWhile_eq_self_iff.2 fun hpos => ?_
    rw [hhead core[0] (List.head?_eq_getElem? ▸ List.getElem?_eq_getElem hpos)]
    exact Bool.false_ne_true
  rw [trim_eq_rdropWhile, hdrop]
  refine List.rdropWhile_eq_self_iff.2 fun hne => ?_
  rw [hlast _ (List.getLast?_eq_some_getLast hne)]
  exact Bool.false_ne_true

theorem trimmed_trim (s : List Char) : Trimmed s (trim s) := by
  have hsplit : s = s.takeWhile isBlank ++ trim s ++ (s.dropWhile isBlank).rtakeWhile isBlank := by
    rw [trim_eq_rdropWhile, List.append_assoc, List.rdropWhile_append_rtakeWhile,
      List.takeWhile_append_dropWhile]
  refine ⟨⟨_, _, fun c hc => List.mem_takeWhile_imp hc, fun c hc => List.mem_rtakeWhile_imp hc, hsplit⟩,
    fun c hc => ?_, fun c hc => ?_⟩
  · obtain ⟨t, ht⟩ := List.rdropWhile_prefix isBlank (s.dropWhile isBlank)
    have hfirst : (s.dropWhile isBlank).head? = some c := by
      rw [← ht, List.head?_append, ← trim_eq_rdropWhile, Option.mem_def.1 hc, Option.some_or]
    have hnot := List.head?_dropWhile_not isBlank s
    rwa [hfirst] at hnot
  · obtain ⟨hne, rfl⟩ := List.mem_getLast?_eq_getLast hc
    exact eq_false_of_ne_true (List.rdropWhile_last_not _ _ hne)

theorem trim_eq_iff : trim s = core ↔ Trimmed s core := by
  constructor
  · rintro rfl
    exact trimmed_trim s
  · rintro ⟨⟨front, back, hfront, hback, rfl⟩, hhead, hlast⟩
    rw [trim_append hfront hback, trim_eq_self hhead hlast]

end Trim

/-! ### Letters in another case -/

theorem isBlank_eq_false_of_between {c : Char} (hlow : 0x41 ≤ c.toNat) (hhigh : c.toNat ≤ 0x7A) :
    isBlank c = false := by
  simp only [isBlank, Bool.or_eq_false_iff, beq_eq_false_iff_ne, decide_eq_false_iff_not]
  omega

/-- The letters of ASCII in lower case stand 32 places behind those in upper case. -/
theorem toNat_toLower (c : Char) :
    c.toLower.toNat = if 0x41 ≤ c.toNat ∧ c.toNat ≤ 0x5A then c.toNat + 32 else c.toNat := by
  have hrange : (c.val ≥ 'A'.val ∧ c.val ≤ 'Z'.val) ↔ 0x41 ≤ c.toNat ∧ c.toNat ≤ 0x5A := by
    rw [ge_iff_le, UInt32.le_iff_toNat_le, UInt32.le_iff_toNat_le]
    rfl
  unfold Char.toLower
  split
  next h =>
    obtain ⟨hlow, hhigh⟩ := hrange.1 h
    rw [if_pos ⟨hlow, hhigh⟩]
    show (c.val + ('a'.val - 'A'.val)).toNat = c.val.toNat + 32
    have hdifference : ('a'.val - 'A'.val).toNat = 32 := rfl
    change c.val.toNat ≤ 0x5A at hhigh
    rw [UInt32.toNat_add, hdifference]
    omega
  next h => rw [if_neg (mt hrange.2 h)]

theorem toNat_toUpper (c : Char) :
    c.toUpper.toNat = if 0x61 ≤ c.toNat ∧ c.toNat ≤ 0x7A then c.toNat - 32 else c.toNat := by
  have hrange : ('a'.val ≤ c.val ∧ c.val ≤ 'z'.val) ↔ 0x61 ≤ c.toNat ∧ c.toNat ≤ 0x7A := by
    rw [UInt32.le_iff_toNat_le, UInt32.le_iff_toNat_le]
    rfl
  unfold Char.toUpper
  split
  next h =>
    obtain ⟨hlow, hhigh⟩ := hrange.1 h
    rw [if_pos ⟨hlow, hhigh⟩]
    show (c.val + ('A'.val - 'a'.val)).toNat = c.val.toNat - 32
    -- the difference is taken as a word, so that adding it takes 32 away
    have hdifference : ('A'.val - 'a'.val).toNat = 2 ^ 32 - 32 := rfl
    change 0x61 ≤ c.val.toNat at hlow
    change c.val.toNat ≤ 0x7A at hhigh
    rw [UInt32.toNat_add, hdifference]
    omega
  next h => rw [if_neg (mt hrange.2 h)]

theorem toLower_toLower (c : Char) : c.toLower.toLower = c.toLower := by
  rw [← Char.toNat_inj, toNat_toLower, toNat_toLower]
  split_ifs <;> omega

theorem toLower_toUpper (c : Char) : c.toUpper.toLower = c.toLower := by
  rw [← Char.toNat_inj, toNat_toLower, toNat_toLower, toNat_toUpper]
  split_ifs <;> omega

theorem isBlank_toLower (c : Char) : isBlank c.toLower = isBlank c := by
  have hlower := toNat_toLower c
  split at hlower
  next h =>
    rw [isBlank_eq_false_of_between h.1 (by omega),
      isBlank_eq_false_of_between (by omega) (by omega)]
  next => rw [Char.toNat_inj.1 hlower]

theorem map_toLower_trim (s : List Char) :
    (trim s).map Char.toLower = trim (s.map Char.toLower) := by
  have hblank : isBlank ∘ Char.toLower = isBlank := funext isBlank_toLower
  simp only [trim, List.dropWhile_map, ← List.map_reverse, hblank]

/-- A character, or a letter of ASCII in another case. -/
inductive Recased (c : Char) : Char → Prop
  | same : Recased c c
  | lower : Recased c c.toLower
  | upper : Recased c c.toUpper

theorem Recased.toLower_eq {c d : Char} (h : Recased c d) : d.toLower = c.toLower := by
  cases h with
  | same => rfl
  | lower => exact toLower_toLower c
  | upper => exact toLower_toUpper c

/-- A text with blanks put around it, or with letters of ASCII in another case. -/
inductive Respelt (s : String) : String → Prop
  | surrounded (front back : String) (hfront : Blank front.toList) (hback : Blank back.toList) :
      Respelt s (front ++ s ++ back)
  | recased {t : String} (h : List.Forall₂ Recased s.toList t.toList) : Respelt s t

theorem map_toLower_eq_of_recased {s t : List Char} (h : List.Forall₂ Recased s t) :
    t.map Char.toLower = s.map Char.toLower := by
  induction h with
  | nil => rfl
  | cons hc _ ih => rw [List.map_cons, List.map_cons, hc.toLower_eq, ih]

/-! ### The folded form -/

section Folded

variable {s t w : String}

theorem folded_eq_of_respelt (h : Respelt s t) : folded t = folded s := by
  unfold folded
  cases h with
  | surrounded front back hfront hback =>
    rw [String.toList_append, String.toList_append, trim_append hfront hback]
  | recased h => rw [map_toLower_trim, map_toLower_trim, map_toLower_eq_of_recased h]

theorem folded_eq_iff :
    folded s = w ↔ ∃ core, Trimmed s.toList core ∧ w.toList = core.map Char.toLower := by
  have hlist : folded s = w ↔ w.toList = (trim s.toList).map Char.toLower := by
    rw [folded, ← String.toList_inj, String.toList_ofList, eq_comm]
  rw [hlist]
  constructor
  · exact fun h => ⟨_, trimmed_trim _, h⟩
  · rintro ⟨core, hcore, hw⟩
    rw [trim_eq_iff.2 hcore, hw]

/-- Ignoring the case of letters and comparing the folded form come to the same. -/
theorem alike_trim_iff (hw : w.toList.map Char.toLower = w.toList) :
    alike (trim s.toList) w.toList = true ↔ folded s = w := by
  rw [alike_iff, hw, folded, ← String.toList_inj, String.toList_ofList]

end Folded

/-! ### Readers of names -/

section Readers

variable {α : Type} {parse : String → Except UnknownName α} {name : α → String} {wording : String}

/-- A reader of names accepts what folds to a name, and complains of everything else in folded form.  How a
text is spelt makes no difference. -/
structure ReadsNames (parse : String → Except UnknownName α) (name : α → String) (wording : String) :
    Prop where
  ok : ∀ s a, parse s = .ok a ↔ folded s = name a
  error : ∀ s, (∃ e, parse s = .error e) ↔ ∀ a, folded s ≠ name a
  message : ∀ s e, parse s = .error e → e.message = wording ++ folded s
  respelt : ∀ s t, Respelt s t → parse t = parse s

/-- It is enough to know what a reader makes of each name, and of a text that folds to none. -/
theorem readsNames_of {fail : String → UnknownName}
    (hok : ∀ s a, folded s = name a → parse s = .ok a)
    (herror : ∀ s, (∀ a, folded s ≠ name a) → parse s = .error (fail (folded s)))
    (hfail : ∀ w, (fail w).message = wording ++ w) : ReadsNames parse name wording := by
  -- a text spells some name or none, and all four properties go by these two cases
  have hcases : ∀ s, (∃ a, folded s = name a) ∨ ∀ a, folded s ≠ name a :=
    fun s => exists_or_forall_not _
  refine ⟨fun s a => ⟨fun h => ?_, hok s a⟩, fun s => ⟨?_, fun h => ⟨_, herror s h⟩⟩,
    fun s e h => ?_, fun s t h => ?_⟩
  · rcases hcases s with ⟨b, hb⟩ | hno
    · rw [hok s b hb] at h
      exact Except.ok.inj h ▸ hb
    · rw [herror s hno] at h
      exact absurd h nofun
  · rintro ⟨e, he⟩ a ha
    rw [hok s a ha] at he
    exact absurd he nofun
  · rcases hcases s with ⟨a, ha⟩ | hno
    · rw [hok s a ha] at h
      exact absurd h nofun
    · rw [herror s hno] at h
      rw [← Except.error.inj h, hfail]
  · have hsame := folded_eq_of_respelt h
    rcases hcases s with ⟨a, ha⟩ | hno
    · rw [hok s a ha, hok t a (hsame.trans ha)]
    · rw [herror s hno, herror t (hsame ▸ hno), hsame]

variable {options : List α} {fail : String → UnknownName} {s : String} {a : α}

theorem readName_of_folded_eq (hall : ∀ a, a ∈ options) (hname : ∀ a b, name a = name b → a = b)
    (h : folded s = name a) : readName options name fail s = .ok a := by
  unfold readName
  rw [(named?_eq_some_iff hall hname).2 h.symm]

theorem readName_of_folded_ne (h : ∀ a, folded s ≠ name a) :
    readName options name fail s = .error (fail (folded s)) := by
  have hnone : named? options name (folded s) = none :=
    Option.eq_none_iff_forall_not_mem.2 fun a ha => h a (name_of_named? ha).symm
  unfold readName
  rw [hnone]

theorem readsNames_readName (hall : ∀ a, a ∈ options) (hname : ∀ a b, name a = name b → a = b)
    (hfail : ∀ w, (fail w).message = wording ++ w) :
    ReadsNames (readName options name fail) name wording :=
  readsNames_of (fun _ _ => readName_of_folded_eq hall hname) (fun _ => readName_of_folded_ne) hfail

end Readers

end Text

end ScriptedRays

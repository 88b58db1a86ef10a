import ScriptedRays.Toml.Document

/-!
# OneLine — a document of one line

A line that gives a string of plain characters under a bare name is read, reader by reader, as the one field
that it writes (`Reader.line_plain`), and the document is the table of this field
(`Table.parse?_oneLine`).
-/

namespace ScriptedRays.Toml

namespace Reader

/-! ### Rules for readers -/

section Rules

variable {α β : Type} {x y : Reader α} {f : α → Reader β} {s t : List Char} {a : α}

theorem bind_of_some (h : x s = some (a, t)) : (x >>= f) s = f a t := by
  show (x s >>= fun p => f p.1 p.2) = _
  rw [h]
  rfl

theorem bind_of_none (h : x s = none) : (x >>= f) s = none := by
  show (x s >>= fun p => f p.1 p.2) = _
  rw [h]
  rfl

theorem map_of_some {g : α → β} (h : x s = some (a, t)) : (g <$> x) s = some (g a, t) :=
  (bind_of_some h : (x >>= fun a => pure (g a)) s = _)

theorem map_of_none {g : α → β} (h : x s = none) : (g <$> x) s = none :=
  (bind_of_none h : (x >>= fun a => pure (g a)) s = _)

theorem orElse_of_some (h : x s = some (a, t)) : (x <|> y) s = some (a, t) := by
  show (x s <|> y s) = _
  rw [h]
  rfl

theorem orElse_of_none (h : x s = none) : (x <|> y) s = y s := by
  show (x s <|> y s) = _
  rw [h]
  cases y s <;> rfl

theorem discard_of_some (h : x s = some (a, t)) : discard x s = some ((), t) :=
  map_of_some h

theorem optional_of_none (h : x s = none) : optional x s = some (none, s) :=
  orElse_of_none (map_of_none h)

theorem guard_of {P : Prop} [Decidable P] (h : P) : (guard P : Reader Unit) s = some ((), s) := by
  unfold guard
  rw [if_pos h]
  rfl

theorem many_of_none (h : x s = none) : many x s = some ([], s) := by
  unfold many
  rw [manyFrom, h]

theorem many_of_some (h : x s = some (a, t)) (hless : t.length < s.length)
    (hend : x t = none) : many x s = some ([a], t) := by
  unfold many
  rw [manyFrom, h]
  simp only [hless, if_true]
  rw [manyFrom, hend]

/-- A text goes on with no character of a class. -/
def Stops (p : Char → Bool) (s : List Char) : Prop := ∀ c ∈ s.head?, p c = false

variable {p : Char → Bool} {c : Char} {w : List Char}

theorem stops_cons (h : p c = false) : Stops p (c :: s) := by
  intro d hd
  exact Option.some.inj hd ▸ h

theorem exactly_self : exactly [c] (c :: s) = some ((), s) := by
  simp [exactly]

theorem exactly_of_stops (h : Stops (· == c) s) : exactly (c :: w) s = none := by
  cases s with
  | nil => rfl
  | cons d s =>
    have hne : d ≠ c := ne_of_beq_false (h d rfl)
    simp [exactly, hne.symm]

theorem takeWhile_append (hw : ∀ c ∈ w, p c = true) (hs : Stops p s) :
    (w ++ s).takeWhile p = w ∧ (w ++ s).dropWhile p = s := by
  rw [List.takeWhile_append_of_pos hw, List.dropWhile_append_of_pos hw]
  cases s with
  | nil => simp
  | cons c s =>
    have hc : p c = false := hs c rfl
    simp [hc]

theorem run_append (hw : ∀ c ∈ w, p c = true) (hs : Stops p s) : run p (w ++ s) = some (w, s) := by
  obtain ⟨htake, hdrop⟩ := takeWhile_append hw hs
  rw [run, htake, hdrop]

theorem run1_append (hne : w ≠ []) (hw : ∀ c ∈ w, p c = true) (hs : Stops p s) :
    run1 p (w ++ s) = some (w, s) := by
  unfold run1
  rw [bind_of_some (run_append hw hs)]
  exact bind_of_some (guard_of hne)

theorem run_of_stops (hs : Stops p s) : run p s = some ([], s) := run_append (w := []) nofun hs

theorem run1_of_stops (hs : Stops p s) : run1 p s = none := by
  unfold run1
  rw [bind_of_some (run_of_stops hs)]
  rfl

end Rules

/-! ### One line -/

section Line

variable {k s rest : List Char}

/-- A name that needs no quotes. -/
structure Bare (k : List Char) : Prop where
  ne_nil : k ≠ []
  isBareKey : ∀ c ∈ k, isBareKey c = true

theorem Bare.stops {p : Char → Bool} (hk : Bare k) (hp : ∀ c, Reader.isBareKey c = true → p c = false) :
    Stops p (k ++ s) := by
  obtain ⟨c, k, rfl⟩ := List.exists_cons_of_ne_nil hk.ne_nil
  exact stops_cons (hp c (hk.isBareKey c List.mem_cons_self))

theorem Bare.stops_beq {d : Char} (hk : Bare k) (hd : Reader.isBareKey d = false) :
    Stops (· == d) (k ++ s) := by
  refine hk.stops fun c hc => beq_false_of_ne ?_
  rintro rfl
  exact absurd (hc.symm.trans hd) nofun

theorem Bare.stops_isBlank (hk : Bare k) : Stops isBlank (k ++ s) := by
  intro c hc
  have hspace := hk.stops_beq (d := ' ') rfl c hc
  have htab := hk.stops_beq (d := '\t') rfl c hc
  exact Bool.or_eq_false_iff.2 ⟨hspace, htab⟩

theorem blanks_of_stops (h : Stops isBlank s) : blanks s = some ((), s) :=
  discard_of_some (run_of_stops h)

theorem blanks_space (h : Stops isBlank s) : blanks (' ' :: s) = some ((), s) :=
  discard_of_some (run_append (w := [' ']) (List.all_eq_true.1 rfl) h)

theorem keyPart_bare (hk : Bare k) (hs : Stops isBlank s) :
    keyPart (k ++ ' ' :: s) = some (String.ofList k, s) := by
  have hbasic : basicString (k ++ ' ' :: s) = none :=
    bind_of_none (exactly_of_stops (hk.stops_beq rfl))
  have hliteral : literalString (k ++ ' ' :: s) = none :=
    bind_of_none (exactly_of_stops (hk.stops_beq rfl))
  have hrun : run1 isBareKey (k ++ ' ' :: s) = some (k, ' ' :: s) :=
    run1_append hk.ne_nil hk.isBareKey (stops_cons rfl)
  unfold keyPart
  rw [bind_of_some (blanks_of_stops hk.stops_isBlank)]
  refine (bind_of_some (a := String.ofList k) (t := ' ' :: s) ?_).trans ?_
  · rw [orElse_of_none hbasic, orElse_of_none hliteral]
    exact bind_of_some hrun
  · exact bind_of_some (blanks_space hs)

theorem key_bare (hk : Bare k) :
    key (k ++ ' ' :: '=' :: s) = some (⟨[], String.ofList k⟩, '=' :: s) := by
  have hdots : many (exactly ['.'] *> keyPart) ('=' :: s) = some ([], '=' :: s) :=
    many_of_none (bind_of_none (exactly_of_stops (stops_cons rfl)))
  unfold key
  rw [bind_of_some (keyPart_bare hk (stops_cons rfl)), bind_of_some hdots]
  rfl

/-- Characters that stand for themselves between double quotes. -/
def Plain (s : List Char) : Prop := ∀ c ∈ s, isPlain c = true

theorem many_plainPart (rest : List Char) (hs : Plain s) :
    ∃ parts, many plainPart (s ++ '"' :: rest) = some (parts, '"' :: rest) ∧ parts.flatten = s := by
  have hend : plainPart ('"' :: rest) = none := by
    have hescape : escape ('"' :: rest) = none :=
      bind_of_none (exactly_of_stops (stops_cons rfl))
    unfold plainPart
    rw [orElse_of_none (run1_of_stops (stops_cons rfl))]
    exact bind_of_none hescape
  -- a run of plain characters is one part, so there is one round or none
  by_cases hne : s = []
  · subst hne
    exact ⟨[], many_of_none hend, rfl⟩
  · have hrun : run1 isPlain (s ++ '"' :: rest) = some (s, '"' :: rest) :=
      run1_append hne hs (stops_cons rfl)
    refine ⟨[s], many_of_some (orElse_of_some hrun) ?_ hend, List.flatten_singleton⟩
    have hpos := List.length_pos_iff.2 hne
    rw [List.length_append]
    omega

theorem basicString_plain (hs : Plain s) :
    basicString ('"' :: (s ++ '"' :: rest)) = some (String.ofList s, rest) := by
  obtain ⟨parts, hmany, hparts⟩ := many_plainPart rest hs
  unfold basicString
  rw [bind_of_some exactly_self, bind_of_some hmany, bind_of_some exactly_self, hparts]
  rfl

theorem string_plain (hs : Plain s) : string ('"' :: (s ++ ['"'])) = some (String.ofList s, []) := by
  -- an empty string is closed by its second quote, and no third one follows
  have hthree : exactly ['"', '"', '"'] ('"' :: (s ++ ['"'])) = none := by
    cases s with
    | nil => rfl
    | cons c s =>
      have hne : c ≠ '"' := by
        rintro rfl
        exact absurd (hs '"' List.mem_cons_self) (by decide)
      simp [exactly, hne.symm]
  have hdouble : ∀ part, longString '"' part ('"' :: (s ++ ['"'])) = none :=
    fun _ => bind_of_none hthree
  have hsingle : ∀ part, longString '\'' part ('"' :: (s ++ ['"'])) = none :=
    fun _ => bind_of_none (exactly_of_stops (stops_cons rfl))
  unfold string
  rw [orElse_of_none (hdouble _), orElse_of_none (hsingle _)]
  exact orElse_of_some (basicString_plain hs)

/-- At any depth a string is read before anything else. -/
theorem itemTo_plain (hs : Plain s) (depth : Nat) :
    itemTo depth ('"' :: (s ++ ['"'])) = some (.string (String.ofList s), []) := by
  cases depth with
  | zero => exact orElse_of_some (map_of_some (string_plain hs))
  | succ => exact orElse_of_some (map_of_some (string_plain hs))

/-- A line that gives a string under a name. -/
def fieldText (k s : List Char) : List Char := k ++ ' ' :: '=' :: ' ' :: '"' :: (s ++ ['"'])

theorem stops_fieldText {d : Char} (hk : Bare k) (hd : isBareKey d = false) :
    Stops (· == d) (fieldText k s) := hk.stops_beq hd

theorem field_plain (hk : Bare k) (hs : Plain s) :
    field item (fieldText k s) =
      some ((⟨[], String.ofList k⟩, .string (String.ofList s)), []) := by
  unfold field fieldText item
  rw [bind_of_some (key_bare hk), bind_of_some exactly_self,
    bind_of_some (blanks_space (stops_cons rfl)), bind_of_some (itemTo_plain hs _)]
  rfl

theorem line_plain (hk : Bare k) (hs : Plain s) :
    line (fieldText k s) =
      some (some (.field ⟨[], String.ofList k⟩ (.string (String.ofList s))), []) := by
  unfold line
  rw [orElse_of_none (bind_of_none (exactly_of_stops (stops_fieldText hk rfl))),
    orElse_of_none (bind_of_none (exactly_of_stops (stops_fieldText hk rfl)))]
  refine orElse_of_some ((bind_of_some (field_plain hk hs)).trans ?_)
  exact bind_of_some (a := ()) (t := []) rfl

theorem entries_plain (hk : Bare k) (hs : Plain s) :
    entries (fieldText k s) =
      some ([.field ⟨[], String.ofList k⟩ (.string (String.ofList s))], []) := by
  have hmark : optional (exactly ['\ufeff']) (fieldText k s) = some (none, fieldText k s) :=
    optional_of_none (exactly_of_stops (stops_fieldText hk rfl))
  have hblanks : blanks (fieldText k s) = some ((), fieldText k s) :=
    blanks_of_stops hk.stops_isBlank
  have hline : (line <* blanks) (fieldText k s) = some (_, []) :=
    (bind_of_some (line_plain hk hs)).trans (bind_of_some (a := ()) (t := []) rfl)
  have hless : 0 < (fieldText k s).length := List.length_pos_iff.2 (by simp [fieldText])
  unfold entries
  rw [bind_of_some (discard_of_some hmark), bind_of_some hblanks,
    bind_of_some (many_of_some hline hless rfl)]
  rfl

end Line

end Reader

/-- A document of one line, by which a string is given under a name. -/
def oneLine (name s : String) : String := name ++ " = \"" ++ s ++ "\""

theorem Table.parse?_oneLine {name s : String} (hname : Reader.Bare name.toList)
    (hs : Reader.Plain s.toList) : Table.parse? (oneLine name s) = some [(name, .string s)] := by
  have htext : (oneLine name s).toList = Reader.fieldText name.toList s.toList := by
    simp [oneLine, Reader.fieldText]
  unfold Table.parse?
  rw [htext, Reader.entries_plain hname hs, String.ofList_toList, String.ofList_toList]
  rfl

end ScriptedRays.Toml

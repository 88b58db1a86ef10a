import Mathlib.Data.List.Induction
import Mathlib.Data.List.Nodup
import Mathlib.Data.Option.Basic
import ScriptedRays.Config.Document

/-!
# Document — what a text says as settings

The names in a table that is read from a text are distinct (`Toml.Table.nodup_parse?`), so a document says
one thing of a setting or nothing.  It holds settings if its fields are the two that there are, and the
item of each names an option (`Settings.Holds`); then these are the settings that are read, and otherwise
none are (`Settings.parse_eq_ok_iff`).
-/

namespace ScriptedRays

theorem bind_eq_ok_iff {ε α β : Type} {x : Except ε α} {f : α → Except ε β} {b : β} :
    (x >>= f) = .ok b ↔ ∃ a, x = .ok a ∧ f a = .ok b := by
  cases x with
  | error e => exact ⟨nofun, nofun⟩
  | ok a =>
    constructor
    · exact fun h => ⟨a, rfl, h⟩
    · rintro ⟨a', ha, h⟩
      exact Except.ok.inj ha ▸ h

theorem eq_ok_of_toOption {ε α : Type} {x : Except ε α} {a : α} (h : x.toOption = some a) :
    x = .ok a := by
  cases x with
  | error e => exact absurd h nofun
  | ok b => exact congrArg Except.ok (Option.some.inj h)

/-! ### Names of options -/

namespace Text

variable {α : Type} {options : List α} {name : α → String} {s : String} {a : α}

theorem name_of_named? (h : named? options name s = some a) : name a = s :=
  eq_of_beq (List.find?_some (p := fun option => name option == s) h)

/-- Among all options, each with a name of its own, a name finds the one that has it. -/
theorem named?_eq_some_iff (hall : ∀ a, a ∈ options) (hname : ∀ a b, name a = name b → a = b) :
    named? options name s = some a ↔ name a = s := by
  refine ⟨name_of_named?, ?_⟩
  rintro rfl
  have hsome : (named? options name (name a)).isSome := by
    rw [named?, List.find?_isSome]
    exact ⟨a, hall a, beq_self_eq_true _⟩
  obtain ⟨b, hb⟩ := Option.isSome_iff_exists.1 hsome
  rw [hb, hname b a (name_of_named? hb)]

end Text

theorem Preference.mem_all (p : Preference) : p ∈ all := by
  rcases p with _ | _ | _ | _ | _ <;> decide

theorem Preference.name_injective : Function.Injective name := by
  rintro (_ | _ | _ | _ | _) (_ | _ | _ | _ | _) <;> decide

theorem Preference.named?_eq_some_iff {s : String} {p : Preference} :
    Preference.named? s = some p ↔ p.name = s :=
  Text.named?_eq_some_iff mem_all fun _ _ h => name_injective h

theorem Verbosity.mem_all (v : Verbosity) : v ∈ all := by
  rcases v with _ | _ | _ | _ | _ | _ <;> decide

theorem Verbosity.name_injective : Function.Injective name := by
  rintro (_ | _ | _ | _ | _ | _) (_ | _ | _ | _ | _ | _) <;> decide

theorem Verbosity.named?_eq_some_iff {s : String} {v : Verbosity} :
    Verbosity.named? s = some v ↔ v.name = s :=
  Text.named?_eq_some_iff mem_all fun _ _ h => name_injective h

/-! ### Names in a table -/

namespace Toml

namespace Table

/-- The names in a table, in order. -/
def names (t : Table) : List String := t.map Prod.fst

variable {t t' : Table} {name : String} {item : Item}

theorem not_mem_names (h : t.lookup name = none) : name ∉ t.names := by
  intro hmem
  obtain ⟨field, hfield, rfl⟩ := List.mem_map.1 hmem
  simpa using List.lookup_eq_none_iff.1 h field hfield

theorem nodup_concat (ht : t.names.Nodup) (h : t.lookup name = none) :
    (names (t ++ [(name, item)])).Nodup := by
  rw [names, List.map_append]
  exact List.nodup_append'.2 ⟨ht, List.nodup_singleton _,
    List.disjoint_singleton.2 (not_mem_names h)⟩

theorem names_replace (t : Table) (name : String) (item : Item) :
    names (t.replace name item) = t.names := by
  unfold names replace
  rw [List.map_map]
  refine List.map_congr_left fun field _ => ?_
  by_cases h : field.1 = name
  · simp [h]
  · simp [h]

/-- Changing an inner table leaves the names of the outer one distinct, whatever happens inside. -/
theorem nodup_alter {born origin : Origin} {change : Origin → Table → Option Table}
    {path : List String}
    (hchange : ∀ origin inner inner', change origin inner = some inner' → inner.names.Nodup →
      inner'.names.Nodup)
    (h : alter born change path origin t = some t') (ht : t.names.Nodup) : t'.names.Nodup := by
  cases path with
  | nil => exact hchange _ _ _ h ht
  | cons name path =>
    unfold alter at h
    split at h
    -- the name is new, and is given a table of its own
    next hnone =>
      obtain ⟨inner, -, h⟩ := Option.bind_eq_some_iff.1 h
      obtain rfl := Option.some.inj h
      exact nodup_concat ht hnone
    next =>
      obtain ⟨-, -, h⟩ := Option.bind_eq_some_iff.1 h
      obtain ⟨inner, -, h⟩ := Option.bind_eq_some_iff.1 h
      obtain rfl := Option.some.inj h
      -- the name is there: what is changed lies further in, and the names here stay
      rwa [names_replace]
    next =>
      obtain ⟨inner, -, h⟩ := Option.bind_eq_some_iff.1 h
      obtain rfl := Option.some.inj h
      rwa [names_replace]
    next => exact absurd h nofun

theorem nodup_add {key : Key} (h : t.add key item = some t') (ht : t.names.Nodup) :
    t'.names.Nodup := by
  refine nodup_alter (fun origin inner inner' h ht => ?_) h ht
  obtain ⟨_, -, h⟩ := Option.bind_eq_some_iff.1 h
  obtain ⟨_, hguard, h⟩ := Option.bind_eq_some_iff.1 h
  obtain rfl := Option.some.inj h
  have hnone : (inner.lookup key.name).isNone = true := (Option.guard_eq_some' _).1 hguard
  exact nodup_concat ht (Option.isNone_iff_eq_none.1 hnone)

theorem nodup_openTable (h : t.openTable name = some t') (ht : t.names.Nodup) :
    t'.names.Nodup := by
  unfold openTable at h
  split at h
  next hnone =>
    obtain rfl := Option.some.inj h
    exact nodup_concat ht hnone
  next =>
    -- the table moves to the end, and no other one has its name
    obtain rfl := Option.some.inj h
    have hsublist : (names (t.filter (·.1 ≠ name))).Sublist t.names := List.filter_sublist.map _
    rw [names, List.map_append]
    refine List.nodup_append'.2 ⟨hsublist.nodup ht, List.nodup_singleton _,
      List.disjoint_singleton.2 fun hmem => ?_⟩
    obtain ⟨field, hfield, hname⟩ := List.mem_map.1 hmem
    exact of_decide_eq_true (List.mem_filter.1 hfield).2 hname
  next => exact absurd h nofun

theorem nodup_openNext (h : t.openNext name = some t') (ht : t.names.Nodup) :
    t'.names.Nodup := by
  unfold openNext at h
  split at h
  next hnone =>
    obtain rfl := Option.some.inj h
    exact nodup_concat ht hnone
  next =>
    obtain rfl := Option.some.inj h
    rwa [names_replace]
  next => exact absurd h nofun

end Table

theorem Draft.nodup_add {d d' : Draft} {entry : Entry} (h : d.add entry = some d')
    (hd : d.root.names.Nodup) : d'.root.names.Nodup := by
  cases entry with
  | field k i =>
    obtain ⟨root, hroot, h⟩ := Option.bind_eq_some_iff.1 h
    obtain rfl := Option.some.inj h
    exact Table.nodup_alter (fun _ _ _ => Table.nodup_add) hroot hd
  | header k =>
    obtain ⟨root, hroot, h⟩ := Option.bind_eq_some_iff.1 h
    obtain rfl := Option.some.inj h
    exact Table.nodup_alter (fun _ _ _ => Table.nodup_openTable) hroot hd
  | next k =>
    obtain ⟨root, hroot, h⟩ := Option.bind_eq_some_iff.1 h
    obtain rfl := Option.some.inj h
    exact Table.nodup_alter (fun _ _ _ => Table.nodup_openNext) hroot hd

theorem Draft.nodup_foldlM {entries : List Entry} {d d' : Draft}
    (h : entries.foldlM Draft.add d = some d') (hd : d.root.names.Nodup) : d'.root.names.Nodup := by
  induction entries generalizing d with
  | nil => exact Option.some.inj h ▸ hd
  | cons entry rest ih =>
    rw [List.foldlM_cons] at h
    obtain ⟨next, hnext, h⟩ := Option.bind_eq_some_iff.1 h
    exact ih h (nodup_add hnext hd)

/-- The names in a document are distinct. -/
theorem Table.nodup_parse? {text : String} {t : Table} (h : parse? text = some t) :
    t.names.Nodup := by
  obtain ⟨⟨entries, rest⟩, -, h⟩ := Option.bind_eq_some_iff.1 h
  obtain ⟨d, hd, h⟩ := Option.bind_eq_some_iff.1 h
  exact Option.some.inj h ▸ Draft.nodup_foldlM hd List.nodup_nil

end Toml

/-! ### Settings in a table -/

/-- An item names an option: by a string, or as the only name in a table, with nothing under it. -/
inductive Toml.Item.Names {α : Type} (name : α → String) (a : α) : Toml.Item → Prop
  | string : Names name a (.string (name a))
  | alone {origin : Toml.Origin} {content : Toml.Item} (h : content.isEmpty = true) :
      Names name a (.table origin [(name a, content)])

namespace Settings

section Option

variable {α : Type} {named? : String → Option α} {name : α → String} {unknown : String → Problem}
  {item : Toml.Item} {a : α}

theorem readOption_eq_ok_iff (hnamed : ∀ s a, named? s = some a ↔ name a = s) :
    readOption named? unknown item = .ok a ↔ item.Names name a := by
  constructor
  · intro h
    unfold readOption at h
    split at h
    next s =>
      cases hs : named? s with
      | none => simp [hs] at h
      | some b =>
        obtain rfl : b = a := by simpa [hs] using h
        exact (hnamed s b).1 hs ▸ .string
    next origin s content =>
      cases hs : named? s with
      | none => simp [hs] at h
      | some b =>
        simp only [hs] at h
        split at h
        next hempty =>
          obtain rfl := Except.ok.inj h
          exact (hnamed s b).1 hs ▸ .alone hempty
        next => exact absurd h nofun
    next => exact absurd h nofun
  · have hself : named? (name a) = some a := (hnamed _ a).2 rfl
    intro h
    cases h with
    | string => simp [readOption, hself]
    | alone hempty => simp [readOption, hself, hempty]

end Option

/-- What a table says of a setting: nothing where it has no such field, and otherwise the option that
the field's item names. -/
inductive Gives {α : Type} (t : Toml.Table) (field : String) (name : α → String) : Option α → Prop
  | nothing (h : field ∉ t.names) : Gives t field name none
  | setting {item : Toml.Item} {a : α} (h : (field, item) ∈ t) (hitem : item.Names name a) :
      Gives t field name (some a)

/-- A table holds settings and nothing else. -/
structure Holds (t : Toml.Table) (s : Settings) : Prop where
  known : ∀ field ∈ t.names, field = backendField ∨ field = verbosityField
  backend : Gives t backendField Preference.name s.backend
  verbosity : Gives t verbosityField Verbosity.name s.verbosity

section Gives

variable {α : Type} {t : Toml.Table} {field k : String} {item : Toml.Item} {name : α → String}
  {said : Option α}

theorem gives_of_not_mem (h : field ∉ t.names) : Gives t field name said ↔ said = none := by
  constructor
  · rintro (_ | ⟨hmem, _⟩)
    · rfl
    · exact absurd (List.mem_map_of_mem hmem) h
  · rintro rfl
    exact .nothing h

theorem gives_concat_self (h : field ∉ t.names) :
    Gives (t ++ [(field, item)]) field name said ↔ ∃ a, item.Names name a ∧ said = some a := by
  constructor
  · rintro (hnot | ⟨hmem, hitem⟩)
    · exact absurd (List.mem_map_of_mem (List.mem_concat_self ..)) hnot
    · rcases List.mem_append.1 hmem with hold | hnew
      · exact absurd (List.mem_map_of_mem hold) h
      · obtain ⟨-, rfl⟩ := Prod.mk.inj (List.mem_singleton.1 hnew)
        exact ⟨_, hitem, rfl⟩
  · rintro ⟨a, hitem, rfl⟩
    exact .setting (List.mem_concat_self ..) hitem

theorem gives_concat_of_ne (h : k ≠ field) :
    Gives (t ++ [(k, item)]) field name said ↔ Gives t field name said := by
  have hnames : field ∈ Toml.Table.names (t ++ [(k, item)]) ↔ field ∈ t.names := by
    simp [Toml.Table.names, h.symm]
  have hmem : ∀ i, (field, i) ∈ t ++ [(k, item)] ↔ (field, i) ∈ t := by
    simp [h.symm]
  constructor
  · rintro (hnot | ⟨hfield, hitem⟩)
    · exact .nothing (hnames.not.1 hnot)
    · exact .setting ((hmem _).1 hfield) hitem
  · rintro (hnot | ⟨hfield, hitem⟩)
    · exact .nothing (hnames.not.2 hnot)
    · exact .setting ((hmem _).2 hfield) hitem

end Gives

/-! ### Reading the fields -/

theorem backendField_ne_verbosityField : backendField ≠ verbosityField := by decide

theorem readField_backend_eq_ok_iff {s s' : Settings} {item : Toml.Item} :
    readField s (backendField, item) = .ok s' ↔
      ∃ p, item.Names Preference.name p ∧ s' = { s with backend := some p } := by
  unfold readField
  rw [if_pos rfl, bind_eq_ok_iff]
  refine exists_congr fun p => and_congr (readOption_eq_ok_iff fun _ _ =>
    Preference.named?_eq_some_iff) ?_
  exact ⟨fun h => (Except.ok.inj h).symm, fun h => h ▸ rfl⟩

theorem readField_verbosity_eq_ok_iff {s s' : Settings} {item : Toml.Item} :
    readField s (verbosityField, item) = .ok s' ↔
      ∃ v, item.Names Verbosity.name v ∧ s' = { s with verbosity := some v } := by
  unfold readField
  rw [if_neg backendField_ne_verbosityField.symm, if_pos rfl, bind_eq_ok_iff]
  refine exists_congr fun v => and_congr (readOption_eq_ok_iff fun _ _ =>
    Verbosity.named?_eq_some_iff) ?_
  exact ⟨fun h => (Except.ok.inj h).symm, fun h => h ▸ rfl⟩

theorem holds_nil {s : Settings} : Holds [] s ↔ s = {} := by
  constructor
  · rintro ⟨-, hbackend, hverbosity⟩
    obtain ⟨backend, verbosity⟩ := s
    obtain rfl := (gives_of_not_mem List.not_mem_nil).1 hbackend
    obtain rfl := (gives_of_not_mem List.not_mem_nil).1 hverbosity
    rfl
  · rintro rfl
    exact ⟨nofun, .nothing List.not_mem_nil, .nothing List.not_mem_nil⟩

section Concat

variable {t : Toml.Table} {s : Settings} {item : Toml.Item}

theorem known_concat {k : String} : (∀ field ∈ Toml.Table.names (t ++ [(k, item)]),
    field = backendField ∨ field = verbosityField) ↔
      (∀ field ∈ t.names, field = backendField ∨ field = verbosityField) ∧
        (k = backendField ∨ k = verbosityField) := by
  simp only [Toml.Table.names, List.map_append, List.mem_append, List.map_cons, List.map_nil,
    List.mem_singleton, or_imp, forall_and, forall_eq]

/-- A field for the backend adds the backend that it names. -/
theorem holds_concat_backend (h : backendField ∉ t.names) :
    Holds (t ++ [(backendField, item)]) s ↔
      ∃ p s', Holds t s' ∧ item.Names Preference.name p ∧ s = { s' with backend := some p } := by
  have hne := backendField_ne_verbosityField
  constructor
  · rintro ⟨hknown, hbackend, hverbosity⟩
    obtain ⟨p, hp, hs⟩ := (gives_concat_self h).1 hbackend
    refine ⟨p, { s with backend := none }, ⟨(known_concat.1 hknown).1, .nothing h,
      (gives_concat_of_ne hne).1 hverbosity⟩, hp, ?_⟩
    rw [← hs]
  · rintro ⟨p, s', ⟨hknown, -, hverbosity⟩, hp, rfl⟩
    exact ⟨known_concat.2 ⟨hknown, .inl rfl⟩, (gives_concat_self h).2 ⟨p, hp, rfl⟩,
      (gives_concat_of_ne hne).2 hverbosity⟩

/-- A field for the verbosity adds the verbosity that it names. -/
theorem holds_concat_verbosity (h : verbosityField ∉ t.names) :
    Holds (t ++ [(verbosityField, item)]) s ↔
      ∃ v s', Holds t s' ∧ item.Names Verbosity.name v ∧ s = { s' with verbosity := some v } := by
  have hne := backendField_ne_verbosityField.symm
  constructor
  · rintro ⟨hknown, hbackend, hverbosity⟩
    obtain ⟨v, hv, hs⟩ := (gives_concat_self h).1 hverbosity
    refine ⟨v, { s with verbosity := none }, ⟨(known_concat.1 hknown).1,
      (gives_concat_of_ne hne).1 hbackend, .nothing h⟩, hv, ?_⟩
    rw [← hs]
  · rintro ⟨v, s', ⟨hknown, hbackend, -⟩, hv, rfl⟩
    exact ⟨known_concat.2 ⟨hknown, .inr rfl⟩, (gives_concat_of_ne hne).2 hbackend,
      (gives_concat_self h).2 ⟨v, hv, rfl⟩⟩

end Concat

/-- **The settings that a table holds are the ones that are read.** -/
theorem ofTable_eq_ok_iff {t : Toml.Table} {s : Settings} (ht : t.names.Nodup) :
    ofTable t = .ok s ↔ Holds t s := by
  induction t using List.reverseRecOn generalizing s with
  | nil =>
    rw [holds_nil]
    exact ⟨fun h => (Except.ok.inj h).symm, fun h => h ▸ rfl⟩
  | append_singleton t field ih =>
    -- the last field is read onto what those before it say, and its name is none of theirs
    obtain ⟨k, item⟩ := field
    rw [Toml.Table.names, List.map_append] at ht
    obtain ⟨ht, -, hnew⟩ := List.nodup_append'.1 ht
    have hk : k ∉ Toml.Table.names t := List.disjoint_singleton.1 hnew
    have hread : ofTable (t ++ [(k, item)]) = .ok s ↔
        ∃ s', Holds t s' ∧ readField s' (k, item) = .ok s := by
      rw [ofTable, List.foldlM_append, bind_eq_ok_iff]
      refine exists_congr fun s' => and_congr (ih ht) ?_
      rw [List.foldlM_cons, bind_eq_ok_iff]
      exact ⟨fun ⟨_, h, hs⟩ => Except.ok.inj hs ▸ h, fun h => ⟨s, h, rfl⟩⟩
    rw [hread]
    by_cases hbackend : k = backendField
    · subst hbackend
      refine Iff.trans ?_ (holds_concat_backend hk).symm
      simp only [readField_backend_eq_ok_iff]
      exact ⟨fun ⟨s', h, p, hp, hs⟩ => ⟨p, s', h, hp, hs⟩,
        fun ⟨p, s', h, hp, hs⟩ => ⟨s', h, p, hp, hs⟩⟩
    · by_cases hverbosity : k = verbosityField
      · subst hverbosity
        refine Iff.trans ?_ (holds_concat_verbosity hk).symm
        simp only [readField_verbosity_eq_ok_iff]
        exact ⟨fun ⟨s', h, v, hv, hs⟩ => ⟨v, s', h, hv, hs⟩,
          fun ⟨v, s', h, hv, hs⟩ => ⟨s', h, v, hv, hs⟩⟩
      · refine iff_of_false ?_ fun h => ?_
        · rintro ⟨s', -, h⟩
          rw [readField, if_neg hbackend, if_neg hverbosity] at h
          exact absurd h nofun
        · exact (known_concat.1 h.known).2.elim hbackend hverbosity

/-- **The settings of a text are those that its table holds.** -/
theorem parse_eq_ok_iff {text : String} {s : Settings} :
    parse text = .ok s ↔ ∃ t, Toml.Table.parse? text = some t ∧ Holds t s := by
  unfold parse
  cases ht : Toml.Table.parse? text with
  | none => exact iff_of_false nofun fun ⟨t, h, _⟩ => absurd h nofun
  | some t =>
    refine (ofTable_eq_ok_iff (Toml.Table.nodup_parse? ht)).trans ?_
    exact ⟨fun h => ⟨t, rfl, h⟩, fun ⟨t', h, hs⟩ => Option.some.inj h ▸ hs⟩

end Settings

end ScriptedRays

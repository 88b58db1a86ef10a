import ScriptedRays.Proofs.Folding
import ScriptedRays.Proofs.OneLine
import ScriptedRays.Proofs.Precedence

/-!
# Naming — what the options are called

Backends, preferences and verbosities given by hand are read by their names in folded form
(`Backend.readsNames`, `Preference.readsNames`, `Verbosity.readsNames`).  A preference is looked for in two
steps, which fold names in different ways and agree on them (`Preference.parse_eq`).  In a document a name
counts exactly as it stands, for the option that it is read as by hand (`Config.WritesNames`).
-/

namespace ScriptedRays

open Text (folded ReadsNames)

/-! ### Names given by hand -/

theorem Backend.mem_all (b : Backend) : b ∈ all := by
  cases b <;> decide

theorem Backend.name_injective : Function.Injective name := by
  rintro (_ | _ | _ | _) (_ | _ | _ | _) <;> decide

theorem Backend.readsNames : ReadsNames parse name "unknown ray tracing backend: " :=
  Text.readsNames_readName mem_all (fun _ _ h => name_injective h) fun _ => rfl

theorem Verbosity.readsNames : ReadsNames parse name "unknown log level: " :=
  Text.readsNames_readName mem_all (fun _ _ h => name_injective h) fun _ => rfl

theorem Verbosity.folded_name (v : Verbosity) : folded v.name = v.name := by
  rcases v with _ | _ | _ | _ | _ | _ <;> rfl

/-- Showing a verbosity writes its name in upper case, which folds back. -/
theorem Verbosity.folded_label (v : Verbosity) : folded v.label = v.name := by
  rcases v with _ | _ | _ | _ | _ | _ <;> rfl

namespace Preference

theorem folded_name (p : Preference) : folded p.name = p.name := by
  rcases p with _ | _ | _ | _ | _ <;> rfl

/-- Comparing with `auto` letter by letter, whatever their case, is comparing the folded text. -/
theorem parse_eq (s : String) :
    parse s = if folded s = auto.name then .ok auto else (Backend.parse s).map only :=
  if_congr (Text.alike_trim_iff rfl) rfl rfl

theorem only_name_ne_auto (b : Backend) : (only b).name ≠ auto.name := fun h =>
  nomatch name_injective h

theorem readsNames : ReadsNames parse name "unknown ray tracing backend: " := by
  have hok : ∀ s p, folded s = name p → parse s = .ok p := by
    intro s p h
    rw [parse_eq]
    cases p with
    | auto => exact if_pos h
    | only b =>
      rw [if_neg (h ▸ only_name_ne_auto b), (Backend.readsNames.ok s b).2 h]
      rfl
  have herror : ∀ s, (∀ p, folded s ≠ name p) → parse s = .error (.backend (folded s)) := by
    intro s h
    have hbackend : Backend.parse s = .error (.backend (folded s)) :=
      Text.readName_of_folded_ne fun b => h (only b)
    rw [parse_eq, if_neg (h auto), hbackend]
    rfl
  exact Text.readsNames_of hok herror fun _ => rfl

end Preference

/-! ### Names in documents -/

theorem Preference.plain_name (p : Preference) : Toml.Reader.Plain p.name.toList := by
  rcases p with _ | _ | _ | _ | _ <;> exact List.all_eq_true.1 rfl

theorem Verbosity.plain_name (v : Verbosity) : Toml.Reader.Plain v.name.toList := by
  rcases v with _ | _ | _ | _ | _ | _ <;> exact List.all_eq_true.1 rfl

/-- Where a table has a string for a field, this is the name of what it says of the setting. -/
theorem Settings.Gives.eq_of_string {α : Type} {t : Toml.Table} {field s : String} {name : α → String}
    {said : Option α} (h : Gives t field name said) (ht : t.names.Nodup)
    (hfield : (field, .string s) ∈ t) : ∃ a, said = some a ∧ s = name a := by
  cases h with
  | nothing hnot => exact absurd (List.mem_map_of_mem hfield) hnot
  | @setting item a hitem hnames =>
    obtain rfl : item = .string s :=
      congrArg Prod.snd (List.inj_on_of_nodup_map ht hitem hfield rfl)
    cases hnames with
    | string => exact ⟨a, rfl, rfl⟩

namespace Config

/-- In some document a field has this string, and a configuration is read from it. -/
inductive Written (field s : String) (c : Config) : Prop
  | document {text : String} {t : Toml.Table} (hdocument : Toml.Table.parse? text = some t)
      (hfield : (field, .string s) ∈ t) (hread : ofText text = .ok c) : Written field s c

section Written

variable {α : Type} {field : String} {setting : Config → α} {said : Settings → Option α}
  {name : α → String} {parse : String → Except UnknownName α} {wording : String}

/-- The strings that documents may have for a field are exactly the names of what they put in force, and each
of them is read by hand as the same. -/
structure WritesNames (field : String) (setting : Config → α) (name : α → String)
    (parse : String → Except UnknownName α) : Prop where
  exact : ∀ s a, (∃ c, Written field s c ∧ setting c = a) ↔ s = name a
  parse_eq : ∀ s c, Written field s c → parse s = .ok (setting c)

theorem Written.eq_name {s : String} {c : Config} (h : Written field s c)
    (hgives : ∀ t s, Settings.Holds t s → Settings.Gives t field name (said s))
    (hsetting : ∀ s a, said s = some a → setting (update {} s) = a) : s = name (setting c) := by
  obtain ⟨hdocument, hfield, hread⟩ := h
  obtain ⟨t, s, ht, hholds, rfl⟩ := ofText_eq_ok_iff.1 hread
  obtain rfl := Option.some.inj (hdocument.symm.trans ht)
  obtain ⟨a, hsaid, hname⟩ :=
    (hgives _ s hholds).eq_of_string (Toml.Table.nodup_parse? hdocument) hfield
  rw [hsetting s a hsaid, hname]

/-- A document of one line in which a field has this string, if the field by itself gives settings. -/
theorem exists_written {s : String} {given : Settings} (hfield : Toml.Reader.Bare field.toList)
    (hs : Toml.Reader.Plain s.toList) (hholds : Settings.Holds [(field, .string s)] given) :
    ∃ c, Written field s c := by
  have hdocument := Toml.Table.parse?_oneLine hfield hs
  have hread : ofText (Toml.oneLine field s) = .ok (update {} given) :=
    ofText_eq_ok_iff.2 ⟨_, given, hdocument, hholds, rfl⟩
  exact ⟨_, .document hdocument List.mem_cons_self hread⟩

theorem writesNames_of (hreads : ReadsNames parse name wording)
    (hfolded : ∀ a, folded (name a) = name a) (hplain : ∀ a, Toml.Reader.Plain (name a).toList)
    (hfield : Toml.Reader.Bare field.toList)
    (hgives : ∀ t s, Settings.Holds t s → Settings.Gives t field name (said s))
    (hsetting : ∀ s a, said s = some a → setting (update {} s) = a)
    (halone : ∀ a, ∃ s, Settings.Holds [(field, .string (name a))] s) :
    WritesNames field setting name parse := by
  have hread : ∀ a, parse (name a) = .ok a := fun a => (hreads.ok _ a).2 (hfolded a)
  -- distinct names are read as distinct values, because each is read back as its own
  have hname : Function.Injective name := by
    intro a b h
    have hparsed := congrArg parse h
    rwa [hread a, hread b, Except.ok.injEq] at hparsed
  have heq : ∀ s c, Written field s c → s = name (setting c) :=
    fun s c h => h.eq_name hgives hsetting
  refine ⟨fun s a => ⟨?_, ?_⟩, fun s c h => ?_⟩
  · rintro ⟨c, hc, rfl⟩
    exact heq s c hc
  · rintro rfl
    obtain ⟨given, hholds⟩ := halone a
    obtain ⟨c, hc⟩ := exists_written hfield (hplain a) hholds
    exact ⟨c, hc, (hname (heq _ c hc)).symm⟩
  · rw [heq s c h]
    exact hread _

end Written

theorem writesNames_backend :
    WritesNames Settings.backendField backend Preference.name Preference.parse := by
  have hfield : Toml.Reader.Bare Settings.backendField.toList :=
    ⟨by decide, List.all_eq_true.1 rfl⟩
  refine writesNames_of Preference.readsNames Preference.folded_name Preference.plain_name hfield
    (fun _ _ => Settings.Holds.backend) (fun s p hsaid => ?_) fun p => ⟨⟨some p, none⟩, ?_⟩
  · simp [update, hsaid]
  · exact (Settings.holds_concat_backend List.not_mem_nil).2
      ⟨p, {}, Settings.holds_nil.2 rfl, .string, rfl⟩

theorem writesNames_verbosity :
    WritesNames Settings.verbosityField verbosity Verbosity.name Verbosity.parse := by
  have hfield : Toml.Reader.Bare Settings.verbosityField.toList :=
    ⟨by decide, List.all_eq_true.1 rfl⟩
  refine writesNames_of Verbosity.readsNames Verbosity.folded_name Verbosity.plain_name hfield
    (fun _ _ => Settings.Holds.verbosity) (fun s v hsaid => ?_) fun v => ⟨⟨none, some v⟩, ?_⟩
  · simp [update, hsaid]
  · exact (Settings.holds_concat_verbosity List.not_mem_nil).2
      ⟨v, {}, Settings.holds_nil.2 rfl, .string, rfl⟩

/-- **A name is read by hand exactly if what it folds to is the name of an option**, and a failure quotes what
it folds to, which neither blanks around it nor the case of letters change.  Backends and preferences are told
apart by `auto` alone; a verbosity is read back from how it is shown; and in a document a name counts just as
it stands, and counts for what it is read as by hand. -/
theorem names_exact :
    (∀ s w, folded s = w ↔
      ∃ core, Text.Trimmed s.toList core ∧ w.toList = core.map Char.toLower) ∧
    ReadsNames Backend.parse Backend.name "unknown ray tracing backend: " ∧
    ReadsNames Preference.parse Preference.name "unknown ray tracing backend: " ∧
    ReadsNames Verbosity.parse Verbosity.name "unknown log level: " ∧
    (∀ s, folded s ≠ "auto" → Preference.parse s = (Backend.parse s).map .only) ∧
    (∀ s, folded s = "auto" →
      Preference.parse s = .ok .auto ∧ ∃ e, Backend.parse s = .error e) ∧
    (∀ v, Verbosity.parse v.label = .ok v) ∧
    WritesNames Settings.backendField backend Preference.name Preference.parse ∧
    WritesNames Settings.verbosityField verbosity Verbosity.name Verbosity.parse := by
  refine ⟨fun _ _ => Text.folded_eq_iff, Backend.readsNames, Preference.readsNames, Verbosity.readsNames,
    fun s h => ?_, fun s h => ⟨?_, ?_⟩, fun v => ?_, writesNames_backend, writesNames_verbosity⟩
  · exact (Preference.parse_eq s).trans (if_neg h)
  · exact (Preference.parse_eq s).trans (if_pos h)
  · exact (Backend.readsNames.error s).2 fun b hb =>
      Preference.only_name_ne_auto b (hb.symm.trans h)
  · exact (Verbosity.readsNames.ok _ v).2 v.folded_label

/-- An ideographic space and a new line around a name make no difference; the sign of the unit kelvin, whose
lower case is a letter of ASCII, is none itself; and a document that gives `metal` is read. -/
theorem names_exact_spelt :
    Text.Respelt "Vulkan" "\u3000Vulkan\n" ∧
    Preference.parse "\u3000Vulkan\n" = Preference.parse "Vulkan" ∧
    folded "vul\u212aan" ≠ "auto" ∧
    Preference.parse "vul\u212aan" = (Backend.parse "vul\u212aan").map .only ∧
    (∃ e, Backend.parse "vul\u212aan" = .error e ∧
      e.message = "unknown ray tracing backend: vul\u212aan") ∧
    folded " AUTO" = "auto" ∧ Preference.parse " AUTO" = .ok .auto ∧
    ∃ c, Written Settings.backendField "metal" c ∧ Preference.parse "metal" = .ok c.backend := by
  obtain ⟨-, hbackend, hpreference, -, hsame, hauto, -, hwrites, -⟩ := names_exact
  have hrespelt : Text.Respelt "Vulkan" "\u3000Vulkan\n" :=
    .surrounded "\u3000" "\n" (List.all_eq_true.1 rfl) (List.all_eq_true.1 rfl)
  have hkelvin : folded "vul\u212aan" ≠ "auto" := by decide
  have hcapitals : folded " AUTO" = "auto" := rfl
  have herror : Backend.parse "vul\u212aan" = .error (.backend "vul\u212aan") := rfl
  obtain ⟨c, hwritten, -⟩ := (hwrites.exact "metal" (.only .metal)).2 rfl
  exact ⟨hrespelt, hpreference.respelt _ _ hrespelt, hkelvin, hsame _ hkelvin,
    ⟨_, herror, hbackend.message _ _ herror⟩, hcapitals, (hauto _ hcapitals).1,
    c, hwritten, hwrites.parse_eq _ c hwritten⟩

end Config

end ScriptedRays

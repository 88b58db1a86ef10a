import ScriptedRays.Config.Environment

/-!
# Overrides — what variables make of a configuration

A variable that is set says something of a setting if its text is read as one (`Says`), and spoils it
otherwise (`Spoils`).  Variables that both say something or nothing override the configuration setting by
setting.  Of those that spoil one the first is what is complained of; where that is the verbosity, what
the other says of the backend has come into force already (`override_cases`), so a failure leaves the
configuration as it was only if this is what was in force before (`overrides_exact`).
-/

namespace ScriptedRays.Config

/-! ### One variable -/

section Variable

variable {α : Type} {env : Environment} {name : String} {parse : String → Except UnknownName α}

/-- What a variable says of a setting: nothing where it is not set, and otherwise what its text is read
as. -/
inductive Says (env : Environment) (name : String) (parse : String → Except UnknownName α) :
    Option α → Prop
  | nothing (hunset : env name = none) : Says env name parse none
  | setting {text : String} {a : α} (hset : env name = some text) (hparse : parse text = .ok a) :
      Says env name parse (some a)

/-- A variable is set to a text that is not read. -/
inductive Spoils (env : Environment) (name : String) (parse : String → Except UnknownName α) :
    BadVariable → Prop
  | unread {text : String} {cause : UnknownName} (hset : env name = some text)
      (hparse : parse text = .error cause) : Spoils env name parse ⟨name, cause⟩

theorem says_or_spoils (env : Environment) (name : String)
    (parse : String → Except UnknownName α) :
    (∃ said, Says env name parse said) ∨ ∃ bad, Spoils env name parse bad := by
  cases hset : env name with
  | none => exact .inl ⟨none, .nothing hset⟩
  | some text =>
    cases hparse : parse text with
    | ok a => exact .inl ⟨some a, .setting hset hparse⟩
    | error cause => exact .inr ⟨_, .unread hset hparse⟩

theorem Says.readVariable_eq {said : Option α} (h : Says env name parse said) (current : α) :
    readVariable env name parse current = .ok (said.getD current) := by
  unfold readVariable
  cases h with
  | nothing hunset => rw [hunset, Option.getD_none]
  | setting hset hparse =>
    rw [hset]
    simp only [hparse]
    rfl

theorem Spoils.readVariable_eq {bad : BadVariable} (h : Spoils env name parse bad) (current : α) :
    readVariable env name parse current = .error bad := by
  obtain ⟨hset, hparse⟩ := h
  unfold readVariable
  rw [hset]
  simp only [hparse]
  rfl

theorem Says.unique {said said' : Option α} (h : Says env name parse said)
    (h' : Says env name parse said') : said = said' := by
  cases h with
  | nothing hunset =>
    cases h' with
    | nothing => rfl
    | setting hset => exact absurd (hunset.symm.trans hset) nofun
  | setting hset hparse =>
    cases h' with
    | nothing hunset => exact absurd (hunset.symm.trans hset) nofun
    | setting hset' hparse' =>
      obtain rfl := Option.some.inj (hset.symm.trans hset')
      exact congrArg some (Except.ok.inj (hparse.symm.trans hparse'))

/-- A variable that says something spoils nothing. -/
theorem Says.not_spoils {said : Option α} (h : Says env name parse said) (bad : BadVariable) :
    ¬ Spoils env name parse bad := by
  rintro ⟨hset', hparse'⟩
  cases h with
  | nothing hunset => exact absurd (hunset.symm.trans hset') nofun
  | setting hset hparse =>
    obtain rfl := Option.some.inj (hset.symm.trans hset')
    exact absurd (hparse.symm.trans hparse') nofun

end Variable

/-! ### Both variables -/

/-- What the variable of the backend says. -/
abbrev SaysBackend (env : Environment) : Option Preference → Prop :=
  Says env backendVariable Preference.parse

/-- What the variable of the verbosity says. -/
abbrev SaysVerbosity (env : Environment) : Option Verbosity → Prop :=
  Says env verbosityVariable Verbosity.parse

/-- The first variable that spoils its setting. -/
inductive FirstSpoilt (env : Environment) : BadVariable → Prop
  | backend {bad : BadVariable} (h : Spoils env backendVariable Preference.parse bad) :
      FirstSpoilt env bad
  | verbosity {said : Option Preference} {bad : BadVariable} (hsaid : SaysBackend env said)
      (h : Spoils env verbosityVariable Verbosity.parse bad) : FirstSpoilt env bad

section Override

variable {c : Config} {env : Environment} {backend : Option Preference} {verbosity : Option Verbosity}
  {bad : BadVariable}

theorem override_of_said (hbackend : SaysBackend env backend)
    (hverbosity : SaysVerbosity env verbosity) :
    c.override env = (⟨backend.getD c.backend, verbosity.getD c.verbosity⟩, .ok ()) := by
  simp only [override, hbackend.readVariable_eq, hverbosity.readVariable_eq]

theorem override_of_bad_backend (h : Spoils env backendVariable Preference.parse bad) :
    c.override env = (c, .error bad) := by
  simp only [override, h.readVariable_eq]

/-- What the first variable says has come into force before the second one is read. -/
theorem override_of_bad_verbosity (hbackend : SaysBackend env backend)
    (h : Spoils env verbosityVariable Verbosity.parse bad) :
    c.override env = (⟨backend.getD c.backend, c.verbosity⟩, .error bad) := by
  simp only [override, hbackend.readVariable_eq, h.readVariable_eq]

end Override

/-- What overriding a configuration comes to. -/
inductive Overridden (c : Config) (env : Environment) : Config × Except BadVariable Unit → Prop
  | done {backend : Option Preference} {verbosity : Option Verbosity}
      (hbackend : SaysBackend env backend) (hverbosity : SaysVerbosity env verbosity) :
      Overridden c env (⟨backend.getD c.backend, verbosity.getD c.verbosity⟩, .ok ())
  | badBackend {bad : BadVariable} (h : Spoils env backendVariable Preference.parse bad) :
      Overridden c env (c, .error bad)
  | badVerbosity {backend : Option Preference} {bad : BadVariable}
      (hbackend : SaysBackend env backend)
      (h : Spoils env verbosityVariable Verbosity.parse bad) :
      Overridden c env (⟨backend.getD c.backend, c.verbosity⟩, .error bad)

theorem override_cases (c : Config) (env : Environment) : Overridden c env (c.override env) := by
  rcases says_or_spoils env backendVariable Preference.parse with ⟨backend, hbackend⟩ | ⟨bad, hbad⟩
  · rcases says_or_spoils env verbosityVariable Verbosity.parse with
      ⟨verbosity, hverbosity⟩ | ⟨bad, hbad⟩
    · exact override_of_said (c := c) hbackend hverbosity ▸ .done hbackend hverbosity
    · exact override_of_bad_verbosity (c := c) hbackend hbad ▸ .badVerbosity hbackend hbad
  · exact override_of_bad_backend (c := c) hbad ▸ .badBackend hbad

/-- A failure leaves a backend that was said before in force, and all else as it was. -/
theorem left_by_failure {c : Config} {env : Environment} {bad : BadVariable}
    (h : (c.override env).2 = .error bad) :
    ((∀ p, ¬ SaysBackend env (some p)) ∧ (c.override env).1 = c) ∨
      ∃ p, SaysBackend env (some p) ∧ (c.override env).1 = { c with backend := p } := by
  have hcases := override_cases c env
  generalize c.override env = result at h hcases
  cases hcases with
  | done => exact absurd h nofun
  | badBackend hbad => exact .inl ⟨fun p hp => hp.not_spoils _ hbad, rfl⟩
  | @badVerbosity said _ hbackend _ =>
    cases said with
    | none => exact .inl ⟨fun p hp => absurd (hbackend.unique hp) nofun, rfl⟩
    | some p => exact .inr ⟨p, hbackend, rfl⟩

theorem error_iff_firstSpoilt {c : Config} {env : Environment} {bad : BadVariable} :
    (c.override env).2 = .error bad ↔ FirstSpoilt env bad := by
  constructor
  · intro h
    have hcases := override_cases c env
    generalize c.override env = result at h hcases
    cases hcases with
    | done => exact absurd h nofun
    | badBackend hbad => exact Except.error.inj h ▸ .backend hbad
    | badVerbosity hbackend hbad => exact Except.error.inj h ▸ .verbosity hbackend hbad
  · rintro (hbad | ⟨hbackend, hbad⟩)
    · rw [override_of_bad_backend hbad]
    · rw [override_of_bad_verbosity hbackend hbad]

/-- Some variable comes first if there is one that spoils its setting. -/
theorem exists_firstSpoilt_iff {env : Environment} :
    (∃ bad, FirstSpoilt env bad) ↔
      (∃ bad, Spoils env backendVariable Preference.parse bad) ∨
        ∃ bad, Spoils env verbosityVariable Verbosity.parse bad := by
  constructor
  · rintro ⟨bad, hbad | ⟨-, hbad⟩⟩
    · exact .inl ⟨bad, hbad⟩
    · exact .inr ⟨bad, hbad⟩
  · intro h
    rcases says_or_spoils env backendVariable Preference.parse with ⟨said, hsaid⟩ | ⟨bad, hbad⟩
    · obtain ⟨bad, hbad⟩ := h.resolve_left fun ⟨bad, hbad⟩ => hsaid.not_spoils bad hbad
      exact ⟨bad, .verbosity hsaid hbad⟩
    · exact ⟨bad, .backend hbad⟩

/-- **Overriding fails at the first variable that spoils its setting, and does not take back what was
said before.**  It succeeds if no variable spoils its setting; then each setting is what its variable says,
and what it was where the variable says nothing.  Where it fails the verbosity is what it was, and the
backend is what its variable says of it, if it says anything: so the configuration is what it was exactly
if that is no other backend. -/
theorem overrides_exact (c : Config) (env : Environment) :
    (∀ bad, (c.override env).2 = .error bad ↔ FirstSpoilt env bad) ∧
    ((∃ bad, (c.override env).2 = .error bad) ↔
      (∃ bad, Spoils env backendVariable Preference.parse bad) ∨
        ∃ bad, Spoils env verbosityVariable Verbosity.parse bad) ∧
    ((c.override env).2 = .ok () →
      ∃ backend verbosity, SaysBackend env backend ∧ SaysVerbosity env verbosity ∧
        (c.override env).1 = ⟨backend.getD c.backend, verbosity.getD c.verbosity⟩) ∧
    ∀ bad, (c.override env).2 = .error bad →
      (c.override env).1.verbosity = c.verbosity ∧
      (∀ p, SaysBackend env (some p) → (c.override env).1.backend = p) ∧
      ((∀ p, ¬ SaysBackend env (some p)) → (c.override env).1 = c) ∧
      ((c.override env).1 = c ↔ ∀ p, SaysBackend env (some p) → p = c.backend) := by
  refine ⟨fun bad => error_iff_firstSpoilt, ?_, fun h => ?_, fun bad h => ?_⟩
  · simp only [error_iff_firstSpoilt, exists_firstSpoilt_iff]
  · have hcases := override_cases c env
    generalize c.override env = result at h hcases
    cases hcases with
    | done hbackend hverbosity => exact ⟨_, _, hbackend, hverbosity, rfl⟩
    | badBackend => exact absurd h nofun
    | badVerbosity => exact absurd h nofun
  -- what a failure leaves is the backend read before it, if there was one, and nothing else
  · rcases left_by_failure h with ⟨hnone, heq⟩ | ⟨p, hp, heq⟩
    · rw [heq]
      exact ⟨rfl, fun p hp => absurd hp (hnone p), fun _ => rfl,
        iff_of_true rfl fun p hp => absurd hp (hnone p)⟩
    · have hsame : ∀ q, SaysBackend env (some q) → p = q := fun q hq => Option.some.inj (hp.unique hq)
      rw [heq]
      refine ⟨rfl, hsame, fun hnone => absurd hp (hnone p), fun h q hq => ?_, fun h => ?_⟩
      · rw [← hsame q hq, ← h]
      · rw [h p hp]

/-- A good backend and a bad verbosity. -/
def loud : Environment := fun name =>
  if name = backendVariable then some "Vulkan"
  else if name = verbosityVariable then some "loud"
  else none

theorem overrides_exact_loud :
    Spoils loud verbosityVariable Verbosity.parse ⟨verbosityVariable, .verbosity "loud"⟩ ∧
    SaysBackend loud (some (.only .vulkan)) ∧
    (({} : Config).override loud).2 = .error ⟨verbosityVariable, .verbosity "loud"⟩ ∧
    (({} : Config).override loud).1.backend = .only .vulkan ∧
    (({} : Config).override loud).1.verbosity = .upTo .info := by
  have hgood : loud backendVariable = some "Vulkan" := rfl
  have hloud : loud verbosityVariable = some "loud" := rfl
  have hbackend : SaysBackend loud (some (.only .vulkan)) := .setting hgood rfl
  have hspoils : Spoils loud verbosityVariable Verbosity.parse
      ⟨verbosityVariable, .verbosity "loud"⟩ := .unread hloud rfl
  obtain ⟨herror, -, -, hleft⟩ := overrides_exact {} loud
  have hfails := (herror _).2 (.verbosity hbackend hspoils)
  obtain ⟨hverbosity, hsaid, -, -⟩ := hleft _ hfails
  exact ⟨hspoils, hbackend, hfails, hsaid _ hbackend, hverbosity⟩

/-- A failure does not leave every configuration as it was. -/
theorem good_backend_outlives_failure :
    ¬ ∀ (c : Config) (env : Environment) (bad : BadVariable),
      (c.override env).2 = .error bad → (c.override env).1 = c := by
  intro h
  have hsame := h {} loud ⟨verbosityVariable, .verbosity "loud"⟩ rfl
  exact absurd hsame (by decide)

end ScriptedRays.Config

import Winnow.Proofs.Text.Recognition

set_option autoImplicit false

/-!
# Settings of an environment

Three variables of an environment are read. A level that cannot be used is reported in a record and
replaced; a flag that cannot be used is bad, and counts as unset. Whether the settings are validated
decides only what becomes of the bad flags: each of them is one error, or else one record.

## Main definitions

* `Winnow.Settings.IsBad`, `Winnow.Settings.badFlags` — the flags of an environment that cannot be
  used.
* `Winnow.Settings.ReadsAsSet` — a flag of an environment counts as set.
* `Winnow.Settings.IsLevelUnusable` — the level of an environment cannot be used.
* `Winnow.Settings.given` — the settings that an environment stands for.

## Main results

* `Winnow.Settings.readFlag_eq`, `Winnow.Settings.readLevel_eq` — what is read of one variable.
* `Winnow.Settings.validated_eq` — validating settings that name a level adds no error.
* `Winnow.Settings.ofEnvironment_eq` — what an environment comes to.
* `Winnow.Settings.problems_reported_once` — and what is reported of it.
-/

namespace Winnow.Settings

/-! ## Flags -/

/-- The variables that hold flags, in the order in which they are read. -/
def flagNames : List String :=
  ["ALLOW_MISSING_FIELDS", "STRICT_NUMERIC_VALUES"]

/-- A flag cannot be used: it is set, and neither blank nor one of the words for flags. -/
def IsBad (env : Environment) (name : String) : Prop :=
  ∃ raw ∈ env.lookup name, Text.trim raw ≠ "" ∧ ¬ IsOneOf (trueWords ++ falseWords) raw

/-- A flag counts as set: it is not given, or blank, or one of the words for set flags. -/
def ReadsAsSet (env : Environment) (name : String) : Prop :=
  ∀ raw ∈ env.lookup name, Text.trim raw = "" ∨ IsOneOf trueWords raw

instance (env : Environment) (name : String) : Decidable (IsBad env name) :=
  inferInstanceAs (Decidable (∃ raw ∈ env.lookup name, _))

instance (env : Environment) (name : String) : Decidable (ReadsAsSet env name) :=
  inferInstanceAs (Decidable (∀ raw ∈ env.lookup name, _))

/-- The flags of an environment that cannot be used, in order. -/
def badFlags (env : Environment) : List String :=
  flagNames.filter fun name => IsBad env name

/-- What is reported of a flag that cannot be used. -/
def flagReport (env : Environment) (name : String) : String :=
  flagError name ((env.lookup name).getD "")

/-- A flag that cannot be used does not count as set. -/
theorem IsBad.not_readsAsSet {env : Environment} {name : String} (h : IsBad env name) :
    ¬ ReadsAsSet env name := by
  obtain ⟨raw, hraw, hblank, hwords⟩ := h
  intro hset
  rw [isOneOf_append, not_or] at hwords
  exact (hset raw hraw).elim hblank hwords.1

/-- What is read of a flag that is set by default: whether it counts as set, and the one thing that
is wrong with it if it cannot be used. -/
theorem readFlag_eq (env : Environment) (name : String) :
    readFlag env name true =
      (decide (ReadsAsSet env name), if IsBad env name then [flagReport env name] else []) := by
  cases hraw : env.lookup name with
  | none => simp [readFlag, ReadsAsSet, IsBad, hraw]
  | some raw =>
    have hset : ReadsAsSet env name ↔ Text.trim raw = "" ∨ IsOneOf trueWords raw := by
      simp [ReadsAsSet, hraw]
    have hbad : IsBad env name ↔
        ¬ (Text.trim raw = "" ∨ IsOneOf (trueWords ++ falseWords) raw) := by
      simp [IsBad, hraw]
    simp only [readFlag_of_some hraw, hset, hbad, ite_not, and_true, flagReport, hraw,
      Option.getD_some]

/-- What is wrong with the two flags are the reports of those that cannot be used. -/
theorem errors_eq (env : Environment) :
    (readFlag env "ALLOW_MISSING_FIELDS" true).2 ++ (readFlag env "STRICT_NUMERIC_VALUES" true).2 =
      (badFlags env).map (flagReport env) := by
  simp only [readFlag_eq, badFlags, flagNames, List.filter_cons, List.filter_nil, decide_eq_true_eq]
  split <;> split <;> rfl

/-! ## Levels -/

/-- The level of an environment cannot be used: it is given, and names no level. -/
def IsLevelUnusable (env : Environment) : Prop :=
  ∃ raw ∈ env.lookup "LOG_LEVEL", ∀ name, ¬ NamesLevel raw name

/-- The record of a level that cannot be used. -/
def levelReport (env : Environment) : Record :=
  ⟨.warning, .settings, "Invalid LOG_LEVEL '" ++
    Text.upper (Text.trim ((env.lookup "LOG_LEVEL").getD "")) ++ "', defaulting to INFO"⟩

/-- What is read of the level: the one that is named, without a record, or else `INFO`, with a
record if a level is given. -/
theorem readLevel_eq (env : Environment) :
    (IsLevelUnusable env ∧ readLevel env = ("INFO", [levelReport env])) ∨
      (¬ IsLevelUnusable env ∧ ∃ name ∈ levelNames, readLevel env = (name, []) ∧
        ∀ raw ∈ env.lookup "LOG_LEVEL", NamesLevel raw name) := by
  cases hraw : env.lookup "LOG_LEVEL" with
  | none =>
    right
    refine ⟨by simp [IsLevelUnusable, hraw], "INFO", by decide, ?_, by simp⟩
    have himage : Text.trim (Text.upper "INFO") = "INFO" := by decide +kernel
    have hmem : levelNames.contains "INFO" = true := by decide
    simp only [readLevel, hraw, Option.getD_none, himage, hmem, if_true]
  | some raw =>
    by_cases hnamed : ∃ name, NamesLevel raw name
    · obtain ⟨name, hname⟩ := hnamed
      right
      refine ⟨?_, name, hname.1, (readLevel_eq_iff hraw).mpr hname, by simpa using hname⟩
      rintro ⟨raw', hraw', hnone⟩
      obtain rfl : raw = raw' := Option.some.inj (hraw.symm.trans hraw')
      exact hnone name hname
    · left
      rw [not_exists] at hnamed
      refine ⟨⟨raw, hraw, hnamed⟩, ?_⟩
      have hword : Text.upper (Text.trim raw) ∉ levelNames := fun hmem =>
        hnamed _ (namesLevel_iff.mpr ⟨hmem, Text.trim_upper raw⟩)
      rw [readLevel, levelReport, hraw, Option.getD_some, Text.trim_upper,
        if_neg (mt List.contains_iff_mem.mp hword), Option.getD_some]

/-! ## Validation -/

/-- Nothing is wrong with settings that name a level. -/
theorem errors_ofSettings {s : Settings} (h : s.logLevel ∈ levelNames) :
    (Draft.ofSettings s).errors = .ok [] := by
  have hlevel : Draft.levelErrors (.text s.logLevel) = .ok [] := by
    rw [Draft.levelErrors, if_pos (List.contains_iff_mem.mpr h)]
  simp [Draft.errors, Draft.ofSettings, Draft.flagErrors, hlevel]

/-- Validating settings that name a level adds no error to those there were. -/
theorem validated_eq {s : Settings} (h : s.logLevel ∈ levelNames) (errors : List String) :
    s.validated errors = if errors = [] then .ok s else .error (.configuration errors) := by
  rw [validated, errors_ofSettings h]
  cases errors with
  | nil => rfl
  | cons error errors =>
    exact congrArg (fun es => Except.error (Fault.configuration es)) (List.append_nil _)

/-! ## Environments -/

/-- The settings that an environment stands for, whether or not they pass validation. -/
def given (env : Environment) : Settings :=
  ⟨decide (ReadsAsSet env "ALLOW_MISSING_FIELDS"), decide (ReadsAsSet env "STRICT_NUMERIC_VALUES"),
    (readLevel env).1⟩

/-- The level that an environment stands for is one of the names. -/
theorem logLevel_given_mem (env : Environment) : (given env).logLevel ∈ levelNames := by
  rw [given]
  rcases readLevel_eq env with ⟨-, hread⟩ | ⟨-, name, hname, hread, -⟩
  · rw [hread]
    simp [levelNames]
  · rwa [hread]

/-- What an environment comes to, with and without validation. -/
theorem ofEnvironment_eq (env : Environment) (validate : Bool) :
    ofEnvironment env validate =
      if validate then
        (if badFlags env = [] then .ok (given env)
          else .error (.configuration ((badFlags env).map (flagReport env))), (readLevel env).2)
      else
        (.ok (given env), (readLevel env).2 ++
          (badFlags env).map fun name => ⟨.warning, .settings, flagReport env name⟩) := by
  have hread : ofEnvironment env validate =
      if validate then
        ((given env).validated ((badFlags env).map (flagReport env)), (readLevel env).2)
      else (.ok (given env), (readLevel env).2 ++
        ((badFlags env).map (flagReport env)).map (⟨.warning, .settings, ·⟩)) := by
    have hallow := readFlag_eq env "ALLOW_MISSING_FIELDS"
    have hstrict := readFlag_eq env "STRICT_NUMERIC_VALUES"
    rw [ofEnvironment, given, ← errors_eq, hallow, hstrict]
  rw [hread, validated_eq (logLevel_given_mem env), List.map_map]
  simp only [List.map_eq_nil_iff, Function.comp_def]

/-- **What becomes of an environment.** There are settings, which hold what settings may hold, such
that reading without validation comes to them, and reading with validation comes to them if no flag
is bad, and else to a fault with one error for each bad flag, in order. A flag is set in them if it
is not given, blank or one of the words for set flags, and so a bad one is unset; the level is the
one that is named, or `INFO`. In both cases one record, the first, tells that the level cannot be
used, if so; only without validation, one record for each bad flag follows, in order. Environments
with the same three variables come to the same.

**Proof sketch.** What is read of each variable (`readFlag_eq`, `readLevel_eq`) does not depend on
the others. The level that is read is always one of the names, so validation finds nothing else to
report (`validated_eq`). -/
theorem problems_reported_once (env : Environment) :
    ∃ settings levelRecords,
      ofEnvironment env false = (.ok settings,
        levelRecords ++ (badFlags env).map fun name => ⟨.warning, .settings, flagReport env name⟩) ∧
      ofEnvironment env true =
        (if badFlags env = [] then .ok settings
          else .error (.configuration ((badFlags env).map (flagReport env))), levelRecords) ∧
      (Draft.ofSettings settings).errors = .ok [] ∧ settings.logLevel ∈ levelNames ∧
      (settings.allowMissing = true ↔ ReadsAsSet env "ALLOW_MISSING_FIELDS") ∧
      (settings.strict = true ↔ ReadsAsSet env "STRICT_NUMERIC_VALUES") ∧
      (∀ name ∈ badFlags env, ¬ ReadsAsSet env name) ∧
      (IsLevelUnusable env → levelRecords = [levelReport env] ∧ settings.logLevel = "INFO") ∧
      (¬ IsLevelUnusable env → levelRecords = [] ∧
        ∀ raw ∈ env.lookup "LOG_LEVEL", NamesLevel raw settings.logLevel) ∧
      ∀ env' : Environment,
        (∀ name ∈ "LOG_LEVEL" :: flagNames, env'.lookup name = env.lookup name) →
        ∀ validate, ofEnvironment env' validate = ofEnvironment env validate := by
  have hlevel := logLevel_given_mem env
  refine ⟨given env, (readLevel env).2, ofEnvironment_eq env false, ofEnvironment_eq env true,
    errors_ofSettings hlevel, hlevel, decide_eq_true_iff, decide_eq_true_iff, ?_, ?_, ?_, ?_⟩
  · intro name hname
    have hbad : IsBad env name := of_decide_eq_true (List.mem_filter.mp hname).2
    exact hbad.not_readsAsSet
  · intro hunusable
    rcases readLevel_eq env with ⟨-, hread⟩ | ⟨husable, -⟩
    · simp [given, hread]
    · exact absurd hunusable husable
  · intro husable
    rcases readLevel_eq env with ⟨hunusable, -⟩ | ⟨-, name, -, hread, hnames⟩
    · exact absurd hunusable husable
    · simpa [given, hread] using hnames
  · intro env' hsame validate
    have hlevel := hsame "LOG_LEVEL" (by simp)
    have hallow := hsame "ALLOW_MISSING_FIELDS" (by simp [flagNames])
    have hstrict := hsame "STRICT_NUMERIC_VALUES" (by simp [flagNames])
    simp only [ofEnvironment, readFlag, readLevel, hlevel, hallow, hstrict]

/-- An environment with a level and a flag that cannot be used, a blank flag, and a variable that is
not read. -/
theorem problems_reported_once_maybe :
    let env : Environment := [("STRICT_NUMERIC_VALUES", "maybe"), ("ALLOW_MISSING_FIELDS", " \t"),
      ("LOG_LEVEL", "loud")]
    let error := "Invalid STRICT_NUMERIC_VALUES: 'maybe' is not a boolean"
    let record : Record := ⟨.warning, .settings, "Invalid LOG_LEVEL 'LOUD', defaulting to INFO"⟩
    badFlags env = ["STRICT_NUMERIC_VALUES"] ∧
      ofEnvironment env true = (.error (.configuration [error]), [record]) ∧
      ofEnvironment env false =
        (.ok ⟨true, false, "INFO"⟩, [record, ⟨.warning, .settings, error⟩]) ∧
      ∀ validate, ofEnvironment (("DEBUG", "1") :: env) validate = ofEnvironment env validate := by
  intro env error record
  obtain ⟨-, -, -, -, -, -, -, -, -, -, -, hother⟩ := problems_reported_once env
  exact ⟨by decide +kernel, by decide +kernel, by decide +kernel,
    hother (("DEBUG", "1") :: env) (by decide)⟩

end Winnow.Settings

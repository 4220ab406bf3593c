import Winnow.Host
import Winnow.Log.Channel
import Winnow.Text.Case

set_option autoImplicit false

/-!
# Settings

The policies of filters and the level of records, as variables of the environment give them. What
cannot be used is reported: a level always as a record, a flag as an error or as a record.

## Main definitions

* `Winnow.Settings` — the settings.
* `Winnow.Settings.numericLevel`, `Winnow.Settings.rank` — what the level stands for, and its rank.
* `Winnow.Draft` — settings whose values may be of any kind, with `Winnow.Draft.errors`.
* `Winnow.Settings.readFlag` — a flag of the environment, and what is wrong with it.
* `Winnow.Settings.validated` — settings that have passed validation.
* `Winnow.Settings.ofEnvironment` — the settings of an environment.
-/

namespace Winnow

/-- The settings of the library. -/
structure Settings where
  allowMissing : Bool
  strict : Bool
  logLevel : String
deriving DecidableEq

namespace Settings

/-- The settings where nothing is said. -/
def default : Settings :=
  ⟨true, true, "INFO"⟩

/-- The names of levels that settings may hold, in alphabetic order. -/
def levelNames : List String :=
  ["CRITICAL", "DEBUG", "ERROR", "INFO", "WARNING"]

/-! ## Levels -/

/-- The rank of a level by its name. Some names are synonyms, and one stands for no level at all. -/
def rankOfName? (name : String) : Option Nat :=
  match name with
  | "DEBUG" => some 10
  | "INFO" => some 20
  | "WARNING" | "WARN" => some 30
  | "ERROR" => some 40
  | "CRITICAL" | "FATAL" => some 50
  | "NOTSET" => some 0
  | _ => none

/-- The rank of what stands in the place of a level. Besides numbers, the names of levels will do.
-/
def rankOf : NamedThing → Except Fault Nat
  | .number rank => .ok rank
  | .text name =>
    match rankOfName? name with
    | some rank => .ok rank
    | none => .error (.unknownRank name)
  | .other shown => .error (.notALevel shown)

variable [Host]

/-- What the level of the settings stands for: the rank of a level, or what else the host knows by
its name. Only a name without any meaning counts as `INFO`. -/
def numericLevel (s : Settings) : NamedThing :=
  match rankOfName? s.logLevel with
  | some rank => .number rank
  | none => (Host.loggingName? s.logLevel).getD (.number Level.info.rank)

/-- The rank of the level of the settings. -/
def rank (s : Settings) : Except Fault Nat :=
  rankOf s.numericLevel

end Settings

/-! ## Drafts -/

/-- The value of a setting, by its kind. -/
inductive SettingValue where
  | flag (value : Bool)
  | text (value : String)
  /-- A collection, whose kind has a name. -/
  | collection (kind : String)
  /-- Anything else. -/
  | other
deriving DecidableEq

/-- Settings whose values may be of any kind. -/
structure Draft where
  allowMissing : SettingValue
  strict : SettingValue
  logLevel : SettingValue
deriving DecidableEq

namespace Draft

/-- The draft that holds some settings. -/
def ofSettings (s : Settings) : Draft :=
  ⟨.flag s.allowMissing, .flag s.strict, .text s.logLevel⟩

/-- What is wrong with a setting that has to be a flag. -/
def flagErrors (name : String) : SettingValue → List String
  | .flag _ => []
  | _ => [name ++ " must be a boolean"]

/-- What is wrong with the level of a draft. A collection cannot even be looked up. -/
def levelErrors : SettingValue → Except Fault (List String)
  | .collection kind => .error (.collectionAsName kind)
  | .text name => .ok (if Settings.levelNames.contains name then [] else [message])
  | _ => .ok [message]
where
  /-- The levels that there are. -/
  message : String := "LOG_LEVEL must be one of " ++ ", ".intercalate Settings.levelNames

/-- Everything that is wrong with a draft. -/
def errors (d : Draft) : Except Fault (List String) := do
  let level ← levelErrors d.logLevel
  return level ++ flagErrors "ALLOW_MISSING_FIELDS" d.allowMissing
    ++ flagErrors "STRICT_NUMERIC_VALUES" d.strict

end Draft

namespace Settings

/-! ## Environments -/

/-- The variables of an environment. -/
abbrev Environment : Type := List (String × String)

/-- The spellings of a set flag. -/
def trueWords : List String := ["true", "1", "yes"]

/-- The spellings of an unset flag. -/
def falseWords : List String := ["false", "0", "no"]

/-- What is wrong with a flag. -/
def flagError (name raw : String) : String :=
  "Invalid " ++ name ++ ": '" ++ raw ++ "' is not a boolean"

/-- The value of a flag of an environment, and what is wrong with it. A flag that is missing or
blank has its default, one that cannot be used is unset. -/
def readFlag (env : Environment) (name : String) (default : Bool) : Bool × List String :=
  match env.lookup name with
  | none => (default, [])
  | some raw =>
    if (Text.trim raw).isEmpty then (default, [])
    else
      let word := Text.trim (Text.lower raw)
      if trueWords.contains word then (true, [])
      else if falseWords.contains word then (false, [])
      else (false, [flagError name raw])

/-- The name of the level of an environment, and the record of one that cannot be used. -/
def readLevel (env : Environment) : String × List Record :=
  let word := Text.trim (Text.upper ((env.lookup "LOG_LEVEL").getD "INFO"))
  if levelNames.contains word then (word, [])
  else ("INFO",
    [⟨.warning, .settings, "Invalid LOG_LEVEL '" ++ word ++ "', defaulting to INFO"⟩])

/-- The settings, if nothing was wrong with what they were read from and they hold what settings may
hold. Else everything that is wrong is reported at once. -/
def validated (s : Settings) (errors : List String) : Except Fault Settings := do
  let errors := errors ++ (← (Draft.ofSettings s).errors)
  if errors.isEmpty then return s else .error (.configuration errors)

/-- The settings of an environment, and the records written while they are read. Flags that cannot
be used are an error if the settings are to be validated, and else are reported in records. -/
def ofEnvironment (env : Environment) (validate : Bool) : Except Fault Settings × List Record :=
  let (allowMissing, allowErrors) := readFlag env "ALLOW_MISSING_FIELDS" true
  let (strict, strictErrors) := readFlag env "STRICT_NUMERIC_VALUES" true
  let (logLevel, records) := readLevel env
  let errors := allowErrors ++ strictErrors
  let settings : Settings := ⟨allowMissing, strict, logLevel⟩
  if validate then (settings.validated errors, records)
  else (.ok settings, records ++ errors.map (⟨.warning, .settings, ·⟩))

end Settings

end Winnow

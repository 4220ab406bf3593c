import Winnow.Criterion.Basic
import Winnow.Number.Comparable
import Winnow.Pattern.Flaw

set_option autoImplicit false

/-!
# Faults

What can go wrong, and the messages that tell it. A criterion that cannot be evaluated is the
common fault; the others are operators without a meaning, texts that should be numbers, texts that
are missing, patterns beyond the limits, and settings that cannot be used.

## Main definitions

* `Winnow.Problem` — why a criterion cannot be evaluated.
* `Winnow.Fault` — all faults, and `Winnow.Fault.message`, their messages.
* `Winnow.Cause` — what lies behind a fault, and its message.
-/

namespace Winnow

/-- Why a criterion cannot be evaluated against a value. -/
inductive Problem where
  /-- A numeric criterion meets no value. -/
  | absent
  /-- A numeric criterion meets a value that is no comparable number. -/
  | notNumeric (error : NumberError)
  /-- The text of a numeric criterion is no comparable number. -/
  | thresholdNotNumeric (error : NumberError)
  /-- The text of a criterion is not a pattern. -/
  | invalidPattern (error : Pattern.Malformed)
deriving DecidableEq

/-- The detail that a message gives of a problem. -/
def Problem.detail : Problem → String
  | absent => "resource has no value for this property"
  | notNumeric _ => "resource value is not numeric"
  | thresholdNotNumeric _ => "comparison value is not numeric"
  | invalidPattern error => "invalid regular expression: " ++ error.message

/-- What lies behind a fault. -/
inductive Cause where
  | number (error : NumberError)
  | pattern (error : Pattern.Malformed)
deriving DecidableEq

/-- The message of a cause. -/
def Cause.message : Cause → String
  | number error => error.message
  | pattern error => error.message

/-- The name of the kind of a cause, as it is reported. -/
def Cause.kind : Cause → String
  | number _ => "ValueError"
  | pattern _ => "error"

/-- What lies behind a problem. -/
def Problem.cause? : Problem → Option Cause
  | absent => none
  | notNumeric error => some (.number error)
  | thresholdNotNumeric error => some (.number error)
  | invalidPattern error => some (.pattern error)

/-- What a missing text was needed for. -/
inductive TextUse where
  /-- To be read as a number. -/
  | number
  /-- To be read as true or false. -/
  | truth
deriving DecidableEq

/-- What can go wrong. -/
inductive Fault where
  /-- No operator has the name. -/
  | unknownOperator (name : String)
  /-- A text that has to be a comparable number is none. -/
  | number (error : NumberError)
  /-- A text to compare with is missing. -/
  | missingText (use : TextUse)
  /-- A text to match against is missing. -/
  | missingPattern
  /-- A pattern cannot be carried out. -/
  | limit (limit : Pattern.Limit)
  /-- A criterion cannot be evaluated. -/
  | evaluation (criterion : Criterion) (problem : Problem)
  /-- Settings cannot be used. -/
  | configuration (errors : List String)
  /-- A setting that has to be a name is a collection of the given kind. -/
  | collectionAsName (kind : String)
  /-- A text that the level of the settings stands for is the name of no level. -/
  | unknownRank (name : String)
  /-- The level of the settings stands for something that is neither a number nor a text. -/
  | notALevel (shown : String)
  /-- No level of the journal has the name. -/
  | unknownLevel (name : String)
  /-- No action of the journal has the name. -/
  | unknownAction (name : String)
  /-- Nothing of the kind that is asked for has the name. -/
  | unknownObject (name : String)
deriving DecidableEq

namespace Fault

/-- The message of a fault. -/
def message : Fault → String
  | unknownOperator name =>
    "Unknown comparison operator '" ++ name ++ "' (expected one of: "
      ++ ", ".intercalate (Operator.all.map Operator.name) ++ ")"
  | number error => error.message
  | missingText .number => "'NoneType' object has no attribute 'strip'"
  | missingText .truth => "'NoneType' object has no attribute 'lower'"
  | missingPattern => "first argument must be string or compiled pattern"
  | limit l => l.text
  | evaluation criterion problem =>
    "Cannot evaluate '" ++ criterion.render ++ "': " ++ problem.detail
  | configuration errors => "Configuration validation failed: " ++ Text.quoteList errors
  | collectionAsName kind => "unhashable type: " ++ Text.quote kind
  | unknownRank name => "Unknown level: " ++ Text.quote name
  | notALevel shown => "Level not an integer or a valid string: " ++ shown
  | unknownLevel name => Text.quote name ++ " is not a valid LogLevel"
  | unknownAction name => Text.quote name ++ " is not a valid ActionType"
  | unknownObject name => Text.quote name

/-- The name of the kind of a fault, as it is reported. -/
def kind : Fault → String
  | unknownOperator _ | number _ | unknownRank _ | unknownLevel _ | unknownAction _ => "ValueError"
  | missingText _ => "AttributeError"
  | missingPattern | collectionAsName _ | notALevel _ => "TypeError"
  | limit .hugeRepeat | limit .hugeCodePoint => "OverflowError"
  | limit (.longRepeat _) | limit .contradictoryFlags => "ValueError"
  | evaluation _ _ => "CriterionEvaluationError"
  | configuration _ => "ConfigurationError"
  | unknownObject _ => "KeyError"

/-- What lies behind a fault. -/
def cause? : Fault → Option Cause
  | evaluation _ problem => problem.cause?
  | _ => none

end Fault

/-- The operator with a name. -/
def Operator.resolve (name : String) : Except Fault Operator :=
  match Operator.ofName? name with
  | some o => .ok o
  | none => .error (.unknownOperator name)

end Winnow

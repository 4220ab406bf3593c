import Winnow.Fault
import Winnow.Pattern.Matcher
import Winnow.Pattern.Reader

set_option autoImplicit false

/-!
# Evaluating criteria

Whether the value that a resource has for a property, or its absence, satisfies a criterion.

## Main definitions

* `Winnow.isTrue` — texts that ask for presence.
* `Winnow.Criterion.requiredTruth`, `Winnow.Criterion.requiredNumber` — a text as a truth value or
  as a comparable number, where one is required.
* `Winnow.Criterion.threshold` — the number that a numeric criterion compares with.
* `Winnow.Criterion.evaluate` — the outcome for a value.

## Design

A missing value is decided by each operator for itself: it is not equal to anything, it is what
presence asks about, it has no number, and for a pattern the policy on missing fields decides.
-/

namespace Winnow

/-- Texts that ask for presence: the spellings of `true` in upper and lower case. -/
def isTrue (text : String) : Bool :=
  Text.lower text == "true"

namespace Criterion

/-- The text of a criterion as a truth value, where one is required. -/
def requiredTruth (value? : Option String) : Except Fault Bool :=
  match value? with
  | none => .error (.missingText .truth)
  | some text => .ok (isTrue text)

/-- The text of a criterion as a comparable number, where one is required. -/
def requiredNumber (value? : Option String) : Except Fault Binary64 :=
  match value? with
  | none => .error (.missingText .number)
  | some text =>
    match comparable text with
    | .ok x => .ok x
    | .error e => .error (.number e)

/-- The number of a value that a numeric criterion is evaluated against. -/
def valueNumber (c : Criterion) (value? : Option String) : Except Fault Binary64 :=
  match value? with
  | none => .error (.evaluation c .absent)
  | some text =>
    match comparable text with
    | .ok x => .ok x
    | .error e => .error (.evaluation c (.notNumeric e))

/-- The number that a numeric criterion compares with: the one it carries, or else its text. -/
def threshold (c : Criterion) : Except Fault Binary64 :=
  match c.number? with
  | some x => .ok x
  | none =>
    match requiredNumber c.value? with
    | .error (.number e) => .error (.evaluation c (.thresholdNotNumeric e))
    | outcome => outcome

variable [Host]

/-- The outcome of a pattern criterion for a value that is there. -/
def evaluatePattern (c : Criterion) (value : String) : Except Fault Bool :=
  match c.value? with
  | none => .error .missingPattern
  | some pattern =>
    match Pattern.read pattern with
    | .ok node => .ok (node.matchesWhole value)
    | .error (.malformed error) => .error (.evaluation c (.invalidPattern error))
    | .error (.limit l) => .error (.limit l)

/-- The outcome of a criterion for the value that a resource has for its key, if it has one. The
policy on missing fields decides for a pattern where there is no value. -/
def evaluate (c : Criterion) (allowMissing : Bool) (value? : Option String) : Except Fault Bool :=
  match c.operator with
  | .equals => .ok (value?.isSome && value? == c.value?)
  | .presence => do
    let expected ← requiredTruth c.value?
    return value?.isSome == expected
  | .greaterThan => do
    let x ← c.valueNumber value?
    let y ← c.threshold
    return y.lt x
  | .lessThan => do
    let x ← c.valueNumber value?
    let y ← c.threshold
    return x.lt y
  | .matchesPattern =>
    match value? with
    | none => .ok allowMissing
    | some value => c.evaluatePattern value

end Criterion

end Winnow

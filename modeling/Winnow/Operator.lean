import Winnow.Text.Case
import Winnow.Text.CharClass

set_option autoImplicit false

/-!
# Operators

The five ways to compare a property with a text, their names and the phrases that render them.

## Main definitions

* `Winnow.Operator` — the operators, and `Winnow.Operator.all`, all of them in order.
* `Winnow.Operator.name`, `Winnow.Operator.phrase` — name and phrase.
* `Winnow.Operator.ofName?` — the operator with a name, whose case and outer blanks do not count.
-/

namespace Winnow

/-- The ways to compare a property with a text. -/
inductive Operator where
  /-- The property is there, or is not. -/
  | presence
  /-- The property is a number above another one. -/
  | greaterThan
  /-- The property is a number below another one. -/
  | lessThan
  /-- The property is the text. -/
  | equals
  /-- The whole of the property is matched by the text as a pattern. -/
  | matchesPattern
deriving DecidableEq

namespace Operator

/-- All operators, in the order in which they are listed. -/
def all : List Operator :=
  [presence, greaterThan, lessThan, equals, matchesPattern]

/-- The name of an operator. -/
def name : Operator → String
  | presence => "EXISTS"
  | greaterThan => "GREATER_THAN"
  | lessThan => "LESS_THAN"
  | equals => "EQUALS"
  | matchesPattern => "MATCHES_REGEX"

/-- The phrase that stands between key and value when a criterion is rendered. -/
def phrase : Operator → String
  | presence => "exists"
  | greaterThan => "is greater than"
  | lessThan => "is less than"
  | equals => "is equal to"
  | matchesPattern => "matches the regular expression"

/-- Whether an operator compares numbers. -/
def isNumeric : Operator → Bool
  | greaterThan | lessThan => true
  | _ => false

/-- The operator with a name. Outer blanks do not count, and the name is taken in upper case. -/
def ofName? (text : String) : Option Operator :=
  all.find? fun o => o.name == Text.upper (Text.trim text)

end Operator

end Winnow

import Winnow.Number.Shortest
import Winnow.Operator

set_option autoImplicit false

/-!
# Criteria

A criterion names a property, an operator and a text to compare with. A numeric one may carry the
number that its text stands for.

## Main definitions

* `Winnow.Criterion` — criteria.
* `Winnow.Criterion.render` — the rendering of a criterion.
* `Winnow.Criterion.same` — equality, with numbers compared by value.
-/

namespace Winnow

/-- A property, an operator and a text to compare with. -/
structure Criterion where
  /-- The key of the property. -/
  key : String
  /-- The operator. -/
  operator : Operator
  /-- The text to compare with, if there is one. -/
  value? : Option String
  /-- The number that the text stands for, if it is known. -/
  number? : Option Binary64
deriving DecidableEq

namespace Criterion

/-- The value as it is rendered: the number in its shortest form if the operator is numeric and the
number is known, else the text. -/
def renderedValue? (c : Criterion) : Option String :=
  match c.number? with
  | some x => if c.operator.isNumeric then some x.render else c.value?
  | none => c.value?

/-- The rendering of a criterion: key, phrase and value. -/
def render (c : Criterion) : String :=
  c.key ++ " " ++ c.operator.phrase ++ " " ++ c.renderedValue?.getD "None"

/-- Whether two optional numbers are both absent or equal by value. -/
def sameNumber : Option Binary64 → Option Binary64 → Bool
  | none, none => true
  | some x, some y => x.same y
  | _, _ => false

/-- Whether two criteria are equal, numbers being compared by value. -/
def same (c d : Criterion) : Bool :=
  c.key == d.key && c.operator == d.operator && c.value? == d.value?
    && sameNumber c.number? d.number?

/-- Which of several criteria are equal to which. Each is equal to itself. -/
def equalities (criteria : List Criterion) : List (List Bool) :=
  criteria.mapIdx fun i c => criteria.mapIdx fun j d => i == j || c.same d

/-- The criteria without those that are equal to an earlier one. -/
def distinct (criteria : List Criterion) : List Criterion :=
  criteria.foldl (fun kept c => if kept.any (·.same c) then kept else kept ++ [c]) []

end Criterion

end Winnow

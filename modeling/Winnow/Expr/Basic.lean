import Winnow.Store

set_option autoImplicit false

/-!
# Expressions

Filters and single comparisons combined by negation, conjunction and disjunction. The operands of a
conjunction or disjunction are evaluated from left to right, and only until the outcome is settled.

## Main definitions

* `Winnow.Expr` — expressions.
* `Winnow.Expr.satisfies` — whether a resource satisfies an expression.
* `Winnow.Expr.select` — the resources that satisfy an expression.
* `Winnow.Expr.render` — how an expression is shown.
-/

namespace Winnow

/-- An expression over the filters of a store. -/
inductive Expr where
  /-- The same outcome for every resource. -/
  | literal (value : Bool)
  /-- A single criterion, with a policy on missing fields of its own. -/
  | comparison (criterion : Criterion) (allowMissing : Bool)
  /-- A filter of the store. -/
  | filter (id : FilterId)
  /-- Negation. -/
  | not (operand : Expr)
  /-- Conjunction; of nothing it holds. -/
  | and (operands : List Expr)
  /-- Disjunction; of nothing it fails. -/
  | or (operands : List Expr)

namespace Expr

/-- The expression of a single comparison, the operator being given by its name. -/
def compare (key operator : String) (value? : Option String) (allowMissing : Bool) :
    Except Fault Expr := do
  let o ← Operator.resolve operator
  if o.isNumeric then
    let x ← Criterion.requiredNumber value?
    return .comparison ⟨key, o, value?, some x⟩ allowMissing
  else return .comparison ⟨key, o, value?, none⟩ allowMissing

/-! ## Evaluation -/

variable [Host]

mutual

/-- Whether a resource satisfies an expression. -/
def satisfies (r : Resource) : Expr → Store → Outcome Store Bool
  | literal value, s => .value value s
  | comparison c allowMissing, s => ⟨c.evaluate allowMissing (r.get? c.key), [], s⟩
  | filter id, s => s.satisfies id r
  | not operand, s => (satisfies r operand s).map Bool.not
  | and operands, s => satisfiesAll r operands s
  | or operands, s => satisfiesAny r operands s

/-- Whether a resource satisfies all of some expressions. The first that fails settles it. -/
def satisfiesAll (r : Resource) : List Expr → Store → Outcome Store Bool
  | [], s => .value true s
  | e :: es, s => (satisfies r e s).andThen fun holds t =>
    if holds then satisfiesAll r es t else .value false t

/-- Whether a resource satisfies any of some expressions. The first that holds settles it. -/
def satisfiesAny (r : Resource) : List Expr → Store → Outcome Store Bool
  | [], s => .value false s
  | e :: es, s => (satisfies r e s).andThen fun holds t =>
    if holds then .value true t else satisfiesAny r es t

end

/-- The resources that satisfy an expression, in their order. A fault ends the selection. -/
def select (e : Expr) : List Resource → Store → Outcome Store (List Resource)
  | [], s => .value [] s
  | r :: rs, s => (e.satisfies r s).andThen fun holds t =>
    (e.select rs t).map fun selected => if holds then r :: selected else selected

/-! ## Rendering -/

mutual

/-- How an expression is shown. -/
def render (s : Store) : Expr → String
  | literal value => "Literal(" ++ renderFlag value ++ ")"
  | comparison c _ => "Comparison(" ++ Text.quote c.render ++ ")"
  | filter id => (s.filter id).render
  | not operand => "Not(" ++ render s operand ++ ")"
  | and operands => "And(" ++ ", ".intercalate (renderList s operands) ++ ")"
  | or operands => "Or(" ++ ", ".intercalate (renderList s operands) ++ ")"

/-- How the operands of an expression are shown. -/
def renderList (s : Store) : List Expr → List String
  | [] => []
  | e :: es => render s e :: renderList s es

end

end Expr

end Winnow

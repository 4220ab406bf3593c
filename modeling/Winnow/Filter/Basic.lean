import Winnow.Criterion.Evaluation
import Winnow.Log.Journal
import Winnow.Outcome
import Winnow.Resource

set_option autoImplicit false

/-!
# Filters

A filter holds criteria, grouped by their keys, and two policies. A resource satisfies it if there
are criteria and all of them hold. Registering, discarding and removing criteria and changing the
policy on missing fields are kept in a journal.

## Main definitions

* `Winnow.Filter` — filters, and `Winnow.Filter.criteria`, their criteria in order.
* `Winnow.Registration` — the outcome of registering a criterion.
* `Winnow.Filter.register`, `Winnow.Filter.reset`, `Winnow.Filter.allowOmitted` — the operations
  that are kept in a journal.
* `Winnow.Filter.satisfies` — whether a resource satisfies a filter.

## Design

The criteria of one key stay together at the place of the first of them. A filter that is not
strict remembers for which criteria it has already warned of an unusable value.
-/

namespace Winnow

/-- A filter. -/
structure Filter where
  /-- The name in records. -/
  name : String
  /-- Whether a pattern criterion holds where there is no value. -/
  allowMissing : Bool
  /-- Whether a numeric criterion without a usable value is an error, or else just fails. -/
  strict : Bool
  /-- The criteria of each key, in the order in which they were registered. -/
  groups : List (String × List Criterion)
  /-- The numeric criteria whose first failure for want of a usable value has been reported. -/
  warned : List Criterion
deriving DecidableEq

/-- The outcome of registering a criterion. -/
structure Registration where
  /-- Whether it was added. -/
  added : Bool
  /-- The criterion, if it was added. -/
  criterion? : Option Criterion
  /-- Why it was not added. -/
  errors : List String
deriving DecidableEq

namespace Registration

/-- A criterion that was added. -/
def accept (c : Criterion) : Registration :=
  ⟨true, some c, []⟩

/-- A criterion that was discarded for a reason. -/
def discard (reason : String) : Registration :=
  ⟨false, none, [reason]⟩

/-- Whether a registration counts as a success. -/
def isSuccess (r : Registration) : Bool :=
  r.added

end Registration

namespace Filter

/-- A filter without criteria. -/
def empty (name : String) (allowMissing strict : Bool) : Filter :=
  ⟨name, allowMissing, strict, [], []⟩

/-! ## Criteria -/

/-- All criteria, grouped by key in the order in which the keys first came. -/
def criteria (f : Filter) : List Criterion :=
  f.groups.flatMap Prod.snd

/-- The renderings of all criteria. -/
def renderings (f : Filter) : List String :=
  f.criteria.map Criterion.render

/-- The renderings of the criteria of each key. -/
def renderingsByKey (f : Filter) : List (String × List String) :=
  f.groups.map fun (key, criteria) => (key, criteria.map Criterion.render)

/-- The groups after a criterion is added to the group of its key, or as a new group at the end. -/
def insert (c : Criterion) : List (String × List Criterion) → List (String × List Criterion)
  | [] => [(c.key, [c])]
  | (key, criteria) :: groups =>
    if key = c.key then (key, criteria ++ [c]) :: groups
    else (key, criteria) :: insert c groups

/-- How a filter is shown. -/
def render (f : Filter) : String :=
  "CriteriaFilter(name=" ++ Text.quote f.name ++ ", allow_missing_fields="
    ++ renderFlag f.allowMissing ++ ", criteria=" ++ Text.quoteList f.renderings ++ ")"

/-! ## Operations that are kept in a journal -/

/-- Writes an entry to a journal. -/
def log {α : Type} (a : α) (f : Filter) (j : Journal) (e : Entry) : Outcome (Filter × Journal) α :=
  let (j, r) := j.keep e
  ⟨.ok a, [r], (f, j)⟩

/-- The reason for which a text is discarded that is not the number an operator requires. -/
def discardReason (o : Operator) (text : String) : String :=
  "'" ++ text ++ "' is not a number, " ++ o.name ++ " requires a numeric value"

/-- Adds a criterion. -/
def add (c : Criterion) (f : Filter) (j : Journal) : Outcome (Filter × Journal) Registration :=
  let groups := insert c f.groups
  let count := ((groups.lookup c.key).getD []).length
  log (.accept c) { f with groups } j (.registered c.key c.render count)

/-- Registers a criterion, the operator being given by its name. A numeric criterion whose text is
not a comparable number is discarded. -/
def register (key operator : String) (value? : Option String) (f : Filter) (j : Journal) :
    Outcome (Filter × Journal) Registration :=
  match Operator.resolve operator with
  | .error e => .fault e (f, j)
  | .ok o =>
    if o.isNumeric then
      match value? with
      | none => .fault (.missingText .number) (f, j)
      | some text =>
        match comparable text with
        | .ok x => add ⟨key, o, value?, some x⟩ f j
        | .error _ =>
          let reason := discardReason o text
          log (.discard reason) f j (.discarded key o.name reason)
    else add ⟨key, o, value?, none⟩ f j

/-- Removes all criteria, and forgets the warnings. -/
def reset (f : Filter) (j : Journal) : Outcome (Filter × Journal) Unit :=
  log () { f with groups := [], warned := [] } j (.reset f.criteria.length)

/-- Sets the policy on missing fields. -/
def allowOmitted (allow : Bool) (f : Filter) (j : Journal) : Outcome (Filter × Journal) Unit :=
  log () { f with allowMissing := allow } j (.policy allow)

/-! ## Matching -/

/-- The filter after a failure of a numeric criterion for want of a usable value. -/
def warn (f : Filter) (c : Criterion) : Filter :=
  if f.warned.contains c then f else { f with warned := f.warned ++ [c] }

variable [Host]

/-- Whether a resource satisfies each of some criteria of a filter. The first one that does not
decides. -/
def satisfiesAll (f : Filter) (r : Resource) : List Criterion → Outcome Filter Bool
  | [] => ⟨.ok true, [.matched f.name], f⟩
  | c :: cs =>
    match c.evaluate f.allowMissing (r.get? c.key) with
    | .ok true => f.satisfiesAll r cs
    | .ok false => ⟨.ok false, [.notMatched f.name c], f⟩
    | .error (.evaluation d problem) =>
      if c.operator.isNumeric && !f.strict then
        let isFirst := !f.warned.contains c
        ⟨.ok false, [.lenient f.name c.key c.render isFirst, .notMatched f.name c], f.warn c⟩
      else
        let fault := Fault.evaluation d problem
        ⟨.error fault, [.failed f.name c.key c.render (.ofFault fault)], f⟩
    | .error fault => ⟨.error fault, [], f⟩

/-- Whether a resource satisfies a filter. None satisfies one without criteria. -/
def satisfies (f : Filter) (r : Resource) : Outcome Filter Bool :=
  if f.groups.isEmpty then ⟨.ok false, [.noCriteria f.name], f⟩ else f.satisfiesAll r f.criteria

end Filter

end Winnow

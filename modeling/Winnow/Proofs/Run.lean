import Mathlib.Data.List.Induction
import Winnow.Proofs.Frame
import Winnow.Proofs.Grouping
import Winnow.Proofs.Registration
import Winnow.Session.Step

set_option autoImplicit false

/-!
# Runs

A run adds a new filter to a store and then operates on the store: registering, discarding and
removing criteria, changing policies, evaluating filters and expressions, in any order and with any
outcome. What the filter holds in the end is what was accepted for it since its last reset.

## Main definitions

* `Winnow.Store.Operation` — what can be done with the filters of a store.
* `Winnow.Store.registered` — the criteria accepted for a filter since its last reset.
* `Winnow.Store.effect` — what an operation makes of a filter, but for the memory of warnings.
* `Winnow.Store.perform`, `Winnow.Store.after` — what an operation comes to, and the store after
  several of them.
* `Winnow.Store.gather` — what is gathered from operations and the stores that they find.
* `Winnow.Run` — runs.

## Main results

* `Winnow.Store.unwarned_perform` — what one operation makes of one filter.
* `Winnow.Store.after_induction` — what each operation keeps is kept by several of them.
* `Winnow.Run.groups_filter` — the groups of a filter are the criteria accepted since the last
  reset, grouped by key.
* `Winnow.Store.isRegistrable_of_mem_registered` — each of them is what its own text comes to.

## Design

A fault of an operation does not end a run: whoever asked for the operation may go on. Expressions
are evaluated on the same store, so a filter of a run may be shared with any of them.
-/

namespace Winnow

namespace Store

/-- What can be done with the filters of a store and the expressions over them. -/
inductive Operation where
  | register (id : FilterId) (key operator : String) (value? : Option String)
  | reset (id : FilterId)
  | allowOmitted (id : FilterId) (allow : Bool)
  | setStrict (id : FilterId) (strict : Bool)
  | satisfies (e : Expr) (r : Resource)
  | select (e : Expr) (rs : List Resource)

/-- The criteria accepted for a filter after an operation, given those accepted before. -/
def registeredNext (id : FilterId) (cs : List Criterion) : Operation → List Criterion
  | .register i key operator value? =>
    if i = id then cs ++ (Criterion.accepted? key operator value?).toList else cs
  | .reset i => if i = id then [] else cs
  | .allowOmitted _ _ | .setStrict _ _ | .satisfies _ _ | .select _ _ => cs

/-- The criteria accepted for a filter since its last reset. -/
def registered (id : FilterId) (operations : List Operation) : List Criterion :=
  operations.foldl (registeredNext id) []

/-- An operation keeps the accepted criteria such that each is what its own text comes to. -/
theorem isRegistrable_registeredNext {id : FilterId} {cs : List Criterion}
    (hcs : ∀ c ∈ cs, c.IsRegistrable) (operation : Operation) :
    ∀ c ∈ registeredNext id cs operation, c.IsRegistrable := by
  intro c hc
  cases operation with
  | register i key operator value? =>
    rw [registeredNext] at hc
    split at hc
    · rcases List.mem_append.mp hc with hc | hc
      · exact hcs c hc
      · exact Criterion.isRegistrable_of_accepted (Option.mem_toList.mp hc)
    · exact hcs c hc
  | reset i =>
    rw [registeredNext] at hc
    split at hc
    · cases hc
    · exact hcs c hc
  | allowOmitted _ _ => exact hcs c hc
  | setStrict _ _ => exact hcs c hc
  | satisfies _ _ => exact hcs c hc
  | select _ _ => exact hcs c hc

/-- The criteria accepted for a filter after one operation more. -/
theorem registered_concat (id : FilterId) (operations : List Operation) (operation : Operation) :
    registered id (operations ++ [operation]) =
      registeredNext id (registered id operations) operation := by
  rw [registered, List.foldl_append]
  rfl

/-- Each criterion that was accepted is what its own text comes to. -/
theorem isRegistrable_of_mem_registered {id : FilterId} {operations : List Operation}
    {c : Criterion} (h : c ∈ registered id operations) : c.IsRegistrable :=
  List.foldlRecOn (motive := fun cs : List Criterion => ∀ c ∈ cs, c.IsRegistrable) operations _
    (by simp) (fun _ hcs operation _ => isRegistrable_registeredNext hcs operation) c h

/-- What an operation makes of a filter, but for the memory of warnings. -/
def effect (id : FilterId) (f : Filter) : Operation → Filter
  | .register i key operator value? =>
    if i = id then
      match Criterion.accepted? key operator value? with
      | some c => { f with groups := Filter.insert c f.groups }
      | none => f
    else f
  | .reset i => if i = id then { f with groups := [] } else f
  | .allowOmitted i allowMissing => if i = id then { f with allowMissing } else f
  | .setStrict i strict => if i = id then { f with strict } else f
  | .satisfies _ _ | .select _ _ => f

/-! ## Performing operations -/

variable [Host]

/-- What an operation comes to. -/
def perform (s : Store) : Operation → Outcome Store Value
  | .register id key operator value? =>
    (s.onFilter id (Filter.register key operator value?)).map .registration
  | .reset id => (s.onFilter id Filter.reset).map fun _ => .nothing
  | .allowOmitted id allow => (s.onFilter id (Filter.allowOmitted allow)).map fun _ => .nothing
  | .setStrict id strict => .value .nothing (s.setFilter id { s.filter id with strict })
  | .satisfies e r => (e.satisfies r s).map .truth
  | .select e rs => (e.select rs s).map .resources

/-- The store after operations, one after another. -/
def after (s : Store) (operations : List Operation) : Store :=
  operations.foldl (fun s operation => (s.perform operation).state) s

/-! ## One operation -/

/-- What one operation makes of one filter, but for the memory of warnings.

**Proof sketch.** An operation on another filter leaves this one alone, and evaluating an expression
changes the memory of warnings only. -/
theorem unwarned_perform {s : Store} {id : FilterId} (h : id.index < s.filters.length)
    (operation : Operation) :
    ((s.perform operation).state.filter id).unwarned =
      effect id (s.filter id).unwarned operation := by
  cases operation with
  | register i key operator value? =>
    rw [perform, effect, Outcome.map, filter_onFilter h]
    split
    · cases hc : Criterion.accepted? key operator value? with
      | none => rw [(Filter.register_of_not_accepted hc _ _).1]
      | some c => rw [Filter.register_of_accepted hc]; rfl
    · rfl
  | reset i =>
    rw [perform, effect, Outcome.map, filter_onFilter h]
    split
    · rfl
    · rfl
  | allowOmitted i allow =>
    rw [perform, effect, Outcome.map, filter_onFilter h]
    split
    · rfl
    · rfl
  | setStrict i strict =>
    rw [perform, effect, Outcome.value]
    by_cases hi : i = id
    · subst hi
      rw [filter_setFilter_self h, if_pos rfl]
      rfl
    · rw [filter_setFilter_of_ne (Ne.symm hi), if_neg hi]
  | satisfies e r => exact filter_of_unwarned_eq (e.unwarned_satisfies r s) id
  | select e rs => exact filter_of_unwarned_eq (e.unwarned_select rs s) id

/-- No operation removes a filter. -/
theorem length_filters_perform (s : Store) (operation : Operation) :
    (s.perform operation).state.filters.length = s.filters.length := by
  cases operation with
  | register i key operator value? => rw [perform, Outcome.map, length_filters_onFilter]
  | reset i => rw [perform, Outcome.map, length_filters_onFilter]
  | allowOmitted i allow => rw [perform, Outcome.map, length_filters_onFilter]
  | setStrict i strict => rw [perform, Outcome.value, length_filters_setFilter]
  | satisfies e r => exact length_filters_of_unwarned_eq (e.unwarned_satisfies r s)
  | select e rs => exact length_filters_of_unwarned_eq (e.unwarned_select rs s)

/-- An operation keeps the groups of a filter equal to its accepted criteria grouped by key. -/
theorem groups_perform {s : Store} {id : FilterId} (h : id.index < s.filters.length)
    {cs : List Criterion} (hcs : (s.filter id).groups = groupsBy Criterion.key cs)
    (operation : Operation) :
    ((s.perform operation).state.filter id).groups =
      groupsBy Criterion.key (registeredNext id cs operation) := by
  rw [← Filter.groups_unwarned] at hcs
  rw [← Filter.groups_unwarned, unwarned_perform h]
  cases operation with
  | register i key operator value? =>
    rw [effect, registeredNext]
    split
    · cases hc : Criterion.accepted? key operator value? with
      | none => simpa using hcs
      | some c =>
        show Filter.insert c (s.filter id).unwarned.groups = groupsBy Criterion.key (cs ++ [c])
        rw [hcs, Filter.insert_groupsBy]
    · exact hcs
  | reset i =>
    rw [effect, registeredNext]
    split
    · rfl
    · exact hcs
  | allowOmitted i _ => rw [effect, registeredNext]; split <;> exact hcs
  | setStrict i _ => rw [effect, registeredNext]; split <;> exact hcs
  | satisfies _ _ => exact hcs
  | select _ _ => exact hcs

/-! ## Several operations -/

/-- The store after one operation more. -/
theorem after_concat (s : Store) (operations : List Operation) (operation : Operation) :
    s.after (operations ++ [operation]) = ((s.after operations).perform operation).state := by
  rw [after, List.foldl_append]
  rfl

/-- **What each operation keeps, a run keeps.** What is kept may depend on the operations that have
been performed, and with them on all that is gathered from these.

**Proof sketch.** Induction on the operations, of which the last one is performed in the store that
the others leave. -/
theorem after_induction {P : List Operation → Store → Prop} {s : Store} (hstart : P [] s)
    (hstep : ∀ performed operation, P performed (s.after performed) →
      P (performed ++ [operation]) ((s.after performed).perform operation).state)
    (operations : List Operation) : P operations (s.after operations) := by
  induction operations using List.reverseRecOn with
  | nil => exact hstart
  | append_singleton performed operation ih =>
    rw [after_concat]
    exact hstep performed operation ih

/-- What operations gather, given what each of them makes of it in the store where it is performed.
-/
def gather {α : Type} (next : Store → α → Operation → α) : Store → α → List Operation → α
  | _, a, [] => a
  | s, a, operation :: operations =>
    gather next (s.perform operation).state (next s a operation) operations

/-- What is gathered without regard to the stores is what the operations come to one by one. -/
theorem gather_eq_foldl {α : Type} {next : Store → α → Operation → α} {f : α → Operation → α}
    (h : ∀ s a operation, next s a operation = f a operation) (s : Store) (a : α)
    (operations : List Operation) : gather next s a operations = operations.foldl f a := by
  induction operations generalizing s a with
  | nil => rfl
  | cons operation operations ih => rw [gather, ih, h, List.foldl_cons]

/-- Operations remove no filter. -/
theorem length_filters_after (s : Store) (operations : List Operation) :
    (s.after operations).filters.length = s.filters.length :=
  after_induction (P := fun _ t => t.filters.length = s.filters.length) rfl
    (fun _ operation ih => (length_filters_perform _ operation).trans ih) operations

/-- The groups of a filter that has none at first are the criteria accepted for it since its last
reset, grouped by key. -/
theorem groups_after {s : Store} {id : FilterId} (h : id.index < s.filters.length)
    (hgroups : (s.filter id).groups = []) (operations : List Operation) :
    ((s.after operations).filter id).groups =
      groupsBy Criterion.key (registered id operations) := by
  refine after_induction
    (P := fun performed t =>
      (t.filter id).groups = groupsBy Criterion.key (registered id performed))
    hgroups (fun performed operation ih => ?_) operations
  rw [registered_concat]
  exact groups_perform (by rwa [length_filters_after]) ih operation

end Store

/-! ## Runs -/

/-- A filter that is new, and what is done after it is added to a store. -/
structure Run where
  /-- The store before the filter is added. -/
  store : Store
  /-- The name of the filter. -/
  name : String
  /-- Its policy on missing fields at first. -/
  allowMissing : Bool
  /-- Whether it is strict at first. -/
  strict : Bool
  /-- The journal that it is to write to, if it is to have none of its own. -/
  journal? : Option JournalId
  /-- What is done. -/
  operations : List Store.Operation

namespace Run

/-- The address of the filter. -/
def id (p : Run) : FilterId :=
  (p.store.addFilter (.empty p.name p.allowMissing p.strict) p.journal?).1

/-- The store once the filter is added. -/
def start (p : Run) : Store :=
  (p.store.addFilter (.empty p.name p.allowMissing p.strict) p.journal?).2

/-- The filter is in the store once it is added. -/
theorem filter_start (p : Run) :
    p.id.index < p.start.filters.length ∧
      p.start.filter p.id = .empty p.name p.allowMissing p.strict := by
  cases h : p.journal? <;>
    simp [id, start, h, Store.addFilter, Store.addJournal, Store.filter]

/-- The criteria accepted for the filter since its last reset. -/
def registered (p : Run) : List Criterion :=
  Store.registered p.id p.operations

variable [Host]

/-- The store in the end. -/
def final (p : Run) : Store :=
  p.start.after p.operations

/-- The filter in the end. -/
def filter (p : Run) : Filter :=
  p.final.filter p.id

/-- Whether a resource satisfies the filter in the end. -/
def verdict (p : Run) (r : Resource) : Except Fault Bool :=
  (Expr.satisfies r (.filter p.id) p.final).result

/-- The verdict is that of the filter. -/
theorem verdict_eq (p : Run) (r : Resource) : p.verdict r = (p.filter.satisfies r).result := by
  rw [verdict, Expr.satisfies]
  rfl

/-- The filter is in the store in the end. -/
theorem id_lt_final (p : Run) : p.id.index < p.final.filters.length := by
  rw [final, Store.length_filters_after]
  exact p.filter_start.1

/-- The groups of the filter are the criteria accepted since its last reset, grouped by key. -/
theorem groups_filter (p : Run) : p.filter.groups = groupsBy Criterion.key p.registered := by
  obtain ⟨hid, hstart⟩ := p.filter_start
  exact Store.groups_after hid (by rw [hstart]; rfl) p.operations

/-- The criteria of the filter are those accepted since its last reset, in the order of groups. -/
theorem criteria_filter (p : Run) : p.filter.criteria = groupedBy Criterion.key p.registered := by
  rw [Filter.criteria, groups_filter, groupedBy]

/-- Each criterion of the filter is what its own key, operator and text come to. -/
theorem isRegistrable_of_mem_criteria {p : Run} {c : Criterion} (h : c ∈ p.filter.criteria) :
    c.IsRegistrable := by
  rw [criteria_filter, mem_groupedBy] at h
  exact Store.isRegistrable_of_mem_registered h

/-- The filter has groups as soon as it has criteria. -/
theorem groups_eq_nil_iff (p : Run) : p.filter.groups = [] ↔ p.filter.criteria = [] := by
  rw [groups_filter, criteria_filter, groupsBy_eq_nil, groupedBy_eq_nil]

/-- The filter has criteria as soon as one has been accepted since its last reset. -/
theorem isEmpty_criteria (p : Run) : p.filter.criteria.isEmpty = p.registered.isEmpty := by
  rw [Bool.eq_iff_iff, List.isEmpty_iff, List.isEmpty_iff, criteria_filter, groupedBy_eq_nil]

end Run

end Winnow

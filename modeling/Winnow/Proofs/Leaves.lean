import Winnow.Proofs.Frame

set_option autoImplicit false

/-!
# Verdicts from leaves

The leaves of an expression are its literals, comparisons and filters. Evaluating one leaf can
change the memory of warnings of a filter, but no verdict depends on that memory. So every leaf has
its verdict in the store as it was before the evaluation, and these verdicts alone settle the
verdict on the whole expression.

## Main definitions

* `Winnow.Expr.leaves`, `Winnow.Expr.references` — the leaves of an expression, and the filters
  among them.
* `Winnow.Expr.verdict` — the verdict of an expression on a resource.
* `Winnow.Expr.conclude` — the verdict on an expression that verdicts on its leaves come to.

## Main results

* `Winnow.Expr.verdict_eq_conclude` — an evaluation concludes from the leaves.
* `Winnow.Expr.verdict_congr` — a verdict depends on the filters that are referred to, and on
  nothing of these but criteria and policies.
-/

namespace Winnow

/-! ## One filter -/

namespace Filter

/-- The criteria do not depend on the memory of warnings. -/
theorem groups_of_unwarned_eq {f g : Filter} (h : f.unwarned = g.unwarned) :
    f.groups = g.groups := by
  rw [← groups_unwarned, h, groups_unwarned]

/-- The policy on missing fields does not depend on the memory of warnings. -/
theorem allowMissing_of_unwarned_eq {f g : Filter} (h : f.unwarned = g.unwarned) :
    f.allowMissing = g.allowMissing := by
  rw [← allowMissing_unwarned, h, allowMissing_unwarned]

variable [Host]

/-- Going through criteria, a verdict depends on the policies of the filter only. -/
theorem result_satisfiesAll_congr {f g : Filter} (hmissing : f.allowMissing = g.allowMissing)
    (hstrict : f.strict = g.strict) (r : Resource) (cs : List Criterion) :
    (f.satisfiesAll r cs).result = (g.satisfiesAll r cs).result := by
  induction cs with
  | nil => rfl
  | cons c cs ih =>
    rw [satisfiesAll, satisfiesAll, hmissing, hstrict]
    split
    · exact ih
    · rfl
    · split <;> rfl
    · rfl

/-- The memory of warnings does not count for a verdict. -/
theorem result_satisfies_of_unwarned_eq {f g : Filter} (h : f.unwarned = g.unwarned)
    (r : Resource) : (f.satisfies r).result = (g.satisfies r).result := by
  have hstrict : f.strict = g.strict := by rw [← strict_unwarned, h, strict_unwarned]
  rw [satisfies, satisfies, criteria, criteria, groups_of_unwarned_eq h]
  split
  · rfl
  · exact result_satisfiesAll_congr (allowMissing_of_unwarned_eq h) hstrict r _

end Filter

/-! ## Leaves -/

namespace Expr

/-- Literals, comparisons and filters. -/
def IsLeaf : Expr → Prop
  | literal _ | comparison _ _ | filter _ => True
  | not _ | and _ | or _ => False

mutual

/-- The leaves of an expression, from left to right. -/
def leaves : Expr → List Expr
  | literal value => [literal value]
  | comparison c allowMissing => [comparison c allowMissing]
  | filter id => [filter id]
  | not operand => leaves operand
  | and operands => leavesAll operands
  | or operands => leavesAll operands

/-- The leaves of several expressions. -/
def leavesAll : List Expr → List Expr
  | [] => []
  | e :: es => leaves e ++ leavesAll es

end

/-- The leaves of several expressions are those of each of them. -/
theorem leavesAll_eq (es : List Expr) : leavesAll es = es.flatMap leaves := by
  induction es with
  | nil => rfl
  | cons e es ih => rw [leavesAll, ih, List.flatMap_cons]

/-- The filter that a leaf is, if it is one. -/
def reference? : Expr → Option FilterId
  | filter id => some id
  | _ => none

/-- The filters that an expression refers to, from left to right and as often as it does. -/
def references (e : Expr) : List FilterId :=
  e.leaves.filterMap reference?

/-- The filters that several expressions refer to. -/
def referencesAll (es : List Expr) : List FilterId :=
  (leavesAll es).filterMap reference?

@[simp] theorem references_literal (b : Bool) : (literal b).references = [] := rfl

@[simp] theorem references_comparison (c : Criterion) (allowMissing : Bool) :
    (comparison c allowMissing).references = [] :=
  rfl

@[simp] theorem references_filter (id : FilterId) : (filter id).references = [id] := rfl

@[simp] theorem references_not (e : Expr) : (not e).references = e.references := by
  rw [references, leaves, references]

@[simp] theorem references_and (es : List Expr) : (and es).references = referencesAll es := by
  rw [references, leaves, referencesAll]

@[simp] theorem references_or (es : List Expr) : (or es).references = referencesAll es := by
  rw [references, leaves, referencesAll]

@[simp] theorem referencesAll_nil : referencesAll [] = [] := rfl

@[simp] theorem referencesAll_cons (e : Expr) (es : List Expr) :
    referencesAll (e :: es) = e.references ++ referencesAll es := by
  rw [referencesAll, leavesAll, List.filterMap_append, references, referencesAll]

/-- The references of several expressions are those of each of them. -/
theorem mem_referencesAll {id : FilterId} {es : List Expr} :
    id ∈ referencesAll es ↔ ∃ e ∈ es, id ∈ e.references := by
  rw [referencesAll, leavesAll_eq, List.filterMap_flatMap, List.mem_flatMap]
  rfl

/-! ## Verdicts -/

mutual

/-- The verdict on an expression that verdicts on its leaves come to. -/
def conclude (v : Expr → Except Fault Bool) : Expr → Except Fault Bool
  | literal value => v (literal value)
  | comparison c allowMissing => v (comparison c allowMissing)
  | filter id => v (filter id)
  | not operand => (conclude v operand).map Bool.not
  | and operands => concludeAll v operands
  | or operands => concludeAny v operands

/-- The verdict on a conjunction: that of the first operand that does not hold. -/
def concludeAll (v : Expr → Except Fault Bool) : List Expr → Except Fault Bool
  | [] => .ok true
  | e :: es =>
    match conclude v e with
    | .ok true => concludeAll v es
    | settled => settled

/-- The verdict on a disjunction: that of the first operand that does not fail. -/
def concludeAny (v : Expr → Except Fault Bool) : List Expr → Except Fault Bool
  | [] => .ok false
  | e :: es =>
    match conclude v e with
    | .ok false => concludeAny v es
    | settled => settled

end

section Congruence

variable {v w : Expr → Except Fault Bool}

mutual

/-- Only verdicts on the leaves of an expression count. -/
theorem conclude_congr : ∀ (e : Expr), (∀ leaf ∈ e.leaves, v leaf = w leaf) →
    conclude v e = conclude w e
  | literal _, h => by rw [conclude, conclude]; exact h _ (by simp [leaves])
  | comparison _ _, h => by rw [conclude, conclude]; exact h _ (by simp [leaves])
  | filter _, h => by rw [conclude, conclude]; exact h _ (by simp [leaves])
  | not operand, h => by
    rw [conclude, conclude, conclude_congr operand (by rwa [leaves] at h)]
  | and operands, h => by
    rw [conclude, conclude]
    exact concludeAll_congr operands (by rwa [leaves] at h)
  | or operands, h => by
    rw [conclude, conclude]
    exact concludeAny_congr operands (by rwa [leaves] at h)

/-- Only verdicts on the leaves of a conjunction count. -/
theorem concludeAll_congr : ∀ (es : List Expr), (∀ leaf ∈ leavesAll es, v leaf = w leaf) →
    concludeAll v es = concludeAll w es
  | [], _ => by rw [concludeAll, concludeAll]
  | e :: es, h => by
    rw [leavesAll] at h
    rw [concludeAll, concludeAll,
      conclude_congr e fun leaf hl => h leaf (List.mem_append_left _ hl),
      concludeAll_congr es fun leaf hl => h leaf (List.mem_append_right _ hl)]

/-- Only verdicts on the leaves of a disjunction count. -/
theorem concludeAny_congr : ∀ (es : List Expr), (∀ leaf ∈ leavesAll es, v leaf = w leaf) →
    concludeAny v es = concludeAny w es
  | [], _ => by rw [concludeAny, concludeAny]
  | e :: es, h => by
    rw [leavesAll] at h
    rw [concludeAny, concludeAny,
      conclude_congr e fun leaf hl => h leaf (List.mem_append_left _ hl),
      concludeAny_congr es fun leaf hl => h leaf (List.mem_append_right _ hl)]

end

end Congruence

mutual

/-- The leaves of an expression are leaves. -/
theorem isLeaf_of_mem_leaves : ∀ (e : Expr) {leaf : Expr}, leaf ∈ e.leaves → leaf.IsLeaf
  | literal _, leaf, h => by rw [leaves, List.mem_singleton] at h; rw [h]; trivial
  | comparison _ _, leaf, h => by rw [leaves, List.mem_singleton] at h; rw [h]; trivial
  | filter _, leaf, h => by rw [leaves, List.mem_singleton] at h; rw [h]; trivial
  | not operand, leaf, h => by rw [leaves] at h; exact isLeaf_of_mem_leaves operand h
  | and operands, leaf, h => by rw [leaves] at h; exact isLeaf_of_mem_leavesAll operands h
  | or operands, leaf, h => by rw [leaves] at h; exact isLeaf_of_mem_leavesAll operands h

/-- The leaves of several expressions are leaves. -/
theorem isLeaf_of_mem_leavesAll : ∀ (es : List Expr) {leaf : Expr},
    leaf ∈ leavesAll es → leaf.IsLeaf
  | [], leaf, h => by rw [leavesAll] at h; cases h
  | e :: es, leaf, h => by
    rw [leavesAll] at h
    obtain h | h := List.mem_append.mp h
    · exact isLeaf_of_mem_leaves e h
    · exact isLeaf_of_mem_leavesAll es h

end

variable [Host]

/-- The verdict of an expression on a resource. -/
def verdict (r : Resource) (s : Store) (e : Expr) : Except Fault Bool :=
  (e.satisfies r s).result

/-- The verdict of a filter is the filter's own. -/
theorem verdict_filter (r : Resource) (s : Store) (id : FilterId) :
    verdict r s (filter id) = ((s.filter id).satisfies r).result := by
  rw [verdict, satisfies]
  rfl

/-- The verdict of a leaf depends at most on one filter, and not on its memory of warnings. -/
theorem verdict_leaf_congr {r : Resource} {s t : Store} {leaf : Expr} (hleaf : leaf.IsLeaf)
    (h : ∀ id, leaf.reference? = some id → (s.filter id).unwarned = (t.filter id).unwarned) :
    verdict r s leaf = verdict r t leaf := by
  cases leaf with
  | literal _ => rw [verdict, verdict, satisfies, satisfies]; rfl
  | comparison _ _ => rw [verdict, verdict, satisfies, satisfies]
  | filter id =>
    rw [verdict_filter, verdict_filter]
    exact Filter.result_satisfies_of_unwarned_eq (h id rfl) r
  | not _ => cases hleaf
  | and _ => cases hleaf
  | or _ => cases hleaf

/-- Verdicts on the leaves of an expression do not change while it is evaluated. -/
theorem verdict_leaf_of_unwarned_eq {s t : Store} (h : s.unwarned = t.unwarned) (r : Resource)
    {leaf : Expr} (hleaf : leaf.IsLeaf) : verdict r s leaf = verdict r t leaf :=
  verdict_leaf_congr hleaf fun id _ => Store.filter_of_unwarned_eq h id

mutual

/-- An evaluation concludes from the verdicts on the leaves, all of them in the store before it.

**Proof sketch.** Induction on the expression. The operands that have been evaluated leave a store
that differs in the memory of warnings only, so the leaves of the next ones still have their
verdicts. -/
theorem verdict_eq_conclude (r : Resource) :
    ∀ (e : Expr) (s : Store), verdict r s e = conclude (verdict r s) e
  | literal _, s => by rw [conclude]
  | comparison _ _, s => by rw [conclude]
  | filter _, s => by rw [conclude]
  | not operand, s => by rw [conclude, ← verdict_eq_conclude r operand s, verdict, satisfies]; rfl
  | and operands, s => by
    rw [conclude, verdict, satisfies]
    exact result_satisfiesAll r operands s
  | or operands, s => by
    rw [conclude, verdict, satisfies]
    exact result_satisfiesAny r operands s

/-- A conjunction concludes from the verdicts on its leaves. -/
theorem result_satisfiesAll (r : Resource) :
    ∀ (es : List Expr) (s : Store),
      (satisfiesAll r es s).result = concludeAll (verdict r s) es
  | [], s => by rw [satisfiesAll, concludeAll]; rfl
  | e :: es, s => by
    have hrest : concludeAll (verdict r (satisfies r e s).state) es =
        concludeAll (verdict r s) es :=
      concludeAll_congr es fun leaf hl =>
        verdict_leaf_of_unwarned_eq (unwarned_satisfies r e s) r (isLeaf_of_mem_leavesAll es hl)
    rw [satisfiesAll, concludeAll, ← verdict_eq_conclude r e s, verdict]
    cases h : (satisfies r e s).result with
    | error fault => rw [Outcome.andThen_of_error h]
    | ok holds =>
      rw [Outcome.andThen_of_ok h]
      cases holds with
      | false => rfl
      | true => exact (result_satisfiesAll r es _).trans hrest

/-- A disjunction concludes from the verdicts on its leaves. -/
theorem result_satisfiesAny (r : Resource) :
    ∀ (es : List Expr) (s : Store),
      (satisfiesAny r es s).result = concludeAny (verdict r s) es
  | [], s => by rw [satisfiesAny, concludeAny]; rfl
  | e :: es, s => by
    have hrest : concludeAny (verdict r (satisfies r e s).state) es =
        concludeAny (verdict r s) es :=
      concludeAny_congr es fun leaf hl =>
        verdict_leaf_of_unwarned_eq (unwarned_satisfies r e s) r (isLeaf_of_mem_leavesAll es hl)
    rw [satisfiesAny, concludeAny, ← verdict_eq_conclude r e s, verdict]
    cases h : (satisfies r e s).result with
    | error fault => rw [Outcome.andThen_of_error h]
    | ok holds =>
      rw [Outcome.andThen_of_ok h]
      cases holds with
      | false => exact (result_satisfiesAny r es _).trans hrest
      | true => rfl

end

/-- A verdict depends on the filters that an expression refers to, and on nothing of these but
criteria and policies. -/
theorem verdict_congr {e : Expr} {s t : Store} (r : Resource)
    (h : ∀ id ∈ e.references, (s.filter id).unwarned = (t.filter id).unwarned) :
    verdict r s e = verdict r t e := by
  rw [verdict_eq_conclude, verdict_eq_conclude]
  refine conclude_congr e fun leaf hl => ?_
  refine verdict_leaf_congr (isLeaf_of_mem_leaves e hl) fun id hid => h id ?_
  exact List.mem_filterMap.mpr ⟨leaf, hl, hid⟩

end Expr

end Winnow

import Mathlib.Data.List.Perm.Basic
import Winnow.Proofs.Leaves

set_option autoImplicit false

/-!
# The order of operands

Operands are evaluated from left to right, and a fault ends the evaluation, so it depends on their
order whether there is a verdict. Which verdict it is does not. Strong Kleene logic, with a fault as
the value that is not known, has no order, and an evaluation that comes to a verdict comes to the
one of that logic.

## Main definitions

* `Winnow.Expr.Reordered` — expressions that differ in the order of operands only.
* `Winnow.Kleene.all`, `Winnow.Kleene.any` — conjunction and disjunction of three values.
* `Winnow.Expr.value` — the value of an expression in strong Kleene logic.
* `Winnow.Expr.HoldsUnder` — the classical truth of an expression.

## Main results

* `Winnow.Expr.value_of_conclude` — a verdict is the value of the expression.
* `Winnow.Expr.Reordered.value_eq` — the value does not depend on the order.
* `Winnow.Expr.exists_conclude` — without faults on leaves there is a verdict, the classical truth.
* `Winnow.Expr.reordering_keeps_verdict` — reordering never turns a verdict into the other one.
-/

namespace Winnow

/-! ## Three values -/

namespace Kleene

/-- Conjunction: one operand that fails settles it, known or not what the other one is. -/
def both : Option Bool → Option Bool → Option Bool
  | some false, _ => some false
  | _, some false => some false
  | some true, some true => some true
  | _, _ => none

/-- Disjunction: one operand that holds settles it, known or not what the other one is. -/
def either : Option Bool → Option Bool → Option Bool
  | some true, _ => some true
  | _, some true => some true
  | some false, some false => some false
  | _, _ => none

/-- Conjunction of several values. -/
def all (values : List (Option Bool)) : Option Bool :=
  values.foldr both (some true)

/-- Disjunction of several values. -/
def any (values : List (Option Bool)) : Option Bool :=
  values.foldr either (some false)

/-- The first two operands of a conjunction can be exchanged. -/
theorem both_left_comm (a b c : Option Bool) : both a (both b c) = both b (both a c) := by
  rcases a with _ | _ | _ <;> rcases b with _ | _ | _ <;> rcases c with _ | _ | _ <;> rfl

/-- The first two operands of a disjunction can be exchanged. -/
theorem either_left_comm (a b c : Option Bool) :
    either a (either b c) = either b (either a c) := by
  rcases a with _ | _ | _ <;> rcases b with _ | _ | _ <;> rcases c with _ | _ | _ <;> rfl

/-- A conjunction does not depend on the order of its operands. -/
theorem all_perm {xs ys : List (Option Bool)} (h : xs.Perm ys) : all xs = all ys :=
  haveI : LeftCommutative both := ⟨both_left_comm⟩
  h.foldr_eq (some true)

/-- A disjunction does not depend on the order of its operands. -/
theorem any_perm {xs ys : List (Option Bool)} (h : xs.Perm ys) : any xs = any ys :=
  haveI : LeftCommutative either := ⟨either_left_comm⟩
  h.foldr_eq (some false)

/-- An operand that fails settles a conjunction. -/
theorem all_cons_false (xs : List (Option Bool)) : all (some false :: xs) = some false :=
  rfl

/-- An operand that holds does not count in a conjunction. -/
theorem all_cons_true (xs : List (Option Bool)) : all (some true :: xs) = all xs := by
  show both (some true) (all xs) = all xs
  cases all xs with
  | none => rfl
  | some b => cases b <;> rfl

/-- An operand that holds settles a disjunction. -/
theorem any_cons_true (xs : List (Option Bool)) : any (some true :: xs) = some true :=
  rfl

/-- An operand that fails does not count in a disjunction. -/
theorem any_cons_false (xs : List (Option Bool)) : any (some false :: xs) = any xs := by
  show either (some false) (any xs) = any xs
  cases any xs with
  | none => rfl
  | some b => cases b <;> rfl

end Kleene

namespace Expr

/-! ## The value of an expression -/

mutual

/-- The value of an expression in strong Kleene logic, given the values of its leaves. -/
def value (v : Expr → Option Bool) : Expr → Option Bool
  | literal b => v (literal b)
  | comparison c allowMissing => v (comparison c allowMissing)
  | filter id => v (filter id)
  | not operand => (value v operand).map Bool.not
  | and operands => Kleene.all (values v operands)
  | or operands => Kleene.any (values v operands)

/-- The values of several expressions. -/
def values (v : Expr → Option Bool) : List Expr → List (Option Bool)
  | [] => []
  | e :: es => value v e :: values v es

end

/-- The values of several expressions are those of each of them. -/
theorem values_eq (v : Expr → Option Bool) (es : List Expr) : values v es = es.map (value v) := by
  induction es with
  | nil => rfl
  | cons e es ih => rw [values, ih, List.map_cons]

/-- Verdicts as values, a fault being a value that is not known. -/
def known (v : Expr → Except Fault Bool) (leaf : Expr) : Option Bool :=
  (v leaf).toOption

section Refinement

variable {v : Expr → Except Fault Bool}

mutual

/-- A verdict is the value of the expression.

**Proof sketch.** Induction on the expression. A conjunction that fails has an operand that fails,
and one that holds has none that does not hold; what is not evaluated does not count for either. -/
theorem value_of_conclude : ∀ (e : Expr) {b : Bool}, conclude v e = .ok b →
    value (known v) e = some b
  | literal _, b, h => by rw [conclude] at h; rw [value, known, h]; rfl
  | comparison _ _, b, h => by rw [conclude] at h; rw [value, known, h]; rfl
  | filter _, b, h => by rw [conclude] at h; rw [value, known, h]; rfl
  | not operand, b, h => by
    rw [conclude] at h
    cases ho : conclude v operand with
    | error fault => rw [ho] at h; cases h
    | ok a =>
      rw [ho] at h
      rw [value, value_of_conclude operand ho]
      exact congrArg some (Except.ok.inj h)
  | and operands, b, h => by rw [conclude] at h; rw [value]; exact all_of_concludeAll operands h
  | or operands, b, h => by rw [conclude] at h; rw [value]; exact any_of_concludeAny operands h

/-- A verdict on a conjunction is its value. -/
theorem all_of_concludeAll : ∀ (es : List Expr) {b : Bool}, concludeAll v es = .ok b →
    Kleene.all (values (known v) es) = some b
  | [], b, h => by
    rw [concludeAll] at h
    rw [values]
    exact congrArg some (Except.ok.inj h)
  | e :: es, b, h => by
    rw [concludeAll] at h
    cases he : conclude v e with
    | error fault => rw [he] at h; cases h
    | ok a =>
      rw [he] at h
      rw [values, value_of_conclude e he]
      cases a with
      | false => cases h; exact Kleene.all_cons_false _
      | true => rw [Kleene.all_cons_true]; exact all_of_concludeAll es h

/-- A verdict on a disjunction is its value. -/
theorem any_of_concludeAny : ∀ (es : List Expr) {b : Bool}, concludeAny v es = .ok b →
    Kleene.any (values (known v) es) = some b
  | [], b, h => by
    rw [concludeAny] at h
    rw [values]
    exact congrArg some (Except.ok.inj h)
  | e :: es, b, h => by
    rw [concludeAny] at h
    cases he : conclude v e with
    | error fault => rw [he] at h; cases h
    | ok a =>
      rw [he] at h
      rw [values, value_of_conclude e he]
      cases a with
      | false => rw [Kleene.any_cons_false]; exact any_of_concludeAny es h
      | true => cases h; exact Kleene.any_cons_true _

end

end Refinement

/-! ## Classical truth -/

mutual

/-- The classical truth of an expression, given which of its leaves are true. -/
def HoldsUnder (p : Expr → Prop) : Expr → Prop
  | literal b => p (literal b)
  | comparison c allowMissing => p (comparison c allowMissing)
  | filter id => p (filter id)
  | not operand => ¬ HoldsUnder p operand
  | and operands => AllHold p operands
  | or operands => AnyHolds p operands

/-- All of some expressions are true. -/
def AllHold (p : Expr → Prop) : List Expr → Prop
  | [] => True
  | e :: es => HoldsUnder p e ∧ AllHold p es

/-- Any of some expressions is true. -/
def AnyHolds (p : Expr → Prop) : List Expr → Prop
  | [] => False
  | e :: es => HoldsUnder p e ∨ AnyHolds p es

end

section Classical

variable {v : Expr → Except Fault Bool}

/-- The leaves that hold by their verdicts. -/
def Holding (v : Expr → Except Fault Bool) (leaf : Expr) : Prop :=
  v leaf = .ok true

/-- A verdict on a leaf tells whether it holds. -/
theorem holding_iff {leaf : Expr} {b : Bool} (h : v leaf = .ok b) :
    b = true ↔ Holding v leaf := by
  rw [Holding, h, Except.ok.injEq]

mutual

/-- If there is a verdict on each leaf, there is one on the expression, and it is the classical
truth. -/
theorem exists_conclude : ∀ (e : Expr), (∀ leaf ∈ e.leaves, ∃ b, v leaf = .ok b) →
    ∃ b, conclude v e = .ok b ∧ (b = true ↔ HoldsUnder (Holding v) e)
  | literal _, h => by
    obtain ⟨b, hb⟩ := h _ (by rw [leaves]; exact List.mem_singleton_self _)
    exact ⟨b, by rw [conclude, hb], by rw [HoldsUnder]; exact holding_iff hb⟩
  | comparison _ _, h => by
    obtain ⟨b, hb⟩ := h _ (by rw [leaves]; exact List.mem_singleton_self _)
    exact ⟨b, by rw [conclude, hb], by rw [HoldsUnder]; exact holding_iff hb⟩
  | filter _, h => by
    obtain ⟨b, hb⟩ := h _ (by rw [leaves]; exact List.mem_singleton_self _)
    exact ⟨b, by rw [conclude, hb], by rw [HoldsUnder]; exact holding_iff hb⟩
  | not operand, h => by
    obtain ⟨b, hb, hiff⟩ := exists_conclude operand (by rwa [leaves] at h)
    refine ⟨!b, by rw [conclude, hb]; rfl, ?_⟩
    rw [HoldsUnder, ← hiff]
    cases b <;> decide
  | and operands, h => by
    obtain ⟨b, hb, hiff⟩ := exists_concludeAll operands (by rwa [leaves] at h)
    exact ⟨b, by rw [conclude, hb], by rw [HoldsUnder, hiff]⟩
  | or operands, h => by
    obtain ⟨b, hb, hiff⟩ := exists_concludeAny operands (by rwa [leaves] at h)
    exact ⟨b, by rw [conclude, hb], by rw [HoldsUnder, hiff]⟩

/-- If there is a verdict on each leaf of a conjunction, it has its classical truth. -/
theorem exists_concludeAll : ∀ (es : List Expr), (∀ leaf ∈ leavesAll es, ∃ b, v leaf = .ok b) →
    ∃ b, concludeAll v es = .ok b ∧ (b = true ↔ AllHold (Holding v) es)
  | [], _ => ⟨true, by rw [concludeAll], by simp [AllHold]⟩
  | e :: es, h => by
    rw [leavesAll] at h
    obtain ⟨a, ha, hiff⟩ := exists_conclude e fun leaf hl => h leaf (List.mem_append_left _ hl)
    obtain ⟨b, hb, hiffs⟩ :=
      exists_concludeAll es fun leaf hl => h leaf (List.mem_append_right _ hl)
    refine ⟨a && b, ?_, by rw [AllHold, ← hiff, ← hiffs, Bool.and_eq_true]⟩
    rw [concludeAll, ha]
    cases a with
    | false => rfl
    | true => exact hb

/-- If there is a verdict on each leaf of a disjunction, it has its classical truth. -/
theorem exists_concludeAny : ∀ (es : List Expr), (∀ leaf ∈ leavesAll es, ∃ b, v leaf = .ok b) →
    ∃ b, concludeAny v es = .ok b ∧ (b = true ↔ AnyHolds (Holding v) es)
  | [], _ => ⟨false, by rw [concludeAny], by simp [AnyHolds]⟩
  | e :: es, h => by
    rw [leavesAll] at h
    obtain ⟨a, ha, hiff⟩ := exists_conclude e fun leaf hl => h leaf (List.mem_append_left _ hl)
    obtain ⟨b, hb, hiffs⟩ :=
      exists_concludeAny es fun leaf hl => h leaf (List.mem_append_right _ hl)
    refine ⟨a || b, ?_, by rw [AnyHolds, ← hiff, ← hiffs, Bool.or_eq_true]⟩
    rw [concludeAny, ha]
    cases a with
    | false => exact hb
    | true => rfl

end

end Classical

/-! ## Reordering -/

/-- The second expression is the first one with operands of conjunctions and disjunctions in another
order, at any depth. -/
inductive Reordered : Expr → Expr → Prop where
  | refl (e : Expr) : Reordered e e
  | trans {e d c : Expr} : Reordered e d → Reordered d c → Reordered e c
  /-- Operands of a conjunction in another order. -/
  | and {es ds : List Expr} : es.Perm ds → Reordered (.and es) (.and ds)
  /-- Operands of a disjunction in another order. -/
  | or {es ds : List Expr} : es.Perm ds → Reordered (.or es) (.or ds)
  /-- Reordering inside of a negation. -/
  | notOperand {e d : Expr} : Reordered e d → Reordered (.not e) (.not d)
  /-- Reordering inside of one operand of a conjunction. -/
  | andOperand {e d : Expr} (before after : List Expr) : Reordered e d →
      Reordered (.and (before ++ e :: after)) (.and (before ++ d :: after))
  /-- Reordering inside of one operand of a disjunction. -/
  | orOperand {e d : Expr} (before after : List Expr) : Reordered e d →
      Reordered (.or (before ++ e :: after)) (.or (before ++ d :: after))

namespace Reordered

variable {e d : Expr}

/-- The value of an expression does not depend on the order of operands. -/
theorem value_eq (h : Reordered e d) (v : Expr → Option Bool) : value v e = value v d := by
  induction h with
  | refl => rfl
  | trans _ _ ihe ihd => exact ihe.trans ihd
  | and hperm =>
    rw [value, value, values_eq, values_eq]
    exact Kleene.all_perm (hperm.map _)
  | or hperm =>
    rw [value, value, values_eq, values_eq]
    exact Kleene.any_perm (hperm.map _)
  | notOperand _ ih => rw [value, value, ih]
  | andOperand before after _ ih =>
    rw [value, value, values_eq, values_eq, List.map_append, List.map_append, List.map_cons,
      List.map_cons, ih]
  | orOperand before after _ ih =>
    rw [value, value, values_eq, values_eq, List.map_append, List.map_append, List.map_cons,
      List.map_cons, ih]

/-- Expressions that differ in the order of operands have the same leaves. -/
theorem perm_leaves (h : Reordered e d) : e.leaves.Perm d.leaves := by
  induction h with
  | refl => exact .refl _
  | trans _ _ ihe ihd => exact ihe.trans ihd
  | and hperm =>
    rw [leaves, leaves, leavesAll_eq, leavesAll_eq]
    exact hperm.flatMap_right _
  | or hperm =>
    rw [leaves, leaves, leavesAll_eq, leavesAll_eq]
    exact hperm.flatMap_right _
  | notOperand _ ih => rwa [leaves, leaves]
  | andOperand before after _ ih =>
    rw [leaves, leaves, leavesAll_eq, leavesAll_eq, List.flatMap_append, List.flatMap_append,
      List.flatMap_cons, List.flatMap_cons]
    exact (ih.append_right _).append_left _
  | orOperand before after _ ih =>
    rw [leaves, leaves, leavesAll_eq, leavesAll_eq, List.flatMap_append, List.flatMap_append,
      List.flatMap_cons, List.flatMap_cons]
    exact (ih.append_right _).append_left _

end Reordered

/-- **Reordering never turns a verdict into the other one.** Take an expression, the same one with
operands of its conjunctions and disjunctions in another order, at any depth, and two stores that
agree but for the memory of warnings. If both evaluations come to a verdict, it is the same. If no
leaf of the expression has a fault, both come to a verdict, and it is the classical truth of the
expression.

**Proof sketch.** Both evaluations conclude from verdicts on leaves in one and the same store. A
verdict is the value in strong Kleene logic (`value_of_conclude`), where the order does not count
(`Reordered.value_eq`). Without faults on leaves there is a verdict (`exists_conclude`), and both
expressions have the same leaves. -/
theorem reordering_keeps_verdict [Host] {e d : Expr} (h : Reordered e d) (r : Resource)
    {s t : Store} (hst : s.unwarned = t.unwarned) :
    (∀ a b, verdict r s e = .ok a → verdict r t d = .ok b → a = b) ∧
    ((∀ leaf ∈ e.leaves, ∃ b, verdict r s leaf = .ok b) →
      ∃ b, verdict r s e = .ok b ∧ verdict r t d = .ok b ∧
        (b = true ↔ e.HoldsUnder fun leaf => verdict r s leaf = .ok true)) := by
  have he : verdict r s e = conclude (verdict r s) e := verdict_eq_conclude r e s
  have hd : verdict r t d = conclude (verdict r s) d := by
    rw [verdict_eq_conclude]
    refine conclude_congr d fun leaf hl => ?_
    exact verdict_leaf_of_unwarned_eq hst.symm r (isLeaf_of_mem_leaves d hl)
  have hsame : ∀ a b, verdict r s e = .ok a → verdict r t d = .ok b → a = b := by
    intro a b ha hb
    rw [he] at ha
    rw [hd] at hb
    have hvalue := h.value_eq (known (verdict r s))
    rw [value_of_conclude e ha, value_of_conclude d hb] at hvalue
    exact Option.some.inj hvalue
  refine ⟨hsame, fun hleaves => ?_⟩
  obtain ⟨a, ha, hiff⟩ := exists_conclude e hleaves
  obtain ⟨b, hb, -⟩ :=
    exists_conclude d fun leaf hl => hleaves leaf (h.perm_leaves.mem_iff.mpr hl)
  rw [← he] at ha
  rw [← hd] at hb
  obtain rfl := hsame a b ha hb
  exact ⟨a, ha, hb, hiff⟩

attribute [local instance] Host.bare

/-- Three operands of a disjunction in two orders, below a negation: a resource for which one of
them has a fault, but is not reached, and one for which none has. -/
theorem reordering_keeps_verdict_disjunction :
    let above : Expr :=
      .comparison ⟨"age", .greaterThan, some "30", (comparable "30").toOption⟩ true
    let e : Expr := .not (.or [.literal false, .literal true, above])
    let d : Expr := .not (.or [.literal true, above, .literal false])
    let ageless : Resource := ⟨[]⟩
    let young : Resource := ⟨[("age", some "25")]⟩
    Reordered e d ∧ (verdict ageless .empty above).toOption = none ∧
      verdict ageless .empty e = .ok false ∧
      (∀ b, verdict ageless .empty d = .ok b → b = false) ∧
      (∀ leaf ∈ e.leaves, ∃ b, verdict young .empty leaf = .ok b) ∧
      ∃ b, verdict young .empty e = .ok b ∧ verdict young .empty d = .ok b := by
  intro above e d ageless young
  have hswap : Reordered e d := .notOperand (.or (.trans (.swap _ _ _) (.cons _ (.swap _ _ _))))
  have he : verdict ageless .empty e = .ok false := by decide +kernel
  have hleaves : ∀ leaf ∈ e.leaves, ∃ b, verdict young .empty leaf = .ok b := by
    intro leaf hl
    have hmem : leaf ∈ [.literal false, .literal true, above] := hl
    simp only [List.mem_cons, List.not_mem_nil, or_false] at hmem
    obtain rfl | rfl | rfl := hmem
    · exact ⟨false, by decide +kernel⟩
    · exact ⟨true, by decide +kernel⟩
    · exact ⟨false, by decide +kernel⟩
  obtain ⟨b, hb, hb', -⟩ := (reordering_keeps_verdict hswap young rfl).2 hleaves
  exact ⟨hswap, by decide +kernel, he,
    fun b hb => ((reordering_keeps_verdict hswap ageless rfl).1 false b he hb).symm, hleaves,
    b, hb, hb'⟩

end Expr

end Winnow

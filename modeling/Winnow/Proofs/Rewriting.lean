import Mathlib.Logic.Relation
import Winnow.Proofs.Leaves

set_option autoImplicit false

/-!
# Rewriting expressions

Double negation, the laws of De Morgan, and nested conjunctions and disjunctions taken apart: none
of these rules changes what an evaluation comes to. An expression before and after has the same
leaves evaluated in the same order, so verdict, faults, records and the memory of warnings all stay
the same. Rules can be applied until every negation is that of a leaf and no operand has the
connective of the expression around it.

## Main definitions

* `Winnow.Expr.Rewrites` — one rule applied at one place of an expression.
* `Winnow.Expr.IsNormal` — negation normal form without nesting.
* `Winnow.Expr.normalForm` — the normal form of an expression.

## Main results

* `Winnow.Expr.Rewrites.satisfies_eq` — a rule does not change what an evaluation comes to.
* `Winnow.Expr.rewrites_normalForm`, `Winnow.Expr.isNormal_normalForm` — the rules lead to the
  normal form, and no rule leads on from it.
* `Winnow.Expr.rewriting_preserves_evaluation` — evaluation is the same after any rewriting.
-/

namespace Winnow

/-! ## Sequences of operations -/

namespace Outcome

variable {σ α β γ : Type}

/-- A sequence of three operations does not depend on which two are taken together. -/
theorem andThen_assoc (o : Outcome σ α) (f : α → σ → Outcome σ β) (g : β → σ → Outcome σ γ) :
    (o.andThen f).andThen g = o.andThen fun a s => (f a s).andThen g := by
  cases h : o.result with
  | error e => rw [andThen_of_error h, andThen_of_error h, andThen_of_error rfl]
  | ok a =>
    rw [andThen_of_ok h, andThen_of_ok h]
    cases hf : (f a o.state).result with
    | error e => rw [andThen_of_error hf, andThen_of_error rfl]
    | ok b => rw [andThen_of_ok hf, andThen_of_ok rfl, List.append_assoc]

/-- The value of a sequence is replaced where it comes about. -/
theorem map_andThen (o : Outcome σ α) (f : α → σ → Outcome σ β) (g : β → γ) :
    (o.andThen f).map g = o.andThen fun a s => (f a s).map g := by
  cases h : o.result with
  | error e => rw [andThen_of_error h, andThen_of_error h]; rfl
  | ok a => rw [andThen_of_ok h, andThen_of_ok h]; rfl

/-- The next operation gets the value that has been put in place. -/
theorem andThen_map (o : Outcome σ α) (f : α → β) (g : β → σ → Outcome σ γ) :
    (o.map f).andThen g = o.andThen fun a s => g (f a) s := by
  cases h : o.result with
  | error e => rw [andThen_of_error h, andThen_of_error (by rw [map, h]; rfl)]; rfl
  | ok a => rw [andThen_of_ok h, andThen_of_ok (a := f a) (by rw [map, h]; rfl)]; rfl

/-- After a value that is passed on nothing else happens. -/
theorem andThen_value (o : Outcome σ α) : (o.andThen fun a s => value a s) = o := by
  cases h : o.result with
  | error e => rw [andThen_of_error h, ← h]
  | ok a => rw [andThen_of_ok h, value, ← h, List.append_nil]

/-- Negating a truth value twice leaves an outcome as it was. -/
theorem map_not_not (o : Outcome σ Bool) : (o.map Bool.not).map Bool.not = o := by
  obtain ⟨result, records, state⟩ := o
  cases result with
  | error e => rfl
  | ok b => simp [map, Except.map]

end Outcome

namespace Expr

/-! ## Laws of evaluation -/

section

variable [Host]

/-- A conjunction in two parts: the second one is evaluated if the first one holds. -/
theorem satisfiesAll_append (r : Resource) (es ds : List Expr) (s : Store) :
    satisfiesAll r (es ++ ds) s = (satisfiesAll r es s).andThen fun holds t =>
      if holds then satisfiesAll r ds t else .value false t := by
  induction es generalizing s with
  | nil => rw [List.nil_append, satisfiesAll, Outcome.value_andThen, if_pos rfl]
  | cons e es ih =>
    rw [List.cons_append, satisfiesAll, satisfiesAll, Outcome.andThen_assoc]
    congr 1
    funext holds t
    cases holds with
    | true => exact ih t
    | false => simp [Outcome.value_andThen]

/-- A disjunction in two parts: the second one is evaluated if the first one fails. -/
theorem satisfiesAny_append (r : Resource) (es ds : List Expr) (s : Store) :
    satisfiesAny r (es ++ ds) s = (satisfiesAny r es s).andThen fun holds t =>
      if holds then .value true t else satisfiesAny r ds t := by
  induction es generalizing s with
  | nil => rw [List.nil_append, satisfiesAny, Outcome.value_andThen, if_neg Bool.false_ne_true]
  | cons e es ih =>
    rw [List.cons_append, satisfiesAny, satisfiesAny, Outcome.andThen_assoc]
    congr 1
    funext holds t
    cases holds with
    | true => simp [Outcome.value_andThen]
    | false => exact ih t

/-- Negation twice is evaluated as none. -/
theorem satisfies_not_not (r : Resource) (e : Expr) (s : Store) :
    satisfies r (not (not e)) s = satisfies r e s := by
  rw [satisfies, satisfies, Outcome.map_not_not]

/-- The negation of a conjunction is evaluated as the disjunction of the negations. -/
theorem satisfiesAll_map_not (r : Resource) (es : List Expr) (s : Store) :
    (satisfiesAll r es s).map Bool.not = satisfiesAny r (es.map not) s := by
  induction es generalizing s with
  | nil => rw [List.map_nil, satisfiesAll, satisfiesAny]; rfl
  | cons e es ih =>
    rw [List.map_cons, satisfiesAll, satisfiesAny, satisfies, Outcome.map_andThen,
      Outcome.andThen_map]
    congr 1
    funext holds t
    cases holds with
    | true => exact ih t
    | false => rfl

/-- The negation of a disjunction is evaluated as the conjunction of the negations. -/
theorem satisfiesAny_map_not (r : Resource) (es : List Expr) (s : Store) :
    (satisfiesAny r es s).map Bool.not = satisfiesAll r (es.map not) s := by
  induction es generalizing s with
  | nil => rw [List.map_nil, satisfiesAll, satisfiesAny]; rfl
  | cons e es ih =>
    rw [List.map_cons, satisfiesAll, satisfiesAny, satisfies, Outcome.map_andThen,
      Outcome.andThen_map]
    congr 1
    funext holds t
    cases holds with
    | true => rfl
    | false => exact ih t

/-- A conjunction of one operand is evaluated as that operand. -/
theorem satisfiesAll_singleton (r : Resource) (e : Expr) (s : Store) :
    satisfiesAll r [e] s = satisfies r e s := by
  rw [satisfiesAll]
  refine Eq.trans ?_ (Outcome.andThen_value _)
  congr 1
  funext holds t
  cases holds with
  | true => rw [satisfiesAll]; rfl
  | false => rfl

/-- A disjunction of one operand is evaluated as that operand. -/
theorem satisfiesAny_singleton (r : Resource) (e : Expr) (s : Store) :
    satisfiesAny r [e] s = satisfies r e s := by
  rw [satisfiesAny]
  refine Eq.trans ?_ (Outcome.andThen_value _)
  congr 1
  funext holds t
  cases holds with
  | true => rfl
  | false => rw [satisfiesAny]; rfl

/-- Operands of a conjunction that are evaluated alike can take each other's place. -/
theorem satisfiesAll_congr (r : Resource) {es ds : List Expr}
    (h : ∀ s, satisfiesAll r es s = satisfiesAll r ds s) (before after : List Expr) (s : Store) :
    satisfiesAll r (before ++ es ++ after) s = satisfiesAll r (before ++ ds ++ after) s := by
  simp only [satisfiesAll_append, h]

/-- Operands of a disjunction that are evaluated alike can take each other's place. -/
theorem satisfiesAny_congr (r : Resource) {es ds : List Expr}
    (h : ∀ s, satisfiesAny r es s = satisfiesAny r ds s) (before after : List Expr) (s : Store) :
    satisfiesAny r (before ++ es ++ after) s = satisfiesAny r (before ++ ds ++ after) s := by
  simp only [satisfiesAny_append, h]

/-! ## Rules -/

/-- One rule applied at one place of an expression. -/
inductive Rewrites : Expr → Expr → Prop where
  /-- Double negation. -/
  | notNot (e : Expr) : Rewrites (not (not e)) e
  /-- The negation of a conjunction. -/
  | notAnd (es : List Expr) : Rewrites (not (and es)) (or (es.map not))
  /-- The negation of a disjunction. -/
  | notOr (es : List Expr) : Rewrites (not (or es)) (and (es.map not))
  /-- A conjunction among the operands of a conjunction, with or without operands of its own. -/
  | flattenAnd (before es after : List Expr) :
      Rewrites (and (before ++ and es :: after)) (and (before ++ es ++ after))
  /-- A disjunction among the operands of a disjunction, with or without operands of its own. -/
  | flattenOr (before es after : List Expr) :
      Rewrites (or (before ++ or es :: after)) (or (before ++ es ++ after))
  /-- A rule applied inside of a negation. -/
  | notOperand {e d : Expr} : Rewrites e d → Rewrites (not e) (not d)
  /-- A rule applied inside of an operand of a conjunction. -/
  | andOperand {e d : Expr} (before after : List Expr) : Rewrites e d →
      Rewrites (and (before ++ e :: after)) (and (before ++ d :: after))
  /-- A rule applied inside of an operand of a disjunction. -/
  | orOperand {e d : Expr} (before after : List Expr) : Rewrites e d →
      Rewrites (or (before ++ e :: after)) (or (before ++ d :: after))

/-- **A rule does not change what an evaluation comes to.**

**Proof sketch.** Induction on the place where it is applied. For the place itself there is a law of
evaluation for each rule; around it, operands that are evaluated alike take each other's place. -/
theorem Rewrites.satisfies_eq {e d : Expr} (h : Rewrites e d) (r : Resource) (s : Store) :
    satisfies r e s = satisfies r d s := by
  induction h generalizing s with
  | notNot e => exact satisfies_not_not r e s
  | notAnd es => rw [satisfies, satisfies, satisfies, satisfiesAll_map_not]
  | notOr es => rw [satisfies, satisfies, satisfies, satisfiesAny_map_not]
  | flattenAnd before es after =>
    have hone : ∀ s, satisfiesAll r [and es] s = satisfiesAll r es s := fun s => by
      rw [satisfiesAll_singleton, satisfies]
    rw [satisfies, satisfies, List.append_cons]
    exact satisfiesAll_congr r hone before after s
  | flattenOr before es after =>
    have hone : ∀ s, satisfiesAny r [or es] s = satisfiesAny r es s := fun s => by
      rw [satisfiesAny_singleton, satisfies]
    rw [satisfies, satisfies, List.append_cons]
    exact satisfiesAny_congr r hone before after s
  | notOperand _ ih => rw [satisfies, satisfies, ih]
  | @andOperand e d before after _ ih =>
    have hone : ∀ s, satisfiesAll r [e] s = satisfiesAll r [d] s := fun s => by
      rw [satisfiesAll_singleton, satisfiesAll_singleton, ih]
    rw [satisfies, satisfies, List.append_cons, List.append_cons before d]
    exact satisfiesAll_congr r hone before after s
  | @orOperand e d before after _ ih =>
    have hone : ∀ s, satisfiesAny r [e] s = satisfiesAny r [d] s := fun s => by
      rw [satisfiesAny_singleton, satisfiesAny_singleton, ih]
    rw [satisfies, satisfies, List.append_cons, List.append_cons before d]
    exact satisfiesAny_congr r hone before after s

/-- Any number of rules, one after another. -/
abbrev RewritesTo : Expr → Expr → Prop :=
  Relation.ReflTransGen Rewrites

/-- Any number of rules do not change what an evaluation comes to. -/
theorem RewritesTo.satisfies_eq {e d : Expr} (h : RewritesTo e d) (r : Resource) (s : Store) :
    satisfies r e s = satisfies r d s := by
  induction h with
  | refl => rfl
  | tail _ hrule ih => exact ih.trans (hrule.satisfies_eq r s)

end

/-! ## Normal forms -/

/-- Negation normal form without nesting: only leaves are negated, and no operand has the connective
of the expression that it is an operand of. -/
inductive IsNormal : Expr → Prop where
  | leaf {e : Expr} : e.IsLeaf → IsNormal e
  | notLeaf {e : Expr} : e.IsLeaf → IsNormal (not e)
  | and {es : List Expr} : (∀ e ∈ es, IsNormal e) → (∀ ds, and ds ∉ es) → IsNormal (and es)
  | or {es : List Expr} : (∀ e ∈ es, IsNormal e) → (∀ ds, or ds ∉ es) → IsNormal (or es)

/-- Conjunction or disjunction. -/
def join (conjunctive : Bool) (es : List Expr) : Expr :=
  if conjunctive then and es else or es

/-- The operands of a conjunction or disjunction; any other expression is one operand. -/
def operands (conjunctive : Bool) : Expr → List Expr
  | and es => if conjunctive then es else [and es]
  | or es => if conjunctive then [or es] else es
  | e => [e]

/-- An expression or its negation. -/
def signed (negated : Bool) (e : Expr) : Expr :=
  if negated then not e else e

mutual

/-- The normal form of an expression or of its negation. -/
def normal (negated : Bool) : Expr → Expr
  | literal value => signed negated (literal value)
  | comparison c allowMissing => signed negated (comparison c allowMissing)
  | filter id => signed negated (filter id)
  | not operand => normal (!negated) operand
  | and es => join (!negated) ((normalAll negated es).flatMap (operands !negated))
  | or es => join negated ((normalAll negated es).flatMap (operands negated))

/-- The normal forms of several expressions or of their negations. -/
def normalAll (negated : Bool) : List Expr → List Expr
  | [] => []
  | e :: es => normal negated e :: normalAll negated es

end

/-- The normal form of an expression. -/
def normalForm (e : Expr) : Expr :=
  normal false e

/-! ### The way to the normal form -/

/-- A rule applied inside of an operand, whatever the connective. -/
theorem Rewrites.joinOperand {e d : Expr} (h : Rewrites e d) (conjunctive : Bool)
    (before after : List Expr) :
    Rewrites (join conjunctive (before ++ e :: after))
      (join conjunctive (before ++ d :: after)) := by
  cases conjunctive with
  | true => exact .andOperand before after h
  | false => exact .orOperand before after h

/-- Rules applied inside of an operand, whatever the connective. -/
theorem RewritesTo.joinOperand {e d : Expr} (h : RewritesTo e d) (conjunctive : Bool)
    (before after : List Expr) :
    RewritesTo (join conjunctive (before ++ e :: after))
      (join conjunctive (before ++ d :: after)) := by
  induction h with
  | refl => exact .refl
  | tail _ hrule ih => exact ih.tail (hrule.joinOperand conjunctive before after)

/-- The negation of an expression with several operands. -/
theorem rewritesTo_signed_join (conjunctive negated : Bool) (es : List Expr) :
    RewritesTo (signed negated (join conjunctive es))
      (join (conjunctive ^^ negated) (es.map (signed negated))) := by
  have hsame : es.map (signed false) = es := List.map_id es
  cases negated with
  | false => rw [hsame, Bool.xor_false]; exact .refl
  | true =>
    cases conjunctive with
    | true => exact .single (.notAnd es)
    | false => exact .single (.notOr es)

/-- An operand is taken apart if it has the connective of the expression around it. -/
theorem rewritesTo_operands (conjunctive : Bool) (before after : List Expr) (e : Expr) :
    RewritesTo (join conjunctive (before ++ e :: after))
      (join conjunctive (before ++ operands conjunctive e ++ after)) := by
  have hsame : before ++ e :: after = before ++ [e] ++ after := List.append_cons before e after
  cases e with
  | and es =>
    cases conjunctive with
    | true => exact .single (.flattenAnd before es after)
    | false => rw [hsame]; exact .refl
  | or es =>
    cases conjunctive with
    | true => rw [hsame]; exact .refl
    | false => exact .single (.flattenOr before es after)
  | _ => rw [hsame]; exact .refl

/-- All operands are taken apart that have the connective of the expression around them. -/
theorem rewritesTo_flatMap_operands (conjunctive : Bool) (before es : List Expr) :
    RewritesTo (join conjunctive (before ++ es))
      (join conjunctive (before ++ es.flatMap (operands conjunctive))) := by
  induction es generalizing before with
  | nil => exact .refl
  | cons e es ih =>
    have hrest := ih (before ++ operands conjunctive e)
    rw [List.flatMap_cons, ← List.append_assoc]
    exact (rewritesTo_operands conjunctive before es e).trans hrest

mutual

/-- The rules lead from an expression or its negation to the normal form.

**Proof sketch.** Induction on the expression. A negation turns the sign. A conjunction or
disjunction that is negated takes the negation to its operands; then these come to their normal
forms, one after another, and are taken apart. -/
theorem rewritesTo_normal : ∀ (e : Expr) (negated : Bool),
    RewritesTo (signed negated e) (normal negated e)
  | literal _, negated => by rw [normal]
  | comparison _ _, negated => by rw [normal]
  | filter _, negated => by rw [normal]
  | not operand, negated => by
    have hoperand := rewritesTo_normal operand !negated
    rw [normal]
    cases negated with
    | false => exact hoperand
    | true => exact .head (.notNot operand) hoperand
  | and es, negated => by
    have hsign := rewritesTo_signed_join true negated es
    have hoperands := rewritesTo_normalAll es negated (!negated) []
    rw [Bool.true_xor] at hsign
    rw [normal]
    exact (hsign.trans hoperands).trans (rewritesTo_flatMap_operands _ [] _)
  | or es, negated => by
    have hsign := rewritesTo_signed_join false negated es
    have hoperands := rewritesTo_normalAll es negated negated []
    rw [Bool.false_xor] at hsign
    rw [normal]
    exact (hsign.trans hoperands).trans (rewritesTo_flatMap_operands _ [] _)

/-- The rules lead from operands or their negations to normal forms, whatever the connective. -/
theorem rewritesTo_normalAll : ∀ (es : List Expr) (negated conjunctive : Bool)
    (before : List Expr),
    RewritesTo (join conjunctive (before ++ es.map (signed negated)))
      (join conjunctive (before ++ normalAll negated es))
  | [], negated, conjunctive, before => by rw [normalAll, List.map_nil]
  | e :: es, negated, conjunctive, before => by
    have hfirst := (rewritesTo_normal e negated).joinOperand conjunctive before
      (es.map (signed negated))
    have hrest := rewritesTo_normalAll es negated conjunctive (before ++ [normal negated e])
    rw [List.append_assoc, List.append_assoc, List.singleton_append, List.singleton_append] at hrest
    rw [normalAll, List.map_cons]
    exact hfirst.trans hrest

end

/-- The rules lead to the normal form. -/
theorem rewrites_normalForm (e : Expr) : RewritesTo e e.normalForm :=
  rewritesTo_normal e false

/-! ### Nothing leads on -/

/-- A leaf or its negation is normal. -/
theorem isNormal_signed {e : Expr} (h : e.IsLeaf) (negated : Bool) :
    (signed negated e).IsNormal := by
  cases negated with
  | false => exact .leaf h
  | true => exact .notLeaf h

/-- An expression with the connective is taken apart, and any other one is not. -/
theorem mem_operands {conjunctive : Bool} {e d : Expr} (hd : d ∈ operands conjunctive e) :
    (∃ es, e = join conjunctive es ∧ d ∈ es) ∨ (d = e ∧ ∀ es, e ≠ join conjunctive es) := by
  cases e with
  | and es =>
    cases conjunctive with
    | true => exact .inl ⟨es, rfl, hd⟩
    | false => exact .inr ⟨List.mem_singleton.mp hd, fun _ => nofun⟩
  | or es =>
    cases conjunctive with
    | true => exact .inr ⟨List.mem_singleton.mp hd, fun _ => nofun⟩
    | false => exact .inl ⟨es, rfl, hd⟩
  | _ => exact .inr ⟨List.mem_singleton.mp hd, fun _ => by cases conjunctive <;> exact nofun⟩

/-- The operands of a normal expression are normal, and have another connective. -/
theorem IsNormal.of_mem_join {conjunctive : Bool} {es : List Expr} {d : Expr}
    (h : (join conjunctive es).IsNormal) (hd : d ∈ es) :
    d.IsNormal ∧ ∀ ds, d ≠ join conjunctive ds := by
  cases conjunctive with
  | true =>
    cases h with
    | leaf h => cases h
    | and hes hne => exact ⟨hes d hd, fun ds hds => hne ds (by rwa [hds] at hd)⟩
  | false =>
    cases h with
    | leaf h => cases h
    | or hes hne => exact ⟨hes d hd, fun ds hds => hne ds (by rwa [hds] at hd)⟩

/-- Normal operands, taken apart, make up a normal expression. -/
theorem isNormal_join {es : List Expr} (h : ∀ e ∈ es, e.IsNormal) (conjunctive : Bool) :
    (join conjunctive (es.flatMap (operands conjunctive))).IsNormal := by
  have hmem : ∀ d ∈ es.flatMap (operands conjunctive),
      d.IsNormal ∧ ∀ ds, d ≠ join conjunctive ds := by
    intro d hd
    obtain ⟨e, he, hde⟩ := List.mem_flatMap.mp hd
    obtain ⟨ds, rfl, hds⟩ | ⟨rfl, hother⟩ := mem_operands hde
    · exact (h _ he).of_mem_join hds
    · exact ⟨h d he, hother⟩
  cases conjunctive with
  | true => exact .and (fun d hd => (hmem d hd).1) fun ds hd => (hmem _ hd).2 ds rfl
  | false => exact .or (fun d hd => (hmem d hd).1) fun ds hd => (hmem _ hd).2 ds rfl

mutual

/-- The normal form of an expression or of its negation is normal. -/
theorem isNormal_normal : ∀ (e : Expr) (negated : Bool), (normal negated e).IsNormal
  | literal b, negated => by rw [normal]; exact isNormal_signed (e := literal b) trivial negated
  | comparison c a, negated => by
    rw [normal]
    exact isNormal_signed (e := comparison c a) trivial negated
  | filter id, negated => by rw [normal]; exact isNormal_signed (e := filter id) trivial negated
  | not operand, negated => by rw [normal]; exact isNormal_normal operand !negated
  | and es, negated => by rw [normal]; exact isNormal_join (isNormal_normalAll es negated) !negated
  | or es, negated => by rw [normal]; exact isNormal_join (isNormal_normalAll es negated) negated

/-- The normal forms of several expressions or of their negations are normal. -/
theorem isNormal_normalAll : ∀ (es : List Expr) (negated : Bool),
    ∀ d ∈ normalAll negated es, d.IsNormal
  | [], negated, d, hd => by rw [normalAll] at hd; cases hd
  | e :: es, negated, d, hd => by
    rw [normalAll] at hd
    obtain rfl | hd := List.mem_cons.mp hd
    · exact isNormal_normal e negated
    · exact isNormal_normalAll es negated d hd

end

/-- The normal form is normal. -/
theorem isNormal_normalForm (e : Expr) : e.normalForm.IsNormal :=
  isNormal_normal e false

/-- No rule leads on from a normal form. -/
theorem Rewrites.not_isNormal {e d : Expr} (h : Rewrites e d) : ¬ e.IsNormal := by
  intro hnormal
  induction h with
  | notNot e =>
    cases hnormal with
    | leaf h => exact h
    | notLeaf h => exact h
  | notAnd es =>
    cases hnormal with
    | leaf h => exact h
    | notLeaf h => exact h
  | notOr es =>
    cases hnormal with
    | leaf h => exact h
    | notLeaf h => exact h
  | flattenAnd before es after =>
    cases hnormal with
    | leaf h => exact h
    | and _ hne => exact hne es (List.mem_append_right _ List.mem_cons_self)
  | flattenOr before es after =>
    cases hnormal with
    | leaf h => exact h
    | or _ hne => exact hne es (List.mem_append_right _ List.mem_cons_self)
  | notOperand _ ih =>
    cases hnormal with
    | leaf h => exact h
    | notLeaf h => exact ih (.leaf h)
  | andOperand before after _ ih =>
    cases hnormal with
    | leaf h => exact h
    | and hes _ => exact ih (hes _ (List.mem_append_right _ List.mem_cons_self))
  | orOperand before after _ ih =>
    cases hnormal with
    | leaf h => exact h
    | or hes _ => exact ih (hes _ (List.mem_append_right _ List.mem_cons_self))

/-- **Rewriting preserves evaluation.** Whatever rules are applied to an expression, at whatever
places, its evaluation on each resource comes to the same verdict or fault, the same records, and
the same state of every filter. The rules lead to a normal form, in which only leaves are negated
and no operand has the connective of the expression around it, and from which no rule leads on. In
particular three operands joined two by two, from either side, are evaluated as three operands of
one conjunction or disjunction.

**Proof sketch.** Each rule is a law of evaluation (`Rewrites.satisfies_eq`), and `normalForm`
applies them from the root to the leaves, carrying the sign along. -/
theorem rewriting_preserves_evaluation [Host] (e : Expr) :
    (∀ d, RewritesTo e d → ∀ r s, satisfies r d s = satisfies r e s) ∧
    RewritesTo e e.normalForm ∧ e.normalForm.IsNormal ∧ (∀ d, ¬ Rewrites e.normalForm d) ∧
    ∀ a b c r s,
      satisfies r (and [and [a, b], c]) s = satisfies r (and [a, b, c]) s ∧
      satisfies r (and [a, and [b, c]]) s = satisfies r (and [a, b, c]) s ∧
      satisfies r (or [or [a, b], c]) s = satisfies r (or [a, b, c]) s ∧
      satisfies r (or [a, or [b, c]]) s = satisfies r (or [a, b, c]) s := by
  refine ⟨fun d hd r s => (hd.satisfies_eq r s).symm, rewrites_normalForm e, isNormal_normalForm e,
    fun d hd => hd.not_isNormal (isNormal_normalForm e), fun a b c r s => ⟨?_, ?_, ?_, ?_⟩⟩
  · exact (Rewrites.flattenAnd [] [a, b] [c]).satisfies_eq r s
  · exact (Rewrites.flattenAnd [a] [b, c] []).satisfies_eq r s
  · exact (Rewrites.flattenOr [] [a, b] [c]).satisfies_eq r s
  · exact (Rewrites.flattenOr [a] [b, c] []).satisfies_eq r s

attribute [local instance] Host.bare

/-- A negated conjunction of a filter that warns, of nothing, and of a negation: three rules are
applied to it, and the warning is still written. -/
theorem rewriting_preserves_evaluation_warning :
    let above : Criterion := ⟨"age", .greaterThan, some "30", (comparable "30").toOption⟩
    let s : Store := ⟨[(⟨"people", true, false, [("age", [above])], []⟩, ⟨0⟩)], [.empty "people"]⟩
    let r : Resource := ⟨[("age", some "n/a")]⟩
    let e : Expr := .not (.and [.filter ⟨0⟩, .and [], .not (.literal false)])
    let d : Expr := .or [.not (.filter ⟨0⟩), .or [], .literal false]
    RewritesTo e d ∧ (satisfies r e s).records.map Record.level = [.warning, .debug] ∧
      satisfies r d s = satisfies r e s ∧
      e.normalForm = .or [.not (.filter ⟨0⟩), .literal false] := by
  intro above s r e d
  have hd : RewritesTo e d :=
    .tail (.tail (.single (.notAnd _)) (.orOperand [.not (.filter ⟨0⟩)] _ (.notAnd [])))
      (.orOperand [.not (.filter ⟨0⟩), .or []] [] (.notNot (.literal false)))
  exact ⟨hd, by decide +kernel, (rewriting_preserves_evaluation e).1 d hd r s, rfl⟩

end Expr

end Winnow

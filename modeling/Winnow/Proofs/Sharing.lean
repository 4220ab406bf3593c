import Mathlib.Data.List.Nodup
import Winnow.Proofs.Session.Steps

set_option autoImplicit false

/-!
# Shared filters

Several expressions may refer to one filter, one expression may refer to it several times, and
several filters may write to one journal. None of this can be told from verdicts: an expression has
those of its copy in which every reference is a new filter with the same criteria and policies.

## Main definitions

* `Winnow.Expr.separate` — the copy of an expression in which every reference is a new filter.
* `Winnow.Session.Spares` — steps that change none of some filters.

## Main results

* `Winnow.Expr.verdict_separate` — an expression has the verdicts of its copy.
* `Winnow.Session.agrees_after` — steps that spare filters leave their criteria and policies alone.
* `Winnow.Session.sharing_is_transparent` — sharing in sessions.

## Design

A copy is made of an expression in one store and put into another one, which may be the same. Its
filters have journals of their own there, and no memory of warnings.
-/

namespace Winnow

namespace Expr

/-! ## Copies that share nothing -/

mutual

/-- The expression in which each reference is a new filter with the criteria and the policies of the
one that it referred to, and the store with these filters. -/
def separate (s : Store) : Expr → Store → Expr × Store
  | literal value, t => (literal value, t)
  | comparison c allowMissing, t => (comparison c allowMissing, t)
  | filter i, t => (t.addFilter (s.filter i).unwarned none).map filter id
  | not operand, t => (separate s operand t).map not id
  | and operands, t => (separateAll s operands t).map and id
  | or operands, t => (separateAll s operands t).map or id

/-- The copies of several expressions, one after another. -/
def separateAll (s : Store) : List Expr → Store → List Expr × Store
  | [], t => ([], t)
  | e :: es, t =>
    let first := separate s e t
    (separateAll s es first.2).map (first.1 :: ·) id

end

variable (s : Store)

mutual

/-- The store with the filters of a copy has all that was there before. -/
theorem extends_separate : ∀ (e : Expr) (t : Store), t.Extends none (separate s e t).2
  | literal _, t => by rw [separate]; exact .refl t none
  | comparison _ _, t => by rw [separate]; exact .refl t none
  | filter i, t => by rw [separate]; exact t.extends_addFilter (s.filter i).unwarned none
  | not operand, t => by rw [separate]; exact extends_separate operand t
  | and operands, t => by rw [separate]; exact extends_separateAll operands t
  | or operands, t => by rw [separate]; exact extends_separateAll operands t

/-- The store with the filters of several copies has all that was there before. -/
theorem extends_separateAll : ∀ (es : List Expr) (t : Store),
    t.Extends none (separateAll s es t).2
  | [], t => by rw [separateAll]; exact .refl t none
  | e :: es, t => by
    rw [separateAll]
    exact (extends_separate e t).trans (extends_separateAll es _)

end

section Verdicts

variable [Host] {u : Store} (r : Resource)

/-- The verdict of a filter that has been added is that of what it was made of. -/
theorem verdict_addFilter {t : Store} (f : Filter)
    (h : (t.addFilter f.unwarned none).2.Extends none u) :
    verdict r u (filter (t.addFilter f.unwarned none).1) = (f.satisfies r).result := by
  rw [verdict_filter, h.filter_eq _ (t.index_addFilter_lt _ none), t.filter_addFilter _ none]
  exact Filter.result_satisfies_of_unwarned_eq (show f.unwarned.unwarned = f.unwarned from rfl) r

mutual

/-- What is concluded from the leaves of a copy is what is concluded from those of the expression.

**Proof sketch.** Induction on the expression. Filters that are added for later operands leave those
for the first ones as they are. -/
theorem conclude_separate : ∀ (e : Expr) (t : Store), (separate s e t).2.Extends none u →
    conclude (verdict r u) (separate s e t).1 = conclude (verdict r s) e
  | literal _, t, _ => by rw [separate, conclude, conclude, verdict, verdict, satisfies]; rfl
  | comparison _ _, t, _ => by
    rw [separate, conclude, conclude, verdict, verdict, satisfies, satisfies]
  | filter i, t, h => by
    rw [separate] at h ⊢
    rw [Prod.map, conclude, conclude, verdict_addFilter r _ h, verdict_filter]
  | not operand, t, h => by
    rw [separate] at h ⊢
    rw [Prod.map, conclude, conclude, conclude_separate operand t h]
  | and operands, t, h => by
    rw [separate] at h ⊢
    rw [Prod.map, conclude, conclude]
    exact (conclude_separateAll operands t h).1
  | or operands, t, h => by
    rw [separate] at h ⊢
    rw [Prod.map, conclude, conclude]
    exact (conclude_separateAll operands t h).2

/-- What is concluded from the leaves of several copies is what is concluded from those of the
expressions. -/
theorem conclude_separateAll : ∀ (es : List Expr) (t : Store),
    (separateAll s es t).2.Extends none u →
      concludeAll (verdict r u) (separateAll s es t).1 = concludeAll (verdict r s) es ∧
      concludeAny (verdict r u) (separateAll s es t).1 = concludeAny (verdict r s) es
  | [], t, _ => by
    rw [separateAll, concludeAll, concludeAll, concludeAny, concludeAny]
    exact ⟨rfl, rfl⟩
  | e :: es, t, h => by
    rw [separateAll] at h ⊢
    have hfirst := conclude_separate e t ((extends_separateAll s es _).trans h)
    have hrest := conclude_separateAll es _ h
    rw [Prod.map, concludeAll, concludeAll, concludeAny, concludeAny, hfirst, hrest.1, hrest.2]
    exact ⟨rfl, rfl⟩

end

/-- An expression has the verdicts of its copy. -/
theorem verdict_separate (e : Expr) (t : Store) :
    verdict r (separate s e t).2 (separate s e t).1 = verdict r s e := by
  rw [verdict_eq_conclude, verdict_eq_conclude r e]
  exact conclude_separate s r e t (.refl _ none)

end Verdicts

/-! ### The filters of a copy -/

/-- The addresses of new filters. -/
def newIds (t : Store) (n : Nat) : List FilterId :=
  (List.range' t.filters.length n).map .mk

/-- New filters, and more of them. -/
theorem newIds_append {t u : Store} {m : Nat} (h : u.filters.length = t.filters.length + m)
    (n : Nat) : newIds t m ++ newIds u n = newIds t (m + n) := by
  rw [newIds, newIds, newIds, h, ← List.map_append, List.range'_append_1]

mutual

/-- Each reference of a copy is to a new filter of its own. -/
theorem references_separate : ∀ (e : Expr) (t : Store),
    (separate s e t).1.references = newIds t e.references.length ∧
      (separate s e t).2.filters.length = t.filters.length + e.references.length
  | literal _, t => by rw [separate]; exact ⟨rfl, rfl⟩
  | comparison _ _, t => by rw [separate]; exact ⟨rfl, rfl⟩
  | filter i, t => by
    rw [separate]
    exact ⟨rfl, t.length_filters_addFilter _ none⟩
  | not operand, t => by
    rw [separate, Prod.map, references_not, references_not]
    exact references_separate operand t
  | and operands, t => by
    rw [separate, Prod.map, references_and, references_and]
    exact references_separateAll operands t
  | or operands, t => by
    rw [separate, Prod.map, references_or, references_or]
    exact references_separateAll operands t

/-- Each reference of several copies is to a new filter of its own. -/
theorem references_separateAll : ∀ (es : List Expr) (t : Store),
    referencesAll (separateAll s es t).1 = newIds t (referencesAll es).length ∧
      (separateAll s es t).2.filters.length = t.filters.length + (referencesAll es).length
  | [], t => by rw [separateAll]; exact ⟨rfl, rfl⟩
  | e :: es, t => by
    obtain ⟨hfirst, hlength⟩ := references_separate e t
    obtain ⟨hrest, hlengthAll⟩ := references_separateAll es (separate s e t).2
    rw [separateAll, Prod.map, referencesAll_cons, referencesAll_cons, List.length_append, hfirst,
      hrest, newIds_append hlength]
    refine ⟨rfl, hlengthAll.trans ?_⟩
    rw [hlength, Nat.add_assoc]

end

/-- The references of a copy are all different, and none of them was in the store before. -/
theorem separate_is_fresh (e : Expr) (t : Store) :
    (separate s e t).1.references.Nodup ∧
      ∀ i ∈ (separate s e t).1.references, t.filters.length ≤ i.index := by
  rw [(references_separate s e t).1, newIds]
  constructor
  · exact List.Nodup.map (fun m n h => FilterId.mk.inj h) List.nodup_range'
  · intro i hi
    obtain ⟨n, hn, rfl⟩ := List.mem_map.mp hi
    exact (List.mem_range'_1.mp hn).1

mutual

/-- The filters of a copy have the criteria and policies of those that are referred to. -/
theorem filters_separate {u : Store} : ∀ (e : Expr) (t : Store), (separate s e t).2.Extends none u →
    (separate s e t).1.references.map u.filter =
      e.references.map fun i => (s.filter i).unwarned
  | literal _, t, _ => by rw [separate]; rfl
  | comparison _ _, t, _ => by rw [separate]; rfl
  | filter i, t, h => by
    rw [separate] at h ⊢
    rw [Prod.map, references_filter, references_filter, List.map_singleton, List.map_singleton,
      h.filter_eq _ (t.index_addFilter_lt _ none)]
    exact congrArg ([·]) (t.filter_addFilter _ none)
  | not operand, t, h => by
    rw [separate] at h ⊢
    rw [Prod.map, references_not, references_not]
    exact filters_separate operand t h
  | and operands, t, h => by
    rw [separate] at h ⊢
    rw [Prod.map, references_and, references_and]
    exact filters_separateAll operands t h
  | or operands, t, h => by
    rw [separate] at h ⊢
    rw [Prod.map, references_or, references_or]
    exact filters_separateAll operands t h

/-- The filters of several copies have the criteria and policies of those that are referred to. -/
theorem filters_separateAll {u : Store} : ∀ (es : List Expr) (t : Store),
    (separateAll s es t).2.Extends none u →
      (referencesAll (separateAll s es t).1).map u.filter =
        (referencesAll es).map fun i => (s.filter i).unwarned
  | [], t, _ => by rw [separateAll]; rfl
  | e :: es, t, h => by
    rw [separateAll] at h ⊢
    have hfirst := filters_separate e t ((extends_separateAll s es _).trans h)
    have hrest := filters_separateAll es _ h
    rw [Prod.map, referencesAll_cons, referencesAll_cons, List.map_append, List.map_append, hfirst]
    exact congrArg _ hrest

end

/-! ## Selections -/

variable {s} in
/-- A selection depends on the filters that an expression refers to as verdicts do. -/
theorem result_select_congr [Host] {e : Expr} {t : Store}
    (h : ∀ i ∈ e.references, (s.filter i).unwarned = (t.filter i).unwarned) (rs : List Resource) :
    (e.select rs s).result = (e.select rs t).result := by
  induction rs generalizing s t with
  | nil => rfl
  | cons r rs ih =>
    have hverdict : (e.satisfies r s).result = (e.satisfies r t).result := verdict_congr r h
    have hrest := ih fun i hi =>
      (Store.filter_of_unwarned_eq (e.unwarned_satisfies r s) i).trans
        ((h i hi).trans (Store.filter_of_unwarned_eq (e.unwarned_satisfies r t) i).symm)
    rw [select, select]
    cases hr : (e.satisfies r s).result with
    | error fault =>
      rw [Outcome.andThen_of_error hr, Outcome.andThen_of_error (hverdict ▸ hr)]
    | ok holds =>
      rw [Outcome.andThen_of_ok hr, Outcome.andThen_of_ok (hverdict ▸ hr)]
      exact congrArg (Except.map _) hrest

end Expr

/-! ## Sessions -/

namespace Session

section

variable [Host]

/-- Steps that change none of some filters, in the session in which each of them is taken. -/
def Spares (ids : List FilterId) : Session → List Step → Prop :=
  Throughout fun s step => ∀ id ∈ ids, s.target? step ≠ some id

instance decidableSpares (ids : List FilterId) (s : Session) (steps : List Step) :
    Decidable (s.Spares ids steps) :=
  decidableThroughout s steps

variable {s : Session}

/-- A step that does not change a filter leaves its criteria and policies alone. -/
theorem agrees_perform (hs : s.IsClosed) {step : Step} {id : FilterId}
    (hid : id.index < s.store.filters.length) (h : s.target? step ≠ some id) :
    id.index < (s.perform step).state.store.filters.length ∧
      ((s.perform step).state.store.filter id).unwarned = (s.store.filter id).unwarned := by
  cases ho : s.operation? step with
  | none =>
    have hgrows := (grows_perform hs ho).extends_store
    exact ⟨Nat.lt_of_lt_of_le hid hgrows.length_filters, by rw [hgrows.filter_eq id hid]⟩
  | some operation =>
    rw [perform_of_operation ho]
    have htarget : operation.target? ≠ some id := by rwa [target?, ho] at h
    exact ⟨Nat.lt_of_lt_of_eq hid (s.store.length_filters_perform operation).symm,
      Store.unwarned_perform_of_ne hid htarget⟩

/-- Steps that spare filters leave their criteria and policies alone. -/
theorem agrees_after (hs : s.IsClosed) {ids : List FilterId}
    (hids : ∀ id ∈ ids, id.index < s.store.filters.length) {steps : List Step}
    (h : s.Spares ids steps) :
    ∀ id ∈ ids, ((s.after steps).store.filter id).unwarned = (s.store.filter id).unwarned := by
  let Q (t : Session) : Prop := t.IsClosed ∧ ∀ id ∈ ids, id.index < t.store.filters.length ∧
    (t.store.filter id).unwarned = (s.store.filter id).unwarned
  have hstep : ∀ t step, Q t → (∀ id ∈ ids, t.target? step ≠ some id) →
      Q (t.perform step).state := by
    intro t step ht hspares
    refine ⟨ht.1.perform, fun id hid => ?_⟩
    obtain ⟨hlt, heq⟩ := agrees_perform ht.1 (ht.2 id hid).1 (hspares id hid)
    exact ⟨hlt, heq.trans (ht.2 id hid).2⟩
  have hafter : Q (s.after steps) :=
    Throughout.after hstep h ⟨hs, fun id hid => ⟨hids id hid, rfl⟩⟩
  exact fun id hid => (hafter.2 id hid).2

/-- An evaluation in a session comes to the verdict of the expression with the name. -/
theorem result_perform_satisfies {name : String} {e : Expr} (he : s.expr name = .ok e)
    (r : Resource) :
    (s.perform (.satisfies name r)).result = (e.satisfies r s.store).result.map .truth := by
  rw [perform, onExpr_of_expr he]
  rfl

/-- Evaluations in a session change only the memory of warnings of its store. -/
theorem unwarned_perform_of_target?_eq_none {step : Step} {operation : Store.Operation}
    (h : s.operation? step = some operation) (htarget : operation.target? = none) :
    (s.perform step).state.store.unwarned = s.store.unwarned := by
  rw [perform_of_operation h]
  cases operation with
  | satisfies e r => exact e.unwarned_satisfies r s.store
  | select e rs => exact e.unwarned_select rs s.store
  | register _ _ _ _ => cases htarget
  | reset _ => cases htarget
  | allowOmitted _ _ => cases htarget
  | setStrict _ _ => cases htarget

/-- **Sharing cannot be told from verdicts.** Take any session and any expression that has a name in
it, whatever has been made, registered, reset, configured and evaluated before, and however filters
and journals are shared. Evaluating the expression comes to the verdict, or the fault, of its copy
in which every reference is a filter of its own, new and with the criteria and policies that the
filter referred to has at that moment. Neither an evaluation nor a selection changes the criteria or
the policies of any filter, or any journal. And after any further steps that change no filter that
the expression refers to, it has the verdicts and selects the resources that it did before.

**Proof sketch.** A verdict is settled by the filters that are referred to, without their memory of
warnings (`Expr.verdict_separate`, `Expr.verdict_congr`). Of other steps, none changes these filters
(`agrees_after`), since sessions use addresses of their own store only. -/
theorem sharing_is_transparent (earlier : List Step) (name : String) (e : Expr)
    (he : (initial.after earlier).expr name = .ok e) :
    let s := initial.after earlier
    (∀ (r : Resource) (t : Store),
      let copy := e.separate s.store t
      (s.perform (.satisfies name r)).result = (copy.1.satisfies r copy.2).result.map .truth ∧
        copy.1.references.Nodup ∧
        (∀ id ∈ copy.1.references, t.filters.length ≤ id.index) ∧
        copy.1.references.map copy.2.filter =
          e.references.map fun id => (s.store.filter id).unwarned) ∧
    (∀ step, (∃ r, step = .satisfies name r) ∨ (∃ rs, step = .select name rs) →
      let t := (s.perform step).state
      (∀ id, (t.store.filter id).unwarned = (s.store.filter id).unwarned) ∧
        t.store.journals = s.store.journals) ∧
    ∀ later, s.Spares e.references later →
      (∀ r, (e.satisfies r (s.after later).store).result = (e.satisfies r s.store).result) ∧
        ∀ rs, (e.select rs (s.after later).store).result = (e.select rs s.store).result := by
  intro s
  have hs : s.IsClosed := isClosed_after isClosed_initial earlier
  refine ⟨fun r t => ?_, fun step hstep => ?_, fun later hlater => ?_⟩
  · have hverdict := Expr.verdict_separate s.store r e t
    rw [Expr.verdict, Expr.verdict] at hverdict
    obtain ⟨hnodup, hnew⟩ := Expr.separate_is_fresh s.store e t
    refine ⟨?_, hnodup, hnew, Expr.filters_separate s.store e t (.refl _ none)⟩
    rw [result_perform_satisfies he, hverdict]
  · have hname : (s.expr name).toOption = some e := by rw [he]; rfl
    obtain ⟨operation, ho, htarget⟩ : ∃ operation, s.operation? step = some operation ∧
        operation.target? = none := by
      obtain ⟨r, rfl⟩ | ⟨rs, rfl⟩ := hstep
      · exact ⟨.satisfies e r, by rw [operation?, hname]; rfl, rfl⟩
      · exact ⟨.select e rs, by rw [operation?, hname]; rfl, rfl⟩
    have hstore := unwarned_perform_of_target?_eq_none ho htarget
    exact ⟨Store.filter_of_unwarned_eq hstore, Store.journals_of_unwarned_eq hstore⟩
  · have hids : e.IsClosed s.store := hs.objects _ (mem_objects_of_expr he)
    have hagree := agrees_after hs hids hlater
    exact ⟨fun r => Expr.verdict_congr r hagree, Expr.result_select_congr hagree⟩

end

attribute [local instance] Host.bare

/-- One lenient filter three times in an expression, and another filter that writes to the same
journal and is changed between evaluations. -/
theorem sharing_is_transparent_one_journal :
    let earlier : List Step :=
      [.newJournal "log" "shared", .newFilter "old" "old" true false (some "log"),
        .newFilter "young" "young" true true (some "log"),
        .register "old" "age" "GREATER_THAN" (some "30"), .register "young" "age" "EXISTS" none,
        .newExpr "any" (.or [.and [.ref "old", .ref "old"], .not (.ref "old"), .literal false]),
        .satisfies "any" ⟨[]⟩, .setStrict "old" true, .setStrict "old" false]
    let later : List Step :=
      [.register "young" "name" "EQUALS" (some "Bob"), .reset "young", .select "any" [⟨[]⟩, ⟨[]⟩],
        .allowOmitted "young" false, .setStrict "young" false, .clearEntries "log"]
    let e : Expr := .or [.and [.filter ⟨0⟩, .filter ⟨0⟩], .not (.filter ⟨0⟩), .literal false]
    let s := initial.after earlier
    s.expr "any" = .ok e ∧ s.Spares e.references later ∧
      (s.store.journal ⟨0⟩).entries.length = 2 ∧
      ∀ r, (s.perform (.satisfies "any" r)).result =
          ((e.separate s.store s.store).1.satisfies r (e.separate s.store s.store).2).result.map
            .truth ∧
        (e.satisfies r (s.after later).store).result = (e.satisfies r s.store).result := by
  intro earlier later e s
  have he : s.expr "any" = .ok e := rfl
  have hlater : s.Spares e.references later := by decide +kernel
  obtain ⟨hcopy, -, hspared⟩ := sharing_is_transparent earlier "any" e he
  exact ⟨he, hlater, by decide +kernel, fun r => ⟨(hcopy r s.store).1, (hspared later hlater).1 r⟩⟩

end Session

end Winnow

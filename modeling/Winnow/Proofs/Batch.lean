import Winnow.Proofs.Rewriting
import Winnow.Proofs.Sharing

set_option autoImplicit false

/-!
# Batches of resources

A selection evaluates its resources one after another on one store, and each evaluation leaves that
store with more warnings remembered. No verdict depends on what is remembered, so each resource has
in a batch the verdict that it has alone, wherever it stands. What a selection comes to is thus told
by single verdicts: the resources that satisfy the expression, or the fault of the first one that
has a fault.

## Main definitions

* `Winnow.Expr.Judges` — an expression comes to a verdict on a resource, and not to a fault.
* `Winnow.Expr.accepts` — a resource satisfies an expression, without a fault.
* `Winnow.Store.results` — what operations come to, one after another.

## Main results

* `Winnow.Expr.select_append` — a selection from two lists, one after the other.
* `Winnow.Expr.result_select_of_judges`, `Winnow.Expr.select_of_fault` — what a selection comes to,
  without and with a fault.
* `Winnow.Store.results_of_unwarned_eq` — no operation comes to something else for what is
  remembered.
* `Winnow.Expr.selection_judges_one_by_one` — batches and single evaluations.
-/

namespace Winnow

/-- A value that is replaced twice. -/
theorem Outcome.map_map {σ α β γ : Type} (o : Outcome σ α) (f : α → β) (g : β → γ) :
    (o.map f).map g = o.map fun a => g (f a) := by
  obtain ⟨result, records, state⟩ := o
  cases result <;> rfl

namespace Expr

/-! ## Single verdicts -/

variable [Host]

/-- An expression comes to a verdict on a resource, and not to a fault. -/
def Judges (s : Store) (e : Expr) (r : Resource) : Prop :=
  ∃ holds, verdict r s e = .ok holds

/-- A resource satisfies an expression, which comes to a verdict on it. -/
def accepts (s : Store) (e : Expr) (r : Resource) : Bool :=
  match verdict r s e with
  | .ok holds => holds
  | .error _ => false

/-- A resource that has a verdict is accepted if that holds. -/
theorem accepts_of_verdict {s : Store} {e : Expr} {r : Resource} {holds : Bool}
    (h : verdict r s e = .ok holds) : e.accepts s r = holds := by
  rw [accepts, h]

/-- What is accepted is what has a verdict that holds. -/
theorem accepts_iff {s : Store} {e : Expr} {r : Resource} :
    e.accepts s r = true ↔ verdict r s e = .ok true := by
  cases h : verdict r s e with
  | ok holds => rw [accepts_of_verdict h, Except.ok.injEq]
  | error fault => simp [accepts, h]

/-- The memory of warnings does not count for a verdict. -/
theorem verdict_of_unwarned_eq {s t : Store} (h : s.unwarned = t.unwarned) (e : Expr)
    (r : Resource) : verdict r s e = verdict r t e :=
  verdict_congr r fun id _ => Store.filter_of_unwarned_eq h id

/-- A resource has the verdict after a selection that it has before it. -/
theorem verdict_select (e : Expr) (rs : List Resource) (s : Store) (r : Resource) :
    verdict r (e.select rs s).state e = verdict r s e :=
  verdict_of_unwarned_eq (e.unwarned_select rs s) e r

/-- Of resources, either all have a verdict, or there is a first one that has a fault. -/
theorem judges_or_exists_first_fault (s : Store) (e : Expr) (rs : List Resource) :
    (∀ r ∈ rs, e.Judges s r) ∨
      ∃ before r after fault, rs = before ++ r :: after ∧ (∀ b ∈ before, e.Judges s b) ∧
        verdict r s e = .error fault := by
  induction rs with
  | nil => exact .inl nofun
  | cons x rs ih =>
    cases hx : verdict x s e with
    | error fault => exact .inr ⟨[], x, rs, fault, rfl, nofun, hx⟩
    | ok holds =>
      have hjudges : e.Judges s x := ⟨holds, hx⟩
      obtain hall | ⟨before, r, after, fault, rfl, hbefore, hr⟩ := ih
      · exact .inl (List.forall_mem_cons.mpr ⟨hjudges, hall⟩)
      · exact .inr ⟨x :: before, r, after, fault, rfl,
          List.forall_mem_cons.mpr ⟨hjudges, hbefore⟩, hr⟩

/-! ## Selections -/

/-- A selection from two lists: the second one is gone through if there is no fault in the first. -/
theorem select_append (e : Expr) (xs ys : List Resource) (s : Store) :
    e.select (xs ++ ys) s =
      (e.select xs s).andThen fun as t => (e.select ys t).map (as ++ ·) := by
  induction xs generalizing s with
  | nil =>
    rw [List.nil_append, select, Outcome.value_andThen]
    obtain ⟨result, records, state⟩ := e.select ys s
    cases result <;> rfl
  | cons x xs ih =>
    rw [List.cons_append, select, select, Outcome.andThen_assoc]
    congr 1
    funext holds t
    rw [ih, Outcome.map_andThen, Outcome.andThen_map]
    congr 1
    funext as u
    rw [Outcome.map_map]
    cases holds <;> rfl

variable {e : Expr} {s : Store}

/-- Without a fault, a selection comes to the resources that satisfy the expression alone.

**Proof sketch.** Induction on the resources. The first one leaves a store on which the others have
the verdicts that they had before. -/
theorem result_select_of_judges {rs : List Resource} (h : ∀ r ∈ rs, e.Judges s r) :
    (e.select rs s).result = .ok (rs.filter (e.accepts s)) := by
  induction rs generalizing s with
  | nil => rfl
  | cons r rs ih =>
    obtain ⟨⟨holds, hr⟩, hrs⟩ := List.forall_mem_cons.mp h
    have hnext : ∀ x, verdict x (e.satisfies r s).state e = verdict x s e :=
      verdict_of_unwarned_eq (e.unwarned_satisfies r s) e
    have hsame : e.accepts (e.satisfies r s).state = e.accepts s := by
      funext x
      rw [accepts, accepts, hnext]
    have hrest : (e.select rs (e.satisfies r s).state).result = .ok (rs.filter (e.accepts s)) := by
      rw [ih fun x hx => by rw [Judges, hnext]; exact hrs x hx, hsame]
    rw [select, Outcome.andThen_of_ok hr, List.filter_cons, accepts_of_verdict hr]
    show Except.map _ (e.select rs (e.satisfies r s).state).result = _
    rw [hrest]
    cases holds <;> rfl

/-- The first fault ends a selection: what was evaluated up to there has been written and is
remembered, and nothing depends on the resources after it. -/
theorem select_of_fault {before : List Resource} {r : Resource} {fault : Fault}
    (hbefore : ∀ b ∈ before, e.Judges s b) (hr : verdict r s e = .error fault)
    (after : List Resource) :
    e.select (before ++ r :: after) s =
      ⟨.error fault,
        (e.select before s).records ++ (e.satisfies r (e.select before s).state).records,
        (e.satisfies r (e.select before s).state).state⟩ := by
  have hfault : (e.satisfies r (e.select before s).state).result = .error fault :=
    (e.verdict_select before s r).trans hr
  rw [select_append, Outcome.andThen_of_ok (result_select_of_judges hbefore), select,
    Outcome.andThen_of_error hfault]
  rfl

/-- A selection has a fault exactly if a resource has it and all resources before that have a
verdict. -/
theorem result_select_eq_error_iff {rs : List Resource} {fault : Fault} :
    (e.select rs s).result = .error fault ↔
      ∃ before r after, rs = before ++ r :: after ∧ (∀ b ∈ before, e.Judges s b) ∧
        verdict r s e = .error fault := by
  constructor
  · intro h
    obtain hall | ⟨before, r, after, fault', rfl, hbefore, hr⟩ :=
      judges_or_exists_first_fault s e rs
    · rw [result_select_of_judges hall] at h
      cases h
    · rw [select_of_fault hbefore hr] at h
      cases h
      exact ⟨before, r, after, rfl, hbefore, hr⟩
  · rintro ⟨before, r, after, rfl, hbefore, hr⟩
    rw [select_of_fault hbefore hr]

/-- Without a fault, a selection from two lists is that from the one and then that from the other,
each taken alone. -/
theorem result_select_append {xs ys : List Resource} (h : ∀ r ∈ xs ++ ys, e.Judges s r) :
    ∃ as bs, (e.select xs s).result = .ok as ∧ (e.select ys s).result = .ok bs ∧
      (e.select (xs ++ ys) s).result = .ok (as ++ bs) := by
  obtain ⟨hxs, hys⟩ := List.forall_mem_append.mp h
  refine ⟨_, _, result_select_of_judges hxs, result_select_of_judges hys, ?_⟩
  rw [result_select_of_judges h, List.filter_append]

/-- Without a fault, a selection from rearranged resources is rearranged. -/
theorem result_select_perm {xs ys : List Resource} (hperm : xs.Perm ys)
    (h : ∀ r ∈ xs, e.Judges s r) :
    ∃ as bs, (e.select xs s).result = .ok as ∧ (e.select ys s).result = .ok bs ∧ as.Perm bs :=
  ⟨_, _, result_select_of_judges h,
    result_select_of_judges fun r hr => h r (hperm.mem_iff.mpr hr), hperm.filter _⟩

end Expr

/-! ## What is remembered, and later operations -/

namespace Filter

/-- Registering does not depend on the memory of warnings. -/
theorem register_unwarned (key operator : String) (value? : Option String) (f : Filter)
    (j : Journal) :
    register key operator value? f.unwarned j =
      (register key operator value? f j).within (Prod.map unwarned id) := by
  rw [register, register]
  split
  · rfl
  · split
    · split
      · rfl
      · split <;> rfl
    · rfl

/-- Removing all criteria does not depend on the memory of warnings. -/
theorem reset_unwarned (f : Filter) (j : Journal) :
    reset f.unwarned j = (reset f j).within (Prod.map unwarned id) :=
  rfl

/-- Setting the policy does not depend on the memory of warnings. -/
theorem allowOmitted_unwarned (allow : Bool) (f : Filter) (j : Journal) :
    allowOmitted allow f.unwarned j = (allowOmitted allow f j).within (Prod.map unwarned id) :=
  rfl

end Filter

namespace Store

/-- Forgetting the warnings twice is forgetting them once. -/
@[simp] theorem unwarned_unwarned (s : Store) : s.unwarned.unwarned = s.unwarned := by
  simp [unwarned, Filter.unwarned]

/-- Replacing a filter, and forgetting the warnings. -/
theorem unwarned_setFilter_eq (s : Store) (id : FilterId) (f : Filter) :
    (s.setFilter id f).unwarned = s.unwarned.setFilter id f.unwarned := by
  rw [setFilter, setFilter, journalOf_unwarned]
  simp [unwarned, List.map_set]

/-- An operation on a filter that does not depend on the memory of warnings. -/
theorem onFilter_unwarned {α : Type}
    {operation : Filter → Journal → Outcome (Filter × Journal) α}
    (h : ∀ f j, operation f.unwarned j = (operation f j).within (Prod.map Filter.unwarned id))
    (s : Store) (id : FilterId) :
    s.unwarned.onFilter id operation = (s.onFilter id operation).within unwarned := by
  rw [onFilter, onFilter, filter_unwarned, journalOf_unwarned]
  show (operation (s.filter id).unwarned (s.journal (s.journalOf id))).within _ = _
  rw [h]
  obtain ⟨result, records, f, journal⟩ := operation (s.filter id) (s.journal (s.journalOf id))
  have hstate : (s.unwarned.setFilter id f.unwarned).setJournal (s.journalOf id) journal =
      ((s.setFilter id f).setJournal (s.journalOf id) journal).unwarned := by
    rw [← unwarned_setFilter_eq]
    rfl
  exact congrArg (Outcome.mk result records) hstate

variable [Host]

/-- What operations come to, one after another. -/
def results (s : Store) : List Operation → List (Except Fault Value)
  | [] => []
  | operation :: operations =>
    (s.perform operation).result :: results (s.perform operation).state operations

/-- What an operation comes to does not depend on the memory of warnings, and neither does the store
that it leaves, but for that memory. -/
theorem perform_unwarned (s : Store) (operation : Operation) :
    (s.unwarned.perform operation).result = (s.perform operation).result ∧
      (s.unwarned.perform operation).state.unwarned = (s.perform operation).state.unwarned := by
  have hself : s.unwarned.unwarned = s.unwarned := s.unwarned_unwarned
  have hwithin : ∀ {α : Type} (o : Outcome Store α) (yields : α → Value),
      ((o.within unwarned).map yields).result = (o.map yields).result ∧
        ((o.within unwarned).map yields).state.unwarned = (o.map yields).state.unwarned :=
    fun o _ => ⟨rfl, o.state.unwarned_unwarned⟩
  cases operation with
  | register id key operator value? =>
    rw [perform, perform, onFilter_unwarned (Filter.register_unwarned key operator value?)]
    exact hwithin _ _
  | reset id =>
    rw [perform, perform, onFilter_unwarned Filter.reset_unwarned]
    exact hwithin _ _
  | allowOmitted id allow =>
    rw [perform, perform, onFilter_unwarned (Filter.allowOmitted_unwarned allow)]
    exact hwithin _ _
  | setStrict id strict =>
    refine ⟨rfl, ?_⟩
    show (s.unwarned.setFilter id { s.unwarned.filter id with strict }).unwarned =
      (s.setFilter id { s.filter id with strict }).unwarned
    rw [unwarned_setFilter_eq, unwarned_setFilter_eq, hself, filter_unwarned]
    rfl
  | satisfies e r =>
    refine ⟨congrArg (Except.map _) (Expr.verdict_of_unwarned_eq hself e r), ?_⟩
    exact (e.unwarned_satisfies r s.unwarned).trans (hself.trans (e.unwarned_satisfies r s).symm)
  | select e rs =>
    refine ⟨congrArg (Except.map _) ?_, ?_⟩
    · exact Expr.result_select_congr (fun i _ => filter_of_unwarned_eq hself i) rs
    · exact (e.unwarned_select rs s.unwarned).trans (hself.trans (e.unwarned_select rs s).symm)

/-- An operation comes to the same on stores that agree but for the memory of warnings, and leaves
such stores. -/
theorem perform_of_unwarned_eq {s t : Store} (h : s.unwarned = t.unwarned)
    (operation : Operation) :
    (s.perform operation).result = (t.perform operation).result ∧
      (s.perform operation).state.unwarned = (t.perform operation).state.unwarned := by
  obtain ⟨hresult, hstate⟩ := s.perform_unwarned operation
  obtain ⟨hresult', hstate'⟩ := t.perform_unwarned operation
  rw [h] at hresult hstate
  exact ⟨hresult.symm.trans hresult', hstate.symm.trans hstate'⟩

/-- No operation comes to something else for what is remembered, however many there were before.

**Proof sketch.** Induction on the operations, each of which leaves stores that still agree. -/
theorem results_of_unwarned_eq {s t : Store} (h : s.unwarned = t.unwarned)
    (operations : List Operation) :
    s.results operations = t.results operations ∧
      (s.after operations).unwarned = (t.after operations).unwarned := by
  induction operations generalizing s t with
  | nil => exact ⟨rfl, h⟩
  | cons operation operations ih =>
    obtain ⟨hresult, hstate⟩ := perform_of_unwarned_eq h operation
    obtain ⟨hresults, hafter⟩ := ih hstate
    exact ⟨List.cons_eq_cons.mpr ⟨hresult, hresults⟩, hafter⟩

end Store

namespace Expr

/-- **A batch judges its resources one by one.** Take any store, and any expression over its
filters, strict and lenient ones that it may share. A resource has after a selection the verdict, or
the fault, that it has on the store before. If no resource has a fault, then a selection comes to
the resources that satisfy the expression, in their order and as often as they are given; a
selection from two lists is that from the first and then that from the second; and one from
rearranged resources is rearranged. A selection comes to a fault exactly if a resource has it and
all those before have none, and then it yields no resources, and what it writes and leaves is what
was written and left up to there, whatever comes after. In either case criteria, policies and
journals are as before, and any operations after that come to what they would have come to without
the selection.

**Proof sketch.** A verdict does not depend on the memory of warnings, which is all that a selection
changes (`verdict_select`), and a selection from two lists goes through the one and then the other
(`select_append`). Nor does any operation depend on that memory (`Store.results_of_unwarned_eq`). -/
theorem selection_judges_one_by_one [Host] (e : Expr) (s : Store) :
    (∀ before r, (e.satisfies r (e.select before s).state).result = (e.satisfies r s).result) ∧
    (∀ r, e.accepts s r = true ↔ (e.satisfies r s).result = .ok true) ∧
    (∀ rs, (∀ r ∈ rs, e.Judges s r) → (e.select rs s).result = .ok (rs.filter (e.accepts s))) ∧
    (∀ xs ys, (∀ r ∈ xs ++ ys, e.Judges s r) →
      ∃ as bs, (e.select xs s).result = .ok as ∧ (e.select ys s).result = .ok bs ∧
        (e.select (xs ++ ys) s).result = .ok (as ++ bs)) ∧
    (∀ xs ys, xs.Perm ys → (∀ r ∈ xs, e.Judges s r) →
      ∃ as bs, (e.select xs s).result = .ok as ∧ (e.select ys s).result = .ok bs ∧ as.Perm bs) ∧
    (∀ rs fault, (e.select rs s).result = .error fault ↔
      ∃ before r after, rs = before ++ r :: after ∧ (∀ b ∈ before, e.Judges s b) ∧
        (e.satisfies r s).result = .error fault) ∧
    (∀ before r after fault, (∀ b ∈ before, e.Judges s b) →
      (e.satisfies r s).result = .error fault →
      e.select (before ++ r :: after) s =
        ⟨.error fault,
          (e.select before s).records ++ (e.satisfies r (e.select before s).state).records,
          (e.satisfies r (e.select before s).state).state⟩) ∧
    ∀ rs, let t := (e.select rs s).state
      t.unwarned = s.unwarned ∧ t.journals = s.journals ∧
        ∀ operations, t.results operations = s.results operations ∧
          (t.after operations).unwarned = (s.after operations).unwarned := by
  refine ⟨fun before r => e.verdict_select before s r, fun r => accepts_iff,
    fun rs h => result_select_of_judges h,
    fun xs ys h => result_select_append h, fun xs ys hperm h => result_select_perm hperm h,
    fun rs fault => result_select_eq_error_iff,
    fun before r after fault hbefore hr => select_of_fault hbefore hr after, fun rs => ?_⟩
  have hunwarned : (e.select rs s).state.unwarned = s.unwarned := e.unwarned_select rs s
  exact ⟨hunwarned, Store.journals_of_unwarned_eq hunwarned, Store.results_of_unwarned_eq hunwarned⟩

attribute [local instance] Host.bare

/-- A lenient filter that is shared by both operands of a disjunction, and a strict one that is
asked only where the lenient one fails. A resource without an age is a fault of the strict filter:
without it the others are judged, and with it nothing is yielded and the resources after it do not
count. -/
theorem selection_judges_one_by_one_shared :
    let s : Store := (Store.mk [(.empty "old" true false, ⟨0⟩), (.empty "young" true true, ⟨1⟩)]
      [.empty "old", .empty "young"]).after
        [.register ⟨0⟩ "age" "GREATER_THAN" (some "30"),
          .register ⟨1⟩ "age" "LESS_THAN" (some "20")]
    let e : Expr := .or [.filter ⟨0⟩, .and [.not (.filter ⟨0⟩), .filter ⟨1⟩]]
    let aged (text : String) : Resource := ⟨[("age", some text)]⟩
    let bound : Criterion := ⟨"age", .lessThan, some "20", (comparable "20").toOption⟩
    (e.select [aged "40", aged "25", aged "10", aged "40"] s).result =
        .ok [aged "40", aged "10", aged "40"] ∧
      ∀ after, (e.select ([aged "40", aged "25"] ++ ⟨[]⟩ :: after) s).result =
        .error (.evaluation bound .absent) := by
  intro s e aged bound
  have hjudges : ∀ r ∈ [aged "40", aged "25", aged "10", aged "40"], e.Judges s r := by
    intro r hr
    simp only [List.mem_cons, List.not_mem_nil, or_false] at hr
    obtain rfl | rfl | rfl | rfl := hr
    · exact ⟨true, by decide +kernel⟩
    · exact ⟨false, by decide +kernel⟩
    · exact ⟨true, by decide +kernel⟩
    · exact ⟨true, by decide +kernel⟩
  have hfault : (e.satisfies ⟨[]⟩ s).result = .error (.evaluation bound .absent) := by
    decide +kernel
  obtain ⟨-, -, hchosen, -, -, -, hfirst, -⟩ := selection_judges_one_by_one e s
  refine ⟨?_, fun after => ?_⟩
  · rw [hchosen _ hjudges]
    decide +kernel
  · rw [hfirst _ _ after _ (fun b hb => hjudges b ?_) hfault]
    simp only [List.mem_cons, List.not_mem_nil, or_false] at hb ⊢
    obtain rfl | rfl := hb
    · exact .inl rfl
    · exact .inr (.inl rfl)

end Expr

end Winnow

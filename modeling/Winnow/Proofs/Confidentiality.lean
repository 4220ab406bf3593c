import Mathlib.Data.List.Forall2
import Winnow.Proofs.Run
import Winnow.Proofs.Selection

set_option autoImplicit false

/-!
# Confidentiality of values

What a filter answers, records and remembers depends on the values of a resource only through the
class of each criterion's outcome: it holds, it fails, the value is missing, the value is no number,
or the criterion itself cannot be evaluated. Two resources of the same classes cannot be told apart,
except by the message of the cause behind a fault.

## Main definitions

* `Winnow.Criterion.classify` — the class of a criterion's outcome for a value.
* `Winnow.Filter.SameClasses` — resources for which each criterion of a filter has the same class.
* `Winnow.Fault.Agrees`, `Winnow.Outcome.Agrees` — faults and outcomes that are the same but for the
  message of a cause.

## Main results

* `Winnow.Filter.satisfies_agrees` — resources of the same classes have outcomes that agree.
* `Winnow.Store.values_do_not_leak` — the same on a store, for single resources and selections.
-/

namespace Winnow

/-! ## Classes of outcomes -/

/-- What of the outcome of a criterion does not tell the value. -/
inductive Classification where
  /-- The criterion holds. -/
  | holds
  /-- It does not hold. -/
  | fails
  /-- It is numeric, and there is no value. -/
  | absent
  /-- It is numeric, and the value is no comparable number. -/
  | notNumeric
  /-- It cannot be evaluated itself: its text is no pattern that can be carried out, or missing. -/
  | broken (fault : Fault)
deriving DecidableEq

/-- The class of an outcome. -/
def Classification.ofOutcome : Except Fault Bool → Classification
  | .ok true => holds
  | .ok false => fails
  | .error (.evaluation _ .absent) => absent
  | .error (.evaluation _ (.notNumeric _)) => notNumeric
  | .error fault => broken fault

namespace Criterion

variable [Host]

/-- The class of a criterion's outcome for a value. -/
def classify (c : Criterion) (allowMissing : Bool) (value? : Option String) : Classification :=
  .ofOutcome (c.evaluate allowMissing value?)

/-- A fault of a numeric criterion comes from the value or from the number to compare with. -/
theorem error_of_evaluate_numeric {c : Criterion} (hc : c.operator.isNumeric = true)
    {allowMissing : Bool} {value? : Option String} {e : Fault}
    (h : c.evaluate allowMissing value? = .error e) :
    c.valueNumber value? = .error e ∨ c.threshold = .error e := by
  cases hx : c.valueNumber value? with
  | error e' =>
    refine .inl ?_
    cases ho : c.operator <;> simp [ho, Operator.isNumeric] at hc <;>
      simpa only [evaluate, ho, hx, bind, Except.bind, Except.error.injEq] using h
  | ok x =>
    refine .inr ?_
    cases hy : c.threshold with
    | error e' =>
      cases ho : c.operator <;> simp [ho, Operator.isNumeric] at hc <;>
        simpa only [evaluate, ho, hx, hy, bind, Except.bind, Except.error.injEq] using h
    | ok y =>
      cases ho : c.operator <;> simp [ho, Operator.isNumeric] at hc <;>
        simp [evaluate, ho, hx, hy, bind, Except.bind, pure, Except.pure] at h

/-- A criterion that cannot be evaluated names itself. -/
theorem eq_of_evaluate_eq {c d : Criterion} {allowMissing : Bool} {value? : Option String}
    {problem : Problem} (h : c.evaluate allowMissing value? = .error (.evaluation d problem)) :
    d = c := by
  cases hc : c.operator.isNumeric with
  | true =>
    rcases error_of_evaluate_numeric hc h with hx | hy
    · rcases value? with _ | text
      · cases hx; rfl
      · cases hr : comparable text <;> simp [valueNumber, hr] at hx
        exact hx.1.symm
    · rcases hn : c.number? with _ | y
      · rcases hv : c.value? with _ | text
        · simp [threshold, hn, hv, requiredNumber] at hy
        · cases hr : comparable text <;> simp [threshold, hn, hv, requiredNumber, hr] at hy
          exact hy.1.symm
      · simp [threshold, hn] at hy
  | false =>
    cases ho : c.operator <;> simp [ho, Operator.isNumeric] at hc
    · rcases hv : c.value? with _ | text <;>
        simp [evaluate, ho, hv, requiredTruth, bind, Except.bind, pure, Except.pure] at h
    · simp [evaluate, ho] at h
    · rcases value? with _ | value
      · simp [evaluate, ho] at h
      · rcases hv : c.value? with _ | pattern
        · simp [evaluate, ho, evaluatePattern, hv] at h
        · simp only [evaluate, ho, evaluatePattern, hv] at h
          split at h <;> simp_all

/-- Outcomes of one class are the same, or both tell that the value is no number. -/
theorem eq_or_notNumeric_of_classify_eq {c : Criterion} {allowMissing : Bool}
    {value₁? value₂? : Option String}
    (h : c.classify allowMissing value₁? = c.classify allowMissing value₂?) :
    c.evaluate allowMissing value₁? = c.evaluate allowMissing value₂? ∨
      ∃ e₁ e₂, c.evaluate allowMissing value₁? = .error (.evaluation c (.notNumeric e₁)) ∧
        c.evaluate allowMissing value₂? = .error (.evaluation c (.notNumeric e₂)) := by
  rw [classify, classify] at h
  generalize h₁ : c.evaluate allowMissing value₁? = o₁ at h ⊢
  generalize h₂ : c.evaluate allowMissing value₂? = o₂ at h ⊢
  unfold Classification.ofOutcome at h
  split at h <;> split at h <;> simp_all
  · exact (eq_of_evaluate_eq h₁).trans (eq_of_evaluate_eq h₂).symm
  · exact .inr ⟨eq_of_evaluate_eq h₁, eq_of_evaluate_eq h₂⟩

/-- A criterion that was registered with a text is broken only as a pattern: its text is refused. -/
theorem exists_refusal_of_classify_eq_broken {c : Criterion} (hc : c.IsRegistrable) {text : String}
    (htext : c.value? = some text) {allowMissing : Bool} {value? : Option String} {fault : Fault}
    (h : c.classify allowMissing value? = .broken fault) :
    c.operator = .matchesPattern ∧ ∃ refusal, Pattern.read text = .error refusal := by
  cases hn : c.operator.isNumeric with
  | true =>
    obtain ⟨-, y, -, -, hy⟩ := hc.exists_number hn
    have ht : c.threshold = .ok y := by simp [threshold, hy]
    cases ho : c.evaluate allowMissing value? with
    | ok b => cases b <;> simp [classify, ho, Classification.ofOutcome] at h
    | error e =>
      rcases error_of_evaluate_numeric hn ho with hx | hx
      · rcases value? with _ | value
        · cases hx
          simp [classify, ho, Classification.ofOutcome] at h
        · cases hr : comparable value <;> simp [valueNumber, hr] at hx
          subst hx
          simp [classify, ho, Classification.ofOutcome] at h
      · rw [ht] at hx
        cases hx
  | false =>
    cases ho : c.operator <;> simp [ho, Operator.isNumeric] at hn
    · cases hb : value?.isSome == isTrue text <;>
        simp [classify, evaluate, ho, htext, requiredTruth, bind, Except.bind, pure, Except.pure,
          Classification.ofOutcome, hb] at h
    · cases hb : value?.isSome && value? == some text <;>
        simp [classify, evaluate, ho, htext, Classification.ofOutcome, hb] at h
    · refine ⟨rfl, ?_⟩
      cases hr : Pattern.read text with
      | error refusal => exact ⟨refusal, rfl⟩
      | ok node =>
        rcases value? with _ | value
        · cases allowMissing <;> simp [classify, evaluate, ho, Classification.ofOutcome] at h
        · cases hm : node.matchesWhole value <;>
            simp [classify, evaluate, evaluatePattern, ho, htext, hr, hm,
              Classification.ofOutcome] at h

end Criterion

/-! ## Faults and outcomes that agree -/

namespace Fault

/-- The criterion that a fault is about, if it is about one. -/
def criterion? : Fault → Option Criterion
  | evaluation c _ => some c
  | _ => none

/-- Faults that are the same but for the message of the cause. -/
structure Agrees (e₁ e₂ : Fault) : Prop where
  kind : e₁.kind = e₂.kind
  message : e₁.message = e₂.message
  criterion : e₁.criterion? = e₂.criterion?
  cause : e₁.cause?.map Cause.kind = e₂.cause?.map Cause.kind

/-- A fault agrees with itself. -/
theorem Agrees.refl (e : Fault) : e.Agrees e :=
  ⟨rfl, rfl, rfl, rfl⟩

/-- Of a value that is no number only the cause tells more. -/
theorem agrees_notNumeric (c : Criterion) (e₁ e₂ : NumberError) :
    (evaluation c (.notNumeric e₁)).Agrees (evaluation c (.notNumeric e₂)) :=
  ⟨rfl, rfl, rfl, rfl⟩

end Fault

/-- Results that are the same but for the message of the cause behind a fault. -/
def SameResult {α : Type} : Except Fault α → Except Fault α → Prop
  | .ok a, .ok b => a = b
  | .error e₁, .error e₂ => e₁.Agrees e₂
  | _, _ => False

/-- Outcomes that are the same but for the message of the cause behind a fault: results, records and
states. -/
structure Outcome.Agrees {σ α : Type} (o₁ o₂ : Outcome σ α) : Prop where
  result : SameResult o₁.result o₂.result
  records : o₁.records = o₂.records
  state : o₁.state = o₂.state

/-- An outcome agrees with itself. -/
theorem Outcome.Agrees.refl {σ α : Type} (o : Outcome σ α) : o.Agrees o := by
  refine ⟨?_, rfl, rfl⟩
  cases o.result with
  | ok a => exact rfl
  | error e => exact Fault.Agrees.refl e

/-! ## Two resources -/

namespace Filter

variable [Host]

/-- Resources for which each criterion of a filter has the same class. -/
def SameClasses (f : Filter) (r₁ r₂ : Resource) : Prop :=
  ∀ c ∈ f.criteria,
    c.classify f.allowMissing (r₁.get? c.key) = c.classify f.allowMissing (r₂.get? c.key)

instance (f : Filter) (r₁ r₂ : Resource) : Decidable (f.SameClasses r₁ r₂) :=
  inferInstanceAs (Decidable (∀ c ∈ f.criteria, _ = _))

/-- Criteria that have the same classes for two resources have outcomes that agree.

**Proof sketch.** Induction on the criteria. Where the outcomes of a criterion are the same, so is
all that follows. Else both tell that the value is no number, and neither the record of a fault nor
that of a lenient failure tells more than the criterion. -/
theorem satisfiesAll_agrees (f : Filter) {r₁ r₂ : Resource} {cs : List Criterion}
    (h : ∀ c ∈ cs,
      c.classify f.allowMissing (r₁.get? c.key) = c.classify f.allowMissing (r₂.get? c.key)) :
    (f.satisfiesAll r₁ cs).Agrees (f.satisfiesAll r₂ cs) := by
  induction cs with
  | nil => exact .refl _
  | cons c cs ih =>
    have hcs := ih fun d hd => h d (List.mem_cons_of_mem c hd)
    rw [satisfiesAll, satisfiesAll]
    rcases Criterion.eq_or_notNumeric_of_classify_eq (h c List.mem_cons_self) with
      heq | ⟨e₁, e₂, h₁, h₂⟩
    · rw [heq]
      split
      · exact hcs
      · exact .refl _
      · exact .refl _
      · exact .refl _
    · rw [h₁, h₂]
      cases c.operator.isNumeric && !f.strict with
      | true => exact .refl _
      | false => exact ⟨Fault.agrees_notNumeric c e₁ e₂, rfl, rfl⟩

/-- Resources of the same classes have outcomes that agree. -/
theorem satisfies_agrees {f : Filter} {r₁ r₂ : Resource} (h : f.SameClasses r₁ r₂) :
    (f.satisfies r₁).Agrees (f.satisfies r₂) := by
  rw [satisfies, satisfies]
  split
  · exact .refl _
  · exact satisfiesAll_agrees f h

/-- The classes of criteria do not depend on the memory of warnings. -/
theorem SameClasses.of_unwarned_eq {f g : Filter} (hfg : f.unwarned = g.unwarned)
    {r₁ r₂ : Resource} (h : f.SameClasses r₁ r₂) : g.SameClasses r₁ r₂ := by
  have hgroups : g.groups = f.groups := by rw [← groups_unwarned, ← hfg, groups_unwarned]
  have hpolicy : g.allowMissing = f.allowMissing := by
    rw [← allowMissing_unwarned, ← hfg, allowMissing_unwarned]
  intro c hc
  rw [criteria, hgroups] at hc
  rw [hpolicy]
  exact h c hc

end Filter

/-! ## Two lists of resources -/

namespace Store

section

variable [Host]

/-- On a store, resources of the same classes have outcomes that agree. -/
theorem satisfies_agrees {s : Store} {id : FilterId} {r₁ r₂ : Resource}
    (h : (s.filter id).SameClasses r₁ r₂) :
    (Expr.satisfies r₁ (.filter id) s).Agrees (Expr.satisfies r₂ (.filter id) s) := by
  have hf := Filter.satisfies_agrees h
  rw [Expr.satisfies, Expr.satisfies]
  exact ⟨hf.result, hf.records, congrArg (s.setFilter id) hf.state⟩

/-- Selections from lists of resources that have the same classes position by position have the same
verdicts, faults that agree, the same records and the same state.

**Proof sketch.** Induction on the lists. The first two resources leave the same store, in which the
filter differs from before in the memory of warnings only, so the rest still has the same classes.
-/
theorem select_agrees {s : Store} {id : FilterId} {rs₁ rs₂ : List Resource}
    (h : List.Forall₂ (s.filter id).SameClasses rs₁ rs₂) :
    (Expr.verdicts (.filter id) rs₁ s).holds = (Expr.verdicts (.filter id) rs₂ s).holds ∧
    Option.Rel Fault.Agrees (Expr.verdicts (.filter id) rs₁ s).fault?
      (Expr.verdicts (.filter id) rs₂ s).fault? ∧
    (Expr.select (.filter id) rs₁ s).records = (Expr.select (.filter id) rs₂ s).records ∧
    (Expr.select (.filter id) rs₁ s).state = (Expr.select (.filter id) rs₂ s).state := by
  induction rs₁ generalizing s rs₂ with
  | nil =>
    cases h
    exact ⟨rfl, .none, rfl, rfl⟩
  | cons r₁ rs₁ ih =>
    obtain ⟨r₂, rs₂, hr, hrs, rfl⟩ := List.forall₂_cons_left_iff.mp h
    obtain ⟨hresult, hrecords, hstate⟩ := satisfies_agrees hr
    generalize ho₁ : Expr.satisfies r₁ (.filter id) s = o₁ at hresult hrecords hstate
    generalize ho₂ : Expr.satisfies r₂ (.filter id) s = o₂ at hresult hrecords hstate
    rw [Expr.verdicts, Expr.verdicts, Expr.select, Expr.select, ho₁, ho₂]
    cases h₁ : o₁.result with
    | error e₁ =>
      cases h₂ : o₂.result with
      | ok b => rw [h₁, h₂] at hresult; exact hresult.elim
      | error e₂ =>
        rw [h₁, h₂] at hresult
        rw [Outcome.andThen_of_error h₁, Outcome.andThen_of_error h₂]
        exact ⟨rfl, .some hresult, hrecords, hstate⟩
    | ok b₁ =>
      cases h₂ : o₂.result with
      | error e => rw [h₁, h₂] at hresult; exact hresult.elim
      | ok b₂ =>
        rw [h₁, h₂] at hresult
        have hunwarned : (s.filter id).unwarned = (o₂.state.filter id).unwarned := by
          rw [← ho₂]
          exact (filter_of_unwarned_eq (Expr.unwarned_satisfies r₂ (.filter id) s) id).symm
        obtain ⟨hv, hf, hrec, hst⟩ :=
          ih (hrs.imp fun _ _ => Filter.SameClasses.of_unwarned_eq hunwarned)
        rw [Outcome.andThen_of_ok h₁, Outcome.andThen_of_ok h₂, hstate]
        refine ⟨?_, hf, ?_, hst⟩
        · exact congrArg₂ List.cons hresult hv
        · exact congrArg₂ (· ++ ·) hrecords hrec

/-- **Values do not leak.** Two resources for which each criterion of a filter has the same class
have the same verdict or faults of the same kind, message and criterion, the same records, and leave
the same store. Two lists of resources that agree in this way position by position are selected from
at the same positions, or up to the same position, where faults come that agree; they too have the
same records, and leave the same store. A criterion that was registered with a text is of the broken
class only if the text is to be a pattern and is refused, which does not depend on the value.

**Proof sketch.** Outcomes of one class are the same, or both tell that the value is no number, and
then only the cause behind the fault tells more (`Criterion.eq_or_notNumeric_of_classify_eq`). A
filter stops at the same criterion for both resources (`Filter.satisfiesAll_agrees`), and a
selection at the same position (`select_agrees`). -/
theorem values_do_not_leak (s : Store) (id : FilterId) :
    (∀ r₁ r₂, (s.filter id).SameClasses r₁ r₂ →
      (Expr.satisfies r₁ (.filter id) s).Agrees (Expr.satisfies r₂ (.filter id) s)) ∧
    (∀ rs₁ rs₂, List.Forall₂ (s.filter id).SameClasses rs₁ rs₂ →
      let v₁ := Expr.verdicts (.filter id) rs₁ s
      let v₂ := Expr.verdicts (.filter id) rs₂ s
      (Expr.select (.filter id) rs₁ s).result = v₁.choose rs₁ ∧
      (Expr.select (.filter id) rs₂ s).result = v₂.choose rs₂ ∧
      v₁.holds = v₂.holds ∧ Option.Rel Fault.Agrees v₁.fault? v₂.fault? ∧
      (Expr.select (.filter id) rs₁ s).records = (Expr.select (.filter id) rs₂ s).records ∧
      (Expr.select (.filter id) rs₁ s).state = (Expr.select (.filter id) rs₂ s).state) ∧
    ∀ c ∈ (s.filter id).criteria, c.IsRegistrable → ∀ text, c.value? = some text →
      ∀ value? fault, c.classify (s.filter id).allowMissing value? = .broken fault →
        c.operator = .matchesPattern ∧ ∃ refusal, Pattern.read text = .error refusal := by
  refine ⟨fun r₁ r₂ h => satisfies_agrees h, fun rs₁ rs₂ h => ?_,
    fun c _ hc text htext value? fault h => c.exists_refusal_of_classify_eq_broken hc htext h⟩
  exact ⟨Expr.result_select _ _ _, Expr.result_select _ _ _, select_agrees h⟩

end

attribute [local instance] Host.bare

/-- Two values that are no numbers, given to a strict filter: the faults differ in their causes, and
agree in everything else. -/
theorem values_do_not_leak_notNumeric :
    let s := (Store.empty.addFilter (.empty "people" true true) none).2.after
      [.register ⟨0⟩ "role" "EXISTS" (some "true"), .register ⟨0⟩ "age" "GREATER_THAN" (some "30")]
    let r₁ : Resource := ⟨[("role", some "admin"), ("age", some "forty")]⟩
    let r₂ : Resource := ⟨[("age", some "1_000"), ("role", some "user")]⟩
    (s.filter ⟨0⟩).SameClasses r₁ r₂ ∧
      (Expr.satisfies r₁ (.filter ⟨0⟩) s).result ≠ (Expr.satisfies r₂ (.filter ⟨0⟩) s).result ∧
      (Expr.satisfies r₁ (.filter ⟨0⟩) s).Agrees (Expr.satisfies r₂ (.filter ⟨0⟩) s) ∧
      (Expr.verdicts (.filter ⟨0⟩) [r₁] s).holds = (Expr.verdicts (.filter ⟨0⟩) [r₂] s).holds := by
  intro s r₁ r₂
  have hclasses : (s.filter ⟨0⟩).SameClasses r₁ r₂ := by decide +kernel
  have hlists : List.Forall₂ (s.filter ⟨0⟩).SameClasses [r₁] [r₂] := .cons hclasses .nil
  refine ⟨hclasses, by decide +kernel, (values_do_not_leak s ⟨0⟩).1 r₁ r₂ hclasses, ?_⟩
  exact ((values_do_not_leak s ⟨0⟩).2.1 [r₁] [r₂] hlists).2.2.1

end Store

end Winnow

import Winnow.Proofs.Verdict

set_option autoImplicit false

/-!
# The policy on missing fields

The policy is asked by a pattern criterion that meets no value, and by nothing else. So two filters
that differ in their policy go through the same criteria up to the first one that asks. There the
exclusive filter fails, while the inclusive one passes on to criteria that the other one never
reaches and that may be at fault. Where no criterion asks, the two cannot be told apart.

## Main definitions

* `Winnow.Criterion.AsksPolicy` — a criterion leaves it to the policy what it comes to.
* `Winnow.Filter.withPolicy`, `Winnow.Run.withPolicy` — a filter, or a run, with the policy set.

## Main results

* `Winnow.Filter.satisfies_inclusive` — if the exclusive filter does not fail, then the inclusive
  one does the same.
* `Winnow.Filter.satisfies_withPolicy` — if no criterion asks, then the policy makes no difference.
* `Winnow.Run.policy_is_monotone_and_local` — the two policies on the filter of any run.
-/

namespace Winnow

/-! ## Single criteria -/

namespace Criterion

/-- A criterion leaves it to the policy what it comes to: it is a pattern and meets no value. -/
def AsksPolicy (c : Criterion) (value? : Option String) : Prop :=
  c.operator = .matchesPattern ∧ value? = none

instance (c : Criterion) (value? : Option String) : Decidable (c.AsksPolicy value?) :=
  inferInstanceAs (Decidable (_ ∧ _))

variable [Host] {c : Criterion} {value? : Option String}

/-- A criterion that asks the policy comes to what the policy says, whatever its text. -/
theorem AsksPolicy.evaluate_eq (h : c.AsksPolicy value?) (allow : Bool) :
    c.evaluate allow value? = .ok allow := by
  obtain ⟨hoperator, rfl⟩ := h
  simp only [evaluate, hoperator]

/-- The policy does not count for other criteria. -/
theorem evaluate_eq_of_not_asksPolicy (h : ¬ c.AsksPolicy value?) (allow allow' : Bool) :
    c.evaluate allow value? = c.evaluate allow' value? := by
  unfold evaluate
  cases hoperator : c.operator with
  | matchesPattern =>
    cases value? with
    | none => exact absurd ⟨hoperator, rfl⟩ h
    | some value => rfl
  | _ => rfl

end Criterion

/-! ## Filters -/

namespace Filter

/-- The filter with its policy on missing fields set. -/
def withPolicy (allow : Bool) (f : Filter) : Filter :=
  { f with allowMissing := allow }

/-- Filters warn alike under all policies. -/
theorem warn_withPolicy (allow : Bool) (f : Filter) (c : Criterion) :
    (f.withPolicy allow).warn c = (f.warn c).withPolicy allow := by
  unfold warn withPolicy
  split <;> rfl

variable [Host] (f : Filter) (r : Resource)

/-- Two policies come to the same at a criterion that is evaluated alike under them, if they do so
on the criteria after it. -/
theorem satisfiesAll_cons_withPolicy {c : Criterion} {cs : List Criterion} {allow allow' : Bool}
    (hc : c.evaluate allow (r.get? c.key) = c.evaluate allow' (r.get? c.key))
    (hcs : c.evaluate allow' (r.get? c.key) = .ok true →
      (f.withPolicy allow).satisfiesAll r cs =
        ((f.withPolicy allow').satisfiesAll r cs).within (withPolicy allow)) :
    (f.withPolicy allow).satisfiesAll r (c :: cs) =
      ((f.withPolicy allow').satisfiesAll r (c :: cs)).within (withPolicy allow) := by
  have hallow : (f.withPolicy allow).allowMissing = allow := rfl
  have hallow' : (f.withPolicy allow').allowMissing = allow' := rfl
  rw [satisfiesAll, satisfiesAll, hallow, hallow', hc]
  cases ho : c.evaluate allow' (r.get? c.key) with
  | ok holds =>
    cases holds with
    | true => exact hcs ho
    | false => rfl
  | error fault =>
    cases fault with
    | evaluation d problem =>
      show (if c.operator.isNumeric && !f.strict then _ else _) =
        (if c.operator.isNumeric && !f.strict then _ else _ : Outcome Filter Bool).within _
      split
      · rw [warn_withPolicy, warn_withPolicy]
        rfl
      · rfl
    | _ => rfl

/-- Going through criteria of which none asks, the policy makes no difference. -/
theorem satisfiesAll_withPolicy {cs : List Criterion}
    (h : ∀ c ∈ cs, ¬ c.AsksPolicy (r.get? c.key)) (allow allow' : Bool) :
    (f.withPolicy allow).satisfiesAll r cs =
      ((f.withPolicy allow').satisfiesAll r cs).within (withPolicy allow) := by
  induction cs with
  | nil => rfl
  | cons c cs ih =>
    rw [List.forall_mem_cons] at h
    exact f.satisfiesAll_cons_withPolicy r (Criterion.evaluate_eq_of_not_asksPolicy h.1 _ _)
      fun _ => ih h.2

/-- Going through criteria, the inclusive filter does what the exclusive one does, unless that
fails.

**Proof sketch.** Induction on the criteria. At the first one that asks, the exclusive filter fails;
before it, the two go the same way. -/
theorem satisfiesAll_inclusive {cs : List Criterion}
    (h : ((f.withPolicy false).satisfiesAll r cs).result ≠ .ok false) :
    (f.withPolicy true).satisfiesAll r cs =
      ((f.withPolicy false).satisfiesAll r cs).within (withPolicy true) := by
  induction cs with
  | nil => rfl
  | cons c cs ih =>
    by_cases hasks : c.AsksPolicy (r.get? c.key)
    · have hfails : c.evaluate (f.withPolicy false).allowMissing (r.get? c.key) = .ok false :=
        hasks.evaluate_eq false
      rw [satisfiesAll, hfails] at h
      exact absurd rfl h
    · refine f.satisfiesAll_cons_withPolicy r (Criterion.evaluate_eq_of_not_asksPolicy hasks _ _)
        fun hholds => ih ?_
      have hpasses : c.evaluate (f.withPolicy false).allowMissing (r.get? c.key) = .ok true :=
        hholds
      rwa [satisfiesAll, hpasses] at h

/-- **The policy is local.** If no criterion asks, then filters that differ in their policy come to
the same verdict, write the same records, and differ in their policy afterwards. -/
theorem satisfies_withPolicy (h : ∀ c ∈ f.criteria, ¬ c.AsksPolicy (r.get? c.key))
    (allow allow' : Bool) :
    (f.withPolicy allow).satisfies r =
      ((f.withPolicy allow').satisfies r).within (withPolicy allow) := by
  show (if f.groups.isEmpty then _ else _) =
    (if f.groups.isEmpty then _ else _ : Outcome Filter Bool).within _
  split
  · rfl
  · exact f.satisfiesAll_withPolicy r h allow allow'

/-- **The policy is monotone.** If the exclusive filter does not fail, then the inclusive one comes
to the same verdict, be it a match or a fault, and writes the same records. -/
theorem satisfies_inclusive (h : ((f.withPolicy false).satisfies r).result ≠ .ok false) :
    (f.withPolicy true).satisfies r =
      ((f.withPolicy false).satisfies r).within (withPolicy true) := by
  show (if f.groups.isEmpty then _ else _) =
    (if f.groups.isEmpty then _ else _ : Outcome Filter Bool).within _
  have hsatisfies : (f.withPolicy false).satisfies r =
      if f.groups.isEmpty then ⟨.ok false, [.noCriteria f.name], f.withPolicy false⟩
      else (f.withPolicy false).satisfiesAll r f.criteria :=
    rfl
  rw [hsatisfies] at h
  split
  · rfl
  · rename_i hgroups
    rw [if_neg hgroups] at h
    exact f.satisfiesAll_inclusive r h

end Filter

/-! ## Runs -/

namespace Run

/-- The run, and after it the policy of the filter is set. -/
def withPolicy (p : Run) (allow : Bool) : Run :=
  { p with operations := p.operations ++ [.allowOmitted p.id allow] }

section

variable [Host]

/-- Setting the policy changes nothing else of the filter. -/
theorem filter_withPolicy (p : Run) (allow : Bool) :
    (p.withPolicy allow).filter = p.filter.withPolicy allow := by
  have hfinal : (p.withPolicy allow).final =
      (p.final.perform (.allowOmitted p.id allow)).state :=
    Store.after_concat p.start p.operations _
  show (p.withPolicy allow).final.filter p.id = _
  rw [hfinal, Store.perform, Outcome.map, Store.filter_onFilter_self p.id_lt_final]
  rfl

/-- **The policy is monotone and local.** Take any run, and set the policy of its filter to
exclusive or to inclusive: the two filters are the same but for that. What the exclusive one
matches, the inclusive one matches, and where the exclusive one is at fault, so is the inclusive
one. If there is a value for the key of each pattern that was registered, then both come to the same
verdict or fault, write the same records, and are still the same but for the policy. A pattern that
meets no value is never at fault, even if it is no pattern at all.

**Proof sketch.** A criterion that does not ask is evaluated alike under both policies. At the first
one that asks, the exclusive filter fails (`Filter.satisfies_inclusive`), and if there is none, the
two go the same way to the end (`Filter.satisfies_withPolicy`). -/
theorem policy_is_monotone_and_local (p : Run) (r : Resource) :
    (∀ allow, (p.withPolicy allow).filter = { p.filter with allowMissing := allow }) ∧
    ((p.withPolicy false).verdict r = .ok true → (p.withPolicy true).verdict r = .ok true) ∧
    (∀ fault, (p.withPolicy false).verdict r = .error fault →
      (p.withPolicy true).verdict r = .error fault) ∧
    ((∀ c ∈ p.registered, c.operator = .matchesPattern → r.get? c.key ≠ none) →
      let inclusive := (p.withPolicy true).filter.satisfies r
      let exclusive := (p.withPolicy false).filter.satisfies r
      inclusive.result = exclusive.result ∧ inclusive.records = exclusive.records ∧
        inclusive.state = { exclusive.state with allowMissing := true }) ∧
    ∀ c : Criterion, c.operator = .matchesPattern → ∀ allow, c.evaluate allow none = .ok allow := by
  have hsame : (p.withPolicy false).verdict r ≠ .ok false →
      (p.withPolicy true).verdict r = (p.withPolicy false).verdict r := by
    rw [verdict_eq, verdict_eq, filter_withPolicy, filter_withPolicy]
    intro h
    rw [p.filter.satisfies_inclusive r h]
    rfl
  refine ⟨p.filter_withPolicy, fun h => ?_, fun fault h => ?_, fun hpresent => ?_,
    fun c hc allow => Criterion.AsksPolicy.evaluate_eq ⟨hc, rfl⟩ allow⟩
  · rw [hsame (by simp [h]), h]
  · rw [hsame (by simp [h]), h]
  · have hasks : ∀ c ∈ p.filter.criteria, ¬ c.AsksPolicy (r.get? c.key) := by
      intro c hc hasks
      rw [criteria_filter, mem_groupedBy] at hc
      exact hpresent c hc hasks.1 hasks.2
    rw [filter_withPolicy, filter_withPolicy, p.filter.satisfies_withPolicy r hasks true false]
    exact ⟨rfl, rfl, rfl⟩

end

attribute [local instance] Host.bare

/-- A lenient filter with a pattern and a number, and one with something more that is no pattern. If
no value is missing but that of the number, both policies come to the same failure with the same
warning; if none is missing, they match, or are at fault with what is no pattern; if all are missing
but that of the number, only the inclusive filter matches. -/
theorem policy_is_monotone_and_local_unterminated :
    let p : Run := ⟨.empty, "people", true, false, none,
      [.register ⟨0⟩ "name" "MATCHES_REGEX" (some "a+"),
        .register ⟨0⟩ "age" "GREATER_THAN" (some "30")]⟩
    let q : Run := { p with
      operations := p.operations ++ [.register ⟨0⟩ "note" "MATCHES_REGEX" (some "(")] }
    let unnumbered : Resource := ⟨[("name", some "aa")]⟩
    let complete : Resource := ⟨[("name", some "aa"), ("age", some "31"), ("note", some "")]⟩
    let numbered : Resource := ⟨[("age", some "31")]⟩
    let refused := Fault.evaluation ⟨"note", .matchesPattern, some "(", none⟩
      (.invalidPattern ⟨"(", .unterminatedGroup, some 0⟩)
    ((p.withPolicy true).filter.satisfies unnumbered).records =
        ((p.withPolicy false).filter.satisfies unnumbered).records ∧
      (p.withPolicy true).verdict complete = .ok true ∧
      (q.withPolicy true).verdict complete = .error refused ∧
      (q.withPolicy false).verdict numbered = .ok false ∧
      (q.withPolicy true).verdict numbered = .ok true := by
  intro p q unnumbered complete numbered refused
  have hpresent : ∀ c ∈ p.registered, c.operator = .matchesPattern →
      unnumbered.get? c.key ≠ none := by
    decide +kernel
  have hmatches : (p.withPolicy false).verdict complete = .ok true := by decide +kernel
  have hrefuses : (q.withPolicy false).verdict complete = .error refused := by decide +kernel
  exact ⟨((policy_is_monotone_and_local p unnumbered).2.2.2.1 hpresent).2.1,
    (policy_is_monotone_and_local p complete).2.1 hmatches,
    (policy_is_monotone_and_local q complete).2.2.1 refused hrefuses,
    by decide +kernel, by decide +kernel⟩

end Run

end Winnow

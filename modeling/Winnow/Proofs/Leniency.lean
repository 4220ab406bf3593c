import Winnow.Proofs.Confidentiality
import Winnow.Proofs.Verdict

set_option autoImplicit false

/-!
# Lenient and strict filters

Two filters that differ in strictness only go through the same criteria up to the first one that
does not hold, and there they differ only if it is a numeric criterion without a usable value: the
strict filter comes to a fault, the lenient one to a failure. No later criterion is asked. So
leniency never turns a failure or a fault into a match, and a lenient filter can only break on its
patterns.

## Main definitions

* `Winnow.Filter.relax` — what leniency makes of a strict verdict.
* `Winnow.Criterion.IsReadable` — a criterion has a text, which is a pattern if it serves as one.

## Main results

* `Winnow.Filter.result_satisfies_lenient` — a lenient filter has the relaxed verdict of the strict
  one.
* `Winnow.Run.leniency_refines_strictness` — lenient and strict verdicts on the filter of any run.
-/

namespace Winnow

namespace Filter

/-- What leniency makes of a strict verdict: the fault of a numeric criterion becomes a failure. -/
def relax : Except Fault Bool → Except Fault Bool
  | .error (.evaluation c problem) =>
    if c.operator.isNumeric then .ok false else .error (.evaluation c problem)
  | verdict => verdict

/-- Leniency leaves other faults as they are. -/
theorem relax_error {fault : Fault}
    (h : ∀ c problem, fault = .evaluation c problem → c.operator.isNumeric = false) :
    relax (.error fault) = .error fault := by
  cases fault with
  | evaluation c problem => simp [relax, h c problem rfl]
  | _ => rfl

/-- Leniency makes a match of nothing else. -/
theorem relax_eq_ok_true_iff {verdict : Except Fault Bool} :
    relax verdict = .ok true ↔ verdict = .ok true := by
  cases verdict with
  | ok b => rfl
  | error fault =>
    cases fault with
    | evaluation c problem => cases h : c.operator.isNumeric <;> simp [relax, h]
    | _ => simp [relax]

variable [Host]

/-- Going through criteria, a lenient filter comes to the relaxed verdict of the strict one.

**Proof sketch.** Induction on the criteria. The two filters differ at a criterion that cannot be
evaluated, and the fault of that names the criterion itself, so both ask for the same operator. -/
theorem result_satisfiesAll_lenient (f : Filter) (r : Resource) (cs : List Criterion) :
    ({ f with strict := false }.satisfiesAll r cs).result =
      relax ({ f with strict := true }.satisfiesAll r cs).result := by
  induction cs with
  | nil => rfl
  | cons c cs ih =>
    rw [satisfiesAll, satisfiesAll]
    cases ho : c.evaluate f.allowMissing (r.get? c.key) with
    | ok holds =>
      cases holds with
      | true => exact ih
      | false => rfl
    | error fault =>
      cases fault with
      | evaluation d problem =>
        obtain rfl : d = c := Criterion.eq_of_evaluate_eq ho
        cases hn : d.operator.isNumeric <;> simp [relax, hn]
      | _ => rfl

/-- A lenient filter has the relaxed verdict of the strict one. -/
theorem result_satisfies_lenient (f : Filter) (r : Resource) :
    ({ f with strict := false }.satisfies r).result =
      relax ({ f with strict := true }.satisfies r).result := by
  rw [satisfies, satisfies]
  by_cases h : f.groups.isEmpty = true
  · rw [if_pos h, if_pos h]
    rfl
  · rw [if_neg h, if_neg h]
    exact result_satisfiesAll_lenient f r f.criteria

end Filter

/-! ## Single criteria -/

namespace Criterion

variable [Host]

/-- A criterion has a text, and if this is to serve as a pattern, then it is one. -/
def IsReadable (c : Criterion) : Prop :=
  ∃ text, c.value? = some text ∧
    (c.operator = .matchesPattern → ∃ node, Pattern.read text = .ok node)

/-- A numeric criterion that was registered is at fault only with a value that is missing or no
comparable number. -/
theorem IsRegistrable.problem_cases {c : Criterion} (h : c.IsRegistrable)
    (hc : c.operator.isNumeric = true) {allowMissing : Bool} {value? : Option String}
    {problem : Problem} (ho : c.evaluate allowMissing value? = .error (.evaluation c problem)) :
    isUsable value? = false ∧ (problem = .absent ∨ ∃ e, problem = .notNumeric e) := by
  constructor
  · obtain ⟨-, b, hb⟩ | ⟨hu, -⟩ := h.evaluate_cases hc allowMissing value?
    · rw [ho] at hb
      cases hb
    · exact hu
  · obtain ⟨-, y, -, -, hy⟩ := h.exists_number hc
    have hthreshold : c.threshold = .ok y := by simp [threshold, hy]
    obtain hx | hx := error_of_evaluate_numeric hc ho
    · cases value? with
      | none => cases hx; exact .inl rfl
      | some value =>
        cases hr : comparable value <;> simp [valueNumber, hr] at hx
        exact .inr ⟨_, hx.symm⟩
    · rw [hthreshold] at hx
      cases hx

/-- A criterion that is not numeric and can be read is never at fault. -/
theorem IsReadable.exists_evaluate {c : Criterion} (h : c.IsReadable)
    (hc : c.operator.isNumeric = false) (allowMissing : Bool) (value? : Option String) :
    ∃ holds, c.evaluate allowMissing value? = .ok holds := by
  obtain ⟨text, htext, hpattern⟩ := h
  cases ho : c.operator with
  | presence => exact ⟨value?.isSome == isTrue text, by simp only [evaluate, ho, htext]; rfl⟩
  | greaterThan => simp [ho, Operator.isNumeric] at hc
  | lessThan => simp [ho, Operator.isNumeric] at hc
  | equals => exact ⟨value?.isSome && value? == c.value?, by simp only [evaluate, ho]⟩
  | matchesPattern =>
    obtain ⟨node, hnode⟩ := hpattern ho
    cases value? with
    | none => exact ⟨allowMissing, by simp only [evaluate, ho]⟩
    | some value =>
      exact ⟨node.matchesWhole value, by simp only [evaluate, ho, evaluatePattern, htext, hnode]⟩

end Criterion

/-- A lenient filter comes to a verdict with a criterion that was registered and can be read. -/
theorem Filter.exists_decision [Host] {f : Filter} (hf : f.strict = false) {c : Criterion}
    (hc : c.IsRegistrable) (hreadable : c.IsReadable) (r : Resource) :
    ∃ holds, f.decision r c = .ok holds := by
  rw [decision]
  cases hn : c.operator.isNumeric with
  | false =>
    rw [if_neg (by simp)]
    exact hreadable.exists_evaluate hn f.allowMissing _
  | true =>
    obtain ⟨hu, holds, ho⟩ | ⟨hu, -⟩ := hc.evaluate_cases hn f.allowMissing (r.get? c.key)
    · exact ⟨holds, by rw [if_neg (by simp [hu]), ho]⟩
    · exact ⟨false, if_pos ⟨rfl, hf, hu⟩⟩

/-! ## Runs -/

namespace Run

/-- The run, and after it the strictness of the filter is set. -/
def withStrict (p : Run) (strict : Bool) : Run :=
  { p with operations := p.operations ++ [.setStrict p.id strict] }

/-- Setting the strictness registers nothing. -/
theorem registered_withStrict (p : Run) (strict : Bool) :
    (p.withStrict strict).registered = p.registered := by
  show Store.registered p.id (p.operations ++ [.setStrict p.id strict]) = _
  rw [Store.registered_concat]
  rfl

section

variable [Host]

/-- Setting the strictness changes nothing else of the filter. -/
theorem filter_withStrict (p : Run) (strict : Bool) :
    (p.withStrict strict).filter = { p.filter with strict } := by
  have hfinal : (p.withStrict strict).final = p.final.setFilter p.id { p.filter with strict } := by
    show p.start.after (p.operations ++ [.setStrict p.id strict]) = _
    rw [Store.after_concat]
    rfl
  show (p.withStrict strict).final.filter p.id = _
  rw [hfinal, Store.filter_setFilter_self p.id_lt_final]

/-- The lenient verdict is the relaxed strict one. -/
theorem verdict_lenient (p : Run) (r : Resource) :
    (p.withStrict false).verdict r = Filter.relax ((p.withStrict true).verdict r) := by
  rw [verdict_eq, verdict_eq, filter_withStrict, filter_withStrict]
  exact p.filter.result_satisfies_lenient r

/-- A strict filter is at fault with a criterion that it holds, and only as that criterion is on its
own. -/
theorem evaluate_of_verdict_strict {p : Run} {r : Resource} {fault : Fault}
    (h : (p.withStrict true).verdict r = .error fault) :
    ∃ c ∈ p.registered, c.evaluate p.filter.allowMissing (r.get? c.key) = .error fault := by
  rw [verdict_eq_match, registered_withStrict, filter_withStrict] at h
  split at h
  · rename_i c hfind
    refine ⟨c, mem_groupedBy.mp (List.mem_of_find?_eq_some hfind), ?_⟩
    rwa [Filter.decision, if_neg (by simp)] at h
  · cases h

/-- A lenient filter always comes to a verdict if its criteria can be read. -/
theorem exists_verdict_lenient {p : Run} (h : ∀ c ∈ p.registered, c.IsReadable) (r : Resource) :
    ∃ holds, (p.withStrict false).verdict r = .ok holds := by
  rw [verdict_eq_match, registered_withStrict, filter_withStrict]
  split
  · rename_i c hfind
    have hmem : c ∈ p.registered := mem_groupedBy.mp (List.mem_of_find?_eq_some hfind)
    exact Filter.exists_decision rfl (Store.isRegistrable_of_mem_registered hmem) (h c hmem) r
  · exact ⟨_, rfl⟩

/-- **Leniency refines strictness.** Take any run, and set the strictness of its filter: the two
filters are the same but for that. What the strict one decides, the lenient one decides in the same
way. Where the strict one is at fault with a numeric criterion, the value for the key of that
criterion is missing or no comparable number, and the lenient one comes to a failure. Any other
fault of the strict one is that of the lenient one. So the two have the same matches, and if every
criterion has a text and those that are to be patterns are patterns, then the lenient filter is at
fault with no resource.

**Proof sketch.** The lenient verdict is the relaxed strict one (`verdict_lenient`), and a fault of
the strict filter is that of a criterion that was registered. -/
theorem leniency_refines_strictness (p : Run) (r : Resource) :
    (∀ strict, (p.withStrict strict).filter = { p.filter with strict }) ∧
    (∀ holds, (p.withStrict true).verdict r = .ok holds →
      (p.withStrict false).verdict r = .ok holds) ∧
    (∀ c problem, (p.withStrict true).verdict r = .error (.evaluation c problem) →
      c.operator.isNumeric = true →
      c ∈ p.registered ∧ Criterion.isUsable (r.get? c.key) = false ∧
        (problem = .absent ∨ ∃ e, problem = .notNumeric e) ∧
        (p.withStrict false).verdict r = .ok false) ∧
    (∀ fault, (p.withStrict true).verdict r = .error fault →
      (∀ c problem, fault = .evaluation c problem → c.operator.isNumeric = false) →
      (p.withStrict false).verdict r = .error fault) ∧
    ((p.withStrict false).verdict r = .ok true ↔ (p.withStrict true).verdict r = .ok true) ∧
    ((∀ c ∈ p.registered, c.IsReadable) →
      ∃ holds, (p.withStrict false).verdict r = .ok holds) := by
  refine ⟨p.filter_withStrict, fun holds h => ?_, fun c problem h hc => ?_,
    fun fault h hother => ?_, ?_, fun h => exists_verdict_lenient h r⟩
  · rw [verdict_lenient, h]
    rfl
  · obtain ⟨d, hmem, ho⟩ := evaluate_of_verdict_strict h
    obtain rfl : c = d := Criterion.eq_of_evaluate_eq ho
    obtain ⟨hu, hproblem⟩ := (Store.isRegistrable_of_mem_registered hmem).problem_cases hc ho
    refine ⟨hmem, hu, hproblem, ?_⟩
    rw [verdict_lenient, h]
    simp [Filter.relax, hc]
  · rw [verdict_lenient, h, Filter.relax_error hother]
  · rw [verdict_lenient, Filter.relax_eq_ok_true_iff]

end

attribute [local instance] Host.bare

/-- Three criteria, of which the second is numeric and the third is no pattern. Without a number the
strict filter is at fault with the second, and the lenient one fails there without asking the third;
with a number that passes, both are at fault with the third. -/
theorem leniency_refines_strictness_at_pattern :
    let p : Run := ⟨.empty, "people", false, true, none,
      [.register ⟨0⟩ "role" "EXISTS" (some "true"), .register ⟨0⟩ "age" "GREATER_THAN" (some "30"),
        .register ⟨0⟩ "name" "MATCHES_REGEX" (some "(")]⟩
    let unusable : Resource := ⟨[("role", some "admin"), ("age", some "n/a"), ("name", some "x")]⟩
    let usable : Resource := ⟨[("role", some "admin"), ("age", some "31"), ("name", some "x")]⟩
    let bound : Criterion := ⟨"age", .greaterThan, some "30", (comparable "30").toOption⟩
    let pattern : Criterion := ⟨"name", .matchesPattern, some "(", none⟩
    let refused := Fault.evaluation pattern (.invalidPattern ⟨"(", .unterminatedGroup, some 0⟩)
    (p.withStrict true).verdict unusable =
        .error (.evaluation bound (.notNumeric (.malformed "n/a"))) ∧
      (p.withStrict false).verdict unusable = .ok false ∧
      (p.withStrict true).verdict usable = .error refused ∧
      (p.withStrict false).verdict usable = .error refused := by
  intro p unusable usable bound pattern refused
  have hunusable : (p.withStrict true).verdict unusable =
      .error (.evaluation bound (.notNumeric (.malformed "n/a"))) := by
    decide +kernel
  have husable : (p.withStrict true).verdict usable = .error refused := by decide +kernel
  have hpattern : ∀ c problem, refused = .evaluation c problem → c.operator.isNumeric = false := by
    intro c problem h
    obtain ⟨rfl, -⟩ := Fault.evaluation.inj h
    rfl
  exact ⟨hunusable,
    ((leniency_refines_strictness p unusable).2.2.1 _ _ hunusable rfl).2.2.2, husable,
    (leniency_refines_strictness p usable).2.2.2.1 refused husable hpattern⟩

end Run

end Winnow

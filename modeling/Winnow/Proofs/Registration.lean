import Winnow.Expr.Basic

set_option autoImplicit false

/-!
# What registration accepts

Whether a criterion is accepted depends on its operator and its text alone: not on the filter, and
not on whether it is to be registered with a filter or to stand for itself in an expression. A
numeric criterion that has been accepted carries the number that its text stands for.

## Main definitions

* `Winnow.Criterion.accepted?` — the criterion that a key, an operator name and a text come to.
* `Winnow.Criterion.IsRegistrable` — criteria that registration can come to.

## Main results

* `Winnow.Filter.register_of_accepted`, `Winnow.Filter.register_of_not_accepted` — registration adds
  the accepted criterion, or leaves the filter as it was.
* `Winnow.Expr.compare_eq_ok_iff` — a comparison can be made of what registration accepts.
* `Winnow.Criterion.IsRegistrable.evaluate_cases` — a numeric criterion that was registered fails to
  be evaluated only for want of a usable value.
-/

namespace Winnow

/-- An operator can be given by its own name. -/
theorem Operator.ofName?_name (o : Operator) : ofName? o.name = some o := by
  cases o <;> decide +kernel

namespace Criterion

/-- The criterion that a key, an operator and a text come to, if the text serves the operator. -/
def ofText? (key : String) (o : Operator) (value? : Option String) : Option Criterion :=
  if o.isNumeric then
    value?.bind fun text => match comparable text with
      | .ok x => some ⟨key, o, value?, some x⟩
      | .error _ => none
  else some ⟨key, o, value?, none⟩

/-- The criterion that a key, an operator name and a text come to, if they are accepted. -/
def accepted? (key operator : String) (value? : Option String) : Option Criterion :=
  (Operator.ofName? operator).bind fun o => ofText? key o value?

/-- Criteria that are what their own key, operator and text come to. -/
def IsRegistrable (c : Criterion) : Prop :=
  ofText? c.key c.operator c.value? = some c

/-- A text that does not serve a numeric operator is missing or is no comparable number. -/
theorem ofText?_of_isNumeric {key : String} {o : Operator} (ho : o.isNumeric = true)
    (value? : Option String) :
    ofText? key o value? = value?.bind fun text => match comparable text with
      | .ok x => some ⟨key, o, value?, some x⟩
      | .error _ => none :=
  if_pos ho

/-- Every text serves an operator that is not numeric. -/
theorem ofText?_of_not_isNumeric {key : String} {o : Operator} (ho : o.isNumeric = false)
    (value? : Option String) : ofText? key o value? = some ⟨key, o, value?, none⟩ := by
  simp [ofText?, ho]

/-- The parts of a criterion are those that it was made of. -/
theorem ofText?_eq_some {key : String} {o : Operator} {value? : Option String} {c : Criterion}
    (h : ofText? key o value? = some c) : c.key = key ∧ c.operator = o ∧ c.value? = value? := by
  cases ho : o.isNumeric with
  | false =>
    rw [ofText?_of_not_isNumeric ho] at h
    cases h
    exact ⟨rfl, rfl, rfl⟩
  | true =>
    rw [ofText?_of_isNumeric ho] at h
    obtain ⟨text, rfl, h⟩ := Option.bind_eq_some_iff.mp h
    split at h
    · cases h
      exact ⟨rfl, rfl, rfl⟩
    · cases h

/-- What is accepted can be registered as it is. -/
theorem isRegistrable_of_accepted {key operator : String} {value? : Option String} {c : Criterion}
    (h : accepted? key operator value? = some c) : c.IsRegistrable := by
  obtain ⟨o, -, h⟩ := Option.bind_eq_some_iff.mp h
  obtain ⟨hk, ho, hv⟩ := ofText?_eq_some h
  rw [IsRegistrable, hk, ho, hv, h]

/-- The key of a criterion that is accepted. -/
theorem key_of_accepted {key operator : String} {value? : Option String} {c : Criterion}
    (h : accepted? key operator value? = some c) : c.key = key := by
  obtain ⟨o, -, h⟩ := Option.bind_eq_some_iff.mp h
  exact (ofText?_eq_some h).1

/-- A numeric criterion that can be registered carries the number of its text. -/
theorem IsRegistrable.exists_number {c : Criterion} (h : c.IsRegistrable)
    (hc : c.operator.isNumeric = true) :
    ∃ text x, c.value? = some text ∧ comparable text = .ok x ∧ c.number? = some x := by
  rw [IsRegistrable, ofText?_of_isNumeric hc] at h
  obtain ⟨text, hv, h⟩ := Option.bind_eq_some_iff.mp h
  cases hx : comparable text with
  | error e => rw [hx] at h; cases h
  | ok x =>
    rw [hx] at h
    refine ⟨text, x, hv, hx, ?_⟩
    have : c = ⟨c.key, c.operator, c.value?, some x⟩ := (Option.some.inj h).symm
    rw [this]

/-! ## Usable values -/

/-- Whether a value is there and is a comparable number. -/
def isUsable (value? : Option String) : Bool :=
  match value? with
  | none => false
  | some text => (comparable text).isOk

/-- The number of a value is found exactly if the value is usable. -/
theorem valueNumber_cases (c : Criterion) (value? : Option String) :
    (isUsable value? = true ∧ ∃ x, c.valueNumber value? = .ok x) ∨
    (isUsable value? = false ∧
      ∃ problem, c.valueNumber value? = .error (.evaluation c problem)) := by
  cases value? with
  | none => exact .inr ⟨rfl, .absent, rfl⟩
  | some text =>
    cases h : comparable text with
    | ok x =>
      exact .inl ⟨by simp [isUsable, h, Except.isOk, Except.toBool], x, by simp [valueNumber, h]⟩
    | error e =>
      exact .inr ⟨by simp [isUsable, h, Except.isOk, Except.toBool], .notNumeric e,
        by simp [valueNumber, h]⟩

variable [Host]

/-- A numeric criterion that was registered is evaluated to a verdict if the value is usable, and to
a fault of its own if it is not. -/
theorem IsRegistrable.evaluate_cases {c : Criterion} (h : c.IsRegistrable)
    (hc : c.operator.isNumeric = true) (allowMissing : Bool) (value? : Option String) :
    (isUsable value? = true ∧ ∃ b, c.evaluate allowMissing value? = .ok b) ∨
    (isUsable value? = false ∧
      ∃ problem, c.evaluate allowMissing value? = .error (.evaluation c problem)) := by
  obtain ⟨text, y, -, -, hy⟩ := h.exists_number hc
  have ht : c.threshold = .ok y := by simp [threshold, hy]
  rcases valueNumber_cases c value? with ⟨hu, x, hx⟩ | ⟨hu, problem, hx⟩
  · refine .inl ⟨hu, ?_⟩
    cases ho : c.operator <;> simp [ho, Operator.isNumeric] at hc
    · exact ⟨y.lt x, by simp only [evaluate, ho, hx, ht]; rfl⟩
    · exact ⟨x.lt y, by simp only [evaluate, ho, hx, ht]; rfl⟩
  · refine .inr ⟨hu, problem, ?_⟩
    cases ho : c.operator <;> simp [ho, Operator.isNumeric] at hc
    · simp only [evaluate, ho, hx]; rfl
    · simp only [evaluate, ho, hx]; rfl

end Criterion

/-! ## Registration with a filter -/

namespace Filter

/-- Registration adds the criterion that is accepted. -/
theorem register_of_accepted {key operator : String} {value? : Option String} {c : Criterion}
    (h : Criterion.accepted? key operator value? = some c) (f : Filter) (j : Journal) :
    register key operator value? f j = add c f j := by
  obtain ⟨o, ho, h⟩ := Option.bind_eq_some_iff.mp h
  have hr : Operator.resolve operator = .ok o := by simp [Operator.resolve, ho]
  rw [register, hr]
  cases hn : o.isNumeric with
  | false =>
    rw [Criterion.ofText?_of_not_isNumeric hn] at h
    cases h
    simp [hn]
  | true =>
    rw [Criterion.ofText?_of_isNumeric hn] at h
    obtain ⟨text, rfl, h⟩ := Option.bind_eq_some_iff.mp h
    cases hx : comparable text with
    | error e => rw [hx] at h; cases h
    | ok x =>
      rw [hx] at h
      cases h
      simp [hn, hx]

/-- Registration of what is not accepted leaves the filter as it was, and does not report a
criterion as added. -/
theorem register_of_not_accepted {key operator : String} {value? : Option String}
    (h : Criterion.accepted? key operator value? = none) (f : Filter) (j : Journal) :
    (register key operator value? f j).state.1 = f ∧
      ∀ g, (register key operator value? f j).result = .ok g → g.added = false := by
  cases ho : Operator.ofName? operator with
  | none =>
    have hr : Operator.resolve operator = .error (.unknownOperator operator) := by
      simp [Operator.resolve, ho]
    rw [register, hr]
    exact ⟨rfl, fun g hg => by cases hg⟩
  | some o =>
    have hr : Operator.resolve operator = .ok o := by simp [Operator.resolve, ho]
    rw [Criterion.accepted?, ho, Option.bind_some] at h
    rw [register, hr]
    cases hn : o.isNumeric with
    | false => rw [Criterion.ofText?_of_not_isNumeric hn] at h; cases h
    | true =>
      cases value? with
      | none => exact ⟨by simp [hn, Outcome.fault], fun g hg => by simp [hn, Outcome.fault] at hg⟩
      | some text =>
        rw [Criterion.ofText?_of_isNumeric hn, Option.bind_some] at h
        cases hx : comparable text with
        | ok x => rw [hx] at h; cases h
        | error e =>
          refine ⟨by simp [hn, hx, log], fun g hg => ?_⟩
          simp only [hn, hx, log, if_true, Except.ok.injEq] at hg
          rw [← hg]
          rfl

/-- What is reported as added was accepted. -/
theorem accepted_of_added {key operator : String} {value? : Option String} {f : Filter}
    {j : Journal} {g : Registration} (h : (register key operator value? f j).result = .ok g)
    (hg : g.added = true) :
    ∃ c, Criterion.accepted? key operator value? = some c ∧ g = .accept c := by
  cases hc : Criterion.accepted? key operator value? with
  | none =>
    rw [(register_of_not_accepted hc f j).2 g h] at hg
    cases hg
  | some c =>
    rw [register_of_accepted hc] at h
    exact ⟨c, rfl, (Except.ok.inj h).symm⟩

/-- A criterion is among the groups that it is added to. -/
theorem mem_insert (c : Criterion) (groups : List (String × List Criterion)) :
    c ∈ (insert c groups).flatMap Prod.snd := by
  induction groups with
  | nil => simp [insert]
  | cons g groups ih =>
    rw [insert]
    split
    · simp
    · rw [List.flatMap_cons]
      exact List.mem_append_right _ ih

end Filter

/-! ## Comparisons -/

namespace Expr

/-- A comparison can be made of what registration accepts, and holds that criterion. -/
theorem compare_eq_ok_iff {key operator : String} {value? : Option String} {allowMissing : Bool}
    {e : Expr} :
    compare key operator value? allowMissing = .ok e ↔
      ∃ c, Criterion.accepted? key operator value? = some c ∧ e = .comparison c allowMissing := by
  cases ho : Operator.ofName? operator with
  | none =>
    simp [compare, Criterion.accepted?, Operator.resolve, ho, bind, Except.bind]
  | some o =>
    cases hn : o.isNumeric with
    | false =>
      simp [compare, Criterion.accepted?, Operator.resolve, ho, hn, bind, Except.bind, pure,
        Except.pure, Criterion.ofText?_of_not_isNumeric hn, eq_comm]
    | true =>
      cases value? with
      | none =>
        simp [compare, Criterion.accepted?, Operator.resolve, ho, hn, bind, Except.bind,
          Criterion.ofText?_of_isNumeric hn, Criterion.requiredNumber]
      | some text =>
        cases hx : comparable text <;>
          simp [compare, Criterion.accepted?, Operator.resolve, ho, hn, hx, bind, Except.bind, pure,
            Except.pure, Criterion.ofText?_of_isNumeric hn, Criterion.requiredNumber, eq_comm]

end Expr

end Winnow

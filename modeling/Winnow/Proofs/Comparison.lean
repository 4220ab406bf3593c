import Winnow.Proofs.Number.Exact
import Winnow.Proofs.Verdict

set_option autoImplicit false

/-!
# Numeric criteria and exact order

A numeric criterion compares numbers that have been rounded. Since rounding keeps the order, what it
says of two texts is never against the order of their exact values, and it is that order itself if
both are representable.

## Main definitions

* `Winnow.Criterion.numeric` — the criterion of a numeric operator and a text that is a number.

## Main results

* `Winnow.Criterion.result_register_numeric` — it is what registration comes to.
* `Winnow.lt_of_lt_round`, `Winnow.lt_iff_of_representable` — numbers and exact values.
* `Winnow.numeric_criteria_agree_with_exact_order` — numeric criteria, alone and as the two bounds
  of a range.
-/

namespace Winnow

/-! ## Texts and their numbers -/

/-- A text is accepted as a comparable number exactly if it writes down an exact value. -/
theorem comparable_eq_ok_iff_denotes (text : String) :
    (∃ x, comparable text = .ok x) ↔ ∃! q, Denotes text q := by
  simp only [comparable_eq_ok_iff]
  constructor
  · rintro ⟨_, w, hw, -⟩
    exact ⟨w.exactValue, ⟨w, hw, rfl⟩, fun q hq => hq.unique ⟨w, hw, rfl⟩⟩
  · rintro ⟨q, ⟨w, hw, -⟩, -⟩
    exact ⟨_, w, hw, rfl⟩

/-- The number of a text is the exact value that it writes down, rounded. -/
theorem Denotes.exists_comparable {text : String} {q : Extended} (h : Denotes text q) :
    ∃ x, comparable text = .ok x ∧ x.exactValue? = some q.round := by
  obtain ⟨w, hw, rfl⟩ := h
  exact ⟨_, comparable_eq_ok_iff.mpr ⟨w, hw, rfl⟩, w.exactValue?_value⟩

section Order

variable {x y : Binary64} {p q : Extended}

/-- A number is less only if the exact value that was rounded to it is. -/
theorem lt_of_lt_round (hx : x.exactValue? = some p.round) (hy : y.exactValue? = some q.round)
    (h : x.lt y = true) : p < q := by
  by_contra hle
  have hround := Extended.round_mono (not_lt.mp hle)
  exact absurd ((Binary64.lt_iff hx hy).mp h) (not_lt.mpr hround)

/-- Numbers of representable values are in the order of these values. -/
theorem lt_iff_of_representable (hx : x.exactValue? = some p.round)
    (hy : y.exactValue? = some q.round) (hp : Representable p) (hq : Representable q) :
    x.lt y = true ↔ p < q := by
  rw [Binary64.lt_iff hx hy, hp.round_eq_self, hq.round_eq_self]

end Order

/-! ## Criteria -/

namespace Criterion

/-- The criterion of a numeric operator and a text with a number. -/
def numeric (key : String) (o : Operator) (text : String) (x : Binary64) : Criterion :=
  ⟨key, o, some text, some x⟩

/-- Registering a numeric operator and a text with a number comes to their criterion. -/
theorem result_register_numeric {o : Operator} (ho : o.isNumeric = true) {text : String}
    {x : Binary64} (hx : comparable text = .ok x) (key : String) (f : Filter) (j : Journal) :
    (f.register key o.name (some text) j).result = .ok (.accept (numeric key o text x)) := by
  have haccepted : accepted? key o.name (some text) = some (numeric key o text x) := by
    rw [accepted?, Operator.ofName?_name, Option.bind_some, ofText?_of_isNumeric ho,
      Option.bind_some, hx]
    rfl
  rw [Filter.register_of_accepted haccepted]
  rfl

variable [Host] {text value : String} {x y : Binary64}

/-- What a lower bound makes of a value. -/
theorem evaluate_greaterThan (hvalue : comparable value = .ok x) (key : String) (allow : Bool) :
    (numeric key .greaterThan text y).evaluate allow (some value) = .ok (y.lt x) := by
  simp only [evaluate, numeric, valueNumber, hvalue, threshold]
  rfl

/-- What an upper bound makes of a value. -/
theorem evaluate_lessThan (hvalue : comparable value = .ok x) (key : String) (allow : Bool) :
    (numeric key .lessThan text y).evaluate allow (some value) = .ok (x.lt y) := by
  simp only [evaluate, numeric, valueNumber, hvalue, threshold]
  rfl

end Criterion

namespace Filter

/-- Criteria that all come to a verdict decide together. -/
theorem result_satisfiesAll_of_ok [Host] {f : Filter} {r : Resource} {cs : List Criterion}
    {verdict : Criterion → Bool}
    (h : ∀ c ∈ cs, c.evaluate f.allowMissing (r.get? c.key) = .ok (verdict c)) :
    (f.satisfiesAll r cs).result = .ok (cs.all verdict) := by
  induction cs with
  | nil => rfl
  | cons c cs ih =>
    have hc := h c List.mem_cons_self
    rw [satisfiesAll, List.all_cons, hc]
    cases hv : verdict c with
    | false => rfl
    | true => exact ih fun d hd => h d (List.mem_cons_of_mem c hd)

end Filter

/-- **Numeric criteria agree with exact order.** A text is accepted as a number exactly if it writes
down an exact value, and only one; integers of at most `2 ^ 53` are representable. A value that
passes a lower bound is greater than it, and one that passes an upper bound is less, whatever has
been rounded; the lower bound on the value is the upper bound of the value on it, and no value
passes both bounds of one text. If the exact values are representable, then passing is the same as
being greater or less, and a filter with a lower and an upper bound is satisfied exactly by the
values between them.

**Proof sketch.** The numbers compared are the exact values rounded. Rounding keeps the order, and
leaves alone what is representable. -/
theorem numeric_criteria_agree_with_exact_order [Host] {value low high : String} {p q r : Extended}
    (hvalue : Denotes value p) (hlow : Denotes low q) (hhigh : Denotes high r) (key : String) :
    (∀ text, (∃ x, comparable text = .ok x) ↔ ∃! e, Denotes text e) ∧
    (∀ n : ℤ, |n| ≤ 2 ^ 53 → Representable (.ofRat n)) ∧
    ∃ above below swapped upper : Criterion,
      (∀ (f : Filter) (j : Journal),
        (f.register key "GREATER_THAN" (some low) j).result = .ok (.accept above) ∧
        (f.register key "LESS_THAN" (some low) j).result = .ok (.accept below) ∧
        (f.register key "LESS_THAN" (some value) j).result = .ok (.accept swapped) ∧
        (f.register key "LESS_THAN" (some high) j).result = .ok (.accept upper)) ∧
      (∃ greater less : Bool,
        (∀ allow, above.evaluate allow (some value) = .ok greater ∧
          swapped.evaluate allow (some low) = .ok greater ∧
          below.evaluate allow (some value) = .ok less) ∧
        (greater = true → q < p) ∧ (less = true → p < q) ∧ ¬ (greater = true ∧ less = true) ∧
        (Representable p → Representable q → (greater = true ↔ q < p) ∧ (less = true ↔ p < q))) ∧
      (Representable p → Representable q → Representable r →
        ∀ (f : Filter) (resource : Resource), f.criteria.Perm [above, upper] →
          resource.get? key = some value →
          (f.satisfies resource).result = .ok (decide (q < p ∧ p < r))) := by
  obtain ⟨x, hx, hxp⟩ := hvalue.exists_comparable
  obtain ⟨y, hy, hyq⟩ := hlow.exists_comparable
  obtain ⟨z, hz, hzr⟩ := hhigh.exists_comparable
  have hregister := fun (o : Operator) (ho : o.isNumeric = true) (text : String) (x : Binary64)
    (hx : comparable text = .ok x) => Criterion.result_register_numeric ho hx key
  refine ⟨comparable_eq_ok_iff_denotes, fun n => representable_intCast,
    .numeric key .greaterThan low y, .numeric key .lessThan low y, .numeric key .lessThan value x,
    .numeric key .lessThan high z,
    fun f j => ⟨hregister .greaterThan rfl low y hy f j, hregister .lessThan rfl low y hy f j,
      hregister .lessThan rfl value x hx f j, hregister .lessThan rfl high z hz f j⟩,
    ⟨y.lt x, x.lt y, fun allow => ⟨Criterion.evaluate_greaterThan hx key allow,
      Criterion.evaluate_lessThan hy key allow, Criterion.evaluate_lessThan hx key allow⟩,
      lt_of_lt_round hyq hxp, lt_of_lt_round hxp hyq, ?_, fun hp hq =>
      ⟨lt_iff_of_representable hyq hxp hq hp, lt_iff_of_representable hxp hyq hp hq⟩⟩, ?_⟩
  · rintro ⟨hgreater, hless⟩
    exact lt_asymm (lt_of_lt_round hyq hxp hgreater) (lt_of_lt_round hxp hyq hless)
  · intro hp hq hr f resource hcriteria hget
    -- each criterion of the filter comes to a verdict, which its operator tells from the other's
    have hverdict : ∀ c ∈ f.criteria, c.evaluate f.allowMissing (resource.get? c.key) =
        .ok (if c.operator = .greaterThan then y.lt x else x.lt z) := by
      intro c hc
      rw [hcriteria.mem_iff] at hc
      obtain rfl | rfl :
          c = .numeric key .greaterThan low y ∨ c = .numeric key .lessThan high z := by
        simpa using hc
      · rw [Criterion.numeric, hget]
        exact Criterion.evaluate_greaterThan hx key f.allowMissing
      · rw [Criterion.numeric, hget]
        exact Criterion.evaluate_lessThan hx key f.allowMissing
    have hgroups : f.groups ≠ [] := by
      intro h
      rw [Filter.criteria, h] at hcriteria
      simp at hcriteria
    rw [Filter.satisfies, if_neg (by simpa using hgroups),
      Filter.result_satisfiesAll_of_ok hverdict, hcriteria.all_eq]
    have hgreater := lt_iff_of_representable hyq hxp hq hp
    have hless := lt_iff_of_representable hxp hzr hp hr
    simp [Criterion.numeric, ← hgreater, ← hless]

attribute [local instance] Host.bare

/-- A whole number in digits of another script is between one with a sign and a point and one with
an exponent. -/
theorem numeric_criteria_agree_with_exact_order_between :
    Denotes "\u0663" (.ofRat 3) ∧ Denotes " -5.0" (.ofRat (-5)) ∧ Denotes "1e1" (.ofRat 10) ∧
      ∃ above upper : Criterion,
        (∀ (f : Filter) (j : Journal),
          (f.register "age" "GREATER_THAN" (some " -5.0") j).result = .ok (.accept above) ∧
          (f.register "age" "LESS_THAN" (some "1e1") j).result = .ok (.accept upper)) ∧
        (Filter.satisfies ⟨"range", true, true, [("age", [above, upper])], []⟩
          ⟨[("age", some "\u0663")]⟩).result = .ok true := by
  have hvalue : Denotes "\u0663" (.ofRat 3) := by
    have hdigit : ∀ c ∈ ['\u0663'], Text.isDigit c = true :=
      Text.forall_mem_of_all (by decide +kernel)
    refine ⟨.decimal .unmarked ⟨⟨['\u0663'], hdigit⟩, none, .inl (by simp)⟩ none,
      ⟨[], [], rfl, by simp, by simp⟩, ?_⟩
    have hthree : Text.digitValue '\u0663' = 3 := by decide +kernel
    norm_num [Spelling.exactValue, Extended.signed, Mark.negative, Mantissa.exactValue,
      Digits.values, Mantissa.fractionValues, Digits.optionalValues, Exponent.optionalPower, hthree,
      Nat.ofDigits_cons]
  have hlow : Denotes " -5.0" (.ofRat (-5)) := by
    have hdigit : (∀ c ∈ ['5'], Text.isDigit c = true) ∧ ∀ c ∈ ['0'], Text.isDigit c = true :=
      ⟨Text.forall_mem_of_all (by decide +kernel), Text.forall_mem_of_all (by decide +kernel)⟩
    have hblank : ∀ c ∈ [' '], Text.isBlank c = true := Text.forall_mem_of_all (by decide +kernel)
    refine ⟨.decimal .minus ⟨⟨['5'], hdigit.1⟩, some ⟨['0'], hdigit.2⟩, .inl (by simp)⟩ none,
      ⟨[' '], [], rfl, hblank, by simp⟩, ?_⟩
    have hvalues : Text.digitValue '5' = 5 ∧ Text.digitValue '0' = 0 := by decide +kernel
    norm_num [Spelling.exactValue, Extended.signed, Mark.negative, Mantissa.exactValue,
      Digits.values, Mantissa.fractionValues, Digits.optionalValues, Exponent.optionalPower,
      hvalues, Nat.ofDigits_cons]
  have hhigh : Denotes "1e1" (.ofRat 10) := by
    have hdigit : ∀ c ∈ ['1'], Text.isDigit c = true := Text.forall_mem_of_all (by decide +kernel)
    refine ⟨.decimal .unmarked ⟨⟨['1'], hdigit⟩, none, .inl (by simp)⟩
      (some ⟨false, .unmarked, ⟨['1'], hdigit⟩, by simp⟩),
      ⟨[], [], rfl, by simp, by simp⟩, ?_⟩
    have hone : Text.digitValue '1' = 1 := by decide +kernel
    norm_num [Spelling.exactValue, Extended.signed, Mark.negative, Mantissa.exactValue,
      Digits.values, Mantissa.fractionValues, Digits.optionalValues, Exponent.optionalPower,
      Exponent.power, Numeral.ofDigits, hone, Nat.ofDigits_cons]
  obtain ⟨-, hinteger, above, below, swapped, upper, hregister, -, hrange⟩ :=
    numeric_criteria_agree_with_exact_order hvalue hlow hhigh "age"
  refine ⟨hvalue, hlow, hhigh, above, upper,
    fun f j => ⟨(hregister f j).1, (hregister f j).2.2.2⟩, ?_⟩
  rw [hrange (by exact_mod_cast hinteger 3 (by decide))
    (by exact_mod_cast hinteger (-5) (by decide)) (by exact_mod_cast hinteger 10 (by decide))
    _ _ (List.Perm.refl _) rfl]
  norm_num

end Winnow

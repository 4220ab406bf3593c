import Mathlib.Algebra.Order.Field.Basic
import Mathlib.Data.Nat.Digits.Defs
import Mathlib.Order.WithBot
import Mathlib.Tactic.FieldSimp
import Winnow.Proofs.Number.Reading
import Winnow.Proofs.Number.Rounding

set_option autoImplicit false

/-!
# Exact values

A decimal is a rational number, and comparable numbers are those that binary64 has nearest to them.
Exact values, the rational numbers and the two infinities, are a linear order, and rounding keeps
it: what is less after rounding was less before.

## Main definitions

* `Winnow.Extended` — the rational numbers and the two infinities.
* `Winnow.Spelling.exactValue` — the exact value that a spelling writes down.
* `Winnow.Denotes` — a text writes down an exact value.
* `Winnow.Binary64.exactValue?` — the exact value of a number.
* `Winnow.Representable` — a number has the exact value.
* `Winnow.Extended.round` — the exact value of the number nearest to an exact value.

## Main results

* `Winnow.Extended.round_mono` — rounding keeps the order.
* `Winnow.Spelling.exactValue?_value` — the number of a spelling is its exact value rounded.
* `Winnow.Representable.round_eq_self` — representable values are left alone.
* `Winnow.Binary64.lt_iff` — numbers are compared by their exact values.
* `Winnow.representable_intCast` — integers of at most `2 ^ 53` are representable.

## Design

Rounding a rational number is rounding the quotient of its numerator and denominator to units; a
number of units beyond all magnitudes stands for an infinity.
-/

namespace Winnow

/-- The rational numbers and the two infinities. -/
abbrev Extended : Type :=
  WithBot (WithTop ℚ)

/-- A rational number. -/
def Extended.ofRat (q : ℚ) : Extended :=
  ((q : WithTop ℚ) : WithBot (WithTop ℚ))

/-- The infinity with a sign. -/
def Extended.infinity (negative : Bool) : Extended :=
  if negative then ⊥ else ⊤

/-- A non-negative rational number with a sign. -/
def Extended.signed (negative : Bool) (q : ℚ) : Extended :=
  .ofRat (if negative then -q else q)

/-! ## What is written -/

/-- The rational number that digits with a point write down. -/
def Mantissa.exactValue (m : Mantissa) : ℚ :=
  (Nat.ofDigits 10 m.whole.values.reverse : Nat)
    + (Nat.ofDigits 10 m.fractionValues.reverse : Nat) / 10 ^ m.fractionValues.length

/-- The exact value that a spelling writes down. -/
def Spelling.exactValue : Spelling → Extended
  | .decimal mark mantissa exponent? =>
    .signed mark.negative (mantissa.exactValue * 10 ^ Exponent.optionalPower exponent?)
  | .infinity mark => .infinity mark.negative

/-- A text writes down an exact value: it is a spelling of it between blanks. -/
def Denotes (text : String) (q : Extended) : Prop :=
  ∃ w : Spelling, w.Spells text ∧ w.exactValue = q

/-- The number that digits stand for. -/
theorem Numeral.ofDigits_eq (ds : List Nat) : Numeral.ofDigits ds = Nat.ofDigits 10 ds.reverse := by
  have hfold : ∀ (ds : List Nat) (n : Nat),
      ds.foldl (fun n d => 10 * n + d) n = Nat.ofDigits 10 (ds.reverse) + n * 10 ^ ds.length := by
    intro ds
    induction ds with
    | nil => intro n; simp
    | cons d ds ih =>
      intro n
      rw [List.foldl_cons, ih, List.reverse_cons, Nat.ofDigits_append, Nat.ofDigits_singleton,
        List.length_reverse, List.length_cons]
      ring
  rw [Numeral.ofDigits, hfold, Nat.zero_mul, Nat.add_zero]

/-- Digits with a point, as a natural number over a power of ten. -/
theorem Mantissa.exactValue_eq (m : Mantissa) :
    m.exactValue = (Numeral.ofDigits (m.whole.values ++ m.fractionValues) : ℚ)
      / 10 ^ m.fractionValues.length := by
  rw [exactValue, Numeral.ofDigits_eq, List.reverse_append, Nat.ofDigits_append,
    List.length_reverse]
  push_cast
  field_simp
  ring

/-- The exact value that a numeral stands for, if it stands for any. -/
def Numeral.exactValue? : Numeral → Option Extended
  | .decimal negative coefficient scale => some (.signed negative (coefficient * 10 ^ scale))
  | .infinity negative => some (.infinity negative)
  | .nan => none

/-- A decimal without its sign is not negative. -/
theorem decimal_nonneg (coefficient : Nat) (scale : Int) : (0 : ℚ) ≤ coefficient * 10 ^ scale :=
  mul_nonneg (Nat.cast_nonneg _) (zpow_nonneg (by norm_num) _)

/-- Zeros at the end of a coefficient count like a larger scale. -/
theorem decimal_scale_add (coefficient zeros : Nat) (scale : Int) :
    (coefficient * 10 ^ (scale + zeros) : ℚ) = (coefficient * 10 ^ zeros : Nat) * 10 ^ scale := by
  rw [zpow_add₀ (by norm_num), zpow_natCast]
  push_cast
  ring

/-- A spelling writes down what its numeral stands for. -/
theorem Spelling.exactValue?_numeral (w : Spelling) :
    w.numeral.exactValue? = some w.exactValue := by
  cases w with
  | infinity mark => rfl
  | decimal mark mantissa exponent? =>
    have hscale : (10 : ℚ) ^ (Exponent.optionalPower exponent? - mantissa.fractionValues.length) =
        10 ^ Exponent.optionalPower exponent? / 10 ^ mantissa.fractionValues.length := by
      rw [zpow_sub₀ (by norm_num), zpow_natCast]
    rw [numeral, Numeral.exactValue?, exactValue, hscale, Mantissa.exactValue_eq, mul_div_assoc',
      div_mul_eq_mul_div]

/-- A text writes down one exact value at most. -/
theorem Denotes.unique {text : String} {p q : Extended} (hp : Denotes text p)
    (hq : Denotes text q) : p = q := by
  obtain ⟨w, hw, rfl⟩ := hp
  obtain ⟨v, hv, rfl⟩ := hq
  have hread : some w.numeral = some v.numeral := by
    rw [← Numeral.read?_text, ← Numeral.read?_text, ← hw.trimChars_eq, ← hv.trimChars_eq]
  have hexact := congrArg (fun n => n.bind Numeral.exactValue?) hread
  simpa [Spelling.exactValue?_numeral] using hexact

/-! ## Exact values in units -/

namespace Magnitude

/-- The units that a rational number is rounded to, regardless of its sign. -/
def unitsOf (q : ℚ) : Nat :=
  roundedUnits (q.num.natAbs * unitsOfOne) q.den

/-- A rational number, regardless of its sign, as a quotient. -/
theorem abs_eq_div (q : ℚ) : |q| = (q.num.natAbs : ℚ) / q.den := by
  rw [Rat.abs_def, Rat.divInt_eq_div, Int.cast_natCast, Int.cast_natCast]

/-- The units that a quotient is rounded to do not depend on its form. -/
theorem unitsOf_eq {q : ℚ} {n d : Nat} (hd : 0 < d) (h : |q| = n / d) :
    unitsOf q = roundedUnits (n * unitsOfOne) d := by
  refine roundedUnits_congr q.den_pos hd ?_
  have hq : (q.den : ℚ) ≠ 0 := by exact_mod_cast q.den_nz
  have hd' : (d : ℚ) ≠ 0 := by exact_mod_cast hd.ne'
  rw [abs_eq_div, div_eq_div_iff hq hd'] at h
  have hcross : q.num.natAbs * d = n * q.den := by exact_mod_cast h
  calc q.num.natAbs * unitsOfOne * d = q.num.natAbs * d * unitsOfOne := by ring
    _ = n * unitsOfOne * q.den := by rw [hcross]; ring

/-- Rounding to units keeps the order. -/
theorem unitsOf_mono {p q : ℚ} (h : |p| ≤ |q|) : unitsOf p ≤ unitsOf q := by
  refine roundedUnits_mono p.den_pos q.den_pos ?_
  have hp : (0 : ℚ) < p.den := by exact_mod_cast p.den_pos
  have hq : (0 : ℚ) < q.den := by exact_mod_cast q.den_pos
  rw [abs_eq_div, abs_eq_div, div_le_div_iff₀ hp hq] at h
  have hcross : p.num.natAbs * q.den ≤ q.num.natAbs * p.den := by exact_mod_cast h
  calc p.num.natAbs * unitsOfOne * q.den = p.num.natAbs * q.den * unitsOfOne := by ring
    _ ≤ q.num.natAbs * p.den * unitsOfOne := Nat.mul_le_mul_right _ hcross
    _ = q.num.natAbs * unitsOfOne * p.den := by ring

/-- Nothing is rounded to no units. -/
@[simp] theorem unitsOf_zero : unitsOf 0 = 0 :=
  roundedUnits_eq_zero (by simp)

/-- The units of a magnitude are rounded to themselves. -/
theorem unitsOf_units (m : Magnitude) {q : ℚ} (h : |q| = m.units / unitsOfOne) :
    unitsOf q = m.units := by
  rw [unitsOf_eq unitsOfOne_pos h, roundedUnits_units m unitsOfOne_pos]

/-- A decimal is rounded to the units nearest to its exact value, if these are in range. -/
theorem ofDecimal?_units (coefficient : Nat) (scale : Int) :
    match ofDecimal? coefficient scale with
    | some m => m.units = unitsOf (coefficient * 10 ^ scale)
    | none => rangeEnd ≤ unitsOf (coefficient * 10 ^ scale) := by
  -- the decimal as the quotient of natural numbers that is rounded
  have hquotient : |(coefficient : ℚ) * 10 ^ scale| =
      ((coefficient * 10 ^ scale.toNat : Nat) : ℚ) / (10 ^ (-scale).toNat : Nat) := by
    have hscale : (scale.toNat : ℤ) - (-scale).toNat = scale := by omega
    have hpow : (10 : ℚ) ^ scale = 10 ^ scale.toNat / 10 ^ (-scale).toNat := by
      rw [← zpow_natCast, ← zpow_natCast, ← zpow_sub₀ (by norm_num), hscale]
    rw [abs_of_nonneg (decimal_nonneg coefficient scale), hpow]
    push_cast
    ring
  have hrounds := rounds_ofDecimal? coefficient scale
  rw [unitsOf_eq (Nat.pow_pos (by decide)) hquotient]
  cases hm : ofDecimal? coefficient scale <;> rw [hm] at hrounds <;> exact hrounds

end Magnitude

namespace Extended

open Magnitude (unitsOfOne rangeEnd unitsOf)

/-- The exact value of a signed number of units. What is beyond all magnitudes is infinite. -/
def ofUnits (z : ℤ) : Extended :=
  if (rangeEnd : ℤ) ≤ z then ⊤ else if z ≤ -(rangeEnd : ℤ) then ⊥ else ofRat (z / unitsOfOne)

/-- The signed units that a rational number is rounded to. -/
def signedUnitsOf (q : ℚ) : ℤ :=
  if q < 0 then -(unitsOf q : ℤ) else unitsOf q

/-- The exact value of the number nearest to an exact value. -/
def round : Extended → Extended
  | ⊥ => ⊥
  | (⊤ : WithTop ℚ) => ⊤
  | ((q : ℚ) : WithTop ℚ) => ofUnits (signedUnitsOf q)

@[simp] theorem ofRat_le_ofRat {p q : ℚ} : ofRat p ≤ ofRat q ↔ p ≤ q := by
  simp [ofRat]

@[simp] theorem ofRat_lt_ofRat {p q : ℚ} : ofRat p < ofRat q ↔ p < q := by
  simp [ofRat]

@[simp] theorem ofRat_lt_top (q : ℚ) : ofRat q < ⊤ :=
  WithBot.coe_lt_coe.mpr (WithTop.coe_lt_top q)

@[simp] theorem bot_lt_ofRat (q : ℚ) : ⊥ < ofRat q :=
  WithBot.bot_lt_coe _

/-- More units stand for no less. -/
theorem ofUnits_mono {y z : ℤ} (h : y ≤ z) : ofUnits y ≤ ofUnits z := by
  have hpos : (0 : ℚ) < unitsOfOne := by exact_mod_cast Magnitude.unitsOfOne_pos
  have hle : (y : ℚ) / unitsOfOne ≤ z / unitsOfOne :=
    div_le_div_of_nonneg_right (by exact_mod_cast h) hpos.le
  unfold ofUnits
  split_ifs <;> first | exact le_top | exact bot_le | exact ofRat_le_ofRat.mpr hle | omega

/-- Rounding to signed units keeps the order. -/
theorem signedUnitsOf_mono {p q : ℚ} (h : p ≤ q) : signedUnitsOf p ≤ signedUnitsOf q := by
  unfold signedUnitsOf
  split_ifs with hp hq hq
  · have habs : |q| ≤ |p| := by
      rw [abs_of_neg hp, abs_of_neg hq]
      linarith
    have := Magnitude.unitsOf_mono habs
    omega
  · omega
  · exact absurd (lt_of_le_of_lt h hq) hp
  · have habs : |p| ≤ |q| := by
      rw [abs_of_nonneg (le_of_not_gt hp), abs_of_nonneg (le_of_not_gt hq)]
      exact h
    exact_mod_cast Magnitude.unitsOf_mono habs

/-- **Rounding keeps the order of exact values.** -/
theorem round_mono {p q : Extended} (h : p ≤ q) : round p ≤ round q := by
  match p, q with
  | ⊥, _ => exact bot_le
  | _, (⊤ : WithTop ℚ) => exact le_top
  | (p : WithTop ℚ), ⊥ => simp at h
  | (⊤ : WithTop ℚ), ((q : ℚ) : WithTop ℚ) => simp at h
  | ((p : ℚ) : WithTop ℚ), ((q : ℚ) : WithTop ℚ) =>
    exact ofUnits_mono (signedUnitsOf_mono (ofRat_le_ofRat.mp h))

/-- The number nearest to a rational number with a sign has the units nearest to that number, with
that sign. -/
theorem round_signed (negative : Bool) {q : ℚ} (hq : 0 ≤ q) :
    (signed negative q).round =
      ofUnits (if negative then -(unitsOf q : ℤ) else unitsOf q) := by
  have hunits : signedUnitsOf (if negative then -q else q) =
      if negative then -(unitsOf q : ℤ) else unitsOf q := by
    cases negative with
    | false => simp [signedUnitsOf, hq]
    | true =>
      have habs : unitsOf (-q) = unitsOf q :=
        Nat.le_antisymm (Magnitude.unitsOf_mono (abs_neg q).le)
          (Magnitude.unitsOf_mono (abs_neg q).ge)
      obtain rfl | hpos := hq.eq_or_lt
      · simp [signedUnitsOf]
      · simp [signedUnitsOf, habs, hpos]
  exact congrArg ofUnits hunits

end Extended

/-! ## Exact values of numbers -/

namespace Binary64

open Magnitude (unitsOfOne rangeEnd)

/-- The exact value of a number, if it is one. -/
def exactValue? : Binary64 → Option Extended
  | nan => none
  | infinite negative => some (.infinity negative)
  | finite negative m => some (.ofRat (signedUnits negative m / unitsOfOne))

/-- A number is less than another one exactly if its exact value is. -/
theorem lt_iff {x y : Binary64} {p q : Extended} (hx : x.exactValue? = some p)
    (hy : y.exactValue? = some q) : x.lt y = true ↔ p < q := by
  have hpos : (0 : ℚ) < unitsOfOne := by exact_mod_cast Magnitude.unitsOfOne_pos
  cases x with
  | nan => cases hx
  | infinite s =>
    cases hx
    cases y with
    | nan => cases hy
    | infinite t => cases hy; cases s <;> cases t <;> simp [lt, Extended.infinity]
    | finite t n => cases hy; cases s <;> simp [lt, Extended.infinity]
  | finite s m =>
    cases hx
    cases y with
    | nan => cases hy
    | infinite t => cases hy; cases t <;> simp [lt, Extended.infinity]
    | finite t n =>
      cases hy
      rw [Extended.ofRat_lt_ofRat, div_lt_div_iff_of_pos_right hpos, Int.cast_lt, lt,
        decide_eq_true_eq]

/-- Signed units are some rational number's, up to its sign. -/
theorem exactValue?_finite (negative : Bool) (m : Magnitude) :
    (finite negative m).exactValue? =
      some (.ofUnits (if negative then -(m.units : ℤ) else m.units)) := by
  have hlt : (m.units : ℤ) < rangeEnd := by exact_mod_cast m.units_lt
  rw [exactValue?, Extended.ofUnits, if_neg (by split <;> omega), if_neg (by split <;> omega)]
  rfl

/-- **The number nearest to a decimal is its exact value rounded.** -/
theorem exactValue?_ofDecimal (negative : Bool) (coefficient : Nat) (scale : Int) :
    (ofDecimal negative coefficient scale).exactValue? =
      some (Extended.signed negative (coefficient * 10 ^ scale)).round := by
  have hnonneg := decimal_nonneg coefficient scale
  have hunits := Magnitude.ofDecimal?_units coefficient scale
  rw [Extended.round_signed negative hnonneg, ofDecimal]
  cases hm : Magnitude.ofDecimal? coefficient scale with
  | some m =>
    rw [hm] at hunits
    dsimp only at hunits ⊢
    rw [exactValue?_finite, hunits]
  | none =>
    rw [hm] at hunits
    have hbeyond : (rangeEnd : ℤ) ≤ Magnitude.unitsOf (coefficient * 10 ^ scale) := by
      exact_mod_cast hunits
    have hpos : (0 : ℤ) < rangeEnd := by decide +kernel
    cases negative with
    | false => simp [exactValue?, Extended.infinity, Extended.ofUnits, hbeyond]
    | true =>
      rw [Extended.ofUnits, if_neg (by simp; omega), if_pos (by simpa using hbeyond)]
      rfl

end Binary64

/-- The number of a spelling is its exact value rounded. -/
theorem Spelling.exactValue?_value (w : Spelling) :
    w.numeral.value.exactValue? = some w.exactValue.round := by
  have hnumeral := w.exactValue?_numeral
  cases hn : w.numeral with
  | nan => rw [hn] at hnumeral; cases hnumeral
  | infinity negative =>
    rw [hn] at hnumeral
    rw [← Option.some.inj hnumeral]
    cases negative <;> rfl
  | decimal negative coefficient scale =>
    rw [hn] at hnumeral
    rw [← Option.some.inj hnumeral]
    exact Binary64.exactValue?_ofDecimal negative coefficient scale

/-! ## Representable values -/

/-- An exact value is that of a number. -/
def Representable (q : Extended) : Prop :=
  ∃ x : Binary64, x.exactValue? = some q

/-- Rounding leaves alone what needs none. -/
theorem Representable.round_eq_self {q : Extended} (h : Representable q) : q.round = q := by
  obtain ⟨x, hx⟩ := h
  cases x with
  | nan => cases hx
  | infinite negative =>
    rw [← Option.some.inj hx]
    cases negative <;> rfl
  | finite negative m =>
    have hnonneg : (0 : ℚ) ≤ m.units / Magnitude.unitsOfOne := by positivity
    have hsigned : q = .signed negative (m.units / Magnitude.unitsOfOne) := by
      rw [← Option.some.inj hx, Extended.signed, Binary64.signedUnits]
      cases negative <;> simp [neg_div]
    have hround : q.round = .ofUnits (if negative then -(m.units : ℤ) else m.units) := by
      rw [hsigned, Extended.round_signed negative hnonneg, m.unitsOf_units (abs_of_nonneg hnonneg)]
    rw [hround]
    exact Option.some.inj ((Binary64.exactValue?_finite negative m).symm.trans hx)

/-- There is a magnitude for each canonical significand and exponent. -/
theorem Magnitude.exists_units {s e : Nat} (hs : s < 2 ^ 53) (hnormal : 2 ^ 52 ≤ s ∨ e = 0)
    (he : e ≤ 2045) : ∃ m : Magnitude, m.units = s * 2 ^ e :=
  ⟨⟨s, e, hs, hnormal, he⟩, rfl⟩

/-- A natural number of at most `2 ^ 53` is a magnitude.

**Proof sketch.** Below `2 ^ 53` its binary digits are moved up until the top bit of the significand
is set; `2 ^ 53` itself has one bit too many and is moved down by one. -/
theorem Magnitude.exists_units_eq_mul {k : Nat} (hk : k ≤ 2 ^ 53) :
    ∃ m : Magnitude, m.units = k * unitsOfOne := by
  obtain rfl | hpos := Nat.eq_zero_or_pos k
  · exact ⟨zero, by rw [Nat.zero_mul]; rfl⟩
  obtain rfl | hlt := hk.eq_or_lt
  · obtain ⟨m, hm⟩ :=
      exists_units (s := 2 ^ 52) (e := 1074 + 1) (by decide) (.inl le_rfl) (by decide)
    exact ⟨m, by rw [hm, ← carry, unitsOfOne_eq]⟩
  · have hlog : k.log2 ≤ 52 := by
      have := (Nat.log2_lt hpos.ne').mpr hlt
      omega
    have hlower : 2 ^ k.log2 ≤ k := Nat.log2_self_le hpos.ne'
    have hupper : k < 2 ^ (k.log2 + 1) := Nat.lt_log2_self
    generalize k.log2 = l at *
    have hbits : k * 2 ^ (52 - l) < 2 ^ 53 := by
      calc k * 2 ^ (52 - l) < 2 ^ (l + 1) * 2 ^ (52 - l) :=
            Nat.mul_lt_mul_of_pos_right hupper (Nat.two_pow_pos _)
        _ = 2 ^ 53 := by rw [← pow_add, show l + 1 + (52 - l) = 53 by omega]
    have htop : 2 ^ 52 ≤ k * 2 ^ (52 - l) := by
      calc 2 ^ 52 = 2 ^ l * 2 ^ (52 - l) := by rw [← pow_add, show l + (52 - l) = 52 by omega]
        _ ≤ k * 2 ^ (52 - l) := Nat.mul_le_mul_right _ hlower
    obtain ⟨m, hm⟩ := exists_units (e := 1022 + l) hbits (.inl htop) (by omega)
    refine ⟨m, ?_⟩
    rw [hm, Nat.mul_assoc, ← pow_add, show 52 - l + (1022 + l) = 1074 by omega, unitsOfOne_eq]

/-- Integers of at most `2 ^ 53` are representable. -/
theorem representable_intCast {n : ℤ} (hn : |n| ≤ 2 ^ 53) : Representable (.ofRat n) := by
  have hle : n.natAbs ≤ 2 ^ 53 := by
    have := abs_le.mp hn
    omega
  obtain ⟨m, hm⟩ := Magnitude.exists_units_eq_mul hle
  have hunits : Binary64.signedUnits (n < 0) m = n * Magnitude.unitsOfOne := by
    rw [Binary64.signedUnits, hm]
    push_cast
    split_ifs with hneg
    · rw [abs_of_neg (by simpa using hneg), neg_mul, neg_neg]
    · rw [abs_of_nonneg (by simpa using hneg)]
  refine ⟨.finite (n < 0) m, ?_⟩
  have hne : (Magnitude.unitsOfOne : ℚ) ≠ 0 := by exact_mod_cast Magnitude.unitsOfOne_pos.ne'
  rw [Binary64.exactValue?, hunits]
  push_cast
  rw [mul_div_cancel_right₀ _ hne]

end Winnow

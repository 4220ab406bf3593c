import Mathlib.Tactic.Linarith
import Winnow.Proofs.Number.Exact

set_option autoImplicit false

/-!
# Correct rounding

The number that a text stands for is the nearest one to what the text writes down, a tie going to
the even significand. What is beyond the largest number by half a step of its grid or more is
infinite, and a result of zero has the sign that is written.

## Main definitions

* `Winnow.Magnitude.IsCanonical` — numbers of units of at most 53 bits, up to a power of two.
* `Winnow.Magnitude.value`, `Winnow.Magnitude.signedValue` — magnitudes as rational numbers.
* `Winnow.Magnitude.IsNearest` — a signed magnitude is a rational number correctly rounded.
* `Winnow.Spelling.isNegative` — the sign that is written.

## Main results

* `Winnow.Magnitude.roundedUnits_nearest` — rounding on the grid of a quotient is rounding to the
  nearest of all numbers of units in canonical form.
* `Winnow.Magnitude.rangeEnd_le_roundedUnits_iff` — what is rounded out of range.
* `Winnow.comparable_correctly_rounded` — comparable texts are correctly rounded.

## Design

The magnitudes are only those numbers of units in canonical form that are in range. Nearness is
proved for all numbers of units in canonical form, with no bound on the exponent, so that the end of
the range is a matter of its own.
-/

namespace Winnow

/-! ## Rounding to integers -/

/-- No integer is nearer to a quotient than the one that it is rounded to, and that one is even if
another one is as near. -/
theorem roundDiv_nearest (n k : Nat) {d : Nat} (hd : 0 < d) :
    |(n : ℤ) - (roundDiv n d * d : Nat)| ≤ |(n : ℤ) - (k * d : Nat)| ∧
      (k ≠ roundDiv n d → |(n : ℤ) - (k * d : Nat)| = |(n : ℤ) - (roundDiv n d * d : Nat)| →
        roundDiv n d % 2 = 0) := by
  obtain ⟨hup, hdown, heven⟩ := roundDiv_spec n hd
  generalize roundDiv n d = r at *
  simp only [Int.abs_eq_natAbs]
  rcases lt_trichotomy k r with hlt | rfl | hlt
  · have hstep : k * d + d ≤ r * d := by
      rw [← Nat.succ_mul]
      exact Nat.mul_le_mul_right d hlt
    omega
  · simp
  · have hstep : r * d + d ≤ k * d := by
      rw [← Nat.succ_mul]
      exact Nat.mul_le_mul_right d hlt
    omega

/-! ## Canonical numbers of units -/

namespace Magnitude

variable {n d u : Nat}

/-- A number of at most 53 bits, up to a power of two. In range, these are the units of
magnitudes. -/
def IsCanonical (u : Nat) : Prop :=
  ∃ s e, s < 2 ^ 53 ∧ (2 ^ 52 ≤ s ∨ e = 0) ∧ u = s * 2 ^ e

/-- The units of a magnitude are in canonical form. -/
theorem isCanonical_units (m : Magnitude) : IsCanonical m.units :=
  ⟨m.significand, m.exponent, m.significand_lt, m.normal, rfl⟩

/-- What a quotient is rounded to is in canonical form, `2 ^ 53` steps of a grid being half as many
steps of the next one. -/
theorem isCanonical_roundedUnits (hd : 0 < d) : IsCanonical (roundedUnits n d) := by
  obtain ⟨hle, hnormal⟩ := roundDiv_grid (n := n) hd
  unfold roundedUnits
  generalize gridExponent n d = g at *
  by_cases hcarry : roundDiv n (d * 2 ^ g) = 2 ^ 53
  · exact ⟨2 ^ 52, g + 1, by decide, .inl le_rfl, by rw [hcarry, carry]⟩
  · exact ⟨roundDiv n (d * 2 ^ g), g, by omega, hnormal.symm, rfl⟩

/-- A number in canonical form is a point of a given grid, or below the numbers of 53 bits on it. -/
theorem IsCanonical.grid_cases (hu : IsCanonical u) (g : Nat) :
    (∃ k, u = k * 2 ^ g) ∨ g ≠ 0 ∧ u < 2 ^ 52 * 2 ^ g := by
  obtain ⟨s, e, hs, -, rfl⟩ := hu
  rcases Nat.lt_or_ge e g with hlt | hle
  · refine .inr ⟨by omega, ?_⟩
    calc s * 2 ^ e < 2 ^ 53 * 2 ^ e := Nat.mul_lt_mul_of_pos_right hs (Nat.two_pow_pos e)
      _ = 2 ^ 52 * 2 ^ (e + 1) := carry e
      _ ≤ 2 ^ 52 * 2 ^ g := Nat.mul_le_mul_left _ (Nat.pow_le_pow_right (by decide) hlt)
  · refine .inl ⟨s * 2 ^ (e - g), ?_⟩
    rw [Nat.mul_assoc, pow_sub_mul_pow 2 hle]

/-- **Rounding a quotient on its own grid gives the nearest of all numbers in canonical form**, and
an even number of steps of the grid if another one is as near.

**Proof sketch.** Among the points of the grid this is rounding to integers. All others are below
`2 ^ 52` steps of the grid, and the quotient is not, so that point is nearer. -/
theorem roundedUnits_nearest (hd : 0 < d) (hu : IsCanonical u) :
    |(n : ℤ) - (roundedUnits n d * d : Nat)| ≤ |(n : ℤ) - (u * d : Nat)| ∧
      (u ≠ roundedUnits n d →
        |(n : ℤ) - (u * d : Nat)| = |(n : ℤ) - (roundedUnits n d * d : Nat)| →
        roundDiv n (d * 2 ^ gridExponent n d) % 2 = 0) := by
  have hgrid : 0 < d * 2 ^ gridExponent n d := Nat.mul_pos hd (Nat.two_pow_pos _)
  obtain ⟨-, htop⟩ := gridExponent_spec (n := n) hd
  have hnearest := fun k => roundDiv_nearest n k hgrid
  have hcases := hu.grid_cases (gridExponent n d)
  unfold roundedUnits
  generalize gridExponent n d = g at *
  generalize roundDiv n (d * 2 ^ g) = r at *
  have hpoint : ∀ k, k * 2 ^ g * d = k * (d * 2 ^ g) := fun k => by ring
  rcases hcases with ⟨k, rfl⟩ | ⟨hg, hbelow⟩
  · rw [hpoint, hpoint]
    obtain ⟨hnear, htie⟩ := hnearest k
    refine ⟨hnear, fun hne => htie fun heq => hne ?_⟩
    rw [heq]
  · have htop := htop.resolve_left hg
    have hbelow := Nat.mul_lt_mul_of_pos_right hbelow hd
    have hnear := (hnearest (2 ^ 52)).1
    rw [hpoint] at hbelow ⊢
    simp only [Int.abs_eq_natAbs] at hnear ⊢
    generalize u * d = below at *
    generalize r * (d * 2 ^ g) = point at *
    generalize d * 2 ^ g = step at *
    omega

/-- A magnitude that is an even number of steps of the grid has an even significand.

**Proof sketch.** On the grid or on a finer one, the significand is a multiple of the number of
steps. On a coarser one, the number of steps is `2 ^ 53`. -/
theorem even_significand (m : Magnitude) (hd : 0 < d) (hm : m.units = roundedUnits n d)
    (heven : roundDiv n (d * 2 ^ gridExponent n d) % 2 = 0) : m.significand % 2 = 0 := by
  obtain ⟨hle, -⟩ := roundDiv_grid (n := n) hd
  have hm : m.significand * 2 ^ m.exponent =
      roundDiv n (d * 2 ^ gridExponent n d) * 2 ^ gridExponent n d := hm
  have hnormal := m.normal
  generalize gridExponent n d = g at *
  generalize roundDiv n (d * 2 ^ g) = r at *
  generalize m.significand = s at *
  generalize m.exponent = e at *
  rcases Nat.lt_or_ge g e with hcoarse | hfine
  · have hsteps : s * 2 ^ (e - g) = r := by
      refine Nat.eq_of_mul_eq_mul_right (Nat.two_pow_pos g) ?_
      rw [← hm, Nat.mul_assoc, pow_sub_mul_pow 2 hcoarse.le]
    have hdouble : s * 2 ≤ r := by
      rw [← hsteps]
      exact Nat.mul_le_mul_left s (Nat.le_self_pow (by omega) 2)
    have hs : 2 ^ 52 ≤ s := hnormal.resolve_right (by omega)
    omega
  · have hmultiple : s = r * 2 ^ (g - e) := by
      refine Nat.eq_of_mul_eq_mul_right (Nat.two_pow_pos e) ?_
      rw [hm, Nat.mul_assoc, pow_sub_mul_pow 2 hfine]
    rw [hmultiple, Nat.mul_mod, heven, Nat.zero_mul, Nat.zero_mod]

/-! ## The end of the range -/

/-- **A quotient is rounded out of range exactly if it is beyond the largest magnitude by half a
step of its grid or more.** The tie is rounded out of range as the largest significand is odd.

**Proof sketch.** On finer grids than that of the largest magnitudes a quotient is too small for
either, and on coarser ones it is large enough for both. On that grid it is rounded to `2 ^ 53`
steps or less. -/
theorem rangeEnd_le_roundedUnits_iff (hd : 0 < d) :
    rangeEnd ≤ roundedUnits n d ↔ (2 ^ 54 - 1) * (d * 2 ^ 2044) ≤ n := by
  have hgrid : 0 < d * 2 ^ gridExponent n d := Nat.mul_pos hd (Nat.two_pow_pos _)
  have hhalf : 0 < d * 2 ^ 2044 := Nat.mul_pos hd (pow_pos two_pos _)
  obtain ⟨hbelow, htop⟩ := gridExponent_spec (n := n) hd
  obtain ⟨hle, hnormal⟩ := roundDiv_grid (n := n) hd
  obtain ⟨hup, hdown, heven⟩ := roundDiv_spec n hgrid
  have hstep : ∀ {e f}, f = e + 1 → d * 2 ^ f = 2 * (d * 2 ^ e) := by
    rintro e f rfl
    ring
  have hmono : ∀ {e f}, e ≤ f → d * 2 ^ e ≤ d * 2 ^ f := fun h =>
    Nat.mul_le_mul_left d (Nat.pow_le_pow_right (by decide) h)
  have hrange : rangeEnd ≤ roundedUnits n d ↔
      2 ^ 54 * (d * 2 ^ 2044) ≤
        roundDiv n (d * 2 ^ gridExponent n d) * (d * 2 ^ gridExponent n d) := by
    have hend : rangeEnd * d = 2 ^ 54 * (d * 2 ^ 2044) := by
      rw [rangeEnd_eq, carry, show 2045 + 1 = 2044 + 2 from rfl]
      generalize 2044 = e
      ring
    rw [← Nat.mul_le_mul_right_iff hd, hend, roundedUnits, Nat.mul_assoc,
      Nat.mul_comm (2 ^ gridExponent n d) d]
  rw [hrange]
  generalize gridExponent n d = g at *
  generalize roundDiv n (d * 2 ^ g) = r at *
  rcases lt_trichotomy g 2045 with hfine | rfl | hcoarse
  · have hsmall : d * 2 ^ g ≤ d * 2 ^ 2044 := hmono (by omega)
    have hrounded : r * (d * 2 ^ g) ≤ 2 ^ 53 * (d * 2 ^ 2044) := Nat.mul_le_mul hle hsmall
    generalize d * 2 ^ g = step at *
    generalize d * 2 ^ 2044 = half at *
    omega
  · rw [hstep (rfl : 2045 = 2044 + 1)] at *
    generalize d * 2 ^ 2044 = half at *
    have hdouble : r * (2 * half) = 2 * (r * half) := Nat.mul_left_comm r 2 half
    rcases (by omega : r = 2 ^ 53 ∨ r + 1 = 2 ^ 53 ∨ r + 2 ≤ 2 ^ 53) with rfl | hr | hr
    · omega
    · have hsum : r * half + half = 2 ^ 53 * half := by rw [← hr, Nat.add_mul, Nat.one_mul]
      omega
    · have hsum : r * half + 2 * half ≤ 2 ^ 53 * half := by
        rw [← Nat.add_mul]
        exact Nat.mul_le_mul_right half hr
      omega
  · have htop := htop.resolve_left (by omega)
    have hlarge : d * 2 ^ 2046 ≤ d * 2 ^ g := hmono hcoarse
    have hrounded : 2 ^ 52 * (d * 2 ^ g) ≤ r * (d * 2 ^ g) :=
      Nat.mul_le_mul_right _ (hnormal.resolve_left (by omega))
    rw [hstep (rfl : 2046 = 2045 + 1), hstep (rfl : 2045 = 2044 + 1)] at hlarge
    generalize d * 2 ^ g = step at *
    generalize d * 2 ^ 2044 = half at *
    omega

/-- A rational number is rounded out of range exactly if it is at least `2 ^ 1024 - 2 ^ 970`, half
way from the largest magnitude to the next number in canonical form. -/
theorem rangeEnd_le_unitsOf_iff (q : ℚ) :
    rangeEnd ≤ unitsOf q ↔ 2 ^ 1024 - 2 ^ 970 ≤ |q| := by
  have hden : (0 : ℚ) < q.den := by exact_mod_cast q.den_pos
  have hbound : (2 : ℚ) ^ 1024 - 2 ^ 970 = ((2 ^ 54 - 1) * 2 ^ 970 : Nat) := by
    have hpow : ∀ {e f}, f = e + 54 → (2 : ℚ) ^ f - 2 ^ e = ((2 ^ 54 - 1) * 2 ^ e : Nat) := by
      rintro e f rfl
      push_cast
      ring
    exact hpow rfl
  have hsplit : (2 : Nat) ^ 2044 = 2 ^ 970 * unitsOfOne := by
    rw [unitsOfOne_eq, ← pow_add]
  have hunits : (2 ^ 54 - 1) * (q.den * 2 ^ 2044) =
      (2 ^ 54 - 1) * 2 ^ 970 * q.den * unitsOfOne := by
    rw [hsplit]
    generalize (2 : Nat) ^ 970 = half
    ring
  rw [unitsOf, rangeEnd_le_roundedUnits_iff q.den_pos, hunits,
    Nat.mul_le_mul_right_iff unitsOfOne_pos, hbound, abs_eq_div, le_div_iff₀ hden]
  exact_mod_cast Iff.rfl

/-! ## Magnitudes as rational numbers -/

/-- The value of a magnitude. -/
def value (m : Magnitude) : ℚ :=
  m.units / unitsOfOne

/-- The value of a magnitude with a sign. -/
def signedValue (negative : Bool) (m : Magnitude) : ℚ :=
  Binary64.signedUnits negative m / unitsOfOne

/-- A signed magnitude is a finite number nearest to a rational number, and its significand is even
if another one is as near. -/
structure IsNearest (q : ℚ) (negative : Bool) (m : Magnitude) : Prop where
  nearest : ∀ sign n, |q - signedValue negative m| ≤ |q - signedValue sign n|
  even : ∀ sign n, signedValue sign n ≠ signedValue negative m →
    |q - signedValue sign n| = |q - signedValue negative m| → m.significand % 2 = 0

theorem value_nonneg (m : Magnitude) : 0 ≤ m.value :=
  div_nonneg (Nat.cast_nonneg _) (Nat.cast_nonneg _)

/-- A signed magnitude has the value of the magnitude with that sign. -/
theorem signedValue_eq (negative : Bool) (m : Magnitude) :
    signedValue negative m = if negative then -m.value else m.value := by
  cases negative <;> simp [signedValue, Binary64.signedUnits, value, neg_div]

/-- How far a rational number, regardless of its sign, is from a number of units. -/
theorem distance_eq (q : ℚ) (u : Nat) :
    |(|q| - u / unitsOfOne)| =
      (|((q.num.natAbs * unitsOfOne : Nat) : ℤ) - (u * q.den : Nat)| : ℤ) /
        (q.den * unitsOfOne : ℚ) := by
  have hden : (0 : ℚ) < q.den := by exact_mod_cast q.den_pos
  have hone : (0 : ℚ) < unitsOfOne := by exact_mod_cast unitsOfOne_pos
  have hsub : |q| - u / unitsOfOne =
      ((q.num.natAbs * unitsOfOne : Nat) - (u * q.den : Nat)) / (q.den * unitsOfOne : ℚ) := by
    rw [abs_eq_div]
    push_cast
    field_simp
  rw [hsub, abs_div, abs_of_pos (mul_pos hden hone), Int.cast_abs, Int.cast_sub, Int.cast_natCast,
    Int.cast_natCast]

/-- No number in canonical form is nearer to a rational number than the units that it is rounded
to. -/
theorem unitsOf_nearest (q : ℚ) {u : Nat} (hu : IsCanonical u) :
    |(|q| - unitsOf q / unitsOfOne)| ≤ |(|q| - u / unitsOfOne)| := by
  have hpos : (0 : ℚ) ≤ q.den * unitsOfOne := by positivity
  rw [distance_eq, distance_eq]
  refine div_le_div_of_nonneg_right ?_ hpos
  exact_mod_cast (roundedUnits_nearest q.den_pos hu).1

/-- A magnitude that a rational number is rounded to has an even significand, if another one is as
near. -/
theorem even_of_tie {q : ℚ} {m n : Magnitude} (hm : m.units = unitsOf q) (hne : n.value ≠ m.value)
    (htie : |(|q| - n.value)| = |(|q| - m.value)|) : m.significand % 2 = 0 := by
  have hpos : (q.den * unitsOfOne : ℚ) ≠ 0 := by
    exact_mod_cast (Nat.mul_pos q.den_pos unitsOfOne_pos).ne'
  refine m.even_significand q.den_pos hm ((roundedUnits_nearest q.den_pos n.isCanonical_units).2
    (fun heq => hne ?_) ?_)
  · rw [value, heq, ← unitsOf, ← hm, value]
  · rw [value, value, distance_eq, distance_eq, div_left_inj' hpos, hm] at htie
    exact_mod_cast htie

/-- How far a rational number with a sign is from a signed magnitude. -/
theorem abs_sub_signedValue {p : ℚ} (hp : 0 ≤ p) (negative sign : Bool) (n : Magnitude) :
    |(if negative then -p else p) - signedValue sign n| =
      if sign = negative then |p - n.value| else p + n.value := by
  have hsum : |p + n.value| = p + n.value := abs_of_nonneg (add_nonneg hp n.value_nonneg)
  have hneg : |-p - n.value| = p + n.value := by
    rw [← hsum, ← abs_neg, neg_sub, sub_neg_eq_add, add_comm]
  have hdiff : |-p + n.value| = |p - n.value| := by
    rw [← abs_neg, neg_add, neg_neg, sub_eq_add_neg]
  rw [signedValue_eq]
  cases negative <;> cases sign
  · rfl
  · simpa using hsum
  · exact hneg
  · simpa using hdiff

/-- **What a rational number is rounded to, with its sign, is nearest to it among all finite
numbers.**

**Proof sketch.** Numbers of the other sign are farther away than those of the same magnitude with
the sign itself, unless one of the two numbers is zero. -/
theorem isNearest_of_units_eq {p : ℚ} (hp : 0 ≤ p) (negative : Bool) {m : Magnitude}
    (hm : m.units = unitsOf p) : IsNearest (if negative then -p else p) negative m := by
  have hnear : ∀ n : Magnitude, |p - m.value| ≤ |p - n.value| := by
    intro n
    have hnearest := unitsOf_nearest p n.isCanonical_units
    rwa [abs_of_nonneg hp, ← hm] at hnearest
  have hfarther : ∀ n : Magnitude, |p - n.value| ≤ p + n.value := by
    intro n
    have hn := n.value_nonneg
    exact abs_le.mpr ⟨by linarith, by linarith⟩
  constructor
  · intro sign n
    rw [abs_sub_signedValue hp, abs_sub_signedValue hp, if_pos rfl]
    split_ifs
    · exact hnear n
    · exact (hnear n).trans (hfarther n)
  · intro sign n hne htie
    rw [abs_sub_signedValue hp, abs_sub_signedValue hp, if_pos rfl] at htie
    have htie' : |p - n.value| = |p - m.value| := by
      split_ifs at htie
      · exact htie
      · exact le_antisymm (htie ▸ hfarther n) (hnear n)
    by_cases hvalue : n.value = m.value
    · -- the values differ, so their signs do, and this leaves no room for either
      exfalso
      split_ifs at htie with hsign
      · exact hne (by rw [signedValue_eq, signedValue_eq, hsign, hvalue])
      · have hzero := hnear zero
        have hvalue_zero : zero.value = 0 := by simp [value, units, zero]
        rw [hvalue_zero, sub_zero, abs_of_nonneg hp] at hzero
        have hm : n.value = 0 := by
          have := n.value_nonneg
          rw [hvalue] at *
          linarith
        exact hne (by rw [signedValue_eq, signedValue_eq, ← hvalue, hm]; simp)
    · refine even_of_tie hm hvalue ?_
      rwa [abs_of_nonneg hp]

end Magnitude

open Magnitude

/-- **A decimal is correctly rounded.** It is infinite from `2 ^ 1024 - 2 ^ 970` on, and else the
nearest finite number, in both cases with its sign. -/
theorem Binary64.ofDecimal_correctly_rounded (negative : Bool) (coefficient : Nat) (scale : Int)
    {p : ℚ} (hp : p = coefficient * 10 ^ scale) :
    (2 ^ 1024 - 2 ^ 970 ≤ p → ofDecimal negative coefficient scale = .infinite negative) ∧
      (p < 2 ^ 1024 - 2 ^ 970 → ∃ m, ofDecimal negative coefficient scale = .finite negative m ∧
        IsNearest (if negative then -p else p) negative m) := by
  have hnonneg : 0 ≤ p := hp ▸ decimal_nonneg coefficient scale
  have hrange := rangeEnd_le_unitsOf_iff p
  have hunits := ofDecimal?_units coefficient scale
  rw [abs_of_nonneg hnonneg] at hrange
  rw [← not_le, ← hrange, ofDecimal]
  rw [← hp] at hunits
  cases hm : ofDecimal? coefficient scale with
  | none =>
    rw [hm] at hunits
    exact ⟨fun _ => rfl, fun h => absurd hunits h⟩
  | some m =>
    rw [hm] at hunits
    dsimp only at hunits
    have hlt : ¬ rangeEnd ≤ unitsOf p := by
      rw [← hunits]
      exact Nat.not_le_of_lt m.units_lt
    exact ⟨fun h => absurd h hlt, fun _ => ⟨m, rfl, isNearest_of_units_eq hnonneg _ hunits⟩⟩

/-! ## Texts -/

/-- The sign of a spelling, as it is written. -/
def Spelling.isNegative : Spelling → Bool
  | .decimal mark _ _ => mark.negative
  | .infinity mark => mark.negative

/-- A spelling of digits stands for a decimal with the sign that is written, and writes down its
exact value. -/
theorem Spelling.exists_decimal {w : Spelling} (hw : ∀ mark, w ≠ .infinity mark) :
    ∃ (coefficient : Nat) (scale : Int),
      w.numeral = .decimal w.isNegative coefficient scale ∧
        w.exactValue = .signed w.isNegative (coefficient * 10 ^ scale) := by
  cases w with
  | infinity mark => exact absurd rfl (hw mark)
  | decimal mark mantissa exponent? =>
    have hexact := exactValue?_numeral (.decimal mark mantissa exponent?)
    exact ⟨_, _, rfl, (Option.some.inj hexact).symm⟩

/-- **A comparable text stands for its exact value correctly rounded.** If it is no spelling of
infinity, it writes down a rational number. From `2 ^ 1024 - 2 ^ 970` on the result is the infinity
of its sign. Below that it is finite, with the sign that is written, and nearest to the rational
number among all finite numbers, a tie going to the even significand.

**Proof sketch.** A comparable text stands for the numeral of its spelling (`comparable_eq_ok_iff`).
But for infinity that is a signed decimal, whose value is what the text writes down
(`Spelling.exists_decimal`). A decimal is correctly rounded
(`Binary64.ofDecimal_correctly_rounded`), with its sign apart, and the sign does not change its
distance from zero. -/
theorem comparable_correctly_rounded {text : String} {x : Binary64} (hx : comparable text = .ok x)
    (hfinite : ∀ mark, ¬ (Spelling.infinity mark).Spells text) :
    (∃ w : Spelling, w.Spells text) ∧
      ∀ w : Spelling, w.Spells text → ∃ q : ℚ, w.exactValue = .ofRat q ∧
        (2 ^ 1024 - 2 ^ 970 ≤ |q| → x = .infinite (q < 0)) ∧
        (|q| < 2 ^ 1024 - 2 ^ 970 →
          ∃ m, x = .finite w.isNegative m ∧ IsNearest q w.isNegative m) := by
  obtain ⟨v, hv, -⟩ := comparable_eq_ok_iff.mp hx
  refine ⟨⟨v, hv⟩, fun w hw => ?_⟩
  have hvalue : x = w.numeral.value :=
    Except.ok.inj (hx.symm.trans (comparable_eq_ok_iff.mpr ⟨w, hw, rfl⟩))
  obtain ⟨coefficient, scale, hnumeral, hexact⟩ := Spelling.exists_decimal (w := w) (by
    rintro mark rfl
    exact hfinite mark hw)
  have hnonneg := decimal_nonneg coefficient scale
  obtain ⟨hlarge, hsmall⟩ := Binary64.ofDecimal_correctly_rounded w.isNegative coefficient scale rfl
  rw [hvalue, hnumeral, Numeral.value]
  generalize (coefficient * 10 ^ scale : ℚ) = p at *
  have habs : |if w.isNegative then -p else p| = p := by
    split_ifs
    · rw [abs_neg, abs_of_nonneg hnonneg]
    · exact abs_of_nonneg hnonneg
  refine ⟨if w.isNegative then -p else p, hexact, fun h => ?_, fun h => ?_⟩
  · rw [habs] at h
    have hpos : 0 < p := by
      refine lt_of_lt_of_le (sub_pos.mpr ?_) h
      exact pow_lt_pow_right₀ (by norm_num) (by decide)
    rw [hlarge h]
    cases w.isNegative
    · simp [hnonneg]
    · simp [hpos]
  · rw [habs] at h
    exact hsmall h

/-- A negative number too small for the least magnitude stands for the negative zero. -/
theorem comparable_correctly_rounded_tiny :
    let text := "-1e-400"
    let x := Binary64.finite true .zero
    comparable text = .ok x ∧ (∀ mark, ¬ (Spelling.infinity mark).Spells text) ∧
      (∃ w : Spelling, w.Spells text) ∧
      ∀ w : Spelling, w.Spells text → ∃ q : ℚ, w.exactValue = .ofRat q ∧
        (2 ^ 1024 - 2 ^ 970 ≤ |q| → x = .infinite (q < 0)) ∧
        (|q| < 2 ^ 1024 - 2 ^ 970 →
          ∃ m, x = .finite w.isNegative m ∧ IsNearest q w.isNegative m) := by
  intro text x
  have hx : comparable text = .ok x := by decide +kernel
  have hfinite : ∀ mark, ¬ (Spelling.infinity mark).Spells text := by
    intro mark hmark
    have hbody : Text.trimChars text.toList ≠ (Spelling.infinity mark).text := by
      cases mark <;> decide +kernel
    exact hbody hmark.trimChars_eq
  exact ⟨hx, hfinite, comparable_correctly_rounded hx hfinite⟩

end Winnow

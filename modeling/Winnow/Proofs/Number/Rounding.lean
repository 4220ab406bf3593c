import Mathlib.Data.Nat.Log
import Mathlib.Tactic.Ring
import Winnow.Number.Rounding

set_option autoImplicit false

/-!
# Rounding keeps the order

Rounding a quotient to the nearest integer, and rounding it to the nearest magnitude, never reverses
an order, and leaves alone what needs no rounding. All of it is said in units of `2 ^ (-1074)`, in
natural numbers.

## Main definitions

* `Winnow.Magnitude.gridExponent`, `Winnow.Magnitude.roundedUnits` — the grid that a quotient is
  rounded on, and the point of it that it is rounded to.
* `Winnow.Magnitude.Rounds` — a magnitude, or the lack of one, is what a quotient is rounded to.

## Main results

* `Winnow.roundDiv_spec`, `Winnow.roundDiv_mono` — rounding to integers.
* `Winnow.Magnitude.roundedUnits_mono`, `Winnow.Magnitude.roundedUnits_units` — rounding to
  magnitudes keeps the order, and magnitudes as they are.
* `Winnow.Magnitude.rounds_ofDecimal?` — a decimal is rounded as the quotient that it is.
-/

namespace Winnow

/-! ## Rounding to integers -/

/-- A quotient is rounded to an integer at most one half away, and to an even one if it is exactly
that far. -/
theorem roundDiv_spec (n : Nat) {d : Nat} (hd : 0 < d) :
    2 * (roundDiv n d * d) ≤ 2 * n + d ∧ 2 * n ≤ 2 * (roundDiv n d * d) + d ∧
      (2 * (roundDiv n d * d) = 2 * n + d ∨ 2 * n = 2 * (roundDiv n d * d) + d →
        roundDiv n d % 2 = 0) := by
  have hn := Nat.div_add_mod n d
  have hlt := Nat.mod_lt n hd
  have hnext : (n / d + 1) * d = d * (n / d) + d := by ring
  have hsame : n / d * d = d * (n / d) := Nat.mul_comm _ _
  unfold roundDiv
  dsimp only
  split_ifs <;> (try rw [hnext]) <;> (try rw [hsame]) <;> omega

/-- Rounding keeps the order of quotients.

**Proof sketch.** If the smaller quotient were rounded to the larger integer, then the two would be
equal and half way between two integers, and both of these even. -/
theorem roundDiv_mono {n d n' d' : Nat} (hd : 0 < d) (hd' : 0 < d') (h : n * d' ≤ n' * d) :
    roundDiv n d ≤ roundDiv n' d' := by
  obtain ⟨hup, -, heven⟩ := roundDiv_spec n hd
  obtain ⟨-, hdown, heven'⟩ := roundDiv_spec n' hd'
  generalize roundDiv n d = r at *
  generalize roundDiv n' d' = r' at *
  by_contra hlt
  have hpos : 0 < d * d' := Nat.mul_pos hd hd'
  -- both bounds over the common denominator
  have hup' : 2 * (r * (d * d')) ≤ 2 * (n * d') + d * d' := by
    calc 2 * (r * (d * d')) = 2 * (r * d) * d' := by ring
      _ ≤ (2 * n + d) * d' := Nat.mul_le_mul_right d' hup
      _ = 2 * (n * d') + d * d' := by ring
  have hdown' : 2 * (n' * d) ≤ 2 * (r' * (d * d')) + d * d' := by
    calc 2 * (n' * d) = 2 * n' * d := by ring
      _ ≤ (2 * (r' * d') + d') * d := Nat.mul_le_mul_right d hdown
      _ = 2 * (r' * (d * d')) + d * d' := by ring
  have hr : r = r' + 1 := by
    have hlarge : r * (d * d') ≤ (r' + 1) * (d * d') := by
      rw [Nat.add_mul]
      omega
    have := Nat.le_of_mul_le_mul_right hlarge hpos
    omega
  have hsplit : r * (d * d') = r' * (d * d') + d * d' := by rw [hr]; ring
  have htie : 2 * (r * d) = 2 * n + d := by
    refine Nat.eq_of_mul_eq_mul_right hd' ?_
    calc 2 * (r * d) * d' = 2 * (r * (d * d')) := by ring
      _ = 2 * (n * d') + d * d' := by omega
      _ = (2 * n + d) * d' := by ring
  have htie' : 2 * n' = 2 * (r' * d') + d' := by
    refine Nat.eq_of_mul_eq_mul_right hd ?_
    calc 2 * n' * d = 2 * (n' * d) := by ring
      _ = 2 * (r' * (d * d')) + d * d' := by omega
      _ = (2 * (r' * d') + d') * d := by ring
  have := heven (.inl htie)
  have := heven' (.inr htie')
  omega

/-- An integer is rounded to itself. -/
theorem roundDiv_mul (k : Nat) {d : Nat} (hd : 0 < d) : roundDiv (k * d) d = k := by
  rw [roundDiv, Nat.mul_mod_left, Nat.mul_div_cancel k hd]
  simp [hd]

/-- A quotient of at most an integer is rounded to at most that integer. -/
theorem roundDiv_le {n d k : Nat} (hd : 0 < d) (h : n ≤ k * d) : roundDiv n d ≤ k := by
  rw [← roundDiv_mul k hd]
  exact roundDiv_mono hd hd (Nat.mul_le_mul_right d h)

/-- A quotient of at least an integer is rounded to at least that integer. -/
theorem le_roundDiv {n d k : Nat} (hd : 0 < d) (h : k * d ≤ n) : k ≤ roundDiv n d := by
  rw [← roundDiv_mul k hd]
  exact roundDiv_mono hd hd (Nat.mul_le_mul_right d h)

/-! ## Rounding to magnitudes -/

namespace Magnitude

/-- The exponent of the grid that a quotient of units is rounded on: the one on which it takes 53
bits, or the least one. -/
def gridExponent (n d : Nat) : Nat :=
  (n / d).log2 - 52

/-- The point of its grid that a quotient of units is rounded to. -/
def roundedUnits (n d : Nat) : Nat :=
  roundDiv n (d * 2 ^ gridExponent n d) * 2 ^ gridExponent n d

variable {n d n' d' : Nat}

/-- A quotient takes at most 53 bits on its grid, and exactly as many unless the grid is the finest
one. -/
theorem gridExponent_spec (hd : 0 < d) :
    n < 2 ^ 53 * (d * 2 ^ gridExponent n d) ∧
      (gridExponent n d = 0 ∨ 2 ^ 52 * (d * 2 ^ gridExponent n d) ≤ n) := by
  have hbelow : n < (n / d + 1) * d := by
    rw [Nat.add_mul, Nat.one_mul]
    exact Nat.lt_div_mul_add hd
  have habove : n / d * d ≤ n := Nat.div_mul_le_self n d
  constructor
  · have hquotient : n / d + 1 ≤ 2 ^ (53 + gridExponent n d) := by
      refine Nat.succ_le_of_lt (Nat.lt_of_lt_of_le Nat.lt_log2_self ?_)
      exact Nat.pow_le_pow_right (by decide) (by unfold gridExponent; omega)
    calc n < (n / d + 1) * d := hbelow
      _ ≤ 2 ^ (53 + gridExponent n d) * d := Nat.mul_le_mul_right d hquotient
      _ = 2 ^ 53 * (d * 2 ^ gridExponent n d) := by ring
  · refine or_iff_not_imp_left.mpr fun hne => ?_
    have hlog : (n / d).log2 = 52 + gridExponent n d := by
      unfold gridExponent at hne ⊢
      omega
    have hquotient : 2 ^ (52 + gridExponent n d) ≤ n / d := by
      rw [← hlog]
      refine Nat.log2_self_le fun hzero => hne ?_
      rw [gridExponent, hzero]
      rfl
    calc 2 ^ 52 * (d * 2 ^ gridExponent n d) = 2 ^ (52 + gridExponent n d) * d := by ring
      _ ≤ n / d * d := Nat.mul_le_mul_right d hquotient
      _ ≤ n := habove

/-- Larger quotients are rounded on coarser grids. -/
theorem gridExponent_mono (hd : 0 < d) (hd' : 0 < d') (h : n * d' ≤ n' * d) :
    gridExponent n d ≤ gridExponent n' d' := by
  have hquotient : n / d ≤ n' / d' := by
    rw [Nat.le_div_iff_mul_le hd']
    refine Nat.le_of_mul_le_mul_right ?_ hd
    calc n / d * d' * d = n / d * d * d' := by ring
      _ ≤ n * d' := Nat.mul_le_mul_right d' (Nat.div_mul_le_self n d)
      _ ≤ n' * d := h
  have hlog := Nat.log_mono_right (b := 2) hquotient
  rw [← Nat.log2_eq_log_two, ← Nat.log2_eq_log_two] at hlog
  exact Nat.sub_le_sub_right hlog 52

/-- On its grid a quotient is rounded to an integer of at most 53 bits, or to `2 ^ 53`; it has its
top bit set unless the grid is the finest one. -/
theorem roundDiv_grid (hd : 0 < d) :
    roundDiv n (d * 2 ^ gridExponent n d) ≤ 2 ^ 53 ∧
      (gridExponent n d = 0 ∨ 2 ^ 52 ≤ roundDiv n (d * 2 ^ gridExponent n d)) := by
  obtain ⟨hbelow, habove⟩ := gridExponent_spec (n := n) hd
  have hgrid : 0 < d * 2 ^ gridExponent n d := Nat.mul_pos hd (Nat.two_pow_pos _)
  exact ⟨roundDiv_le hgrid hbelow.le, habove.imp_right (le_roundDiv hgrid)⟩

/-- One bit less, on a grid twice as coarse. -/
theorem carry (e : Nat) : 2 ^ 53 * 2 ^ e = 2 ^ 52 * 2 ^ (e + 1) := by
  ring

/-- **Rounding to magnitudes keeps the order of quotients.**

**Proof sketch.** On one grid, rounding to integers keeps the order. On different grids, what is
rounded on the finer one is at most `2 ^ 53` steps of it, which is at most `2 ^ 52` steps of the
coarser one. -/
theorem roundedUnits_mono (hd : 0 < d) (hd' : 0 < d') (h : n * d' ≤ n' * d) :
    roundedUnits n d ≤ roundedUnits n' d' := by
  obtain ⟨hupper, -⟩ := roundDiv_grid (n := n) hd
  obtain ⟨-, hlower⟩ := roundDiv_grid (n := n') hd'
  obtain hsame | hfiner := (gridExponent_mono hd hd' h).eq_or_lt
  · rw [roundedUnits, roundedUnits, ← hsame]
    have hpos := Nat.two_pow_pos (gridExponent n d)
    refine Nat.mul_le_mul_right _ (roundDiv_mono (Nat.mul_pos hd hpos) (Nat.mul_pos hd' hpos) ?_)
    calc n * (d' * 2 ^ gridExponent n d) = n * d' * 2 ^ gridExponent n d := by ring
      _ ≤ n' * d * 2 ^ gridExponent n d := Nat.mul_le_mul_right _ h
      _ = n' * (d * 2 ^ gridExponent n d) := by ring
  · have hlower := hlower.resolve_left (by omega)
    calc roundedUnits n d ≤ 2 ^ 53 * 2 ^ gridExponent n d := Nat.mul_le_mul_right _ hupper
      _ = 2 ^ 52 * 2 ^ (gridExponent n d + 1) := carry _
      _ ≤ 2 ^ 52 * 2 ^ gridExponent n' d' :=
        Nat.mul_le_mul_left _ (Nat.pow_le_pow_right (by decide) hfiner)
      _ ≤ roundedUnits n' d' := Nat.mul_le_mul_right _ hlower

/-- What a quotient is rounded to depends on its value alone. -/
theorem roundedUnits_congr (hd : 0 < d) (hd' : 0 < d') (h : n * d' = n' * d) :
    roundedUnits n d = roundedUnits n' d' :=
  Nat.le_antisymm (roundedUnits_mono hd hd' h.le) (roundedUnits_mono hd' hd h.ge)

/-- Numbers of 53 bits on one grid are not beyond those on a coarser one. -/
theorem exponent_le_of_lt {e g : Nat} (h : 2 ^ 52 * 2 ^ e < 2 ^ 53 * 2 ^ g) : e ≤ g := by
  by_contra hlt
  have hpow : 2 ^ (g + 1) ≤ 2 ^ e := Nat.pow_le_pow_right (by decide) (by omega)
  rw [carry] at h
  exact absurd (Nat.mul_le_mul_left (2 ^ 52) hpow) (Nat.not_le_of_lt h)

/-- A number of units in canonical form is rounded to itself. -/
theorem roundedUnits_canonical {s e : Nat} (hs : s < 2 ^ 53) (hnormal : 2 ^ 52 ≤ s ∨ e = 0)
    (hd : 0 < d) : roundedUnits (s * 2 ^ e * d) d = s * 2 ^ e := by
  obtain ⟨hbelow, habove⟩ := gridExponent_spec (n := s * 2 ^ e * d) hd
  have hgrid : gridExponent (s * 2 ^ e * d) d = e := by
    generalize gridExponent (s * 2 ^ e * d) d = g at *
    have hupper : s * 2 ^ e < 2 ^ 53 * 2 ^ g := by
      refine Nat.lt_of_mul_lt_mul_right (a := d) ?_
      calc s * 2 ^ e * d < 2 ^ 53 * (d * 2 ^ g) := hbelow
        _ = 2 ^ 53 * 2 ^ g * d := by ring
    refine Nat.le_antisymm ?_ ?_
    · obtain hg | habove := habove
      · omega
      · have hlower : 2 ^ 52 * 2 ^ g ≤ s * 2 ^ e := by
          refine Nat.le_of_mul_le_mul_right ?_ hd
          calc 2 ^ 52 * 2 ^ g * d = 2 ^ 52 * (d * 2 ^ g) := by ring
            _ ≤ s * 2 ^ e * d := habove
        refine exponent_le_of_lt (Nat.lt_of_le_of_lt hlower ?_)
        exact Nat.mul_lt_mul_of_pos_right hs (Nat.two_pow_pos e)
    · obtain hnormal | he := hnormal
      · exact exponent_le_of_lt (Nat.lt_of_le_of_lt (Nat.mul_le_mul_right _ hnormal) hupper)
      · omega
  rw [roundedUnits, hgrid, Nat.mul_assoc, Nat.mul_comm (2 ^ e) d,
    roundDiv_mul s (Nat.mul_pos hd (Nat.two_pow_pos e))]

/-! ## Magnitudes -/

-- Neither number is ever to be evaluated by the way, so both are irreducible.

/-- The number of units in one. -/
@[irreducible] def unitsOfOne : Nat :=
  Nat.pow 2 1074

/-- The least number of units that is beyond all magnitudes, and on the grid of the largest ones. -/
@[irreducible] def rangeEnd : Nat :=
  2 ^ 53 * 2 ^ 2045

/-- The units in one, as a power of two. -/
theorem unitsOfOne_eq : unitsOfOne = 2 ^ 1074 := by
  delta unitsOfOne
  generalize 1074 = e
  rfl

/-- What is beyond all magnitudes, as a product of powers of two. -/
theorem rangeEnd_eq : rangeEnd = 2 ^ 53 * 2 ^ 2045 := by
  delta rangeEnd
  generalize 2045 = e
  rfl

/-- One is some units. -/
theorem unitsOfOne_pos : 0 < unitsOfOne := by
  rw [unitsOfOne_eq]
  exact pow_pos (by decide) _

/-- A magnitude takes fewer units than what is beyond all magnitudes. -/
theorem units_lt (m : Magnitude) : m.units < rangeEnd :=
  calc m.units = m.significand * 2 ^ m.exponent := rfl
    _ < 2 ^ 53 * 2 ^ m.exponent :=
      Nat.mul_lt_mul_of_pos_right m.significand_lt (Nat.two_pow_pos _)
    _ ≤ rangeEnd := by
      rw [rangeEnd_eq]
      exact Nat.mul_le_mul_left _ (pow_le_pow_right₀ (by decide) m.exponent_le)

/-- The units of a magnitude are rounded to themselves. -/
theorem roundedUnits_units (m : Magnitude) (hd : 0 < d) :
    roundedUnits (m.units * d) d = m.units :=
  roundedUnits_canonical m.significand_lt m.normal hd

/-- A magnitude, or none if that is out of range, is what a quotient of units is rounded to. -/
def Rounds (n d : Nat) : Option Magnitude → Prop
  | some m => m.units = roundedUnits n d
  | none => rangeEnd ≤ roundedUnits n d

/-- The magnitude of a canonical significand and exponent has their units; else these are out of
range. -/
theorem make?_spec {s e : Nat} (hs : s < 2 ^ 53) (hnormal : 2 ^ 52 ≤ s ∨ e = 0) :
    match make? s e with
    | some m => m.units = s * 2 ^ e
    | none => rangeEnd ≤ s * 2 ^ e := by
  rw [make?]
  split_ifs with h
  · rfl
  · have he : 2045 + 1 ≤ e := by
      by_contra hlt
      exact h ⟨hs, hnormal, by omega⟩
    rw [rangeEnd_eq, carry]
    exact Nat.mul_le_mul (hnormal.resolve_right (by omega)) (pow_le_pow_right₀ (by decide) he)

/-- The nearest magnitude to a quotient is what its units are rounded to. -/
theorem rounds_nearest? (n : Nat) (hd : 0 < d) : Rounds (n * unitsOfOne) d (nearest? n d) := by
  obtain ⟨hle, hnormal⟩ := roundDiv_grid (n := n * unitsOfOne) hd
  have hunits : roundedUnits (n * unitsOfOne) d =
      roundDiv (n * unitsOfOne) (d * 2 ^ gridExponent (n * unitsOfOne) d) *
        2 ^ gridExponent (n * unitsOfOne) d := rfl
  have hnearest : nearest? n d =
      if roundDiv (n * unitsOfOne) (d * 2 ^ gridExponent (n * unitsOfOne) d) = 2 ^ 53 then
        make? (2 ^ 52) (gridExponent (n * unitsOfOne) d + 1)
      else make? (roundDiv (n * unitsOfOne) (d * 2 ^ gridExponent (n * unitsOfOne) d))
        (gridExponent (n * unitsOfOne) d) := by
    delta unitsOfOne
    rfl
  rw [hnearest]
  generalize gridExponent (n * unitsOfOne) d = e at *
  generalize roundDiv (n * unitsOfOne) (d * 2 ^ e) = s at *
  split_ifs with hs
  · have hmake := make?_spec (s := 2 ^ 52) (e := e + 1) (by decide) (.inl le_rfl)
    cases h : make? (2 ^ 52) (e + 1) <;> rw [h] at hmake
    · rw [Rounds, hunits, hs, carry]; exact hmake
    · rw [Rounds, hunits, hs, carry]; exact hmake
  · have hmake := make?_spec (s := s) (e := e) (by omega) (by omega)
    cases h : make? s e <;> rw [h] at hmake
    · rw [Rounds, hunits]; exact hmake
    · rw [Rounds, hunits]; exact hmake

/-! ## Decimals -/

/-- A quotient out of range stays there when it is rounded. -/
theorem rangeEnd_le_roundedUnits (hd : 0 < d) (h : rangeEnd * d ≤ n) :
    rangeEnd ≤ roundedUnits n d := by
  have hend : rangeEnd = 2 ^ 52 * 2 ^ (2045 + 1) := by rw [rangeEnd_eq, carry]
  calc rangeEnd = roundedUnits (rangeEnd * d) d := by
        rw [hend, roundedUnits_canonical (by decide) (.inl le_rfl) hd]
    _ ≤ roundedUnits n d := roundedUnits_mono hd hd (Nat.mul_le_mul_right d h)

/-- Less than half a unit is rounded to nothing. -/
theorem roundedUnits_eq_zero (h : 2 * n < d) : roundedUnits n d = 0 := by
  have hpos := Nat.two_pow_pos (gridExponent n d)
  have hgrid : d ≤ d * 2 ^ gridExponent n d := Nat.le_mul_of_pos_right d hpos
  have hround : roundDiv n (d * 2 ^ gridExponent n d) = 0 := by
    rw [roundDiv, Nat.div_eq_of_lt (by omega), Nat.mod_eq_of_lt (by omega)]
    exact if_pos (by omega)
  rw [roundedUnits, hround, Nat.zero_mul]

/-- A power of ten from `10 ^ 310` on is out of range. -/
theorem rangeEnd_le_pow {k : Nat} (h : 310 ≤ k) : rangeEnd ≤ 10 ^ k * unitsOfOne := by
  have hleast : rangeEnd ≤ 10 ^ 310 * unitsOfOne := by decide +kernel
  exact hleast.trans (Nat.mul_le_mul_right _ (pow_le_pow_right₀ (by decide) h))

/-- A coefficient that a power of ten makes less than half a unit. -/
theorem two_mul_units_lt_pow {c k : Nat} (h : c.log2 + 1077 ≤ 3 * (k + 1)) :
    2 * (c * unitsOfOne) < 10 ^ (k + 1) := by
  have hpow : ∀ e, 2 ^ (c.log2 + 1 + (e + 2)) = 4 * (2 ^ (c.log2 + 1) * 2 ^ e) := by
    intro e
    ring
  calc 2 * (c * unitsOfOne) ≤ 4 * (c * unitsOfOne) := Nat.mul_le_mul_right _ (by decide)
    _ < 4 * (2 ^ (c.log2 + 1) * unitsOfOne) := by
      have := Nat.mul_lt_mul_of_pos_right (Nat.lt_log2_self (n := c)) unitsOfOne_pos
      omega
    _ = 2 ^ (c.log2 + 1 + (1074 + 2)) := by rw [unitsOfOne_eq, hpow]
    _ ≤ 2 ^ (3 * (k + 1)) := pow_le_pow_right₀ (by decide) h
    _ = 8 ^ (k + 1) := pow_mul 2 3 (k + 1)
    _ ≤ 10 ^ (k + 1) := Nat.pow_le_pow_left (by decide) _

/-- **A decimal is rounded as the quotient that it is.** The scales that are decided without forming
the power of ten are decided as rounding would. -/
theorem rounds_ofDecimal? (coefficient : Nat) (scale : Int) :
    Rounds (coefficient * 10 ^ scale.toNat * unitsOfOne) (10 ^ (-scale).toNat)
      (ofDecimal? coefficient scale) := by
  unfold ofDecimal?
  split_ifs with hzero
  · rw [hzero, Nat.zero_mul, Nat.zero_mul]
    exact (roundedUnits_eq_zero (Nat.pow_pos (by decide))).symm
  · cases scale with
    | ofNat k =>
      show Rounds (coefficient * 10 ^ k * unitsOfOne) (10 ^ (-(k : Int)).toNat) _
      have hscale : (-(k : Int)).toNat = 0 := by omega
      rw [hscale, Nat.pow_zero]
      dsimp only
      split_ifs with hk
      · have hlarge : rangeEnd * 1 ≤ coefficient * 10 ^ k * unitsOfOne := by
          rw [Nat.mul_one, Nat.mul_assoc]
          exact (rangeEnd_le_pow hk).trans
            (Nat.le_mul_of_pos_left _ (Nat.pos_of_ne_zero hzero))
        exact rangeEnd_le_roundedUnits Nat.one_pos hlarge
      · exact rounds_nearest? _ Nat.one_pos
    | negSucc k =>
      show Rounds (coefficient * 10 ^ 0 * unitsOfOne) (10 ^ (k + 1)) _
      rw [Nat.pow_zero, Nat.mul_one]
      dsimp only
      split_ifs with hk
      · exact (roundedUnits_eq_zero (two_mul_units_lt_pow hk)).symm
      · exact rounds_nearest? _ (Nat.pow_pos (by decide))

end Magnitude

end Winnow

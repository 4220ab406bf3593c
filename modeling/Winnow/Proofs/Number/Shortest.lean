import Mathlib.Algebra.Order.Field.Power
import Winnow.Number.Shortest
import Winnow.Proofs.Number.Nearest

set_option autoImplicit false

/-!
# Shortest decimals

The decimal that is searched for a magnitude is read back as that magnitude, no decimal that is read
back has fewer digits, and none with as many digits is nearer to it.

## Main definitions

* `Winnow.Magnitude.IsRoundingOf` — a rational number is read back as the magnitude.
* `Winnow.Magnitude.IsBestOnGrid` — a point of a decimal grid is the nearest one that is read back.

## Main results

* `Winnow.Magnitude.IsCanonical.spacing` — how far two magnitudes are apart at least.
* `Winnow.Magnitude.isBestOnGrid_of_onGrid?`, `Winnow.Magnitude.not_isRoundingOf_of_onGrid?` — the
  two neighbours on a grid are all that needs to be tried.
* `Winnow.Magnitude.shortest_spec` — the decimal that is found.

## Design

Rounding keeps the order, so the numbers that are read back as a magnitude are convex. A decimal
with a given number of digits whose leading digit stands lower than that of the magnitude is below a
power of ten which is on the grid, has one digit, is nearer and is therefore read back too.
-/

namespace Winnow

namespace Magnitude

variable {m : Magnitude} {a b : Nat} {p q r : ℚ}

/-! ## Distinct magnitudes -/

/-- Numbers of 53 bits are apart by at least their `2 ^ 53`th part.

**Proof sketch.** On the grid of the larger one they are a step apart. If the smaller one is not on
it, then it is on the next finer grid, or far below. -/
theorem IsCanonical.spacing (ha : IsCanonical a) (hb : IsCanonical b) (h : a < b) :
    b ≤ 2 ^ 53 * (b - a) := by
  obtain ⟨t, f, ht, hnormal, rfl⟩ := hb
  rcases ha.grid_cases f with ⟨k, rfl⟩ | ⟨hf, hbelow⟩
  · have hk : k < t := Nat.lt_of_mul_lt_mul_right h
    have hstep : k * 2 ^ f + 2 ^ f ≤ t * 2 ^ f := by
      rw [← Nat.succ_mul]
      exact Nat.mul_le_mul_right _ hk
    have hle : t * 2 ^ f ≤ 2 ^ 53 * 2 ^ f := Nat.mul_le_mul_right _ ht.le
    omega
  · obtain ⟨g, rfl⟩ := Nat.exists_eq_succ_of_ne_zero hf
    have htop : 2 ^ 52 ≤ t := hnormal.resolve_right hf
    have hdouble : t * 2 ^ (g + 1) = 2 * t * 2 ^ g := by ring
    rw [Nat.succ_eq_add_one, hdouble] at h ⊢
    rcases ha.grid_cases g with ⟨k, rfl⟩ | ⟨-, hbelow⟩
    · rw [Nat.succ_eq_add_one, ← carry] at hbelow
      have hk : k < 2 ^ 53 := Nat.lt_of_mul_lt_mul_right hbelow
      calc 2 * t * 2 ^ g ≤ 2 ^ 53 * (2 * t - k) * 2 ^ g := Nat.mul_le_mul_right _ (by omega)
        _ = 2 ^ 53 * (2 * t * 2 ^ g - k * 2 ^ g) := by rw [Nat.mul_assoc, Nat.sub_mul]
    · have hlow : 2 ^ 53 * 2 ^ g ≤ 2 * t * 2 ^ g := Nat.mul_le_mul_right _ (by omega)
      omega

/-- Magnitudes with as many units are the same. -/
theorem units_injective : Function.Injective units := by
  have hle : ∀ {m n : Magnitude}, m.units = n.units → n.exponent ≤ m.exponent := by
    intro m n h
    rcases n.normal with hnormal | hzero
    · refine exponent_le_of_lt ?_
      calc 2 ^ 52 * 2 ^ n.exponent ≤ n.units := Nat.mul_le_mul_right _ hnormal
        _ = m.units := h.symm
        _ < 2 ^ 53 * 2 ^ m.exponent :=
          Nat.mul_lt_mul_of_pos_right m.significand_lt (Nat.two_pow_pos _)
    · omega
  intro m n h
  have hexponent : m.exponent = n.exponent := Nat.le_antisymm (hle h.symm) (hle h)
  have hsignificand : m.significand = n.significand := by
    refine Nat.eq_of_mul_eq_mul_right (Nat.two_pow_pos m.exponent) ?_
    rw [hexponent]
    rw [units, units, hexponent] at h
    exact h
  cases m
  cases n
  simp_all

/-! ## Numbers that are read back -/

/-- A magnitude is what a rational number, regardless of its sign, is rounded to. -/
def IsRoundingOf (m : Magnitude) (q : ℚ) : Prop :=
  m.units = unitsOf q

/-- A decimal is rounded to the magnitude that its exact value is rounded to. -/
theorem ofDecimal?_eq_some_iff {coefficient : Nat} {scale : Int} :
    ofDecimal? coefficient scale = some m ↔ m.IsRoundingOf (coefficient * 10 ^ scale) := by
  have hunits := ofDecimal?_units coefficient scale
  unfold IsRoundingOf
  cases hn : ofDecimal? coefficient scale with
  | none =>
    rw [hn] at hunits
    have hlt := m.units_lt
    simp only [reduceCtorEq, false_iff]
    omega
  | some n =>
    rw [hn] at hunits
    dsimp only at hunits
    rw [← hunits, Option.some_inj, eq_comm]
    exact units_injective.eq_iff.symm

/-- A magnitude is read back from its own value. -/
theorem isRoundingOf_value (m : Magnitude) : m.IsRoundingOf m.value :=
  (m.unitsOf_units (abs_of_nonneg m.value_nonneg)).symm

/-- What lies between two numbers that are read back is read back. -/
theorem IsRoundingOf.of_between (hp : m.IsRoundingOf p) (hr : m.IsRoundingOf r) (hnonneg : 0 ≤ p)
    (hpq : p ≤ q) (hqr : q ≤ r) : m.IsRoundingOf q := by
  have hq := hnonneg.trans hpq
  have hlow := unitsOf_mono (abs_le_abs_of_nonneg hnonneg hpq)
  have hhigh := unitsOf_mono (abs_le_abs_of_nonneg hq hqr)
  unfold IsRoundingOf at *
  omega

/-- **What is closer to a magnitude than a `2 * 10 ^ 16`th part of it is read back as it.**

**Proof sketch.** The number that it is rounded to is at most as far from it, hence within a
`10 ^ 16`th part of the magnitude. Distinct numbers are farther apart than that. -/
theorem isRoundingOf_of_close (hq : 0 ≤ q) (hm : 0 < m.value)
    (hclose : |m.value - q| * (2 * 10 ^ 16) ≤ m.value) : m.IsRoundingOf q := by
  by_contra hne
  have hone : (0 : ℚ) < unitsOfOne := by exact_mod_cast unitsOfOne_pos
  have hcanonical : IsCanonical (unitsOf q) := isCanonical_roundedUnits q.den_pos
  -- the spacing of the two, in units
  have hspacing : m.units ≤ 2 ^ 53 * ((m.units : ℤ) - unitsOf q).natAbs := by
    rcases lt_or_gt_of_ne hne with hlt | hlt
    · have := m.isCanonical_units.spacing hcanonical hlt
      omega
    · have := hcanonical.spacing m.isCanonical_units hlt
      omega
  have hapart : m.value ≤ 2 ^ 53 * |m.value - unitsOf q / unitsOfOne| := by
    have hcast : (m.units : ℚ) ≤ 2 ^ 53 * |(m.units : ℚ) - unitsOf q| := by
      have h : (m.units : ℚ) ≤ (2 ^ 53 * ((m.units : ℤ) - unitsOf q).natAbs : Nat) :=
        Nat.cast_le.mpr hspacing
      rwa [Nat.cast_mul, Nat.cast_pow, Nat.cast_ofNat, Nat.cast_natAbs, Int.cast_abs, Int.cast_sub,
        Int.cast_natCast, Int.cast_natCast] at h
    rw [value, ← sub_div, abs_div, abs_of_pos hone, mul_div_assoc']
    exact div_le_div_of_nonneg_right hcast hone.le
  have hnear : |q - unitsOf q / unitsOfOne| ≤ |m.value - q| := by
    have h := unitsOf_nearest q m.isCanonical_units
    rwa [abs_of_nonneg hq, ← value, abs_sub_comm q m.value] at h
  have htriangle := abs_sub_le m.value q (unitsOf q / unitsOfOne)
  linarith

/-! ## The leading digit -/

/-- The units in one, as the definitions have them. -/
theorem pow_eq_unitsOfOne : Nat.pow 2 1074 = unitsOfOne := by
  delta unitsOfOne
  rfl

/-- The exponent of the leading digit, from the number of digits in units of `10 ^ (-324)`. -/
theorem decimalExponent_eq (m : Magnitude) :
    m.decimalExponent = ((Nat.toDigits 10 (m.units * 10 ^ 324 / unitsOfOne)).length : ℤ) - 325 := by
  rw [decimalExponent, decimalDigits, pow_eq_unitsOfOne]
  generalize 324 = e
  rfl

/-- **The leading digit has its exponent.** -/
theorem decimalExponent_spec (hm : m.units ≠ 0) :
    10 ^ m.decimalExponent ≤ m.value ∧ m.value < 10 ^ (m.decimalExponent + 1) := by
  have hone := unitsOfOne_pos
  have hleast : unitsOfOne ≤ 10 ^ 324 := by decide +kernel
  have hlength := fun k (hk : 0 < k) =>
    Nat.length_toDigits_le_iff (b := 10) (n := m.units * 10 ^ 324 / unitsOfOne) (by decide) hk
  have hexponent := m.decimalExponent_eq
  obtain ⟨l, hl⟩ : ∃ l, (Nat.toDigits 10 (m.units * 10 ^ 324 / unitsOfOne)).length = l + 1 :=
    Nat.exists_eq_succ_of_ne_zero Nat.length_toDigits_pos.ne'
  rw [hl] at hlength hexponent
  have hupper : m.units * 10 ^ 324 < 10 ^ (l + 1) * unitsOfOne :=
    (Nat.div_lt_iff_lt_mul hone).mp ((hlength (l + 1) (by omega)).mp le_rfl)
  have hlower : 10 ^ l * unitsOfOne ≤ m.units * 10 ^ 324 := by
    rw [← Nat.le_div_iff_mul_le hone]
    rcases Nat.eq_zero_or_pos l with rfl | hpos
    · rw [Nat.le_div_iff_mul_le hone]
      calc 10 ^ 0 * unitsOfOne = unitsOfOne := by rw [Nat.pow_zero, Nat.one_mul]
        _ ≤ 10 ^ 324 := hleast
        _ ≤ m.units * 10 ^ 324 := Nat.le_mul_of_pos_left _ (Nat.pos_of_ne_zero hm)
    · have := hlength l hpos
      omega
  have hpow : ∀ k : ℕ, (10 : ℚ) ^ ((k : ℤ) - 324) = 10 ^ k / 10 ^ 324 := by
    intro k
    rw [zpow_sub₀ (by norm_num), zpow_natCast, zpow_ofNat]
  have hlow : m.decimalExponent = (l : ℤ) - 324 := by
    rw [hexponent]
    push_cast
    ring
  have hhigh : m.decimalExponent + 1 = ((l + 1 : ℕ) : ℤ) - 324 := by
    rw [hlow]
    push_cast
    ring
  have hone : (0 : ℚ) < unitsOfOne := by exact_mod_cast hone
  rw [hhigh, hlow, hpow, hpow, value, div_le_div_iff₀ (by norm_num) hone,
    div_lt_div_iff₀ hone (by norm_num)]
  exact ⟨by exact_mod_cast hlower, by exact_mod_cast hupper⟩

/-! ## Decimal grids -/

/-- The quotient of a magnitude and a power of ten. -/
theorem overPowerOfTen_spec (m : Magnitude) (scale : Int) :
    0 < (m.overPowerOfTen scale).2 ∧
      m.value = (m.overPowerOfTen scale).1 / (m.overPowerOfTen scale).2 * 10 ^ scale := by
  have hone : (unitsOfOne : ℚ) ≠ 0 := by exact_mod_cast unitsOfOne_pos.ne'
  cases scale with
  | ofNat k =>
    rw [overPowerOfTen, pow_eq_unitsOfOne, Nat.pow_eq, value, Int.ofNat_eq_natCast, zpow_natCast]
    refine ⟨Nat.mul_pos unitsOfOne_pos (Nat.pow_pos (by decide)), ?_⟩
    push_cast
    field_simp
  | negSucc k =>
    rw [overPowerOfTen, pow_eq_unitsOfOne, Nat.pow_eq, value, zpow_negSucc]
    refine ⟨unitsOfOne_pos, ?_⟩
    push_cast
    field_simp

/-- A power of ten that is no finer than the digits of a grid is a point of it. -/
theorem pow_eq_point (k : Nat) (e : ℤ) : (10 : ℚ) ^ (e + k) = (10 ^ k : Nat) * 10 ^ e := by
  simpa using decimal_scale_add 1 k e

/-- A point of a decimal grid is read back as the magnitude, and no point that is read back is
nearer to it. -/
structure IsBestOnGrid (m : Magnitude) (scale : ℤ) (coefficient : Nat) : Prop where
  isRoundingOf : m.IsRoundingOf (coefficient * 10 ^ scale)
  nearest : ∀ k : Nat, m.IsRoundingOf (k * 10 ^ scale) →
    |m.value - coefficient * 10 ^ scale| ≤ |m.value - k * 10 ^ scale|

/-- The last point of a decimal grid that is not beyond a magnitude. -/
def pointBelow (m : Magnitude) (scale : ℤ) : Nat :=
  (m.overPowerOfTen scale).1 / (m.overPowerOfTen scale).2

/-- The point of a decimal grid that a magnitude is rounded to. -/
def nearestPoint (m : Magnitude) (scale : ℤ) : Nat :=
  roundDiv (m.overPowerOfTen scale).1 (m.overPowerOfTen scale).2

/-- A magnitude is between a point of a grid and the next one. -/
theorem pointBelow_spec (m : Magnitude) (scale : ℤ) :
    m.pointBelow scale * 10 ^ scale ≤ m.value ∧
      m.value < (m.pointBelow scale + 1 : Nat) * 10 ^ scale := by
  obtain ⟨hd, hvalue⟩ := m.overPowerOfTen_spec scale
  have hstep : (0 : ℚ) < 10 ^ scale := zpow_pos (by norm_num) scale
  rw [hvalue, pointBelow]
  generalize (m.overPowerOfTen scale).1 = n at *
  generalize (m.overPowerOfTen scale).2 = d at *
  have hd' : (0 : ℚ) < d := by exact_mod_cast hd
  constructor
  · refine mul_le_mul_of_nonneg_right ?_ hstep.le
    rw [le_div_iff₀ hd']
    exact_mod_cast Nat.div_mul_le_self n d
  · refine mul_lt_mul_of_pos_right ?_ hstep
    rw [div_lt_iff₀ hd']
    have := Nat.lt_div_mul_add hd (a := n)
    rw [← Nat.succ_mul] at this
    exact_mod_cast this

/-- No point of a grid is nearer to a magnitude than the one that it is rounded to. -/
theorem nearestPoint_nearest (m : Magnitude) (scale : ℤ) (k : Nat) :
    |m.value - m.nearestPoint scale * 10 ^ scale| ≤ |m.value - k * 10 ^ scale| := by
  obtain ⟨hd, hvalue⟩ := m.overPowerOfTen_spec scale
  have hstep : (0 : ℚ) < 10 ^ scale := zpow_pos (by norm_num) scale
  rw [hvalue, nearestPoint]
  generalize (m.overPowerOfTen scale).1 = n at *
  generalize (m.overPowerOfTen scale).2 = d at *
  have hd' : (0 : ℚ) < d := by exact_mod_cast hd
  have hdistance : ∀ j : Nat, |(n / d * 10 ^ scale - j * 10 ^ scale : ℚ)| =
      (|(n : ℤ) - (j * d : Nat)| : ℤ) / d * 10 ^ scale := by
    intro j
    have hsub : (n / d * 10 ^ scale - j * 10 ^ scale : ℚ) = (n - j * d) / d * 10 ^ scale := by
      field_simp
    rw [hsub, abs_mul, abs_div, abs_of_pos hd', abs_of_pos hstep]
    push_cast
    rfl
  rw [hdistance, hdistance]
  refine mul_le_mul_of_nonneg_right (div_le_div_of_nonneg_right ?_ hd'.le) hstep.le
  exact_mod_cast (roundDiv_nearest n k hd).1

/-- A magnitude is rounded to one of its two neighbours on a grid. -/
theorem nearestPoint_cases (m : Magnitude) (scale : ℤ) :
    m.nearestPoint scale = m.pointBelow scale ∨ m.nearestPoint scale = m.pointBelow scale + 1 := by
  unfold nearestPoint pointBelow roundDiv
  dsimp only
  split_ifs <;> simp

/-- If any point of a grid is read back, then one of the two neighbours that is no farther. -/
theorem IsRoundingOf.neighbour {k : Nat} {scale : ℤ} (hk : m.IsRoundingOf (k * 10 ^ scale)) :
    ∃ c, (c = m.pointBelow scale ∨ c = m.pointBelow scale + 1) ∧
      m.IsRoundingOf (c * 10 ^ scale) ∧
        |m.value - c * 10 ^ scale| ≤ |m.value - k * 10 ^ scale| := by
  obtain ⟨hbelow, habove⟩ := m.pointBelow_spec scale
  have hstep : (0 : ℚ) ≤ 10 ^ scale := zpow_nonneg (by norm_num) scale
  have hmono : ∀ {i j : Nat}, i ≤ j → (i * 10 ^ scale : ℚ) ≤ j * 10 ^ scale := fun h =>
    mul_le_mul_of_nonneg_right (by exact_mod_cast h) hstep
  have hself := m.isRoundingOf_value
  rcases Nat.lt_or_ge (m.pointBelow scale) k with hlt | hle
  · have hfar := hmono hlt
    refine ⟨_, .inr rfl, hself.of_between hk m.value_nonneg habove.le hfar, ?_⟩
    rw [abs_of_nonpos (by linarith), abs_of_nonpos (by linarith)]
    linarith
  · have hfar := hmono hle
    refine ⟨_, .inl rfl, hk.of_between hself (decimal_nonneg k scale) hfar hbelow, ?_⟩
    rw [abs_of_nonneg (by linarith), abs_of_nonneg (by linarith)]
    linarith

/-- The search on a grid tries the nearer neighbour first and then the other one. -/
theorem onGrid?_eq (m : Magnitude) (scale : ℤ) :
    ∃ other, (∀ c, c = m.pointBelow scale ∨ c = m.pointBelow scale + 1 →
        c = m.nearestPoint scale ∨ c = other) ∧
      m.onGrid? scale =
        if ofDecimal? (m.nearestPoint scale) scale = some m then some (m.nearestPoint scale)
        else if ofDecimal? other scale = some m then some other else none := by
  by_cases hbelow : m.nearestPoint scale = m.pointBelow scale
  · refine ⟨m.pointBelow scale + 1, fun c hc => by rwa [hbelow], ?_⟩
    rw [hbelow]
    exact if_pos hbelow
  · have habove := (m.nearestPoint_cases scale).resolve_left hbelow
    refine ⟨m.pointBelow scale, fun c hc => by rw [habove]; exact hc.symm, ?_⟩
    rw [habove]
    exact if_neg hbelow

/-- **What is found on a grid is the nearest point that is read back.** -/
theorem isBestOnGrid_of_onGrid? {c : Nat} {scale : ℤ} (h : m.onGrid? scale = some c) :
    m.IsBestOnGrid scale c := by
  obtain ⟨other, hneighbours, hsearch⟩ := m.onGrid?_eq scale
  rw [hsearch] at h
  split_ifs at h with hnear hother
  · obtain rfl := Option.some.inj h
    exact ⟨ofDecimal?_eq_some_iff.mp hnear, fun k _ => m.nearestPoint_nearest scale k⟩
  · obtain rfl := Option.some.inj h
    refine ⟨ofDecimal?_eq_some_iff.mp hother, fun k hk => ?_⟩
    obtain ⟨c, hc, hread, hle⟩ := hk.neighbour
    rcases hneighbours c hc with rfl | rfl
    · exact absurd (ofDecimal?_eq_some_iff.mpr hread) hnear
    · exact hle

/-- **If nothing is found on a grid then no point of it is read back.** -/
theorem not_isRoundingOf_of_onGrid? {scale : ℤ} (h : m.onGrid? scale = none) (k : Nat) :
    ¬ m.IsRoundingOf (k * 10 ^ scale) := by
  intro hk
  obtain ⟨other, hneighbours, hsearch⟩ := m.onGrid?_eq scale
  rw [hsearch] at h
  obtain ⟨c, hc, hread, -⟩ := hk.neighbour
  rw [← ofDecimal?_eq_some_iff] at hread
  split_ifs at h with hnear hother
  rcases hneighbours c hc with rfl | rfl
  · exact hnear hread
  · exact hother hread

/-! ## The search -/

/-- A nearest point of a grid is at most half a step away. -/
theorem abs_sub_nearestPoint_le (m : Magnitude) (scale : ℤ) :
    |m.value - m.nearestPoint scale * 10 ^ scale| * 2 ≤ 10 ^ scale := by
  obtain ⟨hbelow, habove⟩ := m.pointBelow_spec scale
  have hnear_below := m.nearestPoint_nearest scale (m.pointBelow scale)
  have hnear_above := m.nearestPoint_nearest scale (m.pointBelow scale + 1)
  rw [abs_of_nonneg (sub_nonneg.mpr hbelow)] at hnear_below
  rw [abs_of_neg (sub_neg.mpr habove)] at hnear_above
  push_cast at hnear_above
  linarith

/-- **Seventeen digits suffice.** The grid is fine enough for its point nearest to a magnitude to be
read back. -/
theorem isRoundingOf_nearestPoint (hm : m.units ≠ 0) :
    m.IsRoundingOf (m.nearestPoint (m.decimalExponent - 16) * 10 ^ (m.decimalExponent - 16)) := by
  obtain ⟨hlow, -⟩ := decimalExponent_spec hm
  have hhalf := m.abs_sub_nearestPoint_le (m.decimalExponent - 16)
  have hpos : 0 < m.value := lt_of_lt_of_le (zpow_pos (by norm_num) _) hlow
  have hstep : (10 : ℚ) ^ (m.decimalExponent - 16) * 10 ^ 16 ≤ m.value := by
    have hpower := pow_eq_point 16 (m.decimalExponent - 16)
    rw [Nat.cast_ofNat, sub_add_cancel, Nat.cast_pow, Nat.cast_ofNat] at hpower
    rwa [mul_comm, ← hpower]
  refine isRoundingOf_of_close (decimal_nonneg _ _) hpos ?_
  linarith

/-- The first of some attempts that succeeds. -/
theorem exists_first_of_findSome? {α : Type} {f : Nat → Option α} {n : Nat} {x : α}
    (h : (List.range n).findSome? f = some x) :
    ∃ k < n, f k = some x ∧ ∀ i < k, f i = none := by
  induction n with
  | zero => cases h
  | succ n ih =>
    rw [List.range_succ, List.findSome?_append] at h
    cases hfound : (List.range n).findSome? f with
    | some y =>
      rw [hfound] at h
      obtain ⟨k, hk, hx, hfirst⟩ := ih (hfound.trans h)
      exact ⟨k, by omega, hx, hfirst⟩
    | none =>
      rw [hfound] at h
      rw [List.findSome?_eq_none_iff] at hfound
      exact ⟨n, by omega, by simpa using h, fun i hi => hfound i (List.mem_range.mpr hi)⟩

/-- The search ends on the first grid that has a point which is read back. -/
theorem exists_shortest (hm : m.units ≠ 0) :
    ∃ (k : Nat) (coefficient : Nat), m.shortest = (coefficient, m.decimalExponent - k) ∧
      m.onGrid? (m.decimalExponent - k) = some coefficient ∧
        ∀ i < k, m.onGrid? (m.decimalExponent - i) = none := by
  have hshortest : m.shortest = ((List.range 17).findSome? fun k : Nat =>
      (m.onGrid? (m.decimalExponent - k)).map (·, m.decimalExponent - k)).getD (0, 0) := rfl
  cases hfound : (List.range 17).findSome? fun k : Nat =>
      (m.onGrid? (m.decimalExponent - k)).map (·, m.decimalExponent - k) with
  | none =>
    have hnone := List.findSome?_eq_none_iff.mp hfound 16 (by decide)
    rw [Option.map_eq_none_iff] at hnone
    exact absurd (isRoundingOf_nearestPoint hm) (not_isRoundingOf_of_onGrid? hnone _)
  | some pair =>
    obtain ⟨k, -, hk, hfirst⟩ := exists_first_of_findSome? hfound
    obtain ⟨coefficient, hc, rfl⟩ := Option.map_eq_some_iff.mp hk
    refine ⟨k, coefficient, by rw [hshortest, hfound]; rfl, hc, fun i hi => ?_⟩
    exact Option.map_eq_none_iff.mp (hfirst i hi)

/-- Another decimal that is read back has a point of the grid for its number of digits that is no
farther from the magnitude.

**Proof sketch.** If the decimal is no point of that grid, then its last digit stands lower, so that
all of it is below the power of ten of the leading digit of the magnitude. That power is a point of
the grid, and no farther. -/
theorem IsRoundingOf.exists_point {coefficient k : Nat} {scale : ℤ} (hm : m.units ≠ 0)
    (hlt : coefficient < 10 ^ (k + 1)) (h : m.IsRoundingOf (coefficient * 10 ^ scale)) :
    ∃ i : Nat, m.IsRoundingOf (i * 10 ^ (m.decimalExponent - k)) ∧
      |m.value - i * 10 ^ (m.decimalExponent - k)| ≤ |m.value - coefficient * 10 ^ scale| := by
  obtain ⟨hlow, -⟩ := decimalExponent_spec hm
  by_cases hscale : m.decimalExponent - k ≤ scale
  · obtain ⟨j, rfl⟩ : ∃ j : Nat, scale = m.decimalExponent - k + j :=
      ⟨(scale - (m.decimalExponent - k)).toNat, by omega⟩
    rw [decimal_scale_add] at h ⊢
    exact ⟨_, h, le_rfl⟩
  · have hpower := pow_eq_point k (m.decimalExponent - k)
    rw [sub_add_cancel] at hpower
    have hbelow : (coefficient * 10 ^ scale : ℚ) ≤ 10 ^ m.decimalExponent := by
      calc (coefficient * 10 ^ scale : ℚ) ≤ (10 ^ (k + 1) : Nat) * 10 ^ scale := by
            refine mul_le_mul_of_nonneg_right ?_ (zpow_nonneg (by norm_num) _)
            exact_mod_cast hlt.le
        _ = 10 ^ (scale + (k + 1 : Nat)) := (pow_eq_point _ _).symm
        _ ≤ 10 ^ m.decimalExponent := zpow_le_zpow_right₀ (by norm_num) (by omega)
    rw [hpower] at hlow hbelow
    refine ⟨10 ^ k, ?_, ?_⟩
    · exact h.of_between m.isRoundingOf_value (decimal_nonneg _ _) hbelow hlow
    · rw [abs_of_nonneg (by linarith), abs_of_nonneg (by linarith)]
      linarith

/-- The best point of a grid does not exceed the next power of ten, which is nearer than all points
beyond it. -/
theorem IsBestOnGrid.le_pow {coefficient k : Nat} (hm : m.units ≠ 0)
    (h : m.IsBestOnGrid (m.decimalExponent - k) coefficient) : coefficient ≤ 10 ^ (k + 1) := by
  obtain ⟨-, hhigh⟩ := decimalExponent_spec hm
  have hstep : (0 : ℚ) < 10 ^ (m.decimalExponent - k) := zpow_pos (by norm_num) _
  have hpower := pow_eq_point (k + 1) (m.decimalExponent - k)
  have hexponent : m.decimalExponent - k + (k + 1 : Nat) = m.decimalExponent + 1 := by
    push_cast
    ring
  rw [hexponent] at hpower
  rw [hpower] at hhigh
  by_contra hgt
  have hbeyond : ((10 ^ (k + 1) : Nat) * 10 ^ (m.decimalExponent - k) : ℚ) <
      coefficient * 10 ^ (m.decimalExponent - k) := by
    refine mul_lt_mul_of_pos_right ?_ hstep
    exact_mod_cast Nat.lt_of_not_le hgt
  have hread := m.isRoundingOf_value.of_between h.isRoundingOf m.value_nonneg hhigh.le hbeyond.le
  have hnearest := h.nearest _ hread
  rw [abs_of_neg (by linarith), abs_of_neg (by linarith)] at hnearest
  linarith

/-- **The decimal that is found is read back, and is the shortest and then nearest one that is.** It
has at most `k + 1` digits, unless it is a power of ten. A decimal that is read back has no fewer,
and is no nearer if it has as many. -/
theorem shortest_spec (hm : m.units ≠ 0) :
    ∃ k : Nat, m.shortest.1 ≤ 10 ^ (k + 1) ∧
      m.IsRoundingOf (m.shortest.1 * 10 ^ m.shortest.2) ∧
      ∀ (i coefficient : Nat) (scale : ℤ), coefficient < 10 ^ (i + 1) →
        m.IsRoundingOf (coefficient * 10 ^ scale) →
          k ≤ i ∧ (i = k → |m.value - m.shortest.1 * 10 ^ m.shortest.2| ≤
            |m.value - coefficient * 10 ^ scale|) := by
  obtain ⟨k, c, hshortest, hfound, hfirst⟩ := exists_shortest hm
  have hbest := isBestOnGrid_of_onGrid? hfound
  rw [hshortest]
  refine ⟨k, hbest.le_pow hm, hbest.isRoundingOf, fun i coefficient scale hlt h => ?_⟩
  obtain ⟨j, hj, hle⟩ := h.exists_point hm hlt
  constructor
  · by_contra hik
    exact not_isRoundingOf_of_onGrid? (hfirst i (by omega)) j hj
  · rintro rfl
    exact (hbest.nearest j hj).trans hle

end Magnitude

end Winnow

import Mathlib.Data.List.DropRight
import Winnow.Proofs.Number.Shortest

set_option autoImplicit false

/-!
# Rendered numbers

A finite number is rendered as a spelling of its shortest decimal, with its sign. So the rendering
is read back as the number, with the fewest significant digits that a spelling of it can have, and
none with as many is nearer.

## Main definitions

* `Winnow.significant`, `Winnow.Spelling.significantDigits` — the digits that count.
* `Winnow.Digits.ofNat` — the decimal digits of a natural number.

## Main results

* `Winnow.Spelling.exists_reduced` — a spelling as a decimal with just its significant digits.
* `Winnow.exists_positional`, `Winnow.exists_scientific` — both layouts are spellings.
* `Winnow.Binary64.exists_rendering` — a rendering as a spelling.
* `Winnow.Binary64.rendering_is_shortest` — it has the fewest significant digits, and is nearest.
-/

namespace Winnow

/-! ## Digits -/

namespace Numeral

variable {ds : List Nat}

/-- The first digits count for more. -/
theorem ofDigits_append (ds es : List Nat) :
    ofDigits (ds ++ es) = ofDigits ds * 10 ^ es.length + ofDigits es := by
  rw [ofDigits_eq, ofDigits_eq, ofDigits_eq, List.reverse_append, Nat.ofDigits_append,
    List.length_reverse]
  ring

@[simp] theorem ofDigits_nil : ofDigits [] = 0 := rfl

@[simp] theorem ofDigits_zero_cons (ds : List Nat) : ofDigits (0 :: ds) = ofDigits ds := rfl

@[simp] theorem ofDigits_replicate_zero (n : Nat) : ofDigits (List.replicate n 0) = 0 := by
  rw [ofDigits_eq, List.reverse_replicate, Nat.ofDigits_replicate_zero]

/-- So many digits stand for less than a power of ten. -/
theorem ofDigits_lt (h : ∀ d ∈ ds, d < 10) : ofDigits ds < 10 ^ ds.length := by
  rw [ofDigits_eq, ← List.length_reverse]
  exact Nat.ofDigits_lt_base_pow_length (by decide) fun d hd => h d (List.mem_reverse.mp hd)

end Numeral

/-- Digits without the zeros before the first other one and after the last other one. -/
def significant (ds : List Nat) : List Nat :=
  (ds.dropWhile (· == 0)).rdropWhile (· == 0)

/-- Digits are zeros, the significant ones, and zeros. -/
theorem exists_eq_significant (ds : List Nat) :
    ∃ before after,
      ds = List.replicate before 0 ++ significant ds ++ List.replicate after 0 := by
  have hzeros : ∀ zs : List Nat, (∀ d ∈ zs, (d == 0) = true) → zs = List.replicate zs.length 0 :=
    fun zs hzs => List.eq_replicate_of_mem fun d hd => beq_iff_eq.mp (hzs d hd)
  have hbefore := hzeros (ds.takeWhile (· == 0)) fun _ => List.mem_takeWhile_imp
  have hafter := hzeros ((ds.dropWhile (· == 0)).rtakeWhile (· == 0)) fun _ =>
    List.mem_rtakeWhile_imp
  refine ⟨(ds.takeWhile (· == 0)).length, ((ds.dropWhile (· == 0)).rtakeWhile (· == 0)).length, ?_⟩
  rw [← hbefore, ← hafter, significant, List.append_assoc, List.rdropWhile_append_rtakeWhile,
    List.takeWhile_append_dropWhile]

/-- Digits stand for what the significant ones among them stand for, times a power of ten. -/
theorem exists_ofDigits_eq (ds : List Nat) :
    ∃ after : Nat, Numeral.ofDigits ds = Numeral.ofDigits (significant ds) * 10 ^ after := by
  obtain ⟨before, after, hds⟩ := exists_eq_significant ds
  refine ⟨after, ?_⟩
  have hvalue := congrArg Numeral.ofDigits hds
  simpa [Numeral.ofDigits_append] using hvalue

/-- Significant digits are digits. -/
theorem lt_of_mem_significant {ds : List Nat} (h : ∀ d ∈ ds, d < 10) :
    ∀ d ∈ significant ds, d < 10 := by
  intro d hd
  have hfront : significant ds <+: ds.dropWhile (· == 0) := List.rdropWhile_prefix _ _
  exact h d ((List.dropWhile_suffix _).subset (hfront.subset hd))

/-- Significant digits stand for a number of just as many digits, which ends in no zero. -/
theorem significant_spec {ds : List Nat} (h : ∀ d ∈ ds, d < 10) (hnil : significant ds ≠ []) :
    10 ^ (significant ds).length ≤ 10 * Numeral.ofDigits (significant ds) ∧
      Numeral.ofDigits (significant ds) % 10 ≠ 0 := by
  have hfront : significant ds <+: ds.dropWhile (· == 0) := List.rdropWhile_prefix _ _
  constructor
  · have hfirst : (significant ds).head hnil ≠ 0 := by
      rw [hfront.head hnil]
      simpa using List.head_dropWhile_not (· == 0) (hfront.ne_nil hnil)
    cases hds : significant ds with
    | nil => exact absurd hds hnil
    | cons d es =>
      have hd : d ≠ 0 := by simpa [hds] using hfirst
      rw [← List.singleton_append, Numeral.ofDigits_append, List.length_append,
        List.length_singleton, pow_add, pow_one]
      have hone : Numeral.ofDigits [d] = d := by simp [Numeral.ofDigits]
      have hpower := Nat.le_mul_of_pos_left (10 ^ es.length) (Nat.pos_of_ne_zero hd)
      rw [hone]
      omega
  · have hlast : (significant ds).getLast hnil ≠ 0 := by
      intro hzero
      exact List.rdropWhile_last_not (· == 0) (ds.dropWhile (· == 0)) hnil (beq_iff_eq.mpr hzero)
    have hten := lt_of_mem_significant h _ (List.getLast_mem hnil)
    rw [← List.dropLast_append_getLast hnil, Numeral.ofDigits_append]
    simp [Numeral.ofDigits]
    omega

/-! ## Spellings as decimals -/

/-- The values of digits. -/
theorem Digits.values_lt (ds : Digits) : ∀ d ∈ ds.values, d < 10 := by
  intro d hd
  obtain ⟨c, hc, rfl⟩ := List.mem_map.mp hd
  exact (Text.plainDigit_of_isDigit (ds.isDigit c hc)).2

/-- The digits of a spelling, before and after the point. -/
def Spelling.digits : Spelling → List Nat
  | .decimal _ mantissa _ => mantissa.whole.values ++ mantissa.fractionValues
  | .infinity _ => []

/-- How many significant digits a spelling has. -/
def Spelling.significantDigits (w : Spelling) : Nat :=
  (significant w.digits).length

/-- The digits of a spelling are digits. -/
theorem Spelling.digits_lt (w : Spelling) : ∀ d ∈ w.digits, d < 10 := by
  intro d hd
  cases w with
  | infinity mark => cases hd
  | decimal mark mantissa exponent? =>
    rcases List.mem_append.mp hd with hd | hd
    · exact mantissa.whole.values_lt d hd
    · rw [Mantissa.fractionValues] at hd
      cases hf : mantissa.fraction? with
      | none => rw [hf] at hd; cases hd
      | some ds => rw [hf] at hd; exact ds.values_lt d hd

/-- The number nearest to a decimal is finite with a magnitude exactly if the decimal is rounded to
that magnitude. -/
theorem Binary64.ofDecimal_eq_finite_iff {negative sign : Bool} {coefficient : Nat} {scale : Int}
    {m : Magnitude} :
    ofDecimal negative coefficient scale = .finite sign m ↔
      negative = sign ∧ m.IsRoundingOf (coefficient * 10 ^ scale) := by
  rw [← Magnitude.ofDecimal?_eq_some_iff, ofDecimal]
  cases Magnitude.ofDecimal? coefficient scale <;> simp

/-- **A spelling as a decimal with just its significant digits.** The decimal has as many digits as
are significant, and ends in no zero if there are any. -/
theorem Spelling.exists_reduced {w : Spelling} (hw : ∀ mark, w ≠ .infinity mark) :
    ∃ (coefficient : Nat) (scale : ℤ),
      w.exactValue = .signed w.isNegative (coefficient * 10 ^ scale) ∧
      (∀ sign m, w.numeral.value = .finite sign m ↔
        w.isNegative = sign ∧ m.IsRoundingOf (coefficient * 10 ^ scale)) ∧
      coefficient < 10 ^ w.significantDigits ∧
      (w.significantDigits ≠ 0 →
        10 ^ w.significantDigits ≤ 10 * coefficient ∧ coefficient % 10 ≠ 0) := by
  have hlt := Numeral.ofDigits_lt (lt_of_mem_significant w.digits_lt)
  have hspec : w.significantDigits ≠ 0 → _ := fun hne =>
    significant_spec w.digits_lt (List.ne_nil_of_length_pos (Nat.pos_of_ne_zero hne))
  obtain ⟨after, hvalue⟩ := exists_ofDigits_eq w.digits
  have hexact := w.exactValue?_numeral
  cases w with
  | infinity mark => exact absurd rfl (hw mark)
  | decimal mark mantissa exponent? =>
    obtain ⟨scale, hscale⟩ : ∃ scale : ℤ,
        Exponent.optionalPower exponent? - mantissa.fractionValues.length = scale := ⟨_, rfl⟩
    have hnumeral : (decimal mark mantissa exponent?).numeral =
        .decimal mark.negative (Numeral.ofDigits (decimal mark mantissa exponent?).digits)
          scale := by
      rw [← hscale]
      rfl
    have hreduced : (Numeral.ofDigits (decimal mark mantissa exponent?).digits * 10 ^ scale : ℚ) =
        Numeral.ofDigits (significant (decimal mark mantissa exponent?).digits) *
          10 ^ (scale + after) := by
      rw [hvalue, decimal_scale_add]
    refine ⟨_, scale + after, ?_, fun sign m => ?_, hlt, hspec⟩
    · rw [hnumeral] at hexact
      rw [← hreduced]
      exact (Option.some.inj hexact).symm
    · rw [hnumeral, ← hreduced]
      exact Binary64.ofDecimal_eq_finite_iff

/-- A decimal that ends in no zero has no more digits than another one of the same value. -/
theorem length_le_of_decimal_eq {c d n k : Nat} {scale other : ℤ}
    (h : (c * 10 ^ scale : ℚ) = d * 10 ^ other) (hlength : 10 ^ n ≤ 10 * c) (hten : c % 10 ≠ 0)
    (hlt : d < 10 ^ k) : n ≤ k := by
  have hcancel : ∀ {a b j : Nat} {e : ℤ}, (a * 10 ^ e : ℚ) = b * 10 ^ (e + j) → a = b * 10 ^ j := by
    intro a b j e h
    have hne : (10 : ℚ) ^ e ≠ 0 := zpow_ne_zero _ (by norm_num)
    rw [decimal_scale_add] at h
    exact_mod_cast mul_right_cancel₀ hne h
  rcases le_or_gt other scale with hle | hlt'
  · obtain ⟨j, rfl⟩ : ∃ j : Nat, scale = other + j := ⟨(scale - other).toNat, by omega⟩
    have hd := hcancel h.symm
    have hc : c ≤ d := hd ▸ Nat.le_mul_of_pos_right c (Nat.pow_pos (by decide))
    have hpow : 10 ^ n < 10 ^ (k + 1) := by
      rw [pow_succ]
      omega
    exact Nat.lt_succ_iff.mp ((Nat.pow_lt_pow_iff_right (by decide)).mp hpow)
  · obtain ⟨j, rfl⟩ : ∃ j : Nat, other = scale + (j + 1 : Nat) :=
      ⟨(other - scale - 1).toNat, by omega⟩
    have hc := hcancel h
    rw [pow_succ, ← Nat.mul_assoc] at hc
    omega

/-! ## Layouts -/

namespace Digits

/-- The decimal digits of a natural number. -/
def ofNat (n : Nat) : Digits where
  chars := decimalDigits n
  isDigit c hc := by
    have hplain := Nat.isDigit_of_mem_toDigits (by decide) (by decide) hc
    rw [Text.isDigit, Text.digitValue?_of_isDigit hplain]
    rfl

/-- The decimal digits of a natural number stand for it. -/
theorem ofDigits_ofNat (n : Nat) : Numeral.ofDigits (ofNat n).values = n := by
  have hvalues : (ofNat n).values = (Nat.toDigits 10 n).map fun c => c.toNat - '0'.toNat := by
    refine List.map_congr_left fun c hc => ?_
    rw [Text.digitValue, Text.digitValue?_of_isDigit
      (Nat.isDigit_of_mem_toDigits (by decide) (by decide) hc), Option.getD_some]
  rw [hvalues, Numeral.ofDigits, List.foldl_map, ← Nat.ofDigitChars_eq_foldl,
    Nat.ofDigitChars_toDigits (by decide) (by decide)]

/-- Zeros. -/
def zeros (n : Nat) : Digits where
  chars := List.replicate n '0'
  isDigit c hc := by
    rw [(List.mem_replicate.mp hc).2]
    decide +kernel

/-- Digits, and then others. -/
def append (ds es : Digits) : Digits where
  chars := ds.chars ++ es.chars
  isDigit c hc := (List.mem_append.mp hc).elim (ds.isDigit c) (es.isDigit c)

@[simp] theorem values_zeros (n : Nat) : (zeros n).values = List.replicate n 0 := by
  have hzero : Text.digitValue '0' = 0 := by decide +kernel
  rw [values, zeros, List.map_replicate, hzero]

@[simp] theorem values_append (ds es : Digits) : (ds.append es).values = ds.values ++ es.values :=
  List.map_append

@[simp] theorem length_values (ds : Digits) : ds.values.length = ds.chars.length :=
  List.length_map _

end Digits

/-- The digits of a natural number without the zeros at the end. -/
theorem exists_trimmed {n : Nat} (hn : n ≠ 0) :
    ∃ (ds : Digits) (after : Nat),
      ds.chars = ((decimalDigits n).reverse.dropWhile (· == '0')).reverse ∧ ds.chars ≠ [] ∧
      (decimalDigits n).length = ds.chars.length + after ∧
      n = Numeral.ofDigits ds.values * 10 ^ after := by
  have hsplit := List.rdropWhile_append_rtakeWhile (p := (· == '0')) (l := decimalDigits n)
  have hzeros : (decimalDigits n).rtakeWhile (· == '0') =
      List.replicate ((decimalDigits n).rtakeWhile (· == '0')).length '0' :=
    List.eq_replicate_of_mem fun c hc => beq_iff_eq.mp
      (List.mem_rtakeWhile_imp (p := (· == '0')) hc)
  generalize ((decimalDigits n).rtakeWhile (· == '0')).length = after at *
  have hfront : (decimalDigits n).rdropWhile (· == '0') <+: decimalDigits n :=
    List.rdropWhile_prefix _ _
  obtain ⟨ds, hds⟩ : ∃ ds : Digits, ds.chars = (decimalDigits n).rdropWhile (· == '0') :=
    ⟨⟨_, fun c hc => (Digits.ofNat n).isDigit c (hfront.subset hc)⟩, rfl⟩
  rw [hzeros, ← hds] at hsplit
  have hvalue : n = Numeral.ofDigits ds.values * 10 ^ after := by
    have happend : (ds.append (.zeros after)).values = (Digits.ofNat n).values :=
      congrArg (List.map Text.digitValue) hsplit
    rw [← Digits.ofDigits_ofNat n, ← happend]
    simp [Numeral.ofDigits_append]
  refine ⟨ds, after, hds, fun hnil => ?_, ?_, hvalue⟩
  · rw [Digits.values, hnil] at hvalue
    exact hn (hvalue.trans (Nat.zero_mul _))
  · rw [← hsplit, List.length_append, List.length_replicate]

/-- The value of digits with a point between them. -/
theorem Mantissa.exactValue_point {whole fraction : Digits}
    (h : whole.chars ≠ [] ∨ ∃ ds, some fraction = some ds ∧ ds.chars ≠ []) {n : Nat} (after : Nat)
    {e : ℤ} (hvalue : Numeral.ofDigits (whole.values ++ fraction.values) = n * 10 ^ after)
    (he : e = after - fraction.chars.length) :
    (⟨whole, some fraction, h⟩ : Mantissa).exactValue = n * 10 ^ e := by
  have hfraction : (⟨whole, some fraction, h⟩ : Mantissa).fractionValues = fraction.values := rfl
  rw [exactValue_eq, hfraction, hvalue, he, Digits.length_values, zpow_sub₀ (by norm_num),
    zpow_natCast, zpow_natCast]
  push_cast
  rw [mul_div_assoc]

/-- **The positional layout is a spelling of digits whose leading one has the given exponent.** -/
theorem exists_positional {ds : Digits} (hne : ds.chars ≠ []) (e : ℤ) :
    ∃ m : Mantissa, m.text = positional ds.chars e ∧
      m.exactValue = Numeral.ofDigits ds.values * 10 ^ (e + 1 - ds.chars.length) := by
  cases e with
  | negSucc k =>
    refine ⟨⟨.zeros 1, some ((Digits.zeros k).append ds), .inl (by simp [Digits.zeros])⟩, rfl,
      Mantissa.exactValue_point _ 0 ?_ ?_⟩
    · simp [Numeral.ofDigits_append]
    · simp [Digits.append, Digits.zeros]
      omega
  | ofNat e =>
    rw [positional]
    split_ifs with hlength
    · refine ⟨⟨ds.append (.zeros (e + 1 - ds.chars.length)), some (.zeros 1),
        .inl (by simp [Digits.append, hne])⟩, ?_,
        Mantissa.exactValue_point _ (e + 1 - ds.chars.length + 1) ?_ ?_⟩
      · simp [Mantissa.text, Digits.append, Digits.zeros, Digits.afterPoint]
      · simp [Numeral.ofDigits_append, pow_succ]
      · simp [Digits.zeros]
        omega
    · have htake : ∀ c ∈ ds.chars.take (e + 1), Text.isDigit c = true := fun c hc =>
        ds.isDigit c (List.mem_of_mem_take hc)
      have hdrop : ∀ c ∈ ds.chars.drop (e + 1), Text.isDigit c = true := fun c hc =>
        ds.isDigit c (List.mem_of_mem_drop hc)
      refine ⟨⟨⟨_, htake⟩, some ⟨_, hdrop⟩, .inl (by simp [hne])⟩, rfl,
        Mantissa.exactValue_point _ 0 ?_ ?_⟩
      · simp [Digits.values]
      · simp
        omega

/-- The exponent of a layout is written with a sign and at least two digits. -/
theorem exists_exponent (e : ℤ) :
    ∃ power : Exponent, power.power = e ∧
      power.text = 'e' :: (if e < 0 then '-' else '+') ::
        (if (decimalDigits e.natAbs).length < 2 then '0' :: decimalDigits e.natAbs
          else decimalDigits e.natAbs) := by
  obtain ⟨size, hsize, hvalue⟩ : ∃ size : Digits,
      size.chars = (if (decimalDigits e.natAbs).length < 2 then '0' :: decimalDigits e.natAbs
        else decimalDigits e.natAbs) ∧ Numeral.ofDigits size.values = e.natAbs := by
    split_ifs
    · exact ⟨(Digits.zeros 1).append (.ofNat e.natAbs), rfl, by simp [Digits.ofDigits_ofNat]⟩
    · exact ⟨.ofNat e.natAbs, rfl, Digits.ofDigits_ofNat _⟩
  have hne : size.chars ≠ [] := by
    have hdigits : decimalDigits e.natAbs ≠ [] := Nat.toDigits_ne_nil
    rw [hsize]
    split_ifs
    · exact List.cons_ne_nil _ _
    · exact hdigits
  by_cases hneg : e < 0
  · refine ⟨⟨false, .minus, size, hne⟩, ?_, ?_⟩
    · show -(Numeral.ofDigits size.values : ℤ) = e
      omega
    · rw [Exponent.text, hsize, if_pos hneg]
      rfl
  · refine ⟨⟨false, .plus, size, hne⟩, ?_, ?_⟩
    · show (Numeral.ofDigits size.values : ℤ) = e
      omega
    · rw [Exponent.text, hsize, if_neg hneg]
      rfl

/-- **The layout with an exponent is a spelling of digits whose leading one has that exponent.** -/
theorem exists_scientific {ds : Digits} (hne : ds.chars ≠ []) (e : ℤ) :
    ∃ (m : Mantissa) (power : Exponent), m.text ++ power.text = scientific ds.chars e ∧
      m.exactValue = Numeral.ofDigits ds.values * 10 ^ (1 - ds.chars.length : ℤ) ∧
      power.power = e := by
  obtain ⟨power, hpower, htext⟩ := exists_exponent e
  obtain ⟨d, es, hchars⟩ := List.exists_cons_of_ne_nil hne
  have hfirst : ∀ c ∈ [d], Text.isDigit c = true := by
    intro c hc
    exact ds.isDigit c (hchars ▸ List.mem_cons.mpr (.inl (List.mem_singleton.mp hc)))
  have hothers : ∀ c ∈ es, Text.isDigit c = true := fun c hc =>
    ds.isDigit c (hchars ▸ List.mem_cons_of_mem d hc)
  have hvalues : ds.values = [Text.digitValue d] ++ es.map Text.digitValue := by
    rw [Digits.values, hchars]
    rfl
  cases es with
  | nil =>
    refine ⟨⟨⟨[d], hfirst⟩, none, .inl (by simp)⟩, power, ?_, ?_, hpower⟩
    · rw [htext, hchars]
      simp [Mantissa.text, Digits.afterPoint, scientific]
    · rw [Mantissa.exactValue_eq, hvalues, hchars]
      simp [Mantissa.fractionValues, Digits.optionalValues, Digits.values]
  | cons c cs =>
    refine ⟨⟨⟨[d], hfirst⟩, some ⟨c :: cs, hothers⟩, .inl (by simp)⟩, power, ?_,
      Mantissa.exactValue_point _ 0 ?_ ?_, hpower⟩
    · rw [htext, hchars]
      simp [Mantissa.text, Digits.afterPoint, scientific]
    · rw [hvalues]
      simp [Digits.values]
    · rw [hchars]
      simp

/-- **The rendering of a decimal is a spelling of it.** -/
theorem exists_renderDecimal {coefficient : Nat} (hne : coefficient ≠ 0) (scale : ℤ) :
    ∃ (m : Mantissa) (power? : Option Exponent),
      m.text ++ Exponent.optionalText power? = renderDecimal coefficient scale ∧
      m.exactValue * 10 ^ Exponent.optionalPower power? = coefficient * 10 ^ scale := by
  obtain ⟨ds, after, hchars, hnil, hlength, hvalue⟩ := exists_trimmed hne
  have hcoefficient : (coefficient * 10 ^ scale : ℚ) =
      Numeral.ofDigits ds.values * 10 ^ (scale + after) := by
    rw [decimal_scale_add, ← hvalue]
  have hexponent : scale + (decimalDigits coefficient).length - 1 + 1 - ds.chars.length =
      scale + after := by
    rw [hlength]
    push_cast
    ring
  rw [renderDecimal, ← hchars, hcoefficient, ← hexponent]
  generalize scale + ((decimalDigits coefficient).length : ℤ) - 1 = e
  split_ifs
  · obtain ⟨m, htext, hexact⟩ := exists_positional hnil e
    refine ⟨m, none, ?_, ?_⟩
    · rw [← htext]
      exact List.append_nil _
    · rw [hexact, Exponent.optionalPower, zpow_zero, mul_one]
  · obtain ⟨m, power, htext, hexact, hpower⟩ := exists_scientific hnil e
    refine ⟨m, some power, htext, ?_⟩
    rw [hexact, Exponent.optionalPower, hpower, mul_assoc, ← zpow_add₀ (by norm_num)]
    congr 2
    ring

/-! ## Numbers -/

/-- Distinct rational numbers are distinct exact values. -/
theorem Extended.ofRat_injective : Function.Injective ofRat := by
  intro p q h
  exact WithTop.coe_injective (WithBot.coe_injective h)

/-- Distinct rational numbers are so with a sign, too. -/
theorem Extended.signed_injective (negative : Bool) : Function.Injective (signed negative) := by
  intro p q h
  have h := ofRat_injective h
  cases negative
  · exact h
  · exact neg_injective h

open Magnitude

/-- The decimal that is found for a magnitude other than zero is not zero. -/
theorem Magnitude.shortest_ne_zero {m : Magnitude} (hm : m.units ≠ 0) : m.shortest.1 ≠ 0 := by
  obtain ⟨-, -, hread, -⟩ := shortest_spec hm
  intro hzero
  rw [hzero, Nat.cast_zero, zero_mul, IsRoundingOf, unitsOf_zero] at hread
  exact hm hread

/-- The value of the decimal that a magnitude is rendered as. -/
def Magnitude.renderedValue (m : Magnitude) : ℚ :=
  if m.units = 0 then 0 else m.shortest.1 * (10 : ℚ) ^ m.shortest.2

/-- A magnitude without its sign is rendered as digits, and an exponent if it has one. -/
theorem Magnitude.exists_body (m : Magnitude) :
    ∃ (mantissa : Mantissa) (power? : Option Exponent),
      mantissa.text ++ Exponent.optionalText power? =
        (if m.significand = 0 then ['0', '.', '0'] else
          renderDecimal m.shortest.1 m.shortest.2) ∧
      mantissa.exactValue * 10 ^ Exponent.optionalPower power? = m.renderedValue := by
  have hzero : m.units = 0 ↔ m.significand = 0 :=
    Nat.mul_eq_zero.trans (or_iff_left (Nat.two_pow_pos m.exponent).ne')
  unfold renderedValue
  by_cases hm : m.units = 0
  · rw [if_pos (hzero.mp hm), if_pos hm]
    refine ⟨⟨.zeros 1, some (.zeros 1), .inl (by simp [Digits.zeros])⟩, none, rfl, ?_⟩
    rw [Mantissa.exactValue_eq]
    simp [Mantissa.fractionValues, Digits.optionalValues]
  · rw [if_neg (hzero.not.mp hm), if_neg hm]
    exact exists_renderDecimal (shortest_ne_zero hm) m.shortest.2

/-- The rendering of a finite number, from its sign and its magnitude. -/
theorem Binary64.render_finite (negative : Bool) (m : Magnitude) :
    (finite negative m).render = String.ofList ((if negative then ['-'] else []) ++
      if m.significand = 0 then ['0', '.', '0'] else
        renderDecimal m.shortest.1 m.shortest.2) := by
  -- the search is never to be evaluated on the way
  obtain ⟨decimal, hdecimal⟩ : ∃ decimal, m.shortest = decimal := ⟨_, rfl⟩
  rw [render, hdecimal]

/-- **The rendering of a finite number is a spelling.** Zero is written as it is, any other number
as its shortest decimal, with the sign of the number. -/
theorem Binary64.exists_rendering (negative : Bool) (m : Magnitude) :
    ∃ w : Spelling, (∀ mark, w ≠ .infinity mark) ∧
      (finite negative m).render = String.ofList w.text ∧ w.isNegative = negative ∧
      w.exactValue = .signed negative m.renderedValue := by
  obtain ⟨mark, hsign, hnegative⟩ : ∃ mark : Mark,
      (if negative then ['-'] else []) = mark.text ∧ mark.negative = negative := by
    cases negative
    · exact ⟨.unmarked, rfl, rfl⟩
    · exact ⟨.minus, rfl, rfl⟩
  obtain ⟨mantissa, power?, htext, hvalue⟩ := m.exists_body
  refine ⟨.decimal mark mantissa power?, by simp, ?_, hnegative, ?_⟩
  · rw [render_finite, Spelling.text, htext, ← hsign]
  · rw [Spelling.exactValue, hnegative, hvalue]

/-- The decimal that a magnitude is rendered as is rounded to it. -/
theorem Magnitude.isRoundingOf_renderedValue (m : Magnitude) :
    m.IsRoundingOf m.renderedValue := by
  unfold renderedValue
  split_ifs with hm
  · exact hm.trans unitsOf_zero.symm
  · obtain ⟨-, -, hread, -⟩ := shortest_spec hm
    exact hread

/-- A spelling with the value of the decimal that a magnitude is rendered as has the fewest
significant digits of all decimals that are rounded to the magnitude, and none with as many is
nearer.

**Proof sketch.** The decimal that is found has `k + 1` digits, or is a power of ten with one, so
the spelling has at most `k + 1`. Any other one that is rounded to the magnitude has at least as
many, the spelling itself included. -/
theorem Magnitude.renderedValue_is_shortest {m : Magnitude} {c d n k : Nat} {scale other : ℤ}
    (hc : (c * 10 ^ scale : ℚ) = m.renderedValue)
    (hc_lt : c < 10 ^ n) (hc_le : n ≠ 0 → 10 ^ n ≤ 10 * c ∧ c % 10 ≠ 0)
    (hd : m.IsRoundingOf (d * 10 ^ other)) (hd_lt : d < 10 ^ k) :
    n ≤ k ∧ (k = n → |m.value - m.renderedValue| ≤ |m.value - d * 10 ^ other|) := by
  by_cases hm : m.units = 0
  · rw [renderedValue, if_pos hm] at hc ⊢
    have hvalue : m.value = 0 := by rw [value, hm, Nat.cast_zero, zero_div]
    have hzero : c = 0 := by
      have hpow : (10 : ℚ) ^ scale ≠ 0 := zpow_ne_zero _ (by norm_num)
      exact_mod_cast (mul_eq_zero.mp hc).resolve_right hpow
    have hn : n = 0 := by
      by_contra hn
      have := (hc_le hn).1
      have := Nat.pow_pos (n := n) (show 0 < 10 by decide)
      omega
    rw [hvalue, sub_zero, abs_zero]
    exact ⟨by omega, fun _ => abs_nonneg _⟩
  · have hpositive : ∀ {a l : Nat} {e : ℤ}, m.IsRoundingOf (a * 10 ^ e) → a < 10 ^ l → l ≠ 0 := by
      rintro a l e ha hlt rfl
      rw [show a = 0 by omega, Nat.cast_zero, zero_mul, IsRoundingOf, unitsOf_zero] at ha
      exact hm ha
    have hread := m.isRoundingOf_renderedValue
    rw [← hc] at hread
    have hn := hpositive hread hc_lt
    have hk := hpositive hd hd_lt
    obtain ⟨digits, hle, -, hbest⟩ := shortest_spec hm
    obtain ⟨i, rfl⟩ := Nat.exists_eq_succ_of_ne_zero hn
    obtain ⟨j, rfl⟩ := Nat.exists_eq_succ_of_ne_zero hk
    have hself := (hbest i c scale hc_lt hread).1
    obtain ⟨hother, hnearest⟩ := hbest j d other hd_lt hd
    rw [renderedValue, if_neg hm] at hc ⊢
    have hshort : i + 1 ≤ digits + 1 := by
      obtain ⟨hlength, hten⟩ := hc_le hn
      rcases hle.eq_or_lt with hpower | hlt
      · have hone : (c * 10 ^ scale : ℚ) =
            (1 : Nat) * 10 ^ (m.shortest.2 + (digits + 1 : Nat)) := by
          rw [hc, hpower, pow_eq_point, Nat.cast_one, one_mul]
        exact length_le_of_decimal_eq hone hlength hten (Nat.one_lt_pow (by omega) (by decide))
      · exact length_le_of_decimal_eq hc hlength hten hlt
    exact ⟨by omega, fun hj => hnearest (by omega)⟩

/-- How far a signed magnitude is from a rational number with its sign. -/
theorem Magnitude.abs_signedValue_sub {p : ℚ} (hp : 0 ≤ p) (negative : Bool) (m : Magnitude) :
    |signedValue negative m - if negative then -p else p| = |m.value - p| := by
  rw [abs_sub_comm, abs_sub_signedValue hp, if_pos rfl, abs_sub_comm]

/-- **The rendering of a finite number is its shortest spelling, and a nearest one of these.** It is
read back as the number, with its sign. -/
theorem Binary64.rendering_is_shortest (negative : Bool) (m : Magnitude) :
    ∃ (w : Spelling) (q : ℚ), w.Spells (finite negative m).render ∧
      w.numeral.value = .finite negative m ∧ w.exactValue = .ofRat q ∧
      ∀ (v : Spelling) (r : ℚ), v.numeral.value = .finite negative m → v.exactValue = .ofRat r →
        w.significantDigits ≤ v.significantDigits ∧
        (v.significantDigits = w.significantDigits →
          |signedValue negative m - q| ≤ |signedValue negative m - r|) := by
  obtain ⟨w, hinfinity, htext, hsign, hexact⟩ := exists_rendering negative m
  obtain ⟨c, scale, hreduced, hvalue, hlt, hle⟩ := Spelling.exists_reduced hinfinity
  have hsame : (c * 10 ^ scale : ℚ) = m.renderedValue := by
    rw [hreduced, hsign] at hexact
    exact Extended.signed_injective negative hexact
  have hnonneg : 0 ≤ m.renderedValue := hsame ▸ decimal_nonneg c scale
  refine ⟨w, if negative then -m.renderedValue else m.renderedValue, ⟨[], [], ?_⟩, ?_, hexact, ?_⟩
  · simp [htext]
  · exact (hvalue negative m).mpr ⟨hsign, hsame ▸ m.isRoundingOf_renderedValue⟩
  · intro v r hv hr
    obtain ⟨d, other, hreduced', hvalue', hlt', -⟩ := Spelling.exists_reduced (w := v) (by
      rintro mark rfl
      cases hv)
    obtain ⟨hsign', hread⟩ := (hvalue' negative m).mp hv
    obtain ⟨hshortest, hnearest⟩ := m.renderedValue_is_shortest hsame hlt hle hread hlt'
    refine ⟨hshortest, fun h => ?_⟩
    have hr' : r = if negative then -(d * 10 ^ other : ℚ) else d * 10 ^ other := by
      rw [hreduced', hsign'] at hr
      exact (Extended.ofRat_injective hr).symm
    rw [hr', abs_signedValue_sub hnonneg, abs_signedValue_sub (decimal_nonneg d other)]
    exact hnearest h

end Winnow

import Winnow.Number.Binary64

set_option autoImplicit false

/-!
# Rounding to binary64

The magnitude nearest to a quotient of natural numbers, a tie going to the even significand, and
the magnitude nearest to a decimal `coefficient * 10 ^ scale`.

## Main definitions

* `Winnow.roundDiv` — a quotient rounded to the nearest integer, ties to even.
* `Winnow.Magnitude.nearest?` — the magnitude nearest to a quotient, none if it is out of range.
* `Winnow.Magnitude.ofDecimal?` — the magnitude nearest to a decimal.
* `Winnow.Binary64.ofDecimal` — the number nearest to a signed decimal.

## Design

A quotient is first put on the grid of its own binade, `2 ^ (log2 - 52)` units wide, and rounded
there once. A decimal with a huge scale is decided without forming the power of ten: from `10 ^ 310`
on it is out of range, and below `2 ^ (-1076)` it is nearest to zero.
-/

namespace Winnow

/-- The quotient `n / d` rounded to the nearest integer, a tie going to the even one. -/
def roundDiv (n d : Nat) : Nat :=
  let quotient := n / d
  let remainder := n % d
  if 2 * remainder < d then quotient
  else if d < 2 * remainder then quotient + 1
  else if quotient % 2 = 0 then quotient
  else quotient + 1

namespace Magnitude

/-- The magnitude nearest to `n / d`, a tie going to the even significand; none if that is beyond
the largest magnitude. -/
def nearest? (n d : Nat) : Option Magnitude :=
  let exponent := (n * Nat.pow 2 1074 / d).log2 - 52
  let significand := roundDiv (n * Nat.pow 2 1074) (d * Nat.pow 2 exponent)
  if significand = Nat.pow 2 53 then make? (Nat.pow 2 52) (exponent + 1)
  else make? significand exponent

/-- The magnitude nearest to `coefficient * 10 ^ scale`; none if that is beyond the largest
magnitude. -/
def ofDecimal? (coefficient : Nat) (scale : Int) : Option Magnitude :=
  if coefficient = 0 then some zero
  else match scale with
    | .ofNat k => if 310 ≤ k then none else nearest? (coefficient * Nat.pow 10 k) 1
    | .negSucc k =>
      if coefficient.log2 + 1077 ≤ 3 * (k + 1) then some zero
      else nearest? coefficient (Nat.pow 10 (k + 1))

end Magnitude

/-- The number nearest to a signed decimal; out of range it is the infinity of that sign. -/
def Binary64.ofDecimal (negative : Bool) (coefficient : Nat) (scale : Int) : Binary64 :=
  match Magnitude.ofDecimal? coefficient scale with
  | some m => .finite negative m
  | none => .infinite negative

end Winnow

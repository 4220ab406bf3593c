import Winnow.Number.Rounding

set_option autoImplicit false

/-!
# Shortest decimals

The written form of a number: the fewest significant digits that read back as the same number, and
of those the nearest to it. The form is positional while the decimal exponent is from -4 to 15.

## Main definitions

* `Winnow.Magnitude.decimalExponent` — the exponent of the leading decimal digit.
* `Winnow.Magnitude.shortest` — the digits and the scale of the shortest decimal.
* `Winnow.Binary64.render` — the written form.

## Design

A decimal with a given number of digits lies on a grid. If any point of the grid reads back as the
number, then one of the two neighbours of the number on that grid does, so only these two are tried,
for one digit, two digits and so on. Seventeen digits always suffice.
-/

namespace Winnow

/-- The decimal digits of a natural number, most significant first. -/
def decimalDigits (n : Nat) : List Char :=
  Nat.toDigits 10 n

namespace Magnitude

/-- The exponent of the leading decimal digit of a magnitude that is not zero. No magnitude is below
`10 ^ (-324)`, so the digits of the value in units of that power are counted. -/
def decimalExponent (m : Magnitude) : Int :=
  ((decimalDigits (m.units * Nat.pow 10 324 / Nat.pow 2 1074)).length : Int) - 325

/-- The magnitude divided by `10 ^ scale`, as a quotient of natural numbers. -/
def overPowerOfTen (m : Magnitude) (scale : Int) : Nat × Nat :=
  match scale with
  | .ofNat k => (m.units, Nat.pow 2 1074 * Nat.pow 10 k)
  | .negSucc k => (m.units * Nat.pow 10 (k + 1), Nat.pow 2 1074)

/-- The decimal on the grid of step `10 ^ scale` that reads back as the magnitude, if there is one;
of two the nearer, and of two equally near the one with the even last digit. -/
def onGrid? (m : Magnitude) (scale : Int) : Option Nat :=
  let (n, d) := m.overPowerOfTen scale
  let below := n / d
  let above := below + 1
  if roundDiv n d = below then
    if ofDecimal? below scale = some m then some below
    else if ofDecimal? above scale = some m then some above
    else none
  else
    if ofDecimal? above scale = some m then some above
    else if ofDecimal? below scale = some m then some below
    else none

/-- The coefficient and the scale of the shortest decimal that reads back as the magnitude. -/
def shortest (m : Magnitude) : Nat × Int :=
  let leading := m.decimalExponent
  let attempt := fun (digits : Nat) =>
    let scale := leading - digits
    (m.onGrid? scale).map (·, scale)
  ((List.range 17).findSome? attempt).getD (0, 0)

end Magnitude

/-! ## Written form -/

/-- The positional form of digits whose leading one has the given exponent. There is at least one
digit on either side of the point. -/
def positional (digits : List Char) : Int → List Char
  | .negSucc k => '0' :: '.' :: List.replicate k '0' ++ digits
  | .ofNat e =>
    if digits.length ≤ e + 1 then
      digits ++ List.replicate (e + 1 - digits.length) '0' ++ ['.', '0']
    else digits.take (e + 1) ++ '.' :: digits.drop (e + 1)

/-- The form with an exponent, which has a sign and at least two digits. -/
def scientific (digits : List Char) (exponent : Int) : List Char :=
  let mark := if exponent < 0 then '-' else '+'
  let size := decimalDigits exponent.natAbs
  let size := if size.length < 2 then '0' :: size else size
  let body := match digits with
    | [] => []
    | [d] => [d]
    | d :: ds => d :: '.' :: ds
  body ++ 'e' :: mark :: size

/-- The written form of a decimal that is not zero. -/
def renderDecimal (coefficient : Nat) (scale : Int) : List Char :=
  let all := decimalDigits coefficient
  let exponent := scale + all.length - 1
  let digits := (all.reverse.dropWhile (· == '0')).reverse
  if -4 ≤ exponent ∧ exponent < 16 then positional digits exponent
  else scientific digits exponent

/-- The written form of a number. -/
def Binary64.render : Binary64 → String
  | .nan => "nan"
  | .infinite negative => if negative then "-inf" else "inf"
  | .finite negative m =>
    let sign := if negative then ['-'] else []
    let body := if m.significand = 0 then ['0', '.', '0']
      else let (coefficient, scale) := m.shortest; renderDecimal coefficient scale
    String.ofList (sign ++ body)

end Winnow

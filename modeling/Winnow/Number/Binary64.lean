set_option autoImplicit false

/-!
# Binary64 numbers

The numbers that numeric criteria compare: finite values with a significand of 53 bits, the two
infinities and the value that is not a number. A finite magnitude is a whole number of *units* of
`2 ^ (-1074)`, so everything about it can be said in natural numbers.

## Main definitions

* `Winnow.Magnitude` — a finite magnitude in canonical form.
* `Winnow.Magnitude.units` — its value.
* `Winnow.Binary64` — a signed magnitude, an infinity or the value that is not a number.
* `Winnow.Binary64.lt`, `Winnow.Binary64.same` — comparison by value.

## Design

The canonical form is unique, so two magnitudes are equal iff they have the same units. The sign of
zero is kept, and disregarded by the comparisons.
-/

namespace Winnow

/-- A finite magnitude `significand * 2 ^ exponent`, in units of `2 ^ (-1074)`. The significand has
its top bit set unless the exponent is the least one. -/
structure Magnitude where
  /-- The significand, an integer of at most 53 bits. -/
  significand : Nat
  /-- The exponent of two, counted from the unit `2 ^ (-1074)`. -/
  exponent : Nat
  significand_lt : significand < Nat.pow 2 53
  normal : Nat.pow 2 52 ≤ significand ∨ exponent = 0
  exponent_le : exponent ≤ 2045
deriving DecidableEq

namespace Magnitude

/-- The value as a number of units of `2 ^ (-1074)`. -/
def units (m : Magnitude) : Nat :=
  m.significand * Nat.pow 2 m.exponent

/-- The magnitude of the two zeros. -/
def zero : Magnitude :=
  ⟨0, 0, by decide, .inr rfl, by decide⟩

/-- The magnitude with a given significand and exponent, if they are in canonical form. -/
def make? (significand exponent : Nat) : Option Magnitude :=
  if h : significand < Nat.pow 2 53 ∧ (Nat.pow 2 52 ≤ significand ∨ exponent = 0) ∧
      exponent ≤ 2045 then
    some ⟨significand, exponent, h.1, h.2.1, h.2.2⟩
  else none

end Magnitude

/-- A binary64 number. -/
inductive Binary64 where
  /-- The value that is not a number. -/
  | nan
  /-- One of the two infinities. -/
  | infinite (negative : Bool)
  /-- A finite number, given by its sign and its magnitude. -/
  | finite (negative : Bool) (magnitude : Magnitude)
deriving DecidableEq

namespace Binary64

/-- The signed number of units of a finite number. -/
def signedUnits (negative : Bool) (m : Magnitude) : Int :=
  if negative then -(m.units : Int) else m.units

/-- Strictly less, by value. Nothing is less or greater than the value that is not a number. -/
def lt : Binary64 → Binary64 → Bool
  | nan, _ => false
  | _, nan => false
  | infinite s, infinite t => s && !t
  | infinite s, finite _ _ => s
  | finite _ _, infinite t => !t
  | finite s m, finite t n => signedUnits s m < signedUnits t n

/-- Equal, by value. The value that is not a number is not equal to itself. -/
def same : Binary64 → Binary64 → Bool
  | nan, _ => false
  | _, nan => false
  | infinite s, infinite t => s == t
  | finite s m, finite t n => signedUnits s m == signedUnits t n
  | _, _ => false

/-- Whether a number is the value that is not a number. -/
def isNaN : Binary64 → Bool
  | nan => true
  | _ => false

end Binary64

end Winnow

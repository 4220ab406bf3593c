import Winnow.Number.Rounding
import Winnow.Text.CharClass

set_option autoImplicit false

/-!
# Numerals

The written forms of numbers: an optional sign, then either digits with an optional point and an
optional exponent, or a name of infinity or of the value that is not a number. Decimal digits of
all scripts count, also mixed. Reading takes the whole text or fails.

## Main definitions

* `Winnow.Numeral` — what a numeral says, before rounding.
* `Winnow.Numeral.read?` — the numeral that a text is.
* `Winnow.Numeral.value` — the number that a numeral stands for.

## Design

A numeral may have any number of digits and an exponent of any size. It is a natural number and an
integer exponent before it is rounded, once.
-/

namespace Winnow

/-- What a numeral says. -/
inductive Numeral where
  /-- The decimal `coefficient * 10 ^ scale`, with a sign. -/
  | decimal (negative : Bool) (coefficient : Nat) (scale : Int)
  /-- Infinity, with a sign. -/
  | infinity (negative : Bool)
  /-- The value that is not a number. -/
  | nan
deriving DecidableEq

namespace Numeral

/-! ## Pieces of a numeral -/

/-- An optional sign, and what follows it. -/
def takeSign : List Char → Bool × List Char
  | '+' :: cs => (false, cs)
  | '-' :: cs => (true, cs)
  | cs => (false, cs)

/-- The values of the digits at the front of a text, and what follows them. -/
def takeDigits : List Char → List Nat × List Char
  | [] => ([], [])
  | c :: cs =>
    match Text.digitValue? c with
    | some d => let (ds, rest) := takeDigits cs; (d :: ds, rest)
    | none => ([], c :: cs)

/-- The natural number with the given decimal digits. -/
def ofDigits (digits : List Nat) : Nat :=
  digits.foldl (fun n d => 10 * n + d) 0

/-- An optional exponent that reaches to the end of the text. -/
def readExponent? : List Char → Option Int
  | [] => some 0
  | c :: cs =>
    if c = 'e' ∨ c = 'E' then
      let (negative, body) := takeSign cs
      match takeDigits body with
      | ([], _) => none
      | (_, _ :: _) => none
      | (ds, []) => some (if negative then -(ofDigits ds : Int) else ofDigits ds)
    else none

/-- Digits with an optional point, then an optional exponent, up to the end of the text. -/
def readDecimal? (negative : Bool) (cs : List Char) : Option Numeral :=
  let (whole, rest) := takeDigits cs
  let (fraction, rest) := match rest with
    | '.' :: rest => takeDigits rest
    | rest => ([], rest)
  if whole.isEmpty && fraction.isEmpty then none
  else (readExponent? rest).map fun e =>
    .decimal negative (ofDigits (whole ++ fraction)) (e - fraction.length)

/-- Whether a text is a word, the letters A to Z being taken as a to z. -/
def isWord (word : String) (cs : List Char) : Bool :=
  cs.map Char.toLower == word.toList

/-! ## Reading -/

/-- The numeral that a text is. -/
def read? (cs : List Char) : Option Numeral :=
  let (negative, body) := takeSign cs
  if isWord "inf" body || isWord "infinity" body then some (.infinity negative)
  else if isWord "nan" body then some .nan
  else readDecimal? negative body

/-- The number that a numeral stands for: a decimal is rounded to the nearest number. -/
def value : Numeral → Binary64
  | .decimal negative coefficient scale => .ofDecimal negative coefficient scale
  | .infinity negative => .infinite negative
  | .nan => .nan

end Numeral

end Winnow

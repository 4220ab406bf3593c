import Winnow.Text.IdentifierTable
import Winnow.Text.LetterTable
import Winnow.Text.NumericTable
import Winnow.Text.PrintableTable

set_option autoImplicit false

/-!
# Classes of characters

The classes of characters that the library asks about: blanks, letters, decimal digits, word
characters, printable characters, and the two classes that make up identifiers. Each is a
membership test in a table of code points.

## Main definitions

* `Winnow.Text.inRanges` — membership in an ascending list of closed ranges.
* `Winnow.Text.isBlank`, `Winnow.Text.isLetter`, `Winnow.Text.isWordChar`,
  `Winnow.Text.isPrintable` — the classes.
* `Winnow.Text.digitValue?` — the value of a decimal digit of any script.
* `Winnow.Text.isIdentifier` — texts that may serve as a name.
* `Winnow.Text.trim` — a text without the blanks at its two ends.
-/

namespace Winnow.Text

/-- Membership of a code point in an ascending list of closed ranges. The scan stops at the first
range that starts beyond the code point. -/
def inRanges : List (Nat × Nat) → Nat → Bool
  | [], _ => false
  | (first, last) :: rest, n =>
    if n < first then false else if n ≤ last then true else inRanges rest n

/-! ## Blanks -/

/-- Closed ranges of the blanks, ascending. -/
def blankRanges : List (Nat × Nat) := [
  (0x9, 0xD), (0x1C, 0x20), (0x85, 0x85), (0xA0, 0xA0), (0x1680, 0x1680), (0x2000, 0x200A),
  (0x2028, 0x2029), (0x202F, 0x202F), (0x205F, 0x205F), (0x3000, 0x3000)]

/-- Blanks: the characters with the bidirectional class of a separator or the general category of a
space. The zero-width space is not one. -/
def isBlank (c : Char) : Bool :=
  inRanges blankRanges c.toNat

/-- The characters of a text without the blanks at its two ends. -/
def trimChars (cs : List Char) : List Char :=
  ((cs.dropWhile isBlank).reverse.dropWhile isBlank).reverse

/-- A text without the blanks at its two ends. -/
def trim (text : String) : String :=
  String.ofList (trimChars text.toList)

/-! ## Letters, digits and words -/

/-- Letters of any script. -/
def isLetter (c : Char) : Bool :=
  inRanges letterRanges c.toNat

/-- The value of a decimal digit of any script, by its distance from the zero of its run. -/
def digitValue? (c : Char) : Option Nat :=
  match digitZeros.find? fun base => base ≤ c.toNat && c.toNat < base + 10 with
  | some base => some (c.toNat - base)
  | none => none

/-- Decimal digits of any script. -/
def isDigit (c : Char) : Bool :=
  (digitValue? c).isSome

/-- Word characters: letters, characters with a numeric value, and the low line. -/
def isWordChar (c : Char) : Bool :=
  isLetter c || inRanges numericRanges c.toNat || c == '_'

/-- Characters that are shown as themselves in a quoted text. -/
def isPrintable (c : Char) : Bool :=
  inRanges printableRanges c.toNat

/-! ## Identifiers -/

/-- Characters that may start an identifier. -/
def isIdentifierStart (c : Char) : Bool :=
  (isLetter c && !inRanges identifierStartExcluded c.toNat)
    || inRanges identifierStartExtra c.toNat

/-- Characters that may continue an identifier. -/
def isIdentifierContinue (c : Char) : Bool :=
  isIdentifierStart c || inRanges identifierContinueExtra c.toNat

/-- Identifiers: a start followed by continuations. -/
def isIdentifier : List Char → Bool
  | [] => false
  | c :: cs => isIdentifierStart c && cs.all isIdentifierContinue

end Winnow.Text

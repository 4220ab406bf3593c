import Winnow.Text.Case
import Winnow.Text.CharClass

set_option autoImplicit false

/-!
# Tests of single characters

The parts of a pattern that consume exactly one character: any character, a character or its
complement, and sets of characters, spans and categories.

## Main definitions

* `Winnow.Pattern.CaseRule` — whether case counts, and which letters have case.
* `Winnow.Pattern.Category` — digits, blanks and word characters.
* `Winnow.Pattern.Member`, `Winnow.Pattern.CharTest` — members of sets, and tests.
* `Winnow.Pattern.CharTest.holds` — whether a character passes a test.

## Design

Code points are natural numbers, since a pattern may name one that no character of a text has.
When case is ignored, a character is compared through its lower-case image; a member of a set is
compared through its own, except beyond the basic plane, where members are compared as written.
-/

namespace Winnow.Pattern

/-- Whether case counts when characters are compared, and if not, which letters have case. -/
inductive CaseRule where
  /-- Case counts. -/
  | exact
  /-- Case is ignored for the letters A to Z. -/
  | ascii
  /-- Case is ignored for all letters. -/
  | full
deriving DecidableEq

/-- The image through which a code point is compared. -/
def CaseRule.fold : CaseRule → Nat → Nat
  | exact, n => n
  | ascii, n => Text.asciiLowerPoint n
  | full, n => Text.lowerPoint n

/-- The code points whose image is the given one, which is its own image. -/
def CaseRule.variants : CaseRule → Nat → List Nat
  | exact, n => [n]
  | ascii, n => if 0x61 ≤ n ∧ n ≤ 0x7A then [n, n - 32] else [n]
  | full, n => Text.caseVariants n

/-- Whether a character is the one that a code point stands for. Under the full rule two letters
with one upper-case image count as the same. -/
def CaseRule.matches (rule : CaseRule) (point : Nat) (c : Char) : Bool :=
  let image := rule.fold c.toNat
  let own := rule.fold point
  image == own || (rule == .full && (Text.upperTwins own).contains image)

/-- Categories of characters that a pattern can name. -/
inductive Category where
  | digit
  | blank
  | word
deriving DecidableEq

/-- Whether a character is in a category, by the first 128 characters only or by all. -/
def Category.holds (ascii : Bool) : Category → Char → Bool
  | digit, c => if ascii then c.isDigit else Text.isDigit c
  | blank, c =>
    if ascii then c == ' ' || (0x9 ≤ c.toNat && c.toNat ≤ 0xD) else Text.isBlank c
  | word, c => if ascii then c.isAlphanum || c == '_' else Text.isWordChar c

/-- A member of a set. -/
inductive Member where
  /-- A code point. -/
  | point (n : Nat)
  /-- All code points from the first to the last. -/
  | span (first last : Nat)
  /-- A category, or the characters outside it. -/
  | named (category : Category) (negated ascii : Bool)
deriving DecidableEq

/-- The last code point of the basic plane. -/
def lastBasic : Nat := 0xFFFF

/-- Whether a code point lies in a span. -/
def inSpan (first last n : Nat) : Bool :=
  first ≤ n && n ≤ last

/-- Whether a character is matched by a member of a set. -/
def Member.holds (rule : CaseRule) (c : Char) : Member → Bool
  | point n =>
    if rule == .full && lastBasic < n then rule.fold c.toNat == n else rule.matches n c
  | span first last =>
    let image := rule.fold c.toNat
    if rule == .exact then inSpan first last image
    else
      (rule.variants image).any (inSpan first (min last lastBasic))
        || (lastBasic < last
          && (inSpan first last image || inSpan first last (Text.upperPoint image)))
  | named category negated ascii => category.holds ascii c != negated

/-- A test of one character. -/
inductive CharTest where
  /-- Any character; a line feed only if asked for. -/
  | any (lineFeed : Bool)
  /-- One character, or all others. -/
  | single (negated : Bool) (point : Nat) (rule : CaseRule)
  /-- The members of a set, or all others. -/
  | set (negated : Bool) (members : List Member) (rule : CaseRule)
deriving DecidableEq

/-- Whether a character passes a test. -/
def CharTest.holds : CharTest → Char → Bool
  | any lineFeed, c => lineFeed || c != '\n'
  | single negated point rule, c => rule.matches point c != negated
  | set negated members rule, c => members.any (Member.holds rule c) != negated

end Winnow.Pattern

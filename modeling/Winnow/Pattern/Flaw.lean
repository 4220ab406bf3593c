import Winnow.Text.Quoted

set_option autoImplicit false

/-!
# Flaws of patterns

Why a text is not a pattern, where in the text, and how that is told. A flaw makes the pattern
malformed; a limit is a construct that is well formed and cannot be carried out.

## Main definitions

* `Winnow.Pattern.Flaw` — the flaws, and `Winnow.Pattern.Flaw.text`, their wording.
* `Winnow.Pattern.Malformed` — a flaw with its position, and its message.
* `Winnow.Pattern.Limit` — the limits, and their wording.

## Design

Limits are those of the notation: a repeat count, a code point, or two flags that contradict each
other. How much memory or stack a pattern takes is no matter of the notation and is not limited.
-/

namespace Winnow.Pattern

/-- What makes a pattern malformed. -/
inductive Flaw where
  | danglingEscape
  | badEscape (escape : String)
  | incompleteEscape (escape : String)
  | octalOutOfRange (escape : String)
  | missingBrace
  | missingName (what : String)
  | unterminatedName (closer : Char)
  | unknownCharacterName (name : String)
  | openGroup
  | groupOfSameLookbehind
  | invalidReference (group : Nat)
  | unterminatedSet
  | badRange (first last : String)
  | crossedRepeat
  | nothingToRepeat
  | multipleRepeat
  | unexpectedEnd
  | badGroupName (name : String)
  | unknownGroupName (name : String)
  | unknownExtension (extension : String)
  | unterminatedComment
  | unterminatedGroup
  | thirdBranch
  | badGroupNumber
  | misplacedFlags
  | redefinedGroup (name : String) (group earlier : Nat)
  | unclosedFlags
  | missingFlag
  | missingColon
  | unknownFlag
  | localeFlag
  | incompatibleFlags
  | scopedGlobalFlag
  | removedGlobalFlag
  | removedTypeFlag
  | flagOnAndOff
  | unbalancedParenthesis
  | hugeLookbehind
  | variableLookbehind
  | repeatInTemplate (operation : String)
deriving DecidableEq

/-- The wording of a flaw. -/
def Flaw.text : Flaw → String
  | danglingEscape => "bad escape (end of pattern)"
  | badEscape escape => "bad escape " ++ escape
  | incompleteEscape escape => "incomplete escape " ++ escape
  | octalOutOfRange escape => "octal escape value " ++ escape ++ " outside of range 0-0o377"
  | missingBrace => "missing \x7b"
  | missingName what => "missing " ++ what
  | unterminatedName closer => "missing " ++ closer.toString ++ ", unterminated name"
  | unknownCharacterName name => "undefined character name " ++ Text.quote name
  | openGroup => "cannot refer to an open group"
  | groupOfSameLookbehind =>
    "cannot refer to group defined in the same lookbehind subpattern"
  | invalidReference group => "invalid group reference " ++ toString group
  | unterminatedSet => "unterminated character set"
  | badRange first last => "bad character range " ++ first ++ "-" ++ last
  | crossedRepeat => "min repeat greater than max repeat"
  | nothingToRepeat => "nothing to repeat"
  | multipleRepeat => "multiple repeat"
  | unexpectedEnd => "unexpected end of pattern"
  | badGroupName name => "bad character in group name " ++ Text.quote name
  | unknownGroupName name => "unknown group name " ++ Text.quote name
  | unknownExtension extension => "unknown extension " ++ extension
  | unterminatedComment => "missing ), unterminated comment"
  | unterminatedGroup => "missing ), unterminated subpattern"
  | thirdBranch => "conditional backref with more than two branches"
  | badGroupNumber => "bad group number"
  | misplacedFlags => "global flags not at the start of the expression"
  | redefinedGroup name group earlier =>
    "redefinition of group name " ++ Text.quote name ++ " as group " ++ toString group
      ++ "; was group " ++ toString earlier
  | unclosedFlags => "missing -, : or )"
  | missingFlag => "missing flag"
  | missingColon => "missing :"
  | unknownFlag => "unknown flag"
  | localeFlag => "bad inline flags: cannot use 'L' flag with a str pattern"
  | incompatibleFlags => "bad inline flags: flags 'a', 'u' and 'L' are incompatible"
  | scopedGlobalFlag => "bad inline flags: cannot turn on global flag"
  | removedGlobalFlag => "bad inline flags: cannot turn off global flag"
  | removedTypeFlag => "bad inline flags: cannot turn off flags 'a', 'u' and 'L'"
  | flagOnAndOff => "bad inline flags: flag turned on and off"
  | unbalancedParenthesis => "unbalanced parenthesis"
  | hugeLookbehind => "looks too much behind"
  | variableLookbehind => "look-behind requires fixed-width pattern"
  | repeatInTemplate operation => "internal: unsupported template operator " ++ operation

/-- A flaw of a pattern with its place, counted in characters from the start of the pattern. Flaws
of a whole pattern have no place. -/
structure Malformed where
  /-- The pattern. -/
  pattern : String
  /-- What is wrong with it. -/
  flaw : Flaw
  /-- The number of characters before the place of the flaw. -/
  position? : Option Nat
deriving DecidableEq

/-- The message of a flaw: its wording and its place, with line and column if the pattern has
several lines. Positions count from zero, lines and columns from one. -/
def Malformed.message (m : Malformed) : String :=
  match m.position? with
  | none => m.flaw.text
  | some position =>
    let text := m.flaw.text ++ " at position " ++ toString position
    let chars := m.pattern.toList
    if chars.contains '\n' then
      let before := chars.take position
      let line := before.count '\n' + 1
      let column := (before.reverse.takeWhile (· != '\n')).length + 1
      text ++ " (line " ++ toString line ++ ", column " ++ toString column ++ ")"
    else text

/-- Constructs that are well formed and cannot be carried out. -/
inductive Limit where
  /-- A repeat count of `2 ^ 32 - 1` or more. -/
  | hugeRepeat
  /-- A repeat count of more digits than a number may have. -/
  | longRepeat (digits : Nat)
  /-- A code point of `2 ^ 31` or more. -/
  | hugeCodePoint
  /-- Both the first 128 characters only and all characters asked for. -/
  | contradictoryFlags
deriving DecidableEq

/-- The wording of a limit. -/
def Limit.text : Limit → String
  | hugeRepeat => "the repetition number is too large"
  | longRepeat digits =>
    "Exceeds the limit (4300 digits) for integer string conversion: value has "
      ++ toString digits ++ " digits; use sys.set_int_max_str_digits() to increase the limit"
  | hugeCodePoint => "Python int too large to convert to C int"
  | contradictoryFlags => "ASCII and UNICODE flags are incompatible"

/-- Why a text is refused as a pattern. -/
inductive Refusal where
  | malformed (error : Malformed)
  | limit (limit : Limit)
deriving DecidableEq

end Winnow.Pattern

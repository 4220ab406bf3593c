import Winnow.Text.CharClass

set_option autoImplicit false

/-!
# Quoted text

The quoted form of a text, from which the text can be read back: it stands between single quotes,
or between double quotes if it holds a single quote and no double one. A backslash, the quote
in use and every character that is not printable is escaped.

## Main definitions

* `Winnow.Text.quoteMark` — the quote that a text is put between.
* `Winnow.Text.escape` — what is written for one character.
* `Winnow.Text.quote` — the quoted form of a text.
* `Winnow.Text.quoteList` — the quoted forms of several texts between brackets.
-/

namespace Winnow.Text

/-- The lower-case hexadecimal digit of a value below sixteen. -/
def hexDigit (n : Nat) : Char :=
  if n < 10 then Char.ofNat (0x30 + n) else Char.ofNat (0x61 + (n - 10))

/-- The hexadecimal digits of a number in a field of fixed width, most significant first. -/
def hexField : Nat → Nat → List Char
  | 0, _ => []
  | width + 1, n => hexField width (n / 16) ++ [hexDigit (n % 16)]

/-- The quote that a text is put between: the single one, unless that would be escaped and the
double one would not. -/
def quoteMark (cs : List Char) : Char :=
  if cs.contains '\'' && !cs.contains '"' then '"' else '\''

/-- What is written for one character between two quotes. -/
def escape (mark c : Char) : List Char :=
  if c == mark || c == '\\' then ['\\', c]
  else if c == '\t' then ['\\', 't']
  else if c == '\n' then ['\\', 'n']
  else if c == '\r' then ['\\', 'r']
  else if isPrintable c then [c]
  else if c.toNat < 0x100 then '\\' :: 'x' :: hexField 2 c.toNat
  else if c.toNat < 0x10000 then '\\' :: 'u' :: hexField 4 c.toNat
  else '\\' :: 'U' :: hexField 8 c.toNat

/-- The characters of the quoted form of a text. -/
def quoteChars (cs : List Char) : List Char :=
  let mark := quoteMark cs
  mark :: cs.flatMap (escape mark) ++ [mark]

/-- The quoted form of a text. -/
def quote (text : String) : String :=
  String.ofList (quoteChars text.toList)

/-- The quoted forms of several texts between brackets. -/
def quoteList (texts : List String) : String :=
  "[" ++ ", ".intercalate (texts.map quote) ++ "]"

end Winnow.Text

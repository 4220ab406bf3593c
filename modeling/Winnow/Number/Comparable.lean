import Winnow.Number.Numeral
import Winnow.Text.Quoted

set_option autoImplicit false

/-!
# Comparable numbers

The numbers that a numeric criterion accepts. Blanks around the numeral are ignored. Digit
separators, the value that is not a number and every spelling of infinity but `Infinity` are
refused.

## Main definitions

* `Winnow.NumberError` — why a text is not a comparable number, and its message.
* `Winnow.comparable` — the comparable number that a text stands for.
-/

namespace Winnow

/-- Why a text is not a comparable number. -/
inductive NumberError where
  /-- The text is no numeral, or not one that is accepted. -/
  | malformed (text : String)
  /-- The text stands for the value that is not a number. -/
  | notComparable (text : String)
deriving DecidableEq

/-- The message of an error. -/
def NumberError.message : NumberError → String
  | .malformed text => "could not convert string to float: " ++ Text.quote text
  | .notComparable text => "NaN is not a comparable number: " ++ Text.quote text

/-- The comparable number that a text stands for. A text that is no numeral at all is reported
without the blanks around it, one that is refused for another reason as it stands. -/
def comparable (text : String) : Except NumberError Binary64 :=
  let body := Text.trimChars text.toList
  if body.contains '_' then .error (.malformed text)
  else match Numeral.read? body with
    | none => .error (.malformed (String.ofList body))
    | some .nan => .error (.notComparable text)
    | some (.infinity negative) =>
      if (Numeral.takeSign body).2 = "Infinity".toList then .ok (.infinite negative)
      else .error (.malformed text)
    | some (.decimal negative coefficient scale) => .ok (.ofDecimal negative coefficient scale)

end Winnow

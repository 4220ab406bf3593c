import Winnow.Number.Numeral
import Winnow.Proofs.Number.Digits

set_option autoImplicit false

/-!
# The grammar of comparable numbers

A comparable number is written as an optional sign and then either digits with an optional point and
an optional exponent, or the word `Infinity`, between any blanks. The grammar is given as a type of
spellings with the text of each, so that what is read can be compared with what was written.

## Main definitions

* `Winnow.Mark`, `Winnow.Digits`, `Winnow.Mantissa`, `Winnow.Exponent` — the parts of a number.
* `Winnow.Spelling` — the ways to write a number, and `Winnow.Spelling.text`, their texts.
* `Winnow.Spelling.numeral` — what a spelling says.
* `Winnow.Spelling.Spells` — a text is a spelling between blanks.

## Main results

* `Winnow.Spelling.Spells.trimChars_eq` — the spelling is left when the blanks are trimmed.
-/

namespace Winnow

/-! ## Parts of a number -/

/-- A sign as it is written, if it is. -/
inductive Mark where
  | unmarked
  | plus
  | minus
deriving DecidableEq

namespace Mark

/-- The text of a sign. -/
def text : Mark → List Char
  | unmarked => []
  | plus => ['+']
  | minus => ['-']

/-- Whether a sign is that of negative numbers. -/
def negative : Mark → Bool
  | minus => true
  | _ => false

end Mark

/-- A text of decimal digits, of any scripts. -/
structure Digits where
  chars : List Char
  isDigit : ∀ c ∈ chars, Text.isDigit c = true

namespace Digits

/-- The values of digits, in their order. -/
def values (ds : Digits) : List Nat :=
  ds.chars.map Text.digitValue

/-- A point and the digits after it, if there is a point. -/
def afterPoint : Option Digits → List Char
  | some ds => '.' :: ds.chars
  | none => []

/-- The values of the digits after a point, if there is one. -/
def optionalValues : Option Digits → List Nat
  | some ds => ds.values
  | none => []

end Digits

/-- Digits with an optional point before, between or after them, at least one of them. -/
structure Mantissa where
  whole : Digits
  /-- The digits after the point, if there is a point. -/
  fraction? : Option Digits
  nonempty : whole.chars ≠ [] ∨ ∃ ds, fraction? = some ds ∧ ds.chars ≠ []

namespace Mantissa

/-- The text of a mantissa. -/
def text (m : Mantissa) : List Char :=
  m.whole.chars ++ Digits.afterPoint m.fraction?

/-- The values of the digits after the point. -/
def fractionValues (m : Mantissa) : List Nat :=
  Digits.optionalValues m.fraction?

end Mantissa

/-- A power of ten: a letter, an optional sign and digits. -/
structure Exponent where
  /-- Whether the letter is a capital one. -/
  isCapital : Bool
  mark : Mark
  digits : Digits
  nonempty : digits.chars ≠ []

namespace Exponent

/-- The text of an exponent. -/
def text (e : Exponent) : List Char :=
  (if e.isCapital then 'E' else 'e') :: e.mark.text ++ e.digits.chars

/-- The power of ten that an exponent stands for. -/
def power (e : Exponent) : Int :=
  if e.mark.negative then -(Numeral.ofDigits e.digits.values : Int)
  else Numeral.ofDigits e.digits.values

/-- The text of an exponent that may be left out. -/
def optionalText : Option Exponent → List Char
  | some e => e.text
  | none => []

/-- The power of ten of an exponent that may be left out. -/
def optionalPower : Option Exponent → Int
  | some e => e.power
  | none => 0

end Exponent

/-- The ways to write a comparable number. -/
inductive Spelling where
  | decimal (mark : Mark) (mantissa : Mantissa) (exponent? : Option Exponent)
  | infinity (mark : Mark)

namespace Spelling

/-- The text of a spelling. -/
def text : Spelling → List Char
  | decimal mark mantissa exponent? =>
    mark.text ++ (mantissa.text ++ Exponent.optionalText exponent?)
  | infinity mark => mark.text ++ "Infinity".toList

/-- The numeral that a spelling stands for. -/
def numeral : Spelling → Numeral
  | decimal mark mantissa exponent? =>
    .decimal mark.negative (Numeral.ofDigits (mantissa.whole.values ++ mantissa.fractionValues))
      (Exponent.optionalPower exponent? - mantissa.fractionValues.length)
  | infinity mark => .infinity mark.negative

/-- A text is a spelling between blanks. -/
def Spells (w : Spelling) (text : String) : Prop :=
  ∃ before after, text.toList = before ++ w.text ++ after ∧
    (∀ c ∈ before, Text.isBlank c = true) ∧ ∀ c ∈ after, Text.isBlank c = true

end Spelling

/-! ## Characters of a spelling -/

/-- Characters that a number can be written with. -/
def IsNumberChar (c : Char) : Prop :=
  Text.isDigit c = true ∨ c ∈ "+-.eEInfity".toList

/-- A character of a number is no blank, and no low line. -/
theorem IsNumberChar.not_blank {c : Char} (h : IsNumberChar c) :
    Text.isBlank c = false ∧ c ≠ '_' := by
  obtain hc | hc := h
  · exact ⟨Text.isBlank_of_isDigit hc, by
      rintro rfl
      rw [Text.isDigit_eq_false_of_range (by decide)] at hc
      cases hc⟩
  · have hall : ∀ c ∈ "+-.eEInfity".toList, Text.isBlank c = false ∧ c ≠ '_' :=
      Text.forall_mem_of_all (by decide +kernel)
    exact hall c hc

/-- The characters of a sign. -/
theorem Mark.isNumberChar (m : Mark) : ∀ c ∈ m.text, IsNumberChar c := by
  have hall : ∀ m : Mark, ∀ c ∈ m.text, c ∈ "+-.eEInfity".toList := by
    intro m
    cases m <;> exact Text.forall_mem_of_all (by decide)
  exact fun c hc => .inr (hall m c hc)

/-- The characters of a spelling. -/
theorem Spelling.isNumberChar (w : Spelling) : ∀ c ∈ w.text, IsNumberChar c := by
  have hletter : ∀ cs : List Char, (∀ c ∈ cs, c ∈ "+-.eEInfity".toList) →
      ∀ c ∈ cs, IsNumberChar c := fun cs h c hc => .inr (h c hc)
  intro c hc
  cases w with
  | infinity mark =>
    rw [text, List.mem_append] at hc
    exact hc.elim (mark.isNumberChar c) (hletter _ (Text.forall_mem_of_all (by decide)) c)
  | decimal mark mantissa exponent? =>
    rw [text, List.mem_append, List.mem_append] at hc
    obtain hc | hc | hc := hc
    · exact mark.isNumberChar c hc
    · rw [Mantissa.text, List.mem_append] at hc
      obtain hc | hc := hc
      · exact .inl (mantissa.whole.isDigit c hc)
      · cases hf : mantissa.fraction? with
        | none => rw [hf] at hc; cases hc
        | some ds =>
          rw [hf, Digits.afterPoint, List.mem_cons] at hc
          obtain rfl | hc := hc
          · exact .inr (by simp)
          · exact .inl (ds.isDigit c hc)
    · cases exponent? with
      | none => cases hc
      | some e =>
        rw [Exponent.optionalText, Exponent.text, List.cons_append, List.mem_cons,
          List.mem_append] at hc
        obtain hc | hc | hc := hc
        · refine .inr ?_
          rw [hc]
          cases e.isCapital <;> simp
        · exact e.mark.isNumberChar c hc
        · exact .inl (e.digits.isDigit c hc)

/-- A spelling between blanks is left when these are trimmed. -/
theorem Spelling.Spells.trimChars_eq {w : Spelling} {text : String} (h : w.Spells text) :
    Text.trimChars text.toList = w.text := by
  obtain ⟨before, after, htext, hbefore, hafter⟩ := h
  rw [htext]
  exact Text.trimChars_padded hbefore (fun c hc => (w.isNumberChar c hc).not_blank.1) hafter

end Winnow

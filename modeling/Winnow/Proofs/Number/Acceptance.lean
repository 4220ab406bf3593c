import Winnow.Fault
import Winnow.Proofs.Number.Reading

set_option autoImplicit false

/-!
# The texts that are numbers

A text is accepted as a comparable number exactly if it is a spelling between blanks. Its number
depends neither on these blanks nor on the scripts of its digits, and it is never the value that is
not a number.

## Main definitions

* `Winnow.Text.plain` — a text without outer blanks and with plain digits.

## Main results

* `Winnow.Numeral.read?_map_plainDigit` — reading does not depend on the scripts of digits.
* `Winnow.comparable_accepts_spellings` — which texts are accepted, and what their numbers depend
  on.
-/

namespace Winnow

/-- A text without the blanks at its two ends and with the plain forms of its digits. -/
def Text.plain (text : String) : String :=
  String.ofList ((trimChars text.toList).map plainDigit)

/-! ## Plain digits -/

namespace Numeral

/-- Digits have the values of their plain forms. -/
theorem takeDigits_map_plainDigit (cs : List Char) :
    takeDigits (cs.map Text.plainDigit) =
      ((takeDigits cs).1, (takeDigits cs).2.map Text.plainDigit) := by
  have hdigit : Text.isDigit ∘ Text.plainDigit = Text.isDigit := funext Text.isDigit_plainDigit
  have hvalue : Text.digitValue ∘ Text.plainDigit = Text.digitValue := by
    funext c
    simp [Text.digitValue]
  rw [takeDigits_eq, takeDigits_eq, List.takeWhile_map, List.dropWhile_map, List.map_map, hdigit,
    hvalue]

/-- Signs are plain. -/
theorem takeSign_map_plainDigit (cs : List Char) :
    takeSign (cs.map Text.plainDigit) = ((takeSign cs).1, (takeSign cs).2.map Text.plainDigit) := by
  have hplus : Text.isDigit '+' = false := Text.isDigit_eq_false_of_range (by decide)
  have hminus : Text.isDigit '-' = false := Text.isDigit_eq_false_of_range (by decide)
  cases cs with
  | nil => rfl
  | cons c cs =>
    rw [List.map_cons, takeSign_cons, takeSign_cons]
    simp only [Text.plainDigit_eq_iff hplus, Text.plainDigit_eq_iff hminus]
    split
    · rfl
    · split <;> rfl

/-- Points are plain. -/
theorem takeFraction_map_plainDigit (cs : List Char) :
    takeFraction (cs.map Text.plainDigit) =
      ((takeFraction cs).1, (takeFraction cs).2.map Text.plainDigit) := by
  have hpoint : Text.isDigit '.' = false := Text.isDigit_eq_false_of_range (by decide)
  cases cs with
  | nil => rfl
  | cons c cs =>
    rw [List.map_cons, takeFraction_cons, takeFraction_cons]
    simp only [Text.plainDigit_eq_iff hpoint]
    split
    · exact takeDigits_map_plainDigit cs
    · rfl

/-- An exponent does not depend on the scripts of its digits. -/
theorem readExponent?_map_plainDigit (cs : List Char) :
    readExponent? (cs.map Text.plainDigit) = readExponent? cs := by
  have hsmall : Text.isDigit 'e' = false := Text.isDigit_eq_false_of_range (by decide)
  have hcapital : Text.isDigit 'E' = false := Text.isDigit_eq_false_of_range (by decide)
  cases cs with
  | nil => rfl
  | cons c cs =>
    rw [List.map_cons, readExponent?, readExponent?]
    simp only [Text.plainDigit_eq_iff hsmall, Text.plainDigit_eq_iff hcapital,
      takeSign_map_plainDigit, takeDigits_map_plainDigit]
    generalize takeDigits (takeSign cs).2 = taken
    obtain ⟨ds, rest⟩ := taken
    cases ds <;> cases rest <;> rfl

/-- A decimal does not depend on the scripts of its digits. -/
theorem readDecimal?_map_plainDigit (negative : Bool) (cs : List Char) :
    readDecimal? negative (cs.map Text.plainDigit) = readDecimal? negative cs := by
  obtain ⟨whole, rest, hwhole⟩ : ∃ whole rest, takeDigits cs = (whole, rest) := ⟨_, _, rfl⟩
  obtain ⟨fraction, tail, hfraction⟩ : ∃ fraction tail, takeFraction rest = (fraction, tail) :=
    ⟨_, _, rfl⟩
  have hwhole' : takeDigits (cs.map Text.plainDigit) = (whole, rest.map Text.plainDigit) := by
    rw [takeDigits_map_plainDigit, hwhole]
  have hfraction' : takeFraction (rest.map Text.plainDigit) =
      (fraction, tail.map Text.plainDigit) := by
    rw [takeFraction_map_plainDigit, hfraction]
  rw [readDecimal?_eq hwhole' hfraction', readDecimal?_eq hwhole hfraction,
    readExponent?_map_plainDigit]

/-- A character is the same letter, in capitals or not, as its plain form. -/
theorem toLower_plainDigit_eq_iff {c d : Char} (hd : Text.isDigit d = false) :
    (Text.plainDigit c).toLower = d ↔ c.toLower = d := by
  cases hc : Text.isDigit c with
  | false => rw [Text.plainDigit_of_not_isDigit hc]
  | true =>
    rw [Text.toLower_of_isDigit hc, Text.toLower_of_isDigit ((Text.isDigit_plainDigit c).trans hc),
      Text.plainDigit_eq_iff hd]

/-- A text is the same word without digits as its plain form. -/
theorem isWord_map_plainDigit {word : String} (h : ∀ d ∈ word.toList, Text.isDigit d = false)
    (cs : List Char) : isWord word (cs.map Text.plainDigit) = isWord word cs := by
  have hall : ∀ ds : List Char, (∀ d ∈ ds, Text.isDigit d = false) → ∀ cs : List Char,
      (cs.map Text.plainDigit).map Char.toLower = ds ↔ cs.map Char.toLower = ds := by
    intro ds
    induction ds with
    | nil => simp
    | cons d ds ih =>
      intro hds cs
      cases cs with
      | nil => simp
      | cons c cs =>
        simp only [List.map_cons, List.cons.injEq]
        exact and_congr (toLower_plainDigit_eq_iff (hds d List.mem_cons_self))
          (ih (fun e he => hds e (List.mem_cons_of_mem d he)) cs)
  rw [Bool.eq_iff_iff, isWord, isWord, beq_iff_eq, beq_iff_eq]
  exact hall _ h cs

/-- What a text says as a number does not depend on the scripts of its digits. -/
theorem read?_map_plainDigit (cs : List Char) : read? (cs.map Text.plainDigit) = read? cs := by
  have hwords : ∀ word ∈ ["inf", "infinity", "nan"], ∀ d ∈ word.toList, Text.isDigit d = false := by
    have hrange : ["inf", "infinity", "nan"].all fun word =>
        word.toList.all fun d => 0x39 < d.toNat ∧ d.toNat < 0x660 := by decide
    exact fun word hword d hd => Text.isDigit_eq_false_of_range
      (.inr (Text.forall_mem_of_all (List.all_eq_true.mp hrange word hword) d hd))
  rw [read?, read?, takeSign_map_plainDigit]
  simp only [isWord_map_plainDigit (hwords "inf" (by simp)),
    isWord_map_plainDigit (hwords "infinity" (by simp)),
    isWord_map_plainDigit (hwords "nan" (by simp)), readDecimal?_map_plainDigit]

end Numeral

/-- A text that holds no digit is the plain form of a text only if it is that text. -/
theorem Text.map_plainDigit_eq_iff {cs ds : List Char} (h : ∀ d ∈ ds, isDigit d = false) :
    cs.map plainDigit = ds ↔ cs = ds := by
  induction ds generalizing cs with
  | nil => simp
  | cons d ds ih =>
    cases cs with
    | nil => simp
    | cons c cs =>
      simp only [List.map_cons, List.cons.injEq]
      exact and_congr (plainDigit_eq_iff (h d List.mem_cons_self))
        (ih fun e he => h e (List.mem_cons_of_mem d he))

/-- The comparable number of a text depends neither on the blanks around it nor on the scripts of
its digits. -/
theorem toOption_comparable_plain (text : String) :
    (comparable (Text.plain text)).toOption = (comparable text).toOption := by
  have hbody : Text.trimChars (Text.plain text).toList =
      (Text.trimChars text.toList).map Text.plainDigit := by
    rw [Text.plain, String.toList_ofList, Text.trimChars_map_plainDigit, Text.trimChars_trimChars]
  have hline : ∀ cs : List Char, (cs.map Text.plainDigit).contains '_' = cs.contains '_' := by
    have hlow : Text.isDigit '_' = false := Text.isDigit_eq_false_of_range (by decide)
    intro cs
    rw [Bool.eq_iff_iff]
    simp [Text.plainDigit_eq_iff hlow]
  have hrange : ∀ d ∈ "Infinity".toList, 0x39 < d.toNat ∧ d.toNat < 0x660 :=
    Text.forall_mem_of_all (by decide)
  have hword : ∀ d ∈ "Infinity".toList, Text.isDigit d = false :=
    fun d hd => Text.isDigit_eq_false_of_range (.inr (hrange d hd))
  rw [comparable, comparable, hbody]
  simp only [hline, Numeral.read?_map_plainDigit, Numeral.takeSign_map_plainDigit,
    Text.map_plainDigit_eq_iff hword]
  split
  · rfl
  · cases Numeral.read? (Text.trimChars text.toList) with
    | none => rfl
    | some n =>
      cases n with
      | nan => rfl
      | decimal negative coefficient scale => rfl
      | infinity negative =>
        dsimp only
        split <;> rfl

/-! ## Acceptance -/

/-- A number is never the value that is not a number. -/
theorem Spelling.isNaN_value (w : Spelling) : w.numeral.value.isNaN = false := by
  cases w with
  | infinity mark => rfl
  | decimal mark mantissa exponent? =>
    rw [numeral, Numeral.value, Binary64.ofDecimal]
    split <;> rfl

/-- The comparable number of a text is never the value that is not a number. -/
theorem isNaN_of_comparable {text : String} {x : Binary64} (h : comparable text = .ok x) :
    x.isNaN = false := by
  obtain ⟨w, -, rfl⟩ := comparable_eq_ok_iff.mp h
  exact w.isNaN_value

/-- **The texts that are numbers.** A text is accepted as a comparable number exactly if it is an
optional sign and then digits with an optional point and an optional exponent, or the word
`Infinity`, between any blanks; every other text is an error. The number is never the value that is
not a number, it is the infinity with the sign that is written before the word, and it stays the
same when the blanks are taken away and the digits are replaced by those of the first 128 code
points. Separators of lines, files and records and the spaces of other scripts are blanks.

**Proof sketch.** Reading follows the grammar in both directions (`comparable_eq_ok_iff`), and each
reader makes the same of plain digits. -/
theorem comparable_accepts_spellings (text : String) :
    ((∃ x, comparable text = .ok x) ↔ ∃ w : Spelling, w.Spells text) ∧
    ((¬ ∃ w : Spelling, w.Spells text) →
      ∃ e, comparable text = .error e ∧ (Fault.number e).kind = "ValueError") ∧
    (∀ x, comparable text = .ok x → x.isNaN = false) ∧
    (∀ mark, (Spelling.infinity mark).Spells text →
      comparable text = .ok (.infinite mark.negative)) ∧
    (comparable (Text.plain text)).toOption = (comparable text).toOption ∧
    ∀ c ∈ ['\x1c', '\x1d', '\x1e', '\x1f', '\u0085', '\u00a0', '\u2028', '\u3000'],
      Text.isBlank c = true := by
  have haccepted : (∃ x, comparable text = .ok x) ↔ ∃ w : Spelling, w.Spells text := by
    simp only [comparable_eq_ok_iff]
    exact ⟨fun ⟨_, w, hw, _⟩ => ⟨w, hw⟩, fun ⟨w, hw⟩ => ⟨_, w, hw, rfl⟩⟩
  refine ⟨haccepted, fun hnone => ?_, fun x => isNaN_of_comparable, fun mark hmark => ?_,
    toOption_comparable_plain text, Text.forall_mem_of_all (by decide +kernel)⟩
  · cases h : comparable text with
    | ok x => exact absurd (haccepted.mp ⟨x, h⟩) hnone
    | error e => exact ⟨e, rfl, rfl⟩
  · exact comparable_eq_ok_iff.mpr ⟨.infinity mark, hmark, rfl⟩

/-- Minus infinity between two kinds of blanks, a decimal with digits of three scripts and without
any after the point, and a text that is refused for its low line. -/
theorem comparable_accepts_spellings_mixed :
    let word := "\x1c-Infinity\u3000"
    let decimal := "+١2.e０1"
    let separated := "1_000"
    (Spelling.infinity .minus).Spells word ∧ comparable word = .ok (.infinite true) ∧
      (∃ x, comparable decimal = .ok x ∧ x.isNaN = false) ∧
      (¬ ∃ w : Spelling, w.Spells separated) ∧
      ∃ e, comparable separated = .error e ∧ (Fault.number e).kind = "ValueError" := by
  intro word decimal separated
  have hword : (Spelling.infinity .minus).Spells word :=
    ⟨['\x1c'], ['\u3000'], by decide +kernel, Text.forall_mem_of_all (by decide +kernel),
      Text.forall_mem_of_all (by decide +kernel)⟩
  have hsome : (comparable decimal).toOption ≠ none := by decide +kernel
  have hnone : (comparable separated).toOption = none := by decide +kernel
  obtain ⟨x, hx⟩ : ∃ x, comparable decimal = .ok x := by
    cases h : comparable decimal with
    | ok x => exact ⟨x, rfl⟩
    | error e => exact absurd (congrArg Except.toOption h) hsome
  have hseparated : ¬ ∃ w : Spelling, w.Spells separated := by
    rw [← (comparable_accepts_spellings separated).1]
    rintro ⟨x, hx⟩
    rw [hx] at hnone
    cases hnone
  exact ⟨hword, (comparable_accepts_spellings word).2.2.2.1 .minus hword,
    ⟨x, hx, (comparable_accepts_spellings decimal).2.2.1 x hx⟩, hseparated,
    (comparable_accepts_spellings separated).2.1 hseparated⟩

end Winnow

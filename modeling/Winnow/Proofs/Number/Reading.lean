import Winnow.Number.Comparable
import Winnow.Proofs.Number.Spelling

set_option autoImplicit false

/-!
# Reading spellings

A spelling is read as the numeral that it stands for, and whatever is read as a comparable numeral
is a spelling of it. There is one pair of lemmas for each reader: what it makes of a part of a
number before an arbitrary rest, and that what it takes is such a part.

## Main results

* `Winnow.Numeral.read?_text`, `Winnow.Numeral.exists_spelling` — the two directions for a whole
  text.
* `Winnow.comparable_eq_ok_iff` — the comparable number of a text is that of its spelling.
-/

namespace Winnow

/-! ## Reading parts of a number -/

namespace Numeral

/-- Taking digits takes all that come, with their values. -/
theorem takeDigits_eq (cs : List Char) :
    takeDigits cs =
      ((cs.takeWhile Text.isDigit).map Text.digitValue, cs.dropWhile Text.isDigit) := by
  induction cs with
  | nil => rfl
  | cons c cs ih =>
    cases hc : Text.isDigit c with
    | false =>
      rw [takeDigits, Text.isDigit_eq_false_iff.mp hc, List.takeWhile_cons_of_neg (by simp [hc]),
        List.dropWhile_cons_of_neg (by simp [hc])]
      rfl
    | true =>
      rw [takeDigits, Text.digitValue?_eq_some hc, ih, List.takeWhile_cons_of_pos hc,
        List.dropWhile_cons_of_pos hc]
      rfl

/-- Digits are taken up to what is no digit. -/
theorem takeDigits_append (ds : Digits) {rest : List Char}
    (h : ∀ c ∈ rest.head?, Text.isDigit c = false) :
    takeDigits (ds.chars ++ rest) = (ds.values, rest) := by
  have hrest : rest.takeWhile Text.isDigit = [] ∧ rest.dropWhile Text.isDigit = rest := by
    cases rest with
    | nil => exact ⟨rfl, rfl⟩
    | cons c cs =>
      have hc : ¬ Text.isDigit c = true := by simp [h c rfl]
      exact ⟨List.takeWhile_cons_of_neg hc, List.dropWhile_cons_of_neg hc⟩
  rw [takeDigits_eq, List.takeWhile_append_of_pos ds.isDigit,
    List.dropWhile_append_of_pos ds.isDigit, hrest.1, hrest.2, List.append_nil, Digits.values]

/-- What is taken are digits at the front of the text. -/
theorem exists_digits (cs : List Char) :
    ∃ (ds : Digits) (rest : List Char), cs = ds.chars ++ rest ∧
      takeDigits cs = (ds.values, rest) := by
  refine ⟨⟨cs.takeWhile Text.isDigit, fun c hc => List.mem_takeWhile_imp hc⟩,
    cs.dropWhile Text.isDigit, ?_, takeDigits_eq cs⟩
  rw [List.takeWhile_append_dropWhile]

/-- The sign of a text is its first character, if that is one. -/
theorem takeSign_cons (c : Char) (cs : List Char) :
    takeSign (c :: cs) =
      if c = '+' then (false, cs) else if c = '-' then (true, cs) else (false, c :: cs) := by
  by_cases hplus : c = '+'
  · subst hplus
    rfl
  · by_cases hminus : c = '-'
    · subst hminus
      rfl
    · rw [if_neg hplus, if_neg hminus, takeSign]
      · exact fun _ h => hplus (List.cons.inj h).1
      · exact fun _ h => hminus (List.cons.inj h).1

/-- A sign is taken if it is there. -/
theorem takeSign_append (m : Mark) {rest : List Char} (h : ∀ c ∈ rest.head?, c ≠ '+' ∧ c ≠ '-') :
    takeSign (m.text ++ rest) = (m.negative, rest) := by
  cases m with
  | plus => rfl
  | minus => rfl
  | unmarked =>
    cases rest with
    | nil => rfl
    | cons c cs =>
      obtain ⟨hplus, hminus⟩ := h c rfl
      rw [Mark.text, List.nil_append, takeSign_cons, if_neg hplus, if_neg hminus]
      rfl

/-- What is taken as a sign is one, or nothing. -/
theorem exists_mark (cs : List Char) :
    ∃ (m : Mark) (rest : List Char), cs = m.text ++ rest ∧ takeSign cs = (m.negative, rest) := by
  rw [takeSign.eq_def]
  split
  · exact ⟨.plus, _, rfl, rfl⟩
  · exact ⟨.minus, _, rfl, rfl⟩
  · exact ⟨.unmarked, cs, rfl, rfl⟩

/-- Digits that are there begin with a digit. -/
theorem head?_digits {ds : Digits} (h : ds.chars ≠ []) (rest : List Char) :
    ∃ c, (ds.chars ++ rest).head? = some c ∧ Text.isDigit c = true := by
  cases hds : ds.chars with
  | nil => exact absurd hds h
  | cons c cs => exact ⟨c, rfl, ds.isDigit c (by simp [hds])⟩

/-- A digit is no sign. -/
theorem ne_sign_of_isDigit {c : Char} (h : Text.isDigit c = true) : c ≠ '+' ∧ c ≠ '-' := by
  constructor <;>
  · rintro rfl
    rw [Text.isDigit_eq_false_of_range (by decide)] at h
    cases h

/-- An exponent is read as the power that it stands for. -/
theorem readExponent?_text (e? : Option Exponent) :
    readExponent? (Exponent.optionalText e?) = some (Exponent.optionalPower e?) := by
  cases e? with
  | none => rfl
  | some e =>
    obtain ⟨c, hc, hdigit⟩ := head?_digits e.nonempty []
    have hsign : takeSign (e.mark.text ++ e.digits.chars) = (e.mark.negative, e.digits.chars) := by
      refine takeSign_append e.mark fun d hd => ?_
      rw [← List.append_nil e.digits.chars, hc] at hd
      cases hd
      exact ne_sign_of_isDigit hdigit
    have hdigits : takeDigits e.digits.chars = (e.digits.values, []) := by
      have hnil : ∀ c ∈ ([] : List Char).head?, Text.isDigit c = false := by simp
      rw [← takeDigits_append e.digits hnil, List.append_nil]
    obtain ⟨v, vs, hvalues⟩ : ∃ v vs, e.digits.values = v :: vs := by
      rw [← List.ne_nil_iff_exists_cons, Digits.values]
      simpa using e.nonempty
    have hletter : (if e.isCapital then 'E' else 'e') = 'e' ∨
        (if e.isCapital then 'E' else 'e') = 'E' := by
      cases e.isCapital <;> simp
    rw [Exponent.optionalText, Exponent.text, List.cons_append, readExponent?, if_pos hletter,
      hsign]
    simp only [hdigits, hvalues, Exponent.optionalPower, Exponent.power]

/-- What is read as an exponent is one, or nothing. -/
theorem exists_exponent {cs : List Char} {k : Int} (h : readExponent? cs = some k) :
    ∃ e? : Option Exponent, cs = Exponent.optionalText e? ∧ k = Exponent.optionalPower e? := by
  cases cs with
  | nil => exact ⟨none, rfl, (Option.some.inj h).symm⟩
  | cons c cs =>
    rw [readExponent?] at h
    split at h
    · rename_i hletter
      obtain ⟨mark, body, hbody, hsign⟩ := exists_mark cs
      obtain ⟨ds, rest, hrest, hdigits⟩ := exists_digits body
      simp only [hsign, hdigits] at h
      split at h
      · cases h
      · cases h
      · rename_i hne hds
        obtain ⟨hvalues, hnil⟩ := Prod.mk.inj hds
        have hchars : ds.chars ≠ [] := by
          intro hchars
          rw [Digits.values, hchars] at hvalues
          exact hne hvalues.symm
        refine ⟨some ⟨c == 'E', mark, ds, hchars⟩, ?_, ?_⟩
        · have hc : (if c == 'E' then 'E' else 'e') = c := by
            obtain rfl | rfl := hletter <;> rfl
          rw [Exponent.optionalText, Exponent.text, hc, hbody, hrest, hnil, List.append_nil]
          rfl
        · rw [← hvalues] at h
          exact (Option.some.inj h).symm
    · cases h

/-- What may follow digits and a point in a number begins neither with a digit nor with a point. -/
theorem head?_optionalText {e? : Option Exponent} :
    ∀ c ∈ (Exponent.optionalText e?).head?, Text.isDigit c = false ∧ c ≠ '.' := by
  intro c hc
  cases e? with
  | none => cases hc
  | some e =>
    cases hc
    cases e.isCapital <;> exact ⟨Text.isDigit_eq_false_of_range (by decide), by decide⟩

/-- A point and the digits after it, if they come next. -/
def takeFraction : List Char → List Nat × List Char
  | '.' :: cs => takeDigits cs
  | cs => ([], cs)

/-- There are digits after a point only if a point comes next. -/
theorem takeFraction_cons (c : Char) (cs : List Char) :
    takeFraction (c :: cs) = if c = '.' then takeDigits cs else ([], c :: cs) := by
  by_cases hpoint : c = '.'
  · subst hpoint
    rfl
  · rw [if_neg hpoint, takeFraction]
    exact fun _ h => hpoint (List.cons.inj h).1

/-- The digits after a point are taken up to what belongs to neither. -/
theorem takeFraction_append (ds? : Option Digits) {rest : List Char}
    (h : ∀ c ∈ rest.head?, Text.isDigit c = false ∧ c ≠ '.') :
    takeFraction (Digits.afterPoint ds? ++ rest) = (Digits.optionalValues ds?, rest) := by
  cases ds? with
  | some ds => exact takeDigits_append ds fun c hc => (h c hc).1
  | none =>
    cases rest with
    | nil => rfl
    | cons c cs =>
      rw [Digits.afterPoint, List.nil_append, takeFraction_cons, if_neg (h c rfl).2]
      rfl

/-- What is taken after the first digits is a point with digits, or nothing. -/
theorem exists_fraction (cs : List Char) :
    ∃ (ds? : Option Digits) (rest : List Char), cs = Digits.afterPoint ds? ++ rest ∧
      takeFraction cs = (Digits.optionalValues ds?, rest) := by
  rw [takeFraction.eq_def]
  split
  · rename_i cs
    obtain ⟨ds, rest, hcs, hdigits⟩ := exists_digits cs
    exact ⟨some ds, rest, by rw [hcs]; rfl, hdigits⟩
  · exact ⟨none, cs, rfl, rfl⟩

/-- A decimal, from the digits before and after the point and what follows them. -/
theorem readDecimal?_eq {cs rest tail : List Char} {whole fraction : List Nat}
    (hwhole : takeDigits cs = (whole, rest)) (hfraction : takeFraction rest = (fraction, tail))
    (negative : Bool) :
    readDecimal? negative cs =
      if whole.isEmpty && fraction.isEmpty then none
      else (readExponent? tail).map fun e =>
        .decimal negative (ofDigits (whole ++ fraction)) (e - fraction.length) := by
  rw [readDecimal?, hwhole]
  dsimp only
  cases rest with
  | nil =>
    cases hfraction
    rfl
  | cons c rest =>
    rw [takeFraction_cons] at hfraction
    split at hfraction
    · rename_i hpoint
      subst hpoint
      simp only [hfraction]
    · rename_i hpoint
      cases hfraction
      split
      · rename_i heq
        exact absurd (List.cons.inj heq).1 hpoint
      · rfl

/-- Digits have as many values, and none only if there are none. -/
theorem isEmpty_values (ds : Digits) : ds.values.isEmpty = true ↔ ds.chars = [] := by
  rw [Digits.values, List.isEmpty_iff, List.map_eq_nil_iff]

/-- The values of a mantissa are not all missing. -/
theorem isEmpty_mantissa (m : Mantissa) :
    (m.whole.values.isEmpty && m.fractionValues.isEmpty) = false := by
  rw [Bool.and_eq_false_iff]
  obtain h | ⟨ds, hds, h⟩ := m.nonempty
  · exact .inl (by simpa [Digits.values] using h)
  · exact .inr
      (by simpa [Mantissa.fractionValues, hds, Digits.optionalValues, Digits.values] using h)

/-- A mantissa and an exponent are read as the decimal that they stand for. -/
theorem readDecimal?_text (negative : Bool) (m : Mantissa) (e? : Option Exponent) :
    readDecimal? negative (m.text ++ Exponent.optionalText e?) =
      some (.decimal negative (ofDigits (m.whole.values ++ m.fractionValues))
        (Exponent.optionalPower e? - m.fractionValues.length)) := by
  have hpoint : ∀ c ∈ (Digits.afterPoint m.fraction? ++ Exponent.optionalText e?).head?,
      Text.isDigit c = false := by
    intro c hc
    cases hf : m.fraction? with
    | some ds =>
      rw [hf] at hc
      cases hc
      exact Text.isDigit_eq_false_of_range (by decide)
    | none =>
      rw [hf] at hc
      exact (head?_optionalText c hc).1
  rw [Mantissa.text, List.append_assoc, readDecimal?_eq (takeDigits_append m.whole hpoint)
    (takeFraction_append m.fraction? head?_optionalText), readExponent?_text]
  have hempty := isEmpty_mantissa m
  rw [Mantissa.fractionValues] at hempty ⊢
  rw [hempty]
  rfl

/-- What is read as a decimal is a mantissa with an exponent, or without. -/
theorem exists_mantissa {negative : Bool} {cs : List Char} {n : Numeral}
    (h : readDecimal? negative cs = some n) :
    ∃ (m : Mantissa) (e? : Option Exponent), cs = m.text ++ Exponent.optionalText e? ∧
      n = .decimal negative (ofDigits (m.whole.values ++ m.fractionValues))
        (Exponent.optionalPower e? - m.fractionValues.length) := by
  obtain ⟨whole, rest, hcs, hwhole⟩ := exists_digits cs
  obtain ⟨fraction?, tail, hrest, hfraction⟩ := exists_fraction rest
  rw [readDecimal?_eq hwhole hfraction] at h
  split at h
  · cases h
  · rename_i hempty
    obtain ⟨k, hk, rfl⟩ := Option.map_eq_some_iff.mp h
    obtain ⟨e?, htail, rfl⟩ := exists_exponent hk
    have hnonempty : whole.chars ≠ [] ∨ ∃ ds, fraction? = some ds ∧ ds.chars ≠ [] := by
      rw [Bool.and_eq_true, not_and_or, isEmpty_values] at hempty
      refine hempty.imp id fun hfraction => ?_
      cases fraction? with
      | none => exact absurd rfl hfraction
      | some ds => exact ⟨ds, rfl, fun hds => hfraction ((isEmpty_values ds).mpr hds)⟩
    refine ⟨⟨whole, fraction?, hnonempty⟩, e?, ?_, rfl⟩
    rw [hcs, hrest, htail, Mantissa.text, List.append_assoc]

/-! ## Reading a number -/

/-- A text that is a word begins as the word does. -/
theorem head?_of_isWord {word : String} {cs : List Char} (h : isWord word cs = true) :
    cs.head?.map Char.toLower = word.toList.head? := by
  rw [isWord, beq_iff_eq] at h
  rw [← h, List.head?_map]

/-- A mantissa begins with a digit or a point, so with no sign and as no word. -/
theorem head?_mantissa (m : Mantissa) (rest : List Char) :
    ∃ c, (m.text ++ rest).head? = some c ∧ (c ≠ '+' ∧ c ≠ '-') ∧
      c.toLower ≠ 'i' ∧ c.toLower ≠ 'n' := by
  have hdigit : ∀ c, Text.isDigit c = true →
      (c ≠ '+' ∧ c ≠ '-') ∧ c.toLower ≠ 'i' ∧ c.toLower ≠ 'n' := by
    intro c hc
    refine ⟨ne_sign_of_isDigit hc, ?_⟩
    rw [Text.toLower_of_isDigit hc]
    constructor <;>
    · rintro rfl
      rw [Text.isDigit_eq_false_of_range (by decide)] at hc
      cases hc
  have hpoint : ('.' ≠ '+' ∧ '.' ≠ '-') ∧ '.'.toLower ≠ 'i' ∧ '.'.toLower ≠ 'n' := by decide
  rw [Mantissa.text, List.append_assoc]
  cases hwhole : m.whole.chars with
  | cons c cs => exact ⟨c, rfl, hdigit c (m.whole.isDigit c (by simp [hwhole]))⟩
  | nil =>
    obtain h | ⟨ds, hds, -⟩ := m.nonempty
    · exact absurd hwhole h
    · rw [hds]
      exact ⟨'.', rfl, hpoint⟩

/-- A spelling is read as the numeral that it stands for. -/
theorem read?_text (w : Spelling) : read? w.text = some w.numeral := by
  cases w with
  | infinity mark =>
    have hword : isWord "infinity" "Infinity".toList = true := by decide
    have hsign : takeSign (mark.text ++ "Infinity".toList) = (mark.negative, "Infinity".toList) :=
      takeSign_append mark (by simp)
    rw [Spelling.text, read?, hsign]
    simp only [hword, Bool.or_true, if_true, Spelling.numeral]
  | decimal mark mantissa exponent? =>
    obtain ⟨c, hc, hsign, hi, hn⟩ := head?_mantissa mantissa (Exponent.optionalText exponent?)
    have hword : ∀ word : String, word.toList.head? = some 'i' ∨ word.toList.head? = some 'n' →
        isWord word (mantissa.text ++ Exponent.optionalText exponent?) = false := by
      intro word hword
      rw [Bool.eq_false_iff]
      intro h
      have hhead := head?_of_isWord h
      rw [hc, Option.map_some] at hhead
      obtain hword | hword := hword
      · exact hi (Option.some.inj (hhead.trans hword))
      · exact hn (Option.some.inj (hhead.trans hword))
    rw [Spelling.text, read?, takeSign_append mark (by simpa [hc] using hsign)]
    simp only [hword "inf" (.inl (by decide)), hword "infinity" (.inl (by decide)),
      hword "nan" (.inr (by decide)), Bool.or_self, Bool.false_eq_true, if_false]
    exact readDecimal?_text mark.negative mantissa exponent?

/-- What is read as a comparable numeral is a spelling of it. -/
theorem exists_spelling {cs : List Char} {n : Numeral} (h : read? cs = some n) (hnan : n ≠ .nan)
    (hinfinity : ∀ negative, n = .infinity negative → (takeSign cs).2 = "Infinity".toList) :
    ∃ w : Spelling, cs = w.text ∧ n = w.numeral := by
  obtain ⟨mark, body, hcs, hsign⟩ := exists_mark cs
  rw [read?, hsign] at h
  dsimp only at h
  split at h
  · cases h
    have hbody := hinfinity _ rfl
    rw [hsign] at hbody
    exact ⟨.infinity mark, by rw [hcs, Spelling.text, ← hbody], rfl⟩
  · split at h
    · cases h
      exact absurd rfl hnan
    · obtain ⟨mantissa, exponent?, hbody, rfl⟩ := exists_mantissa h
      exact ⟨.decimal mark mantissa exponent?, by rw [hcs, hbody, Spelling.text], rfl⟩

end Numeral

/-! ## Comparable numbers -/

/-- The comparable number of a text is that of the spelling which the text is between blanks. -/
theorem comparable_eq_ok_iff {text : String} {x : Binary64} :
    comparable text = .ok x ↔ ∃ w : Spelling, w.Spells text ∧ w.numeral.value = x := by
  constructor
  · intro h
    obtain ⟨before, after, htext, hbefore, hafter⟩ := Text.exists_eq_trimChars text.toList
    have hspells : ∀ w : Spelling, Text.trimChars text.toList = w.text → w.Spells text :=
      fun w hw => ⟨before, after, by rw [← hw]; exact htext, hbefore, hafter⟩
    rw [comparable] at h
    split at h
    · cases h
    · cases hread : Numeral.read? (Text.trimChars text.toList) with
      | none => rw [hread] at h; cases h
      | some n =>
        rw [hread] at h
        cases n with
        | nan => cases h
        | infinity negative =>
          dsimp only at h
          split at h
          · rename_i hword
            obtain ⟨w, hw, hnumeral⟩ := Numeral.exists_spelling hread (by simp) (fun _ _ => hword)
            exact ⟨w, hspells w hw, by rw [← hnumeral]; exact Except.ok.inj h⟩
          · cases h
        | decimal negative coefficient scale =>
          obtain ⟨w, hw, hnumeral⟩ := Numeral.exists_spelling hread (by simp) (by simp)
          exact ⟨w, hspells w hw, by rw [← hnumeral]; exact Except.ok.inj h⟩
  · rintro ⟨w, hw, rfl⟩
    have hline : w.text.contains '_' = false := by
      rw [Bool.eq_false_iff]
      intro h
      exact (w.isNumberChar '_' (List.contains_iff_mem.mp h)).not_blank.2 rfl
    rw [comparable, hw.trimChars_eq]
    simp only [hline, Numeral.read?_text, Bool.false_eq_true, if_false]
    cases w with
    | decimal mark mantissa exponent? => rfl
    | infinity mark =>
      have hsign : Numeral.takeSign (mark.text ++ "Infinity".toList) =
          (mark.negative, "Infinity".toList) := Numeral.takeSign_append mark (by simp)
      simp only [Spelling.numeral, Spelling.text, hsign, if_true, Numeral.value]

end Winnow

import Mathlib.Algebra.Group.Nat.Defs
import Mathlib.Tactic.SplitIfs
import Mathlib.Tactic.Tauto
import Winnow.Text.Quoted

set_option autoImplicit false

/-!
# Reading quoted text

A quoted text can be read back, and where it ends can be told without looking at what follows. So
several of them with separators in between can be taken apart again, whatever characters they hold.

## Main definitions

* `Winnow.Text.ReadState`, `Winnow.Text.readBody` — the reader of what stands between two quotes.
* `Winnow.Text.readQuoted` — the reader of a quoted text.
* `Winnow.Text.Delimited` — the written form of something shows where it ends.
* `Winnow.Text.joined` — written forms with separators in between.

## Main results

* `Winnow.Text.readBody_escape` — what is written for one character is read as that character.
* `Winnow.Text.readQuoted_quoteChars` — a quoted text is read back, and nothing after it is touched.
* `Winnow.Text.joined_append_inj` — delimited forms with separators in between can be taken apart.

## Design

The reader is a machine that looks at one character at a time, so it needs no measure. It knows
nothing of which characters are printable: a character that is not part of an escape is itself.
-/

namespace Winnow.Text

/-! ## The reader -/

/-- The value of a lower-case hexadecimal digit. -/
def hexValue? (c : Char) : Option Nat :=
  (List.range 16).find? fun d => hexDigit d == c

/-- Where a reader stands in a text between two quotes. -/
inductive ReadState where
  /-- Before a character. -/
  | plain
  /-- After a backslash. -/
  | escape
  /-- In a field of hexadecimal digits, before this many digits and one more, after digits of the
  given value. -/
  | digits (more value : Nat)

/-- What is read up to a closing quote, and what is left after it. -/
def readBody (mark : Char) : ReadState → List Char → Option (List Char × List Char)
  | _, [] => none
  | .plain, c :: cs =>
    if c == mark then some ([], cs)
    else if c == '\\' then readBody mark .escape cs
    else (readBody mark .plain cs).map fun (read, rest) => (c :: read, rest)
  | .escape, c :: cs =>
    if c == 'x' then readBody mark (.digits 1 0) cs
    else if c == 'u' then readBody mark (.digits 3 0) cs
    else if c == 'U' then readBody mark (.digits 7 0) cs
    else
      let d := if c == 't' then '\t' else if c == 'n' then '\n' else if c == 'r' then '\r' else c
      (readBody mark .plain cs).map fun (read, rest) => (d :: read, rest)
  | .digits more value, c :: cs =>
    match hexValue? c with
    | none => none
    | some d =>
      match more with
      | 0 =>
        (readBody mark .plain cs).map fun (read, rest) =>
          (Char.ofNat (16 * value + d) :: read, rest)
      | more + 1 => readBody mark (.digits more (16 * value + d)) cs

/-- The text of a quoted text at the start of some characters, and what is left after it. -/
def readQuoted : List Char → Option (List Char × List Char)
  | [] => none
  | mark :: cs => if mark == '\'' || mark == '"' then readBody mark .plain cs else none

/-! ## Fields of digits -/

/-- A digit has the value that it was written for. -/
theorem hexValue?_hexDigit {d : Nat} (h : d < 16) : hexValue? (hexDigit d) = some d := by
  have hall : ∀ d < 16, hexValue? (hexDigit d) = some d := by decide
  exact hall d h

/-- A field holds digits, as many as it is wide, whose value is that of the number as far as the
field reaches. -/
theorem exists_digits_hexField (width n : Nat) :
    ∃ ds : List Nat, hexField width n = ds.map hexDigit ∧ ds.length = width ∧
      (∀ d ∈ ds, d < 16) ∧ ds.foldl (fun value d => 16 * value + d) 0 = n % 16 ^ width := by
  induction width generalizing n with
  | zero => exact ⟨[], rfl, rfl, by simp, by simp [Nat.mod_one]⟩
  | succ width ih =>
    obtain ⟨ds, hfield, hlength, hdigits, hvalue⟩ := ih (n / 16)
    refine ⟨ds ++ [n % 16], by simp [hexField, hfield], by simp [hlength], ?_, ?_⟩
    · intro d hd
      rcases List.mem_append.mp hd with hd | hd
      · exact hdigits d hd
      · rw [List.mem_singleton.mp hd]
        omega
    · rw [List.foldl_append, hvalue, Nat.pow_succ', Nat.mod_mul]
      simp only [List.foldl_cons, List.foldl_nil]
      omega

section Reading

variable {mark : Char}

/-- Digits are read as the character with their value. -/
theorem readBody_digits {ds : List Nat} (hds : ∀ d ∈ ds, d < 16) {more : Nat}
    (hlength : ds.length = more + 1) (value : Nat) (rest : List Char) :
    readBody mark (.digits more value) (ds.map hexDigit ++ rest) =
      (readBody mark .plain rest).map fun (read, left) =>
        (Char.ofNat (ds.foldl (fun value d => 16 * value + d) value) :: read, left) := by
  induction ds generalizing more value with
  | nil => simp at hlength
  | cons d ds ih =>
    rw [List.forall_mem_cons] at hds
    simp only [List.map_cons, List.cons_append, List.foldl_cons, readBody, hexValue?_hexDigit hds.1]
    cases more with
    | zero =>
      obtain rfl : ds = [] := by simpa using hlength
      rfl
    | succ more => exact ih hds.2 (by simpa using hlength) _

/-- A field that is wide enough for a character is read as that character. -/
theorem readBody_hexField (width : Nat) {c : Char} (h : c.toNat < 16 ^ (width + 1))
    (rest : List Char) :
    readBody mark (.digits width 0) (hexField (width + 1) c.toNat ++ rest) =
      (readBody mark .plain rest).map fun (read, left) => (c :: read, left) := by
  obtain ⟨ds, hfield, hlength, hdigits, hvalue⟩ := exists_digits_hexField (width + 1) c.toNat
  rw [hfield, readBody_digits hdigits hlength, hvalue, Nat.mod_eq_of_lt h, Char.ofNat_toNat]

/-! ## Quoted texts -/

/-- A backslash is no quote. -/
theorem readBody_backslash (hmark : mark = '\'' ∨ mark = '"') (cs : List Char) :
    readBody mark .plain ('\\' :: cs) = readBody mark .escape cs := by
  have hne : ('\\' == mark) = false := by
    rcases hmark with rfl | rfl <;> decide
  rw [readBody, hne]
  rfl

/-- **What is written for a character is read as that character.**

**Proof sketch.** One case for each way to write a character. One that is written as it is is
neither the quote nor a backslash, so the reader takes it as it is; a field of digits is always wide
enough. -/
theorem readBody_escape (hmark : mark = '\'' ∨ mark = '"') (c : Char) (rest : List Char) :
    readBody mark .plain (escape mark c ++ rest) =
      (readBody mark .plain rest).map fun (read, left) => (c :: read, left) := by
  have hescape := readBody_backslash hmark
  unfold escape
  split_ifs with hquote htab hnewline hreturn hprintable hnarrow hwide
  · have hcases : c = '\'' ∨ c = '"' ∨ c = '\\' := by
      rcases hmark with rfl | rfl <;> simp at hquote <;> tauto
    rw [List.cons_append, hescape]
    rcases hcases with rfl | rfl | rfl <;> rfl
  · rw [List.cons_append, hescape, beq_iff_eq.mp htab]
    rfl
  · rw [List.cons_append, hescape, beq_iff_eq.mp hnewline]
    rfl
  · rw [List.cons_append, hescape, beq_iff_eq.mp hreturn]
    rfl
  · simp only [Bool.or_eq_true, not_or, Bool.not_eq_true] at hquote
    rw [List.singleton_append, readBody, hquote.1, hquote.2]
    rfl
  · rw [List.cons_append, hescape]
    exact readBody_hexField 1 hnarrow rest
  · rw [List.cons_append, hescape]
    exact readBody_hexField 3 hwide rest
  · rw [List.cons_append, hescape]
    exact readBody_hexField 7 c.val.toNat_lt rest

/-- What is written for a text between two quotes is read back. -/
theorem readBody_flatMap_escape (hmark : mark = '\'' ∨ mark = '"') (cs rest : List Char) :
    readBody mark .plain (cs.flatMap (escape mark) ++ mark :: rest) = some (cs, rest) := by
  induction cs with
  | nil => simp [readBody]
  | cons c cs ih =>
    rw [List.flatMap_cons, List.append_assoc, readBody_escape hmark, ih]
    rfl

end Reading

/-- **A quoted text is read back**, whatever characters it holds and whatever follows it. -/
theorem readQuoted_quoteChars (cs rest : List Char) :
    readQuoted (quoteChars cs ++ rest) = some (cs, rest) := by
  have hmark : quoteMark cs = '\'' ∨ quoteMark cs = '"' := by
    unfold quoteMark
    split
    · exact .inr rfl
    · exact .inl rfl
  have hopens : (quoteMark cs == '\'' || quoteMark cs == '"') = true := by
    rcases hmark with h | h <;> rw [h] <;> decide
  rw [quoteChars, List.cons_append, List.cons_append, readQuoted, hopens, List.append_assoc]
  exact readBody_flatMap_escape hmark cs rest

/-! ## Delimited forms -/

section Delimited

variable {α : Type} {f : α → List Char}

/-- The written form of something shows where it ends: no other thing is written in the same way,
nor in a way that goes on after it or ends before it. -/
def Delimited (f : α → List Char) (a : α) : Prop :=
  ∀ b us vs, f a ++ us = f b ++ vs → a = b ∧ us = vs

/-- Quoted texts are delimited. -/
theorem delimited_quote (text : String) : Delimited (fun text => (quote text).toList) text := by
  intro text' us vs h
  have hread := congrArg readQuoted h
  simp only [quote, String.toList_ofList, readQuoted_quoteChars, Option.some.injEq,
    Prod.mk.injEq, String.toList_inj] at hread
  exact hread

/-- Written forms with a comma and a blank in between. -/
def joined (f : α → List Char) (as : List α) : List Char :=
  [',', ' '].intercalate (as.map f)

/-- After the first form, each further one comes with a separator before it. -/
theorem joined_cons (a : α) (as : List α) :
    joined f (a :: as) = f a ++ as.flatMap fun b => ',' :: ' ' :: f b := by
  unfold joined
  induction as generalizing a with
  | nil => simp
  | cons b as ih =>
    rw [List.map_cons, List.map_cons, List.intercalate_cons_cons, ← List.map_cons, ih,
      List.flatMap_cons]
    simp

/-- Delimited forms, each with a separator before it, can be taken apart up to a character that
closes them and starts no separator. -/
theorem separated_append_inj {close : Char} (hclose : close ≠ ',') {as bs : List α}
    (has : ∀ a ∈ as, Delimited f a) {us vs : List Char}
    (h : (as.flatMap fun a => ',' :: ' ' :: f a) ++ close :: us =
      (bs.flatMap fun b => ',' :: ' ' :: f b) ++ close :: vs) : as = bs ∧ us = vs := by
  induction as generalizing bs with
  | nil =>
    cases bs with
    | nil => exact ⟨rfl, (List.cons.inj h).2⟩
    | cons b bs => exact absurd (List.cons.inj h).1 hclose
  | cons a as ih =>
    rw [List.forall_mem_cons] at has
    cases bs with
    | nil => exact absurd (List.cons.inj h).1.symm hclose
    | cons b bs =>
      simp only [List.flatMap_cons, List.cons_append, List.append_assoc, List.cons.injEq,
        true_and] at h
      obtain ⟨rfl, hrest⟩ := has.1 b _ _ h
      obtain ⟨rfl, rfl⟩ := ih has.2 hrest
      exact ⟨rfl, rfl⟩

/-- **Delimited forms with separators in between can be taken apart** up to a character that closes
them, if that starts neither a form nor a separator. -/
theorem joined_append_inj {close : Char} (hclose : close ≠ ',')
    (hopen : ∀ a us vs, f a ++ us ≠ close :: vs) {as bs : List α} (has : ∀ a ∈ as, Delimited f a)
    {us vs : List Char} (h : joined f as ++ close :: us = joined f bs ++ close :: vs) :
    as = bs ∧ us = vs := by
  cases as with
  | nil =>
    cases bs with
    | nil => exact ⟨rfl, (List.cons.inj h).2⟩
    | cons b bs =>
      rw [joined_cons, List.append_assoc] at h
      exact absurd h.symm (hopen b _ _)
  | cons a as =>
    rw [List.forall_mem_cons] at has
    cases bs with
    | nil =>
      rw [joined_cons, List.append_assoc] at h
      exact absurd h (hopen a _ _)
    | cons b bs =>
      rw [joined_cons, joined_cons, List.append_assoc, List.append_assoc] at h
      obtain ⟨rfl, hrest⟩ := has.1 b _ _ h
      obtain ⟨rfl, rfl⟩ := separated_append_inj hclose has.2 hrest
      exact ⟨rfl, rfl⟩

end Delimited

/-- The quoted forms of several texts between brackets are delimited. -/
theorem delimited_quoteList (texts : List String) :
    Delimited (fun texts => (quoteList texts).toList) texts := by
  have hchars : ∀ texts, (quoteList texts).toList =
      '[' :: (joined (fun text => (quote text).toList) texts ++ [']']) := by
    intro texts
    simp [quoteList, joined, String.toList_intercalate, List.map_map, Function.comp_def]
  have hopen : ∀ text us vs, (quote text).toList ++ us ≠ ']' :: vs := by
    intro text us vs h
    have hmark : quoteMark text.toList = ']' := by
      simpa [quote, quoteChars] using congrArg List.head? h
    unfold quoteMark at hmark
    split at hmark <;> exact absurd hmark (by decide)
  intro texts' us vs h
  simp only [hchars, List.cons_append, List.append_assoc, List.cons.injEq, true_and,
    List.nil_append] at h
  exact joined_append_inj (by decide) hopen (fun text _ => delimited_quote text) h

end Winnow.Text

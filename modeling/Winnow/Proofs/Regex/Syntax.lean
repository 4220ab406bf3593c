import Mathlib.Computability.Language
import Winnow.Pattern.Scan

set_option autoImplicit false

/-!
# Regular expressions

Regular expressions as such: their syntax, their languages, and how they are written as patterns.
Nothing here refers to the reader or to the matcher of patterns.

## Main definitions

* `Winnow.Pattern.Regex` — regular expressions, and `Winnow.Pattern.Regex.language`, the texts that
  belong to one.
* `Winnow.Pattern.Regex.tokens`, `Winnow.Pattern.Regex.text` — a regular expression as a pattern.
* `Winnow.Pattern.Regex.Fits` — expressions that can be written at a place without further
  parentheses.
* `Winnow.Pattern.Regex.bracketed` — the expression with parentheses around every composite
  operand.
* `Winnow.Pattern.Regex.greedy` — the expression with every repeat greedy.

## Main results

* `Winnow.Pattern.Regex.fits_bracketed` — with all these parentheses an expression can be written.
* `Winnow.Pattern.Regex.language_bracketed`, `Winnow.Pattern.Regex.language_greedy` — neither
  parentheses nor greed change the language.

## Design

A character carries with it how it is written and that this can be read, a range that it ascends,
and a repeat count that it is not too large. So every expression can be written, and what is left to
ask is only where parentheses are needed.
-/

namespace Winnow.Pattern

/-! ## Characters -/

/-- A character as it is written, as it is or after a backslash, where some characters are
special. -/
structure Letter (special : List Char) where
  /-- The character. -/
  char : Char
  /-- Whether a backslash precedes it. -/
  escaped : Bool
  /-- A special character has to be escaped, and a letter or digit must not be. -/
  legible : if escaped then char.isAlphanum = false else char ∉ special

/-- A character as one token. -/
def Letter.token {special : List Char} (l : Letter special) : Token :=
  if l.escaped then .escaped l.char else .plain l.char

/-- The characters that are special outside of sets. -/
def metacharacters : List Char :=
  ['\\', '.', '^', '$', '*', '+', '?', '{', '[', '|', '(', ')']

/-- The characters that are special inside of sets. -/
def setCharacters : List Char :=
  ['\\', ']', '^', '-']

/-- A member of a set: one character, or all characters of a range. -/
inductive SetMember where
  | one (l : Letter setCharacters)
  | range (first last : Letter setCharacters) (ascending : first.char ≤ last.char)

namespace SetMember

/-- Whether a character is one of those that a member stands for. -/
def Holds (c : Char) : SetMember → Prop
  | one l => c = l.char
  | range first last _ => first.char ≤ c ∧ c ≤ last.char

/-- A member of a set as it is written. -/
def tokens : SetMember → List Token
  | one l => [l.token]
  | range first last _ => [first.token, .plain '-', last.token]

end SetMember

/-! ## Repeats -/

/-- The counts of repeats are below this number. -/
def countLimit : Nat :=
  4294967295

/-- How often something is to be repeated. -/
inductive Quantifier where
  | star
  | plus
  | optional
  | exactly (count : Nat) (h : count < countLimit)
  | atLeast (least : Nat) (h : least < countLimit)
  | between (least most : Nat) (ordered : least ≤ most) (h : most < countLimit)

namespace Quantifier

/-- The least number of rounds. -/
def least : Quantifier → Nat
  | star | optional => 0
  | plus => 1
  | exactly count _ => count
  | atLeast least _ | between least _ _ _ => least

/-- The greatest number of rounds, if there is one. -/
def most? : Quantifier → Option Nat
  | star | plus | atLeast _ _ => none
  | optional => some 1
  | exactly count _ => some count
  | between _ most _ _ => some most

/-- Whether a number of rounds is admitted. -/
def Admits (q : Quantifier) (n : Nat) : Prop :=
  q.least ≤ n ∧ ∀ most ∈ q.most?, n ≤ most

/-- The texts of an admitted number of rounds of a language. -/
def rounds (q : Quantifier) (l : Language Char) : Language Char :=
  {w | ∃ n, q.Admits n ∧ w ∈ l ^ n}

theorem mem_rounds {q : Quantifier} {l : Language Char} {w : List Char} :
    w ∈ q.rounds l ↔ ∃ n, q.Admits n ∧ w ∈ l ^ n :=
  Iff.rfl

/-- Any number of rounds of a language is its closure. -/
theorem rounds_star (l : Language Char) : star.rounds l = KStar.kstar l := by
  ext w
  rw [mem_rounds, Language.kstar_eq_iSup_pow, Language.mem_iSup]
  constructor
  · rintro ⟨n, -, hw⟩
    exact ⟨n, hw⟩
  · rintro ⟨n, hw⟩
    exact ⟨n, ⟨Nat.zero_le n, by simp [most?]⟩, hw⟩

/-- Characters that are written as they are. -/
def plain (cs : List Char) : List Token :=
  cs.map .plain

/-- A number in decimal digits. -/
def decimal (n : Nat) : List Token :=
  plain (Nat.toDigits 10 n)

/-- A repeat as it is written. -/
def tokens : Quantifier → List Token
  | star => plain ['*']
  | plus => plain ['+']
  | optional => plain ['?']
  | exactly count _ => .plain '{' :: decimal count ++ plain ['}']
  | atLeast least _ => .plain '{' :: decimal least ++ plain [',', '}']
  | between least most _ _ =>
    .plain '{' :: decimal least ++ .plain ',' :: decimal most ++ plain ['}']

end Quantifier

/-! ## Regular expressions -/

/-- A regular expression. -/
inductive Regex where
  /-- The empty text. -/
  | empty
  /-- A single character. -/
  | char (l : Letter metacharacters)
  /-- Any single character but a line feed. -/
  | any
  /-- A single character that is in a set, or is not. -/
  | set (negated : Bool) (first : SetMember) (others : List SetMember)
  /-- An expression in parentheses. -/
  | group (body : Regex)
  /-- One expression, then another. -/
  | seq (first second : Regex)
  /-- One expression or another. -/
  | alt (first second : Regex)
  /-- A number of rounds of an expression, as many as possible first, or else as few. -/
  | repeated (isLazy : Bool) (q : Quantifier) (body : Regex)

namespace Regex

/-- The texts of one character that has a property. -/
def oneChar (property : Char → Prop) : Language Char :=
  {w | ∃ c, w = [c] ∧ property c}

/-- The texts that belong to a regular expression. -/
def language : Regex → Language Char
  | empty => 1
  | char l => oneChar fun c => c = l.char
  | any => oneChar fun c => c ≠ '\n'
  | set negated first others =>
    oneChar fun c => (∃ m ∈ first :: others, m.Holds c) ↔ negated = false
  | group body => body.language
  | seq first second => first.language * second.language
  | alt first second => first.language + second.language
  | repeated _ q body => q.rounds body.language

/-- A regular expression as it is written, without more parentheses than it has. -/
def tokens : Regex → List Token
  | empty => []
  | char l => [l.token]
  | any => [.plain '.']
  | set negated first others =>
    .plain '[' :: (if negated then [.plain '^'] else [])
      ++ (first :: others).flatMap SetMember.tokens ++ [.plain ']']
  | group body => .plain '(' :: .plain '?' :: .plain ':' :: body.tokens ++ [.plain ')']
  | seq first second => first.tokens ++ second.tokens
  | alt first second => first.tokens ++ .plain '|' :: second.tokens
  | repeated isLazy q body => body.tokens ++ q.tokens ++ if isLazy then [.plain '?'] else []

/-- A regular expression as a text. -/
def text (r : Regex) : String :=
  String.ofList (r.tokens.flatMap Token.chars)

/-! ## Parentheses -/

/-- Where an expression is written. -/
inductive Place where
  /-- As a whole pattern, between parentheses, or as one of several alternatives. -/
  | whole
  /-- In a sequence. -/
  | sequence
  /-- Before a quantifier. -/
  | operand
deriving DecidableEq

/-- Expressions that can be written at a place without further parentheses. -/
def Fits : Regex → Place → Prop
  | empty, p => p ≠ .operand
  | char _, _ | any, _ | set _ _ _, _ => True
  | group body, _ => body.Fits .whole
  | seq first second, p => p ≠ .operand ∧ first.Fits .sequence ∧ second.Fits .sequence
  | alt first second, p => p = .whole ∧ first.Fits .whole ∧ second.Fits .whole
  | repeated _ _ body, p => p ≠ .operand ∧ body.Fits .operand

/-- Whether an expression is more than one character, set or group. -/
def isComposite : Regex → Bool
  | empty | seq _ _ | alt _ _ | repeated _ _ _ => true
  | char _ | any | set _ _ _ | group _ => false

/-- The expression as an operand: in parentheses if it is composite. -/
def asOperand (r : Regex) : Regex :=
  if r.isComposite then group r else r

/-- The expression with parentheses around every composite operand. -/
def bracketed : Regex → Regex
  | group body => group body.bracketed
  | seq first second => seq first.bracketed.asOperand second.bracketed.asOperand
  | alt first second => alt first.bracketed.asOperand second.bracketed.asOperand
  | repeated isLazy q body => repeated isLazy q body.bracketed.asOperand
  | r => r

/-- An operand can be written anywhere. -/
theorem fits_asOperand {r : Regex} (h : r.Fits .whole) (p : Place) : r.asOperand.Fits p := by
  cases r with
  | empty => exact h
  | seq first second => exact h
  | alt first second => exact h
  | repeated isLazy q body => exact h
  | group body => exact h
  | char l => trivial
  | any => trivial
  | set negated first others => trivial

/-- With parentheses around every composite operand an expression can be written. -/
theorem fits_bracketed (r : Regex) : r.bracketed.Fits .whole := by
  induction r with
  | empty => exact Place.noConfusion
  | char l => trivial
  | any => trivial
  | set negated first others => trivial
  | group body ih => exact ih
  | seq first second ih₁ ih₂ =>
    exact ⟨Place.noConfusion, fits_asOperand ih₁ .sequence, fits_asOperand ih₂ .sequence⟩
  | alt first second ih₁ ih₂ =>
    exact ⟨rfl, fits_asOperand ih₁ .whole, fits_asOperand ih₂ .whole⟩
  | repeated isLazy q body ih => exact ⟨Place.noConfusion, fits_asOperand ih .operand⟩

/-- Parentheses do not change the language. -/
@[simp] theorem language_asOperand (r : Regex) : r.asOperand.language = r.language := by
  rw [asOperand]
  split <;> rfl

/-- Parentheses around every composite operand do not change the language. -/
@[simp] theorem language_bracketed (r : Regex) : r.bracketed.language = r.language := by
  induction r with
  | group body ih => exact ih
  | seq first second ih₁ ih₂ => simp [bracketed, language, ih₁, ih₂]
  | alt first second ih₁ ih₂ => simp [bracketed, language, ih₁, ih₂]
  | repeated isLazy q body ih => simp [bracketed, language, ih]
  | _ => rfl

/-! ## Greed -/

/-- The expression with every repeat greedy. -/
def greedy : Regex → Regex
  | group body => group body.greedy
  | seq first second => seq first.greedy second.greedy
  | alt first second => alt first.greedy second.greedy
  | repeated _ q body => repeated false q body.greedy
  | r => r

/-- Greed does not change the language. -/
@[simp] theorem language_greedy (r : Regex) : r.greedy.language = r.language := by
  induction r with
  | group body ih => exact ih
  | seq first second ih₁ ih₂ => simp [greedy, language, ih₁, ih₂]
  | alt first second ih₁ ih₂ => simp [greedy, language, ih₁, ih₂]
  | repeated isLazy q body ih => simp [greedy, language, ih]
  | _ => rfl

end Regex

end Winnow.Pattern

import Mathlib.Data.List.DropRight
import Winnow.Text.CharClass

set_option autoImplicit false

/-!
# Digits and blanks

What the readers of numbers need to know of single characters: digits of all scripts, their values,
the digits of the first 128 code points that stand for them, and the blanks that are trimmed.

## Main definitions

* `Winnow.Text.digitValue` — the value of a digit, zero for other characters.
* `Winnow.Text.plainDigit` — a digit in its plain form, other characters as they are.

## Main results

* `Winnow.Text.forall_digit` — what holds of the ten code points after each zero, holds of digits.
* `Winnow.Text.exists_eq_trimChars` — a text is what is trimmed off its ends and what is left.
* `Winnow.Text.trimChars_padded` — trimming takes blanks off a text that holds none itself.
-/

namespace Winnow.Text

/-! ## Digits -/

/-- The value of a decimal digit; zero for other characters. -/
def digitValue (c : Char) : Nat :=
  (digitValue? c).getD 0

/-- The digit of the first 128 code points with the value of a digit; other characters are
themselves. -/
def plainDigit (c : Char) : Char :=
  match digitValue? c with
  | some d => Char.ofNat (0x30 + d)
  | none => c

/-- The value of a digit is its distance from the zero of its run. -/
theorem exists_zero_of_digitValue? {c : Char} {d : Nat} (h : digitValue? c = some d) :
    ∃ base ∈ digitZeros, c.toNat = base + d ∧ d < 10 := by
  rw [digitValue?] at h
  split at h
  · rename_i base hbase
    have hrange := List.find?_some hbase
    simp only [Bool.and_eq_true, decide_eq_true_eq] at hrange
    cases h
    exact ⟨base, List.mem_of_find?_eq_some hbase, by omega, by omega⟩
  · cases h

/-- A digit has a value. -/
theorem digitValue?_eq_some {c : Char} (h : isDigit c = true) :
    digitValue? c = some (digitValue c) := by
  obtain ⟨d, hd⟩ := Option.isSome_iff_exists.mp h
  rw [digitValue, hd, Option.getD_some]

/-- A character without a value is no digit. -/
theorem isDigit_eq_false_iff {c : Char} : isDigit c = false ↔ digitValue? c = none := by
  simp [isDigit]

/-- A property of each character of a text, from its evaluation on that text alone: the characters
that there are would be too many to go through. -/
theorem forall_mem_of_all {P : Char → Prop} [DecidablePred P] {cs : List Char}
    (h : (cs.all fun c => P c) = true) : ∀ c ∈ cs, P c :=
  fun c hc => of_decide_eq_true (List.all_eq_true.mp h c hc)

/-- What holds of the ten code points from each zero on, holds of all digits. -/
theorem forall_digit {P : Nat → Prop} (h : ∀ base ∈ digitZeros, ∀ d < 10, P (base + d)) {c : Char}
    (hc : isDigit c = true) : P c.toNat := by
  obtain ⟨base, hbase, heq, hlt⟩ := exists_zero_of_digitValue? (digitValue?_eq_some hc)
  rw [heq]
  exact h base hbase _ hlt

/-- The digits of the first 128 code points stand together, the others far beyond. -/
theorem digit_range {c : Char} (hc : isDigit c = true) :
    (0x30 ≤ c.toNat ∧ c.toNat ≤ 0x39) ∨ 0x660 ≤ c.toNat :=
  forall_digit (P := fun n => (0x30 ≤ n ∧ n ≤ 0x39) ∨ 0x660 ≤ n) (by decide +kernel) hc

/-- Other characters below the first run of digits of another script are no digits. -/
theorem isDigit_eq_false_of_range {c : Char}
    (h : c.toNat < 0x30 ∨ 0x39 < c.toNat ∧ c.toNat < 0x660) : isDigit c = false := by
  rw [Bool.eq_false_iff]
  intro hc
  have := digit_range hc
  omega

/-- No digit is a blank. -/
theorem isBlank_of_isDigit {c : Char} (hc : isDigit c = true) : isBlank c = false :=
  forall_digit (P := fun n => inRanges blankRanges n = false) (by decide +kernel) hc

/-- No digit is a capital letter. -/
theorem toLower_of_isDigit {c : Char} (hc : isDigit c = true) : c.toLower = c := by
  have hrange := digit_range hc
  have hcapital : ¬ (c.val ≥ 'A'.val ∧ c.val ≤ 'Z'.val) := by
    simp only [Char.toNat] at hrange
    rintro ⟨hlow, hhigh⟩
    have hlow : 0x41 ≤ c.val.toNat := hlow
    have hhigh : c.val.toNat ≤ 0x5A := hhigh
    omega
  exact dif_neg hcapital

/-! ## Plain digits -/

/-- Characters that are no digits are plain. -/
theorem plainDigit_of_not_isDigit {c : Char} (hc : isDigit c = false) : plainDigit c = c := by
  rw [plainDigit, isDigit_eq_false_iff.mp hc]

/-- The plain form of a digit is the digit with its value after the first zero. -/
theorem plainDigit_of_isDigit {c : Char} (hc : isDigit c = true) :
    plainDigit c = Char.ofNat (0x30 + digitValue c) ∧ digitValue c < 10 := by
  have hvalue := digitValue?_eq_some hc
  obtain ⟨-, -, -, hlt⟩ := exists_zero_of_digitValue? hvalue
  exact ⟨by rw [plainDigit, hvalue], hlt⟩

/-- The value of a plain digit is its distance from the first zero. -/
theorem digitValue?_ofNat : ∀ d < 10, digitValue? (Char.ofNat (0x30 + d)) = some d := by
  decide +kernel

/-- A digit of the first 128 code points has its value. -/
theorem digitValue?_of_isDigit {c : Char} (h : c.isDigit = true) :
    digitValue? c = some (c.toNat - '0'.toNat) := by
  have hrange : 0x30 ≤ c.toNat ∧ c.toNat ≤ 0x39 := by
    simp only [Char.isDigit, Bool.and_eq_true, decide_eq_true_eq] at h
    exact h
  have hc : Char.ofNat (0x30 + (c.toNat - 0x30)) = c := by
    rw [Nat.add_sub_cancel' hrange.1, Char.ofNat_toNat]
  have hvalue := digitValue?_ofNat (c.toNat - 0x30) (by omega)
  rwa [hc] at hvalue

/-- The plain form of a digit has its value. -/
@[simp] theorem digitValue?_plainDigit (c : Char) :
    digitValue? (plainDigit c) = digitValue? c := by
  cases hc : isDigit c with
  | false => rw [plainDigit_of_not_isDigit hc]
  | true =>
    obtain ⟨hplain, hlt⟩ := plainDigit_of_isDigit hc
    rw [hplain, digitValue?_ofNat _ hlt, digitValue?_eq_some hc]

/-- The plain form of a digit is a digit. -/
@[simp] theorem isDigit_plainDigit (c : Char) : isDigit (plainDigit c) = isDigit c := by
  rw [isDigit, digitValue?_plainDigit, isDigit]

/-- The plain form of a digit is no blank either. -/
@[simp] theorem isBlank_plainDigit (c : Char) : isBlank (plainDigit c) = isBlank c := by
  cases hc : isDigit c with
  | false => rw [plainDigit_of_not_isDigit hc]
  | true => rw [isBlank_of_isDigit hc, isBlank_of_isDigit ((isDigit_plainDigit c).trans hc)]

/-- A plain form that is no digit is the character itself. -/
theorem plainDigit_eq_iff {c d : Char} (hd : isDigit d = false) : plainDigit c = d ↔ c = d := by
  constructor
  · intro h
    have hc : isDigit c = false := by rw [← isDigit_plainDigit, h, hd]
    rwa [plainDigit_of_not_isDigit hc] at h
  · rintro rfl
    exact plainDigit_of_not_isDigit hd

/-! ## Trimming -/

/-- A text is what is trimmed off its two ends, which are blanks, and what is left. -/
theorem exists_eq_trimChars (cs : List Char) :
    ∃ before after, cs = before ++ trimChars cs ++ after ∧
      (∀ c ∈ before, isBlank c = true) ∧ ∀ c ∈ after, isBlank c = true := by
  refine ⟨cs.takeWhile isBlank, ((cs.dropWhile isBlank).reverse.takeWhile isBlank).reverse, ?_,
    fun c hc => List.mem_takeWhile_imp hc,
    fun c hc => List.mem_takeWhile_imp (List.mem_reverse.mp hc)⟩
  have hafter : trimChars cs ++ ((cs.dropWhile isBlank).reverse.takeWhile isBlank).reverse =
      cs.dropWhile isBlank := by
    rw [trimChars, ← List.reverse_append, List.takeWhile_append_dropWhile, List.reverse_reverse]
  rw [List.append_assoc, hafter, List.takeWhile_append_dropWhile]

/-- Trimming takes the blanks off a text that holds none itself. -/
theorem trimChars_padded {before body after : List Char} (hbefore : ∀ c ∈ before, isBlank c = true)
    (hbody : ∀ c ∈ body, isBlank c = false) (hafter : ∀ c ∈ after, isBlank c = true) :
    trimChars (before ++ body ++ after) = body := by
  have hkept : ∀ cs : List Char, (∀ c ∈ cs, isBlank c = false) →
      cs.dropWhile isBlank = cs := by
    intro cs hcs
    rw [List.dropWhile_eq_self_iff]
    intro hlength
    simp [hcs _ (List.getElem_mem hlength)]
  cases body with
  | nil =>
    have hblank : (before ++ [] ++ after).dropWhile isBlank = [] := by
      rw [List.dropWhile_eq_nil_iff]
      intro c hc
      rw [List.append_nil, List.mem_append] at hc
      exact hc.elim (hbefore c) (hafter c)
    rw [trimChars, hblank]
    rfl
  | cons b body =>
    have hfront : (before ++ b :: body ++ after).dropWhile isBlank = b :: body ++ after := by
      rw [List.append_assoc, List.dropWhile_append_of_pos hbefore, List.cons_append,
        List.dropWhile_cons_of_neg (by simp [hbody b List.mem_cons_self])]
    have hback : (b :: body ++ after).reverse.dropWhile isBlank = (b :: body).reverse := by
      rw [List.reverse_append,
        List.dropWhile_append_of_pos fun c hc => hafter c (List.mem_reverse.mp hc),
        hkept _ fun c hc => hbody c (List.mem_reverse.mp hc)]
    rw [trimChars, hfront, hback, List.reverse_reverse]

/-- A text that has been trimmed is trimmed.

**Proof sketch.** What is left begins as the text without the blanks before it, and backwards as
that text reversed without the blanks before it. -/
theorem trimChars_trimChars (cs : List Char) : trimChars (trimChars cs) = trimChars cs := by
  have hbegins : trimChars cs <+: cs.dropWhile isBlank := by
    rw [trimChars, ← List.reverse_suffix, List.reverse_reverse]
    exact List.dropWhile_suffix _
  have hfront : (trimChars cs).dropWhile isBlank = trimChars cs := by
    rw [List.dropWhile_eq_self_iff]
    intro hlength
    rw [hbegins.getElem hlength]
    exact List.dropWhile_get_zero_not _ _ _
  rw [trimChars, hfront, trimChars, List.reverse_reverse, List.dropWhile_idempotent]

/-- Plain forms are trimmed as the characters are. -/
theorem trimChars_map_plainDigit (cs : List Char) :
    trimChars (cs.map plainDigit) = (trimChars cs).map plainDigit := by
  have hblank : isBlank ∘ plainDigit = isBlank := funext isBlank_plainDigit
  simp only [trimChars, List.dropWhile_map, hblank, ← List.map_reverse]

end Winnow.Text

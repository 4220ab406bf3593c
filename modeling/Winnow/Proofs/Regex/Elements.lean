import Winnow.Pattern.Reader
import Winnow.Proofs.Regex.Scanning
import Winnow.Proofs.Regex.Syntax

set_option autoImplicit false

/-!
# Reading characters, sets and repeats

The parts of a regular expression without parentheses, as the reader of patterns takes them: each is
read as what it stands for, and nothing more is taken.

## Main definitions

* `Winnow.Pattern.SetMember.member` — a member of a set as the reader has it.

## Main results

* `Winnow.Pattern.Letter.token_cases` — how a character is written.
* `Winnow.Pattern.yields_readSet` — a set is read as the test of its members.
* `Winnow.Pattern.Quantifier.exists_tokens_eq` — the characters of a repeat are read as its counts.
-/

namespace Winnow.Pattern

/-! ## Characters -/

namespace Letter

variable {special : List Char}

/-- A character is written as it is if it is not special, or escaped if it is no letter or digit. -/
theorem token_cases (l : Letter special) :
    (l.token = .plain l.char ∧ l.char ∉ special) ∨
      (l.token = .escaped l.char ∧ l.char.isAlphanum = false) := by
  have h := l.legible
  rw [token]
  by_cases he : l.escaped = true
  · rw [if_pos he] at h ⊢
    exact .inr ⟨rfl, h⟩
  · rw [if_neg he] at h ⊢
    exact .inl ⟨rfl, h⟩

/-- No backslash ends the pattern there. -/
theorem token_ne_dangling (l : Letter special) : l.token ≠ .dangling := by
  rcases l.token_cases with ⟨h, -⟩ | ⟨h, -⟩ <;> simp [h]

/-- No special character stands for itself. -/
theorem token_ne_plain {c : Char} (hc : c ∈ special) (l : Letter special) :
    l.token ≠ .plain c := by
  rcases l.token_cases with ⟨h, hl⟩ | ⟨h, -⟩
  · rw [h]
    rintro ⟨⟩
    exact hl hc
  · simp [h]

/-- A character is a token of its own if the backslash is special. -/
theorem isProper_token (h : '\\' ∈ special) (l : Letter special) : l.token.IsProper := by
  rcases l.token_cases with ⟨ht, hl⟩ | ⟨ht, -⟩
  · rw [ht]
    rintro hc
    exact hl (hc ▸ h)
  · rw [ht]
    trivial

end Letter

/-- No character but a letter or digit is escaped to a category. -/
theorem categoryEscape?_eq_none {c : Char} (h : c.isAlphanum = false) :
    categoryEscape? c = none := by
  unfold categoryEscape?
  split <;> first | rfl | exact absurd h (by decide)

/-- The only control escape that is no letter is the backslash itself. -/
theorem controlEscape?_eq {c : Char} (h : c.isAlphanum = false) :
    controlEscape? c = if c = '\\' then some c.toNat else none := by
  unfold controlEscape?
  split <;> first | rfl | exact absurd h (by decide) | simp_all

/-- A character that is no letter or digit is no digit of any kind. -/
theorem not_isDigit_of_not_isAlphanum {c : Char} (h : c.isAlphanum = false) :
    isOctalDigit c = false ∧ c.isDigit = false ∧ isAsciiLetter c = false := by
  obtain ⟨hletter, hdigit⟩ : c.isAlpha = false ∧ c.isDigit = false := by
    simpa [Char.isAlphanum] using h
  refine ⟨?_, hdigit, hletter⟩
  rw [Bool.eq_false_iff]
  intro hoctal
  simp only [isOctalDigit, Bool.and_eq_true, decide_eq_true_eq, Char.le_def] at hoctal
  have : c.isDigit = true := by
    simp only [Char.isDigit, Bool.and_eq_true, decide_eq_true_eq]
    refine ⟨hoctal.1, UInt32.le_trans hoctal.2 (by decide)⟩
  simp [this] at hdigit

/-! ## Sets -/

namespace SetMember

/-- A member of a set as the reader has it. -/
def member : SetMember → Member
  | one l => .point l.char.toNat
  | range first last _ => .span first.char.toNat last.char.toNat

/-- A member of a set begins with a character. -/
theorem exists_tokens_eq (m : SetMember) :
    ∃ (l : Letter setCharacters) (ts : List Token), m.tokens = l.token :: ts := by
  cases m with
  | one l => exact ⟨l, [], rfl⟩
  | range first last _ => exact ⟨first, _, rfl⟩

end SetMember

/-- What begins after some members of a set is another one, or the end. -/
theorem head?_members (ms : List SetMember) (ts : List Token) :
    IsSettled (ms.flatMap SetMember.tokens ++ .plain ']' :: ts) ∧
      (ms.flatMap SetMember.tokens ++ .plain ']' :: ts).head? ≠ some (.plain '-') := by
  cases ms with
  | nil => exact ⟨isSettled_cons (by simp) ts, by simp⟩
  | cons m ms =>
    obtain ⟨l, us, hm⟩ := m.exists_tokens_eq
    rw [List.flatMap_cons, hm]
    exact ⟨isSettled_cons l.token_ne_dangling _,
      fun h => l.token_ne_plain (by decide) (Option.some.inj h)⟩

section

variable [Host]

/-- No character but a letter is escaped to a code point by its number. -/
theorem yields_numberedPoint? {c : Char} (h : c.isAlphanum = false) (ts : List Token) :
    (numberedPoint? c).Yields ts none ts := by
  unfold numberedPoint?
  split <;> first | exact Scan.yields_pure none ts | exact absurd h (by decide)

/-- An escaped character of a set is that character. -/
theorem yields_setEscape {c : Char} (h : c.isAlphanum = false) (ascii : Bool) (ts : List Token) :
    (setEscape ascii c).Yields ts (.point c.toNat) ts := by
  obtain ⟨hoctal, hdigit, hletter⟩ := not_isDigit_of_not_isAlphanum h
  have hb : c ≠ 'b' := fun he => absurd h (by rw [he]; decide)
  rw [setEscape, if_neg hb, controlEscape?_eq h, categoryEscape?_eq_none h]
  by_cases hc : c = '\\'
  · rw [if_pos hc]
    exact Scan.yields_pure _ ts
  · rw [if_neg hc]
    refine (yields_numberedPoint? h ts).bind ?_
    simp only [hoctal, hdigit, hletter]
    exact Scan.yields_pure _ ts

/-- A character of a set is read as that character. -/
theorem Letter.yields_setMember (l : Letter setCharacters) (ascii : Bool) (ts : List Token) :
    (setMember ascii l.token).Yields ts (.point l.char.toNat) ts := by
  rcases l.token_cases with ⟨h, -⟩ | ⟨h, hl⟩
  · rw [h]
    exact Scan.yields_pure _ ts
  · rw [h]
    exact yields_setEscape hl ascii ts

/-- The members of a set go on after one item. -/
theorem yields_setMembers_cons {ascii : Bool} {opening : Nat} {t : Token} {ts us vs : List Token}
    {items members found : List Member} (ht : t ≠ .plain ']') (hts : IsSettled ts)
    (hitem : (setItem ascii opening t).Yields ts (items, false) us)
    (hrest : Scan.Yields (setMembers ascii opening (members ++ items)) us found vs) :
    Scan.Yields (setMembers ascii opening members) (t :: ts) found vs := by
  obtain ⟨hus, hitem⟩ := hitem
  obtain ⟨hvs, hrest⟩ := hrest
  refine ⟨Nat.le_trans hvs (Nat.le_trans hus (Nat.le_succ _)), ?_⟩
  rw [setMembers, Scan.settle, if_neg hts]
  simp only [ht, false_and, if_false, hitem, Bool.false_eq_true, hrest]

/-- The members of a set end with its closing bracket, if there are any. -/
theorem yields_setMembers_nil {ascii : Bool} {opening : Nat} {members : List Member}
    (hmembers : members ≠ []) {ts : List Token} (hts : IsSettled ts) :
    Scan.Yields (setMembers ascii opening members) (.plain ']' :: ts) members ts := by
  refine ⟨Nat.le_succ _, ?_⟩
  rw [setMembers, Scan.settle, if_neg hts]
  simp only [hmembers, ne_eq, not_false_eq_true, and_self, if_true]

/-- The members of a set are read up to the closing bracket.

**Proof sketch.** Induction on the members. None of them begins with a closing bracket, and none of
them but a range is followed by a hyphen. -/
theorem yields_setMembers (ascii : Bool) (opening : Nat) {ts : List Token} (hts : IsSettled ts) :
    ∀ (ms : List SetMember) (members : List Member), members ≠ [] ∨ ms ≠ [] →
      Scan.Yields (setMembers ascii opening members)
        (ms.flatMap SetMember.tokens ++ .plain ']' :: ts)
        (members ++ ms.map SetMember.member) ts
  | [], members, h => by
    rw [List.flatMap_nil, List.nil_append, List.map_nil, List.append_nil]
    exact yields_setMembers_nil (by simpa using h) hts
  | m :: ms, members, _ => by
    obtain ⟨hsettled, hhyphen⟩ := head?_members ms ts
    have hrest := yields_setMembers ascii opening hts ms (members ++ [m.member]) (.inl (by simp))
    rw [List.append_assoc] at hrest
    cases m with
    | one l =>
      refine yields_setMembers_cons (l.token_ne_plain (by decide)) hsettled ?_ hrest
      exact (l.yields_setMember ascii _).bind
        ((Scan.yields_accept_of_ne hhyphen).bind (Scan.yields_pure _ _))
    | range first last ascending =>
      refine yields_setMembers_cons (first.token_ne_plain (by decide))
        (isSettled_cons (by simp) _) ?_ hrest
      refine (first.yields_setMember ascii _).bind
        ((Scan.yields_accept '-' (isSettled_cons last.token_ne_dangling _)).bind ?_)
      refine (Scan.yields_take last.token hsettled).bind ?_
      have hordered : ¬ last.char.toNat < first.char.toNat := by
        rw [Nat.not_lt]
        exact ascending
      simp only [last.token_ne_plain (c := ']') (by decide), if_false]
      refine (last.yields_setMember ascii _).bind ?_
      simp only [hordered, if_false]
      exact Scan.yields_pure _ _

/-- A set is read as the test of its members. -/
theorem yields_readSet (modes : Modes) (opening : Nat) (negated : Bool) (first : SetMember)
    (others : List SetMember) {ts : List Token} (hts : IsSettled ts) :
    (readSet modes opening).Yields
      ((if negated then [.plain '^'] else [])
        ++ (first :: others).flatMap SetMember.tokens ++ .plain ']' :: ts)
      (.ofMembers negated ((first :: others).map SetMember.member) modes.caseRule) ts := by
  have hmembers := yields_setMembers modes.ascii opening hts (first :: others) [] (.inr (by simp))
  refine Scan.Yields.bind (a := negated) ?_ (hmembers.bind (Scan.yields_pure _ ts))
  cases negated with
  | true => exact Scan.yields_accept '^' (head?_members (first :: others) ts).1
  | false =>
    obtain ⟨l, us, hfirst⟩ := first.exists_tokens_eq
    refine Scan.yields_accept_of_ne ?_
    rw [List.flatMap_cons, hfirst]
    exact fun h => l.token_ne_plain (by decide) (Option.some.inj h)

end

/-! ## Repeats -/

/-- The digits of a number have its value. -/
theorem valueIn_toDigits (n : Nat) : valueIn 10 (Nat.toDigits 10 n) = n := by
  have hdigits : ∀ c ∈ Nat.toDigits 10 n, digitOf c = c.toNat - '0'.toNat := by
    intro c hc
    rw [digitOf, if_pos (Nat.isDigit_of_mem_toDigits (by decide) (by decide) hc)]
    rfl
  calc valueIn 10 (Nat.toDigits 10 n)
      = Nat.ofDigitChars 10 (Nat.toDigits 10 n) 0 := by
        rw [valueIn, Nat.ofDigitChars_eq_foldl]
        exact List.foldl_ext _ _ _ fun value c hc => by rw [hdigits c hc]
    _ = n := Nat.ofDigitChars_toDigits (by decide) (by decide)

/-- The digits of a count that is not too large are read as that count. -/
theorem yields_repeatCount {n : Nat} (h : n < countLimit) (ts : List Token) :
    (Reader.repeatCount (Nat.toDigits 10 n)).Yields ts n ts := by
  have hlength : (Nat.toDigits 10 n).length ≤ 10 := by
    rw [Nat.length_toDigits_le_iff (by decide) (by decide)]
    exact Nat.lt_trans h (by decide)
  have hvalue : ¬ Nat.pow 2 32 - 1 ≤ n := Nat.not_le_of_lt h
  rw [Reader.repeatCount, valueIn_toDigits, if_neg (by omega), if_neg hvalue]
  exact Scan.yields_pure n ts

/-- The digits of a number are taken up to the next character that is none. -/
theorem yields_digits (n : Nat) {c : Char} (hc : c.isDigit = false) (ts : List Token) :
    (Scan.all Char.isDigit).Yields (Quantifier.decimal n ++ .plain c :: ts) (Nat.toDigits 10 n)
      (.plain c :: ts) := by
  refine Scan.yields_all (fun d hd => Nat.isDigit_of_mem_toDigits (by decide) (by decide) hd)
    (isSettled_cons (by simp) ts) ?_
  intro d hd
  cases hd
  exact hc

/-- What begins with digits does not begin with anything else. -/
theorem head?_decimal {c : Char} (hc : c.isDigit = false) (n : Nat) (ts : List Token) :
    (Quantifier.decimal n ++ ts).head? ≠ some (.plain c) := by
  have hdigits : ∀ d ∈ Nat.toDigits 10 n, d.isDigit = true := fun d hd =>
    Nat.isDigit_of_mem_toDigits (by decide) (by decide) hd
  rw [Quantifier.decimal, Quantifier.plain]
  cases hn : Nat.toDigits 10 n with
  | nil => exact absurd hn Nat.toDigits_ne_nil
  | cons d ds =>
    rintro ⟨⟩
    rw [hdigits c (by rw [hn]; exact List.mem_cons_self)] at hc
    cases hc

/-- The digits of a number are not none. -/
theorem isEmpty_toDigits (n : Nat) : (Nat.toDigits 10 n).isEmpty = false :=
  List.isEmpty_eq_false_iff.mpr Nat.toDigits_ne_nil

/-- Digits before settled tokens are settled. -/
theorem isSettled_decimal (n : Nat) {ts : List Token} (hts : IsSettled ts) :
    IsSettled (Quantifier.decimal n ++ ts) := by
  rw [Quantifier.decimal, Quantifier.plain]
  cases Nat.toDigits 10 n with
  | nil => exact hts
  | cons d ds => exact isSettled_cons (by simp) _

section Counts

variable {ts : List Token} (hts : IsSettled ts)
include hts

/-- One count between braces. -/
theorem yields_counts?_exactly {n : Nat} (hn : n < countLimit) :
    Reader.counts?.Yields (Quantifier.decimal n ++ .plain '}' :: ts) (some (n, some n)) ts := by
  refine (Scan.yields_left _).bind ((Scan.yields_peek _).bind ?_)
  rw [if_neg (head?_decimal (by decide) n _)]
  refine (yields_digits n (by decide) ts).bind ?_
  refine (Scan.yields_accept_of_ne (by simp)).bind ?_
  refine Scan.Yields.bind (Scan.yields_pure _ _) ((Scan.yields_accept '}' hts).bind ?_)
  simp only [isEmpty_toDigits, if_true, Bool.false_eq_true, if_false]
  refine (yields_repeatCount hn ts).bind ((yields_repeatCount hn ts).bind ?_)
  rw [if_neg (Nat.lt_irrefl n)]
  exact Scan.yields_pure _ ts

/-- A least count between braces. -/
theorem yields_counts?_atLeast {n : Nat} (hn : n < countLimit) :
    Reader.counts?.Yields (Quantifier.decimal n ++ .plain ',' :: .plain '}' :: ts)
      (some (n, none)) ts := by
  refine (Scan.yields_left _).bind ((Scan.yields_peek _).bind ?_)
  rw [if_neg (head?_decimal (by decide) n _)]
  refine (yields_digits n (by decide) _).bind ?_
  refine (Scan.yields_accept ',' (isSettled_cons (by simp) ts)).bind ?_
  have hnone : (Scan.all Char.isDigit).Yields (.plain '}' :: ts) [] (.plain '}' :: ts) := by
    have hdigits : ∀ c ∈ ([] : List Char), c.isDigit = true := by simp
    exact Scan.yields_all hdigits (isSettled_cons (by simp) ts) (by rintro c ⟨⟩; decide)
  refine hnone.bind ((Scan.yields_accept '}' hts).bind ?_)
  simp only [isEmpty_toDigits, if_true, Bool.false_eq_true, if_false]
  exact (yields_repeatCount hn ts).bind (Scan.yields_pure _ ts)

/-- Two counts between braces. -/
theorem yields_counts?_between {m n : Nat} (hmn : m ≤ n) (hn : n < countLimit) :
    Reader.counts?.Yields
      (Quantifier.decimal m ++ .plain ',' :: (Quantifier.decimal n ++ .plain '}' :: ts))
      (some (m, some n)) ts := by
  have hsettled : IsSettled (Quantifier.decimal n ++ .plain '}' :: ts) :=
    isSettled_decimal n (isSettled_cons (by simp) ts)
  refine (Scan.yields_left _).bind ((Scan.yields_peek _).bind ?_)
  rw [if_neg (head?_decimal (by decide) m _)]
  refine (yields_digits m (by decide) _).bind ?_
  refine (Scan.yields_accept ',' hsettled).bind ?_
  refine (yields_digits n (by decide) ts).bind ((Scan.yields_accept '}' hts).bind ?_)
  simp only [isEmpty_toDigits, if_true, Bool.false_eq_true, if_false]
  refine (yields_repeatCount (Nat.lt_of_le_of_lt hmn hn) ts).bind
    ((yields_repeatCount hn ts).bind ?_)
  rw [if_neg (Nat.not_lt.mpr hmn)]
  exact Scan.yields_pure _ ts

end Counts

namespace Quantifier

/-- The characters that repeats begin with. -/
def starters : List Char :=
  ['*', '+', '?', '{']

/-- A repeat begins with a character of its own, after which its counts are read. -/
theorem exists_tokens_eq (q : Quantifier) :
    ∃ c ∈ starters, ∃ us : List Token, q.tokens = .plain c :: us ∧
      ∀ ts : List Token, IsSettled ts → IsSettled (us ++ ts) ∧
        (Reader.bounds? c).Yields (us ++ ts) (some (q.least, q.most?)) ts := by
  cases q with
  | star => exact ⟨'*', by decide, [], rfl, fun ts h => ⟨h, Scan.yields_pure _ ts⟩⟩
  | plus => exact ⟨'+', by decide, [], rfl, fun ts h => ⟨h, Scan.yields_pure _ ts⟩⟩
  | optional => exact ⟨'?', by decide, [], rfl, fun ts h => ⟨h, Scan.yields_pure _ ts⟩⟩
  | exactly n hn =>
    refine ⟨'{', by decide, decimal n ++ plain ['}'], rfl, fun ts hts => ?_⟩
    have h := Scan.yields_attempt (yields_counts?_exactly hts hn)
    rw [List.append_assoc]
    exact ⟨isSettled_decimal n (isSettled_cons (by simp) ts), h⟩
  | atLeast n hn =>
    refine ⟨'{', by decide, decimal n ++ plain [',', '}'], rfl, fun ts hts => ?_⟩
    have h := Scan.yields_attempt (yields_counts?_atLeast hts hn)
    rw [List.append_assoc]
    exact ⟨isSettled_decimal n (isSettled_cons (by simp) _), h⟩
  | between m n hmn hn =>
    refine ⟨'{', by decide, decimal m ++ .plain ',' :: decimal n ++ plain ['}'], rfl,
      fun ts hts => ?_⟩
    have h := Scan.yields_attempt (yields_counts?_between hts hmn hn)
    rw [List.append_assoc, List.append_assoc, List.cons_append]
    exact ⟨isSettled_decimal m (isSettled_cons (by simp) _), h⟩

end Quantifier

end Winnow.Pattern

import Winnow.Pattern.SetReader

set_option autoImplicit false

/-!
# What scans yield

A scan that succeeds yields a value and leaves some tokens. What it yields on given tokens is stated
as a relation, with one rule for each primitive and one for a scan after another, so that a scan can
be followed token by token.

## Main definitions

* `Winnow.Pattern.Scan.Yields` — a scan yields a value and leaves tokens.
* `Winnow.Pattern.IsSettled` — tokens that do not begin with a backslash that ends the pattern.

## Main results

* `Winnow.Pattern.tokenize_chars` — the tokens of a text that was made of tokens.
* `Winnow.Pattern.Scan.Yields.bind` — one scan after another.
* `Winnow.Pattern.Scan.yields_all` — all characters of a class that come next are taken.
-/

namespace Winnow.Pattern

/-! ## Tokens -/

/-- Tokens that a text can be made of: a backslash is no token of its own. -/
def Token.IsProper : Token → Prop
  | plain c => c ≠ '\\'
  | escaped _ => True
  | dangling => False

/-- A character is a token of its own unless it is a backslash. -/
@[simp] theorem Token.isProper_plain {c : Char} : (plain c).IsProper ↔ c ≠ '\\' :=
  Iff.rfl

/-- The tokens of a text that was made of tokens. -/
theorem tokenize_chars {ts : List Token} (h : ∀ t ∈ ts, t.IsProper) :
    tokenize (ts.flatMap Token.chars) = ts := by
  induction ts with
  | nil => rfl
  | cons t ts ih =>
    have hts := ih fun u hu => h u (List.mem_cons_of_mem t hu)
    have ht : t.IsProper := h t List.mem_cons_self
    rw [List.flatMap_cons]
    cases t with
    | plain c =>
      have hc : c ≠ '\\' := ht
      rw [Token.chars, List.singleton_append, tokenize]
      · rw [hts]
      · exact fun h _ => hc h
      · exact fun _ _ h _ => hc h
    | escaped c => rw [Token.chars, List.cons_append, List.singleton_append, tokenize, hts]
    | dangling => exact ht.elim

/-- Tokens that do not begin with a backslash that ends the pattern. -/
def IsSettled (ts : List Token) : Prop :=
  ts.head? ≠ some .dangling

/-- Proper tokens are settled, whatever follows. -/
theorem isSettled_cons {t : Token} (h : t ≠ .dangling) (ts : List Token) : IsSettled (t :: ts) := by
  simpa [IsSettled] using h

/-! ## Scans -/

namespace Scan

variable {α β : Type}

/-- A scan yields a value on some tokens and leaves others. -/
def Yields (p : Scan α) (ts : List Token) (a : α) (us : List Token) : Prop :=
  ∃ h, p ts = .ok ⟨a, us, h⟩

/-- A scan that only yields a value. -/
theorem yields_pure (a : α) (ts : List Token) : Yields (pure a) ts a ts :=
  ⟨Nat.le_refl _, rfl⟩

/-- One scan after another. -/
theorem Yields.bind {p : Scan α} {f : α → Scan β} {ts us vs : List Token} {a : α} {b : β}
    (hp : p.Yields ts a us) (hf : (f a).Yields us b vs) : (p >>= f).Yields ts b vs := by
  obtain ⟨hus, hp⟩ := hp
  obtain ⟨hvs, hf⟩ := hf
  refine ⟨Nat.le_trans hvs hus, ?_⟩
  simp only [Bind.bind]
  rw [hp]
  simp only [hf]

/-- The number of characters that are left. -/
theorem yields_left (ts : List Token) : left.Yields ts (charCount ts) ts :=
  ⟨Nat.le_refl _, rfl⟩

/-- The next token. -/
theorem yields_peek (ts : List Token) : peek.Yields ts ts.head? ts :=
  ⟨Nat.le_refl _, rfl⟩

/-- Nothing happens where no backslash ends the pattern. -/
theorem yields_settle {ts : List Token} (h : IsSettled ts) : settle.Yields ts () ts :=
  ⟨Nat.le_refl _, if_neg h⟩

/-- The next token is taken. -/
theorem yields_take (t : Token) {ts : List Token} (h : IsSettled ts) :
    take.Yields (t :: ts) (some t) ts := by
  refine ⟨Nat.le_succ _, ?_⟩
  rw [take, settle, if_neg h]

/-- A given character is taken if it comes next. -/
theorem yields_accept (c : Char) {ts : List Token} (h : IsSettled ts) :
    (accept c).Yields (.plain c :: ts) true ts := by
  refine (yields_peek _).bind ?_
  rw [List.head?_cons, if_pos rfl]
  exact (yields_take _ h).bind (yields_pure true ts)

/-- Nothing is taken if a given character does not come next. -/
theorem yields_accept_of_ne {c : Char} {ts : List Token} (h : ts.head? ≠ some (.plain c)) :
    (accept c).Yields ts false ts := by
  refine (yields_peek _).bind ?_
  rw [if_neg h]
  exact yields_pure false ts

/-- An attempt that succeeds. -/
theorem yields_attempt {p : Scan (Option α)} {ts us : List Token} {a : α}
    (h : p.Yields ts (some a) us) : (attempt p).Yields ts (some a) us := by
  obtain ⟨hus, hp⟩ := h
  exact ⟨hus, by simp only [attempt, hp]; rfl⟩

/-- The characters of a class that come next are taken, if there are no more of them.

**Proof sketch.** Induction on the characters; what comes after them ends the scan, and so does the
limit. -/
theorem yields_upTo {accepts : Char → Bool} {cs : List Char} (hcs : ∀ c ∈ cs, accepts c = true)
    {n : Nat} (hn : cs.length ≤ n) {ts : List Token} (hts : IsSettled ts)
    (hend : ∀ c, ts.head? = some (.plain c) → accepts c = false) :
    (upTo accepts n).Yields (cs.map .plain ++ ts) cs ts := by
  induction cs generalizing n with
  | nil =>
    cases n with
    | zero => exact yields_pure [] ts
    | succ n =>
      refine (yields_peek _).bind ?_
      rw [List.map_nil, List.nil_append]
      split
      · rename_i c hc
        rw [if_neg (by simp [hend c hc])]
        exact yields_pure [] ts
      · exact yields_pure [] ts
  | cons c cs ih =>
    obtain ⟨n, rfl⟩ : ∃ m, n = m + 1 := ⟨n - 1, by simp at hn; omega⟩
    have hsettled : IsSettled (cs.map .plain ++ ts) := by
      cases cs with
      | nil => exact hts
      | cons d cs => exact isSettled_cons (by simp) _
    have hrest := ih (fun d hd => hcs d (List.mem_cons_of_mem c hd)) (by simpa using hn)
    refine (yields_peek _).bind ?_
    show (if accepts c = true then _ else _ : Scan (List Char)).Yields _ _ _
    rw [if_pos (hcs c List.mem_cons_self)]
    exact (yields_take _ hsettled).bind (hrest.bind (yields_pure (c :: cs) ts))

/-- All characters of a class that come next are taken. -/
theorem yields_all {accepts : Char → Bool} {cs : List Char} (hcs : ∀ c ∈ cs, accepts c = true)
    {ts : List Token} (hts : IsSettled ts)
    (hend : ∀ c, ts.head? = some (.plain c) → accepts c = false) :
    (all accepts).Yields (cs.map .plain ++ ts) cs ts :=
  yields_upTo hcs (by simp) hts hend

end Scan

end Winnow.Pattern

import Winnow.Proofs.Regex.Elements

set_option autoImplicit false

/-!
# Reading regular expressions

The reader of patterns goes through a regular expression as its structure says: what it has made of
the level that it is at can be told from the expression alone, and it stops where the expression
does.

## Main definitions

* `Winnow.Pattern.Regex.feed` — what an expression makes of the level at which it is read.
* `Winnow.Pattern.IsCalm` — tokens that do not change the greed of a repeat before them.
* `Winnow.Pattern.textOf` — the text of some tokens.

## Main results

* `Winnow.Pattern.read_textOf` — a text is read as the reader goes through its tokens.
* `Winnow.Pattern.Regex.run_tokens` — the reader after an expression.
* `Winnow.Pattern.Regex.read_text` — an expression that can be written is read without a flaw.
-/

namespace Winnow.Pattern

/-! ## Levels -/

/-- The level after its last item is repeated. -/
def Level.repeatLast (greed : Greed) (q : Quantifier) (l : Level) : Level :=
  match l.items with
  | [] => l
  | item :: items => { l with items := .repeated greed q.least q.most? item :: items }

/-- The greed of a repeat. -/
def Greed.ofLazy (isLazy : Bool) : Greed :=
  if isLazy then .lazy else .greedy

/-- Items that can be repeated: neither anchors nor repeats. -/
def Node.IsRepeatable : Node → Prop
  | anchor _ | repeated _ _ _ _ => False
  | _ => True

/-- Levels without anything that is a flaw once the tree is complete. -/
structure Level.IsFaultless (l : Level) : Prop where
  items : ∀ n ∈ l.items, n.fault? false = none
  branches : ∀ n ∈ l.branches, n.fault? false = none

namespace Level

variable {l : Level}

/-- Nothing is no flaw. -/
theorem isFaultless_start (modes : Modes) : (start modes).IsFaultless :=
  ⟨by simp [start], by simp [start]⟩

/-- Faultless items are a faultless sequence. -/
theorem IsFaultless.sequence (h : l.IsFaultless) : l.sequence.fault? false = none := by
  refine List.foldlRecOn (motive := fun n : Node => n.fault? false = none) l.items _ rfl ?_
  intro rest hrest item hitem
  rw [Node.fault?, h.items item hitem, hrest]
  rfl

/-- Faultless branches are a faultless tree. -/
theorem IsFaultless.node (h : l.IsFaultless) : l.node.fault? false = none := by
  refine List.foldlRecOn (motive := fun n : Node => n.fault? false = none) l.branches _
    h.sequence ?_
  intro rest hrest branch hbranch
  rw [Node.fault?, h.branches branch hbranch, hrest]
  rfl

/-- A level stays faultless after a faultless item. -/
theorem IsFaultless.push (h : l.IsFaultless) {item : Node} (hitem : item.fault? false = none) :
    (l.push item).IsFaultless :=
  ⟨List.forall_mem_cons.mpr ⟨hitem, h.items⟩, h.branches⟩

/-- A level stays faultless after the end of a branch. -/
theorem IsFaultless.nextBranch (h : l.IsFaultless) : l.nextBranch.IsFaultless :=
  ⟨by simp [Level.nextBranch], List.forall_mem_cons.mpr ⟨h.sequence, h.branches⟩⟩

/-- A level stays faultless when its last item is repeated. -/
theorem IsFaultless.repeatLast (h : l.IsFaultless) (greed : Greed) (q : Quantifier) :
    (l.repeatLast greed q).IsFaultless := by
  rw [Level.repeatLast]
  split
  · exact h
  · rename_i item items hl
    obtain ⟨hitem, hitems⟩ := List.forall_mem_cons.mp (hl ▸ h.items)
    exact ⟨List.forall_mem_cons.mpr ⟨hitem, hitems⟩, h.branches⟩

end Level

/-- What an expression makes of the level at which it is read. -/
def Regex.feed : Regex → Level → Level
  | empty, l => l
  | char x, l => l.push (.char (.single false x.char.toNat .exact))
  | any, l => l.push (.char (.any false))
  | set negated first others, l =>
    l.push (.char (.ofMembers negated ((first :: others).map SetMember.member) .exact))
  | group body, l => l.push (.group none (body.feed (.start .default)).node)
  | seq first second, l => second.feed (first.feed l)
  | alt first second, l => second.feed (first.feed l).nextBranch
  | repeated isLazy q body, l => (body.feed l).repeatLast (.ofLazy isLazy) q

/-- Reading an expression does not change the modes. -/
theorem Regex.modes_feed (r : Regex) (l : Level) : (r.feed l).modes = l.modes := by
  induction r generalizing l with
  | empty => rfl
  | char x => rfl
  | any => rfl
  | set negated first others => rfl
  | group body _ => rfl
  | seq first second ih₁ ih₂ => rw [feed, ih₂, ih₁]
  | alt first second ih₁ ih₂ => rw [feed, ih₂, Level.nextBranch, ih₁]
  | repeated isLazy q body ih =>
    rw [feed, Level.repeatLast]
    split
    · exact ih l
    · exact ih l

/-- An operand is one item, which can be repeated. -/
theorem Regex.exists_feed_eq_push {r : Regex} (h : r.Fits .operand) :
    ∃ item : Node, (∀ l, r.feed l = l.push item) ∧ item.IsRepeatable := by
  cases r with
  | char x => exact ⟨_, fun l => rfl, trivial⟩
  | any => exact ⟨_, fun l => rfl, trivial⟩
  | set negated first others => exact ⟨_, fun l => rfl, trivial⟩
  | group body => exact ⟨_, fun l => rfl, trivial⟩
  | empty => exact absurd rfl h
  | seq first second => exact absurd rfl h.1
  | alt first second => exact absurd h.1 (by decide)
  | repeated isLazy q body => exact absurd rfl h.1

/-! ## What may follow -/

/-- Tokens that do not change the greed of a repeat before them. -/
def IsCalm (ts : List Token) : Prop :=
  IsSettled ts ∧ ts.head? ≠ some (.plain '?') ∧ ts.head? ≠ some (.plain '+')

/-- Whether tokens are calm is a matter of the first of them. -/
theorem isCalm_cons {t : Token} (h : t ≠ .dangling) (hquestion : t ≠ .plain '?')
    (hplus : t ≠ .plain '+') (ts : List Token) : IsCalm (t :: ts) :=
  ⟨isSettled_cons h ts, by simpa using hquestion, by simpa using hplus⟩

/-- A character does not change the greed of a repeat. -/
theorem isCalm_letter (x : Letter metacharacters) (ts : List Token) : IsCalm (x.token :: ts) :=
  isCalm_cons x.token_ne_dangling (x.token_ne_plain (by decide)) (x.token_ne_plain (by decide)) ts

/-- Tokens that may follow an expression at a place. -/
def Regex.Place.Admits (p : Regex.Place) (ts : List Token) : Prop :=
  if p = .operand then IsSettled ts else IsCalm ts

namespace Regex

/-- No expression begins with a character that changes the greed of a repeat. -/
theorem isCalm_tokens (r : Regex) {p : Place} (h : r.Fits p) {ts : List Token}
    (hts : p = .operand ∨ IsCalm ts) : IsCalm (r.tokens ++ ts) := by
  induction r generalizing p ts with
  | empty => exact hts.resolve_left h
  | char x => exact isCalm_letter x ts
  | any => exact isCalm_cons (by simp) (by simp) (by simp) ts
  | set negated first others => exact isCalm_cons (by simp) (by simp) (by simp) _
  | group body _ => exact isCalm_cons (by simp) (by simp) (by simp) _
  | seq first second ih₁ ih₂ =>
    rw [tokens, List.append_assoc]
    exact ih₁ h.2.1 (.inr (ih₂ h.2.2 (.inr (hts.resolve_left h.1))))
  | alt first second ih₁ _ =>
    rw [tokens, List.append_assoc]
    exact ih₁ h.2.1 (.inr (isCalm_cons (by simp) (by simp) (by simp) _))
  | repeated isLazy q body ih =>
    rw [tokens, List.append_assoc, List.append_assoc]
    exact ih h.2 (.inl rfl)

/-- What may follow a place is settled. -/
theorem Place.Admits.isSettled {p : Place} {ts : List Token} (h : p.Admits ts) : IsSettled ts := by
  rw [Admits] at h
  split at h
  · exact h
  · exact h.1

/-- The tokens of a member of a set are proper. -/
theorem isProper_setMember (m : SetMember) : ∀ t ∈ m.tokens, t.IsProper := by
  have hletter : ∀ l : Letter setCharacters, l.token.IsProper :=
    fun l => l.isProper_token (by decide)
  cases m with
  | one l => simp [SetMember.tokens, hletter]
  | range first last _ => simp [SetMember.tokens, hletter]

/-- The tokens of a repeat are proper. -/
theorem isProper_quantifier (q : Quantifier) : ∀ t ∈ q.tokens, t.IsProper := by
  have hdecimal : ∀ n, ∀ t ∈ Quantifier.decimal n, t.IsProper := by
    intro n t ht
    obtain ⟨c, hc, rfl⟩ := List.mem_map.mp ht
    rintro rfl
    exact absurd (Nat.isDigit_of_mem_toDigits (by decide) (by decide) hc) (by decide)
  cases q with
  | star => simp [Quantifier.tokens, Quantifier.plain]
  | plus => simp [Quantifier.tokens, Quantifier.plain]
  | optional => simp [Quantifier.tokens, Quantifier.plain]
  | exactly n _ =>
    simpa [Quantifier.tokens, Quantifier.plain, or_imp, forall_and] using hdecimal n
  | atLeast n _ =>
    simpa [Quantifier.tokens, Quantifier.plain, or_imp, forall_and] using hdecimal n
  | between m n _ _ =>
    simpa [Quantifier.tokens, Quantifier.plain, or_imp, forall_and]
      using And.intro (hdecimal m) (hdecimal n)

/-- The tokens of an expression are proper. -/
theorem isProper_tokens (e : Regex) : ∀ t ∈ e.tokens, t.IsProper := by
  induction e with
  | empty => simp [tokens]
  | char x => simpa [tokens] using x.isProper_token (by decide)
  | any => simp [tokens]
  | set negated first others =>
    have hmembers : ∀ t ∈ (first :: others).flatMap SetMember.tokens, t.IsProper := by
      intro t ht
      obtain ⟨m, -, ht⟩ := List.mem_flatMap.mp ht
      exact isProper_setMember m t ht
    rw [tokens, List.forall_mem_append, List.forall_mem_append, List.forall_mem_cons]
    refine ⟨⟨⟨by simp, ?_⟩, hmembers⟩, by simp⟩
    cases negated <;> simp
  | group body ih => simpa [tokens, or_imp, forall_and] using ih
  | seq first second ih₁ ih₂ => exact List.forall_mem_append.mpr ⟨ih₁, ih₂⟩
  | alt first second ih₁ ih₂ =>
    simpa [tokens, or_imp, forall_and] using And.intro ih₁ ih₂
  | repeated isLazy q body ih =>
    rw [tokens, List.forall_mem_append, List.forall_mem_append]
    refine ⟨⟨ih, isProper_quantifier q⟩, ?_⟩
    cases isLazy <;> simp

/-- Nothing in the tree of an expression is a flaw. -/
theorem fault?_feed (e : Regex) {l : Level} (hl : l.IsFaultless) : (e.feed l).IsFaultless := by
  induction e generalizing l with
  | empty => exact hl
  | char x => exact hl.push rfl
  | any => exact hl.push rfl
  | set negated first others => exact hl.push rfl
  | group body ih => exact hl.push (ih (Level.isFaultless_start .default)).node
  | seq first second ih₁ ih₂ => exact ih₂ (ih₁ hl)
  | alt first second ih₁ ih₂ => exact ih₂ (ih₁ hl).nextBranch
  | repeated isLazy q body ih => exact (ih hl).repeatLast (.ofLazy isLazy) q

end Regex

/-! ## Steps of the reader -/

namespace Reader

/-- The reader with another level. -/
def withLevel (r : Reader) (l : Level) : Reader :=
  { r with level := l }

/-- The reader is not in a branch of a choice by a group. -/
def IsFree (r : Reader) : Prop :=
  ∀ index yes? left level outer, r.outer ≠ (.conditional index yes?, left, level) :: outer

variable {r s : Reader} {ts us : List Token}

/-- What has been read at the outermost level is the tree, if nothing in it is a flaw. -/
theorem finish_eq (houter : r.outer = []) (hflags : r.flags = []) (hasked : r.asked = [])
    (hnode : r.level.node.fault? false = none) : r.finish = .ok r.level.node := by
  have hcontradictory : r.isContradictory = false := by rw [isContradictory, hflags]; rfl
  have htemplate : r.flags.contains .template = false := by rw [hflags]; rfl
  rw [finish, houter]
  simp only [hcontradictory, Bool.false_eq_true, if_false, hasked, List.find?_nil, htemplate, hnode]

/-- The character after a repeat decides how greedy it is. -/
theorem yields_greed (isLazy : Bool) (hts : IsCalm ts) :
    greed.Yields ((if isLazy then [.plain '?'] else []) ++ ts) (.ofLazy isLazy) ts := by
  cases isLazy with
  | true =>
    refine (Scan.yields_accept '?' hts.1).bind ?_
    exact Scan.yields_pure _ ts
  | false =>
    refine (Scan.yields_accept_of_ne hts.2.1).bind ?_
    refine (Scan.yields_accept_of_ne hts.2.2).bind ?_
    exact Scan.yields_pure _ ts

variable [Host]

/-- The reader goes on after a step. -/
theorem run_cons {t : Token} (h : (r.step t).Yields ts s us) : r.run (t :: ts) = s.run us := by
  obtain ⟨hus, h⟩ := h
  rw [run, h]

/-- What has been read when no token is left, if only the level has changed since the start. -/
theorem run_nil {l : Level} (hl : l.IsFaultless) : (start.withLevel l).run [] = .ok l.node := by
  rw [run]
  exact finish_eq rfl rfl rfl hl.node

/-- The escape of a character that is no letter or digit is that character. -/
theorem yields_escape {c : Char} (h : c.isAlphanum = false) :
    (r.escape c).Yields ts (.char (.single false c.toNat r.level.modes.caseRule)) ts := by
  obtain ⟨hoctal, hdigit, hletter⟩ := not_isDigit_of_not_isAlphanum h
  have hzero : c ≠ '0' := fun he => absurd hdigit (by rw [he]; decide)
  unfold escape
  split
  · exact absurd h (by decide)
  · exact absurd h (by decide)
  · exact absurd h (by decide)
  · exact absurd h (by decide)
  · rw [categoryEscape?_eq_none h, controlEscape?_eq h]
    by_cases hc : c = '\\'
    · rw [if_pos hc]
      exact Scan.yields_pure _ ts
    · rw [if_neg hc]
      refine (yields_numberedPoint? h ts).bind ?_
      simp only [hzero, hdigit, hletter, if_false, Bool.false_eq_true]
      exact Scan.yields_pure _ ts

/-- The step of a character that stands for something at a level without special modes. -/
theorem yields_step_plain {c : Char} (hbar : c ≠ '|') (hparenthesis : c ≠ ')')
    (hmodes : r.level.modes = .default) (hts : IsSettled ts)
    (h : (r.character c).Yields ts s us) : (r.step (.plain c)).Yields ts s us := by
  have hverbose : r.level.modes.verbose = false := by rw [hmodes]; rfl
  unfold step
  split
  · rename_i he
    cases he
    exact absurd rfl hbar
  · rename_i he
    cases he
    exact absurd rfl hparenthesis
  · rename_i he
    cases he
    refine (Scan.yields_settle hts).bind ?_
    simp only [hverbose, Bool.false_and, Bool.false_eq_true, if_false]
    exact h
  · rename_i he
    cases he
  · rename_i he
    cases he

/-- The step of a single character. -/
theorem yields_step_letter (x : Letter metacharacters) (hmodes : r.level.modes = .default)
    (hts : IsSettled ts) :
    (r.step x.token).Yields ts (r.withLevel ((Regex.char x).feed r.level)) ts := by
  have hrule : r.level.modes.caseRule = .exact := by rw [hmodes]; rfl
  rcases x.token_cases with ⟨hx, hmeta⟩ | ⟨hx, halphanum⟩
  · have hne : ∀ c ∈ metacharacters, x.char ≠ c := fun c hc he => hmeta (he ▸ hc)
    rw [hx]
    refine yields_step_plain (hne _ (by decide)) (hne _ (by decide)) hmodes hts ?_
    unfold character
    split
    all_goals try exact absurd ‹x.char = _› (hne _ (by decide))
    rw [pushPoint, hrule]
    exact Scan.yields_pure _ ts
  · rw [hx]
    refine (Scan.yields_settle hts).bind ((yields_escape halphanum).bind ?_)
    rw [hrule]
    exact Scan.yields_pure _ ts

/-- The step of the character that stands for any other one. -/
theorem yields_step_any (hmodes : r.level.modes = .default) (hts : IsSettled ts) :
    (r.step (.plain '.')).Yields ts (r.withLevel (Regex.any.feed r.level)) ts := by
  have hlineFeeds : r.level.modes.lineFeeds = false := by rw [hmodes]; rfl
  refine yields_step_plain (by decide) (by decide) hmodes hts ?_
  show (pure _ : Scan Reader).Yields _ _ _
  rw [hlineFeeds]
  exact Scan.yields_pure _ ts

/-- The step of the character that begins a set. -/
theorem yields_step_set (negated : Bool) (first : SetMember) (others : List SetMember)
    (hmodes : r.level.modes = .default) (hts : IsSettled ts) :
    (r.step (.plain '[')).Yields
      ((if negated then [.plain '^'] else [])
        ++ (first :: others).flatMap SetMember.tokens ++ .plain ']' :: ts)
      (r.withLevel ((Regex.set negated first others).feed r.level)) ts := by
  have hrule : r.level.modes.caseRule = .exact := by rw [hmodes]; rfl
  have hsettled : IsSettled ((if negated then [.plain '^'] else [])
      ++ (first :: others).flatMap SetMember.tokens ++ .plain ']' :: ts) := by
    rw [List.append_assoc]
    cases negated with
    | true => exact isSettled_cons (by simp) _
    | false => exact (head?_members (first :: others) ts).1
  refine yields_step_plain (by decide) (by decide) hmodes hsettled ?_
  refine (Scan.yields_left _).bind
    ((yields_readSet r.level.modes _ negated first others hts).bind ?_)
  rw [hrule]
  exact Scan.yields_pure _ ts

/-- The step of an opening parenthesis that does not remember what it encloses. -/
theorem yields_step_open (hmodes : r.level.modes = .default) (hts : IsSettled ts) :
    ∃ left, (r.step (.plain '(')).Yields (.plain '?' :: .plain ':' :: ts)
      (r.enter .plain left .default) ts := by
  refine ⟨charCount (.plain '?' :: .plain ':' :: ts) + 1, ?_⟩
  refine yields_step_plain (by decide) (by decide) hmodes (isSettled_cons (by simp) _) ?_
  refine (Scan.yields_left _).bind
    ((Scan.yields_accept '?' (isSettled_cons (by simp) ts)).bind ?_)
  rw [if_pos rfl]
  refine (Scan.yields_take _ hts).bind ?_
  rw [← hmodes]
  exact Scan.yields_pure _ ts

/-- The step of a closing parenthesis. -/
theorem yields_step_close {opening : Opening} {left : Nat} {level : Level}
    {outer : List (Opening × Nat × Level)} (houter : r.outer = (opening, left, level) :: outer)
    (hts : IsSettled ts) :
    (r.step (.plain ')')).Yields ts (r.leave opening level outer) ts := by
  show (closeParenthesis r).Yields _ _ _
  rw [closeParenthesis, houter]
  exact (Scan.yields_settle hts).bind (Scan.yields_pure _ ts)

/-- The step of a bar between alternatives. -/
theorem yields_step_bar (hfree : r.IsFree) (hts : IsSettled ts) :
    (r.step (.plain '|')).Yields ts (r.withLevel r.level.nextBranch) ts := by
  show (bar r).Yields _ _ _
  unfold bar
  split
  · rename_i h
    exact absurd h (hfree _ _ _ _ _)
  · rename_i h
    exact absurd h (hfree _ _ _ _ _)
  · exact (Scan.yields_settle hts).bind (Scan.yields_pure _ ts)

/-- The step of a repeat after an item that can be repeated. -/
theorem yields_step_repeat {item : Node} {items : List Node}
    (hitems : r.level.items = item :: items) (hitem : item.IsRepeatable)
    (hmodes : r.level.modes = .default) (q : Quantifier) (isLazy : Bool) (hts : IsCalm ts) :
    ∃ t us, q.tokens = t :: us ∧
      (r.step t).Yields (us ++ ((if isLazy then [.plain '?'] else []) ++ ts))
        (r.withLevel (r.level.repeatLast (.ofLazy isLazy) q)) ts := by
  obtain ⟨c, hc, us, hq, hcounts⟩ := q.exists_tokens_eq
  have hsettled : IsSettled ((if isLazy then [.plain '?'] else []) ++ ts) := by
    cases isLazy with
    | true => exact isSettled_cons (by simp) _
    | false => exact hts.1
  obtain ⟨hus, hbounds⟩ := hcounts _ hsettled
  refine ⟨.plain c, us, hq, ?_⟩
  have hrepeat : (r.repeatLast c).Yields (us ++ ((if isLazy then [.plain '?'] else []) ++ ts))
      (r.withLevel (r.level.repeatLast (.ofLazy isLazy) q)) ts := by
    refine (Scan.yields_left _).bind (hbounds.bind ?_)
    rw [Level.repeatLast, hitems]
    cases item with
    | anchor a => exact hitem.elim
    | repeated greed least most? body => exact hitem.elim
    | _ => exact (yields_greed isLazy hts).bind (Scan.yields_pure _ ts)
  have hcases : c = '*' ∨ c = '+' ∨ c = '?' ∨ c = '{' := by
    simpa [Quantifier.starters] using hc
  obtain rfl | rfl | rfl | rfl := hcases <;>
    exact yields_step_plain (by decide) (by decide) hmodes hus hrepeat

end Reader

/-! ## Texts -/

/-- The text of some tokens. -/
def textOf (ts : List Token) : String :=
  String.ofList (ts.flatMap Token.chars)

variable [Host]

/-- A text is read as the reader goes through the tokens that it is made of. -/
theorem read_textOf {ts : List Token} (hts : ∀ t ∈ ts, t.IsProper) {n : Node}
    (h : Reader.start.run ts = .ok n) : Pattern.read (textOf ts) = .ok n := by
  have htokens : tokenize (textOf ts).toList = ts := by
    rw [textOf, String.toList_ofList, tokenize_chars hts]
  have hsettled : ts.head? ≠ some .dangling := fun hhead => hts _ (List.mem_of_head? hhead)
  rw [Pattern.read, htokens, Scan.settle, if_neg hsettled]
  simp only [h]

/-! ## Expressions -/

namespace Regex

open Reader

/-- **The reader after an expression.** Where an expression fits, the reader takes just its tokens,
and makes of its level what the expression says.

**Proof sketch.** Induction on the expression. A group is read at a level of its own, which its
closing parenthesis leaves. What comes after a quantifier must not change its greed, and no
expression begins with a character that would. -/
theorem run_tokens {e : Regex} {p : Place} (h : e.Fits p) {r : Reader}
    (hmodes : r.level.modes = .default) (hfree : r.IsFree) {ts : List Token} (hts : p.Admits ts) :
    r.run (e.tokens ++ ts) = (r.withLevel (e.feed r.level)).run ts := by
  induction e generalizing p r ts with
  | empty => rfl
  | char x => exact run_cons (yields_step_letter x hmodes hts.isSettled)
  | any => exact run_cons (yields_step_any hmodes hts.isSettled)
  | set negated first others =>
    rw [tokens, List.append_assoc]
    exact run_cons (yields_step_set negated first others hmodes hts.isSettled)
  | group body ih =>
    have hclose : IsCalm (.plain ')' :: ts) := isCalm_cons (by simp) (by simp) (by simp) ts
    have hbody : IsCalm (body.tokens ++ .plain ')' :: ts) := body.isCalm_tokens h (.inr hclose)
    obtain ⟨left, hopen⟩ := yields_step_open hmodes hbody.1
    have hinside := ih h (r := r.enter .plain left .default) rfl (by rintro _ _ _ _ _ ⟨⟩) hclose
    simp only [tokens, List.cons_append, List.append_assoc, List.nil_append]
    refine (run_cons hopen).trans (hinside.trans (run_cons ?_))
    have houter : ((r.enter .plain left .default).withLevel (body.feed (.start .default))).outer =
        (.plain, left, r.level) :: r.outer := rfl
    exact yields_step_close houter hts.isSettled
  | seq first second ih₁ ih₂ =>
    obtain ⟨hp, hfirst, hsecond⟩ := h
    have hcalm : IsCalm ts := by simpa [Place.Admits, hp] using hts
    rw [tokens, List.append_assoc,
      ih₁ hfirst hmodes hfree (second.isCalm_tokens hsecond (.inr hcalm))]
    exact ih₂ (r := r.withLevel (first.feed r.level)) hsecond
      ((first.modes_feed _).trans hmodes) hfree hcalm
  | alt first second ih₁ ih₂ =>
    obtain ⟨rfl, hfirst, hsecond⟩ := h
    have hsettled := (second.isCalm_tokens hsecond (.inr hts)).1
    rw [tokens, List.append_assoc, List.cons_append,
      ih₁ hfirst hmodes hfree (isCalm_cons (by simp) (by simp) (by simp) _),
      run_cons (yields_step_bar (r := r.withLevel (first.feed r.level)) hfree hsettled)]
    exact ih₂ (r := r.withLevel (first.feed r.level).nextBranch) hsecond
      ((first.modes_feed _).trans hmodes) hfree hts
  | repeated isLazy q body ih =>
    obtain ⟨hp, hbody⟩ := h
    have hcalm : IsCalm ts := by simpa [Place.Admits, hp] using hts
    obtain ⟨item, hfeed, hitem⟩ := exists_feed_eq_push hbody
    obtain ⟨t, us, hq, hstep⟩ := yields_step_repeat
      (r := r.withLevel (body.feed r.level)) (by rw [withLevel, hfeed]; rfl) hitem
      ((body.modes_feed _).trans hmodes) q isLazy hcalm
    have hsettled : IsSettled (t :: us ++ ((if isLazy then [.plain '?'] else []) ++ ts)) := by
      obtain ⟨c, -, us, hc, -⟩ := q.exists_tokens_eq
      rw [← hq, hc]
      exact isSettled_cons (by simp) _
    rw [tokens, List.append_assoc, List.append_assoc, hq, ih hbody hmodes hfree hsettled,
      List.cons_append, run_cons hstep]
    rfl

/-- **An expression that can be written is read.** The reader finds no flaw in its text, and the
tree is what the expression makes of an empty level. -/
theorem read_text {e : Regex} (h : e.Fits .whole) :
    Pattern.read e.text = .ok (e.feed (.start .default)).node := by
  have hnil : IsCalm [] := ⟨by simp [IsSettled], by simp, by simp⟩
  have hfree : Reader.start.IsFree := by rintro _ _ _ _ _ ⟨⟩
  have hend : Reader.start.run (e.tokens ++ []) =
      (Reader.start.withLevel (e.feed (.start .default))).run [] := run_tokens h rfl hfree hnil
  rw [List.append_nil] at hend
  exact read_textOf e.isProper_tokens
    (hend.trans (run_nil (e.fault?_feed (Level.isFaultless_start .default))))

end Regex

end Winnow.Pattern

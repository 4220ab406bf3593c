import Winnow.Criterion.Evaluation
import Winnow.Proofs.Regex.Matching
import Winnow.Proofs.Regex.Reading

set_option autoImplicit false

/-!
# Pattern criteria decide regular languages

The tree that the reader makes of a regular expression decides the language of the expression. So a
pattern criterion whose text is a regular expression has no fault, and holds for just those values
that belong to the expression as a whole.

## Main definitions

* `Winnow.Pattern.Level.Decides` — what a level decides, its complete branches and its current one.
* `Winnow.Pattern.Regex.Appends` — what reading an expression of a language makes of a level.

## Main results

* `Winnow.Pattern.CharTest.holds_ofMembers` — the test of a set.
* `Winnow.Pattern.Regex.appends_feed` — reading an expression appends its language to the current
  branch.
* `Winnow.Criterion.evaluate_text` — a criterion with an expression that can be written.
* `Winnow.Criterion.pattern_decides_language` — a criterion with any expression, with parentheses
  around every composite operand.
-/

namespace Winnow

namespace Pattern

/-! ## Characters -/

/-- A code point stands for its own character only. -/
theorem matches_exact_iff (c d : Char) : CaseRule.exact.matches d.toNat c = true ↔ c = d := by
  have hrule : CaseRule.exact.matches d.toNat c = (c.toNat == d.toNat) := by
    simp [CaseRule.matches, CaseRule.fold]
  rw [hrule, beq_iff_eq, Char.toNat_inj]

/-- A set holds for the members that it is made of. -/
theorem CharTest.holds_ofMembers (negated : Bool) (members : List Member) (c : Char) :
    (CharTest.ofMembers negated members .exact).holds c =
      (members.any (Member.holds .exact c) != negated) := by
  have hdistinct : members.any (Member.holds .exact c) =
      members.eraseDups.any (Member.holds .exact c) := by
    rw [Bool.eq_iff_iff]
    simp only [List.any_eq_true, List.mem_eraseDups]
  rw [hdistinct, CharTest.ofMembers]
  split
  · rename_i n hn
    rw [hn]
    simp [CharTest.holds, Member.holds]
  · rfl

/-- A test of one character decides what it holds for. -/
theorem Node.Decides.oneChar {test : CharTest} {property : Char → Prop}
    (h : ∀ c, test.holds c = true ↔ property c) :
    (Node.char test).Decides (Regex.oneChar property) := by
  have hproperty : property = fun c => test.holds c = true := funext fun c => propext (h c).symm
  rw [hproperty]
  exact Node.Decides.char test

/-- A member of a set holds for its characters. -/
theorem SetMember.holds_member (m : SetMember) (c : Char) :
    m.member.holds .exact c = true ↔ m.Holds c := by
  cases m with
  | one l => exact matches_exact_iff c l.char
  | range first last _ =>
    have hspan : (SetMember.range first last ‹_›).member.holds .exact c =
        (decide (first.char.toNat ≤ c.toNat) && decide (c.toNat ≤ last.char.toNat)) := rfl
    rw [hspan, Bool.and_eq_true, decide_eq_true_eq, decide_eq_true_eq]
    exact Iff.rfl

/-! ## Levels -/

namespace Level

/-- What a level decides: a tree that follows its items decides the current branch and its own
language, and a tree that is an alternative to its branches decides these or its own language. -/
structure Decides (l : Level) (done current : Language Char) : Prop where
  items : ∀ {n : Node} {rest : Language Char}, n.Decides rest →
    (l.items.foldl (fun rest item => .seq item rest) n).Decides (current * rest)
  branches : ∀ {n : Node} {rest : Language Char}, n.Decides rest →
    (l.branches.foldl (fun rest branch => .alt branch rest) n).Decides (done + rest)

variable {l : Level} {done current : Language Char}

/-- Nothing has been read. -/
theorem decides_start (modes : Modes) : (start modes).Decides 0 1 :=
  ⟨fun h => by rw [one_mul]; exact h, fun h => by rw [zero_add]; exact h⟩

/-- The current branch. -/
theorem Decides.sequence (h : l.Decides done current) : l.sequence.Decides current := by
  have hseq := h.items Node.Decides.empty
  rwa [mul_one] at hseq

/-- All branches. -/
theorem Decides.node (h : l.Decides done current) : l.node.Decides (done + current) :=
  h.branches h.sequence

/-- The level after another item. -/
theorem Decides.push (h : l.Decides done current) {item : Node} {language : Language Char}
    (hitem : item.Decides language) : (l.push item).Decides done (current * language) := by
  refine ⟨fun hn => ?_, h.branches⟩
  rw [mul_assoc]
  exact h.items (hitem.seq hn)

/-- The level after the end of a branch. -/
theorem Decides.nextBranch (h : l.Decides done current) :
    l.nextBranch.Decides (done + current) 1 := by
  refine ⟨fun hn => by rw [one_mul]; exact hn, fun hn => ?_⟩
  rw [add_assoc]
  exact h.branches (h.sequence.alt hn)

end Level

/-! ## Expressions -/

namespace Regex

/-- What reading an expression of a language makes of a level: the language is appended to the
current branch. Only alternatives end that branch, and only where nothing stands in it. -/
def Appends (language : Language Char) (p : Place) (feed : Level → Level) : Prop :=
  ∀ (l : Level) (done current : Language Char), l.Decides done current →
    (p = .whole → current = 1) →
    ∃ done' current', (feed l).Decides done' current' ∧
      done' + current' = done + current * language ∧
      (p ≠ .whole → done' = done ∧ current' = current * language)

/-- One item is appended. -/
theorem appends_push {item : Node} {language : Language Char} (h : item.Decides language)
    (p : Place) : Appends language p (·.push item) :=
  fun _ _ _ hl _ => ⟨_, _, hl.push h, rfl, fun _ => ⟨rfl, rfl⟩⟩

/-- A tree read at a level of its own decides what has been appended there. -/
theorem Appends.decides_node {language : Language Char} {p : Place} {feed : Level → Level}
    (h : Appends language p feed) : (feed (.start .default)).node.Decides language := by
  obtain ⟨done, current, hdecides, hsum, -⟩ := h _ _ _ (Level.decides_start .default) fun _ => rfl
  have hnode := hdecides.node
  rwa [hsum, zero_add, one_mul] at hnode

/-- A set holds for the characters that it stands for. -/
theorem decides_set (negated : Bool) (first : SetMember) (others : List SetMember) :
    (Node.char (.ofMembers negated ((first :: others).map SetMember.member) .exact)).Decides
      (set negated first others).language := by
  refine .oneChar fun c => ?_
  have hany : ((first :: others).map SetMember.member).any (Member.holds .exact c) = true ↔
      ∃ m ∈ first :: others, m.Holds c := by
    simp only [List.any_map, List.any_eq_true, Function.comp_apply, SetMember.holds_member]
  rw [CharTest.holds_ofMembers, ← hany]
  cases negated <;> simp

/-- **Reading an expression appends its language.**

**Proof sketch.** Induction on the expression. An operand is one item, which decides what a level
decides at which nothing else has been read. -/
theorem appends_feed {e : Regex} {p : Place} (h : e.Fits p) : Appends e.language p e.feed := by
  induction e generalizing p with
  | empty =>
    intro l done current hl _
    exact ⟨done, current, hl, by rw [language, mul_one], fun _ => by simp [language]⟩
  | char x =>
    refine appends_push (.oneChar fun c => ?_) p
    simpa [CharTest.holds] using matches_exact_iff c x.char
  | any => exact appends_push (.oneChar fun c => by simp [CharTest.holds]) p
  | set negated first others => exact appends_push (decides_set negated first others) p
  | group body ih => exact appends_push (ih h).decides_node.group p
  | seq first second ih₁ ih₂ =>
    obtain ⟨-, hfirst, hsecond⟩ := h
    intro l done current hl _
    obtain ⟨done₁, current₁, h₁, -, heq₁⟩ := ih₁ hfirst _ _ _ hl Place.noConfusion
    obtain ⟨rfl, rfl⟩ := heq₁ Place.noConfusion
    obtain ⟨done₂, current₂, h₂, -, heq₂⟩ := ih₂ hsecond _ _ _ h₁ Place.noConfusion
    obtain ⟨rfl, rfl⟩ := heq₂ Place.noConfusion
    rw [language, ← mul_assoc]
    exact ⟨_, _, h₂, rfl, fun _ => ⟨rfl, rfl⟩⟩
  | alt first second ih₁ ih₂ =>
    obtain ⟨rfl, hfirst, hsecond⟩ := h
    intro l done current hl hcurrent
    obtain ⟨done₁, current₁, h₁, hsum₁, -⟩ := ih₁ hfirst _ _ _ hl hcurrent
    obtain ⟨done₂, current₂, h₂, hsum₂, -⟩ := ih₂ hsecond _ _ _ h₁.nextBranch fun _ => rfl
    refine ⟨done₂, current₂, h₂, ?_, fun hp => absurd rfl hp⟩
    rw [hsum₂, hsum₁, hcurrent rfl, language, one_mul, one_mul, one_mul, add_assoc]
  | repeated isLazy q body ih =>
    obtain ⟨-, hbody⟩ := h
    obtain ⟨item, hfeed, -⟩ := exists_feed_eq_push hbody
    have hitem : item.Decides body.language := by
      have hnode := (ih hbody).decides_node
      rw [hfeed] at hnode
      exact hnode
    have hgreed : Greed.ofLazy isLazy ≠ .possessive := by cases isLazy <;> decide
    have hrepeated : (repeated isLazy q body).feed =
        (·.push (.repeated (.ofLazy isLazy) q.least q.most? item)) := by
      funext l
      rw [feed, hfeed]
      rfl
    rw [hrepeated]
    exact appends_push (hitem.repeated q hgreed) p

end Regex

end Pattern

/-! ## Criteria -/

namespace Criterion

open Pattern

section

variable [Host]

/-- A pattern criterion whose text is read holds for the values that its tree matches as a whole. -/
theorem evaluate_of_read {text : String} {n : Node} (h : Pattern.read text = .ok n) (key : String)
    (number? : Option Binary64) (allowMissing : Bool) (value : String) :
    evaluate ⟨key, .matchesPattern, some text, number?⟩ allowMissing (some value) =
      .ok (n.matchesWhole value) := by
  rw [evaluate]
  simp only [evaluatePattern, h]

/-- A pattern criterion whose text is an expression that can be written has no fault, and holds for
just the values that belong to the expression. -/
theorem evaluate_text {e : Regex} (h : e.Fits .whole) (key : String) (number? : Option Binary64)
    (allowMissing : Bool) (value : String) :
    ∃ holds, evaluate ⟨key, .matchesPattern, some e.text, number?⟩ allowMissing (some value) =
        .ok holds ∧
      (holds = true ↔ value.toList ∈ e.language) := by
  refine ⟨_, evaluate_of_read (Regex.read_text h) key number? allowMissing value, ?_⟩
  exact (Regex.appends_feed h).decides_node.matchesWhole_iff value

/-- **Pattern criteria decide regular languages.** A pattern criterion whose text is a regular
expression, with parentheses around every composite operand, has no fault for any value, and holds
for just the values that belong to the expression as a whole. Whether its repeats are greedy or lazy
makes no difference.

**Proof sketch.** With these parentheses the expression can be written (`Regex.fits_bracketed`), so
the reader makes of its text a tree that decides its language (`evaluate_text`). Greed does not
change the language. -/
theorem pattern_decides_language (r : Regex) (key : String) (number? : Option Binary64)
    (allowMissing : Bool) (value : String) :
    (∃ holds, evaluate ⟨key, .matchesPattern, some r.bracketed.text, number?⟩ allowMissing
          (some value) = .ok holds ∧
        (holds = true ↔ value.toList ∈ r.language)) ∧
      evaluate ⟨key, .matchesPattern, some r.greedy.bracketed.text, number?⟩ allowMissing
          (some value) =
        evaluate ⟨key, .matchesPattern, some r.bracketed.text, number?⟩ allowMissing
          (some value) := by
  have hdecides : ∀ r : Regex,
      ∃ holds, evaluate ⟨key, .matchesPattern, some r.bracketed.text, number?⟩ allowMissing
          (some value) = .ok holds ∧
        (holds = true ↔ value.toList ∈ r.language) := by
    intro r
    rw [← r.language_bracketed]
    exact evaluate_text r.fits_bracketed key number? allowMissing value
  obtain ⟨holds, heval, hiff⟩ := hdecides r
  obtain ⟨holds', heval', hiff'⟩ := hdecides r.greedy
  have hsame : holds' = holds := by
    rw [Bool.eq_iff_iff, hiff', hiff, r.language_greedy]
  exact ⟨⟨holds, heval, hiff⟩, by rw [heval, heval', hsame]⟩

end

/-- A lazy repeat of what can be empty, in a sequence with an escaped character and a set. -/
example :
    (Regex.seq (.repeated true .star (.alt (.char ⟨'a', false, by decide⟩) .empty))
      (.seq (.char ⟨'.', true, by decide⟩)
        (.set true (.range ⟨'0', false, by decide⟩ ⟨'9', false, by decide⟩ (by decide))
          [.one ⟨'-', true, by decide⟩]))).bracketed.text =
      "(?:(?:a|(?:))*?)(?:\\.[^0-9\\-])" := by
  decide +kernel

end Criterion

end Winnow

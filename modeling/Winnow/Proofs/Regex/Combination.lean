import Winnow.Proofs.Frame
import Winnow.Proofs.Regex.Decision
import Winnow.Proofs.Registration

set_option autoImplicit false

/-!
# Combined patterns

Pattern criteria for one key can be combined in two ways: by the connectives of expressions, or
inside of one pattern. A conjunction is a condition on what follows, and then the second pattern; a
disjunction is a pattern of alternatives; a negation is a condition on what must not follow, and
then any text at all. Both ways come to the same.

## Main definitions

* `Winnow.Pattern.Regex.conditionTokens` — an expression up to the end of the text, as a condition
  on what follows, and `Winnow.Pattern.Regex.toEnd`, the tree of the expression in it.
* `Winnow.Pattern.Regex.anything` — the tree of a pattern for any text at all.

## Main results

* `Winnow.Pattern.Reader.run_condition` — such a condition is read as one item.
* `Winnow.Pattern.Regex.matchesWhole_ahead` — a tree after such a condition matches the texts of its
  language for which the condition holds.
* `Winnow.Expr.combinations_agree_with_one_pattern` — both ways of combining patterns agree.

## Design

A condition consumes nothing, but it may keep captures. What follows a condition here decides a
language, and so it matters neither what the condition has captured nor in which of several ways it
has been met.
-/

namespace Winnow

namespace Pattern

open Quantifier (plain)

namespace Regex

/-! ## Conditions on what follows -/

/-- An expression up to the end of the text, as a condition on what follows: it has to match there,
or must not. -/
def conditionTokens (positive : Bool) (e : Regex) : List Token :=
  plain ['(', '?', if positive then '=' else '!'] ++
    ((group e).tokens ++ [.escaped 'Z', .plain ')'])

/-- The tree of an expression up to the end of the text. -/
def toEnd (e : Regex) : Node :=
  .seq (.group none (e.feed (.start .default)).node) (.seq (.anchor .textEnd) .empty)

/-- A pattern for any text at all, line feeds included. -/
def anythingTokens : List Token :=
  plain ['(', '?', 's', ':', '.', '*', ')']

/-- The tree of a pattern for any text at all. -/
def anything : Node :=
  .group none (.seq (.repeated .greedy 0 none (.char (.any true))) .empty)

/-- The tokens of a condition are proper. -/
theorem isProper_conditionTokens (positive : Bool) (e : Regex) :
    ∀ t ∈ e.conditionTokens positive, t.IsProper := by
  have hbody := (group e).isProper_tokens
  rw [conditionTokens, List.forall_mem_append, List.forall_mem_append]
  refine ⟨?_, hbody, by simp [Token.IsProper]⟩
  cases positive <;> simp [plain]

/-- The tokens of a pattern for any text are proper. -/
theorem isProper_anythingTokens : ∀ t ∈ anythingTokens, t.IsProper := by
  simp [anythingTokens, plain]

/-- Nothing in the tree of an expression up to the end of the text is a flaw. -/
theorem fault?_toEnd (e : Regex) : e.toEnd.fault? false = none := by
  have hbody := (e.fault?_feed (Level.isFaultless_start .default)).node
  simp [toEnd, Node.fault?, hbody]

end Regex

/-! ## Reading -/

namespace Reader

variable [Host] {r : Reader} {ts : List Token}

/-- The step of an opening parenthesis that begins a condition on what follows. -/
theorem yields_step_ahead (positive : Bool) (hmodes : r.level.modes = .default)
    (hts : IsSettled ts) :
    ∃ left, (r.step (.plain '(')).Yields
      (.plain '?' :: .plain (if positive then '=' else '!') :: ts)
      (r.enter (.ahead positive) left .default) ts := by
  refine ⟨charCount (.plain '?' :: .plain (if positive then '=' else '!') :: ts) + 1, ?_⟩
  refine yields_step_plain (by decide) (by decide) hmodes (isSettled_cons (by simp) _) ?_
  refine (Scan.yields_left _).bind
    ((Scan.yields_accept '?' (isSettled_cons (by simp) ts)).bind ?_)
  rw [if_pos rfl]
  refine (Scan.yields_take _ hts).bind ?_
  rw [← hmodes]
  cases positive with
  | true => exact Scan.yields_pure _ ts
  | false => exact Scan.yields_pure _ ts

/-- The step of the escape that stands for the end of the text. -/
theorem yields_step_textEnd (hts : IsSettled ts) :
    (r.step (.escaped 'Z')).Yields ts (r.push (.anchor .textEnd)) ts :=
  (Scan.yields_settle hts).bind ((Scan.yields_pure _ ts).bind (Scan.yields_pure _ ts))

/-- **A condition is read as one item.** Its expression is read at a level of its own, which the
closing parenthesis leaves. -/
theorem run_condition (positive : Bool) {e : Regex} (he : e.Fits .whole)
    (hmodes : r.level.modes = .default) (hts : IsSettled ts) :
    r.run (e.conditionTokens positive ++ ts) = (r.push (.ahead positive e.toEnd)).run ts := by
  have hinside : IsSettled (.escaped 'Z' :: .plain ')' :: ts) := isSettled_cons (by simp) _
  have hbody : IsSettled ((Regex.group e).tokens ++ .escaped 'Z' :: .plain ')' :: ts) :=
    isSettled_cons (by simp) _
  obtain ⟨left, hopen⟩ := yields_step_ahead (r := r) positive hmodes hbody
  have hrun := Regex.run_tokens (e := .group e) (p := .operand) he
    (r := r.enter (.ahead positive) left .default) rfl (by rintro _ _ _ _ _ ⟨⟩) hinside
  have htokens : e.conditionTokens positive ++ ts =
      .plain '(' :: .plain '?' :: .plain (if positive then '=' else '!') ::
        ((Regex.group e).tokens ++ .escaped 'Z' :: .plain ')' :: ts) := by
    simp [Regex.conditionTokens, plain]
  rw [htokens, run_cons hopen, hrun, run_cons (yields_step_textEnd (isSettled_cons (by simp) ts))]
  have houter : (((r.enter (.ahead positive) left .default).withLevel
      ((Regex.group e).feed (.start .default))).push (.anchor .textEnd)).outer =
        (.ahead positive, left, r.level) :: r.outer := rfl
  exact run_cons (yields_step_close houter hts)

/-- A pattern for any text is read as one item, at the end of a pattern. -/
theorem run_anything (hmodes : r.level.modes = .default) :
    r.run Regex.anythingTokens = (r.push Regex.anything).run [] := by
  obtain ⟨⟨modes, branches, items⟩, outer, flags, widths, names, lookbehind?, asked⟩ := r
  obtain rfl : modes = .default := hmodes
  -- the modes inside let the period stand for line feeds too, so these are steps of their own
  let any : Node := .char (.any true)
  let inside : Reader := ⟨.start (Modes.default.turnOn .lineFeeds),
    (.plain, 7, ⟨.default, branches, items⟩) :: outer, flags, widths, names, lookbehind?, asked⟩
  have hopen : (step ⟨⟨.default, branches, items⟩, outer, flags, widths, names, lookbehind?, asked⟩
      (.plain '(')).Yields (plain ['?', 's', ':', '.', '*', ')']) inside (plain ['.', '*', ')']) :=
    ⟨by decide, rfl⟩
  have hany : (inside.step (.plain '.')).Yields (plain ['*', ')']) (inside.push any)
      (plain ['*', ')']) := ⟨by decide, rfl⟩
  have hstar : ((inside.push any).step (.plain '*')).Yields (plain [')'])
      (inside.push (.repeated .greedy 0 none any)) (plain [')']) := ⟨by decide, rfl⟩
  have houter : (inside.push (.repeated .greedy 0 none any)).outer =
      (.plain, 7, ⟨.default, branches, items⟩) :: outer := rfl
  have hclose := yields_step_close houter (show IsSettled [] by simp [IsSettled])
  exact (run_cons hopen).trans ((run_cons hany).trans ((run_cons hstar).trans (run_cons hclose)))

end Reader

namespace Regex

variable {p q : Regex}

section

variable [Host]

/-- The pattern of a conjunction. -/
theorem read_conjunction (hp : p.Fits .whole) (hq : q.Fits .whole) :
    Pattern.read ("(?=(?:" ++ p.text ++ ")\\Z)(?:" ++ q.text ++ ")") =
      .ok (.seq (.ahead true p.toEnd)
        (.seq (.group none (q.feed (.start .default)).node) .empty)) := by
  have htext : "(?=(?:" ++ p.text ++ ")\\Z)(?:" ++ q.text ++ ")" =
      textOf (p.conditionTokens true ++ (group q).tokens) := by
    rw [← String.toList_inj]
    simp [textOf, text, conditionTokens, tokens, plain, Token.chars]
  have hcondition : Reader.start.run (p.conditionTokens true ++ (group q).tokens) =
      (Reader.start.push (.ahead true p.toEnd)).run (group q).tokens :=
    Reader.run_condition true hp rfl (isSettled_cons (by simp) _)
  have hgroup := run_tokens (e := group q) (p := .operand) hq
    (r := Reader.start.push (.ahead true p.toEnd)) rfl (by rintro _ _ _ _ _ ⟨⟩)
    (show IsSettled [] by simp [IsSettled])
  rw [List.append_nil] at hgroup
  rw [htext]
  apply read_textOf
  · exact List.forall_mem_append.mpr
      ⟨p.isProper_conditionTokens true, (group q).isProper_tokens⟩
  · refine hcondition.trans (hgroup.trans ?_)
    exact Reader.run_nil ((group q).fault?_feed
      ((Level.isFaultless_start .default).push p.fault?_toEnd))

/-- The pattern of a negation. -/
theorem read_negation (hp : p.Fits .whole) :
    Pattern.read ("(?!(?:" ++ p.text ++ ")\\Z)(?s:.*)") =
      .ok (.seq (.ahead false p.toEnd) (.seq anything .empty)) := by
  have htext : "(?!(?:" ++ p.text ++ ")\\Z)(?s:.*)" =
      textOf (p.conditionTokens false ++ anythingTokens) := by
    rw [← String.toList_inj]
    simp [textOf, text, conditionTokens, anythingTokens, tokens, plain, Token.chars]
  have hcondition : Reader.start.run (p.conditionTokens false ++ anythingTokens) =
      (Reader.start.push (.ahead false p.toEnd)).run anythingTokens :=
    Reader.run_condition false hp rfl (isSettled_cons (by simp) _)
  rw [htext]
  apply read_textOf
  · exact List.forall_mem_append.mpr
      ⟨p.isProper_conditionTokens false, isProper_anythingTokens⟩
  · refine hcondition.trans ((Reader.run_anything rfl).trans ?_)
    refine Reader.run_nil (((Level.isFaultless_start .default).push ?_).push ?_)
    · exact p.fault?_toEnd
    · rfl

end

/-! ## Matching -/

/-- An expression up to the end of the text matches exactly if the rest of the text belongs to the
expression. -/
theorem isSome_first_toEnd {e : Regex} (he : e.Fits .whole) (s : Cursor) :
    (e.toEnd.run.first s).isSome ↔ s.rest ∈ e.language :=
  (appends_feed he).decides_node.group.isSome_toEnd s

/-- **Matching under a condition.** A tree after a condition matches the texts of its language that
belong to the expression of the condition, or those that do not.

**Proof sketch.** Where the condition is met, the tree goes on from the same place, whatever the
condition has captured. -/
theorem matchesWhole_ahead {e : Regex} (he : e.Fits .whole) (positive : Bool) {n : Node}
    {l : Language Char} (hn : n.Decides l) (text : String) :
    (Node.seq (.ahead positive e.toEnd) n).matchesWhole text = true ↔
      (text.toList ∈ e.language ↔ positive = true) ∧ text.toList ∈ l := by
  have hcondition := isSome_first_toEnd he (.ofText text.toList)
  have hrest : ∀ s : Cursor, s.rest = text.toList →
      ((n.run s fun t => if t.rest.isEmpty then some t else none).isSome ↔ text.toList ∈ l) :=
    fun s hs => hs ▸ hn.isSome_toEnd s
  simp only [Node.matchesWhole, Node.run, condition, Option.bind_some]
  cases hfirst : e.toEnd.run.first (.ofText text.toList) with
  | some t =>
    rw [hfirst] at hcondition
    have hmem : text.toList ∈ e.language := hcondition.mp rfl
    cases positive with
    | true =>
      simpa [hmem] using hrest { Cursor.ofText text.toList with captures := t.captures } rfl
    | false => simp [hmem]
  | none =>
    rw [hfirst] at hcondition
    have hmem : text.toList ∉ e.language := fun h => by simpa using hcondition.mpr h
    cases positive with
    | true => simp [hmem]
    | false => simpa [hmem] using hrest (.ofText text.toList) rfl

/-- Any text at all belongs to the language of single characters in any number. -/
theorem kstar_oneChar : (KStar.kstar (oneChar fun _ => True) : Language Char) = ⊤ := by
  refine Set.eq_univ_of_forall fun w => ?_
  have hflatten : w = (w.map ([·])).flatten :=
    (List.flatMap_singleton' w).symm.trans (List.flatMap_def ..)
  refine Language.mem_kstar.mpr ⟨w.map ([·]), hflatten, fun v hv => ?_⟩
  obtain ⟨c, -, rfl⟩ := List.mem_map.mp hv
  exact ⟨c, rfl, trivial⟩

/-- The tree of a pattern for any text matches any text. -/
theorem decides_anything : anything.Decides ⊤ := by
  have hchar : (Node.char (.any true)).Decides (oneChar fun _ => True) :=
    .oneChar (by simp [CharTest.holds])
  have hstar : (Node.repeated .greedy 0 none (.char (.any true))).Decides
      (Quantifier.star.rounds (oneChar fun _ => True)) :=
    hchar.repeated .star (by decide)
  have hgroup := (hstar.seq .empty).group
  rw [mul_one, Quantifier.rounds_star, kstar_oneChar] at hgroup
  exact hgroup

end Regex

end Pattern

/-! ## Expressions -/

namespace Expr

open Pattern

/-- The comparison of a key with a pattern, whatever the pattern. -/
theorem compare_pattern (key text : String) (allowMissing : Bool) :
    compare key "MATCHES_REGEX" (some text) allowMissing =
      .ok (.comparison ⟨key, .matchesPattern, some text, none⟩ allowMissing) := by
  have hname : Operator.ofName? "MATCHES_REGEX" = some .matchesPattern :=
    Operator.ofName?_name .matchesPattern
  exact compare_eq_ok_iff.mpr ⟨_, by rw [Criterion.accepted?, hname]; rfl, rfl⟩

section

variable [Host]

section Verdicts

variable {r : Resource} {s : Store}

/-- The verdict of a comparison with a pattern that is read. -/
theorem satisfies_pattern {key text value : String} {n : Node} (hread : Pattern.read text = .ok n)
    (hr : r.get? key = some value) (allowMissing : Bool) (s : Store) :
    satisfies r (.comparison ⟨key, .matchesPattern, some text, none⟩ allowMissing) s =
      .value (n.matchesWhole value) s := by
  rw [satisfies, hr, Criterion.evaluate_of_read hread]
  rfl

variable {e₁ e₂ : Expr} {a b : Bool} (h₁ : satisfies r e₁ s = .value a s)
  (h₂ : satisfies r e₂ s = .value b s)

include h₁ in
/-- The negation of an expression that has a verdict. -/
theorem satisfies_not_of_value : satisfies r (.not e₁) s = .value (!a) s := by
  rw [satisfies, h₁]
  rfl

include h₁ h₂

/-- The conjunction of two expressions that have verdicts. -/
theorem satisfies_and_of_value : satisfies r (.and [e₁, e₂]) s = .value (a && b) s := by
  rw [satisfies, satisfiesAll, h₁, Outcome.value_andThen]
  cases a with
  | false => rfl
  | true =>
    rw [if_pos rfl, satisfiesAll, h₂, Outcome.value_andThen]
    cases b <;> rfl

/-- The disjunction of two expressions that have verdicts. -/
theorem satisfies_or_of_value : satisfies r (.or [e₁, e₂]) s = .value (a || b) s := by
  rw [satisfies, satisfiesAny, h₁, Outcome.value_andThen]
  cases a with
  | true => rfl
  | false =>
    rw [if_neg Bool.false_ne_true, satisfiesAny, h₂, Outcome.value_andThen]
    cases b <;> rfl

end Verdicts

/-- **Combinations of patterns are patterns.** Take two regular expressions as patterns, and a
resource that has a value for their key. Their comparisons have verdicts, which say whether the
value belongs to each expression. The conjunction of the two comparisons comes to the same as the
comparison with one pattern that looks ahead to the end of the text for the first expression and
then goes through the second; the disjunction, as that with both as alternatives; and the negation
of the first one, as that with a pattern that looks ahead for what must not come and then goes
through anything.

**Proof sketch.** A condition on what follows is read as one item (`Reader.run_condition`), and what
comes after it matches the texts of its language under that condition (`Regex.matchesWhole_ahead`).
Alternatives in parentheses are a regular expression themselves. -/
theorem combinations_agree_with_one_pattern {p q : Regex} (hp : p.Fits .whole) (hq : q.Fits .whole)
    {key value : String} {r : Resource} (hr : r.get? key = some value) (allowMissing : Bool)
    (s : Store) :
    ∃ e₁ e₂ conjunction disjunction negation : Expr,
      compare key "MATCHES_REGEX" (some p.text) allowMissing = .ok e₁ ∧
      compare key "MATCHES_REGEX" (some q.text) allowMissing = .ok e₂ ∧
      compare key "MATCHES_REGEX" (some ("(?=(?:" ++ p.text ++ ")\\Z)(?:" ++ q.text ++ ")"))
        allowMissing = .ok conjunction ∧
      compare key "MATCHES_REGEX" (some ("(?:" ++ p.text ++ ")|(?:" ++ q.text ++ ")"))
        allowMissing = .ok disjunction ∧
      compare key "MATCHES_REGEX" (some ("(?!(?:" ++ p.text ++ ")\\Z)(?s:.*)"))
        allowMissing = .ok negation ∧
      satisfies r (.and [e₁, e₂]) s = satisfies r conjunction s ∧
      satisfies r (.or [e₁, e₂]) s = satisfies r disjunction s ∧
      satisfies r (.not e₁) s = satisfies r negation s ∧
      ∃ a b : Bool, satisfies r e₁ s = .value a s ∧ satisfies r e₂ s = .value b s ∧
        (a = true ↔ value.toList ∈ p.language) ∧ (b = true ↔ value.toList ∈ q.language) := by
  have hlanguage : ∀ {e : Regex}, e.Fits .whole →
      ((e.feed (.start .default)).node.matchesWhole value = true ↔ value.toList ∈ e.language) :=
    fun he => (Regex.appends_feed he).decides_node.matchesWhole_iff value
  have h₁ := satisfies_pattern (Regex.read_text hp) hr allowMissing s
  have h₂ := satisfies_pattern (Regex.read_text hq) hr allowMissing s
  have halternatives : "(?:" ++ p.text ++ ")|(?:" ++ q.text ++ ")" =
      (Regex.alt (.group p) (.group q)).text := by
    rw [← String.toList_inj]
    simp [Regex.text, Regex.tokens, Token.chars]
  have hfits : (Regex.alt (.group p) (.group q)).Fits .whole := ⟨rfl, hp, hq⟩
  refine ⟨_, _, _, _, _, compare_pattern .., compare_pattern .., compare_pattern ..,
    compare_pattern .., compare_pattern .., ?_, ?_, ?_, _, _, h₁, h₂, hlanguage hp, hlanguage hq⟩
  · rw [satisfies_and_of_value h₁ h₂, satisfies_pattern (Regex.read_conjunction hp hq) hr]
    congr 1
    have hsecond := ((Regex.appends_feed hq).decides_node.group).seq .empty
    rw [mul_one] at hsecond
    rw [Bool.eq_iff_iff, Bool.and_eq_true, Regex.matchesWhole_ahead hp true hsecond, hlanguage hp,
      hlanguage hq]
    simp
  · rw [satisfies_or_of_value h₁ h₂, halternatives, satisfies_pattern (Regex.read_text hfits) hr]
    congr 1
    rw [Bool.eq_iff_iff, Bool.or_eq_true, hlanguage hfits, hlanguage hp, hlanguage hq]
    rfl
  · rw [satisfies_not_of_value h₁, satisfies_pattern (Regex.read_negation hp) hr]
    congr 1
    have hanything := Regex.decides_anything.seq .empty
    rw [mul_one] at hanything
    rw [Bool.eq_iff_iff, Bool.not_eq_true', Regex.matchesWhole_ahead hp false hanything,
      ← Bool.not_eq_true, hlanguage hp]
    have hany : value.toList ∈ (⊤ : Language Char) := trivial
    simp [hany]

end

attribute [local instance] Host.bare

/-- A lazy repeat before a letter, and a repeat of any character: a value that both match, so that
their conjunction holds for it and the negation does not. -/
theorem combinations_agree_with_one_pattern_both :
    let p : Regex :=
      .seq (.repeated true .star (.char ⟨'a', false, by decide⟩)) (.char ⟨'b', false, by decide⟩)
    let q : Regex := .repeated false .plus .any
    let r : Resource := ⟨[("code", some "aab")]⟩
    p.text = "a*?b" ∧ q.text = ".+" ∧ ∃ e₁ e₂ conjunction negation : Expr,
      compare "code" "MATCHES_REGEX" (some "a*?b") true = .ok e₁ ∧
      compare "code" "MATCHES_REGEX" (some ".+") true = .ok e₂ ∧
      compare "code" "MATCHES_REGEX" (some "(?=(?:a*?b)\\Z)(?:.+)") true = .ok conjunction ∧
      compare "code" "MATCHES_REGEX" (some "(?!(?:a*?b)\\Z)(?s:.*)") true = .ok negation ∧
      satisfies r (.and [e₁, e₂]) .empty = satisfies r conjunction .empty ∧
      satisfies r (.not e₁) .empty = satisfies r negation .empty ∧
      (satisfies r conjunction .empty).result = .ok true ∧
      (satisfies r negation .empty).result = .ok false := by
  intro p q r
  have hp : p.Fits .whole := ⟨Regex.Place.noConfusion, ⟨Regex.Place.noConfusion, trivial⟩, trivial⟩
  have hq : q.Fits .whole := ⟨Regex.Place.noConfusion, trivial⟩
  have hptext : p.text = "a*?b" := by decide +kernel
  have hqtext : q.text = ".+" := by decide +kernel
  obtain ⟨e₁, e₂, conjunction, -, negation, h₁, h₂, hconjunction, -, hnegation, hand, -, hnot, -⟩ :=
    combinations_agree_with_one_pattern hp hq (show r.get? "code" = some "aab" by decide +kernel)
      true .empty
  rw [hptext] at h₁ hconjunction hnegation
  rw [hqtext] at h₂ hconjunction
  obtain rfl := Except.ok.inj ((compare_pattern ..).symm.trans hconjunction)
  obtain rfl := Except.ok.inj ((compare_pattern ..).symm.trans hnegation)
  exact ⟨hptext, hqtext, e₁, e₂, _, _, h₁, h₂, hconjunction, hnegation, hand, hnot,
    by decide +kernel, by decide +kernel⟩

end Expr

end Winnow

import Winnow.Pattern.Matcher
import Winnow.Proofs.Regex.Syntax

set_option autoImplicit false

/-!
# Matchers and languages

A matcher of which only the texts count that it goes through, and not the order in which it tries
them, decides a language: it succeeds exactly if some text of the language comes next after which
the rest succeeds. Sequences, alternatives and repeats of such matchers are of that kind again.

## Main definitions

* `Winnow.Pattern.Cursor.Reaches` — a place is reached from another one through a text.
* `Winnow.Pattern.Matcher.Decides` — a matcher decides a language.
* `Winnow.Pattern.atMost` — a limited number of rounds of a language.

## Main results

* `Winnow.Pattern.mem_atMost_iff` — rounds that go through nothing can be left out.
* `Winnow.Pattern.Matcher.Decides.isSome_greedily`, `Winnow.Pattern.Matcher.Decides.isSome_lazily` —
  further rounds decide a limited number of rounds, in whatever order they are tried.
* `Winnow.Pattern.Node.Decides.matchesWhole_iff` — a tree that decides a language matches the
  whole of just its texts.

## Design

What comes after a matcher is any function of the place reached, so a matcher that decides a
language has to find every text of it, and not only the first one.
-/

namespace Winnow.Pattern

/-! ## Places -/

namespace Cursor

/-- A place is reached from another one through a text, and no capture is made on the way. -/
structure Reaches (s : Cursor) (w : List Char) (t : Cursor) : Prop where
  rest : s.rest = w ++ t.rest
  before : t.before = w.reverse ++ s.before
  captures : t.captures = s.captures

variable {s t u : Cursor} {v w : List Char}

/-- Through nothing only the place itself is reached. -/
theorem reaches_nil_iff : s.Reaches [] t ↔ s = t := by
  constructor
  · rintro ⟨hrest, hbefore, hcaptures⟩
    obtain ⟨before, rest, left, hleft, captures⟩ := s
    obtain ⟨before', rest', left', hleft', captures'⟩ := t
    simp only [List.nil_append, List.reverse_nil] at hrest hbefore hcaptures
    subst hrest hbefore hcaptures hleft hleft'
    rfl
  · rintro rfl
    exact ⟨rfl, rfl, rfl⟩

/-- Through two texts a place is reached by way of the place between them. -/
theorem reaches_append_iff : s.Reaches (v ++ w) u ↔ ∃ t, s.Reaches v t ∧ t.Reaches w u := by
  constructor
  · rintro ⟨hrest, hbefore, hcaptures⟩
    refine ⟨⟨v.reverse ++ s.before, w ++ u.rest, _, rfl, s.captures⟩, ⟨?_, rfl, rfl⟩,
      ⟨rfl, ?_, hcaptures⟩⟩
    · rw [hrest, List.append_assoc]
    · rw [hbefore, List.reverse_append, List.append_assoc]
  · rintro ⟨t, hv, hw⟩
    refine ⟨?_, ?_, hw.captures.trans hv.captures⟩
    · rw [hv.rest, hw.rest, List.append_assoc]
    · rw [hw.before, hv.before, List.reverse_append, List.append_assoc]

/-- What comes next can be gone through. -/
theorem exists_reaches (h : s.rest = w ++ v) : ∃ t, s.Reaches w t ∧ t.rest = v :=
  ⟨⟨w.reverse ++ s.before, v, v.length, rfl, s.captures⟩, ⟨h, rfl, rfl⟩, rfl⟩

/-- A place counts as the end of the text exactly if nothing follows it. -/
theorem isSome_ite_rest (s : Cursor) :
    (if s.rest.isEmpty then some s else none).isSome ↔ s.rest = [] := by
  cases h : s.rest <;> simp

/-- As many characters fewer are left as have been gone through. -/
theorem Reaches.left_eq (h : s.Reaches w t) : s.left = w.length + t.left := by
  rw [s.left_eq, t.left_eq, h.rest, List.length_append]

/-- The next place is reached through one character that passes the test. -/
theorem next?_eq_some_iff {accepts : Char → Bool} :
    s.next? accepts = some t ↔ ∃ c, accepts c = true ∧ s.Reaches [c] t := by
  obtain ⟨before, rest, left, hleft, captures⟩ := s
  cases rest with
  | nil =>
    simp only [next?, reduceCtorEq, false_iff]
    rintro ⟨c, -, h⟩
    exact absurd h.rest (by simp)
  | cons d rest =>
    subst hleft
    rw [next?]
    constructor
    · intro h
      split at h
      · rename_i hd
        cases h
        exact ⟨d, hd, rfl, rfl, rfl⟩
      · cases h
    · rintro ⟨c, hc, h⟩
      obtain ⟨before', rest', left', hleft', captures'⟩ := t
      obtain ⟨hrest, hbefore, hcaptures⟩ := h
      simp only [List.singleton_append, List.cons.injEq] at hrest
      obtain ⟨rfl, rfl⟩ := hrest
      subst hleft'
      simp_all

end Cursor

/-! ## Limited numbers of rounds -/

/-- The texts of at most so many rounds of a language, or of any number of them. -/
def atMost (l : Language Char) (limit? : Option Nat) : Language Char :=
  {w | ∃ n, (∀ limit ∈ limit?, n ≤ limit) ∧ w ∈ l ^ n}

/-- The empty text takes no round. -/
theorem nil_mem_atMost (l : Language Char) (limit? : Option Nat) : [] ∈ atMost l limit? :=
  ⟨0, fun _ _ => Nat.zero_le _, by rw [pow_zero]; exact Language.nil_mem_one⟩

/-- No round goes through nothing only. -/
theorem mem_atMost_zero {l : Language Char} {w : List Char} : w ∈ atMost l (some 0) ↔ w = [] := by
  constructor
  · rintro ⟨n, hn, hw⟩
    obtain rfl : n = 0 := Nat.le_zero.mp (hn 0 rfl)
    rwa [pow_zero, Language.mem_one] at hw
  · rintro rfl
    exact nil_mem_atMost l _

/-- Of the rounds that a text takes one goes through something, unless the text is empty; and fewer
rounds are left after it.

**Proof sketch.** Induction on the rounds. A first round that goes through nothing is left out. -/
theorem exists_round {l : Language Char} {n : Nat} :
    ∀ {w : List Char}, w ∈ l ^ n → w ≠ [] →
      ∃ v ∈ l, v ≠ [] ∧ ∃ m < n, ∃ u ∈ l ^ m, v ++ u = w := by
  induction n with
  | zero =>
    intro w hw hne
    rw [pow_zero, Language.mem_one] at hw
    exact absurd hw hne
  | succ n ih =>
    intro w hw hne
    rw [pow_succ', Language.mem_mul] at hw
    obtain ⟨v, hv, u, hu, rfl⟩ := hw
    by_cases hempty : v = []
    · subst hempty
      obtain ⟨v, hv, hvne, m, hm, u', hu', rfl⟩ := ih hu hne
      exact ⟨v, hv, hvne, m, Nat.lt_succ_of_lt hm, u', hu', rfl⟩
    · exact ⟨v, hv, hempty, n, Nat.lt_succ_self n, u, hu, rfl⟩

/-- Where rounds are left, a text takes none, or one that goes through something and then one round
fewer. -/
theorem mem_atMost_iff {l : Language Char} {limit? : Option Nat} (h : limit? ≠ some 0)
    {w : List Char} :
    w ∈ atMost l limit? ↔
      w = [] ∨ ∃ v ∈ l, v ≠ [] ∧ ∃ u ∈ atMost l (limit?.map (· - 1)), v ++ u = w := by
  constructor
  · rintro ⟨n, hn, hw⟩
    by_cases hne : w = []
    · exact .inl hne
    · obtain ⟨v, hv, hvne, m, hm, u, hu, hvu⟩ := exists_round hw hne
      refine .inr ⟨v, hv, hvne, u, ⟨m, ?_, hu⟩, hvu⟩
      intro limit hlimit
      obtain ⟨limit', hlimit', rfl⟩ := Option.mem_map.mp hlimit
      have := hn limit' hlimit'
      omega
  · rintro (rfl | ⟨v, hv, -, u, ⟨n, hn, hu⟩, rfl⟩)
    · exact nil_mem_atMost l limit?
    · refine ⟨n + 1, ?_, ?_⟩
      · intro limit hlimit
        have hpos : limit ≠ 0 := fun he => h (he ▸ hlimit)
        have := hn (limit - 1) (Option.mem_map_of_mem _ hlimit)
        omega
      · rw [pow_succ']
        exact Language.append_mem_mul hv hu

/-- The rounds that must be made and then further ones are the admitted numbers of rounds. -/
theorem pow_mul_atMost (q : Quantifier) (l : Language Char) :
    l ^ q.least * atMost l (q.most?.map (· - q.least)) = q.rounds l := by
  have hordered : ∀ most ∈ q.most?, q.least ≤ most := by
    cases q <;> simp [Quantifier.most?, Quantifier.least]
    assumption
  ext w
  rw [Language.mem_mul, Quantifier.mem_rounds]
  constructor
  · rintro ⟨v, hv, u, ⟨n, hn, hu⟩, rfl⟩
    refine ⟨q.least + n, ⟨Nat.le_add_right _ _, ?_⟩, ?_⟩
    · intro most hmost
      have := hn (most - q.least) (Option.mem_map_of_mem _ hmost)
      have := hordered most hmost
      omega
    · rw [pow_add]
      exact Language.append_mem_mul hv hu
  · rintro ⟨n, ⟨hleast, hmost⟩, hw⟩
    rw [← Nat.add_sub_cancel' hleast, pow_add, Language.mem_mul] at hw
    obtain ⟨v, hv, u, hu, hvu⟩ := hw
    refine ⟨v, hv, u, ⟨n - q.least, ?_, hu⟩, hvu⟩
    intro limit hlimit
    obtain ⟨most, hm, rfl⟩ := Option.mem_map.mp hlimit
    have := hmost most hm
    omega

/-! ## Matchers -/

namespace Matcher

/-- A matcher decides a language: it succeeds exactly if a text of the language comes next after
which the rest succeeds. -/
def Decides (m : Matcher) (l : Language Char) : Prop :=
  ∀ s k, (m s k).isSome ↔ ∃ w ∈ l, ∃ t, s.Reaches w t ∧ (k t).isSome

variable {m m' : Matcher} {l l' : Language Char}

/-- Nothing but the empty text is gone through. -/
theorem decides_one : Decides (fun s k => k s) 1 := by
  intro s k
  constructor
  · exact fun h => ⟨[], Language.nil_mem_one, s, Cursor.reaches_nil_iff.mpr rfl, h⟩
  · rintro ⟨w, hw, t, ht, hk⟩
    obtain rfl := (Language.mem_one w).mp hw
    obtain rfl := Cursor.reaches_nil_iff.mp ht
    exact hk

/-- One matcher after another. -/
theorem Decides.mul (hm : m.Decides l) (hm' : m'.Decides l') :
    Decides (fun s k => m s fun t => m' t k) (l * l') := by
  intro s k
  rw [hm s]
  simp only [hm' _ k]
  constructor
  · rintro ⟨v, hv, t, ht, w, hw, u, hu, hk⟩
    exact ⟨v ++ w, Language.append_mem_mul hv hw, u, Cursor.reaches_append_iff.mpr ⟨t, ht, hu⟩, hk⟩
  · rintro ⟨x, hx, u, hu, hk⟩
    obtain ⟨v, hv, w, hw, rfl⟩ := Language.mem_mul.mp hx
    obtain ⟨t, ht, hu⟩ := Cursor.reaches_append_iff.mp hu
    exact ⟨v, hv, t, ht, w, hw, u, hu, hk⟩

/-- A success, or else another one. -/
theorem isSome_orElse (a b : Option Cursor) :
    (match a with | some u => some u | none => b).isSome ↔ a.isSome ∨ b.isSome := by
  cases a <;> simp

/-- One matcher, or another where the first one does not lead to a success. -/
theorem Decides.add (hm : m.Decides l) (hm' : m'.Decides l') :
    Decides (fun s k => match m s k with | some u => some u | none => m' s k) (l + l') := by
  intro s k
  rw [isSome_orElse, hm, hm']
  simp only [Language.mem_add, or_and_right, exists_or]

/-! ## Repeats -/

/-- A fixed number of rounds. -/
theorem Decides.exactly (hm : m.Decides l) (n : Nat) : Decides (Pattern.exactly m n) (l ^ n) := by
  induction n with
  | zero =>
    rw [pow_zero]
    exact decides_one
  | succ n ih =>
    rw [pow_succ']
    exact hm.mul ih

/-- Whether further rounds lead to a success, given what each round goes on with: with one round
fewer after a round that went through something, and else with the rest. -/
theorem Decides.further (hm : m.Decides l) {limit? : Option Nat} (hlimit : limit? ≠ some 0)
    {s : Cursor} {k f : Cursor → Option Cursor}
    (hless : ∀ t, t.left < s.left → ((f t).isSome ↔
      ∃ w ∈ atMost l (limit?.map (· - 1)), ∃ u, t.Reaches w u ∧ (k u).isSome))
    (hrest : ∀ t, ¬ t.left < s.left → f t = k t) :
    ((m s f).isSome ∨ (k s).isSome) ↔
      ∃ w ∈ atMost l limit?, ∃ u, s.Reaches w u ∧ (k u).isSome := by
  rw [hm s]
  constructor
  · rintro (⟨v, hv, t, ht, hf⟩ | hk)
    · have hleft := ht.left_eq
      by_cases hvne : v = []
      · subst hvne
        obtain rfl := Cursor.reaches_nil_iff.mp ht
        rw [hrest s (Nat.lt_irrefl _)] at hf
        exact ⟨[], nil_mem_atMost l limit?, s, ht, hf⟩
      · have hlt : t.left < s.left := by
          have := List.length_pos_iff.mpr hvne
          omega
        obtain ⟨w, hw, u, hu, hk⟩ := (hless t hlt).mp hf
        exact ⟨v ++ w, (mem_atMost_iff hlimit).mpr (.inr ⟨v, hv, hvne, w, hw, rfl⟩), u,
          Cursor.reaches_append_iff.mpr ⟨t, ht, hu⟩, hk⟩
    · exact ⟨[], nil_mem_atMost l limit?, s, Cursor.reaches_nil_iff.mpr rfl, hk⟩
  · rintro ⟨x, hx, u, hu, hk⟩
    rcases (mem_atMost_iff hlimit).mp hx with rfl | ⟨v, hv, hvne, w, hw, rfl⟩
    · obtain rfl := Cursor.reaches_nil_iff.mp hu
      exact .inr hk
    · obtain ⟨t, ht, hu⟩ := Cursor.reaches_append_iff.mp hu
      have hlt : t.left < s.left := by
        have := ht.left_eq
        have := List.length_pos_iff.mpr hvne
        omega
      exact .inl ⟨v, hv, t, ht, (hless t hlt).mpr ⟨w, hw, u, hu, hk⟩⟩

/-- Where no round is left, only the rest counts. -/
theorem isSome_iff_atMost_zero (l : Language Char) (s : Cursor) (k : Cursor → Option Cursor) :
    (k s).isSome ↔ ∃ w ∈ atMost l (some 0), ∃ u, s.Reaches w u ∧ (k u).isSome := by
  have hzero : atMost l (some 0) = 1 := by
    ext w
    rw [mem_atMost_zero, Language.mem_one]
  rw [hzero]
  exact decides_one s k

/-- As many further rounds as possible first.

**Proof sketch.** Induction on the characters that are left. A round that goes through nothing ends
the rounds, which loses no text, since such rounds can be left out (`mem_atMost_iff`). -/
theorem Decides.isSome_greedily (hm : m.Decides l) (limit? : Option Nat) (s : Cursor)
    (k : Cursor → Option Cursor) :
    (greedily m limit? s k).isSome ↔
      ∃ w ∈ atMost l limit?, ∃ u, s.Reaches w u ∧ (k u).isSome := by
  rw [greedily]
  by_cases hlimit : limit? = some 0
  · rw [if_pos hlimit, hlimit]
    exact isSome_iff_atMost_zero l s k
  · rw [if_neg hlimit]
    refine (isSome_orElse _ _).trans (hm.further hlimit (fun t ht => ?_) fun t ht => if_neg ht)
    rw [if_pos ht]
    exact hm.isSome_greedily (limit?.map (· - 1)) t k
termination_by s.left

/-- As few further rounds as possible first.

**Proof sketch.** As for as many as possible: only the order of the attempts differs. -/
theorem Decides.isSome_lazily (hm : m.Decides l) (limit? : Option Nat) (s : Cursor)
    (k : Cursor → Option Cursor) :
    (lazily m limit? s k).isSome ↔
      ∃ w ∈ atMost l limit?, ∃ u, s.Reaches w u ∧ (k u).isSome := by
  rw [lazily]
  refine (isSome_orElse _ _).trans ?_
  by_cases hlimit : limit? = some 0
  · rw [if_pos hlimit, hlimit]
    simpa using isSome_iff_atMost_zero l s k
  · rw [if_neg hlimit, or_comm]
    refine hm.further hlimit (fun t ht => ?_) fun t ht => if_neg ht
    rw [if_pos ht]
    exact hm.isSome_lazily (limit?.map (· - 1)) t k
termination_by s.left

end Matcher

/-! ## Syntax trees -/

/-- A syntax tree decides a language. -/
def Node.Decides (n : Node) (l : Language Char) : Prop :=
  n.run.Decides l

namespace Node.Decides

variable {n n' : Node} {l l' : Language Char}

/-- The empty tree. -/
theorem empty : Node.empty.Decides 1 :=
  Matcher.decides_one

/-- A test of one character. -/
theorem char (test : CharTest) :
    (Node.char test).Decides (Regex.oneChar fun c => test.holds c = true) := by
  intro s k
  rw [Node.run]
  simp only [Option.isSome_iff_exists, Option.bind_eq_some_iff, Cursor.next?_eq_some_iff]
  constructor
  · rintro ⟨u, t, ⟨c, hc, ht⟩, hk⟩
    exact ⟨[c], ⟨c, rfl, hc⟩, t, ht, u, hk⟩
  · rintro ⟨_, ⟨c, rfl, hc⟩, t, ht, u, hk⟩
    exact ⟨u, t, ⟨c, hc, ht⟩, hk⟩

/-- One tree after another. -/
theorem seq (hn : n.Decides l) (hn' : n'.Decides l') : (Node.seq n n').Decides (l * l') := by
  have hfirst : n.run.Decides l := hn
  exact hfirst.mul hn'

/-- One tree or another. -/
theorem alt (hn : n.Decides l) (hn' : n'.Decides l') : (Node.alt n n').Decides (l + l') := by
  have hfirst : n.run.Decides l := hn
  exact hfirst.add hn'

/-- A tree in parentheses that are not remembered. -/
theorem group (hn : n.Decides l) : (Node.group none n).Decides l :=
  hn

/-- A repeated tree, whatever its greed, as long as it may give rounds back. -/
theorem repeated (hn : n.Decides l) (q : Quantifier) {greed : Greed} (h : greed ≠ .possessive) :
    (Node.repeated greed q.least q.most? n).Decides (q.rounds l) := by
  rw [← pow_mul_atMost]
  have hbody : n.run.Decides l := hn
  cases greed with
  | greedy => exact (hbody.exactly q.least).mul (hbody.isSome_greedily (q.most?.map (· - q.least)))
  | lazy => exact (hbody.exactly q.least).mul (hbody.isSome_lazily (q.most?.map (· - q.least)))
  | possessive => exact absurd rfl h

/-- Of what a tree goes through, the whole of the rest of a text is a text of its language. -/
theorem isSome_toEnd (hn : n.Decides l) (s : Cursor) :
    (n.run s fun t => if t.rest.isEmpty then some t else none).isSome ↔ s.rest ∈ l := by
  rw [hn s]
  simp only [Cursor.isSome_ite_rest]
  constructor
  · rintro ⟨w, hw, t, ht, hend⟩
    rw [ht.rest, hend, List.append_nil]
    exact hw
  · intro h
    obtain ⟨t, ht, hend⟩ := Cursor.exists_reaches (List.append_nil s.rest).symm
    exact ⟨s.rest, h, t, ht, hend⟩

/-- **Matching the whole of a text.** A tree that decides a language matches the whole of just its
texts. -/
theorem matchesWhole_iff (hn : n.Decides l) (text : String) :
    n.matchesWhole text = true ↔ text.toList ∈ l :=
  hn.isSome_toEnd (.ofText text.toList)

end Node.Decides

end Winnow.Pattern

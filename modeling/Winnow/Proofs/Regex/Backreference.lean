import Winnow.Proofs.Regex.Decision

set_option autoImplicit false

/-!
# Back-references

A pattern with an expression in a group, and a back-reference to the group after it, matches the
texts that are some text of the expression twice. The language of such a pattern need not be
regular.

## Main results

* `Winnow.Pattern.Cursor.captured?_closeGroup` — a group that ends has captured what was gone
  through since it began.
* `Winnow.Pattern.isSome_backref_toEnd` — a back-reference leads to the end of the text exactly if
  what the group has captured is the rest.
* `Winnow.Pattern.matchesWhole_twice` — a group and a back-reference match the texts that are some
  text of a language twice.
* `Winnow.Criterion.backreference_decides_squares` — so does a criterion with such a pattern.

## Design

A tree that decides a language calls what comes after it at every place that it reaches, until that
succeeds (`Winnow.Pattern.Matcher.Decides`). So the back-reference is tried after every extent of
the group, each time with the capture of that extent, and here the capture does matter.
-/

namespace Winnow

namespace Pattern

/-! ## Captures -/

namespace Cursor

variable {s t : Cursor} {v w : List Char}

/-- A text is followed, character by character, if it comes next. -/
theorem follow?_exact_eq_some_iff : s.follow? .exact w = some t ↔ s.Reaches w t := by
  induction w generalizing s with
  | nil => simp [follow?, reaches_nil_iff]
  | cons c w ih =>
    let isNext := fun d : Char => CaseRule.exact.fold c.toNat == CaseRule.exact.fold d.toNat
    have hchar : ∀ u, s.next? isNext = some u ↔ s.Reaches [c] u := by
      intro u
      rw [next?_eq_some_iff]
      simp [isNext, CaseRule.fold, Char.toNat_inj]
    rw [← List.singleton_append, reaches_append_iff, List.singleton_append, follow?]
    simp only [← hchar]
    cases hnext : s.next? isNext with
    | none => simp
    | some u => simp [ih]

/-- The beginning of a group does not move on. -/
@[simp] theorem rest_openGroup (s : Cursor) (index : Nat) : (s.openGroup index).rest = s.rest :=
  rfl

/-- The end of a group does not move on. -/
@[simp] theorem rest_closeGroup (s : Cursor) (index : Nat) :
    (s.closeGroup index).rest = s.rest := by
  rw [closeGroup]
  split <;> rfl

/-- A group that has begun keeps where it began. -/
theorem exists_lookup_openGroup (s : Cursor) (index : Nat) :
    ∃ stop?, (s.openGroup index).captures.lookup index = some ⟨s.rest, stop?⟩ :=
  ⟨_, by rw [openGroup, setCapture, List.lookup_cons_self]⟩

/-- A group that ends has captured what was gone through since it began. -/
theorem captured?_closeGroup {index : Nat} (h : (s.openGroup index).Reaches w t) :
    (t.closeGroup index).captured? index = some w := by
  obtain ⟨stop?, hopen⟩ := s.exists_lookup_openGroup index
  rw [← h.captures] at hopen
  have hclose : (t.closeGroup index).captures.lookup index = some ⟨s.rest, some t.rest⟩ := by
    rw [closeGroup, hopen]
    simp [setCapture]
  have hrest : s.rest = w ++ t.rest := h.rest
  rw [captured?, hclose]
  simp [hrest]

end Cursor

/-! ## Matching -/

/-- A back-reference leads to the end of the text exactly if what the group has captured is the
rest. -/
theorem isSome_backref_toEnd (s : Cursor) (index : Nat) :
    ((Node.seq (.backref index .exact) .empty).run s fun t =>
      if t.rest.isEmpty then some t else none).isSome ↔ s.captured? index = some s.rest := by
  simp only [Node.run]
  cases hcaptured : s.captured? index with
  | none => simp
  | some w =>
    simp only [Option.isSome_bind, Option.any_eq_true, Cursor.follow?_exact_eq_some_iff,
      Cursor.isSome_ite_rest, Option.some.injEq]
    constructor
    · rintro ⟨t, ht, hend⟩
      rw [ht.rest, hend, List.append_nil]
    · rintro rfl
      exact Cursor.exists_reaches (List.append_nil s.rest).symm

/-- **A group and a back-reference to it.** If the tree in the group decides a language, then both
match the texts that are some text of the language twice.

**Proof sketch.** What comes after the group succeeds at a place exactly if the capture, which is
the text gone through, is also what is left. A tree that decides a language tries each such place.
-/
theorem matchesWhole_twice {n : Node} {l : Language Char} (hn : n.Decides l) (index : Nat)
    (text : String) :
    (Node.seq (.group (some index) n) (.seq (.backref index .exact) .empty)).matchesWhole text =
        true ↔
      ∃ w ∈ l, text.toList = w ++ w := by
  let start := Cursor.ofText text.toList
  have hreference : ∀ (w : List Char) (t : Cursor), (start.openGroup index).Reaches w t →
      (((Node.seq (.backref index .exact) .empty).run (t.closeGroup index) fun u =>
        if u.rest.isEmpty then some u else none).isSome ↔ text.toList = w ++ w) := by
    intro w t ht
    have htext : text.toList = w ++ t.rest := ht.rest
    rw [isSome_backref_toEnd, Cursor.captured?_closeGroup ht, Cursor.rest_closeGroup, htext,
      List.append_cancel_left_eq, Option.some.injEq]
    exact eq_comm
  show ((n.run (start.openGroup index) fun t =>
    (Node.seq (.backref index .exact) .empty).run (t.closeGroup index) fun u =>
      if u.rest.isEmpty then some u else none).isSome = true) ↔ _
  rw [hn]
  constructor
  · rintro ⟨w, hw, t, ht, hk⟩
    exact ⟨w, hw, (hreference w t ht).mp hk⟩
  · rintro ⟨w, hw, htext⟩
    obtain ⟨t, ht, -⟩ := Cursor.exists_reaches (s := start.openGroup index) (w := w) (v := w) htext
    exact ⟨w, hw, t, ht, (hreference w t ht).mpr htext⟩

/-! ## Reading -/

namespace Reader

variable [Host] {r : Reader} {ts : List Token}

/-- The step of an opening parenthesis that begins a group with a number. -/
theorem yields_step_capture (hmodes : r.level.modes = .default) (hts : IsCalm ts) :
    ∃ left, (r.step (.plain '(')).Yields ts
      { r.enter (.capture r.nextGroup) left .default with widths := r.widths ++ [none] } ts := by
  refine ⟨charCount ts + 1, ?_⟩
  refine yields_step_plain (by decide) (by decide) hmodes hts.1 ?_
  refine (Scan.yields_left _).bind ((Scan.yields_accept_of_ne hts.2.1).bind ?_)
  rw [if_neg (by decide), ← hmodes]
  exact Scan.yields_pure _ ts

end Reader

section

variable [Host]

/-- The tree of an expression in a group, and a back-reference to the group. -/
theorem Regex.read_twice {e : Regex} (he : e.Fits .whole) :
    Pattern.read ("(" ++ e.text ++ ")\\1") =
      .ok (.seq (.group (some 1) (e.feed (.start .default)).node)
        (.seq (.backref 1 .exact) .empty)) := by
  have htext : "(" ++ e.text ++ ")\\1" =
      textOf (.plain '(' :: (e.tokens ++ [.plain ')', .escaped '1'])) := by
    rw [← String.toList_inj]
    simp [textOf, text, Token.chars]
  have hclose : IsCalm [.plain ')', .escaped '1'] := isCalm_cons (by simp) (by simp) (by simp) _
  have hbody := e.isCalm_tokens he (.inr hclose)
  obtain ⟨left, hopen⟩ := Reader.yields_step_capture (r := .start) rfl hbody
  let body := e.feed (.start .default)
  let inside : Reader := { Reader.start.enter (.capture 1) left .default with widths := [none] }
  have hinside := run_tokens he (r := inside) rfl (by rintro _ _ _ _ _ ⟨⟩) hclose
  have houter : (inside.withLevel body).outer = [(.capture 1, left, .start .default)] := rfl
  have hsettled : IsSettled [.escaped '1'] := isSettled_cons (by simp) _
  have hleave := Reader.yields_step_close houter hsettled
  let after := (inside.withLevel body).leave (.capture 1) (.start .default) []
  have hreference : (after.step (.escaped '1')).Yields [] (after.push (.backref 1 .exact)) [] :=
    ⟨Nat.le_refl _, rfl⟩
  rw [htext]
  refine read_textOf ?_ ?_
  · rw [List.forall_mem_cons, List.forall_mem_append]
    exact ⟨by simp, e.isProper_tokens, by simp [Token.IsProper]⟩
  · refine (Reader.run_cons hopen).trans (hinside.trans ?_)
    refine (Reader.run_cons hleave).trans ((Reader.run_cons hreference).trans ?_)
    rw [Reader.run]
    refine Reader.finish_eq rfl rfl rfl (((Level.isFaultless_start .default).push ?_).push rfl).node
    exact (e.fault?_feed (Level.isFaultless_start .default)).node

end

end Pattern

/-! ## Criteria -/

namespace Criterion

open Pattern

section

variable [Host]

/-- **Back-references are exact.** A pattern criterion with a regular expression in a group, and a
back-reference to the group, has no fault for any value, and holds for just the values that are some
text of the expression twice.

**Proof sketch.** The reader makes of the pattern a group with the tree of the expression, and a
back-reference (`Regex.read_twice`). The tree decides the language of the expression, so both match
the texts of the language twice (`matchesWhole_twice`). -/
theorem backreference_decides_squares {e : Regex} (he : e.Fits .whole) (key : String)
    (number? : Option Binary64) (allowMissing : Bool) (value : String) :
    ∃ holds, evaluate ⟨key, .matchesPattern, some ("(" ++ e.text ++ ")\\1"), number?⟩ allowMissing
        (some value) = .ok holds ∧
      (holds = true ↔ ∃ w ∈ e.language, value.toList = w ++ w) := by
  refine ⟨_, evaluate_of_read (Regex.read_twice he) key number? allowMissing value, ?_⟩
  exact matchesWhole_twice (Regex.appends_feed he).decides_node 1 value

end

attribute [local instance] Host.bare

/-- A lazy repeat in the group: the value is a text twice, but its first extents are too short. -/
theorem backreference_decides_squares_lazy :
    let e : Regex := .repeated true .plus .any
    e.Fits .whole ∧ e.text = ".+?" ∧
      evaluate ⟨"code", .matchesPattern, some "(.+?)\\1", none⟩ true (some "abaaba") = .ok true ∧
      ∃ w ∈ e.language, "abaaba".toList = w ++ w := by
  intro e
  have he : e.Fits .whole := ⟨Regex.Place.noConfusion, trivial⟩
  have htext : e.text = ".+?" := by decide +kernel
  obtain ⟨holds, heval, hiff⟩ := backreference_decides_squares he "code" none true "abaaba"
  rw [htext] at heval
  have hholds : evaluate ⟨"code", .matchesPattern, some ("(" ++ ".+?" ++ ")\\1"), none⟩ true
      (some "abaaba") = .ok true := by
    decide +kernel
  obtain rfl := Except.ok.inj (heval.symm.trans hholds)
  exact ⟨he, htext, hholds, hiff.mp rfl⟩

end Criterion

end Winnow

import Winnow.Expr.Basic
import Winnow.Proofs.Meaning
import Winnow.Proofs.Text.Quoting

set_option autoImplicit false

/-!
# What the rendering of an expression tells

The rendering of an expression tells how it is built, the values of its literals, the renderings of
its comparisons, and name, policy and renderings of its filters: all that, whatever characters the
texts hold, and nothing else. A name before a bracket tells the kind of expression; what stands in
the bracket is delimited, since texts are quoted and operands are delimited themselves.

## Main definitions

* `Winnow.Outline` — what can be told of an expression.
* `Winnow.Expr.outline` — the outline of an expression over a store.
* `Winnow.Outline.chars` — how an outline is written.

## Main results

* `Winnow.Expr.toList_render` — an expression is rendered as its outline is written.
* `Winnow.Outline.delimited_chars` — the written form of an outline shows where it ends.
* `Winnow.Expr.rendering_is_unambiguous` — expressions are rendered the same exactly if they have
  the same outline.
-/

namespace Winnow

open Text (Delimited joined quote quoteList)

/-- What can be told of an expression from how it is shown. -/
inductive Outline where
  | literal (value : Bool)
  /-- A comparison, by the rendering of its criterion. -/
  | comparison (rendering : String)
  /-- A filter, by its name, its policy on missing fields and the renderings of its criteria. -/
  | filter (name : String) (allowMissing : Bool) (renderings : List String)
  | not (operand : Outline)
  | and (operands : List Outline)
  | or (operands : List Outline)

namespace Expr

mutual

/-- The outline of an expression over the filters of a store. -/
def outline (s : Store) : Expr → Outline
  | literal value => .literal value
  | comparison c _ => .comparison c.render
  | filter id => .filter (s.filter id).name (s.filter id).allowMissing (s.filter id).renderings
  | not operand => .not (outline s operand)
  | and operands => .and (outlines s operands)
  | or operands => .or (outlines s operands)

/-- The outlines of several expressions. -/
def outlines (s : Store) : List Expr → List Outline
  | [] => []
  | e :: es => outline s e :: outlines s es

end

end Expr

namespace Outline

/-! ## Written forms -/

/-- The name of the kind of an outline, which stands before the bracket. -/
def label : Outline → String
  | literal _ => "Literal"
  | comparison _ => "Comparison"
  | filter _ _ _ => "CriteriaFilter"
  | not _ => "Not"
  | and _ => "And"
  | or _ => "Or"

/-- What stands in the bracket of a filter. -/
def filterBody (name : String) (allowMissing : Bool) (renderings : List String) : List Char :=
  "name=".toList ++ ((quote name).toList ++ (", allow_missing_fields=".toList ++
    ((renderFlag allowMissing).toList ++ (", criteria=".toList ++ (quoteList renderings).toList))))

mutual

/-- What stands in the bracket of an outline. -/
def body : Outline → List Char
  | literal value => (renderFlag value).toList
  | comparison rendering => (quote rendering).toList
  | filter name allowMissing renderings => filterBody name allowMissing renderings
  | not operand => operand.label.toList ++ '(' :: (body operand ++ [')'])
  | and operands => [',', ' '].intercalate (charsList operands)
  | or operands => [',', ' '].intercalate (charsList operands)

/-- How several outlines are written. -/
def charsList : List Outline → List (List Char)
  | [] => []
  | o :: os => (o.label.toList ++ '(' :: (body o ++ [')'])) :: charsList os

end

/-- How an outline is written. -/
def chars (o : Outline) : List Char :=
  o.label.toList ++ '(' :: (body o ++ [')'])

/-- Several outlines are written one by one. -/
theorem charsList_eq_map (os : List Outline) : charsList os = os.map chars := by
  induction os with
  | nil => rfl
  | cons o os ih => rw [charsList, ih, List.map_cons, chars]

/-- There is no bracket in the name of a kind. -/
theorem bracket_not_mem_label (o : Outline) : '(' ∉ o.label.toList := by
  cases o <;> simp [label]

/-- No outline is written with a closing bracket at the start. -/
theorem chars_append_ne (o : Outline) (us vs : List Char) : chars o ++ us ≠ ')' :: vs := by
  cases o <;> simp [chars, label]

/-! ## Taking written forms apart -/

/-- Truth values are delimited. -/
theorem delimited_renderFlag (value : Bool) : Delimited (fun b => (renderFlag b).toList) value := by
  intro value' us vs h
  cases value <;> cases value' <;> simp_all [renderFlag]

/-- What stands in the bracket of a filter can be taken apart: between its fixed parts, the name,
the policy and the renderings are delimited. -/
theorem filterBody_append_inj {name name' : String} {allowMissing allowMissing' : Bool}
    {renderings renderings' : List String} {us vs : List Char}
    (h : filterBody name allowMissing renderings ++ us =
      filterBody name' allowMissing' renderings' ++ vs) :
    name = name' ∧ allowMissing = allowMissing' ∧ renderings = renderings' ∧ us = vs := by
  unfold filterBody at h
  simp only [List.append_assoc] at h
  have hname := List.append_cancel_left h
  obtain ⟨rfl, hafterName⟩ := Text.delimited_quote name name' _ _ hname
  have hpolicy := List.append_cancel_left hafterName
  obtain ⟨rfl, hafterPolicy⟩ := delimited_renderFlag allowMissing allowMissing' _ _ hpolicy
  have hcriteria := List.append_cancel_left hafterPolicy
  obtain ⟨rfl, hrest⟩ := Text.delimited_quoteList renderings renderings' _ _ hcriteria
  exact ⟨rfl, rfl, rfl, hrest⟩

/-- An outline is delimited if outlines of its kind can be told by what stands in the bracket. -/
theorem delimited_of_body {o : Outline}
    (h : ∀ o' us vs, o.label = o'.label → body o ++ ')' :: us = body o' ++ ')' :: vs →
      o = o' ∧ us = vs) : Delimited chars o := by
  intro o' us vs heq
  unfold chars at heq
  simp only [List.append_assoc, List.cons_append, List.nil_append] at heq
  obtain ⟨hlabel, hbody⟩ :=
    eq_and_eq_of_append_cons o.bracket_not_mem_label o'.bracket_not_mem_label heq
  exact h o' us vs (String.toList_inj.mp hlabel) hbody

/-- The operands in a bracket can be told, if each of them is delimited. -/
theorem operands_eq {os os' : List Outline} (hos : ∀ o ∈ os, Delimited chars o)
    {us vs : List Char}
    (h : [',', ' '].intercalate (charsList os) ++ ')' :: us =
      [',', ' '].intercalate (charsList os') ++ ')' :: vs) : os = os' ∧ us = vs := by
  rw [charsList_eq_map, charsList_eq_map] at h
  exact Text.joined_append_inj (by decide) chars_append_ne hos h

mutual

/-- **The written form of an outline shows where it ends.**

**Proof sketch.** The name before the first bracket tells the kind. What follows is made of
delimited parts: quoted texts, truth values, and operands, for which it is the induction. -/
theorem delimited_chars : ∀ o : Outline, Delimited chars o
  | literal value => delimited_of_body fun o' us vs hlabel hbody => by
    cases o' with
    | literal value' =>
      obtain ⟨rfl, hrest⟩ := delimited_renderFlag value value' _ _ hbody
      exact ⟨rfl, (List.cons.inj hrest).2⟩
    | _ => simp [label] at hlabel
  | comparison rendering => delimited_of_body fun o' us vs hlabel hbody => by
    cases o' with
    | comparison rendering' =>
      obtain ⟨rfl, hrest⟩ := Text.delimited_quote rendering rendering' _ _ hbody
      exact ⟨rfl, (List.cons.inj hrest).2⟩
    | _ => simp [label] at hlabel
  | filter name allowMissing renderings => delimited_of_body fun o' us vs hlabel hbody => by
    cases o' with
    | filter name' allowMissing' renderings' =>
      obtain ⟨rfl, rfl, rfl, hrest⟩ := filterBody_append_inj hbody
      exact ⟨rfl, (List.cons.inj hrest).2⟩
    | _ => simp [label] at hlabel
  | not operand => delimited_of_body fun o' us vs hlabel hbody => by
    cases o' with
    | not operand' =>
      obtain ⟨rfl, hrest⟩ := delimited_chars operand operand' _ _ hbody
      exact ⟨rfl, (List.cons.inj hrest).2⟩
    | _ => simp [label] at hlabel
  | and operands => delimited_of_body fun o' us vs hlabel hbody => by
    cases o' with
    | and operands' =>
      obtain ⟨rfl, rfl⟩ := operands_eq (delimited_charsList operands) hbody
      exact ⟨rfl, rfl⟩
    | _ => simp [label] at hlabel
  | or operands => delimited_of_body fun o' us vs hlabel hbody => by
    cases o' with
    | or operands' =>
      obtain ⟨rfl, rfl⟩ := operands_eq (delimited_charsList operands) hbody
      exact ⟨rfl, rfl⟩
    | _ => simp [label] at hlabel

/-- So do those of several outlines. -/
theorem delimited_charsList : ∀ os : List Outline, ∀ o ∈ os, Delimited chars o
  | [] => List.forall_mem_nil _
  | o :: os => List.forall_mem_cons.mpr ⟨delimited_chars o, delimited_charsList os⟩

end

end Outline

/-! ## Expressions -/

/-- A filter is rendered as its outline is written. -/
theorem Filter.toList_render (f : Filter) :
    f.render.toList = (Outline.filter f.name f.allowMissing f.renderings).chars := by
  rw [Outline.chars, Outline.body]
  unfold Filter.render Outline.filterBody
  simp [Outline.label]

namespace Expr

open Outline

mutual

/-- An expression is rendered as its outline is written. -/
theorem toList_render (s : Store) : ∀ e : Expr, (e.render s).toList = (e.outline s).chars
  | literal value => by simp [render, outline, chars, label, body]
  | comparison c allowMissing => by simp [render, outline, chars, label, body]
  | filter id => (s.filter id).toList_render
  | not operand => by
    have ih := toList_render s operand
    rw [chars] at ih
    simp [render, outline, chars, label, body, ih]
  | and operands => by
    simp [render, outline, chars, label, body, String.toList_intercalate,
      map_toList_renderList s operands]
  | or operands => by
    simp [render, outline, chars, label, body, String.toList_intercalate,
      map_toList_renderList s operands]

/-- Expressions are rendered one by one as their outlines are written. -/
theorem map_toList_renderList (s : Store) :
    ∀ es : List Expr, (renderList s es).map String.toList = charsList (outlines s es)
  | [] => rfl
  | e :: es => by
    rw [renderList, outlines, charsList, List.map_cons, toList_render s e,
      map_toList_renderList s es, chars]

end

/-- **Renderings of expressions are unambiguous.** Two expressions, over any stores, are rendered
the same exactly if they have the same outline: they are built in the same way, and corresponding
leaves are literals of one value, comparisons with one rendering, or filters with the same name,
policy and list of renderings. This holds whatever characters the texts hold, since each quoted text
is read back as the text that it was, whatever comes after it.

**Proof sketch.** An expression is rendered as its outline is written (`toList_render`), and the
written form of an outline belongs to no other one, even with something after it
(`Outline.delimited_chars`). -/
theorem rendering_is_unambiguous :
    (∀ (s s' : Store) (e e' : Expr), e.render s = e'.render s' ↔ e.outline s = e'.outline s') ∧
    ∀ (text : String) (rest : List Char),
      Text.readQuoted ((quote text).toList ++ rest) = some (text.toList, rest) := by
  refine ⟨fun s s' e e' => ?_, fun text rest => ?_⟩
  · rw [← String.toList_inj, toList_render, toList_render]
    constructor
    · intro h
      have hends : (e.outline s).chars ++ [] = (e'.outline s').chars ++ [] := by rw [h]
      exact (delimited_chars (e.outline s) (e'.outline s') [] [] hends).1
    · intro h
      rw [h]
  · rw [quote, String.toList_ofList]
    exact Text.readQuoted_quoteChars text.toList rest

end Expr

end Winnow

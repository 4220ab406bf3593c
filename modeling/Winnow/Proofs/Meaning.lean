import Winnow.Proofs.RoundTrip
import Winnow.Proofs.Verdict

set_option autoImplicit false

/-!
# The meaning of renderings

A rendering tells what a criterion asks for. The first blank ends the key if the key has none of its
own, no phrase begins another one, and a number has a rendering of its own. So two filters of the
same policies that list the same renderings come to the same on every resource, however the texts to
compare with were written.

## Main definitions

* `Winnow.Criterion.IsLegible` — a criterion that can be told from its rendering.
* `Winnow.Criterion.MeansSame` — two criteria come to the same for every value.

## Main results

* `Winnow.Binary64.render_injective` — each number has a rendering of its own.
* `Winnow.Criterion.IsLegible.parts_eq` — legible criteria with one rendering have the same key,
  operator and number or text.
* `Winnow.Criterion.IsLegible.meansSame` — and so they come to the same.
* `Winnow.rendering_determines_meaning` — filters with the same renderings and policies give the
  same verdicts.

## Design

Numeric criteria with one rendering can still have different texts. A fault names its criterion, so
faults are compared by what is reported of them (`Winnow.ReportedError.ofFault`).
-/

namespace Winnow

/-! ## Outcomes -/

section Outcomes

variable {ε ε' α β : Type}

/-- Values and faults are replaced independently. -/
theorem mapError_map (o : Except ε α) (f : α → β) (g : ε → ε') :
    (o.map f).mapError g = (o.mapError g).map f := by
  cases o <;> rfl

/-- Replacing faults leaves values alone. -/
theorem mapError_eq_ok_iff {o : Except ε α} {g : ε → ε'} {a : α} :
    o.mapError g = .ok a ↔ o = .ok a := by
  cases o <;> simp [Except.mapError]

end Outcomes

/-! ## Texts -/

/-- Lists in which something comes once they have ended are the same up to there. -/
theorem eq_and_eq_of_append_cons {α : Type} [DecidableEq α] {a : α} {xs ys us vs : List α}
    (hxs : a ∉ xs) (hys : a ∉ ys) (h : xs ++ a :: us = ys ++ a :: vs) : xs = ys ∧ us = vs := by
  have htake : ∀ {zs : List α} (ws : List α), a ∉ zs →
      (zs ++ a :: ws).takeWhile (· ≠ a) = zs := by
    intro zs ws hzs
    rw [List.takeWhile_append_of_pos fun b hb => by simpa using fun hba : b = a => hzs (hba ▸ hb)]
    simp
  have hlists : xs = ys := by rw [← htake us hxs, h, htake vs hys]
  rw [hlists] at h
  exact ⟨hlists, (List.cons.inj (List.append_cancel_left h)).2⟩

/-- The phrases of two operators are told apart by how they begin. -/
theorem Operator.eq_and_eq_of_phrase_append {o o' : Operator} {us vs : List Char}
    (h : o.phrase.toList ++ us = o'.phrase.toList ++ vs) : o = o' ∧ us = vs := by
  have hlength : ∀ o : Operator, 4 ≤ o.phrase.toList.length := by
    intro o
    cases o <;> decide
  have hbegin : o.phrase.toList.take 4 = o'.phrase.toList.take 4 := by
    rw [← List.take_append_of_le_length (hlength o), h, List.take_append_of_le_length (hlength o')]
  have ho : o = o' := by
    revert hbegin
    cases o <;> cases o' <;> decide
  subst ho
  exact ⟨rfl, List.append_cancel_left h⟩

namespace Binary64

/-- The rendering of a finite number is read back, and no other one is read. -/
theorem toOption_comparable_render (x : Binary64) :
    (comparable x.render).toOption = match x with
      | finite negative m => some (finite negative m)
      | nan | infinite _ => none := by
  cases x with
  | nan => decide +kernel
  | infinite negative => cases negative <;> decide +kernel
  | finite negative m => rw [comparable_render]; rfl

/-- **Each number has a rendering of its own.** A finite one is read back from it, with its sign,
and the others have names. -/
theorem render_injective : Function.Injective render := by
  intro x y h
  have hread := congrArg (fun text => (comparable text).toOption) h
  simp only [toOption_comparable_render] at hread
  cases x with
  | finite negative m =>
    cases y with
    | finite negative' m' => exact Option.some.inj hread
    | _ => cases hread
  | nan =>
    cases y with
    | nan => rfl
    | infinite negative => revert h; cases negative <;> decide
    | finite negative m => cases hread
  | infinite negative =>
    cases y with
    | nan => revert h; cases negative <;> decide
    | infinite negative' => revert h; cases negative <;> cases negative' <;> decide
    | finite negative' m => cases hread

end Binary64

/-! ## Criteria -/

namespace Criterion

/-- A criterion that can be told from its rendering: it can be registered, it has a text, and there
is no blank in its key. -/
structure IsLegible (c : Criterion) : Prop where
  isRegistrable : c.IsRegistrable
  hasText : c.value?.isSome = true
  key_unbroken : ' ' ∉ c.key.toList

/-- A criterion that can be registered and is not numeric carries no number. -/
theorem IsRegistrable.number?_eq_none {c : Criterion} (h : c.IsRegistrable)
    (hc : c.operator.isNumeric = false) : c.number? = none := by
  rw [IsRegistrable, ofText?_of_not_isNumeric hc] at h
  exact (congrArg number? (Option.some.inj h)).symm

/-- The report of a fault in the evaluation of a criterion depends on the rendering alone. -/
theorem ofFault_evaluation_eq {c d : Criterion} (h : c.render = d.render) (problem : Problem) :
    ReportedError.ofFault (.evaluation c problem) = .ofFault (.evaluation d problem) := by
  have hmessage : (Fault.evaluation c problem).message = (Fault.evaluation d problem).message := by
    show "Cannot evaluate '" ++ c.render ++ _ ++ _ = "Cannot evaluate '" ++ d.render ++ _ ++ _
    rw [h]
  simp only [ReportedError.ofFault, hmessage, Fault.kind, Fault.cause?]

/-- The number of a value, or the report that it has none, depends on the rendering alone. -/
theorem mapError_valueNumber_eq {c d : Criterion} (h : c.render = d.render)
    (value? : Option String) :
    (c.valueNumber value?).mapError ReportedError.ofFault =
      (d.valueNumber value?).mapError ReportedError.ofFault := by
  cases value? with
  | none => exact congrArg Except.error (ofFault_evaluation_eq h .absent)
  | some text =>
    rw [valueNumber, valueNumber]
    cases comparable text with
    | ok x => rfl
    | error e => exact congrArg Except.error (ofFault_evaluation_eq h (.notNumeric e))

/-- **The parts of a rendering.** Legible criteria with one rendering have the same key and
operator, and the same number if they are numeric, and else the same text.

**Proof sketch.** The key ends at the first blank, the phrase tells the operator, and what remains
after it is the text, or the rendering of the number. -/
theorem IsLegible.parts_eq {c d : Criterion} (hc : c.IsLegible) (hd : d.IsLegible)
    (h : c.render = d.render) :
    c.key = d.key ∧ c.operator = d.operator ∧ c.number? = d.number? ∧
      (c.operator.isNumeric = false → c.value? = d.value?) := by
  have hchars : c.key.toList ++ ' ' :: (c.operator.phrase.toList ++
        ' ' :: (c.renderedValue?.getD "None").toList) =
      d.key.toList ++ ' ' :: (d.operator.phrase.toList ++
        ' ' :: (d.renderedValue?.getD "None").toList) := by
    have := congrArg String.toList h
    simpa [render] using this
  obtain ⟨hkey, hrest⟩ := eq_and_eq_of_append_cons hc.key_unbroken hd.key_unbroken hchars
  obtain ⟨hoperator, hvalue⟩ := Operator.eq_and_eq_of_phrase_append hrest
  have hvalue : c.renderedValue?.getD "None" = d.renderedValue?.getD "None" :=
    String.toList_inj.mp (List.cons.inj hvalue).2
  refine ⟨String.toList_inj.mp hkey, hoperator, ?_⟩
  cases hn : c.operator.isNumeric with
  | true =>
    obtain ⟨-, x, -, -, hx⟩ := hc.isRegistrable.exists_number hn
    obtain ⟨-, y, -, -, hy⟩ := hd.isRegistrable.exists_number (hoperator ▸ hn)
    rw [(render_of_number hn hx).1, (render_of_number (hoperator ▸ hn) hy).1] at hvalue
    have hxy : x = y := Binary64.render_injective hvalue
    exact ⟨by rw [hx, hy, hxy], fun hfalse => by cases hfalse⟩
  | false =>
    have hx := hc.isRegistrable.number?_eq_none hn
    have hy := hd.isRegistrable.number?_eq_none (hoperator ▸ hn)
    obtain ⟨text, htext⟩ := Option.isSome_iff_exists.mp hc.hasText
    obtain ⟨text', htext'⟩ := Option.isSome_iff_exists.mp hd.hasText
    simp only [renderedValue?, hx, hy, htext, htext', Option.getD_some] at hvalue
    exact ⟨by rw [hx, hy], fun _ => by rw [htext, htext', hvalue]⟩

variable [Host]

/-- Two criteria for the same key come to the same for every value, with the same report of a
fault. -/
structure MeansSame (c d : Criterion) : Prop where
  key_eq : c.key = d.key
  isNumeric_eq : c.operator.isNumeric = d.operator.isNumeric
  evaluate_eq : ∀ allowMissing value?,
    (c.evaluate allowMissing value?).mapError ReportedError.ofFault =
      (d.evaluate allowMissing value?).mapError ReportedError.ofFault

/-- A numeric criterion that carries a number compares it with that of the value. -/
theorem evaluate_of_number {c : Criterion} (hc : c.operator.isNumeric = true) {y : Binary64}
    (hy : c.number? = some y) (allowMissing : Bool) (value? : Option String) :
    c.evaluate allowMissing value? = (c.valueNumber value?).map fun x =>
      if c.operator = .greaterThan then y.lt x else x.lt y := by
  have hthreshold : c.threshold = .ok y := by rw [threshold, hy]
  cases ho : c.operator <;> simp [ho, Operator.isNumeric] at hc
  · simp only [evaluate, ho, hthreshold]
    cases c.valueNumber value? <;> rfl
  · simp only [evaluate, ho, hthreshold]
    cases c.valueNumber value? <;> rfl

/-- **Legible criteria with one rendering mean the same.** If they are not numeric they are the same
criterion, and else they compare with the same number. -/
theorem IsLegible.meansSame {c d : Criterion} (hc : c.IsLegible) (hd : d.IsLegible)
    (h : c.render = d.render) : c.MeansSame d := by
  obtain ⟨hkey, hoperator, hnumber, hvalue⟩ := hc.parts_eq hd h
  refine ⟨hkey, by rw [hoperator], fun allowMissing value? => ?_⟩
  cases hn : c.operator.isNumeric with
  | true =>
    obtain ⟨-, y, -, -, hy⟩ := hc.isRegistrable.exists_number hn
    rw [evaluate_of_number hn hy, evaluate_of_number (hoperator ▸ hn) (hnumber ▸ hy), hoperator,
      mapError_map, mapError_map, mapError_valueNumber_eq h]
  | false =>
    have hcd : c = d := by
      obtain ⟨key, operator, text?, number?⟩ := c
      obtain ⟨key', operator', text?', number?'⟩ := d
      simp_all
    rw [hcd]

end Criterion

/-! ## Filters -/

namespace Filter

open Criterion

variable [Host] {f g : Filter} {r : Resource}

/-- Criteria that mean the same hold for the same resources. -/
theorem holds_iff_of_meansSame (hallow : f.allowMissing = g.allowMissing) {c d : Criterion}
    (h : c.MeansSame d) : f.Holds r c ↔ g.Holds r d := by
  rw [Holds, Holds, hallow, h.key_eq, ← mapError_eq_ok_iff, h.evaluate_eq, mapError_eq_ok_iff]

/-- Criteria that mean the same decide the same. -/
theorem mapError_decision_eq (hallow : f.allowMissing = g.allowMissing)
    (hstrict : f.strict = g.strict) {c d : Criterion} (h : c.MeansSame d) :
    (f.decision r c).mapError ReportedError.ofFault =
      (g.decision r d).mapError ReportedError.ofFault := by
  rw [decision, decision, h.key_eq, h.isNumeric_eq, hallow, hstrict]
  split
  · rfl
  · exact h.evaluate_eq g.allowMissing (r.get? d.key)

/-- Of criteria that mean the same one by one, all hold, or the first ones that do not hold mean the
same. -/
theorem find?_of_meansSame (hallow : f.allowMissing = g.allowMissing) {cs ds : List Criterion}
    (h : List.Forall₂ MeansSame cs ds) :
    Option.Rel MeansSame (cs.find? fun c => ¬ f.Holds r c) (ds.find? fun d => ¬ g.Holds r d) := by
  induction h with
  | nil => exact .none
  | @cons c d cs ds hcd _ ih =>
    have hiff := holds_iff_of_meansSame (r := r) hallow hcd
    by_cases hc : f.Holds r c
    · rwa [List.find?_cons_of_neg (by simpa using hc),
        List.find?_cons_of_neg (by simpa using hiff.mp hc)]
    · rw [List.find?_cons_of_pos (by simpa using hc),
        List.find?_cons_of_pos (by simpa using fun hd => hc (hiff.mpr hd))]
      exact .some hcd

end Filter

/-- Legible criteria that are rendered the same one by one mean the same one by one. -/
theorem Criterion.forall₂_meansSame [Host] {cs ds : List Criterion} (hcs : ∀ c ∈ cs, c.IsLegible)
    (hds : ∀ d ∈ ds, d.IsLegible) (h : cs.map render = ds.map render) :
    List.Forall₂ MeansSame cs ds := by
  induction cs generalizing ds with
  | nil =>
    obtain rfl := List.map_eq_nil_iff.mp h.symm
    exact .nil
  | cons c cs ih =>
    obtain ⟨d, ds, rfl, hd, hrest⟩ := List.map_eq_cons_iff.mp h.symm
    rw [List.forall_mem_cons] at hcs hds
    exact .cons (hcs.1.meansSame hds.1 hd.symm) (ih hcs.2 hds.2 hrest.symm)

/-- A criterion that was registered with a text, under a key without a blank, is legible. -/
theorem Filter.isLegible_of_register {key operator text : String} {f : Filter} {j : Journal}
    {c : Criterion} (h : (register key operator (some text) f j).result = .ok (.accept c))
    (hkey : ' ' ∉ key.toList) : c.IsLegible ∧ c.key = key ∧ c.value? = some text := by
  obtain ⟨d, haccepted, hd⟩ := accepted_of_added h rfl
  obtain rfl : c = d := Option.some.inj (congrArg Registration.criterion? hd)
  obtain ⟨o, -, hparts⟩ := Option.bind_eq_some_iff.mp haccepted
  obtain ⟨rfl, -, hvalue⟩ := Criterion.ofText?_eq_some hparts
  exact ⟨⟨Criterion.isRegistrable_of_accepted haccepted, by rw [hvalue]; rfl, hkey⟩, rfl, hvalue⟩

/-! ## Runs -/

namespace Run

/-- The criteria of the filter are legible if those accepted have texts and keys without a blank. -/
theorem isLegible_of_mem_criteria [Host] {p : Run}
    (hp : ∀ c ∈ p.registered, c.value?.isSome = true ∧ ' ' ∉ c.key.toList) :
    ∀ c ∈ p.filter.criteria, c.IsLegible := by
  intro c hc
  have hregistrable := isRegistrable_of_mem_criteria hc
  rw [criteria_filter, mem_groupedBy] at hc
  exact ⟨hregistrable, (hp c hc).1, (hp c hc).2⟩

end Run

/-- **The rendering determines the meaning.** Take two criteria that were registered with texts, by
any filters, under keys without a blank. If they are rendered the same, then they have the same key
and operator, and the same number if they are numeric, and else the same text. Take two runs in
which the criteria accepted for the filters are of that kind, the texts being written in any way. If
the filters list the same renderings and have the same policies, then on every resource they give
the same verdict, or have faults of the same kind and with the same message.

**Proof sketch.** What a rendering tells of a criterion (`Criterion.IsLegible.parts_eq`) is all that
its evaluation depends on (`Criterion.IsLegible.meansSame`). Both filters stop at the same place,
and what they meet there decides the same. -/
theorem rendering_determines_meaning [Host] :
    (∀ key operator text f j c key' operator' text' f' j' d,
      (Filter.register key operator (some text) f j).result = .ok (.accept c) →
      (Filter.register key' operator' (some text') f' j').result = .ok (.accept d) →
      ' ' ∉ key.toList → ' ' ∉ key'.toList → c.render = d.render →
        key = key' ∧ c.operator = d.operator ∧ c.number? = d.number? ∧
          (c.operator.isNumeric = true → c.number?.isSome = true) ∧
          (c.operator.isNumeric = false → text = text')) ∧
    ∀ p q : Run, (∀ c ∈ p.registered, c.value?.isSome = true ∧ ' ' ∉ c.key.toList) →
      (∀ c ∈ q.registered, c.value?.isSome = true ∧ ' ' ∉ c.key.toList) →
      p.filter.renderings = q.filter.renderings →
      p.filter.allowMissing = q.filter.allowMissing → p.filter.strict = q.filter.strict →
      ∀ r, (p.verdict r).mapError ReportedError.ofFault =
        (q.verdict r).mapError ReportedError.ofFault := by
  refine ⟨?_, fun p q hp hq hrender hallow hstrict r => ?_⟩
  · intro key operator text f j c key' operator' text' f' j' d hc hd hkey hkey' hrender
    obtain ⟨hlegible, rfl, htext⟩ := Filter.isLegible_of_register hc hkey
    obtain ⟨hlegible', rfl, htext'⟩ := Filter.isLegible_of_register hd hkey'
    obtain ⟨hkeys, hoperators, hnumbers, hvalues⟩ := hlegible.parts_eq hlegible' hrender
    refine ⟨hkeys, hoperators, hnumbers, fun hn => ?_, fun hn => ?_⟩
    · obtain ⟨-, x, -, -, hx⟩ := hlegible.isRegistrable.exists_number hn
      rw [hx]
      rfl
    · exact Option.some.inj (htext.symm.trans ((hvalues hn).trans htext'))
  · have hmeans := Criterion.forall₂_meansSame (Run.isLegible_of_mem_criteria hp)
      (Run.isLegible_of_mem_criteria hq) hrender
    have hempty : p.registered.isEmpty = q.registered.isEmpty := by
      rw [← p.isEmpty_criteria, ← q.isEmpty_criteria]
      simpa [Filter.renderings] using congrArg List.isEmpty hrender
    have hfind := Filter.find?_of_meansSame (r := r) hallow hmeans
    rw [p.verdict_eq_match, q.verdict_eq_match, ← p.criteria_filter, ← q.criteria_filter, hempty]
    generalize (p.filter.criteria.find? fun c => ¬ p.filter.Holds r c) = c? at hfind ⊢
    generalize (q.filter.criteria.find? fun d => ¬ q.filter.Holds r d) = d? at hfind ⊢
    cases hfind with
    | none => rfl
    | some h => exact Filter.mapError_decision_eq hallow hstrict h

attribute [local instance] Host.bare

/-- One bound written in several ways, and a value that is no number: strict filters have different
faults with the same message, which shows the bound in its one form. -/
theorem rendering_determines_meaning_respelled :
    let c (text : String) : Criterion :=
      ⟨"age", .greaterThan, some text, (comparable text).toOption⟩
    let p (text : String) : Run := ⟨.empty, "people", true, true, none,
      [.register ⟨0⟩ "name" "EQUALS" (some "is less than 3"),
        .register ⟨0⟩ "age" "GREATER_THAN" (some text)]⟩
    let r : Resource := ⟨[("name", some "is less than 3"), ("age", some "old")]⟩
    (c " 3e1 ").render = (c "30").render ∧ (c " 3e1 ").number? = (c "30").number? ∧
      (p "30").filter.renderings =
        ["name is equal to is less than 3", "age is greater than 30.0"] ∧
      ∀ text ∈ [" 3e1 ", "30.0"], (p text).filter.renderings = (p "30").filter.renderings ∧
        (p text).verdict r ≠ (p "30").verdict r ∧
        ((p text).verdict r).mapError ReportedError.ofFault =
          ((p "30").verdict r).mapError ReportedError.ofFault := by
  intro c p r
  have haccepted : ∀ text ∈ ["30", " 3e1 "],
      (Filter.register "age" "GREATER_THAN" (some text) (.empty "people" true true)
        (.empty "people")).result = .ok (.accept (c text)) := by
    decide +kernel
  have hshown : (c " 3e1 ").render = (c "30").render := by decide +kernel
  obtain ⟨-, -, hnumber, -⟩ := rendering_determines_meaning.1 _ _ _ _ _ _ _ _ _ _ _ _
    (haccepted " 3e1 " (by simp)) (haccepted "30" (by simp)) (by decide) (by decide) hshown
  have hrenderings : (p "30").filter.renderings =
      ["name is equal to is less than 3", "age is greater than 30.0"] := by
    decide +kernel
  refine ⟨hshown, hnumber, hrenderings, fun text htext => ?_⟩
  have hlegible : ∀ text ∈ ["30", " 3e1 ", "30.0"], ∀ c ∈ (p text).registered,
      c.value?.isSome = true ∧ ' ' ∉ c.key.toList := by
    decide +kernel
  have hsame : ∀ text ∈ [" 3e1 ", "30.0"],
      (p text).filter.renderings = (p "30").filter.renderings ∧
        (p text).filter.allowMissing = (p "30").filter.allowMissing ∧
        (p text).filter.strict = (p "30").filter.strict ∧
        (p text).verdict r ≠ (p "30").verdict r := by
    decide +kernel
  obtain ⟨hrender, hallow, hstrict, hne⟩ := hsame text htext
  exact ⟨hrender, hne, rendering_determines_meaning.2 (p text) (p "30")
    (hlegible text (List.mem_cons_of_mem _ htext)) (hlegible "30" List.mem_cons_self) hrender hallow
    hstrict r⟩

end Winnow

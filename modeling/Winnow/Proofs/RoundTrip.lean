import Winnow.Proofs.Comparison
import Winnow.Proofs.Number.Acceptance
import Winnow.Proofs.Number.Rendering

set_option autoImplicit false

/-!
# Rendered criteria are read back

What a numeric criterion renders is the shortest text that reads back as its number. So a criterion
can be registered again from its key, its operator and what it renders, unless its number is
infinite: infinities are rendered by a name that is not accepted.

## Main results

* `Winnow.Binary64.comparable_render`, `Winnow.Binary64.comparable_render_infinite` — which
  renderings are comparable.
* `Winnow.numeric_rendering_round_trip` — the rendering of a finite number is read back, shortest
  and nearest, and a criterion is accepted again exactly if its number is finite.
-/

namespace Winnow

/-! ## Numbers -/

namespace Binary64

/-- The rendering of a finite number is read back as that number, with its sign. -/
theorem comparable_render (negative : Bool) (m : Magnitude) :
    comparable (finite negative m).render = .ok (finite negative m) := by
  obtain ⟨w, -, hspells, hvalue, -⟩ := rendering_is_shortest negative m
  exact comparable_eq_ok_iff.mpr ⟨w, hspells, hvalue⟩

/-- The rendering of an infinity is refused. -/
theorem comparable_render_infinite (negative : Bool) :
    ∃ e, comparable (infinite negative).render = .error e := by
  have hrefused : (comparable (infinite negative).render).toOption = none := by
    cases negative <;> decide +kernel
  cases h : comparable (infinite negative).render with
  | ok x => rw [h] at hrefused; cases hrefused
  | error e => exact ⟨e, rfl⟩

end Binary64

/-! ## Criteria -/

/-- A numeric criterion renders its number. -/
theorem Criterion.render_of_number {c : Criterion} (hc : c.operator.isNumeric = true)
    {x : Binary64} (hx : c.number? = some x) :
    c.renderedValue? = some x.render ∧
      c.render = c.key ++ " " ++ c.operator.phrase ++ " " ++ x.render := by
  have hvalue : c.renderedValue? = some x.render := by
    rw [renderedValue?, hx]
    exact if_pos hc
  exact ⟨hvalue, by rw [render, hvalue, Option.getD_some]⟩

/-- Registration discards a text that is not the number a numeric operator requires, and leaves the
filter as it was. -/
theorem Filter.register_of_error {o : Operator} (ho : o.isNumeric = true) {text : String}
    {e : NumberError} (h : comparable text = .error e) (key : String) (f : Filter) (j : Journal) :
    (f.register key o.name (some text) j).result = .ok (.discard (discardReason o text)) ∧
      (f.register key o.name (some text) j).state.1 = f := by
  have hresolve : Operator.resolve o.name = .ok o := by
    rw [Operator.resolve, Operator.ofName?_name]
  rw [register, hresolve]
  simp [ho, h, log]

/-- **What a numeric criterion renders is the shortest text that reads back as its number.** The
rendering of a finite number is read back as the number, with its sign. It has the fewest
significant digits of all texts that are, and none with as many is nearer to the number. A numeric
criterion that was registered is therefore accepted again with what it renders, by any filter,
exactly if its number is finite, and then with the same number and the same rendering. An infinite
number is rendered by a name that is discarded.

**Proof sketch.** The rendering of a finite number is its shortest spelling
(`Binary64.rendering_is_shortest`), so it is read back, and any other text that is read as the
number spells it as well. A criterion that was registered has a number, which is none but that of
its text, and what it renders depends on this number alone (`Criterion.render_of_number`). If that
is finite, then registering the rendering is registering a text that is read as the number; if it is
infinite, then the rendering is not comparable (`Binary64.comparable_render_infinite`). -/
theorem numeric_rendering_round_trip :
    (∀ (negative : Bool) (m : Magnitude),
      comparable (Binary64.finite negative m).render = .ok (.finite negative m) ∧
      ∃ (w : Spelling) (q : ℚ), w.Spells (Binary64.finite negative m).render ∧
        w.exactValue = .ofRat q ∧
        ∀ (text : String) (v : Spelling) (r : ℚ), v.Spells text → v.exactValue = .ofRat r →
          comparable text = .ok (.finite negative m) →
            w.significantDigits ≤ v.significantDigits ∧
            (v.significantDigits = w.significantDigits →
              |m.signedValue negative - q| ≤ |m.signedValue negative - r|)) ∧
    ∀ (key operator : String) (value? : Option String) (f₀ : Filter) (j₀ : Journal) (c : Criterion),
      (f₀.register key operator value? j₀).result = .ok (.accept c) →
      c.operator.isNumeric = true →
      ∃ x, c.number? = some x ∧ c.renderedValue? = some x.render ∧
        ∀ (f : Filter) (j : Journal),
          let again := f.register c.key c.operator.name c.renderedValue? j
          ((∃ d, again.result = .ok (.accept d)) ↔ ∃ negative m, x = .finite negative m) ∧
          (∀ d, again.result = .ok (.accept d) →
            d.number? = c.number? ∧ d.renderedValue? = c.renderedValue? ∧ d.render = c.render) ∧
          ∀ negative, x = .infinite negative →
            x.render = (if negative then "-inf" else "inf") ∧
            again.result = .ok (.discard (Filter.discardReason c.operator x.render)) ∧
            again.state.1 = f := by
  refine ⟨fun negative m => ⟨Binary64.comparable_render negative m, ?_⟩, ?_⟩
  · obtain ⟨w, q, hspells, -, hexact, hbest⟩ := Binary64.rendering_is_shortest negative m
    refine ⟨w, q, hspells, hexact, fun text v r hv hr htext => hbest v r ?_ hr⟩
    have hvalue : comparable text = .ok v.numeral.value := comparable_eq_ok_iff.mpr ⟨v, hv, rfl⟩
    exact Except.ok.inj (hvalue.symm.trans htext)
  · intro key operator value? f₀ j₀ c hregistered hc
    obtain ⟨d, haccepted, hd⟩ := Filter.accepted_of_added hregistered rfl
    obtain rfl : c = d := Option.some.inj (congrArg Registration.criterion? hd)
    obtain ⟨text, x, -, htext, hx⟩ :=
      (Criterion.isRegistrable_of_accepted haccepted).exists_number hc
    obtain ⟨hvalue, hrender⟩ := Criterion.render_of_number hc hx
    refine ⟨x, hx, hvalue, fun f j => ?_⟩
    rw [hvalue, hrender, hx]
    cases x with
    | nan => cases isNaN_of_comparable htext
    | infinite negative =>
      obtain ⟨e, he⟩ := Binary64.comparable_render_infinite negative
      obtain ⟨hresult, hstate⟩ := Filter.register_of_error hc he c.key f j
      have hdiscarded : ∀ reason d, (.ok (.discard reason) : Except Fault Registration) ≠
          .ok (.accept d) := by
        intro reason d h
        cases h
      refine ⟨⟨fun ⟨d, h⟩ => ?_, fun ⟨sign, m, h⟩ => ?_⟩, fun d h => ?_, fun sign h => ?_⟩
      · exact absurd (hresult.symm.trans h) (hdiscarded _ d)
      · cases h
      · exact absurd (hresult.symm.trans h) (hdiscarded _ d)
      · cases h
        exact ⟨rfl, hresult, hstate⟩
    | finite negative m =>
      have hread := Binary64.comparable_render negative m
      have hresult := Criterion.result_register_numeric hc hread c.key f j
      have hsame := Criterion.render_of_number (c := .numeric c.key c.operator
        (Binary64.finite negative m).render (.finite negative m)) hc rfl
      refine ⟨⟨fun _ => ⟨negative, m, rfl⟩, fun _ => ⟨_, hresult⟩⟩, fun d h => ?_, by simp⟩
      obtain rfl := Option.some.inj
        (congrArg Registration.criterion? (Except.ok.inj (hresult.symm.trans h)))
      exact ⟨rfl, hsame⟩

/-- One half, however it was written, is registered again, and what overflowed is discarded. -/
theorem numeric_rendering_round_trip_half :
    let f := Filter.empty "sizes" false true
    let j := Journal.empty "sizes"
    let half : Criterion := ⟨"size", .lessThan, some " +.5E0",
      some (.finite false ⟨2 ^ 52, 1021, by decide, .inl le_rfl, by decide⟩)⟩
    let huge : Criterion := ⟨"size", .greaterThan, some "-1e999", some (.infinite true)⟩
    (f.register "size" "less_than" (some " +.5E0") j).result = .ok (.accept half) ∧
      (f.register "size" "GREATER_THAN" (some "-1e999") j).result = .ok (.accept huge) ∧
      half.operator.isNumeric = true ∧ huge.operator.isNumeric = true ∧
      ∀ (g : Filter) (k : Journal),
        (∃ d, (g.register half.key half.operator.name half.renderedValue? k).result =
          .ok (.accept d) ∧ d.number? = half.number? ∧ d.render = half.render) ∧
        (g.register huge.key huge.operator.name huge.renderedValue? k).result =
          .ok (.discard "'-inf' is not a number, GREATER_THAN requires a numeric value") := by
  intro f j half huge
  have hhalf : (f.register "size" "less_than" (some " +.5E0") j).result = .ok (.accept half) := by
    decide +kernel
  have hhuge : (f.register "size" "GREATER_THAN" (some "-1e999") j).result =
      .ok (.accept huge) := by
    decide +kernel
  refine ⟨hhalf, hhuge, rfl, rfl, fun g k => ⟨?_, ?_⟩⟩
  · obtain ⟨x, hx, -, hagain⟩ :=
      numeric_rendering_round_trip.2 "size" "less_than" (some " +.5E0") f j half hhalf rfl
    obtain ⟨haccepted, hsame, -⟩ := hagain g k
    obtain ⟨d, hd⟩ := haccepted.mpr ⟨false, _, (Option.some.inj hx).symm⟩
    exact ⟨d, hd, (hsame d hd).1, (hsame d hd).2.2⟩
  · obtain ⟨x, hx, -, hagain⟩ :=
      numeric_rendering_round_trip.2 "size" "GREATER_THAN" (some "-1e999") f j huge hhuge rfl
    obtain rfl := Option.some.inj hx
    exact ((hagain g k).2.2 true rfl).2.1

end Winnow

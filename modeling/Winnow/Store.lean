import Winnow.Filter.Basic

set_option autoImplicit false

/-!
# Stores

The filters and journals that exist, each at an address. Several filters may write to one journal,
and several expressions may refer to one filter, so both are reached by their addresses.

## Main definitions

* `Winnow.Store` — filters, with the journals that they write to, and journals.
* `Winnow.Store.addJournal`, `Winnow.Store.addFilter` — the store after something is added.
* `Winnow.Store.onFilter` — an operation on a filter and its journal.
* `Winnow.Store.satisfies` — whether a resource satisfies a filter of the store.
-/

namespace Winnow

/-- The address of a journal. -/
structure JournalId where
  index : Nat
deriving DecidableEq

/-- The address of a filter. -/
structure FilterId where
  index : Nat
deriving DecidableEq

/-- Filters and journals. -/
structure Store where
  /-- The filters, each with the address of its journal. -/
  filters : List (Filter × JournalId)
  /-- The journals. -/
  journals : List Journal

namespace Store

/-- The store that holds nothing. -/
def empty : Store :=
  ⟨[], []⟩

/-- The filter at an address; one without criteria if there is none. -/
def filter (s : Store) (id : FilterId) : Filter :=
  match s.filters[id.index]? with
  | some (f, _) => f
  | none => .empty "" true true

/-- The address of the journal of a filter. -/
def journalOf (s : Store) (id : FilterId) : JournalId :=
  match s.filters[id.index]? with
  | some (_, j) => j
  | none => ⟨s.journals.length⟩

/-- The journal at an address; one without entries if there is none. -/
def journal (s : Store) (id : JournalId) : Journal :=
  (s.journals[id.index]?).getD (.empty "")

/-- The store after a filter is replaced. -/
def setFilter (s : Store) (id : FilterId) (f : Filter) : Store :=
  { s with filters := s.filters.set id.index (f, s.journalOf id) }

/-- The store after a journal is replaced. -/
def setJournal (s : Store) (id : JournalId) (j : Journal) : Store :=
  { s with journals := s.journals.set id.index j }

/-- The store after a journal is added, and its address. -/
def addJournal (s : Store) (name : String) : JournalId × Store :=
  (⟨s.journals.length⟩, { s with journals := s.journals ++ [.empty name] })

/-- The store after a filter is added, and its address. It writes to the given journal, or to one of
its own with its name. -/
def addFilter (s : Store) (f : Filter) (journal? : Option JournalId) : FilterId × Store :=
  let (journal, s) := match journal? with
    | some journal => (journal, s)
    | none => s.addJournal f.name
  (⟨s.filters.length⟩, { s with filters := s.filters ++ [(f, journal)] })

/-- An operation on a filter and its journal, as one on the store. -/
def onFilter {α : Type} (s : Store) (id : FilterId)
    (operation : Filter → Journal → Outcome (Filter × Journal) α) : Outcome Store α :=
  let journal := s.journalOf id
  (operation (s.filter id) (s.journal journal)).within fun (f, j) =>
    (s.setFilter id f).setJournal journal j

/-- An operation on a journal, as one on the store. -/
def keep (s : Store) (id : JournalId) (e : Entry) : Outcome Store Unit :=
  let (j, record) := (s.journal id).keep e
  ⟨.ok (), [record], s.setJournal id j⟩

variable [Host]

/-- Whether a resource satisfies a filter of the store. -/
def satisfies (s : Store) (id : FilterId) (r : Resource) : Outcome Store Bool :=
  ((s.filter id).satisfies r).within (s.setFilter id)

end Store

end Winnow

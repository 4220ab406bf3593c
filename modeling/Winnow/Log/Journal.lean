import Winnow.Log.Detail
import Winnow.Log.Record
import Winnow.Log.Timestamp

set_option autoImplicit false

/-!
# Journals

A journal keeps an entry for every event in the life of a filter: criteria registered and
discarded, resets, changes of policy. Each entry that is kept is also written as one record of the
same level.

## Main definitions

* `Winnow.Action`, `Winnow.Entry` — the kinds of events, and entries.
* `Winnow.StampedEntry` — an entry with its time, and `Winnow.StampedEntry.fields`, what is reported
  of it.
* `Winnow.Journal` — the name and the entries of a journal.
* `Winnow.Entry.registered`, `Winnow.Entry.discarded`, `Winnow.Entry.reset`,
  `Winnow.Entry.policy` — the entries of the four kinds of events.
* `Winnow.Journal.keep` — the journal after an entry, and the record of it.
-/

namespace Winnow

/-- The kinds of events in the life of a filter. -/
inductive Action where
  | register
  | discard
  | reset
  | policy
deriving DecidableEq

namespace Action

/-- All kinds of events. -/
def all : List Action :=
  [register, discard, reset, policy]

/-- The name of a kind of event. -/
def name : Action → String
  | register => "REGISTER"
  | discard => "DISCARD"
  | reset => "RESET"
  | policy => "POLICY"

/-- The kind of event with a name. -/
def ofName (name : String) : Except Fault Action :=
  match all.find? fun a => a.name == name with
  | some a => .ok a
  | none => .error (.unknownAction name)

end Action

/-- An entry of a journal. -/
structure Entry where
  level : Level
  action : Action
  key : String
  message : String
  details : Details

namespace Entry

/-- The entry with a level and an action given by their names. -/
def ofNames (level action key message : String) (details : Details) : Except Fault Entry := do
  let level ← Level.ofName level
  let action ← Action.ofName action
  return ⟨level, action, key, message, details⟩

/-- The entry of a criterion that is registered, with how many its key has then. -/
def registered (key rendered : String) (count : Int) : Entry :=
  ⟨.info, .register, key, "Criterion added: " ++ rendered, [("criteria_for_key", .integer count)]⟩

/-- The entry of a criterion that is discarded. -/
def discarded (key operator reason : String) : Entry :=
  ⟨.warning, .discard, key, "Criterion discarded: " ++ reason, [("operator", .text operator)]⟩

/-- The entry of a reset, with how many criteria were removed. -/
def reset (count : Int) : Entry :=
  ⟨.info, .reset, "*", "All criteria removed", [("discarded_count", .integer count)]⟩

/-- The entry of a change of the policy on missing fields. -/
def policy (allowMissing : Bool) : Entry :=
  let mode := if allowMissing then "inclusive" else "exclusive"
  ⟨.info, .policy, "*", "Inclusion policy set to " ++ mode,
    [("allow_missing_fields", .flag allowMissing)]⟩

/-- The record of an entry in a journal. -/
def record (journal : String) (e : Entry) : Record :=
  let details := if e.details.isEmpty then "" else " (" ++ e.details.render ++ ")"
  ⟨e.level, .filters,
    "[" ++ journal ++ "] [" ++ e.action.name ++ "] " ++ e.key ++ ": " ++ e.message ++ details⟩

/-- What is reported of an entry, as named values. Details are left out if there are none. -/
def fields (e : Entry) : Details :=
  let details := if e.details.isEmpty then [] else [("details", .table e.details)]
  [("level", .text e.level.name), ("action", .text e.action.name), ("key", .text e.key),
    ("message", .text e.message)] ++ details

end Entry

/-- An entry with the time at which it was made. -/
structure StampedEntry where
  time : Timestamp
  entry : Entry

/-- What is reported of an entry with its time: the written form of the time comes first. -/
def StampedEntry.fields (e : StampedEntry) : Details :=
  ("timestamp", .text e.time.render) :: e.entry.fields

/-- A journal: its name and its entries, the oldest first. -/
structure Journal where
  name : String
  entries : List Entry

namespace Journal

/-- A journal without entries. -/
def empty (name : String) : Journal :=
  ⟨name, []⟩

/-- The journal after an entry, and the record of it. -/
def keep (j : Journal) (e : Entry) : Journal × Record :=
  ({ j with entries := j.entries ++ [e] }, e.record j.name)

/-- The journal after its entries are dropped. -/
def clear (j : Journal) : Journal :=
  { j with entries := [] }

end Journal

end Winnow

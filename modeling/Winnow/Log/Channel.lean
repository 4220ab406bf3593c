import Winnow.Log.Record

set_option autoImplicit false

/-!
# The channel of records

Where records go: a threshold that decides which of them are seen, and the outputs that write them.
The library finds its own output by name, and installs it the first time that a level is set.

## Main definitions

* `Winnow.Output` — an output with its name and level.
* `Winnow.Channel` — the level of the channel and its outputs.
* `Winnow.Channel.configure` — the channel after its level is set.
* `Winnow.Channel.visible`, `Winnow.Channel.written` — what passes of a list of records.

## Design

A level of zero leaves the decision to the surroundings, which pass warnings and what is more
severe.
-/

namespace Winnow

/-- An output that writes the records which pass the channel. -/
structure Output where
  /-- The name that it is found by. -/
  name : String
  /-- The rank below which it drops records. -/
  level : Nat
deriving DecidableEq

/-- The channel of records. -/
structure Channel where
  /-- The rank below which records are dropped, or zero. -/
  level : Nat
  /-- The installed outputs, the oldest first. -/
  outputs : List Output
deriving DecidableEq

namespace Channel

/-- The channel before it is configured: everything passes, and nothing is written. -/
def initial : Channel :=
  ⟨Level.debug.rank, []⟩

/-- The name of the library's own output. -/
def outputName : String := "criteria_filter"

/-- The outputs after the level of the library's own one is set. It is added at the end if it is not
among them. -/
def setOutput (level : Nat) : List Output → List Output
  | [] => [⟨outputName, level⟩]
  | o :: os => if o.name = outputName then { o with level } :: os else o :: setOutput level os

/-- The channel after its level is set. -/
def configure (channel : Channel) (level : Nat) : Channel :=
  ⟨level, setOutput level channel.outputs⟩

/-- The rank below which records are dropped. -/
def effectiveLevel (channel : Channel) : Nat :=
  if channel.level = 0 then Level.warning.rank else channel.level

/-- The records that pass. -/
def visible (channel : Channel) (records : List Record) : List Record :=
  records.filter fun r => channel.effectiveLevel ≤ r.level.rank

/-- The name that outputs give to a source. -/
def sourceName : Source → String
  | .filters => "criteria_filter.utils.logging"
  | .settings => "criteria_filter.utils.config"

/-- The line that an output writes for a record. -/
def line (r : Record) : String :=
  "<time> - " ++ sourceName r.source ++ " - " ++ r.level.name ++ " - " ++ r.message ++ "\n"

/-- The text that the outputs write for some records, one record after another. -/
def written (channel : Channel) (records : List Record) : String :=
  "".intercalate ((channel.visible records).flatMap fun r =>
    (channel.outputs.filter fun o => o.level ≤ r.level.rank).map fun _ => line r)

end Channel

end Winnow

import Winnow.Fault

set_option autoImplicit false

/-!
# Log records

The records that the library writes while it works: their levels, where they come from, and the
wording of those that tell what happened to one resource.

## Main definitions

* `Winnow.Level` — levels, with names and ranks.
* `Winnow.Record` — a level, a source and a message.
* `Winnow.Record.matched`, `Winnow.Record.notMatched`, `Winnow.Record.failed`,
  `Winnow.Record.lenient`, `Winnow.Record.listing` — the records about filters and resources.
-/

namespace Winnow

/-- The levels of records, from the least to the most severe. -/
inductive Level where
  | debug
  | info
  | warning
  | error
  | critical
deriving DecidableEq

namespace Level

/-- All levels. -/
def all : List Level :=
  [debug, info, warning, error, critical]

/-- The name of a level. -/
def name : Level → String
  | debug => "DEBUG"
  | info => "INFO"
  | warning => "WARNING"
  | error => "ERROR"
  | critical => "CRITICAL"

/-- The rank of a level; a higher rank is more severe. -/
def rank : Level → Nat
  | debug => 10
  | info => 20
  | warning => 30
  | error => 40
  | critical => 50

/-- The level with a name. -/
def ofName (name : String) : Except Fault Level :=
  match all.find? fun l => l.name == name with
  | some l => .ok l
  | none => .error (.unknownLevel name)

end Level

/-- The parts of the library that write records. -/
inductive Source where
  /-- Filters and their journals. -/
  | filters
  /-- The reading of settings. -/
  | settings
deriving DecidableEq

/-- A record: its level, its source and its message. -/
structure Record where
  level : Level
  source : Source
  message : String
deriving DecidableEq

/-- An error as it is reported: the name of its kind, its message, and the name of the kind of what
lies behind it. -/
structure ReportedError where
  kind : String
  message : String
  cause? : Option String
deriving DecidableEq

namespace ReportedError

/-- The text of an error. An unknown key is shown quoted. -/
def text (e : ReportedError) : String :=
  if e.kind == "KeyError" then Text.quote e.message else e.message

/-- The report of a fault. -/
def ofFault (fault : Fault) : ReportedError :=
  ⟨fault.kind, fault.message, fault.cause?.map Cause.kind⟩

end ReportedError

namespace Record

/-- The start of a message about a filter and what it evaluates. -/
def evaluationLead (filter : String) : String :=
  "[" ++ filter ++ "] [EVALUATE] "

/-- The record of the outcome for one resource, with the key that failed and the reason, if given.
-/
def outcome (filter : String) (matched : Bool) (failedKey? reason? : Option String) : Record :=
  let status := if matched then "MATCH" else "NO MATCH"
  let place := match failedKey? with
    | some key => " (failed on key '" ++ key ++ "')"
    | none => ""
  let reason := match reason? with
    | some reason => if reason.isEmpty then "" else " - " ++ reason
    | none => ""
  ⟨.debug, .filters, evaluationLead filter ++ status ++ place ++ reason⟩

/-- The record of a resource that satisfies all criteria of a filter. -/
def matched (filter : String) : Record :=
  outcome filter true none none

/-- The record of a resource that fails a criterion of a filter. -/
def notMatched (filter : String) (c : Criterion) : Record :=
  outcome filter false (some c.key) (some c.render)

/-- The record of a resource given to a filter that has no criteria. -/
def noCriteria (filter : String) : Record :=
  outcome filter false none (some "no criteria registered")

/-- The record of an error in the evaluation of a criterion. -/
def failed (filter key rendered : String) (e : ReportedError) : Record :=
  let cause := match e.cause? with
    | some kind => " (caused by " ++ kind ++ ")"
    | none => ""
  ⟨.error, .filters, evaluationLead filter ++ key ++ ": Evaluation failed for '" ++ rendered
    ++ "' - Error: " ++ e.kind ++ ": " ++ e.text ++ cause⟩

/-- The record of a numeric criterion without a usable value that counts as failed. The first one
about a criterion is a warning. -/
def lenient (filter key rendered : String) (isFirst : Bool) : Record :=
  let message := evaluationLead filter ++ key
    ++ ": resource value missing or not numeric, treating '" ++ rendered ++ "' as non-match"
  if isFirst then
    ⟨.warning, .filters, message ++ " (further occurrences logged at DEBUG)"⟩
  else ⟨.debug, .filters, message⟩

/-- The record of the rendered criteria of a filter. -/
def listing (filter : String) (criteria : List String) : Record :=
  let body := if criteria.isEmpty then "No criteria registered"
    else "Criteria: " ++ "; ".intercalate criteria
  ⟨.debug, .filters, "[" ++ filter ++ "] [DEBUG] " ++ body⟩

end Record

end Winnow

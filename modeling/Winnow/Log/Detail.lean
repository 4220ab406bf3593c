import Winnow.Number.Shortest
import Winnow.Text.Quoted

set_option autoImplicit false

/-!
# Details of log entries

The values that a log entry can carry beside its message, and how they are shown.

## Main definitions

* `Winnow.Detail` — values, and `Winnow.Detail.render`, how one is shown.
* `Winnow.Details` — named values, with `Winnow.Details.ofPairs`.
-/

namespace Winnow

/-- A value that a log entry carries. -/
inductive Detail where
  | nothing
  | flag (value : Bool)
  | integer (value : Int)
  | number (value : Binary64)
  | text (value : String)
  | list (items : List Detail)
  | table (items : List (String × Detail))
deriving Inhabited

/-- How a truth value is shown. -/
def renderFlag (value : Bool) : String :=
  if value then "True" else "False"

namespace Detail

mutual

/-- How a value inside of another one is shown: texts are quoted. -/
def nested : Detail → String
  | nothing => "None"
  | flag value => renderFlag value
  | integer value => toString value
  | number value => value.render
  | text value => Text.quote value
  | list items => "[" ++ ", ".intercalate (nestedItems items) ++ "]"
  | table items => "\x7b" ++ ", ".intercalate (nestedPairs items) ++ "\x7d"

/-- How the items of a list are shown. -/
def nestedItems : List Detail → List String
  | [] => []
  | item :: items => item.nested :: nestedItems items

/-- How the items of a table are shown. -/
def nestedPairs : List (String × Detail) → List String
  | [] => []
  | (key, item) :: items => (Text.quote key ++ ": " ++ item.nested) :: nestedPairs items

end

/-- How a value is shown: a text as it stands. -/
def render : Detail → String
  | text value => value
  | value => value.nested

end Detail

/-- Named values, in the order in which the names first came. -/
abbrev Details : Type := List (String × Detail)

namespace Details

/-- The values after one is set: in its place if the name is there, else at the end. -/
def set (details : Details) (name : String) (value : Detail) : Details :=
  if details.any (·.1 == name) then
    details.map fun entry => if entry.1 == name then (name, value) else entry
  else details ++ [(name, value)]

/-- The values set one after another. -/
def ofPairs (pairs : List (String × Detail)) : Details :=
  pairs.foldl (fun details (name, value) => details.set name value) []

/-- How named values are shown. -/
def render (details : Details) : String :=
  ", ".intercalate (details.map fun (name, value) => name ++ "=" ++ value.render)

end Details

end Winnow

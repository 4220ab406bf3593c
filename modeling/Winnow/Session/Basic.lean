import Winnow.Expr.Basic
import Winnow.Settings

set_option autoImplicit false

/-!
# Sessions

A session holds filters, expressions and journals under names, and the channel that the records go
through. Its steps make such objects, operate on them and answer.

## Main definitions

* `Winnow.Blueprint` — expressions by what they are to be made of.
* `Winnow.Session` — objects under names, the store behind them, and the channel.
* `Winnow.Session.build` — the expression of a blueprint.
-/

namespace Winnow

/-- What an expression is to be made of. -/
inductive Blueprint where
  | literal (value : Bool)
  /-- A single comparison. -/
  | comparison (key operator : String) (value? : Option String) (allowMissing : Bool)
  /-- A new filter with criteria, each given by key, operator and value. -/
  | filter (name : String) (allowMissing strict : Bool)
      (criteria : List (String × String × Option String))
  | not (operand : Blueprint)
  | and (operands : List Blueprint)
  | or (operands : List Blueprint)
  /-- An object of the session. -/
  | ref (name : String)
deriving Inhabited

/-- What a name of a session stands for. -/
inductive Object where
  | expr (expr : Expr)
  | journal (id : JournalId)

/-- The state of a session. -/
structure Session where
  /-- The objects, by their names; the latest comes first. -/
  objects : List (String × Object)
  store : Store
  channel : Channel

namespace Session

/-- A session without objects. -/
def initial : Session :=
  ⟨[], .empty, .initial⟩

/-- The session after a name is given to an object. -/
def bind (s : Session) (name : String) (object : Object) : Session :=
  { s with objects := (name, object) :: s.objects }

/-- The session with another store. -/
def withStore (s : Session) (store : Store) : Session :=
  { s with store }

/-! ## Objects by name -/

/-- The expression with a name. -/
def expr (s : Session) (name : String) : Except Fault Expr :=
  match s.objects.lookup name with
  | some (.expr e) => .ok e
  | _ => .error (.unknownObject name)

/-- The filter with a name, if there is one. -/
def filterId? (s : Session) (name : String) : Option FilterId :=
  match s.objects.lookup name with
  | some (.expr (.filter id)) => some id
  | _ => none

/-- The filter with a name. -/
def filterId (s : Session) (name : String) : Except Fault FilterId :=
  match s.filterId? name with
  | some id => .ok id
  | none => .error (.unknownObject name)

/-- The journal with a name, or the journal of the filter with it. -/
def journalId (s : Session) (name : String) : Except Fault JournalId :=
  match s.objects.lookup name with
  | some (.journal id) => .ok id
  | some (.expr (.filter id)) => .ok (s.store.journalOf id)
  | _ => .error (.unknownObject name)

/-! ## Expressions -/

/-- Registers criteria with a filter, one after another. A fault ends the registration. -/
def registerAll (id : FilterId) : List (String × String × Option String) → Store →
    Outcome Store Unit
  | [], s => .value () s
  | (key, operator, value?) :: criteria, s =>
    (s.onFilter id (Filter.register key operator value?)).andThen fun _ t =>
      registerAll id criteria t

mutual

/-- The expression of a blueprint. Operands are made from left to right, before what they are
operands of. -/
def build : Blueprint → Session → Outcome Session Expr
  | .literal value, s => .value (.literal value) s
  | .comparison key operator value? allowMissing, s =>
    ⟨Expr.compare key operator value? allowMissing, [], s⟩
  | .filter name allowMissing strict criteria, s =>
    let (id, store) := s.store.addFilter (.empty name allowMissing strict) none
    ((registerAll id criteria store).within s.withStore).map fun _ => .filter id
  | .not operand, s => (build operand s).map .not
  | .and operands, s => (buildAll operands s).map .and
  | .or operands, s => (buildAll operands s).map .or
  | .ref name, s => ⟨s.expr name, [], s⟩

/-- The expressions of several blueprints. -/
def buildAll : List Blueprint → Session → Outcome Session (List Expr)
  | [], s => .value [] s
  | b :: bs, s => (build b s).andThen fun e t => (buildAll bs t).map (e :: ·)

end

end Session

end Winnow

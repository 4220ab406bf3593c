import Winnow.Session.Basic

set_option autoImplicit false

/-!
# Steps of a session

What can be asked of a session, and what it answers: a value or a fault, the state of the filter
that the step is about, and the records that passed the channel.

## Main definitions

* `Winnow.Step` — the steps.
* `Winnow.Value`, `Winnow.Answer` — values and answers.
* `Winnow.Session.perform` — what a step comes to.
* `Winnow.Session.answer`, `Winnow.Session.answers` — the answers to steps.
-/

namespace Winnow

/-- What can be asked of a session. -/
inductive Step where
  | newFilter (id name : String) (allowMissing strict : Bool) (journal? : Option String)
  | newFilterOfSettings (id name : String) (settings : Settings)
  | newFilterOfEnvironment (id name : String) (environment : Settings.Environment)
      (validate : Bool)
  | newExpr (id : String) (blueprint : Blueprint)
  | newJournal (id name : String)
  | configure (settings : Settings)
  | configureByEnvironment (environment : Settings.Environment)
  | register (id key operator : String) (value? : Option String)
  | reset (id : String)
  | allowOmitted (id : String) (allow : Bool)
  | setStrict (id : String) (strict : Bool)
  | satisfies (id : String) (resource : Resource)
  | select (id : String) (resources : List Resource)
  | criteria (id : String)
  | criteriaByKey (id : String)
  | render (id : String)
  | logCriteria (id : String)
  | entries (id : String)
  | clearEntries (id : String)
  | logRegistered (id key rendered : String) (count : Int)
  | logDiscarded (id key operator reason : String)
  | logReset (id : String) (count : Int)
  | logPolicy (id : String) (allow : Bool)
  | logEntry (id level action key message : String) (details : List (String × Detail))
  | recordOutcome (name : String) (matched : Bool) (failedKey? reason? : Option String)
  | recordError (name key rendered : String) (error : ReportedError)
  | recordLenient (name key rendered : String) (isFirst : Bool)
  | recordListing (name : String) (criteria : List String)

/-- The name that a step is about, if it is about one. -/
def Step.id? : Step → Option String
  | newFilter id _ _ _ _ | newFilterOfSettings id _ _ | newFilterOfEnvironment id _ _ _
  | newExpr id _ | newJournal id _ | register id _ _ _ | reset id | allowOmitted id _
  | setStrict id _ | satisfies id _ | select id _ | criteria id | criteriaByKey id | render id
  | logCriteria id | entries id | clearEntries id | logRegistered id _ _ _
  | logDiscarded id _ _ _ | logReset id _ | logPolicy id _ | logEntry id _ _ _ _ _ => some id
  | configure _ | configureByEnvironment _ | recordOutcome _ _ _ _ | recordError _ _ _ _
  | recordLenient _ _ _ _ | recordListing _ _ => none

/-- What a step yields. -/
inductive Value where
  | nothing
  | truth (value : Bool)
  | text (value : String)
  | resources (resources : List Resource)
  | criteria (criteria : List Criterion)
  | renderingsByKey (groups : List (String × List String))
  | entries (entries : List Entry)
  | registration (registration : Registration)
  /-- The level of the channel, and those of its installed outputs. -/
  | levels (level : Nat) (outputs : List Nat)

/-- What is shown of a filter. -/
structure FilterView where
  name : String
  renderings : List String
  allowMissing : Bool
  strict : Bool
  /-- The number of entries in its journal. -/
  entryCount : Nat

/-- What a session answers to a step. -/
structure Answer where
  /-- The value, or the fault that ended the step. -/
  result : Except Fault Value
  /-- The filter that the step is about, after the step. -/
  filter? : Option FilterView
  /-- The records that passed the channel. -/
  records : List Record
  /-- What the outputs of the channel wrote. -/
  written : String

namespace Session

/-! ## Performing steps -/

/-- An operation on a filter that has a name. -/
def onFilter {α : Type} (s : Session) (name : String) (yields : α → Value)
    (operation : FilterId → Store → Outcome Store α) : Outcome Session Value :=
  match s.filterId name with
  | .error e => .fault e s
  | .ok id => ((operation id s.store).within s.withStore).map yields

/-- An operation on an expression that has a name. -/
def onExpr {α : Type} (s : Session) (name : String) (yields : α → Value)
    (operation : Expr → Store → Outcome Store α) : Outcome Session Value :=
  match s.expr name with
  | .error e => .fault e s
  | .ok e => ((operation e s.store).within s.withStore).map yields

/-- An operation on a journal that has a name, or is that of a filter with it. -/
def onJournal {α : Type} (s : Session) (name : String) (yields : α → Value)
    (operation : JournalId → Store → Outcome Store α) : Outcome Session Value :=
  match s.journalId name with
  | .error e => .fault e s
  | .ok id => ((operation id s.store).within s.withStore).map yields

/-- What is read off a filter. -/
def viewFilter (s : Session) (name : String) (view : Filter → Value) : Outcome Session Value :=
  s.onFilter name view fun id store => .value (store.filter id) store

/-- Writes an entry to a journal. -/
def keepEntry (s : Session) (name : String) (e : Entry) : Outcome Session Value :=
  s.onJournal name (fun _ => .nothing) fun id store => store.keep id e

/-- Adds a filter under a name. -/
def addFilter (s : Session) (id : String) (f : Filter) (journal? : Option JournalId) : Session :=
  let (filter, store) := s.store.addFilter f journal?
  (s.withStore store).bind id (.expr (.filter filter))

variable [Host]

/-- Sets the level of the channel to the one of some settings. If that has no rank, nothing is set,
and no output is installed. -/
def setLevel (s : Session) (settings : Settings) (records : List Record) : Outcome Session Value :=
  match settings.rank with
  | .error e => ⟨.error e, records, s⟩
  | .ok level =>
    let channel := s.channel.configure level
    ⟨.ok (.levels channel.level (channel.outputs.map Output.level)), records, { s with channel }⟩

/-- What a step comes to. -/
def perform (s : Session) : Step → Outcome Session Value
  | .newFilter id name allowMissing strict journal? =>
    match journal?.mapM s.journalId with
    | .error e => .fault e s
    | .ok journal? => .value .nothing (s.addFilter id (.empty name allowMissing strict) journal?)
  | .newFilterOfSettings id name settings =>
    .value .nothing (s.addFilter id (.empty name settings.allowMissing settings.strict) none)
  | .newFilterOfEnvironment id name environment validate =>
    match Settings.ofEnvironment environment validate with
    | (.error e, records) => ⟨.error e, records, s⟩
    | (.ok settings, records) =>
      ⟨.ok .nothing, records,
        s.addFilter id (.empty name settings.allowMissing settings.strict) none⟩
  | .newExpr id blueprint =>
    (s.build blueprint).andThen fun e t => .value .nothing (t.bind id (.expr e))
  | .newJournal id name =>
    let (journal, store) := s.store.addJournal name
    .value .nothing ((s.withStore store).bind id (.journal journal))
  | .configure settings => s.setLevel settings []
  | .configureByEnvironment environment =>
    match Settings.ofEnvironment environment false with
    | (.error e, records) => ⟨.error e, records, s⟩
    | (.ok settings, records) => s.setLevel settings records
  | .register id key operator value? =>
    s.onFilter id .registration fun f store =>
      store.onFilter f (Filter.register key operator value?)
  | .reset id => s.onFilter id (fun _ => .nothing) fun f store => store.onFilter f Filter.reset
  | .allowOmitted id allow =>
    s.onFilter id (fun _ => .nothing) fun f store => store.onFilter f (Filter.allowOmitted allow)
  | .setStrict id strict =>
    s.onFilter id (fun _ => .nothing) fun f store =>
      .value () (store.setFilter f { store.filter f with strict })
  | .satisfies id r => s.onExpr id .truth fun e store => e.satisfies r store
  | .select id rs => s.onExpr id .resources fun e store => e.select rs store
  | .criteria id => s.viewFilter id fun f => .criteria f.criteria
  | .criteriaByKey id => s.viewFilter id fun f => .renderingsByKey f.renderingsByKey
  | .render id => s.onExpr id .text fun e store => .value (e.render store) store
  | .logCriteria id =>
    s.onFilter id (fun _ => .nothing) fun f store =>
      let filter := store.filter f
      ⟨.ok (), [.listing filter.name filter.renderings], store⟩
  | .entries id =>
    s.onJournal id .entries fun j store => .value (store.journal j).entries store
  | .clearEntries id =>
    s.onJournal id (fun _ => .nothing) fun j store =>
      .value () (store.setJournal j (store.journal j).clear)
  | .logRegistered id key rendered count => s.keepEntry id (.registered key rendered count)
  | .logDiscarded id key operator reason => s.keepEntry id (.discarded key operator reason)
  | .logReset id count => s.keepEntry id (.reset count)
  | .logPolicy id allow => s.keepEntry id (.policy allow)
  | .logEntry id level action key message details =>
    match Entry.ofNames level action key message (.ofPairs details) with
    | .error e => .fault e s
    | .ok entry => s.keepEntry id entry
  | .recordOutcome name matched failedKey? reason? =>
    ⟨.ok .nothing, [.outcome name matched failedKey? reason?], s⟩
  | .recordError name key rendered error => ⟨.ok .nothing, [.failed name key rendered error], s⟩
  | .recordLenient name key rendered isFirst =>
    ⟨.ok .nothing, [.lenient name key rendered isFirst], s⟩
  | .recordListing name criteria => ⟨.ok .nothing, [.listing name criteria], s⟩

/-! ## Answers -/

/-- What is shown of a filter of the session. -/
def filterView (s : Session) (id : FilterId) : FilterView :=
  let f := s.store.filter id
  ⟨f.name, f.renderings, f.allowMissing, f.strict,
    (s.store.journal (s.store.journalOf id)).entries.length⟩

/-- The answer to a step, and the session after it. Records pass the channel as it was before. -/
def answer (s : Session) (step : Step) : Answer × Session :=
  let outcome := s.perform step
  let after := outcome.state
  (⟨outcome.result, (step.id?.bind after.filterId?).map after.filterView,
    s.channel.visible outcome.records, s.channel.written outcome.records⟩, after)

/-- The answers to steps, one after another. -/
def answers (s : Session) : List Step → List Answer
  | [] => []
  | step :: steps =>
    let (answer, after) := s.answer step
    answer :: answers after steps

end Session

end Winnow

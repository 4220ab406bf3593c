import Winnow.Proofs.Session.Configuration
import Winnow.Proofs.Session.Discards

set_option autoImplicit false

/-!
# Steps do not depend on discarded criteria

Two sessions that are the same but for the entries of discarded criteria answer every step in the
same way, and are the same after it, but for such entries. An answer shows how many entries a
journal has, and a list of entries may hold those of discarded criteria. This is all that answers
are compared without.

## Main definitions

* `Winnow.Answer.withoutDiscards` — an answer without what it says of discarded criteria.
* `Winnow.Session.shown` — what is shown of the outcome of a step.

## Main results

* `Winnow.Session.shown_perform` — no step depends on the entries of discarded criteria.
* `Winnow.Session.answer_congr` — what is answered to a step, and the session after it.
-/

namespace Winnow

/-- A value without the entries of discarded criteria that it lists. -/
def Value.withoutDiscards : Value → Value
  | .entries es => .entries (es.filter fun e => e.action ≠ .discard)
  | value => value

/-- What is shown of a filter, but for the number of entries. -/
def FilterView.uncounted (v : FilterView) : FilterView :=
  { v with entryCount := 0 }

/-- An answer that neither lists the entries of discarded criteria nor counts entries. -/
def Answer.withoutDiscards (a : Answer) : Answer :=
  { a with result := a.result.map Value.withoutDiscards, filter? := a.filter?.map .uncounted }

namespace Session

variable (s : Session)

/-! ## What is shown of an outcome -/

/-- What is shown of the outcome of a step, but for the entries of discarded criteria. -/
def shown (o : Outcome Session Value) : Outcome Session Value :=
  (o.map Value.withoutDiscards).within withoutDiscards

/-- A session that stays as it is. -/
theorem shown_same (result : Except Fault Value) (records : List Record) :
    shown ⟨result, records, s.withoutDiscards⟩ = shown ⟨result, records, s⟩ :=
  congrArg (Outcome.mk _ _) s.withoutDiscards_withoutDiscards

/-- What is shown of outcomes that are the same but for the entries of discarded criteria. -/
theorem shown_of_within {o o' : Outcome Session Value}
    (h : o.within withoutDiscards = o'.within withoutDiscards) : shown o = shown o' :=
  congrArg (Outcome.map Value.withoutDiscards) h

section Operations

variable {α : Type} (name : String) {yields : α → Value}

/-- What is shown of an operation on the store. -/
theorem shown_within (o : Outcome Store α) (yields : α → Value) :
    shown ((o.within s.withStore).map yields) =
      ((o.map fun a => (yields a).withoutDiscards).within Store.withoutDiscards).within
        s.withStore := by
  obtain ⟨result, records, store⟩ := o
  cases result <;> rfl

/-- An operation on a filter does not depend on the entries of discarded criteria if the operation
on the store does not. -/
theorem shown_onFilter {operation : FilterId → Store → Outcome Store α}
    (h : ∀ id, (operation id s.store.withoutDiscards).within Store.withoutDiscards =
      (operation id s.store).within Store.withoutDiscards) :
    shown (s.withoutDiscards.onFilter name yields operation) =
      shown (s.onFilter name yields operation) := by
  rw [onFilter, onFilter, show s.withoutDiscards.filterId name = s.filterId name from rfl]
  cases s.filterId name with
  | error fault => exact s.shown_same _ _
  | ok id =>
    rw [shown_within, shown_within]
    exact congrArg (fun o => (Outcome.map (fun a => (yields a).withoutDiscards) o).within
      s.withStore) (h id)

/-- An operation on an expression does not depend on the entries of discarded criteria if the
operation on the store does not. -/
theorem shown_onExpr {operation : Expr → Store → Outcome Store α}
    (h : ∀ e, (operation e s.store.withoutDiscards).within Store.withoutDiscards =
      (operation e s.store).within Store.withoutDiscards) :
    shown (s.withoutDiscards.onExpr name yields operation) =
      shown (s.onExpr name yields operation) := by
  rw [onExpr, onExpr, show s.withoutDiscards.expr name = s.expr name from rfl]
  cases s.expr name with
  | error fault => exact s.shown_same _ _
  | ok e =>
    rw [shown_within, shown_within]
    exact congrArg (fun o => (Outcome.map (fun a => (yields a).withoutDiscards) o).within
      s.withStore) (h e)

/-- Journals have the same names without the entries of discarded criteria. -/
theorem journalId_withoutDiscards : s.withoutDiscards.journalId = s.journalId := by
  funext name
  simp only [journalId, withoutDiscards, Store.journalOf_withoutDiscards]

/-- An operation on a journal does not depend on the entries of discarded criteria if the operation
on the store does not, but for what it lists. -/
theorem shown_onJournal {operation : JournalId → Store → Outcome Store α}
    (h : ∀ j, ((operation j s.store.withoutDiscards).map fun a => (yields a).withoutDiscards).within
        Store.withoutDiscards =
      ((operation j s.store).map fun a => (yields a).withoutDiscards).within
        Store.withoutDiscards) :
    shown (s.withoutDiscards.onJournal name yields operation) =
      shown (s.onJournal name yields operation) := by
  rw [onJournal, onJournal, journalId_withoutDiscards]
  cases s.journalId name with
  | error fault => exact s.shown_same _ _
  | ok j =>
    rw [shown_within, shown_within]
    exact congrArg (Outcome.within s.withStore) (h j)

end Operations

/-! ## Steps that make objects -/

/-- Adding a filter under a name does not depend on the entries of journals. -/
theorem addFilter_withoutDiscards (id : String) (f : Filter) (journal? : Option JournalId) :
    s.withoutDiscards.addFilter id f journal? = (s.addFilter id f journal?).withoutDiscards := by
  rw [addFilter, show s.withoutDiscards.store = s.store.withoutDiscards from rfl,
    Store.addFilter_withoutDiscards]
  rfl

/-- Adding a filter under a name, whatever is written. -/
theorem shown_addFilter (id : String) (f : Filter) (journal? : Option JournalId)
    (result : Except Fault Value) (records : List Record) :
    shown ⟨result, records, s.withoutDiscards.addFilter id f journal?⟩ =
      shown ⟨result, records, s.addFilter id f journal?⟩ := by
  rw [addFilter_withoutDiscards]
  exact (s.addFilter id f journal?).shown_same result records

/-- Making an expression under a name. -/
theorem shown_newExpr [Host] (id : String) (blueprint : Blueprint) :
    shown (s.withoutDiscards.perform (.newExpr id blueprint)) =
      shown (s.perform (.newExpr id blueprint)) := by
  rw [perform, perform]
  refine shown_of_within
    (Outcome.within_andThen (fun e t => ?_) (build_withoutDiscards blueprint s))
  exact congrArg (fun t => Outcome.value _ (bind t id (.expr e))) t.withoutDiscards_withoutDiscards

/-- Making a journal under a name. -/
theorem shown_newJournal [Host] (id name : String) :
    shown (s.withoutDiscards.perform (.newJournal id name)) =
      shown (s.perform (.newJournal id name)) := by
  rw [perform, perform, show s.withoutDiscards.store = s.store.withoutDiscards from rfl,
    Store.addJournal_withoutDiscards]
  exact ((s.withStore (s.store.addJournal name).2).bind id
    (.journal (s.store.addJournal name).1)).shown_same _ _

/-- Setting the level of the channel, or failing to. -/
theorem shown_setLevel [Host] (settings : Settings) (records : List Record) :
    shown (s.withoutDiscards.setLevel settings records) =
      shown (s.setLevel settings records) := by
  rw [setLevel, setLevel]
  cases settings.rank with
  | error fault => exact s.shown_same _ records
  | ok level => exact (s.withChannel (s.channel.configure level)).shown_same _ records

/-! ## Steps on filters and expressions -/

section Filters

variable {α : Type} (name : String) (yields : α → Value)

/-- A change of a filter and its journal that does not depend on the entries of discarded criteria.
-/
theorem shown_change {operation : Filter → Journal → Outcome (Filter × Journal) α}
    (h : ∀ f j, (operation f j.withoutDiscards).within Filter.undiscarded =
      (operation f j).within Filter.undiscarded) :
    shown (s.withoutDiscards.onFilter name yields fun id t => t.onFilter id operation) =
      shown (s.onFilter name yields fun id t => t.onFilter id operation) :=
  s.shown_onFilter name (s.store.onFilter_withoutDiscards h)

/-- A change of the settings of a filter that is not written to its journal. -/
theorem shown_setFilter (change : Filter → Filter) :
    shown (s.withoutDiscards.onFilter name (fun _ => .nothing) fun id t =>
        .value () (t.setFilter id (change (t.filter id)))) =
      shown (s.onFilter name (fun _ => .nothing) fun id t =>
        .value () (t.setFilter id (change (t.filter id)))) :=
  s.shown_onFilter name fun id => Store.within_of_eq
    (f := fun t => .value () (t.setFilter id (change (t.filter id))))
    (congrArg (Outcome.value ()) (s.store.setFilter_withoutDiscards id _))

/-- What is read off a filter, and written of it. -/
theorem shown_readFilter (view : Filter → α) (records : Filter → List Record) :
    shown (s.withoutDiscards.onFilter name yields fun id t =>
        ⟨.ok (view (t.filter id)), records (t.filter id), t⟩) =
      shown (s.onFilter name yields fun id t =>
        ⟨.ok (view (t.filter id)), records (t.filter id), t⟩) :=
  s.shown_onFilter name fun id => Store.within_of_eq
    (f := fun t => ⟨.ok (view (t.filter id)), records (t.filter id), t⟩) rfl

/-- What is shown of a filter. -/
theorem shown_viewFilter (view : Filter → Value) :
    shown (s.withoutDiscards.viewFilter name view) = shown (s.viewFilter name view) :=
  s.shown_readFilter name view id fun _ => []

/-- How an expression is shown. -/
theorem shown_render [Host] :
    shown (s.withoutDiscards.perform (.render name)) = shown (s.perform (.render name)) := by
  rw [perform, perform]
  exact s.shown_onExpr name fun e => Store.within_of_eq (f := fun t => .value (e.render t) t)
    (congrArg (Outcome.value · _) (e.render_withoutDiscards s.store))

end Filters

/-! ## Steps on journals -/

section Journals

variable (name : String)

/-- Keeping an entry in a journal by its name. -/
theorem shown_keepEntry (e : Entry) :
    shown (s.withoutDiscards.keepEntry name e) = shown (s.keepEntry name e) :=
  s.shown_onJournal name fun j =>
    congrArg (Outcome.map fun _ => Value.nothing.withoutDiscards) (s.store.keep_withoutDiscards j e)

variable [Host]

/-- The entries of a journal, but for those of discarded criteria. -/
theorem shown_entries :
    shown (s.withoutDiscards.perform (.entries name)) = shown (s.perform (.entries name)) := by
  rw [perform, perform]
  refine s.shown_onJournal name fun j => ?_
  have hentries : (Value.entries (s.store.journal j).withoutDiscards.entries).withoutDiscards =
      (Value.entries (s.store.journal j).entries).withoutDiscards := by
    simp [Value.withoutDiscards, Journal.withoutDiscards]
  rw [Store.journal_withoutDiscards]
  exact congrArg₂ Outcome.value hentries s.store.withoutDiscards_withoutDiscards

/-- Removing all entries of a journal. -/
theorem shown_clearEntries :
    shown (s.withoutDiscards.perform (.clearEntries name)) =
      shown (s.perform (.clearEntries name)) := by
  rw [perform, perform]
  refine s.shown_onJournal name fun j => ?_
  rw [Store.journal_withoutDiscards]
  exact congrArg (Outcome.mk _ _)
    (Store.withoutDiscards_setJournal s.store.withoutDiscards_withoutDiscards j rfl)

end Journals

/-! ## All steps -/

variable [Host]

/-- No step depends on the entries of discarded criteria.

**Proof sketch.** One case for each kind of step, by what it changes or reads. Evaluation reads
filters only, and what is written to a journal is added to its entries, whatever they are. -/
theorem shown_perform (step : Step) :
    shown (s.withoutDiscards.perform step) = shown (s.perform step) := by
  cases step with
  | newFilter id name allowMissing strict journal? =>
    rw [perform, perform, journalId_withoutDiscards]
    split
    · exact s.shown_same _ _
    · exact s.shown_addFilter id _ _ _ _
  | newFilterOfSettings id name settings => exact s.shown_addFilter id _ _ _ _
  | newFilterOfEnvironment id name environment validate =>
    rw [perform, perform]
    split
    · exact s.shown_same _ _
    · exact s.shown_addFilter id _ _ _ _
  | newExpr id blueprint => exact s.shown_newExpr id blueprint
  | newJournal id name => exact s.shown_newJournal id name
  | configure settings => exact s.shown_setLevel settings []
  | configureByEnvironment environment =>
    rw [perform, perform]
    split
    · exact s.shown_same _ _
    · exact s.shown_setLevel _ _
  | register name key operator value? =>
    exact s.shown_change name .registration (Filter.register_withoutDiscards key operator value?)
  | reset name => exact s.shown_change name _ Filter.reset_withoutDiscards
  | allowOmitted name allow =>
    exact s.shown_change name _ (Filter.allowOmitted_withoutDiscards allow)
  | setStrict name strict => exact s.shown_setFilter name fun f => { f with strict }
  | satisfies name r =>
    exact s.shown_onExpr name fun e => Store.within_of_eq (e.satisfies_withoutDiscards r _)
  | select name rs =>
    exact s.shown_onExpr name fun e => Store.within_of_eq (e.select_withoutDiscards rs _)
  | criteria name => exact s.shown_viewFilter name _
  | criteriaByKey name => exact s.shown_viewFilter name _
  | render name => exact s.shown_render name
  | logCriteria name =>
    exact s.shown_readFilter name _ (fun _ => ()) fun f => [.listing f.name f.renderings]
  | entries name => exact s.shown_entries name
  | clearEntries name => exact s.shown_clearEntries name
  | logRegistered name key rendered count => exact s.shown_keepEntry name _
  | logDiscarded name key operator reason => exact s.shown_keepEntry name _
  | logReset name count => exact s.shown_keepEntry name _
  | logPolicy name allow => exact s.shown_keepEntry name _
  | logEntry name level action key message details =>
    rw [perform, perform]
    split
    · exact s.shown_same _ _
    · exact s.shown_keepEntry name _
  | recordOutcome _ _ _ _ => exact s.shown_same _ _
  | recordError _ _ _ _ => exact s.shown_same _ _
  | recordLenient _ _ _ _ => exact s.shown_same _ _
  | recordListing _ _ => exact s.shown_same _ _

/-- Sessions that are the same but for the entries of discarded criteria answer a step in the same
way, and are the same after it, but for these. -/
theorem answer_congr {s t : Session} (h : s.withoutDiscards = t.withoutDiscards) (step : Step) :
    (s.answer step).1.withoutDiscards = (t.answer step).1.withoutDiscards ∧
      (s.perform step).state.withoutDiscards = (t.perform step).state.withoutDiscards := by
  have hshown : shown (s.perform step) = shown (t.perform step) := by
    rw [← shown_perform, h, shown_perform]
  obtain ⟨hresult, hrecords, hstate⟩ := Outcome.mk.inj hshown
  have hafter : (s.perform step).state.withoutDiscards = (t.perform step).state.withoutDiscards :=
    hstate
  have hwritten : (s.perform step).records = (t.perform step).records := hrecords
  have hchannel : s.channel = t.channel := by
    show s.withoutDiscards.channel = t.withoutDiscards.channel
    rw [h]
  -- what is shown of a filter, but for the count, does not depend on the entries either
  have hview : ∀ u : Session,
      ((step.id?.bind u.filterId?).map u.filterView).map FilterView.uncounted =
        ((step.id?.bind u.withoutDiscards.filterId?).map u.withoutDiscards.filterView).map
          FilterView.uncounted := by
    intro u
    rw [Option.map_map, Option.map_map]
    rfl
  refine ⟨?_, hafter⟩
  rw [answer, answer, Answer.withoutDiscards, Answer.withoutDiscards, hchannel, hwritten, hview,
    hafter, ← hview]
  exact congrArg (Answer.mk · _ _ _) hresult

end Session

end Winnow

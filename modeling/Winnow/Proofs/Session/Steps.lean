import Winnow.Proofs.Run
import Winnow.Proofs.Session.Growth

set_option autoImplicit false

/-!
# What the steps of a session do to its store

A step is an operation on the store, or else it only adds to the store and works on a journal by its
name. So every step keeps the addresses that are in use within the store, and what a step does to a
filter or a journal that it does not name can be told without going through the steps.

## Main definitions

* `Winnow.Store.Operation.target?` — the filter that an operation changes.
* `Winnow.Session.after` — the session after steps.
* `Winnow.Session.operation?`, `Winnow.Session.reached?` — the operation that a step is, and the
  journal that it works on by its name.
* `Winnow.Session.Throughout` — a property of each of some steps, in the session that it is taken
  in.

## Main results

* `Winnow.Session.perform_of_operation`, `Winnow.Session.grows_perform` — what a step does, in the
  two cases.
* `Winnow.Session.isClosed_after` — sessions use addresses of their own store only.
-/

namespace Winnow

namespace Store

/-! ## Operations and the rest of the store -/

/-- The filter that an operation changes, if it is not an evaluation. -/
def Operation.target? : Operation → Option FilterId
  | .register id _ _ _ | .reset id | .allowOmitted id _ | .setStrict id _ => some id
  | .satisfies _ _ | .select _ _ => none

/-- Stores that agree but for the memory of warnings have the same journals. -/
theorem journals_of_unwarned_eq {s t : Store} (h : s.unwarned = t.unwarned) :
    s.journals = t.journals := by
  show s.unwarned.journals = t.unwarned.journals
  rw [h]

/-- The journals of filters do not depend on the memory of warnings. -/
theorem journalOf_unwarned (s : Store) (id : FilterId) :
    s.unwarned.journalOf id = s.journalOf id := by
  simp only [journalOf, unwarned, List.getElem?_map]
  cases s.filters[id.index]? <;> rfl

variable [Host] (s : Store) (operation : Operation)

/-- No operation gives a filter another journal. -/
theorem journalOf_perform (id : FilterId) :
    (s.perform operation).state.journalOf id = s.journalOf id := by
  cases operation with
  | register i key operator value? => rw [perform, Outcome.map, journalOf_onFilter]
  | reset i => rw [perform, Outcome.map, journalOf_onFilter]
  | allowOmitted i allow => rw [perform, Outcome.map, journalOf_onFilter]
  | setStrict i strict => rw [perform, Outcome.value, journalOf_setFilter]
  | satisfies e r =>
    rw [← journalOf_unwarned, ← s.journalOf_unwarned]
    exact congrArg (Store.journalOf · id) (e.unwarned_satisfies r s)
  | select e rs =>
    rw [← journalOf_unwarned, ← s.journalOf_unwarned]
    exact congrArg (Store.journalOf · id) (e.unwarned_select rs s)

/-- No operation adds a journal. -/
theorem length_journals_perform :
    (s.perform operation).state.journals.length = s.journals.length := by
  cases operation with
  | register i key operator value? => rw [perform, Outcome.map, length_journals_onFilter]
  | reset i => rw [perform, Outcome.map, length_journals_onFilter]
  | allowOmitted i allow => rw [perform, Outcome.map, length_journals_onFilter]
  | setStrict i strict => rfl
  | satisfies e r => rw [perform, Outcome.map, journals_of_unwarned_eq (e.unwarned_satisfies r s)]
  | select e rs => rw [perform, Outcome.map, journals_of_unwarned_eq (e.unwarned_select rs s)]

variable {s operation}

/-- An operation leaves the filters alone that it does not change, but for the memory of warnings.
-/
theorem unwarned_perform_of_ne {id : FilterId} (hid : id.index < s.filters.length)
    (h : operation.target? ≠ some id) :
    ((s.perform operation).state.filter id).unwarned = (s.filter id).unwarned := by
  rw [unwarned_perform hid]
  cases operation with
  | register i _ _ _ => exact if_neg fun hi => h (congrArg some hi)
  | reset i => exact if_neg fun hi => h (congrArg some hi)
  | allowOmitted i _ => exact if_neg fun hi => h (congrArg some hi)
  | setStrict i _ => exact if_neg fun hi => h (congrArg some hi)
  | satisfies _ _ => rfl
  | select _ _ => rfl

/-- An operation keeps the addresses that are in use within the store. -/
theorem IsClosed.perform (hs : s.IsClosed) : (s.perform operation).state.IsClosed := by
  intro i hi
  rw [length_filters_perform] at hi
  rw [journalOf_perform, length_journals_perform]
  exact hs i hi

end Store

namespace Session

/-! ## Runs of steps -/

section

variable [Host]

/-- The session after steps, one after another. -/
def after (s : Session) (steps : List Step) : Session :=
  steps.foldl (fun s step => (s.perform step).state) s

/-- Each of some steps has a property in the session that it is taken in. -/
def Throughout (P : Session → Step → Prop) : Session → List Step → Prop
  | _, [] => True
  | s, step :: steps => P s step ∧ Throughout P (s.perform step).state steps

instance decidableThroughout {P : Session → Step → Prop} [∀ s step, Decidable (P s step)] :
    ∀ (s : Session) (steps : List Step), Decidable (Throughout P s steps)
  | _, [] => .isTrue trivial
  | s, step :: steps =>
    have := decidableThroughout (P := P) (s.perform step).state steps
    inferInstanceAs (Decidable (_ ∧ _))

/-- What each of the steps keeps is true after all of them. -/
theorem Throughout.after {P : Session → Step → Prop} {Q : Session → Prop}
    (hstep : ∀ s step, Q s → P s step → Q (s.perform step).state) {steps : List Step}
    {s : Session} (h : Throughout P s steps) (hs : Q s) : Q (s.after steps) := by
  induction steps generalizing s with
  | nil => exact hs
  | cons step steps ih => exact ih h.2 (hstep s step hs h.1)

end

/-! ## Two kinds of steps -/

/-- The operation on the store that a step is, if it is one on something that has its name. -/
def operation? (s : Session) : Step → Option Store.Operation
  | .register name key operator value? => (s.filterId? name).map (.register · key operator value?)
  | .reset name => (s.filterId? name).map .reset
  | .allowOmitted name allow => (s.filterId? name).map (.allowOmitted · allow)
  | .setStrict name strict => (s.filterId? name).map (.setStrict · strict)
  | .satisfies name r => (s.expr name).toOption.map (.satisfies · r)
  | .select name rs => (s.expr name).toOption.map (.select · rs)
  | _ => none

/-- The filter that a step changes, if it changes one. -/
def target? (s : Session) (step : Step) : Option FilterId :=
  (s.operation? step).bind Store.Operation.target?

/-- The journal that a step gives to a new filter, writes to or clears, all by its name. -/
def reached? (s : Session) : Step → Option JournalId
  | .newFilter _ _ _ _ (some name) | .clearEntries name | .logRegistered name _ _ _
  | .logDiscarded name _ _ _ | .logReset name _ | .logPolicy name _ | .logEntry name _ _ _ _ _ =>
    (s.journalId name).toOption
  | _ => none

variable {s : Session} {step : Step}

/-- A change of the value of an operation and the store around it do not interfere. -/
theorem map_within {α : Type} (o : Outcome Store α) (yields : α → Value) :
    (o.within s.withStore).map yields = (o.map yields).within s.withStore :=
  rfl

/-- An operation on a filter that has the name. -/
theorem onFilter_of_filterId? {α : Type} {name : String} {id : FilterId}
    (h : s.filterId? name = some id) (yields : α → Value)
    (operation : FilterId → Store → Outcome Store α) :
    s.onFilter name yields operation = ((operation id s.store).map yields).within s.withStore := by
  rw [onFilter, filterId, h, ← map_within]

/-- An expression that is found is that with the name. -/
theorem expr_of_toOption {name : String} {e : Expr} (h : (s.expr name).toOption = some e) :
    s.expr name = .ok e := by
  cases he : s.expr name with
  | error fault => rw [he] at h; cases h
  | ok d => rw [he] at h; exact congrArg Except.ok (Option.some.inj h)

/-- An expression that is not found is a fault. -/
theorem expr_of_toOption_eq_none {name : String} (h : (s.expr name).toOption = none) :
    ∃ fault, s.expr name = .error fault := by
  cases he : s.expr name with
  | error fault => exact ⟨fault, rfl⟩
  | ok e => rw [he] at h; cases h

/-- An operation on an expression that has the name. -/
theorem onExpr_of_expr {α : Type} {name : String} {e : Expr} (h : s.expr name = .ok e)
    (yields : α → Value) (operation : Expr → Store → Outcome Store α) :
    s.onExpr name yields operation = ((operation e s.store).map yields).within s.withStore := by
  rw [onExpr, h, ← map_within]

/-! ## Steps that are no operations -/

/-- What such a step does: the store is extended, and new objects use addresses of it. -/
structure Grows (s : Session) (reached? : Option JournalId) (t : Session) : Prop where
  extends_store : s.store.Extends reached? t.store
  objects : ∀ object ∈ t.objects, object ∈ s.objects ∨ object.2.IsClosed t.store

/-- A session grows if neither the store nor the objects change. -/
theorem Grows.of_eq {t : Session} {reached? : Option JournalId} (hstore : t.store = s.store)
    (hobjects : t.objects = s.objects) : s.Grows reached? t where
  extends_store := by rw [hstore]; exact .refl _ _
  objects object hobject := .inl (hobjects ▸ hobject)

/-- Adding a filter under a name. -/
theorem grows_addFilter (s : Session) (id : String) (f : Filter) (journal? : Option JournalId) :
    s.Grows journal? (s.addFilter id f journal?) where
  extends_store := s.store.extends_addFilter f journal?
  objects object hobject := by
    obtain rfl | hobject := List.mem_cons.mp hobject
    · exact .inr (Expr.isClosed_filter.mpr (s.store.index_addFilter_lt f journal?))
    · exact .inl hobject

/-- Adding a journal under a name. -/
theorem grows_addJournal (s : Session) (id name : String) :
    s.Grows none ((s.withStore (s.store.addJournal name).2).bind id
      (.journal (s.store.addJournal name).1)) where
  extends_store := s.store.extends_addJournal name
  objects object hobject := by
    obtain rfl | hobject := List.mem_cons.mp hobject
    · exact .inr (by simp [Object.IsClosed, bind, withStore, Store.addJournal])
    · exact .inl hobject

section Unchanged

variable {α : Type} {name : String} {yields : α → Value}

/-- What is only read off a filter changes nothing. -/
theorem state_onFilter {operation : FilterId → Store → Outcome Store α}
    (h : ∀ id, (operation id s.store).state = s.store) :
    (s.onFilter name yields operation).state = s := by
  rw [onFilter]
  split
  · rfl
  · exact congrArg s.withStore (h _)

/-- What is only read off an expression changes nothing. -/
theorem state_onExpr {operation : Expr → Store → Outcome Store α}
    (h : ∀ e, (operation e s.store).state = s.store) :
    (s.onExpr name yields operation).state = s := by
  rw [onExpr]
  split
  · rfl
  · exact congrArg s.withStore (h _)

/-- What is only read off a journal changes nothing. -/
theorem state_onJournal {operation : JournalId → Store → Outcome Store α}
    (h : ∀ j, (operation j s.store).state = s.store) :
    (s.onJournal name yields operation).state = s := by
  rw [onJournal]
  split
  · rfl
  · exact congrArg s.withStore (h _)

/-- An operation on a journal reaches that journal. -/
theorem grows_onJournal {operation : JournalId → Store → Outcome Store α}
    (h : ∀ j, s.store.Extends (some j) (operation j s.store).state) :
    s.Grows (s.journalId name).toOption (s.onJournal name yields operation).state := by
  rw [onJournal]
  cases s.journalId name with
  | error fault => exact .of_eq rfl rfl
  | ok j => exact ⟨h j, fun object hobject => .inl hobject⟩

/-- Writing an entry to a journal reaches that journal. -/
theorem grows_keepEntry (e : Entry) :
    s.Grows (s.journalId name).toOption (s.keepEntry name e).state :=
  grows_onJournal fun j => s.store.extends_setJournal j _

end Unchanged

/-! ## Addresses in use -/

/-- A journal that a step works on by its name is in the store. -/
theorem index_reached?_lt (hs : s.IsClosed) {j : JournalId} (h : s.reached? step = some j) :
    j.index < s.store.journals.length := by
  have hname : ∀ name, s.journalId name = .ok j → j.index < s.store.journals.length := by
    intro name hj
    rw [journalId] at hj
    split at hj
    · rename_i i hlookup
      cases hj
      exact hs.objects _ (mem_of_lookup hlookup)
    · rename_i id hlookup
      cases hj
      exact hs.store id (Expr.isClosed_filter.mp (hs.objects _ (mem_of_lookup hlookup)))
    · cases hj
  obtain ⟨name, hj⟩ : ∃ name, (s.journalId name).toOption = some j := by
    unfold reached? at h
    split at h
    all_goals first | exact ⟨_, h⟩ | cases h
  refine hname name ?_
  cases hi : s.journalId name with
  | error fault => rw [hi] at hj; cases hj
  | ok i => rw [hi] at hj; exact congrArg Except.ok (Option.some.inj hj)

/-- A session that grows uses its own addresses only if it has done so before. -/
theorem Grows.isClosed {t : Session} {reached? : Option JournalId} (h : s.Grows reached? t)
    (hs : s.IsClosed) (hreached : ∀ j, reached? = some j → j.index < s.store.journals.length) :
    t.IsClosed where
  store := h.extends_store.isClosed hs.store hreached
  objects object hobject := by
    obtain hold | hnew := h.objects object hobject
    · exact (hs.objects object hold).mono h.extends_store.length_filters
        h.extends_store.length_journals
    · exact hnew

/-- The session without objects uses no addresses. -/
theorem isClosed_initial : initial.IsClosed :=
  ⟨nofun, nofun⟩

/-! ## What steps do -/

variable [Host]

/-- A step that is an operation on the store comes to what that operation comes to. -/
theorem perform_of_operation {operation : Store.Operation}
    (h : s.operation? step = some operation) :
    s.perform step = (s.store.perform operation).within s.withStore := by
  cases step <;> simp only [operation?, Option.map_eq_some_iff, reduceCtorEq] at h
  case register | reset | allowOmitted =>
    obtain ⟨id, hid, rfl⟩ := h
    rw [perform, onFilter_of_filterId? hid, Store.perform]
  case setStrict =>
    obtain ⟨id, hid, rfl⟩ := h
    rw [perform, onFilter_of_filterId? hid, Store.perform]
    rfl
  case satisfies | select =>
    obtain ⟨e, he, rfl⟩ := h
    rw [perform, onExpr_of_expr (expr_of_toOption he), Store.perform]

/-- Setting the level changes neither the store nor the objects. -/
theorem grows_setLevel (s : Session) (settings : Settings) (records : List Record) :
    s.Grows none (s.setLevel settings records).state := by
  rw [setLevel]
  split
  · exact .of_eq rfl rfl
  · exact .of_eq rfl rfl

/-- Adding an expression under a name. -/
theorem grows_newExpr (hs : s.IsClosed) (id : String) (blueprint : Blueprint) :
    s.Grows none (s.perform (.newExpr id blueprint)).state := by
  have hbuilt := extends_build blueprint s
  rw [perform]
  cases he : (s.build blueprint).result with
  | error fault =>
    rw [Outcome.andThen_of_error he]
    exact ⟨hbuilt.extends_store, fun object hobject => .inl (hbuilt.objects_eq ▸ hobject)⟩
  | ok e =>
    rw [Outcome.andThen_of_ok he]
    refine ⟨hbuilt.extends_store, fun object hobject => ?_⟩
    obtain rfl | hobject := List.mem_cons.mp hobject
    · exact .inr (isClosed_build blueprint hs e he)
    · exact .inl (hbuilt.objects_eq ▸ hobject)

/-- A step that is no operation on the store only adds to it, and works on at most one journal.

**Proof sketch.** One case for each kind of step. Those that are operations if something has their
name do nothing else if nothing has it. -/
theorem grows_perform (hs : s.IsClosed) (h : s.operation? step = none) :
    s.Grows (s.reached? step) (s.perform step).state := by
  cases step with
  | newFilter id name allowMissing strict journal? =>
    cases journal? with
    | none => exact s.grows_addFilter id _ none
    | some journal =>
      rw [perform, reached?, Option.mapM_some]
      cases s.journalId journal with
      | error fault => exact .of_eq rfl rfl
      | ok j => exact s.grows_addFilter id _ (some j)
  | newFilterOfSettings id name settings => exact s.grows_addFilter id _ none
  | newFilterOfEnvironment id name environment validate =>
    rw [perform]
    split
    · exact .of_eq rfl rfl
    · exact s.grows_addFilter id _ none
  | newExpr id blueprint => exact grows_newExpr hs id blueprint
  | newJournal id name => exact s.grows_addJournal id name
  | configure settings => exact s.grows_setLevel settings []
  | configureByEnvironment environment =>
    rw [perform]
    split
    · exact .of_eq rfl rfl
    · exact s.grows_setLevel _ _
  | register name key operator value? =>
    rw [perform, onFilter, filterId, Option.map_eq_none_iff.mp h]
    exact .of_eq rfl rfl
  | reset name =>
    rw [perform, onFilter, filterId, Option.map_eq_none_iff.mp h]
    exact .of_eq rfl rfl
  | allowOmitted name allow =>
    rw [perform, onFilter, filterId, Option.map_eq_none_iff.mp h]
    exact .of_eq rfl rfl
  | setStrict name strict =>
    rw [perform, onFilter, filterId, Option.map_eq_none_iff.mp h]
    exact .of_eq rfl rfl
  | satisfies name r =>
    obtain ⟨fault, he⟩ := expr_of_toOption_eq_none (Option.map_eq_none_iff.mp h)
    rw [perform, onExpr, he]
    exact .of_eq rfl rfl
  | select name rs =>
    obtain ⟨fault, he⟩ := expr_of_toOption_eq_none (Option.map_eq_none_iff.mp h)
    rw [perform, onExpr, he]
    exact .of_eq rfl rfl
  | criteria name =>
    rw [perform, viewFilter, state_onFilter fun _ => rfl]
    exact .of_eq rfl rfl
  | criteriaByKey name =>
    rw [perform, viewFilter, state_onFilter fun _ => rfl]
    exact .of_eq rfl rfl
  | render name =>
    rw [perform, state_onExpr fun _ => rfl]
    exact .of_eq rfl rfl
  | logCriteria name =>
    rw [perform, state_onFilter fun _ => rfl]
    exact .of_eq rfl rfl
  | entries name =>
    rw [perform, state_onJournal fun _ => rfl]
    exact .of_eq rfl rfl
  | clearEntries name => exact grows_onJournal fun j => s.store.extends_setJournal j _
  | logRegistered name key rendered count => exact grows_keepEntry _
  | logDiscarded name key operator reason => exact grows_keepEntry _
  | logReset name count => exact grows_keepEntry _
  | logPolicy name allow => exact grows_keepEntry _
  | logEntry name level action key message details =>
    rw [perform]
    split
    · exact .of_eq rfl rfl
    · exact grows_keepEntry _
  | recordOutcome _ _ _ _ | recordError _ _ _ _ | recordLenient _ _ _ _ | recordListing _ _ =>
    exact .of_eq rfl rfl

/-- A step keeps the addresses that are in use within the store. -/
theorem IsClosed.perform (hs : s.IsClosed) : (s.perform step).state.IsClosed := by
  cases h : s.operation? step with
  | none => exact (grows_perform hs h).isClosed hs fun j => index_reached?_lt hs
  | some operation =>
    rw [perform_of_operation h]
    exact ⟨hs.store.perform, fun object hobject => (hs.objects object hobject).mono
      (Nat.le_of_eq (s.store.length_filters_perform operation).symm)
      (Nat.le_of_eq (s.store.length_journals_perform operation).symm)⟩

/-- Sessions use addresses of their own store only. -/
theorem isClosed_after (hs : s.IsClosed) (steps : List Step) : (s.after steps).IsClosed := by
  induction steps generalizing s with
  | nil => exact hs
  | cons step steps ih => exact ih hs.perform

end Session

end Winnow

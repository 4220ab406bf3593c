import Winnow.Proofs.Leaves
import Winnow.Proofs.Registration
import Winnow.Session.Basic

set_option autoImplicit false

/-!
# How a store grows

New filters and journals are added at the end of a store, so addresses keep their meaning. Making an
expression adds filters with journals of their own and registers criteria with these filters only:
all that was there stays as it was.

## Main definitions

* `Winnow.Store.Extends` — a store with more filters and journals.
* `Winnow.Store.IsClosed`, `Winnow.Expr.IsClosed` — filters of a store, or an expression over them,
  that use addresses of that store only.

## Main results

* `Winnow.Store.Extends.onFilter` — an operation on a new filter leaves what was there alone.
* `Winnow.Session.extends_build` — making an expression extends the store.
* `Winnow.Session.isClosed_build` — the expression uses addresses of that store only.
-/

namespace Winnow

/-! ## Values of outcomes -/

namespace Outcome

variable {σ α β : Type}

/-- Where the value of an outcome that has been replaced comes from. -/
theorem result_map_eq_ok {f : α → β} {o : Outcome σ α} {b : β} :
    (o.map f).result = .ok b ↔ ∃ a, o.result = .ok a ∧ f a = b := by
  cases h : o.result <;> simp [map, h, Except.map]

/-- The value of the last of two operations, and the state that it has left. -/
theorem result_andThen_eq_ok {f : α → σ → Outcome σ β} {o : Outcome σ α} {b : β}
    (h : (o.andThen f).result = .ok b) :
    ∃ a, o.result = .ok a ∧ (f a o.state).result = .ok b ∧
      (o.andThen f).state = (f a o.state).state := by
  cases ho : o.result with
  | error fault => rw [andThen_of_error ho] at h; cases h
  | ok a => rw [andThen_of_ok ho] at h ⊢; exact ⟨a, rfl, h, rfl⟩

end Outcome

namespace Store

/-! ## Journals of a store -/

/-- Replacing a journal replaces it. -/
theorem journal_setJournal_self {s : Store} {j : JournalId} (h : j.index < s.journals.length)
    (journal : Journal) : (s.setJournal j journal).journal j = journal := by
  simp [Store.journal, setJournal, h]

/-- Replacing a journal leaves the others alone. -/
theorem journal_setJournal_of_ne {s : Store} {i j : JournalId} (h : i ≠ j) (journal : Journal) :
    (s.setJournal j journal).journal i = s.journal i := by
  have hne : j.index ≠ i.index := fun he => h (by cases i; cases j; simp_all)
  simp [Store.journal, setJournal, List.getElem?_set_ne hne]

/-- Replacing a filter does not give a filter another journal. -/
@[simp] theorem journalOf_setFilter (s : Store) (id : FilterId) (f : Filter) (i : FilterId) :
    (s.setFilter id f).journalOf i = s.journalOf i := by
  simp only [journalOf, setFilter]
  by_cases hi : id.index = i.index
  · by_cases hlt : i.index < s.filters.length
    · simp [hi, hlt]
    · rw [List.getElem?_eq_none (by simpa using Nat.le_of_not_lt hlt),
        List.getElem?_eq_none (Nat.le_of_not_lt hlt)]
  · rw [List.getElem?_set_ne hi]

/-- Replacing a journal does not give a filter another one. -/
@[simp] theorem journalOf_setJournal (s : Store) (j : JournalId) (journal : Journal)
    (i : FilterId) : (s.setJournal j journal).journalOf i = s.journalOf i := by
  simp only [journalOf, setJournal, List.length_set]

/-- Replacing a journal keeps the number of journals. -/
@[simp] theorem length_journals_setJournal (s : Store) (j : JournalId) (journal : Journal) :
    (s.setJournal j journal).journals.length = s.journals.length := by
  simp [setJournal]

section OnFilter

variable {α : Type} (s : Store) (id : FilterId)
  (operation : Filter → Journal → Outcome (Filter × Journal) α)

/-- An operation on a filter does not give a filter another journal. -/
@[simp] theorem journalOf_onFilter (i : FilterId) :
    (s.onFilter id operation).state.journalOf i = s.journalOf i := by
  simp [onFilter, Outcome.within]

/-- An operation on a filter keeps the number of journals. -/
@[simp] theorem length_journals_onFilter :
    (s.onFilter id operation).state.journals.length = s.journals.length := by
  simp [onFilter, Outcome.within, setFilter]

variable {s id}

/-- What an operation on a filter makes of the journal of that filter. -/
theorem journal_onFilter_self (h : (s.journalOf id).index < s.journals.length) :
    (s.onFilter id operation).state.journal (s.journalOf id) =
      (operation (s.filter id) (s.journal (s.journalOf id))).state.2 :=
  journal_setJournal_self h _

/-- An operation on a filter leaves the other journals alone. -/
theorem journal_onFilter_of_ne {j : JournalId} (h : j ≠ s.journalOf id) :
    (s.onFilter id operation).state.journal j = s.journal j :=
  journal_setJournal_of_ne h _

end OnFilter

/-! ## Extensions -/

/-- A store with more filters and journals. What was there is as it was, and each new filter has a
new journal; but there may be one journal that has been written to or is that of new filters. -/
structure Extends (s : Store) (reached? : Option JournalId) (t : Store) : Prop where
  length_filters : s.filters.length ≤ t.filters.length
  length_journals : s.journals.length ≤ t.journals.length
  filter_eq : ∀ i : FilterId, i.index < s.filters.length → t.filter i = s.filter i
  journalOf_eq : ∀ i : FilterId, i.index < s.filters.length → t.journalOf i = s.journalOf i
  journal_eq : ∀ j : JournalId, j.index < s.journals.length → reached? ≠ some j →
    t.journal j = s.journal j
  journalOf_new : ∀ i : FilterId, s.filters.length ≤ i.index → i.index < t.filters.length →
    reached? = some (t.journalOf i) ∨
      s.journals.length ≤ (t.journalOf i).index ∧ (t.journalOf i).index < t.journals.length

variable {s t u : Store} {reached? : Option JournalId}

/-- A store extends itself. -/
theorem Extends.refl (s : Store) (reached? : Option JournalId) : s.Extends reached? s where
  length_filters := Nat.le_refl _
  length_journals := Nat.le_refl _
  filter_eq _ _ := rfl
  journalOf_eq _ _ := rfl
  journal_eq _ _ _ := rfl
  journalOf_new _ hge hlt := absurd hlt (Nat.not_lt.mpr hge)

/-- An extension can be extended. -/
theorem Extends.trans (hst : s.Extends reached? t) (htu : t.Extends reached? u) :
    s.Extends reached? u where
  length_filters := Nat.le_trans hst.length_filters htu.length_filters
  length_journals := Nat.le_trans hst.length_journals htu.length_journals
  filter_eq i hi :=
    (htu.filter_eq i (Nat.lt_of_lt_of_le hi hst.length_filters)).trans (hst.filter_eq i hi)
  journalOf_eq i hi :=
    (htu.journalOf_eq i (Nat.lt_of_lt_of_le hi hst.length_filters)).trans (hst.journalOf_eq i hi)
  journal_eq j hj hne :=
    (htu.journal_eq j (Nat.lt_of_lt_of_le hj hst.length_journals) hne).trans
      (hst.journal_eq j hj hne)
  journalOf_new i hge hlt := by
    by_cases hi : i.index < t.filters.length
    · rw [htu.journalOf_eq i hi]
      exact (hst.journalOf_new i hge hi).imp_right fun ⟨hlow, hhigh⟩ =>
        ⟨hlow, Nat.lt_of_lt_of_le hhigh htu.length_journals⟩
    · exact (htu.journalOf_new i (Nat.le_of_not_lt hi) hlt).imp_right fun ⟨hlow, hhigh⟩ =>
        ⟨Nat.le_trans hst.length_journals hlow, hhigh⟩

/-- If no journal is reached, every new filter has a new one. -/
theorem Extends.journalOf_of_none (h : s.Extends none t) {i : FilterId}
    (hge : s.filters.length ≤ i.index) (hlt : i.index < t.filters.length) :
    s.journals.length ≤ (t.journalOf i).index ∧ (t.journalOf i).index < t.journals.length :=
  (h.journalOf_new i hge hlt).resolve_left nofun

/-- Adding a journal extends a store. -/
theorem extends_addJournal (s : Store) (name : String) : s.Extends none (s.addJournal name).2 where
  length_filters := Nat.le_refl _
  length_journals := by simp [addJournal]
  filter_eq _ _ := rfl
  journalOf_eq i hi := by simp [addJournal, journalOf, hi]
  journal_eq j hj _ := by simp [addJournal, Store.journal, List.getElem?_append_left hj]
  journalOf_new _ hge hlt := absurd hlt (Nat.not_lt.mpr hge)

/-- Adding a filter adds one. -/
theorem length_filters_addFilter (s : Store) (f : Filter) (journal? : Option JournalId) :
    (s.addFilter f journal?).2.filters.length = s.filters.length + 1 := by
  cases journal? <;> simp [addFilter, addJournal]

/-- Adding a filter extends a store; the journal that it is given, if any, is reached. -/
theorem extends_addFilter (s : Store) (f : Filter) (journal? : Option JournalId) :
    s.Extends journal? (s.addFilter f journal?).2 where
  length_filters := by rw [length_filters_addFilter]; exact Nat.le_succ _
  length_journals := by cases journal? <;> simp [addFilter, addJournal]
  filter_eq i hi := by
    cases journal? <;> simp [addFilter, addJournal, Store.filter, List.getElem?_append_left hi]
  journalOf_eq i hi := by
    cases journal? <;> simp [addFilter, addJournal, journalOf, List.getElem?_append_left hi, hi]
  journal_eq j hj _ := by
    cases journal? <;> simp [addFilter, addJournal, Store.journal, List.getElem?_append_left hj]
  journalOf_new i hge hlt := by
    rw [length_filters_addFilter] at hlt
    have hi : i.index = s.filters.length := Nat.le_antisymm (Nat.le_of_lt_succ hlt) hge
    cases journal? <;> simp [addFilter, addJournal, journalOf, hi]

/-- Writing to a journal, or clearing it, reaches it. -/
theorem extends_setJournal (s : Store) (j : JournalId) (journal : Journal) :
    s.Extends (some j) (s.setJournal j journal) where
  length_filters := Nat.le_refl _
  length_journals := Nat.le_of_eq (s.length_journals_setJournal j journal).symm
  filter_eq _ _ := rfl
  journalOf_eq _ _ := journalOf_setJournal s j journal _
  journal_eq i _ hne := journal_setJournal_of_ne (fun h => hne (by rw [h])) journal
  journalOf_new _ hge hlt := absurd hlt (Nat.not_lt.mpr hge)

/-- The filter that has been added is in the store. -/
theorem index_addFilter_lt (s : Store) (f : Filter) (journal? : Option JournalId) :
    (s.addFilter f journal?).1.index < (s.addFilter f journal?).2.filters.length := by
  rw [length_filters_addFilter]
  cases journal? <;> exact Nat.lt_succ_self _

/-- The filter that has been added. -/
theorem filter_addFilter (s : Store) (f : Filter) (journal? : Option JournalId) :
    (s.addFilter f journal?).2.filter (s.addFilter f journal?).1 = f := by
  cases journal? <;> simp [addFilter, addJournal, Store.filter]

/-- An operation on a new filter leaves what was there alone. -/
theorem Extends.onFilter {α : Type} (h : s.Extends none t) {id : FilterId}
    (hge : s.filters.length ≤ id.index) (hlt : id.index < t.filters.length)
    (operation : Filter → Journal → Outcome (Filter × Journal) α) :
    s.Extends none (t.onFilter id operation).state where
  length_filters := by rw [length_filters_onFilter]; exact h.length_filters
  length_journals := by rw [length_journals_onFilter]; exact h.length_journals
  filter_eq i hi := by
    have hne : i ≠ id := fun he => absurd hi (Nat.not_lt.mpr (he ▸ hge))
    rw [filter_onFilter_of_ne hne, h.filter_eq i hi]
  journalOf_eq i hi := by rw [journalOf_onFilter, h.journalOf_eq i hi]
  journal_eq j hj hreached := by
    have hne : j ≠ t.journalOf id := fun he =>
      absurd hj (Nat.not_lt.mpr (he ▸ (h.journalOf_of_none hge hlt).1))
    rw [journal_onFilter_of_ne operation hne, h.journal_eq j hj hreached]
  journalOf_new i hi hi' := by
    rw [length_filters_onFilter] at hi'
    rw [journalOf_onFilter, length_journals_onFilter]
    exact h.journalOf_new i hi hi'

/-! ## Addresses in use -/

/-- The filters of a store write to journals of that store. -/
def IsClosed (s : Store) : Prop :=
  ∀ i : FilterId, i.index < s.filters.length → (s.journalOf i).index < s.journals.length

/-- An extension of a store that uses its own addresses only does so, too, if the journal that is
reached is in the store. -/
theorem Extends.isClosed (h : s.Extends reached? t) (hs : s.IsClosed)
    (hreached : ∀ j, reached? = some j → j.index < s.journals.length) : t.IsClosed := by
  intro i hi
  by_cases hold : i.index < s.filters.length
  · rw [h.journalOf_eq i hold]
    exact Nat.lt_of_lt_of_le (hs i hold) h.length_journals
  · obtain hj | ⟨-, hlt⟩ := h.journalOf_new i (Nat.le_of_not_lt hold) hi
    · exact Nat.lt_of_lt_of_le (hreached _ hj) h.length_journals
    · exact hlt

end Store

namespace Expr

/-- All filters that an expression refers to are in a store. -/
def IsClosed (s : Store) (e : Expr) : Prop :=
  ∀ id ∈ e.references, id.index < s.filters.length

variable {s t : Store}

/-- The filters of a store are in any store that has as many. -/
theorem IsClosed.mono {e : Expr} (h : e.IsClosed s) (hst : s.filters.length ≤ t.filters.length) :
    e.IsClosed t :=
  fun id hid => Nat.lt_of_lt_of_le (h id hid) hst

/-- A literal refers to nothing. -/
theorem isClosed_literal (b : Bool) : (literal b).IsClosed s := by
  simp [IsClosed]

/-- A comparison refers to nothing. -/
theorem isClosed_comparison (c : Criterion) (allowMissing : Bool) :
    (comparison c allowMissing).IsClosed s := by
  simp [IsClosed]

/-- A filter refers to itself. -/
theorem isClosed_filter {id : FilterId} : (filter id).IsClosed s ↔ id.index < s.filters.length := by
  simp [IsClosed]

/-- A negation refers to filters of a store if its operand does. -/
theorem isClosed_not {e : Expr} (h : e.IsClosed s) : (not e).IsClosed s := by
  simpa [IsClosed] using h

/-- A conjunction refers to filters of a store if its operands do. -/
theorem isClosed_and {es : List Expr} (h : ∀ e ∈ es, e.IsClosed s) : (and es).IsClosed s := by
  intro id hid
  rw [references_and] at hid
  obtain ⟨e, he, hid⟩ := mem_referencesAll.mp hid
  exact h e he id hid

/-- A disjunction refers to filters of a store if its operands do. -/
theorem isClosed_or {es : List Expr} (h : ∀ e ∈ es, e.IsClosed s) : (or es).IsClosed s := by
  intro id hid
  rw [references_or] at hid
  obtain ⟨e, he, hid⟩ := mem_referencesAll.mp hid
  exact h e he id hid

end Expr

/-- An object uses addresses of a store only. -/
def Object.IsClosed (s : Store) : Object → Prop
  | .expr e => e.IsClosed s
  | .journal j => j.index < s.journals.length

/-- The addresses of a store are in any store that has as many. -/
theorem Object.IsClosed.mono {s t : Store} {object : Object} (h : object.IsClosed s)
    (hfilters : s.filters.length ≤ t.filters.length)
    (hjournals : s.journals.length ≤ t.journals.length) : object.IsClosed t := by
  cases object with
  | expr e => exact Expr.IsClosed.mono h hfilters
  | journal j => exact Nat.lt_of_lt_of_le h hjournals

/-! ## Making expressions -/

namespace Session

/-- Registering criteria with a new filter leaves what was there alone.

**Proof sketch.** Induction on the criteria, each of which is an operation on the new filter. -/
theorem extends_registerAll {s : Store} {id : FilterId} (hge : s.filters.length ≤ id.index)
    (criteria : List (String × String × Option String)) {t : Store} (h : s.Extends none t)
    (hlt : id.index < t.filters.length) :
    s.Extends none (registerAll id criteria t).state ∧
      (registerAll id criteria t).state.filters.length = t.filters.length := by
  induction criteria generalizing t with
  | nil => exact ⟨h, rfl⟩
  | cons criterion criteria ih =>
    obtain ⟨key, operator, value?⟩ := criterion
    have hstep := h.onFilter hge hlt (Filter.register key operator value?)
    have hlength := t.length_filters_onFilter id (Filter.register key operator value?)
    rw [registerAll]
    generalize t.onFilter id (Filter.register key operator value?) = o at hstep hlength
    cases hr : o.result with
    | error fault =>
      rw [Outcome.andThen_of_error hr]
      exact ⟨hstep, hlength⟩
    | ok registration =>
      rw [Outcome.andThen_of_ok hr, ← hlength]
      exact ih hstep (by rw [hlength]; exact hlt)

/-- What making an expression does to a session: the store is extended, and the rest is left alone.
-/
structure Built (s t : Session) : Prop where
  objects_eq : t.objects = s.objects
  channel_eq : t.channel = s.channel
  extends_store : s.store.Extends none t.store

/-- Nothing is made of nothing. -/
theorem Built.refl (s : Session) : s.Built s :=
  ⟨rfl, rfl, .refl _ _⟩

/-- More can be made. -/
theorem Built.trans {s t u : Session} (hst : s.Built t) (htu : t.Built u) : s.Built u :=
  ⟨htu.objects_eq.trans hst.objects_eq, htu.channel_eq.trans hst.channel_eq,
    hst.extends_store.trans htu.extends_store⟩

mutual

/-- Making an expression extends the store.

**Proof sketch.** Induction on the blueprint. A filter of it is added with a journal of its own, and
its criteria are registered with it. -/
theorem extends_build : ∀ (b : Blueprint) (s : Session), s.Built (s.build b).state
  | .literal _, s => by rw [build]; exact .refl s
  | .comparison _ _ _ _, s => by rw [build]; exact .refl s
  | .filter name allowMissing strict criteria, s => by
    have hadd := s.store.index_addFilter_lt (.empty name allowMissing strict) none
    have hall := (extends_registerAll (Nat.le_refl _) criteria
      (s.store.extends_addFilter (.empty name allowMissing strict) none) hadd).1
    rw [build]
    exact ⟨rfl, rfl, hall⟩
  | .not operand, s => by rw [build]; exact extends_build operand s
  | .and operands, s => by rw [build]; exact extends_buildAll operands s
  | .or operands, s => by rw [build]; exact extends_buildAll operands s
  | .ref _, s => by rw [build]; exact .refl s

/-- Making several expressions extends the store. -/
theorem extends_buildAll : ∀ (bs : List Blueprint) (s : Session), s.Built (buildAll bs s).state
  | [], s => by rw [buildAll]; exact .refl s
  | b :: bs, s => by
    have hfirst := extends_build b s
    rw [buildAll]
    cases h : (s.build b).result with
    | error fault => rw [Outcome.andThen_of_error h]; exact hfirst
    | ok e => rw [Outcome.andThen_of_ok h]; exact hfirst.trans (extends_buildAll bs _)

end

/-! ## Sessions that use their own addresses -/

/-- The objects of a session, and its filters, use addresses of its store only. -/
structure IsClosed (s : Session) : Prop where
  store : s.store.IsClosed
  objects : ∀ object ∈ s.objects, object.2.IsClosed s.store

/-- What is found under a name is among the objects. -/
theorem mem_of_lookup {name : String} {object : Object} {objects : List (String × Object)}
    (h : objects.lookup name = some object) : (name, object) ∈ objects := by
  obtain ⟨before, after, rfl, -⟩ := List.lookup_eq_some_iff.mp h
  simp

/-- An expression with a name is among the objects. -/
theorem mem_objects_of_expr {s : Session} {name : String} {e : Expr} (h : s.expr name = .ok e) :
    (name, .expr e) ∈ s.objects := by
  rw [expr] at h
  split at h
  · rename_i e' hlookup
    cases h
    exact mem_of_lookup hlookup
  · cases h

/-- A session in which something has been made uses its own addresses only. -/
theorem Built.isClosed {s t : Session} (h : s.Built t) (hs : s.IsClosed) : t.IsClosed where
  store := h.extends_store.isClosed hs.store nofun
  objects object hobject := by
    rw [h.objects_eq] at hobject
    exact (hs.objects object hobject).mono h.extends_store.length_filters
      h.extends_store.length_journals

mutual

/-- The expression that is made uses addresses of the store only.

**Proof sketch.** Induction on the blueprint. A filter has just been added, and an object has been
there before. Of several operands, the first ones are in the store that the next ones extend. -/
theorem isClosed_build : ∀ (b : Blueprint) {s : Session}, s.IsClosed →
    ∀ e, (s.build b).result = .ok e → e.IsClosed (s.build b).state.store
  | .literal b, s, _ => by
    intro e he
    rw [build, Outcome.value, Except.ok.injEq] at he
    rw [← he]
    exact Expr.isClosed_literal b
  | .comparison key operator value? allowMissing, s, _ => by
    intro e he
    rw [build] at he
    obtain ⟨c, -, rfl⟩ := Expr.compare_eq_ok_iff.mp he
    exact Expr.isClosed_comparison c allowMissing
  | .filter name allowMissing strict criteria, s, _ => by
    intro e he
    have hadd := s.store.index_addFilter_lt (.empty name allowMissing strict) none
    have hlength := (extends_registerAll (Nat.le_refl _) criteria
      (s.store.extends_addFilter (.empty name allowMissing strict) none) hadd).2
    rw [build] at he ⊢
    obtain ⟨-, -, rfl⟩ := Outcome.result_map_eq_ok.mp he
    exact Expr.isClosed_filter.mpr (Nat.lt_of_lt_of_eq hadd hlength.symm)
  | .not operand, s, hs => by
    intro e he
    rw [build] at he ⊢
    obtain ⟨d, hd, rfl⟩ := Outcome.result_map_eq_ok.mp he
    exact Expr.isClosed_not (isClosed_build operand hs d hd)
  | .and operands, s, hs => by
    intro e he
    rw [build] at he ⊢
    obtain ⟨es, hes, rfl⟩ := Outcome.result_map_eq_ok.mp he
    exact Expr.isClosed_and (isClosed_buildAll operands hs es hes)
  | .or operands, s, hs => by
    intro e he
    rw [build] at he ⊢
    obtain ⟨es, hes, rfl⟩ := Outcome.result_map_eq_ok.mp he
    exact Expr.isClosed_or (isClosed_buildAll operands hs es hes)
  | .ref name, s, hs => by
    intro e he
    rw [build] at he ⊢
    exact hs.objects _ (mem_objects_of_expr he)

/-- The expressions that are made use addresses of the store only. -/
theorem isClosed_buildAll : ∀ (bs : List Blueprint) {s : Session}, s.IsClosed →
    ∀ es, (buildAll bs s).result = .ok es →
      ∀ e ∈ es, e.IsClosed (buildAll bs s).state.store
  | [], s, _ => by
    intro es hes e he
    rw [buildAll, Outcome.value, Except.ok.injEq] at hes
    rw [← hes] at he
    cases he
  | b :: bs, s, hs => by
    intro es hes e he
    have hbuilt := extends_build b s
    rw [buildAll] at hes ⊢
    obtain ⟨d, hd, hrest, hstate⟩ := Outcome.result_andThen_eq_ok hes
    obtain ⟨ds, hds, rfl⟩ := Outcome.result_map_eq_ok.mp hrest
    rw [hstate]
    obtain rfl | he := List.mem_cons.mp he
    · exact (isClosed_build b hs _ hd).mono (extends_buildAll bs _).extends_store.length_filters
    · exact isClosed_buildAll bs (hbuilt.isClosed hs) ds hds e he

end

end Session

end Winnow

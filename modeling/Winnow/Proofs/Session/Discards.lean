import Winnow.Proofs.Frame
import Winnow.Session.Step

set_option autoImplicit false

/-!
# Journals without the entries of discarded criteria

No operation reads the entries of a journal but to list them. So it comes to the same on journals
that have no entries of discarded criteria, and what it leaves is the same but for such entries.

## Main definitions

* `Winnow.Session.withoutDiscards` — a session without the entries of discarded criteria.

## Main results

* `Winnow.Expr.satisfies_withoutDiscards`, `Winnow.Expr.render_withoutDiscards` — expressions are
  evaluated and shown without the entries of journals.
* `Winnow.Store.onFilter_withoutDiscards` — an operation on a filter and its journal, of which
  `Winnow.Filter.register_withoutDiscards` is the one that writes discarded criteria.
* `Winnow.Session.build_withoutDiscards` — making an expression.
-/

namespace Winnow

/-! ## Journals without the entries of discarded criteria -/

/-- A journal without the entries of discarded criteria. -/
def Journal.withoutDiscards (j : Journal) : Journal :=
  { j with entries := j.entries.filter fun e => e.action ≠ .discard }

/-- A store whose journals have no entries of discarded criteria. -/
def Store.withoutDiscards (s : Store) : Store :=
  { s with journals := s.journals.map Journal.withoutDiscards }

/-- A session whose journals have no entries of discarded criteria. -/
def Session.withoutDiscards (s : Session) : Session :=
  { s with store := s.store.withoutDiscards }

namespace Journal

/-- Entries of discarded criteria are left out once and for all. -/
@[simp] theorem withoutDiscards_withoutDiscards (j : Journal) :
    j.withoutDiscards.withoutDiscards = j.withoutDiscards := by
  simp [withoutDiscards]

/-- Keeping an entry in a journal from which others have been left out. -/
@[simp] theorem withoutDiscards_keep (j : Journal) (e : Entry) :
    (j.withoutDiscards.keep e).1.withoutDiscards = (j.keep e).1.withoutDiscards := by
  simp [withoutDiscards, keep]

/-- An entry of a discarded criterion is left out. -/
theorem withoutDiscards_keep_discarded (j : Journal) {e : Entry} (he : e.action = .discard) :
    (j.keep e).1.withoutDiscards = j.withoutDiscards := by
  simp [withoutDiscards, keep, he]

end Journal

namespace Store

variable (s : Store)

/-- Entries of discarded criteria are left out once and for all. -/
@[simp] theorem withoutDiscards_withoutDiscards :
    s.withoutDiscards.withoutDiscards = s.withoutDiscards := by
  simp [withoutDiscards]

/-- The journals of filters do not depend on the entries. -/
@[simp] theorem journalOf_withoutDiscards (id : FilterId) :
    s.withoutDiscards.journalOf id = s.journalOf id := by
  simp [journalOf, withoutDiscards]

/-- A journal of a store without the entries of discarded criteria. -/
@[simp] theorem journal_withoutDiscards (j : JournalId) :
    s.withoutDiscards.journal j = (s.journal j).withoutDiscards := by
  simp only [journal, withoutDiscards, List.getElem?_map]
  cases s.journals[j.index]? <;> rfl

/-- Replacing a filter does not depend on the entries. -/
theorem setFilter_withoutDiscards (id : FilterId) (f : Filter) :
    s.withoutDiscards.setFilter id f = (s.setFilter id f).withoutDiscards := by
  rw [setFilter, journalOf_withoutDiscards]
  rfl

/-- Replacing a journal by one that has the same entries, but for those of discarded criteria. -/
theorem withoutDiscards_setJournal {s t : Store} (hst : s.withoutDiscards = t.withoutDiscards)
    (j : JournalId) {x y : Journal} (hxy : x.withoutDiscards = y.withoutDiscards) :
    (s.setJournal j x).withoutDiscards = (t.setJournal j y).withoutDiscards := by
  obtain ⟨hfilters, hjournals⟩ := Store.mk.inj hst
  simp only [setJournal, withoutDiscards, List.map_set, hxy]
  rw [hfilters, hjournals]

/-- Replacing a journal by itself changes nothing. -/
@[simp] theorem setJournal_self (j : JournalId) : s.setJournal j (s.journal j) = s := by
  have hset : s.journals.set j.index (s.journal j) = s.journals := by
    by_cases hlt : j.index < s.journals.length
    · have hjournal : s.journal j = s.journals[j.index] := by
        simp [journal, List.getElem?_eq_getElem hlt]
      rw [hjournal, List.set_getElem_self]
    · exact List.set_eq_of_length_le (Nat.le_of_not_lt hlt)
  rw [setJournal, hset]

/-- An entry of a discarded criterion leaves everything else of a store as it was. -/
theorem withoutDiscards_setJournal_keep (j : JournalId) {e : Entry} (he : e.action = .discard) :
    (s.setJournal j ((s.journal j).keep e).1).withoutDiscards = s.withoutDiscards :=
  calc (s.setJournal j ((s.journal j).keep e).1).withoutDiscards
      = (s.setJournal j (s.journal j)).withoutDiscards :=
        withoutDiscards_setJournal rfl j ((s.journal j).withoutDiscards_keep_discarded he)
    _ = s.withoutDiscards := by rw [setJournal_self]

end Store

/-! ## Expressions -/

namespace Expr

mutual

/-- How an expression is shown does not depend on the entries of journals. -/
theorem render_withoutDiscards (s : Store) : ∀ e : Expr, render s.withoutDiscards e = render s e
  | literal _ => by rw [render, render]
  | comparison _ _ => by rw [render, render]
  | filter _ => by rw [render, render]; rfl
  | not operand => by rw [render, render, render_withoutDiscards s operand]
  | and operands => by rw [render, render, renderList_withoutDiscards s operands]
  | or operands => by rw [render, render, renderList_withoutDiscards s operands]

/-- How the operands of an expression are shown does not depend on the entries of journals. -/
theorem renderList_withoutDiscards (s : Store) :
    ∀ es : List Expr, renderList s.withoutDiscards es = renderList s es
  | [] => by rw [renderList, renderList]
  | e :: es => by
    rw [renderList, renderList, render_withoutDiscards s e, renderList_withoutDiscards s es]

end

variable [Host]

mutual

/-- Evaluating an expression does not depend on the entries of journals. -/
theorem satisfies_withoutDiscards (r : Resource) : ∀ (e : Expr) (s : Store),
    satisfies r e s.withoutDiscards = (satisfies r e s).within Store.withoutDiscards
  | literal _, s => by rw [satisfies, satisfies]; rfl
  | comparison _ _, s => by rw [satisfies, satisfies]; rfl
  | filter id, s => by
    rw [satisfies, satisfies]
    exact congrArg (Outcome.mk _ _) (s.setFilter_withoutDiscards id _)
  | not operand, s => by rw [satisfies, satisfies, satisfies_withoutDiscards r operand s]; rfl
  | and operands, s => by
    rw [satisfies, satisfies]
    exact satisfiesAll_withoutDiscards r operands s
  | or operands, s => by
    rw [satisfies, satisfies]
    exact satisfiesAny_withoutDiscards r operands s

/-- Evaluating a conjunction does not depend on the entries of journals. -/
theorem satisfiesAll_withoutDiscards (r : Resource) : ∀ (es : List Expr) (s : Store),
    satisfiesAll r es s.withoutDiscards = (satisfiesAll r es s).within Store.withoutDiscards
  | [], s => by rw [satisfiesAll, satisfiesAll]; rfl
  | e :: es, s => by
    rw [satisfiesAll, satisfiesAll, satisfies_withoutDiscards r e s]
    refine Outcome.andThen_within (fun holds t => ?_) _
    cases holds with
    | false => rfl
    | true => exact satisfiesAll_withoutDiscards r es t

/-- Evaluating a disjunction does not depend on the entries of journals. -/
theorem satisfiesAny_withoutDiscards (r : Resource) : ∀ (es : List Expr) (s : Store),
    satisfiesAny r es s.withoutDiscards = (satisfiesAny r es s).within Store.withoutDiscards
  | [], s => by rw [satisfiesAny, satisfiesAny]; rfl
  | e :: es, s => by
    rw [satisfiesAny, satisfiesAny, satisfies_withoutDiscards r e s]
    refine Outcome.andThen_within (fun holds t => ?_) _
    cases holds with
    | false => exact satisfiesAny_withoutDiscards r es t
    | true => rfl

end

/-- A selection does not depend on the entries of journals. -/
theorem select_withoutDiscards (e : Expr) (rs : List Resource) (s : Store) :
    e.select rs s.withoutDiscards = (e.select rs s).within Store.withoutDiscards := by
  induction rs generalizing s with
  | nil => rfl
  | cons r rs ih =>
    rw [select, select, satisfies_withoutDiscards]
    refine Outcome.andThen_within (fun holds t => ?_) _
    rw [ih]
    rfl

end Expr

/-! ## Changes of filters and journals -/

namespace Filter

/-- A filter and its journal without the entries of discarded criteria. -/
def undiscarded (state : Filter × Journal) : Filter × Journal :=
  (state.1, state.2.withoutDiscards)

/-- Writing an entry does not depend on those of discarded criteria. -/
theorem log_withoutDiscards {α : Type} (a : α) (f : Filter) (j : Journal) (e : Entry) :
    (log a f j.withoutDiscards e).within undiscarded = (log a f j e).within undiscarded :=
  congrArg (fun j => Outcome.mk _ _ (f, j)) (j.withoutDiscards_keep e)

/-- A fault leaves the entries as they were. -/
theorem fault_withoutDiscards {α : Type} (fault : Fault) (f : Filter) (j : Journal) :
    (Outcome.fault (α := α) fault (f, j.withoutDiscards)).within undiscarded =
      (Outcome.fault fault (f, j)).within undiscarded :=
  congrArg (fun j => Outcome.mk _ _ (f, j)) j.withoutDiscards_withoutDiscards

/-- Registering does not depend on the entries of discarded criteria. -/
theorem register_withoutDiscards (key operator : String) (value? : Option String) (f : Filter)
    (j : Journal) :
    (register key operator value? f j.withoutDiscards).within undiscarded =
      (register key operator value? f j).within undiscarded := by
  rw [register, register]
  split
  · exact fault_withoutDiscards _ f j
  · split
    · split
      · exact fault_withoutDiscards _ f j
      · split
        · exact log_withoutDiscards _ _ j _
        · exact log_withoutDiscards _ _ j _
    · exact log_withoutDiscards _ _ j _

/-- Resetting does not depend on the entries of discarded criteria. -/
theorem reset_withoutDiscards (f : Filter) (j : Journal) :
    (reset f j.withoutDiscards).within undiscarded = (reset f j).within undiscarded :=
  log_withoutDiscards () _ j _

/-- Changing the policy does not depend on the entries of discarded criteria. -/
theorem allowOmitted_withoutDiscards (allow : Bool) (f : Filter) (j : Journal) :
    (allowOmitted allow f j.withoutDiscards).within undiscarded =
      (allowOmitted allow f j).within undiscarded :=
  log_withoutDiscards () _ j _

end Filter

namespace Store

/-- An operation on a filter and its journal that does not depend on the entries of discarded
criteria. -/
theorem onFilter_withoutDiscards {α : Type}
    {operation : Filter → Journal → Outcome (Filter × Journal) α}
    (h : ∀ f j, (operation f j.withoutDiscards).within Filter.undiscarded =
      (operation f j).within Filter.undiscarded) (s : Store) (id : FilterId) :
    (s.withoutDiscards.onFilter id operation).within withoutDiscards =
      (s.onFilter id operation).within withoutDiscards := by
  have hoperation := h (s.filter id) (s.journal (s.journalOf id))
  rw [onFilter, onFilter, journalOf_withoutDiscards, journal_withoutDiscards]
  show ((operation (s.filter id) _).within _).within _ = _
  generalize operation (s.filter id) (s.journal (s.journalOf id)).withoutDiscards = o
    at hoperation ⊢
  generalize operation (s.filter id) (s.journal (s.journalOf id)) = o' at hoperation ⊢
  obtain ⟨hresult, hrecords, hstate⟩ := Outcome.mk.inj hoperation
  obtain ⟨hfilter, hjournal⟩ := Prod.mk.inj hstate
  have hreplaced : (s.withoutDiscards.setFilter id o.state.1).withoutDiscards =
      (s.setFilter id o'.state.1).withoutDiscards := by
    rw [setFilter_withoutDiscards, withoutDiscards_withoutDiscards, hfilter]
  rw [Outcome.within, Outcome.within, Outcome.within, Outcome.within, hresult, hrecords]
  exact congrArg (Outcome.mk _ _) (withoutDiscards_setJournal hreplaced _ hjournal)

/-- What an operation comes to that does not depend on the entries of journals at all. -/
theorem within_of_eq {α : Type} {f : Store → Outcome Store α} {s : Store}
    (h : f s.withoutDiscards = (f s).within withoutDiscards) :
    (f s.withoutDiscards).within withoutDiscards = (f s).within withoutDiscards := by
  rw [h]
  exact congrArg (Outcome.mk _ _) (f s).state.withoutDiscards_withoutDiscards

/-- Adding a journal does not depend on the entries of the others. -/
theorem addJournal_withoutDiscards (s : Store) (name : String) :
    s.withoutDiscards.addJournal name =
      ((s.addJournal name).1, (s.addJournal name).2.withoutDiscards) := by
  simp [addJournal, withoutDiscards, Journal.withoutDiscards, Journal.empty]

/-- Adding a filter does not depend on the entries of journals. -/
theorem addFilter_withoutDiscards (s : Store) (f : Filter) (journal? : Option JournalId) :
    s.withoutDiscards.addFilter f journal? =
      ((s.addFilter f journal?).1, (s.addFilter f journal?).2.withoutDiscards) := by
  cases journal? with
  | none =>
    rw [addFilter, addJournal_withoutDiscards]
    rfl
  | some j => rfl

/-- Keeping an entry does not depend on those of discarded criteria. -/
theorem keep_withoutDiscards (s : Store) (j : JournalId) (e : Entry) :
    (s.withoutDiscards.keep j e).within withoutDiscards =
      (s.keep j e).within withoutDiscards := by
  rw [keep, keep, journal_withoutDiscards]
  exact congrArg (Outcome.mk _ _) (withoutDiscards_setJournal s.withoutDiscards_withoutDiscards j
    ((s.journal j).withoutDiscards_keep e))

end Store

namespace Session

variable (s : Session)

/-- Entries of discarded criteria are left out once and for all. -/
@[simp] theorem withoutDiscards_withoutDiscards :
    s.withoutDiscards.withoutDiscards = s.withoutDiscards := by
  simp [withoutDiscards]

/-- Registering several criteria does not depend on the entries of discarded ones. -/
theorem registerAll_withoutDiscards (id : FilterId)
    (criteria : List (String × String × Option String)) (s : Store) :
    (registerAll id criteria s.withoutDiscards).within Store.withoutDiscards =
      (registerAll id criteria s).within Store.withoutDiscards := by
  induction criteria generalizing s with
  | nil => exact congrArg (Outcome.mk _ _) s.withoutDiscards_withoutDiscards
  | cons c criteria ih =>
    rw [registerAll, registerAll]
    exact Outcome.within_andThen (fun _ t => ih t)
      (Store.onFilter_withoutDiscards (Filter.register_withoutDiscards _ _ _) s id)

mutual

/-- Making an expression does not depend on the entries of discarded criteria. -/
theorem build_withoutDiscards : ∀ (b : Blueprint) (s : Session),
    (build b s.withoutDiscards).within withoutDiscards = (build b s).within withoutDiscards
  | .literal _, s => by
    rw [build, build]
    exact congrArg (Outcome.mk _ _) s.withoutDiscards_withoutDiscards
  | .comparison _ _ _ _, s => by
    rw [build, build]
    exact congrArg (Outcome.mk _ _) s.withoutDiscards_withoutDiscards
  | .filter name allowMissing strict criteria, s => by
    have hadded := s.store.addFilter_withoutDiscards (.empty name allowMissing strict) none
    have hregistered := registerAll_withoutDiscards
      (s.store.addFilter (.empty name allowMissing strict) none).1 criteria
      (s.store.addFilter (.empty name allowMissing strict) none).2
    rw [build, build, show s.withoutDiscards.store = s.store.withoutDiscards from rfl, hadded]
    exact congrArg (fun o => (Outcome.within s.withStore o).map fun _ => _) hregistered
  | .not operand, s => by
    rw [build, build]
    exact congrArg (Outcome.map Expr.not) (build_withoutDiscards operand s)
  | .and operands, s => by
    rw [build, build]
    exact congrArg (Outcome.map Expr.and) (buildAll_withoutDiscards operands s)
  | .or operands, s => by
    rw [build, build]
    exact congrArg (Outcome.map Expr.or) (buildAll_withoutDiscards operands s)
  | .ref _, s => by
    rw [build, build]
    exact congrArg (Outcome.mk _ _) s.withoutDiscards_withoutDiscards

/-- Making several expressions does not depend on the entries of discarded criteria. -/
theorem buildAll_withoutDiscards : ∀ (bs : List Blueprint) (s : Session),
    (buildAll bs s.withoutDiscards).within withoutDiscards = (buildAll bs s).within withoutDiscards
  | [], s => by
    rw [buildAll, buildAll]
    exact congrArg (Outcome.mk _ _) s.withoutDiscards_withoutDiscards
  | b :: bs, s => by
    rw [buildAll, buildAll]
    refine Outcome.within_andThen (fun e t => ?_) (build_withoutDiscards b s)
    exact congrArg (Outcome.map (e :: ·)) (buildAll_withoutDiscards bs t)

end

end Session

end Winnow

import Winnow.Expr.Basic

set_option autoImplicit false

/-!
# What operations leave alone

An operation on one filter of a store leaves the others alone, and evaluating an expression leaves
everything alone but the memory of the warnings that have been given.

## Main definitions

* `Winnow.Filter.unwarned`, `Winnow.Store.unwarned` — a filter and a store without the memory of
  warnings.

## Main results

* `Winnow.Store.filter_onFilter` — what an operation on one filter makes of the filters of a store.
* `Winnow.Expr.unwarned_satisfies`, `Winnow.Expr.unwarned_select` — evaluating an expression changes
  only the memory of warnings.
-/

namespace Winnow

instance decidableEqExcept {ε α : Type} [DecidableEq ε] [DecidableEq α] :
    DecidableEq (Except ε α)
  | .error e, .error e' => decidable_of_iff (e = e') ⟨congrArg _, Except.error.inj⟩
  | .ok a, .ok a' => decidable_of_iff (a = a') ⟨congrArg _, Except.ok.inj⟩
  | .error _, .ok _ => isFalse nofun
  | .ok _, .error _ => isFalse nofun

/-! ## Sequences of operations -/

namespace Outcome

variable {σ α β : Type}

/-- After a value the next operation goes on from the state that is left. -/
theorem andThen_of_ok {o : Outcome σ α} {a : α} (h : o.result = .ok a)
    (f : α → σ → Outcome σ β) :
    o.andThen f =
      ⟨(f a o.state).result, o.records ++ (f a o.state).records, (f a o.state).state⟩ := by
  rw [andThen, h]

/-- After a fault there is no next operation. -/
theorem andThen_of_error {o : Outcome σ α} {e : Fault} (h : o.result = .error e)
    (f : α → σ → Outcome σ β) : o.andThen f = ⟨.error e, o.records, o.state⟩ := by
  rw [andThen, h]

/-- Nothing comes before the next operation. -/
theorem value_andThen (a : α) (s : σ) (f : α → σ → Outcome σ β) :
    (value a s).andThen f = f a s := by
  rw [andThen_of_ok rfl]
  rfl

/-- What each of two operations leaves alone, one after the other leaves alone. -/
theorem view_andThen {γ : Type} (view : σ → γ) {o : Outcome σ α} {f : α → σ → Outcome σ β} {v : γ}
    (ho : view o.state = v) (hf : ∀ a, view (f a o.state).state = v) :
    view (o.andThen f).state = v := by
  cases h : o.result with
  | error e => rw [andThen_of_error h]; exact ho
  | ok a => rw [andThen_of_ok h]; exact hf a

/-- One operation after another, on a state that is seen as another one. -/
theorem andThen_within {τ : Type} {view : σ → τ} {f : α → τ → Outcome τ β}
    {g : α → σ → Outcome σ β} (h : ∀ a s, f a (view s) = (g a s).within view) (o : Outcome σ α) :
    (o.within view).andThen f = (o.andThen g).within view := by
  cases ho : o.result with
  | error fault => rw [andThen_of_error ho, andThen_of_error (o := o.within view) ho]; rfl
  | ok a => rw [andThen_of_ok ho, andThen_of_ok (o := o.within view) ho, within, within, h]; rfl

/-- After what cannot be told apart, the next operation cannot tell it apart either, if it does not
depend on what is left out of a state. -/
theorem within_andThen {view : σ → σ} {f : α → σ → Outcome σ β}
    (hf : ∀ a s, (f a (view s)).within view = (f a s).within view) {o o' : Outcome σ α}
    (ho : o.within view = o'.within view) :
    (o.andThen f).within view = (o'.andThen f).within view := by
  obtain ⟨hresult, hrecords, hstate⟩ := Outcome.mk.inj ho
  cases h : o'.result with
  | error fault =>
    rw [andThen_of_error (hresult.trans h), andThen_of_error h, within, within, hrecords, hstate]
  | ok a =>
    have hnext : (f a o.state).within view = (f a o'.state).within view := by
      rw [← hf, hstate, hf]
    obtain ⟨hresult', hrecords', hstate'⟩ := Outcome.mk.inj hnext
    rw [andThen_of_ok (hresult.trans h), andThen_of_ok h, within, within, hrecords, hresult',
      hrecords', hstate']

end Outcome

/-! ## One filter of a store -/

namespace Store

/-- Replacing a filter replaces it. -/
theorem filter_setFilter_self {s : Store} {id : FilterId} (h : id.index < s.filters.length)
    (f : Filter) : (s.setFilter id f).filter id = f := by
  simp [filter, setFilter, h]

/-- Replacing a filter leaves the others alone. -/
theorem filter_setFilter_of_ne {s : Store} {id i : FilterId} (h : i ≠ id) (f : Filter) :
    (s.setFilter id f).filter i = s.filter i := by
  have hne : id.index ≠ i.index := fun he => h (by cases i; cases id; simp_all)
  simp [filter, setFilter, List.getElem?_set_ne hne]

/-- Replacing a journal leaves the filters alone. -/
@[simp] theorem filter_setJournal (s : Store) (j : JournalId) (journal : Journal) (i : FilterId) :
    (s.setJournal j journal).filter i = s.filter i :=
  rfl

/-- Replacing a filter keeps the number of filters. -/
@[simp] theorem length_filters_setFilter (s : Store) (id : FilterId) (f : Filter) :
    (s.setFilter id f).filters.length = s.filters.length := by
  simp [setFilter]

/-- Replacing a filter by itself changes nothing. -/
@[simp] theorem setFilter_self (s : Store) (id : FilterId) : s.setFilter id (s.filter id) = s := by
  have hset : s.filters.set id.index (s.filter id, s.journalOf id) = s.filters := by
    apply List.ext_getElem?
    intro i
    rw [List.getElem?_set]
    split
    · rename_i hi
      subst hi
      split
      · rename_i hlt
        simp [filter, journalOf, List.getElem?_eq_getElem hlt]
      · rename_i hge
        rw [List.getElem?_eq_none (Nat.le_of_not_lt hge)]
    · rfl
  rw [setFilter, hset]

variable {α : Type}

/-- What an operation on a filter comes to does not depend on the rest of the store. -/
theorem result_onFilter (s : Store) (id : FilterId)
    (operation : Filter → Journal → Outcome (Filter × Journal) α) :
    (s.onFilter id operation).result =
      (operation (s.filter id) (s.journal (s.journalOf id))).result :=
  rfl

/-- What an operation on a filter makes of that filter. -/
theorem filter_onFilter_self {s : Store} {id : FilterId} (h : id.index < s.filters.length)
    (operation : Filter → Journal → Outcome (Filter × Journal) α) :
    (s.onFilter id operation).state.filter id =
      (operation (s.filter id) (s.journal (s.journalOf id))).state.1 := by
  simp [onFilter, Outcome.within, filter_setFilter_self h]

/-- An operation on a filter leaves the others alone. -/
theorem filter_onFilter_of_ne {s : Store} {id i : FilterId} (h : i ≠ id)
    (operation : Filter → Journal → Outcome (Filter × Journal) α) :
    (s.onFilter id operation).state.filter i = s.filter i := by
  simp [onFilter, Outcome.within, filter_setFilter_of_ne h]

/-- What an operation on a filter makes of any filter. -/
theorem filter_onFilter {s : Store} {i id : FilterId} (h : id.index < s.filters.length)
    (operation : Filter → Journal → Outcome (Filter × Journal) α) :
    (s.onFilter i operation).state.filter id =
      if i = id then (operation (s.filter id) (s.journal (s.journalOf id))).state.1
      else s.filter id := by
  by_cases hi : i = id
  · rw [if_pos hi, hi, filter_onFilter_self h]
  · rw [if_neg hi, filter_onFilter_of_ne (Ne.symm hi)]

/-- An operation on a filter keeps the number of filters. -/
@[simp] theorem length_filters_onFilter (s : Store) (id : FilterId)
    (operation : Filter → Journal → Outcome (Filter × Journal) α) :
    (s.onFilter id operation).state.filters.length = s.filters.length := by
  simp [onFilter, Outcome.within, setJournal]

end Store

/-! ## The memory of warnings -/

/-- A filter without the memory of its warnings. -/
def Filter.unwarned (f : Filter) : Filter :=
  { f with warned := [] }

/-- A store whose filters have no memory of their warnings. -/
def Store.unwarned (s : Store) : Store :=
  { s with filters := s.filters.map fun entry => (entry.1.unwarned, entry.2) }

namespace Filter

@[simp] theorem groups_unwarned (f : Filter) : f.unwarned.groups = f.groups := rfl

@[simp] theorem allowMissing_unwarned (f : Filter) : f.unwarned.allowMissing = f.allowMissing := rfl

@[simp] theorem strict_unwarned (f : Filter) : f.unwarned.strict = f.strict := rfl

/-- A warning is remembered, and nothing else changes. -/
@[simp] theorem unwarned_warn (f : Filter) (c : Criterion) : (f.warn c).unwarned = f.unwarned := by
  unfold warn
  split <;> rfl

variable [Host]

/-- Evaluating criteria changes only the memory of warnings. -/
theorem unwarned_satisfiesAll (f : Filter) (r : Resource) (cs : List Criterion) :
    (f.satisfiesAll r cs).state.unwarned = f.unwarned := by
  induction cs with
  | nil => rfl
  | cons c cs ih =>
    rw [satisfiesAll]
    split
    · exact ih
    · rfl
    · split
      · exact unwarned_warn f c
      · rfl
    · rfl

/-- Evaluating a filter changes only its memory of warnings. -/
theorem unwarned_satisfies (f : Filter) (r : Resource) :
    (f.satisfies r).state.unwarned = f.unwarned := by
  rw [satisfies]
  split
  · rfl
  · exact unwarned_satisfiesAll f r f.criteria

end Filter

namespace Store

/-- The filters of a store without the memory of warnings. -/
theorem filter_unwarned (s : Store) (id : FilterId) :
    s.unwarned.filter id = (s.filter id).unwarned := by
  simp only [filter, unwarned, List.getElem?_map]
  cases s.filters[id.index]? <;> rfl

/-- Replacing a filter by one that differs in the memory of warnings only. -/
theorem unwarned_setFilter {s : Store} {id : FilterId} {f : Filter}
    (h : f.unwarned = (s.filter id).unwarned) : (s.setFilter id f).unwarned = s.unwarned :=
  calc (s.setFilter id f).unwarned
      = (s.setFilter id (s.filter id)).unwarned := by
        simp [unwarned, setFilter, List.map_set, h]
    _ = s.unwarned := by rw [setFilter_self]

/-- Stores that agree but for the memory of warnings have as many filters. -/
theorem length_filters_of_unwarned_eq {s t : Store} (h : s.unwarned = t.unwarned) :
    s.filters.length = t.filters.length := by
  have := congrArg (fun u : Store => u.filters.length) h
  simpa [unwarned] using this

/-- Stores that agree but for the memory of warnings have the same filters but for that memory. -/
theorem filter_of_unwarned_eq {s t : Store} (h : s.unwarned = t.unwarned) (id : FilterId) :
    (s.filter id).unwarned = (t.filter id).unwarned := by
  rw [← filter_unwarned, ← filter_unwarned, h]

variable [Host]

/-- Evaluating a filter changes only the memory of warnings of the store. -/
theorem unwarned_satisfies (s : Store) (id : FilterId) (r : Resource) :
    (s.satisfies id r).state.unwarned = s.unwarned :=
  unwarned_setFilter ((s.filter id).unwarned_satisfies r)

end Store

namespace Expr

variable [Host]

mutual

/-- Evaluating an expression changes only the memory of warnings. -/
theorem unwarned_satisfies (r : Resource) :
    ∀ (e : Expr) (s : Store), (satisfies r e s).state.unwarned = s.unwarned
  | literal _, s => by rw [satisfies]; rfl
  | comparison _ _, s => by rw [satisfies]
  | filter id, s => by rw [satisfies]; exact s.unwarned_satisfies id r
  | not operand, s => by rw [satisfies]; exact unwarned_satisfies r operand s
  | and operands, s => by rw [satisfies]; exact unwarned_satisfiesAll r operands s
  | or operands, s => by rw [satisfies]; exact unwarned_satisfiesAny r operands s

/-- Evaluating a conjunction changes only the memory of warnings. -/
theorem unwarned_satisfiesAll (r : Resource) :
    ∀ (es : List Expr) (s : Store), (satisfiesAll r es s).state.unwarned = s.unwarned
  | [], s => by rw [satisfiesAll]; rfl
  | e :: es, s => by
    have he := unwarned_satisfies r e s
    rw [satisfiesAll]
    refine Outcome.view_andThen Store.unwarned he fun holds => ?_
    cases holds with
    | false => exact he
    | true => exact (unwarned_satisfiesAll r es _).trans he

/-- Evaluating a disjunction changes only the memory of warnings. -/
theorem unwarned_satisfiesAny (r : Resource) :
    ∀ (es : List Expr) (s : Store), (satisfiesAny r es s).state.unwarned = s.unwarned
  | [], s => by rw [satisfiesAny]; rfl
  | e :: es, s => by
    have he := unwarned_satisfies r e s
    rw [satisfiesAny]
    refine Outcome.view_andThen Store.unwarned he fun holds => ?_
    cases holds with
    | false => exact (unwarned_satisfiesAny r es _).trans he
    | true => exact he

end

/-- Selecting resources changes only the memory of warnings. -/
theorem unwarned_select (e : Expr) (rs : List Resource) (s : Store) :
    (e.select rs s).state.unwarned = s.unwarned := by
  induction rs generalizing s with
  | nil => rfl
  | cons r rs ih =>
    have he := unwarned_satisfies r e s
    rw [select]
    refine Outcome.view_andThen Store.unwarned he fun holds => ?_
    exact (ih _).trans he

end Expr

end Winnow

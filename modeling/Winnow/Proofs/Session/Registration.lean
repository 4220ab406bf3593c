import Winnow.Proofs.Number.Reading
import Winnow.Proofs.Session.Steps

set_option autoImplicit false

/-!
# What registering comes to

Registering a criterion ends in one of four ways: no operator has the name, a numeric operator is
given no text, the criterion is discarded because its text is no number, or it is added. The first
two are faults, of which only the first is meant to be one. The last two are told to whoever asks,
and each of them is kept as one entry in the journal of the filter.

## Main definitions

* `Winnow.Operator.Admits` — an operator can be given a text, or none.
* `Winnow.Filter.Registers` — the four ways in which registering ends.

## Main results

* `Winnow.Filter.registers` — registering ends in one of these ways.
* `Winnow.Filter.lookup_insert` — a criterion is added at the end of the group of its key.
* `Winnow.Session.registration_outcomes` — what registering with a filter of any session comes to.
-/

namespace Winnow

/-- Where the fault of an outcome whose value has been replaced comes from. -/
theorem Outcome.result_map_eq_error {σ α β : Type} {f : α → β} {o : Outcome σ α} {fault : Fault} :
    (o.map f).result = .error fault ↔ o.result = .error fault := by
  cases h : o.result <;> simp [map, h, Except.map]

/-- An operator can be given a text, or none: a numeric one requires a text that is a number. -/
def Operator.Admits (o : Operator) (value? : Option String) : Prop :=
  o.isNumeric = true → ∃ text, value? = some text ∧ ∃ w : Spelling, w.Spells text

/-- A text serves an operator exactly if the operator can be given it. -/
theorem Criterion.isSome_ofText?_iff (key : String) {o : Operator} {value? : Option String} :
    (ofText? key o value?).isSome = true ↔ o.Admits value? := by
  cases hn : o.isNumeric with
  | false =>
    rw [ofText?_of_not_isNumeric hn]
    refine ⟨fun _ h => ?_, fun _ => rfl⟩
    rw [hn] at h
    cases h
  | true =>
    rw [ofText?_of_isNumeric hn]
    cases value? with
    | none =>
      refine ⟨nofun, fun h => ?_⟩
      obtain ⟨text, htext, -⟩ := h hn
      cases htext
    | some text =>
      rw [Option.bind_some]
      cases hx : comparable text with
      | ok x =>
        obtain ⟨w, hw, -⟩ := comparable_eq_ok_iff.mp hx
        exact ⟨fun _ _ => ⟨text, rfl, w, hw⟩, fun _ => rfl⟩
      | error e =>
        refine ⟨nofun, fun h => ?_⟩
        obtain ⟨text', htext, w, hw⟩ := h hn
        cases htext
        have hok := comparable_eq_ok_iff.mpr ⟨w, hw, rfl⟩
        rw [hx] at hok
        cases hok

namespace Filter

/-! ## The ways in which registering ends -/

/-- The ways in which registering a criterion with a filter ends. -/
inductive Registers (key operator : String) (value? : Option String) (f : Filter) (j : Journal) :
    Outcome (Filter × Journal) Registration → Prop
  /-- No operator has the name. -/
  | unknown (ho : Operator.ofName? operator = none) :
    Registers key operator value? f j (.fault (.unknownOperator operator) (f, j))
  /-- A number is asked for, and there is no text. -/
  | missing {o : Operator} (ho : Operator.ofName? operator = some o) (hn : o.isNumeric = true)
      (hvalue : value? = none) :
    Registers key operator value? f j (.fault (.missingText .number) (f, j))
  /-- A number is asked for, and the text is none. -/
  | discarded {o : Operator} {text : String} (ho : Operator.ofName? operator = some o)
      (hvalue : value? = some text) (hno : ¬ o.Admits value?) :
    Registers key operator value? f j
      (log (.discard (discardReason o text)) f j (.discarded key o.name (discardReason o text)))
  /-- The criterion is added. -/
  | added {o : Operator} {c : Criterion} (ho : Operator.ofName? operator = some o)
      (hadmits : o.Admits value?) (hc : Criterion.ofText? key o value? = some c) :
    Registers key operator value? f j (add c f j)

/-- Registering ends in one of these ways.

**Proof sketch.** What the operator cannot be given is either missing or no number, and only a
numeric operator is particular about it. -/
theorem registers (key operator : String) (value? : Option String) (f : Filter) (j : Journal) :
    Registers key operator value? f j (register key operator value? f j) := by
  cases ho : Operator.ofName? operator with
  | none =>
    have hresolve : Operator.resolve operator = .error (.unknownOperator operator) := by
      simp [Operator.resolve, ho]
    rw [register, hresolve]
    exact .unknown ho
  | some o =>
    have hresolve : Operator.resolve operator = .ok o := by simp [Operator.resolve, ho]
    cases hc : Criterion.ofText? key o value? with
    | some c =>
      have haccepted : Criterion.accepted? key operator value? = some c := by
        rw [Criterion.accepted?, ho, Option.bind_some, hc]
      rw [register_of_accepted haccepted]
      exact .added ho ((Criterion.isSome_ofText?_iff key).mp (by rw [hc]; rfl)) hc
    | none =>
      have hno : ¬ o.Admits value? := fun h => by
        have hsome := (Criterion.isSome_ofText?_iff key).mpr h
        rw [hc] at hsome
        cases hsome
      have hn : o.isNumeric = true := by
        by_contra hn
        exact hno fun h => absurd h hn
      rw [register, hresolve]
      cases value? with
      | none =>
        simp only [hn, if_true]
        exact .missing ho hn rfl
      | some text =>
        rw [Criterion.ofText?_of_isNumeric hn, Option.bind_some] at hc
        cases hx : comparable text with
        | ok x => rw [hx] at hc; cases hc
        | error e =>
          simp only [hn, hx, if_true]
          exact .discarded ho rfl hno

namespace Registers

variable {key operator : String} {value? : Option String} {f : Filter} {j : Journal}
  {o : Outcome (Filter × Journal) Registration}

/-- Registering is a fault only if no operator has the name, or if a number is asked for and there
is no text. -/
theorem result_eq_error_iff (h : Registers key operator value? f j o) {fault : Fault} :
    o.result = .error fault ↔
      (Operator.ofName? operator = none ∧ fault = .unknownOperator operator) ∨
      ∃ op, Operator.ofName? operator = some op ∧ op.isNumeric = true ∧ value? = none ∧
        fault = .missingText .number := by
  cases h with
  | unknown ho =>
    constructor
    · intro h
      cases h
      exact .inl ⟨ho, rfl⟩
    · rintro (⟨-, rfl⟩ | ⟨op, hop, -⟩)
      · rfl
      · cases ho.symm.trans hop
  | missing ho hn hvalue =>
    constructor
    · intro h
      cases h
      exact .inr ⟨_, ho, hn, hvalue, rfl⟩
    · rintro (⟨hnone, -⟩ | ⟨-, -, -, -, rfl⟩)
      · cases ho.symm.trans hnone
      · rfl
  | discarded ho hvalue hno =>
    refine ⟨nofun, ?_⟩
    rintro (⟨hnone, -⟩ | ⟨op, -, -, hmissing, -⟩)
    · cases ho.symm.trans hnone
    · cases hvalue.symm.trans hmissing
  | added ho hadmits hc =>
    refine ⟨nofun, ?_⟩
    rintro (⟨hnone, -⟩ | ⟨op, hop, hn, hmissing, -⟩)
    · cases ho.symm.trans hnone
    · cases ho.symm.trans hop
      obtain ⟨text, htext, -⟩ := hadmits hn
      cases hmissing.symm.trans htext

/-- A fault leaves everything as it was, and nothing is written. -/
theorem of_error (h : Registers key operator value? f j o) {fault : Fault}
    (hfault : o.result = .error fault) : o.records = [] ∧ o.state = (f, j) := by
  cases h with
  | unknown ho => exact ⟨rfl, rfl⟩
  | missing ho hn hvalue => exact ⟨rfl, rfl⟩
  | discarded ho hvalue hno => cases hfault
  | added ho hadmits hc => cases hfault

/-- A registration that is no fault has an operator, and adds exactly what that can be given. -/
theorem added_iff (h : Registers key operator value? f j o) {g : Registration}
    (hg : o.result = .ok g) :
    ∃ op, Operator.ofName? operator = some op ∧ (g.added = true ↔ op.Admits value?) := by
  cases h with
  | unknown ho => cases hg
  | missing ho hn hvalue => cases hg
  | discarded ho hvalue hno =>
    cases hg
    exact ⟨_, ho, nofun, fun hadmits => absurd hadmits hno⟩
  | added ho hadmits hc =>
    cases hg
    exact ⟨_, ho, fun _ => hadmits, fun _ => rfl⟩

/-- A criterion that is not added is discarded for a reason: the filter is unchanged, and one entry
with a warning is kept and written. -/
theorem of_not_added (h : Registers key operator value? f j o) {g : Registration}
    (hg : o.result = .ok g) (hno : g.added = false) :
    ∃ op reason, Operator.ofName? operator = some op ∧ g = .discard reason ∧ o.state.1 = f ∧
      o.state.2 = (j.keep (.discarded key op.name reason)).1 ∧
      o.records = [(Entry.discarded key op.name reason).record j.name] := by
  cases h with
  | unknown ho => cases hg
  | missing ho hn hvalue => cases hg
  | discarded ho hvalue hadmits =>
    cases hg
    exact ⟨_, _, ho, rfl, rfl, rfl, rfl⟩
  | added ho hadmits hc =>
    cases hg
    cases hno

/-- A criterion that is added has the parts that were given and is inserted among the groups, and
one entry is kept and written. -/
theorem of_added (h : Registers key operator value? f j o) {g : Registration}
    (hg : o.result = .ok g) (hyes : g.added = true) :
    ∃ c count, g = .accept c ∧ c.key = key ∧ Operator.ofName? operator = some c.operator ∧
      c.value? = value? ∧ o.state.1 = { f with groups := insert c f.groups } ∧
      o.state.2 = (j.keep (.registered c.key c.render count)).1 ∧
      o.records = [(Entry.registered c.key c.render count).record j.name] := by
  cases h with
  | unknown ho => cases hg
  | missing ho hn hvalue => cases hg
  | discarded ho hvalue hadmits =>
    cases hg
    cases hyes
  | added ho hadmits hc =>
    cases hg
    obtain ⟨hkey, hop, hvalue⟩ := Criterion.ofText?_eq_some hc
    exact ⟨_, _, rfl, hkey, hop.symm ▸ ho, hvalue, rfl, rfl, rfl⟩

end Registers

/-! ## Adding to a group -/

/-- A criterion is added at the end of the group of its key, and the other groups stay as they
are. -/
theorem lookup_insert (c : Criterion) (groups : List (String × List Criterion)) (key : String) :
    ((insert c groups).lookup key).getD [] =
      (groups.lookup key).getD [] ++ if key = c.key then [c] else [] := by
  induction groups with
  | nil =>
    by_cases hkey : key = c.key
    · simp [insert, hkey]
    · have hbeq : (key == c.key) = false := beq_eq_false_iff_ne.mpr hkey
      simp [insert, List.lookup_cons, hbeq, hkey]
  | cons g groups ih =>
    obtain ⟨k, cs⟩ := g
    rw [insert]
    by_cases hkey : key = k
    · by_cases hk : k = c.key <;> simp [hkey, hk]
    · have hbeq : (key == k) = false := beq_eq_false_iff_ne.mpr hkey
      split
      · rename_i hk
        have hne : ¬ key = c.key := fun h => hkey (h.trans hk.symm)
        simp [List.lookup_cons, hbeq, hne]
      · simp [List.lookup_cons, hbeq, ih]

end Filter

/-! ## Sessions -/

namespace Session

variable {s : Session} {name : String} {id : FilterId}

/-- What an operation on a filter by its name makes of a session. -/
theorem onFilter_eq {α : Type} (hid : s.filterId? name = some id) (yields : α → Value)
    (operation : Filter → Journal → Outcome (Filter × Journal) α) :
    s.onFilter name yields (fun f store => store.onFilter f operation) =
      let o := operation (s.store.filter id) (s.store.journal (s.store.journalOf id))
      ⟨o.result.map yields, o.records, s.withStore
        ((s.store.setFilter id o.state.1).setJournal (s.store.journalOf id) o.state.2)⟩ := by
  rw [onFilter_of_filterId? hid]
  rfl

/-- A filter that has a name is in the store, and so is its journal. -/
theorem IsClosed.index_lt (hs : s.IsClosed) (hid : s.filterId? name = some id) :
    id.index < s.store.filters.length ∧
      (s.store.journalOf id).index < s.store.journals.length := by
  rw [filterId?] at hid
  split at hid
  · rename_i i hlookup
    cases hid
    have hlt : id.index < s.store.filters.length :=
      Expr.isClosed_filter.mp (hs.objects _ (mem_of_lookup hlookup))
    exact ⟨hlt, hs.store id hlt⟩
  · cases hid

/-- What an operation on a filter by its name comes to, writes and makes of the filter and its
journal is what the operation itself does. -/
structure Carries {α : Type} (s : Session) (id : FilterId) (yields : α → Value)
    (o : Outcome Session Value) (out : Outcome (Filter × Journal) α) : Prop where
  result : o.result = out.result.map yields
  records : o.records = out.records
  filter : o.state.store.filter id = out.state.1
  journal : o.state.store.journal (s.store.journalOf id) = out.state.2

/-- An operation on a filter by its name is the operation on that filter. -/
theorem IsClosed.carries {α : Type} (hs : s.IsClosed) (hid : s.filterId? name = some id)
    (yields : α → Value) (operation : Filter → Journal → Outcome (Filter × Journal) α) :
    s.Carries id yields (s.onFilter name yields fun f store => store.onFilter f operation)
      (operation (s.store.filter id) (s.store.journal (s.store.journalOf id))) := by
  obtain ⟨hfilter, hjournal⟩ := hs.index_lt hid
  rw [onFilter_of_filterId? hid]
  exact ⟨rfl, rfl, Store.filter_onFilter_self hfilter _, Store.journal_onFilter_self _ hjournal⟩

/-- The operation has the faults that the operation itself has. -/
theorem Carries.result_eq_error_iff {α : Type} {yields : α → Value} {o : Outcome Session Value}
    {out : Outcome (Filter × Journal) α} (h : s.Carries id yields o out) {fault : Fault} :
    o.result = .error fault ↔ out.result = .error fault := by
  rw [h.result]
  exact Outcome.result_map_eq_error (o := out)

/-- **What registering comes to.** Take any filter of any session, with whatever has been done
before, and register any key, operator name and text with it, or no text. That is a fault only if no
operator has the name, or if the operator is numeric and there is no text. Else it is told whether
the criterion was added, and it was not exactly if the operator is numeric and the text is no
number. Then no criterion is told but one reason, the filter is unchanged, and one entry with a
warning is kept and written. If it was added, then the criterion is told, with the key, the operator
and the text that were given, it stands at the end of the group of its key, and nothing else of the
filter has changed.

**Proof sketch.** Registering ends in one of four ways (`Filter.registers`). The filter and its
journal are in the store, so what each of them does to these two is seen there. -/
theorem registration_outcomes [Host] (earlier : List Step) (name : String) (id : FilterId)
    (hid : (initial.after earlier).filterId? name = some id) (key operator : String)
    (value? : Option String) :
    let s := initial.after earlier
    let o := s.perform (.register name key operator value?)
    let journal := s.store.journal (s.store.journalOf id)
    let filter := o.state.store.filter id
    let entries := (o.state.store.journal (s.store.journalOf id)).entries
    (∀ fault, o.result = .error fault ↔
      (Operator.ofName? operator = none ∧ fault = .unknownOperator operator ∧
        fault.kind = "ValueError") ∨
      ∃ op, Operator.ofName? operator = some op ∧ op.isNumeric = true ∧ value? = none ∧
        fault = .missingText .number) ∧
    ∀ v, o.result = .ok v → ∃ op g, Operator.ofName? operator = some op ∧ v = .registration g ∧
      (g.added = false ↔ ¬ op.Admits value?) ∧
      (g.added = false → g.criterion? = none ∧ filter = s.store.filter id ∧
        ∃ reason entry, g.errors = [reason] ∧ entry = .discarded key op.name reason ∧
          entry.action = .discard ∧ entry.level = .warning ∧
          entries = journal.entries ++ [entry] ∧ o.records = [entry.record journal.name]) ∧
      (g.added = true → g.errors = [] ∧
        ∃ c, g.criterion? = some c ∧ c.key = key ∧ c.operator = op ∧ c.value? = value? ∧
          (∀ k, (filter.groups.lookup k).getD [] =
            ((s.store.filter id).groups.lookup k).getD [] ++ if k = c.key then [c] else []) ∧
          filter = { s.store.filter id with groups := filter.groups } ∧
          ∃ entry, entry.action = .register ∧ entry.level = .info ∧
            entries = journal.entries ++ [entry] ∧ o.records = [entry.record journal.name]) := by
  intro s o journal filter entries
  have hs : s.IsClosed := isClosed_after isClosed_initial earlier
  have hends := Filter.registers key operator value? (s.store.filter id) journal
  have hcarries : s.Carries id .registration o _ :=
    hs.carries hid .registration (Filter.register key operator value?)
  generalize Filter.register key operator value? _ _ = out at hends hcarries
  -- from here on it only counts what registering ends in
  clear_value o s
  have hfilter : filter = out.state.1 := hcarries.filter
  have hentries : entries = out.state.2.entries := congrArg Journal.entries hcarries.journal
  refine ⟨fun fault => ?_, fun v hv => ?_⟩
  · rw [hcarries.result_eq_error_iff, hends.result_eq_error_iff]
    exact or_congr_left (and_congr_right fun _ => ⟨fun h => ⟨h, h ▸ rfl⟩, And.left⟩)
  · rw [hcarries.result] at hv
    obtain ⟨g, hg, rfl⟩ := Outcome.result_map_eq_ok.mp hv
    obtain ⟨op, hop, hadded⟩ := hends.added_iff hg
    refine ⟨op, g, hop, rfl, ?_, fun hno => ?_, fun hyes => ?_⟩
    · rw [← hadded, Bool.not_eq_true]
    · obtain ⟨op', reason, hop', rfl, hunchanged, hkept, hwritten⟩ := hends.of_not_added hg hno
      obtain rfl : op' = op := Option.some.inj (hop'.symm.trans hop)
      refine ⟨rfl, hfilter.trans hunchanged, reason, _, rfl, rfl, rfl, rfl, ?_,
        hcarries.records.trans hwritten⟩
      rw [hentries, hkept]
      rfl
    · obtain ⟨c, count, rfl, hkey, hop', hvalue, hinserted, hkept, hwritten⟩ :=
        hends.of_added hg hyes
      rw [hinserted] at hfilter
      refine ⟨rfl, c, rfl, hkey, Option.some.inj (hop'.symm.trans hop), hvalue, fun k => ?_, ?_,
        .registered c.key c.render count, rfl, rfl, ?_, hcarries.records.trans hwritten⟩
      · rw [hfilter, Filter.lookup_insert]
      · rw [hfilter]
      · rw [hentries, hkept]
        rfl

attribute [local instance] Host.bare

/-- A text that is no number, for an operator that is given in lower case, and a filter that has a
criterion with the same key. -/
theorem registration_outcomes_discarded :
    let earlier : List Step := [.newFilter "f" "people" true true none,
      .register "f" "age" "GREATER_THAN" (some "30")]
    let s := initial.after earlier
    let o := s.perform (.register "f" "age" "less_than" (some "n/a"))
    s.filterId? "f" = some ⟨0⟩ ∧ ¬ Operator.lessThan.Admits (some "n/a") ∧
      ∃ g, o.result = .ok (.registration g) ∧ g.added = false ∧ g.criterion? = none ∧
        o.state.store.filter ⟨0⟩ = s.store.filter ⟨0⟩ := by
  intro earlier s o
  have hid : s.filterId? "f" = some ⟨0⟩ := by decide +kernel
  have hop : Operator.ofName? "less_than" = some .lessThan := by decide +kernel
  have hno : ¬ Operator.lessThan.Admits (some "n/a") := by
    rw [← Criterion.isSome_ofText?_iff "age"]
    decide +kernel
  obtain ⟨herror, hok⟩ :=
    registration_outcomes earlier "f" ⟨0⟩ hid "age" "less_than" (some "n/a")
  cases h : o.result with
  | error fault =>
    obtain ⟨hnone, -⟩ | ⟨-, -, -, hmissing, -⟩ := (herror fault).mp h
    · cases hop.symm.trans hnone
    · cases hmissing
  | ok v =>
    obtain ⟨op, g, hop', rfl, hadded, hdiscarded, -⟩ := hok v h
    cases hop.symm.trans hop'
    have hfalse : g.added = false := hadded.mpr hno
    obtain ⟨hnone, hunchanged, -⟩ := hdiscarded hfalse
    exact ⟨hid, hno, g, rfl, hfalse, hnone, hunchanged⟩

/-- A number that is asked for without a text is a fault of a kind that no operator is to blame
for. -/
theorem registration_without_number :
    let s := initial.after [.newFilter "f" "people" true true none]
    let o := s.perform (.register "f" "age" "GREATER_THAN" none)
    s.filterId? "f" = some ⟨0⟩ ∧ Operator.ofName? "GREATER_THAN" = some .greaterThan ∧
      o.result = .error (.missingText .number) ∧
      (Fault.missingText .number).kind = "AttributeError" ∧ o.records = [] := by
  intro s o
  refine ⟨by decide +kernel, by decide +kernel, rfl, rfl, rfl⟩

end Session

end Winnow

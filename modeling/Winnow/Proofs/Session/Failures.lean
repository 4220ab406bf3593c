import Winnow.Proofs.Session.Registration
import Winnow.Proofs.Session.Unobserved

set_option autoImplicit false

/-!
# Registrations that fail

A registration that is a fault leaves everything as it was, and one that discards a criterion leaves
one entry in a journal. No step depends on such entries. So whatever is done later comes to the
same, and writes the same, as if it had not been tried to register.

## Main definitions

* `Winnow.Session.refuses` — a step is a registration that adds nothing.
* `Winnow.Session.withoutRefused`, `Winnow.Session.answersButRefused` — steps without those that are
  refused, and the answers to these steps among all of them.

## Main results

* `Winnow.Session.answers_withoutRefused` — the answers to steps without those that are refused.
* `Winnow.Session.failed_registrations_leave_no_trace` — what is left of a registration that fails,
  and what later steps come to.
-/

namespace Winnow

namespace Session

section

variable [Host]

/-! ## One registration -/

section Failures

variable {s : Session} {name key operator : String} {value? : Option String}

/-- Registering by a name is a fault if no filter has it, and else is registering with that filter.
-/
theorem perform_register_cases (s : Session) (name key operator : String)
    (value? : Option String) :
    (s.perform (.register name key operator value?) = .fault (.unknownObject name) s) ∨
    ∃ id o, s.filterId? name = some id ∧
      Filter.Registers key operator value? (s.store.filter id)
        (s.store.journal (s.store.journalOf id)) o ∧
      s.perform (.register name key operator value?) =
        ⟨o.result.map .registration, o.records, s.withStore
          ((s.store.setFilter id o.state.1).setJournal (s.store.journalOf id) o.state.2)⟩ := by
  cases hid : s.filterId? name with
  | none =>
    refine .inl ?_
    rw [perform, onFilter, filterId, hid]
  | some id =>
    refine .inr ⟨id, _, rfl, Filter.registers key operator value? _ _, ?_⟩
    rw [perform, onFilter_eq hid]

/-- A registration that is a fault leaves everything as it was, and nothing is written. -/
theorem perform_register_of_fault {fault : Fault}
    (h : (s.perform (.register name key operator value?)).result = .error fault) :
    (s.perform (.register name key operator value?)).state = s ∧
      (s.perform (.register name key operator value?)).records = [] := by
  obtain hunknown | ⟨id, o, -, hends, hperform⟩ :=
    s.perform_register_cases name key operator value?
  · rw [hunknown]
    exact ⟨rfl, rfl⟩
  · rw [hperform] at h ⊢
    obtain ⟨hrecords, hstate⟩ := hends.of_error (Outcome.result_map_eq_error (o := o).mp h)
    rw [hstate, hrecords, Store.setFilter_self, Store.setJournal_self]
    exact ⟨rfl, rfl⟩

/-- A registration that discards a criterion leaves one entry in the journal of the filter, with a
warning that is written, and everything else as it was. -/
theorem perform_register_of_discard {g : Registration}
    (h : (s.perform (.register name key operator value?)).result = .ok (.registration g))
    (hg : g.added = false) :
    ∃ id op reason, s.filterId? name = some id ∧ Operator.ofName? operator = some op ∧
      g = .discard reason ∧
      (s.perform (.register name key operator value?)).state =
        s.withStore (s.store.setJournal (s.store.journalOf id)
          ((s.store.journal (s.store.journalOf id)).keep (.discarded key op.name reason)).1) ∧
      (s.perform (.register name key operator value?)).records =
        [(Entry.discarded key op.name reason).record
          (s.store.journal (s.store.journalOf id)).name] := by
  obtain hunknown | ⟨id, o, hid, hends, hperform⟩ :=
    s.perform_register_cases name key operator value?
  · rw [hunknown] at h
    cases h
  · rw [hperform] at h ⊢
    obtain ⟨g', hg', heq⟩ := Outcome.result_map_eq_ok (o := o).mp h
    cases heq
    obtain ⟨op, reason, hop, rfl, hfilter, hjournal, hrecords⟩ := hends.of_not_added hg' hg
    refine ⟨id, op, reason, hid, hop, rfl, ?_, hrecords⟩
    rw [hfilter, hjournal, Store.setFilter_self]

end Failures

/-- A step is a registration that adds nothing: a fault, or a criterion that is discarded. -/
def refuses (s : Session) : Step → Bool
  | .register name key operator value? =>
    match (s.perform (.register name key operator value?)).result with
    | .ok (.registration g) => !g.added
    | _ => true
  | _ => false

/-- A registration by a name comes to nothing but a registration, or is a fault. -/
theorem result_perform_register (s : Session) (name key operator : String)
    (value? : Option String) :
    (∃ fault, (s.perform (.register name key operator value?)).result = .error fault) ∨
      ∃ g, (s.perform (.register name key operator value?)).result = .ok (.registration g) := by
  obtain hunknown | ⟨id, o, -, -, hperform⟩ := s.perform_register_cases name key operator value?
  · rw [hunknown]
    exact .inl ⟨_, rfl⟩
  · rw [hperform]
    cases o.result with
    | error fault => exact .inl ⟨fault, rfl⟩
    | ok g => exact .inr ⟨g, rfl⟩

/-- A step that is refused changes a session only by an entry of a discarded criterion. -/
theorem withoutDiscards_perform_of_refuses {s : Session} {step : Step}
    (h : s.refuses step = true) : (s.perform step).state.withoutDiscards = s.withoutDiscards := by
  cases step with
  | register name key operator value? =>
    obtain ⟨fault, hfault⟩ | ⟨g, hg⟩ := s.result_perform_register name key operator value?
    · rw [(perform_register_of_fault hfault).1]
    · rw [refuses, hg] at h
      obtain ⟨id, op, reason, -, -, -, hstate, -⟩ :=
        perform_register_of_discard hg (by simpa using h)
      rw [hstate]
      exact congrArg s.withStore
        (s.store.withoutDiscards_setJournal_keep (s.store.journalOf id) rfl)
  | _ => cases h

/-! ## All registrations -/

/-- The steps without those that are refused, each in the session that it is taken in. -/
def withoutRefused : Session → List Step → List Step
  | _, [] => []
  | s, step :: steps =>
    if s.refuses step then withoutRefused (s.perform step).state steps
    else step :: withoutRefused (s.perform step).state steps

/-- The answers to the steps that are not refused, when all of them are taken. -/
def answersButRefused : Session → List Step → List Answer
  | _, [] => []
  | s, step :: steps =>
    if s.refuses step then answersButRefused (s.perform step).state steps
    else (s.answer step).1 :: answersButRefused (s.perform step).state steps

/-- Steps without those that are refused have the answers that they have among all of them, and lead
to the same session, but for the entries of discarded criteria.

**Proof sketch.** Induction on the steps, for two sessions that are the same but for such entries.
One of them takes every step, the other one stays where it is while a step is refused. -/
theorem answers_withoutRefused {s t : Session} (h : t.withoutDiscards = s.withoutDiscards)
    (steps : List Step) :
    (t.answers (s.withoutRefused steps)).map Answer.withoutDiscards =
        (s.answersButRefused steps).map Answer.withoutDiscards ∧
      (t.after (s.withoutRefused steps)).withoutDiscards = (s.after steps).withoutDiscards := by
  induction steps generalizing s t with
  | nil => exact ⟨rfl, h⟩
  | cons step steps ih =>
    rw [withoutRefused, answersButRefused]
    cases hrefused : s.refuses step with
    | true => exact ih (h.trans (withoutDiscards_perform_of_refuses hrefused).symm)
    | false =>
      obtain ⟨hanswer, hnext⟩ := answer_congr h step
      obtain ⟨hanswers, hafter⟩ := ih hnext
      exact ⟨List.cons_eq_cons.mpr ⟨hanswer, hanswers⟩, hafter⟩

/-- **Registrations that fail leave no trace but an entry.** Take any session, with whatever has
been done before, and register any key, operator name and text, or no text, with what has any name.
If that is a fault, then the session is as it was, with every filter and journal, and nothing is
written. If the criterion is discarded, then the session is as it was but for the journal of that
filter, which has one more entry, a warning about a discarded criterion, and this is written. Of any
steps, leave out all registrations that fail, in the sessions in which they are tried. Then the
others have the same answers, with the same results, filters and records, and lead to the same
session with the same filters, but for the entries of discarded criteria and the number of entries.

**Proof sketch.** A registration that fails ends in one of three ways (`Filter.registers`), none of
which changes the filter. No step depends on the entries of discarded criteria (`shown_perform`), so
a session from which such entries are missing stays in line (`answers_withoutRefused`). -/
theorem failed_registrations_leave_no_trace (earlier : List Step) :
    let s := initial.after earlier
    (∀ name key operator value?,
      let o := s.perform (.register name key operator value?)
      (∀ fault, o.result = .error fault → o.state = s ∧ o.records = []) ∧
      ∀ g, o.result = .ok (.registration g) → g.added = false →
        ∃ id op reason, s.filterId? name = some id ∧ Operator.ofName? operator = some op ∧
          let entry := Entry.discarded key op.name reason
          let journal := s.store.journal (s.store.journalOf id)
          entry.action = .discard ∧ entry.level = .warning ∧
          o.state = s.withStore (s.store.setJournal (s.store.journalOf id) (journal.keep entry).1) ∧
          (o.state.store.journal (s.store.journalOf id)).entries = journal.entries ++ [entry] ∧
          o.records = [entry.record journal.name]) ∧
    ∀ steps,
      (s.answers (s.withoutRefused steps)).map Answer.withoutDiscards =
          (s.answersButRefused steps).map Answer.withoutDiscards ∧
        (s.after (s.withoutRefused steps)).withoutDiscards = (s.after steps).withoutDiscards ∧
        (s.after (s.withoutRefused steps)).store.filters = (s.after steps).store.filters := by
  intro s
  have hs : s.IsClosed := isClosed_after isClosed_initial earlier
  refine ⟨fun name key operator value? => ⟨fun fault => perform_register_of_fault,
    fun g hresult hg => ?_⟩, fun steps => ?_⟩
  · obtain ⟨id, op, reason, hid, hop, -, hstate, hrecords⟩ :=
      perform_register_of_discard hresult hg
    refine ⟨id, op, reason, hid, hop, rfl, rfl, hstate, ?_, hrecords⟩
    rw [hstate]
    exact congrArg Journal.entries (Store.journal_setJournal_self (hs.index_lt hid).2 _)
  · obtain ⟨hanswers, hafter⟩ := answers_withoutRefused (rfl : s.withoutDiscards = _) steps
    exact ⟨hanswers, hafter, congrArg (fun t => t.store.filters) hafter⟩

end

attribute [local instance] Host.bare

/-- Four registrations that fail, for an operator without a meaning, for texts that are no numbers
and for want of a text: one before the filter warns of a missing value, and one between the warning
and the second time, which is not a warning either way. -/
theorem failed_registrations_leave_no_trace_between_warnings :
    let steps : List Step := [.newFilter "f" "people" true false none,
      .register "f" "age" "ABOVE" (some "30"), .register "f" "age" "GREATER_THAN" (some "n/a"),
      .register "f" "age" "GREATER_THAN" (some "30"), .satisfies "f" ⟨[]⟩,
      .register "f" "age" "LESS_THAN" (some ""), .register "f" "age" "LESS_THAN" none,
      .satisfies "f" ⟨[]⟩, .reset "f"]
    let levels (answers : List Answer) := answers.map fun a => a.records.map Record.level
    let kept := initial.withoutRefused steps
    kept.length = 5 ∧
      levels (initial.answers kept) = [[], [.info], [.warning, .debug], [.debug, .debug], [.info]] ∧
      (initial.after kept).store.filters = (initial.after steps).store.filters := by
  intro steps levels kept
  obtain ⟨-, hruns⟩ := failed_registrations_leave_no_trace []
  obtain ⟨hanswers, -, hfilters⟩ := hruns steps
  have hlevels : ∀ answers, levels (answers.map Answer.withoutDiscards) = levels answers := by
    intro answers
    simp only [levels, List.map_map]
    rfl
  refine ⟨by decide +kernel, ?_, hfilters⟩
  rw [← hlevels, show (initial.answers kept).map Answer.withoutDiscards = _ from hanswers, hlevels]
  decide +kernel

end Session

end Winnow

import Winnow.Proofs.Frame
import Winnow.Proofs.Grouping
import Winnow.Proofs.Registration
import Winnow.Session.Basic

set_option autoImplicit false

/-!
# Filters as conjunctions

A strict filter with criteria is the conjunction of comparisons with the same criteria, in the order
of its groups: it has the same verdict or the same fault for every resource. What can be registered
with a filter is what a comparison can be made of.

## Main definitions

* `Winnow.Filter.Accepts` — keys, operator names and texts that can be registered.
* `Winnow.Terms` — a key, an operator name and a text, with the criterion and the blueprint that
  they come to.

## Main results

* `Winnow.Expr.result_satisfiesAll_comparisons` — a conjunction of comparisons has the verdict of a
  strict filter on its criteria.
* `Winnow.Session.build_filter`, `Winnow.Session.buildAll_comparisons` — what the two are made of.
* `Winnow.Session.filter_agrees_with_conjunction` — the two agree, and can be made of the same
  terms.
-/

namespace Winnow

/-! ## Terms -/

/-- Some filter reports that it has added the criterion of a key, an operator name and a text. -/
def Filter.Accepts (key operator text : String) : Prop :=
  ∃ f j registration, (Filter.register key operator (some text) f j).result = .ok registration ∧
    registration.added = true

/-- What is accepted comes to a criterion, whatever the filter. -/
theorem Filter.accepts_iff {key operator text : String} :
    Filter.Accepts key operator text ↔
      ∃ c, Criterion.accepted? key operator (some text) = some c := by
  constructor
  · rintro ⟨f, j, g, hresult, hadded⟩
    obtain ⟨c, hc, -⟩ := accepted_of_added hresult hadded
    exact ⟨c, hc⟩
  · rintro ⟨c, hc⟩
    refine ⟨.empty "" true true, .empty "", .accept c, ?_, rfl⟩
    rw [register_of_accepted hc]
    rfl

/-- A key, an operator name and a text to compare with. -/
structure Terms where
  key : String
  operator : String
  text : String
deriving DecidableEq

namespace Terms

/-- Terms that can be registered. -/
def IsAccepted (t : Terms) : Prop :=
  Filter.Accepts t.key t.operator t.text

/-- The criterion that terms come to, if they are accepted. -/
def criterion (t : Terms) : Criterion :=
  (Criterion.accepted? t.key t.operator (some t.text)).getD ⟨t.key, .presence, none, none⟩

/-- The terms as they are given to a filter that is to be made. -/
def toFilter (t : Terms) : String × String × Option String :=
  (t.key, t.operator, some t.text)

/-- The comparison that is to be made of terms. -/
def toComparison (allowMissing : Bool) (t : Terms) : Blueprint :=
  .comparison t.key t.operator (some t.text) allowMissing

/-- The criterion of terms that are accepted. -/
theorem accepted?_eq {t : Terms} (h : t.IsAccepted) :
    Criterion.accepted? t.key t.operator (some t.text) = some t.criterion := by
  obtain ⟨c, hc⟩ := Filter.accepts_iff.mp h
  rw [criterion, hc, Option.getD_some]

/-- The criterion of terms has their key. -/
@[simp] theorem key_criterion (t : Terms) : t.criterion.key = t.key := by
  rw [criterion]
  cases hc : Criterion.accepted? t.key t.operator (some t.text) with
  | none => rfl
  | some c => exact Criterion.key_of_accepted hc

end Terms

/-! ## Evaluation -/

/-- A conjunction of comparisons has the verdict of a strict filter on its criteria.

**Proof sketch.** Induction on the criteria. Both go on after a criterion that holds and stop at one
that does not; a strict filter passes every fault on. -/
theorem Expr.result_satisfiesAll_comparisons [Host] {f : Filter} (hf : f.strict = true)
    (r : Resource) (s : Store) (cs : List Criterion) :
    (Expr.satisfiesAll r (cs.map (.comparison · f.allowMissing)) s).result =
      (f.satisfiesAll r cs).result := by
  induction cs with
  | nil => rfl
  | cons c cs ih =>
    rw [List.map_cons, satisfiesAll, satisfies, Filter.satisfiesAll]
    cases ho : c.evaluate f.allowMissing (r.get? c.key) with
    | error e =>
      rw [Outcome.andThen_of_error rfl]
      cases e <;> simp [hf]
    | ok holds =>
      rw [Outcome.andThen_of_ok rfl]
      cases holds with
      | false => rfl
      | true => exact ih

/-! ## What can be made -/

/-- A comparison can be made of a key, an operator name and a text exactly if a filter, whichever it
is, reports that it has added their criterion. -/
theorem Expr.exists_compare_iff_added (key operator text : String) (allowMissing : Bool)
    (f : Filter) (j : Journal) :
    (∃ e, compare key operator (some text) allowMissing = .ok e) ↔
      ∃ g, (Filter.register key operator (some text) f j).result = .ok g ∧ g.added = true := by
  constructor
  · rintro ⟨e, he⟩
    obtain ⟨c, hc, -⟩ := compare_eq_ok_iff.mp he
    rw [Filter.register_of_accepted hc]
    exact ⟨.accept c, rfl, rfl⟩
  · rintro ⟨g, hresult, hadded⟩
    obtain ⟨c, hc, -⟩ := Filter.accepted_of_added hresult hadded
    exact ⟨_, compare_eq_ok_iff.mpr ⟨c, hc, rfl⟩⟩

/-- The criterion that a filter reports as added is one of its criteria, and that of the
comparison. -/
theorem Expr.compare_of_added {key operator text : String} {f : Filter} {j : Journal}
    {g : Registration} (allowMissing : Bool)
    (hresult : (Filter.register key operator (some text) f j).result = .ok g)
    (hadded : g.added = true) :
    ∃ c, g.criterion? = some c ∧
      c ∈ (Filter.register key operator (some text) f j).state.1.criteria ∧
      compare key operator (some text) allowMissing = .ok (.comparison c allowMissing) := by
  obtain ⟨c, hc, rfl⟩ := Filter.accepted_of_added hresult hadded
  refine ⟨c, rfl, ?_, compare_eq_ok_iff.mpr ⟨c, hc, rfl⟩⟩
  rw [Filter.register_of_accepted hc]
  exact Filter.mem_insert c f.groups

/-! ## Making the two -/

/-- A filter with other groups. -/
def Filter.withGroups (f : Filter) (groups : List (String × List Criterion)) : Filter :=
  ⟨f.name, f.allowMissing, f.strict, groups, f.warned⟩

/-- Registration of terms that are accepted adds their criterion to the groups of the filter. -/
theorem Filter.register_terms {t : Terms} (ht : t.IsAccepted) (f : Filter) (j : Journal) :
    (register t.key t.operator (some t.text) f j).result = .ok (.accept t.criterion) ∧
      (register t.key t.operator (some t.text) f j).state.1 =
        f.withGroups (insert t.criterion f.groups) := by
  rw [register_of_accepted (Terms.accepted?_eq ht)]
  exact ⟨rfl, rfl⟩

namespace Session

/-- A filter after terms that are accepted: it holds their criteria, grouped by key.

**Proof sketch.** Induction on the terms. Each one is accepted whatever the filter holds, and adding
its criterion keeps the groups in the form of a grouped list. -/
theorem state_registerAll {id : FilterId} {ts : List Terms} (hts : ∀ t ∈ ts, t.IsAccepted) :
    ∀ (s : Store) (cs : List Criterion), id.index < s.filters.length →
      (s.filter id).groups = groupsBy Criterion.key cs →
      (registerAll id (ts.map Terms.toFilter) s).result = .ok () ∧
      (registerAll id (ts.map Terms.toFilter) s).state.filter id =
        (s.filter id).withGroups (groupsBy Criterion.key (cs ++ ts.map Terms.criterion)) := by
  induction ts with
  | nil =>
    intro s cs _ hcs
    refine ⟨rfl, ?_⟩
    rw [List.map_nil, List.map_nil, List.append_nil, ← hcs]
    rfl
  | cons t ts ih =>
    intro s cs hid hcs
    have ht := hts t List.mem_cons_self
    -- the store after the first terms
    obtain ⟨o, ho⟩ : ∃ o, o = s.onFilter id (Filter.register t.key t.operator (some t.text)) :=
      ⟨_, rfl⟩
    have hresult : o.result = .ok (.accept t.criterion) := by
      rw [ho, Store.result_onFilter, (Filter.register_terms ht _ _).1]
    have hfilter : o.state.filter id =
        (s.filter id).withGroups (groupsBy Criterion.key (cs ++ [t.criterion])) := by
      rw [ho, Store.filter_onFilter_self hid, (Filter.register_terms ht _ _).2, hcs,
        Filter.insert_groupsBy]
    have hlength : id.index < o.state.filters.length := by
      rw [ho, Store.length_filters_onFilter]
      exact hid
    obtain ⟨hok, hstate⟩ := ih (fun u hu => hts u (List.mem_cons_of_mem t hu)) o.state
      (cs ++ [t.criterion]) hlength (by rw [hfilter]; rfl)
    rw [List.map_cons, Terms.toFilter, registerAll, ← ho, Outcome.andThen_of_ok hresult]
    refine ⟨hok, hstate.trans ?_⟩
    rw [hfilter, List.map_cons, List.append_assoc, List.singleton_append]
    rfl

/-- Comparisons of terms that are accepted hold the criteria of these. -/
theorem buildAll_comparisons {allowMissing : Bool} {ts : List Terms}
    (hts : ∀ t ∈ ts, t.IsAccepted) (s : Session) :
    (buildAll (ts.map (Terms.toComparison allowMissing)) s).result =
      .ok ((ts.map Terms.criterion).map (.comparison · allowMissing)) := by
  induction ts with
  | nil => rw [List.map_nil, buildAll]; rfl
  | cons t ts ih =>
    have ht : Expr.compare t.key t.operator (some t.text) allowMissing =
        .ok (.comparison t.criterion allowMissing) :=
      Expr.compare_eq_ok_iff.mpr
        ⟨t.criterion, Terms.accepted?_eq (hts t List.mem_cons_self), rfl⟩
    rw [List.map_cons, Terms.toComparison, buildAll, build, ht, Outcome.andThen_of_ok rfl,
      Outcome.map, ih fun u hu => hts u (List.mem_cons_of_mem t hu)]
    rfl

/-- A filter made of terms that are accepted, and its criteria. -/
theorem build_filter {ts : List Terms} (hts : ∀ t ∈ ts, t.IsAccepted) (s : Session) (name : String)
    (allowMissing strict : Bool) :
    ∃ id, (s.build (.filter name allowMissing strict (ts.map Terms.toFilter))).result =
        .ok (.filter id) ∧
      (s.build (.filter name allowMissing strict (ts.map Terms.toFilter))).state.store.filter id =
        ⟨name, allowMissing, strict, groupsBy Criterion.key (ts.map Terms.criterion), []⟩ := by
  let new := s.store.addFilter (.empty name allowMissing strict) none
  have hlength : new.1.index < new.2.filters.length := by
    simp [new, Store.addFilter, Store.addJournal]
  have hempty : new.2.filter new.1 = .empty name allowMissing strict := by
    simp [new, Store.addFilter, Store.addJournal, Store.filter]
  obtain ⟨hok, hstate⟩ := state_registerAll hts new.2 [] hlength (by rw [hempty]; rfl)
  have hbuild : s.build (.filter name allowMissing strict (ts.map Terms.toFilter)) =
      ((registerAll new.1 (ts.map Terms.toFilter) new.2).within s.withStore).map
        fun _ => .filter new.1 := by
    rw [build]
  refine ⟨new.1, ?_, ?_⟩
  · rw [hbuild, Outcome.map, Outcome.within, hok]
    rfl
  · rw [hbuild]
    refine hstate.trans ?_
    rw [hempty]
    rfl

/-! ## Agreement -/

section

variable [Host]

/-- The verdict of a strict filter is that of the conjunction of comparisons with its criteria. -/
theorem result_satisfies_filter {s : Store} {id : FilterId} {allowMissing : Bool} {name : String}
    {cs : List Criterion} (hne : cs ≠ [])
    (hid : s.filter id = ⟨name, allowMissing, true, groupsBy Criterion.key cs, []⟩)
    (r : Resource) (u : Store) :
    (Expr.satisfies r (.filter id) s).result =
      (Expr.satisfies r (.and ((groupedBy Criterion.key cs).map (.comparison · allowMissing)))
        u).result := by
  have hgroups : (s.filter id).groups ≠ [] := by
    rw [hid]
    exact fun h => hne (groupsBy_eq_nil.mp h)
  have hcriteria : (s.filter id).criteria = groupedBy Criterion.key cs := by
    rw [hid]
    rfl
  have hpolicy : (s.filter id).allowMissing = allowMissing := by rw [hid]
  calc (Expr.satisfies r (.filter id) s).result
      = ((s.filter id).satisfies r).result := by rw [Expr.satisfies]; rfl
    _ = ((s.filter id).satisfiesAll r (groupedBy Criterion.key cs)).result := by
        rw [Filter.satisfies, if_neg (by simpa using hgroups), hcriteria]
    _ = (Expr.satisfiesAll r
          ((groupedBy Criterion.key cs).map (.comparison · (s.filter id).allowMissing)) u).result :=
        (Expr.result_satisfiesAll_comparisons (by rw [hid]) r u _).symm
    _ = (Expr.satisfies r (.and ((groupedBy Criterion.key cs).map (.comparison · allowMissing)))
          u).result := by
        rw [hpolicy, Expr.satisfies]

/-- **A strict filter is a conjunction of comparisons.** Of terms that a filter accepts, if there
are any, both a strict filter and a conjunction of comparisons in the order of its groups can be
made, in any session; and they have the same verdict or the same fault for every resource. Moreover,
for whatever key, operator name and text, a comparison can be made of them exactly if a filter
reports that it has added their criterion, and that is then the criterion of both.

**Proof sketch.** The filter holds the criteria of the terms grouped by key, and the comparisons are
those of the same criteria in the same order (`groupedBy_map`). Evaluation goes through both in the
same way. -/
theorem filter_agrees_with_conjunction (s s' : Session) (name : String) (allowMissing : Bool)
    (ts : List Terms) (hne : ts ≠ []) (hts : ∀ t ∈ ts, t.IsAccepted) :
    let made := s.build (.filter name allowMissing true (ts.map Terms.toFilter))
    let conjunction := s'.build
      (.and ((groupedBy Terms.key ts).map (Terms.toComparison allowMissing)))
    (∃ e d, made.result = .ok e ∧ conjunction.result = .ok d ∧
      ∀ (r : Resource) (u : Store),
        (Expr.satisfies r e made.state.store).result = (Expr.satisfies r d u).result) ∧
    ∀ (key operator text : String) (f : Filter) (j : Journal),
      ((∃ e, Expr.compare key operator (some text) allowMissing = .ok e) ↔
        ∃ g, (Filter.register key operator (some text) f j).result = .ok g ∧ g.added = true) ∧
      ∀ g, (Filter.register key operator (some text) f j).result = .ok g → g.added = true →
        ∃ c, g.criterion? = some c ∧
          c ∈ (Filter.register key operator (some text) f j).state.1.criteria ∧
          Expr.compare key operator (some text) allowMissing =
            .ok (.comparison c allowMissing) := by
  intro made conjunction
  constructor
  · obtain ⟨id, hmade, hid⟩ := build_filter hts s name allowMissing true
    have hkeys : groupedBy Criterion.key (ts.map Terms.criterion) =
        (groupedBy Terms.key ts).map Terms.criterion := by
      rw [groupedBy_map]
      simp only [Terms.key_criterion]
    have hconjunction : conjunction.result = .ok (.and
        ((groupedBy Criterion.key (ts.map Terms.criterion)).map (.comparison · allowMissing))) := by
      simp only [conjunction]
      rw [build, Outcome.map, buildAll_comparisons fun t ht => hts t (mem_groupedBy.mp ht), hkeys]
      rfl
    refine ⟨.filter id, _, hmade, hconjunction, fun r u => ?_⟩
    exact result_satisfies_filter (by simpa using hne) hid r u
  · intro key operator text f j
    refine ⟨Expr.exists_compare_iff_added key operator text allowMissing f j, ?_⟩
    intro g hresult hadded
    exact Expr.compare_of_added allowMissing hresult hadded

end

attribute [local instance] Host.bare

/-- Three terms under two keys that alternate, so that the filter takes them in an order of its
own. -/
theorem filter_agrees_with_conjunction_alternating :
    let ts : List Terms :=
      [⟨"age", "GREATER_THAN", "30"⟩, ⟨"name", "MATCHES_REGEX", "a*"⟩, ⟨"age", "less_than", "4e1"⟩]
    ts ≠ [] ∧ (∀ t ∈ ts, t.IsAccepted) ∧
      ∃ e d,
        (Session.initial.build
          (.filter "people" true true (ts.map Terms.toFilter))).result = .ok e ∧
        (Session.initial.build
          (.and ((groupedBy Terms.key ts).map (Terms.toComparison true)))).result = .ok d ∧
        ∀ (r : Resource) (u : Store),
          (Expr.satisfies r e (Session.initial.build
            (.filter "people" true true (ts.map Terms.toFilter))).state.store).result =
          (Expr.satisfies r d u).result := by
  intro ts
  have hts : ∀ t ∈ ts, t.IsAccepted := by
    intro t ht
    simp only [ts, List.mem_cons, List.not_mem_nil, or_false] at ht
    obtain rfl | rfl | rfl := ht
    all_goals exact Filter.accepts_iff.mpr (Option.isSome_iff_exists.mp (by decide +kernel))
  exact ⟨by simp [ts], hts,
    (filter_agrees_with_conjunction .initial .initial "people" true ts (by simp [ts]) hts).1⟩

end Session

end Winnow

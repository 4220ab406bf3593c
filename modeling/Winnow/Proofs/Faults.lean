import Winnow.Proofs.Leniency

set_option autoImplicit false

/-!
# Faults of matching

A filter whose criteria all have texts is at fault for one of few reasons: a number that is missing
or cannot be read, a text that is no pattern, or a pattern beyond the limits. The first criterion
that does not hold tells which. All but the last are reported: the fault names its criterion, and
one record of an error is written before.

## Main definitions

* `Winnow.Criterion.limit?` — the limit that the pattern of a criterion goes beyond.
* `Winnow.Criterion.FaultOn` — what is at fault when a criterion meets a value.
* `Winnow.Filter.faultRecords` — the records of a fault.

## Main results

* `Winnow.Criterion.IsRegistrable.evaluate_eq_error_iff` — the faults of a criterion with a text.
* `Winnow.Filter.reportsFaults_satisfies` — the records of a filter, with and without a fault.
* `Winnow.Run.verdict_eq_error_iff` — the faults of a filter.
* `Winnow.Run.faults_of_matching` — faults and their records after any run, and those of
  comparisons.

## Design

A pattern beyond the limits is not malformed: it could be carried out if numbers or flags were not
bounded. Its fault does not name the criterion, and nothing is written of it.
-/

namespace Winnow

/-! ## Single criteria -/

namespace Criterion

variable [Host]

/-- The limit that the pattern of a criterion goes beyond, if its text is to serve as a pattern. -/
def limit? (c : Criterion) : Option Pattern.Limit :=
  if c.operator = .matchesPattern then
    c.value?.bind fun text => match Pattern.read text with
      | .error (.limit l) => some l
      | _ => none
  else none

/-- What is at fault when a criterion meets a value, or finds none. -/
inductive FaultOn (c : Criterion) : Option String → Fault → Prop where
  /-- A number is asked for, and there is no value. -/
  | absent (hc : c.operator.isNumeric = true) : FaultOn c none (.evaluation c .absent)
  /-- A number is asked for, and the value is none. -/
  | notNumeric {value : String} {e : NumberError} (hc : c.operator.isNumeric = true)
      (he : comparable value = .error e) : FaultOn c (some value) (.evaluation c (.notNumeric e))
  /-- The text is to be a pattern, and is none. -/
  | invalidPattern {text value : String} {error : Pattern.Malformed}
      (hc : c.operator = .matchesPattern) (htext : c.value? = some text)
      (herror : Pattern.read text = .error (.malformed error)) :
      FaultOn c (some value) (.evaluation c (.invalidPattern error))
  /-- The pattern is beyond the limits. -/
  | limit {value : String} {l : Pattern.Limit} (hl : c.limit? = some l) :
      FaultOn c (some value) (.limit l)

/-- A limit is that of a pattern that cannot be carried out. -/
theorem limit?_eq_some_iff {c : Criterion} {l : Pattern.Limit} :
    c.limit? = some l ↔ c.operator = .matchesPattern ∧
      ∃ text, c.value? = some text ∧ Pattern.read text = .error (.limit l) := by
  rw [limit?]
  split
  · rename_i hc
    rw [Option.bind_eq_some_iff]
    constructor
    · rintro ⟨text, htext, h⟩
      split at h
      · rename_i hread
        exact ⟨hc, text, htext, by rw [hread, Option.some.inj h]⟩
      · cases h
    · rintro ⟨-, text, htext, hread⟩
      exact ⟨text, htext, by rw [hread]⟩
  · rename_i hc
    refine ⟨fun h => ?_, fun h => absurd h.1 hc⟩
    cases h

/-- The faults of a pattern criterion. -/
theorem evaluate_pattern_eq_error_iff {c : Criterion} (hc : c.operator = .matchesPattern)
    (htext : c.value?.isSome = true) (allowMissing : Bool) (value? : Option String)
    (fault : Fault) : c.evaluate allowMissing value? = .error fault ↔ c.FaultOn value? fault := by
  obtain ⟨text, htext⟩ := Option.isSome_iff_exists.mp htext
  have hn : c.operator.isNumeric = false := by rw [hc]; rfl
  simp only [evaluate, hc]
  cases value? with
  | none =>
    refine ⟨fun h => ?_, fun h => ?_⟩
    · cases h
    · cases h with
      | absent hnumeric => rw [hn] at hnumeric; cases hnumeric
  | some value =>
    simp only [evaluatePattern, htext]
    constructor
    · intro h
      split at h
      · cases h
      · rename_i error hread
        cases h
        exact .invalidPattern hc htext hread
      · rename_i l hread
        cases h
        exact .limit (limit?_eq_some_iff.mpr ⟨hc, text, htext, hread⟩)
    · intro h
      cases h with
      | notNumeric hnumeric => rw [hn] at hnumeric; cases hnumeric
      | invalidPattern _ htext' hread =>
        cases htext.symm.trans htext'
        rw [hread]
      | limit hl =>
        obtain ⟨-, text', htext', hread⟩ := limit?_eq_some_iff.mp hl
        cases htext.symm.trans htext'
        rw [hread]

namespace IsRegistrable

variable {c : Criterion}

/-- The faults of a numeric criterion that can be registered. -/
theorem evaluate_numeric_eq_error_iff (h : c.IsRegistrable) (hc : c.operator.isNumeric = true)
    (allowMissing : Bool) (value? : Option String)
    (fault : Fault) : c.evaluate allowMissing value? = .error fault ↔ c.FaultOn value? fault := by
  obtain ⟨-, y, -, -, hy⟩ := h.exists_number hc
  have hthreshold : c.threshold = .ok y := by simp [threshold, hy]
  have hevaluate : c.evaluate allowMissing value? = .error fault ↔
      c.valueNumber value? = .error fault := by
    constructor
    · intro ho
      obtain hx | hx := error_of_evaluate_numeric hc ho
      · exact hx
      · rw [hthreshold] at hx
        cases hx
    · intro hx
      cases ho : c.operator <;> simp [ho, Operator.isNumeric] at hc
      · simp only [evaluate, ho, hx]; rfl
      · simp only [evaluate, ho, hx]; rfl
  have hpattern : c.operator ≠ .matchesPattern := fun ho => by rw [ho] at hc; cases hc
  rw [hevaluate]
  cases value? with
  | none =>
    refine ⟨fun hx => ?_, fun hx => ?_⟩
    · cases hx
      exact .absent hc
    · cases hx with
      | absent => rfl
  | some value =>
    rw [valueNumber]
    cases hx : comparable value with
    | ok x =>
      refine ⟨fun hfault => ?_, fun hfault => ?_⟩
      · cases hfault
      · cases hfault with
        | notNumeric _ he => rw [hx] at he; cases he
        | invalidPattern ho => exact absurd ho hpattern
        | limit hl => exact absurd (limit?_eq_some_iff.mp hl).1 hpattern
    | error e =>
      refine ⟨fun hfault => ?_, fun hfault => ?_⟩
      · cases hfault
        exact .notNumeric hc hx
      · cases hfault with
        | notNumeric _ he => rw [hx] at he; cases he; rfl
        | invalidPattern ho => exact absurd ho hpattern
        | limit hl => exact absurd (limit?_eq_some_iff.mp hl).1 hpattern

/-- The faults of a criterion that can be registered and has a text.

**Proof sketch.** Numeric criteria and patterns have the faults that are listed for them, and no
other criterion with a text has any. -/
theorem evaluate_eq_error_iff (h : c.IsRegistrable) (htext : c.value?.isSome = true)
    (allowMissing : Bool) (value? : Option String)
    (fault : Fault) : c.evaluate allowMissing value? = .error fault ↔ c.FaultOn value? fault := by
  by_cases hn : c.operator.isNumeric = true
  · exact h.evaluate_numeric_eq_error_iff hn allowMissing value? fault
  by_cases ho : c.operator = .matchesPattern
  · exact evaluate_pattern_eq_error_iff ho htext allowMissing value? fault
  -- what remains has a verdict on every value
  obtain ⟨text, htext⟩ := Option.isSome_iff_exists.mp htext
  have hreadable : c.IsReadable := ⟨text, htext, fun h => absurd h ho⟩
  obtain ⟨holds, hholds⟩ :=
    hreadable.exists_evaluate (by simpa using hn) allowMissing value?
  rw [hholds]
  refine ⟨fun hfault => ?_, fun hfault => ?_⟩
  · cases hfault
  · cases hfault with
    | absent hc => exact absurd hc hn
    | notNumeric hc => exact absurd hc hn
    | invalidPattern hc => exact absurd hc ho
    | limit hl => exact absurd (limit?_eq_some_iff.mp hl).1 ho

end IsRegistrable

namespace FaultOn

variable {c : Criterion} {value? : Option String} {fault : Fault}

/-- Within the limits a fault names its criterion. -/
theorem exists_problem (h : c.FaultOn value? fault) (hc : c.limit? = none) :
    ∃ problem, fault = .evaluation c problem := by
  cases h with
  | absent => exact ⟨_, rfl⟩
  | notNumeric => exact ⟨_, rfl⟩
  | invalidPattern => exact ⟨_, rfl⟩
  | limit hl => rw [hc] at hl; cases hl

/-- Within the limits a fault of a pattern is that the text is no pattern, with what makes it
malformed. -/
theorem exists_malformed (h : c.FaultOn value? fault) (hc : c.limit? = none)
    (ho : c.operator = .matchesPattern) :
    ∃ text error, c.value? = some text ∧ Pattern.read text = .error (.malformed error) ∧
      fault = .evaluation c (.invalidPattern error) := by
  have hn : c.operator.isNumeric = false := by rw [ho]; rfl
  cases h with
  | absent hnumeric => rw [hn] at hnumeric; cases hnumeric
  | notNumeric hnumeric => rw [hn] at hnumeric; cases hnumeric
  | invalidPattern _ htext hread => exact ⟨_, _, htext, hread, rfl⟩
  | limit hl => rw [hc] at hl; cases hl

end FaultOn

end Criterion

/-! ## Filters -/

namespace Filter

/-- The records of a fault: one of an error if the fault names a criterion, and else none. -/
def faultRecords (name : String) (fault : Fault) : List Record :=
  (fault.criterion?.map fun c => Record.failed name c.key c.render (.ofFault fault)).toList

/-- How an outcome of a filter is reported: a fault leaves its records only and changes nothing, and
without a fault there is no record of an error. -/
structure ReportsFaults (f : Filter) (o : Outcome Filter Bool) : Prop where
  of_error : ∀ fault, o.result = .error fault → o.records = faultRecords f.name fault ∧ o.state = f
  of_ok : ∀ holds, o.result = .ok holds → ∀ x ∈ o.records, x.level ≠ .error

/-- A verdict on a resource is reported, whatever is remembered. -/
theorem ReportsFaults.verdict {f g : Filter} {holds : Bool} {records : List Record}
    (h : ∀ x ∈ records, x.level ≠ .error) : f.ReportsFaults ⟨.ok holds, records, g⟩ where
  of_error _ hfault := by cases hfault
  of_ok _ _ := h

/-- A fault with its records is reported. -/
theorem ReportsFaults.fault {f : Filter} {fault : Fault} {records : List Record}
    (h : records = faultRecords f.name fault) : f.ReportsFaults ⟨.error fault, records, f⟩ where
  of_error _ hfault := by cases hfault; exact ⟨h, rfl⟩
  of_ok _ hholds := by cases hholds

/-- The record of a verdict alone is not one of an error. -/
theorem level_ne_error_of_mem_outcome {name : String} {holds : Bool}
    {failedKey? reason? : Option String} :
    ∀ x ∈ [Record.outcome name holds failedKey? reason?], x.level ≠ .error := by
  intro x hx hlevel
  obtain rfl := List.mem_singleton.mp hx
  cases hlevel

variable [Host]

/-- Going through criteria, a filter reports its faults.

**Proof sketch.** Induction on the criteria: what holds is passed over in silence, and the first
criterion that does not hold writes all there is. -/
theorem reportsFaults_satisfiesAll (f : Filter) (r : Resource) (cs : List Criterion) :
    f.ReportsFaults (f.satisfiesAll r cs) := by
  induction cs with
  | nil =>
    rw [satisfiesAll]
    exact .verdict level_ne_error_of_mem_outcome
  | cons c cs ih =>
    rw [satisfiesAll]
    split
    · exact ih
    · exact .verdict level_ne_error_of_mem_outcome
    · rename_i d problem ho
      obtain rfl : d = c := Criterion.eq_of_evaluate_eq ho
      split
      · refine .verdict fun x hx => ?_
        obtain rfl | hx := List.mem_cons.mp hx
        · rw [Record.lenient]
          split <;> exact fun hlevel => by cases hlevel
        · exact level_ne_error_of_mem_outcome x hx
      · exact .fault rfl
    · rename_i fault hother ho
      cases fault with
      | evaluation d problem => exact absurd rfl (hother d problem)
      | _ => exact .fault rfl

/-- A filter reports its faults. -/
theorem reportsFaults_satisfies (f : Filter) (r : Resource) : f.ReportsFaults (f.satisfies r) := by
  rw [satisfies]
  split
  · exact .verdict level_ne_error_of_mem_outcome
  · exact f.reportsFaults_satisfiesAll r f.criteria

/-- A criterion decides for a fault exactly if it has that fault and no leniency applies. -/
theorem decision_eq_error_iff (f : Filter) {c : Criterion} (hc : c.IsRegistrable) (r : Resource)
    {fault : Fault} :
    f.decision r c = .error fault ↔
      c.evaluate f.allowMissing (r.get? c.key) = .error fault ∧
        (c.operator.isNumeric = true → f.strict = true) := by
  rw [decision]
  cases hn : c.operator.isNumeric with
  | false => simp
  | true =>
    cases hs : f.strict with
    | true => simp
    | false =>
      obtain ⟨hu, holds, ho⟩ | ⟨hu, -⟩ := hc.evaluate_cases hn f.allowMissing (r.get? c.key)
      · simp [hu, ho]
      · simp [hu]

end Filter

/-! ## Comparisons -/

/-- A single comparison with a text has the faults of its criterion, writes nothing and changes
nothing. -/
theorem Expr.comparison_faults [Host] {key operator text : String} {allowMissing : Bool} {e : Expr}
    (h : compare key operator (some text) allowMissing = .ok e) (r : Resource) (s : Store) :
    ∃ c, e = .comparison c allowMissing ∧ c.key = key ∧ c.value? = some text ∧
      (e.satisfies r s).records = [] ∧ (e.satisfies r s).state = s ∧
      ∀ fault, (e.satisfies r s).result = .error fault ↔ c.FaultOn (r.get? key) fault := by
  obtain ⟨c, hc, rfl⟩ := compare_eq_ok_iff.mp h
  obtain ⟨o, -, hparts⟩ := Option.bind_eq_some_iff.mp hc
  obtain ⟨hkey, -, htext⟩ := Criterion.ofText?_eq_some hparts
  rw [satisfies]
  refine ⟨c, rfl, hkey, htext, rfl, rfl, fun fault => ?_⟩
  show c.evaluate allowMissing (r.get? c.key) = .error fault ↔ _
  rw [hkey]
  exact (Criterion.isRegistrable_of_accepted hc).evaluate_eq_error_iff (by rw [htext]; rfl) _ _ _

/-! ## Runs -/

namespace Run

section

variable [Host]

/-- A filter is at fault exactly if the first criterion that does not hold is, and leniency does not
apply to it. -/
theorem verdict_eq_error_iff {p : Run} (hp : ∀ c ∈ p.registered, c.value?.isSome = true)
    (r : Resource) {fault : Fault} :
    p.verdict r = .error fault ↔
      ∃ c, ((groupedBy Criterion.key p.registered).find? fun c => ¬ p.filter.Holds r c) = some c ∧
        c.FaultOn (r.get? c.key) fault ∧
        (c.operator.isNumeric = true → p.filter.strict = true) := by
  rw [verdict_eq_match]
  cases hfind : (groupedBy Criterion.key p.registered).find? fun c => ¬ p.filter.Holds r c with
  | none => simp
  | some c =>
    have hmem : c ∈ p.registered := mem_groupedBy.mp (List.mem_of_find?_eq_some hfind)
    have hc : c.IsRegistrable := Store.isRegistrable_of_mem_registered hmem
    show p.filter.decision r c = .error fault ↔ _
    rw [p.filter.decision_eq_error_iff hc, hc.evaluate_eq_error_iff (hp c hmem)]
    simp

/-- Evaluating the filter of a run reports its faults. -/
theorem reportsFaults (p : Run) (r : Resource) :
    let o := Expr.satisfies r (.filter p.id) p.final
    (∀ fault, o.result = .error fault →
      o.records = Filter.faultRecords p.filter.name fault ∧ o.state = p.final) ∧
    ∀ holds, o.result = .ok holds → ∀ x ∈ o.records, x.level ≠ .error := by
  obtain ⟨herror, hok⟩ := p.filter.reportsFaults_satisfies r
  rw [Expr.satisfies]
  refine ⟨fun fault hfault => ?_, hok⟩
  obtain ⟨hrecords, hstate⟩ := herror fault hfault
  refine ⟨hrecords, ?_⟩
  show p.final.setFilter p.id (p.filter.satisfies r).state = p.final
  rw [hstate]
  exact p.final.setFilter_self p.id

/-- **Faults of matching.** Take any run in which every criterion that is accepted for the filter
has a text, whatever the policies. On any resource the filter comes to a verdict, without a record
of an error, or to a fault, which changes nothing. It is at fault exactly if the first criterion
that does not hold is, by a number that is missing or cannot be read, a text that is no pattern, or
a pattern beyond the limits; a lenient filter is not at fault for a number. If no pattern is beyond
the limits, then each fault names this criterion, exactly one record is written, which is that of an
error, and a text that is no pattern is told with what makes it malformed. The same faults are those
of a single comparison, which writes nothing.

**Proof sketch.** The first criterion that does not hold decides (`verdict_eq_match`), and the
faults of a criterion with a text are listed (`Criterion.IsRegistrable.evaluate_eq_error_iff`). What
a fault writes is settled where the filter stops (`Filter.reportsFaults_satisfies`). -/
theorem faults_of_matching (p : Run) (hp : ∀ c ∈ p.registered, c.value?.isSome = true)
    (r : Resource) :
    let o := Expr.satisfies r (.filter p.id) p.final
    (∀ fault, o.result = .error fault ↔
      ∃ c, ((groupedBy Criterion.key p.registered).find? fun c => ¬ p.filter.Holds r c) = some c ∧
        c.FaultOn (r.get? c.key) fault ∧
        (c.operator.isNumeric = true → p.filter.strict = true)) ∧
    (∀ fault, o.result = .error fault →
      o.records = Filter.faultRecords p.filter.name fault ∧ o.state = p.final) ∧
    (∀ holds, o.result = .ok holds → ∀ x ∈ o.records, x.level ≠ .error) ∧
    ((∀ c ∈ p.registered, c.limit? = none) → ∀ fault, o.result = .error fault →
      ∃ c ∈ p.registered, ∃ problem, fault = .evaluation c problem ∧
        o.records = [.failed p.filter.name c.key c.render (.ofFault fault)] ∧
        (c.operator = .matchesPattern → ∃ text error, c.value? = some text ∧
          Pattern.read text = .error (.malformed error) ∧ fault.cause? = some (.pattern error) ∧
          fault.message = "Cannot evaluate '" ++ c.render ++ "': "
            ++ ("invalid regular expression: " ++ error.message))) ∧
    ∀ key operator text allowMissing e,
      Expr.compare key operator (some text) allowMissing = .ok e → ∀ s,
        ∃ c, e = .comparison c allowMissing ∧ c.key = key ∧ c.value? = some text ∧
          (e.satisfies r s).records = [] ∧ (e.satisfies r s).state = s ∧
          (∀ fault, (e.satisfies r s).result = .error fault ↔ c.FaultOn (r.get? key) fault) ∧
          (c.limit? = none → ∀ fault, (e.satisfies r s).result = .error fault →
            ∃ problem, fault = .evaluation c problem) := by
  intro o
  have hiff : ∀ {fault}, o.result = .error fault ↔ _ := verdict_eq_error_iff hp r
  obtain ⟨hreport, hsilent⟩ := p.reportsFaults r
  refine ⟨fun fault => hiff, hreport, hsilent, fun hlimits fault hfault => ?_, ?_⟩
  · obtain ⟨c, hfind, hc, -⟩ := hiff.mp hfault
    have hmem : c ∈ p.registered := mem_groupedBy.mp (List.mem_of_find?_eq_some hfind)
    obtain ⟨problem, rfl⟩ := hc.exists_problem (hlimits c hmem)
    refine ⟨c, hmem, problem, rfl, (hreport _ hfault).1, fun ho => ?_⟩
    obtain ⟨text, error, htext, hread, heq⟩ := hc.exists_malformed (hlimits c hmem) ho
    obtain ⟨-, rfl⟩ := Fault.evaluation.inj heq
    exact ⟨text, error, htext, hread, rfl, rfl⟩
  · intro key operator text allowMissing e he s
    obtain ⟨c, hc, hkey, htext, hrecords, hstate, hfaults⟩ := Expr.comparison_faults he r s
    exact ⟨c, hc, hkey, htext, hrecords, hstate, hfaults,
      fun hlimit fault hfault => ((hfaults fault).mp hfault).exists_problem hlimit⟩

end

/-- A host that knows the name of one character. -/
abbrev spaceHost : Host :=
  .ofLists [("SPACE", ' ')] []

attribute [local instance] spaceHost

/-- A numeric criterion that holds and a text that is no pattern. -/
theorem faults_of_matching_unterminated :
    let p : Run := ⟨.empty, "people", true, true, none,
      [.register ⟨0⟩ "age" "GREATER_THAN" (some "30"),
        .register ⟨0⟩ "name" "MATCHES_REGEX" (some "(")]⟩
    let r : Resource := ⟨[("age", some "31"), ("name", some "x")]⟩
    let c : Criterion := ⟨"name", .matchesPattern, some "(", none⟩
    let fault := Fault.evaluation c (.invalidPattern ⟨"(", .unterminatedGroup, some 0⟩)
    let o := Expr.satisfies r (.filter p.id) p.final
    (∀ c ∈ p.registered, c.value?.isSome = true) ∧ (∀ c ∈ p.registered, c.limit? = none) ∧
      o.result = .error fault ∧
      o.records = [.failed "people" "name" c.render (.ofFault fault)] := by
  intro p r c fault o
  have hp : ∀ c ∈ p.registered, c.value?.isSome = true := by decide +kernel
  have hlimits : ∀ c ∈ p.registered, c.limit? = none := by decide +kernel
  have hfault : o.result = .error fault := by decide +kernel
  obtain ⟨d, -, problem, heq, hrecords, -⟩ :=
    (faults_of_matching p hp r).2.2.2.1 hlimits fault hfault
  have hname : p.filter.name = "people" := by decide +kernel
  rw [hname] at hrecords
  obtain ⟨rfl, -⟩ := Fault.evaluation.inj heq
  exact ⟨hp, hlimits, hfault, hrecords⟩

/-- Patterns beyond the limits: repeat counts of a character and of one that is named, a code point
and two flags. Their faults do not name the criterion, and nothing is written. -/
theorem faults_beyond_limits :
    let p (text : String) : Run := ⟨.empty, "people", true, true, none,
      [.register ⟨0⟩ "name" "MATCHES_REGEX" (some text)]⟩
    let r : Resource := ⟨[("name", some "a")]⟩
    let o (text : String) := Expr.satisfies r (.filter (p text).id) (p text).final
    let exceeds (text : String) (l : Pattern.Limit) (kind : String) : Prop :=
      (o text).result = .error (.limit l) ∧ (o text).records = [] ∧ (Fault.limit l).kind = kind
    exceeds "a{4294967295}" .hugeRepeat "OverflowError" ∧
      exceeds "\\N\x7bSPACE\x7d{4294967295}" .hugeRepeat "OverflowError" ∧
      exceeds "\\U80000000" .hugeCodePoint "OverflowError" ∧
      exceeds "(?a)(?u)" .contradictoryFlags "ValueError" := by
  intro p r o exceeds
  refine ⟨⟨?_, ?_, rfl⟩, ⟨?_, ?_, rfl⟩, ⟨?_, ?_, rfl⟩, ?_, ?_, rfl⟩
  all_goals decide +kernel

end Run

end Winnow

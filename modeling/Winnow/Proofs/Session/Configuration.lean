import Mathlib.Data.List.Basic
import Winnow.Proofs.Session.Steps

set_option autoImplicit false

/-!
# Configured sessions

Setting the level of the channel decides which records are seen, and nothing else. A session with
steps that set it, at any places, is the session without them but for the channel, and each other
step comes to the same. Setting the level again finds the output that was installed the first time,
so every record that is seen is written once. Setting it fails, and changes nothing, if the host
knows something by its name that is no level.

## Main definitions

* `Winnow.Step.configures`, `Winnow.Session.unconfigured` — the steps that are to set the level, and
  those that are not.
* `Winnow.Settings.IsUnusable` — settings whose level is no level.
* `Winnow.Step.request?`, `Winnow.Step.level?` — the level that a step is to set, and the one that
  it sets.
* `Winnow.Session.lastLevel?`, `Winnow.Session.levelInForce` — the level that was set last, and the
  level that records are measured by.

## Main results

* `Winnow.Channel.configureAll_eq` — a channel after its level is set several times.
* `Winnow.Step.request?_eq_error_iff` — when a level fails to be set.
* `Winnow.Session.perform_withChannel` — what a step comes to does not depend on the channel.
* `Winnow.Session.after_unconfigured` — a session without the steps that are to set the level.
* `Winnow.Session.configuration_only_filters_records` — configured sessions, step by step.
-/

namespace Winnow

/-! ## Channels -/

namespace Channel

/-- The library's own output with a level. -/
def ownOutput (level : Nat) : Output :=
  ⟨outputName, level⟩

/-- The channel after its level is set several times. -/
def configureAll (channel : Channel) (levels : List Nat) : Channel :=
  levels.foldl configure channel

/-- Of two levels of the library's own output the second one stays. -/
theorem setOutput_setOutput (first second : Nat) (outputs : List Output) :
    setOutput second (setOutput first outputs) = setOutput second outputs := by
  induction outputs with
  | nil => simp [setOutput]
  | cons o outputs ih =>
    by_cases h : o.name = outputName
    · simp [setOutput, h]
    · simp [setOutput, h, ih]

/-- The library's own output is added after outputs that are not. -/
theorem setOutput_of_forall_ne {outputs : List Output} (h : ∀ o ∈ outputs, o.name ≠ outputName)
    (level : Nat) : setOutput level outputs = outputs ++ [ownOutput level] := by
  induction outputs with
  | nil => rfl
  | cons o outputs ih =>
    have ho : o.name ≠ outputName := h o List.mem_cons_self
    simp [setOutput, ho, ih fun o' ho' => h o' (List.mem_cons_of_mem o ho')]

/-- After several levels a channel is as after the last one. -/
theorem configureAll_concat (channel : Channel) (levels : List Nat) (level : Nat) :
    channel.configureAll (levels ++ [level]) = channel.configure level := by
  induction levels generalizing channel with
  | nil => rfl
  | cons first levels ih =>
    show (channel.configure first).configureAll (levels ++ [level]) = _
    rw [ih, configure, configure, configure, setOutput_setOutput]

/-- A channel after its level is set several times: whatever outputs it had, there is one more, and
its level is the last one, as is that of the channel. -/
theorem configureAll_eq {channel : Channel} (h : ∀ o ∈ channel.outputs, o.name ≠ outputName)
    {levels : List Nat} {level : Nat} (hlast : levels.getLast? = some level) :
    channel.configureAll levels = ⟨level, channel.outputs ++ [ownOutput level]⟩ := by
  obtain ⟨before, rfl⟩ := List.getLast?_eq_some_iff.mp hlast
  rw [configureAll_concat, configure, setOutput_of_forall_ne h]

/-- The only output of a channel writes each record that is seen, if it has the level of the
channel.
-/
theorem written_of_outputs_eq {channel : Channel} (h : channel.outputs = [ownOutput channel.level])
    (records : List Record) :
    channel.written records = "".intercalate ((channel.visible records).map line) := by
  have hline : ∀ r ∈ channel.visible records,
      ((channel.outputs.filter fun o => o.level ≤ r.level.rank).map fun _ => line r) =
        [line r] := by
    intro r hr
    have hlevel : channel.level ≤ r.level.rank := by
      have hseen : channel.effectiveLevel ≤ r.level.rank := by
        simpa [visible] using (List.mem_filter.mp hr).2
      unfold effectiveLevel at hseen
      split at hseen <;> omega
    simp [h, ownOutput, hlevel]
  rw [written, List.flatMap_congr hline, List.map_eq_flatMap]

/-- Without outputs nothing is written. -/
theorem written_of_outputs_eq_nil {channel : Channel} (h : channel.outputs = [])
    (records : List Record) : channel.written records = "" := by
  have hline : ∀ r ∈ channel.visible records,
      ((channel.outputs.filter fun o => o.level ≤ r.level.rank).map fun _ => line r) = [] := by
    simp [h]
  rw [written, List.flatMap_eq_nil_iff.mpr hline]
  rfl

/-- Before a channel is configured, all records are seen. -/
theorem visible_initial (records : List Record) : initial.visible records = records := by
  refine List.filter_eq_self.mpr fun r _ => ?_
  cases r.level <;> decide

end Channel

namespace Session

/-! ## Sessions with another channel -/

/-- The session with another channel. -/
def withChannel (channel : Channel) (s : Session) : Session :=
  { s with channel }

variable (channel : Channel)

section Operations

variable {α : Type} (s : Session) (name : String) (yields : α → Value)

/-- An operation on a filter does not depend on the channel. -/
theorem onFilter_withChannel (operation : FilterId → Store → Outcome Store α) :
    (s.withChannel channel).onFilter name yields operation =
      (s.onFilter name yields operation).within (withChannel channel) := by
  rw [onFilter, onFilter, show (s.withChannel channel).filterId name = s.filterId name from rfl]
  cases s.filterId name <;> rfl

/-- An operation on an expression does not depend on the channel. -/
theorem onExpr_withChannel (operation : Expr → Store → Outcome Store α) :
    (s.withChannel channel).onExpr name yields operation =
      (s.onExpr name yields operation).within (withChannel channel) := by
  rw [onExpr, onExpr, show (s.withChannel channel).expr name = s.expr name from rfl]
  cases s.expr name <;> rfl

/-- An operation on a journal does not depend on the channel. -/
theorem onJournal_withChannel (operation : JournalId → Store → Outcome Store α) :
    (s.withChannel channel).onJournal name yields operation =
      (s.onJournal name yields operation).within (withChannel channel) := by
  rw [onJournal, onJournal, show (s.withChannel channel).journalId name = s.journalId name from rfl]
  cases s.journalId name <;> rfl

end Operations

mutual

/-- Making an expression does not depend on the channel. -/
theorem build_withChannel : ∀ (b : Blueprint) (s : Session),
    build b (s.withChannel channel) = (build b s).within (withChannel channel)
  | .literal _, s => by rw [build, build]; rfl
  | .comparison _ _ _ _, s => by rw [build, build]; rfl
  | .filter _ _ _ _, s => by rw [build, build]; rfl
  | .not operand, s => by rw [build, build, build_withChannel operand s]; rfl
  | .and operands, s => by rw [build, build, buildAll_withChannel operands s]; rfl
  | .or operands, s => by rw [build, build, buildAll_withChannel operands s]; rfl
  | .ref _, s => by rw [build, build]; rfl

/-- Making several expressions does not depend on the channel. -/
theorem buildAll_withChannel : ∀ (bs : List Blueprint) (s : Session),
    buildAll bs (s.withChannel channel) = (buildAll bs s).within (withChannel channel)
  | [], s => by rw [buildAll, buildAll]; rfl
  | b :: bs, s => by
    have hrest : ∀ (e : Expr) (t : Session),
        (buildAll bs (t.withChannel channel)).map (e :: ·) =
          ((buildAll bs t).map (e :: ·)).within (withChannel channel) := by
      intro e t
      rw [buildAll_withChannel bs t]
      rfl
    rw [buildAll, buildAll, build_withChannel b s]
    exact Outcome.andThen_within hrest _

end

end Session

/-! ## Steps -/

/-- Reading settings without validating them never fails. -/
theorem Settings.ofEnvironment_unvalidated (environment : Environment) :
    ∃ settings records, ofEnvironment environment false = (.ok settings, records) ∧
      settings.logLevel = (readLevel environment).1 := by
  simp [ofEnvironment]

/-- The level of an environment is one of those that settings may hold. -/
theorem Settings.readLevel_mem (environment : Environment) :
    (readLevel environment).1 ∈ levelNames := by
  simp only [readLevel]
  split
  · rename_i h
    exact List.contains_iff_mem.mp h
  · show "INFO" ∈ levelNames
    decide

/-- The levels that settings may hold have ranks. -/
theorem Settings.isSome_rankOfName? : ∀ name ∈ levelNames, (rankOfName? name).isSome := by
  decide

/-- A step is to set the level of the channel. -/
def Step.configures : Step → Bool
  | .configure _ | .configureByEnvironment _ => true
  | _ => false

/-- The steps without those that are to set the level. -/
def Session.unconfigured (steps : List Step) : List Step :=
  steps.filter fun step => !step.configures

section

variable [Host]

/-- The level of settings is no level, but the host knows something else by its name: a text that is
the name of no level either, or what is not even a text. -/
def Settings.IsUnusable (s : Settings) : Prop :=
  rankOfName? s.logLevel = none ∧
    ((∃ text, Host.loggingName? s.logLevel = some (.text text) ∧ rankOfName? text = none) ∨
      ∃ shown, Host.loggingName? s.logLevel = some (.other shown))

/-- Settings have no rank exactly if their level is unusable. -/
theorem Settings.rank_eq_error_iff {s : Settings} :
    (∃ fault, s.rank = .error fault) ↔ s.IsUnusable := by
  rw [rank, numericLevel, IsUnusable]
  cases rankOfName? s.logLevel with
  | some rank => simp [rankOf]
  | none =>
    cases Host.loggingName? s.logLevel with
    | none => simp [rankOf]
    | some thing =>
      cases thing with
      | number rank => simp [rankOf]
      | text name => cases h : rankOfName? name <;> simp [rankOf, h]
      | other shown => simp [rankOf]

/-- The level that a step is to set the channel to, or why there is none. -/
def Step.request? : Step → Option (Except Fault Nat)
  | .configure settings => some settings.rank
  | .configureByEnvironment environment =>
    some ((Settings.ofEnvironment environment false).1.bind Settings.rank)
  | _ => none

/-- The level that a step sets the channel to, if it sets one. -/
def Step.level? (step : Step) : Option Nat :=
  step.request?.bind Except.toOption

/-- Only steps that are to set the level ask for one. -/
theorem Step.request?_eq_none_iff {step : Step} :
    step.request? = none ↔ step.configures = false := by
  cases step <;> simp [request?, configures]

/-- A level fails to be set exactly if it is that of settings where it is unusable. The settings of
an environment always have a level. -/
theorem Step.request?_eq_error_iff {step : Step} :
    (∃ fault, step.request? = some (.error fault)) ↔
      ∃ settings, step = .configure settings ∧ settings.IsUnusable := by
  cases step with
  | configure settings => simp [request?, ← Settings.rank_eq_error_iff]
  | configureByEnvironment environment =>
    obtain ⟨settings, records, henvironment, hlevel⟩ :=
      Settings.ofEnvironment_unvalidated environment
    have husable : ¬ settings.IsUnusable := by
      intro h
      have hrank := Settings.isSome_rankOfName? _ (Settings.readLevel_mem environment)
      rw [← hlevel, h.1] at hrank
      cases hrank
    rw [← Settings.rank_eq_error_iff] at husable
    simpa [request?, henvironment, Except.bind] using husable
  | _ => simp [request?]

namespace Session

/-- What a step comes to does not depend on the channel, unless the step is to set the level.

**Proof sketch.** One case for each kind of step. What a step works on is found by name, and the
operation gets the store only. -/
theorem perform_withChannel (channel : Channel) (s : Session) {step : Step}
    (h : step.configures = false) :
    (s.withChannel channel).perform step = (s.perform step).within (withChannel channel) := by
  cases step with
  | newFilter id name allowMissing strict journal? =>
    have hjournal : journal?.mapM (s.withChannel channel).journalId = journal?.mapM s.journalId :=
      rfl
    rw [perform, perform, hjournal]
    cases journal?.mapM s.journalId <;> rfl
  | newFilterOfSettings _ _ _ => rfl
  | newFilterOfEnvironment id name environment validate =>
    rw [perform, perform]
    split <;> rfl
  | newExpr id blueprint =>
    have hbind : ∀ (e : Expr) (t : Session),
        Outcome.value Value.nothing ((t.withChannel channel).bind id (.expr e)) =
          (Outcome.value Value.nothing (t.bind id (.expr e))).within (withChannel channel) :=
      fun _ _ => rfl
    rw [perform, perform, build_withChannel]
    exact Outcome.andThen_within hbind _
  | newJournal _ _ => rfl
  | configure settings => cases h
  | configureByEnvironment environment => cases h
  | register name _ _ _ =>
    rw [perform, perform]
    exact onFilter_withChannel channel s name _ _
  | reset name =>
    rw [perform, perform]
    exact onFilter_withChannel channel s name _ _
  | allowOmitted name _ =>
    rw [perform, perform]
    exact onFilter_withChannel channel s name _ _
  | setStrict name _ =>
    rw [perform, perform]
    exact onFilter_withChannel channel s name _ _
  | satisfies name _ =>
    rw [perform, perform]
    exact onExpr_withChannel channel s name _ _
  | select name _ =>
    rw [perform, perform]
    exact onExpr_withChannel channel s name _ _
  | criteria name =>
    rw [perform, perform]
    exact onFilter_withChannel channel s name _ _
  | criteriaByKey name =>
    rw [perform, perform]
    exact onFilter_withChannel channel s name _ _
  | render name =>
    rw [perform, perform]
    exact onExpr_withChannel channel s name _ _
  | logCriteria name =>
    rw [perform, perform]
    exact onFilter_withChannel channel s name _ _
  | entries name =>
    rw [perform, perform]
    exact onJournal_withChannel channel s name _ _
  | clearEntries name =>
    rw [perform, perform]
    exact onJournal_withChannel channel s name _ _
  | logRegistered name _ _ _ =>
    rw [perform, perform]
    exact onJournal_withChannel channel s name _ _
  | logDiscarded name _ _ _ =>
    rw [perform, perform]
    exact onJournal_withChannel channel s name _ _
  | logReset name _ =>
    rw [perform, perform]
    exact onJournal_withChannel channel s name _ _
  | logPolicy name _ =>
    rw [perform, perform]
    exact onJournal_withChannel channel s name _ _
  | logEntry name level action key message details =>
    rw [perform, perform]
    cases Entry.ofNames level action key message (.ofPairs details) with
    | error fault => rfl
    | ok entry => exact onJournal_withChannel channel s name _ _
  | recordOutcome _ _ _ _ => rfl
  | recordError _ _ _ _ => rfl
  | recordLenient _ _ _ _ => rfl
  | recordListing _ _ => rfl

/-- A step that is to set the level sets that of some settings, and writes what has been written
while these were read. -/
theorem exists_perform_eq_setLevel {step : Step} {request : Except Fault Nat}
    (h : step.request? = some request) :
    ∃ settings records, request = settings.rank ∧
      ∀ t : Session, t.perform step = t.setLevel settings records := by
  cases step with
  | configure settings => exact ⟨settings, [], (Option.some.inj h).symm, fun t => rfl⟩
  | configureByEnvironment environment =>
    obtain ⟨settings, records, henvironment, -⟩ := Settings.ofEnvironment_unvalidated environment
    rw [Step.request?, henvironment] at h
    refine ⟨settings, records, (Option.some.inj h).symm, fun t => ?_⟩
    rw [perform, henvironment]
  | _ => cases h

/-- A step that is to set the level answers with it and with the levels of the outputs, and changes
the channel only. If it fails, nothing changes. -/
theorem perform_of_request {s : Session} {step : Step} {request : Except Fault Nat}
    (h : step.request? = some request) :
    (s.perform step).result = request.map (fun level =>
        .levels level ((s.channel.configure level).outputs.map Output.level)) ∧
      (s.perform step).state = s.withChannel (s.channel.configureAll request.toOption.toList) := by
  obtain ⟨settings, records, rfl, hperform⟩ := exists_perform_eq_setLevel h
  rw [hperform, setLevel]
  cases settings.rank with
  | error fault => exact ⟨rfl, rfl⟩
  | ok level => exact ⟨rfl, rfl⟩

/-- A step changes the channel by the level that it sets, if it sets one. -/
theorem channel_perform (s : Session) (step : Step) :
    (s.perform step).state.channel = s.channel.configureAll step.level?.toList := by
  rw [Step.level?]
  cases h : step.request? with
  | none =>
    have hself := perform_withChannel s.channel s (Step.request?_eq_none_iff.mp h)
    rw [show s.withChannel s.channel = s from rfl] at hself
    rw [hself]
    rfl
  | some request =>
    rw [(perform_of_request h).2]
    rfl

/-- What a step writes does not depend on the channel, whatever the step. -/
theorem records_perform_withChannel (channel : Channel) (s : Session) (step : Step) :
    ((s.withChannel channel).perform step).records = (s.perform step).records := by
  cases h : step.request? with
  | none => rw [perform_withChannel channel s (Step.request?_eq_none_iff.mp h)]; rfl
  | some request =>
    obtain ⟨settings, records, -, hperform⟩ := exists_perform_eq_setLevel h
    rw [hperform, hperform, setLevel, setLevel]
    cases settings.rank <;> rfl

/-! ## Configured sessions -/

/-- The level that was set last, if any was. -/
def lastLevel? (steps : List Step) : Option Nat :=
  (steps.filterMap Step.level?).getLast?

/-- The level that records are measured by after some steps: the one that was set last, or that of
warnings if that is none, and before a level is set that of the least severe records. -/
def levelInForce (steps : List Step) : Nat :=
  match lastLevel? steps with
  | none => Level.debug.rank
  | some level => if level = 0 then Level.warning.rank else level

/-- The channel after some steps. -/
theorem channel_after (s : Session) (steps : List Step) :
    (s.after steps).channel = s.channel.configureAll (steps.filterMap Step.level?) := by
  induction steps generalizing s with
  | nil => rfl
  | cons step steps ih =>
    show ((s.perform step).state.after steps).channel = _
    rw [ih, channel_perform, List.filterMap_cons]
    cases step.level? <;> rfl

/-- Without the steps that are to set the level, a session comes to be the same but for the channel.

**Proof sketch.** Induction on the steps, for any channel to begin with: a step that is to set the
level changes the channel only (`perform_of_request`), and the others do not depend on it
(`perform_withChannel`). -/
theorem after_unconfigured (channel : Channel) (s : Session) (steps : List Step) :
    (s.withChannel channel).after (unconfigured steps) =
      (s.after steps).withChannel channel := by
  induction steps generalizing s with
  | nil => rfl
  | cons step steps ih =>
    show _ = ((s.perform step).state.after steps).withChannel channel
    cases h : step.request? with
    | none =>
      have hother := Step.request?_eq_none_iff.mp h
      have hkept : unconfigured (step :: steps) = step :: unconfigured steps := by
        simp [unconfigured, hother]
      rw [hkept, ← ih]
      show ((s.withChannel channel).perform step).state.after (unconfigured steps) = _
      rw [perform_withChannel channel s hother]
      rfl
    | some request =>
      have hdropped : unconfigured (step :: steps) = unconfigured steps := by
        have hconfigures : step.configures = true := by
          rw [← Bool.not_eq_false, ← Step.request?_eq_none_iff, h]
          simp
        simp [unconfigured, hconfigures]
      rw [hdropped, ← ih, (perform_of_request h).2]
      rfl

/-- After some steps, records are measured by the level that is in force. -/
theorem effectiveLevel_after (steps : List Step) :
    (initial.after steps).channel.effectiveLevel = levelInForce steps := by
  rw [channel_after, levelInForce, lastLevel?]
  cases h : (steps.filterMap Step.level?).getLast? with
  | none =>
    rw [List.getLast?_eq_none_iff.mp h]
    rfl
  | some level =>
    rw [Channel.configureAll_eq (by simp [initial, Channel.initial]) h]
    rfl

/-- **Configuration only filters records.** Take any steps of a session, with steps that are to set
the level of the channel at any places, and any further step. The session has the objects and the
store, with all filters and journals, that it has without the steps that are to set the level. If
the further step is none of these, it comes to the same value or fault, and shows the same filter.
Its records are those of the unconfigured session, all of which are seen there, whose level is at
least the one in force.

A step that is to set the level answers with that level, for the channel and for its only output, or
with a fault. It has a fault exactly if its settings have a level that is unusable, and then the
session is left as it was. Once a level has been set, it is the level of the channel and of its only
output, and the output writes each record that is seen once; before that, nothing is written. A
channel with outputs of others keeps them, and has one more.

**Proof sketch.** Steps do not depend on the channel (`after_unconfigured`, `perform_withChannel`),
and the channel depends on the levels that were set only (`channel_after`). -/
theorem configuration_only_filters_records (steps : List Step) (step : Step) :
    let s := initial.after steps
    let t := initial.after (unconfigured steps)
    (s.objects = t.objects ∧ s.store = t.store) ∧
    (step.configures = false →
      (s.answer step).1.result = (t.answer step).1.result ∧
      (s.answer step).1.filter? = (t.answer step).1.filter?) ∧
    ((t.answer step).1.records = (t.perform step).records ∧
      (s.answer step).1.records = (t.answer step).1.records.filter fun r =>
        levelInForce steps ≤ r.level.rank) ∧
    (∀ request, step.request? = some request →
      (s.answer step).1.result = request.map (fun level => .levels level [level])) ∧
    ((∃ fault, step.request? = some (.error fault)) ↔
      ∃ settings, step = .configure settings ∧ settings.IsUnusable) ∧
    (∀ fault, step.request? = some (.error fault) → (s.answer step).2 = s) ∧
    (∀ level, lastLevel? steps = some level →
      s.channel.level = level ∧ s.channel.outputs = [Channel.ownOutput level] ∧
      (s.answer step).1.written =
        "".intercalate ((s.answer step).1.records.map Channel.line)) ∧
    (lastLevel? steps = none → s.channel = .initial ∧ (s.answer step).1.written = "") ∧
    ∀ channel : Channel, (∀ o ∈ channel.outputs, o.name ≠ Channel.outputName) →
      ∀ levels level, (channel.configureAll (levels ++ [level])) =
        ⟨level, channel.outputs ++ [Channel.ownOutput level]⟩ := by
  intro s t
  have ht : t = s.withChannel .initial := after_unconfigured .initial initial steps
  have hinitial : ∀ o ∈ initial.channel.outputs, o.name ≠ Channel.outputName := by
    simp [initial, Channel.initial]
  have hchannel : s.channel = initial.channel.configureAll (steps.filterMap Step.level?) :=
    channel_after initial steps
  have hall : (t.answer step).1.records = (t.perform step).records := by
    show t.channel.visible _ = _
    rw [ht]
    exact Channel.visible_initial _
  refine ⟨⟨by rw [ht]; rfl, by rw [ht]; rfl⟩, fun hstep => ?_, ⟨hall, ?_⟩, fun request h => ?_,
    Step.request?_eq_error_iff, fun fault h => ?_, fun level hlevel => ?_, fun hlevel => ?_,
    fun channel h levels level => Channel.configureAll_eq h (by simp)⟩
  · have hperform : t.perform step = (s.perform step).within (withChannel .initial) := by
      rw [ht, perform_withChannel .initial s hstep]
    constructor
    · show (s.perform step).result = (t.perform step).result
      rw [hperform]
      rfl
    · show (step.id?.bind (s.perform step).state.filterId?).map _ =
        (step.id?.bind (t.perform step).state.filterId?).map _
      rw [hperform]
      rfl
  · rw [hall, ht, records_perform_withChannel, ← effectiveLevel_after]
    rfl
  · show (s.perform step).result = _
    rw [(perform_of_request h).1]
    cases request with
    | error fault => rfl
    | ok level =>
      have hlast : (steps.filterMap Step.level? ++ [level]).getLast? = some level := by simp
      have hconfigure : s.channel.configure level = ⟨level, [Channel.ownOutput level]⟩ := by
        rw [hchannel]
        refine Eq.trans ?_ (Channel.configureAll_eq hinitial hlast)
        simp [Channel.configureAll]
      rw [Except.map, hconfigure]
      rfl
  · exact (perform_of_request h).2
  · rw [Channel.configureAll_eq hinitial hlevel] at hchannel
    have houtputs : s.channel.outputs = [Channel.ownOutput s.channel.level] := by rw [hchannel]; rfl
    exact ⟨by rw [hchannel], by rw [hchannel]; rfl, Channel.written_of_outputs_eq houtputs _⟩
  · rw [List.getLast?_eq_none_iff.mp hlevel] at hchannel
    exact ⟨hchannel, Channel.written_of_outputs_eq_nil (by rw [hchannel]; rfl) _⟩

end Session

end

namespace Session

/-- A host whose logging knows a text and a class by names that are none of levels. -/
abbrev formattingHost : Host :=
  .ofLists [] [("BASIC_FORMAT", .text "%(levelname)s:%(name)s:%(message)s"),
    ("Formatter", .other "<class 'logging.Formatter'>")]

attribute [local instance] formattingHost

/-- A level that is left to the surroundings, set twice, with another one and a failure in between:
of the two records of a lenient failure only the warning is seen. -/
theorem configuration_only_filters_records_unset :
    let steps : List Step := [.newFilter "people" "people" true false none,
      .configure ⟨true, true, "NOTSET"⟩, .register "people" "age" "GREATER_THAN" (some "30"),
      .configureByEnvironment [("LOG_LEVEL", " error"), ("STRICT_NUMERIC_VALUES", "maybe")],
      .configure ⟨true, true, "NOTSET"⟩, .configure ⟨true, true, "Formatter"⟩]
    let step : Step := .satisfies "people" ⟨[("age", some "n/a")]⟩
    let s := initial.after steps
    let t := initial.after (unconfigured steps)
    step.configures = false ∧ lastLevel? steps = some 0 ∧
      levelInForce steps = Level.warning.rank ∧
      s.store = t.store ∧ (s.answer step).1.result = (t.answer step).1.result ∧
      (t.answer step).1.records.map Record.level = [.warning, .debug] ∧
      (s.answer step).1.records.map Record.level = [.warning] ∧
      s.channel.outputs = [Channel.ownOutput 0] ∧
      (s.answer step).1.written =
        "".intercalate ((s.answer step).1.records.map Channel.line) := by
  intro steps step s t
  have hstep : step.configures = false := rfl
  have hlast : lastLevel? steps = some 0 := by decide +kernel
  have hlevel : levelInForce steps = Level.warning.rank := by decide +kernel
  have hissued : (t.answer step).1.records.map Record.level = [.warning, .debug] := by
    decide +kernel
  obtain ⟨⟨-, hstore⟩, hother, ⟨-, hrecords⟩, -, -, -, hset, -⟩ :=
    configuration_only_filters_records steps step
  obtain ⟨-, houtputs, hwritten⟩ := hset 0 hlast
  refine ⟨hstep, hlast, hlevel, hstore, (hother hstep).1, hissued, ?_, houtputs, hwritten⟩
  rw [hrecords, hlevel]
  decide +kernel

/-- Levels that logging knows as a text which is the name of no level, and as a class: the level is
not set, and no output is installed. -/
theorem configuration_without_output :
    let fails (level : String) (fault : Fault) (kind message : String) : Prop :=
      let step : Step := .configure ⟨true, true, level⟩
      (initial.answer step).1.result = .error fault ∧
        fault.kind = kind ∧ fault.message = message ∧
        (initial.answer step).2.channel = .initial ∧
        ¬ ∃ rank, (initial.answer step).2.channel.outputs = [Channel.ownOutput rank]
    fails "BASIC_FORMAT" (.unknownRank "%(levelname)s:%(name)s:%(message)s") "ValueError"
        "Unknown level: '%(levelname)s:%(name)s:%(message)s'" ∧
      fails "Formatter" (.notALevel "<class 'logging.Formatter'>") "TypeError"
        "Level not an integer or a valid string: <class 'logging.Formatter'>" := by
  have hnone : ¬ ∃ rank, Channel.initial.outputs = [Channel.ownOutput rank] := by
    rintro ⟨rank, houtputs⟩
    cases houtputs
  exact ⟨⟨rfl, rfl, by decide +kernel, rfl, hnone⟩, rfl, rfl, by decide +kernel, rfl, hnone⟩

end Session

end Winnow

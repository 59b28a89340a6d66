/-
The specifications that a registry has as approved, and what becomes of one on its way there.

A registry stores the copy of a specification that goes through JSON.  That copy is compared
with the original where it is read back, where evidence is attached and where the bridge looks
for what is live.
-/

import TurtleExecution.ExecutionBridge.Strategy
import TurtleExecution.Foundation.DecimalParse
import TurtleExecution.Validation.EvidencePackages

set_option autoImplicit false

namespace TurtleExecution.ExecutionBridge

open Candidates PyValue Registry Validation
open HistoricalStorage (IsoTexts parseUtc)

inductive GovernanceError
  /-- `GovernanceError` for a creation time that cannot be read. -/
  | unparseable
  | registry (error : RegistryError)

/-- The states that `approved_experiments` asks for, in its order. -/
def approvedStates : List LifecycleState := [.approved, .shakedown, .fullProduction]

def listStates (records : Records) : List LifecycleState → Except RegistryError (List Record)
  | [] => .ok []
  | state :: states => do
      let first ← listExperiments records none (some state)
      let others ← listStates records states
      return first ++ others

/-- `(parse_utc(record.created_at_utc), record.experiment_id)` -/
def rankOf (fromisoformat : IsoTexts) (record : Record) : Option (Int × PyStr) :=
  match record.createdAtUtc, record.experimentId with
  | .str (.scalars createdAtUtc), .str experimentId =>
      (parseUtc fromisoformat createdAtUtc).map fun time => (time, experimentId)
  | _, _ => Option.none

def rankedByTime (fromisoformat : IsoTexts) (records : List Record) : List Record :=
  records.insertionSort fun left right =>
    toLex ((rankOf fromisoformat left).getD (0, "")) ≤
      toLex ((rankOf fromisoformat right).getD (0, ""))

def approvedExperiments (fromisoformat : IsoTexts) (records : Records) :
    Except GovernanceError (List Record) := do
  let approved ← (listStates records approvedStates).mapError .registry
  if approved.all fun record => (rankOf fromisoformat record).isSome then
    return rankedByTime fromisoformat approved
  else .error .unparseable

/-- `spec.to_specification_dict() in live_specification_dicts` -/
def isLive (approved : List Record) (spec : CandidateSpecification) : Bool :=
  approved.any fun record =>
    equal sameOrEqual record.specification (.dict spec.toSpecificationDict)

section

variable {registry : ExperimentRegistry} (inStep : InStep registry)

include inStep

private theorem listStates_returns (states : List LifecycleState) :
    ∃ listed, listStates registry.records states = .ok listed ∧
      ∀ record, record ∈ listed ↔
        ∃ id, Dict.get? registry.records id = some record ∧ record.lifecycleState ∈ states := by
  induction states with
  | nil => exact ⟨[], rfl, by simp⟩
  | cons state states ih =>
      obtain ⟨others, areOthers, inOthers⟩ := ih
      obtain ⟨first, isFirst, inFirst⟩ := inStep.queried fun _ record =>
        (none : Option Bool).all (fun isSealed => record.isSealed = isSealed) &&
          (some state).all fun state => record.lifecycleState = state
      refine ⟨first ++ others, (bind_of_ok isFirst).trans (bind_of_ok areOthers), fun record => ?_⟩
      rw [List.mem_append, inFirst, inOthers, ← exists_or]
      simp [and_or_left]

private theorem rankOf_isSome {fromisoformat : IsoTexts}
    (allStamped : AllStamped (fun text => (parseUtc fromisoformat text).isSome = true)
      registry.records) {id : PyKey} {record : Record}
    (found : Dict.get? registry.records id = some record) :
    (rankOf fromisoformat record).isSome = true := by
  obtain ⟨createdAt, isTime, parsed⟩ := allStamped id record found
  obtain ⟨text, _, isId, _⟩ := (inStep.healthy id record found).named
  rw [rankOf, isTime, isId, Option.isSome_map]
  exact parsed

theorem approvedExperiments_returns {fromisoformat : IsoTexts}
    (allStamped : AllStamped (fun text => (parseUtc fromisoformat text).isSome = true)
      registry.records) :
    ∃ approved, approvedExperiments fromisoformat registry.records = .ok approved ∧
      ∀ record, record ∈ approved ↔ ∃ id, Dict.get? registry.records id = some record ∧
        record.lifecycleState ∈ approvedStates := by
  obtain ⟨listed, isListed, inListed⟩ := listStates_returns inStep approvedStates
  have ranked : (listed.all fun record => (rankOf fromisoformat record).isSome) = true := by
    apply List.all_eq_true.mpr
    intro record member
    obtain ⟨id, found, _⟩ := (inListed record).mp member
    exact rankOf_isSome inStep allStamped found
  refine ⟨rankedByTime fromisoformat listed, ?_,
    fun record => (List.mem_insertionSort _).trans (inListed record)⟩
  unfold approvedExperiments
  rw [isListed]
  exact if_pos ranked

end

section

variable {Number : Type} [BridgeArithmetic Number] {decimalOf : String → Option Number}

def ApprovedFundingAlphaStrategy.liveInRegistry (strategy : ApprovedFundingAlphaStrategy decimalOf)
    (fromisoformat : IsoTexts) (records : Records) :
    Except GovernanceError (List CandidateSpecification) := do
  let approved ← approvedExperiments fromisoformat records
  return strategy.liveSpecifications (some (isLive approved))

/-- The experiment's specification is read back equal to the original, a package that is made
for the original is attached while there is no evidence, and the original is live while the
experiment is approved. -/
structure Survives (decimalOf : String → Option Number) (fromisoformat : IsoTexts)
    (spec : CandidateSpecification) (id : String) (registry : ExperimentRegistry) : Prop where
  known : ∃ record, Registry.get registry.records id = .ok record
  readBack : ∀ record, Registry.get registry.records id = .ok record →
    ∃ back, fromSpecificationDict record.specification = .ok back ∧ back.equals spec = true
  attaches : ∀ record package, Registry.get registry.records id = .ok record →
    record.isSealed = true → isNone record.evidence = true → ProducedFor spec package →
    ∃ attached after, attachEvidencePackage id package registry = (.returned attached, after)
  recognised : ∀ record (strategy : ApprovedFundingAlphaStrategy decimalOf),
    Registry.get registry.records id = .ok record → record.lifecycleState ∈ approvedStates →
    spec ∈ strategy.specifications →
    ∃ live, strategy.liveInRegistry fromisoformat registry.records = .ok live ∧ spec ∈ live

variable {fromisoformat : IsoTexts} {spec : CandidateSpecification} {id : String}

private theorem survives_of_specified {registry : ExperimentRegistry} (inStep : InStep registry)
    (allStamped : AllStamped (fun text => (parseUtc fromisoformat text).isSome = true)
      registry.records) {copied : PyValue}
    (isCopy : deepCopy (.dict spec.toSpecificationDict) = some copied)
    (specified : Specified id copied registry.records) :
    Survives decimalOf fromisoformat spec id registry ↔ spec.JsonNative := by
  obtain ⟨record, found, isKept⟩ := specified
  have shown : Registry.get registry.records id = .ok record := inStep.shown found
  have readBack := equals_kept_iff isCopy isKept
  constructor
  · intro survives
    exact readBack.mp (survives.readBack record shown)
  · intro native
    have same : equal sameOrEqual record.specification (.dict spec.toSpecificationDict) =
        true := (equal_kept_iff isCopy isKept).mpr
          (plain_specificationDict native (fewDigits_of_specificationDict isCopy))
    constructor
    case known => exact ⟨record, shown⟩
    case readBack =>
      intro other isOther
      rw [shown] at isOther
      cases isOther
      exact readBack.mpr native
    case attaches =>
      intro other package isOther isSealed noEvidence produced
      rw [shown] at isOther
      cases isOther
      apply attachEvidencePackage_returns inStep found isSealed noEvidence
      rw [produced.specification]
      exact same
    case recognised =>
      intro other strategy isOther inStates isSpecification
      rw [shown] at isOther
      cases isOther
      obtain ⟨approved, isApproved, inApproved⟩ := approvedExperiments_returns inStep allStamped
      refine ⟨_, bind_of_ok isApproved, List.mem_filter.mpr ⟨isSpecification, ?_⟩⟩
      exact List.any_eq_true.mpr ⟨record, (inApproved record).mpr ⟨_, found, inStates⟩, same⟩

theorem live_stamped {events : List Event}
    (times : ∀ event ∈ events, event.At fun text => (parseUtc fromisoformat text).isSome = true)
    {registry : ExperimentRegistry} (lived : ExperimentRegistry.start.live events = .ok registry) :
    InStep registry ∧
      AllStamped (fun text => (parseUtc fromisoformat text).isSome = true) registry.records := by
  obtain ⟨last, livedAgain, inStep, allStamped⟩ := live_keeps
    (fun now time => sets_allStamped time) allStamped_imaged times inStep_start
    (show AllStamped _ ExperimentRegistry.start.records from fun _ _ found => nomatch found)
  rw [lived] at livedAgain
  cases livedAgain
  exact ⟨inStep, allStamped⟩

def registration (now : Time) (id : String) (parentId : Option String)
    (spec : CandidateSpecification) : Event :=
  .called now (.create id (.dict spec.toSpecificationDict) parentId)

private theorem live_registered {before after : List Event} {now : Time} {parentId : Option String}
    (times : ∀ event ∈ before ++ registration now id parentId spec :: after,
      event.At fun text => (parseUtc fromisoformat text).isSome = true)
    {registry : ExperimentRegistry} (lived : ExperimentRegistry.start.live before = .ok registry)
    {record : Record}
    (created : (ExperimentRegistry.create id (.dict spec.toSpecificationDict) parentId now.text
      registry).1 = .returned record) :
    ∃ last copied,
      ExperimentRegistry.start.live (before ++ registration now id parentId spec :: after) = .ok last ∧
      InStep last ∧ AllStamped (fun text => (parseUtc fromisoformat text).isSome = true) last.records ∧
      deepCopy (.dict spec.toSpecificationDict) = some copied ∧ Specified id copied last.records := by
  obtain ⟨timesBefore, timesAfter⟩ := List.forall_mem_append.mp times
  obtain ⟨timeNow, timesLater⟩ := List.forall_mem_cons.mp timesAfter
  obtain ⟨inStep, allStamped⟩ := live_stamped timesBefore lived
  obtain ⟨copied, isCopy, specified⟩ := call_create_specified inStep created
  have sets := @sets_allStamped (fun text => (parseUtc fromisoformat text).isSome = true) now.text
    timeNow
  have stampedNext := @call_keeps _ registry
    (now, .create id (.dict spec.toSpecificationDict) parentId) sets allStamped
  obtain ⟨last, livedLater, inStepLast, specifiedLast, stampedLast⟩ := live_keeps
    (fun now time => (sets_specified id copied now).and (sets_allStamped time))
    (fun imaged kept => ⟨specified_imaged (plain_deepCopy isCopy) imaged kept.1,
      allStamped_imaged imaged kept.2⟩)
    timesLater (inStep.call _) ⟨specified, stampedNext⟩
  refine ⟨last, copied, ?_, inStepLast, stampedLast, isCopy, specifiedLast⟩
  rw [live_append, lived]
  exact livedLater

/-- In every run of calls and restarts, a registered specification survives exactly where its
criteria and parameters are made of what JSON has, at every depth. -/
theorem registered_survives_iff (decimalOf : String → Option Number) (fromisoformat : IsoTexts)
    (spec : CandidateSpecification) (id : String) (parentId : Option String)
    (now : Time) (before after : List Event) (registry : ExperimentRegistry) (record : Record)
    (times : ∀ event ∈ before ++ registration now id parentId spec :: after,
      event.At fun text => (parseUtc fromisoformat text).isSome = true)
    (lived : ExperimentRegistry.start.live before = .ok registry)
    (created : (ExperimentRegistry.create id (.dict spec.toSpecificationDict) parentId now.text
      registry).1 = .returned record) :
    ∃ last,
      ExperimentRegistry.start.live (before ++ registration now id parentId spec :: after) = .ok last ∧
      (Survives decimalOf fromisoformat spec id last ↔ spec.JsonNative) := by
  obtain ⟨last, copied, livedOn, inStep, allStamped, isCopy, specified⟩ :=
    live_registered times lived created
  exact ⟨last, livedOn, survives_of_specified inStep allStamped isCopy specified⟩

end

def ruleParameters (levels : PyValue) : PyDict :=
  [(.str "threshold", .str "0.0001"), (.str "stop_fraction", .str "0.02"), (.str "levels", levels)]

def ruleWith (levels : PyValue) (written : (treeOf levels).isSome = true) : CandidateSpecification :=
  { name := ⟨fundingFamily, nonBlank_fundingFamily⟩
    version := ⟨"1", by decide⟩
    candidateType := ⟨"rule_based", by decide⟩
    «universe» := [ExchangeAdapter.btc]
    featureName := Features.FundingRateFeature.featureName
    featureVersion := Features.FundingRateFeature.featureVersion
    cadenceSeconds := 3600
    acceptanceCriteria := [(.str "min_hit_rate", .str "0.5")]
    parameters := ruleParameters levels
    universe_nonempty := ExchangeAdapter.onlyBtc_nonempty
    cadence_pos := by decide
    criteria_nonempty := List.cons_ne_nil _ _
    criteria_written := rfl
    parameters_written := by
      apply native_entries
      simp only [ruleParameters, NativeEntries, List.forall_mem_cons]
      exact ⟨⟨⟨_, rfl⟩, rfl⟩, ⟨⟨_, rfl⟩, rfl⟩, ⟨⟨_, rfl⟩, written⟩,
        List.forall_mem_nil _⟩ }

def listLevels : CandidateSpecification := ruleWith (.list [.int 1, .int 2]) rfl

def tupleLevels : CandidateSpecification := ruleWith (.tuple [.int 1, .int 2]) rfl

def newYear : Time := ⟨"2026-01-01T00:00:00+00:00", nonBlank_newYear⟩

def newYearTexts : IsoTexts := fun text =>
  if text = newYear.text then some (1767225600 * secondMicros) else none

def registeredAndSealed (spec : CandidateSpecification) : List Event :=
  [registration newYear "e" none spec, .called newYear (.seal "e"), .restarted]

private theorem registeredAndSealed_times (spec : CandidateSpecification) :
    ∀ event ∈ registeredAndSealed spec,
      event.At fun text => (parseUtc newYearTexts text).isSome = true := by
  have time : (parseUtc newYearTexts newYear.text).isSome = true := by decide
  simp only [registeredAndSealed, List.forall_mem_cons]
  exact ⟨time, time, trivial, List.forall_mem_nil _⟩

private theorem create_start {spec : CandidateSpecification}
    (fewDigits : FewDigits spec.cadenceSeconds) :
    ∃ record, (ExperimentRegistry.create "e" (.dict spec.toSpecificationDict) none newYear.text
      ExperimentRegistry.start).1 = .returned record := by
  obtain ⟨copied, isCopy⟩ := specificationDict_written fewDigits
  obtain ⟨record, after, ran, _⟩ :=
    @create_returns _ inStep_start "e" (by decide) rfl _ _ isCopy newYear
  exact ⟨record, congrArg Prod.fst ran⟩

theorem registered_survives_iff_listLevels :
    ∃ last, ExperimentRegistry.start.live (registeredAndSealed listLevels) = .ok last ∧
      Survives Decimal.ofText? newYearTexts listLevels "e" last := by
  obtain ⟨record, created⟩ := create_start (show FewDigits listLevels.cadenceSeconds by decide)
  obtain ⟨last, lived, survives⟩ := registered_survives_iff Decimal.ofText? newYearTexts
    listLevels "e" none newYear [] [.called newYear (.seal "e"), .restarted]
    ExperimentRegistry.start record (registeredAndSealed_times listLevels) rfl created
  refine ⟨last, lived, survives.mpr { criteria := ?_, parameters := ?_ }⟩
  · simp [listLevels, ruleWith, Plain, PlainEntries]
  · have few : FewDigits 1 ∧ FewDigits 2 := by decide
    simp [listLevels, ruleWith, ruleParameters, Plain, PlainEntries, PlainItems, few]

/-- Registered with a tuple, the rule is stored with a list, and is another one since. -/
theorem tupleLevels_lost :
    ∃ last, ExperimentRegistry.start.live (registeredAndSealed tupleLevels) = .ok last ∧
      ¬ Survives Decimal.ofText? newYearTexts tupleLevels "e" last := by
  obtain ⟨record, created⟩ := create_start (show FewDigits tupleLevels.cadenceSeconds by decide)
  obtain ⟨last, copied, lived, inStep, allStamped, isCopy, specified⟩ :=
    @live_registered newYearTexts tupleLevels "e" [] [.called newYear (.seal "e"), .restarted]
      newYear none (registeredAndSealed_times tupleLevels) ExperimentRegistry.start rfl record created
  refine ⟨last, lived, fun survives => ?_⟩
  have native := (survives_of_specified inStep allStamped isCopy specified).mp survives
  exact native.parameters.2.2.2.2.1

end TurtleExecution.ExecutionBridge

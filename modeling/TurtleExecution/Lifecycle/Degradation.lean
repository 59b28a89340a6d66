/-
Degradation: whether a live experiment still clears the bar that it was approved on, and the
freeze of one that does not.

No transition leads from a frozen experiment back to an approved one, so what a freeze stops
stays stopped, in every later process too.
-/

import TurtleExecution.ExecutionBridge.LiveSpecifications
import TurtleExecution.Validation.Runner

set_option autoImplicit false

namespace TurtleExecution.Lifecycle

open ExecutionBridge Process Registry Validation
open HistoricalStorage (IsoTexts parseUtc)

def liveStates : List LifecycleState := [.shakedown, .fullProduction]

inductive DegradationError
  /-- `DegradationError` for a field of the assessment that is no text, or blank. -/
  | field (name : String)
  | notLive (experimentId : PyValue) (state : LifecycleState)
  | mismatched (experimentId : PyValue) (name version : NonBlank)
  | notDegraded (experimentId : NonBlank)
  | registry (error : RegistryError)

/-- A degraded assessment recommends the freeze and has reasons, a healthy one has neither. -/
structure DegradationAssessment where
  experimentId : NonBlank
  degraded : Bool
  recommendation : Option LifecycleState
  reasons : List NonBlank
  assessedAtUtc : NonBlank
  recommends : recommendation = if degraded then some .frozen else none
  reasoned : degraded = !reasons.isEmpty

/-- Whether the result is for the candidate of the record, whose specification is a mapping. -/
def isOfCandidate (record : Record) (result : ValidationResult) : Bool :=
  match record.specification with
  | .dict spec =>
      (Dict.get? spec (.str "candidate_name")).any (isTextOf result.candidateName.text) &&
        (Dict.get? spec (.str "candidate_version")).any (isTextOf result.candidateVersion.text)
  | _ => false

/-- What is said of a criterion that is not met; `repr` is Python's. -/
def reasonOf (repr : PyValue → String) (check : CriterionCheck) : NonBlank :=
  let key := repr (.str check.criterionKey)
  let required := repr check.requiredValue
  let observed := repr (check.observedValue.getD .none)
  NonBlank.append ⟨"criterion ", by decide⟩
    s!"{key}: required {required}, observed {observed} ({check.outcome.value})"

def failing (result : ValidationResult) : List CriterionCheck :=
  result.criteriaResults.filter fun check => check.outcome ≠ .pass

private theorem overallPassed_eq (result : ValidationResult) :
    result.overallPassed = (failing result).isEmpty := by
  have checked := result.checked
  unfold ValidationFigures.check at checked
  obtain ⟨_, _, checked⟩ := ok_of_bind checked
  obtain ⟨_, _, checked⟩ := ok_of_bind checked
  obtain ⟨_, _, checked⟩ := ok_of_bind checked
  obtain ⟨_, _, checked⟩ := ok_of_bind checked
  obtain ⟨_, _, checked⟩ := ok_of_bind checked
  obtain ⟨_, passed, _⟩ := ok_of_bind checked
  have same : result.overallPassed = result.criteriaResults.all fun check => check.outcome = .pass := by
    by_contra other
    rw [decide_eq_false other] at passed
    cases passed
  rw [same, failing, Bool.eq_iff_iff]
  simp

def nonEmpty (name : String) : PyValue → Except DegradationError NonBlank
  | .str text => ((text.scalars?.bind NonBlank.ofText?).map .ok).getD (.error (.field name))
  | _ => .error (.field name)

/-- `assess_degradation`, with what `clock()` returns. -/
def assessDegradation (repr : PyValue → String) (record : Record)
    (recentResult : ValidationResult) (now : String) :
    Except DegradationError DegradationAssessment :=
  if record.lifecycleState ∉ liveStates then
    .error (.notLive record.experimentId record.lifecycleState)
  else if isOfCandidate record recentResult = false then
    .error (.mismatched record.experimentId recentResult.candidateName recentResult.candidateVersion)
  else do
    let experimentId ← nonEmpty "experiment_id" record.experimentId
    let assessedAtUtc ← nonEmpty "assessed_at_utc" (.str now)
    if passed : recentResult.overallPassed = true then
      return {
        experimentId, assessedAtUtc, degraded := false, recommendation := none, reasons := []
        recommends := rfl
        reasoned := rfl }
    else
      return {
        experimentId, assessedAtUtc, degraded := true, recommendation := some .frozen
        reasons := (failing recentResult).map (reasonOf repr)
        recommends := rfl
        reasoned := by
          rw [List.isEmpty_map, ← overallPassed_eq]
          simp [passed] }

def freezeDegraded (assessment : DegradationAssessment) (now : String) :
    Process ExperimentRegistry DegradationError Record :=
  if assessment.degraded then
    withError .registry (ExperimentRegistry.transition assessment.experimentId.text .frozen now)
  else Process.raise (.notDegraded assessment.experimentId)

private theorem degraded_eq {repr : PyValue → String} {record : Record}
    {recentResult : ValidationResult}
    {now : String} {assessment : DegradationAssessment}
    (assessed : assessDegradation repr record recentResult now = .ok assessment) :
    assessment.degraded = !(failing recentResult).isEmpty := by
  unfold assessDegradation at assessed
  split at assessed
  · cases assessed
  split at assessed
  · cases assessed
  obtain ⟨_, _, assessed⟩ := ok_of_bind assessed
  obtain ⟨_, _, assessed⟩ := ok_of_bind assessed
  rw [← overallPassed_eq]
  split at assessed
  · rename_i passed
    cases assessed
    rw [passed]
    rfl
  · rename_i failed
    cases assessed
    rw [Bool.eq_false_of_not_eq_true failed]
    rfl

private theorem legal_frozen_iff {state : LifecycleState} :
    LifecycleState.isLegalTransition state .frozen = true ↔ state ∈ liveStates := by
  cases state <;> decide

def stoppedStates : List LifecycleState := [.frozen, .retiring, .retired]

private theorem stopped_closed : ∀ state ∈ stoppedStates, ∀ next,
    LifecycleState.isLegalTransition state next = true → next ∈ stoppedStates := by
  intro state stopped next
  cases state <;> cases next <;> revert stopped <;> decide

section

variable {registry : ExperimentRegistry} {id : String}

private theorem transition_refuses (notLive : ¬ Among id liveStates registry.records) (now : String) :
    ∃ error, ExperimentRegistry.transition id .frozen now registry = (.raised error, registry) := by
  unfold ExperimentRegistry.transition
  cases found : Dict.get? registry.records (.str id) with
  | none =>
      have refused : ExperimentRegistry.find id registry = (.raised .experimentNotFound, registry) := by
        rw [ExperimentRegistry.find, found]
      exact ⟨_, bind_raised refused⟩
  | some record =>
      have illegal : LifecycleState.isLegalTransition record.lifecycleState .frozen = false :=
        Bool.eq_false_of_not_eq_true fun legal =>
          notLive ⟨record, found, legal_frozen_iff.mp legal⟩
      rw [bind_returned (find_of found), bind_returned (require_of _ registry (by decide)),
        ExperimentRegistry.transitionLocked, illegal]
      exact ⟨_, rfl⟩

private theorem transition_returns (inStep : InStep registry)
    (live : Among id liveStates registry.records)
    (now : Time) : ∃ record after,
      ExperimentRegistry.transition id .frozen now.text registry = (.returned record, after) ∧
        InStep after ∧ Among id stoppedStates after.records := by
  obtain ⟨record, found, isLive⟩ := live
  have changed : Ends (ExperimentRegistry.transition id .frozen now.text) registry
      (keeps (Among id stoppedStates)) := by
    unfold ExperimentRegistry.transition
    refine ends_bind_of_returned (find_of found) ?_
    refine ends_bind_of_returned (require_of _ registry (by decide)) ?_
    unfold ExperimentRegistry.transitionLocked
    refine ends_bind_of_returned (require_of _ registry (legal_frozen_iff.mpr isLive)) ?_
    refine ends_bind_of_returned (require_of _ registry rfl) ?_
    refine ends_bind_of_returned (inStep.append_returned _) (ends_set_keeps ?_)
    exact ⟨_, Dict.get?_set_self _ _ _, List.mem_cons_self⟩
  refine returned_of_settles (transition_settles inStep id .frozen now) changed ?_
  rintro ⟨other, isOther, stopped⟩
  rw [found] at isOther
  cases isOther
  revert isLive stopped
  cases record.lifecycleState <;> decide

end

/-- In every run of calls and restarts, a freeze returns exactly for a degraded assessment of an
experiment that is live, and else changes nothing; and what it stops is never again among the
approved experiments, whatever is called and however often the process starts again. -/
theorem run_freezesDegraded {fromisoformat : IsoTexts} {before : List Event}
    (times : ∀ event ∈ before, event.At fun text => (parseUtc fromisoformat text).isSome = true)
    {registry : ExperimentRegistry} (lived : ExperimentRegistry.start.live before = .ok registry)
    {repr : PyValue → String} {record : Record} {recentResult : ValidationResult} {at_ : String}
    {assessment : DegradationAssessment}
    (assessed : assessDegradation repr record recentResult at_ = .ok assessment) (now : Time)
    (timed : (parseUtc fromisoformat now.text).isSome = true) :
    let frozen := freezeDegraded assessment now.text registry
    let stops := (∃ check ∈ recentResult.criteriaResults, check.outcome ≠ .pass) ∧
      Among assessment.experimentId.text liveStates registry.records
    (¬ stops → ∃ error, frozen = (.raised error, registry)) ∧
      (stops → (∃ shown, frozen.1 = .returned shown) ∧ ∀ after : List Event,
        (∀ event ∈ after, event.At fun text => (parseUtc fromisoformat text).isSome = true) →
        ∃ last approved, frozen.2.live after = .ok last ∧
          approvedExperiments fromisoformat last.records = .ok approved ∧
          ∀ other ∈ approved, other.experimentId ≠ .str assessment.experimentId.text) := by
  intro frozen stops
  obtain ⟨inStep, allStamped⟩ := live_stamped times lived
  have degraded : assessment.degraded = true ↔
      ∃ check ∈ recentResult.criteriaResults, check.outcome ≠ .pass := by
    rw [degraded_eq assessed, failing]
    simp
  constructor
  · intro refused
    by_cases failed : assessment.degraded = true
    · obtain ⟨error, raised⟩ :=
        transition_refuses (fun live => refused ⟨degraded.mp failed, live⟩) now.text
      refine ⟨.registry error, ?_⟩
      simp only [frozen, freezeDegraded, if_pos failed, withError, focus, id, raised]
    · exact ⟨_, congrFun (if_neg failed) registry⟩
  · rintro ⟨fails, live⟩
    obtain ⟨shown, next, ran, inStepNext, stopped⟩ := transition_returns inStep live now
    have froze : frozen = (.returned shown, next) :=
      (congrFun (if_pos (degraded.mpr fails)) registry).trans (withError_returned ran)
    rw [froze]
    have stampedNext := @call_keeps _ registry (now, .transition assessment.experimentId.text .frozen)
      (sets_allStamped timed) allStamped
    rw [ExperimentRegistry.call, Mutation.operation, ran] at stampedNext
    refine ⟨⟨shown, rfl⟩, fun after later => ?_⟩
    obtain ⟨last, livedOn, inStepLast, stoppedLast, stampedLast⟩ := live_keeps
      (fun now time => (sets_among stopped_closed assessment.experimentId.text now).and
        (sets_allStamped time))
      (fun imaged kept => ⟨among_imaged imaged kept.1, allStamped_imaged imaged kept.2⟩)
      later inStepNext ⟨stopped, stampedNext⟩
    obtain ⟨approved, isApproved, inApproved⟩ := approvedExperiments_returns inStepLast stampedLast
    refine ⟨last, approved, livedOn, isApproved, fun other member same => ?_⟩
    obtain ⟨key, found, inStates⟩ := (inApproved other).mp member
    obtain ⟨text, rfl, isId, _⟩ := (inStepLast.healthy key other found).named
    rw [same] at isId
    cases isId
    obtain ⟨known, isKnown, isStopped⟩ := stoppedLast
    rw [found] at isKnown
    cases isKnown
    revert inStates isStopped
    cases other.lifecycleState <;> decide

private theorem nonBlank_minHitRateKey : PyText.isBlank minHitRateKey = false := by decide

def failedCheck : CriterionCheck where
  criterionKey := minHitRateKey
  nonBlank := nonBlank_minHitRateKey
  requiredValue := .str "0.5"
  observedValue := some (.str "0")
  outcome := .fail
  observed_of_evaluated := fun impossible => by cases impossible

def failedResult : ValidationResult where
  candidateName := ⟨fundingFamily, nonBlank_fundingFamily⟩
  candidateVersion := ⟨"v1", nonBlank_v1⟩
  validatedAtUtc := newYear.text
  totalSamples := 1
  unavailableSamples := 0
  flatSamples := 0
  signaledSamples := 1
  hits := 0
  hitRate := some (Decimal.ofInt 0)
  meanDirectionalReturn := some (Decimal.ofInt (-1))
  criteriaResults := [failedCheck]
  overallPassed := false
  sampleSetFingerprint := none
  checked := rfl

def fundingCandidate : PyValue :=
  .dict [(.str "candidate_name", .str fundingFamily), (.str "candidate_version", .str "v1")]

def shakedownRun : List Event :=
  [Mutation.create "e" fundingCandidate none, .seal "e", .transition "e" .validating,
    .attachEvidence "e" [(.str "package", .str "p")] "f", .transition "e" .evidenceSealed,
    .transition "e" .inReview,
    .applyGovernanceDecision "e"
      [(.str "decision", .str "APPROVE"), (.str "evidence_fingerprint", .str "f")] .approved,
    .transition "e" .shakedown].map (Event.called newYear)

private theorem shakedownRun_lived : ∃ registry record,
    ExperimentRegistry.start.live shakedownRun = .ok registry ∧
      Dict.get? registry.records (.str "e") = some record ∧ record.lifecycleState = .shakedown ∧
      (assessDegradation (fun _ => "") record failedResult newYear.text).toOption.map
        (fun assessment => assessment.experimentId.text) = some "e" := by
  have computed : (ExperimentRegistry.start.live shakedownRun).toOption.map (fun registry =>
      (Dict.get? registry.records (.str "e")).map fun record => (record.lifecycleState,
        (assessDegradation (fun _ => "") record failedResult newYear.text).toOption.map
          fun assessment => assessment.experimentId.text)) =
      some (some (.shakedown, some "e")) := by decide +kernel
  cases lived : ExperimentRegistry.start.live shakedownRun with
  | error error =>
      rw [lived] at computed
      cases computed
  | ok registry =>
      rw [lived] at computed
      obtain ⟨record, found, same⟩ := Option.map_eq_some_iff.mp (Option.some.inj computed)
      exact ⟨registry, record, rfl, found, congrArg Prod.fst same, congrArg Prod.snd same⟩

/-- The experiment in shakedown fails a criterion and is frozen; then the process starts again,
another experiment is registered and the frozen one retires. -/
theorem run_freezesDegraded_shakedown : ∃ registry record assessment,
    ExperimentRegistry.start.live shakedownRun = .ok registry ∧
      Dict.get? registry.records (.str "e") = some record ∧
      assessDegradation (fun _ => "") record failedResult newYear.text = .ok assessment ∧
      (∃ shown, (freezeDegraded assessment newYear.text registry).1 = .returned shown) ∧
      ∃ last approved, (freezeDegraded assessment newYear.text registry).2.live
          [.restarted, .called newYear (.create "g" fundingCandidate none),
            .called newYear (.transition "e" .retiring)] = .ok last ∧
        approvedExperiments newYearTexts last.records = .ok approved ∧
        ∀ other ∈ approved, other.experimentId ≠ .str assessment.experimentId.text := by
  have time : (parseUtc newYearTexts newYear.text).isSome = true := by decide
  obtain ⟨registry, record, lived, found, live, assessable⟩ := shakedownRun_lived
  cases assessed : assessDegradation (fun _ => "") record failedResult newYear.text with
  | error error =>
      rw [assessed] at assessable
      cases assessable
  | ok assessment =>
      rw [assessed] at assessable
      have isId : assessment.experimentId.text = "e" := Option.some.inj assessable
      have among : Among assessment.experimentId.text liveStates registry.records := by
        rw [isId]
        refine ⟨record, found, ?_⟩
        rw [live]
        decide
      have times : ∀ event ∈ shakedownRun,
          event.At fun text => (parseUtc newYearTexts text).isSome = true := by
        intro event member
        obtain ⟨mutation, _, rfl⟩ := List.mem_map.mp member
        exact time
      obtain ⟨_, freezes⟩ := run_freezesDegraded times lived assessed newYear time
      obtain ⟨returned, later⟩ := freezes ⟨⟨failedCheck, List.mem_cons_self, by decide⟩, among⟩
      refine ⟨registry, record, assessment, lived, found, assessed, returned, later _ ?_⟩
      simp only [List.forall_mem_cons]
      exact ⟨trivial, time, time, List.forall_mem_nil _⟩

end TurtleExecution.Lifecycle

/-
Governance decisions: who decided what about which evidence.

Nobody reviews what they proposed themselves, and a decision names the evidence that was
reviewed.  So what trades live was approved by a second person, on the evidence that it has.
-/

import TurtleExecution.Registry.Guards
import TurtleExecution.Registry.Restarts

set_option autoImplicit false

namespace TurtleExecution.Governance

open PyValue Process Registry ExperimentRegistry

inductive GovernanceDecisionType
  | approve
  | reject
  | defer
  deriving DecidableEq

def GovernanceDecisionType.value : GovernanceDecisionType → String
  | approve => "approve"
  | reject => "reject"
  | defer => "defer"

structure GovernanceDecision where
  experimentId : NonBlank
  decision : GovernanceDecisionType
  evidenceFingerprint : NonBlank
  proposedBy : NonBlank
  reviewedBy : NonBlank
  rationale : NonBlank
  decidedAtUtc : NonBlank
  separate : strip proposedBy.text.toList ≠ strip reviewedBy.text.toList

namespace GovernanceDecision

def resultingState (decision : GovernanceDecision) : LifecycleState :=
  match decision.decision with
  | .approve => .approved
  | .reject => .rejected
  | .defer => .deferred

def toDict (decision : GovernanceDecision) : PyDict :=
  [(.str "experiment_id", .str decision.experimentId.text),
    (.str "decision", .str decision.decision.value),
    (.str "evidence_fingerprint", .str decision.evidenceFingerprint.text),
    (.str "proposed_by", .str decision.proposedBy.text),
    (.str "reviewed_by", .str decision.reviewedBy.text),
    (.str "rationale", .str decision.rationale.text),
    (.str "decided_at_utc", .str decision.decidedAtUtc.text)]

end GovernanceDecision

inductive GovernanceError
  | notInReview (experimentId : NonBlank) (state : LifecycleState)
  | otherEvidence (evidenceFingerprint experimentId : NonBlank) (carried : PyValue)
  | registry (error : RegistryError)

def recordGovernanceDecision (decision : GovernanceDecision) (now : String) :
    Process ExperimentRegistry GovernanceError Record := do
  let id := decision.experimentId
  let record ← withError .registry (snapshot id.text)
  if record.lifecycleState ≠ .inReview then
    Process.raise (.notInReview id record.lifecycleState)
  else if isTextOf decision.evidenceFingerprint.text record.evidenceFingerprint = false then
    Process.raise (.otherEvidence decision.evidenceFingerprint id record.evidenceFingerprint)
  else
    withError .registry
      (applyGovernanceDecision id.text decision.toDict decision.resultingState now)

def GovernanceDecision.KeptAs (decision : GovernanceDecision) (value : PyValue) : Prop :=
  ∃ items, value = .dict items ∧
    ∀ entry ∈ decision.toDict, Dict.get? items entry.1 = some entry.2

section

variable {decision : GovernanceDecision}

private theorem texts_of_toDict : ∀ entry ∈ decision.toDict, ∃ name text : String, entry =
    (.str name, .str text) := by
  simp [GovernanceDecision.toDict]

private theorem deepCopy_toDict : deepCopy (.dict decision.toDict) = some
    (.dict decision.toDict) := rfl

private theorem keptAs_toDict : decision.KeptAs (.dict decision.toDict) := by
  refine ⟨_, rfl, ?_⟩
  simp only [GovernanceDecision.toDict, List.forall_mem_cons]
  exact ⟨rfl, rfl, rfl, rfl, rfl, rfl, rfl, List.forall_mem_nil _⟩

theorem GovernanceDecision.KeptAs.image {value image : PyValue} (keptAs : decision.KeptAs value)
    (isImage : Image value image) : decision.KeptAs image := by
  obtain ⟨items, rfl, kept⟩ := keptAs
  obtain ⟨plain, read⟩ := isImage
  obtain ⟨_, _, _, isDict⟩ := reread_dict plain
  rw [read] at isDict
  cases isDict
  refine ⟨_, rfl, fun entry member => ?_⟩
  obtain ⟨name, text, rfl⟩ := texts_of_toDict entry member
  rw [get?_reread plain read, kept _ member]
  rfl

end

def approvedSince : List LifecycleState :=
  [.approved, .shakedown, .fullProduction, .frozen, .retiring, .retired]

private theorem approvedSince_step {fromState toState : LifecycleState}
    (legal : LifecycleState.isLegalTransition fromState toState = true)
    (ungated : toState ∉ LifecycleState.governanceDecisionStates)
    (since : toState ∈ approvedSince) : fromState ∈ approvedSince := by
  revert legal ungated since
  cases fromState <;> cases toState <;> decide

/-- The record has evidence since it was sealed with it, and a decision that was given on that
evidence since it was decided. -/
structure Accounted (given : GovernanceDecision → Prop) (id : PyKey) (record : Record) : Prop where
  isSealed : isNone record.evidence = false → record.isSealed = true
  evidenced : record.lifecycleState ∈ LifecycleState.afterSealing → isNone record.evidence = false
  undecided : isNone record.governanceDecision = true →
    record.lifecycleState ∉ LifecycleState.afterDecision
  decided : isNone record.governanceDecision = false → ∃ decision, given decision ∧
    id = .str decision.experimentId.text ∧ decision.KeptAs record.governanceDecision ∧
    record.evidenceFingerprint = .str decision.evidenceFingerprint.text ∧
    isNone record.evidence = false ∧
    (record.lifecycleState ∈ approvedSince → decision.decision = .approve)

def AllAccounted (given : GovernanceDecision → Prop) (records : Records) : Prop :=
  ∀ id record, Dict.get? records id = some record → Accounted given id record

section

variable {given : GovernanceDecision → Prop} {id : PyKey} {old record : Record}

theorem AllAccounted.set {records : Records} (all : AllAccounted given records)
    (accounted : Accounted given id record) : AllAccounted given (Dict.set records id record) := by
  intro other known found
  rw [Dict.get?_set] at found
  split at found
  · rename_i same
    cases found
    rwa [same]
  · exact all other known found

theorem Accounted.edited (accounted : Accounted given id old) (edits : Edits old record) :
    Accounted given id record := by
  cases edits with
  | sealing => exact { accounted with isSealed := fun _ => rfl }
  | evidence _ _ isSealed bare =>
      refine { accounted with isSealed := fun _ => isSealed, evidenced := ?_, decided := ?_ }
      · intro since
        rw [accounted.evidenced since] at bare
        cases bare
      · intro isDecided
        obtain ⟨_, _, _, _, _, present, _⟩ := accounted.decided isDecided
        rw [present] at bare
        cases bare
  | state toState legal ungated evidenced =>
      refine { accounted with evidenced := ?_, undecided := ?_, decided := ?_ }
      · intro since
        exact ((LifecycleState.mem_afterSealing_step legal).mp since).elim evidenced
          accounted.evidenced
      · intro isUndecided since
        exact ((LifecycleState.mem_afterDecision_step legal).mp since).elim ungated
          (accounted.undecided isUndecided)
      · intro isDecided
        obtain ⟨decision, isGiven, isId, keptAs, same, present, approving⟩ :=
          accounted.decided isDecided
        exact ⟨decision, isGiven, isId, keptAs, same, present,
          fun since => approving (approvedSince_step legal ungated since)⟩

private theorem edits_accounted (given : GovernanceDecision → Prop) (now : String) :
    KeptByEdits now (AllAccounted given) := by
  constructor
  case replace => exact fun all found edits => all.set ((all _ _ found).edited edits)
  case add =>
    intro records id record all begins
    obtain ⟨proposed, bare, undecided⟩ := begins.fresh
    refine all.set ⟨?_, ?_, ?_, ?_⟩
    · rw [bare]
      exact nofun
    · rw [proposed]
      exact fun since => absurd since (by decide)
    · rw [proposed]
      exact fun _ => by decide
    · rw [undecided]
      exact nofun

private theorem allAccounted_imaged {live rebuilt : Records} (imaged : AllImaged live rebuilt)
    (all : AllAccounted given live) : AllAccounted given rebuilt := by
  intro id image found
  obtain ⟨record, isLive, pair⟩ := live_of_found imaged found
  have accounted := all id record isLive
  have evidence := pair.evidence.isNone
  have decision := pair.governanceDecision.isNone
  rw [pair.fields]
  constructor
  case isSealed => exact fun present => accounted.isSealed (evidence.trans present)
  case evidenced => exact fun since => evidence.symm.trans (accounted.evidenced since)
  case undecided => exact fun isUndecided => accounted.undecided (decision.trans isUndecided)
  case decided =>
    intro isDecided
    obtain ⟨decision, isGiven, isId, keptAs, same, present, approving⟩ :=
      accounted.decided (decision.trans isDecided)
    exact ⟨decision, isGiven, isId, keptAs.image pair.governanceDecision, same,
      evidence.symm.trans present, approving⟩

end

section

variable {given : GovernanceDecision → Prop} {decision : GovernanceDecision}
  {registry : ExperimentRegistry} {record : Record}

private theorem approve_of_since (since : decision.resultingState ∈ approvedSince) :
    decision.decision = .approve := by
  unfold GovernanceDecision.resultingState at since
  revert since
  cases decision.decision <;> decide

private theorem applyGovernanceDecision_accounted (isGiven : given decision)
    (all : AllAccounted given registry.records)
    (found : Dict.get? registry.records (.str decision.experimentId.text) = some record)
    (same : record.evidenceFingerprint = .str decision.evidenceFingerprint.text) (now : String) :
    Ends (applyGovernanceDecision decision.experimentId.text decision.toDict decision.resultingState
      now) registry (keeps (AllAccounted given)) := by
  have accounted := all _ record found
  unfold applyGovernanceDecision
  refine ends_bind_require all fun _ => ends_bind_ofExcept (fun _ => all) fun _ _ => ?_
  refine ends_bind_of_returned (find_of found) ?_
  refine ends_bind_require all fun isInReview => ends_bind_require all fun _ => ?_
  have inReview : record.lifecycleState = .inReview := of_decide_eq_true isInReview
  have present := accounted.evidenced (by rw [inReview]; decide)
  refine ends_bind_of_returned (ofExcept_ok (copy_of deepCopy_toDict) _) ?_
  refine ends_bind_storageAppend all ?_
  refine ends_bind_of_returned (ofExcept_ok (copy_of deepCopy_toDict) _) ?_
  -- in review still, and then in the state that it leads to
  have decided : ∀ state, (state ∈ approvedSince → decision.decision = .approve) →
      Accounted given (.str decision.experimentId.text)
        { record with governanceDecision := .dict decision.toDict, lifecycleState := state } :=
    fun state approving =>
      { isSealed := accounted.isSealed
        evidenced := fun _ => present
        undecided := nofun
        decided := fun _ => ⟨decision, isGiven, rfl, keptAs_toDict, same, present, approving⟩ }
  have reviewed := all.set (decided record.lifecycleState fun since =>
    absurd since (by rw [inReview]; decide))
  refine ends_bind_of_returned (setRecord_run _ _ _) ?_
  exact @transitionLocked_keeps _ ((registry.stored _).withRecord _ _) reviewed _ _ _ _ fun _ _ =>
    reviewed.set (decided _ approve_of_since)

private theorem eq_of_isTextOf {text : String} {value : PyValue} (same : isTextOf text value = true) :
    value = .str text := by
  cases value with
  | str other => exact congrArg PyValue.str (of_decide_eq_true same)
  | _ => cases same

private theorem recordGovernanceDecision_cases (inStep : InStep registry) (now : String) :
    (recordGovernanceDecision decision now registry).2 = registry ∨
      ∃ record, Dict.get? registry.records (.str decision.experimentId.text) = some record ∧
        record.evidenceFingerprint = .str decision.evidenceFingerprint.text ∧
        (recordGovernanceDecision decision now registry).2 =
          (applyGovernanceDecision decision.experimentId.text decision.toDict
            decision.resultingState now registry).2 := by
  have shown := snapshot_eq decision.experimentId.text registry
  unfold recordGovernanceDecision
  cases found : Dict.get? registry.records (.str decision.experimentId.text) with
  | none =>
      have unknown : withError GovernanceError.registry (snapshot decision.experimentId.text)
          registry = (.raised (.registry .experimentNotFound), registry) := by
        rw [snapshotOf, found] at shown
        rw [withError, focus, id, shown]
        rfl
      exact Or.inl (congrArg Prod.snd (bind_raised unknown))
  | some record =>
      rw [inStep.shown found] at shown
      rw [bind_returned (withError_returned shown)]
      split
      · exact Or.inl rfl
      split
      · exact Or.inl rfl
      · rename_i same
        exact Or.inr ⟨record, rfl, eq_of_isTextOf (Bool.eq_true_of_not_eq_false same),
          focus_state _ _ _ _ _⟩

end

/-- No decision is applied past `record_governance_decision`. -/
def Ungoverned : Event → Prop
  | .called _ (.applyGovernanceDecision _ _ _) => False
  | _ => True

/-- A decision that is recorded, or a call of another kind or a restart. -/
inductive Act
  | decided (now : Time) (decision : GovernanceDecision)
  | event (event : Event) (ungoverned : Ungoverned event)

def act (registry : ExperimentRegistry) : Act → Except RegistryError ExperimentRegistry
  | .decided now decision => .ok (recordGovernanceDecision decision now.text registry).2
  | .event event _ => registry.happen event

private theorem act_accounted {given : GovernanceDecision → Prop} {registry : ExperimentRegistry}
    (inStep : InStep registry) (all : AllAccounted given registry.records) {taken : Act}
    (isGiven : ∀ now decision, taken = .decided now decision → given decision) :
    ∃ next, act registry taken = .ok next ∧ InStep next ∧ AllAccounted given next.records := by
  cases taken with
  | decided now decision =>
      refine ⟨_, rfl, ?_⟩
      rcases @recordGovernanceDecision_cases decision registry inStep now.text with
        unchanged | ⟨record, found, same, applied⟩
      · rw [unchanged]
        exact ⟨inStep, all⟩
      · rw [applied]
        exact ⟨inStep.call (now, .applyGovernanceDecision _ _ _), ends_of_keeps
          (applyGovernanceDecision_accounted (isGiven now decision rfl) all found same now.text)⟩
  | event event ungoverned =>
      cases event with
      | called now mutation =>
          refine ⟨_, rfl, inStep.call (now, mutation), ends_of_keeps
            (operation_keeps (edits_accounted given now.text) all mutation ?_)⟩
          rintro _ _ _ rfl
          exact ungoverned.elim
      | restarted =>
          obtain ⟨rebuilt, restarted, imaged, inStepAgain⟩ := inStep.restart
          exact ⟨_, restarted, inStepAgain, allAccounted_imaged imaged all⟩

private theorem acts_accounted {given : GovernanceDecision → Prop} {acts : List Act}
    (isGiven : ∀ now decision, .decided now decision ∈ acts → given decision)
    {registry : ExperimentRegistry} (inStep : InStep registry)
    (all : AllAccounted given registry.records) :
    ∃ last, acts.foldlM act registry = .ok last ∧ AllAccounted given last.records := by
  induction acts generalizing registry with
  | nil => exact ⟨registry, rfl, all⟩
  | cons first acts ih =>
      obtain ⟨next, happened, inStepNext, allNext⟩ := @act_accounted given registry inStep all first
        fun now decision isFirst => isGiven now decision (isFirst ▸ List.mem_cons_self)
      obtain ⟨last, ran, allLast⟩ := ih
        (fun now decision later => isGiven now decision (List.mem_cons_of_mem _ later))
        inStepNext allNext
      exact ⟨last, (bind_of_ok happened).trans ran, allLast⟩

/-- In every run of calls, recorded decisions and restarts, an experiment that is approved, trades
or has traded is sealed with evidence, and a decision of the run has approved it on just that
evidence, of which its record still tells, by someone who had not proposed it. -/
theorem acts_approvedByAnother (acts : List Act) :
    ∃ last, acts.foldlM act ExperimentRegistry.start = .ok last ∧
      ∀ id record, Dict.get? last.records id = some record → record.lifecycleState ∈ approvedSince →
        record.isSealed = true ∧ isNone record.evidence = false ∧ ∃ now decision,
          .decided now decision ∈ acts ∧ decision.decision = .approve ∧
          id = .str decision.experimentId.text ∧
          record.evidenceFingerprint = .str decision.evidenceFingerprint.text ∧
          decision.KeptAs record.governanceDecision ∧
          strip decision.proposedBy.text.toList ≠ strip decision.reviewedBy.text.toList := by
  obtain ⟨last, ran, all⟩ := @acts_accounted (fun decision => ∃ now, .decided now decision ∈ acts)
    acts (fun now decision member => ⟨now, member⟩) _ inStep_start nofun
  refine ⟨last, ran, fun id record found since => ?_⟩
  have accounted := all id record found
  have isDecided : isNone record.governanceDecision = false := by
    refine Bool.eq_false_of_not_eq_true fun undecided => accounted.undecided undecided ?_
    revert since
    cases record.lifecycleState <;> decide
  obtain ⟨decision, ⟨now, given⟩, isId, keptAs, same, present, approving⟩ :=
    accounted.decided isDecided
  exact ⟨accounted.isSealed present, present, now, decision, given, approving since, isId, same,
    keptAs, decision.separate⟩

end TurtleExecution.Governance

/-
The experiment registry: the lifecycle of an experiment, the replay and the write path.

The storage is the list of the entries that `read_all` returns.  An append may fail or
the process may die at it, with the entry stored or not.  A record is what the registry
keeps for one experiment; `none` of a Python field is `PyValue.none`.
-/

import TurtleExecution.Foundation.JsonCopy
import TurtleExecution.Registry.Storage

set_option autoImplicit false

namespace TurtleExecution.Registry

inductive LifecycleState
  | proposed
  | validating
  | evidenceSealed
  | inReview
  | approved
  | rejected
  | deferred
  | shakedown
  | fullProduction
  | frozen
  | retiring
  | retired
  | withdrawn
  deriving DecidableEq, Repr

namespace LifecycleState

def all : List LifecycleState :=
  [proposed, validating, evidenceSealed, inReview, approved, rejected, deferred, shakedown,
    fullProduction, frozen, retiring, retired, withdrawn]

def value : LifecycleState → String
  | proposed => "proposed"
  | validating => "validating"
  | evidenceSealed => "evidence_sealed"
  | inReview => "in_review"
  | approved => "approved"
  | rejected => "rejected"
  | deferred => "deferred"
  | shakedown => "shakedown"
  | fullProduction => "full_production"
  | frozen => "frozen"
  | retiring => "retiring"
  | retired => "retired"
  | withdrawn => "withdrawn"

/-- `LifecycleState(text)`, or `none` where it raises `ValueError`. -/
def ofValue? (text : String) : Option LifecycleState :=
  all.find? fun state => state.value = text

@[simp] theorem ofValue?_value (state : LifecycleState) : ofValue? state.value = some state := by
  cases state <;> decide

theorem value_of_ofValue? {text : String} {state : LifecycleState}
    (found : ofValue? text = some state) : text = state.value := by
  have same := List.find?_some found
  exact (of_decide_eq_true same).symm

def initialState : LifecycleState := proposed

def governanceDecisionStates : List LifecycleState :=
  [approved, rejected, deferred]

def allowedTransitions : LifecycleState → List LifecycleState
  | proposed => [validating, withdrawn]
  | validating => [evidenceSealed, withdrawn]
  | evidenceSealed => [inReview]
  | inReview => governanceDecisionStates
  | approved => [shakedown]
  | shakedown => [fullProduction, frozen, retiring]
  | fullProduction => [frozen, retiring]
  | frozen => [retiring]
  | retiring => [retired]
  | retired => []
  | rejected => []
  | deferred => []
  | withdrawn => []

def isLegalTransition (fromState toState : LifecycleState) : Bool :=
  decide (toState ∈ allowedTransitions fromState)

theorem inReview_of_governance {fromState toState : LifecycleState}
    (gated : toState ∈ governanceDecisionStates) :
    isLegalTransition fromState toState = true ↔ fromState = inReview := by
  simp only [governanceDecisionStates, List.mem_cons, List.not_mem_nil, or_false] at gated
  rcases gated with rfl | rfl | rfl <;> cases fromState <;> decide

end LifecycleState

inductive RegistryError
  | duplicateExperiment
  | experimentNotFound
  | alreadySealed
  | invalidSpecification
  | experimentNotSealed
  | evidenceAlreadyAttached
  | illegalLifecycleTransition
  | lifecycleGuard
  | governanceRequired
  | malformedRegistryLog
  | invalidRecord
  | valueError
  | typeError
  | storage
  deriving DecidableEq, Repr

structure Record where
  experimentId : PyValue
  fingerprint : PyValue
  parentId : PyValue
  specification : PyValue
  createdAtUtc : PyValue
  isSealed : Bool
  sealedAtUtc : PyValue
  evidence : PyValue
  evidenceFingerprint : PyValue
  lifecycleState : LifecycleState
  governanceDecision : PyValue

abbrev Records := Dict PyKey Record

def isNone : PyValue → Bool
  | .none => true
  | _ => false

/-- The value as a key of `_records`, or `none` where it is not hashable.  Numbers that
are equal are one key; `nan` and the infinities keep their names. -/
def hashKey? : PyValue → Option PyKey
  | .none => some .none
  | .bool value => some (.int (if value then 1 else 0))
  | .int value => some (.int value)
  | .float (.finite literal) =>
      if (PyValue.floatValue literal).den = 1 then some (.int (PyValue.floatValue literal).num)
      else some (.float literal)
  | .float (.nan _) => some (.other "nan")
  | .float (.infinity negative) => some (.other (if negative then "-inf" else "inf"))
  | .str text => some (.str text)
  | .tuple _ => none
  | .list _ => none
  | .dict _ => none
  | .other => none

abbrev Entry := PyDict

def entryCreated : String := "experiment_created"
def entrySealed : String := "experiment_sealed"
def entryEvidence : String := "evidence_attached"
def entryState : String := "state_changed"
def entryDecision : String := "governance_decision"

def field (entry : Entry) (name : String) : Except RegistryError PyValue :=
  match Dict.get? entry (.str name) with
  | some value => .ok value
  | none => .error .malformedRegistryLog

def key (value : PyValue) : Except RegistryError PyKey :=
  match hashKey? value with
  | some key => .ok key
  | none => .error .typeError

def copy (value : PyValue) : Except RegistryError PyValue :=
  match PyValue.deepCopy value with
  | some copied => .ok copied
  | none => .error .typeError

def guardLog (accepted : Bool) : Except RegistryError Unit :=
  if accepted then .ok () else .error .malformedRegistryLog

def knownRecord (records : Records) (entry : Entry) : Except RegistryError (PyKey × Record) := do
  let experimentId ← field entry "experiment_id"
  let id ← key experimentId
  match Dict.get? records id with
  | some record => .ok (id, record)
  | none => .error .malformedRegistryLog

def parentKnown (records : Records) (parentId : PyValue) : Except RegistryError Unit :=
  if isNone parentId then .ok ()
  else do
    let parent ← key parentId
    guardLog (Dict.get? records parent).isSome

def applyCreated (records : Records) (entry : Entry) : Except RegistryError Records := do
  let experimentId ← field entry "experiment_id"
  let id ← key experimentId
  guardLog (Dict.get? records id).isNone
  let parentId := (Dict.get? entry (.str "parent_id")).getD .none
  parentKnown records parentId
  let fingerprint ← field entry "fingerprint"
  let specification ← field entry "specification"
  let copied ← copy specification
  let createdAtUtc ← field entry "created_at_utc"
  pure (Dict.set records id
    { experimentId, fingerprint, parentId, specification := copied, createdAtUtc
      isSealed := false, sealedAtUtc := .none, evidence := .none, evidenceFingerprint := .none
      lifecycleState := LifecycleState.initialState, governanceDecision := .none })

def applySealed (records : Records) (entry : Entry) : Except RegistryError Records := do
  let (id, record) ← knownRecord records entry
  guardLog (!record.isSealed)
  let sealedAtUtc ← field entry "sealed_at_utc"
  pure (Dict.set records id { record with isSealed := true, sealedAtUtc })

def applyEvidence (records : Records) (entry : Entry) : Except RegistryError Records := do
  let (id, record) ← knownRecord records entry
  guardLog record.isSealed
  guardLog (isNone record.evidence)
  let evidence ← field entry "evidence"
  let copied ← copy evidence
  let evidenceFingerprint ← field entry "evidence_fingerprint"
  pure (Dict.set records id { record with evidence := copied, evidenceFingerprint })

def lifecycleState (value : PyValue) : Except RegistryError LifecycleState :=
  match value with
  | .str (.scalars text) =>
      match LifecycleState.ofValue? text with
      | some state => .ok state
      | none => .error .malformedRegistryLog
  | _ => .error .malformedRegistryLog

def applyState (records : Records) (entry : Entry) : Except RegistryError Records := do
  let (id, record) ← knownRecord records entry
  let fromValue ← field entry "from_state"
  let fromState ← lifecycleState fromValue
  let toValue ← field entry "to_state"
  let toState ← lifecycleState toValue
  guardLog (decide (record.lifecycleState = fromState))
  guardLog (LifecycleState.isLegalTransition fromState toState)
  guardLog (!(decide (toState ∈ LifecycleState.governanceDecisionStates) &&
    isNone record.governanceDecision))
  pure (Dict.set records id { record with lifecycleState := toState })

def applyDecision (records : Records) (entry : Entry) : Except RegistryError Records := do
  let (id, record) ← knownRecord records entry
  guardLog (decide (record.lifecycleState = .inReview))
  guardLog (isNone record.governanceDecision)
  let decision ← field entry "decision"
  let copied ← copy decision
  pure (Dict.set records id { record with governanceDecision := copied })

def applyEntry (records : Records) (entry : Entry) : Except RegistryError Records :=
  match Dict.get? entry (.str "type") with
  | some (.str entryType) =>
      if entryType = entryCreated then applyCreated records entry
      else if entryType = entrySealed then applySealed records entry
      else if entryType = entryEvidence then applyEvidence records entry
      else if entryType = entryState then applyState records entry
      else if entryType = entryDecision then applyDecision records entry
      else .error .malformedRegistryLog
  | _ => .error .malformedRegistryLog

def replayFrom (records : Records) : List Entry → Except RegistryError Records
  | [] => .ok records
  | entry :: entries => do
      let next ← applyEntry records entry
      replayFrom next entries

def replay (storage : List Entry) : Except RegistryError Records :=
  replayFrom [] storage

/-- What the storage does at one append: whether it raises or the process dies, and
whether the entry is stored nevertheless. -/
inductive StorageAnswer
  | returns
  | fails (stored : Bool)
  | dies (stored : Bool)
  deriving DecidableEq

def StorageAnswer.stores : StorageAnswer → Bool
  | .returns => true
  | .fails stored => stored
  | .dies stored => stored

def ExperimentRegistry.isText : PyValue → Bool
  | .str text => !text.isBlank
  | _ => false

def guardRecord (accepted : Bool) (error : RegistryError) : Except RegistryError Unit :=
  if accepted then .ok () else .error error

def isMapping : PyValue → Bool
  | .dict _ => true
  | _ => false

def optionalStr : Option String → PyValue
  | none => .none
  | some text => .str text

def isStr : PyValue → Bool
  | .str _ => true
  | _ => false

/-- `_snapshot`: the record that a call returns, checked as `ExperimentRecord` checks it. -/
def snapshotOf (records : Records) (id : PyKey) : Except RegistryError Record :=
  match Dict.get? records id with
  | none => .error .experimentNotFound
  | some record => do
      guardRecord (ExperimentRegistry.isText record.experimentId) .invalidRecord
      guardRecord (ExperimentRegistry.isText record.fingerprint) .invalidRecord
      guardRecord (isNone record.parentId || ExperimentRegistry.isText record.parentId)
        .invalidRecord
      let specification ← copy record.specification
      guardRecord (isMapping specification) .invalidRecord
      guardRecord (ExperimentRegistry.isText record.createdAtUtc) .invalidRecord
      guardRecord (isNone record.sealedAtUtc || isStr record.sealedAtUtc) .invalidRecord
      guardRecord (decide (record.isSealed = !isNone record.sealedAtUtc)) .invalidRecord
      guardRecord (isNone record.evidenceFingerprint ||
        ExperimentRegistry.isText record.evidenceFingerprint) .invalidRecord
      return { record with specification }

/-- The live registry over its storage; behind the answers every append returns. -/
structure ExperimentRegistry where
  storage : List Entry
  records : Records
  answers : List StorageAnswer

abbrev Registering := Process ExperimentRegistry RegistryError

namespace ExperimentRegistry

def storageAppend (entry : Entry) : Registering Unit := fun registry =>
  let answer := registry.answers.headD .returns
  let after : ExperimentRegistry :=
    { registry with
      storage := if answer.stores then registry.storage ++ [entry] else registry.storage
      answers := registry.answers.tail }
  match answer with
  | .returns => (.returned (), after)
  | .fails _ => (.raised .storage, after)
  | .dies _ => (.crashed, after)

def setRecord (id : String) (record : Record) : Registering Unit :=
  Process.modify fun registry => { registry with records := Dict.set registry.records (.str id) record }

def find (experimentId : String) : Registering Record := fun registry =>
  match Dict.get? registry.records (.str experimentId) with
  | some record => (.returned record, registry)
  | none => (.raised .experimentNotFound, registry)

def require (accepted : Bool) (error : RegistryError) : Registering Unit :=
  if accepted then pure () else Process.raise error

def snapshot (experimentId : String) : Registering Record := fun registry =>
  Process.ofExcept (snapshotOf registry.records (.str experimentId)) registry

def validateSpecification (specification : PyValue) : Except RegistryError PyValue :=
  match specification with
  | .dict entries =>
      match PyValue.deepCopy (.dict entries) with
      | some copied => .ok copied
      | none => .error .invalidSpecification
  | _ => .error .invalidSpecification

/-- The digest of the specification's canonical text; keys that cannot be ordered raise. -/
def fingerprint (specification : PyValue) : Except RegistryError String :=
  match dumpsText specification with
  | some canonical =>
      .ok (String.ofList (hexdigest (String.ofList canonical)))
  | none => .error .typeError

def create (experimentId : String) (specification : PyValue) (parentId : Option String)
    (now : String) : Registering Record := do
  require (!PyText.isBlank experimentId) .valueError
  let spec ← Process.ofExcept (validateSpecification specification)
  require (parentId.all fun parent => !PyText.isBlank parent) .valueError
  let registry ← Process.get
  require (Dict.get? registry.records (.str experimentId)).isNone .duplicateExperiment
  require (parentId.all fun parent => (Dict.get? registry.records (.str parent)).isSome)
    .experimentNotFound
  let fingerprint ← Process.ofExcept (fingerprint spec)
  let parent := optionalStr parentId
  storageAppend
    [(.str "type", .str entryCreated), (.str "experiment_id", .str experimentId),
      (.str "fingerprint", .str fingerprint), (.str "parent_id", parent),
      (.str "specification", spec), (.str "created_at_utc", .str now)]
  setRecord experimentId
    { experimentId := .str experimentId, fingerprint := .str fingerprint, parentId := parent
      specification := spec, createdAtUtc := .str now, isSealed := false, sealedAtUtc := .none
      evidence := .none, evidenceFingerprint := .none
      lifecycleState := LifecycleState.initialState, governanceDecision := .none }
  snapshot experimentId

def «seal» (experimentId : String) (now : String) : Registering Record := do
  require (!PyText.isBlank experimentId) .valueError
  let record ← find experimentId
  require (!record.isSealed) .alreadySealed
  storageAppend
    [(.str "type", .str entrySealed), (.str "experiment_id", .str experimentId),
      (.str "sealed_at_utc", .str now)]
  setRecord experimentId { record with isSealed := true, sealedAtUtc := .str now }
  snapshot experimentId

def validateMapping (mapping : PyDict) : Except RegistryError Unit :=
  if mapping = [] then .error .invalidSpecification
  else if (PyValue.treeOf (.dict mapping)).isSome then .ok ()
  else .error .invalidSpecification

def attachEvidence (experimentId : String) (evidence : PyDict) (evidenceFingerprint : String) :
    Registering Record := do
  require (!PyText.isBlank experimentId) .valueError
  require (!PyText.isBlank evidenceFingerprint) .valueError
  Process.ofExcept (validateMapping evidence)
  let record ← find experimentId
  require record.isSealed .experimentNotSealed
  require (isNone record.evidence) .evidenceAlreadyAttached
  let evidenceDict ← Process.ofExcept (copy (.dict evidence))
  storageAppend
    [(.str "type", .str entryEvidence), (.str "experiment_id", .str experimentId),
      (.str "evidence", evidenceDict), (.str "evidence_fingerprint", .str evidenceFingerprint)]
  let kept ← Process.ofExcept (copy evidenceDict)
  setRecord experimentId
    { record with evidence := kept, evidenceFingerprint := .str evidenceFingerprint }
  snapshot experimentId

def stateEntry (experimentId : PyValue) (fromState toState : LifecycleState) (now : String) : Entry :=
  [(.str "type", .str entryState), (.str "experiment_id", experimentId),
    (.str "from_state", .str fromState.value), (.str "to_state", .str toState.value),
    (.str "changed_at_utc", .str now)]

def transitionLocked (experimentId : String) (record : Record) (toState : LifecycleState)
    (now : String) : Registering Record := do
  require (LifecycleState.isLegalTransition record.lifecycleState toState)
    .illegalLifecycleTransition
  require (!(decide (toState = .evidenceSealed) && isNone record.evidence)) .lifecycleGuard
  storageAppend (stateEntry record.experimentId record.lifecycleState toState now)
  setRecord experimentId { record with lifecycleState := toState }
  snapshot experimentId

def transition (experimentId : String) (toState : LifecycleState) (now : String) :
    Registering Record := do
  let record ← find experimentId
  require (!decide (toState ∈ LifecycleState.governanceDecisionStates)) .governanceRequired
  transitionLocked experimentId record toState now

def decisionEntry (experimentId : String) (decision : PyValue) : Entry :=
  [(.str "type", .str entryDecision), (.str "experiment_id", .str experimentId),
    (.str "decision", decision)]

def applyGovernanceDecision (experimentId : String) (decision : PyDict) (toState : LifecycleState)
    (now : String) : Registering Record := do
  require (decide (toState ∈ LifecycleState.governanceDecisionStates)) .valueError
  Process.ofExcept (validateMapping decision)
  let record ← find experimentId
  require (decide (record.lifecycleState = .inReview)) .lifecycleGuard
  require (isNone record.governanceDecision) .lifecycleGuard
  let decisionDict ← Process.ofExcept (copy (.dict decision))
  storageAppend (decisionEntry experimentId decisionDict)
  let kept ← Process.ofExcept (copy decisionDict)
  let decided := { record with governanceDecision := kept }
  setRecord experimentId decided
  transitionLocked experimentId decided toState now

end ExperimentRegistry

end TurtleExecution.Registry

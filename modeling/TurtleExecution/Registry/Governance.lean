/-
Governance decisions across failures.

A decision is two entries: the decision itself and the transition that it causes.  The
registry that is rebuilt from the storage holds both or neither, and a retry can
complete, exactly where no failure falls between the two.
-/

import TurtleExecution.Registry.Replay

set_option autoImplicit false

namespace TurtleExecution.Registry

open Process ExperimentRegistry

/-- The decision as a record holds it: copied for the entry, and again for the record. -/
def recordedDecision (decision : PyDict) : Option PyValue :=
  (PyValue.deepCopy (.dict decision)).bind PyValue.deepCopy

theorem deepCopy_dict {entries : PyDict} {copied : PyValue}
    (isCopy : PyValue.deepCopy (.dict entries) = some copied) : ∃ items, copied = .dict items := by
  obtain ⟨tree, written, rfl⟩ := Option.map_eq_some_iff.mp isCopy
  rw [PyValue.treeOf] at written
  obtain ⟨members, _, rfl⟩ := Option.map_eq_some_iff.mp written
  exact ⟨_, rfl⟩

theorem recordedDecision_of_valid {decision : PyDict} (valid : validateMapping decision = .ok ()) :
    ∃ dict kept, PyValue.deepCopy (.dict decision) = some dict ∧
      PyValue.deepCopy dict = some kept ∧ recordedDecision decision = some kept ∧
      kept ≠ .none := by
  unfold validateMapping at valid
  split at valid
  · cases valid
  split at valid
  · rename_i serialisable
    obtain ⟨tree, written⟩ := Option.isSome_iff_exists.mp serialisable
    have copied : PyValue.deepCopy (.dict decision) = some (PyValue.ofJson tree) := by
      rw [PyValue.deepCopy, written]
      rfl
    obtain ⟨kept, again⟩ := PyValue.deepCopy_deepCopy copied
    obtain ⟨items, isDict⟩ := deepCopy_dict copied
    refine ⟨_, kept, copied, again, by rw [recordedDecision, copied]; exact again, ?_⟩
    rw [isDict] at again
    obtain ⟨items, rfl⟩ := deepCopy_dict again
    exact PyValue.noConfusion
  · cases valid

variable {registry : ExperimentRegistry} {id : String} {record : Record}

private theorem applyEntry_decision {records : Records} {dict kept : PyValue}
    (found : Dict.get? records (.str id) = some record)
    (inReview : record.lifecycleState = .inReview) (undecided : record.governanceDecision = .none)
    (copied : PyValue.deepCopy dict = some kept) :
    applyEntry records (decisionEntry id dict) =
      .ok (Dict.set records (.str id) { record with governanceDecision := kept }) := by
  have known : knownRecord records (decisionEntry id dict) = .ok (.str id, record) :=
    knownRecord_of rfl found
  have isField : field (decisionEntry id dict) "decision" = .ok dict := rfl
  change applyDecision records (decisionEntry id dict) = _
  exact (bind_of_ok known).trans ((bind_of_ok (guardLog_of (decide_eq_true inReview))).trans
    ((bind_of_ok (guardLog_of (isNone_iff.mpr undecided))).trans
      ((bind_of_ok isField).trans (bind_of_ok (copy_of copied)))))

private theorem applyEntry_state {records : Records} {toState : LifecycleState} (now : String)
    (found : Dict.get? records (.str id) = some record)
    (legal : LifecycleState.isLegalTransition record.lifecycleState toState = true)
    (decided : record.governanceDecision ≠ .none) :
    applyEntry records (stateEntry (.str id) record.lifecycleState toState now) =
      .ok (Dict.set records (.str id) { record with lifecycleState := toState }) := by
  have known : knownRecord records (stateEntry (.str id) record.lifecycleState toState now) =
      .ok (.str id, record) := knownRecord_of rfl found
  have isFrom : field (stateEntry (.str id) record.lifecycleState toState now) "from_state" =
      .ok (.str record.lifecycleState.value) := rfl
  have isTo : field (stateEntry (.str id) record.lifecycleState toState now) "to_state" =
      .ok (.str toState.value) := rfl
  have accepted : (!(decide (toState ∈ LifecycleState.governanceDecisionStates) &&
      isNone record.governanceDecision)) = true := by
    rw [isNone_of_ne decided, Bool.and_false]
    rfl
  change applyState records (stateEntry (.str id) record.lifecycleState toState now) = _
  exact (bind_of_ok known).trans ((bind_of_ok isFrom).trans
    ((bind_of_ok (lifecycleState_of _)).trans ((bind_of_ok isTo).trans
      ((bind_of_ok (lifecycleState_of _)).trans ((bind_of_ok (guardLog_of (decide_eq_true rfl))).trans
        ((bind_of_ok (guardLog_of legal)).trans (bind_of_ok (guardLog_of accepted))))))))

structure Admitted (records : Records) (id : String) (decision : PyDict) (toState : LifecycleState)
    (record : Record) : Prop where
  gated : toState ∈ LifecycleState.governanceDecisionStates
  valid : validateMapping decision = .ok ()
  found : Dict.get? records (.str id) = some record
  inReview : record.lifecycleState = .inReview
  undecided : record.governanceDecision = .none

theorem require_of {accepted : Bool} (error : RegistryError) (registry : ExperimentRegistry)
    (holds : accepted = true) : require accepted error registry = (.returned (), registry) := by
  rw [holds]
  rfl

theorem find_of (found : Dict.get? registry.records (.str id) = some record) :
    find id registry = (.returned record, registry) := by
  rw [find, found]

def ExperimentRegistry.firstAnswer (registry : ExperimentRegistry) : StorageAnswer :=
  registry.answers.headD .returns

def ExperimentRegistry.secondAnswer (registry : ExperimentRegistry) : StorageAnswer :=
  registry.answers.tail.headD .returns

def ExperimentRegistry.stored (registry : ExperimentRegistry) (entry : Entry) : ExperimentRegistry :=
  { registry with storage := registry.storage ++ [entry], answers := registry.answers.tail }

theorem storageAppend_returns {entry : Entry} (returns : registry.firstAnswer = .returns) :
    storageAppend entry registry = (.returned (), registry.stored entry) := by
  unfold firstAnswer at returns
  unfold storageAppend
  rw [returns]
  rfl

theorem storageAppend_ends {Value : Type} {registry : ExperimentRegistry} {entry : Entry}
    {next : Unit → Registering Value} (ends : registry.firstAnswer ≠ .returns) :
    ((storageAppend entry >>= next) registry).2 =
      { registry with
        storage := if registry.firstAnswer.stores then registry.storage ++ [entry]
          else registry.storage
        answers := registry.answers.tail } := by
  have answer : registry.firstAnswer = registry.answers.headD .returns := rfl
  cases first : registry.firstAnswer with
  | returns => exact absurd first ends
  | fails stored =>
      rw [first] at answer
      rw [bind_raised (by unfold storageAppend; rw [← answer])]
  | dies stored =>
      rw [first] at answer
      rw [bind_crashed (by unfold storageAppend; rw [← answer])]

theorem snapshot_state (id : String) (registry : ExperimentRegistry) :
    (snapshot id registry).2 = registry :=
  preserves_ofExcept (fun registry : ExperimentRegistry => registry) _ registry

def ExperimentRegistry.interrupted (registry : ExperimentRegistry) (entry : Entry) :
    ExperimentRegistry :=
  { registry with
    storage := if registry.firstAnswer.stores then registry.storage ++ [entry] else registry.storage
    answers := registry.answers.tail }

def ExperimentRegistry.withRecord (registry : ExperimentRegistry) (id : String) (record : Record) :
    ExperimentRegistry :=
  { registry with records := Dict.set registry.records (.str id) record }

theorem setRecord_run (id : String) (record : Record) (registry : ExperimentRegistry) :
    setRecord id record registry = (.returned (), registry.withRecord id record) := rfl

private theorem transitionLocked_run (record : Record) {toState : LifecycleState} {now : String}
    (inReview : record.lifecycleState = .inReview)
    (gated : toState ∈ LifecycleState.governanceDecisionStates) :
    (transitionLocked id record toState now registry).2 =
      if registry.firstAnswer = .returns then
        (registry.stored (stateEntry record.experimentId .inReview toState now)).withRecord id
          { record with lifecycleState := toState }
      else registry.interrupted (stateEntry record.experimentId .inReview toState now) := by
  have legal : LifecycleState.isLegalTransition .inReview toState = true :=
    (LifecycleState.inReview_of_governance gated).mpr rfl
  have noGuard : (!(decide (toState = .evidenceSealed) && isNone record.evidence)) = true := by
    have different : toState ≠ .evidenceSealed := by
      rintro rfl
      exact absurd gated (by decide)
    simp [different]
  unfold transitionLocked
  rw [inReview, bind_returned (require_of _ registry legal),
    bind_returned (require_of _ registry noGuard)]
  split
  · rename_i returns
    rw [bind_returned (storageAppend_returns returns), bind_returned (setRecord_run _ _ _)]
    exact snapshot_state id _
  · rename_i ends
    exact storageAppend_ends ends

section

variable {registry : ExperimentRegistry} {id : String} {decision : PyDict}
  {toState : LifecycleState}

variable {record : Record} {now : String}

private theorem applyGovernanceDecision_run {dict kept : PyValue}
    (admitted : Admitted registry.records id decision toState record)
    (copied : PyValue.deepCopy (.dict decision) = some dict)
    (again : PyValue.deepCopy dict = some kept) :
    (applyGovernanceDecision id decision toState now registry).2 =
      if registry.firstAnswer = .returns then
        (transitionLocked id { record with governanceDecision := kept } toState now
          ((registry.stored (decisionEntry id dict)).withRecord id
            { record with governanceDecision := kept })).2
      else registry.interrupted (decisionEntry id dict) := by
  unfold applyGovernanceDecision
  rw [bind_returned (require_of _ registry (decide_eq_true admitted.gated)),
    bind_returned (ofExcept_ok admitted.valid registry), bind_returned (find_of admitted.found),
    bind_returned (require_of _ registry (decide_eq_true admitted.inReview)),
    bind_returned (require_of _ registry (isNone_iff.mpr admitted.undecided)),
    bind_returned (ofExcept_ok (copy_of copied) registry)]
  split
  · rename_i returns
    rw [bind_returned (storageAppend_returns returns),
      bind_returned (ofExcept_ok (copy_of again) _), bind_returned (setRecord_run _ _ _)]
  · rename_i ends
    exact storageAppend_ends ends

/-- The decision is recorded, and the experiment is in the state that it leads to. -/
def Decided (records : Records) (id : String) (decision : PyDict) (toState : LifecycleState) :
    Prop :=
  ∃ record, Dict.get? records (.str id) = some record ∧
    recordedDecision decision = some record.governanceDecision ∧ record.lifecycleState = toState

def Undecided (records : Records) (id : String) : Prop :=
  ∃ record, Dict.get? records (.str id) = some record ∧ record.governanceDecision = .none ∧
    record.lifecycleState = .inReview

def retry (storage : List Entry) (rebuilt : Records) (id : String) (decision : PyDict)
    (toState : LifecycleState) (now : String) : ExperimentRegistry :=
  (applyGovernanceDecision id decision toState now
    { storage, records := rebuilt, answers := [] }).2

/-- After the call the rebuilt registry holds the decision and its state or neither, and
after a retry the registry holds both and so does one that is rebuilt again. -/
def Atomic (registry : ExperimentRegistry) (id : String) (decision : PyDict)
    (toState : LifecycleState) (now : String) : Prop :=
  ∃ rebuilt,
    replay (applyGovernanceDecision id decision toState now registry).2.storage = .ok rebuilt ∧
    (Decided rebuilt id decision toState ∨ Undecided rebuilt id) ∧
    ∀ later, ∃ again,
      Decided (retry (applyGovernanceDecision id decision toState now registry).2.storage rebuilt
        id decision toState later).records id decision toState ∧
      replay (retry (applyGovernanceDecision id decision toState now registry).2.storage rebuilt
        id decision toState later).storage = .ok again ∧
      Decided again id decision toState

/-- The first append stores the decision and the second one does not store the transition. -/
def FallsBetween (registry : ExperimentRegistry) : Prop :=
  registry.firstAnswer.stores = true ∧
    ¬ (registry.firstAnswer = .returns ∧ registry.secondAnswer.stores = true)

private theorem replay_both (now : String) {dict kept : PyValue}
    (inStep : replay registry.storage = .ok registry.records)
    (admitted : Admitted registry.records id decision toState record)
    (again : PyValue.deepCopy dict = some kept) (present : kept ≠ .none) :
    ∃ rebuilt,
      replay (registry.storage ++ [decisionEntry id dict] ++
        [stateEntry record.experimentId .inReview toState now]) = .ok rebuilt ∧
      Dict.get? rebuilt (.str id) =
        some { record with governanceDecision := kept, lifecycleState := toState } := by
  have named := replay_keyed inStep id record admitted.found
  have afterDecision := (replay_concat (decisionEntry id dict) inStep).trans
    (applyEntry_decision admitted.found admitted.inReview admitted.undecided again)
  have legal : LifecycleState.isLegalTransition record.lifecycleState toState = true := by
    rw [admitted.inReview]
    exact (LifecycleState.inReview_of_governance admitted.gated).mpr rfl
  have applied := applyEntry_state now
    (Dict.get?_set_self registry.records (PyKey.str id) { record with governanceDecision := kept })
    legal present
  refine ⟨_, Eq.trans ?_ ((replay_concat _ afterDecision).trans applied),
    Dict.get?_set_self _ _ _⟩
  rw [named, ← admitted.inReview]

/-- A call whose first append returns and whose second one stores its entry has recorded
both; if both return, the live registry holds both, too. -/
theorem decided_of_complete (now : String) {record : Record}
    (inStep : replay registry.storage = .ok registry.records)
    (admitted : Admitted registry.records id decision toState record)
    (first : registry.firstAnswer = .returns) (second : registry.secondAnswer.stores = true) :
    ∃ rebuilt,
      replay (applyGovernanceDecision id decision toState now registry).2.storage = .ok rebuilt ∧
      Decided rebuilt id decision toState ∧
      (registry.secondAnswer = .returns →
        Decided (applyGovernanceDecision id decision toState now registry).2.records id decision
          toState) := by
  obtain ⟨dict, kept, copied, again, recorded, present⟩ := recordedDecision_of_valid admitted.valid
  obtain ⟨rebuilt, replayed, holds⟩ := replay_both now inStep admitted again present
  have next : ((registry.stored (decisionEntry id dict)).withRecord id
      { record with governanceDecision := kept }).firstAnswer = registry.secondAnswer := rfl
  rw [applyGovernanceDecision_run admitted copied again, if_pos first,
    transitionLocked_run { record with governanceDecision := kept } admitted.inReview
      admitted.gated, next]
  refine ⟨rebuilt, ?_, ⟨_, holds, recorded, rfl⟩, ?_⟩
  · split
    · exact replayed
    · rw [ExperimentRegistry.interrupted, next, second]
      exact replayed
  · intro returns
    rw [if_pos returns]
    exact ⟨_, Dict.get?_set_self _ _ _, recorded, rfl⟩

private theorem applyGovernanceDecision_refused
    (gated : toState ∈ LifecycleState.governanceDecisionStates)
    (valid : validateMapping decision = .ok ())
    (found : Dict.get? registry.records (.str id) = some record)
    (decided : record.lifecycleState ≠ .inReview) :
    (applyGovernanceDecision id decision toState now registry).2 = registry := by
  unfold applyGovernanceDecision
  rw [bind_returned (require_of _ registry (decide_eq_true gated)),
    bind_returned (ofExcept_ok valid registry), bind_returned (find_of found),
    bind_raised (by rw [decide_eq_false decided]; rfl)]

private theorem not_inReview_of_gated {toState : LifecycleState}
    (gated : toState ∈ LifecycleState.governanceDecisionStates) : toState ≠ .inReview := by
  rintro rfl
  exact absurd gated (by decide)

private theorem storage_of_unstored (now : String)
    (admitted : Admitted registry.records id decision toState record)
    (unstored : registry.firstAnswer.stores = false) :
    (applyGovernanceDecision id decision toState now registry).2.storage = registry.storage := by
  obtain ⟨dict, kept, copied, again, _, _⟩ := recordedDecision_of_valid admitted.valid
  have ends : registry.firstAnswer ≠ .returns := by
    intro returns
    rw [returns] at unstored
    cases unstored
  rw [applyGovernanceDecision_run admitted copied again, if_neg ends]
  simp [ExperimentRegistry.interrupted, unstored]

private theorem storage_of_between (now : String)
    (admitted : Admitted registry.records id decision toState record)
    (between : FallsBetween registry) :
    ∃ dict kept, PyValue.deepCopy dict = some kept ∧ kept ≠ .none ∧
      (applyGovernanceDecision id decision toState now registry).2.storage =
        registry.storage ++ [decisionEntry id dict] := by
  obtain ⟨dict, kept, copied, again, _, present⟩ := recordedDecision_of_valid admitted.valid
  refine ⟨dict, kept, again, present, ?_⟩
  obtain ⟨stored, notBoth⟩ := between
  rw [applyGovernanceDecision_run admitted copied again]
  split
  · rename_i returns
    have unstored : registry.secondAnswer.stores = false :=
      Bool.eq_false_iff.mpr fun second => notBoth ⟨returns, second⟩
    have next : ((registry.stored (decisionEntry id dict)).withRecord id
        { record with governanceDecision := kept }).firstAnswer = registry.secondAnswer := rfl
    have ends : registry.secondAnswer ≠ .returns := by
      intro returns
      rw [returns] at unstored
      cases unstored
    rw [transitionLocked_run { record with governanceDecision := kept }
      admitted.inReview admitted.gated, next, if_neg ends, ExperimentRegistry.interrupted, next,
      unstored]
    rfl
  · rw [ExperimentRegistry.interrupted, stored]
    rfl

private theorem not_atomic_of_between (inStep : replay registry.storage = .ok registry.records)
    (admitted : Admitted registry.records id decision toState record)
    (between : FallsBetween registry) : ¬ Atomic registry id decision toState now := by
  rintro ⟨rebuilt, replayed, holds, _⟩
  obtain ⟨dict, kept, again, present, storage⟩ := storage_of_between now admitted between
  rw [storage, replay_concat _ inStep,
    applyEntry_decision admitted.found admitted.inReview admitted.undecided again] at replayed
  cases replayed
  rcases holds with ⟨shown, found, _, reached⟩ | ⟨shown, found, nothing, _⟩
  · rw [Dict.get?_set_self] at found
    cases found
    exact not_inReview_of_gated admitted.gated (reached.symm.trans admitted.inReview)
  · rw [Dict.get?_set_self] at found
    cases found
    exact present nothing

end

/-- For a decision that the call's checks accept, in a registry that is in step with its
storage: the call is atomic exactly where no failure falls between its two appends. -/
theorem applyGovernanceDecision_atomic_iff (registry : ExperimentRegistry) (id : String)
    (decision : PyDict) (toState : LifecycleState) (now : String) (record : Record)
    (inStep : replay registry.storage = .ok registry.records)
    (admitted : Admitted registry.records id decision toState record) :
    Atomic registry id decision toState now ↔ ¬ FallsBetween registry := by
  constructor
  · exact fun atomic between => not_atomic_of_between inStep admitted between atomic
  · intro notBetween
    by_cases stored : registry.firstAnswer.stores = true
    · -- both are stored, and the retry is refused
      obtain ⟨first, second⟩ := not_not.mp fun notBoth => notBetween ⟨stored, notBoth⟩
      obtain ⟨rebuilt, replayed, decided, _⟩ :=
        decided_of_complete now inStep admitted first second
      refine ⟨rebuilt, replayed, Or.inl decided, fun later => ⟨rebuilt, ?_⟩⟩
      have refused : retry (applyGovernanceDecision id decision toState now registry).2.storage
          rebuilt id decision toState later =
            { storage := (applyGovernanceDecision id decision toState now registry).2.storage
              records := rebuilt, answers := [] } := by
        obtain ⟨shown, found, _, reached⟩ := decided
        exact applyGovernanceDecision_refused admitted.gated admitted.valid found
          (by rw [reached]; exact not_inReview_of_gated admitted.gated)
      rw [refused]
      exact ⟨decided, replayed, decided⟩
    · -- nothing is stored, and the retry records both
      have storage := storage_of_unstored now admitted (Bool.not_eq_true _ ▸ stored)
      refine ⟨registry.records, by rw [storage]; exact inStep,
        Or.inr ⟨record, admitted.found, admitted.undecided, admitted.inReview⟩, fun later => ?_⟩
      rw [storage]
      obtain ⟨again, replayed, decided, live⟩ := 
        @decided_of_complete { storage := registry.storage, records := registry.records, answers := [] }
          _ _ _ later _ inStep admitted rfl rfl
      exact ⟨again, live rfl, replayed, decided⟩

def reviewedStorage : List Entry :=
  [[(.str "type", .str "experiment_created"), (.str "experiment_id", .str "e"),
      (.str "fingerprint", .str "f"), (.str "parent_id", .none),
      (.str "specification", .dict [(.str "a", .int 1)]), (.str "created_at_utc", .str "t")],
    [(.str "type", .str "experiment_sealed"), (.str "experiment_id", .str "e"),
      (.str "sealed_at_utc", .str "t")],
    [(.str "type", .str "evidence_attached"), (.str "experiment_id", .str "e"),
      (.str "evidence", .dict [(.str "b", .int 2)]), (.str "evidence_fingerprint", .str "g")],
    stateEntry (.str "e") .proposed .validating "t",
    stateEntry (.str "e") .validating .evidenceSealed "t",
    stateEntry (.str "e") .evidenceSealed .inReview "t"]

def reviewedRecord : Record :=
  { experimentId := .str "e", fingerprint := .str "f", parentId := .none
    specification := .dict [(.str "a", .int 1)], createdAtUtc := .str "t", isSealed := true
    sealedAtUtc := .str "t", evidence := .dict [(.str "b", .int 2)]
    evidenceFingerprint := .str "g", lifecycleState := .inReview, governanceDecision := .none }

def reviewed (answers : List StorageAnswer) : ExperimentRegistry :=
  { storage := reviewedStorage, records := [(.str "e", reviewedRecord)], answers }

def approval : PyDict :=
  [(.str "decision", .str "approve")]

private theorem reviewed_inStep (answers : List StorageAnswer) :
    replay (reviewed answers).storage = .ok (reviewed answers).records := rfl

private theorem reviewed_admitted (answers : List StorageAnswer) :
    Admitted (reviewed answers).records "e" approval .approved reviewedRecord :=
  { gated := by decide
    valid := rfl
    found := rfl
    inReview := rfl
    undecided := rfl }

/-- The process dies behind the first append: the experiment is in review with a decision
recorded, which every retry refuses. -/
theorem crashBetween_notAtomic :
    replay (reviewed [.dies true]).storage = .ok (reviewed [.dies true]).records ∧
      Admitted (reviewed [.dies true]).records "e" approval .approved reviewedRecord ∧
      ¬ Atomic (reviewed [.dies true]) "e" approval .approved "u" :=
  ⟨rfl, reviewed_admitted _, not_atomic_of_between rfl (reviewed_admitted _)
    ⟨rfl, fun both => StorageAnswer.noConfusion both.1⟩⟩

theorem applyGovernanceDecision_atomic_iff_failedFirst :
    Atomic (reviewed [.fails false]) "e" approval .approved "u" :=
  (applyGovernanceDecision_atomic_iff (reviewed [.fails false]) "e" approval .approved "u"
    reviewedRecord (reviewed_inStep _) (reviewed_admitted _)).mpr
      fun between => absurd between.1 (by decide)

end TurtleExecution.Registry

/-
A registry that is rebuilt from its log.

Every call either refuses and changes nothing, or writes its entries and sets the
record.  The log reads back as the images of the entries, and their replay accepts each
of them and leads to images of the live records.
-/

import TurtleExecution.Registry.Answers
import TurtleExecution.Registry.Appends
import TurtleExecution.Registry.Governance

set_option autoImplicit false

namespace TurtleExecution.Registry

open PyValue Process ExperimentRegistry

structure Time where
  text : String
  nonBlank : PyText.isBlank text = false

inductive Mutation
  | create (experimentId : String) (specification : PyValue) (parentId : Option String)
  | «seal» (experimentId : String)
  | attachEvidence (experimentId : String) (evidence : PyDict) (evidenceFingerprint : String)
  | transition (experimentId : String) (toState : LifecycleState)
  | applyGovernanceDecision (experimentId : String) (decision : PyDict) (toState : LifecycleState)

def Mutation.operation (now : Time) : Mutation → Registering Record
  | create experimentId specification parentId =>
      ExperimentRegistry.create experimentId specification parentId now.text
  | «seal» experimentId => ExperimentRegistry.seal experimentId now.text
  | attachEvidence experimentId evidence evidenceFingerprint =>
      ExperimentRegistry.attachEvidence experimentId evidence evidenceFingerprint
  | transition experimentId toState =>
      ExperimentRegistry.transition experimentId toState now.text
  | applyGovernanceDecision experimentId decision toState =>
      ExperimentRegistry.applyGovernanceDecision experimentId decision toState now.text

def ExperimentRegistry.start : ExperimentRegistry :=
  { storage := [], records := [], answers := [] }

def ExperimentRegistry.call (registry : ExperimentRegistry) (mutation : Time × Mutation) :
    ExperimentRegistry :=
  (mutation.2.operation mutation.1 registry).2

def ExperimentRegistry.run (registry : ExperimentRegistry) (mutations : List (Time × Mutation)) :
    ExperimentRegistry :=
  mutations.foldl call registry

theorem snapshot_eq (id : String) (registry : ExperimentRegistry) :
    snapshot id registry = ofExcept (snapshotOf registry.records (.str id)) registry := rfl

structure Healthy (id : PyKey) (record : Record) : Prop where
  named : ∃ text, id = .str text ∧ record.experimentId = .str text ∧ text.isBlank = false
  fingerprint : isText record.fingerprint = true
  parent : (isNone record.parentId || isText record.parentId) = true
  mapping : isMapping record.specification = true
  createdAt : isText record.createdAtUtc = true
  sealedAt : (isNone record.sealedAtUtc || isStr record.sealedAtUtc) = true
  isSealed : record.isSealed = !isNone record.sealedAtUtc
  evidence : (isNone record.evidenceFingerprint || isText record.evidenceFingerprint) = true

private theorem guardRecord_of {accepted : Bool} (error : RegistryError) (holds : accepted = true) :
    guardRecord accepted error = .ok () := by
  rw [holds]
  rfl

variable {record : Record} {id : PyKey}

theorem Healthy.experimentId (healthy : Healthy id record) : isText record.experimentId = true := by
  obtain ⟨text, _, same, nonBlank⟩ := healthy.named
  rw [same, isText, nonBlank]
  rfl

structure Presentable (record : Record) : Prop where
  experimentId : isText record.experimentId = true
  fingerprint : isText record.fingerprint = true
  parent : (isNone record.parentId || isText record.parentId) = true
  specification : ∃ items, PyValue.deepCopy record.specification = some (.dict items)
  createdAt : isText record.createdAtUtc = true
  sealedAt : (isNone record.sealedAtUtc || isStr record.sealedAtUtc) = true
  isSealed : record.isSealed = !isNone record.sealedAtUtc
  evidence : (isNone record.evidenceFingerprint || isText record.evidenceFingerprint) = true

theorem snapshotOf_presentable {records : Records} {items : PyDict}
    (found : Dict.get? records id = some record) (presentable : Presentable record)
    (isCopy : deepCopy record.specification = some (.dict items)) :
    snapshotOf records id = .ok { record with specification := .dict items } := by
  unfold snapshotOf
  rw [found]
  dsimp only
  rw [bind_of_ok (guardRecord_of _ presentable.experimentId),
    bind_of_ok (guardRecord_of _ presentable.fingerprint),
    bind_of_ok (guardRecord_of _ presentable.parent), bind_of_ok (copy_of isCopy),
    bind_of_ok (guardRecord_of _ (rfl : isMapping (.dict items) = true)),
    bind_of_ok (guardRecord_of _ presentable.createdAt),
    bind_of_ok (guardRecord_of _ presentable.sealedAt),
    bind_of_ok (guardRecord_of _ (decide_eq_true presentable.isSealed)),
    bind_of_ok (guardRecord_of _ presentable.evidence)]
  rfl

theorem snapshotOf_healthy {records : Records} (found : Dict.get? records id = some record)
    (healthy : Healthy id record) (plain : Plain record.specification) :
    snapshotOf records id = .ok record := by
  obtain ⟨items, isDict⟩ : ∃ items, record.specification = .dict items := by
    have mapping := healthy.mapping
    cases isSpecification : record.specification with
    | dict items => exact ⟨items, rfl⟩
    | _ =>
        rw [isSpecification] at mapping
        cases mapping
  have isCopy : deepCopy record.specification = some (.dict items) := by
    rw [plain_copy plain, isDict]
  have presentable : Presentable record :=
    { experimentId := healthy.experimentId, fingerprint := healthy.fingerprint
      parent := healthy.parent, specification := ⟨items, isCopy⟩, createdAt := healthy.createdAt
      sealedAt := healthy.sealedAt, isSealed := healthy.isSealed, evidence := healthy.evidence }
  rw [snapshotOf_presentable found presentable isCopy, ← isDict]

private theorem field_of {entry : Entry} {name : String} {value : PyValue}
    (found : Dict.get? entry (.str name) = some value) : field entry name = .ok value := by
  rw [field, found]

section

variable {records : Records} {entry : Entry} {id : String} {record : Record}

private theorem applyEntry_created {parent fingerprint specification createdAtUtc : PyValue}
    (isType : HasType entry entryCreated)
    (named : Dict.get? entry (.str "experiment_id") = some (.str id))
    (isNew : Dict.get? records (.str id) = Option.none)
    (isParent : Dict.get? entry (.str "parent_id") = some parent)
    (known : parentKnown records parent = .ok ())
    (isFingerprint : Dict.get? entry (.str "fingerprint") = some fingerprint)
    (isSpecification : Dict.get? entry (.str "specification") = some specification)
    (plain : Plain specification)
    (isTime : Dict.get? entry (.str "created_at_utc") = some createdAtUtc) :
    applyEntry records entry = .ok (Dict.set records (.str id)
      { experimentId := .str id, fingerprint, parentId := parent, specification, createdAtUtc
        isSealed := false, sealedAtUtc := .none, evidence := .none, evidenceFingerprint := .none
        lifecycleState := LifecycleState.initialState, governanceDecision := .none }) := by
  have isKey : Registry.key (.str id) = .ok (.str id) := rfl
  have unknown : guardLog (Dict.get? records (.str id)).isNone = .ok () := by rw [isNew]; rfl
  have applied : applyEntry records entry = applyCreated records entry := by
    rw [applyEntry, isType]
    rfl
  rw [applied, applyCreated, bind_of_ok (field_of named), bind_of_ok isKey, bind_of_ok unknown,
    isParent, Option.getD_some]
  dsimp only
  rw [bind_of_ok known, bind_of_ok (field_of isFingerprint), bind_of_ok (field_of isSpecification),
    bind_of_ok (copy_of (plain_copy plain)), bind_of_ok (field_of isTime)]
  rfl

variable (named : Dict.get? entry (.str "experiment_id") = some (.str id))
  (found : Dict.get? records (.str id) = some record)

include named found

private theorem applyEntry_sealed {sealedAtUtc : PyValue} (isType : HasType entry entrySealed)
    (notSealed : record.isSealed = false)
    (isTime : Dict.get? entry (.str "sealed_at_utc") = some sealedAtUtc) :
    applyEntry records entry =
      .ok (Dict.set records (.str id) { record with isSealed := true, sealedAtUtc }) := by
  have unsealed : guardLog (!record.isSealed) = .ok () := by rw [notSealed]; rfl
  have applied : applyEntry records entry = applySealed records entry := by
    rw [applyEntry, isType]
    rfl
  rw [applied, applySealed, bind_of_ok (knownRecord_of named found)]
  dsimp only
  rw [bind_of_ok unsealed, bind_of_ok (field_of isTime)]
  rfl

private theorem applyEntry_evidence {evidence evidenceFingerprint : PyValue}
    (isType : HasType entry entryEvidence) (isSealed : record.isSealed = true)
    (noEvidence : isNone record.evidence = true)
    (isEvidence : Dict.get? entry (.str "evidence") = some evidence) (plain : Plain evidence)
    (isFingerprint : Dict.get? entry (.str "evidence_fingerprint") = some evidenceFingerprint) :
    applyEntry records entry =
      .ok (Dict.set records (.str id) { record with evidence, evidenceFingerprint }) := by
  have applied : applyEntry records entry = applyEvidence records entry := by
    rw [applyEntry, isType]
    rfl
  rw [applied, applyEvidence, bind_of_ok (knownRecord_of named found)]
  dsimp only
  rw [bind_of_ok (guardLog_of isSealed), bind_of_ok (guardLog_of noEvidence),
    bind_of_ok (field_of isEvidence), bind_of_ok (copy_of (plain_copy plain)),
    bind_of_ok (field_of isFingerprint)]
  rfl

private theorem applyEntry_changed {toState : LifecycleState} (isType : HasType entry entryState)
    (isFrom : Dict.get? entry (.str "from_state") = some (.str record.lifecycleState.value))
    (isTo : Dict.get? entry (.str "to_state") = some (.str toState.value))
    (legal : LifecycleState.isLegalTransition record.lifecycleState toState = true)
    (decided : toState ∈ LifecycleState.governanceDecisionStates →
      isNone record.governanceDecision = false) :
    applyEntry records entry =
      .ok (Dict.set records (.str id) { record with lifecycleState := toState }) := by
  have accepted : (!(decide (toState ∈ LifecycleState.governanceDecisionStates) &&
      isNone record.governanceDecision)) = true := by
    by_cases gated : toState ∈ LifecycleState.governanceDecisionStates
    · rw [decided gated, Bool.and_false]
      rfl
    · rw [decide_eq_false gated]
      rfl
  have applied : applyEntry records entry = applyState records entry := by
    rw [applyEntry, isType]
    rfl
  rw [applied, applyState, bind_of_ok (knownRecord_of named found)]
  dsimp only
  rw [bind_of_ok (field_of isFrom), bind_of_ok (lifecycleState_of _), bind_of_ok (field_of isTo),
    bind_of_ok (lifecycleState_of _), bind_of_ok (guardLog_of (decide_eq_true rfl)),
    bind_of_ok (guardLog_of legal), bind_of_ok (guardLog_of accepted)]
  rfl

private theorem applyEntry_decided {decision : PyValue} (isType : HasType entry entryDecision)
    (inReview : record.lifecycleState = .inReview)
    (undecided : isNone record.governanceDecision = true)
    (isDecision : Dict.get? entry (.str "decision") = some decision) (plain : Plain decision) :
    applyEntry records entry =
      .ok (Dict.set records (.str id) { record with governanceDecision := decision }) := by
  have applied : applyEntry records entry = applyDecision records entry := by
    rw [applyEntry, isType]
    rfl
  rw [applied, applyDecision, bind_of_ok (knownRecord_of named found)]
  dsimp only
  rw [bind_of_ok (guardLog_of (decide_eq_true inReview)), bind_of_ok (guardLog_of undecided),
    bind_of_ok (field_of isDecision), bind_of_ok (copy_of (plain_copy plain))]
  rfl

end

structure Logged (entry image : Entry) : Prop where
  plain : Plain (.dict entry)
  unsealed : Dict.get? entry checksumKey = Option.none
  read : reread (.dict entry) = some (.dict image)

private theorem logged_of_plain {entry : Entry} (plain : Plain (.dict entry))
    (unsealed : Dict.get? entry checksumKey = Option.none) : ∃ image, Logged entry image := by
  obtain ⟨members, _, _, read⟩ := reread_dict plain
  exact ⟨_, plain, unsealed, read⟩

theorem Logged.get? {entry image : Entry} (logged : Logged entry image) {name : String}
    {value : PyValue} (found : Dict.get? entry (.str name) = some value) :
    Dict.get? image (.str name) = reread value := by
  rw [get?_reread logged.plain logged.read, found, Option.bind_some]

structure InStep (registry : ExperimentRegistry) : Prop where
  returns : registry.answers = []
  healthy : ∀ id record, Dict.get? registry.records id = some record → Healthy id record
  rebuilt : ∃ images rebuilt, List.Forall₂ Logged registry.storage images ∧
    replay images = .ok rebuilt ∧ AllImaged registry.records rebuilt

theorem inStep_start : InStep ExperimentRegistry.start :=
  { returns := rfl
    healthy := fun id record found => by cases found
    rebuilt := ⟨[], [], .nil, rfl, .nil⟩ }

variable {registry : ExperimentRegistry} {id : String} {record : Record}

theorem InStep.commit (inStep : InStep registry) {entry : Entry}
    (healthy : Healthy (.str id) record) (plain : Plain (.dict entry))
    (unsealed : Dict.get? entry checksumKey = Option.none)
    (accepted : ∀ rebuilt image, AllImaged registry.records rebuilt → Logged entry image →
      ∃ rebuiltRecord, Imaged record rebuiltRecord ∧
        applyEntry rebuilt image = .ok (Dict.set rebuilt (.str id) rebuiltRecord)) :
    InStep ((registry.stored entry).withRecord id record) := by
  obtain ⟨images, rebuilt, logged, replayed, imaged⟩ := inStep.rebuilt
  obtain ⟨image, isLogged⟩ := logged_of_plain plain unsealed
  obtain ⟨rebuiltRecord, pair, applied⟩ := accepted rebuilt image imaged isLogged
  constructor
  case returns =>
    change registry.answers.tail = []
    rw [inStep.returns]
    rfl
  case healthy =>
    intro other found isFound
    change Dict.get? (Dict.set registry.records (.str id) record) other = some found at isFound
    rw [Dict.get?_set] at isFound
    split at isFound
    · rename_i same
      cases isFound
      rw [same]
      exact healthy
    · exact inStep.healthy other found isFound
  case rebuilt =>
    refine ⟨images ++ [image], Dict.set rebuilt (.str id) rebuiltRecord, ?_, ?_, ?_⟩
    · exact List.rel_append logged (.cons isLogged .nil)
    · rw [replay_concat image replayed]
      exact applied
    · exact imaged.set _ pair

def settles (registry : ExperimentRegistry) : Post ExperimentRegistry RegistryError Record :=
  { returned := fun _ after => InStep after
    raised := fun _ after => after = registry
    crashed := fun _ => False }

section

variable {Value : Type} {registry : ExperimentRegistry} {post : Post ExperimentRegistry RegistryError Value}

theorem ends_bind_require {accepted : Bool} {error : RegistryError} {next : Unit → Registering Value}
    (refused : post.raised error registry)
    (rest : accepted = true → Ends (next ()) registry post) :
    Ends (require accepted error >>= next) registry post := by
  cases accepted with
  | false => exact refused
  | true => exact rest rfl

theorem ends_bind_find {next : Record → Registering Value}
    (refused : post.raised .experimentNotFound registry)
    (rest : ∀ record, Dict.get? registry.records (.str id) = some record →
      Ends (next record) registry post) : Ends (find id >>= next) registry post := by
  cases found : Dict.get? registry.records (.str id) with
  | none =>
      unfold Ends
      rw [bind_raised (show find id registry = (.raised .experimentNotFound, registry) by
        rw [find, found])]
      exact refused
  | some record => exact ends_bind_of_returned (find_of found) (rest record found)

end

theorem InStep.imaged (inStep : InStep registry) {id : PyKey}
    (found : Dict.get? registry.records id = some record) :
    ∃ rebuiltRecord, Imaged record rebuiltRecord := by
  obtain ⟨images, rebuilt, _, _, imaged⟩ := inStep.rebuilt
  rcases imaged.get? id with ⟨unknown, _⟩ | ⟨live, image, isLive, _, pair⟩
  · rw [found] at unknown
    cases unknown
  · rw [found] at isLive
    cases isLive
    exact ⟨image, pair⟩

variable {post : Post ExperimentRegistry RegistryError Record} {entry image : Entry}

private theorem ends_snapshot (inStep : InStep (registry.withRecord id record))
    (returned : post.returned record (registry.withRecord id record)) :
    Ends (snapshot id) (registry.withRecord id record) post := by
  have found : Dict.get? (registry.withRecord id record).records (.str id) = some record :=
    Dict.get?_set_self _ _ _
  obtain ⟨rebuiltRecord, pair⟩ := inStep.imaged found
  unfold Ends
  rw [snapshot_eq, snapshotOf_healthy found (inStep.healthy _ _ found) pair.specification.1]
  exact returned

theorem imaged_of_found {live rebuilt : Records} (imaged : AllImaged live rebuilt) {id : PyKey}
    (found : Dict.get? live id = some record) :
    ∃ image, Dict.get? rebuilt id = some image ∧ Imaged record image := by
  rcases imaged.get? id with ⟨unknown, _⟩ | ⟨live, image, isLive, isImage, pair⟩
  · rw [found] at unknown
    cases unknown
  · rw [found] at isLive
    cases isLive
    exact ⟨image, isImage, pair⟩

theorem Logged.text (logged : Logged entry image) {name text : String}
    (found : Dict.get? entry (.str name) = some (.str text)) :
    Dict.get? image (.str name) = some (.str text) :=
  logged.get? found

theorem Logged.value (logged : Logged entry image) {name : String} {value : PyValue}
    (found : Dict.get? entry (.str name) = some value) :
    ∃ read, Dict.get? image (.str name) = some read ∧ Image value read ∧ Plain read := by
  have plain : Plain value := ((plain_dict_iff.mp logged.plain).1 _ (Dict.mem_of_get? found)).2
  obtain ⟨tree, written⟩ := plain_toJson plain
  have isRead : reread value = some (ofJson tree) := by rw [reread, written]; rfl
  exact ⟨ofJson tree, (logged.get? found).trans isRead, ⟨plain, isRead⟩, plain_ofJson tree⟩

theorem InStep.append_returned (inStep : InStep registry) (entry : Entry) :
    storageAppend entry registry = (.returned (), registry.stored entry) :=
  storageAppend_returns (by rw [firstAnswer, inStep.returns]; rfl)

private theorem ends_commit (inStep : InStep registry) {entry : Entry}
    (committed : InStep ((registry.stored entry).withRecord id record))
    (returned : ∀ after, InStep after → post.returned record after) :
    Ends (storageAppend entry >>= fun _ => setRecord id record >>= fun _ => snapshot id) registry
      post := by
  apply ends_bind_of_returned (inStep.append_returned entry)
  apply ends_bind_of_returned (setRecord_run id record _)
  exact ends_snapshot committed (returned _ committed)

private theorem seal_settles (inStep : InStep registry) (id : String) (now : Time) :
    Ends (ExperimentRegistry.seal id now.text) registry (settles registry) := by
  unfold ExperimentRegistry.seal
  refine ends_bind_require rfl fun _ => ends_bind_find rfl fun record found => ?_
  refine ends_bind_require rfl fun notSealed => ?_
  have unsealed : record.isSealed = false := by simpa using notSealed
  have healthy := inStep.healthy _ record found
  have committed : InStep ((registry.stored [(.str "type", .str entrySealed),
      (.str "experiment_id", .str id), (.str "sealed_at_utc", .str now.text)]).withRecord id
        { record with isSealed := true, sealedAtUtc := .str now.text }) := by
    apply inStep.commit
    · exact { healthy with sealedAt := rfl, isSealed := rfl }
    · exact plain_dict_iff.mpr ⟨by simp [Plain], by simp⟩
    · rfl
    · intro rebuilt image imaged logged
      obtain ⟨rebuiltRecord, isRebuilt, pair⟩ := imaged_of_found imaged found
      refine ⟨_, ?_, applyEntry_sealed (logged.text rfl) isRebuilt (logged.text rfl) ?_
        (logged.text rfl)⟩
      · exact { pair with fields := by rw [pair.fields] }
      · rw [pair.fields]
        exact unsealed
  exact ends_commit inStep committed fun _ after => after

private theorem validateSpecification_ok {specification spec : PyValue}
    (valid : validateSpecification specification = .ok spec) :
    Plain spec ∧ isMapping spec = true := by
  unfold validateSpecification at valid
  split at valid
  · split at valid
    · rename_i copied
      cases valid
      obtain ⟨items, rfl⟩ := deepCopy_dict copied
      exact ⟨plain_deepCopy copied, rfl⟩
    · cases valid
  · cases valid

private theorem isBlank_of_fingerprint {spec : PyValue} {text : String}
    (computed : fingerprint spec = .ok text) : PyText.isBlank text = false := by
  unfold fingerprint at computed
  split at computed
  · rename_i canonical _
    cases computed
    exact hexdigest_not_blank _
  · cases computed

private theorem parentKnown_imaged {live rebuilt : Records} (imaged : AllImaged live rebuilt)
    {parentId : Option String}
    (known : (parentId.all fun parent => (Dict.get? live (.str parent)).isSome) = true) :
    parentKnown rebuilt (optionalStr parentId) = .ok () := by
  cases parentId with
  | none => rfl
  | some parent =>
      obtain ⟨record, found⟩ := Option.isSome_iff_exists.mp known
      obtain ⟨image, isImage, _⟩ := imaged_of_found imaged found
      have isKey : Registry.key (.str parent) = .ok (.str parent) := rfl
      unfold parentKnown
      rw [optionalStr, show isNone (.str parent) = false from rfl, if_neg Bool.false_ne_true,
        bind_of_ok isKey, isImage]
      rfl

theorem create_settles (inStep : InStep registry) (id : String) (specification : PyValue)
    (parentId : Option String) (now : Time) :
    Ends (create id specification parentId now.text) registry (settles registry) := by
  unfold create
  refine ends_bind_require rfl fun nonBlank => ends_bind_ofExcept (fun _ => rfl) fun spec valid => ?_
  refine ends_bind_require rfl fun parentText => ends_bind_get ?_
  refine ends_bind_require rfl fun isNew => ends_bind_require rfl fun known => ?_
  refine ends_bind_ofExcept (fun _ => rfl) fun text computed => ?_
  dsimp only
  obtain ⟨plain, mapping⟩ := validateSpecification_ok valid
  have parentPlain : Plain (optionalStr parentId) := by
    cases parentId with
    | none => trivial
    | some parent => rfl
  have parentShape : (isNone (optionalStr parentId) ||
      isText (optionalStr parentId)) = true := by
    cases parentId with
    | none => rfl
    | some parent => simpa [optionalStr, isNone, isText] using parentText
  have committed : InStep ((registry.stored
      [(.str "type", .str entryCreated), (.str "experiment_id", .str id),
        (.str "fingerprint", .str text), (.str "parent_id", optionalStr parentId),
        (.str "specification", spec), (.str "created_at_utc", .str now.text)]).withRecord id
      { experimentId := .str id, fingerprint := .str text
        parentId := optionalStr parentId
        specification := spec, createdAtUtc := .str now.text, isSealed := false, sealedAtUtc := .none
        evidence := .none, evidenceFingerprint := .none
        lifecycleState := LifecycleState.initialState, governanceDecision := .none }) := by
    apply inStep.commit
    · exact
        { named := ⟨id, rfl, rfl, by simpa using nonBlank⟩
          fingerprint := by
            rw [isText, PyStr.isBlank_scalars, isBlank_of_fingerprint computed]
            rfl
          parent := parentShape
          mapping
          createdAt := by
            rw [isText, PyStr.isBlank_scalars, now.nonBlank]
            rfl
          sealedAt := rfl
          isSealed := rfl
          evidence := rfl }
    · exact plain_dict_iff.mpr ⟨by simp [Plain, plain, parentPlain], by simp⟩
    · rfl
    · intro rebuilt image imaged logged
      have unknown : Dict.get? rebuilt (.str id) = Option.none := by
        rcases imaged.get? (.str id) with ⟨_, unknown⟩ | ⟨live, _, isLive, _, _⟩
        · exact unknown
        · rw [isLive] at isNew
          cases isNew
      have parent : Dict.get? image (.str "parent_id") =
          some (optionalStr parentId) := by
        cases parentId with
        | none => exact logged.get? (show Dict.get? _ (PyKey.str "parent_id") = some .none from rfl)
        | some parent => exact logged.text rfl
      obtain ⟨read, isRead, isImage, readPlain⟩ :=
        logged.value (show Dict.get? _ (PyKey.str "specification") = some spec from rfl)
      refine ⟨_, ?_, applyEntry_created (logged.text rfl) (logged.text rfl) unknown parent
        (parentKnown_imaged imaged known) (logged.text rfl) isRead readPlain (logged.text rfl)⟩
      exact { fields := rfl, specification := isImage, evidence := image_none
              governanceDecision := image_none }
  exact ends_commit inStep committed fun _ after => after

theorem attachEvidence_settles (inStep : InStep registry) (id : String) (evidence : PyDict)
    (evidenceFingerprint : String) :
    Ends (attachEvidence id evidence evidenceFingerprint) registry (settles registry) := by
  unfold attachEvidence
  apply ends_bind_require rfl
  intro _
  apply ends_bind_require rfl
  intro visible
  apply ends_bind_ofExcept fun _ => rfl
  intro _ _
  apply ends_bind_find rfl
  intro record found
  apply ends_bind_require rfl
  intro isSealed
  apply ends_bind_require rfl
  intro noEvidence
  apply ends_bind_ofExcept fun _ => rfl
  intro evidenceDict copied
  have plain : Plain evidenceDict := by
    unfold copy at copied
    split at copied
    · rename_i isCopy
      cases copied
      exact plain_deepCopy isCopy
    · cases copied
  have committed : InStep ((registry.stored [(.str "type", .str entryEvidence),
      (.str "experiment_id", .str id), (.str "evidence", evidenceDict),
      (.str "evidence_fingerprint", .str evidenceFingerprint)]).withRecord id
        { record with evidence := evidenceDict
                      evidenceFingerprint := .str evidenceFingerprint }) := by
    have healthy := inStep.healthy _ record found
    apply inStep.commit
    · exact { healthy with evidence := by simpa [isNone, isText] using visible }
    · exact plain_dict_iff.mpr ⟨by simp [Plain, plain], by simp⟩
    · rfl
    · intro rebuilt image imaged logged
      obtain ⟨rebuiltRecord, isRebuilt, pair⟩ := imaged_of_found imaged found
      obtain ⟨read, isRead, isImage, readPlain⟩ :=
        logged.value (show Dict.get? _ (PyKey.str "evidence") = some evidenceDict from rfl)
      refine ⟨_, ?_, applyEntry_evidence (logged.text rfl) isRebuilt (logged.text rfl) ?_ ?_ isRead
        readPlain (logged.text rfl)⟩
      · exact { pair with fields := by rw [pair.fields], evidence := isImage }
      · rw [pair.fields]
        exact isSealed
      · rw [← pair.evidence.isNone]
        exact noEvidence
  apply ends_bind_of_returned (inStep.append_returned _)
  apply ends_bind_of_returned (ofExcept_ok (copy_of (plain_copy plain)) _)
  apply ends_bind_of_returned (setRecord_run id _ _)
  exact ends_snapshot committed committed

private theorem ends_transition (inStep : InStep registry) {toState : LifecycleState} (now : String)
    (found : Dict.get? registry.records (.str id) = some record)
    (legal : LifecycleState.isLegalTransition record.lifecycleState toState = true)
    (decided : toState ∈ LifecycleState.governanceDecisionStates →
      isNone record.governanceDecision = false)
    (returned : ∀ after, InStep after → post.returned { record with lifecycleState := toState } after) :
    Ends (storageAppend (stateEntry record.experimentId record.lifecycleState toState now) >>=
      fun _ => setRecord id { record with lifecycleState := toState } >>= fun _ => snapshot id)
      registry post := by
  have healthy := inStep.healthy _ record found
  have sameId : record.experimentId = .str id := by
    obtain ⟨text, same, isId, _⟩ := healthy.named
    cases same
    exact isId
  have entry : stateEntry record.experimentId record.lifecycleState toState now =
      stateEntry (.str id) record.lifecycleState toState now := by rw [sameId]
  rw [entry]
  have committed : InStep ((registry.stored
      (stateEntry (.str id) record.lifecycleState toState now)).withRecord id
        { record with lifecycleState := toState }) := by
    apply inStep.commit
    · exact { healthy with }
    · exact plain_dict_iff.mpr ⟨by simp [stateEntry, Plain], by simp [stateEntry]⟩
    · rfl
    · intro rebuilt image imaged logged
      obtain ⟨rebuiltRecord, isRebuilt, pair⟩ := imaged_of_found imaged found
      have sameState : rebuiltRecord.lifecycleState = record.lifecycleState := by rw [pair.fields]
      refine ⟨_, ?_, applyEntry_changed (logged.text rfl) isRebuilt (logged.text rfl) ?_
        (logged.text rfl) ?_ ?_⟩
      · exact { pair with fields := by rw [pair.fields] }
      · rw [sameState]
        exact logged.text rfl
      · rw [sameState]
        exact legal
      · rw [← pair.governanceDecision.isNone]
        exact decided
  exact ends_commit inStep committed returned

theorem transition_settles (inStep : InStep registry) (id : String) (toState : LifecycleState)
    (now : Time) : Ends (transition id toState now.text) registry (settles registry) := by
  unfold transition
  apply ends_bind_find rfl
  intro record found
  apply ends_bind_require rfl
  intro notGated
  unfold transitionLocked
  apply ends_bind_require rfl
  intro legal
  apply ends_bind_require rfl
  intro _
  apply ends_transition inStep now.text found legal
  · intro gated
    rw [decide_eq_true gated] at notGated
    cases notGated
  · exact fun _ after => after

private theorem applyGovernanceDecision_settles (inStep : InStep registry) (id : String)
    (decision : PyDict)
    (toState : LifecycleState) (now : Time) :
    Ends (applyGovernanceDecision id decision toState now.text) registry (settles registry) := by
  unfold applyGovernanceDecision
  apply ends_bind_require rfl
  intro gated
  apply ends_bind_ofExcept fun _ => rfl
  intro _ valid
  apply ends_bind_find rfl
  intro record found
  apply ends_bind_require rfl
  intro isInReview
  apply ends_bind_require rfl
  intro undecided
  have gatedState := of_decide_eq_true gated
  have inReview : record.lifecycleState = .inReview := of_decide_eq_true isInReview
  obtain ⟨dict, _, copied, _, _, _⟩ := recordedDecision_of_valid valid
  have present : isNone dict = false := by
    obtain ⟨items, rfl⟩ := deepCopy_dict copied
    rfl
  have plain := plain_deepCopy copied
  apply ends_bind_of_returned (ofExcept_ok (copy_of copied) _)
  have healthy := inStep.healthy _ record found
  have decided : InStep ((registry.stored (decisionEntry id dict)).withRecord id
      { record with governanceDecision := dict }) := by
    apply inStep.commit
    · exact { healthy with }
    · exact plain_dict_iff.mpr ⟨by simp [decisionEntry, Plain, plain], by simp [decisionEntry]⟩
    · rfl
    · intro rebuilt image imaged logged
      obtain ⟨rebuiltRecord, isRebuilt, pair⟩ := imaged_of_found imaged found
      obtain ⟨read, isRead, isImage, readPlain⟩ :=
        logged.value (show Dict.get? _ (PyKey.str "decision") = some dict from rfl)
      refine ⟨_, ?_, applyEntry_decided (logged.text rfl) isRebuilt (logged.text rfl) ?_ ?_ isRead
        readPlain⟩
      · exact { pair with fields := by rw [pair.fields], governanceDecision := isImage }
      · rw [pair.fields]
        exact inReview
      · rw [← pair.governanceDecision.isNone]
        exact undecided
  apply ends_bind_of_returned (inStep.append_returned _)
  apply ends_bind_of_returned (ofExcept_ok (copy_of (plain_copy plain)) _)
  apply ends_bind_of_returned (setRecord_run id _ _)
  -- behind the first entry nothing refuses the second
  have legal : LifecycleState.isLegalTransition record.lifecycleState toState = true :=
    (LifecycleState.inReview_of_governance gatedState).mpr inReview
  have unguarded : (!(decide (toState = .evidenceSealed) && isNone record.evidence)) = true := by
    have different : toState ≠ .evidenceSealed := by
      rintro rfl
      exact absurd gatedState (by decide)
    rw [decide_eq_false different]
    rfl
  unfold transitionLocked
  apply ends_bind_of_returned (require_of _ _ legal)
  apply ends_bind_of_returned (require_of _ _ unguarded)
  apply ends_transition decided now.text (Dict.get?_set_self _ _ _) legal (fun _ => present)
  exact fun _ after => after

theorem Mutation.settles (mutation : Mutation) (inStep : InStep registry) (now : Time) :
    Ends (mutation.operation now) registry (settles registry) := by
  cases mutation with
  | create id specification parentId => exact create_settles inStep id specification parentId now
  | «seal» id => exact seal_settles inStep id now
  | attachEvidence id evidence fingerprint => exact attachEvidence_settles inStep id evidence fingerprint
  | transition id toState => exact transition_settles inStep id toState now
  | applyGovernanceDecision id decision toState =>
      exact applyGovernanceDecision_settles inStep id decision toState now

theorem InStep.call (inStep : InStep registry) (mutation : Time × Mutation) :
    InStep (registry.call mutation) := by
  have ends := mutation.2.settles inStep mutation.1
  unfold Ends at ends
  unfold ExperimentRegistry.call
  rcases ran : mutation.2.operation mutation.1 registry with ⟨outcome, after⟩
  rw [ran] at ends
  cases outcome with
  | returned record => exact ends
  | raised error =>
      change after = registry at ends
      rw [ends]
      exact inStep
  | crashed => exact ends.elim

theorem inStep_run (mutations : List (Time × Mutation)) (inStep : InStep registry) :
    InStep (registry.run mutations) := by
  induction mutations generalizing registry with
  | nil => exact inStep
  | cons mutation mutations ih => exact ih (inStep.call mutation)

/-- The calls of `append` that wrote the storage, none of them interrupted. -/
def appends (storage : List Entry) : List Call :=
  storage.map fun entry => { entry, answers := [] }

theorem Logged.payload (logged : Logged entry image) :
    ∃ line, Registry.payload entry = some line := by
  obtain ⟨tree, written⟩ := plain_toJson logged.plain
  have summed : ∃ checksum, entryChecksum entry = some checksum := by
    rw [entryChecksum, dumpsText, written]
    exact ⟨_, rfl⟩
  obtain ⟨checksum, summed⟩ := summed
  have sealedPlain : Plain (.dict (checksummed entry checksum)) := by
    obtain ⟨values, distinct⟩ := plain_dict_iff.mp logged.plain
    apply plain_dict_iff.mpr
    constructor
    · intro item member
      rw [checksummed, Dict.set_of_get?_eq_none logged.unsealed] at member
      rcases List.mem_append.mp member with old | new
      · exact values item old
      · rw [List.mem_singleton.mp new]
        exact ⟨⟨"_checksum", rfl⟩, rfl⟩
    · exact Dict.nodup_keys_set distinct _ _
  obtain ⟨whole, wholeWritten⟩ := plain_toJson sealedPlain
  refine ⟨Json.printWith [' '] whole ++ ['\n'], ?_⟩
  rw [Registry.payload, summed, Option.bind_some, dumpsText, wholeWritten]
  rfl

theorem Logged.storable (logged : Logged entry image) : Storable entry :=
  storable_of_textKeyed (plain_textKeyed logged.plain) logged.unsealed

private theorem writeFull_whole {text file : Text} :
    writeFull text.length text { file, answers := [] } =
      (.returned (), { file := file ++ text, answers := [] }) := by
  cases text with
  | nil => rw [List.append_nil]; rfl
  | cons c rest =>
      rw [List.length_cons, writeFull, if_neg (List.cons_ne_nil _ _)]
      rw [bind_returned (show systemCall .os { file, answers := [] } = (.returned none, _) from rfl)]
      simp only [Option.getD_none, Nat.min_self, List.length_cons, Nat.add_one_ne_zero, if_false]
      rw [bind_returned (show writeText _ { file, answers := [] } = (.returned (), _) from rfl)]
      have nothing : (c :: rest).drop (rest.length + 1) = [] := by simp
      have whole : (c :: rest).take (rest.length + 1) = c :: rest := by simp
      rw [nothing, whole]
      cases rest with
      | nil => rfl
      | cons d rest => rfl

private theorem perform_whole {entry : Entry} {line : Text} (written : payload entry = some line)
    (file : Text) :
    (perform file { entry, answers := [] }).Acknowledged ∧
      (perform file { entry, answers := [] }).after = file ++ line := by
  have ran : append entry { file, answers := [] } =
      (.returned (), { file := file ++ line, answers := [] }) := by
    unfold append
    rw [written]
    dsimp only
    rw [bind_returned (show systemCall .os { file, answers := [] } = (.returned none, _) from rfl)]
    have cleaned : (do let _done ← systemCall .os : Storing Unit)
        { file := file ++ line, answers := [] } =
          (.returned (), { file := file ++ line, answers := [] }) := rfl
    refine tryFinally_returned ?_ cleaned
    rw [bind_returned (show systemCall .registryLock { file, answers := [] } =
      (.returned none, _) from rfl)]
    refine tryFinally_returned ?_ cleaned
    rw [bind_returned writeFull_whole]
    rfl
  unfold Attempt.Acknowledged perform
  dsimp only
  rw [ran]
  exact ⟨rfl, rfl⟩

theorem readAll_appends {storage images : List Entry} (logged : List.Forall₂ Logged storage images)
    (stored : List Stored) :
    readAll (finalFile (lines stored) (appends storage)) =
        .ok (stored.map Stored.record ++ images.map PyValue.dict) ∧
      ∀ attempt ∈ attempts (lines stored) (appends storage), attempt.Acknowledged := by
  induction logged generalizing stored with
  | nil => exact ⟨by rw [appends, List.map_nil, finalFile, readAll_lines, List.map_nil, List.append_nil],
      by simp [appends, attempts]⟩
  | @cons entry image storage images isLogged _ ih =>
      obtain ⟨line, written⟩ := isLogged.payload
      obtain ⟨one, rfl, isRecord⟩ := payload_storable isLogged.storable written
      have sameRecord : one.record = .dict image :=
        Option.some.inj (isRecord.symm.trans isLogged.read)
      obtain ⟨returned, added⟩ := perform_whole written (lines stored)
      rw [← lines_concat] at added
      obtain ⟨read, rest⟩ := ih (stored ++ [one])
      constructor
      · change readAll (finalFile (perform (lines stored) { entry, answers := [] }).after
          (appends storage)) = _
        rw [added, read, List.map_append, List.map_singleton, sameRecord, List.append_assoc]
        rfl
      · change ∀ attempt ∈ perform (lines stored) { entry, answers := [] } ::
          attempts (perform (lines stored) { entry, answers := [] }).after (appends storage),
            attempt.Acknowledged
        rw [added]
        exact List.forall_mem_cons.mpr ⟨returned, rest⟩

/-- Every run of calls: a call that refuses leaves the registry as it is, and a registry
that is rebuilt from the file is accepted and answers every query as the live one does. -/
theorem run_rebuilt (mutations : List (Time × Mutation)) :
    (∀ (now : Time) (mutation : Mutation),
      Ends (mutation.operation now) (ExperimentRegistry.start.run mutations)
        { returned := fun _ _ => True
          raised := fun _ after => after = ExperimentRegistry.start.run mutations
          crashed := fun _ => False }) ∧
      ∃ images rebuilt,
        (∀ attempt ∈ attempts [] (appends (ExperimentRegistry.start.run mutations).storage),
          attempt.Acknowledged) ∧
        readAll (finalFile [] (appends (ExperimentRegistry.start.run mutations).storage)) =
          .ok (images.map PyValue.dict) ∧
        replay images = .ok rebuilt ∧
        SameAnswers (ExperimentRegistry.start.run mutations).records rebuilt := by
  have inStep := inStep_run mutations inStep_start
  constructor
  · intro now mutation
    apply (mutation.settles inStep now).mono
    · exact fun _ _ _ => trivial
    · exact fun _ _ unchanged => unchanged
    · exact fun _ impossible => impossible
  · obtain ⟨images, rebuilt, logged, replayed, imaged⟩ := inStep.rebuilt
    obtain ⟨read, acknowledged⟩ := readAll_appends logged []
    exact ⟨images, rebuilt, acknowledged, read, replayed, sameAnswers_of_imaged imaged⟩

end TurtleExecution.Registry

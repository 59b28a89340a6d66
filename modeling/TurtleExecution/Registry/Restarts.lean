/-
A registry across restarts of the process.

The next process constructs its registry over the file that the last one has written.  Its
records are images of those before, and an image is its own image, so that later restarts
change nothing more.
-/

import TurtleExecution.Foundation.PyEquality
import TurtleExecution.Registry.Lineage

set_option autoImplicit false

namespace TurtleExecution.Registry

open PyValue Process ExperimentRegistry

def asEntry : PyValue → Except RegistryError Entry
  | .dict entry => .ok entry
  | _ => .error .typeError

def openFile (file : Text) : Except RegistryError Records :=
  match readAll file with
  | .error _ => .error .malformedRegistryLog
  | .ok values => do
      let entries ← values.mapM asEntry
      replay entries

def ExperimentRegistry.restart (registry : ExperimentRegistry) :
    Except RegistryError ExperimentRegistry := do
  let records ← openFile (finalFile [] (appends registry.storage))
  return { registry with records }

/-- A call, or the end of the process and the start of the next one. -/
inductive Event
  | called (now : Time) (mutation : Mutation)
  | restarted

def ExperimentRegistry.happen (registry : ExperimentRegistry) :
    Event → Except RegistryError ExperimentRegistry
  | .called now mutation => .ok (registry.call (now, mutation))
  | .restarted => registry.restart

def ExperimentRegistry.live (registry : ExperimentRegistry) :
    List Event → Except RegistryError ExperimentRegistry
  | [] => .ok registry
  | event :: events => do
      let next ← registry.happen event
      next.live events

def Event.At (stamped : String → Prop) : Event → Prop
  | .called now _ => stamped now.text
  | .restarted => True

theorem live_append (registry : ExperimentRegistry) (first second : List Event) :
    registry.live (first ++ second) =
      (registry.live first).bind fun between => between.live second := by
  induction first generalizing registry with
  | nil => rfl
  | cons event first ih =>
      rw [List.cons_append, live, live]
      cases happened : registry.happen event with
      | error error => rfl
      | ok next => exact ih next

theorem Image.again {value image : PyValue} (isImage : Image value image) : Image image image :=
  ⟨plain_reread isImage.2, reread_reread isImage.1 isImage.2⟩

theorem Imaged.again {live rebuilt : Record} (imaged : Imaged live rebuilt) :
    Imaged rebuilt rebuilt :=
  { fields := rfl
    specification := imaged.specification.again
    evidence := imaged.evidence.again
    governanceDecision := imaged.governanceDecision.again }

private theorem allImaged_again {live rebuilt : Records} (imaged : AllImaged live rebuilt) :
    AllImaged rebuilt rebuilt := by
  induction imaged with
  | nil => exact .nil
  | cons pair _ ih => exact .cons ⟨rfl, pair.2.again⟩ ih

theorem Imaged.healthy {live rebuilt : Record} {id : PyKey} (imaged : Imaged live rebuilt)
    (healthy : Healthy id live) : Healthy id rebuilt := by
  have mapping := imaged.specification.isMapping
  rw [healthy.mapping] at mapping
  rw [imaged.fields]
  exact { healthy with mapping := mapping.symm }

theorem live_of_found {live rebuilt : Records} (imaged : AllImaged live rebuilt) {id : PyKey}
    {image : Record} (found : Dict.get? rebuilt id = some image) :
    ∃ record, Dict.get? live id = some record ∧ Imaged record image := by
  rcases imaged.get? id with ⟨_, unknown⟩ | ⟨record, other, isLive, isImage, pair⟩
  · rw [found] at unknown
    cases unknown
  · rw [found] at isImage
    cases isImage
    exact ⟨record, isLive, pair⟩

private theorem mapM_asEntry (entries : List Entry) :
    (entries.map PyValue.dict).mapM asEntry = .ok entries := by
  apply mapM_ok.mpr
  induction entries with
  | nil => exact .nil
  | cons entry entries ih => exact .cons rfl ih

theorem InStep.restart {registry : ExperimentRegistry} (inStep : InStep registry) :
    ∃ rebuilt, registry.restart = .ok { registry with records := rebuilt } ∧
      AllImaged registry.records rebuilt ∧ InStep { registry with records := rebuilt } := by
  obtain ⟨images, rebuilt, logged, replayed, imaged⟩ := inStep.rebuilt
  have opened : openFile (finalFile [] (appends registry.storage)) = .ok rebuilt := by
    have read : readAll (finalFile [] (appends registry.storage)) =
        .ok (images.map PyValue.dict) := (readAll_appends logged []).1
    rw [openFile, read]
    exact (bind_of_ok (mapM_asEntry images)).trans replayed
  refine ⟨rebuilt, bind_of_ok opened, imaged, ?_⟩
  constructor
  case returns => exact inStep.returns
  case healthy =>
    intro id image found
    obtain ⟨record, isLive, pair⟩ := live_of_found imaged found
    exact pair.healthy (inStep.healthy id record isLive)
  case rebuilt => exact ⟨images, rebuilt, logged, replayed, allImaged_again imaged⟩

theorem KeptBySets.and {now : String} {holds others : Records → Prop} (left : KeptBySets now holds)
    (right : KeptBySets now others) :
    KeptBySets now fun records => holds records ∧ others records :=
  { replace := fun both found continues =>
      ⟨left.replace both.1 found continues, right.replace both.2 found continues⟩
    add := fun both begins => ⟨left.add both.1 begins, right.add both.2 begins⟩ }

section

variable {stamped : String → Prop} {holds : Records → Prop}
  (sets : ∀ now, stamped now → KeptBySets now holds)
  (images : ∀ {live rebuilt : Records}, AllImaged live rebuilt → holds live → holds rebuilt)

include sets images

private theorem happen_keeps {registry : ExperimentRegistry} (inStep : InStep registry)
    (kept : holds registry.records) {event : Event} (time : event.At stamped) :
    ∃ next, registry.happen event = .ok next ∧ InStep next ∧ holds next.records := by
  cases event with
  | called now mutation =>
      exact ⟨_, rfl, inStep.call (now, mutation), call_keeps (sets now.text time) kept⟩
  | restarted =>
      obtain ⟨rebuilt, restarted, imaged, inStepAgain⟩ := inStep.restart
      exact ⟨_, restarted, inStepAgain, images imaged kept⟩

theorem live_keeps {events : List Event} (times : ∀ event ∈ events, event.At stamped)
    {registry : ExperimentRegistry} (inStep : InStep registry) (kept : holds registry.records) :
    ∃ last, registry.live events = .ok last ∧ InStep last ∧ holds last.records := by
  induction events generalizing registry with
  | nil => exact ⟨registry, rfl, inStep, kept⟩
  | cons event events ih =>
      obtain ⟨time, later⟩ := List.forall_mem_cons.mp times
      obtain ⟨next, happened, inStepNext, keptNext⟩ := happen_keeps sets images inStep kept time
      obtain ⟨last, lived, inStepLast, keptLast⟩ := ih later inStepNext keptNext
      exact ⟨last, (bind_of_ok happened).trans lived, inStepLast, keptLast⟩

end

section

variable {registry : ExperimentRegistry} (inStep : InStep registry)

include inStep

theorem InStep.shown {id : PyKey} {record : Record}
    (found : Dict.get? registry.records id = some record) :
    snapshotOf registry.records id = .ok record := by
  obtain ⟨image, pair⟩ := inStep.imaged found
  exact snapshotOf_healthy found (inStep.healthy _ _ found) pair.specification.1

theorem InStep.snapshots {ids : List PyKey}
    (known : ∀ id ∈ ids, ∃ record, Dict.get? registry.records id = some record) :
    ∃ records, snapshotsOf registry.records ids = .ok records ∧
      ∀ record, record ∈ records ↔ ∃ id ∈ ids, Dict.get? registry.records id = some record := by
  induction ids with
  | nil => exact ⟨[], rfl, by simp⟩
  | cons id ids ih =>
      obtain ⟨⟨record, found⟩, rest⟩ := List.forall_mem_cons.mp known
      obtain ⟨others, areShown, areKnown⟩ := ih rest
      refine ⟨record :: others, (bind_of_ok (inStep.shown found)).trans (bind_of_ok areShown), ?_⟩
      intro shown
      rw [List.mem_cons, areKnown, List.exists_mem_cons_iff, found, Option.some.injEq, eq_comm]

theorem InStep.sortable {id : PyKey} {record : Record}
    (found : Dict.get? registry.records id = some record) :
    (sortKey? registry.records id).isSome = true := by
  have healthy := inStep.healthy id record found
  obtain ⟨text, rfl, _, _⟩ := healthy.named
  have isTime := healthy.createdAt
  unfold sortKey?
  rw [found, Option.map_some]
  cases time : record.createdAtUtc with
  | str createdAt => rfl
  | _ =>
      rw [time] at isTime
      cases isTime

theorem InStep.nodup : (Dict.keys registry.records).Nodup := by
  obtain ⟨images, rebuilt, _, replayed, imaged⟩ := inStep.rebuilt
  rw [imaged.keys_eq]
  exact (replay_lineage replayed).nodup

theorem InStep.queried (accepts : PyKey → Record → Bool) :
    ∃ records, recordsWhere registry.records accepts = .ok records ∧
      ∀ record, record ∈ records ↔
        ∃ id, Dict.get? registry.records id = some record ∧ accepts id record = true := by
  have accepted : ∀ id, id ∈ (registry.records.filter fun item => accepts item.1 item.2).map
      Prod.fst ↔ ∃ record, Dict.get? registry.records id = some record ∧ accepts id record = true := by
    intro id
    constructor
    · intro member
      obtain ⟨item, isItem, rfl⟩ := List.mem_map.mp member
      obtain ⟨isThere, holds⟩ := List.mem_filter.mp isItem
      exact ⟨item.2, Dict.get?_of_mem inStep.nodup isThere, holds⟩
    · rintro ⟨record, found, holds⟩
      exact List.mem_map.mpr ⟨(id, record), List.mem_filter.mpr ⟨Dict.mem_of_get? found, holds⟩, rfl⟩
  have sorted : ∃ ids, idsWhere registry.records accepts = .ok ids :=
    ⟨_, if_pos (Or.inr fun id member => inStep.sortable ((accepted id).mp member).choose_spec.1)⟩
  obtain ⟨ids, isSorted⟩ := sorted
  have perm := sortedIds_perm isSorted
  obtain ⟨records, areShown, areKnown⟩ := inStep.snapshots fun id member =>
    ((accepted id).mp (perm.mem_iff.mp member)).imp fun _ => And.left
  refine ⟨records, (bind_of_ok isSorted).trans areShown, fun record => (areKnown record).trans ?_⟩
  constructor
  · rintro ⟨id, member, found⟩
    obtain ⟨other, isOther, holds⟩ := (accepted id).mp (perm.mem_iff.mp member)
    rw [found] at isOther
    cases isOther
    exact ⟨id, found, holds⟩
  · rintro ⟨id, found, holds⟩
    exact ⟨id, perm.mem_iff.mpr ((accepted id).mpr ⟨record, found, holds⟩), found⟩

end

def AllStamped (stamped : String → Prop) (records : Records) : Prop :=
  ∀ id record, Dict.get? records id = some record →
    ∃ text : String, record.createdAtUtc = .str text ∧ stamped text

theorem AllStamped.set {stamped : String → Prop} {records : Records}
    (allStamped : AllStamped stamped records) (id : PyKey) {record : Record} {text : String}
    (isTime : record.createdAtUtc = .str text) (time : stamped text) :
    AllStamped stamped (Dict.set records id record) := by
  intro other found isFound
  rw [Dict.get?_set] at isFound
  split at isFound
  · cases isFound
    exact ⟨text, isTime, time⟩
  · exact allStamped other found isFound

theorem sets_allStamped {stamped : String → Prop} {now : String} (time : stamped now) :
    KeptBySets now (AllStamped stamped) := by
  constructor
  case replace =>
    intro records id old record allStamped found continues
    obtain ⟨text, isTime, isStamped⟩ := allStamped id old found
    exact allStamped.set id (continues.createdAtUtc.trans isTime) isStamped
  case add =>
    intro records id record allStamped begins
    exact allStamped.set _ begins.createdAtUtc time

theorem allStamped_imaged {stamped : String → Prop} {live rebuilt : Records}
    (imaged : AllImaged live rebuilt) (allStamped : AllStamped stamped live) :
    AllStamped stamped rebuilt := by
  intro id image found
  obtain ⟨record, isLive, pair⟩ := live_of_found imaged found
  obtain ⟨text, isTime, isStamped⟩ := allStamped id record isLive
  exact ⟨text, by rw [pair.fields]; exact isTime, isStamped⟩

private theorem sets_known {holds : Record → Prop}
    (continued : ∀ {old record}, Continues old record → holds old → holds record) (id now : String) :
    KeptBySets now fun records =>
      ∃ record, Dict.get? records (.str id) = some record ∧ holds record := by
  constructor
  case replace =>
    rintro records key old record ⟨known, isKnown, kept⟩ found continues
    by_cases same : key = .str id
    · subst same
      rw [found] at isKnown
      cases isKnown
      exact ⟨record, Dict.get?_set_self _ _ _, continued continues kept⟩
    · refine ⟨known, ?_, kept⟩
      rw [Dict.get?_set_of_ne _ _ (Ne.symm same)]
      exact isKnown
  case add =>
    rintro records other record ⟨known, isKnown, kept⟩ begins
    refine ⟨known, ?_, kept⟩
    have different : PyKey.str id ≠ .str other := by
      intro same
      rw [same, begins.isNew] at isKnown
      cases isKnown
    rw [Dict.get?_set_of_ne _ _ different]
    exact isKnown

def Among (id : String) (states : List LifecycleState) (records : Records) : Prop :=
  ∃ record, Dict.get? records (.str id) = some record ∧ record.lifecycleState ∈ states

theorem sets_among {states : List LifecycleState}
    (closed : ∀ state ∈ states, ∀ next, LifecycleState.isLegalTransition state next = true →
      next ∈ states) (id now : String) : KeptBySets now (Among id states) :=
  sets_known (fun continues inStates => continues.moved.elim (fun same => by rwa [same])
    (closed _ inStates _)) id now

theorem among_imaged {id : String} {states : List LifecycleState} {live rebuilt : Records}
    (imaged : AllImaged live rebuilt) (among : Among id states live) : Among id states rebuilt := by
  obtain ⟨record, found, inStates⟩ := among
  obtain ⟨image, isImage, pair⟩ := imaged_of_found imaged found
  exact ⟨image, isImage, by rw [pair.fields]; exact inStates⟩

/-- The experiment is known, with the copy or its image for a specification. -/
def Specified (id : String) (copied : PyValue) (records : Records) : Prop :=
  ∃ record, Dict.get? records (.str id) = some record ∧ CopyOrImage copied record.specification

theorem sets_specified (id : String) (copied : PyValue) (now : String) :
    KeptBySets now (Specified id copied) :=
  sets_known (fun continues isKept => by rw [continues.specification]; exact isKept) id now

theorem specified_imaged {id : String} {copied : PyValue} (plain : Plain copied)
    {live rebuilt : Records} (imaged : AllImaged live rebuilt)
    (specified : Specified id copied live) : Specified id copied rebuilt := by
  obtain ⟨record, found, isKept⟩ := specified
  obtain ⟨image, isImage, pair⟩ := imaged_of_found imaged found
  exact ⟨image, isImage, isKept.image plain pair.specification.2⟩

private theorem deepCopy_of_validateSpecification {specification copied : PyValue}
    (valid : validateSpecification specification = .ok copied) :
    deepCopy specification = some copied := by
  unfold validateSpecification at valid
  split at valid
  · split at valid
    · rename_i isCopy
      cases valid
      exact isCopy
    · cases valid
  · cases valid

private theorem ends_set_specified (registry : ExperimentRegistry) (id : String) (record : Record) :
    Ends (setRecord id record >>= fun _ => snapshot id) registry
      (keeps (Specified id record.specification)) :=
  ends_set_keeps ⟨record, Dict.get?_set_self _ _ _, Or.inl rfl⟩

variable {registry : ExperimentRegistry}

private theorem create_specified (inStep : InStep registry) (id : String) (specification : PyValue)
    (parentId : Option String) (now : Time) :
    Ends (create id specification parentId now.text) registry
      { returned := fun _ after => ∃ copied, validateSpecification specification = .ok copied ∧
          Specified id copied after.records
        raised := fun _ _ => True
        crashed := fun _ => True } := by
  unfold create
  refine ends_bind_require trivial fun _ => ends_bind_ofExcept (fun _ => trivial) fun spec valid => ?_
  refine ends_bind_require trivial fun _ => ends_bind_get ?_
  refine ends_bind_require trivial fun _ => ends_bind_require trivial fun _ => ?_
  refine ends_bind_ofExcept (fun _ => trivial) fun text _ => ?_
  refine ends_bind_of_returned (inStep.append_returned _) ?_
  refine (ends_set_specified _ id _).mono ?_ ?_ ?_
  · exact fun _ _ specified => ⟨spec, valid, specified⟩
  · exact fun _ _ _ => trivial
  · exact fun _ _ => trivial

theorem call_create_specified (inStep : InStep registry) {id : String} {specification : PyValue}
    {parentId : Option String} {now : Time} {record : Record}
    (created : (create id specification parentId now.text registry).1 = .returned record) :
    ∃ copied, deepCopy specification = some copied ∧
      Specified id copied (registry.call (now, .create id specification parentId)).records := by
  have ends := create_specified inStep id specification parentId now
  have called : registry.call (now, .create id specification parentId) =
      (create id specification parentId now.text registry).2 := rfl
  rw [called]
  unfold Ends at ends
  rcases ran : create id specification parentId now.text registry with ⟨outcome, after⟩
  rw [ran] at ends created
  cases created
  obtain ⟨copied, valid, specified⟩ := ends
  exact ⟨copied, deepCopy_of_validateSpecification valid, specified⟩

theorem returned_of_settles {process : Registering Record} {holds : Records → Prop}
    (settled : Ends process registry (settles registry))
    (changed : Ends process registry (keeps holds)) (before : ¬ holds registry.records) :
    ∃ record after, process registry = (.returned record, after) ∧ InStep after ∧
      holds after.records := by
  unfold Ends at settled changed
  rcases ran : process registry with ⟨outcome, after⟩
  rw [ran] at settled changed
  cases outcome with
  | returned record => exact ⟨record, after, rfl, settled, changed⟩
  | raised error =>
      change after = registry at settled
      subst settled
      exact absurd changed before
  | crashed => exact settled.elim

private theorem fingerprint_returns {spec : PyValue} (plain : Plain spec) :
    ∃ text, fingerprint spec = .ok text := by
  obtain ⟨tree, written⟩ := plain_toJson plain
  rw [fingerprint, dumpsText, written]
  exact ⟨_, rfl⟩

theorem create_returns {registry : ExperimentRegistry} (inStep : InStep registry) {id : String}
    (nonBlank : PyText.isBlank id = false) (isNew : Dict.get? registry.records (.str id) = Option.none)
    {entries : PyDict} {copied : PyValue} (isCopy : deepCopy (.dict entries) = some copied)
    (now : Time) :
    ∃ record after, create id (.dict entries) none now.text registry = (.returned record, after) ∧
      InStep after := by
  have valid : validateSpecification (.dict entries) = .ok copied := by
    rw [validateSpecification, isCopy]
  obtain ⟨text, computed⟩ := fingerprint_returns (plain_deepCopy isCopy)
  have changed : Ends (create id (.dict entries) none now.text) registry
      (keeps fun records => Dict.get? records (.str id) ≠ Option.none) := by
    unfold create
    refine ends_bind_of_returned (require_of _ registry (by rw [nonBlank]; rfl)) ?_
    refine ends_bind_of_returned (ofExcept_ok valid registry) ?_
    refine ends_bind_of_returned (require_of _ registry rfl) (ends_bind_get ?_)
    refine ends_bind_of_returned (require_of _ registry (by rw [isNew]; rfl)) ?_
    refine ends_bind_of_returned (require_of _ registry rfl) ?_
    refine ends_bind_of_returned (ofExcept_ok computed registry) ?_
    refine ends_bind_of_returned (inStep.append_returned _) (ends_set_keeps ?_)
    rw [Dict.get?_set_self]
    exact Option.some_ne_none _
  obtain ⟨record, after, ran, inStepAfter, _⟩ :=
    returned_of_settles (create_settles inStep id _ none now) changed (fun known => known isNew)
  exact ⟨record, after, ran, inStepAfter⟩

theorem attachEvidence_returns (inStep : InStep registry) {id : String} {record : Record}
    (found : Dict.get? registry.records (.str id) = some record) (isSealed : record.isSealed = true)
    (noEvidence : isNone record.evidence = true) {evidence : PyDict}
    (valid : validateMapping evidence = .ok ()) {evidenceFingerprint : String}
    (visible : PyText.isBlank evidenceFingerprint = false) :
    ∃ attached after, attachEvidence id evidence evidenceFingerprint registry =
      (.returned attached, after) := by
  obtain ⟨text, sameId, _, nonBlank⟩ := (inStep.healthy _ record found).named
  cases sameId
  obtain ⟨dict, kept, copied, again, _, present⟩ := recordedDecision_of_valid valid
  have changed : Ends (attachEvidence id evidence evidenceFingerprint) registry
      (keeps fun records => ∃ record, Dict.get? records (.str id) = some record ∧
        isNone record.evidence = false) := by
    unfold attachEvidence
    refine ends_bind_of_returned (require_of _ registry ((congrArg not nonBlank).trans rfl)) ?_
    refine ends_bind_of_returned (require_of _ registry (by rw [visible]; rfl)) ?_
    refine ends_bind_of_returned (ofExcept_ok valid registry) ?_
    refine ends_bind_of_returned (find_of found) ?_
    refine ends_bind_of_returned (require_of _ registry isSealed) ?_
    refine ends_bind_of_returned (require_of _ registry noEvidence) ?_
    refine ends_bind_of_returned (ofExcept_ok (copy_of copied) registry) ?_
    refine ends_bind_of_returned (inStep.append_returned _) ?_
    refine ends_bind_of_returned (ofExcept_ok (copy_of again) _) (ends_set_keeps ?_)
    exact ⟨_, Dict.get?_set_self _ _ _, isNone_of_ne present⟩
  have before : ¬ ∃ record, Dict.get? registry.records (.str id) = some record ∧
      isNone record.evidence = false := by
    intro ⟨known, isKnown, hasEvidence⟩
    rw [found] at isKnown
    cases isKnown
    rw [noEvidence] at hasEvidence
    cases hasEvidence
  obtain ⟨attached, after, ran, _⟩ :=
    returned_of_settles (attachEvidence_settles inStep id evidence _) changed before
  exact ⟨attached, after, ran⟩

end TurtleExecution.Registry

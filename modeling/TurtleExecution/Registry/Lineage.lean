/-
Lineages: the ancestors and the descendants of an experiment.

A parent is known before its children, in every registry that calls or a replayed log can lead
to, so that the parents of the records are a forest.
-/

import TurtleExecution.Foundation.Forest
import TurtleExecution.Registry.Rebuild

set_option autoImplicit false

namespace TurtleExecution.Registry

open Process ExperimentRegistry Forest

def Record.parentKey (record : Record) : Option PyKey :=
  if isNone record.parentId then none else hashKey? record.parentId

def parentKey (records : Records) (id : PyKey) : Option PyKey :=
  (Dict.get? records id).bind Record.parentKey

structure Lineage (records : Records) : Prop where
  nodup : (Dict.keys records).Nodup
  named : ∀ id record, Dict.get? records id = some record →
    hashKey? record.experimentId = some id
  parents : ∀ id record, Dict.get? records id = some record → record.parentId = .none ∨
    ∃ parent, hashKey? record.parentId = some parent ∧ (Dict.get? records parent).isSome = true
  ranked : Ranked (parentKey records)

private theorem lineage_nil : Lineage [] :=
  { nodup := List.nodup_nil
    named := nofun
    parents := nofun
    ranked := ⟨fun _ => 0, nofun⟩ }

private theorem parentKey_set (records : Records) (id : PyKey) (record : Record) :
    parentKey (Dict.set records id record) =
      Function.update (parentKey records) id record.parentKey := by
  funext other
  unfold parentKey
  rw [Dict.get?_set]
  by_cases same : other = id
  · rw [if_pos same, same, Function.update_self]
    rfl
  · rw [if_neg same, Function.update_of_ne same]

private theorem get?_set_isSome (records : Records) (id : PyKey) (record : Record) {other : PyKey}
    (known : (Dict.get? records other).isSome = true) :
    (Dict.get? (Dict.set records id record) other).isSome = true := by
  rw [Dict.get?_set]
  split
  · rfl
  · exact known

variable {records : Records} {id : PyKey}

theorem Lineage.set (lineage : Lineage records) {record : Record}
    (hashed : hashKey? record.experimentId = some id)
    (parent : record.parentId = .none ∨ ∃ parent, hashKey? record.parentId = some parent ∧
      (Dict.get? records parent).isSome = true)
    (ranked : Ranked (Function.update (parentKey records) id record.parentKey)) :
    Lineage (Dict.set records id record) := by
  rw [← parentKey_set] at ranked
  refine { nodup := Dict.nodup_keys_set lineage.nodup id record, named := ?_, parents := ?_, ranked }
  · intro other known isKnown
    rw [Dict.get?_set] at isKnown
    split at isKnown
    · rename_i same
      cases isKnown
      rw [same]
      exact hashed
    · exact lineage.named other known isKnown
  · intro other known isKnown
    have parent : known.parentId = .none ∨ ∃ parent, hashKey? known.parentId = some parent ∧
        (Dict.get? records parent).isSome = true := by
      rw [Dict.get?_set] at isKnown
      split at isKnown
      · cases isKnown
        exact parent
      · exact lineage.parents other known isKnown
    rcases parent with root | ⟨parent, isKey, isParent⟩
    · exact Or.inl root
    · exact Or.inr ⟨parent, isKey, get?_set_isSome records id record isParent⟩

theorem Lineage.replace (lineage : Lineage records) {old record : Record}
    (found : Dict.get? records id = some old) (sameId : record.experimentId = old.experimentId)
    (sameParent : record.parentId = old.parentId) : Lineage (Dict.set records id record) := by
  have sameKey : record.parentKey = parentKey records id := by
    unfold parentKey Record.parentKey
    rw [found, sameParent]
    rfl
  apply lineage.set
  · rw [sameId]
    exact lineage.named id old found
  · rw [sameParent]
    exact lineage.parents id old found
  · rw [sameKey, Function.update_eq_self]
    exact lineage.ranked

theorem Lineage.add (lineage : Lineage records) {record : Record}
    (isNew : Dict.get? records id = none) (hashed : hashKey? record.experimentId = some id)
    (parent : record.parentId = .none ∨ ∃ parent, hashKey? record.parentId = some parent ∧
      (Dict.get? records parent).isSome = true) : Lineage (Dict.set records id record) := by
  apply lineage.set hashed parent
  rcases parent with root | ⟨parent, isKey, isParent⟩
  · rw [Record.parentKey, root, isNone, if_pos rfl]
    exact lineage.ranked.root id
  · have different : parent ≠ id := by
      rintro rfl
      rw [isNew] at isParent
      cases isParent
    have childless : ∀ other, parentKey records other ≠ some id := by
      intro other isChild
      obtain ⟨known, isKnown, keyed⟩ := Option.bind_eq_some_iff.mp isChild
      rcases lineage.parents other known isKnown with none_ | ⟨above, isAbove, aboveKnown⟩
      · rw [Record.parentKey, none_, isNone, if_pos rfl] at keyed
        cases keyed
      · unfold Record.parentKey at keyed
        split at keyed
        · cases keyed
        · rw [isAbove] at keyed
          cases keyed
          rw [isNew] at aboveKnown
          cases aboveKnown
    unfold Record.parentKey
    split
    · exact lineage.ranked.root id
    · rw [isKey]
      exact lineage.ranked.leaf childless different

private theorem applyEntry_lineage {records next : Records} {entry : Entry}
    (lineage : Lineage records)
    (applied : applyEntry records entry = .ok next) : Lineage next := by
  obtain ⟨id, record, _, accepted, rfl⟩ := applyEntry_ok applied
  generalize found : Dict.get? records id = before at accepted
  cases accepted with
  | created record isType hashed parent => exact lineage.add found hashed parent
  | sealing => exact lineage.replace found rfl rfl
  | evidence => exact lineage.replace found rfl rfl
  | state => exact lineage.replace found rfl rfl
  | decision => exact lineage.replace found rfl rfl

theorem replay_lineage {storage : List Entry} (replayed : replay storage = .ok records) :
    Lineage records :=
  replayFrom_keeps applyEntry_lineage lineage_nil replayed

/-- The record is of the same experiment as the old one, in the same state or one transition
further. -/
structure Continues (old record : Record) : Prop where
  experimentId : record.experimentId = old.experimentId
  parentId : record.parentId = old.parentId
  specification : record.specification = old.specification
  createdAtUtc : record.createdAtUtc = old.createdAtUtc
  moved : record.lifecycleState = old.lifecycleState ∨
    LifecycleState.isLegalTransition old.lifecycleState record.lifecycleState = true

/-- What a call other than a governance decision makes of a record. -/
inductive Edits (old : Record) : Record → Prop
  | sealing (sealedAtUtc : PyValue) : Edits old { old with isSealed := true, sealedAtUtc }
  | evidence (evidence evidenceFingerprint : PyValue) (isSealed : old.isSealed = true)
      (bare : isNone old.evidence = true) : Edits old { old with evidence, evidenceFingerprint }
  | state (toState : LifecycleState)
      (legal : LifecycleState.isLegalTransition old.lifecycleState toState = true)
      (ungated : toState ∉ LifecycleState.governanceDecisionStates)
      (evidenced : toState = .evidenceSealed → isNone old.evidence = false) :
      Edits old { old with lifecycleState := toState }

theorem Edits.continues {old record : Record} (edits : Edits old record) : Continues old record := by
  cases edits with
  | sealing => exact ⟨rfl, rfl, rfl, rfl, .inl rfl⟩
  | evidence => exact ⟨rfl, rfl, rfl, rfl, .inl rfl⟩
  | state toState legal => exact ⟨rfl, rfl, rfl, rfl, .inr legal⟩

structure Begins (records : Records) (id now : String) (record : Record) : Prop where
  isNew : Dict.get? records (.str id) = none
  experimentId : record.experimentId = .str id
  parent : record.parentId = .none ∨ ∃ parent, hashKey? record.parentId = some parent ∧
    (Dict.get? records parent).isSome = true
  createdAtUtc : record.createdAtUtc = .str now
  fresh : record.lifecycleState = .proposed ∧ record.evidence = .none ∧
    record.governanceDecision = .none

/-- What holds after a record was replaced, and after one was created at this time. -/
structure KeptBySets (now : String) (holds : Records → Prop) : Prop where
  replace : ∀ {records : Records} {id : PyKey} {old record : Record}, holds records →
    Dict.get? records id = some old → Continues old record → holds (Dict.set records id record)
  add : ∀ {records : Records} {id : String} {record : Record}, holds records →
    Begins records id now record → holds (Dict.set records (.str id) record)

structure KeptByEdits (now : String) (holds : Records → Prop) : Prop where
  replace : ∀ {records : Records} {id : PyKey} {old record : Record}, holds records →
    Dict.get? records id = some old → Edits old record → holds (Dict.set records id record)
  add : ∀ {records : Records} {id : String} {record : Record}, holds records →
    Begins records id now record → holds (Dict.set records (.str id) record)

theorem KeptBySets.edits {now : String} {holds : Records → Prop} (sets : KeptBySets now holds) :
    KeptByEdits now holds :=
  { replace := fun kept found edits => sets.replace kept found edits.continues
    add := sets.add }

def keeps (holds : Records → Prop) : Post ExperimentRegistry RegistryError Record :=
  { returned := fun _ after => holds after.records
    raised := fun _ after => holds after.records
    crashed := fun after => holds after.records }

section

variable {holds : Records → Prop} {registry : ExperimentRegistry}

private theorem ends_snapshot_keeps (kept : holds registry.records) (id : String) :
    Ends (snapshot id) registry (keeps holds) := by
  have state := snapshot_state id registry
  unfold Ends
  rcases ran : snapshot id registry with ⟨outcome, after⟩
  rw [ran] at state
  cases state
  cases outcome <;> exact kept

theorem ends_bind_storageAppend (kept : holds registry.records) {entry : Entry}
    {next : Unit → Registering Record}
    (rest : Ends (next ()) (registry.stored entry) (keeps holds)) :
    Ends (storageAppend entry >>= next) registry (keeps holds) := by
  by_cases returns : registry.firstAnswer = .returns
  · exact ends_bind_of_returned (storageAppend_returns returns) rest
  · have state := @storageAppend_ends _ registry entry next returns
    unfold Ends
    rcases ran : (storageAppend entry >>= next) registry with ⟨outcome, after⟩
    rw [ran] at state
    cases state
    cases outcome <;> exact kept

theorem ends_set_keeps {id : String} {record : Record}
    (kept : holds (Dict.set registry.records (.str id) record)) :
    Ends (setRecord id record >>= fun _ => snapshot id) registry (keeps holds) :=
  ends_bind_of_returned (setRecord_run id record registry)
    (@ends_snapshot_keeps holds (registry.withRecord id record) kept id)

theorem transitionLocked_keeps (kept : holds registry.records) {id : String} {record : Record}
    {toState : LifecycleState} {at_ : String}
    (moved : LifecycleState.isLegalTransition record.lifecycleState toState = true →
      (toState = .evidenceSealed → isNone record.evidence = false) →
      holds (Dict.set registry.records (.str id) { record with lifecycleState := toState })) :
    Ends (transitionLocked id record toState at_) registry (keeps holds) := by
  unfold transitionLocked
  refine ends_bind_require kept fun legal => ends_bind_require kept fun guarded => ?_
  refine ends_bind_storageAppend kept (ends_set_keeps (moved legal fun entersSealed => ?_))
  simpa [entersSealed] using guarded

section

variable {now : String} (edits : KeptByEdits now holds)

include edits

private theorem create_keeps (kept : holds registry.records) (id : String) (specification : PyValue)
    (parentId : Option String) : Ends (create id specification parentId now) registry (keeps holds) := by
  unfold create
  refine ends_bind_require kept fun _ => ends_bind_ofExcept (fun _ => kept) fun spec _ => ?_
  refine ends_bind_require kept fun _ => ends_bind_get ?_
  refine ends_bind_require kept fun isNew => ends_bind_require kept fun known => ?_
  refine ends_bind_ofExcept (fun _ => kept) fun text _ => ?_
  refine ends_bind_storageAppend kept (ends_set_keeps (edits.add kept ?_))
  refine { isNew := Option.isNone_iff_eq_none.mp isNew, experimentId := rfl, parent := ?_
           createdAtUtc := rfl, fresh := ⟨rfl, rfl, rfl⟩ }
  cases parentId with
  | none => exact Or.inl rfl
  | some parent => exact Or.inr ⟨.str parent, rfl, known⟩

private theorem seal_keeps (kept : holds registry.records) (id at_ : String) :
    Ends (ExperimentRegistry.seal id at_) registry (keeps holds) := by
  unfold ExperimentRegistry.seal
  refine ends_bind_require kept fun _ => ends_bind_find kept fun record found => ?_
  refine ends_bind_require kept fun _ => ?_
  exact ends_bind_storageAppend kept (ends_set_keeps (edits.replace kept found (.sealing _)))

private theorem attachEvidence_keeps (kept : holds registry.records) (id : String) (evidence : PyDict)
    (evidenceFingerprint : String) :
    Ends (attachEvidence id evidence evidenceFingerprint) registry (keeps holds) := by
  unfold attachEvidence
  refine ends_bind_require kept fun _ => ends_bind_require kept fun _ => ?_
  refine ends_bind_ofExcept (fun _ => kept) fun _ _ => ?_
  refine ends_bind_find kept fun record found => ends_bind_require kept fun isSealed => ?_
  refine ends_bind_require kept fun bare => ends_bind_ofExcept (fun _ => kept) fun dict _ => ?_
  refine ends_bind_storageAppend kept (ends_bind_ofExcept (fun _ => kept) fun copied _ => ?_)
  exact ends_set_keeps (edits.replace kept found (.evidence _ _ isSealed bare))

private theorem transition_keeps (kept : holds registry.records) (id : String)
    (toState : LifecycleState)
    (at_ : String) : Ends (transition id toState at_) registry (keeps holds) := by
  unfold transition
  refine ends_bind_find kept fun record found => ends_bind_require kept fun ungated => ?_
  refine transitionLocked_keeps kept fun legal evidenced =>
    edits.replace kept found (.state toState legal ?_ evidenced)
  simpa using ungated

end

private theorem applyGovernanceDecision_keeps {now : String} (sets : KeptBySets now holds)
    (kept : holds registry.records) (id : String) (decision : PyDict) (toState : LifecycleState) (at_ : String) :
    Ends (applyGovernanceDecision id decision toState at_) registry (keeps holds) := by
  unfold applyGovernanceDecision
  refine ends_bind_require kept fun _ => ends_bind_ofExcept (fun _ => kept) fun _ _ => ?_
  refine ends_bind_find kept fun record found => ends_bind_require kept fun _ => ?_
  refine ends_bind_require kept fun _ => ends_bind_ofExcept (fun _ => kept) fun dict _ => ?_
  refine ends_bind_storageAppend kept (ends_bind_ofExcept (fun _ => kept) fun copied _ => ?_)
  have decided : holds (Dict.set registry.records (.str id)
      { record with governanceDecision := copied }) :=
    sets.replace kept found ⟨rfl, rfl, rfl, rfl, .inl rfl⟩
  refine ends_bind_of_returned (setRecord_run id _ _) ?_
  exact @transitionLocked_keeps holds ((registry.stored (decisionEntry id dict)).withRecord id _)
    decided id _ _ _ fun legal _ =>
      sets.replace decided (Dict.get?_set_self _ _ _) ⟨rfl, rfl, rfl, rfl, .inr legal⟩

end

variable {registry : ExperimentRegistry}

theorem operation_keeps {holds : Records → Prop} {now : Time} (edits : KeptByEdits now.text holds)
    (kept : holds registry.records) (mutation : Mutation)
    (decides : ∀ id decision toState, mutation = .applyGovernanceDecision id decision toState →
      Ends (mutation.operation now) registry (keeps holds)) :
    Ends (mutation.operation now) registry (keeps holds) := by
  cases mutation with
  | create id specification parentId => exact create_keeps edits kept id specification parentId
  | «seal» id => exact seal_keeps edits kept id _
  | attachEvidence id evidence fingerprint =>
      exact attachEvidence_keeps edits kept id evidence fingerprint
  | transition id toState => exact transition_keeps edits kept id toState _
  | applyGovernanceDecision id decision toState => exact decides id decision toState rfl

theorem ends_of_keeps {holds : Records → Prop} {process : Registering Record}
    (ends : Ends process registry (keeps holds)) : holds (process registry).2.records := by
  unfold Ends at ends
  rcases ran : process registry with ⟨outcome, after⟩
  rw [ran] at ends
  cases outcome <;> exact ends

theorem call_keeps {holds : Records → Prop} {registry : ExperimentRegistry}
    {mutation : Time × Mutation} (sets : KeptBySets mutation.1.text holds)
    (kept : holds registry.records) : holds (registry.call mutation).records := by
  refine ends_of_keeps (operation_keeps sets.edits kept mutation.2 ?_)
  rintro id decision toState isDecision
  rw [isDecision]
  exact applyGovernanceDecision_keeps sets kept id decision toState _

theorem Begins.hashed {records : Records} {id now : String} {record : Record}
    (begins : Begins records id now record) : hashKey? record.experimentId = some (.str id) := by
  rw [begins.experimentId]
  rfl

private theorem sets_lineage (now : String) : KeptBySets now Lineage :=
  { replace := fun lineage found continues =>
      lineage.replace found continues.experimentId continues.parentId
    add := fun lineage begins => lineage.add begins.isNew begins.hashed begins.parent }

private theorem call_lineage (lineage : Lineage registry.records) (mutation : Time × Mutation) :
    Lineage (registry.call mutation).records :=
  call_keeps (sets_lineage mutation.1.text) lineage

/-- A registry that was constructed over a log, whatever its storage then answers, and called. -/
inductive Reachable : ExperimentRegistry → Prop
  | opened {storage : List Entry} {records : Records} (answers : List StorageAnswer)
      (replayed : replay storage = .ok records) : Reachable { storage, records, answers }
  | called {registry : ExperimentRegistry} (reachable : Reachable registry)
      (mutation : Time × Mutation) : Reachable (registry.call mutation)

theorem Reachable.lineage (reachable : Reachable registry) : Lineage registry.records := by
  induction reachable with
  | opened answers replayed => exact replay_lineage replayed
  | called _ mutation ih => exact call_lineage ih mutation

end TurtleExecution.Registry

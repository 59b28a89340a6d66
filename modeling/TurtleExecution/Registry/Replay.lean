/-
What an entry that replay accepts does to the records.

Each kind of entry has one lemma that lists all that was checked and what is set.
-/

import TurtleExecution.Foundation.Arithmetic
import TurtleExecution.Registry.Registry

set_option autoImplicit false

namespace TurtleExecution.Registry

private theorem guardLog_ok {accepted : Bool} (passed : guardLog accepted = .ok ()) :
    accepted = true := by
  cases accepted with
  | true => rfl
  | false => cases passed

theorem guardLog_of {accepted : Bool} (holds : accepted = true) : guardLog accepted = .ok () := by
  rw [holds]
  rfl

variable {entry : Entry} {records next : Records} {value : PyValue}

private theorem field_ok {name : String} (found : field entry name = .ok value) :
    Dict.get? entry (.str name) = some value := by
  unfold field at found
  split at found
  · cases found
    assumption
  · cases found

private theorem key_ok {key : PyKey} (hashed : Registry.key value = .ok key) :
    hashKey? value = some key := by
  unfold Registry.key at hashed
  split at hashed
  · cases hashed
    assumption
  · cases hashed

theorem copy_ok {value copied : PyValue} (isCopy : copy value = .ok copied) :
    PyValue.deepCopy value = some copied := by
  unfold copy at isCopy
  split at isCopy
  · cases isCopy
    assumption
  · cases isCopy

theorem copy_of {value copied : PyValue} (isCopy : PyValue.deepCopy value = some copied) :
    copy value = .ok copied := by
  rw [copy, isCopy]

variable {storage : List Entry} {record : Record}

theorem knownRecord_of {id : String}
    (named : Dict.get? entry (.str "experiment_id") = some (.str id))
    (found : Dict.get? records (.str id) = some record) :
    knownRecord records entry = .ok (.str id, record) := by
  have isField : field entry "experiment_id" = .ok (.str id) := by rw [field, named]
  have isKey : Registry.key (.str id) = .ok (.str id) := rfl
  refine (bind_of_ok isField).trans ((bind_of_ok isKey).trans ?_)
  rw [found]

def Names (entry : Entry) (id : PyKey) : Prop :=
  (Dict.get? entry (.str "experiment_id")).bind hashKey? = some id

private theorem names_of {experimentId : PyValue} {id : PyKey}
    (isField : field entry "experiment_id" = .ok experimentId)
    (isKey : Registry.key experimentId = .ok id) : Names entry id := by
  rw [Names, field_ok isField, Option.bind_some, key_ok isKey]

private theorem knownRecord_ok {id : PyKey} (known : knownRecord records entry = .ok (id, record)) :
    Names entry id ∧ Dict.get? records id = some record := by
  obtain ⟨experimentId, isField, known⟩ := ok_of_bind known
  obtain ⟨key, isKey, known⟩ := ok_of_bind known
  split at known
  · rename_i found
    cases known
    exact ⟨names_of isField isKey, found⟩
  · cases known

private theorem lifecycleState_ok {state : LifecycleState}
    (isState : lifecycleState value = .ok state) :
    value = .str state.value := by
  unfold lifecycleState at isState
  split at isState
  · rename_i text
    split at isState
    · rename_i found
      cases isState
      rw [LifecycleState.value_of_ofValue? found]
    · cases isState
  · cases isState

theorem lifecycleState_of (state : LifecycleState) :
    lifecycleState (.str state.value) = .ok state := by
  simp [lifecycleState]

theorem isNone_iff : isNone value = true ↔ value = .none := by
  cases value <;> simp [isNone]

theorem isNone_of_ne (present : value ≠ .none) : isNone value = false := by
  cases shown : isNone value with
  | false => rfl
  | true => exact absurd (isNone_iff.mp shown) present

def HasType (entry : Entry) (entryType : String) : Prop :=
  Dict.get? entry (.str "type") = some (.str entryType)

/-- What an accepted entry makes of the record of the experiment that it names: all that
was checked and what is set. -/
inductive Accepted (records : Records) (entry : Entry) (id : PyKey) : Option Record → Record → Prop
  | created (record : Record) (isType : HasType entry entryCreated)
      (hashed : hashKey? record.experimentId = some id)
      (parent : record.parentId = .none ∨ ∃ parent, hashKey? record.parentId = some parent ∧
        (Dict.get? records parent).isSome = true)
      (notSealed : record.isSealed = false) (noEvidence : record.evidence = .none)
      (initial : record.lifecycleState = LifecycleState.initialState)
      (undecided : record.governanceDecision = .none) :
      Accepted records entry id none record
  | sealing (record : Record) (sealedAtUtc : PyValue) (isType : HasType entry entrySealed)
      (notSealed : record.isSealed = false) :
      Accepted records entry id (some record) { record with isSealed := true, sealedAtUtc }
  | evidence (record : Record) (value evidence evidenceFingerprint : PyValue)
      (isType : HasType entry entryEvidence) (isSealed : record.isSealed = true)
      (noEvidence : record.evidence = .none)
      (isField : Dict.get? entry (.str "evidence") = some value)
      (isCopy : PyValue.deepCopy value = some evidence) :
      Accepted records entry id (some record) { record with evidence, evidenceFingerprint }
  | state (record : Record) (toState : LifecycleState) (isType : HasType entry entryState)
      (isField : Dict.get? entry (.str "to_state") = some (.str toState.value))
      (legal : LifecycleState.isLegalTransition record.lifecycleState toState = true)
      (decided : toState ∈ LifecycleState.governanceDecisionStates →
        record.governanceDecision ≠ .none) :
      Accepted records entry id (some record) { record with lifecycleState := toState }
  | decision (record : Record) (value decision : PyValue) (isType : HasType entry entryDecision)
      (inReview : record.lifecycleState = .inReview) (undecided : record.governanceDecision = .none)
      (isField : Dict.get? entry (.str "decision") = some value)
      (isCopy : PyValue.deepCopy value = some decision) :
      Accepted records entry id (some record) { record with governanceDecision := decision }

/-- One record is set, the one of the experiment that the entry names. -/
def Sets (records : Records) (entry : Entry) (next : Records) : Prop :=
  ∃ id record, Names entry id ∧ Accepted records entry id (Dict.get? records id) record ∧
    next = Dict.set records id record

private theorem applyCreated_ok (isType : HasType entry entryCreated)
    (applied : applyCreated records entry = .ok next) : Sets records entry next := by
  obtain ⟨experimentId, isField, applied⟩ := ok_of_bind applied
  obtain ⟨id, isKey, applied⟩ := ok_of_bind applied
  obtain ⟨_, isNew, applied⟩ := ok_of_bind applied
  obtain ⟨_, known, applied⟩ := ok_of_bind applied
  obtain ⟨fingerprint, _, applied⟩ := ok_of_bind applied
  obtain ⟨specification, _, applied⟩ := ok_of_bind applied
  obtain ⟨copied, _, applied⟩ := ok_of_bind applied
  obtain ⟨createdAtUtc, _, applied⟩ := ok_of_bind applied
  cases applied
  refine ⟨id, _, names_of isField isKey, ?_, rfl⟩
  rw [Option.isNone_iff_eq_none.mp (guardLog_ok isNew)]
  refine .created _ isType (key_ok isKey) ?_ rfl rfl rfl rfl
  unfold parentKnown at known
  split at known
  · rename_i noParent
    exact Or.inl (isNone_iff.mp noParent)
  · obtain ⟨parent, isParent, known⟩ := ok_of_bind known
    exact Or.inr ⟨parent, key_ok isParent, guardLog_ok known⟩

private theorem applySealed_ok (isType : HasType entry entrySealed)
    (applied : applySealed records entry = .ok next) : Sets records entry next := by
  obtain ⟨⟨id, record⟩, known, applied⟩ := ok_of_bind applied
  obtain ⟨_, notSealed, applied⟩ := ok_of_bind applied
  obtain ⟨sealedAtUtc, _, applied⟩ := ok_of_bind applied
  cases applied
  obtain ⟨names, found⟩ := knownRecord_ok known
  refine ⟨id, _, names, ?_, rfl⟩
  rw [found]
  exact .sealing record sealedAtUtc isType (by simpa using guardLog_ok notSealed)

private theorem applyEvidence_ok (isType : HasType entry entryEvidence)
    (applied : applyEvidence records entry = .ok next) : Sets records entry next := by
  obtain ⟨⟨id, record⟩, known, applied⟩ := ok_of_bind applied
  obtain ⟨_, isSealed, applied⟩ := ok_of_bind applied
  obtain ⟨_, noEvidence, applied⟩ := ok_of_bind applied
  obtain ⟨value, isField, applied⟩ := ok_of_bind applied
  obtain ⟨evidence, isCopy, applied⟩ := ok_of_bind applied
  obtain ⟨evidenceFingerprint, _, applied⟩ := ok_of_bind applied
  cases applied
  obtain ⟨names, found⟩ := knownRecord_ok known
  refine ⟨id, _, names, ?_, rfl⟩
  rw [found]
  exact .evidence record value evidence evidenceFingerprint isType (guardLog_ok isSealed)
    (isNone_iff.mp (guardLog_ok noEvidence)) (field_ok isField) (copy_ok isCopy)

private theorem applyState_ok (isType : HasType entry entryState)
    (applied : applyState records entry = .ok next) : Sets records entry next := by
  obtain ⟨⟨id, record⟩, known, applied⟩ := ok_of_bind applied
  obtain ⟨_, _, applied⟩ := ok_of_bind applied
  obtain ⟨fromState, _, applied⟩ := ok_of_bind applied
  obtain ⟨toValue, isField, applied⟩ := ok_of_bind applied
  obtain ⟨toState, isState, applied⟩ := ok_of_bind applied
  obtain ⟨_, isFrom, applied⟩ := ok_of_bind applied
  obtain ⟨_, legal, applied⟩ := ok_of_bind applied
  obtain ⟨_, decided, applied⟩ := ok_of_bind applied
  cases applied
  obtain ⟨names, found⟩ := knownRecord_ok known
  have same : record.lifecycleState = fromState := of_decide_eq_true (guardLog_ok isFrom)
  refine ⟨id, _, names, ?_, rfl⟩
  rw [found]
  refine .state record toState isType (lifecycleState_ok isState ▸ field_ok isField)
    (same ▸ guardLog_ok legal) ?_
  intro gated undecided
  have accepted := guardLog_ok decided
  simp [gated, undecided, isNone] at accepted

private theorem applyDecision_ok (isType : HasType entry entryDecision)
    (applied : applyDecision records entry = .ok next) : Sets records entry next := by
  obtain ⟨⟨id, record⟩, known, applied⟩ := ok_of_bind applied
  obtain ⟨_, inReview, applied⟩ := ok_of_bind applied
  obtain ⟨_, undecided, applied⟩ := ok_of_bind applied
  obtain ⟨value, isField, applied⟩ := ok_of_bind applied
  obtain ⟨decision, isCopy, applied⟩ := ok_of_bind applied
  cases applied
  obtain ⟨names, found⟩ := knownRecord_ok known
  refine ⟨id, _, names, ?_, rfl⟩
  rw [found]
  exact .decision record value decision isType (of_decide_eq_true (guardLog_ok inReview))
    (isNone_iff.mp (guardLog_ok undecided)) (field_ok isField) (copy_ok isCopy)

theorem applyEntry_ok (applied : applyEntry records entry = .ok next) :
    Sets records entry next := by
  unfold applyEntry at applied
  split at applied
  · rename_i entryType isType
    split at applied
    · rename_i same
      subst same
      exact applyCreated_ok isType applied
    split at applied
    · rename_i same
      subst same
      exact applySealed_ok isType applied
    split at applied
    · rename_i same
      subst same
      exact applyEvidence_ok isType applied
    split at applied
    · rename_i same
      subst same
      exact applyState_ok isType applied
    split at applied
    · rename_i same
      subst same
      exact applyDecision_ok isType applied
    · cases applied
  · cases applied

theorem replayFrom_keeps {Holds : Records → Prop}
    (step : ∀ {records next : Records} {entry : Entry}, Holds records →
      applyEntry records entry = .ok next → Holds next)
    {records last : Records} {entries : List Entry} (holds : Holds records)
    (replayed : replayFrom records entries = .ok last) : Holds last := by
  induction entries generalizing records with
  | nil =>
      cases replayed
      exact holds
  | cons entry entries ih =>
      obtain ⟨next, applied, replayed⟩ := ok_of_bind replayed
      exact ih (step holds applied) replayed

private theorem replayFrom_append (records : Records) (first second : List Entry) :
    replayFrom records (first ++ second) =
      (replayFrom records first).bind fun between => replayFrom between second := by
  induction first generalizing records with
  | nil => rfl
  | cons entry first ih =>
      rw [List.cons_append, replayFrom, replayFrom]
      cases applied : applyEntry records entry with
      | error error => rfl
      | ok next => exact ih next

theorem replay_concat_ok (replayed : replay (storage ++ [entry]) = .ok records) :
    ∃ before, replay storage = .ok before ∧ applyEntry before entry = .ok records := by
  unfold replay at replayed
  rw [replayFrom_append] at replayed
  obtain ⟨before, isBefore, replayed⟩ := ok_of_bind replayed
  obtain ⟨next, applied, replayed⟩ := ok_of_bind replayed
  cases replayed
  exact ⟨before, isBefore, applied⟩

theorem replay_concat (entry : Entry) (replayed : replay storage = .ok records) :
    replay (storage ++ [entry]) = applyEntry records entry := by
  unfold replay at replayed ⊢
  rw [replayFrom_append, replayed]
  change (do let next ← applyEntry records entry; replayFrom next []) = _
  cases applyEntry records entry <;> rfl

def Keyed (records : Records) : Prop :=
  ∀ id record, Dict.get? records (.str id) = some record → record.experimentId = .str id

theorem hashKey?_str {id : PyStr} (hashed : hashKey? value = some (.str id)) :
    value = .str id := by
  unfold hashKey? at hashed
  split at hashed <;> first
    | (cases hashed; rfl)
    | cases hashed
    | (split at hashed <;> cases hashed)

theorem Keyed.set (keyed : Keyed records) {key : PyKey}
    (carries : ∀ id, key = .str id → record.experimentId = .str id) :
    Keyed (Dict.set records key record) := by
  intro id found isFound
  rw [Dict.get?_set] at isFound
  split at isFound
  · rename_i same
    cases isFound
    exact carries id same.symm
  · exact keyed id found isFound

private theorem applyEntry_keyed (keyed : Keyed records)
    (applied : applyEntry records entry = .ok next) :
    Keyed next := by
  obtain ⟨id, record, _, accepted, rfl⟩ := applyEntry_ok applied
  apply keyed.set
  intro text isText
  subst isText
  cases found : Dict.get? records (.str text) with
  | none =>
      rw [found] at accepted
      cases accepted with
      | created record isType hashed => exact hashKey?_str hashed
  | some before =>
      rw [found] at accepted
      cases accepted <;> exact keyed text before found

theorem replay_keyed (replayed : replay storage = .ok records) : Keyed records := by
  refine replayFrom_keeps applyEntry_keyed ?_ replayed
  intro id record found
  cases found

end TurtleExecution.Registry

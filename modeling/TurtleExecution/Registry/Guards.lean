/-
The lifecycle guards that replay enforces.

Replay checks every entry on its own, whoever wrote it.  It takes no edge that is not in
the table and enters no governance state without a decision, but it enters
`EVIDENCE_SEALED` without the evidence that the live transition asks for.
-/

import Mathlib.Logic.Relation
import TurtleExecution.Registry.Replay

set_option autoImplicit false

namespace TurtleExecution.Registry

namespace LifecycleState

def afterSealing : List LifecycleState :=
  [evidenceSealed, inReview, approved, rejected, deferred, shakedown, fullProduction, frozen,
    retiring, retired]

/-- The outcomes of a governance decision and what comes after them. -/
def afterDecision : List LifecycleState :=
  [approved, rejected, deferred, shakedown, fullProduction, frozen, retiring, retired]

theorem mem_afterSealing_step {fromState toState : LifecycleState}
    (legal : isLegalTransition fromState toState = true) :
    toState ∈ afterSealing ↔ toState = evidenceSealed ∨ fromState ∈ afterSealing := by
  revert legal
  cases fromState <;> cases toState <;> decide

theorem mem_afterDecision_step {fromState toState : LifecycleState}
    (legal : isLegalTransition fromState toState = true) :
    toState ∈ afterDecision ↔ toState ∈ governanceDecisionStates ∨ fromState ∈ afterDecision := by
  revert legal
  cases fromState <;> cases toState <;> decide

end LifecycleState

def Enters (state : LifecycleState) (entry : Entry) (id : PyKey) : Prop :=
  HasType entry entryState ∧ Names entry id ∧
    Dict.get? entry (.str "to_state") = some (.str state.value)

def AttachesEvidence (entry : Entry) (id : PyKey) : Prop :=
  HasType entry entryEvidence ∧ Names entry id ∧
    ∃ value, Dict.get? entry (.str "evidence") = some value ∧ value ≠ .none

variable {entry : Entry}

theorem Names.unique {id other : PyKey} (names : Names entry id) (also : Names entry other) :
    id = other :=
  Option.some.inj (names.symm.trans also)

theorem HasType.unique {entryType other : String} (isType : HasType entry entryType)
    (also : HasType entry other) : entryType = other := by
  have same := Option.some.inj (isType.symm.trans also)
  exact PyStr.scalars.inj (PyValue.str.inj same)

private theorem value_injective {state other : LifecycleState} (same : state.value = other.value) :
    state = other := by
  have found := LifecycleState.ofValue?_value state
  rw [same, LifecycleState.ofValue?_value] at found
  exact (Option.some.inj found).symm

def Record.AfterSealing (record : Record) : Prop :=
  record.lifecycleState ∈ LifecycleState.afterSealing

def Record.HasEvidence (record : Record) : Prop :=
  record.evidence ≠ .none

/-- An experiment has an entry of the kind in the log exactly where its record has the
property. -/
def Tracks (tells : Entry → PyKey → Prop) (has : Record → Prop) (storage : List Entry)
    (records : Records) : Prop :=
  ∀ id, (∃ entry ∈ storage, tells entry id) ↔ ∃ record, Dict.get? records id = some record ∧ has record

variable {storage : List Entry} {id : PyKey} {records next : Records}

theorem Tracks.set {tells : Entry → PyKey → Prop} {has : Record → Prop} {records : Records}
    (tracks : Tracks tells has storage records) {record : Record}
    (names : ∀ other, tells entry other → other = id)
    (step : has record ↔ tells entry id ∨ ∃ old, Dict.get? records id = some old ∧ has old) :
    Tracks tells has (storage ++ [entry]) (Dict.set records id record) := by
  intro other
  have split : (∃ known ∈ storage ++ [entry], tells known other) ↔
      (∃ known ∈ storage, tells known other) ∨ tells entry other := by
    simp only [List.mem_append, List.mem_singleton, or_and_right, exists_or, exists_eq_left]
  rw [split, tracks other, Dict.get?_set]
  by_cases same : other = id
  · subst same
    rw [if_pos rfl, or_comm, ← step]
    constructor
    · intro holds
      exact ⟨record, rfl, holds⟩
    · intro ⟨found, isFound, holds⟩
      cases isFound
      exact holds
  · rw [if_neg same]
    constructor
    · intro either
      rcases either with known | tells
      · exact known
      · exact absurd (names other tells) same
    · exact Or.inl

private theorem unchanged_iff (has : Record → Prop) {tells : Entry → PyKey → Prop}
    {old record : Record}
    (silent : ¬ tells entry id) (same : has record ↔ has old) :
    has record ↔ tells entry id ∨ ∃ found, some old = some found ∧ has found := by
  simp only [same, silent, Option.some.injEq, false_or, exists_eq_left']

/-- The experiments after sealing are those that an entry takes to `EVIDENCE_SEALED`. -/
def TracksSealing : List Entry → Records → Prop :=
  Tracks (Enters .evidenceSealed) Record.AfterSealing

def TracksEvidence : List Entry → Records → Prop :=
  Tracks AttachesEvidence Record.HasEvidence

private theorem tracks_nil (tells : Entry → PyKey → Prop) (has : Record → Prop) : Tracks tells has
    [] [] := by
  intro id
  constructor
  · intro ⟨entry, member, _⟩
    cases member
  · intro ⟨record, found, _⟩
    cases found

private theorem not_enters {entryType : String} (isType : HasType entry entryType)
    (other : entryType ≠ entryState) (state : LifecycleState) (id : PyKey) :
    ¬ Enters state entry id :=
  fun enters => other (isType.unique enters.1)

private theorem not_attaches {entryType : String} (isType : HasType entry entryType)
    (other : entryType ≠ entryEvidence) (id : PyKey) : ¬ AttachesEvidence entry id :=
  fun attaches => other (isType.unique attaches.1)

private theorem tracksSealing_step (tracks : TracksSealing storage records)
    (applied : applyEntry records entry = .ok next) : TracksSealing (storage ++ [entry]) next := by
  obtain ⟨id, record, names, accepted, rfl⟩ := applyEntry_ok applied
  apply Tracks.set tracks
  · intro other enters
    exact enters.2.1.unique names
  generalize Dict.get? records id = before at accepted
  cases accepted with
  | created record isType hashed parent notSealed noEvidence initial undecided =>
      have noEntry := not_enters isType (by decide) .evidenceSealed id
      have outside : LifecycleState.initialState ∉ LifecycleState.afterSealing := by decide
      simp [Record.AfterSealing, initial, noEntry, outside]
  | sealing record sealedAtUtc isType =>
      exact unchanged_iff Record.AfterSealing (not_enters isType (by decide) _ id) Iff.rfl
  | evidence record value evidence _ isType =>
      exact unchanged_iff Record.AfterSealing (not_enters isType (by decide) _ id) Iff.rfl
  | decision record value decision isType =>
      exact unchanged_iff Record.AfterSealing (not_enters isType (by decide) _ id) Iff.rfl
  | state record toState isType isField legal decided =>
      have enters : Enters .evidenceSealed entry id ↔ toState = .evidenceSealed := by
        constructor
        · intro enters
          have same := Option.some.inj (isField.symm.trans enters.2.2)
          exact value_injective (PyStr.scalars.inj (PyValue.str.inj same))
        · intro same
          exact ⟨isType, names, same ▸ isField⟩
      have later := LifecycleState.mem_afterSealing_step legal
      simp only [Record.AfterSealing, enters, later, Option.some.injEq, exists_eq_left']

private theorem tracksEvidence_step (tracks : TracksEvidence storage records)
    (applied : applyEntry records entry = .ok next) : TracksEvidence (storage ++ [entry]) next := by
  obtain ⟨id, record, names, accepted, rfl⟩ := applyEntry_ok applied
  apply Tracks.set tracks
  · intro other attaches
    exact attaches.2.1.unique names
  generalize Dict.get? records id = before at accepted
  cases accepted with
  | created record isType hashed parent notSealed noEvidence =>
      have noEntry := not_attaches isType (by decide) id
      simp [Record.HasEvidence, noEvidence, noEntry]
  | sealing record sealedAtUtc isType =>
      exact unchanged_iff Record.HasEvidence (not_attaches isType (by decide) id) Iff.rfl
  | state record toState isType =>
      exact unchanged_iff Record.HasEvidence (not_attaches isType (by decide) id) Iff.rfl
  | decision record value decision isType =>
      exact unchanged_iff Record.HasEvidence (not_attaches isType (by decide) id) Iff.rfl
  | evidence record value evidence _ isType isSealed noEvidence isField isCopy =>
      have attaches : AttachesEvidence entry id ↔ value ≠ .none := by
        constructor
        · intro ⟨_, _, attached, isAttached, present⟩
          exact Option.some.inj (isField.symm.trans isAttached) ▸ present
        · intro present
          exact ⟨isType, names, value, isField, present⟩
      have copied := PyValue.deepCopy_eq_none_iff isCopy
      simp [Record.HasEvidence, attaches, copied, noEvidence]

private theorem replay_induction {holds : List Entry → Records → Prop} (start : holds [] [])
    (step : ∀ {storage records next entry}, replay storage = .ok records → holds storage records →
      applyEntry records entry = .ok next → holds (storage ++ [entry]) next) {records : Records}
    (replayed : replay storage = .ok records) : holds storage records := by
  induction storage using List.reverseRecOn generalizing records with
  | nil =>
      cases replayed
      exact start
  | append_singleton storage entry ih =>
      obtain ⟨before, isBefore, applied⟩ := replay_concat_ok replayed
      exact step isBefore (ih isBefore) applied

def EvidenceSealed (records : Records) : Prop :=
  ∀ id record, Dict.get? records id = some record → record.evidence ≠ .none → record.isSealed = true

private theorem applyEntry_evidenceSealed (isSealed : EvidenceSealed records)
    (applied : applyEntry records entry = .ok next) : EvidenceSealed next := by
  obtain ⟨id, record, names, accepted, rfl⟩ := applyEntry_ok applied
  intro other found isFound attached
  rw [Dict.get?_set] at isFound
  split at isFound
  · cases isFound
    generalize isBefore : Dict.get? records id = before at accepted
    cases accepted with
    | created record isType hashed parent notSealed noEvidence => exact absurd noEvidence attached
    | sealing record sealedAtUtc isType => rfl
    | evidence record value evidence _ isType already => exact already
    | state record toState isType => exact isSealed id record isBefore attached
    | decision record value decision isType => exact isSealed id record isBefore attached
  · exact isSealed other found isFound attached

/-- What the entry does to an experiment's state is an edge of the table: a new
experiment is in the initial state, another one stays or takes a legal transition. -/
def EdgeTaken : Option Record → Record → Prop
  | none, after => after.lifecycleState = LifecycleState.initialState
  | some before, after =>
      after.lifecycleState = before.lifecycleState ∨
        LifecycleState.isLegalTransition before.lifecycleState after.lifecycleState = true

private theorem applyEntry_edge {after : Record} (applied : applyEntry records entry = .ok next)
    (found : Dict.get? next id = some after) : EdgeTaken (Dict.get? records id) after := by
  obtain ⟨changed, record, names, accepted, rfl⟩ := applyEntry_ok applied
  rw [Dict.get?_set] at found
  split at found
  · rename_i same
    cases found
    rw [same]
    generalize Dict.get? records changed = before at accepted
    cases accepted with
    | created record isType hashed parent notSealed noEvidence initial => exact initial
    | state record toState isType isField legal => exact Or.inr legal
    | sealing => exact Or.inl rfl
    | evidence => exact Or.inl rfl
    | decision => exact Or.inl rfl
  · rw [found]
    exact Or.inl rfl

/-- The decision was recorded by an entry of the log, while the experiment was in review
and had none. -/
def DecisionRecorded (storage : List Entry) (id : PyKey) (decision : PyValue) : Prop :=
  ∃ front entry back before record value, storage = front ++ entry :: back ∧
    replay front = .ok before ∧ Dict.get? before id = some record ∧
    record.lifecycleState = .inReview ∧ record.governanceDecision = .none ∧
    HasType entry entryDecision ∧ Names entry id ∧
    Dict.get? entry (.str "decision") = some value ∧ PyValue.deepCopy value = some decision

theorem DecisionRecorded.concat {decision : PyValue}
    (recorded : DecisionRecorded storage id decision) (entry : Entry) :
    DecisionRecorded (storage ++ [entry]) id decision := by
  obtain ⟨front, found, back, before, record, value, rfl, rest⟩ := recorded
  exact ⟨front, found, back ++ [entry], before, record, value, by simp, rest⟩

/-- A decision that a record holds was recorded, and after a governance outcome the
record holds one. -/
structure Governed (storage : List Entry) (id : PyKey) (record : Record) : Prop where
  recorded : record.governanceDecision ≠ .none →
    DecisionRecorded storage id record.governanceDecision
  decided : record.lifecycleState ∈ LifecycleState.afterDecision → record.governanceDecision ≠ .none

def AllGoverned (storage : List Entry) (records : Records) : Prop :=
  ∀ id record, Dict.get? records id = some record → Governed storage id record

theorem Governed.concat {record : Record} (governed : Governed storage id record) (entry : Entry) :
    Governed (storage ++ [entry]) id record :=
  ⟨fun present => (governed.recorded present).concat entry, governed.decided⟩

private theorem allGoverned_step (replayed : replay storage = .ok records)
    (governed : AllGoverned storage records) (applied : applyEntry records entry = .ok next) :
    AllGoverned (storage ++ [entry]) next := by
  obtain ⟨id, record, names, accepted, rfl⟩ := applyEntry_ok applied
  intro other found isFound
  rw [Dict.get?_set] at isFound
  split at isFound
  · rename_i same
    cases isFound
    rw [same]
    generalize isBefore : Dict.get? records id = before at accepted
    cases accepted with
    | created record isType hashed parent notSealed noEvidence initial undecided =>
        constructor
        · intro present
          exact absurd undecided present
        · intro later
          rw [initial] at later
          exact absurd later (by decide)
    | sealing record sealedAtUtc isType =>
        have old := (governed id record isBefore).concat entry
        exact ⟨old.recorded, old.decided⟩
    | evidence record value evidence _ isType =>
        have old := (governed id record isBefore).concat entry
        exact ⟨old.recorded, old.decided⟩
    | state record toState isType isField legal decided =>
        have old := (governed id record isBefore).concat entry
        constructor
        · exact old.recorded
        · intro later
          rcases (LifecycleState.mem_afterDecision_step legal).mp later with outcome | before
          · exact decided outcome
          · exact old.decided before
    | decision record value decision isType inReview undecided isField isCopy =>
        constructor
        · intro _
          exact ⟨storage, entry, [], records, record, value, rfl, replayed, isBefore, inReview,
            undecided, isType, names, isField, isCopy⟩
        · intro later
          rw [inReview] at later
          exact absurd later (by decide)
  · exact (governed other found isFound).concat entry

/-- What the live registry enforces, of the records that replay leads to. -/
structure GuardsHold (storage : List Entry) (records : Records) : Prop where
  evidence : ∀ id record, Dict.get? records id = some record →
    record.lifecycleState ∈ LifecycleState.afterSealing →
      record.isSealed = true ∧ record.evidence ≠ .none
  edges : ∀ front entry back before after id record, storage = front ++ entry :: back →
    replay front = .ok before → replay (front ++ [entry]) = .ok after →
    Dict.get? after id = some record → EdgeTaken (Dict.get? before id) record
  decision : ∀ id record, Dict.get? records id = some record →
    record.lifecycleState ∈ LifecycleState.afterDecision →
      record.governanceDecision ≠ .none ∧ DecisionRecorded storage id record.governanceDecision

/-- Every experiment that the log takes to `EVIDENCE_SEALED` has evidence in the log. -/
def EvidenceLogged (storage : List Entry) : Prop :=
  ∀ id, (∃ entry ∈ storage, Enters .evidenceSealed entry id) →
    ∃ entry ∈ storage, AttachesEvidence entry id

/-- Replay enforces the guards but for the evidence, which it does not ask for. -/
theorem replay_guardsHold_iff (storage : List Entry) (records : Records)
    (replayed : replay storage = .ok records) :
    GuardsHold storage records ↔ EvidenceLogged storage := by
  have sealing : TracksSealing storage records :=
    replay_induction (tracks_nil _ _) (fun _ => tracksSealing_step) replayed
  have evidence : TracksEvidence storage records :=
    replay_induction (tracks_nil _ _) (fun _ => tracksEvidence_step) replayed
  have isSealed : EvidenceSealed records :=
    replayFrom_keeps applyEntry_evidenceSealed (fun _ _ found => by cases found) replayed
  have governed : AllGoverned storage records :=
    replay_induction (fun _ _ found => by cases found) allGoverned_step replayed
  constructor
  · intro guards id enters
    obtain ⟨record, found, later⟩ := (sealing id).mp enters
    exact (evidence id).mpr ⟨record, found, (guards.evidence id record found later).2⟩
  · intro logged
    refine ⟨?_, ?_, ?_⟩
    · intro id record found later
      obtain ⟨same, isSame, attached⟩ :=
        (evidence id).mp (logged id ((sealing id).mpr ⟨record, found, later⟩))
      rw [found] at isSame
      cases isSame
      exact ⟨isSealed id record found attached, attached⟩
    · intro front entry back before after id record _ isBefore isAfter found
      rw [replay_concat entry isBefore] at isAfter
      exact applyEntry_edge isAfter found
    · intro id record found later
      have present := (governed id record found).decided later
      exact ⟨present, (governed id record found).recorded present⟩

def loggedCreation : Entry :=
  [(.str "type", .str entryCreated), (.str "experiment_id", .str "e"),
    (.str "fingerprint", .str "f"), (.str "specification", .dict []),
    (.str "created_at_utc", .str "t")]

/-- The experiment enters `EVIDENCE_SEALED`, neither sealed nor with evidence. -/
def ungovernedLog : List Entry :=
  [loggedCreation, ExperimentRegistry.stateEntry (.str "e") .proposed .validating "t",
    ExperimentRegistry.stateEntry (.str "e") .validating .evidenceSealed "t"]

def ungovernedRecord : Record :=
  { experimentId := .str "e", fingerprint := .str "f", parentId := .none, specification := .dict []
    createdAtUtc := .str "t", isSealed := false, sealedAtUtc := .none, evidence := .none
    evidenceFingerprint := .none, lifecycleState := .evidenceSealed, governanceDecision := .none }

private theorem replay_ungovernedLog : replay ungovernedLog = .ok
    [(.str "e", ungovernedRecord)] := rfl

/-- Replay accepts a log that takes an experiment without evidence to `EVIDENCE_SEALED`. -/
theorem not_guardsHold : ¬ ∀ (storage : List Entry) (records : Records),
    replay storage = .ok records → GuardsHold storage records := by
  intro enforced
  have guards := enforced _ _ replay_ungovernedLog
  have isSealed := (guards.evidence (.str "e") ungovernedRecord rfl (by decide)).1
  cases isSealed

/-- An experiment from its registration to the decision on it and its approval. -/
def approvedLog : List Entry :=
  [loggedCreation,
    [(.str "type", .str entrySealed), (.str "experiment_id", .str "e"), (.str "sealed_at_utc", .str "t")],
    ExperimentRegistry.stateEntry (.str "e") .proposed .validating "t",
    [(.str "type", .str entryEvidence), (.str "experiment_id", .str "e"),
      (.str "evidence", .dict [(.str "package", .str "p")]), (.str "evidence_fingerprint", .str "f")],
    ExperimentRegistry.stateEntry (.str "e") .validating .evidenceSealed "t",
    ExperimentRegistry.stateEntry (.str "e") .evidenceSealed .inReview "t",
    ExperimentRegistry.decisionEntry "e" (.dict [(.str "decision", .str "APPROVE")]),
    ExperimentRegistry.stateEntry (.str "e") .inReview .approved "t"]

theorem guardsHold_approved : ∃ records, replay approvedLog = .ok records ∧
    (records.map fun entry => entry.2.lifecycleState) = [.approved] ∧
    (GuardsHold approvedLog records ↔ EvidenceLogged approvedLog) := by
  have computed : (replay approvedLog).toOption.map (fun records =>
      records.map fun entry => entry.2.lifecycleState) = some [.approved] := by decide +kernel
  cases replayed : replay approvedLog with
  | error error =>
      rw [replayed] at computed
      cases computed
  | ok records =>
      rw [replayed] at computed
      exact ⟨records, rfl, Option.some.inj computed, replay_guardsHold_iff approvedLog records replayed⟩

end TurtleExecution.Registry

/-
Atomicity of append under write failure.

A failed append truncates the file to the offset that the descriptor had when the
append started.  The truncation does not move the offset, so after a failure that
had written some bytes the offset stands behind the end of the file, and the next
failure truncates to the wrong length.  A run is atomic exactly when no write
fails while the offset is out of step with the file.
-/

import TurtleExecution.EventStore.Append

set_option autoImplicit false

namespace TurtleExecution.EventStore

structure AppendInput where
  call : AppendCall
  now : String
  faults : Faults

def AppendInput.apply (input : AppendInput) (store : Store) : Except AppendError Event × Store :=
  append store input.call input.now input.faults

def runAppends (store : Store) : List AppendInput → Store
  | [] => store
  | input :: inputs => runAppends (input.apply store).2 inputs

/-- The records and events of the appends that wrote a record and returned, in order. -/
def written (store : Store) : List AppendInput → List (Bytes × Event)
  | [] => []
  | input :: inputs =>
      match recordToWrite store input.call input.now, (input.apply store).1 with
      | some record, .ok event => (record, event) :: written (input.apply store).2 inputs
      | _, _ => written (input.apply store).2 inputs

/-- The file's bytes and the memory are the same; the descriptor's offset may differ. -/
structure SameState (before after : Store) : Prop where
  content : after.file.content = before.file.content
  events : after.events = before.events
  byId : after.byId = before.byId
  idempotencyIndex : after.idempotencyIndex = before.idempotencyIndex
  nextEventId : after.nextEventId = before.nextEventId
  closed : after.closed = before.closed

def FailuresUndone (store : Store) : List AppendInput → Prop
  | [] => True
  | input :: inputs =>
      ((∃ error, (input.apply store).1 = .error error) → SameState store (input.apply store).2) ∧
        FailuresUndone (input.apply store).2 inputs

/-- After the run the file is what it was, followed by the records of the successful
appends, and reopening it reads exactly their events behind the earlier ones. -/
def FileHoldsAppends (store : Store) (inputs : List AppendInput) : Prop :=
  (runAppends store inputs).file.content =
      store.file.content ++ ((written store inputs).map Prod.fst).flatten ∧
    ∃ reopened, openStore (runAppends store inputs).file.content = .ok reopened ∧
      List.Forall₂ ReadsAs (store.events ++ (written store inputs).map Prod.snd) reopened.events

def AtomicRun (store : Store) (inputs : List AppendInput) : Prop :=
  FailuresUndone store inputs ∧
    ∀ front back, inputs = front ++ back → FileHoldsAppends store front

/-- No write of the run fails while the descriptor's offset differs from the length
of the file. -/
def FailsInStep (store : Store) : List AppendInput → Prop
  | [] => True
  | input :: inputs =>
      (∀ record, recordToWrite store input.call input.now = some record →
        input.faults.fail record.length = true →
          store.file.offset = store.file.content.length) ∧
        FailsInStep (input.apply store).2 inputs

private theorem rollback_restores_iff (file : LogFile) (data : Bytes) :
    ((file.appended data).ftruncate file.offset).content = file.content ↔
      file.offset = file.content.length := by
  simp only [LogFile.ftruncate, LogFile.appended_content]
  constructor
  · intro restored
    have lengths := congrArg List.length restored
    simp only [List.length_append, List.length_take, List.length_replicate] at lengths
    omega
  · intro atEnd
    simp [atEnd]

/-- The step behind the iff: a failing append is undone exactly when its write, if it
makes one, starts in step. -/
theorem apply_undone_iff (store : Store) (input : AppendInput) :
    ((∃ error, (input.apply store).1 = .error error) → SameState store (input.apply store).2) ↔
      ∀ record, recordToWrite store input.call input.now = some record →
        input.faults.fail record.length = true →
          store.file.offset = store.file.content.length := by
  unfold AppendInput.apply
  cases writes : recordToWrite store input.call input.now with
  | none =>
      have unchanged := (append_answered writes input.faults).1
      simp only [reduceCtorEq, false_implies, implies_true, iff_true, unchanged]
      exact fun _ => ⟨rfl, rfl, rfl, rfl, rfl, rfl⟩
  | some record =>
      simp only [Option.some.injEq, forall_eq']
      cases fails : input.faults.fail record.length with
      | false => simp [append_written writes fails]
      | true =>
          obtain ⟨error, failed⟩ := append_failed writes fails
          rw [failed]
          simp only [true_implies]
          constructor
          · intro undone
            exact (rollback_restores_iff _ _).mp (undone ⟨error, rfl⟩).content
          · intro inStep _
            exact ⟨(rollback_restores_iff _ _).mpr inStep, rfl, rfl, rfl, rfl, rfl⟩

private theorem failuresUndone_iff (store : Store) (inputs : List AppendInput) :
    FailuresUndone store inputs ↔ FailsInStep store inputs := by
  induction inputs generalizing store with
  | nil => exact Iff.rfl
  | cons input inputs ih => exact and_congr (apply_undone_iff store input) (ih _)

theorem FailsInStep.front {store : Store} {front back : List AppendInput}
    (inStep : FailsInStep store (front ++ back)) : FailsInStep store front := by
  induction front generalizing store with
  | nil => trivial
  | cons input front ih => exact ⟨inStep.1, ih inStep.2⟩

/-- A run whose failures are in step keeps the store consistent, with the log extended
by the records of the successful appends. -/
theorem FailsInStep.consistent {store : Store} {log : List LogEntry} {inputs : List AppendInput}
    (consistent : Consistent store log) (inStep : FailsInStep store inputs) :
    ∃ added, Consistent (runAppends store inputs) (log ++ added) ∧
      added.map LogEntry.recordBytes = (written store inputs).map Prod.fst ∧
      (runAppends store inputs).events = store.events ++ (written store inputs).map Prod.snd := by
  induction inputs generalizing store log with
  | nil => exact ⟨[], by rwa [List.append_nil], rfl, (List.append_nil _).symm⟩
  | cons input inputs ih =>
      obtain ⟨safe, restSafe⟩ := inStep
      rw [runAppends, written]
      cases writes : recordToWrite store input.call input.now with
      | none =>
          have unchanged := (append_answered writes input.faults).1
          change (input.apply store).2 = store at unchanged
          rw [unchanged] at restSafe ⊢
          exact ih consistent restSafe
      | some record =>
          cases fails : input.faults.fail record.length with
          | false =>
              obtain ⟨entry, rfl, sameId, stored⟩ := recordToWrite_entry writes
              have appended : input.apply store = _ := append_written writes fails
              rw [appended] at restSafe ⊢
              obtain ⟨added, restConsistent, records, events⟩ :=
                ih (consistent.record sameId stored) restSafe
              refine ⟨entry :: added, ?_, ?_, ?_⟩
              · simpa using restConsistent
              · simp [records]
              · rw [events]
                simp only [List.map_cons]
                exact List.append_assoc _ _ _
          | true =>
              obtain ⟨error, failed⟩ := append_failed writes fails
              change input.apply store = _ at failed
              have restored := (rollback_restores_iff store.file
                (record.take (bytesWritten record.length input.faults.writes))).mpr
                (safe record writes fails)
              rw [failed] at restSafe ⊢
              exact ih
                { consistent with
                  content := restored.trans consistent.content } restSafe

/-- A run of appends on an open store is atomic exactly when no write fails while the
offset is out of step with the file. -/
theorem atomicRun_iff {content : Bytes} {store : Store} (opened : openStore content = .ok store)
    (inputs : List AppendInput) : AtomicRun store inputs ↔ FailsInStep store inputs := by
  constructor
  · exact fun atomic => (failuresUndone_iff store inputs).mp atomic.1
  · intro inStep
    refine ⟨(failuresUndone_iff store inputs).mpr inStep, ?_⟩
    rintro front back rfl
    obtain ⟨log, consistent, _⟩ := openStore_consistent opened
    obtain ⟨added, after, records, events⟩ := inStep.front.consistent consistent
    obtain ⟨reopened, reopens, _, reopenedEvents, _⟩ := after.reopen
    refine ⟨?_, reopened, reopens, ?_⟩
    · rw [after.content, logBytes_append, consistent.content, ← records]
      rfl
    · rw [← events, reopenedEvents]
      exact after.events

def emptyStore : Store :=
  { file := { content := [], offset := 0 }
    events := []
    byId := []
    idempotencyIndex := []
    nextEventId := 1
    recoveryReport := { validEventCount := 0, tailTruncated := false, discardedByteCount := 0 }
    closed := false }

private theorem openStore_empty : openStore [] = .ok emptyStore := rfl

def startedCall : AppendCall :=
  { eventType := .systemStarted, payload := [], idempotencyKey := none, schemaVersion := 1 }

def failsAfterOneByte : AppendInput :=
  { call := startedCall, now := ""
    faults := { Faults.none with writes := [.wrote 1, .failed] } }

def failsAtOnce : AppendInput :=
  { call := startedCall, now := "", faults := { Faults.none with writes := [.failed] } }

private theorem failsAfterOneByte_file :
    (failsAfterOneByte.apply emptyStore).2.file = { content := [], offset := 1 } := by
  decide +kernel

private theorem failsAtOnce_writes :
    (recordToWrite (failsAfterOneByte.apply emptyStore).2 failsAtOnce.call failsAtOnce.now).isSome =
      true := by
  decide +kernel

/-- The second of two failed appends leaves a byte in the file that was empty. -/
theorem append_not_atomic :
    ¬ ∀ (content : Bytes) (store : Store), openStore content = .ok store →
      ∀ inputs, AtomicRun store inputs := by
  intro atomic
  have undone := (atomic [] emptyStore openStore_empty [failsAfterOneByte, failsAtOnce]).1
  obtain ⟨record, writes⟩ := Option.isSome_iff_exists.mp failsAtOnce_writes
  have fails : failsAtOnce.faults.fail record.length = true := by
    simp [failsAtOnce, Faults.fail, writesFail, bytesWritten, recordToWrite_length_pos writes]
  have inStep := ((failuresUndone_iff _ _).mp undone).2.1 record writes fails
  rw [failsAfterOneByte_file] at inStep
  cases inStep

theorem atomicRun_iff_twoFailures :
    AtomicRun emptyStore [failsAfterOneByte, failsAtOnce] ↔
      FailsInStep emptyStore [failsAfterOneByte, failsAtOnce] :=
  atomicRun_iff openStore_empty [failsAfterOneByte, failsAtOnce]

end TurtleExecution.EventStore

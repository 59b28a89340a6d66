/-
What one append does to the file and to the memory of the store.

`append_cases` lists the outcomes once: the call is answered without a write, the
write fails, or the record is written.  `Consistent` is the invariant that links
the file to the memory, and the rest of the module shows that opening a file
establishes it and that a written record extends it.
-/

import TurtleExecution.EventStore.Store

set_option autoImplicit false

namespace TurtleExecution.EventStore

/-- How many of `remaining` bytes reach the file before the writes end or raise. -/
def bytesWritten (remaining : Nat) : List WriteOutcome → Nat
  | [] => remaining
  | .failed :: _ => 0
  | .wrote count :: outcomes =>
      let written := min count remaining
      if written = 0 then 0 else written + bytesWritten (remaining - written) outcomes

/-- Whether one of the writes of `remaining` bytes raises. -/
def writesFail (remaining : Nat) (outcomes : List WriteOutcome) : Bool :=
  decide (bytesWritten remaining outcomes < remaining)

/-- Whether writing a record of `length` bytes raises, in a write or in the `fsync`. -/
def Faults.fail (faults : Faults) (length : Nat) : Bool :=
  writesFail length faults.writes || faults.fsyncFails

/-- The file with `data` appended; nothing moves where there is nothing to write. -/
def LogFile.appended (file : LogFile) (data : Bytes) : LogFile :=
  if data.isEmpty then file else file.write data

@[simp] theorem LogFile.appended_content (file : LogFile) (data : Bytes) :
    (file.appended data).content = file.content ++ data := by
  cases data <;> simp [LogFile.appended, LogFile.write]

theorem LogFile.appended_appended (file : LogFile) (first second : Bytes) :
    (file.appended first).appended second = file.appended (first ++ second) := by
  cases first with
  | nil => rfl
  | cons byte first =>
      cases second with
      | nil => simp [LogFile.appended, LogFile.write]
      | cons next second => simp [LogFile.appended, LogFile.write]

private theorem bytesWritten_le (remaining : Nat) (outcomes : List WriteOutcome) :
    bytesWritten remaining outcomes ≤ remaining := by
  induction outcomes generalizing remaining with
  | nil => exact Nat.le_refl _
  | cons outcome outcomes ih =>
      cases outcome with
      | failed => exact Nat.zero_le _
      | wrote count =>
          simp only [bytesWritten]
          split
          · exact Nat.zero_le _
          · have rest := ih (remaining - min count remaining)
            omega

private theorem writeFull_spec (file : LogFile) (data : Bytes) (outcomes : List WriteOutcome) :
    (writeFull file data outcomes).2 =
        file.appended (data.take (bytesWritten data.length outcomes)) ∧
      ((writeFull file data outcomes).1.isSome = writesFail data.length outcomes) := by
  induction outcomes generalizing file data with
  | nil => simp [writeFull, bytesWritten, writesFail, LogFile.appended]
  | cons outcome outcomes ih =>
      by_cases empty : data.isEmpty
      · have noData : data = [] := List.isEmpty_iff.mp empty
        subst noData
        cases outcome <;> simp [writeFull, writesFail, LogFile.appended]
      · have positive : 0 < data.length :=
          List.length_pos_iff.mpr (fun noData => empty (List.isEmpty_iff.mpr noData))
        cases outcome with
        | failed => simp [writeFull, empty, bytesWritten, writesFail, LogFile.appended, positive]
        | wrote count =>
            by_cases stuck : min count data.length = 0
            · simp [writeFull, empty, bytesWritten, writesFail, stuck, LogFile.appended, positive]
            · obtain ⟨restFile, restRaises⟩ :=
                ih (file.write (data.take (min count data.length))) (data.drop (min count data.length))
              have started : file.write (data.take (min count data.length)) =
                  file.appended (data.take (min count data.length)) := by
                cases data with
                | nil => cases positive
                | cons byte data =>
                    cases counted : min count (byte :: data).length with
                    | zero => exact absurd counted stuck
                    | succ count => rfl
              have counted : bytesWritten data.length (.wrote count :: outcomes) =
                  min count data.length +
                    bytesWritten (data.length - min count data.length) outcomes := by
                simp only [bytesWritten, if_neg stuck]
              simp only [writeFull, if_neg empty, if_neg stuck, writesFail, counted]
              rw [restFile, restRaises, writesFail, started, LogFile.appended_appended,
                List.length_drop, List.take_add]
              refine ⟨rfl, decide_eq_decide.mpr ?_⟩
              omega

private theorem writeRecord_spec (file : LogFile) {record : Bytes} (faults : Faults) :
    (faults.fail record.length = false → writeRecord file record faults = (none, file.appended record)) ∧
    (faults.fail record.length = true → ∃ error, writeRecord file record faults =
      (some error, (file.appended (record.take (bytesWritten record.length faults.writes))).ftruncate
        file.offset)) := by
  obtain ⟨written, raises⟩ := writeFull_spec file record faults.writes
  unfold writeRecord Faults.fail rollback
  rw [← raises]
  cases outcome : writeFull file record faults.writes with
  | mk raised left =>
      rw [outcome] at written raises
      cases raised with
      | some error =>
          simp only [Option.isSome_some, Bool.true_or, reduceCtorEq, false_implies, true_and,
            true_implies]
          simp only at written
          rw [written]
          exact ⟨_, rfl⟩
      | none =>
          have whole : bytesWritten record.length faults.writes = record.length := by
            have bound := bytesWritten_le record.length faults.writes
            simp only [Option.isSome_none, writesFail] at raises
            have notLess := of_decide_eq_false raises.symm
            omega
          simp only at written
          rw [whole, List.take_length] at written
          cases fsync : faults.fsyncFails with
          | false => simp [written]
          | true => simp [written, whole]

/-- The record that the call writes, or `none` where it is answered without a write. -/
def recordToWrite (store : Store) (call : AppendCall) (now : String) : Option Bytes :=
  if store.closed || (validateNewEvent call).isSome ||
      (storedUnder store call.idempotencyKey).isSome then none
  else (PyValue.dumps (call.envelope now).value).bind (encodeRecord store.nextEventId)

def FoundUnder (store : Store) (key : Option PyStr) (event : Event) : Prop :=
  ∃ name eventId, key = some name ∧
    Dict.get? store.idempotencyIndex (.str name) = some eventId ∧
    Dict.get? store.byId eventId = some event

variable {store : Store} {log : List LogEntry} {call : AppendCall} {now : String}

private theorem storedUnder_ok {key : Option PyStr} {event : Event}
    (stored : storedUnder store key = some (.ok event)) : FoundUnder store key event := by
  unfold storedUnder at stored
  split at stored
  · cases stored
  · split at stored
    · cases stored
    · split at stored
      · cases stored
        exact ⟨_, _, rfl, by assumption, by assumption⟩
      · cases stored

/-- A call that writes nothing changes nothing; its answer is an error or the event
stored under its key. -/
theorem append_answered (answered : recordToWrite store call now = none) (faults : Faults) :
    (append store call now faults).2 = store ∧
      ∀ event, (append store call now faults).1 = .ok event →
        FoundUnder store call.idempotencyKey event := by
  unfold append
  unfold recordToWrite at answered
  split
  · exact ⟨rfl, fun event impossible => nomatch impossible⟩
  · rename_i opened
    cases checked : validateNewEvent call with
    | some message => exact ⟨rfl, fun event impossible => nomatch impossible⟩
    | none =>
        cases stored : storedUnder store call.idempotencyKey with
        | some answer =>
            refine ⟨rfl, fun event ok => storedUnder_ok ?_⟩
            rw [stored]
            exact congrArg some ok
        | none =>
            simp only [checked, stored, opened, Option.isSome_none, Bool.or_self,
              Bool.false_eq_true, if_false] at answered
            dsimp only
            cases dumped : PyValue.dumps (call.envelope now).value with
            | none => exact ⟨rfl, fun event impossible => nomatch impossible⟩
            | some payloadBytes =>
                rw [dumped, Option.bind_some] at answered
                simp only [answered]
                exact ⟨trivial, fun event impossible => nomatch impossible⟩

private theorem append_writes {record : Bytes} (writes : recordToWrite store call now = some record)
    (faults : Faults) :
    append store call now faults =
      match writeRecord store.file record faults with
      | (some error, file) => (.error error, { store with file })
      | (none, file) =>
          (.ok ((call.envelope now).event store.nextEventId),
            store.record file ((call.envelope now).event store.nextEventId) call.idempotencyKey) := by
  unfold append
  unfold recordToWrite at writes
  split at writes
  · cases writes
  · rename_i passes
    obtain ⟨⟨opened, checked⟩, unknown⟩ : (store.closed = false ∧ validateNewEvent call = none) ∧
        storedUnder store call.idempotencyKey = none := by
      simpa using passes
    obtain ⟨payloadBytes, dumped, encoded⟩ := Option.bind_eq_some_iff.mp writes
    rw [if_neg (by simp [opened]), checked, unknown]
    dsimp only
    rw [dumped]
    rcases written : writeRecord store.file record faults with ⟨_ | error, file⟩
    · simp only [encoded, written]
    · simp only [encoded, written]

/-- A failed write leaves the memory alone and truncates the file to the offset that
the descriptor had. -/
theorem append_failed {record : Bytes} (writes : recordToWrite store call now = some record)
    {faults : Faults} (fails : faults.fail record.length = true) :
    ∃ error, append store call now faults =
      (.error error, { store with
        file := (store.file.appended
          (record.take (bytesWritten record.length faults.writes))).ftruncate store.file.offset }) := by
  obtain ⟨error, raised⟩ := (writeRecord_spec store.file faults).2 fails
  exact ⟨error, by rw [append_writes writes, raised]⟩

theorem append_written {record : Bytes} (writes : recordToWrite store call now = some record)
    {faults : Faults} (succeeds : faults.fail record.length = false) :
    append store call now faults =
      (.ok ((call.envelope now).event store.nextEventId),
        store.record (store.file.appended record) ((call.envelope now).event store.nextEventId)
          call.idempotencyKey) := by
  rw [append_writes writes, (writeRecord_spec store.file faults).1 succeeds]

/-- A stored event is the event in memory, or what is read back of it. -/
def ReadsAs (event stored : Event) : Prop :=
  stored = event ∨ event.readBack = some stored

def nextIdAfter (log : List LogEntry) : Nat :=
  match lastEventId none log with
  | some id => id + 1
  | none => 1

structure Consistent (store : Store) (log : List LogEntry) : Prop where
  content : store.file.content = logBytes log
  ascending : Ascending none log
  events : List.Forall₂ ReadsAs store.events (logEvents log)
  byId : store.byId = indexById store.events
  index : buildIdempotencyIndex store.events = some store.idempotencyIndex
  nextEventId : store.nextEventId = nextIdAfter log
  opened : store.closed = false

variable {event stored : Event}

private theorem readBack_eq_some (read : event.readBack = some stored) :
    stored.eventId = event.eventId ∧ stored.idempotencyKey = rereadKey event.idempotencyKey := by
  obtain ⟨payload, _, rfl⟩ := Option.map_eq_some_iff.mp read
  exact ⟨rfl, rfl⟩

theorem ReadsAs.eventId (reads : ReadsAs event stored) : stored.eventId = event.eventId := by
  rcases reads with rfl | read
  · rfl
  · exact (readBack_eq_some read).1

def Event.KeyReads (event : Event) : Prop :=
  rereadKey event.idempotencyKey = event.idempotencyKey

theorem ReadsAs.idempotencyKey (reads : ReadsAs event stored) (keyReads : event.KeyReads) :
    stored.idempotencyKey = event.idempotencyKey := by
  rcases reads with rfl | read
  · rfl
  · exact (readBack_eq_some read).2.trans keyReads

private theorem indexEvent_congr (reads : ReadsAs event stored) (keyReads : event.KeyReads)
    (index : Dict PyKey Nat) : indexEvent index stored = indexEvent index event := by
  simp only [indexEvent, reads.idempotencyKey keyReads, reads.eventId]

theorem buildIdempotencyIndex_congr {events stored : List Event}
    (reads : List.Forall₂ ReadsAs events stored) (keysRead : ∀ event ∈ events, event.KeyReads) :
    buildIdempotencyIndex stored = buildIdempotencyIndex events := by
  unfold buildIdempotencyIndex
  generalize ([] : Dict PyKey Nat) = index
  induction reads generalizing index with
  | nil => rfl
  | cons head tail ih =>
      obtain ⟨first, later⟩ := List.forall_mem_cons.mp keysRead
      simp only [List.foldlM_cons, indexEvent_congr head first]
      congr 1
      funext next
      exact ih later next

theorem buildIdempotencyIndex_concat (events : List Event) (event : Event) :
    buildIdempotencyIndex (events ++ [event]) =
      (buildIdempotencyIndex events).bind fun index => indexEvent index event := by
  unfold buildIdempotencyIndex
  rw [List.foldlM_append]
  cases List.foldlM indexEvent [] events <;> simp

private theorem indexEvent_isSome (index : Dict PyKey Nat) (event : Event) :
    (indexEvent index event).isSome = (hashKey event.idempotencyKey).isSome := by
  unfold indexEvent
  split
  · rename_i keyless
    rw [keyless]
    rfl
  · exact Option.isSome_map

private theorem buildIdempotencyIndex_isSome (events : List Event) :
    (buildIdempotencyIndex events).isSome =
      events.all fun event => (hashKey event.idempotencyKey).isSome := by
  induction events using List.reverseRecOn with
  | nil => rfl
  | append_singleton events event ih =>
      rw [buildIdempotencyIndex_concat, List.all_append, ← ih]
      cases buildIdempotencyIndex events with
      | none => rfl
      | some index => simp [indexEvent_isSome]

private theorem ReadsAs.hashable (reads : ReadsAs event stored) :
    (hashKey stored.idempotencyKey).isSome = (hashKey event.idempotencyKey).isSome := by
  rcases reads with rfl | read
  · rfl
  · rw [(readBack_eq_some read).2]
    cases event.idempotencyKey <;> rfl

private theorem all_hashable {events images : List Event} (reads : List.Forall₂ ReadsAs events images) :
    (images.all fun event => (hashKey event.idempotencyKey).isSome) =
      events.all fun event => (hashKey event.idempotencyKey).isSome := by
  induction reads with
  | nil => rfl
  | cons head tail ih => rw [List.all_cons, List.all_cons, head.hashable, ih]

private theorem indexEvent_optionalText (index : Dict PyKey Nat) {event : Event} {key : Option PyStr}
    (keyed : event.idempotencyKey = optionalText key) :
    indexEvent index event = some (addToIndex index key event.eventId) := by
  cases key with
  | none => simp [indexEvent, keyed, optionalText, addToIndex]
  | some key => simp [indexEvent, keyed, optionalText, hashKey, addToIndex]

theorem indexById_append (events : List Event) (event : Event) :
    indexById (events ++ [event]) = Dict.set (indexById events) event.eventId event := by
  simp [indexById]

theorem recordToWrite_entry {record : Bytes} (writes : recordToWrite store call now = some record) :
    ∃ entry : LogEntry, entry.recordBytes = record ∧ entry.eventId = store.nextEventId ∧
      (call.envelope now).storedEvent store.nextEventId = some entry.event := by
  unfold recordToWrite at writes
  split at writes
  · cases writes
  · obtain ⟨payloadBytes, dumped, encoded⟩ := Option.bind_eq_some_iff.mp writes
    obtain ⟨event, stored, loaded⟩ := loadEvent_written store.nextEventId dumped
    exact ⟨{ eventId := store.nextEventId, payloadBytes, recordBytes := record, event, encoded
             loaded }, rfl, rfl, stored⟩

theorem recordToWrite_length_pos {record : Bytes}
    (writes : recordToWrite store call now = some record) : 0 < record.length := by
  obtain ⟨entry, rfl, _⟩ := recordToWrite_entry writes
  rw [entry.recordBytes_length, recordOverhead_eq]
  omega

theorem Consistent.record (consistent : Consistent store log) {entry : LogEntry}
    (sameId : entry.eventId = store.nextEventId)
    (stored : (call.envelope now).storedEvent store.nextEventId = some entry.event) :
    Consistent (store.record (store.file.appended entry.recordBytes)
      ((call.envelope now).event store.nextEventId) call.idempotencyKey) (log ++ [entry]) :=
  { content := by
      simp [Store.record, consistent.content]
    ascending := by
      refine consistent.ascending.append ⟨fun id known => ?_, trivial⟩
      have next := consistent.nextEventId
      rw [nextIdAfter, known] at next
      dsimp only at next
      omega
    events := by
      rw [logEvents_append]
      refine List.rel_append consistent.events (.cons (Or.inr ?_) .nil)
      rw [Envelope.event_readBack, stored]
    byId := by
      simp only [Store.record, indexById_append, consistent.byId]
    index := by
      have added := @indexEvent_optionalText store.idempotencyIndex
        ((call.envelope now).event store.nextEventId) call.idempotencyKey rfl
      simp only [Store.record, buildIdempotencyIndex_concat, consistent.index, Option.bind_some,
        added]
    nextEventId := by
      have last : lastEventId none (log ++ [entry]) = some entry.eventId := by
        rw [lastEventId_append]
        rfl
      simp only [Store.record, nextIdAfter, last, sameId]
    opened := consistent.opened }

private theorem getLast?_logEvents (log : List LogEntry) :
    (match (logEvents log).getLast? with
      | some event => event.eventId + 1
      | none => 1) = nextIdAfter log := by
  rcases List.eq_nil_or_concat log with rfl | ⟨front, entry, rfl⟩
  · rfl
  · have sameId := loadEvent_eventId entry.loaded
    simp [nextIdAfter, lastEventId_append, lastEventId, sameId]

theorem openStore_of_scan {content : Bytes} {report : RecoveryReport}
    (scanned : scanFile (some content) = .ok (logEvents log, report, (logBytes log).length))
    (ascending : Ascending none log) (readBytes : content.take (logBytes log).length = logBytes log)
    (discarded : report.discardedByteCount = content.length - (logBytes log).length)
    (toTheEnd : report.tailTruncated = false → (logBytes log).length = content.length)
    {index : Dict PyKey Nat} (indexed : buildIdempotencyIndex (logEvents log) = some index) :
    ∃ store, openStore content = .ok store ∧ Consistent store log ∧
      store.events = logEvents log ∧ store.file.offset = store.file.content.length := by
  have inside : (logBytes log).length ≤ content.length := by
    have lengths := congrArg List.length readBytes
    rw [List.length_take] at lengths
    omega
  refine ⟨_, by simp only [openStore, scanned, indexed]; rfl, ?_, rfl, rfl⟩
  refine
    { content := ?_
      ascending
      events := List.forall₂_same.mpr fun event _ => Or.inl rfl
      byId := rfl
      index := indexed
      nextEventId := getLast?_logEvents log
      opened := rfl }
  dsimp only [LogFile.seekEnd]
  split
  · rename_i torn
    simp [LogFile.ftruncate, readBytes, Nat.sub_eq_zero_of_le inside]
  · rename_i notTorn
    have whole : (logBytes log).length = content.length := by
      cases truncated : report.tailTruncated with
      | false => exact toTheEnd truncated
      | true =>
          simp only [truncated, Bool.true_and, decide_eq_true_eq, discarded] at notTorn
          omega
    rw [← readBytes, whole, List.take_length]

theorem openStore_consistent {content : Bytes} (opened : openStore content = .ok store) :
    ∃ log, Consistent store log ∧ store.events = logEvents log ∧
      store.file.offset = store.file.content.length := by
  cases scanned : scanFile (some content) with
  | error exception =>
      simp only [openStore, scanned] at opened
      cases opened
  | ok result =>
      obtain ⟨events, report, lastValidOffset⟩ := result
      obtain ⟨log, rfl, ascending, readBytes, inside, discarded, toTheEnd⟩ := scanFile_sound scanned
      have lengths : lastValidOffset = (logBytes log).length := by
        rw [← readBytes, List.length_take]
        omega
      subst lengths
      cases indexed : buildIdempotencyIndex (logEvents log) with
      | none =>
          simp only [openStore, scanned, indexed] at opened
          cases opened
      | some index =>
          obtain ⟨reopened, openedAs, consistent⟩ :=
            openStore_of_scan scanned ascending readBytes discarded toTheEnd indexed
          rw [opened] at openedAs
          cases openedAs
          exact ⟨log, consistent⟩

theorem Consistent.logIndex (consistent : Consistent store log) :
    ∃ index, buildIdempotencyIndex (logEvents log) = some index := by
  apply Option.isSome_iff_exists.mp
  rw [buildIdempotencyIndex_isSome, all_hashable consistent.events, ← buildIdempotencyIndex_isSome,
    consistent.index]
  rfl

theorem Consistent.reopen (consistent : Consistent store log) :
    ∃ reopened, openStore store.file.content = .ok reopened ∧ Consistent reopened log ∧
      reopened.events = logEvents log ∧
      reopened.file.offset = reopened.file.content.length := by
  obtain ⟨index, indexed⟩ := consistent.logIndex
  rw [consistent.content]
  exact openStore_of_scan (scanFile_logBytes log consistent.ascending) consistent.ascending
    (List.take_length) (Nat.sub_self _).symm (fun _ => rfl) indexed

end TurtleExecution.EventStore

/-
Logs as lists of records, and the scan over the records of a log.

An entry carries the proofs that its record is the encoding of its payload and
that the payload loads, so a log of entries is well formed by construction.
Only the order of the event ids is a condition on the list.
-/

import TurtleExecution.EventStore.Envelope

set_option autoImplicit false

namespace TurtleExecution.EventStore

structure LogEntry where
  eventId : Nat
  payloadBytes : Bytes
  recordBytes : Bytes
  event : Event
  encoded : encodeRecord eventId payloadBytes = some recordBytes
  loaded : loadEvent eventId payloadBytes = .ok event

def logBytes (log : List LogEntry) : Bytes :=
  (log.map LogEntry.recordBytes).flatten

def logEvents (log : List LogEntry) : List Event :=
  log.map LogEntry.event

/-- The event ids grow strictly, starting above `last`. -/
def Ascending (last : Option Nat) : List LogEntry → Prop
  | [] => True
  | entry :: log => (∀ id, last = some id → id < entry.eventId) ∧ Ascending (some entry.eventId) log

def lastEventId (last : Option Nat) : List LogEntry → Option Nat
  | [] => last
  | entry :: log => lastEventId (some entry.eventId) log

@[simp] theorem logBytes_nil : logBytes [] = [] := rfl

@[simp] theorem logBytes_cons (entry : LogEntry) (log : List LogEntry) :
    logBytes (entry :: log) = entry.recordBytes ++ logBytes log := rfl

@[simp] theorem logBytes_append (front back : List LogEntry) :
    logBytes (front ++ back) = logBytes front ++ logBytes back := by
  simp [logBytes]

@[simp] theorem logEvents_nil : logEvents [] = [] := rfl

@[simp] theorem logEvents_cons (entry : LogEntry) (log : List LogEntry) :
    logEvents (entry :: log) = entry.event :: logEvents log := rfl

@[simp] theorem logEvents_append (front back : List LogEntry) :
    logEvents (front ++ back) = logEvents front ++ logEvents back := by
  simp [logEvents]

@[simp] theorem logEvents_length (log : List LogEntry) : (logEvents log).length = log.length := by
  simp [logEvents]

variable {last : Option Nat} {data : Bytes}

theorem Ascending.append_left {front back : List LogEntry}
    (ascending : Ascending last (front ++ back)) : Ascending last front := by
  induction front generalizing last with
  | nil => trivial
  | cons entry front ih => exact ⟨ascending.1, ih ascending.2⟩

theorem Ascending.append {front back : List LogEntry} (ascendingFront : Ascending last front)
    (ascendingBack : Ascending (EventStore.lastEventId last front) back) :
    Ascending last (front ++ back) := by
  induction front generalizing last with
  | nil => exact ascendingBack
  | cons entry front ih => exact ⟨ascendingFront.1, ih ascendingFront.2 ascendingBack⟩

theorem lastEventId_append (last : Option Nat) (front back : List LogEntry) :
    lastEventId last (front ++ back) = lastEventId (lastEventId last front) back := by
  induction front generalizing last with
  | nil => rfl
  | cons entry front ih => exact ih _

theorem LogEntry.recordBytes_length (entry : LogEntry) :
    entry.recordBytes.length = entry.payloadBytes.length + recordOverhead :=
  encodeRecord_length entry.encoded

theorem length_le_logBytes (log : List LogEntry) : log.length ≤ (logBytes log).length := by
  induction log with
  | nil => exact Nat.le_refl _
  | cons entry log ih =>
      have sized := entry.recordBytes_length
      simp only [recordOverhead_eq] at sized
      simp only [List.length_cons, logBytes_cons, List.length_append]
      omega

private theorem envelopeToEvent_eventId {eventId : Nat} {envelope : PyValue} {event : Event}
    (converted : envelopeToEvent eventId envelope = .ok event) : event.eventId = eventId := by
  unfold envelopeToEvent at converted
  split at converted
  · simp only [bind, Except.bind, pure, Except.pure] at converted
    repeat' split at converted
    all_goals cases converted
    rfl
  · cases converted

theorem loadEvent_eventId {eventId : Nat} {payloadBytes : Bytes} {event : Event}
    (loaded : loadEvent eventId payloadBytes = .ok event) : event.eventId = eventId := by
  unfold loadEvent at loaded
  split at loaded
  · cases loaded
  · cases loaded
  · exact envelopeToEvent_eventId loaded

def ScanResult.prepend (events : List Event) (result : ScanResult) : ScanResult :=
  { result with events := events ++ result.events }

private theorem scanLoop_entry (before behind : Bytes) (entry : LogEntry)
    (above : ∀ id, last = some id → id < entry.eventId) (fuel : Nat) :
    scanLoop (before ++ (entry.recordBytes ++ behind)) (fuel + 1) before.length last =
      (scanLoop (before ++ (entry.recordBytes ++ behind)) fuel
        (before.length + entry.recordBytes.length) (some entry.eventId)).map
        (ScanResult.cons entry.event) := by
  have sized := entry.recordBytes_length
  simp only [recordOverhead_eq] at sized
  have unread : before.length < (before ++ (entry.recordBytes ++ behind)).length := by
    simp only [List.length_append]
    omega
  have sameId := loadEvent_eventId entry.loaded
  rw [scanLoop, if_pos unread, decodeRecord_encoded entry.encoded]
  simp only [entry.loaded, sameId]
  cases last with
  | none => rfl
  | some id =>
      have ordered := above id rfl
      exact if_neg (Nat.not_le.mpr ordered)

private theorem scanLoop_log (before behind : Bytes) (log : List LogEntry)
    (ascending : Ascending last log)
    (fuel : Nat) :
    scanLoop (before ++ (logBytes log ++ behind)) (log.length + fuel) before.length last =
      (scanLoop (before ++ (logBytes log ++ behind)) fuel (before.length + (logBytes log).length)
        (lastEventId last log)).map (ScanResult.prepend (logEvents log)) := by
  induction log generalizing before last with
  | nil =>
      simp only [logBytes_nil, List.nil_append, List.length_nil, Nat.zero_add, Nat.add_zero,
        lastEventId]
      cases scanLoop (before ++ behind) fuel before.length last <;> rfl
  | cons entry log ih =>
      have rest := ih (before ++ entry.recordBytes) ascending.2
      simp only [List.length_append, List.append_assoc] at rest
      rw [logBytes_cons, List.append_assoc, List.length_cons, Nat.add_right_comm,
        scanLoop_entry before (logBytes log ++ behind) entry ascending.1, rest]
      simp only [List.length_append, Nat.add_assoc, lastEventId]
      cases scanLoop (before ++ (entry.recordBytes ++ (logBytes log ++ behind))) fuel
        (before.length + (entry.recordBytes.length + (logBytes log).length))
        (lastEventId (some entry.eventId) log) <;> rfl

theorem scanFile_log (log : List LogEntry) (behind : Bytes) (ascending : Ascending none log) :
    scanFile (some (logBytes log ++ behind)) =
      (scanLoop (logBytes log ++ behind) ((logBytes log ++ behind).length - log.length)
        (logBytes log).length (lastEventId none log)).map fun result =>
          (logEvents log ++ result.events,
            { validEventCount := log.length + result.events.length
              tailTruncated := result.tailTruncated
              discardedByteCount := (logBytes log ++ behind).length - result.offset },
            result.offset) := by
  have enough := length_le_logBytes log
  have split : (logBytes log ++ behind).length =
      log.length + ((logBytes log ++ behind).length - log.length) := by
    simp only [List.length_append]
    omega
  have scanned := scanLoop_log [] behind log ascending
    ((logBytes log ++ behind).length - log.length)
  simp only [List.nil_append, List.length_nil, Nat.zero_add, ← split] at scanned
  simp only [scanFile, scanned]
  cases scanLoop (logBytes log ++ behind) ((logBytes log ++ behind).length - log.length)
      (logBytes log).length (lastEventId none log) with
  | error exception => rfl
  | ok result => simp [Except.map, ScanResult.prepend]

theorem scanFile_logBytes (log : List LogEntry) (ascending : Ascending none log) :
    scanFile (some (logBytes log)) =
      .ok (logEvents log,
        { validEventCount := log.length, tailTruncated := false, discardedByteCount := 0 },
        (logBytes log).length) := by
  have scanned := scanFile_log log [] ascending
  simp only [List.append_nil] at scanned
  rw [scanned, scanLoop_finished _ _ (Nat.le_refl _)]
  simp [Except.map]

/-- From `offset` on, the loop has read exactly the records of `log`. -/
structure HasRead (data : Bytes) (offset : Nat) (last : Option Nat) (result : ScanResult)
    (log : List LogEntry) : Prop where
  events : result.events = logEvents log
  ascending : Ascending last log
  forward : offset ≤ result.offset
  inside : result.offset ≤ data.length
  bytes : slice data offset result.offset = logBytes log
  toTheEnd : result.tailTruncated = false → result.offset = data.length

private theorem map_eq_ok {Error First Second : Type} {f : First → Second}
    {outcome : Except Error First} {result : Second} (mapped : outcome.map f = .ok result) :
    ∃ value, outcome = .ok value ∧ f value = result := by
  cases outcome with
  | error error => cases mapped
  | ok value =>
      cases mapped
      exact ⟨value, rfl, rfl⟩

theorem HasRead.stop {offset : Nat} {torn : Bool} (inside : offset ≤ data.length)
    (atEnd : torn = false → offset = data.length) :
    HasRead data offset last { events := [], offset, tailTruncated := torn } [] :=
  { events := rfl
    ascending := trivial
    forward := Nat.le_refl _
    inside
    bytes := by simp [slice]
    toTheEnd := atEnd }

theorem HasRead.cons {offset : Nat} {result : ScanResult} {log : List LogEntry} (entry : LogEntry)
    (above : ∀ id, last = some id → id < entry.eventId) (consumed : Nat)
    (record : slice data offset (offset + consumed) = entry.recordBytes)
    (rest : HasRead data (offset + consumed) (some entry.eventId) result log) :
    HasRead data offset last (result.cons entry.event) (entry :: log) :=
  { events := by rw [logEvents_cons, ← rest.events]; rfl
    ascending := ⟨above, rest.ascending⟩
    forward := Nat.le_of_add_right_le rest.forward
    inside := rest.inside
    bytes := by
      rw [logBytes_cons, ← record, ← rest.bytes]
      exact (slice_join data (Nat.le_add_right _ _) rest.forward).symm
    toTheEnd := rest.toTheEnd }

/-- The bytes that the loop passed over are a log, whose events it returns; without a
torn tail they reach the end of the file. -/
theorem scanLoop_sound {fuel offset : Nat} {result : ScanResult}
    (covers : data.length ≤ offset + fuel) (inside : offset ≤ data.length)
    (scanned : scanLoop data fuel offset last = .ok result) :
    ∃ log, HasRead data offset last result log := by
  induction fuel generalizing offset last result with
  | zero =>
      cases scanned
      exact ⟨[], .stop inside (fun _ => by omega)⟩
  | succ fuel ih =>
      rw [scanLoop] at scanned
      split at scanned
      · split at scanned
        · cases scanned
          exact ⟨[], .stop inside (fun impossible => by cases impossible)⟩
        · cases scanned
        · cases scanned
        · split at scanned
          · cases scanned
            exact ⟨[], .stop inside (fun impossible => by cases impossible)⟩
          · cases scanned
        · rename_i record decoded
          obtain ⟨recordInside, encoded⟩ := decodeRecord_sound decoded
          have progress := (decodeRecord_consumed decoded).1
          split at scanned
          · cases scanned
          · rename_i event loaded
            have sameId := loadEvent_eventId loaded
            obtain ⟨above, rest, restScanned, rfl⟩ :
                (∀ id, last = some id → id < record.eventId) ∧
                  ∃ rest, scanLoop data fuel (offset + record.consumedBytes) (some record.eventId) =
                    .ok rest ∧ rest.cons event = result := by
              rw [sameId] at scanned
              cases last with
              | none => exact ⟨(fun id known => by cases known), map_eq_ok scanned⟩
              | some last =>
                  dsimp only at scanned
                  split at scanned
                  · cases scanned
                  · rename_i ordered
                    refine ⟨fun id known => ?_, map_eq_ok scanned⟩
                    cases known
                    omega
            obtain ⟨log, read⟩ := ih (by omega) recordInside restScanned
            exact ⟨_, read.cons
              { eventId := record.eventId, payloadBytes := record.payloadBytes
                recordBytes := _, event, encoded, loaded } above record.consumedBytes rfl⟩
      · rename_i finished
        cases scanned
        exact ⟨[], .stop inside (fun _ => by omega)⟩

theorem scanFile_sound {events : List Event} {report : RecoveryReport} {lastValidOffset : Nat}
    (scanned : scanFile (some data) = .ok (events, report, lastValidOffset)) :
    ∃ log, events = logEvents log ∧ Ascending none log ∧
      data.take lastValidOffset = logBytes log ∧ lastValidOffset ≤ data.length ∧
      report.discardedByteCount = data.length - lastValidOffset ∧
      (report.tailTruncated = false → lastValidOffset = data.length) := by
  unfold scanFile at scanned
  dsimp only at scanned
  cases looped : scanLoop data data.length 0 none with
  | error exception =>
      rw [looped] at scanned
      cases scanned
  | ok result =>
      rw [looped] at scanned
      cases scanned
      obtain ⟨log, read⟩ := scanLoop_sound (by omega) (Nat.zero_le _) looped
      refine ⟨log, read.events, read.ascending, ?_, read.inside, rfl, read.toTheEnd⟩
      have bytes := read.bytes
      rwa [slice, List.drop_zero, Nat.sub_zero] at bytes

end TurtleExecution.EventStore

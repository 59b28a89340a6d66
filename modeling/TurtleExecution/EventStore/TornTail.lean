/-
Recovery from a torn tail.

A crash during an append leaves a byte-prefix of the file that the append was
writing.  Whatever byte the prefix ends at, the scan returns the records that
are whole, stops behind the last of them and reports a torn tail exactly when
the prefix ends inside a record.
-/

import TurtleExecution.EventStore.Log

set_option autoImplicit false

namespace TurtleExecution.EventStore

def writtenRecords (firstId : Nat) : List Envelope → Option (List Bytes)
  | [] => some []
  | envelope :: envelopes =>
      match (PyValue.dumps envelope.value).bind (encodeRecord firstId),
          writtenRecords (firstId + 1) envelopes with
      | some record, some records => some (record :: records)
      | _, _ => none

def storedEvents (firstId : Nat) : List Envelope → Option (List Event)
  | [] => some []
  | envelope :: envelopes =>
      match envelope.storedEvent firstId, storedEvents (firstId + 1) envelopes with
      | some event, some events => some (event :: events)
      | _, _ => none

/-- How many of the records lie wholly in the first `kept` bytes. -/
def wholeRecords : List Bytes → Nat → Nat
  | [], _ => 0
  | record :: records, kept =>
      if record.length ≤ kept then wholeRecords records (kept - record.length) + 1 else 0

/-- The first `kept` bytes end strictly inside one of the records. -/
def CutsInside (records : List Bytes) (kept : Nat) : Prop :=
  ∃ count, (records.take count).flatten.length < kept ∧
    kept < (records.take (count + 1)).flatten.length

def Consecutive (firstId : Nat) : List LogEntry → Prop
  | [] => True
  | entry :: log => entry.eventId = firstId ∧ Consecutive (firstId + 1) log

theorem Consecutive.ascending {firstId : Nat} {log : List LogEntry}
    (consecutive : Consecutive firstId log) {last : Option Nat}
    (above : ∀ id, last = some id → id < firstId) : Ascending last log := by
  induction log generalizing firstId last with
  | nil => trivial
  | cons entry log ih =>
      obtain ⟨sameId, rest⟩ := consecutive
      refine ⟨fun id known => by rw [sameId]; exact above id known, ih rest ?_⟩
      intro id known
      cases known
      omega

private theorem writtenRecords_log {firstId : Nat} {envelopes : List Envelope} {records : List Bytes}
    (written : writtenRecords firstId envelopes = some records) :
    ∃ log : List LogEntry, log.map LogEntry.recordBytes = records ∧
      storedEvents firstId envelopes = some (logEvents log) ∧ Consecutive firstId log := by
  induction envelopes generalizing firstId records with
  | nil =>
      cases written
      exact ⟨[], rfl, rfl, trivial⟩
  | cons envelope envelopes ih =>
      unfold writtenRecords at written
      split at written
      · rename_i record rest encodes restWritten
        cases written
        obtain ⟨log, sameRecords, stored, consecutive⟩ := ih restWritten
        obtain ⟨payloadBytes, dumped, encoded⟩ := Option.bind_eq_some_iff.mp encodes
        obtain ⟨event, storedEvent, loaded⟩ := loadEvent_written firstId dumped
        refine ⟨{ eventId := firstId, payloadBytes, recordBytes := record, event, encoded, loaded } :: log,
          ?_, ?_, rfl, consecutive⟩
        · rw [List.map_cons, sameRecords]
        · simp only [storedEvents, storedEvent, stored, logEvents_cons]
      · cases written

private theorem wholeRecords_spec (records : List Bytes) {kept : Nat}
    (inside : kept ≤ records.flatten.length) :
    wholeRecords records kept ≤ records.length ∧
    (records.take (wholeRecords records kept)).flatten.length ≤ kept ∧
      (kept = (records.take (wholeRecords records kept)).flatten.length ∨
        ∃ record later, records.drop (wholeRecords records kept) = record :: later ∧
          kept < (records.take (wholeRecords records kept)).flatten.length + record.length) := by
  induction records generalizing kept with
  | nil =>
      simp only [List.flatten_nil, List.length_nil, Nat.le_zero] at inside
      subst inside
      exact ⟨Nat.le_refl _, Nat.le_refl _, Or.inl rfl⟩
  | cons record records ih =>
      rw [List.flatten_cons, List.length_append] at inside
      by_cases fits : record.length ≤ kept
      · have restInside : kept - record.length ≤ records.flatten.length := by omega
        obtain ⟨counted, below, ends⟩ := ih restInside
        simp only [wholeRecords, if_pos fits, List.take_succ_cons, List.drop_succ_cons,
          List.flatten_cons, List.length_append, List.length_cons]
        refine ⟨by omega, by omega, ?_⟩
        rcases ends with atEnd | ⟨next, later, follows, short⟩
        · exact Or.inl (by omega)
        · exact Or.inr ⟨next, later, follows, by omega⟩
      · simp only [wholeRecords, if_neg fits, List.take_zero, List.drop_zero, List.flatten_nil,
          List.length_nil]
        exact ⟨Nat.zero_le _, Nat.zero_le _, Or.inr ⟨record, records, rfl, by omega⟩⟩

private theorem take_flatten_length_mono (records : List Bytes) {fewer more : Nat}
    (ordered : fewer ≤ more) :
    (records.take fewer).flatten.length ≤ (records.take more).flatten.length := by
  have split := List.take_append_drop fewer (records.take more)
  rw [List.take_take, Nat.min_eq_left ordered] at split
  rw [← split, List.flatten_append, List.length_append]
  omega

private theorem cutsInside_iff (records : List Bytes) {kept : Nat}
    (inside : kept ≤ records.flatten.length) :
    CutsInside records kept ↔
      (records.take (wholeRecords records kept)).flatten.length < kept := by
  obtain ⟨_, below, ends⟩ := wholeRecords_spec records inside
  generalize wholeRecords records kept = whole at below ends ⊢
  constructor
  · rintro ⟨count, after, before⟩
    rcases ends with atEnd | ⟨record, later, follows, short⟩
    · -- a boundary is not strictly between two consecutive boundaries
      rw [atEnd] at after before
      rcases Nat.lt_or_ge count whole with smaller | larger
      · have mono := take_flatten_length_mono records (show count + 1 ≤ whole from smaller)
        omega
      · have mono := take_flatten_length_mono records larger
        omega
    · rcases Nat.lt_or_ge count whole with smaller | larger
      · have mono := take_flatten_length_mono records (show count + 1 ≤ whole from smaller)
        omega
      · have mono := take_flatten_length_mono records larger
        omega
  · intro beyond
    rcases ends with atEnd | ⟨record, later, follows, short⟩
    · omega
    · refine ⟨whole, beyond, ?_⟩
      have next : records.take (whole + 1) = records.take whole ++ [record] := by
        have found : records[whole]? = some record := by
          rw [← List.head?_drop, follows, List.head?_cons]
        rw [List.take_add_one, found, Option.toList_some]
      rw [next, List.flatten_append, List.length_append, List.flatten_singleton]
      exact short

private theorem scanLoop_cut (before : Bytes) (entry : LogEntry) {cut : Nat} (nonempty : 0 < cut)
    (short : cut < entry.recordBytes.length) (fuel : Nat) (last : Option Nat) :
    scanLoop (before ++ entry.recordBytes.take cut) (fuel + 1) before.length last =
      .ok { events := [], offset := before.length, tailTruncated := true } := by
  have unread : before.length < (before ++ entry.recordBytes.take cut).length := by
    simp only [List.length_append, List.length_take]
    omega
  obtain ⟨message, truncated⟩ := decodeRecord_truncated entry.encoded before short
  rw [scanLoop, if_pos unread, truncated]

theorem scanFile_cut (log : List LogEntry) (entry : LogEntry) (ascending : Ascending none log)
    {cut : Nat} (nonempty : 0 < cut) (short : cut < entry.recordBytes.length) :
    scanFile (some (logBytes log ++ entry.recordBytes.take cut)) =
      .ok (logEvents log,
        { validEventCount := log.length, tailTruncated := true, discardedByteCount := cut },
        (logBytes log).length) := by
  have cutLength : (entry.recordBytes.take cut).length = cut := by
    rw [List.length_take]
    omega
  have enough := length_le_logBytes log
  obtain ⟨fuel, fuelEq⟩ : ∃ fuel,
      (logBytes log ++ entry.recordBytes.take cut).length - log.length = fuel + 1 :=
    ⟨(logBytes log ++ entry.recordBytes.take cut).length - log.length - 1, by
      rw [List.length_append, cutLength]
      omega⟩
  rw [scanFile_log log _ ascending, fuelEq, scanLoop_cut (logBytes log) entry nonempty short]
  simp [Except.map, cutLength]

private theorem scanFile_take (log : List LogEntry) (ascending : Ascending none log)
    {kept whole : Nat}
    (counted : whole ≤ log.length) (below : (logBytes (log.take whole)).length ≤ kept)
    (ends : kept = (logBytes (log.take whole)).length ∨
      ∃ entry later, log.drop whole = entry :: later ∧
        kept < (logBytes (log.take whole)).length + entry.recordBytes.length) :
    scanFile (some ((logBytes log).take kept)) =
      .ok (logEvents (log.take whole),
        { validEventCount := whole
          tailTruncated := decide ((logBytes (log.take whole)).length < kept)
          discardedByteCount := kept - (logBytes (log.take whole)).length },
        (logBytes (log.take whole)).length) := by
  have wholeLength : (log.take whole).length = whole := List.length_take_of_le counted
  have divided : logBytes log = logBytes (log.take whole) ++ logBytes (log.drop whole) := by
    rw [← logBytes_append, List.take_append_drop]
  have ascendingWhole : Ascending none (log.take whole) := by
    rw [← List.take_append_drop whole log] at ascending
    exact ascending.append_left
  by_cases boundary : kept = (logBytes (log.take whole)).length
  · rw [divided, boundary, List.take_left, scanFile_logBytes _ ascendingWhole, wholeLength]
    simp
  · obtain ⟨entry, later, following, short⟩ := ends.resolve_left boundary
    rw [divided, List.take_append, List.take_of_length_le below, following, logBytes_cons,
      List.take_append_of_le_length (by omega),
      scanFile_cut _ entry ascendingWhole (by omega) (by omega), wholeLength,
      decide_eq_true (by omega)]

/-- For every byte-prefix of a written log, the scan returns exactly the records
that lie wholly in it, never raises, and reports a torn tail exactly when the
prefix cuts inside a record. -/
theorem scanFile_bytePrefix {envelopes : List Envelope} {records : List Bytes}
    (written : writtenRecords 1 envelopes = some records) {kept : Nat}
    (inside : kept ≤ records.flatten.length) :
    ∃ events report, storedEvents 1 envelopes = some events ∧
      scanFile (some (records.flatten.take kept)) =
        .ok (events.take (wholeRecords records kept), report,
          (records.take (wholeRecords records kept)).flatten.length) ∧
      (report.tailTruncated = true ↔ CutsInside records kept) ∧
      report.validEventCount = wholeRecords records kept ∧
      report.discardedByteCount =
        kept - (records.take (wholeRecords records kept)).flatten.length := by
  obtain ⟨log, rfl, stored, consecutive⟩ := writtenRecords_log written
  obtain ⟨counted, below, ends⟩ := wholeRecords_spec _ inside
  have cuts := cutsInside_iff _ inside
  generalize wholeRecords (log.map LogEntry.recordBytes) kept = whole at counted below ends cuts ⊢
  have wholeBytes : ((log.map LogEntry.recordBytes).take whole).flatten =
      logBytes (log.take whole) := by
    rw [← List.map_take]
    rfl
  rw [wholeBytes] at below ends cuts ⊢
  rw [List.length_map] at counted
  have endsInLog : kept = (logBytes (log.take whole)).length ∨
      ∃ entry later, log.drop whole = entry :: later ∧
        kept < (logBytes (log.take whole)).length + entry.recordBytes.length := by
    refine ends.imp_right ?_
    rintro ⟨record, later, follows, short⟩
    rw [← List.map_drop] at follows
    obtain ⟨entry, rest, following, rfl, rfl⟩ := List.map_eq_cons_iff.mp follows
    exact ⟨entry, rest, following, short⟩
  have scanned := scanFile_take log (consecutive.ascending (fun id known => nomatch known)) counted
    below endsInLog
  have sameEvents : logEvents (log.take whole) = (logEvents log).take whole := by
    simp only [logEvents, List.map_take]
  rw [sameEvents] at scanned
  refine ⟨logEvents log, _, stored, scanned, ?_, rfl, rfl⟩
  rw [decide_eq_true_iff, cuts]

private theorem startedEnvelopes_written :
    writtenRecords 1 [startedEnvelope, startedEnvelope] =
      some [startedRecord 1, startedRecord 2] := by
  simp only [writtenRecords, startedPayload_dumped, Option.bind_some,
    startedPayload_encoded (show 1 < 256 ^ 8 by decide),
    startedPayload_encoded (show 1 + 1 < 256 ^ 8 by decide)]

theorem scanFile_bytePrefix_twoRecords :
    ∃ events report, storedEvents 1 [startedEnvelope, startedEnvelope] = some events ∧
      scanFile (some ([startedRecord 1, startedRecord 2].flatten.take 200)) =
        .ok (events.take (wholeRecords [startedRecord 1, startedRecord 2] 200), report,
          ([startedRecord 1, startedRecord 2].take
            (wholeRecords [startedRecord 1, startedRecord 2] 200)).flatten.length) ∧
      (report.tailTruncated = true ↔ CutsInside [startedRecord 1, startedRecord 2] 200) ∧
      report.validEventCount = wholeRecords [startedRecord 1, startedRecord 2] 200 ∧
      report.discardedByteCount = 200 - ([startedRecord 1, startedRecord 2].take
        (wholeRecords [startedRecord 1, startedRecord 2] 200)).flatten.length :=
  scanFile_bytePrefix startedEnvelopes_written
    (by simp [startedRecord, startedPayload_length])

end TurtleExecution.EventStore

/-
Damage to a record in the middle of the log.

The scanner takes a record that claims to reach the end of the file, or beyond,
for a torn final write.  Damage to the length field of any record can make that
claim, so exactly the altered headers that keep the magic and the version and
declare an end at or behind the end of the file escape detection.
-/

import TurtleExecution.EventStore.Store

set_option autoImplicit false

namespace TurtleExecution.EventStore

open BigEndian

def LogEntry.header (entry : LogEntry) : Bytes :=
  headerOf entry.eventId entry.payloadBytes.length

def LogEntry.checksum (entry : LogEntry) : Bytes :=
  sha256 (entry.header ++ entry.payloadBytes)

/-- A record of which one part, the header, the payload or the checksum, was
replaced by other bytes of the same number. -/
inductive Altered (entry : LogEntry) : Bytes → Bytes → Bytes → Prop
  | header {header : Bytes} (sized : header.length = entry.header.length)
      (differs : header ≠ entry.header) : Altered entry header entry.payloadBytes entry.checksum
  | payload {payloadBytes : Bytes} (sized : payloadBytes.length = entry.payloadBytes.length)
      (differs : payloadBytes ≠ entry.payloadBytes) :
      Altered entry entry.header payloadBytes entry.checksum
  | checksum {checksum : Bytes} (sized : checksum.length = entry.checksum.length)
      (differs : checksum ≠ entry.checksum) :
      Altered entry entry.header entry.payloadBytes checksum

/-- The digest that the scanner finds behind the payload that `header` declares is
the digest of what it hashes only if that is what the writer hashed. -/
def CollisionFree (entry : LogEntry) (header body : Bytes) : Prop :=
  slice body (declaredLength header) (declaredLength header + checksumSize) =
      sha256 (header ++ slice body 0 (declaredLength header)) →
    header ++ slice body 0 (declaredLength header) = entry.header ++ entry.payloadBytes

/-- The header shows the damage: its magic or its version is wrong, or the record it
declares ends before the last of the `available` bytes. -/
def BetraysDamage (header : Bytes) (available : Nat) : Prop :=
  slice header 0 4 ≠ magic ∨ declaredVersion header ≠ formatVersion ∨
    headerSize + declaredLength header + checksumSize < available

@[simp] theorem LogEntry.header_length (entry : LogEntry) : entry.header.length = headerSize :=
  headerOf_length _ _

@[simp] theorem LogEntry.checksum_length (entry : LogEntry) :
    entry.checksum.length = checksumSize := by
  simp [LogEntry.checksum]

theorem LogEntry.declaredLength_header (entry : LogEntry) :
    declaredLength entry.header = entry.payloadBytes.length :=
  headerOf_payloadLength _ (encodeRecord_eq_some entry.encoded).2.1

variable {entry : LogEntry} {header payloadBytes checksum : Bytes}

theorem Altered.header_length (altered : Altered entry header payloadBytes checksum) :
    header.length = headerSize := by
  cases altered with
  | header sized differs => rw [sized, entry.header_length]
  | payload sized differs => exact entry.header_length
  | checksum sized differs => exact entry.header_length

theorem Altered.body_length (altered : Altered entry header payloadBytes checksum) :
    (payloadBytes ++ checksum).length = entry.payloadBytes.length + checksumSize := by
  cases altered with
  | header sized differs => simp
  | payload sized differs => simp [sized]
  | checksum sized differs => simp [sized]

theorem Altered.mismatch (altered : Altered entry header payloadBytes checksum) (behind : Bytes)
    (collisionFree : CollisionFree entry header (payloadBytes ++ checksum ++ behind)) :
    slice (payloadBytes ++ checksum ++ behind) (declaredLength header)
        (declaredLength header + checksumSize) ≠
      sha256 (header ++ slice (payloadBytes ++ checksum ++ behind) 0 (declaredLength header)) := by
  intro agrees
  have hashed := collisionFree agrees
  obtain ⟨sameHeader, samePayload⟩ := List.append_inj hashed
    (altered.header_length.trans entry.header_length.symm)
  cases altered with
  | header sized differs => exact differs sameHeader
  | payload sized differs =>
      rw [entry.declaredLength_header, ← sized, List.append_assoc,
        slice_append_left _ _ (Nat.le_refl _), slice_full _ rfl] at samePayload
      exact differs samePayload
  | checksum sized differs =>
      rw [hashed, entry.declaredLength_header,
        slice_middle entry.payloadBytes checksum behind rfl (by rw [sized, entry.checksum_length])]
        at agrees
      exact differs agrees

/-- What the loop makes of an altered record: damage that the header betrays raises,
other damage passes for a torn tail. -/
theorem scanLoop_altered (before : Bytes) (altered : Altered entry header payloadBytes checksum)
    (behind : Bytes)
    (collisionFree : CollisionFree entry header (payloadBytes ++ checksum ++ behind)) (fuel : Nat)
    (last : Option Nat) :
    (BetraysDamage header (header ++ (payloadBytes ++ checksum ++ behind)).length →
      ∃ message, scanLoop (before ++ (header ++ (payloadBytes ++ checksum ++ behind))) (fuel + 1)
        before.length last = .error (.corruptEventStore message)) ∧
    (¬ BetraysDamage header (header ++ (payloadBytes ++ checksum ++ behind)).length →
      scanLoop (before ++ (header ++ (payloadBytes ++ checksum ++ behind))) (fuel + 1)
        before.length last = .ok { events := [], offset := before.length, tailTruncated := true }) := by
  have sized := altered.header_length
  have unread : before.length < (before ++ (header ++ (payloadBytes ++ checksum ++ behind))).length := by
    rw [headerSize_eq] at sized
    simp only [List.length_append]
    omega
  have mismatch := altered.mismatch behind collisionFree
  have decoded := decodeRecord_frame before header (payloadBytes ++ checksum ++ behind) sized
  have total : (header ++ (payloadBytes ++ checksum ++ behind)).length =
      headerSize + (payloadBytes ++ checksum ++ behind).length := by
    rw [List.length_append, sized]
  have fileLength : (before ++ (header ++ (payloadBytes ++ checksum ++ behind))).length =
      before.length + headerSize + (payloadBytes ++ checksum ++ behind).length := by
    rw [List.length_append, total, Nat.add_assoc]
  generalize payloadBytes ++ checksum ++ behind = body at *
  rw [scanLoop, if_pos unread, decoded, total, fileLength]
  by_cases badMagic : slice header 0 4 ≠ magic
  · rw [if_pos badMagic]
    exact ⟨fun _ => ⟨_, rfl⟩, fun hidden => absurd (Or.inl badMagic) hidden⟩
  rw [if_neg badMagic]
  by_cases badVersion : declaredVersion header ≠ formatVersion
  · rw [if_pos badVersion]
    exact ⟨fun _ => ⟨_, rfl⟩, fun hidden => absurd (Or.inr (Or.inl badVersion)) hidden⟩
  rw [if_neg badVersion]
  have betrays : BetraysDamage header (headerSize + body.length) ↔
      declaredLength header + checksumSize < body.length := by
    simp only [BetraysDamage, badMagic, badVersion, false_or]
    omega
  rw [betrays]
  by_cases short : body.length < declaredLength header + checksumSize
  · rw [if_pos short]
    exact ⟨fun long => absurd long (by omega), fun _ => rfl⟩
  · rw [if_neg short, if_pos mismatch]
    dsimp only
    by_cases atEnd : before.length + headerSize + declaredLength header + checksumSize =
        before.length + headerSize + body.length
    · rw [if_pos atEnd]
      exact ⟨fun long => absurd long (by omega), fun _ => rfl⟩
    · rw [if_neg atEnd]
      exact ⟨fun _ => ⟨_, rfl⟩, fun notLong => absurd notLong (by omega)⟩

def alteredFile (front back : List LogEntry) (header payloadBytes checksum : Bytes) : Bytes :=
  logBytes front ++ (header ++ (payloadBytes ++ checksum ++ logBytes back))

def bytesFromRecord (entry : LogEntry) (back : List LogEntry) : Nat :=
  entry.recordBytes.length + (logBytes back).length

private theorem scanFile_altered {front : List LogEntry} (back : List LogEntry)
    (ascending : Ascending none front) (altered : Altered entry header payloadBytes checksum)
    (collisionFree : CollisionFree entry header (payloadBytes ++ checksum ++ logBytes back)) :
    (BetraysDamage header (bytesFromRecord entry back) →
      ∃ message, scanFile (some (alteredFile front back header payloadBytes checksum)) =
        .error (.corruptEventStore message)) ∧
    (¬ BetraysDamage header (bytesFromRecord entry back) →
      scanFile (some (alteredFile front back header payloadBytes checksum)) =
        .ok (logEvents front,
          { validEventCount := front.length
            tailTruncated := true
            discardedByteCount := bytesFromRecord entry back },
          (logBytes front).length)) := by
  have available : (header ++ (payloadBytes ++ checksum ++ logBytes back)).length =
      bytesFromRecord entry back := by
    rw [List.length_append, List.length_append, altered.header_length, altered.body_length,
      bytesFromRecord, entry.recordBytes_length, headerSize_eq, checksumSize_eq,
      recordOverhead_eq]
    omega
  have enough := length_le_logBytes front
  have positive : 0 < bytesFromRecord entry back := by
    rw [bytesFromRecord, entry.recordBytes_length, recordOverhead_eq]
    omega
  have total : (alteredFile front back header payloadBytes checksum).length =
      (logBytes front).length + bytesFromRecord entry back := by
    rw [alteredFile, List.length_append, available]
  obtain ⟨fuel, fuelEq⟩ : ∃ fuel,
      (alteredFile front back header payloadBytes checksum).length - front.length = fuel + 1 :=
    ⟨(alteredFile front back header payloadBytes checksum).length - front.length - 1, by omega⟩
  have scanned := scanFile_log front (header ++ (payloadBytes ++ checksum ++ logBytes back)) ascending
  obtain ⟨detected, hidden⟩ := scanLoop_altered (logBytes front) altered (logBytes back)
    collisionFree fuel (lastEventId none front)
  rw [available] at detected hidden
  unfold alteredFile at total fuelEq ⊢
  rw [fuelEq] at scanned
  rw [scanned]
  constructor
  · intro betrays
    obtain ⟨message, raised⟩ := detected betrays
    exact ⟨message, by rw [raised]; rfl⟩
  · intro unbetrayed
    rw [hidden unbetrayed, total]
    simp [Except.map]

private theorem openStore_corrupt_iff (content : Bytes) (message : String) :
    openStore content = .error (.corruptEventStore message) ↔
      scanFile (some content) = .error (.corruptEventStore message) := by
  unfold openStore
  cases scanFile (some content) with
  | error exception => simp
  | ok result =>
      simp only [reduceCtorEq, iff_false]
      split <;> simp

/-- Opening a log with one altered record raises `CorruptEventStoreError` exactly when
the header of that record betrays the damage. -/
theorem openStore_altered_iff {front back : List LogEntry} {entry : LogEntry}
    {header payloadBytes checksum : Bytes}
    (ascending : Ascending none (front ++ entry :: back))
    (altered : Altered entry header payloadBytes checksum)
    (collisionFree : CollisionFree entry header (payloadBytes ++ checksum ++ logBytes back)) :
    (∃ message, openStore (alteredFile front back header payloadBytes checksum) =
        .error (.corruptEventStore message)) ↔
      BetraysDamage header (bytesFromRecord entry back) := by
  obtain ⟨detected, hidden⟩ := scanFile_altered back ascending.append_left altered
    collisionFree
  constructor
  · rintro ⟨message, raised⟩
    by_contra unbetrayed
    rw [openStore_corrupt_iff, hidden unbetrayed] at raised
    cases raised
  · intro betrays
    obtain ⟨message, raised⟩ := detected betrays
    exact ⟨message, (openStore_corrupt_iff _ _).mpr raised⟩

private theorem openStore_altered_hidden {front back : List LogEntry}
    (ascending : Ascending none front)
    (altered : Altered entry header payloadBytes checksum)
    (collisionFree : CollisionFree entry header (payloadBytes ++ checksum ++ logBytes back))
    (unbetrayed : ¬ BetraysDamage header (bytesFromRecord entry back)) {index : Dict PyKey Nat}
    (indexed : buildIdempotencyIndex (logEvents front) = some index) :
    ∃ store, openStore (alteredFile front back header payloadBytes checksum) = .ok store ∧
      store.events = logEvents front ∧ store.file.content = logBytes front := by
  have scanned := (scanFile_altered back ascending altered collisionFree).2 unbetrayed
  have positive : 0 < bytesFromRecord entry back := by
    rw [bytesFromRecord, entry.recordBytes_length, recordOverhead_eq]
    omega
  refine ⟨_, by simp only [openStore, scanned, indexed]; rfl, rfl, ?_⟩
  simp [positive, LogFile.ftruncate, LogFile.seekEnd, alteredFile]

def startedEntry (eventId : Nat) (fits : eventId < 256 ^ 8) : LogEntry :=
  { eventId
    payloadBytes := startedPayload
    recordBytes := startedRecord eventId
    event := startedEnvelope.eventWith eventId []
    encoded := startedPayload_encoded fits
    loaded := startedPayload_loaded eventId }

def firstEntry : LogEntry := startedEntry 1 (by decide)

def secondEntry : LogEntry := startedEntry 2 (by decide)

private theorem firstEntry_secondEntry_ascending : Ascending none [firstEntry, secondEntry] := by
  simp only [Ascending, reduceCtorEq, false_implies, implies_true, Option.some.injEq,
    forall_eq', and_true, true_and]
  decide

def overlongHeader : Bytes :=
  magic ++ (toBigEndian 1 formatVersion ++ toBigEndian 8 1 ++ [255, 255, 255, 255])

private theorem overlongHeader_altered :
    Altered firstEntry overlongHeader firstEntry.payloadBytes firstEntry.checksum := by
  refine Altered.header ?_ ?_
  · rw [firstEntry.header_length]
    decide
  · intro same
    have lengths := congrArg declaredLength same
    rw [firstEntry.declaredLength_header] at lengths
    change declaredLength overlongHeader = startedPayload.length at lengths
    rw [startedPayload_length] at lengths
    revert lengths
    decide

private theorem overlongHeader_unbetrayed :
    ¬ BetraysDamage overlongHeader (bytesFromRecord firstEntry [secondEntry]) := by
  have available : bytesFromRecord firstEntry [secondEntry] = 308 := by
    simp only [bytesFromRecord, logBytes_cons, logBytes_nil, List.append_nil,
      LogEntry.recordBytes_length]
    change startedPayload.length + 49 + (startedPayload.length + 49) = 308
    rw [startedPayload_length]
  rw [available]
  rintro (badMagic | badVersion | short)
  · exact badMagic (by decide)
  · exact badVersion (by decide)
  · revert short
    decide

private theorem overlongHeader_collisionFree :
    CollisionFree firstEntry overlongHeader
      (firstEntry.payloadBytes ++ firstEntry.checksum ++ logBytes [secondEntry]) := by
  intro agrees
  have lengths := congrArg List.length agrees
  rw [sha256_length, slice, List.length_take, List.length_drop] at lengths
  have short : (firstEntry.payloadBytes ++ firstEntry.checksum ++ logBytes [secondEntry]).length =
      291 := by
    simp only [List.length_append, LogEntry.checksum_length, checksumSize_eq, logBytes_cons,
      logBytes_nil, List.append_nil, LogEntry.recordBytes_length, recordOverhead_eq]
    change startedPayload.length + 32 + (startedPayload.length + 49) = 291
    rw [startedPayload_length]
  have long : declaredLength overlongHeader = 4294967295 := by decide
  rw [short, long] at lengths
  simp at lengths

/-- Damage to a length field can go undetected: two records, the length of the first
one altered, open as an empty history. -/
theorem openStore_altered_undetected :
    ¬ ∀ (front back : List LogEntry) (entry : LogEntry) (header payloadBytes checksum : Bytes),
      Ascending none (front ++ entry :: back) → back ≠ [] →
      Altered entry header payloadBytes checksum →
      CollisionFree entry header (payloadBytes ++ checksum ++ logBytes back) →
      ∃ message, openStore (alteredFile front back header payloadBytes checksum) =
        .error (.corruptEventStore message) := by
  intro detects
  obtain ⟨message, raised⟩ := detects [] [secondEntry] firstEntry overlongHeader _ _
    firstEntry_secondEntry_ascending
    (List.cons_ne_nil _ _) overlongHeader_altered overlongHeader_collisionFree
  have emptyAscending : Ascending none [] := trivial
  have noKeys : buildIdempotencyIndex (logEvents []) = some [] := rfl
  obtain ⟨store, opened, _⟩ := openStore_altered_hidden emptyAscending
    overlongHeader_altered overlongHeader_collisionFree overlongHeader_unbetrayed noKeys
  rw [opened] at raised
  cases raised

theorem openStore_altered_iff_overlong :
    (∃ message, openStore (alteredFile [] [secondEntry] overlongHeader firstEntry.payloadBytes
        firstEntry.checksum) = .error (.corruptEventStore message)) ↔
      BetraysDamage overlongHeader (bytesFromRecord firstEntry [secondEntry]) :=
  @openStore_altered_iff [] [secondEntry] firstEntry _ _ _ firstEntry_secondEntry_ascending
    overlongHeader_altered overlongHeader_collisionFree

end TurtleExecution.EventStore

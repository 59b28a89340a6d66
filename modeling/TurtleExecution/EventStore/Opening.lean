/-
What opening makes of an arbitrary file.

The framing of a record does not look into its payload, so the records that a scan
comes to are a matter of the bytes alone.  The scan has no handler around the reading of
a payload: it fails in its own way exactly when each of these payloads can be read.
-/

import TurtleExecution.EventStore.Log
import TurtleExecution.Foundation.Arithmetic

set_option autoImplicit false

namespace TurtleExecution.EventStore

/-- The payload is the JSON of an object with the fields of an envelope: a known event
type, two more that may hold anything, and a payload that `dict` takes. -/
def Readable (payloadBytes : Bytes) : Prop :=
  ∃ (items : PyDict) (name : String) (eventType : EventType)
    (timestampUtc schemaVersion payload : PyValue) (entries : PyDict),
    PyValue.loads payloadBytes = .ok (.dict items) ∧
    Dict.get? items (.str "event_type") = some (.str name) ∧
    EventType.ofValue? name = some eventType ∧
    Dict.get? items (.str "timestamp_utc") = some timestampUtc ∧
    Dict.get? items (.str "schema_version") = some schemaVersion ∧
    Dict.get? items (.str "payload") = some payload ∧ dictOf payload = .ok entries

private theorem item_eq_ok {envelope : PyDict} {key : String} {value : PyValue} :
    item envelope key = .ok value ↔ Dict.get? envelope (.str key) = some value := by
  unfold item
  cases Dict.get? envelope (.str key) with
  | none => simp
  | some found => simp

private theorem eventTypeOf_eq_ok {value : PyValue} {eventType : EventType} :
    eventTypeOf value = .ok eventType ↔
      ∃ name : String, value = .str name ∧ EventType.ofValue? name = some eventType := by
  cases value with
  | str text =>
      cases text with
      | scalars name =>
          unfold eventTypeOf
          cases found : EventType.ofValue? name with
          | none => simp [found]
          | some other => simp [found]
      | surrogates text => simp [eventTypeOf]
  | _ => simp [eventTypeOf]

private theorem loadEvent_ok_iff {eventId : Nat} {payloadBytes : Bytes} :
    (∃ event, loadEvent eventId payloadBytes = .ok event) ↔ Readable payloadBytes := by
  constructor
  · rintro ⟨event, loaded⟩
    unfold loadEvent at loaded
    split at loaded
    · cases loaded
    · cases loaded
    · rename_i envelope parsed
      cases envelope with
      | dict items =>
          obtain ⟨named, hasType, afterType⟩ := ok_of_bind loaded
          obtain ⟨eventType, isKnown, afterKnown⟩ := ok_of_bind afterType
          obtain ⟨timestampUtc, hasTimestamp, afterTimestamp⟩ := ok_of_bind afterKnown
          obtain ⟨schemaVersion, hasVersion, afterVersion⟩ := ok_of_bind afterTimestamp
          obtain ⟨payload, hasPayload, afterPayload⟩ := ok_of_bind afterVersion
          obtain ⟨entries, isDict, _⟩ := ok_of_bind afterPayload
          obtain ⟨name, rfl, found⟩ := eventTypeOf_eq_ok.mp isKnown
          exact ⟨items, name, eventType, timestampUtc, schemaVersion, payload, entries, parsed,
            item_eq_ok.mp hasType, found, item_eq_ok.mp hasTimestamp, item_eq_ok.mp hasVersion,
            item_eq_ok.mp hasPayload, isDict⟩
      | _ => cases loaded
  · rintro ⟨items, name, eventType, timestampUtc, schemaVersion, payload, entries, parsed, hasType,
      found, hasTimestamp, hasVersion, hasPayload, isDict⟩
    have isKnown := eventTypeOf_eq_ok.mpr ⟨name, rfl, found⟩
    simp only [loadEvent, parsed, envelopeToEvent, item_eq_ok.mpr hasType, isKnown,
      item_eq_ok.mpr hasTimestamp, item_eq_ok.mpr hasVersion, item_eq_ok.mpr hasPayload, isDict,
      bind, Except.bind, pure, Except.pure, Except.ok.injEq, exists_eq']

def NotCorrupt {Value : Type} (computation : Except PyException Value) : Prop :=
  ∀ message, computation ≠ .error (.corruptEventStore message)

private theorem notCorrupt_bind {Value Next : Type} {computation : Except PyException Value}
    {next : Value → Except PyException Next} (first : NotCorrupt computation)
    (rest : ∀ value, NotCorrupt (next value)) : NotCorrupt (computation >>= next) := by
  cases computation with
  | error exception =>
      intro message raised
      cases raised
      exact first message rfl
  | ok value => exact rest value

private theorem notCorrupt_item (envelope : PyDict) (key : String) : NotCorrupt
    (item envelope key) := by
  intro message raised
  unfold item at raised
  split at raised
  · cases raised
  · cases raised

private theorem notCorrupt_eventTypeOf (value : PyValue) : NotCorrupt (eventTypeOf value) := by
  intro message raised
  unfold eventTypeOf at raised
  split at raised
  · split at raised
    · cases raised
    · cases raised
  · cases raised

private theorem notCorrupt_dictOfPairs (items : List PyValue) (entries : PyDict) :
    NotCorrupt (dictOfPairs entries items) := by
  induction items generalizing entries with
  | nil =>
      intro message raised
      cases raised
  | cons item items ih =>
      intro message raised
      unfold dictOfPairs at raised
      split at raised
      · split at raised
        · exact ih _ message raised
        · cases raised
      · cases raised
      · cases raised

private theorem notCorrupt_dictOf (value : PyValue) : NotCorrupt (dictOf value) := by
  intro message raised
  unfold dictOf at raised
  split at raised
  · cases raised
  · split at raised
    · exact notCorrupt_dictOfPairs _ _ message raised
    · cases raised

private theorem notCorrupt_loadEvent (eventId : Nat) (payloadBytes : Bytes) :
    NotCorrupt (loadEvent eventId payloadBytes) := by
  intro message raised
  unfold loadEvent at raised
  split at raised
  · cases raised
  · cases raised
  · rename_i envelope _
    cases envelope with
    | dict items =>
        refine notCorrupt_bind (notCorrupt_item _ _) (fun named => ?_) message raised
        refine notCorrupt_bind (notCorrupt_eventTypeOf _) fun eventType => ?_
        refine notCorrupt_bind (notCorrupt_item _ _) fun timestampUtc => ?_
        refine notCorrupt_bind (notCorrupt_item _ _) fun schemaVersion => ?_
        refine notCorrupt_bind (notCorrupt_item _ _) fun payload => ?_
        refine notCorrupt_bind (notCorrupt_dictOf _) fun entries => ?_
        intro message impossible
        cases impossible
    | _ => cases raised

def follows (last : Option Nat) (eventId : Nat) : Bool :=
  match last with
  | none => true
  | some last => decide (last < eventId)

/-- The records from an offset on that are framed, with their checksums, up to the first
whose id is not above the one before. -/
def framedRecords (data : Bytes) : Nat → Nat → Option Nat → List DecodedRecord
  | 0, _, _ => []
  | fuel + 1, offset, last =>
      if offset < data.length then
        match decodeRecord data offset with
        | .error _ => []
        | .ok record =>
            record ::
              if follows last record.eventId then
                framedRecords data fuel (offset + record.consumedBytes) (some record.eventId)
              else []
      else []

def recordsOf (data : Bytes) : List DecodedRecord :=
  framedRecords data data.length 0 none

variable {data : Bytes} {offset : Nat}

private theorem scanLoop_record {record : DecodedRecord} {event : Event}
    (unread : offset < data.length)
    (decoded : decodeRecord data offset = .ok record)
    (loaded : loadEvent record.eventId record.payloadBytes = .ok event) (fuel : Nat)
    (last : Option Nat) :
    (follows last record.eventId = true →
      scanLoop data (fuel + 1) offset last =
        (scanLoop data fuel (offset + record.consumedBytes) (some record.eventId)).map
          (ScanResult.cons event)) ∧
    (follows last record.eventId = false →
      ∃ message, scanLoop data (fuel + 1) offset last = .error (.corruptEventStore message)) := by
  have sameId := loadEvent_eventId loaded
  rw [scanLoop, if_pos unread, decoded]
  dsimp only
  rw [loaded]
  dsimp only
  rw [sameId]
  cases last with
  | none => exact ⟨fun _ => rfl, fun impossible => by cases impossible⟩
  | some last =>
      constructor
      · intro above
        exact if_neg (Nat.not_le.mpr (of_decide_eq_true above))
      · intro notAbove
        exact ⟨_, if_pos (Nat.not_lt.mp (of_decide_eq_false notAbove))⟩

private theorem scanLoop_noRecord {error : RecordDecodeError} (unread : offset < data.length)
    (failed : decodeRecord data offset = .error error) (fuel : Nat) (last : Option Nat) :
    (∃ result, scanLoop data (fuel + 1) offset last = .ok result) ∨
      ∃ message, scanLoop data (fuel + 1) offset last = .error (.corruptEventStore message) := by
  rw [scanLoop, if_pos unread, failed]
  cases error with
  | incomplete message => exact Or.inl ⟨_, rfl⟩
  | badMagic message => exact Or.inr ⟨_, rfl⟩
  | unsupportedVersion message => exact Or.inr ⟨_, rfl⟩
  | checksumMismatch message endOffset =>
      dsimp only
      split
      · exact Or.inl ⟨_, rfl⟩
      · exact Or.inr ⟨_, rfl⟩

/-- One iteration that comes to a record without an event raises what the payload raises, which
is not the corruption error. -/
theorem scanLoop_unloadable {record : DecodedRecord} {exception : PyException}
    (unread : offset < data.length) (decoded : decodeRecord data offset = .ok record)
    (raises : loadEvent record.eventId record.payloadBytes = .error exception) (fuel : Nat)
    (last : Option Nat) :
    ¬((∃ result, scanLoop data (fuel + 1) offset last = .ok result) ∨
      ∃ message, scanLoop data (fuel + 1) offset last = .error (.corruptEventStore message)) := by
  have raised : scanLoop data (fuel + 1) offset last = .error exception := by
    rw [scanLoop, if_pos unread, decoded]
    dsimp only
    rw [raises]
  rintro (⟨result, returned⟩ | ⟨message, corrupt⟩)
  · rw [raised] at returned
    cases returned
  · rw [raised] at corrupt
    cases corrupt
    exact notCorrupt_loadEvent _ _ message raises

/-- The scan raises nothing of its own but the corruption error exactly when each record
it comes to is readable. -/
theorem scanLoop_ownWay_iff (fuel : Nat) {last : Option Nat} :
    ((∃ result, scanLoop data fuel offset last = .ok result) ∨
        ∃ message, scanLoop data fuel offset last = .error (.corruptEventStore message)) ↔
      ∀ record ∈ framedRecords data fuel offset last, Readable record.payloadBytes := by
  induction fuel generalizing offset last with
  | zero => simp [scanLoop, framedRecords]
  | succ fuel ih =>
      by_cases unread : offset < data.length
      · cases decoded : decodeRecord data offset with
        | error error =>
            have noRecord : framedRecords data (fuel + 1) offset last = [] := by
              rw [framedRecords, if_pos unread, decoded]
            rw [noRecord]
            exact iff_of_true (scanLoop_noRecord unread decoded fuel last) (by simp)
        | ok record =>
            have records : framedRecords data (fuel + 1) offset last =
                record ::
                  if follows last record.eventId then
                    framedRecords data fuel (offset + record.consumedBytes) (some record.eventId)
                  else [] := by
              rw [framedRecords, if_pos unread, decoded]
            rw [records, List.forall_mem_cons]
            cases loaded : loadEvent record.eventId record.payloadBytes with
            | error exception =>
                refine iff_of_false (scanLoop_unloadable unread decoded loaded fuel last)
                  fun readable => ?_
                obtain ⟨event, isOk⟩ := loadEvent_ok_iff.mpr readable.1
                rw [loaded] at isOk
                cases isOk
            | ok event =>
                have readable := loadEvent_ok_iff.mp ⟨event, loaded⟩
                obtain ⟨goesOn, stops⟩ := scanLoop_record unread decoded loaded fuel last
                rw [and_iff_right readable]
                cases above : follows last record.eventId with
                | true =>
                    rw [goesOn above, if_pos rfl, ← ih]
                    cases scanLoop data fuel (offset + record.consumedBytes) (some record.eventId) with
                    | ok result => simp [Except.map]
                    | error exception => simp [Except.map]
                | false =>
                    rw [if_neg (by simp)]
                    exact iff_of_true (Or.inr (stops above)) (by simp)
      · have finished := Nat.not_lt.mp unread
        rw [scanLoop_finished _ _ finished, framedRecords, if_neg unread]
        exact iff_of_true (Or.inl ⟨_, rfl⟩) (by simp)

/-- The records read tile the file from its start to the offset, with growing ids. -/
structure ValidScan (data : Bytes) (events : List Event) (report : RecoveryReport)
    (lastValidOffset : Nat) : Prop where
  tiles : ∃ log, events = logEvents log ∧ Ascending none log ∧
    data.take lastValidOffset = logBytes log
  inside : lastValidOffset ≤ data.length
  counted : report.validEventCount = events.length
  discarded : report.discardedByteCount = data.length - lastValidOffset
  toTheEnd : report.tailTruncated = false → lastValidOffset = data.length

/-- The loop ends, since as many iterations as the file has bytes are never used up, and
the scan returns a valid result or raises `CorruptEventStoreError`. -/
def ScansOwnWay (data : Bytes) : Prop :=
  (∀ more, scanLoop data (data.length + more) 0 none = scanLoop data data.length 0 none) ∧
    ((∃ events report lastValidOffset,
        scanFile (some data) = .ok (events, report, lastValidOffset) ∧
          ValidScan data events report lastValidOffset) ∨
      ∃ message, scanFile (some data) = .error (.corruptEventStore message))

private theorem validScan_of_scanFile {events : List Event} {report : RecoveryReport}
    {lastValidOffset : Nat} (scanned : scanFile (some data) = .ok (events, report, lastValidOffset)) :
    ValidScan data events report lastValidOffset := by
  obtain ⟨log, isLog, ascending, bytes, inside, discarded, toTheEnd⟩ := scanFile_sound scanned
  have counted : report.validEventCount = events.length := by
    obtain ⟨result, _, same⟩ := ok_of_map scanned
    cases same
    rfl
  exact { tiles := ⟨log, isLog, ascending, bytes⟩, inside, counted, discarded, toTheEnd }

/-- Opening fails in its own way exactly on the files whose framed records, as far as
their ids grow, all hold a readable envelope. -/
theorem scanFile_ownWay_iff (data : Bytes) :
    ScansOwnWay data ↔ ∀ record ∈ recordsOf data, Readable record.payloadBytes := by
  have terminates : ∀ more,
      scanLoop data (data.length + more) 0 none = scanLoop data data.length 0 none :=
    scanLoop_fuel data none (by omega)
  unfold ScansOwnWay recordsOf
  rw [and_iff_right terminates, ← scanLoop_ownWay_iff]
  constructor
  · rintro (⟨events, report, lastValidOffset, scanned, _⟩ | ⟨message, corrupt⟩)
    · obtain ⟨result, looped, _⟩ := ok_of_map scanned
      exact Or.inl ⟨result, looped⟩
    · unfold scanFile at corrupt
      cases looped : scanLoop data data.length 0 none with
      | ok result =>
          simp only [looped, Except.map] at corrupt
          cases corrupt
      | error exception =>
          simp only [looped, Except.map, Except.error.injEq] at corrupt
          exact Or.inr ⟨message, congrArg Except.error corrupt⟩
  · rintro (⟨result, looped⟩ | ⟨message, corrupt⟩)
    · left
      have scanned : ∃ read, scanFile (some data) = .ok read := by
        unfold scanFile
        simp only [looped, Except.map, Except.ok.injEq, exists_eq']
      obtain ⟨⟨events, report, lastValidOffset⟩, read⟩ := scanned
      exact ⟨events, report, lastValidOffset, read, validScan_of_scanFile read⟩
    · right
      refine ⟨message, ?_⟩
      unfold scanFile
      simp only [corrupt, Except.map]

def fieldlessPayload : Bytes := (PyValue.dumps (.dict [])).getD []

def fieldlessRecord : Bytes := (encodeRecord 1 fieldlessPayload).getD []

private theorem fieldlessPayload_loaded : loadEvent 1 fieldlessPayload = .error
    (.keyError "event_type") := by
  have dumped : PyValue.dumps (.dict []) = some fieldlessPayload := rfl
  obtain ⟨image, isImage, loaded⟩ := PyValue.loads_dumps dumped
  cases isImage
  rw [loadEvent, loaded]
  rfl

private theorem fieldlessRecord_encoded : encodeRecord 1 fieldlessPayload = some fieldlessRecord := by
  unfold fieldlessRecord
  rw [encodeRecord_of_fits (by decide) (by decide)]
  rfl

/-- A record with a valid checksum around `{}` makes the scan raise `KeyError`. -/
theorem fieldlessRecord_raises :
    scanFile (some fieldlessRecord) = .error (.keyError "event_type") ∧
      ¬ ScansOwnWay fieldlessRecord := by
  have decoded := decodeRecord_encoded fieldlessRecord_encoded [] []
  have sized := encodeRecord_length fieldlessRecord_encoded
  rw [recordOverhead_eq] at sized
  rw [List.append_nil, List.nil_append, List.length_nil] at decoded
  have raised : scanFile (some fieldlessRecord) = .error (.keyError "event_type") := by
    have looped : scanLoop fieldlessRecord fieldlessRecord.length 0 none =
        .error (.keyError "event_type") := by
      obtain ⟨fuel, isFuel⟩ : ∃ fuel, fieldlessRecord.length = fuel + 1 :=
        ⟨fieldlessRecord.length - 1, by omega⟩
      rw [isFuel, scanLoop, if_pos (by omega), decoded]
      dsimp only
      rw [fieldlessPayload_loaded]
    unfold scanFile
    simp only [looped, Except.map]
  refine ⟨raised, ?_⟩
  rintro ⟨_, ⟨events, report, lastValidOffset, scanned, _⟩ | ⟨message, corrupt⟩⟩
  · rw [raised] at scanned
    cases scanned
  · rw [raised] at corrupt
    cases corrupt

end TurtleExecution.EventStore

/-
The read-only scan of a log file.

`scanLoop` is the `while` loop of `_scan_file`: it decodes record after record,
stops at a torn tail, and refuses what a crash during an append cannot explain.
Its fuel bounds the number of iterations; a record takes at least
`recordOverhead` bytes, so `data.length` iterations are never used up.
-/

import TurtleExecution.EventStore.Types
import TurtleExecution.EventStore.Framing

set_option autoImplicit false

namespace TurtleExecution.EventStore

/-- The items that iterating over a value yields, or `none` for `TypeError`. -/
def iterate : PyValue → Option (List PyValue)
  | .list items => some items
  | .tuple items => some items
  | .str text => some (text.points.map fun point => .str (.ofPoints [point]))
  | .dict entries => some (entries.map fun entry =>
      match entry.1 with
      | .str text => .str text
      | .int value => .int value
      | .bool value => .bool value
      | .none => .none
      | .float literal => .float (.finite literal)
      | .other _ => .other)
  | _ => none

def hashKey : PyValue → Option PyKey
  | .str text => some (.str text)
  | .int value => some (.int value)
  | .bool value => some (.bool value)
  | .none => some .none
  | .float (.finite literal) => some (.float literal)
  | .float (.nan _) => some (.other "nan")
  | .float (.infinity negative) => some (.other (if negative then "-inf" else "inf"))
  | _ => none

/-- `dict(items)` for an iterable of pairs, from the entries built so far. -/
def dictOfPairs (entries : PyDict) : List PyValue → Except PyException PyDict
  | [] => .ok entries
  | item :: items =>
      match iterate item with
      | some [key, value] =>
          match hashKey key with
          | some key => dictOfPairs (Dict.set entries key value) items
          | none => .error .typeError
      | some _ => .error .valueError
      | none => .error .typeError

def dictOf (value : PyValue) : Except PyException PyDict :=
  match value with
  | .dict entries => .ok entries
  | value =>
      match iterate value with
      | some items => dictOfPairs [] items
      | none => .error .typeError

def item (envelope : PyDict) (key : String) : Except PyException PyValue :=
  match Dict.get? envelope (.str key) with
  | some value => .ok value
  | none => .error (.keyError key)

def eventTypeOf (value : PyValue) : Except PyException EventType :=
  match value with
  | .str (.scalars text) =>
      match EventType.ofValue? text with
      | some eventType => .ok eventType
      | none => .error .valueError
  | _ => .error .valueError

def envelopeToEvent (eventId : Nat) (envelope : PyValue) : Except PyException Event :=
  match envelope with
  | .dict envelope => do
      let eventType ← eventTypeOf (← item envelope "event_type")
      let timestampUtc ← item envelope "timestamp_utc"
      let schemaVersion ← item envelope "schema_version"
      let idempotencyKey := (Dict.get? envelope (.str "idempotency_key")).getD .none
      let payload ← dictOf (← item envelope "payload")
      return { eventId, eventType, timestampUtc, schemaVersion, idempotencyKey
               payload := deepFreezeEntries payload }
  | _ => .error .typeError

def loadEvent (eventId : Nat) (payloadBytes : Bytes) : Except PyException Event :=
  match PyValue.loads payloadBytes with
  | .error .unicodeDecode => .error .unicodeDecodeError
  | .error .jsonDecode => .error .jsonDecodeError
  | .ok envelope => envelopeToEvent eventId envelope

/-- Where the loop stopped: the events read, the offset behind the last of them,
and whether a torn tail follows. -/
structure ScanResult where
  events : List Event
  offset : Nat
  tailTruncated : Bool

def ScanResult.cons (event : Event) (result : ScanResult) : ScanResult :=
  { result with events := event :: result.events }

def scanLoop (data : Bytes) : Nat → Nat → Option Nat → Except PyException ScanResult
  | 0, offset, _ => .ok { events := [], offset, tailTruncated := false }
  | fuel + 1, offset, lastEventId =>
      if offset < data.length then
        match decodeRecord data offset with
        | .error (.incomplete _) => .ok { events := [], offset, tailTruncated := true }
        | .error (.badMagic message) =>
            .error (.corruptEventStore s!"corrupt event record at byte offset {offset}: {message}")
        | .error (.unsupportedVersion message) =>
            .error (.corruptEventStore
              s!"unsupported record format at byte offset {offset}: {message}")
        | .error (.checksumMismatch message endOffset) =>
            if endOffset = data.length then
              .ok { events := [], offset, tailTruncated := true }
            else
              .error (.corruptEventStore
                s!"corrupt event record at byte offset {offset}: {message}")
        | .ok record =>
            match loadEvent record.eventId record.payloadBytes with
            | .error exception => .error exception
            | .ok event =>
                match lastEventId with
                | some last =>
                    if event.eventId ≤ last then
                      .error (.corruptEventStore
                        s!"non-monotonic or duplicate event_id {event.eventId} following {last} at byte offset {offset}")
                    else
                      (scanLoop data fuel (offset + record.consumedBytes)
                        (some event.eventId)).map (ScanResult.cons event)
                | none =>
                    (scanLoop data fuel (offset + record.consumedBytes)
                      (some event.eventId)).map (ScanResult.cons event)
      else .ok { events := [], offset, tailTruncated := false }

/-- `_scan_file`; `none` is a path that does not exist. -/
def scanFile (content : Option Bytes) :
    Except PyException (List Event × RecoveryReport × Nat) :=
  match content with
  | none =>
      .ok ([], { validEventCount := 0, tailTruncated := false, discardedByteCount := 0 }, 0)
  | some data =>
      (scanLoop data data.length 0 none).map fun result =>
        (result.events,
          { validEventCount := result.events.length
            tailTruncated := result.tailTruncated
            discardedByteCount := data.length - result.offset },
          result.offset)

theorem decodeRecord_consumed {data : Bytes} {offset : Nat} {record : DecodedRecord}
    (decoded : decodeRecord data offset = .ok record) :
    0 < record.consumedBytes ∧ offset + record.consumedBytes ≤ data.length := by
  obtain ⟨inside, encoded⟩ := decodeRecord_sound decoded
  have sized := encodeRecord_length encoded
  rw [slice_length data inside, recordOverhead_eq] at sized
  omega

theorem scanLoop_finished {data : Bytes} {offset : Nat} (fuel : Nat) (lastEventId : Option Nat)
    (finished : data.length ≤ offset) :
    scanLoop data fuel offset lastEventId =
      .ok { events := [], offset, tailTruncated := false } := by
  cases fuel with
  | zero => rfl
  | succ fuel => rw [scanLoop, if_neg (Nat.not_lt.mpr finished)]

/-- The fuel is never used up: once it covers the bytes that are left, more of it
changes nothing. -/
theorem scanLoop_fuel (data : Bytes) {fuel offset : Nat} (lastEventId : Option Nat)
    (covers : data.length ≤ offset + fuel) (more : Nat) :
    scanLoop data (fuel + more) offset lastEventId = scanLoop data fuel offset lastEventId := by
  induction fuel generalizing offset lastEventId with
  | zero =>
      have finished : data.length ≤ offset := covers
      rw [scanLoop_finished _ _ finished, scanLoop_finished _ _ finished]
  | succ fuel ih =>
      rw [Nat.add_right_comm, scanLoop, scanLoop]
      by_cases unread : offset < data.length
      · rw [if_pos unread, if_pos unread]
        cases decoded : decodeRecord data offset with
        | error error => cases error <;> rfl
        | ok record =>
            have consumed := decodeRecord_consumed decoded
            have next : ∀ last, scanLoop data (fuel + more) (offset + record.consumedBytes) last =
                scanLoop data fuel (offset + record.consumedBytes) last :=
              fun last => ih last (by omega)
            simp only [next]
      · rw [if_neg unread, if_neg unread]

end TurtleExecution.EventStore

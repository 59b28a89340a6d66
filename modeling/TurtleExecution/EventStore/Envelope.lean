/-
The envelope that `append` writes and the event that a scan reads back from it.

The payload comes back as its JSON image: the items sorted by key, every key a
string, tuples as lists, surrogates that stand as a pair as one character.  Freezing
then makes the lists tuples again.
-/

import TurtleExecution.EventStore.Scan

set_option autoImplicit false

namespace TurtleExecution.EventStore

/-- The fields of the envelope, in the types that `append` gives them. -/
structure Envelope where
  eventType : EventType
  timestampUtc : String
  schemaVersion : Int
  idempotencyKey : Option PyStr
  payload : PyDict

def optionalText : Option PyStr → PyValue
  | some text => .str text
  | none => .none

namespace Envelope

def value (envelope : Envelope) : PyValue :=
  .dict
    [(.str "event_type", .str envelope.eventType.value),
      (.str "timestamp_utc", .str envelope.timestampUtc),
      (.str "schema_version", .int envelope.schemaVersion),
      (.str "idempotency_key", optionalText envelope.idempotencyKey),
      (.str "payload", .dict envelope.payload)]

def eventWith (envelope : Envelope) (eventId : Nat) (payload : PyDict) : Event :=
  { eventId
    eventType := envelope.eventType
    timestampUtc := .str envelope.timestampUtc
    schemaVersion := .int envelope.schemaVersion
    idempotencyKey := optionalText envelope.idempotencyKey
    payload := deepFreezeEntries payload }

def event (envelope : Envelope) (eventId : Nat) : Event :=
  envelope.eventWith eventId envelope.payload

def withKeyRead (envelope : Envelope) : Envelope :=
  { envelope with idempotencyKey := envelope.idempotencyKey.map fun key => key.joined.text }

end Envelope

def rereadKey : PyValue → PyValue
  | .str text => .str text.joined.text
  | value => value

def rereadDict (entries : PyDict) : Option PyDict :=
  ((PyValue.toJsonEntries entries).bind PyValue.sortedMembers).map (PyValue.ofJsonMembers [])

def Event.readBack (event : Event) : Option Event :=
  (rereadDict event.payload).map fun payload =>
    { event with
      idempotencyKey := rereadKey event.idempotencyKey
      payload := deepFreezeEntries payload }

def Envelope.storedEvent (envelope : Envelope) (eventId : Nat) : Option Event :=
  (rereadDict envelope.payload).map (envelope.withKeyRead.eventWith eventId)

mutual
theorem toJson_deepFreeze : ∀ value : PyValue,
    PyValue.toJson (deepFreeze value) = PyValue.toJson value
  | .dict entries => by
      rw [deepFreeze, PyValue.toJson, PyValue.toJson, toJsonEntries_deepFreeze entries]
  | .list items => by
      rw [deepFreeze, PyValue.toJson, PyValue.toJson, toJsonItems_deepFreeze items]
  | .tuple _ | .none | .bool _ | .int _ | .float _ | .str _ | .other => rfl

theorem toJsonItems_deepFreeze : ∀ items : List PyValue,
    PyValue.toJsonItems (deepFreezeItems items) = PyValue.toJsonItems items
  | [] => rfl
  | item :: items => by
      rw [deepFreezeItems, PyValue.toJsonItems, PyValue.toJsonItems, toJson_deepFreeze item,
        toJsonItems_deepFreeze items]

private theorem toJsonEntries_deepFreeze : ∀ entries : PyDict,
    PyValue.toJsonEntries (deepFreezeEntries entries) = PyValue.toJsonEntries entries
  | [] => rfl
  | (key, value) :: entries => by
      rw [deepFreezeEntries, PyValue.toJsonEntries, PyValue.toJsonEntries,
        toJson_deepFreeze value, toJsonEntries_deepFreeze entries]
end

theorem Envelope.event_readBack (envelope : Envelope) (eventId : Nat) :
    (envelope.event eventId).readBack = envelope.storedEvent eventId := by
  have sameKey : rereadKey (optionalText envelope.idempotencyKey) =
      optionalText envelope.withKeyRead.idempotencyKey := by
    unfold Envelope.withKeyRead
    cases envelope.idempotencyKey <;> rfl
  simp only [Event.readBack, Envelope.event, Envelope.eventWith, rereadDict,
    toJsonEntries_deepFreeze, Envelope.storedEvent, sameKey]
  rfl

private theorem envelopeToEvent_of_items (eventId : Nat) {envelope : Envelope}
    {items payload : PyDict}
    (eventType : Dict.get? items (.str "event_type") = some (.str envelope.eventType.value))
    (timestampUtc : Dict.get? items (.str "timestamp_utc") = some (.str envelope.timestampUtc))
    (schemaVersion : Dict.get? items (.str "schema_version") = some (.int envelope.schemaVersion))
    (idempotencyKey : Dict.get? items (.str "idempotency_key") =
      some (optionalText envelope.idempotencyKey))
    (payloadItem : Dict.get? items (.str "payload") = some (.dict payload)) :
    envelopeToEvent eventId (.dict items) = .ok (envelope.eventWith eventId payload) := by
  simp only [envelopeToEvent, item, eventTypeOf, dictOf, eventType, timestampUtc, schemaVersion,
    idempotencyKey, payloadItem, EventType.ofValue?_value, Option.getD_some, bind, Except.bind, pure,
    Except.pure, Envelope.eventWith]

def envelopeMembers (eventType timestamp schemaVersion key payload : Json) : List (JsonText × Json) :=
  [("event_type", eventType), ("idempotency_key", key), ("payload", payload),
    ("schema_version", schemaVersion), ("timestamp_utc", timestamp)]

private theorem sortedMembers_envelope (eventType timestamp schemaVersion key payload : Json) :
    PyValue.sortedMembers
        [(.str "event_type", eventType), (.str "timestamp_utc", timestamp),
          (.str "schema_version", schemaVersion), (.str "idempotency_key", key),
          (.str "payload", payload)] =
      some (envelopeMembers eventType timestamp schemaVersion key payload) := by
  rfl

private theorem ofJsonMembers_envelope (eventType timestamp schemaVersion key payload : Json) :
    PyValue.ofJsonMembers [] (envelopeMembers eventType timestamp schemaVersion key payload) =
      [(.str "event_type", PyValue.ofJson eventType), (.str "idempotency_key", PyValue.ofJson key),
        (.str "payload", PyValue.ofJson payload),
        (.str "schema_version", PyValue.ofJson schemaVersion),
        (.str "timestamp_utc", PyValue.ofJson timestamp)] := by
  rfl

private theorem toJson_value {envelope : Envelope} {tree : Json}
    (built : PyValue.toJson envelope.value = some tree) :
    ∃ members version, (PyValue.toJsonEntries envelope.payload).bind PyValue.sortedMembers =
        some members ∧
      PyValue.intNumber? envelope.schemaVersion = some version ∧
      tree = .object (envelopeMembers (.string envelope.eventType.value)
        (.string envelope.timestampUtc) (.number version)
        (envelope.idempotencyKey.elim .null fun key => .string key.joined) (.object members)) := by
  cases payloadTree : (PyValue.toJsonEntries envelope.payload).bind PyValue.sortedMembers with
  | none =>
      cases keyCase : envelope.idempotencyKey <;>
        simp [Envelope.value, optionalText, keyCase, PyValue.toJson, PyValue.toJsonEntries,
          payloadTree] at built
  | some members =>
      cases isVersion : PyValue.intNumber? envelope.schemaVersion with
      | none =>
          cases keyCase : envelope.idempotencyKey <;>
            simp [Envelope.value, PyValue.toJson, PyValue.toJsonEntries, isVersion] at built
      | some version =>
          refine ⟨members, version, rfl, rfl, ?_⟩
          cases keyCase : envelope.idempotencyKey <;>
            simpa [Envelope.value, optionalText, keyCase, PyValue.toJson, PyValue.toJsonEntries,
              payloadTree, isVersion, sortedMembers_envelope, eq_comm] using built

theorem loadEvent_written {envelope : Envelope} {payloadBytes : Bytes} (eventId : Nat)
    (written : PyValue.dumps envelope.value = some payloadBytes) :
    ∃ event, envelope.storedEvent eventId = some event ∧
      loadEvent eventId payloadBytes = .ok event := by
  obtain ⟨image, rereadImage, loaded⟩ := PyValue.loads_dumps written
  unfold PyValue.reread at rereadImage
  cases built : PyValue.toJson envelope.value with
  | none => simp [built] at rereadImage
  | some tree =>
      obtain ⟨members, version, payloadMembers, isVersion, rfl⟩ := toJson_value built
      simp only [built, Option.map_some, Option.some.injEq] at rereadImage
      subst rereadImage
      refine ⟨envelope.withKeyRead.eventWith eventId (PyValue.ofJsonMembers [] members), ?_, ?_⟩
      · simp only [Envelope.storedEvent, rereadDict, payloadMembers, Option.map_some]
      · simp only [loadEvent, loaded, PyValue.ofJson, ofJsonMembers_envelope]
        refine envelopeToEvent_of_items eventId rfl rfl ?_ ?_ rfl
        · exact congrArg some (PyValue.ofNumber_intNumber? isVersion)
        · unfold Envelope.withKeyRead
          cases envelope.idempotencyKey <;> rfl

def startedEnvelope : Envelope :=
  { eventType := .systemStarted
    timestampUtc := ""
    schemaVersion := 1
    idempotencyKey := none
    payload := [] }

def startedPayload : Bytes := (PyValue.dumps startedEnvelope.value).getD []

theorem startedPayload_dumped : PyValue.dumps startedEnvelope.value = some startedPayload := rfl

theorem startedPayload_length : startedPayload.length = 105 := by decide +kernel

theorem startedPayload_loaded (eventId : Nat) :
    loadEvent eventId startedPayload = .ok (startedEnvelope.eventWith eventId []) := by
  obtain ⟨event, stored, loaded⟩ := loadEvent_written eventId startedPayload_dumped
  cases stored
  exact loaded

def startedRecord (eventId : Nat) : Bytes :=
  headerOf eventId startedPayload.length ++ startedPayload ++
    sha256 (headerOf eventId startedPayload.length ++ startedPayload)

theorem startedPayload_encoded {eventId : Nat} (fits : eventId < 256 ^ 8) :
    encodeRecord eventId startedPayload = some (startedRecord eventId) :=
  encodeRecord_of_fits fits (by rw [startedPayload_length]; decide)

end TurtleExecution.EventStore

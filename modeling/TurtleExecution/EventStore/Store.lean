/-
The event store: opening, appending and reading.

A store holds the log file through a descriptor opened with `O_APPEND`: a write
goes to the end of the file and leaves the offset there, while `ftruncate` moves
no offset.  What the environment decides is an argument: the time of an append,
and `Faults`, the outcomes of its `os.write` and `os.fsync` calls.  The argument
types stand for the `isinstance` checks of `append`.
-/

import TurtleExecution.EventStore.Log

set_option autoImplicit false

namespace TurtleExecution.EventStore

structure LogFile where
  content : Bytes
  offset : Nat
  deriving DecidableEq, Repr

namespace LogFile

def write (file : LogFile) (data : Bytes) : LogFile :=
  { content := file.content ++ data, offset := (file.content ++ data).length }

def ftruncate (file : LogFile) (length : Nat) : LogFile :=
  { file with
    content := file.content.take length ++ List.replicate (length - file.content.length) 0 }

def seekEnd (file : LogFile) : LogFile :=
  { file with offset := file.content.length }

end LogFile

/-- What one `os.write` call does: it takes some of the bytes, or raises. -/
inductive WriteOutcome
  | wrote (count : Nat)
  | failed
  deriving DecidableEq, Repr

/-- The outcomes of the calls of one `append`.  Writes behind the listed ones take
all they are given. -/
structure Faults where
  writes : List WriteOutcome
  fsyncFails : Bool
  rollbackFsyncFails : Bool
  deriving DecidableEq, Repr

def Faults.none : Faults :=
  { writes := [], fsyncFails := false, rollbackFsyncFails := false }

inductive AppendError
  | eventStoreClosed (message : String)
  | malformedEvent (message : PyStr)
  /-- The `ValueError` that `str` and `repr` raise for an integer of too many digits. -/
  | valueError
  | structError
  | jsonError
  | keyError (eventId : Nat)
  | osError (message : String)
  deriving DecidableEq, Repr

/-- `_write_full`: the error it raises, if any, and the file it leaves. -/
def writeFull (file : LogFile) (data : Bytes) : List WriteOutcome → Option AppendError × LogFile
  | [] => (none, if data.isEmpty then file else file.write data)
  | outcome :: outcomes =>
      if data.isEmpty then (none, file)
      else
        match outcome with
        | .failed => (some (.osError "os.write() failed"), file)
        | .wrote count =>
            let written := min count data.length
            if written = 0 then (some (.osError "os.write() made no progress"), file)
            else writeFull (file.write (data.take written)) (data.drop written) outcomes

def maxPayloadBytes : Nat := 256 * 1024

def maxIdempotencyKeyLength : Nat := 200

def forbiddenKeySubstrings : List String :=
  ["secret", "private_key", "priv_key", "password", "passphrase", "api_key", "signing_key",
    "mnemonic", "seed_phrase"]

/-- `str.lower` as far as it yields ASCII characters: the forbidden names are
ASCII, so how other characters change does not matter to the search. -/
def lowerChar (char : Char) : List Char :=
  if char.toNat = 0x212A then ['k']
  else if char.toNat = 0x130 then ['i', Char.ofNat 0x307]
  else [char.toLower]

def lowerPoint : CodePoint → List CodePoint
  | .scalar char => (lowerChar char).map CodePoint.scalar
  | point => [point]

def lower (text : PyStr) : List CodePoint :=
  text.points.flatMap lowerPoint

/-- `str(key)`, or `none` where it raises. -/
def keyStr : PyKey → Option PyStr
  | .str text => some text
  | .int value => if FewDigits value then some (String.ofList (Json.printInt value)) else none
  | .bool true => some "True"
  | .bool false => some "False"
  | .none => some "None"
  | .float literal => some (String.ofList (Json.printFloat literal))
  | .other text => some text

def hasForbiddenName (name : PyStr) : Bool :=
  forbiddenKeySubstrings.any fun bad =>
    (lower name).tails.any (bad.toList.map CodePoint.scalar).isPrefixOf

inductive Finding
  | forbidden (path : PyStr)
  | valueError

mutual
/-- The path of the first dictionary key with a forbidden name.  The search goes
through dictionaries and lists, not through tuples. -/
def scanForbiddenKeys (path : PyStr) : PyValue → Option Finding
  | .dict entries => scanForbiddenEntries path entries
  | .list items => scanForbiddenItems path 0 items
  | _ => none

def scanForbiddenEntries (path : PyStr) : PyDict → Option Finding
  | [] => none
  | (key, value) :: entries =>
      match keyStr key with
      | none => some .valueError
      | some name =>
          let field := if path = "" then name else path ++ "." ++ name
          if hasForbiddenName name then some (.forbidden field)
          else
            match scanForbiddenKeys field value with
            | some found => some found
            | none => scanForbiddenEntries path entries

def scanForbiddenItems (path : PyStr) (index : Nat) : List PyValue → Option Finding
  | [] => none
  | item :: items =>
      match scanForbiddenKeys (path ++ s!"[{index}]") item with
      | some found => some found
      | none => scanForbiddenItems path (index + 1) items
end

structure AppendCall where
  eventType : EventType
  payload : PyDict
  idempotencyKey : Option PyStr
  schemaVersion : Int

def schemaVersionIssues (schemaVersion : Int) : List String :=
  if schemaVersion < 1 then [s!"schema_version must be a positive integer, got {schemaVersion}"]
  else []

def idempotencyKeyIssues : Option PyStr → List String
  | none => []
  | some key =>
      if key.isBlank then ["idempotency_key must be a non-empty string when provided"]
      else if maxIdempotencyKeyLength < key.length then
        [s!"idempotency_key exceeds {maxIdempotencyKeyLength} characters"]
      else []

/-- `_validate_new_event`: the error it raises.  The text of the JSON encoder's own exception
is left out. -/
def validateNewEvent (call : AppendCall) : Option AppendError :=
  if call.schemaVersion < 1 ∧ ¬ FewDigits call.schemaVersion then some .valueError
  else
    let issues := schemaVersionIssues call.schemaVersion ++ idempotencyKeyIssues call.idempotencyKey
    if issues ≠ [] then some (.malformedEvent ("; ".intercalate issues))
    else
      match scanForbiddenKeys "" (.dict call.payload) with
      | some .valueError => some .valueError
      | some (.forbidden path) =>
          some (.malformedEvent ("payload field '" ++ path ++
            "' has a name suggesting secret material -- events must never carry secrets; store a reference instead"))
      | none =>
          match PyValue.dumps (.dict call.payload) with
          | none => some (.malformedEvent "payload is not JSON-serializable: ")
          | some canonical =>
              if maxPayloadBytes < canonical.length then
                some (.malformedEvent
                  s!"payload is {canonical.length} bytes, exceeding the {maxPayloadBytes}-byte limit")
              else none

structure Store where
  file : LogFile
  events : List Event
  byId : Dict Nat Event
  idempotencyIndex : Dict PyKey Nat
  nextEventId : Nat
  recoveryReport : RecoveryReport
  closed : Bool

def indexById (events : List Event) : Dict Nat Event :=
  events.foldl (fun byId event => Dict.set byId event.eventId event) []

/-- The index with the key of one event, unless that is `None`; `none` where the key is
not hashable. -/
def indexEvent (index : Dict PyKey Nat) (event : Event) : Option (Dict PyKey Nat) :=
  match event.idempotencyKey with
  | .none => some index
  | key => (hashKey key).map fun key => Dict.set index key event.eventId

def buildIdempotencyIndex (events : List Event) : Option (Dict PyKey Nat) :=
  events.foldlM indexEvent []

/-- `EventStore.__init__` on a file with the given content, the lock acquired. -/
def openStore (content : Bytes) : Except PyException Store :=
  match scanFile (some content) with
  | .error exception => .error exception
  | .ok (events, report, lastValidOffset) =>
      let opened : LogFile := { content, offset := 0 }
      let recovered :=
        if report.tailTruncated && 0 < report.discardedByteCount then
          opened.ftruncate lastValidOffset
        else opened
      match buildIdempotencyIndex events with
      | none => .error .typeError
      | some idempotencyIndex =>
          .ok
            { file := recovered.seekEnd
              events
              byId := indexById events
              idempotencyIndex
              nextEventId := match events.getLast? with
                | some event => event.eventId + 1
                | none => 1
              recoveryReport := report
              closed := false }

/-- The event stored under a key, looked up as `append` does. -/
def storedUnder (store : Store) (key : Option PyStr) : Option (Except AppendError Event) :=
  match key with
  | none => none
  | some key =>
      match Dict.get? store.idempotencyIndex (.str key) with
      | none => none
      | some eventId =>
          match Dict.get? store.byId eventId with
          | some event => some (.ok event)
          | none => some (.error (.keyError eventId))

def AppendCall.envelope (call : AppendCall) (now : String) : Envelope :=
  { eventType := call.eventType
    timestampUtc := now
    schemaVersion := call.schemaVersion
    idempotencyKey := call.idempotencyKey
    payload := call.payload }

/-- The rollback of a failed write: truncate to where the append started, then
`fsync`, whose own error would replace the first one. -/
def rollback (file : LogFile) (preWriteOffset : Nat) (faults : Faults) (error : AppendError) :
    AppendError × LogFile :=
  (if faults.rollbackFsyncFails then .osError "os.fsync() failed" else error,
    file.ftruncate preWriteOffset)

/-- The durable write of one record: `none`, or the error it raises, and the file. -/
def writeRecord (file : LogFile) (record : Bytes) (faults : Faults) :
    Option AppendError × LogFile :=
  let preWriteOffset := file.offset
  match writeFull file record faults.writes with
  | (some error, written) =>
      let (raised, rolledBack) := rollback written preWriteOffset faults error
      (some raised, rolledBack)
  | (none, written) =>
      if faults.fsyncFails then
        let (raised, rolledBack) :=
          rollback written preWriteOffset faults (.osError "os.fsync() failed")
        (some raised, rolledBack)
      else (none, written)

def addToIndex (index : Dict PyKey Nat) (key : Option PyStr) (eventId : Nat) : Dict PyKey Nat :=
  match key with
  | some key => Dict.set index (.str key) eventId
  | none => index

def Store.record (store : Store) (file : LogFile) (event : Event) (key : Option PyStr) :
    Store :=
  { store with
    file
    events := store.events ++ [event]
    byId := Dict.set store.byId event.eventId event
    idempotencyIndex := addToIndex store.idempotencyIndex key event.eventId
    nextEventId := store.nextEventId + 1 }

def append (store : Store) (call : AppendCall) (now : String) (faults : Faults) :
    Except AppendError Event × Store :=
  if store.closed then
    (.error (.eventStoreClosed "cannot append to a closed EventStore"), store)
  else
    match validateNewEvent call with
    | some error => (.error error, store)
    | none =>
        match storedUnder store call.idempotencyKey with
        | some answer => (answer, store)
        | none =>
            let envelope := call.envelope now
            match PyValue.dumps envelope.value with
            | none => (.error .jsonError, store)
            | some payloadBytes =>
                match encodeRecord store.nextEventId payloadBytes with
                | none => (.error .structError, store)
                | some recordBytes =>
                    match writeRecord store.file recordBytes faults with
                    | (some error, file) => (.error error, { store with file })
                    | (none, file) =>
                        let event := envelope.event store.nextEventId
                        (.ok event, store.record file event call.idempotencyKey)

def replay (store : Store) (fromEventId : Nat) : Except AppendError (List Event) :=
  if store.closed then .error (.eventStoreClosed "cannot replay a closed EventStore")
  else .ok (store.events.filter fun event => fromEventId ≤ event.eventId)

def hasIdempotencyKey (store : Store) (key : PyStr) : Bool :=
  (Dict.get? store.idempotencyIndex (.str key)).isSome

def getByIdempotencyKey (store : Store) (key : PyStr) : Option Event :=
  (Dict.get? store.idempotencyIndex (.str key)).bind (Dict.get? store.byId)

def eventCount (store : Store) : Nat := store.events.length

def close (store : Store) : Store := { store with closed := true }

end TurtleExecution.EventStore

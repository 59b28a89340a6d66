/-
The store as the modules that share it see it.

`EventStore.append` under a key answers with the event stored under that key or
adds one, which is what a ledger's submission does; `EventStore.runSteps_refines`
proves it of the file.  Payloads are of any type: a module finds its own among
them through a `Source`.
-/

import TurtleExecution.EventStore.Types
import TurtleExecution.Foundation.Ledger

set_option autoImplicit false

namespace TurtleExecution.SharedStore

structure Event (Payload : Type) where
  eventId : Nat
  eventType : EventType
  timestampUtc : String
  idempotencyKey : Option String
  payload : Payload

abbrev Log (Payload : Type) :=
  Ledger String (Event Payload) Event.idempotencyKey

structure StoreFailure where
  message : String
  deriving DecidableEq, Repr

class Source (Payload Own : Type) where
  wrap : Own → Payload
  own? : Payload → Option Own
  own?_wrap : ∀ payload, own? (wrap payload) = some payload

namespace Log

variable {Payload : Type}

def nextEvent (log : Log Payload) (eventType : EventType) (payload : Payload)
    (key : Option String) (now : String) : Event Payload :=
  { eventId := log.entries.length + 1
    eventType
    timestampUtc := now
    idempotencyKey := key
    payload }

def append (log : Log Payload) (eventType : EventType) (payload : Payload) (key : Option String)
    (now : String) : Event Payload × Log Payload :=
  log.submit (log.nextEvent eventType payload key now)

def getByIdempotencyKey (log : Log Payload) (key : String) : Option (Event Payload) :=
  log.entries.find? fun event => event.idempotencyKey = some key

private theorem nextEvent_key (log : Log Payload) (eventType : EventType) (payload : Payload)
    (key : Option String) (now : String) :
    (log.nextEvent eventType payload key now).idempotencyKey = key := rfl

private theorem getByIdempotencyKey_eq_stored? (log : Log Payload) (eventType : EventType)
    (payload : Payload) (key : String) (now : String) :
    log.getByIdempotencyKey key = log.stored? (log.nextEvent eventType payload (some key) now) := by
  unfold getByIdempotencyKey Ledger.stored?
  congr 1
  funext event
  cases event.idempotencyKey with
  | none => simp [nextEvent_key]
  | some known => simp [nextEvent_key]

variable {log : Log Payload} {key : String} {event : Event Payload}

theorem getByIdempotencyKey_eq_some_iff :
    log.getByIdempotencyKey key = some event ↔
      event ∈ log.entries ∧ event.idempotencyKey = some key := by
  have lookup := getByIdempotencyKey_eq_stored? log event.eventType event.payload key ""
  rw [lookup]
  exact Ledger.stored?_eq_some_iff (nextEvent_key log event.eventType event.payload (some key) "")

theorem getByIdempotencyKey_eq_none (absent : log.getByIdempotencyKey key = none) :
    ∀ event ∈ log.entries, event.idempotencyKey ≠ some key := by
  intro event member keyed
  rw [getByIdempotencyKey_eq_some_iff.mpr ⟨member, keyed⟩] at absent
  cases absent

theorem getByIdempotencyKey_concat {log later : Log Payload}
    (entries : later.entries = log.entries ++ [event]) (otherKey : event.idempotencyKey ≠ some key) :
    later.getByIdempotencyKey key = log.getByIdempotencyKey key := by
  unfold getByIdempotencyKey
  rw [entries, List.find?_append]
  simp [otherKey]

theorem append_of_stored (stored : log.getByIdempotencyKey key = some event) (eventType : EventType)
    (payload : Payload) (now : String) :
    log.append eventType payload (some key) now = (event, log) := by
  rw [getByIdempotencyKey_eq_stored? log eventType payload key now] at stored
  exact Ledger.submit_of_stored stored

theorem append_of_fresh (fresh : log.getByIdempotencyKey key = none) (eventType : EventType)
    (payload : Payload) (now : String) :
    (log.append eventType payload (some key) now).1 =
        log.nextEvent eventType payload (some key) now ∧
      (log.append eventType payload (some key) now).2.entries =
        log.entries ++ [log.nextEvent eventType payload (some key) now] := by
  rw [getByIdempotencyKey_eq_stored? log eventType payload key now] at fresh
  rw [append, Ledger.submit_of_absent fresh]
  exact ⟨rfl, rfl⟩

theorem append_cases (log : Log Payload) (eventType : EventType) (payload : Payload)
    (key : Option String) (now : String) :
    (log.append eventType payload key now).2 = log ∨
      (log.append eventType payload key now).1 = log.nextEvent eventType payload key now ∧
        (log.append eventType payload key now).2.entries =
          log.entries ++ [log.nextEvent eventType payload key now] := by
  cases stored : log.stored? (log.nextEvent eventType payload key now) with
  | some event =>
      rw [append, Ledger.submit_of_stored stored]
      exact Or.inl rfl
  | none =>
      rw [append, Ledger.submit_of_absent stored]
      exact Or.inr ⟨rfl, rfl⟩

theorem extends_append (log : Log Payload) (eventType : EventType) (payload : Payload)
    (key : Option String) (now : String) :
    log.Extends (log.append eventType payload key now).2 :=
  Ledger.extends_submit log _

end Log

end TurtleExecution.SharedStore

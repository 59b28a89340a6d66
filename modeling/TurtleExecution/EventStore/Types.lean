/-
Event types and the immutable event of the event store.

`EventType` is closed.  An event read from a file carries whatever the envelope
holds in its timestamp, schema version and idempotency key, so those fields are
Python values here; `append` only ever writes a string, an integer and a string
or `None`.
-/

import TurtleExecution.Foundation.PyValue

set_option autoImplicit false

namespace TurtleExecution

inductive EventType
  | orderSubmitted
  | orderAcknowledged
  | orderFilled
  | orderCancelled
  | positionOpened
  | positionUpdated
  | positionClosed
  | stopUpdated
  | takeProfitUpdated
  | killSwitchTriggered
  | healthAlert
  | systemStarted
  | systemStopped
  deriving DecidableEq, Repr

namespace EventType

def all : List EventType :=
  [orderSubmitted, orderAcknowledged, orderFilled, orderCancelled, positionOpened,
    positionUpdated, positionClosed, stopUpdated, takeProfitUpdated, killSwitchTriggered,
    healthAlert, systemStarted, systemStopped]

def value : EventType → String
  | orderSubmitted => "ORDER_SUBMITTED"
  | orderAcknowledged => "ORDER_ACKNOWLEDGED"
  | orderFilled => "ORDER_FILLED"
  | orderCancelled => "ORDER_CANCELLED"
  | positionOpened => "POSITION_OPENED"
  | positionUpdated => "POSITION_UPDATED"
  | positionClosed => "POSITION_CLOSED"
  | stopUpdated => "STOP_UPDATED"
  | takeProfitUpdated => "TAKE_PROFIT_UPDATED"
  | killSwitchTriggered => "KILL_SWITCH_TRIGGERED"
  | healthAlert => "HEALTH_ALERT"
  | systemStarted => "SYSTEM_STARTED"
  | systemStopped => "SYSTEM_STOPPED"

/-- `EventType(text)`, or `none` where it raises `ValueError`. -/
def ofValue? (text : String) : Option EventType :=
  all.find? fun eventType => eventType.value = text

@[simp] theorem ofValue?_value (eventType : EventType) :
    ofValue? eventType.value = some eventType := by
  cases eventType <;> decide

end EventType

namespace EventStore

inductive PyException
  | corruptEventStore (message : String)
  | unicodeDecodeError
  | jsonDecodeError
  | keyError (key : String)
  | valueError
  | typeError
  deriving DecidableEq, Repr

mutual
/-- Dictionaries become read-only views and lists become tuples, at every
depth that is reached through dictionaries and lists. -/
def deepFreeze : PyValue → PyValue
  | .dict entries => .dict (deepFreezeEntries entries)
  | .list items => .tuple (deepFreezeItems items)
  | value => value

def deepFreezeItems : List PyValue → List PyValue
  | [] => []
  | item :: items => deepFreeze item :: deepFreezeItems items

def deepFreezeEntries : PyDict → PyDict
  | [] => []
  | (key, value) :: entries => (key, deepFreeze value) :: deepFreezeEntries entries
end

structure Event where
  eventId : Nat
  eventType : EventType
  timestampUtc : PyValue
  schemaVersion : PyValue
  idempotencyKey : PyValue
  payload : PyDict

structure RecoveryReport where
  validEventCount : Nat
  tailTruncated : Bool
  discardedByteCount : Nat
  deriving DecidableEq, Repr

end EventStore

end TurtleExecution

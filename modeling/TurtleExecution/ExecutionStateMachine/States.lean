/-
States and triggers of the execution state machine, and its transition table.
-/

import TurtleExecution.EventStore.Types
import TurtleExecution.Foundation.TransitionTable

set_option autoImplicit false

namespace TurtleExecution.ExecutionStateMachine

inductive State
  | initializing
  | reconciling
  | ready
  | signalPending
  | orderPending
  | partiallyFilled
  | positionOpen
  | positionClosing
  | flat
  | softKill
  | hardKill
  | emergencyKill
  | stopped
  deriving DecidableEq, Repr

namespace State

def all : List State :=
  [initializing, reconciling, ready, signalPending, orderPending, partiallyFilled, positionOpen,
    positionClosing, flat, softKill, hardKill, emergencyKill, stopped]

def value : State → String
  | initializing => "INITIALIZING"
  | reconciling => "RECONCILING"
  | ready => "READY"
  | signalPending => "SIGNAL_PENDING"
  | orderPending => "ORDER_PENDING"
  | partiallyFilled => "PARTIALLY_FILLED"
  | positionOpen => "POSITION_OPEN"
  | positionClosing => "POSITION_CLOSING"
  | flat => "FLAT"
  | softKill => "SOFT_KILL"
  | hardKill => "HARD_KILL"
  | emergencyKill => "EMERGENCY_KILL"
  | stopped => "STOPPED"

/-- `State(text)`, or `none` where it raises `ValueError`. -/
def ofValue? (text : String) : Option State :=
  all.find? fun state => state.value = text

@[simp] theorem ofValue?_value (state : State) : ofValue? state.value = some state := by
  cases state <;> decide

end State

inductive Trigger
  | started
  | reconciled
  | reconciliationFailed
  | signalReceived
  | signalRejected
  | orderPlaced
  | orderRejected
  | orderCancelled
  | partialFillReceived
  | fullyFilled
  | remainderFilled
  | stopAdjusted
  | partialTakeProfitFilled
  | closeInitiated
  | partialCloseFilled
  | closeCompleted
  | readyForNext
  | softKillTriggered
  | hardKillTriggered
  | emergencyKillTriggered
  | flattenFillReceived
  | resume
  | shutdown
  deriving DecidableEq, Repr

namespace Trigger

def all : List Trigger :=
  [started, reconciled, reconciliationFailed, signalReceived, signalRejected, orderPlaced,
    orderRejected, orderCancelled, partialFillReceived, fullyFilled, remainderFilled, stopAdjusted,
    partialTakeProfitFilled, closeInitiated, partialCloseFilled, closeCompleted, readyForNext,
    softKillTriggered, hardKillTriggered, emergencyKillTriggered, flattenFillReceived, resume,
    shutdown]

def value : Trigger → String
  | started => "STARTED"
  | reconciled => "RECONCILED"
  | reconciliationFailed => "RECONCILIATION_FAILED"
  | signalReceived => "SIGNAL_RECEIVED"
  | signalRejected => "SIGNAL_REJECTED"
  | orderPlaced => "ORDER_PLACED"
  | orderRejected => "ORDER_REJECTED"
  | orderCancelled => "ORDER_CANCELLED"
  | partialFillReceived => "PARTIAL_FILL_RECEIVED"
  | fullyFilled => "FULLY_FILLED"
  | remainderFilled => "REMAINDER_FILLED"
  | stopAdjusted => "STOP_ADJUSTED"
  | partialTakeProfitFilled => "PARTIAL_TAKE_PROFIT_FILLED"
  | closeInitiated => "CLOSE_INITIATED"
  | partialCloseFilled => "PARTIAL_CLOSE_FILLED"
  | closeCompleted => "CLOSE_COMPLETED"
  | readyForNext => "READY_FOR_NEXT"
  | softKillTriggered => "SOFT_KILL_TRIGGERED"
  | hardKillTriggered => "HARD_KILL_TRIGGERED"
  | emergencyKillTriggered => "EMERGENCY_KILL_TRIGGERED"
  | flattenFillReceived => "FLATTEN_FILL_RECEIVED"
  | resume => "RESUME"
  | shutdown => "SHUTDOWN"

/-- `Trigger(text)`, or `none` where it raises `ValueError`. -/
def ofValue? (text : String) : Option Trigger :=
  all.find? fun trigger => trigger.value = text

@[simp] theorem ofValue?_value (trigger : Trigger) : ofValue? trigger.value = some trigger := by
  cases trigger <;> decide

def eventType : Trigger → EventType
  | started => .systemStarted
  | reconciled => .positionUpdated
  | reconciliationFailed => .healthAlert
  | signalReceived => .orderSubmitted
  | signalRejected => .orderCancelled
  | orderPlaced => .orderSubmitted
  | orderRejected => .orderCancelled
  | orderCancelled => .orderCancelled
  | partialFillReceived => .orderFilled
  | fullyFilled => .positionOpened
  | remainderFilled => .positionOpened
  | stopAdjusted => .stopUpdated
  | partialTakeProfitFilled => .takeProfitUpdated
  | closeInitiated => .positionUpdated
  | partialCloseFilled => .orderFilled
  | closeCompleted => .positionClosed
  | readyForNext => .positionUpdated
  | softKillTriggered => .killSwitchTriggered
  | hardKillTriggered => .killSwitchTriggered
  | emergencyKillTriggered => .killSwitchTriggered
  | flattenFillReceived => .orderFilled
  | resume => .positionUpdated
  | shutdown => .systemStopped

end Trigger

def transitionTable : TransitionTable State Trigger :=
  [(.initializing, .started, .reconciling),
    (.initializing, .emergencyKillTriggered, .emergencyKill),
    (.initializing, .shutdown, .stopped),
    (.reconciling, .reconciled, .ready),
    (.reconciling, .reconciliationFailed, .softKill),
    (.reconciling, .softKillTriggered, .softKill),
    (.reconciling, .hardKillTriggered, .hardKill),
    (.reconciling, .emergencyKillTriggered, .emergencyKill),
    (.reconciling, .shutdown, .stopped),
    (.ready, .signalReceived, .signalPending),
    (.ready, .softKillTriggered, .softKill),
    (.ready, .hardKillTriggered, .hardKill),
    (.ready, .emergencyKillTriggered, .emergencyKill),
    (.ready, .shutdown, .stopped),
    (.signalPending, .orderPlaced, .orderPending),
    (.signalPending, .signalRejected, .ready),
    (.signalPending, .softKillTriggered, .softKill),
    (.signalPending, .hardKillTriggered, .hardKill),
    (.signalPending, .emergencyKillTriggered, .emergencyKill),
    (.orderPending, .partialFillReceived, .partiallyFilled),
    (.orderPending, .fullyFilled, .positionOpen),
    (.orderPending, .orderRejected, .ready),
    (.orderPending, .orderCancelled, .ready),
    (.orderPending, .softKillTriggered, .softKill),
    (.orderPending, .hardKillTriggered, .hardKill),
    (.orderPending, .emergencyKillTriggered, .emergencyKill),
    (.partiallyFilled, .partialFillReceived, .partiallyFilled),
    (.partiallyFilled, .remainderFilled, .positionOpen),
    (.partiallyFilled, .softKillTriggered, .softKill),
    (.partiallyFilled, .hardKillTriggered, .hardKill),
    (.partiallyFilled, .emergencyKillTriggered, .emergencyKill),
    (.positionOpen, .stopAdjusted, .positionOpen),
    (.positionOpen, .partialTakeProfitFilled, .positionOpen),
    (.positionOpen, .closeInitiated, .positionClosing),
    (.positionOpen, .softKillTriggered, .softKill),
    (.positionOpen, .hardKillTriggered, .hardKill),
    (.positionOpen, .emergencyKillTriggered, .emergencyKill),
    (.positionClosing, .partialCloseFilled, .positionClosing),
    (.positionClosing, .closeCompleted, .flat),
    (.positionClosing, .softKillTriggered, .softKill),
    (.positionClosing, .hardKillTriggered, .hardKill),
    (.positionClosing, .emergencyKillTriggered, .emergencyKill),
    (.flat, .readyForNext, .ready),
    (.flat, .softKillTriggered, .softKill),
    (.flat, .hardKillTriggered, .hardKill),
    (.flat, .emergencyKillTriggered, .emergencyKill),
    (.flat, .shutdown, .stopped),
    (.softKill, .resume, .reconciling),
    (.softKill, .hardKillTriggered, .hardKill),
    (.softKill, .emergencyKillTriggered, .emergencyKill),
    (.softKill, .shutdown, .stopped),
    (.hardKill, .flattenFillReceived, .hardKill),
    (.hardKill, .resume, .reconciling),
    (.hardKill, .emergencyKillTriggered, .emergencyKill),
    (.hardKill, .shutdown, .stopped),
    (.emergencyKill, .shutdown, .stopped)]

def isLegal (state : State) (trigger : Trigger) : Bool :=
  TransitionTable.isLegal transitionTable state trigger

def nextState? (state : State) (trigger : Trigger) : Option State :=
  TransitionTable.nextState? transitionTable state trigger

def Killed (state : State) : Prop :=
  state = .emergencyKill ∨ state = .stopped

instance : DecidablePred Killed := fun state =>
  inferInstanceAs (Decidable (state = .emergencyKill ∨ state = .stopped))

theorem closedUnder_killed : TransitionTable.ClosedUnder transitionTable Killed := by
  decide

end TurtleExecution.ExecutionStateMachine

/-
The execution state machine: construction by replay, and `transition`.

The environment decides the time of an append and whether it fails.  A payload
keeps the raw values of its fields, as the replay parses them.
-/

import TurtleExecution.ExecutionStateMachine.States
import TurtleExecution.SharedStore.Log

set_option autoImplicit false

namespace TurtleExecution.ExecutionStateMachine

open SharedStore

def eventSourceTag : String := "execution_state_machine"

def maxMachineIdLength : Nat := 60

def maxRequestIdLength : Nat := 60

structure Payload where
  machineId : PyValue
  trigger : PyValue
  fromState : PyValue
  toState : PyValue
  context : PyValue

instance : Source PyDict Payload where
  wrap payload :=
    [(.str "source", .str eventSourceTag),
      (.str "machine_id", payload.machineId),
      (.str "trigger", payload.trigger),
      (.str "from_state", payload.fromState),
      (.str "to_state", payload.toState),
      (.str "context", payload.context)]
  own? dict :=
    match dict.get? (.str "source") with
    | some (.str source) =>
        if source = eventSourceTag then
          some
            { machineId := (dict.get? (.str "machine_id")).getD .none
              trigger := (dict.get? (.str "trigger")).getD .none
              fromState := (dict.get? (.str "from_state")).getD .none
              toState := (dict.get? (.str "to_state")).getD .none
              context := (dict.get? (.str "context")).getD (.dict []) }
        else none
    | _ => none
  own?_wrap payload := by
    simp [Dict.get?]

inductive ReplayProblem
  | unknownTrigger (raw : PyValue)
  | unknownState (field : String) (raw : PyValue)
  | fromStateMismatch (recorded reconstructed : State)
  | illegalEdge (fromState : State) (trigger : Trigger) (toState : State)

inductive MachineError
  | valueError (message : String)
  | illegalTransition (message : String)
  | replayIntegrity (eventId : Nat) (problem : ReplayProblem)
  | store (failure : StoreFailure)

structure Machine where
  machineId : String
  currentState : State
  deriving DecidableEq, Repr

structure TransitionResult where
  eventId : Nat
  trigger : Trigger
  fromState : State
  toState : State
  timestampUtc : String
  requestId : String
  context : PyValue
  replayed : Bool

def namespacedKey (machineId requestId : String) : String :=
  s!"{eventSourceTag}:{machineId.length}:{machineId}:{requestId.length}:{requestId}"

def parseState (raw : PyValue) (eventId : Nat) (field : String) : Except MachineError State :=
  match raw with
  | .str (.scalars text) =>
      match State.ofValue? text with
      | some state => .ok state
      | none => .error (.replayIntegrity eventId (.unknownState field raw))
  | raw => .error (.replayIntegrity eventId (.unknownState field raw))

def parseTrigger (raw : PyValue) (eventId : Nat) : Except MachineError Trigger :=
  match raw with
  | .str (.scalars text) =>
      match Trigger.ofValue? text with
      | some trigger => .ok trigger
      | none => .error (.replayIntegrity eventId (.unknownTrigger raw))
  | raw => .error (.replayIntegrity eventId (.unknownTrigger raw))

@[simp] theorem parseState_value (state : State) (eventId : Nat) (field : String) :
    parseState (.str state.value) eventId field = .ok state := by
  simp [parseState]

@[simp] theorem parseTrigger_value (trigger : Trigger) (eventId : Nat) :
    parseTrigger (.str trigger.value) eventId = .ok trigger := by
  simp [parseTrigger]

section

variable {Stored : Type} [Source Stored Payload]

/-- The payload of an event of this machine: `_is_own_event`. -/
def ownPayload? (event : Event Stored) (machineId : String) : Option Payload :=
  match Source.own? event.payload with
  | some (payload : Payload) =>
      match payload.machineId with
      | .str text => if text = machineId then some payload else none
      | _ => none
  | none => none

/-- One iteration of the replay loop of `__init__`. -/
def replayEvent (machineId : String) (current : State) (event : Event Stored) :
    Except MachineError State :=
  match ownPayload? event machineId with
  | none => .ok current
  | some payload => do
      let trigger ← parseTrigger payload.trigger event.eventId
      let fromState ← parseState payload.fromState event.eventId "from_state"
      let toState ← parseState payload.toState event.eventId "to_state"
      if fromState ≠ current then
        .error (.replayIntegrity event.eventId (.fromStateMismatch fromState current))
      else if nextState? fromState trigger ≠ some toState then
        .error (.replayIntegrity event.eventId (.illegalEdge fromState trigger toState))
      else
        .ok toState

def replay (machineId : String) (events : List (Event Stored)) : Except MachineError State :=
  events.foldlM (replayEvent machineId) .initializing

def construct (log : Log Stored) (machineId : String) : Except MachineError Machine :=
  if PyText.isBlank machineId then .error (.valueError "machine_id must be a non-empty string")
  else if maxMachineIdLength < machineId.length then
    .error (.valueError s!"machine_id exceeds {maxMachineIdLength} characters")
  else
    (replay machineId log.entries).map fun currentState => { machineId, currentState }

def resultFromEvent (event : Event Stored) (payload : Payload) (requestId : String)
    (replayed : Bool) : Except MachineError TransitionResult := do
  let trigger ← parseTrigger payload.trigger event.eventId
  let fromState ← parseState payload.fromState event.eventId "from_state"
  let toState ← parseState payload.toState event.eventId "to_state"
  return { eventId := event.eventId, trigger, fromState, toState
           timestampUtc := event.timestampUtc, requestId, context := payload.context, replayed }

/-- The arguments of `transition`, the time, and the failure of the append, if it fails. -/
structure TransitionCall where
  trigger : Trigger
  requestId : String
  context : Option PyDict
  now : String
  failure : Option StoreFailure

def requestIdError? (requestId : String) : Option MachineError :=
  if PyText.isBlank requestId then some (.valueError "request_id must be a non-empty string")
  else if maxRequestIdLength < requestId.length then
    some (.valueError s!"request_id exceeds {maxRequestIdLength} characters")
  else none

def transitionPayload (machineId : String) (call : TransitionCall) (fromState toState : State) :
    Payload :=
  { machineId := .str machineId
    trigger := .str call.trigger.value
    fromState := .str fromState.value
    toState := .str toState.value
    context := .dict (call.context.getD []) }

def transition (log : Log Stored) (machine : Machine) (call : TransitionCall) :
    Except MachineError TransitionResult × Log Stored × Machine :=
  match requestIdError? call.requestId with
  | some error => (.error error, log, machine)
  | none =>
      let key := namespacedKey machine.machineId call.requestId
      match log.getByIdempotencyKey key with
      | some existing =>
          match ownPayload? existing machine.machineId with
          | none =>
              (.error (.valueError
                s!"request_id {call.requestId} collides with a non-FSM event under the same namespaced idempotency key -- this should be structurally impossible"),
                log, machine)
          | some payload => (resultFromEvent existing payload call.requestId true, log, machine)
      | none =>
          let fromState := machine.currentState
          match nextState? fromState call.trigger with
          | none =>
              (.error (.illegalTransition
                s!"trigger {call.trigger.value} is not legal from state {fromState.value}"),
                log, machine)
          | some toState =>
              match call.failure with
              | some failure => (.error (.store failure), log, machine)
              | none =>
                  let payload := transitionPayload machine.machineId call fromState toState
                  let (event, log) := log.append call.trigger.eventType (Source.wrap payload)
                    (some key) call.now
                  (resultFromEvent event payload call.requestId false, log,
                    { machine with currentState := toState })

end

end TurtleExecution.ExecutionStateMachine

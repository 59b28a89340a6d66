/-
What an order manager keeps in memory, and how one event changes it.

`applyEvent` is the only way an event reaches memory, live and in a replay.  A
payload holds the values that its texts parse to; a field of its details is `none`
where the key is missing.
-/

import TurtleExecution.ExchangeAdapter.Models
import TurtleExecution.ExecutionStateMachine.Machine
import TurtleExecution.OrderManager.Keys

set_option autoImplicit false

namespace TurtleExecution.OrderManager

open ExchangeAdapter SharedStore

structure OrderSnapshot (Number : Type) where
  clientOrderId : String
  lifecycleState : OrderLifecycleState
  exchangeOrderId : Option String
  symbol : Symbol
  side : OrderSide
  orderType : ExchangeAdapter.OrderType
  quantity : Number
  filledQuantity : Number
  limitPrice : Option Number
  timeInForce : TimeInForce
  reduceOnly : Bool
  createdAtUtc : String
  updatedAtUtc : String
  rejectReason : Option String

inductive Action
  | submit
  | statusUpdate
  | fill
  | amend
  | amendRequested
  | cancelAllRequested
  | other (text : String)
  deriving DecidableEq, Repr

/-- The keys that the details of the actions use.  `newLimitPrice` is
`some none` where the key is present and null. -/
structure Details (Number : Type) where
  symbol : Option Symbol := none
  side : Option OrderSide := none
  orderType : Option ExchangeAdapter.OrderType := none
  quantity : Option Number := none
  limitPrice : Option Number := none
  timeInForce : Option TimeInForce := none
  reduceOnly : Option Bool := none
  requestId : Option String := none
  error : Option String := none
  exchangeOrderId : Option String := none
  rejectReason : Option String := none
  fillId : Option String := none
  fillQuantity : Option Number := none
  fillPrice : Option Number := none
  newQuantity : Option Number := none
  newLimitPrice : Option (Option Number) := none

structure Payload (Number : Type) where
  omId : String
  seq : Option Nat
  action : Action
  clientOrderId : String
  trigger : Option OrderLifecycleTrigger
  fromState : Option OrderLifecycleState
  toState : Option OrderLifecycleState
  details : Details Number

inductive ReplayProblem
  | unknownOrder (clientOrderId : String)
  | fromStateMismatch (recorded reconstructed : OrderLifecycleState)
  | illegalTransition (clientOrderId : String)
  | unknownAction (action : Action)

inductive OrderManagerError
  | valueError (message : String)
  | keyError (key : String)
  | orderNotFound (clientOrderId : String)
  | illegalOrderTransition (message : String)
  | orderStateInconsistency (message : String)
  | replayIntegrity (eventId : Nat) (problem : ReplayProblem)
  | arithmetic (error : ArithmeticError)
  | request (error : ModelError)
  | call (error : CallError)
  | store (failure : StoreFailure)
  | machine (error : ExecutionStateMachine.MachineError)

structure Memory (Number : Type) where
  snapshots : Dict String (OrderSnapshot Number)
  processedFillIds : Dict String (List String)
  appliedEventIds : List Nat
  nextSeq : Nat

def Memory.initial {Number : Type} : Memory Number :=
  { snapshots := [], processedFillIds := [], appliedEventIds := [], nextSeq := 1 }

def required {Value : Type} (key : String) (field : Option Value) :
    Except OrderManagerError Value :=
  match field with
  | some value => .ok value
  | none => .error (.keyError key)

/-- Python's `text or other` for texts that may be missing. -/
def orElseText (text other : Option String) : Option String :=
  match text with
  | some text => if text = "" then other else some text
  | none => other

def addToSet (known : List String) (item : String) : List String :=
  if item ∈ known then known else known ++ [item]

theorem mem_addToSet {known : List String} {item other : String} :
    other ∈ addToSet known item ↔ other ∈ known ∨ other = item := by
  unfold addToSet
  by_cases old : item ∈ known
  · rw [if_pos old]
    constructor
    · exact Or.inl
    · rintro (member | rfl)
      · exact member
      · exact old
  · rw [if_neg old, List.mem_append, List.mem_singleton]

section

variable {Number Stored : Type}

/-- `_processed_fill_ids.get(client_order_id, set())`. -/
def Memory.fillIds (memory : Memory Number) (clientOrderId : String) : List String :=
  (memory.processedFillIds.get? clientOrderId).getD []

def Memory.addFillId (memory : Memory Number) (clientOrderId fillId : String) : Memory Number :=
  { memory with
    processedFillIds := memory.processedFillIds.set clientOrderId
      (addToSet (memory.fillIds clientOrderId) fillId) }

def Memory.note (memory : Memory Number) (eventId : Nat) (seq : Option Nat) : Memory Number :=
  { memory with
    appliedEventIds := memory.appliedEventIds ++ [eventId]
    nextSeq :=
      match seq with
      | some seq => max memory.nextSeq (seq + 1)
      | none => memory.nextSeq }

def Memory.commit (memory : Memory Number) (clientOrderId : String)
    (result : Except OrderManagerError (OrderSnapshot Number)) :
    Except OrderManagerError (Option (OrderSnapshot Number)) × Memory Number :=
  match result with
  | .ok snapshot =>
      (.ok (some snapshot),
        { memory with snapshots := memory.snapshots.set clientOrderId snapshot })
  | .error error => (.error error, memory)

section

variable [Arithmetic Number]

def submittedSnapshot (event : Event Stored) (payload : Payload Number) :
    Except OrderManagerError (OrderSnapshot Number) := do
  let symbol ← required "symbol" payload.details.symbol
  let side ← required "side" payload.details.side
  let orderType ← required "order_type" payload.details.orderType
  let quantity ← required "quantity" payload.details.quantity
  let timeInForce ← required "time_in_force" payload.details.timeInForce
  let reduceOnly ← required "reduce_only" payload.details.reduceOnly
  return { clientOrderId := payload.clientOrderId
           lifecycleState := .submitted
           exchangeOrderId := none
           symbol, side, orderType, quantity
           filledQuantity := Arithmetic.zero
           limitPrice := payload.details.limitPrice
           timeInForce, reduceOnly
           createdAtUtc := event.timestampUtc
           updatedAtUtc := event.timestampUtc
           rejectReason := none }

def checkedTransition (event : Event Stored) (payload : Payload Number)
    (existing : OrderSnapshot Number) : Except OrderManagerError OrderLifecycleState :=
  match payload.trigger, payload.fromState, payload.toState with
  | some trigger, some fromState, some toState =>
      if fromState ≠ existing.lifecycleState then
        .error (.replayIntegrity event.eventId
          (.fromStateMismatch fromState existing.lifecycleState))
      else if nextState? fromState trigger ≠ some toState then
        .error (.replayIntegrity event.eventId (.illegalTransition payload.clientOrderId))
      else .ok toState
  | _, _, _ => .error (.valueError "None is not a valid lifecycle state or trigger")

def filledSnapshot (event : Event Stored) (payload : Payload Number)
    (existing : OrderSnapshot Number) (toState : OrderLifecycleState) :
    Except OrderManagerError (OrderSnapshot Number) := do
  let fillQuantity ← required "fill_quantity" payload.details.fillQuantity
  match Arithmetic.add existing.filledQuantity fillQuantity with
  | .error error => .error (.arithmetic error)
  | .ok newFilled =>
      return { existing with
               lifecycleState := toState
               filledQuantity := newFilled
               updatedAtUtc := event.timestampUtc }

def updatedSnapshot (event : Event Stored) (payload : Payload Number)
    (existing : OrderSnapshot Number) (toState : OrderLifecycleState) : OrderSnapshot Number :=
  { existing with
    lifecycleState := toState
    exchangeOrderId := orElseText payload.details.exchangeOrderId existing.exchangeOrderId
    rejectReason := orElseText payload.details.rejectReason existing.rejectReason
    updatedAtUtc := event.timestampUtc }

def amendedSnapshot (event : Event Stored) (payload : Payload Number)
    (existing : OrderSnapshot Number) : OrderSnapshot Number :=
  { existing with
    quantity :=
      match payload.details.newQuantity with
      | some quantity => if Arithmetic.isZero quantity then existing.quantity else quantity
      | none => existing.quantity
    limitPrice := payload.details.newLimitPrice.getD existing.limitPrice
    updatedAtUtc := event.timestampUtc }

/-- `_apply_event`, which may raise after it has changed memory. -/
def Memory.applyEvent (memory : Memory Number) (event : Event Stored) (payload : Payload Number) :
    Except OrderManagerError (Option (OrderSnapshot Number)) × Memory Number :=
  let clientOrderId := payload.clientOrderId
  if event.eventId ∈ memory.appliedEventIds then
    (.ok (memory.snapshots.get? clientOrderId), memory)
  else
    let memory := memory.note event.eventId payload.seq
    match payload.action with
    | .submit =>
        match submittedSnapshot event payload with
        | .error error => (.error error, memory)
        | .ok snapshot =>
            (.ok (some snapshot),
              { memory with
                snapshots := memory.snapshots.set clientOrderId snapshot
                processedFillIds := memory.processedFillIds.set clientOrderId
                  (memory.fillIds clientOrderId) })
    | .cancelAllRequested => (.ok (memory.snapshots.get? clientOrderId), memory)
    | .amendRequested => (.ok (memory.snapshots.get? clientOrderId), memory)
    | action =>
        match memory.snapshots.get? clientOrderId with
        | none =>
            (.error (.replayIntegrity event.eventId (.unknownOrder clientOrderId)), memory)
        | some existing =>
            match action with
            | .fill =>
                match checkedTransition event payload existing with
                | .error error => (.error error, memory)
                | .ok toState =>
                    match required "fill_id" payload.details.fillId with
                    | .error error => (.error error, memory)
                    | .ok fillId =>
                        (memory.addFillId clientOrderId fillId).commit clientOrderId
                          (filledSnapshot event payload existing toState)
            | .statusUpdate =>
                memory.commit clientOrderId
                  ((checkedTransition event payload existing).map
                    (updatedSnapshot event payload existing))
            | .amend => memory.commit clientOrderId (.ok (amendedSnapshot event payload existing))
            | action =>
                (.error (.replayIntegrity event.eventId (.unknownAction action)), memory)

variable [Source Stored (Payload Number)]

/-- The payload of an event of this manager: `_is_own_event`. -/
def ownPayload? (omId : String) (event : Event Stored) : Option (Payload Number) :=
  match Source.own? event.payload with
  | some (payload : Payload Number) => if payload.omId = omId then some payload else none
  | none => none

def replayEvent (omId : String) (memory : Memory Number) (event : Event Stored) :
    Except OrderManagerError (Memory Number) :=
  match ownPayload? omId event with
  | none => .ok memory
  | some payload =>
      match memory.applyEvent event payload with
      | (.ok _, memory) => .ok memory
      | (.error error, _) => .error error

def replay (omId : String) (events : List (Event Stored)) :
    Except OrderManagerError (Memory Number) :=
  events.foldlM (replayEvent omId) Memory.initial

def maxOmIdLength : Nat := 60

/-- `OrderManager(adapter, store, execution_state_machine, om_id)`. -/
def construct (omId : String) (log : Log Stored) : Except OrderManagerError (Memory Number) :=
  if PyText.isBlank omId then .error (.valueError "om_id must be a non-empty string")
  else if maxOmIdLength < omId.length then
    .error (.valueError s!"om_id exceeds {maxOmIdLength} characters")
  else replay omId log.entries

end

end

end TurtleExecution.OrderManager

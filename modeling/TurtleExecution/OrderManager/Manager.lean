/-
The operations of the order manager, as processes.

An effect is an append to the store or a call of the adapter.  The environment
answers every effect: it may fail, and the process may die before it.  One
operation runs at a time.
-/

import TurtleExecution.Foundation.Process
import TurtleExecution.Foundation.Sha256
import TurtleExecution.OrderManager.Memory

set_option autoImplicit false

namespace TurtleExecution.OrderManager

open ExchangeAdapter SharedStore

class Sources (Stored Number : Type) where
  machine : Source Stored ExecutionStateMachine.Payload
  orders : Source Stored (Payload Number)
  separate : ∀ payload : ExecutionStateMachine.Payload,
    orders.own? (machine.wrap payload) = none

attribute [reducible, instance] Sources.machine Sources.orders

instance {Number : Type} : Sources (ExecutionStateMachine.Payload ⊕ Payload Number) Number where
  machine :=
    { wrap := Sum.inl
      own? := Sum.getLeft?
      own?_wrap := fun _ => rfl }
  orders :=
    { wrap := Sum.inr
      own? := Sum.getRight?
      own?_wrap := fun _ => rfl }
  separate := fun _ => rfl

structure Answer (Number : Type) where
  crash : Bool
  now : String
  appendFailure : Option StoreFailure
  order : Except CallError (Order Number)
  orders : Except CallError (List (Order Number))
  found : Except CallError (Option (Order Number))

inductive Request (Number : Type)
  | place (request : OrderRequest Number)
  | amend (request : AmendRequest Number)
  | cancel (request : CancelRequest)
  | cancelAll (request : CancelAllRequest)

def Request.id {Number : Type} : Request Number → String
  | place request => request.clientOrderId
  | amend request => request.requestId
  | cancel request => request.requestId
  | cancelAll request => request.requestId

/-- A request as the adapter was handed it, with the log at that moment. -/
structure Handed (Stored Number : Type) where
  request : Request Number
  log : Log Stored

structure World (Stored Number : Type) where
  log : Log Stored
  machine : ExecutionStateMachine.Machine
  memory : Memory Number
  handed : List (Handed Stored Number)
  environment : Nat → Answer Number
  clock : Nat

abbrev Operation (Stored Number Value : Type) :=
  Process (World Stored Number) OrderManagerError Value

section

variable {Stored Number : Type}

/-- The next answer of the environment, unless the process dies here. -/
def consult : Operation Stored Number (Answer Number) := do
  let world ← Process.get
  let answer := world.environment world.clock
  Process.modify fun world => { world with clock := world.clock + 1 }
  if answer.crash then Process.crash else return answer

def memory : Operation Stored Number (Memory Number) := do
  let world ← Process.get
  return world.memory

def setMemory (memory : Memory Number) : Operation Stored Number Unit :=
  Process.modify fun world => { world with memory }

def ofModel (result : Except ModelError Unit) : Operation Stored Number Unit :=
  Process.ofExcept (result.mapError OrderManagerError.request)

def hand (request : Request Number) : Operation Stored Number (Answer Number) := do
  let answer ← consult
  Process.modify fun world =>
    { world with handed := world.handed ++ [{ request, log := world.log }] }
  return answer

def ofCall {Value : Type} (result : Except CallError Value) : Operation Stored Number Value :=
  Process.ofExcept (result.mapError OrderManagerError.call)

def mutate {Value : Type} (request : Request Number)
    (result : Answer Number → Except CallError Value) : Operation Stored Number Value := do
  let answer ← hand request
  ofCall (result answer)

def snapshotOf (clientOrderId : String) : Operation Stored Number (OrderSnapshot Number) := do
  let memory ← memory
  Process.ofExcept (required clientOrderId (memory.snapshots.get? clientOrderId))

def trackedOrder (clientOrderId : String) : Operation Stored Number (OrderSnapshot Number) := do
  let memory ← memory
  match memory.snapshots.get? clientOrderId with
  | some existing => return existing
  | none => Process.raise (.orderNotFound clientOrderId)

def nextId (omId suffix : String) : Operation Stored Number (Nat × String) := do
  let memory ← memory
  let seq := memory.nextSeq
  setMemory { memory with nextSeq := seq + 1 }
  return (seq, makeId omId seq suffix)

def eventTypeForAction (action : Action) (toState : Option OrderLifecycleState) : EventType :=
  match action with
  | .submit => .orderSubmitted
  | .fill => .orderFilled
  | .amendRequested => .positionUpdated
  | .amend => .positionUpdated
  | .cancelAllRequested => .orderCancelled
  | .statusUpdate =>
      match toState with
      | some .cancelled => .orderCancelled
      | some .rejected => .orderCancelled
      | some .expired => .orderCancelled
      | some .failed => .orderCancelled
      | _ => .orderAcknowledged
  | .other _ => .healthAlert

variable [Arithmetic Number] [Sources Stored Number]

def persist (omId : String) (payload : Payload Number) (idempotencyKey : String) :
    Operation Stored Number (Event Stored) := do
  let answer ← consult
  match answer.appendFailure with
  | some failure => Process.raise (.store failure)
  | none => do
      let world ← Process.get
      let (event, log) := world.log.append (eventTypeForAction payload.action payload.toState)
        (Source.wrap payload) (some (namespacedKey omId idempotencyKey)) answer.now
      Process.modify fun world => { world with log }
      return event

def applyPersisted (event : Event Stored) :
    Operation Stored Number (Option (OrderSnapshot Number)) := do
  let memory ← memory
  match Source.own? event.payload with
  | none => Process.raise (.valueError "not an order manager event")
  | some payload => do
      let (result, memory) := memory.applyEvent event payload
      setMemory memory
      Process.ofExcept result

def persistAndApply (omId : String) (payload : Payload Number) (idempotencyKey : String) :
    Operation Stored Number (Option (OrderSnapshot Number)) := do
  let event ← persist omId payload idempotencyKey
  applyPersisted event

/-- The trigger that an order's step drives; `submit` stands for the text `SUBMIT`. -/
def executionTrigger? (trigger : OrderLifecycleTrigger) (fromState : OrderLifecycleState)
    (unfilled : Bool) : Option ExecutionStateMachine.Trigger :=
  match trigger with
  | .submit => some .orderPlaced
  | .rejected => some .orderRejected
  | .partialFill => some .partialFillReceived
  | .fullFill => if fromState = .partiallyFilled then some .remainderFilled else some .fullyFilled
  | .cancelConfirmed =>
      if fromState = .cancelPending ∧ unfilled = true then some .orderCancelled else none
  | _ => none

def driveRequestId (clientOrderId : String) (trigger : ExecutionStateMachine.Trigger) : String :=
  String.ofList ((hexdigest (clientOrderId ++ ":" ++ trigger.value)).take 40)

def driveCall (clientOrderId : String) (trigger : ExecutionStateMachine.Trigger)
    (answer : Answer Number) : ExecutionStateMachine.TransitionCall :=
  { trigger
    requestId := driveRequestId clientOrderId trigger
    context := some [(.str "client_order_id", .str clientOrderId)]
    now := answer.now
    failure := answer.appendFailure }

def exceptIllegal (result : Except ExecutionStateMachine.MachineError
    ExecutionStateMachine.TransitionResult) : Operation Stored Number Unit :=
  match result with
  | .ok _ => return ()
  | .error (.illegalTransition _) => return ()
  | .error error => Process.raise (.machine error)

def driveExecutionSm (clientOrderId : String) (trigger : OrderLifecycleTrigger)
    (fromState : OrderLifecycleState) (unfilled : Bool) : Operation Stored Number Unit := do
  match executionTrigger? trigger fromState unfilled with
  | none => return ()
  | some executionTrigger => do
      let answer ← consult
      let world ← Process.get
      let outcome := ExecutionStateMachine.transition world.log world.machine
        (driveCall clientOrderId executionTrigger answer)
      Process.modify fun world => { world with log := outcome.2.1, machine := outcome.2.2 }
      exceptIllegal outcome.1

def unfilled (snapshot : Option (OrderSnapshot Number)) : Bool :=
  match snapshot with
  | some snapshot => Arithmetic.isZero snapshot.filledQuantity
  | none => false

def statusToTrigger? : OrderStatus → Option OrderLifecycleTrigger
  | .acknowledged => some .acknowledged
  | .cancelled => some .cancelConfirmed
  | .rejected => some .rejected
  | _ => none

def transitionPayload (omId : String) (action : Action) (clientOrderId : String)
    (seq : Option Nat) (trigger : OrderLifecycleTrigger) (fromState toState : OrderLifecycleState)
    (details : Details Number) : Payload Number :=
  { omId, seq, action, clientOrderId
    trigger := some trigger
    fromState := some fromState
    toState := some toState
    details }

def plainPayload (omId : String) (action : Action) (clientOrderId : String) (seq : Option Nat)
    (details : Details Number) : Payload Number :=
  { omId, seq, action, clientOrderId
    trigger := none
    fromState := none
    toState := none
    details }

def ingestStatus (omId clientOrderId : String) (status : OrderStatus)
    (exchangeOrderId : Option String) : Operation Stored Number (Option (OrderSnapshot Number)) :=
  match statusToTrigger? status with
  | none => do
      let existing ← snapshotOf clientOrderId
      return some existing
  | some trigger => do
      let existing ← snapshotOf clientOrderId
      let current := existing.lifecycleState
      match nextState? current trigger with
      | none =>
          if isTerminal current ∨ triggerMinTargetRank trigger ≤ stateRank current then
            return some existing
          else
            Process.raise (.orderStateInconsistency
              s!"client_order_id={clientOrderId}: status {status.value} is not legal from {current.value} and is not recognizably stale")
      | some toState => do
          let snapshot ← persistAndApply omId
            (transitionPayload omId .statusUpdate clientOrderId none trigger current toState
              { exchangeOrderId })
            (clientOrderId ++ ":status:" ++ trigger.value ++ ":" ++ current.value)
          driveExecutionSm clientOrderId trigger current (unfilled snapshot)
          return snapshot

def recordFailure (omId clientOrderId : String) (trigger : OrderLifecycleTrigger)
    (message idempotencyKey : String) : Operation Stored Number Unit := do
  let existing ← snapshotOf clientOrderId
  let current := existing.lifecycleState
  match nextState? current trigger with
  | none => return ()
  | some toState => do
      let _ ← persistAndApply omId
        (transitionPayload omId .statusUpdate clientOrderId none trigger current toState
          { error := some message })
        idempotencyKey

/-- `except ExchangeAdapterError`: the failure is recorded and raised again. -/
def onAdapterError {Value : Type} (record : String → Operation Stored Number Unit)
    (error : OrderManagerError) : Operation Stored Number Value :=
  match error with
  | .call (.exchangeAdapter message) => do
      record message
      Process.raise error
  | error => Process.raise error

structure PlaceArguments (Number : Type) where
  symbol : Symbol
  side : OrderSide
  orderType : ExchangeAdapter.OrderType
  quantity : Number
  limitPrice : Option Number
  timeInForce : TimeInForce
  reduceOnly : Bool

def submitPayload (omId clientOrderId : String) (seq : Nat) (arguments : PlaceArguments Number) :
    Payload Number :=
  plainPayload omId .submit clientOrderId (some seq)
    { symbol := some arguments.symbol
      side := some arguments.side
      orderType := some arguments.orderType
      quantity := some arguments.quantity
      limitPrice := arguments.limitPrice
      timeInForce := some arguments.timeInForce
      reduceOnly := some arguments.reduceOnly }

def placeOrder (omId : String) (arguments : PlaceArguments Number) :
    Operation Stored Number (Option (OrderSnapshot Number)) := do
  let (seq, clientOrderId) ← nextId omId "place"
  let _ ← persistAndApply omId (submitPayload omId clientOrderId seq arguments) clientOrderId
  driveExecutionSm clientOrderId .submit .new false
  let request : OrderRequest Number :=
    { clientOrderId
      symbol := arguments.symbol
      side := arguments.side
      orderType := arguments.orderType
      quantity := arguments.quantity
      limitPrice := arguments.limitPrice
      timeInForce := arguments.timeInForce
      reduceOnly := arguments.reduceOnly }
  ofModel request.validate
  let order ← Process.tryCatch
    (mutate (.place request) Answer.order)
    (onAdapterError fun message =>
      recordFailure omId clientOrderId .submitFailed message (clientOrderId ++ ":submit_failed"))
  if order.status = .rejected then
    ingestStatus omId clientOrderId .rejected order.exchangeOrderId
  else
    ingestStatus omId clientOrderId .acknowledged order.exchangeOrderId

def amendOrder (omId clientOrderId : String) (newQuantity newLimitPrice : Option Number) :
    Operation Stored Number (Option (OrderSnapshot Number)) :=
  if newQuantity.isNone && newLimitPrice.isNone then
    Process.raise
      (.valueError "amend must change at least one of new_quantity or new_limit_price")
  else do
    let existing ← trackedOrder clientOrderId
    if existing.lifecycleState ≠ .acknowledged ∧ existing.lifecycleState ≠ .partiallyFilled then
      Process.raise (.illegalOrderTransition
        s!"cannot amend order in state {existing.lifecycleState.value}")
    else
      match existing.exchangeOrderId with
      | none =>
          Process.raise (.orderStateInconsistency
            s!"order {clientOrderId} has no exchange_order_id yet")
      | some exchangeOrderId => do
          let (seq, requestId) ← nextId omId "amend"
          let _ ← persistAndApply omId
            (plainPayload omId .amendRequested clientOrderId (some seq)
              { requestId := some requestId
                newQuantity
                newLimitPrice := some newLimitPrice })
            (clientOrderId ++ ":amend_req:" ++ requestId)
          let request : AmendRequest Number :=
            { requestId, exchangeOrderId, newQuantity, newLimitPrice }
          ofModel request.validate
          let order ← mutate (.amend request) Answer.order
          persistAndApply omId
            (plainPayload omId .amend clientOrderId none
              { newQuantity := some order.quantity
                newLimitPrice := some order.limitPrice })
            (clientOrderId ++ ":amend_applied:" ++ requestId)

def cancelOrder (omId clientOrderId : String) :
    Operation Stored Number (Option (OrderSnapshot Number)) := do
  let existing ← trackedOrder clientOrderId
  let current := existing.lifecycleState
  if current = .cancelPending then return some existing
  else
    match nextState? current .cancelRequested with
    | none =>
        Process.raise (.illegalOrderTransition s!"cannot cancel order in state {current.value}")
    | some toState =>
        match existing.exchangeOrderId with
        | none =>
            Process.raise (.orderStateInconsistency
              s!"order {clientOrderId} has no exchange_order_id yet")
        | some exchangeOrderId => do
            let (seq, requestId) ← nextId omId "cancel"
            let _ ← persistAndApply omId
              (transitionPayload omId .statusUpdate clientOrderId (some seq) .cancelRequested current
                toState { requestId := some requestId })
              (clientOrderId ++ ":cancel:" ++ requestId)
            let request : CancelRequest := { requestId, exchangeOrderId }
            ofModel request.validate
            let order ← Process.tryCatch
              (mutate (.cancel request) Answer.order)
              (onAdapterError fun message =>
                recordFailure omId clientOrderId .cancelFailed message
                  (clientOrderId ++ ":cancel_failed:" ++ requestId))
            ingestStatus omId clientOrderId order.status order.exchangeOrderId

def confirmCancelled (omId requestId : String) (order : Order Number) :
    Operation Stored Number (List (OrderSnapshot Number)) :=
  match nextState? .cancelPending .cancelConfirmed with
  | none => Process.raise (.keyError "CANCEL_CONFIRMED")
  | some confirmed => do
      let snapshot ← persistAndApply omId
        (transitionPayload omId .statusUpdate order.clientOrderId none .cancelConfirmed
          .cancelPending confirmed { exchangeOrderId := order.exchangeOrderId })
        (order.clientOrderId ++ ":cancel_all_confirm:" ++ requestId)
      driveExecutionSm order.clientOrderId .cancelConfirmed .cancelPending (unfilled snapshot)
      return snapshot.toList

def cancelAllTurn (omId requestId : String) (order : Order Number) :
    Operation Stored Number (List (OrderSnapshot Number)) := do
  let memory ← memory
  match memory.snapshots.get? order.clientOrderId with
  | none => return []
  | some existing =>
      let current := existing.lifecycleState
      if current = .acknowledged ∨ current = .partiallyFilled then
        match nextState? current .cancelRequested with
        | none => Process.raise (.keyError "CANCEL_REQUESTED")
        | some pending => do
            let _ ← persistAndApply omId
              (transitionPayload omId .statusUpdate order.clientOrderId none .cancelRequested current
                pending { requestId := some requestId })
              (order.clientOrderId ++ ":cancel_all_pending:" ++ requestId)
            if pending = .cancelPending then confirmCancelled omId requestId order
            else return []
      else if current = .cancelPending then confirmCancelled omId requestId order
      else return []

def cancelAllTurns (omId requestId : String) :
    List (Order Number) → Operation Stored Number (List (OrderSnapshot Number))
  | [] => return []
  | order :: orders => do
      let first ← cancelAllTurn omId requestId order
      let rest ← cancelAllTurns omId requestId orders
      return first ++ rest

def cancelAll (omId : String) (symbol : Option Symbol) :
    Operation Stored Number (List (OrderSnapshot Number)) := do
  let (seq, requestId) ← nextId omId "cancel_all"
  let _ ← persistAndApply omId
    (plainPayload omId .cancelAllRequested "*" (some seq)
      { requestId := some requestId, symbol })
    ("cancel_all:" ++ requestId)
  let request : CancelAllRequest := { requestId, symbol }
  ofModel request.validate
  let orders ← mutate (.cancelAll request) Answer.orders
  cancelAllTurns omId requestId orders

def fillTrigger (newFilled quantity : Number) : Except OrderManagerError OrderLifecycleTrigger :=
  match Arithmetic.le quantity newFilled with
  | .error error => .error (.arithmetic error)
  | .ok true => .ok .fullFill
  | .ok false => .ok .partialFill

def reportFill (omId clientOrderId : String) (fill : Fill Number) :
    Operation Stored Number (Option (OrderSnapshot Number)) := do
  let existing ← trackedOrder clientOrderId
  let memory ← memory
  if fill.fillId ∈ memory.fillIds clientOrderId then return some existing
  else if isTerminal existing.lifecycleState then do
    setMemory (memory.addFillId clientOrderId fill.fillId)
    return some existing
  else do
    let newFilled ← Process.ofExcept
      ((Arithmetic.add existing.filledQuantity fill.quantity).mapError OrderManagerError.arithmetic)
    let trigger ← Process.ofExcept (fillTrigger newFilled existing.quantity)
    let current := existing.lifecycleState
    match nextState? current trigger with
    | none =>
        Process.raise (.orderStateInconsistency
          s!"fill for {clientOrderId} not legal from {current.value}")
    | some toState => do
        let snapshot ← persistAndApply omId
          (transitionPayload omId .fill clientOrderId none trigger current toState
            { fillId := some fill.fillId
              fillQuantity := some fill.quantity
              fillPrice := some fill.price })
          (clientOrderId ++ ":fill:" ++ fill.fillId)
        driveExecutionSm clientOrderId trigger current (unfilled snapshot)
        return snapshot

def reportOrderUpdate (omId clientOrderId : String) (order : Order Number) :
    Operation Stored Number (Option (OrderSnapshot Number)) := do
  let _ ← trackedOrder clientOrderId
  ingestStatus omId clientOrderId order.status order.exchangeOrderId

def resyncOrder (omId clientOrderId : String) :
    Operation Stored Number (Option (OrderSnapshot Number)) := do
  let existing ← trackedOrder clientOrderId
  match existing.exchangeOrderId with
  | none => do
      let request : OrderRequest Number :=
        { clientOrderId := existing.clientOrderId
          symbol := existing.symbol
          side := existing.side
          orderType := existing.orderType
          quantity := existing.quantity
          limitPrice := existing.limitPrice
          timeInForce := existing.timeInForce
          reduceOnly := existing.reduceOnly }
      ofModel request.validate
      let answer ← consult
      let found ← ofCall answer.found
      match found with
      | none => return some existing
      | some order => ingestStatus omId clientOrderId order.status order.exchangeOrderId
  | some _ => do
      let answer ← consult
      let order ← ofCall answer.order
      ingestStatus omId clientOrderId order.status order.exchangeOrderId

end

end TurtleExecution.OrderManager

/-
The position manager: its memory, how one event changes it, and its operations.

`applyEvent` is the only way an event reaches memory, live and in a replay.  A
payload holds the values that its texts parse to; the shape of its details follows
its action, as the manager writes them.
-/

import TurtleExecution.PositionManager.Keys
import TurtleExecution.PositionManager.Pnl
import TurtleExecution.PositionManager.States
import TurtleExecution.SharedStore.Journal

set_option autoImplicit false

namespace TurtleExecution.PositionManager

open ExchangeAdapter SharedStore

structure PositionSnapshot (Number : Type) where
  positionId : String
  lifecycleState : PositionLifecycleState
  symbol : Symbol
  side : OrderSide
  intendedQuantity : Number
  filledQuantity : Number
  remainingQuantity : Number
  avgEntryPrice : Option Number
  stopPrice : Number
  stopD : Number
  t1Price : Number
  t2Price : Number
  conviction : Option Number
  realizedPnl : Number
  realizedR : Number
  feesPaid : Number
  fundingPaid : Number
  createdAtUtc : String
  updatedAtUtc : String

structure ClosedLeg (Number : Type) where
  positionId : String
  symbol : String
  r : Number
  pct : Number
  reason : String
  conv : Option Number
  entryAtUtc : String
  exitAtUtc : String
  entryPx : Option Number
  exitPx : Number
  stopD : Number
  quantity : Number
  fee : Number
  realizedPnl : Number

structure Edge where
  trigger : PositionLifecycleTrigger
  fromState : PositionLifecycleState
  toState : PositionLifecycleState
  deriving DecidableEq, Repr

structure CreateDetails (Number : Type) where
  symbol : Symbol
  side : OrderSide
  intendedQuantity : Number
  stopPrice : Number
  stopD : Number
  t1Price : Number
  t2Price : Number
  conviction : Option Number

structure EntryDetails (Number : Type) where
  fillId : String
  fillPrice : Number
  fillQuantity : Number
  fee : Number

structure ExitDetails (Number : Type) where
  fillId : String
  fillPrice : Number
  fillQuantity : Number
  fee : Number
  r : Number
  pct : Number
  reason : String
  realizedPnl : Number

structure FundingDetails (Number : Type) where
  amount : Number
  timestampUtc : String
  fundingId : String

inductive Change (Number : Type)
  | create (details : CreateDetails Number)
  | entryFill (edge : Edge) (details : EntryDetails Number)
  | exit (edge : Edge) (details : ExitDetails Number)
  | transition (change : PureTransition) (edge : Edge)
  | funding (details : FundingDetails Number)
  | other (action : String)

structure Payload (Number : Type) where
  pmId : String
  seq : Option Nat
  positionId : String
  change : Change Number

def eventTypeForAction {Number : Type} : Change Number → EventType
  | .create _ => .positionOpened
  | .entryFill _ _ => .positionUpdated
  | .exit edge _ =>
      match edge.toState with
      | .stopTriggered => .stopUpdated
      | .t1Reached => .takeProfitUpdated
      | .t2Reached => .takeProfitUpdated
      | _ => .positionClosed
  | .transition .breakeven _ => .stopUpdated
  | .transition .completeClose _ => .positionClosed
  | .transition .archive _ => .positionUpdated
  | .funding _ => .positionUpdated
  | .other _ => .healthAlert

inductive ReplayProblem
  | unknownPosition (positionId : String)
  | fromStateMismatch (recorded reconstructed : PositionLifecycleState)
  | illegalTransition (positionId : String)
  | unknownAction (action : String)
  deriving DecidableEq, Repr

inductive PositionManagerError
  | model (error : ModelError)
  | positionNotFound (positionId : String)
  | illegalPositionTransition (message : String)
  | positionStateInconsistency (message : String)
  | replayIntegrity (eventId : Nat) (problem : ReplayProblem)
  | store (failure : StoreFailure)
  | notOwnEvent
  deriving DecidableEq, Repr

structure Memory (Number : Type) where
  snapshots : Dict String (PositionSnapshot Number)
  closedLegs : Dict String (List (ClosedLeg Number))
  processedFillIds : Dict String (List String)
  appliedEventIds : List Nat
  nextSeq : Nat

def Memory.initial {Number : Type} : Memory Number :=
  { snapshots := [], closedLegs := [], processedFillIds := [], appliedEventIds := [], nextSeq := 1 }

section

variable {Number Stored : Type}

/-- `_processed_fill_ids.get(position_id, set())`. -/
def Memory.fillIds (memory : Memory Number) (positionId : String) : List String :=
  (memory.processedFillIds.get? positionId).getD []

def Memory.addFillId (memory : Memory Number) (positionId fillId : String) : Memory Number :=
  let known := memory.fillIds positionId
  { memory with
    processedFillIds := memory.processedFillIds.set positionId
      (if fillId ∈ known then known else known ++ [fillId]) }

def Memory.addLeg (memory : Memory Number) (positionId : String) (leg : ClosedLeg Number) :
    Memory Number :=
  { memory with
    closedLegs := memory.closedLegs.set positionId
      ((memory.closedLegs.get? positionId).getD [] ++ [leg]) }

def Memory.note (memory : Memory Number) (eventId : Nat) (seq : Option Nat) : Memory Number :=
  { memory with
    appliedEventIds := memory.appliedEventIds ++ [eventId]
    nextSeq :=
      match seq with
      | some seq => max memory.nextSeq (seq + 1)
      | none => memory.nextSeq }

def Memory.commit (memory : Memory Number) (positionId : String)
    (result : Except ArithmeticError (PositionSnapshot Number)) :
    Except PositionManagerError (Option (PositionSnapshot Number)) × Memory Number :=
  match result with
  | .ok snapshot =>
      (.ok (some snapshot), { memory with snapshots := memory.snapshots.set positionId snapshot })
  | .error error => (.error (.model (.arithmetic error)), memory)

def checkEdge (eventId : Nat) (positionId : String) (existing : PositionSnapshot Number)
    (edge : Edge) : Except PositionManagerError Unit :=
  if edge.fromState ≠ existing.lifecycleState then
    .error (.replayIntegrity eventId (.fromStateMismatch edge.fromState existing.lifecycleState))
  else if nextState? edge.fromState edge.trigger ≠ some edge.toState then
    .error (.replayIntegrity eventId (.illegalTransition positionId))
  else .ok ()

def closedLeg (event : Event Stored) (positionId : String) (existing : PositionSnapshot Number)
    (details : ExitDetails Number) : ClosedLeg Number :=
  { positionId
    symbol := existing.symbol.value
    r := details.r
    pct := details.pct
    reason := details.reason
    conv := existing.conviction
    entryAtUtc := existing.createdAtUtc
    exitAtUtc := event.timestampUtc
    entryPx := existing.avgEntryPrice
    exitPx := details.fillPrice
    stopD := existing.stopD
    quantity := details.fillQuantity
    fee := details.fee
    realizedPnl := details.realizedPnl }

section

variable [LedgerArithmetic Number]

def createdSnapshot (event : Event Stored) (positionId : String) (details : CreateDetails Number) :
    PositionSnapshot Number :=
  { positionId
    lifecycleState := .new
    symbol := details.symbol
    side := details.side
    intendedQuantity := details.intendedQuantity
    filledQuantity := Arithmetic.zero
    remainingQuantity := Arithmetic.zero
    avgEntryPrice := none
    stopPrice := details.stopPrice
    stopD := details.stopD
    t1Price := details.t1Price
    t2Price := details.t2Price
    conviction := details.conviction
    realizedPnl := Arithmetic.zero
    realizedR := Arithmetic.zero
    feesPaid := Arithmetic.zero
    fundingPaid := Arithmetic.zero
    createdAtUtc := event.timestampUtc
    updatedAtUtc := event.timestampUtc }

def enteredSnapshot (event : Event Stored) (existing : PositionSnapshot Number) (edge : Edge)
    (details : EntryDetails Number) : Except ArithmeticError (PositionSnapshot Number) := do
  let newAvg ← weightedAveragePrice existing.avgEntryPrice existing.filledQuantity
    details.fillPrice details.fillQuantity
  let newFilled ← Arithmetic.add existing.filledQuantity details.fillQuantity
  let feesPaid ← Arithmetic.add existing.feesPaid details.fee
  return { existing with
           lifecycleState := edge.toState
           avgEntryPrice := some newAvg
           filledQuantity := newFilled
           remainingQuantity := newFilled
           feesPaid
           updatedAtUtc := event.timestampUtc }

def exitedSnapshot (event : Event Stored) (existing : PositionSnapshot Number) (edge : Edge)
    (details : ExitDetails Number) : Except ArithmeticError (PositionSnapshot Number) := do
  let remainingQuantity ← Arithmetic.sub existing.remainingQuantity details.fillQuantity
  let realizedPnl ← Arithmetic.add existing.realizedPnl details.realizedPnl
  let realizedR ← Arithmetic.add existing.realizedR details.r
  let feesPaid ← Arithmetic.add existing.feesPaid details.fee
  return { existing with
           lifecycleState := edge.toState
           remainingQuantity, realizedPnl, realizedR, feesPaid
           updatedAtUtc := event.timestampUtc }

def fundedSnapshot (event : Event Stored) (existing : PositionSnapshot Number)
    (details : FundingDetails Number) : Except ArithmeticError (PositionSnapshot Number) := do
  let fundingPaid ← Arithmetic.add existing.fundingPaid details.amount
  return { existing with fundingPaid, updatedAtUtc := event.timestampUtc }

def Memory.change (memory : Memory Number) (event : Event Stored) (positionId : String)
    (existing : PositionSnapshot Number) (change : Change Number) :
    Except PositionManagerError (Option (PositionSnapshot Number)) × Memory Number :=
  match change with
  | .create _ => (.error .notOwnEvent, memory)
  | .entryFill edge details =>
      match checkEdge event.eventId positionId existing edge with
      | .error error => (.error error, memory)
      | .ok () =>
          (memory.addFillId positionId details.fillId).commit positionId
            (enteredSnapshot event existing edge details)
  | .exit edge details =>
      match checkEdge event.eventId positionId existing edge with
      | .error error => (.error error, memory)
      | .ok () =>
          ((memory.addFillId positionId details.fillId).addLeg positionId
            (closedLeg event positionId existing details)).commit positionId
              (exitedSnapshot event existing edge details)
  | .transition _ edge =>
      match checkEdge event.eventId positionId existing edge with
      | .error error => (.error error, memory)
      | .ok () =>
          memory.commit positionId (.ok { existing with
            lifecycleState := edge.toState
            updatedAtUtc := event.timestampUtc })
  | .funding details => memory.commit positionId (fundedSnapshot event existing details)
  | .other action => (.error (.replayIntegrity event.eventId (.unknownAction action)), memory)

/-- `_apply_event`, which may raise after it has changed memory. -/
def Memory.applyEvent (memory : Memory Number) (event : Event Stored) (payload : Payload Number) :
    Except PositionManagerError (Option (PositionSnapshot Number)) × Memory Number :=
  let positionId := payload.positionId
  if event.eventId ∈ memory.appliedEventIds then
    (.ok (memory.snapshots.get? positionId), memory)
  else
    let memory := memory.note event.eventId payload.seq
    match payload.change with
    | .create details =>
        let snapshot := createdSnapshot event positionId details
        (.ok (some snapshot),
          { memory with
            snapshots := memory.snapshots.set positionId snapshot
            closedLegs := memory.closedLegs.set positionId
              ((memory.closedLegs.get? positionId).getD [])
            processedFillIds := memory.processedFillIds.set positionId (memory.fillIds positionId) })
    | change =>
        match memory.snapshots.get? positionId with
        | none =>
            (.error (.replayIntegrity event.eventId (.unknownPosition positionId)), memory)
        | some existing => memory.change event positionId existing change

variable [Source Stored (Payload Number)]

def journal (pmId : String) : Journal Stored (Payload Number) (Memory Number) PositionManagerError
    (Option (PositionSnapshot Number)) :=
  { wrap := Source.wrap
    payload? := Source.own?
    mine := fun payload => payload.pmId = pmId
    eventType := fun payload => eventTypeForAction payload.change
    namespacedKey := namespacedKey pmId
    apply := Memory.applyEvent
    storeError := .store
    notOwn := .notOwnEvent }

def maxPmIdLength : Nat := 60

def construct (pmId : String) (log : Log Stored) : Except PositionManagerError (Memory Number) :=
  if PyText.isBlank pmId then .error (.model (.valueError "pm_id must be a non-empty string"))
  else if maxPmIdLength < pmId.length then
    .error (.model (.valueError s!"pm_id exceeds {maxPmIdLength} characters"))
  else (journal pmId).replay Memory.initial log.entries

def Memory.getPosition (memory : Memory Number) (positionId : String) :
    Except PositionManagerError (PositionSnapshot Number) :=
  match memory.snapshots.get? positionId with
  | none => .error (.positionNotFound positionId)
  | some snapshot => .ok snapshot

def Memory.unrealizedPnl (memory : Memory Number) (positionId : String) (markPrice : Number) :
    Except PositionManagerError Number := do
  let snapshot ← memory.getPosition positionId
  match snapshot.avgEntryPrice with
  | none => return Arithmetic.zero
  | some avgEntryPrice =>
      let flat ← (Arithmetic.le snapshot.remainingQuantity Arithmetic.zero).mapError
        fun error => PositionManagerError.model (.arithmetic error)
      if flat then return Arithmetic.zero
      else
        (PositionManager.unrealizedPnl avgEntryPrice markPrice snapshot.remainingQuantity).mapError
          fun error => .model (.arithmetic error)

abbrev Operation (Stored Number Value : Type) :=
  Process (Host Stored (Memory Number)) PositionManagerError Value

def memory : Operation Stored Number (Memory Number) := do
  let host ← Process.get
  return host.memory

def setMemory (memory : Memory Number) : Operation Stored Number Unit :=
  Process.modify fun host => { host with memory }

def ofModel {Value : Type} (result : Except ModelError Value) : Operation Stored Number Value :=
  Process.ofExcept (result.mapError PositionManagerError.model)

def record (pmId : String) (payload : Payload Number) (key : MutationKey) :
    Operation Stored Number (Option (PositionSnapshot Number)) :=
  (journal pmId).record payload key.text

def trackedPosition (positionId : String) : Operation Stored Number (PositionSnapshot Number) := do
  let memory ← memory
  match memory.snapshots.get? positionId with
  | some existing => return existing
  | none => Process.raise (.positionNotFound positionId)

/-- The target of a legal transition, or `none` where the request is stale. -/
def tryTransition (positionId : String) (trigger : PositionLifecycleTrigger)
    (current : PositionLifecycleState) : Except PositionManagerError (Option PositionLifecycleState) :=
  match nextState? current trigger with
  | some toState => .ok (some toState)
  | none =>
      if isTerminal current ∨ triggerMinTargetRank trigger ≤ stateRank current then .ok none
      else
        .error (.positionStateInconsistency
          s!"position_id={positionId}: trigger {trigger.value} is not legal from {current.value} and is not recognizably stale")

def createPosition (pmId : String) (details : CreateDetails Number) :
    Operation Stored Number (Option (PositionSnapshot Number)) := do
  ofModel (requirePositive "intended_quantity must be positive" details.intendedQuantity)
  ofModel (requirePositive "stop_d must be positive" details.stopD)
  let memory ← memory
  let seq := memory.nextSeq
  setMemory { memory with nextSeq := seq + 1 }
  let positionId := positionIdOf pmId seq
  record pmId { pmId, seq := some seq, positionId, change := .create details } (.create positionId)

def takesEntries : PositionLifecycleState → Bool
  | .new => true
  | .opened => true
  | .partiallyFilled => true
  | _ => false

/-- The first step of an entry fill: a new position is opened, with no quantity yet. -/
def openOnFirstFill (pmId positionId : String) (fill : Fill Number)
    (current : PositionLifecycleState) : Operation Stored Number PositionLifecycleState :=
  if current = .new then
    match nextState? .new .firstFill with
    | none => Process.raise (.illegalPositionTransition "FIRST_FILL")
    | some toOpen => do
        let _ ← record pmId
          { pmId
            seq := none
            positionId
            change := .entryFill { trigger := .firstFill, fromState := .new, toState := toOpen }
              { fillId := fill.fillId ++ ":open"
                fillPrice := fill.price
                fillQuantity := Arithmetic.zero
                fee := Arithmetic.zero } }
          (.opening positionId fill.fillId)
        return toOpen
  else return current

def recordEntryFill (pmId positionId : String) (fill : Fill Number) :
    Operation Stored Number (Option (PositionSnapshot Number)) := do
  let existing ← trackedPosition positionId
  let before ← memory
  if fill.fillId ∈ before.fillIds positionId then return some existing
  else if takesEntries existing.lifecycleState = false then
    Process.raise (.illegalPositionTransition
      s!"cannot apply entry fill to position in state {existing.lifecycleState.value}")
  else do
    let newFilled ← ofModel (compute (Arithmetic.add existing.filledQuantity fill.quantity))
    let current ← openOnFirstFill pmId positionId fill existing.lifecycleState
    let complete ← ofModel (compute (Arithmetic.le existing.intendedQuantity newFilled))
    let trigger := if complete then PositionLifecycleTrigger.entryComplete else .entryPartial
    let toState ← Process.ofExcept (tryTransition positionId trigger current)
    match toState with
    | none => do
        let after ← memory
        return after.snapshots.get? positionId
    | some toState =>
        record pmId
          { pmId
            seq := none
            positionId
            change := .entryFill { trigger, fromState := current, toState }
              { fillId := fill.fillId
                fillPrice := fill.price
                fillQuantity := fill.quantity
                fee := fill.fee } }
          (.entry positionId fill.fillId)

def exitDetails (existing : PositionSnapshot Number) (avgEntryPrice : Number) (fill : Fill Number)
    (reason : String) : Except ModelError (ExitDetails Number) := do
  let fraction ← fractionOfOriginal fill.quantity existing.intendedQuantity
  let r ← legRMultiple avgEntryPrice fill.price existing.stopD fraction fill.fee fill.quantity
  let pct ← legPct avgEntryPrice fill.price fraction
  let realizedPnl ← compute (legRealizedPnl avgEntryPrice fill.price fill.quantity fill.fee)
  return { fillId := fill.fillId
           fillPrice := fill.price
           fillQuantity := fill.quantity
           fee := fill.fee
           r, pct, reason, realizedPnl }

/-- The reason of a leg; `reason` is used for a close only. -/
def legReason (trigger : PositionLifecycleTrigger) (current : PositionLifecycleState)
    (reason : Option String) : String :=
  match trigger with
  | .stop => if current = .breakevenActive then "stop_after_t1" else "stop_before_t1"
  | .close =>
      match reason with
      | some reason => if reason = "" then "signal_loss" else reason
      | none => "signal_loss"
  | .t1 => "t1_half"
  | _ => "t2"

def isExitTrigger : PositionLifecycleTrigger → Bool
  | .t1 => true
  | .t2 => true
  | .stop => true
  | .close => true
  | _ => false

def recordExit (pmId positionId : String) (fill : Fill Number) (trigger : PositionLifecycleTrigger)
    (reason : Option String) : Operation Stored Number (Option (PositionSnapshot Number)) :=
  if isExitTrigger trigger = false then
    Process.raise (.model (.valueError s!"trigger must be T1, T2, STOP, or CLOSE, got {trigger.value}"))
  else do
    let existing ← trackedPosition positionId
    let before ← memory
    if fill.fillId ∈ before.fillIds positionId then return some existing
    else if isTerminal existing.lifecycleState then do
      setMemory (before.addFillId positionId fill.fillId)
      return some existing
    else do
      let current := existing.lifecycleState
      let toState ← Process.ofExcept (tryTransition positionId trigger current)
      match toState with
      | none => do
          setMemory (before.addFillId positionId fill.fillId)
          return some existing
      | some toState =>
          match existing.avgEntryPrice with
          | none =>
              Process.raise (.positionStateInconsistency
                s!"position {positionId} has no entry price yet")
          | some avgEntryPrice => do
              let details ← ofModel
                (exitDetails existing avgEntryPrice fill (legReason trigger current reason))
              record pmId
                { pmId
                  seq := none
                  positionId
                  change := .exit { trigger, fromState := current, toState } details }
                (.exit positionId fill.fillId)

def PureTransition.trigger : PureTransition → PositionLifecycleTrigger
  | breakeven => .breakeven
  | completeClose => .completeClose
  | archive => .archive

/-- `confirm_breakeven`, `complete_close` and `archive_position`. -/
def pureTransition (pmId positionId : String) (change : PureTransition) :
    Operation Stored Number (Option (PositionSnapshot Number)) := do
  let existing ← trackedPosition positionId
  let current := existing.lifecycleState
  let toState ← Process.ofExcept (tryTransition positionId change.trigger current)
  match toState with
  | none => return some existing
  | some toState =>
      record pmId
        { pmId
          seq := none
          positionId
          change := .transition change { trigger := change.trigger, fromState := current, toState } }
        (.transition positionId change)

def recordFundingPayment (pmId positionId : String) (details : FundingDetails Number) :
    Operation Stored Number (Option (PositionSnapshot Number)) := do
  let _ ← trackedPosition positionId
  record pmId { pmId, seq := none, positionId, change := .funding details }
    (.funding positionId details.fundingId)

end

end

end TurtleExecution.PositionManager

/-
One trading cycle: the order of its stages, and what each hands to the next.

The parts of an engine are processes on a state that a cycle is given; the cycle
reads the open orders and the clock once.
-/

import TurtleExecution.OrderManager.Manager
import TurtleExecution.TradingSystem.Construction

set_option autoImplicit false

namespace TurtleExecution.TradingSystem

open ExchangeAdapter RiskManager

structure ExecutionResult where
  clientOrderId : String
  tradeRequest : TradeRequest ℚ

/-- The parts of `composition_root.Engine` and the callbacks that a cycle uses. -/
structure Engine (State : Type) where
  isStarted : State → Bool
  start : Process State CycleError Unit
  synchronize : Process State CycleError Unit
  reconcile : Process State CycleError Unit
  clock : Process State CycleError String
  portfolioSnapshot : State → PortfolioManager.PortfolioSnapshot ℚ
  getPosition : State → String →
    Except PositionManager.PositionManagerError (PositionManager.PositionSnapshot ℚ)
  currentState : State → ExecutionStateMachine.State
  marketData : MarketDataView State
  getOrders : Process State CallError (List (Order ℚ))
  strategies : List (StrategyContext → Process State CycleError (List IntentObject))
  /-- The size and the limit price that the quantization rules make of a request. -/
  quantize : TradeRequest ℚ → Except CycleError (ℚ × Option ℚ)
  placeOrder : OrderManager.PlaceArguments ℚ → Process State CycleError String
  onExecution : ExecutionResult → Process State CycleError Unit

structure CycleResult where
  started : Bool
  intents : List IntentObject
  construction : ConstructionResult
  executions : List ExecutionResult
  evaluatedAtUtc : String
  suppressedByOpenOrders : List IntentObject

abbrev OrderKey := String × Bool

def IntentObject.key (object : IntentObject) : OrderKey :=
  (object.intent.symbol.value, object.intent.reduceOnly)

def orderKey (order : Order ℚ) : OrderKey := (order.symbol.value, order.reduceOnly)

def isLive (status : OrderStatus) : Bool :=
  status ≠ .filled && status ≠ .cancelled && status ≠ .rejected

def liveOrderKeys (orders : List (Order ℚ)) : List OrderKey :=
  (orders.filter fun order => isLive order.status).map orderKey

structure PreparedCycle where
  started : Bool
  context : StrategyContext
  intents : List IntentObject
  liveKeys : List OrderKey

namespace PreparedCycle

def tradable (cycle : PreparedCycle) : List IntentObject :=
  cycle.intents.filter fun intent => intent.key ∉ cycle.liveKeys

def suppressed (cycle : PreparedCycle) : List IntentObject :=
  cycle.intents.filter fun intent => intent.key ∈ cycle.liveKeys

end PreparedCycle

section

variable {State : Type} (engine : Engine State)

/-- The engine is started unless it was; the result says whether it was started here. -/
def startIfNeeded : Process State CycleError Bool := do
  let state ← Process.get
  match engine.isStarted state with
  | true => return false
  | false => do
      engine.start
      return true

def positionsOf (state : State) : List String → Except CycleError
    (List (PositionManager.PositionSnapshot ℚ))
  | [] => .ok []
  | positionId :: rest => do
      let position ← (engine.getPosition state positionId).mapError fun _ =>
        CycleError.other s!"no position tracked with position_id={positionId}"
      let positions ← positionsOf state rest
      return position :: positions

def takeContext («universe» : List Symbol) (evaluatedAtUtc : String) :
    Process State CycleError StrategyContext := do
  let state ← Process.get
  let portfolioSnapshot := engine.portfolioSnapshot state
  let openPositions ← Process.ofExcept
    (positionsOf engine state portfolioSnapshot.openPositionIds)
  return { «universe»
           portfolioSnapshot
           openPositions
           killSwitchState := engine.currentState state
           evaluatedAtUtc }

def collectIntents (context : StrategyContext) :
    List (StrategyContext → Process State CycleError (List IntentObject)) →
      Process State CycleError (List IntentObject)
  | [] => return []
  | strategy :: rest => do
      let intents ← strategy context
      let others ← collectIntents context rest
      return intents ++ others

def executePlace (tradeRequest : TradeRequest ℚ) : Process State CycleError ExecutionResult := do
  let (quantity, limitPrice) ← Process.ofExcept (engine.quantize tradeRequest)
  let clientOrderId ← engine.placeOrder
    { symbol := tradeRequest.symbol
      side := tradeRequest.side
      orderType := tradeRequest.orderType
      quantity
      limitPrice
      timeInForce := tradeRequest.timeInForce
      reduceOnly := tradeRequest.reduceOnly }
  return { clientOrderId, tradeRequest }

def executeAll : List (TradeRequest ℚ) → Process State CycleError (List ExecutionResult)
  | [] => return []
  | tradeRequest :: rest => do
      let execution ← executePlace engine tradeRequest
      engine.onExecution execution
      let executions ← executeAll rest
      return execution :: executions

def openCycle («universe» : List Symbol) : Process State CycleError (Bool × StrategyContext) := do
  let started ← startIfNeeded engine
  engine.synchronize
  engine.reconcile
  let evaluatedAtUtc ← engine.clock
  let context ← takeContext engine «universe» evaluatedAtUtc
  return (started, context)

def readIntents (started : Bool) (context : StrategyContext) :
    Process State CycleError PreparedCycle := do
  let intents ← collectIntents context engine.strategies
  let orders ← Process.withError CycleError.adapter engine.getOrders
  return { started, context, intents, liveKeys := liveOrderKeys orders }

def prepare («universe» : List Symbol) : Process State CycleError PreparedCycle := do
  let (started, context) ← openCycle engine «universe»
  readIntents engine started context

def tradeOn (inputs : ConstructionInputs) (cycle : PreparedCycle) :
    Process State CycleError CycleResult := do
  let construction ← constructTradeRequests engine.marketData cycle.context inputs cycle.tradable
  let executions ← executeAll engine construction.approved
  return { started := cycle.started
           intents := cycle.intents
           construction
           executions
           evaluatedAtUtc := cycle.context.evaluatedAtUtc
           suppressedByOpenOrders := cycle.suppressed }

def runCycle («universe» : List Symbol) (inputs : ConstructionInputs) :
    Process State CycleError CycleResult := do
  let cycle ← prepare engine «universe»
  tradeOn engine inputs cycle

end

end TurtleExecution.TradingSystem

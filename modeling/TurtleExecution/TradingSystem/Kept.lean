/-
What every part of an engine keeps, a trading cycle keeps.
-/

import TurtleExecution.TradingSystem.Cycle

set_option autoImplicit false

namespace TurtleExecution.TradingSystem

open ExchangeAdapter RiskManager Process

section

variable {State : Type}

structure MarketDataView.Keeps (view : MarketDataView State) (kept : State → Prop) : Prop where
  getMarkPrice : ∀ symbol, Process.Keeps kept (view.getMarkPrice symbol)
  getFundingRate : ∀ symbol, Process.Keeps kept (view.getFundingRate symbol)

/-- The parts that a cycle runs before it trades keep the property. -/
structure Engine.PreparesKeeping (engine : Engine State) (kept : State → Prop) : Prop where
  start : Process.Keeps kept engine.start
  synchronize : Process.Keeps kept engine.synchronize
  reconcile : Process.Keeps kept engine.reconcile
  clock : Process.Keeps kept engine.clock
  getOrders : Process.Keeps kept engine.getOrders
  strategies : ∀ strategy ∈ engine.strategies, ∀ context, Process.Keeps kept (strategy context)

structure Engine.Keeps (engine : Engine State) (kept : State → Prop) : Prop
    extends engine.PreparesKeeping kept where
  marketData : engine.marketData.Keeps kept
  placeOrder : ∀ arguments, Process.Keeps kept (engine.placeOrder arguments)
  onExecution : ∀ execution, Process.Keeps kept (engine.onExecution execution)

variable {kept : State → Prop}

section

variable {engine : Engine State}

theorem Engine.Keeps.trading (keeps : engine.Keeps kept)
    (currentState : State → ExecutionStateMachine.State)
    {placeOrder : OrderManager.PlaceArguments ℚ → Process State CycleError String}
    {onExecution : ExecutionResult → Process State CycleError Unit}
    (places : ∀ arguments, Process.Keeps kept (placeOrder arguments))
    (records : ∀ execution, Process.Keeps kept (onExecution execution)) :
    ({ engine with currentState, placeOrder, onExecution } : Engine State).Keeps kept :=
  { start := keeps.start
    synchronize := keeps.synchronize
    reconcile := keeps.reconcile
    clock := keeps.clock
    getOrders := keeps.getOrders
    strategies := keeps.strategies
    marketData := keeps.marketData
    placeOrder := places
    onExecution := records }

theorem keeps_startIfNeeded (keeps : Process.Keeps kept engine.start) :
    Process.Keeps kept (startIfNeeded engine) := by
  refine keeps_bind (keeps_get kept) fun state => ?_
  cases engine.isStarted state with
  | true => exact keeps_pure kept false
  | false => exact keeps_bind keeps fun _ => keeps_pure kept true

private theorem keeps_takeContext («universe» : List Symbol) (evaluatedAtUtc : String) :
    Process.Keeps kept (takeContext engine «universe» evaluatedAtUtc) := by
  refine keeps_bind (keeps_get kept) fun state => ?_
  refine keeps_bind (keeps_ofExcept kept _) fun positions => ?_
  exact keeps_pure kept _

private theorem keeps_openCycle (keeps : engine.PreparesKeeping kept) («universe» : List Symbol) :
    Process.Keeps kept (openCycle engine «universe») := by
  refine keeps_bind (keeps_startIfNeeded keeps.start) fun started => ?_
  refine keeps_bind keeps.synchronize fun _ => ?_
  refine keeps_bind keeps.reconcile fun _ => ?_
  refine keeps_bind keeps.clock fun evaluatedAtUtc => ?_
  refine keeps_bind (keeps_takeContext «universe» evaluatedAtUtc) fun context => ?_
  exact keeps_pure kept _

theorem keeps_collectIntents {context : StrategyContext}
    {strategies : List (StrategyContext → Process State CycleError (List IntentObject))}
    (keep : ∀ strategy ∈ strategies, ∀ context, Process.Keeps kept (strategy context)) :
    Process.Keeps kept (collectIntents context strategies) := by
  induction strategies with
  | nil => exact keeps_pure kept []
  | cons strategy strategies ih =>
      refine keeps_bind (keep strategy List.mem_cons_self context) fun intents => ?_
      refine keeps_bind (ih fun other member => keep other (List.mem_cons_of_mem _ member))
        fun others => ?_
      exact keeps_pure kept _

private theorem keeps_readIntents (keeps : engine.PreparesKeeping kept) (started : Bool)
    (context : StrategyContext) : Process.Keeps kept (readIntents engine started context) := by
  refine keeps_bind (keeps_collectIntents keeps.strategies) fun intents => ?_
  refine keeps_bind (keeps_withError keeps.getOrders) fun orders => ?_
  exact keeps_pure kept _

theorem keeps_prepare (keeps : engine.PreparesKeeping kept) («universe» : List Symbol) :
    Process.Keeps kept (prepare engine «universe») :=
  keeps_bind (keeps_openCycle keeps «universe») fun opened =>
    keeps_readIntents keeps opened.1 opened.2

end

section

variable {marketData : MarketDataView State} (keeps : marketData.Keeps kept)
  (context : StrategyContext) (inputs : ConstructionInputs)

include keeps

private theorem keeps_entryPrice (intent : TradeIntent ℚ) :
    Process.Keeps kept (entryPrice marketData intent) := by
  unfold entryPrice
  cases intent.limitPrice with
  | some limitPrice => exact keeps_pure kept limitPrice
  | none =>
      exact keeps_bind (keeps_withError (keeps.getMarkPrice intent.symbol)) fun mark =>
        keeps_pure kept mark.price

private theorem keeps_judge (object : IntentObject) (tradeRequest : TradeRequest ℚ) :
    Process.Keeps kept (judge marketData context inputs object tradeRequest) := by
  refine keeps_bind (keeps_withError (keeps.getFundingRate object.intent.symbol)) fun funding => ?_
  refine keeps_bind (keeps_ofExcept kept _) fun decision => ?_
  exact keeps_pure kept _

private theorem keeps_judgeSized (object : IntentObject) (sized : Except SizeError (TradeRequest ℚ)) :
    Process.Keeps kept (judgeSized marketData context inputs object sized) := by
  rcases sized with (message | error | error) | tradeRequest
  · exact keeps_pure kept _
  · exact keeps_raise kept _
  · exact keeps_raise kept _
  · exact keeps_judge keeps context inputs object tradeRequest

private theorem keeps_fateOf (object : IntentObject) :
    Process.Keeps kept (fateOf marketData context inputs object) := by
  refine keeps_bind (keeps_entryPrice keeps object.intent) fun price => ?_
  refine keeps_bind (keeps_ofExcept kept _) fun equity => ?_
  exact keeps_judgeSized keeps context inputs object _

private theorem keeps_fates (result : ConstructionResult) (objects : List IntentObject) :
    Process.Keeps kept (fates marketData context inputs result objects) := by
  induction objects generalizing result with
  | nil => exact keeps_pure kept result
  | cons object objects ih =>
      exact keeps_bind (keeps_fateOf keeps context inputs object) fun fate => ih _

theorem keeps_constructTradeRequests (intents : List IntentObject) :
    Process.Keeps kept (constructTradeRequests marketData context inputs intents) :=
  keeps_fates keeps context inputs _ _

end

section

variable {engine : Engine State} (keeps : engine.Keeps kept)

include keeps

private theorem keeps_executePlace (tradeRequest : TradeRequest ℚ) :
    Process.Keeps kept (executePlace engine tradeRequest) := by
  refine keeps_bind (keeps_ofExcept kept _) fun quantized => ?_
  exact keeps_bind (keeps.placeOrder _) fun clientOrderId => keeps_pure kept _

private theorem keeps_executeAll (tradeRequests : List (TradeRequest ℚ)) :
    Process.Keeps kept (executeAll engine tradeRequests) := by
  induction tradeRequests with
  | nil => exact keeps_pure kept []
  | cons tradeRequest tradeRequests ih =>
      refine keeps_bind (keeps_executePlace keeps tradeRequest) fun execution => ?_
      refine keeps_bind (keeps.onExecution execution) fun _ => ?_
      exact keeps_bind ih fun executions => keeps_pure kept _

private theorem keeps_tradeOn (inputs : ConstructionInputs) (cycle : PreparedCycle) :
    Process.Keeps kept (tradeOn engine inputs cycle) := by
  refine keeps_bind (keeps_constructTradeRequests keeps.marketData cycle.context inputs _)
    fun construction => ?_
  exact keeps_bind (keeps_executeAll keeps construction.approved) fun executions =>
    keeps_pure kept _

theorem keeps_runCycle («universe» : List Symbol) (inputs : ConstructionInputs) :
    Process.Keeps kept (runCycle engine «universe» inputs) :=
  keeps_bind (keeps_prepare keeps.toPreparesKeeping «universe») fun cycle =>
    keeps_tradeOn keeps inputs cycle

end

def fundedSnapshot : PortfolioManager.PortfolioSnapshot ℚ :=
  { availableCash := 1000
    reservedMargin := 0
    usedMargin := 0
    unrealizedPnl := 0
    realizedPnlCumulative := 0
    fundingCumulative := 0
    feesCumulative := 0
    depositsCumulative := 1000
    withdrawalsCumulative := 0
    exposure := 0
    heat := 0
    openPositionIds := []
    updatedAtUtc := none }

def entryInputs : ConstructionInputs :=
  { riskManager :=
      { limits :=
          { maxLeverage := 10
            minLiquidationBufferPct := 0
            maxFundingRateAbs := 1
            maxCorrelatedPositions := 1
            maxStaleDataSeconds := 60 }
        utc := UtcTexts.marks
        portfolioSinceUtc := UtcTexts.marks.isoformat 0 }
    riskProfile :=
      { riskPctPerTrade := 1 / 100
        maxPositions := 1
        sizingMode := "fixed"
        heatCap := 1 / 10 }
    capabilities :=
      { supportsReduceOnly := true
        supportsPostOnly := true
        supportsIoc := true
        supportsFok := true
        supportsMarketOrders := true
        supportsLimitOrders := true }
    correlationInfo := { entries := [], asOfUtc := UtcTexts.marks.isoformat 0 }
    maintenanceMarginRate := 1 / 100
    targetLeverage := 2
    volatilityBySymbol := [] }

/-- An engine that trades nothing. -/
def idleEngine (State : Type) : Engine State :=
  { isStarted := fun _ => true
    start := pure ()
    synchronize := pure ()
    reconcile := pure ()
    clock := pure (UtcTexts.marks.isoformat 0)
    portfolioSnapshot := fun _ => fundedSnapshot
    getPosition := fun _ positionId => .error (.positionNotFound positionId)
    currentState := fun _ => .ready
    marketData :=
      { getMarkPrice := fun _ => raise (.other "no market data")
        getFundingRate := fun _ => raise (.other "no market data") }
    getOrders := pure []
    strategies := []
    quantize := fun request => .ok (request.quantity, none)
    placeOrder := fun _ => pure "c1"
    onExecution := fun _ => pure () }

theorem idleEngine_keeps (kept : State → Prop) : (idleEngine State).Keeps kept :=
  { start := keeps_pure _ ()
    synchronize := keeps_pure _ ()
    reconcile := keeps_pure _ ()
    clock := keeps_pure _ _
    getOrders := keeps_pure _ []
    strategies := fun _ member => (List.not_mem_nil member).elim
    marketData :=
      { getMarkPrice := fun _ => keeps_raise _ _
        getFundingRate := fun _ => keeps_raise _ _ }
    placeOrder := fun _ => keeps_pure _ "c1"
    onExecution := fun _ => keeps_pure _ () }

end

end TurtleExecution.TradingSystem

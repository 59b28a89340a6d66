/-
From strategy intents to risk-checked trade requests.

One intent for a symbol survives; the survivors are sized and evaluated in the order
of their conviction, all against the portfolio as it was when the cycle took its
snapshot.  An intent is an object: `identity` tells two equal intents apart.
-/

import Mathlib.Data.List.Dedup
import TurtleExecution.Foundation.DecimalRounding
import TurtleExecution.RiskManager.Manager
import TurtleExecution.TradingSystem.Sizing

set_option autoImplicit false

namespace TurtleExecution.TradingSystem

open ExchangeAdapter RiskManager

structure IntentObject where
  identity : Nat
  intent : TradeIntent ℚ
  deriving DecidableEq

inductive CycleError
  | adapter (error : CallError)
  | sizing (error : SizeError)
  | risk (error : EvaluationError)
  | arithmetic (error : ArithmeticError)
  | other (message : String)

/-- `MarketDataView`: the reads of the adapter that a cycle makes. -/
structure MarketDataView (State : Type) where
  getMarkPrice : Symbol → Process State CallError (MarkPrice ℚ)
  getFundingRate : Symbol → Process State CallError (FundingRate ℚ)

structure StrategyContext where
  «universe» : List Symbol
  portfolioSnapshot : PortfolioManager.PortfolioSnapshot ℚ
  openPositions : List (PositionManager.PositionSnapshot ℚ)
  killSwitchState : ExecutionStateMachine.State
  evaluatedAtUtc : String

structure ConstructionInputs where
  riskManager : Setting ℚ
  riskProfile : RiskProfileParams
  capabilities : ExchangeCapabilities
  correlationInfo : CorrelationInfo ℚ
  maintenanceMarginRate : ℚ
  targetLeverage : ℚ
  volatilityBySymbol : Dict Symbol ℚ

structure SkippedIntent where
  intent : IntentObject
  reason : String

structure RejectedTrade where
  intent : IntentObject
  tradeRequest : TradeRequest ℚ
  decision : RiskDecision ℚ

structure ConstructionResult where
  approved : List (TradeRequest ℚ)
  rejected : List RejectedTrade
  skipped : List SkippedIntent

/-- `abs` of a decimal rounds to the context, so that two convictions of more digits may have one
key. -/
def convictionSortKey (object : IntentObject) : ℚ :=
  match object.intent.conviction with
  | none => -1
  | some conviction => Decimal.nearest |conviction|

def groupBySymbol (objects : List IntentObject) : Dict Symbol (List IntentObject) :=
  objects.foldl
    (fun groups object =>
      groups.set object.intent.symbol
        ((groups.get? object.intent.symbol).getD [] ++ [object])) []

/-- `max(group, key=...)`: the first of the greatest. -/
def maxConviction (first : IntentObject) (rest : List IntentObject) : IntentObject :=
  rest.foldl
    (fun best object => if convictionSortKey best < convictionSortKey object then object else best)
    first

def duplicateReason (symbol : Symbol) : String :=
  s!"duplicate intent for {symbol.value}: a higher-|conviction| intent for the same symbol was kept instead"

def selectFrom (symbol : Symbol) : List IntentObject → Option IntentObject × List SkippedIntent
  | [] => (none, [])
  | [single] => (some single, [])
  | first :: rest =>
      let winner := maxConviction first rest
      (some winner, ((first :: rest).filter fun loser => loser.identity ≠ winner.identity).map
        fun loser => { intent := loser, reason := duplicateReason symbol })

def outsideReason (symbol : Symbol) : String :=
  s!"symbol {symbol.value} is outside context.universe"

/-- The survivors in descending conviction, and the intents that are skipped before. -/
def select («universe» : List Symbol) (objects : List IntentObject) :
    List IntentObject × List SkippedIntent :=
  let outside := objects.filter fun object => object.intent.symbol ∉ «universe»
  let groups := groupBySymbol (objects.filter fun object => object.intent.symbol ∈ «universe»)
  let selected := groups.map fun group => selectFrom group.1 group.2
  ((selected.filterMap Prod.fst).mergeSort fun left right =>
      convictionSortKey right ≤ convictionSortKey left,
    outside.map (fun object => { intent := object, reason := outsideReason object.intent.symbol }) ++
      selected.flatMap Prod.snd)

inductive Fate
  | approved (tradeRequest : TradeRequest ℚ)
  | rejected (trade : RejectedTrade)
  | skipped (intent : SkippedIntent)

def unjudged (skipped : List SkippedIntent) : ConstructionResult :=
  { approved := [], rejected := [], skipped }

def ConstructionResult.add (result : ConstructionResult) : Fate → ConstructionResult
  | .approved tradeRequest => { result with approved := result.approved ++ [tradeRequest] }
  | .rejected trade => { result with rejected := result.rejected ++ [trade] }
  | .skipped intent => { result with skipped := result.skipped ++ [intent] }

section

variable {State : Type}

def entryPrice (marketData : MarketDataView State) (intent : TradeIntent ℚ) :
    Process State CycleError ℚ :=
  match intent.limitPrice with
  | some limitPrice => return limitPrice
  | none => do
      let mark ← Process.withError CycleError.adapter (marketData.getMarkPrice intent.symbol)
      return mark.price

def sizingInputs (inputs : ConstructionInputs) (intent : TradeIntent ℚ)
    (equity currentPrice : ℚ) : SizingInputs ℚ :=
  { equity
    riskProfile := inputs.riskProfile
    currentPrice
    maintenanceMarginRate := inputs.maintenanceMarginRate
    targetLeverage := inputs.targetLeverage
    volatility := inputs.volatilityBySymbol.get? intent.symbol }

def evaluationOf (context : StrategyContext) (inputs : ConstructionInputs)
    (tradeRequest : TradeRequest ℚ) (symbol : Symbol) (funding : FundingRate ℚ) : Evaluation ℚ :=
  { tradeRequest
    riskProfile := inputs.riskProfile
    evaluatedAtUtc := context.evaluatedAtUtc
    killSwitchState := some context.killSwitchState
    portfolioSnapshot := some context.portfolioSnapshot
    openPositions := some context.openPositions
    capabilities := some inputs.capabilities
    fundingInfo := some
      { symbol
        fundingRate := funding.rate
        asOfUtc := funding.timestampUtc }
    correlationInfo := some inputs.correlationInfo }

def judge (marketData : MarketDataView State) (context : StrategyContext)
    (inputs : ConstructionInputs) (object : IntentObject) (tradeRequest : TradeRequest ℚ) :
    Process State CycleError Fate := do
  let funding ← Process.withError CycleError.adapter
    (marketData.getFundingRate object.intent.symbol)
  let decision ← Process.ofExcept ((evaluate inputs.riskManager
    (evaluationOf context inputs tradeRequest object.intent.symbol funding)).mapError .risk)
  return if decision.decision = .approved then .approved tradeRequest
    else .rejected { intent := object, tradeRequest, decision }

def judgeSized (marketData : MarketDataView State) (context : StrategyContext)
    (inputs : ConstructionInputs) (object : IntentObject) :
    Except SizeError (TradeRequest ℚ) → Process State CycleError Fate
  | .error (.sizing message) =>
      return .skipped { intent := object, reason := "sizing failed: " ++ message }
  | .error error => Process.raise (.sizing error)
  | .ok tradeRequest => judge marketData context inputs object tradeRequest

def fateOf (marketData : MarketDataView State) (context : StrategyContext)
    (inputs : ConstructionInputs) (object : IntentObject) : Process State CycleError Fate := do
  let price ← entryPrice marketData object.intent
  let equity ← Process.ofExcept (context.portfolioSnapshot.equity.mapError CycleError.arithmetic)
  judgeSized marketData context inputs object
    (sizeIntent object.intent (sizingInputs inputs object.intent equity price))

def fates (marketData : MarketDataView State) (context : StrategyContext)
    (inputs : ConstructionInputs) (result : ConstructionResult) :
    List IntentObject → Process State CycleError ConstructionResult
  | [] => return result
  | object :: rest => do
      let fate ← fateOf marketData context inputs object
      fates marketData context inputs (result.add fate) rest

def constructTradeRequests (marketData : MarketDataView State) (context : StrategyContext)
    (inputs : ConstructionInputs) (intents : List IntentObject) :
    Process State CycleError ConstructionResult :=
  let (survivors, skipped) := select context.«universe» intents
  fates marketData context inputs (unjudged skipped) survivors

end

end TurtleExecution.TradingSystem

/-
The risk manager: approval or veto of one proposed trade.

A blocking state comes first, then missing or stale data, then the business rules,
which are all collected.
-/

import TurtleExecution.Foundation.UtcTime
import TurtleExecution.RiskManager.Models

set_option autoImplicit false

namespace TurtleExecution.RiskManager

open ExchangeAdapter

def blockingReason : ExecutionStateMachine.State → Option ReasonCode
  | .softKill => some .killSwitchSoft
  | .hardKill => some .killSwitchHard
  | .emergencyKill => some .killSwitchEmergency
  | .stopped => some .engineStopped
  | _ => none

structure Evaluation (Number : Type) where
  tradeRequest : TradeRequest Number
  riskProfile : RiskProfileParams
  evaluatedAtUtc : String
  killSwitchState : Option ExecutionStateMachine.State
  portfolioSnapshot : Option (PortfolioManager.PortfolioSnapshot Number)
  openPositions : Option (List (PositionManager.PositionSnapshot Number))
  capabilities : Option ExchangeCapabilities
  fundingInfo : Option (FundingInfo Number)
  correlationInfo : Option (CorrelationInfo Number)

section

variable {Number : Type}

/-- The limits of a risk manager, and what it runs with: timestamps as texts, and the
time at which the portfolio manager was constructed, which a snapshot shows as long
as nothing was recorded. -/
structure Setting (Number : Type) where
  limits : RiskManagerLimits Number
  utc : UtcTexts
  portfolioSinceUtc : String

def Setting.portfolioUpdatedAt (setting : Setting Number)
    (snapshot : PortfolioManager.PortfolioSnapshot Number) : String :=
  snapshot.updatedAtUtc.getD setting.portfolioSinceUtc

def missingInputs (evaluation : Evaluation Number) : List String :=
  (if evaluation.killSwitchState.isNone then ["kill_switch_state"] else []) ++
    (if evaluation.portfolioSnapshot.isNone then ["portfolio_snapshot"] else []) ++
    (if evaluation.openPositions.isNone then ["open_positions"] else []) ++
    (if evaluation.capabilities.isNone then ["capabilities"] else []) ++
    (if evaluation.fundingInfo.isNone then ["funding_info"] else []) ++
    (if evaluation.correlationInfo.isNone then ["correlation_info"] else []) ++
    (if evaluation.tradeRequest.estimatedLiquidationPrice.isNone then
      ["trade_request.estimated_liquidation_price"] else [])

def timestampsToCheck (setting : Setting Number) (evaluation : Evaluation Number) :
    List (Label × String) :=
  (evaluation.portfolioSnapshot.toList.map fun snapshot =>
      (.portfolioSnapshot, setting.portfolioUpdatedAt snapshot)) ++
    ((evaluation.openPositions.getD []).map fun position =>
      (.position position.positionId, position.updatedAtUtc)) ++
    (evaluation.fundingInfo.toList.map fun funding => (.fundingInfo, funding.asOfUtc)) ++
    (evaluation.correlationInfo.toList.map fun correlation =>
      (.correlationInfo, correlation.asOfUtc))

def parseUtc (utc : UtcTexts) (text : String) : Except EvaluationError Int :=
  match utc.fromisoformat text with
  | some instant => .ok instant
  | none => .error (.timestamp text)

def ageMicros (utc : UtcTexts) (evaluatedAtUtc dataAtUtc : String) : Except EvaluationError Int := do
  let evaluatedAt ← parseUtc utc evaluatedAtUtc
  let dataAt ← parseUtc utc dataAtUtc
  return evaluatedAt - dataAt

def isStale (limits : RiskManagerLimits Number) (age : Int) : Bool :=
  decide (age < 0 ∨ limits.maxStaleDataSeconds * secondMicros < age)

def staleData (setting : Setting Number) (evaluatedAtUtc : String) :
    List (Label × String) → Except EvaluationError (List (Violation Number))
  | [] => .ok []
  | (label, timestamp) :: rest => do
      let age ← ageMicros setting.utc evaluatedAtUtc timestamp
      let stale ← staleData setting evaluatedAtUtc rest
      return (if isStale setting.limits age then [.stale label age] else []) ++ stale

section

variable [LedgerArithmetic Number]

def compute {Value : Type} (result : Except ArithmeticError Value) : Except EvaluationError Value :=
  result.mapError EvaluationError.arithmetic

/-- `portfolio_snapshot is not None and portfolio_snapshot.equity <= 0` -/
def nonPositiveEquity (snapshot : Option (PortfolioManager.PortfolioSnapshot Number)) :
    Except EvaluationError Bool :=
  match snapshot with
  | none => .ok false
  | some snapshot => do
      let equity ← compute snapshot.equity
      compute (Arithmetic.le equity Arithmetic.zero)

def dataProblems (setting : Setting Number) (evaluation : Evaluation Number) :
    Except EvaluationError (List (ReasonCode × Violation Number)) := do
  let stale ← staleData setting evaluation.evaluatedAtUtc (timestampsToCheck setting evaluation)
  let broke ← nonPositiveEquity evaluation.portfolioSnapshot
  return (missingInputs evaluation).map (fun input => (.missingRequiredData, .missing input)) ++
    stale.map (fun violation => (.staleData, violation)) ++
    (if broke then [(.nonPositiveEquity, .nonPositiveEquity)] else [])

variable [FloatComparison Number]

/-- A rule: the reason and the limit that it reports when it is broken. -/
def broken (isBroken : Bool) (reason : ReasonCode) (violation : Violation Number) :
    List (ReasonCode × Violation Number) :=
  if isBroken then [(reason, violation)] else []

def liquidationBuffer (request : TradeRequest Number) : Except ArithmeticError (Option Number) :=
  match request.estimatedLiquidationPrice with
  | none => .ok none
  | some price =>
      (match request.side with
        | .buy => Arithmetic.sub request.stopPrice price
        | .sell => Arithmetic.sub price request.stopPrice).map some

def capabilityViolation (request : TradeRequest Number) (capabilities : ExchangeCapabilities) :
    Option String :=
  if request.orderType = .market ∧ capabilities.supportsMarketOrders = false then
    some "order_type:MARKET not supported"
  else if request.orderType = .limit ∧ capabilities.supportsLimitOrders = false then
    some "order_type:LIMIT not supported"
  else if request.reduceOnly ∧ capabilities.supportsReduceOnly = false then
    some "reduce_only not supported"
  else if request.timeInForce = .ioc ∧ capabilities.supportsIoc = false then
    some "time_in_force:IOC not supported"
  else if request.timeInForce = .fok ∧ capabilities.supportsFok = false then
    some "time_in_force:FOK not supported"
  else if request.timeInForce = .postOnly ∧ capabilities.supportsPostOnly = false then
    some "time_in_force:POST_ONLY not supported"
  else none

structure Inputs (Number : Type) where
  portfolioSnapshot : PortfolioManager.PortfolioSnapshot Number
  openPositions : List (PositionManager.PositionSnapshot Number)
  capabilities : ExchangeCapabilities
  fundingInfo : FundingInfo Number
  correlationInfo : CorrelationInfo Number

def inputs? (evaluation : Evaluation Number) : Option (Inputs Number) := do
  let portfolioSnapshot ← evaluation.portfolioSnapshot
  let openPositions ← evaluation.openPositions
  let capabilities ← evaluation.capabilities
  let fundingInfo ← evaluation.fundingInfo
  let correlationInfo ← evaluation.correlationInfo
  return { portfolioSnapshot, openPositions, capabilities, fundingInfo, correlationInfo }

structure Figures (Number : Type) where
  calculatedExposure : Number
  calculatedHeat : Number
  liquidationBuffer : Option Number
  fundingEstimate : Number

/-- `funding_rate` seen from the proposed side: positive where it is a cost.  A negated
decimal has the value of zero minus it. -/
def fundingCostRate (side : OrderSide) (fundingRate : Number) : Except ArithmeticError Number :=
  match side with
  | .buy => .ok fundingRate
  | .sell => Arithmetic.sub Arithmetic.zero fundingRate

def bufferTooSmall (buffer : Option Number) (required : Number) : Except ArithmeticError Bool :=
  match buffer with
  | none => .ok true
  | some buffer => Arithmetic.lt buffer required

def correlatedCount : List (CorrelationEntry Number) → Except ArithmeticError Nat
  | [] => .ok 0
  | entry :: entries => do
      let magnitude ← LedgerArithmetic.abs entry.correlation
      let reaches ← Arithmetic.le (FloatComparison.ofFloat correlationThreshold) magnitude
      let count ← correlatedCount entries
      return (if reaches then 1 else 0) + count

def businessRules (setting : Setting Number) (evaluation : Evaluation Number)
    (inputs : Inputs Number) :
    Except ArithmeticError (List (ReasonCode × Violation Number) × Figures Number) := do
  let request := evaluation.tradeRequest
  let profile := evaluation.riskProfile
  let limits := setting.limits
  let equity ← inputs.portfolioSnapshot.equity
  let heatContribution ← Arithmetic.div request.proposedRiskAmount equity
  let calculatedHeat ← Arithmetic.add inputs.portfolioSnapshot.heat heatContribution
  let calculatedExposure ← Arithmetic.add inputs.portfolioSnapshot.exposure request.proposedNotional
  let riskTooHigh ← FloatComparison.exceeds heatContribution profile.riskPctPerTrade
  let heatTooHigh ← FloatComparison.exceeds calculatedHeat profile.heatCap
  let count := inputs.openPositions.length
  let marginTooHigh ←
    Arithmetic.lt inputs.portfolioSnapshot.availableCash request.proposedMarginRequired
  let leverageTooHigh ← Arithmetic.lt limits.maxLeverage request.leverage
  let buffer ← liquidationBuffer request
  let difference ← Arithmetic.sub request.entryPrice request.stopPrice
  let stopDistance ← LedgerArithmetic.abs difference
  let minRequiredBuffer ← Arithmetic.mul limits.minLiquidationBufferPct stopDistance
  let tooClose ← bufferTooSmall buffer minRequiredBuffer
  let costRate ← fundingCostRate request.side inputs.fundingInfo.fundingRate
  let fundingEstimate ← Arithmetic.mul costRate request.proposedNotional
  let fundingTooHigh ← Arithmetic.lt limits.maxFundingRateAbs costRate
  let correlated ← correlatedCount inputs.correlationInfo.entries
  let violations :=
    broken riskTooHigh .riskPerTradeExceeded
        (.riskPctPerTrade heatContribution profile.riskPctPerTrade) ++
      broken heatTooHigh .portfolioHeatExceeded (.heatCap calculatedHeat profile.heatCap) ++
      broken (decide (profile.maxPositions ≤ count)) .maxPositionsExceeded
        (.maxPositions count profile.maxPositions) ++
      broken marginTooHigh .insufficientMargin
        (.availableCash request.proposedMarginRequired inputs.portfolioSnapshot.availableCash) ++
      broken leverageTooHigh .leverageExceeded (.maxLeverage request.leverage limits.maxLeverage) ++
      broken tooClose .liquidationTooClose (.liquidationBuffer buffer minRequiredBuffer) ++
      broken fundingTooHigh .fundingRateTooHigh
        (.maxFundingRateAbs costRate limits.maxFundingRateAbs) ++
      broken (decide (limits.maxCorrelatedPositions < correlated)) .correlationLimitExceeded
        (.maxCorrelatedPositions correlated limits.maxCorrelatedPositions) ++
      ((capabilityViolation request inputs.capabilities).toList.map fun text =>
        (.exchangeCapabilityUnsupported, .capability text))
  return (violations, { calculatedExposure, calculatedHeat, liquidationBuffer := buffer, fundingEstimate })

def checkProfile (profile : RiskProfileParams) : Except EvaluationError Unit :=
  if profile.riskPctPerTrade ≤ 0 ∨ profile.heatCap ≤ 0 ∨ profile.maxPositions ≤ 0 then
    .error (.configuration
      (.nonPositiveProfile profile.riskPctPerTrade profile.heatCap profile.maxPositions))
  else .ok ()

def checkEvaluatedAt (evaluatedAtUtc : String) : Except EvaluationError Unit :=
  if PyText.isBlank evaluatedAtUtc then
    .error (.configuration (.message "evaluated_at_utc must be a non-empty ISO 8601 string"))
  else .ok ()

def blockedDecision (evaluation : Evaluation Number) (state : ExecutionStateMachine.State)
    (reason : ReasonCode) : RiskDecision Number :=
  { decision := .blocked
    reasonCodes := [reason]
    violatedLimits := [.blocked reason]
    calculatedExposure := none
    calculatedHeat := none
    leverage := none
    liquidationBuffer := none
    fundingEstimate := none
    timestampUtc := evaluation.evaluatedAtUtc
    auditMetadata := .killSwitchState state.value }

def failSafeDecision (evaluation : Evaluation Number)
    (problems : List (ReasonCode × Violation Number)) : RiskDecision Number :=
  { decision := .failSafe
    reasonCodes := problems.map Prod.fst
    violatedLimits := problems.map Prod.snd
    calculatedExposure := none
    calculatedHeat := none
    leverage := some evaluation.tradeRequest.leverage
    liquidationBuffer := none
    fundingEstimate := none
    timestampUtc := evaluation.evaluatedAtUtc
    auditMetadata := .stage "data_verification" }

def ruledDecision (evaluation : Evaluation Number)
    (violations : List (ReasonCode × Violation Number)) (figures : Figures Number) :
    RiskDecision Number :=
  { decision := if violations.isEmpty then .approved else .rejected
    reasonCodes := if violations.isEmpty then [.ok] else violations.map Prod.fst
    violatedLimits := violations.map Prod.snd
    calculatedExposure := some figures.calculatedExposure
    calculatedHeat := some figures.calculatedHeat
    leverage := some evaluation.tradeRequest.leverage
    liquidationBuffer := figures.liquidationBuffer
    fundingEstimate := some figures.fundingEstimate
    timestampUtc := evaluation.evaluatedAtUtc
    auditMetadata := .stage (if violations.isEmpty then "approved" else "business_rules") }

/-- The decision on data that nothing is known to be wrong with: without problems
every input is there. -/
def verified (setting : Setting Number) (evaluation : Evaluation Number) :
    Except EvaluationError (RiskDecision Number) := do
  let problems ← dataProblems setting evaluation
  match problems, inputs? evaluation with
  | [], some inputs => do
      let (violations, figures) ← compute (businessRules setting evaluation inputs)
      return ruledDecision evaluation violations figures
  | problems, _ => return failSafeDecision evaluation problems

def evaluate (setting : Setting Number) (evaluation : Evaluation Number) :
    Except EvaluationError (RiskDecision Number) := do
  checkProfile evaluation.riskProfile
  checkEvaluatedAt evaluation.evaluatedAtUtc
  match evaluation.killSwitchState.bind fun state => (blockingReason state).map (state, ·) with
  | some (state, reason) => return blockedDecision evaluation state reason
  | none => verified setting evaluation

end

end

end TurtleExecution.RiskManager

/-
The inputs and results of the risk manager.

A float of the configuration is held by its exact value; a decimal is compared with
that value.
-/

import TurtleExecution.ExecutionStateMachine.States
import TurtleExecution.PortfolioManager.Manager
import TurtleExecution.PositionManager.Manager

set_option autoImplicit false

namespace TurtleExecution.RiskManager

open ExchangeAdapter

/-- How a decimal compares with a float, and the decimal that a float's text denotes. -/
class FloatComparison (Number : Type) where
  exceeds : Number → ℚ → Except ArithmeticError Bool
  ofFloat : ℚ → Number

instance : FloatComparison ℚ where
  exceeds number value := .ok (decide (value < number))
  ofFloat value := value

structure RiskProfileParams where
  riskPctPerTrade : ℚ
  maxPositions : Int
  sizingMode : String
  heatCap : ℚ

inductive RiskManagerConfigurationError
  | message (text : String)
  | nonPositiveProfile (riskPctPerTrade heatCap : ℚ) (maxPositions : Int)
  deriving DecidableEq, Repr

inductive EvaluationError
  | configuration (error : RiskManagerConfigurationError)
  | arithmetic (error : ArithmeticError)
  | timestamp (text : String)
  deriving DecidableEq, Repr

def correlationThreshold : ℚ := 1 / 2

structure TradeRequest (Number : Type) where
  symbol : Symbol
  side : OrderSide
  orderType : ExchangeAdapter.OrderType
  timeInForce : TimeInForce
  reduceOnly : Bool
  quantity : Number
  entryPrice : Number
  stopPrice : Number
  proposedRiskAmount : Number
  proposedNotional : Number
  proposedMarginRequired : Number
  leverage : Number
  estimatedLiquidationPrice : Option Number
  deriving DecidableEq

structure FundingInfo (Number : Type) where
  symbol : Symbol
  fundingRate : Number
  asOfUtc : String

structure CorrelationEntry (Number : Type) where
  symbol : Symbol
  correlation : Number

structure CorrelationInfo (Number : Type) where
  entries : List (CorrelationEntry Number)
  asOfUtc : String

structure RiskManagerLimits (Number : Type) where
  maxLeverage : Number
  minLiquidationBufferPct : Number
  maxFundingRateAbs : Number
  maxCorrelatedPositions : Int
  maxStaleDataSeconds : Int

inductive Decision
  | approved
  | rejected
  | blocked
  | failSafe
  deriving DecidableEq, Repr

inductive ReasonCode
  | ok
  | killSwitchSoft
  | killSwitchHard
  | killSwitchEmergency
  | engineStopped
  | riskPerTradeExceeded
  | portfolioHeatExceeded
  | maxPositionsExceeded
  | insufficientMargin
  | leverageExceeded
  | liquidationTooClose
  | fundingRateTooHigh
  | correlationLimitExceeded
  | exchangeCapabilityUnsupported
  | nonPositiveEquity
  | missingRequiredData
  | staleData
  deriving DecidableEq, Repr

def ReasonCode.value : ReasonCode → String
  | ok => "OK"
  | killSwitchSoft => "KILL_SWITCH_SOFT"
  | killSwitchHard => "KILL_SWITCH_HARD"
  | killSwitchEmergency => "KILL_SWITCH_EMERGENCY"
  | engineStopped => "ENGINE_STOPPED"
  | riskPerTradeExceeded => "RISK_PER_TRADE_EXCEEDED"
  | portfolioHeatExceeded => "PORTFOLIO_HEAT_EXCEEDED"
  | maxPositionsExceeded => "MAX_POSITIONS_EXCEEDED"
  | insufficientMargin => "INSUFFICIENT_MARGIN"
  | leverageExceeded => "LEVERAGE_EXCEEDED"
  | liquidationTooClose => "LIQUIDATION_TOO_CLOSE"
  | fundingRateTooHigh => "FUNDING_RATE_TOO_HIGH"
  | correlationLimitExceeded => "CORRELATION_LIMIT_EXCEEDED"
  | exchangeCapabilityUnsupported => "EXCHANGE_CAPABILITY_UNSUPPORTED"
  | nonPositiveEquity => "NON_POSITIVE_EQUITY"
  | missingRequiredData => "MISSING_REQUIRED_DATA"
  | staleData => "STALE_DATA"

inductive Label
  | portfolioSnapshot
  | position (positionId : String)
  | fundingInfo
  | correlationInfo
  deriving DecidableEq, Repr

def Label.text : Label → String
  | portfolioSnapshot => "portfolio_snapshot"
  | position positionId => "position:" ++ positionId
  | fundingInfo => "funding_info"
  | correlationInfo => "correlation_info"

inductive Violation (Number : Type)
  | blocked (reason : ReasonCode)
  | missing (input : String)
  | stale (label : Label) (ageMicros : Int)
  | nonPositiveEquity
  | riskPctPerTrade (heatContribution : Number) (limit : ℚ)
  | heatCap (calculatedHeat : Number) (limit : ℚ)
  | maxPositions (count : Nat) (limit : Int)
  | availableCash (required available : Number)
  | maxLeverage (leverage limit : Number)
  | liquidationBuffer (buffer : Option Number) (required : Number)
  | maxFundingRateAbs (costRate limit : Number)
  | maxCorrelatedPositions (count : Nat) (limit : Int)
  | capability (text : String)

/-- How `str` shows the numbers of a violation: floats and ages are floats. -/
structure NumberTexts (Number : Type) where
  number : Number → String
  float : ℚ → String
  seconds : Int → String

def Violation.text {Number : Type} (texts : NumberTexts Number) : Violation Number → String
  | blocked reason => reason.value
  | missing input => s!"{input}:missing"
  | stale label ageMicros => s!"{label.text}:stale(age={texts.seconds ageMicros}s)"
  | nonPositiveEquity => "portfolio_snapshot.equity:non_positive"
  | riskPctPerTrade heatContribution limit =>
      s!"risk_pct_per_trade: {texts.number heatContribution} > {texts.float limit}"
  | heatCap calculatedHeat limit => s!"heat_cap: {texts.number calculatedHeat} > {texts.float limit}"
  | maxPositions count limit => s!"max_positions: {count} >= {limit}"
  | availableCash required available =>
      s!"available_cash: {texts.number required} > {texts.number available}"
  | maxLeverage leverage limit => s!"max_leverage: {texts.number leverage} > {texts.number limit}"
  | liquidationBuffer none required => s!"liquidation_buffer: None < {texts.number required}"
  | liquidationBuffer (some buffer) required =>
      s!"liquidation_buffer: {texts.number buffer} < {texts.number required}"
  | maxFundingRateAbs costRate limit =>
      s!"max_funding_rate_abs: {texts.number costRate} > {texts.number limit}"
  | maxCorrelatedPositions count limit => s!"max_correlated_positions: {count} > {limit}"
  | capability text => text

inductive AuditMetadata
  | killSwitchState (value : String)
  | stage (name : String)
  deriving DecidableEq, Repr

structure RiskDecision (Number : Type) where
  decision : Decision
  reasonCodes : List ReasonCode
  violatedLimits : List (Violation Number)
  calculatedExposure : Option Number
  calculatedHeat : Option Number
  leverage : Option Number
  liquidationBuffer : Option Number
  fundingEstimate : Option Number
  timestampUtc : String
  auditMetadata : AuditMetadata

section

variable {Number : Type} [LedgerArithmetic Number]

def requirePositiveField (fieldName : String) (value : Number) (got : String) :
    Except EvaluationError Unit :=
  match Arithmetic.le value Arithmetic.zero with
  | .error error => .error (.arithmetic error)
  | .ok true => .error (.configuration
      (.message s!"TradeRequest.{fieldName} must be a positive Decimal{got}"))
  | .ok false => .ok ()

def reprOf (value : Number) : String := s!"Decimal('{LedgerArithmetic.text value}')"

def got (value : Number) : String := ", got " ++ reprOf value

def TradeRequest.validate (request : TradeRequest Number) : Except EvaluationError Unit := do
  requirePositiveField "quantity" request.quantity (got request.quantity)
  requirePositiveField "entry_price" request.entryPrice (got request.entryPrice)
  requirePositiveField "stop_price" request.stopPrice (got request.stopPrice)
  requirePositiveField "proposed_notional" request.proposedNotional (got request.proposedNotional)
  requirePositiveField "proposed_margin_required" request.proposedMarginRequired
    (got request.proposedMarginRequired)
  requirePositiveField "leverage" request.leverage (got request.leverage)
  requirePositiveField "proposed_risk_amount" request.proposedRiskAmount ""

end

end TurtleExecution.RiskManager

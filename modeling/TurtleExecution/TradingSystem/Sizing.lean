/-
Strategy intents, and how they are sized into trade requests.
-/

import TurtleExecution.RiskManager.Models

set_option autoImplicit false

namespace TurtleExecution.TradingSystem

open ExchangeAdapter RiskManager

structure TradeIntent (Number : Type) where
  symbol : Symbol
  side : OrderSide
  orderType : ExchangeAdapter.OrderType
  timeInForce : TimeInForce
  reduceOnly : Bool
  stopPrice : Number
  conviction : Option Number
  limitPrice : Option Number
  t1Price : Option Number := none
  t2Price : Option Number := none
  deriving DecidableEq

inductive StrategyError
  | message (text : String)
  | arithmetic (error : ArithmeticError)
  deriving DecidableEq, Repr

inductive SizeError
  | sizing (message : String)
  | request (error : EvaluationError)
  | arithmetic (error : ArithmeticError)
  deriving DecidableEq, Repr

structure SizingInputs (Number : Type) where
  equity : Number
  riskProfile : RiskProfileParams
  currentPrice : Number
  maintenanceMarginRate : Number
  targetLeverage : Number
  volatility : Option Number

section

variable {Number : Type} [LedgerArithmetic Number]

def sizes {Value : Type} (result : Except ArithmeticError Value) : Except SizeError Value :=
  result.mapError SizeError.arithmetic

def refuseIf (isBad : Except ArithmeticError Bool) (message : String) : Except SizeError Unit :=
  match isBad with
  | .error error => .error (.arithmetic error)
  | .ok true => .error (.sizing message)
  | .ok false => .ok ()

def isNotPositive (value : Number) : Except ArithmeticError Bool :=
  Arithmetic.le value Arithmetic.zero

def rejectIf (isBad : Except ArithmeticError Bool) (message : String) : Except StrategyError Unit :=
  match isBad with
  | .error error => .error (.arithmetic error)
  | .ok true => .error (.message message)
  | .ok false => .ok ()

/-- `not (Decimal("-1") <= conviction <= Decimal("1"))` -/
def isNoConviction (conviction : Number) : Except ArithmeticError Bool := do
  let aboveLeast ← Arithmetic.le (LedgerArithmetic.ofInt (-1)) conviction
  let belowMost ← Arithmetic.le conviction (LedgerArithmetic.ofInt 1)
  return !(aboveLeast && belowMost)

def checkConviction : Option Number → Except StrategyError Unit
  | none => .ok ()
  | some conviction => rejectIf (isNoConviction conviction)
      s!"TradeIntent.conviction must be a Decimal in [-1, 1] or None, got {reprOf conviction}"

def checkOptionalPrice (fieldName : String) : Option Number → Except StrategyError Unit
  | none => .ok ()
  | some price => rejectIf (isNotPositive price)
      s!"TradeIntent.{fieldName} must be a positive Decimal or None, got {reprOf price}"

def TradeIntent.validate (intent : TradeIntent Number) : Except StrategyError Unit := do
  rejectIf (isNotPositive intent.stopPrice)
    s!"TradeIntent.stop_price must be a positive Decimal, got {reprOf intent.stopPrice}"
  checkConviction intent.conviction
  checkOptionalPrice "limit_price" intent.limitPrice
  checkOptionalPrice "t1_price" intent.t1Price
  checkOptionalPrice "t2_price" intent.t2Price

def outsideUnit (value : Number) : Except ArithmeticError Bool := do
  let atLeastZero ← Arithmetic.le Arithmetic.zero value
  let belowOne ← Arithmetic.lt value (LedgerArithmetic.ofInt 1)
  return !(atLeastZero && belowOne)

def checkInputs (inputs : SizingInputs Number) : Except SizeError Unit := do
  refuseIf (isNotPositive inputs.equity)
    s!"equity must be a positive Decimal, got {reprOf inputs.equity}"
  refuseIf (isNotPositive inputs.currentPrice)
    s!"current_price must be a positive Decimal, got {reprOf inputs.currentPrice}"
  refuseIf (outsideUnit inputs.maintenanceMarginRate)
    s!"maintenance_margin_rate must be a Decimal in [0, 1), got {reprOf inputs.maintenanceMarginRate}"
  refuseIf (isNotPositive inputs.targetLeverage)
    s!"target_leverage must be a positive Decimal, got {reprOf inputs.targetLeverage}"

variable [FloatComparison Number]

def stopDistance (entryPrice stopPrice : Number) : Except ArithmeticError Number := do
  let difference ← Arithmetic.sub entryPrice stopPrice
  LedgerArithmetic.abs difference

def riskAndDistance (intent : TradeIntent Number) (inputs : SizingInputs Number)
    (entryPrice : Number) : Except SizeError (Number × Number) := do
  let riskPct : Number := FloatComparison.ofFloat inputs.riskProfile.riskPctPerTrade
  match inputs.riskProfile.sizingMode with
  | "fixed" => do
      let riskAmount ← sizes (Arithmetic.mul inputs.equity riskPct)
      let distance ← sizes (stopDistance entryPrice intent.stopPrice)
      return (riskAmount, distance)
  | "conviction_weighted" =>
      match intent.conviction with
      | none => .error (.sizing ("conviction_weighted sizing requires TradeIntent.conviction to be " ++
          "set -- there is no default 'how much conviction'"))
      | some conviction => do
          let full ← sizes (Arithmetic.mul inputs.equity riskPct)
          let weight ← sizes (LedgerArithmetic.abs conviction)
          let riskAmount ← sizes (Arithmetic.mul full weight)
          let distance ← sizes (stopDistance entryPrice intent.stopPrice)
          return (riskAmount, distance)
  | "vol_targeted" =>
      match inputs.volatility with
      | none => .error (.sizing ("vol_targeted sizing requires an explicit volatility input -- " ++
          "no historical price series is available anywhere in this build to derive one"))
      | some volatility => do
          refuseIf (isNotPositive volatility)
            s!"volatility must be a positive Decimal, got {reprOf volatility}"
          let riskAmount ← sizes (Arithmetic.mul inputs.equity riskPct)
          let distance ← sizes (Arithmetic.mul entryPrice volatility)
          return (riskAmount, distance)
  | mode => .error (.sizing s!"unsupported sizing_mode: '{mode}'")

/-- The price at which isolated margin would be liquidated, in approximation. -/
def estimatedLiquidationPrice (side : OrderSide) (entryPrice : Number)
    (inputs : SizingInputs Number) : Except ArithmeticError Number := do
  let one : Number := LedgerArithmetic.ofInt 1
  let inverse ← Arithmetic.div one inputs.targetLeverage
  match side with
  | .buy => do
      let kept ← Arithmetic.sub one inverse
      let factor ← Arithmetic.add kept inputs.maintenanceMarginRate
      Arithmetic.mul entryPrice factor
  | .sell => do
      let kept ← Arithmetic.add one inverse
      let factor ← Arithmetic.sub kept inputs.maintenanceMarginRate
      Arithmetic.mul entryPrice factor

/-- The rest of the request, once the risk amount and the distance are computed. -/
def requestFrom (intent : TradeIntent Number) (inputs : SizingInputs Number)
    (riskAmount distance : Number) : Except SizeError (TradeRequest Number) := do
  let entryPrice := intent.limitPrice.getD inputs.currentPrice
  refuseIf (isNotPositive distance)
    (s!"sizing distance must be positive, got {reprOf distance} " ++
      "(entry_price/stop_price/volatility inputs are degenerate)")
  let quantity ← sizes (Arithmetic.div riskAmount distance)
  let proposedNotional ← sizes (Arithmetic.mul quantity entryPrice)
  let proposedMarginRequired ← sizes (Arithmetic.div proposedNotional inputs.targetLeverage)
  let liquidationPrice ← sizes (estimatedLiquidationPrice intent.side entryPrice inputs)
  return { symbol := intent.symbol
           side := intent.side
           orderType := intent.orderType
           timeInForce := intent.timeInForce
           reduceOnly := intent.reduceOnly
           quantity
           entryPrice
           stopPrice := intent.stopPrice
           proposedRiskAmount := riskAmount
           proposedNotional
           proposedMarginRequired
           leverage := inputs.targetLeverage
           estimatedLiquidationPrice := some liquidationPrice }

def sizedRequest (intent : TradeIntent Number) (inputs : SizingInputs Number) :
    Except SizeError (TradeRequest Number) := do
  let (riskAmount, distance) ←
    riskAndDistance intent inputs (intent.limitPrice.getD inputs.currentPrice)
  requestFrom intent inputs riskAmount distance

def sizeIntent (intent : TradeIntent Number) (inputs : SizingInputs Number) :
    Except SizeError (TradeRequest Number) := do
  checkInputs inputs
  let request ← sizedRequest intent inputs
  request.validate.mapError SizeError.request
  return request

/-- The request is the one that the formulas give for the intent, at this sizing distance. -/
structure SizedBy (intent : TradeIntent Number) (inputs : SizingInputs Number) (distance : Number)
    (request : TradeRequest Number) : Prop where
  symbol : request.symbol = intent.symbol
  side : request.side = intent.side
  reduceOnly : request.reduceOnly = intent.reduceOnly
  stopPrice : request.stopPrice = intent.stopPrice
  entryPrice : request.entryPrice = intent.limitPrice.getD inputs.currentPrice
  leverage : request.leverage = inputs.targetLeverage
  amounts : riskAndDistance intent inputs request.entryPrice =
    .ok (request.proposedRiskAmount, distance)
  apart : isNotPositive distance = .ok false
  quantity : Arithmetic.div request.proposedRiskAmount distance = .ok request.quantity
  notional : Arithmetic.mul request.quantity request.entryPrice = .ok request.proposedNotional
  margin : Arithmetic.div request.proposedNotional request.leverage =
    .ok request.proposedMarginRequired
  liquidation : ∃ price, estimatedLiquidationPrice request.side request.entryPrice inputs =
    .ok price ∧ request.estimatedLiquidationPrice = some price

variable {inputs : SizingInputs Number} {done : Unit}

omit [LedgerArithmetic Number] [FloatComparison Number] in
theorem refuseIf_ok {isBad : Except ArithmeticError Bool} {message : String}
    (passed : refuseIf isBad message = .ok done) : isBad = .ok false := by
  rcases isBad with error | _ | _
  · cases passed
  · rfl
  · cases passed

omit [FloatComparison Number] in
private theorem requirePositiveField_ok {fieldName : String} {value : Number} {got : String}
    (passed : requirePositiveField fieldName value got = .ok done) :
    isNotPositive value = .ok false := by
  unfold requirePositiveField at passed
  unfold isNotPositive
  split at passed
  · cases passed
  · cases passed
  · assumption

structure PositiveAmounts (request : TradeRequest Number) : Prop where
  quantity : isNotPositive request.quantity = .ok false
  entryPrice : isNotPositive request.entryPrice = .ok false
  stopPrice : isNotPositive request.stopPrice = .ok false
  notional : isNotPositive request.proposedNotional = .ok false
  margin : isNotPositive request.proposedMarginRequired = .ok false
  leverage : isNotPositive request.leverage = .ok false
  risk : isNotPositive request.proposedRiskAmount = .ok false

variable {request : TradeRequest Number} {intent : TradeIntent Number}

omit [FloatComparison Number] in
theorem positiveAmounts_of_validate (valid : request.validate = .ok done) :
    PositiveAmounts request := by
  obtain ⟨_, quantity, valid⟩ := ok_of_bind valid
  obtain ⟨_, entryPrice, valid⟩ := ok_of_bind valid
  obtain ⟨_, stopPrice, valid⟩ := ok_of_bind valid
  obtain ⟨_, notional, valid⟩ := ok_of_bind valid
  obtain ⟨_, margin, valid⟩ := ok_of_bind valid
  obtain ⟨_, leverage, risk⟩ := ok_of_bind valid
  exact
    { quantity := requirePositiveField_ok quantity
      entryPrice := requirePositiveField_ok entryPrice
      stopPrice := requirePositiveField_ok stopPrice
      notional := requirePositiveField_ok notional
      margin := requirePositiveField_ok margin
      leverage := requirePositiveField_ok leverage
      risk := requirePositiveField_ok risk }

private theorem sizedRequest_ok (sized : sizedRequest intent inputs = .ok request) :
    ∃ distance, SizedBy intent inputs distance request := by
  obtain ⟨⟨riskAmount, distance⟩, amounts, sized⟩ := ok_of_bind sized
  obtain ⟨_, apart, sized⟩ := ok_of_bind sized
  obtain ⟨quantity, isQuantity, sized⟩ := ok_of_bind sized
  obtain ⟨proposedNotional, isNotional, sized⟩ := ok_of_bind sized
  obtain ⟨proposedMarginRequired, isMargin, sized⟩ := ok_of_bind sized
  obtain ⟨liquidationPrice, isLiquidation, sized⟩ := ok_of_bind sized
  cases sized
  exact ⟨distance,
    { symbol := rfl
      side := rfl
      reduceOnly := rfl
      stopPrice := rfl
      entryPrice := rfl
      leverage := rfl
      amounts
      apart := refuseIf_ok apart
      quantity := ok_of_mapError isQuantity
      notional := ok_of_mapError isNotional
      margin := ok_of_mapError isMargin
      liquidation := ⟨liquidationPrice, ok_of_mapError isLiquidation, rfl⟩ }⟩

theorem sizeIntent_ok (sized : sizeIntent intent inputs = .ok request) :
    checkInputs inputs = .ok () ∧ (∃ distance, SizedBy intent inputs distance request) ∧
      request.validate = .ok () := by
  obtain ⟨_, checked, sized⟩ := ok_of_bind sized
  obtain ⟨made, isMade, sized⟩ := ok_of_bind sized
  obtain ⟨_, valid, sized⟩ := ok_of_bind sized
  cases sized
  exact ⟨checked, sizedRequest_ok isMade, ok_of_mapError valid⟩

theorem sizeIntent_keeps (sized : sizeIntent intent inputs = .ok request) :
    request.symbol = intent.symbol ∧ request.reduceOnly = intent.reduceOnly := by
  obtain ⟨_, ⟨distance, sizedBy⟩, _⟩ := sizeIntent_ok sized
  exact ⟨sizedBy.symbol, sizedBy.reduceOnly⟩

end

end TurtleExecution.TradingSystem

/-
What an approved trade loses at its stop, in exact arithmetic.

The sizer divides the risk amount by the sizing distance.  This is the distance from the
entry to the stop, on either side of it, except under volatility targeting.
-/

import TurtleExecution.RiskManager.Rules
import TurtleExecution.TradingSystem.FundingAge

set_option autoImplicit false

namespace TurtleExecution.TradingSystem

open ExchangeAdapter RiskManager

def sizingDistance (intent : TradeIntent ℚ) (inputs : SizingInputs ℚ) (entryPrice : ℚ) : ℚ :=
  if inputs.riskProfile.sizingMode = "vol_targeted" then entryPrice * inputs.volatility.getD 0
  else |entryPrice - intent.stopPrice|

def riskWeight (intent : TradeIntent ℚ) (inputs : SizingInputs ℚ) : ℚ :=
  if inputs.riskProfile.sizingMode = "conviction_weighted" then |intent.conviction.getD 0| else 1

section

variable {intent : TradeIntent ℚ} {inputs : SizingInputs ℚ}

private theorem riskAndDistance_exact {entryPrice riskAmount distance : ℚ}
    (amounts : riskAndDistance intent inputs entryPrice = .ok (riskAmount, distance)) :
    riskAmount = inputs.equity * inputs.riskProfile.riskPctPerTrade * riskWeight intent inputs ∧
      distance = sizingDistance intent inputs entryPrice := by
  unfold riskAndDistance at amounts
  unfold riskWeight sizingDistance
  split at amounts
  · rename_i mode
    cases amounts
    rw [mode]
    exact ⟨(mul_one _).symm, rfl⟩
  · rename_i mode
    rw [mode]
    split at amounts
    · cases amounts
    · rename_i conviction isConviction
      cases amounts
      rw [isConviction]
      exact ⟨rfl, rfl⟩
  · rename_i mode
    rw [mode]
    split at amounts
    · cases amounts
    · rename_i volatility isVolatility
      obtain ⟨_, _, amounts⟩ := ok_of_bind amounts
      cases amounts
      rw [isVolatility]
      exact ⟨(mul_one _).symm, rfl⟩
  · cases amounts

private theorem riskWeight_le_one (valid : intent.validate = .ok ()) :
    riskWeight intent inputs ≤ 1 := by
  unfold riskWeight
  split
  · obtain ⟨_, _, valid⟩ := ok_of_bind valid
    obtain ⟨_, checked, _⟩ := ok_of_bind valid
    cases isConviction : intent.conviction with
    | none => decide
    | some conviction =>
        rw [isConviction] at checked
        rw [Option.getD_some]
        by_cases within : -1 ≤ conviction ∧ conviction ≤ 1
        · exact abs_le.mpr within
        · have refused : isNoConviction conviction = .ok true := by
            change Except.ok (!(decide (((-1 : Int) : ℚ) ≤ conviction) &&
              decide (conviction ≤ ((1 : Int) : ℚ)))) = _
            simpa [or_iff_not_imp_left] using within
          rw [checkConviction, refused] at checked
          cases checked
  · exact le_refl 1

variable {request : TradeRequest ℚ}

private theorem quantity_positive (sized : sizeIntent intent inputs = .ok request) :
    0 < request.quantity := by
  obtain ⟨_, _, valid⟩ := sizeIntent_ok sized
  obtain ⟨_, isPositive, _⟩ := ok_of_bind valid
  unfold requirePositiveField at isPositive
  split at isPositive
  · cases isPositive
  · cases isPositive
  · rename_i decided
    exact not_le.mp (of_decide_eq_false (Except.ok.inj decided))

structure SizedExactly (intent : TradeIntent ℚ) (inputs : SizingInputs ℚ)
    (request : TradeRequest ℚ) : Prop where
  quantity : 0 < request.quantity
  apart : 0 < sizingDistance intent inputs request.entryPrice
  risk : 0 < inputs.equity * inputs.riskProfile.riskPctPerTrade
  loss : request.quantity * sizingDistance intent inputs request.entryPrice =
    inputs.equity * inputs.riskProfile.riskPctPerTrade * riskWeight intent inputs

private theorem sizedExactly (sized : sizeIntent intent inputs = .ok request) :
    SizedExactly intent inputs request := by
  have positive := quantity_positive sized
  obtain ⟨_, ⟨distance, sizedBy⟩, _⟩ := sizeIntent_ok sized
  obtain ⟨riskAmount, rfl⟩ := riskAndDistance_exact sizedBy.amounts
  have apart : 0 < sizingDistance intent inputs request.entryPrice :=
    not_le.mp (of_decide_eq_false (Except.ok.inj sizedBy.apart))
  have loss : request.quantity * sizingDistance intent inputs request.entryPrice =
      inputs.equity * inputs.riskProfile.riskPctPerTrade * riskWeight intent inputs := by
    have quantity := sizedBy.quantity
    change (if sizingDistance intent inputs request.entryPrice = 0 then _ else _) = _ at quantity
    rw [if_neg apart.ne'] at quantity
    rw [← Except.ok.inj quantity, div_mul_cancel₀ _ apart.ne', riskAmount]
  have weighs : 0 ≤ riskWeight intent inputs := by
    unfold riskWeight
    split
    · exact abs_nonneg _
    · exact zero_le_one
  have product := mul_pos positive apart
  rw [loss] at product
  exact { quantity := positive, apart, risk := pos_of_mul_pos_left product weighs, loss }

private theorem sizedLoss_le (valid : intent.validate = .ok ())
    (sized : sizeIntent intent inputs = .ok request) :
    request.quantity * sizingDistance intent inputs request.entryPrice ≤
      inputs.riskProfile.riskPctPerTrade * inputs.equity := by
  have exactly_ := sizedExactly sized
  rw [exactly_.loss, mul_comm inputs.riskProfile.riskPctPerTrade]
  exact mul_le_of_le_one_right exactly_.risk.le (riskWeight_le_one valid)

/-- The loss at the stop is at most the risk per trade, except where the sizing distance is
another one and shorter. -/
theorem stopLoss_le_iff (valid : intent.validate = .ok ())
    (sized : sizeIntent intent inputs = .ok request) :
    request.quantity * |request.entryPrice - request.stopPrice| ≤
        inputs.riskProfile.riskPctPerTrade * inputs.equity ↔
      (inputs.riskProfile.sizingMode = "vol_targeted" →
        |request.entryPrice - request.stopPrice| ≤
          request.entryPrice * inputs.volatility.getD 0) := by
  have exactly_ := sizedExactly sized
  have bound := sizedLoss_le valid sized
  obtain ⟨_, ⟨distance, sizedBy⟩, _⟩ := sizeIntent_ok sized
  by_cases targeted : inputs.riskProfile.sizingMode = "vol_targeted"
  · have distance : sizingDistance intent inputs request.entryPrice =
        request.entryPrice * inputs.volatility.getD 0 := if_pos targeted
    have weight : riskWeight intent inputs = 1 := by
      rw [riskWeight, targeted]
      rfl
    have loss := exactly_.loss
    rw [weight, mul_one, distance] at loss
    rw [mul_comm inputs.riskProfile.riskPctPerTrade, ← loss, forall_prop_of_true targeted]
    exact mul_le_mul_iff_right₀ exactly_.quantity
  · have distance : sizingDistance intent inputs request.entryPrice =
        |request.entryPrice - request.stopPrice| := by
      rw [sizingDistance, if_neg targeted, sizedBy.stopPrice]
    rw [distance] at bound
    exact ⟨fun _ impossible => absurd impossible targeted, fun _ => bound⟩

private theorem approved_stop_before_liquidation {setting : Setting ℚ} {evaluation : Evaluation ℚ}
    {decision : RiskDecision ℚ} (buffers : 0 ≤ setting.limits.minLiquidationBufferPct)
    (decided : evaluate setting evaluation = .ok decision)
    (approved : decision.decision = .approved) {price : ℚ}
    (liquidates : evaluation.tradeRequest.estimatedLiquidationPrice = some price) :
    (evaluation.tradeRequest.side = .buy → price ≤ evaluation.tradeRequest.stopPrice) ∧
      (evaluation.tradeRequest.side = .sell → evaluation.tradeRequest.stopPrice ≤ price) := by
  obtain ⟨_, inputs, _, obeyed⟩ := (evaluate_approved_iff decided).mp approved
  have kept := obeyed .liquidation
  unfold Rule.isViolated at kept
  rw [liquidates] at kept
  obtain ⟨distance, isDistance, obeysBuffer⟩ := ok_of_bind kept
  have wide : 0 ≤ setting.limits.minLiquidationBufferPct *
      |evaluation.tradeRequest.entryPrice - evaluation.tradeRequest.stopPrice| :=
    mul_nonneg buffers (abs_nonneg _)
  unfold behindStop at isDistance
  constructor
  · intro buys
    rw [buys] at isDistance
    cases isDistance
    have kept := not_lt.mp (of_decide_eq_false (Except.ok.inj obeysBuffer))
    exact sub_nonneg.mp (wide.trans kept)
  · intro sells
    rw [sells] at isDistance
    cases isDistance
    have kept := not_lt.mp (of_decide_eq_false (Except.ok.inj obeysBuffer))
    exact sub_nonneg.mp (wide.trans kept)

/-- What bounds the loss of a request that was sized from an intent: its quantity times the
sizing distance is at most the risk per trade, so is its loss at the stop unless volatility
targeting sizes it for a shorter distance, and the stop, on whichever side of the entry,
does not lie beyond the liquidation price. -/
structure LossBounded (intent : TradeIntent ℚ) (inputs : SizingInputs ℚ)
    (request : TradeRequest ℚ) : Prop where
  sized : request.quantity * sizingDistance intent inputs request.entryPrice ≤
    inputs.riskProfile.riskPctPerTrade * inputs.equity
  atStop : request.quantity * |request.entryPrice - request.stopPrice| ≤
      inputs.riskProfile.riskPctPerTrade * inputs.equity ↔
    (inputs.riskProfile.sizingMode = "vol_targeted" →
      |request.entryPrice - request.stopPrice| ≤ request.entryPrice * inputs.volatility.getD 0)
  liquidation : ∃ price, request.estimatedLiquidationPrice = some price ∧
    (request.side = .buy → price ≤ request.stopPrice) ∧
    (request.side = .sell → request.stopPrice ≤ price)

/-- The loss of an approved trade that was sized from a valid intent is bounded. -/
theorem approved_lossBounded {setting : Setting ℚ} {evaluation : Evaluation ℚ}
    {decision : RiskDecision ℚ} (buffers : 0 ≤ setting.limits.minLiquidationBufferPct)
    (valid : intent.validate = .ok ())
    (sized : sizeIntent intent inputs = .ok evaluation.tradeRequest)
    (decided : evaluate setting evaluation = .ok decision)
    (approved : decision.decision = .approved) :
    LossBounded intent inputs evaluation.tradeRequest := by
  obtain ⟨_, ⟨distance, sizedBy⟩, _⟩ := sizeIntent_ok sized
  obtain ⟨price, _, liquidates⟩ := sizedBy.liquidation
  exact
    { sized := sizedLoss_le valid sized
      atStop := stopLoss_le_iff valid sized
      liquidation := ⟨price, liquidates,
        approved_stop_before_liquidation buffers decided approved liquidates⟩ }

end

def purchaseStoppedAt (stopPrice : ℚ) : TradeRequest ℚ :=
  { symbol := btc
    side := .buy
    orderType := .limit
    timeInForce := .gtc
    reduceOnly := false
    quantity := 1
    entryPrice := 100
    stopPrice
    proposedRiskAmount := 10
    proposedNotional := 100
    proposedMarginRequired := 50
    leverage := 2
    estimatedLiquidationPrice := some 51 }

def intentStoppedAt (stopPrice : ℚ) : TradeIntent ℚ := { entryIntent.intent with stopPrice }

def purchaseSizing (inputs : ConstructionInputs) (stopPrice : ℚ) : SizingInputs ℚ :=
  sizingInputs inputs (intentStoppedAt stopPrice) 1000 100

def entryEvaluation (inputs : ConstructionInputs) (tradeRequest : TradeRequest ℚ) : Evaluation ℚ :=
  evaluationOf entryCycle.context inputs tradeRequest btc
    { symbol := btc
      rate := 0
      nextFundingTimeUtc := UtcTexts.marks.isoformat 0
      timestampUtc := UtcTexts.marks.isoformat 0 }

def targetedInputs : ConstructionInputs :=
  { entryInputs with
    riskProfile := { entryInputs.riskProfile with sizingMode := "vol_targeted" }
    volatilityBySymbol := [(btc, 1 / 10)] }

/-- The purchase is sized from a valid intent, and approved at the same equity and profile. -/
structure Passes (inputs : ConstructionInputs) (stopPrice : ℚ) : Prop where
  valid : (intentStoppedAt stopPrice).validate = .ok ()
  sized : sizeIntent (intentStoppedAt stopPrice) (purchaseSizing inputs stopPrice) =
    .ok (purchaseStoppedAt stopPrice)
  equity : fundedSnapshot.equity = .ok (purchaseSizing inputs stopPrice).equity
  profile : (entryEvaluation inputs (purchaseStoppedAt stopPrice)).riskProfile =
    (purchaseSizing inputs stopPrice).riskProfile
  approved : (evaluate inputs.riskManager
    (entryEvaluation inputs (purchaseStoppedAt stopPrice))).map RiskDecision.decision =
      .ok .approved

theorem approved_lossBounded_entry :
    LossBounded (intentStoppedAt 90) (purchaseSizing entryInputs 90) (purchaseStoppedAt 90) := by
  have passes : Passes entryInputs 90 := by
    constructor
    · decide +kernel
    · decide +kernel
    · decide +kernel
    · rfl
    · decide +kernel
  obtain ⟨decision, decided, approved⟩ := ok_of_map passes.approved
  exact approved_lossBounded (by decide +kernel) passes.valid passes.sized decided approved

/-- A purchase passes with its stop above the entry, and under volatility targeting another
passes that loses forty at its stop, where ten is the risk per trade. -/
theorem approved_stop_unbounded :
    (Passes entryInputs 110 ∧
      ¬ (purchaseStoppedAt 110).stopPrice < (purchaseStoppedAt 110).entryPrice) ∧
    Passes targetedInputs 60 ∧
      ¬ (purchaseStoppedAt 60).quantity *
          |(purchaseStoppedAt 60).entryPrice - (purchaseStoppedAt 60).stopPrice| ≤
        targetedInputs.riskProfile.riskPctPerTrade * (purchaseSizing targetedInputs 60).equity := by
  refine ⟨⟨?_, by decide +kernel⟩, ?_, by decide +kernel⟩
  · constructor
    · decide +kernel
    · decide +kernel
    · decide +kernel
    · rfl
    · decide +kernel
  · constructor
    · decide +kernel
    · decide +kernel
    · decide +kernel
    · rfl
    · decide +kernel

end TurtleExecution.TradingSystem

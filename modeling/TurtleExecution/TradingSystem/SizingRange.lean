/-
When sizing on decimals fails in its own way only.

It does so exactly when it refuses before it computes, or its distance rounds to zero, or
every amount it computes rounds to a positive number of the context.  A conviction of
zero makes the first amount zero.
-/

import TurtleExecution.TradingSystem.SizingErrors

set_option autoImplicit false

namespace TurtleExecution.TradingSystem

open ExchangeAdapter RiskManager Decimal

def riskValue (equity fraction : ℚ) : Option Decimal → ℚ
  | none => nearest (equity * fraction)
  | some conviction => nearest (nearest (equity * fraction) * nearest |conviction.exactly|)

def RiskInRange (equity fraction : ℚ) : Option Decimal → Prop
  | none => InRange (equity * fraction)
  | some conviction => InRange (equity * fraction) ∧
      InRange (nearest (equity * fraction) * nearest |conviction.exactly|)

/-- An infinite equity has a risk amount where nothing it is multiplied by is zero. -/
def RiskComputes (equity fraction : Decimal) (weight : Option Decimal) : Prop :=
  (equity.IsFinite → RiskInRange equity.exactly fraction.exactly weight) ∧
    (¬ equity.IsFinite → fraction.exactly ≠ 0 ∧
      ∀ conviction, weight = some conviction → nearest |conviction.exactly| ≠ 0)

def distanceValue (entryPrice stopPrice : ℚ) : Option Decimal → ℚ
  | none => |entryPrice - stopPrice|
  | some volatility => entryPrice * volatility.exactly

def DistanceFinite (entryPrice stopPrice : Decimal) : Option Decimal → Prop
  | none => entryPrice.IsFinite ∧ stopPrice.IsFinite
  | some volatility => entryPrice.IsFinite ∧ volatility.IsFinite

def Fits (value : ℚ) : Prop := InRange value ∧ 0 < nearest value

structure AmountsFit (riskAmount distance entryPrice leverage : ℚ) : Prop where
  risk : 0 < riskAmount
  quantity : Fits (riskAmount / distance)
  notional : Fits (nearest (riskAmount / distance) * entryPrice)
  margin : Fits (nearest (nearest (riskAmount / distance) * entryPrice) / leverage)

def LiquidationInRange (side : OrderSide) (entryPrice leverage rate : ℚ) : Prop :=
  let inverse := nearest (1 / leverage)
  InRange (1 / leverage) ∧
    match side with
    | .buy => InRange (1 - inverse) ∧ InRange (nearest (1 - inverse) + rate) ∧
        InRange (entryPrice * nearest (nearest (1 - inverse) + rate))
    | .sell => InRange (1 + inverse) ∧ InRange (nearest (1 + inverse) - rate) ∧
        InRange (entryPrice * nearest (nearest (1 + inverse) - rate))

/-- Sizing computes: the distance rounds to zero, which it refuses, or all amounts fit. -/
structure Sizable (intent : TradeIntent Decimal) (inputs : SizingInputs Decimal)
    (weight volatility : Option Decimal) : Prop where
  risk : RiskComputes inputs.equity (Binary64.toDecimal inputs.riskProfile.riskPctPerTrade) weight
  finite : DistanceFinite (intent.limitPrice.getD inputs.currentPrice) intent.stopPrice volatility
  distance : InRange (distanceValue (intent.limitPrice.getD inputs.currentPrice).exactly
    intent.stopPrice.exactly volatility)
  amounts : nearest (distanceValue (intent.limitPrice.getD inputs.currentPrice).exactly
      intent.stopPrice.exactly volatility) = 0 ∨
    (inputs.targetLeverage.IsFinite ∧
      LiquidationInRange intent.side (intent.limitPrice.getD inputs.currentPrice).exactly
        inputs.targetLeverage.exactly inputs.maintenanceMarginRate.exactly ∧
      (inputs.equity.IsFinite → AmountsFit
        (riskValue inputs.equity.exactly
          (Binary64.toDecimal inputs.riskProfile.riskPctPerTrade).exactly weight)
        (nearest (distanceValue (intent.limitPrice.getD inputs.currentPrice).exactly
          intent.stopPrice.exactly volatility))
        (intent.limitPrice.getD inputs.currentPrice).exactly inputs.targetLeverage.exactly) ∧
      (¬ inputs.equity.IsFinite →
        0 < (Binary64.toDecimal inputs.riskProfile.riskPctPerTrade).exactly))

private theorem inRange_abs_of_le_one {value : ℚ} (small : |value| ≤ 1) : InRange |value| := by
  refine @inRange_of_abs_le 0 _ (by decide) (by decide) ?_
  rw [abs_abs, zpow_zero]
  exact small

private theorem inRange_abs_iff {value : ℚ} : InRange |value| ↔ InRange value := by
  unfold InRange nearest
  rw [NumberFormat.abs_nearest, NumberFormat.abs_nearest, abs_abs]

private theorem weightedRisk_of_finite {equity fraction : Decimal} {weight : Option Decimal}
    (equityFinite : equity.IsFinite) (fractionFinite : fraction.IsFinite)
    (weights : ∀ conviction, weight = some conviction →
      conviction.IsFinite ∧ |conviction.exactly| ≤ 1)
    {holds : Decimal → Prop} {condition : Prop}
    (same : ∀ number : Decimal, number.IsFinite →
      number.exactly = riskValue equity.exactly fraction.exactly weight →
      (holds number ↔ condition)) :
    (∃ riskAmount, weightedRisk equity fraction weight = .ok riskAmount ∧ holds riskAmount) ↔
      RiskInRange equity.exactly fraction.exactly weight ∧ condition := by
  have product := mul_rounds equityFinite fractionFinite
  cases weight with
  | none => exact product.exists_iff same
  | some conviction =>
      obtain ⟨isFinite, small⟩ := weights conviction rfl
      unfold weightedRisk RiskInRange
      rw [exists_bind, and_assoc]
      refine product.exists_iff fun full fullFinite fullValue => ?_
      rw [exists_bind]
      have weighs : (∃ known, Decimal.abs conviction = .ok known ∧
          ∃ riskAmount, Decimal.mul full known = .ok riskAmount ∧ holds riskAmount) ↔
          InRange |conviction.exactly| ∧
            InRange (nearest (equity.exactly * fraction.exactly) * nearest |conviction.exactly|) ∧
              condition := by
        refine (abs_rounds isFinite).exists_iff fun known knownFinite knownValue => ?_
        have weighted := mul_rounds fullFinite knownFinite
        rw [fullValue, knownValue] at weighted
        exact weighted.exists_iff same
      exact weighs.trans (and_iff_right (inRange_abs_of_le_one small))

variable {inputs : SizingInputs Decimal} {volatility : Option Decimal} {side : OrderSide}

private theorem measuredDistance_of_finite {entryPrice stopPrice : Decimal}
    (finite : DistanceFinite entryPrice stopPrice volatility) {holds : Decimal → Prop}
    {condition : Prop}
    (same : ∀ number : Decimal, number.IsFinite →
      number.exactly = nearest (distanceValue entryPrice.exactly stopPrice.exactly volatility) →
      (holds number ↔ condition)) :
    (∃ distance, measuredDistance entryPrice stopPrice volatility = .ok distance ∧ holds distance) ↔
      InRange (distanceValue entryPrice.exactly stopPrice.exactly volatility) ∧ condition := by
  cases volatility with
  | some volatility => exact (mul_rounds finite.1 finite.2).exists_iff same
  | none =>
      have rounded : nearest |nearest (entryPrice.exactly - stopPrice.exactly)| =
          nearest |entryPrice.exactly - stopPrice.exactly| := by
        unfold nearest
        rw [NumberFormat.abs_nearest, NumberFormat.nearest_nearest]
      have ranges : InRange |nearest (entryPrice.exactly - stopPrice.exactly)| ↔
          InRange |entryPrice.exactly - stopPrice.exactly| := by
        unfold InRange
        rw [rounded]
      unfold measuredDistance stopDistance distanceValue
      rw [exists_bind]
      have apart : (∃ difference, Decimal.sub entryPrice stopPrice = .ok difference ∧
          ∃ distance, Decimal.abs difference = .ok distance ∧ holds distance) ↔
          InRange (entryPrice.exactly - stopPrice.exactly) ∧
            InRange |nearest (entryPrice.exactly - stopPrice.exactly)| ∧ condition := by
        refine (sub_rounds finite.1 finite.2).exists_iff fun difference isFinite value => ?_
        have magnitude := abs_rounds isFinite
        rw [value] at magnitude
        refine magnitude.exists_iff fun number numberFinite numberValue => ?_
        exact same number numberFinite (numberValue.trans rounded)
      rw [ranges, ← inRange_abs_iff] at apart
      exact apart.trans and_self_left

private theorem factor_iff {entryPrice : Decimal} {keptValue : ℚ} {adjustValue : ℚ → ℚ}
    {kept : Except ArithmeticError Decimal} {adjust : Decimal → Except ArithmeticError Decimal}
    (entryFinite : entryPrice.IsFinite) (keeps : RoundsTo keptValue kept)
    (adjusts : ∀ number : Decimal, number.IsFinite →
      RoundsTo (adjustValue number.exactly) (adjust number)) (condition : Prop) :
    (∃ price, (kept >>= fun number => adjust number >>= fun factor =>
        Decimal.mul entryPrice factor) = .ok price ∧ condition) ↔
      (InRange keptValue ∧ InRange (adjustValue (nearest keptValue)) ∧
        InRange (entryPrice.exactly * nearest (adjustValue (nearest keptValue)))) ∧ condition := by
  rw [exists_bind, and_assoc]
  refine keeps.exists_iff fun number numberFinite numberValue => ?_
  rw [exists_bind, and_assoc]
  have adjusted := adjusts number numberFinite
  rw [numberValue] at adjusted
  refine adjusted.exists_iff fun factor factorFinite factorValue => ?_
  have multiplies := mul_rounds entryFinite factorFinite
  rw [factorValue] at multiplies
  exact multiplies.exists_iff fun _ _ _ => Iff.rfl

private theorem liquidation_iff {side : OrderSide} {entryPrice : Decimal}
    {inputs : SizingInputs Decimal}
    (entryFinite : entryPrice.IsFinite) (leverageFinite : inputs.targetLeverage.IsFinite)
    (leveragePositive : 0 < inputs.targetLeverage.exactly)
    (rateFinite : inputs.maintenanceMarginRate.IsFinite) (condition : Prop) :
    (∃ price, estimatedLiquidationPrice side entryPrice inputs = .ok price ∧ condition) ↔
      LiquidationInRange side entryPrice.exactly inputs.targetLeverage.exactly
        inputs.maintenanceMarginRate.exactly ∧ condition := by
  unfold estimatedLiquidationPrice LiquidationInRange
  rw [exists_bind, and_assoc]
  have inverts := div_rounds one_isFinite leverageFinite leveragePositive.ne'
  rw [exactly_one] at inverts
  refine inverts.exists_iff fun inverse inverseFinite inverseValue => ?_
  cases side with
  | buy =>
      have keeps := sub_rounds one_isFinite inverseFinite
      rw [exactly_one, inverseValue] at keeps
      exact @factor_iff _ _ (fun kept => kept + inputs.maintenanceMarginRate.exactly) _ _
        entryFinite keeps (fun number isFinite => add_rounds isFinite rateFinite) condition
  | sell =>
      have keeps := add_rounds one_isFinite inverseFinite
      rw [exactly_one, inverseValue] at keeps
      exact @factor_iff _ _ (fun kept => kept - inputs.maintenanceMarginRate.exactly) _ _
        entryFinite keeps (fun number isFinite => sub_rounds isFinite rateFinite) condition

private theorem isNotPositive_false_iff {number : Decimal} (isFinite : number.IsFinite) :
    isNotPositive number = .ok false ↔ 0 < number.exactly := by
  unfold isNotPositive
  rw [le_zero_of_finite isFinite, Except.ok.injEq, decide_eq_false_iff_not, not_le]

private theorem isNotPositive_true_iff {number : Decimal} (isFinite : number.IsFinite) :
    isNotPositive number = .ok true ↔ number.exactly ≤ 0 := by
  unfold isNotPositive
  rw [le_zero_of_finite isFinite, Except.ok.injEq, decide_eq_true_eq]

private theorem not_positive_div_infinity {number quotient : Decimal}
    (divided : div number (.infinity false) = .ok quotient) : isNotPositive quotient ≠ .ok false := by
  intro positive
  cases number with
  | nan signaling =>
      cases signaling <;> cases divided
      cases positive
  | infinity negative => cases divided
  | finite negative coefficient exponent =>
      cases divided
      have isFinite : (Decimal.finite (negative != false) 0 eTiny).IsFinite := trivial
      have zero : exactly (.finite (negative != false) 0 eTiny) = 0 := by
        cases negative <;> simp [exactly, signed]
      rw [isNotPositive_false_iff isFinite, zero] at positive
      exact lt_irrefl 0 positive

private theorem leverage_isFinite {riskAmount distance entryPrice : Decimal}
    (leverage : isNotPositive inputs.targetLeverage = .ok false)
    (computed : PositiveAmountsFrom side inputs entryPrice riskAmount distance) :
    inputs.targetLeverage.IsFinite := by
  rcases positive_cases leverage with ⟨leverageFinite, _⟩ | isInfinite
  · exact leverageFinite
  · obtain ⟨quantity, _, notional, _, margin, divided, price, _, _, _, _, positive⟩ := computed
    rw [isInfinite] at divided
    exact absurd positive (not_positive_div_infinity divided)

private theorem amounts_of_finite {riskAmount distance entryPrice : Decimal} {side : OrderSide}
    {inputs : SizingInputs Decimal} (riskFinite : riskAmount.IsFinite)
    (distanceFinite : distance.IsFinite) (distancePositive : 0 < distance.exactly)
    (entryFinite : entryPrice.IsFinite)
    (leverage : isNotPositive inputs.targetLeverage = .ok false)
    (rateFinite : inputs.maintenanceMarginRate.IsFinite) :
    PositiveAmountsFrom side inputs entryPrice riskAmount distance ↔
      inputs.targetLeverage.IsFinite ∧
        LiquidationInRange side entryPrice.exactly inputs.targetLeverage.exactly
          inputs.maintenanceMarginRate.exactly ∧
        AmountsFit riskAmount.exactly distance.exactly entryPrice.exactly
          inputs.targetLeverage.exactly := by
  by_cases leverageFinite : inputs.targetLeverage.IsFinite
  · have leveragePositive := pos_of_le_zero leverageFinite leverage
    have chained : PositiveAmountsFrom side inputs entryPrice riskAmount distance ↔
        InRange (riskAmount.exactly / distance.exactly) ∧
        InRange (nearest (riskAmount.exactly / distance.exactly) * entryPrice.exactly) ∧
        InRange (nearest (nearest (riskAmount.exactly / distance.exactly) * entryPrice.exactly) /
          inputs.targetLeverage.exactly) ∧
        LiquidationInRange side entryPrice.exactly inputs.targetLeverage.exactly
          inputs.maintenanceMarginRate.exactly ∧
        0 < riskAmount.exactly ∧ 0 < nearest (riskAmount.exactly / distance.exactly) ∧
        0 < nearest (nearest (riskAmount.exactly / distance.exactly) * entryPrice.exactly) ∧
        0 < nearest (nearest (nearest (riskAmount.exactly / distance.exactly) *
          entryPrice.exactly) / inputs.targetLeverage.exactly) := by
      refine (div_rounds riskFinite distanceFinite distancePositive.ne').exists_iff
        fun quantity quantityFinite quantityValue => ?_
      have multiplies := mul_rounds quantityFinite entryFinite
      rw [quantityValue] at multiplies
      refine multiplies.exists_iff fun notional notionalFinite notionalValue => ?_
      have divides := div_rounds notionalFinite leverageFinite leveragePositive.ne'
      rw [notionalValue] at divides
      refine divides.exists_iff fun margin marginFinite marginValue => ?_
      rw [liquidation_iff entryFinite leverageFinite leveragePositive rateFinite,
        isNotPositive_false_iff riskFinite, isNotPositive_false_iff quantityFinite,
        isNotPositive_false_iff notionalFinite, isNotPositive_false_iff marginFinite,
        quantityValue, notionalValue, marginValue]
    rw [chained]
    constructor
    · rintro ⟨quantityFits, notionalFits, marginFits, liquidates, risk, quantity, notional, margin⟩
      exact ⟨leverageFinite, liquidates,
        { risk
          quantity := ⟨quantityFits, quantity⟩
          notional := ⟨notionalFits, notional⟩
          margin := ⟨marginFits, margin⟩ }⟩
    · rintro ⟨_, liquidates, fit⟩
      exact ⟨fit.quantity.1, fit.notional.1, fit.margin.1, liquidates, fit.risk, fit.quantity.2,
        fit.notional.2, fit.margin.2⟩
  · exact iff_of_false (fun computed => leverageFinite (leverage_isFinite leverage computed))
      fun known => leverageFinite known.1

private theorem weightedRisk_of_infinite {fraction : Decimal} {weight : Option Decimal}
    (fractionFinite : fraction.IsFinite)
    (weights : ∀ conviction, weight = some conviction →
      conviction.IsFinite ∧ |conviction.exactly| ≤ 1) {holds : Decimal → Prop} :
    (∃ riskAmount, weightedRisk (.infinity false) fraction weight = .ok riskAmount ∧
        holds riskAmount) ↔
      (fraction.exactly ≠ 0 ∧
        ∀ conviction, weight = some conviction → nearest |conviction.exactly| ≠ 0) ∧
        holds (.infinity (decide (fraction.exactly < 0))) := by
  have sign : ∀ isNegative : Bool, (false != isNegative) = isNegative := by decide
  cases weight with
  | none =>
      have whole := @mul_infinity_iff false _ fractionFinite holds
      rw [sign] at whole
      refine whole.trans (and_congr_left fun _ => (and_iff_left ?_).symm)
      intro conviction impossible
      cases impossible
  | some conviction =>
      obtain ⟨isFinite, small⟩ := weights conviction rfl
      unfold weightedRisk
      rw [exists_bind, show (Arithmetic.mul (Decimal.infinity false) fraction) =
        Decimal.mul (.infinity false) fraction from rfl, mul_infinity_iff fractionFinite, sign,
        exists_bind, and_assoc]
      refine and_congr_right fun _ => ?_
      have weighs : (∃ known, Decimal.abs conviction = .ok known ∧ ∃ riskAmount,
          Decimal.mul (.infinity (decide (fraction.exactly < 0))) known = .ok riskAmount ∧
            holds riskAmount) ↔
          InRange |conviction.exactly| ∧ nearest |conviction.exactly| ≠ 0 ∧
            holds (.infinity (decide (fraction.exactly < 0))) := by
        refine (abs_rounds isFinite).exists_iff fun known knownFinite knownValue => ?_
        have nonneg : ¬ nearest |conviction.exactly| < 0 :=
          not_lt.mpr (nearest_nonneg (abs_nonneg _))
        rw [mul_infinity_iff knownFinite, knownValue, decide_eq_false nonneg, Bool.bne_false]
      refine (weighs.trans (and_iff_right
        (inRange_abs_of_le_one small))).trans (and_congr_left fun _ => ?_)
      constructor
      · intro nonzero other isOther
        cases isOther
        exact nonzero
      · exact fun nonzero => nonzero conviction rfl

private theorem isNotPositive_infinity {negative : Bool} :
    isNotPositive (Decimal.infinity negative) = .ok false ↔ negative = false := by
  cases negative <;> decide

private theorem amounts_of_infinite {negative : Bool} {distance entryPrice : Decimal}
    {side : OrderSide}
    {inputs : SizingInputs Decimal} (distanceFinite : distance.IsFinite)
    (distancePositive : 0 < distance.exactly) (entryFinite : entryPrice.IsFinite)
    (entryPositive : 0 < entryPrice.exactly)
    (leverage : isNotPositive inputs.targetLeverage = .ok false)
    (rateFinite : inputs.maintenanceMarginRate.IsFinite) :
    PositiveAmountsFrom side inputs entryPrice (.infinity negative) distance ↔
      inputs.targetLeverage.IsFinite ∧
        LiquidationInRange side entryPrice.exactly inputs.targetLeverage.exactly
          inputs.maintenanceMarginRate.exactly ∧ negative = false := by
  have isQuantity := (@infinity_positive negative _ distanceFinite distancePositive).2.2
  have isNotional := (@infinity_positive negative _ entryFinite entryPositive).1
  by_cases leverageFinite : inputs.targetLeverage.IsFinite
  · have leveragePositive := pos_of_le_zero leverageFinite leverage
    have isMargin := (@infinity_positive negative _ leverageFinite leveragePositive).2.2
    have liquidates := @liquidation_iff side _ inputs entryFinite leverageFinite leveragePositive
      rateFinite (negative = false)
    rw [and_iff_right leverageFinite, ← liquidates]
    constructor
    · rintro ⟨quantity, _, notional, _, margin, _, price, isPrice, positive, _⟩
      exact ⟨price, isPrice, isNotPositive_infinity.mp positive⟩
    · rintro ⟨price, isPrice, isPositive⟩
      have positive := isNotPositive_infinity.mpr isPositive
      exact ⟨_, isQuantity, _, isNotional, _, isMargin, price, isPrice, positive, positive,
        positive, positive⟩
  · exact iff_of_false (fun computed => leverageFinite (leverage_isFinite leverage computed))
      fun known => leverageFinite known.1

private theorem measuredDistance_infinite {entryPrice stopPrice distance : Decimal}
    (entryPositive : isNotPositive entryPrice = .ok false)
    (stopPositive : isNotPositive stopPrice = .ok false)
    (volatilityPositive : ∀ known, volatility = some known → isNotPositive known = .ok false)
    (notFinite : ¬ DistanceFinite entryPrice stopPrice volatility)
    (measured : measuredDistance entryPrice stopPrice volatility = .ok distance) :
    distance = .infinity false := by
  cases volatility with
  | none =>
      obtain ⟨difference, isDifference, isDistance⟩ := ok_of_bind measured
      rcases positive_cases entryPositive with ⟨entryFinite, _⟩ | rfl
      · rcases positive_cases stopPositive with ⟨stopFinite, _⟩ | rfl
        · exact absurd ⟨entryFinite, stopFinite⟩ notFinite
        · cases entryPrice with
          | infinity | nan => exact entryFinite.elim
          | finite negative coefficient exponent =>
              cases isDifference
              cases isDistance
              rfl
      · rcases positive_cases stopPositive with ⟨stopFinite, _⟩ | rfl
        · cases stopPrice with
          | infinity | nan => exact stopFinite.elim
          | finite negative coefficient exponent =>
              cases isDifference
              cases isDistance
              rfl
        · cases isDifference
  | some volatility =>
      rcases positive_cases entryPositive with ⟨entryFinite, entryAbove⟩ | rfl
      · rcases positive_cases (volatilityPositive volatility rfl) with ⟨finite, _⟩ | rfl
        · exact absurd ⟨entryFinite, finite⟩ notFinite
        · have product := (@infinity_positive false _ entryFinite entryAbove).2.1
          exact Except.ok.inj (measured.symm.trans product)
      · rcases positive_cases (volatilityPositive volatility rfl) with ⟨finite, above⟩ | rfl
        · have product := (@infinity_positive false _ finite above).1
          exact Except.ok.inj (measured.symm.trans product)
        · cases measured
          rfl

private theorem both_of_inside {above below : Bool} (inside : (!(above && below)) = false) :
    above = true ∧ below = true := by
  cases above <;> cases below <;> first | exact ⟨rfl, rfl⟩ | cases inside

private theorem conviction_bounds {conviction : Decimal}
    (valid : isNoConviction conviction = .ok false) :
    conviction.IsFinite ∧ |conviction.exactly| ≤ 1 := by
  obtain ⟨aboveLeast, isAbove, valid⟩ := ok_of_bind valid
  obtain ⟨belowMost, isBelow, valid⟩ := ok_of_bind valid
  obtain ⟨rfl, rfl⟩ := both_of_inside (Except.ok.inj valid)
  have leastFinite : (Decimal.ofInt (-1)).IsFinite := trivial
  have least : (Decimal.ofInt (-1)).exactly = -1 := by
    simp [Decimal.ofInt, exactly, signed]
  obtain ⟨finite, above, below⟩ := finite_of_between leastFinite one_isFinite isAbove isBelow
  rw [least] at above
  rw [exactly_one] at below
  exact ⟨finite, abs_le.mpr ⟨above, below⟩⟩

private theorem rate_bounds {rate : Decimal} (inside : outsideUnit rate = .ok false) :
    rate.IsFinite ∧ |rate.exactly| ≤ 1 := by
  obtain ⟨atLeastZero, isAbove, inside⟩ := ok_of_bind inside
  obtain ⟨belowOne, isBelow, inside⟩ := ok_of_bind inside
  obtain ⟨rfl, rfl⟩ := both_of_inside (Except.ok.inj inside)
  obtain ⟨value, one, isValue, isOne, below⟩ := lt_iff_values.mp isBelow
  have atMostOne := (le_of_values isValue isOne).trans
    (congrArg Except.ok (decide_eq_true (of_decide_eq_true below.symm).le))
  have zeroFinite : Decimal.zero.IsFinite := trivial
  obtain ⟨finite, above, below⟩ := finite_of_between zeroFinite one_isFinite isAbove atMostOne
  have zero : Decimal.zero.exactly = 0 := by
    simp [Decimal.zero, Decimal.ofInt, exactly, signed]
  rw [zero] at above
  rw [exactly_one] at below
  exact ⟨finite, abs_le.mpr ⟨by linarith, below⟩⟩

private theorem distanceValue_nonneg {entryPrice stopPrice : Decimal}
    (entryPositive : isNotPositive entryPrice = .ok false)
    (volatilityPositive : ∀ known, volatility = some known → isNotPositive known = .ok false)
    (finite : DistanceFinite entryPrice stopPrice volatility) :
    0 ≤ distanceValue entryPrice.exactly stopPrice.exactly volatility := by
  cases volatility with
  | none => exact abs_nonneg _
  | some volatility =>
      exact mul_nonneg ((isNotPositive_false_iff finite.1).mp entryPositive).le
        ((isNotPositive_false_iff finite.2).mp (volatilityPositive volatility rfl)).le

private theorem distance_iff {intent : TradeIntent Decimal} {riskAmount : Decimal} {fits : Prop}
    (accepted : Accepted intent inputs)
    (volatilityPositive : ∀ known, volatility = some known → isNotPositive known = .ok false)
    (finite : DistanceFinite (intent.limitPrice.getD inputs.currentPrice) intent.stopPrice volatility)
    (amounts : ∀ distance : Decimal, distance.IsFinite → 0 < distance.exactly →
      distance.exactly = nearest (distanceValue (intent.limitPrice.getD inputs.currentPrice).exactly
        intent.stopPrice.exactly volatility) →
      (PositiveAmountsFrom intent.side inputs (intent.limitPrice.getD inputs.currentPrice)
        riskAmount distance ↔ fits)) :
    (∃ distance, measuredDistance (intent.limitPrice.getD inputs.currentPrice) intent.stopPrice
        volatility = .ok distance ∧
        ItsOwnWay (afterDistance intent inputs (riskAmount, distance))) ↔
      InRange (distanceValue (intent.limitPrice.getD inputs.currentPrice).exactly
        intent.stopPrice.exactly volatility) ∧
      (nearest (distanceValue (intent.limitPrice.getD inputs.currentPrice).exactly
        intent.stopPrice.exactly volatility) = 0 ∨ fits) := by
  refine measuredDistance_of_finite finite fun distance distanceFinite value => ?_
  have nonneg := nearest_nonneg (distanceValue_nonneg accepted.entryPrice volatilityPositive finite)
  rw [itsOwnWay_afterDistance accepted, isNotPositive_true_iff distanceFinite,
    isNotPositive_false_iff distanceFinite]
  rcases nonneg.lt_or_eq with positive | zero
  · have above : 0 < distance.exactly := value ▸ positive
    rw [or_iff_right (not_le.mpr above), and_iff_right above, or_iff_right positive.ne']
    exact amounts distance distanceFinite above value
  · exact iff_of_true (Or.inl (value.trans zero.symm).le) (Or.inl zero.symm)

theorem DistanceFinite.entryPrice {entryPrice stopPrice : Decimal}
    (finite : DistanceFinite entryPrice stopPrice volatility) : entryPrice.IsFinite := by
  cases volatility with
  | none => exact finite.1
  | some volatility => exact finite.1

section

variable {intent : TradeIntent Decimal} {inputs : SizingInputs Decimal}
  {weight volatility : Option Decimal}

theorem Measures.conviction_given {conviction : Decimal}
    (measures : Measures intent inputs weight volatility) (isWeight : weight = some conviction) :
    intent.conviction = some conviction := by
  cases measures with
  | fixed | targeted => cases isWeight
  | weighted mode given =>
      cases isWeight
      exact given

theorem Measures.weight_bounds (measures : Measures intent inputs weight volatility)
    (accepted : Accepted intent inputs) :
    ∀ conviction, weight = some conviction → conviction.IsFinite ∧ |conviction.exactly| ≤ 1 :=
  fun conviction isWeight =>
    conviction_bounds (accepted.conviction conviction (measures.conviction_given isWeight))

theorem Measures.volatility_positive (measures : Measures intent inputs weight volatility) :
    ∀ known, volatility = some known → isNotPositive known = .ok false := by
  intro known isVolatility
  cases measures with
  | fixed | weighted => cases isVolatility
  | targeted mode given positive =>
      cases isVolatility
      exact positive

def SizesItsOwnWay (intent : TradeIntent Decimal) (inputs : SizingInputs Decimal)
    (weight volatility : Option Decimal) : Prop :=
  ∃ riskAmount, weightedRisk inputs.equity
      (Binary64.toDecimal inputs.riskProfile.riskPctPerTrade) weight = .ok riskAmount ∧
    ∃ distance, measuredDistance (intent.limitPrice.getD inputs.currentPrice) intent.stopPrice
      volatility = .ok distance ∧ ItsOwnWay (afterDistance intent inputs (riskAmount, distance))

private theorem sizable_of_finite_equity (accepted : Accepted intent inputs)
    (measures : Measures intent inputs weight volatility)
    (finite : DistanceFinite (intent.limitPrice.getD inputs.currentPrice) intent.stopPrice volatility)
    (equityFinite : inputs.equity.IsFinite) :
    SizesItsOwnWay intent inputs weight volatility ↔
      Sizable intent inputs weight volatility := by
  have fractionFinite := Binary64.isFinite_toDecimal inputs.riskProfile.riskPctPerTrade
  have computes := weightedRisk_of_finite equityFinite fractionFinite
    (measures.weight_bounds accepted) fun riskAmount riskFinite riskIs =>
      distance_iff accepted measures.volatility_positive finite
        fun distance distanceFinite distancePositive distanceIs => by
          have amounts := @amounts_of_finite _ _ _ intent.side _ riskFinite distanceFinite
            distancePositive finite.entryPrice accepted.leverage (rate_bounds accepted.rate).1
          rw [riskIs, distanceIs] at amounts
          exact amounts
  refine computes.trans ⟨?_, ?_⟩
  · rintro ⟨risk, distance, amounts⟩
    refine
      { risk := ⟨fun _ => risk, fun notFinite => absurd equityFinite notFinite⟩
        finite
        distance
        amounts := amounts.imp_right ?_ }
    rintro ⟨leverageFinite, liquidates, fit⟩
    exact ⟨leverageFinite, liquidates, fun _ => fit,
      fun notFinite => absurd equityFinite notFinite⟩
  · rintro ⟨risk, _, distance, amounts⟩
    refine ⟨risk.1 equityFinite, distance, amounts.imp_right ?_⟩
    rintro ⟨leverageFinite, liquidates, fit, _⟩
    exact ⟨leverageFinite, liquidates, fit equityFinite⟩

private theorem sizable_of_infinite_equity (accepted : Accepted intent inputs)
    (measures : Measures intent inputs weight volatility)
    (finite : DistanceFinite (intent.limitPrice.getD inputs.currentPrice) intent.stopPrice volatility)
    (isInfinite : inputs.equity = .infinity false) :
    SizesItsOwnWay intent inputs weight volatility ↔
      Sizable intent inputs weight volatility := by
  have fractionFinite := Binary64.isFinite_toDecimal inputs.riskProfile.riskPctPerTrade
  have entryPositive := (isNotPositive_false_iff finite.entryPrice).mp accepted.entryPrice
  have notFinite : ¬ inputs.equity.IsFinite := by
    rw [isInfinite]
    exact id
  have computes := @weightedRisk_of_infinite _ weight fractionFinite
    (measures.weight_bounds accepted) fun riskAmount =>
      ∃ distance, measuredDistance (intent.limitPrice.getD inputs.currentPrice) intent.stopPrice
        volatility = .ok distance ∧ ItsOwnWay (afterDistance intent inputs (riskAmount, distance))
  have distances := distance_iff accepted measures.volatility_positive finite
    fun distance distanceFinite distancePositive _ =>
      @amounts_of_infinite (decide ((Binary64.toDecimal
        inputs.riskProfile.riskPctPerTrade).exactly < 0)) _ _ intent.side _ distanceFinite
        distancePositive finite.entryPrice entryPositive accepted.leverage
        (rate_bounds accepted.rate).1
  rw [distances, ← isInfinite] at computes
  refine computes.trans ⟨?_, ?_⟩
  · rintro ⟨⟨nonzero, weighs⟩, distance, amounts⟩
    refine
      { risk := ⟨fun equityFinite => absurd equityFinite notFinite, fun _ => ⟨nonzero, weighs⟩⟩
        finite
        distance
        amounts := amounts.imp_right ?_ }
    rintro ⟨leverageFinite, liquidates, notNegative⟩
    refine ⟨leverageFinite, liquidates, fun equityFinite => absurd equityFinite notFinite,
      fun _ => ?_⟩
    exact (not_lt.mp (of_decide_eq_false notNegative)).lt_of_ne nonzero.symm
  · rintro ⟨risk, _, distance, amounts⟩
    refine ⟨risk.2 notFinite, distance, amounts.imp_right ?_⟩
    rintro ⟨leverageFinite, liquidates, _, fractionPositive⟩
    exact ⟨leverageFinite, liquidates,
      decide_eq_false (not_lt.mpr (fractionPositive notFinite).le)⟩

private theorem itsOwnWay_measured (accepted : Accepted intent inputs)
    (measures : Measures intent inputs weight volatility) :
    ItsOwnWay (riskAndDistance intent inputs (intent.limitPrice.getD inputs.currentPrice) >>=
        afterDistance intent inputs) ↔ Sizable intent inputs weight volatility := by
  rw [itsOwnWay_measures measures]
  by_cases finite : DistanceFinite (intent.limitPrice.getD inputs.currentPrice) intent.stopPrice
    volatility
  · rcases positive_cases accepted.equity with ⟨equityFinite, _⟩ | isInfinite
    · exact sizable_of_finite_equity accepted measures finite equityFinite
    · exact sizable_of_infinite_equity accepted measures finite isInfinite
  · refine iff_of_false ?_ fun sizable => finite sizable.finite
    rintro ⟨riskAmount, _, distance, measured, ownWay⟩
    have isInfinite := measuredDistance_infinite accepted.entryPrice accepted.stopPrice
      measures.volatility_positive finite measured
    subst isInfinite
    rcases (itsOwnWay_afterDistance accepted _ _).mp ownWay with refused | ⟨_, computed⟩
    · cases refused
    · obtain ⟨quantity, divided, notional, _, margin, _, price, _, _, positive, _⟩ := computed
      exact not_positive_div_infinity divided positive

theorem Measures.unique {weight' volatility' : Option Decimal}
    (measures : Measures intent inputs weight volatility)
    (others : Measures intent inputs weight' volatility') :
    weight' = weight ∧ volatility' = volatility := by
  cases measures with
  | fixed mode =>
      cases others with
      | fixed _ => exact ⟨rfl, rfl⟩
      | weighted other _ => exact absurd (mode.symm.trans other) (by decide)
      | targeted other _ _ => exact absurd (mode.symm.trans other) (by decide)
  | weighted mode given =>
      cases others with
      | fixed other => exact absurd (mode.symm.trans other) (by decide)
      | weighted _ otherGiven => exact ⟨otherGiven.symm.trans given, rfl⟩
      | targeted other _ _ => exact absurd (mode.symm.trans other) (by decide)
  | targeted mode given _ =>
      cases others with
      | fixed other => exact absurd (mode.symm.trans other) (by decide)
      | weighted other _ => exact absurd (mode.symm.trans other) (by decide)
      | targeted _ otherGiven _ => exact ⟨rfl, otherGiven.symm.trans given⟩

end

def convictionIntent (conviction : Decimal) : TradeIntent Decimal :=
  { symbol := btc
    side := .buy
    orderType := .limit
    timeInForce := .gtc
    reduceOnly := false
    stopPrice := .ofInt 90
    conviction := some conviction
    limitPrice := some (.ofInt 100) }

def convictionInputs : SizingInputs Decimal :=
  { equity := .ofInt 1000
    riskProfile :=
      { riskPctPerTrade := 1 / 64
        maxPositions := 1
        sizingMode := "conviction_weighted"
        heatCap := 1 / 8 }
    currentPrice := .ofInt 100
    maintenanceMarginRate := .finite false 1 (-2)
    targetLeverage := .ofInt 2
    volatility := none }

/-- On inputs that pass its guards, sizing returns a request or refuses in its own way exactly
when its volatility is a number and what it measures with computes: a distance of zero, or
positive amounts in range. -/
theorem sizeIntent_itsOwnWay_iff {intent : TradeIntent Decimal} {inputs : SizingInputs Decimal}
    (valid : intent.validate = .ok ()) (accepted : checkInputs inputs = .ok ()) :
    ItsOwnWay (sizeIntent intent inputs) ↔
      VolatilityKnown inputs ∧ ∀ weight volatility, Measures intent inputs weight volatility →
        Sizable intent inputs weight volatility := by
  rw [sizeIntent_eq intent inputs accepted]
  by_cases measured : ∃ weight volatility, Measures intent inputs weight volatility
  · obtain ⟨weight, volatility, measures⟩ := measured
    rw [itsOwnWay_measured (accepted_of_valid valid accepted) measures]
    constructor
    · intro sizable
      refine ⟨measures.volatilityKnown, fun weight' volatility' others => ?_⟩
      obtain ⟨rfl, rfl⟩ := measures.unique others
      exact sizable
    · exact fun all => all.2 weight volatility measures
  · rw [itsOwnWay_refused measured]
    refine (and_iff_left ?_).symm
    exact fun weight volatility measures => absurd ⟨weight, volatility, measures⟩ measured

theorem convictionIntent_own_way :
    VolatilityKnown convictionInputs ∧ ∀ weight volatility,
      Measures (convictionIntent (.ofInt 1)) convictionInputs weight volatility →
        Sizable (convictionIntent (.ofInt 1)) convictionInputs weight volatility := by
  have valid : (convictionIntent (.ofInt 1)).validate = .ok () := by decide +kernel
  have accepted : checkInputs convictionInputs = .ok () := by decide +kernel
  have sized : (sizeIntent (convictionIntent (.ofInt 1)) convictionInputs).map
      TradeRequest.quantity = .ok (.finite false 1562500 (-6)) := by decide +kernel
  obtain ⟨request, isRequest, _⟩ := ok_of_map sized
  exact (sizeIntent_itsOwnWay_iff valid accepted).mp (Or.inl ⟨request, isRequest⟩)

/-- Without conviction the quantity is zero, and the request refuses it in its own words. -/
theorem sizing_without_conviction :
    ¬ ∀ (intent : TradeIntent Decimal) (inputs : SizingInputs Decimal),
      intent.validate = .ok () → checkInputs inputs = .ok () →
      ItsOwnWay (sizeIntent intent inputs) := by
  intro always
  have valid : (convictionIntent (.ofInt 0)).validate = .ok () := by decide +kernel
  have accepted : checkInputs convictionInputs = .ok () := by decide +kernel
  have aborted : sizeIntent (convictionIntent (.ofInt 0)) convictionInputs =
      .error (.request (.configuration (.message
        "TradeRequest.quantity must be a positive Decimal, got Decimal('0.000000')"))) := by
    decide +kernel
  rcases always _ _ valid accepted with ⟨request, sized⟩ | ⟨message, refused⟩
  · cases aborted.symm.trans sized
  · cases aborted.symm.trans refused

end TurtleExecution.TradingSystem

/-
Where sizing and the risk limit agree.

Sizing takes the fraction of the profile through its text, and the risk manager compares
with its binary value.  A trade at the limit passes when the amount at risk, rounded to
the 28 digits of a decimal, is a share that still rounds to the binary fraction or below.
-/

import TurtleExecution.RiskManager.Monotone
import TurtleExecution.TradingSystem.Sizing

set_option autoImplicit false

namespace TurtleExecution.TradingSystem

open ExchangeAdapter RiskManager

/-- The share of the equity that the rounded amount is, in units of the last digit of the
limit, is within the whole units of the limit. -/
def WithinLimit (equity fraction limit : ℚ) : Prop :=
  HalfEven.Within ⌊limit / Decimal.format.unit limit⌋
    (Decimal.nearest (equity * fraction) / equity / Decimal.format.unit limit)

variable {inputs : SizingInputs Decimal} {intent : TradeIntent Decimal}

private theorem amount_of_fixed {entryPrice amount distance : Decimal}
    (fixed : inputs.riskProfile.sizingMode = "fixed")
    (amounts : riskAndDistance intent inputs entryPrice = .ok (amount, distance)) :
    Decimal.mul inputs.equity (Binary64.toDecimal inputs.riskProfile.riskPctPerTrade) = .ok amount := by
  unfold riskAndDistance at amounts
  rw [fixed] at amounts
  obtain ⟨riskAmount, isAmount, amounts⟩ := ok_of_bind amounts
  obtain ⟨stopDistance, _, amounts⟩ := ok_of_bind amounts
  cases amounts
  exact ok_of_mapError isAmount

private theorem share_of_amount {equity fraction amount share : Decimal}
    (fractionFinite : fraction.IsFinite)
    (equityPositive : isNotPositive equity = .ok false)
    (amountPositive : isNotPositive amount = .ok false)
    (multiplied : Decimal.mul equity fraction = .ok amount)
    (divided : Decimal.div amount equity = .ok share) :
    share.IsFinite ∧ 0 < equity.exactly ∧
      0 < Decimal.nearest (equity.exactly * fraction.exactly) ∧
      share.exactly = Decimal.nearest
        (Decimal.nearest (equity.exactly * fraction.exactly) / equity.exactly) := by
  cases equity with
  | nan signaling => cases signaling <;> cases equityPositive
  | infinity negative =>
      cases fraction with
      | infinity | nan => exact fractionFinite.elim
      | finite other coefficient exponent =>
          have multiplied_ : (if coefficient = 0 then Except.error ArithmeticError.invalidOperation
              else .ok (.infinity (negative != other))) = .ok amount := multiplied
          split at multiplied_
          · cases multiplied_
          · cases multiplied_
            cases divided
  | finite negative coefficient exponent =>
      have equityFinite : (Decimal.finite negative coefficient exponent).IsFinite := trivial
      have positive := Decimal.pos_of_le_zero equityFinite equityPositive
      have product := Decimal.mul_rounds equityFinite fractionFinite
      rw [multiplied] at product
      cases product with
      | rounded amountFinite isAmount _ =>
          have quotient := Decimal.div_rounds amountFinite equityFinite positive.ne'
          rw [divided] at quotient
          cases quotient with
          | rounded shareFinite isShare _ =>
              rw [isAmount] at isShare
              exact ⟨shareFinite, positive,
                isAmount ▸ Decimal.pos_of_le_zero amountFinite amountPositive, isShare⟩

private theorem riskPerTrade_violated_iff {setting : Setting Decimal}
    {evaluation : Evaluation Decimal}
    {found : RiskManager.Inputs Decimal} (fixed : inputs.riskProfile.sizingMode = "fixed")
    (sized : sizeIntent intent inputs = .ok evaluation.tradeRequest)
    (sameProfile : evaluation.riskProfile = inputs.riskProfile)
    (sameEquity : found.portfolioSnapshot.equity = .ok inputs.equity)
    (limitPositive : 0 < inputs.riskProfile.riskPctPerTrade)
    (computed : ∃ isViolated, Rule.riskPerTrade.isViolated setting evaluation found = .ok isViolated) :
    Rule.riskPerTrade.isViolated setting evaluation found = .ok true ↔
      ¬ WithinLimit inputs.equity.exactly
        (Binary64.toDecimal inputs.riskProfile.riskPctPerTrade).exactly
        inputs.riskProfile.riskPctPerTrade := by
  obtain ⟨isViolated, outcome⟩ := computed
  obtain ⟨share, isShare, compared⟩ := ok_of_bind outcome
  obtain ⟨equity, isEquity, divided⟩ := ok_of_bind isShare
  cases isEquity.symm.trans sameEquity
  obtain ⟨checked, ⟨distance, sizedBy⟩, valid⟩ := sizeIntent_ok sized
  obtain ⟨_, equityPositive, _⟩ := ok_of_bind checked
  obtain ⟨shareFinite, positive, amountPositive, value⟩ := share_of_amount
    (Binary64.isFinite_toDecimal _) (refuseIf_ok equityPositive) (positiveAmounts_of_validate valid).risk
    (amount_of_fixed fixed sizedBy.amounts) divided
  have decides := (Decimal.exceeds_of_finite shareFinite _).symm.trans compared
  rw [sameProfile, value] at decides
  cases decides
  have rounds : Decimal.nearest (Decimal.nearest (inputs.equity.exactly *
        (Binary64.toDecimal inputs.riskProfile.riskPctPerTrade).exactly) / inputs.equity.exactly) ≤
      inputs.riskProfile.riskPctPerTrade ↔ WithinLimit _ _ _ :=
    NumberFormat.nearest_le_iff (div_pos amountPositive positive) limitPositive
  rw [outcome, Except.ok.injEq, decide_eq_true_eq, ← not_le]
  exact not_congr rounds

def purchaseIntent : TradeIntent Decimal :=
  { symbol := btc
    side := .buy
    orderType := .limit
    timeInForce := .gtc
    reduceOnly := false
    stopPrice := .ofInt 90
    conviction := none
    limitPrice := some (.ofInt 100) }

def sizingAt (limit : ℚ) : SizingInputs Decimal :=
  { equity := .ofInt 1000
    riskProfile := { cautiousProfile with riskPctPerTrade := limit }
    currentPrice := .ofInt 100
    maintenanceMarginRate := .finite false 1 (-2)
    targetLeverage := .ofInt 2
    volatility := none }

/-- What sizing makes of the purchase, judged at the same equity and profile. -/
def judgedAt (limit : ℚ) : Except SizeError (Except EvaluationError (Decision × List ReasonCode)) :=
  (sizeIntent purchaseIntent (sizingAt limit)).map fun request =>
    (evaluate unlimitedSetting (evaluationOn (.ofInt 1000) (sizingAt limit).riskProfile request)).map
      fun decision => (decision.decision, decision.reasonCodes)

/-- What the configuration loader accepts of a profile; its product is one of floats. -/
structure AcceptedProfile (profile : RiskProfileParams) : Prop where
  riskIsFloat : Binary64.format.nearest profile.riskPctPerTrade = profile.riskPctPerTrade
  heatIsFloat : Binary64.format.nearest profile.heatCap = profile.heatCap
  riskFraction : 0 < profile.riskPctPerTrade ∧ profile.riskPctPerTrade ≤ 1
  heatFraction : 0 < profile.heatCap ∧ profile.heatCap ≤ 1
  positions : 1 ≤ profile.maxPositions
  sizingMode : profile.sizingMode ∈ ["conviction_weighted", "fixed", "vol_targeted"]
  headroom : Binary64.format.nearest (profile.maxPositions * profile.riskPctPerTrade) <
    profile.heatCap

def threePercent : ℚ := 1080863910568919 / 2 ^ 55

/-- A trade that is sized with a fixed fraction is not rejected for its risk, at the same equity
and profile, exactly when it is not judged at all or its share is within the limit. -/
theorem sized_within_risk_iff {setting : Setting Decimal} {evaluation : Evaluation Decimal}
    {decision : RiskDecision Decimal} {intent : TradeIntent Decimal} {inputs : SizingInputs Decimal}
    (fixed : inputs.riskProfile.sizingMode = "fixed")
    (sized : sizeIntent intent inputs = .ok evaluation.tradeRequest)
    (sameProfile : evaluation.riskProfile = inputs.riskProfile)
    (sameEquity : ∀ snapshot, evaluation.portfolioSnapshot = some snapshot →
      snapshot.equity = .ok inputs.equity)
    (decided : evaluate setting evaluation = .ok decision) :
    ¬ (decision.decision = .rejected ∧ .riskPerTradeExceeded ∈ decision.reasonCodes) ↔
      Blocks evaluation ∨ (¬ ∃ found, Ready setting evaluation found) ∨
        WithinLimit inputs.equity.exactly
          (Binary64.toDecimal inputs.riskProfile.riskPctPerTrade).exactly
          inputs.riskProfile.riskPctPerTrade := by
  have accepted : checkProfile evaluation.riskProfile = .ok () := by
    obtain ⟨done, accepted, _⟩ := ok_of_bind decided
    exact accepted
  have limitPositive : 0 < inputs.riskProfile.riskPctPerTrade := by
    unfold checkProfile at accepted
    split at accepted
    · cases accepted
    · rename_i positive
      rw [← sameProfile]
      exact not_le.mp fun nonpositive => positive (Or.inl nonpositive)
  cases evaluate_decided decided with
  | blocked blocks =>
      refine iff_of_true ?_ (Or.inl blocks)
      rintro ⟨impossible, _⟩
      cases impossible
  | failSafe free unready =>
      refine iff_of_true ?_ (Or.inr (Or.inl unready))
      rintro ⟨impossible, _⟩
      cases impossible
  | @ruled found violations figures free ready computed =>
      have equity := sameEquity found.portfolioSnapshot (fields_of_inputs ready.inputsKnown).1
      have violated := riskPerTrade_violated_iff fixed sized sameProfile equity limitPositive
        ((businessRules_ok computed).1.rules .riskPerTrade)
      have reason : (∃ rule : Rule, rule.reason = .riskPerTradeExceeded ∧
          rule.isViolated setting evaluation found = .ok true) ↔
          Rule.riskPerTrade.isViolated setting evaluation found = .ok true := by
        constructor
        · rintro ⟨rule, isReason, isViolated⟩
          cases rule <;> first | exact isViolated | cases isReason
        · exact fun isViolated => ⟨.riskPerTrade, rfl, isViolated⟩
      rw [evaluate_rejected_iff decided free ready, reason, violated, not_not,
        or_iff_right free, or_iff_right (not_not_intro ⟨found, ready⟩)]

theorem sized_within_risk_exact :
    WithinLimit 1000 (Binary64.toDecimal (1 / 64)).exactly (1 / 64) := by
  have judged : judgedAt (1 / 64) = .ok (.ok (.approved, [.ok])) := by decide +kernel
  have funded : (portfolioOf (.ofInt 1000)).equity = .ok (.ofInt 1000) := by decide +kernel
  have thousand : Decimal.exactly (.ofInt 1000) = 1000 := by decide +kernel
  obtain ⟨request, sized, evaluated⟩ := ok_of_map judged
  obtain ⟨decision, decided, outcome⟩ := ok_of_map evaluated
  obtain ⟨approved, _⟩ := Prod.mk.inj outcome
  obtain ⟨free, found, ready, _⟩ := (evaluate_approved_iff decided).mp approved
  have notRejected :
      ¬ (decision.decision = .rejected ∧ .riskPerTradeExceeded ∈ decision.reasonCodes) := by
    rintro ⟨rejected, _⟩
    cases approved.symm.trans rejected
  have equity : (sizingAt (1 / 64)).equity.exactly = 1000 := thousand
  rcases (sized_within_risk_iff rfl sized rfl
    (fun snapshot known => Option.some.inj known ▸ funded) decided).mp notRejected with
    blocks | unready | within
  · exact absurd blocks free
  · exact absurd ⟨found, ready⟩ unready
  · rw [equity] at within
    exact within

/-- At `0.03` the text is above the binary value, and a trade is rejected at its own limit. -/
theorem sized_rejected_for_risk :
    ¬ ∀ (setting : Setting Decimal) (evaluation : Evaluation Decimal)
      (decision : RiskDecision Decimal) (intent : TradeIntent Decimal)
      (inputs : SizingInputs Decimal) (snapshot : PortfolioManager.PortfolioSnapshot Decimal),
      AcceptedProfile inputs.riskProfile → inputs.riskProfile.sizingMode = "fixed" →
      sizeIntent intent inputs = .ok evaluation.tradeRequest →
      evaluation.riskProfile = inputs.riskProfile →
      evaluation.portfolioSnapshot = some snapshot → snapshot.equity = .ok inputs.equity →
      evaluate setting evaluation = .ok decision →
      ¬ (decision.decision = .rejected ∧ .riskPerTradeExceeded ∈ decision.reasonCodes) := by
  intro never
  have judged : judgedAt threePercent = .ok (.ok (.rejected, [.riskPerTradeExceeded])) := by
    decide +kernel
  have funded : (portfolioOf (.ofInt 1000)).equity = .ok (.ofInt 1000) := by decide +kernel
  have accepted : AcceptedProfile (sizingAt threePercent).riskProfile := by
    constructor <;> decide +kernel
  obtain ⟨request, sized, evaluated⟩ := ok_of_map judged
  obtain ⟨decision, decided, outcome⟩ := ok_of_map evaluated
  obtain ⟨rejected, reasons⟩ := Prod.mk.inj outcome
  refine never unlimitedSetting (evaluationOn _ _ request) decision purchaseIntent
    (sizingAt threePercent) _ accepted rfl sized rfl rfl funded decided ⟨rejected, ?_⟩
  rw [reasons]
  exact List.mem_singleton_self _

end TurtleExecution.TradingSystem

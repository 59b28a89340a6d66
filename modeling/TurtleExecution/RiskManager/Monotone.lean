/-
More risk never helps.

A request with more risk, margin or leverage, a portfolio with more heat or less cash,
and further positions leave every violated rule violated.
-/

import TurtleExecution.RiskManager.Floats
import TurtleExecution.RiskManager.Rules

set_option autoImplicit false

namespace TurtleExecution.RiskManager

open ExchangeAdapter

section

variable {Number : Type} [LedgerArithmetic Number]

def Raised (number raised : Number) : Prop :=
  raised = number ∨ Arithmetic.le number raised = .ok true

/-- The operations of the rules, in the order of the numbers: what is raised stays raised. -/
class MonotoneArithmetic (Number : Type) [LedgerArithmetic Number] [FloatComparison Number] :
    Prop where
  add_raised {left left' right right' sum sum' : Number} :
    Raised left left' → Raised right right' → Arithmetic.add left right = .ok sum →
      Arithmetic.add left' right' = .ok sum' → Raised sum sum'
  div_raised {dividend dividend' divisor quotient quotient' : Number} :
    Raised dividend dividend' → Arithmetic.le divisor Arithmetic.zero = .ok false →
      Arithmetic.div dividend divisor = .ok quotient →
      Arithmetic.div dividend' divisor = .ok quotient' → Raised quotient quotient'
  exceeds_raised {number number' : Number} {limit : ℚ} :
    Raised number number' → FloatComparison.exceeds number limit = .ok true →
      FloatComparison.exceeds number' limit ≠ .ok false
  lt_raised {low low' high high' : Number} :
    Raised low' low → Raised high high' → Arithmetic.lt low high = .ok true →
      Arithmetic.lt low' high' ≠ .ok false

private theorem raised_rational {number raised : ℚ} : Raised number raised ↔ number ≤ raised := by
  constructor
  · rintro (rfl | above)
    · exact le_refl _
    · exact of_decide_eq_true (Except.ok.inj above)
  · exact fun above => Or.inr (congrArg Except.ok (decide_eq_true above))

instance : MonotoneArithmetic ℚ where
  add_raised := by
    intro left left' right right' sum sum' isLeft isRight added added'
    cases added
    cases added'
    rw [raised_rational] at isLeft isRight ⊢
    exact add_le_add isLeft isRight
  div_raised := by
    intro dividend dividend' divisor quotient quotient' isDividend positive divided divided'
    have above : 0 < divisor := not_le.mp (of_decide_eq_false (Except.ok.inj positive))
    change (if divisor = 0 then Except.error ArithmeticError.divisionByZero else _) = _
      at divided divided'
    rw [if_neg above.ne'] at divided divided'
    cases divided
    cases divided'
    rw [raised_rational] at isDividend ⊢
    exact div_le_div_of_nonneg_right isDividend above.le
  exceeds_raised := by
    intro number number' limit isNumber exceeds exceeds'
    have above : limit < number := of_decide_eq_true (Except.ok.inj exceeds)
    have notAbove : ¬ limit < number' := of_decide_eq_false (Except.ok.inj exceeds')
    exact notAbove (above.trans_le (raised_rational.mp isNumber))
  lt_raised := by
    intro low low' high high' isLow isHigh below below'
    have less : low < high := of_decide_eq_true (Except.ok.inj below)
    have notLess : ¬ low' < high' := of_decide_eq_false (Except.ok.inj below')
    exact notLess ((raised_rational.mp isLow).trans_lt (less.trans_le (raised_rational.mp isHigh)))

private theorem raised_decimal {number raised : Decimal} (isRaised : Raised number raised) :
    (number.extended = none ∧ raised = number) ∨
      ∃ low high, number.extended = some low ∧ raised.extended = some high ∧ low ≤ high := by
  rcases isRaised with rfl | above
  · cases known : raised.extended with
    | none => exact Or.inl ⟨rfl, rfl⟩
    | some value => exact Or.inr ⟨value, value, rfl, rfl, le_refl _⟩
  · obtain ⟨low, high, isLow, isHigh, above⟩ := Decimal.le_iff_values.mp above
    exact Or.inr ⟨low, high, isLow, isHigh, of_decide_eq_true above.symm⟩

theorem Raised.of_values {number raised : Decimal} {low high : WithBot (WithTop ℚ)}
    (isLow : number.extended = some low) (isHigh : raised.extended = some high) (above : low ≤ high) :
    Raised number raised :=
  Or.inr ((Decimal.le_of_values isLow isHigh).trans (congrArg Except.ok (decide_eq_true above)))

instance : MonotoneArithmetic Decimal where
  add_raised := by
    intro left left' right right' sum sum' isLeft isRight added added'
    rcases raised_decimal isLeft with ⟨isNaN, rfl⟩ | ⟨low, high, isLow, isHigh, above⟩
    · have sumNaN := Decimal.checkNaNs_of_nan (Or.inl isNaN) added
      have sumNaN' := Decimal.checkNaNs_of_nan (Or.inl isNaN) added'
      exact Or.inl (sumNaN'.trans sumNaN.symm)
    rcases raised_decimal isRight with ⟨isNaN, rfl⟩ | ⟨low', high', isLow', isHigh', above'⟩
    · have sumNaN := Decimal.checkNaNs_of_nan (Or.inr isNaN) added
      have sumNaN' := Decimal.checkNaNs_of_nan (Or.inr isNaN) added'
      exact Or.inl (sumNaN'.trans sumNaN.symm)
    refine .of_values (Decimal.extended_add isLow isLow' added)
      (Decimal.extended_add isHigh isHigh' added') ?_
    exact Decimal.nearestExtended_mono (add_le_add above above')
  div_raised := by
    intro dividend dividend' divisor quotient quotient' isDividend positive divided divided'
    rcases raised_decimal isDividend with ⟨isNaN, rfl⟩ | ⟨low, high, isLow, isHigh, above⟩
    · have quotientNaN := Decimal.checkNaNs_of_nan (Or.inl isNaN) divided
      have quotientNaN' := Decimal.checkNaNs_of_nan (Or.inl isNaN) divided'
      exact Or.inl (quotientNaN'.trans quotientNaN.symm)
    obtain ⟨value, zero, isValue, isZero, notAbove⟩ := Decimal.le_iff_values.mp positive
    cases Decimal.extended_zero.symm.trans isZero
    have isPositive := not_le.mp (of_decide_eq_false notAbove.symm)
    refine .of_values (Decimal.extended_div isLow isValue isPositive divided)
      (Decimal.extended_div isHigh isValue isPositive divided') ?_
    exact Decimal.quotientExtended_mono isPositive above
  exceeds_raised := by
    intro number number' limit isNumber exceeds exceeds'
    obtain ⟨known, isKnown, above⟩ := Decimal.exceeds_eq_true_iff.mp exceeds
    rcases raised_decimal isNumber with ⟨isNaN, rfl⟩ | ⟨low, high, isLow, isHigh, below⟩
    · rw [isKnown] at isNaN
      cases isNaN
    · have same := isLow.symm.trans isKnown
      cases same
      have stillExceeds := Decimal.exceeds_eq_true_iff.mpr ⟨high, isHigh, above.trans_le below⟩
      have both := stillExceeds.symm.trans exceeds'
      cases both
  lt_raised := by
    intro low low' high high' isLow isHigh below below'
    obtain ⟨lowValue, highValue, lowKnown, highKnown, less⟩ := Decimal.lt_iff_values.mp below
    obtain ⟨lowValue', highValue', lowKnown', highKnown', notLess⟩ := Decimal.lt_iff_values.mp below'
    have lows : lowValue' ≤ lowValue := by
      rcases raised_decimal isLow with ⟨isNaN, _⟩ | ⟨first, second, isFirst, isSecond, above⟩
      · rw [lowKnown'] at isNaN
        cases isNaN
      · cases isFirst.symm.trans lowKnown'
        cases isSecond.symm.trans lowKnown
        exact above
    have highs : highValue ≤ highValue' := by
      rcases raised_decimal isHigh with ⟨isNaN, _⟩ | ⟨first, second, isFirst, isSecond, above⟩
      · rw [highKnown] at isNaN
        cases isNaN
      · cases isFirst.symm.trans highKnown
        cases isSecond.symm.trans highKnown'
        exact above
    exact of_decide_eq_false notLess.symm
      (lows.trans_lt ((of_decide_eq_true less.symm).trans_le highs))

structure RiskierRequest (request riskier : TradeRequest Number) : Prop where
  risk : Raised request.proposedRiskAmount riskier.proposedRiskAmount
  margin : Raised request.proposedMarginRequired riskier.proposedMarginRequired
  leverage : Raised request.leverage riskier.leverage
  rest : { riskier with
    proposedRiskAmount := request.proposedRiskAmount
    proposedMarginRequired := request.proposedMarginRequired
    leverage := request.leverage } = request

structure RiskierPortfolio (snapshot riskier : PortfolioManager.PortfolioSnapshot Number) : Prop where
  heat : Raised snapshot.heat riskier.heat
  cash : Raised riskier.availableCash snapshot.availableCash
  rest : { riskier with
    heat := snapshot.heat
    availableCash := snapshot.availableCash } = snapshot

/-- The same evaluation, of a riskier request, on a riskier portfolio or with further positions. -/
structure Riskier (evaluation riskier : Evaluation Number) : Prop where
  request : RiskierRequest evaluation.tradeRequest riskier.tradeRequest
  portfolio : Option.Rel RiskierPortfolio evaluation.portfolioSnapshot riskier.portfolioSnapshot
  positions : Option.Rel List.Sublist evaluation.openPositions riskier.openPositions
  rest : { riskier with
    tradeRequest := evaluation.tradeRequest
    portfolioSnapshot := evaluation.portfolioSnapshot
    openPositions := evaluation.openPositions } = evaluation

variable {request riskierRequest : TradeRequest Number}
  {snapshot riskierSnapshot : PortfolioManager.PortfolioSnapshot Number}

theorem RiskierPortfolio.equity (riskier : RiskierPortfolio snapshot riskierSnapshot) :
    riskierSnapshot.equity = snapshot.equity := by
  rw [← riskier.rest]
  rfl

theorem RiskierPortfolio.nonPositiveEquity (riskier : RiskierPortfolio snapshot riskierSnapshot) :
    nonPositiveEquity (some riskierSnapshot) = nonPositiveEquity (some snapshot) := by
  rw [← riskier.rest]
  rfl

theorem RiskierPortfolio.updatedAt (setting : Setting Number)
    (riskier : RiskierPortfolio snapshot riskierSnapshot) :
    setting.portfolioUpdatedAt riskierSnapshot = setting.portfolioUpdatedAt snapshot := by
  rw [← riskier.rest]
  rfl

theorem RiskierRequest.same (riskier : RiskierRequest request riskierRequest) :
    riskierRequest.side = request.side ∧ riskierRequest.entryPrice = request.entryPrice ∧
      riskierRequest.stopPrice = request.stopPrice ∧
      riskierRequest.estimatedLiquidationPrice = request.estimatedLiquidationPrice := by
  rw [← riskier.rest]
  exact ⟨rfl, rfl, rfl, rfl⟩

theorem RiskierRequest.supported (riskier : RiskierRequest request riskierRequest)
    (capabilities : ExchangeCapabilities) :
    Supports capabilities riskierRequest ↔ Supports capabilities request := by
  rw [← riskier.rest]
  exact Iff.rfl

structure RiskierInputs (inputs riskier : Inputs Number) : Prop where
  portfolio : RiskierPortfolio inputs.portfolioSnapshot riskier.portfolioSnapshot
  positions : inputs.openPositions.Sublist riskier.openPositions
  capabilities : riskier.capabilities = inputs.capabilities
  fundingInfo : riskier.fundingInfo = inputs.fundingInfo
  correlationInfo : riskier.correlationInfo = inputs.correlationInfo

variable {setting : Setting Number} {evaluation riskier : Evaluation Number}
  {inputs riskierInputs : Inputs Number}

theorem Riskier.same (raises : Riskier evaluation riskier) :
    riskier.riskProfile = evaluation.riskProfile ∧
      riskier.evaluatedAtUtc = evaluation.evaluatedAtUtc ∧
      riskier.killSwitchState = evaluation.killSwitchState ∧
      riskier.capabilities = evaluation.capabilities ∧
      riskier.fundingInfo = evaluation.fundingInfo ∧
      riskier.correlationInfo = evaluation.correlationInfo := by
  rw [← raises.rest]
  exact ⟨rfl, rfl, rfl, rfl, rfl, rfl⟩

theorem Riskier.of_inputs (raises : Riskier evaluation riskier)
    (known : inputs? riskier = some riskierInputs) :
    ∃ inputs, inputs? evaluation = some inputs ∧ RiskierInputs inputs riskierInputs := by
  obtain ⟨_, _, _, sameCapabilities, sameFunding, sameCorrelation⟩ := raises.same
  have portfolio := raises.portfolio
  have positions := raises.positions
  obtain ⟨isPortfolio, arePositions, areCapabilities, isFunding, isCorrelation⟩ :=
    fields_of_inputs known
  unfold inputs?
  rw [isPortfolio] at portfolio
  rw [arePositions] at positions
  rw [← sameCapabilities, ← sameFunding, ← sameCorrelation, areCapabilities, isFunding,
    isCorrelation]
  generalize evaluation.portfolioSnapshot = snapshot? at portfolio ⊢
  generalize evaluation.openPositions = positions? at positions ⊢
  cases portfolio with
  | some portfolio =>
      cases positions with
      | some positions =>
          exact ⟨_, rfl,
            { portfolio
              positions
              capabilities := rfl
              fundingInfo := rfl
              correlationInfo := rfl }⟩

theorem Riskier.timestamps (raises : Riskier evaluation riskier) {pair : Label × String}
    (checked : pair ∈ timestampsToCheck setting evaluation) :
    pair ∈ timestampsToCheck setting riskier := by
  obtain ⟨_, _, _, _, sameFunding, sameCorrelation⟩ := raises.same
  have portfolio := raises.portfolio
  have positions := raises.positions
  unfold timestampsToCheck at checked ⊢
  rw [sameFunding, sameCorrelation]
  simp only [List.mem_append] at checked ⊢
  refine Or.imp_left (Or.imp_left (Or.imp ?_ ?_)) checked
  · generalize evaluation.portfolioSnapshot = snapshot? at portfolio
    generalize riskier.portfolioSnapshot = riskierSnapshot? at portfolio
    cases portfolio with
    | none => exact id
    | some portfolio =>
        intro checkedHere
        rw [List.mem_singleton.mp checkedHere]
        exact List.mem_singleton.mpr (congrArg (Prod.mk _) (portfolio.updatedAt setting).symm)
  · generalize evaluation.openPositions = positions? at positions
    generalize riskier.openPositions = riskierPositions? at positions
    cases positions with
    | none => exact id
    | some sublist => exact fun checkedHere => (sublist.map _).subset checkedHere

variable [FloatComparison Number] [MonotoneArithmetic Number]

omit [FloatComparison Number] [MonotoneArithmetic Number] in
theorem Riskier.ready (raises : Riskier evaluation riskier)
    (ready : Ready setting riskier riskierInputs) :
    ∃ inputs, Ready setting evaluation inputs ∧ RiskierInputs inputs riskierInputs := by
  obtain ⟨inputs, inputsKnown, riskierInputs⟩ := raises.of_inputs ready.inputsKnown
  obtain ⟨_, sameTime, sameState, _⟩ := raises.same
  refine ⟨inputs, ?_, riskierInputs⟩
  constructor
  · rw [← sameState]
    exact ready.stateKnown
  · exact inputsKnown
  · rw [← raises.request.same.2.2.2]
    exact ready.liquidationKnown
  · intro pair checked
    rw [← sameTime]
    exact ready.fresh pair (raises.timestamps checked)
  · have solvent := ready.solvent
    have portfolio := raises.portfolio
    generalize evaluation.portfolioSnapshot = snapshot? at portfolio ⊢
    generalize riskier.portfolioSnapshot = riskierSnapshot? at portfolio solvent
    cases portfolio with
    | none => rfl
    | some portfolio => exact portfolio.nonPositiveEquity.symm.trans solvent

theorem Rule.stays_violated (raises : Riskier evaluation riskier)
    (riskierInputs_ : RiskierInputs inputs riskierInputs)
    (solvent : ∀ equity, inputs.portfolioSnapshot.equity = .ok equity →
      Arithmetic.le equity Arithmetic.zero = .ok false) (rule : Rule)
    (violated : rule.isViolated setting evaluation inputs = .ok true) :
    rule.isViolated setting riskier riskierInputs ≠ .ok false := by
  intro obeyed
  obtain ⟨sameProfile, _⟩ := raises.same
  obtain ⟨sameSide, sameEntry, sameStop, sameLiquidation⟩ := raises.request.same
  have contribution_raised : ∀ {contribution contribution' : Number},
      heatContribution evaluation.tradeRequest inputs.portfolioSnapshot = .ok contribution →
      heatContribution riskier.tradeRequest riskierInputs.portfolioSnapshot = .ok contribution' →
      Raised contribution contribution' := by
    intro contribution contribution' computed computed'
    obtain ⟨equity, isEquity, divided⟩ := ok_of_bind computed
    obtain ⟨equity', isEquity', divided'⟩ := ok_of_bind computed'
    rw [riskierInputs_.portfolio.equity, isEquity] at isEquity'
    cases isEquity'
    exact MonotoneArithmetic.div_raised raises.request.risk (solvent equity isEquity) divided divided'
  cases rule with
  | riskPerTrade =>
      obtain ⟨contribution, isContribution, exceeds⟩ := ok_of_bind violated
      obtain ⟨contribution', isContribution', below⟩ := ok_of_bind obeyed
      rw [sameProfile] at below
      exact MonotoneArithmetic.exceeds_raised (contribution_raised isContribution isContribution')
        exceeds below
  | portfolioHeat =>
      obtain ⟨contribution, isContribution, exceeds⟩ := ok_of_bind violated
      obtain ⟨contribution', isContribution', below⟩ := ok_of_bind obeyed
      obtain ⟨heat, isHeat, exceeds⟩ := ok_of_bind exceeds
      obtain ⟨heat', isHeat', below⟩ := ok_of_bind below
      rw [sameProfile] at below
      refine MonotoneArithmetic.exceeds_raised ?_ exceeds below
      exact MonotoneArithmetic.add_raised riskierInputs_.portfolio.heat
        (contribution_raised isContribution isContribution') isHeat isHeat'
  | maxPositions =>
      have full := of_decide_eq_true (Except.ok.inj violated)
      have notFull := of_decide_eq_false (Except.ok.inj obeyed)
      have longer := riskierInputs_.positions.length_le
      rw [sameProfile] at notFull
      omega
  | availableMargin =>
      exact MonotoneArithmetic.lt_raised riskierInputs_.portfolio.cash raises.request.margin
        violated obeyed
  | leverage =>
      exact MonotoneArithmetic.lt_raised (Or.inl rfl) raises.request.leverage violated obeyed
  | liquidation =>
      have same : Rule.liquidation.isViolated setting riskier riskierInputs =
          Rule.liquidation.isViolated setting evaluation inputs := by
        unfold Rule.isViolated behindStop requiredBuffer
        rw [sameSide, sameEntry, sameStop, sameLiquidation]
      rw [same, violated] at obeyed
      cases obeyed
  | fundingRate =>
      have same : Rule.fundingRate.isViolated setting riskier riskierInputs =
          Rule.fundingRate.isViolated setting evaluation inputs := by
        unfold Rule.isViolated
        rw [sameSide, riskierInputs_.fundingInfo]
      rw [same, violated] at obeyed
      cases obeyed
  | correlation =>
      have same : Rule.correlation.isViolated setting riskier riskierInputs =
          Rule.correlation.isViolated setting evaluation inputs := by
        unfold Rule.isViolated
        rw [riskierInputs_.correlationInfo]
      rw [same, violated] at obeyed
      cases obeyed
  | capability =>
      have same : Rule.capability.isViolated setting riskier riskierInputs =
          Rule.capability.isViolated setting evaluation inputs := by
        unfold Rule.isViolated
        rw [riskierInputs_.capabilities]
        exact congrArg Except.ok (decide_eq_decide.mpr (not_congr (raises.request.supported _)))
      rw [same, violated] at obeyed
      cases obeyed

omit [FloatComparison Number] [MonotoneArithmetic Number] in
theorem Ready.equity_positive (ready : Ready setting evaluation inputs) {equity : Number}
    (isEquity : inputs.portfolioSnapshot.equity = .ok equity) :
    Arithmetic.le equity Arithmetic.zero = .ok false := by
  have solvent := ready.solvent
  rw [(fields_of_inputs ready.inputsKnown).1] at solvent
  obtain ⟨known, isKnown, compared⟩ := ok_of_bind solvent
  cases isEquity.symm.trans (ok_of_mapError isKnown)
  exact ok_of_mapError compared

private theorem evaluate_riskier {decision riskierDecision : RiskDecision Number}
    (raises : Riskier evaluation riskier) (decided : evaluate setting evaluation = .ok decision)
    (riskierDecided : evaluate setting riskier = .ok riskierDecision)
    (refused : decision.decision ≠ .approved) : riskierDecision.decision ≠ .approved := by
  intro approved
  obtain ⟨free, riskierInputs, riskierReady, obeyed⟩ :=
    (evaluate_approved_iff riskierDecided).mp approved
  obtain ⟨inputs, ready, riskierInputs_⟩ := raises.ready riskierReady
  have stillFree : ¬ Blocks evaluation := by
    rintro ⟨state, isState, blocks⟩
    exact free ⟨state, raises.same.2.2.1.trans isState, blocks⟩
  refine refused ((evaluate_approved_iff decided).mpr ⟨stillFree, inputs, ready, fun rule => ?_⟩)
  cases evaluate_decided decided with
  | blocked blocks => exact absurd blocks stillFree
  | failSafe _ unready => exact absurd ⟨inputs, ready⟩ unready
  | @ruled found violations figures _ known computed =>
      cases ready.inputs_unique known
      obtain ⟨isViolated, outcome⟩ := (businessRules_ok computed).1.rules rule
      cases isViolated with
      | false => exact outcome
      | true =>
          exact absurd (obeyed rule) (rule.stays_violated raises riskierInputs_
            (fun _ => ready.equity_positive) outcome)

omit [MonotoneArithmetic Number]

structure WellFormed (setting : Setting Number) (evaluation : Evaluation Number) : Prop where
  profile : checkProfile evaluation.riskProfile = .ok ()
  evaluatedAt : checkEvaluatedAt evaluation.evaluatedAtUtc = .ok ()
  timestamps : ∀ pair ∈ timestampsToCheck setting evaluation, ∃ age,
    ageMicros setting.utc evaluation.evaluatedAtUtc pair.2 = .ok age

omit [LedgerArithmetic Number] [FloatComparison Number] in
private theorem staleData_returns {evaluatedAtUtc : String} {pairs : List (Label × String)}
    (parse : ∀ pair ∈ pairs, ∃ age, ageMicros setting.utc evaluatedAtUtc pair.2 = .ok age) :
    ∃ stale, staleData setting evaluatedAtUtc pairs = .ok stale := by
  induction pairs with
  | nil => exact ⟨[], rfl⟩
  | cons pair pairs ih =>
      obtain ⟨age, aged⟩ := parse pair List.mem_cons_self
      obtain ⟨stale, computed⟩ := ih fun other member => parse other (List.mem_cons_of_mem _ member)
      exact ⟨_, (bind_of_ok aged).trans (bind_of_ok computed)⟩

/-- A well-formed evaluation returns a decision exactly if a state blocks, or the equity can be
compared and, on ready data, every number can be calculated. -/
theorem WellFormed.returns_iff (wellFormed : WellFormed setting evaluation) :
    (∃ decision, evaluate setting evaluation = .ok decision) ↔
      Blocks evaluation ∨ ((∃ isBroke, nonPositiveEquity evaluation.portfolioSnapshot = .ok isBroke) ∧
        ∀ inputs, Ready setting evaluation inputs → Calculable setting evaluation inputs) := by
  have begins : evaluate setting evaluation = _ :=
    (bind_of_ok wellFormed.profile).trans (bind_of_ok wellFormed.evaluatedAt)
  rw [begins]
  split
  · rename_i state reason found
    obtain ⟨known, isState, isReason⟩ := Option.bind_eq_some_iff.mp found
    obtain ⟨_, blocks, _⟩ := Option.map_eq_some_iff.mp isReason
    exact iff_of_true ⟨_, rfl⟩ (.inl ⟨known, isState, by rw [blocks]; rfl⟩)
  · rename_i notBlocked
    have free : ¬ Blocks evaluation := not_blocks notBlocked
    obtain ⟨stale, isStale⟩ := staleData_returns wellFormed.timestamps
    rw [or_iff_right free]
    constructor
    · rintro ⟨decision, decided⟩
      obtain ⟨problems, computed, decided⟩ := ok_of_bind decided
      obtain ⟨_, _, broke⟩ := ok_of_bind computed
      obtain ⟨isBroke, compared, _⟩ := ok_of_bind broke
      refine ⟨⟨isBroke, compared⟩, fun inputs ready => ?_⟩
      cases (dataProblems_nil computed).mpr ⟨inputs, ready⟩
      rw [ready.inputsKnown] at decided
      obtain ⟨⟨violations, figures⟩, ruled, _⟩ := ok_of_bind decided
      exact (businessRules_ok (ok_of_mapError ruled)).1
    · rintro ⟨⟨isBroke, compared⟩, calculable⟩
      obtain ⟨problems, computed⟩ : ∃ problems, dataProblems setting evaluation = .ok problems :=
        ⟨_, (bind_of_ok isStale).trans (bind_of_ok compared)⟩
      unfold verified
      rw [bind_of_ok computed]
      split
      · rename_i inputs known
        obtain ⟨found, ready⟩ := (dataProblems_nil computed).mp rfl
        cases ready.inputsKnown.symm.trans known
        obtain ⟨⟨violations, figures⟩, ruled⟩ :=
          (calculable inputs ready).businessRules_returns ready.liquidationKnown
        refine ⟨ruledDecision evaluation violations figures, ?_⟩
        rw [ruled]
        rfl
      · exact ⟨_, rfl⟩

omit [LedgerArithmetic Number] [FloatComparison Number] in
private theorem error_of_bind {Error Value Next : Type} {result : Except Error Value}
    {next : Value → Except Error Next} {error : Error} (raises : (result >>= next) = .error error) :
    result = .error error ∨ ∃ value, result = .ok value ∧ next value = .error error := by
  cases result with
  | error known =>
      cases raises
      exact Or.inl rfl
  | ok value => exact Or.inr ⟨value, rfl, raises⟩

variable {error : EvaluationError}

omit [LedgerArithmetic Number] [FloatComparison Number] in
private theorem compute_error {Value : Type} {result : Except ArithmeticError Value}
    (raises : compute result = .error error) : ∃ signal, error = .arithmetic signal := by
  cases result with
  | error signal =>
      cases raises
      exact ⟨signal, rfl⟩
  | ok value => cases raises

omit [FloatComparison Number] in
private theorem nonPositiveEquity_error
    {snapshot : Option (PortfolioManager.PortfolioSnapshot Number)}
    (raises : nonPositiveEquity snapshot = .error error) :
    ∃ signal, error = .arithmetic signal := by
  cases snapshot with
  | none => cases raises
  | some snapshot =>
      rcases error_of_bind raises with raises | ⟨equity, _, raises⟩
      · exact compute_error raises
      · exact compute_error raises

theorem WellFormed.raises (wellFormed : WellFormed setting evaluation)
    (raises : evaluate setting evaluation = .error error) :
    ∃ signal, error = .arithmetic signal := by
  have begins : evaluate setting evaluation = _ :=
    (bind_of_ok wellFormed.profile).trans (bind_of_ok wellFormed.evaluatedAt)
  rw [begins] at raises
  split at raises
  · cases raises
  rcases error_of_bind raises with raises | ⟨problems, _, raises⟩
  · obtain ⟨stale, isStale⟩ := staleData_returns wellFormed.timestamps
    rcases error_of_bind raises with raises | ⟨_, _, raises⟩
    · rw [isStale] at raises
      cases raises
    rcases error_of_bind raises with raises | ⟨broke, _, raises⟩
    · exact nonPositiveEquity_error raises
    · cases raises
  · split at raises
    · rcases error_of_bind raises with raises | ⟨ruled, _, raises⟩
      · exact compute_error raises
      · cases raises
    · cases raises

end

def startOfTime : String := UtcTexts.marks.isoformat 0

def unlimitedSetting : Setting Decimal :=
  { limits :=
      { maxLeverage := .ofInt 10
        minLiquidationBufferPct := .ofInt 0
        maxFundingRateAbs := .ofInt 1
        maxCorrelatedPositions := 1
        maxStaleDataSeconds := 60 }
    utc := UtcTexts.marks
    portfolioSinceUtc := startOfTime }

def portfolioOf (deposited : Decimal) : PortfolioManager.PortfolioSnapshot Decimal :=
  { availableCash := deposited
    reservedMargin := .zero
    usedMargin := .zero
    unrealizedPnl := .zero
    realizedPnlCumulative := .zero
    fundingCumulative := .zero
    feesCumulative := .zero
    depositsCumulative := deposited
    withdrawalsCumulative := .zero
    exposure := .zero
    heat := .zero
    openPositionIds := []
    updatedAtUtc := some startOfTime }

def evaluationOn (deposited : Decimal) (riskProfile : RiskProfileParams)
    (tradeRequest : TradeRequest Decimal) : Evaluation Decimal :=
  { tradeRequest
    riskProfile
    evaluatedAtUtc := startOfTime
    killSwitchState := some .ready
    portfolioSnapshot := some (portfolioOf deposited)
    openPositions := some []
    capabilities := some
      { supportsReduceOnly := true
        supportsPostOnly := true
        supportsIoc := true
        supportsFok := true
        supportsMarketOrders := true
        supportsLimitOrders := true }
    fundingInfo := some
      { symbol := tradeRequest.symbol
        fundingRate := .zero
        asOfUtc := startOfTime }
    correlationInfo := some { entries := [], asOfUtc := startOfTime } }

def cautiousProfile : RiskProfileParams :=
  { riskPctPerTrade := 1 / 64
    maxPositions := 1
    sizingMode := "fixed"
    heatCap := 1 / 8 }

def purchaseRisking (amount : Decimal) : Evaluation Decimal :=
  evaluationOn (.ofInt 1000) cautiousProfile
    { symbol := btc
      side := .buy
      orderType := .limit
      timeInForce := .gtc
      reduceOnly := false
      quantity := .ofInt 1
      entryPrice := .ofInt 100
      stopPrice := .ofInt 90
      proposedRiskAmount := amount
      proposedNotional := .ofInt 100
      proposedMarginRequired := .ofInt 50
      leverage := .ofInt 2
      estimatedLiquidationPrice := some (.ofInt 51) }

private theorem purchaseRisking_wellFormed (amount : Decimal) :
    WellFormed unlimitedSetting (purchaseRisking amount) := by
  constructor
  · change checkProfile cautiousProfile = .ok ()
    decide +kernel
  · change checkEvaluatedAt startOfTime = .ok ()
    decide
  · have fresh : ∀ pair ∈ timestampsToCheck unlimitedSetting (purchaseRisking amount),
        pair.2 = startOfTime := by
      intro pair member
      rcases List.mem_cons.mp member with rfl | member
      · rfl
      rcases List.mem_cons.mp member with rfl | member
      · rfl
      rw [List.mem_singleton.mp member]
    intro pair member
    rw [fresh pair member]
    have age : ageMicros UtcTexts.marks startOfTime startOfTime = .ok 0 := by decide
    exact ⟨0, age⟩

/-- An evaluation returns a decision unless a number cannot be calculated, and decides exactly
its rules. -/
theorem evaluate_decides_rules {setting : Setting Decimal} {evaluation : Evaluation Decimal}
    (wellFormed : WellFormed setting evaluation) :
    ((∃ decision, evaluate setting evaluation = .ok decision) ↔ Blocks evaluation ∨
      ((∃ isBroke, nonPositiveEquity evaluation.portfolioSnapshot = .ok isBroke) ∧
        ∀ inputs, Ready setting evaluation inputs → Calculable setting evaluation inputs)) ∧
    (∀ error, evaluate setting evaluation = .error error → ∃ signal, error = .arithmetic signal) ∧
    ∀ decision, evaluate setting evaluation = .ok decision →
      (decision.decision = .approved ↔
        ¬ Blocks evaluation ∧ ∃ inputs, Ready setting evaluation inputs ∧
          ∀ rule : Rule, rule.isViolated setting evaluation inputs = .ok false) ∧
      (¬ Blocks evaluation → ∀ inputs, Ready setting evaluation inputs → ∀ reason,
        (decision.decision = .rejected ∧ reason ∈ decision.reasonCodes ↔
          ∃ rule : Rule, rule.reason = reason ∧
            rule.isViolated setting evaluation inputs = .ok true)) ∧
      ∀ riskier riskierDecision, Riskier evaluation riskier →
        evaluate setting riskier = .ok riskierDecision →
        decision.decision ≠ .approved → riskierDecision.decision ≠ .approved := by
  refine ⟨wellFormed.returns_iff, fun error => wellFormed.raises,
    fun decision decided => ⟨?_, ?_, ?_⟩⟩
  · exact evaluate_approved_iff decided
  · exact fun free inputs ready reason => evaluate_rejected_iff decided free ready reason
  · exact fun riskier riskierDecision raises riskierDecided =>
      evaluate_riskier raises decided riskierDecided

theorem evaluate_decides_rules_purchase :
    (∃ inputs, Ready unlimitedSetting (purchaseRisking (.ofInt 10)) inputs ∧
      Calculable unlimitedSetting (purchaseRisking (.ofInt 10)) inputs ∧
      ∀ rule : Rule, rule.isViolated unlimitedSetting (purchaseRisking (.ofInt 10)) inputs =
        .ok false) ∧
    ∀ riskier riskierDecision, Riskier (purchaseRisking (.ofInt 20)) riskier →
      evaluate unlimitedSetting riskier = .ok riskierDecision →
      riskierDecision.decision ≠ .approved := by
  have decisions :
      (evaluate unlimitedSetting (purchaseRisking (.ofInt 10))).map RiskDecision.decision =
        .ok .approved ∧
      (evaluate unlimitedSetting (purchaseRisking (.ofInt 20))).map RiskDecision.decision =
        .ok .rejected := by
    decide +kernel
  obtain ⟨approval, approves, isApproved⟩ := ok_of_map decisions.1
  obtain ⟨rejection, rejects, isRejected⟩ := ok_of_map decisions.2
  constructor
  · have decided := evaluate_decides_rules (purchaseRisking_wellFormed (.ofInt 10))
    obtain ⟨free, inputs, ready, obeyed⟩ := (decided.2.2 approval approves).1.mp isApproved
    have calculable := (decided.1.mp ⟨approval, approves⟩).resolve_left free
    exact ⟨inputs, ready, calculable.2 inputs ready, obeyed⟩
  · have decided := (evaluate_decides_rules (purchaseRisking_wellFormed (.ofInt 20))).2.2
    intro riskier riskierDecision raises riskierDecided
    refine (decided rejection rejects).2.2 riskier riskierDecision raises riskierDecided ?_
    rw [isRejected]
    decide

end TurtleExecution.RiskManager

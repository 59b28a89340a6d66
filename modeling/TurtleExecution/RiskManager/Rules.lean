/-
What a decision says about the rules.

A rule is violated by the inputs or it is not, each on its own; the decision on data
that is complete and fresh approves exactly when none is, and otherwise rejects for
exactly the violated ones.
-/

import TurtleExecution.RiskManager.Freshness

set_option autoImplicit false

namespace TurtleExecution.RiskManager

open ExchangeAdapter

inductive Rule
  | riskPerTrade
  | portfolioHeat
  | maxPositions
  | availableMargin
  | leverage
  | liquidation
  | fundingRate
  | correlation
  | capability
  deriving DecidableEq, Repr

def Rule.reason : Rule → ReasonCode
  | riskPerTrade => .riskPerTradeExceeded
  | portfolioHeat => .portfolioHeatExceeded
  | maxPositions => .maxPositionsExceeded
  | availableMargin => .insufficientMargin
  | leverage => .leverageExceeded
  | liquidation => .liquidationTooClose
  | fundingRate => .fundingRateTooHigh
  | correlation => .correlationLimitExceeded
  | capability => .exchangeCapabilityUnsupported

section

variable {Number : Type} [LedgerArithmetic Number] [FloatComparison Number]

def heatContribution (request : TradeRequest Number)
    (snapshot : PortfolioManager.PortfolioSnapshot Number) : Except ArithmeticError Number := do
  let equity ← snapshot.equity
  Arithmetic.div request.proposedRiskAmount equity

def requiredBuffer (limits : RiskManagerLimits Number) (request : TradeRequest Number) :
    Except ArithmeticError Number := do
  let difference ← Arithmetic.sub request.entryPrice request.stopPrice
  let stopDistance ← LedgerArithmetic.abs difference
  Arithmetic.mul limits.minLiquidationBufferPct stopDistance

/-- What the exchange supports covers the type, the direction class and the time in force of the
request. -/
def Supports (capabilities : ExchangeCapabilities) (request : TradeRequest Number) : Prop :=
  (match request.orderType with
    | .market => capabilities.supportsMarketOrders
    | .limit => capabilities.supportsLimitOrders) = true ∧
  (request.reduceOnly = true → capabilities.supportsReduceOnly = true) ∧
  (match request.timeInForce with
    | .gtc => true
    | .ioc => capabilities.supportsIoc
    | .fok => capabilities.supportsFok
    | .postOnly => capabilities.supportsPostOnly) = true

instance (capabilities : ExchangeCapabilities) (request : TradeRequest Number) :
    Decidable (Supports capabilities request) :=
  inferInstanceAs (Decidable (_ ∧ _ ∧ _))

/-- How far the liquidation price lies behind the stop, as the side sees it. -/
def behindStop (request : TradeRequest Number) (liquidationPrice : Number) :
    Except ArithmeticError Number :=
  match request.side with
  | .buy => Arithmetic.sub request.stopPrice liquidationPrice
  | .sell => Arithmetic.sub liquidationPrice request.stopPrice

def isCorrelated (entry : CorrelationEntry Number) : Except ArithmeticError Bool := do
  let magnitude ← LedgerArithmetic.abs entry.correlation
  Arithmetic.le (FloatComparison.ofFloat correlationThreshold) magnitude

def Rule.isViolated (setting : Setting Number) (evaluation : Evaluation Number)
    (inputs : Inputs Number) : Rule → Except ArithmeticError Bool
  | riskPerTrade => do
      let contribution ← heatContribution evaluation.tradeRequest inputs.portfolioSnapshot
      FloatComparison.exceeds contribution evaluation.riskProfile.riskPctPerTrade
  | portfolioHeat => do
      let contribution ← heatContribution evaluation.tradeRequest inputs.portfolioSnapshot
      let heat ← Arithmetic.add inputs.portfolioSnapshot.heat contribution
      FloatComparison.exceeds heat evaluation.riskProfile.heatCap
  | maxPositions =>
      .ok (decide (evaluation.riskProfile.maxPositions ≤ inputs.openPositions.length))
  | availableMargin =>
      Arithmetic.lt inputs.portfolioSnapshot.availableCash
        evaluation.tradeRequest.proposedMarginRequired
  | leverage => Arithmetic.lt setting.limits.maxLeverage evaluation.tradeRequest.leverage
  | liquidation =>
      match evaluation.tradeRequest.estimatedLiquidationPrice with
      | none => .ok true
      | some liquidationPrice => do
          let distance ← behindStop evaluation.tradeRequest liquidationPrice
          let required ← requiredBuffer setting.limits evaluation.tradeRequest
          Arithmetic.lt distance required
  | fundingRate =>
      match evaluation.tradeRequest.side with
      | .buy => Arithmetic.lt setting.limits.maxFundingRateAbs inputs.fundingInfo.fundingRate
      | .sell => do
          let paid ← Arithmetic.sub Arithmetic.zero inputs.fundingInfo.fundingRate
          Arithmetic.lt setting.limits.maxFundingRateAbs paid
  | correlation => do
      let marks ← inputs.correlationInfo.entries.mapM isCorrelated
      return decide (setting.limits.maxCorrelatedPositions < marks.count true)
  | capability => .ok (decide (¬ Supports inputs.capabilities evaluation.tradeRequest))

structure Ready (setting : Setting Number) (evaluation : Evaluation Number)
    (inputs : Inputs Number) : Prop where
  stateKnown : evaluation.killSwitchState.isSome
  inputsKnown : inputs? evaluation = some inputs
  liquidationKnown : evaluation.tradeRequest.estimatedLiquidationPrice.isSome
  fresh : ∀ pair ∈ timestampsToCheck setting evaluation, ∃ age,
    ageMicros setting.utc evaluation.evaluatedAtUtc pair.2 = .ok age ∧
      isStale setting.limits age = false
  solvent : nonPositiveEquity evaluation.portfolioSnapshot = .ok false

variable {setting : Setting Number} {evaluation : Evaluation Number} {inputs : Inputs Number}

def Rule.all : List Rule :=
  [.riskPerTrade, .portfolioHeat, .maxPositions, .availableMargin, .leverage, .liquidation,
    .fundingRate, .correlation, .capability]

theorem Rule.mem_all (rule : Rule) : rule ∈ Rule.all := by
  cases rule <;> decide

def violatedRules (setting : Setting Number) (evaluation : Evaluation Number)
    (inputs : Inputs Number) : List Rule :=
  Rule.all.filter fun rule => rule.isViolated setting evaluation inputs = .ok true

omit [LedgerArithmetic Number] [FloatComparison Number] in
private theorem map_fst_broken (isBroken : Bool) (reason : ReasonCode)
    (violation : Violation Number) :
    (broken isBroken reason violation).map Prod.fst = if isBroken then [reason] else [] := by
  cases isBroken <;> rfl

private theorem map_filter_cons {Item Value : Type} (keeps : Item → Bool) (change : Item → Value)
    (item : Item) (items : List Item) :
    ((item :: items).filter keeps).map change =
      (if keeps item then [change item] else []) ++ (items.filter keeps).map change := by
  cases kept : keeps item <;> simp [kept]

omit [LedgerArithmetic Number] [FloatComparison Number] in
private theorem capabilityViolation_isSome (request : TradeRequest Number)
    (capabilities : ExchangeCapabilities) :
    (capabilityViolation request capabilities).isSome =
      decide (¬ Supports capabilities request) := by
  obtain ⟨symbol, side, orderType, timeInForce, reduceOnly⟩ := request
  obtain ⟨reduces, postOnly, ioc, fok, markets, limits⟩ := capabilities
  rw [Bool.eq_iff_iff, decide_eq_true_eq]
  unfold capabilityViolation Supports
  cases orderType <;> cases timeInForce <;> cases reduceOnly <;> cases reduces <;>
    cases markets <;> cases limits <;> simp

private theorem correlatedCount_eq (entries : List (CorrelationEntry Number)) :
    correlatedCount entries = (entries.mapM isCorrelated).map fun marks => marks.count true := by
  induction entries with
  | nil => rfl
  | cons entry entries ih =>
      rw [List.mapM_cons]
      unfold correlatedCount isCorrelated
      rw [ih]
      cases LedgerArithmetic.abs entry.correlation with
      | error error => rfl
      | ok magnitude =>
          change (Arithmetic.le _ magnitude >>= _) = Except.map _ (Arithmetic.le _ magnitude >>= _)
          cases Arithmetic.le (FloatComparison.ofFloat correlationThreshold) magnitude with
          | error error => rfl
          | ok reaches =>
              change (Except.map _ (entries.mapM isCorrelated) >>= _) =
                Except.map _ ((entries.mapM isCorrelated) >>= _)
              cases entries.mapM isCorrelated with
              | error error => rfl
              | ok marks =>
                  change Except.ok _ = Except.ok _
                  cases reaches with
                  | false => exact congrArg Except.ok (Nat.zero_add _)
                  | true =>
                      exact congrArg Except.ok ((Nat.add_comm _ _).trans List.count_cons_self.symm)

private theorem liquidation_ok {buffer : Option Number} {required : Number} {tooClose : Bool}
    (isBuffer : liquidationBuffer evaluation.tradeRequest = .ok buffer)
    (requires : requiredBuffer setting.limits evaluation.tradeRequest = .ok required)
    (isTooClose : bufferTooSmall buffer required = .ok tooClose) :
    Rule.liquidation.isViolated setting evaluation inputs = .ok tooClose := by
  unfold Rule.isViolated
  unfold liquidationBuffer at isBuffer
  cases known : evaluation.tradeRequest.estimatedLiquidationPrice with
  | none =>
      rw [known] at isBuffer
      cases isBuffer
      exact isTooClose
  | some price =>
      rw [known] at isBuffer
      obtain ⟨distance, isDistance, same⟩ := ok_of_map isBuffer
      cases same
      exact (bind_of_ok (show behindStop _ price = .ok distance from isDistance)).trans
        ((bind_of_ok requires).trans isTooClose)

private theorem fundingRate_eq : Rule.fundingRate.isViolated setting evaluation inputs =
    fundingCostRate evaluation.tradeRequest.side inputs.fundingInfo.fundingRate >>=
      Arithmetic.lt setting.limits.maxFundingRateAbs := by
  unfold Rule.isViolated fundingCostRate
  cases evaluation.tradeRequest.side with
  | buy => rfl
  | sell => rfl

/-- No number that the rules and the figures need is missing for a NaN or an overflow. -/
structure Calculable (setting : Setting Number) (evaluation : Evaluation Number)
    (inputs : Inputs Number) : Prop where
  rules : ∀ rule : Rule, ∃ isViolated, rule.isViolated setting evaluation inputs = .ok isViolated
  exposure : ∃ exposure, Arithmetic.add inputs.portfolioSnapshot.exposure
    evaluation.tradeRequest.proposedNotional = .ok exposure
  funding : ∃ cost estimate,
    fundingCostRate evaluation.tradeRequest.side inputs.fundingInfo.fundingRate = .ok cost ∧
      Arithmetic.mul cost evaluation.tradeRequest.proposedNotional = .ok estimate

variable {violations : List (ReasonCode × Violation Number)} {decision : RiskDecision Number}
  {figures : Figures Number}

theorem businessRules_ok
    (computed : businessRules setting evaluation inputs = .ok (violations, figures)) :
    Calculable setting evaluation inputs ∧
      violations.map Prod.fst = (violatedRules setting evaluation inputs).map Rule.reason := by
  obtain ⟨equity, isEquity, computed⟩ := ok_of_bind computed
  obtain ⟨contribution, isContribution, computed⟩ := ok_of_bind computed
  obtain ⟨heat, isHeat, computed⟩ := ok_of_bind computed
  obtain ⟨exposure, isExposure, computed⟩ := ok_of_bind computed
  obtain ⟨riskTooHigh, isRisk, computed⟩ := ok_of_bind computed
  obtain ⟨heatTooHigh, isTooHot, computed⟩ := ok_of_bind computed
  obtain ⟨marginTooHigh, isMargin, computed⟩ := ok_of_bind computed
  obtain ⟨leverageTooHigh, isLeverage, computed⟩ := ok_of_bind computed
  obtain ⟨buffer, isBuffer, computed⟩ := ok_of_bind computed
  obtain ⟨difference, isDifference, computed⟩ := ok_of_bind computed
  obtain ⟨stopDistance, isDistance, computed⟩ := ok_of_bind computed
  obtain ⟨required, isRequired, computed⟩ := ok_of_bind computed
  obtain ⟨tooClose, isTooClose, computed⟩ := ok_of_bind computed
  obtain ⟨costRate, isCostRate, computed⟩ := ok_of_bind computed
  obtain ⟨fundingEstimate, isEstimate, computed⟩ := ok_of_bind computed
  obtain ⟨fundingTooHigh, isFunding, computed⟩ := ok_of_bind computed
  obtain ⟨correlated, isCorrelated, computed⟩ := ok_of_bind computed
  cases computed
  have contributes : heatContribution evaluation.tradeRequest inputs.portfolioSnapshot =
      .ok contribution := (bind_of_ok isEquity).trans isContribution
  have requires : requiredBuffer setting.limits evaluation.tradeRequest = .ok required :=
    (bind_of_ok isDifference).trans ((bind_of_ok isDistance).trans isRequired)
  have risk : Rule.riskPerTrade.isViolated setting evaluation inputs = .ok riskTooHigh :=
    (bind_of_ok contributes).trans isRisk
  have tooHot : Rule.portfolioHeat.isViolated setting evaluation inputs = .ok heatTooHigh :=
    (bind_of_ok contributes).trans ((bind_of_ok isHeat).trans isTooHot)
  have full : Rule.maxPositions.isViolated setting evaluation inputs =
      .ok (decide (evaluation.riskProfile.maxPositions ≤ inputs.openPositions.length)) := rfl
  have margin : Rule.availableMargin.isViolated setting evaluation inputs = .ok marginTooHigh :=
    isMargin
  have leverage : Rule.leverage.isViolated setting evaluation inputs = .ok leverageTooHigh :=
    isLeverage
  have close : Rule.liquidation.isViolated setting evaluation inputs = .ok tooClose :=
    liquidation_ok isBuffer requires isTooClose
  have funding : Rule.fundingRate.isViolated setting evaluation inputs = .ok fundingTooHigh :=
    fundingRate_eq.trans ((bind_of_ok isCostRate).trans isFunding)
  have correlates : Rule.correlation.isViolated setting evaluation inputs =
      .ok (decide (setting.limits.maxCorrelatedPositions < correlated)) := by
    rw [correlatedCount_eq] at isCorrelated
    obtain ⟨marks, areMarks, same⟩ := ok_of_map isCorrelated
    cases same
    exact bind_of_ok areMarks
  have capable : Rule.capability.isViolated setting evaluation inputs =
      .ok (capabilityViolation evaluation.tradeRequest inputs.capabilities).isSome :=
    congrArg Except.ok (capabilityViolation_isSome _ _).symm
  constructor
  · refine ⟨?_, ⟨exposure, isExposure⟩, costRate, fundingEstimate, isCostRate, isEstimate⟩
    rintro (_ | _ | _ | _ | _ | _ | _ | _ | _)
    · exact ⟨_, risk⟩
    · exact ⟨_, tooHot⟩
    · exact ⟨_, full⟩
    · exact ⟨_, margin⟩
    · exact ⟨_, leverage⟩
    · exact ⟨_, close⟩
    · exact ⟨_, funding⟩
    · exact ⟨_, correlates⟩
    · exact ⟨_, capable⟩
  · simp only [violatedRules, Rule.all, map_filter_cons, List.filter_nil, List.map_nil,
      List.append_nil, risk, tooHot, full, margin, leverage, close, funding, correlates, capable,
      Except.ok.injEq, Bool.decide_eq_true, Rule.reason, List.map_append, map_fst_broken,
      List.append_assoc]
    cases capabilityViolation evaluation.tradeRequest inputs.capabilities <;> rfl

theorem Calculable.businessRules_returns (calculable : Calculable setting evaluation inputs)
    (known : evaluation.tradeRequest.estimatedLiquidationPrice.isSome) :
    ∃ ruled, businessRules setting evaluation inputs = .ok ruled := by
  obtain ⟨price, isPrice⟩ := Option.isSome_iff_exists.mp known
  obtain ⟨exposure, isExposure⟩ := calculable.exposure
  obtain ⟨cost, estimate, isCost, isEstimate⟩ := calculable.funding
  obtain ⟨riskTooHigh, risk⟩ := calculable.rules .riskPerTrade
  obtain ⟨contribution, contributes, isRisk⟩ := ok_of_bind risk
  obtain ⟨equity, isEquity, isContribution⟩ := ok_of_bind contributes
  obtain ⟨heatTooHigh, hot⟩ := calculable.rules .portfolioHeat
  obtain ⟨_, again, hot⟩ := ok_of_bind hot
  cases contributes.symm.trans again
  obtain ⟨heat, isHeat, isTooHot⟩ := ok_of_bind hot
  obtain ⟨marginTooHigh, isMargin⟩ := calculable.rules .availableMargin
  obtain ⟨leverageTooHigh, isLeverage⟩ := calculable.rules .leverage
  obtain ⟨tooClose, close⟩ := calculable.rules .liquidation
  unfold Rule.isViolated at close
  rw [isPrice] at close
  obtain ⟨distance, isBehind, close⟩ := ok_of_bind close
  obtain ⟨required, requires, isTooClose⟩ := ok_of_bind close
  obtain ⟨difference, isDifference, requires⟩ := ok_of_bind requires
  obtain ⟨stopDistance, isDistance, isRequired⟩ := ok_of_bind requires
  have isBuffer : liquidationBuffer evaluation.tradeRequest = .ok (some distance) := by
    unfold liquidationBuffer
    rw [isPrice]
    exact congrArg (Except.map some) isBehind
  obtain ⟨fundingTooHigh, funding⟩ := calculable.rules .fundingRate
  rw [fundingRate_eq, bind_of_ok isCost] at funding
  obtain ⟨tooMany, correlates⟩ := calculable.rules .correlation
  obtain ⟨marks, areMarks, _⟩ := ok_of_bind correlates
  have isCorrelated : correlatedCount inputs.correlationInfo.entries = .ok (marks.count true) := by
    rw [correlatedCount_eq, areMarks]
    rfl
  refine ⟨_, (bind_of_ok isEquity).trans <| (bind_of_ok isContribution).trans <|
    (bind_of_ok isHeat).trans <| (bind_of_ok isExposure).trans <| (bind_of_ok isRisk).trans <|
    (bind_of_ok isTooHot).trans <| (bind_of_ok isMargin).trans <| (bind_of_ok isLeverage).trans <|
    (bind_of_ok isBuffer).trans <| (bind_of_ok isDifference).trans <|
    (bind_of_ok isDistance).trans <| (bind_of_ok isRequired).trans <|
    (bind_of_ok isTooClose).trans <| (bind_of_ok isCost).trans <| (bind_of_ok isEstimate).trans <|
    (bind_of_ok funding).trans <| (bind_of_ok isCorrelated).trans rfl⟩

private theorem mem_businessRules
    (computed : businessRules setting evaluation inputs = .ok (violations, figures))
    (reason : ReasonCode) :
    reason ∈ violations.map Prod.fst ↔
      ∃ rule : Rule, rule.reason = reason ∧ rule.isViolated setting evaluation inputs = .ok true := by
  rw [(businessRules_ok computed).2, List.mem_map]
  refine exists_congr fun rule => ?_
  rw [violatedRules, List.mem_filter, decide_eq_true_eq, and_comm]
  exact and_congr_right fun _ => and_iff_right rule.mem_all

private theorem businessRules_nil
    (computed : businessRules setting evaluation inputs = .ok (violations, figures)) :
    violations = [] ↔ ∀ rule : Rule, rule.isViolated setting evaluation inputs = .ok false := by
  constructor
  · rintro rfl rule
    obtain ⟨isViolated, outcome⟩ := (businessRules_ok computed).1.rules rule
    cases isViolated with
    | false => exact outcome
    | true =>
        have collected := (mem_businessRules computed rule.reason).mpr ⟨rule, rfl, outcome⟩
        cases collected
  · intro obeyed
    cases violations with
    | nil => rfl
    | cons violation violations =>
        obtain ⟨rule, _, outcome⟩ :=
          (mem_businessRules computed violation.1).mp List.mem_cons_self
        rw [obeyed rule] at outcome
        cases outcome

omit [LedgerArithmetic Number] [FloatComparison Number] in
theorem fields_of_inputs (known : inputs? evaluation = some inputs) :
    evaluation.portfolioSnapshot = some inputs.portfolioSnapshot ∧
      evaluation.openPositions = some inputs.openPositions ∧
      evaluation.capabilities = some inputs.capabilities ∧
      evaluation.fundingInfo = some inputs.fundingInfo ∧
      evaluation.correlationInfo = some inputs.correlationInfo := by
  unfold inputs? at known
  obtain ⟨portfolioSnapshot, isPortfolio, known⟩ := Option.bind_eq_some_iff.mp known
  obtain ⟨openPositions, arePositions, known⟩ := Option.bind_eq_some_iff.mp known
  obtain ⟨capabilities, areCapabilities, known⟩ := Option.bind_eq_some_iff.mp known
  obtain ⟨fundingInfo, isFunding, known⟩ := Option.bind_eq_some_iff.mp known
  obtain ⟨correlationInfo, isCorrelation, known⟩ := Option.bind_eq_some_iff.mp known
  cases known
  exact ⟨isPortfolio, arePositions, areCapabilities, isFunding, isCorrelation⟩

omit [LedgerArithmetic Number] [FloatComparison Number] in
private theorem missingInputs_nil :
    missingInputs evaluation = [] ↔
      evaluation.killSwitchState.isSome ∧ (∃ inputs, inputs? evaluation = some inputs) ∧
        evaluation.tradeRequest.estimatedLiquidationPrice.isSome := by
  have missing : ∀ {Value : Type} (value : Option Value) (name : String),
      (if value.isNone then [name] else []) = [] ↔ value.isSome := by
    rintro Value (_ | value) name <;> simp
  have known : (∃ inputs, inputs? evaluation = some inputs) ↔
      evaluation.portfolioSnapshot.isSome ∧ evaluation.openPositions.isSome ∧
        evaluation.capabilities.isSome ∧ evaluation.fundingInfo.isSome ∧
        evaluation.correlationInfo.isSome := by
    unfold inputs?
    cases evaluation.portfolioSnapshot <;> cases evaluation.openPositions <;>
      cases evaluation.capabilities <;> cases evaluation.fundingInfo <;>
      cases evaluation.correlationInfo <;> simp
  rw [known, missingInputs]
  simp only [List.append_eq_nil_iff, missing, and_assoc]

omit [LedgerArithmetic Number] [FloatComparison Number] in
private theorem staleData_nil {evaluatedAtUtc : String} {pairs : List (Label × String)}
    {stale : List (Violation Number)} (computed : staleData setting evaluatedAtUtc pairs = .ok stale) :
    stale = [] ↔ ∀ pair ∈ pairs, ∃ age, ageMicros setting.utc evaluatedAtUtc pair.2 = .ok age ∧
      isStale setting.limits age = false := by
  induction pairs generalizing stale with
  | nil =>
      cases computed
      exact ⟨fun _ pair member => (List.not_mem_nil member).elim, fun _ => rfl⟩
  | cons pair pairs ih =>
      obtain ⟨age, aged, computed⟩ := ok_of_bind computed
      obtain ⟨rest, computedRest, computed⟩ := ok_of_bind computed
      cases computed
      rw [List.forall_mem_cons, ← ih computedRest, List.append_eq_nil_iff]
      refine and_congr_left fun _ => ?_
      cases old : isStale setting.limits age with
      | false => exact ⟨fun _ => ⟨age, aged, old⟩, fun _ => rfl⟩
      | true =>
          constructor
          · intro impossible
            cases impossible
          · rintro ⟨other, otherAged, fresh⟩
            rw [aged] at otherAged
            cases otherAged
            rw [old] at fresh
            cases fresh

omit [FloatComparison Number] in
theorem dataProblems_nil {problems : List (ReasonCode × Violation Number)}
    (computed : dataProblems setting evaluation = .ok problems) :
    problems = [] ↔ ∃ inputs, Ready setting evaluation inputs := by
  obtain ⟨stale, computedStale, computed⟩ := ok_of_bind computed
  obtain ⟨broke, computedBroke, computed⟩ := ok_of_bind computed
  cases computed
  rw [List.append_eq_nil_iff, List.append_eq_nil_iff, List.map_eq_nil_iff, List.map_eq_nil_iff,
    missingInputs_nil, staleData_nil computedStale]
  constructor
  · rintro ⟨⟨⟨stateKnown, ⟨inputs, inputsKnown⟩, liquidationKnown⟩, fresh⟩, isSolvent⟩
    refine ⟨inputs, { stateKnown, inputsKnown, liquidationKnown, fresh, solvent := ?_ }⟩
    cases broke with
    | false => exact computedBroke
    | true => cases isSolvent
  · rintro ⟨inputs, ready⟩
    refine ⟨⟨⟨ready.stateKnown, ⟨inputs, ready.inputsKnown⟩, ready.liquidationKnown⟩,
      ready.fresh⟩, ?_⟩
    rw [ready.solvent] at computedBroke
    cases computedBroke
    rfl

/-- What a decision can be: blocked by the state, refused for the data, or ruled. -/
inductive Decided (setting : Setting Number) (evaluation : Evaluation Number) :
    RiskDecision Number → Prop
  | blocked {state : ExecutionStateMachine.State} {reason : ReasonCode}
      (blocks : Blocks evaluation) :
      Decided setting evaluation (blockedDecision evaluation state reason)
  | failSafe {problems : List (ReasonCode × Violation Number)} (free : ¬ Blocks evaluation)
      (unready : ¬ ∃ inputs, Ready setting evaluation inputs) :
      Decided setting evaluation (failSafeDecision evaluation problems)
  | ruled {inputs : Inputs Number} {violations : List (ReasonCode × Violation Number)}
      {figures : Figures Number} (free : ¬ Blocks evaluation)
      (ready : Ready setting evaluation inputs)
      (computed : businessRules setting evaluation inputs = .ok (violations, figures)) :
      Decided setting evaluation (ruledDecision evaluation violations figures)

private theorem verified_decided (free : ¬ Blocks evaluation)
    (verified_ : verified setting evaluation = .ok decision) :
    Decided setting evaluation decision := by
  obtain ⟨problems, computed, verified_⟩ := ok_of_bind verified_
  have isReady := dataProblems_nil computed
  split at verified_
  · rename_i inputs known
    obtain ⟨⟨violations, figures⟩, ruled, verified_⟩ := ok_of_bind verified_
    cases verified_
    obtain ⟨found, ready⟩ := isReady.mp rfl
    have same := ready.inputsKnown.symm.trans known
    cases same
    exact .ruled free ready (ok_of_mapError ruled)
  · rename_i notNil
    cases verified_
    refine .failSafe free fun ⟨inputs, ready⟩ => ?_
    exact notNil inputs (isReady.mpr ⟨inputs, ready⟩) ready.inputsKnown

theorem evaluate_decided (decided : evaluate setting evaluation = .ok decision) :
    Decided setting evaluation decision := by
  obtain ⟨_, _, decided⟩ := ok_of_bind decided
  obtain ⟨_, _, decided⟩ := ok_of_bind decided
  split at decided
  · rename_i state reason found
    cases decided
    obtain ⟨known, isState, isReason⟩ := Option.bind_eq_some_iff.mp found
    obtain ⟨_, blocks, _⟩ := Option.map_eq_some_iff.mp isReason
    exact .blocked ⟨known, isState, by rw [blocks]; rfl⟩
  · rename_i notBlocked
    exact verified_decided (not_blocks notBlocked) decided

omit [FloatComparison Number] in
theorem Ready.inputs_unique {other : Inputs Number} (ready : Ready setting evaluation inputs)
    (known : Ready setting evaluation other) : other = inputs :=
  Option.some.inj (known.inputsKnown.symm.trans ready.inputsKnown)

theorem evaluate_approved_iff (decided : evaluate setting evaluation = .ok decision) :
    decision.decision = .approved ↔
      ¬ Blocks evaluation ∧ ∃ inputs, Ready setting evaluation inputs ∧
        ∀ rule : Rule, rule.isViolated setting evaluation inputs = .ok false := by
  cases evaluate_decided decided with
  | blocked blocks =>
      constructor
      · intro impossible
        cases impossible
      · exact fun both => absurd blocks both.1
  | failSafe free unready =>
      constructor
      · intro impossible
        cases impossible
      · rintro ⟨_, inputs, ready, _⟩
        exact absurd ⟨inputs, ready⟩ unready
  | @ruled inputs violations figures free ready computed =>
      have approves : (ruledDecision evaluation violations figures).decision = .approved ↔
          violations = [] := by
        cases violations <;> simp [ruledDecision]
      rw [approves, businessRules_nil computed]
      constructor
      · exact fun obeyed => ⟨free, inputs, ready, obeyed⟩
      · rintro ⟨_, other, known, obeyed⟩
        cases ready.inputs_unique known
        exact obeyed

/-- On ready data and without a block, a decision rejects for a reason exactly when the rule
of this reason is violated. -/
theorem evaluate_rejected_iff (decided : evaluate setting evaluation = .ok decision)
    (free : ¬ Blocks evaluation) (ready : Ready setting evaluation inputs) (reason : ReasonCode) :
    decision.decision = .rejected ∧ reason ∈ decision.reasonCodes ↔
      ∃ rule : Rule, rule.reason = reason ∧ rule.isViolated setting evaluation inputs = .ok true := by
  cases evaluate_decided decided with
  | blocked blocks => exact absurd blocks free
  | failSafe _ unready => exact absurd ⟨inputs, ready⟩ unready
  | @ruled found violations figures _ known computed =>
      cases ready.inputs_unique known
      rw [← mem_businessRules computed reason]
      cases violations with
      | nil => simp [ruledDecision]
      | cons violation violations =>
          exact ⟨fun both => both.2, fun collected => ⟨rfl, collected⟩⟩

end

end TurtleExecution.RiskManager

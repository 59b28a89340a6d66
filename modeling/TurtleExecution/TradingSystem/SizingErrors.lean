/-
What sizing raises on inputs that its guards accept.

A refusal is a sizing error.  Every other error is one of the numbers: an operation that
leaves the range of decimals, or an amount of zero, which the request itself refuses.
-/

import TurtleExecution.RiskManager.Floats
import TurtleExecution.TradingSystem.Sizing

set_option autoImplicit false

namespace TurtleExecution.TradingSystem

open ExchangeAdapter RiskManager

def ItsOwnWay {Value : Type} (result : Except SizeError Value) : Prop :=
  (∃ value, result = .ok value) ∨ ∃ message, result = .error (.sizing message)

section

variable {Value Next : Type}

private theorem itsOwnWay_ok (value : Value) : ItsOwnWay (.ok value) := Or.inl ⟨value, rfl⟩

private theorem itsOwnWay_sizing (message : String) :
    ItsOwnWay (.error (.sizing message) : Except SizeError Value) := Or.inr ⟨message, rfl⟩

private theorem itsOwnWay_sizes {result : Except ArithmeticError Value}
    {next : Value → Except SizeError Next} :
    ItsOwnWay (sizes result >>= next) ↔ ∃ value, result = .ok value ∧ ItsOwnWay (next value) := by
  cases result with
  | error error =>
      constructor
      · rintro (⟨value, impossible⟩ | ⟨message, impossible⟩) <;> cases impossible
      · rintro ⟨value, impossible, _⟩
        cases impossible
  | ok value =>
      constructor
      · exact fun known => ⟨value, rfl, known⟩
      · rintro ⟨other, isOther, known⟩
        cases isOther
        exact known

theorem exists_bind {Error : Type} {result : Except Error Value} {next : Value → Except Error Next}
    {holds : Next → Prop} :
    (∃ final, (result >>= next) = .ok final ∧ holds final) ↔
      ∃ value, result = .ok value ∧ ∃ final, next value = .ok final ∧ holds final := by
  constructor
  · rintro ⟨final, computed, known⟩
    obtain ⟨value, isValue, isFinal⟩ := ok_of_bind computed
    exact ⟨value, isValue, final, isFinal, known⟩
  · rintro ⟨value, isValue, final, isFinal, known⟩
    exact ⟨final, (bind_of_ok isValue).trans isFinal, known⟩

private theorem itsOwnWay_refuseIf {isBad : Except ArithmeticError Bool} {message : String}
    {next : Unit → Except SizeError Next} :
    ItsOwnWay (refuseIf isBad message >>= next) ↔
      isBad = .ok true ∨ (isBad = .ok false ∧ ItsOwnWay (next ())) := by
  rcases isBad with error | isBad
  · constructor
    · rintro (⟨value, impossible⟩ | ⟨message, impossible⟩) <;> cases impossible
    · rintro (impossible | ⟨impossible, _⟩) <;> cases impossible
  · cases isBad with
    | true => exact iff_of_true (itsOwnWay_sizing message) (Or.inl rfl)
    | false =>
        constructor
        · exact fun known => Or.inr ⟨rfl, known⟩
        · rintro (impossible | ⟨_, known⟩)
          · cases impossible
          · exact known

end

section

variable {Number : Type} [LedgerArithmetic Number] [FloatComparison Number]

def afterDistance (intent : TradeIntent Number) (inputs : SizingInputs Number)
    (amounts : Number × Number) : Except SizeError (TradeRequest Number) := do
  let request ← requestFrom intent inputs amounts.1 amounts.2
  request.validate.mapError SizeError.request
  return request

theorem sizeIntent_eq (intent : TradeIntent Number) (inputs : SizingInputs Number)
    (accepted : checkInputs inputs = .ok ()) :
    sizeIntent intent inputs =
      riskAndDistance intent inputs (intent.limitPrice.getD inputs.currentPrice) >>=
        afterDistance intent inputs := by
  unfold sizeIntent sizedRequest
  rw [bind_of_ok accepted, bind_assoc]
  rfl

omit [FloatComparison Number] in
private theorem rejectIf_ok {isBad : Except ArithmeticError Bool} {message : String} {done : Unit}
    (passed : rejectIf isBad message = .ok done) : isBad = .ok false := by
  rcases isBad with error | _ | _
  · cases passed
  · rfl
  · cases passed

/-- What the checks of the intent and the guards on the arguments leave, as far as sizing
divides or multiplies by it. -/
structure Accepted (intent : TradeIntent Number) (inputs : SizingInputs Number) : Prop where
  equity : isNotPositive inputs.equity = .ok false
  entryPrice : isNotPositive (intent.limitPrice.getD inputs.currentPrice) = .ok false
  stopPrice : isNotPositive intent.stopPrice = .ok false
  leverage : isNotPositive inputs.targetLeverage = .ok false
  conviction : ∀ conviction, intent.conviction = some conviction →
    isNoConviction conviction = .ok false
  rate : outsideUnit inputs.maintenanceMarginRate = .ok false

variable {inputs : SizingInputs Number}

variable {intent : TradeIntent Number}

omit [FloatComparison Number] in
theorem accepted_of_valid (valid : intent.validate = .ok ())
    (accepted : checkInputs inputs = .ok ()) : Accepted intent inputs := by
  obtain ⟨_, stopPrice, valid⟩ := ok_of_bind valid
  obtain ⟨_, conviction, valid⟩ := ok_of_bind valid
  obtain ⟨_, limitPrice, valid⟩ := ok_of_bind valid
  obtain ⟨_, equity, accepted⟩ := ok_of_bind accepted
  obtain ⟨_, currentPrice, accepted⟩ := ok_of_bind accepted
  obtain ⟨_, rate, leverage⟩ := ok_of_bind accepted
  constructor
  · exact refuseIf_ok equity
  · cases isLimit : intent.limitPrice with
    | none => exact refuseIf_ok currentPrice
    | some price =>
        rw [isLimit] at limitPrice
        exact rejectIf_ok limitPrice
  · exact rejectIf_ok stopPrice
  · exact refuseIf_ok leverage
  · intro known isConviction
    rw [isConviction] at conviction
    exact rejectIf_ok conviction
  · exact refuseIf_ok rate

omit [FloatComparison Number] in
private theorem validate_iff {request : TradeRequest Number} :
    request.validate = .ok () ↔ PositiveAmounts request := by
  have passes : ∀ {fieldName : String} {value : Number} {got : String},
      isNotPositive value = .ok false → requirePositiveField fieldName value got = .ok () := by
    intro fieldName value got positive
    unfold requirePositiveField
    rw [show Arithmetic.le value Arithmetic.zero = .ok false from positive]
  constructor
  · exact positiveAmounts_of_validate
  · intro positive
    exact (bind_of_ok (passes positive.quantity)).trans
      ((bind_of_ok (passes positive.entryPrice)).trans
        ((bind_of_ok (passes positive.stopPrice)).trans
          ((bind_of_ok (passes positive.notional)).trans
            ((bind_of_ok (passes positive.margin)).trans
              ((bind_of_ok (passes positive.leverage)).trans (passes positive.risk))))))

omit [LedgerArithmetic Number] [FloatComparison Number] in
private theorem itsOwnWay_request {Value : Type} {checked : Except EvaluationError Unit}
    {value : Value} :
    ItsOwnWay (checked.mapError SizeError.request >>= fun _ => .ok value) ↔ checked = .ok () := by
  cases checked with
  | error error =>
      constructor
      · rintro (⟨value, impossible⟩ | ⟨message, impossible⟩) <;> cases impossible
      · intro impossible
        cases impossible
  | ok done => exact iff_of_true (itsOwnWay_ok value) rfl

/-- Every amount that sizing takes from the risk amount and the distance is positive, and the
liquidation price is computed. -/
def PositiveAmountsFrom (side : OrderSide) (inputs : SizingInputs Number)
    (entryPrice riskAmount distance : Number) : Prop :=
  ∃ quantity, Arithmetic.div riskAmount distance = .ok quantity ∧
    ∃ notional, Arithmetic.mul quantity entryPrice = .ok notional ∧
    ∃ margin, Arithmetic.div notional inputs.targetLeverage = .ok margin ∧
    ∃ price, estimatedLiquidationPrice side entryPrice inputs = .ok price ∧
      isNotPositive riskAmount = .ok false ∧ isNotPositive quantity = .ok false ∧
      isNotPositive notional = .ok false ∧ isNotPositive margin = .ok false

omit [FloatComparison Number] in
theorem itsOwnWay_afterDistance (accepted : Accepted intent inputs) (riskAmount distance : Number) :
    ItsOwnWay (afterDistance intent inputs (riskAmount, distance)) ↔
      isNotPositive distance = .ok true ∨ (isNotPositive distance = .ok false ∧
        PositiveAmountsFrom intent.side inputs (intent.limitPrice.getD inputs.currentPrice)
          riskAmount distance) := by
  unfold afterDistance requestFrom PositiveAmountsFrom
  simp only [bind_assoc, pure_bind]
  rw [itsOwnWay_refuseIf]
  refine or_congr_right (and_congr_right fun _ => ?_)
  rw [itsOwnWay_sizes]
  refine exists_congr fun quantity => and_congr_right fun _ => ?_
  rw [itsOwnWay_sizes]
  refine exists_congr fun notional => and_congr_right fun _ => ?_
  rw [itsOwnWay_sizes]
  refine exists_congr fun margin => and_congr_right fun _ => ?_
  rw [itsOwnWay_sizes]
  refine exists_congr fun price => and_congr_right fun _ => ?_
  refine itsOwnWay_request.trans (validate_iff.trans ?_)
  constructor
  · exact fun positive => ⟨positive.risk, positive.quantity, positive.notional, positive.margin⟩
  · rintro ⟨risk, quantity, notional, margin⟩
    exact
      { quantity
        entryPrice := accepted.entryPrice
        stopPrice := accepted.stopPrice
        notional
        margin
        leverage := accepted.leverage
        risk }

/-- What the mode measures with: the conviction that weighs the risk, or the volatility that
the distance is taken from. -/
inductive Measures (intent : TradeIntent Number) (inputs : SizingInputs Number) :
    Option Number → Option Number → Prop
  | fixed (mode : inputs.riskProfile.sizingMode = "fixed") : Measures intent inputs none none
  | weighted {conviction : Number} (mode : inputs.riskProfile.sizingMode = "conviction_weighted")
      (given : intent.conviction = some conviction) : Measures intent inputs (some conviction) none
  | targeted {volatility : Number} (mode : inputs.riskProfile.sizingMode = "vol_targeted")
      (given : inputs.volatility = some volatility)
      (positive : isNotPositive volatility = .ok false) :
      Measures intent inputs none (some volatility)

def weightedRisk (equity fraction : Number) : Option Number → Except ArithmeticError Number
  | none => Arithmetic.mul equity fraction
  | some conviction => do
      let full ← Arithmetic.mul equity fraction
      let weight ← LedgerArithmetic.abs conviction
      Arithmetic.mul full weight

def measuredDistance (entryPrice stopPrice : Number) : Option Number → Except ArithmeticError Number
  | none => stopDistance entryPrice stopPrice
  | some volatility => Arithmetic.mul entryPrice volatility

def VolatilityKnown (inputs : SizingInputs Number) : Prop :=
  inputs.riskProfile.sizingMode = "vol_targeted" → ∀ volatility,
    inputs.volatility = some volatility → ∃ isBad, isNotPositive volatility = .ok isBad

variable {next : Number × Number → Except SizeError (TradeRequest Number)}
  {weight volatility : Option Number}

theorem itsOwnWay_measures {entryPrice : Number}
    (measures : Measures intent inputs weight volatility) :
    ItsOwnWay (riskAndDistance intent inputs entryPrice >>= next) ↔
      ∃ riskAmount, weightedRisk inputs.equity
          (FloatComparison.ofFloat inputs.riskProfile.riskPctPerTrade) weight = .ok riskAmount ∧
        ∃ distance, measuredDistance entryPrice intent.stopPrice volatility = .ok distance ∧
          ItsOwnWay (next (riskAmount, distance)) := by
  unfold riskAndDistance
  cases measures with
  | fixed mode =>
      rw [mode]
      simp only [bind_assoc, pure_bind]
      rw [itsOwnWay_sizes]
      refine exists_congr fun riskAmount => and_congr_right fun _ => ?_
      rw [itsOwnWay_sizes]
      rfl
  | weighted mode given =>
      rw [mode, given]
      simp only [bind_assoc, pure_bind]
      unfold weightedRisk
      rw [itsOwnWay_sizes, exists_bind]
      refine exists_congr fun full => and_congr_right fun _ => ?_
      rw [itsOwnWay_sizes, exists_bind]
      refine exists_congr fun weight => and_congr_right fun _ => ?_
      rw [itsOwnWay_sizes]
      refine exists_congr fun riskAmount => and_congr_right fun _ => ?_
      rw [itsOwnWay_sizes]
      rfl
  | targeted mode given positive =>
      rw [mode, given]
      simp only [bind_assoc, pure_bind]
      rw [itsOwnWay_refuseIf, positive]
      have notRefused : ¬ (Except.ok false : Except ArithmeticError Bool) = .ok true := by decide
      rw [or_iff_right notRefused, and_iff_right rfl, itsOwnWay_sizes]
      refine exists_congr fun riskAmount => and_congr_right fun _ => ?_
      rw [itsOwnWay_sizes]
      rfl

theorem itsOwnWay_refused {entryPrice : Number}
    (refused : ¬ ∃ weight volatility, Measures intent inputs weight volatility) :
    ItsOwnWay (riskAndDistance intent inputs entryPrice >>= next) ↔ VolatilityKnown inputs := by
  unfold riskAndDistance VolatilityKnown
  dsimp only
  split
  · rename_i mode
    exact absurd ⟨_, _, .fixed mode⟩ refused
  · rename_i mode
    split
    · exact iff_of_true (itsOwnWay_sizing _) fun targeted => by
        rw [mode] at targeted
        exact absurd targeted (by decide)
    · rename_i conviction given
      exact absurd ⟨_, _, .weighted mode given⟩ refused
  · rename_i mode
    split
    · rename_i missing
      exact iff_of_true (itsOwnWay_sizing _) fun _ volatility given => by
        rw [missing] at given
        cases given
    · rename_i volatility given
      rw [bind_assoc, itsOwnWay_refuseIf]
      constructor
      · rintro outcome _ other isOther
        cases given.symm.trans isOther
        exact outcome.elim (fun bad => ⟨true, bad⟩) fun fine => ⟨false, fine.1⟩
      · intro known
        obtain ⟨isBad, outcome⟩ := known mode volatility given
        cases isBad with
        | true => exact Or.inl outcome
        | false => exact absurd ⟨_, _, .targeted mode given outcome⟩ refused
  · rename_i unsupported
    exact iff_of_true (itsOwnWay_sizing _) fun targeted => absurd targeted unsupported

omit [FloatComparison Number] in
theorem Measures.volatilityKnown (measures : Measures intent inputs weight volatility) :
    VolatilityKnown inputs := by
  intro mode known given
  cases measures with
  | fixed other => exact absurd (mode.symm.trans other) (by decide)
  | weighted other _ => exact absurd (mode.symm.trans other) (by decide)
  | targeted _ isVolatility positive =>
      cases isVolatility.symm.trans given
      exact ⟨false, positive⟩

end

end TurtleExecution.TradingSystem

/-
`FundingRateThresholdRuleCandidate`: what a funding rate beyond a threshold says.

The specification has the threshold and the convention.  Where it does not, or is of another
family or feature, the evaluation raises.
-/

import TurtleExecution.Candidates.Models
import TurtleExecution.Foundation.Decimal

set_option autoImplicit false

namespace TurtleExecution.Candidates

open ExchangeAdapter Features

inductive CandidateError
  /-- `CandidateError` for a parameter: its key, what is wrong with it and what it is. -/
  | parameter (key problem : String) (got : Option PyValue)
  /-- `CandidateError` for a specification of another family: its name and its type. -/
  | notOwned (name candidateType : String)
  /-- `CandidateError` for a feature that is not the specification's: the names and versions of
  both. -/
  | mismatched (featureName featureVersion specifiedName specifiedVersion : String)
  | arithmetic (error : ArithmeticError)

namespace FundingRateThreshold

def candidateName : String := "funding_rate_threshold_rule"

def candidateType : String := "rule_based"

def thresholdKey : String := "threshold"

def directionConventionKey : String := "direction_convention"

def contrarian : String := "contrarian"

def momentum : String := "momentum"

section

variable {Number : Type} [SignedArithmetic Number]

def arithmetic {Value : Type} (result : Except ArithmeticError Value) :
    Except CandidateError Value :=
  result.mapError .arithmetic

def positiveDecimal (decimalOf : String → Option Number) (raw : PyStr) :
    Except CandidateError Number :=
  match raw.scalars?.bind decimalOf with
  | none => .error (.parameter thresholdKey "is not a valid decimal number" (some (.str raw)))
  | some threshold => do
      let notPositive ← arithmetic (Arithmetic.le threshold Arithmetic.zero)
      if notPositive then .error (.parameter thresholdKey "must be positive" (some (.str raw)))
      else .ok threshold

def extractThreshold (decimalOf : String → Option Number) (parameters : PyDict) :
    Except CandidateError Number :=
  let refused := "must be present and a non-empty string (a string-encoded Decimal -- CandidateSpecification.parameters is JSON-native only)"
  match Dict.get? parameters (.str thresholdKey) with
  | some (.str raw) =>
      if raw.isBlank then .error (.parameter thresholdKey refused (some (.str raw)))
      else positiveDecimal decimalOf raw
  | raw => .error (.parameter thresholdKey refused raw)

def extractDirectionConvention (parameters : PyDict) : Except CandidateError Bool :=
  let refused := "must be one of ('contrarian', 'momentum')"
  match Dict.get? parameters (.str directionConventionKey) with
  | none => .ok true
  | some (.str convention) =>
      if convention = contrarian then .ok true
      else if convention = momentum then .ok false
      else .error (.parameter directionConventionKey refused (some (.str convention)))
  | some convention => .error (.parameter directionConventionKey refused (some convention))

def directionOf (isContrarian : Bool) (rate threshold : Number) :
    Except CandidateError SignalDirection := do
  let above ← arithmetic (Arithmetic.lt threshold rate)
  if above then return if isContrarian then .short else .long
  else
    let negated ← arithmetic (SignedArithmetic.minus threshold)
    let below ← arithmetic (Arithmetic.lt rate negated)
    if below then return if isContrarian then .long else .short
    else return .flat

def requireOwn (featureValue : FeatureValue Number) (specification : CandidateSpecification) :
    Except CandidateError Unit :=
  if specification.name.text ≠ candidateName ∨ specification.candidateType.text ≠ candidateType then
    .error (.notOwned specification.name.text specification.candidateType.text)
  else if featureValue.featureName ≠ specification.featureName ∨
      featureValue.featureVersion ≠ specification.featureVersion then
    .error (.mismatched featureValue.featureName.text featureValue.featureVersion.text
      specification.featureName.text specification.featureVersion.text)
  else .ok ()

def opinionOf (isContrarian : Bool) (threshold : Number) :
    Availability Number → Except CandidateError (Availability (Opinion Number))
  | .unavailable reason =>
      .ok (.unavailable (NonBlank.append ⟨"feature unavailable: ", by decide⟩ reason.text))
  | .available rate => do
      let direction ← directionOf isContrarian rate threshold
      return .available { direction, featureValue := rate, threshold }

def evaluate (decimalOf : String → Option Number) (featureValue : FeatureValue Number)
    (specification : CandidateSpecification) : Except CandidateError (CandidateSignal Number) := do
  requireOwn featureValue specification
  let threshold ← extractThreshold decimalOf specification.parameters
  let isContrarian ← extractDirectionConvention specification.parameters
  let result ← opinionOf isContrarian threshold featureValue.result
  return { candidateName := specification.name
           candidateVersion := specification.version
           symbol := featureValue.symbol
           evaluatedAtUtc := featureValue.computedAtUtc
           result }

theorem evaluate_available {decimalOf : String → Option Number} {featureValue : FeatureValue Number}
    {specification : CandidateSpecification} {signal : CandidateSignal Number}
    (evaluated : evaluate decimalOf featureValue specification = .ok signal) :
    signal.result.value?.map Opinion.featureValue = featureValue.result.value? := by
  obtain ⟨_, _, rest⟩ := ok_of_bind evaluated
  obtain ⟨threshold, _, rest⟩ := ok_of_bind rest
  obtain ⟨isContrarian, _, rest⟩ := ok_of_bind rest
  obtain ⟨result, isResult, same⟩ := ok_of_bind rest
  cases same
  cases available : featureValue.result with
  | unavailable reason =>
      rw [available] at isResult
      cases isResult
      rfl
  | available rate =>
      rw [available] at isResult
      obtain ⟨direction, _, same⟩ := ok_of_bind isResult
      cases same
      rfl

end

end FundingRateThreshold

end TurtleExecution.Candidates

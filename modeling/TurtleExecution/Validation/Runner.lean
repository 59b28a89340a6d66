/-
`run_validation`: the signals of a specification on samples, scored.

The loop counts the samples without a signal, the flat ones and the hits, and keeps the
returns of the others.  Each count is therefore the number of samples of its kind.
-/

import TurtleExecution.Foundation.RunningSum
import TurtleExecution.Validation.Models

set_option autoImplicit false

namespace TurtleExecution.Validation

open Features Candidates

abbrev EvaluateFn : Type :=
  FeatureValue Decimal → CandidateSpecification → Except ValidationError (CandidateSignal Decimal)

def arithmetic {Value : Type} (result : Except ArithmeticError Value) :
    Except ValidationError Value :=
  result.mapError .arithmetic

def minHitRateKey : String := "min_hit_rate"

def minSignaledSamplesKey : String := "min_signaled_samples"

def CriterionOutcome.ofBool (passes : Bool) : CriterionOutcome :=
  if passes then .pass else .fail

def minHitRateNumber (texts : Texts) (required : PyValue) : Except ValidationError Decimal :=
  match texts.decimalOf required with
  | some number => .ok number
  | none => .error (.criterion minHitRateKey "must be numeric" required)

def checkMinHitRate (texts : Texts) (required : PyValue) (hitRate : Option Decimal) :
    Except ValidationError CriterionCheck := do
  let requiredDecimal ← minHitRateNumber texts required
  let notNegative ← arithmetic (Arithmetic.le Decimal.zero requiredDecimal)
  let inRange ← if notNegative then arithmetic (Arithmetic.le requiredDecimal (Decimal.ofInt 1))
    else .ok false
  if inRange = false then .error (.criterion minHitRateKey "must be in [0, 1]" required)
  else
    match hitRate with
    | none =>
        return { criterionKey := minHitRateKey
                 nonBlank := by decide
                 requiredValue := required
                 observedValue := none
                 outcome := .notEvaluated
                 observed_of_evaluated := fun _ => rfl }
    | some hitRate =>
        let passes ← arithmetic (Arithmetic.le requiredDecimal hitRate)
        return { criterionKey := minHitRateKey
                 nonBlank := by decide
                 requiredValue := required
                 observedValue := some (.str hitRate.text)
                 outcome := .ofBool passes
                 observed_of_evaluated := by cases passes <;> (intro impossible; cases impossible) }

def checkMinSignaledSamples (required : PyValue) (signaledSamples : Nat) :
    Except ValidationError CriterionCheck :=
  match required with
  | .int value =>
      if value < 0 then
        .error (.criterion minSignaledSamplesKey "must be a non-negative int" required)
      else
        .ok { criterionKey := minSignaledSamplesKey
              nonBlank := by decide
              requiredValue := required
              observedValue := some (.int signaledSamples)
              outcome := .ofBool (value ≤ signaledSamples)
              observed_of_evaluated := by
                cases decide (value ≤ (signaledSamples : Int)) <;>
                  (intro impossible; cases impossible) }
  | _ => .error (.criterion minSignaledSamplesKey "must be a non-negative int" required)

def notEvaluated (key : PyKey) (required : PyValue) : Except ValidationError CriterionCheck :=
  let refused := "CriterionCheck.criterion_key must be a non-empty string"
  match key with
  | .str criterionKey =>
      if nonBlank : criterionKey.isBlank = false then
        .ok { criterionKey, nonBlank
              requiredValue := required
              observedValue := none
              outcome := .notEvaluated
              observed_of_evaluated := fun _ => rfl }
      else .error (.validation refused)
  | _ => .error (.validation refused)

def checkCriterion (texts : Texts) (hitRate : Option Decimal) (signaledSamples : Nat)
    (criterion : PyKey × PyValue) : Except ValidationError CriterionCheck :=
  if criterion.1 = .str minHitRateKey then checkMinHitRate texts criterion.2 hitRate
  else if criterion.1 = .str minSignaledSamplesKey then
    checkMinSignaledSamples criterion.2 signaledSamples
  else notEvaluated criterion.1 criterion.2

structure Tally where
  unavailable : Nat
  flat : Nat
  hits : Nat
  directionalReturns : List Decimal

def Tally.empty : Tally :=
  { unavailable := 0, flat := 0, hits := 0, directionalReturns := [] }

def Tally.signaled (tally : Tally) : Nat := tally.directionalReturns.length

def directionalReturn (direction : SignalDirection) (outcome : Decimal) :
    Except ValidationError Decimal :=
  if direction = .long then .ok outcome else arithmetic outcome.minus

def Tally.score (tally : Tally) (sample : ValidationSample) (signal : CandidateSignal Decimal) :
    Except ValidationError Tally :=
  match signal.result with
  | .unavailable _ => .ok { tally with unavailable := tally.unavailable + 1 }
  | .available opinion =>
      if opinion.direction = .flat then .ok { tally with flat := tally.flat + 1 }
      else do
        let directional ← directionalReturn opinion.direction sample.realizedOutcome
        let hit ← arithmetic (Arithmetic.lt Decimal.zero directional)
        return { tally with
          directionalReturns := tally.directionalReturns ++ [directional]
          hits := if hit then tally.hits + 1 else tally.hits }

def scoreSamples (evaluateFn : EvaluateFn) (specification : CandidateSpecification) :
    Tally → List ValidationSample → Except ValidationError Tally
  | tally, [] => .ok tally
  | tally, sample :: samples => do
      let signal ← evaluateFn sample.featureValue specification
      let tally ← tally.score sample signal
      scoreSamples evaluateFn specification tally samples

def Tally.rates (tally : Tally) : Except ValidationError (Option Decimal × Option Decimal) :=
  if tally.signaled = 0 then .ok (none, none)
  else do
    let hitRate ← arithmetic
      (Arithmetic.div (Decimal.ofInt tally.hits) (Decimal.ofInt tally.signaled))
    let mean ← arithmetic (Decimal.meanOf tally.directionalReturns)
    return (some hitRate, some mean)

section

variable {State : Type}

def runValidation (texts : Texts) (clock : Process State ValidationError String)
    (evaluateFn : EvaluateFn) (specification : CandidateSpecification)
    (samples : List ValidationSample) : Process State ValidationError ValidationResult := do
  let _nonempty ← Process.ofExcept (require (!samples.isEmpty) nonEmptySamples)
  let tally ← Process.ofExcept (scoreSamples evaluateFn specification .empty samples)
  let rates ← Process.ofExcept tally.rates
  let criteriaResults ← Process.ofExcept
    (specification.acceptanceCriteria.mapM (checkCriterion texts rates.1 tally.signaled))
  let validatedAtUtc ← clock
  let fingerprint ← Process.ofExcept (fingerprintSamples texts samples)
  Process.ofExcept (ValidationFigures.result
    { candidateName := specification.name
      candidateVersion := specification.version
      validatedAtUtc
      totalSamples := samples.length
      unavailableSamples := tally.unavailable
      flatSamples := tally.flat
      signaledSamples := tally.signaled
      hits := tally.hits
      hitRate := rates.1
      meanDirectionalReturn := rates.2
      criteriaResults
      overallPassed := criteriaResults.all fun result => result.outcome = .pass
      sampleSetFingerprint := some fingerprint })

end

end TurtleExecution.Validation

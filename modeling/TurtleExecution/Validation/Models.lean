/-
Validation samples, and the results of validating them.

A result checks its own figures when it is built, so its counts always add up.  How texts are
read and written is a parameter.
-/

import TurtleExecution.Candidates.Models
import TurtleExecution.Foundation.Pairs
import TurtleExecution.HistoricalStorage.Observations
import TurtleExecution.Registry.Storage

set_option autoImplicit false

namespace TurtleExecution.Validation

open ExchangeAdapter Features Candidates HistoricalStorage

inductive ValidationError
  | validation (message : String)
  /-- `ValidationError` for a criterion: its key, what is wrong with it and what it is. -/
  | criterion (key problem : String) (got : PyValue)
  /-- `ValidationError` for a timestamp, with the sample's index where it is named. -/
  | timestamp (index : Option Nat)
  | arithmetic (error : ArithmeticError)
  | other (message : String)

def require (holds : Bool) (message : String) : Except ValidationError Unit :=
  if holds then .ok () else .error (.validation message)

theorem require_of {holds : Bool} (isTrue : holds = true) (message : String) :
    require holds message = .ok () := by
  rw [require, if_pos isTrue]

structure Texts where
  fromisoformat : IsoTexts
  /-- `isoformat(timespec="microseconds")` of an instant in UTC. -/
  isoformat : Int → String
  decimalOf : PyValue → Option Decimal

structure ValidationSample where
  featureValue : FeatureValue Decimal
  realizedOutcome : Decimal
  outcomeObservedAtUtc : Option NonBlank
  regimeLabel : Option NonBlank

namespace ValidationSample

/-- `parse_utc(sample.feature_value.computed_at_utc)`; `none` where it raises. -/
def computedAt (texts : Texts) (sample : ValidationSample) : Option Int :=
  parseUtc texts.fromisoformat sample.featureValue.computedAtUtc.text

end ValidationSample

def canonicalUtc (texts : Texts) (value : String) : Option String :=
  (parseUtc texts.fromisoformat value).map texts.isoformat

def canonical (texts : Texts) (index : Nat) (value : String) : Except ValidationError String :=
  match canonicalUtc texts value with
  | some text => .ok text
  | none => .error (.timestamp (some index))

def optionalText : Option String → PyValue
  | none => .none
  | some text => .str text

def canonicalObserved (texts : Texts) (index : Nat) :
    Option NonBlank → Except ValidationError (Option String)
  | none => .ok none
  | some observedAt => (canonical texts index observedAt.text).map some

def fingerprintRow (texts : Texts) (index : Nat) (sample : ValidationSample) :
    Except ValidationError PyValue := do
  let featureValue := sample.featureValue
  let computedAt ← canonical texts index featureValue.computedAtUtc.text
  let observedAt ← canonicalObserved texts index sample.outcomeObservedAtUtc
  return .dict
    [(.str "feature_name", .str featureValue.featureName.text),
      (.str "feature_version", .str featureValue.featureVersion.text),
      (.str "symbol", .str featureValue.symbol.value),
      (.str "computed_at_utc", .str computedAt),
      (.str "available", .bool featureValue.result.value?.isSome),
      (.str "value", optionalText (featureValue.result.value?.map Decimal.text)),
      (.str "reason", optionalText (featureValue.result.reason?.map NonBlank.text)),
      (.str "realized_outcome", .str sample.realizedOutcome.text),
      (.str "outcome_observed_at_utc", optionalText observedAt),
      (.str "regime_label", optionalText (sample.regimeLabel.map NonBlank.text))]

def fingerprintRows (texts : Texts) : Nat → List ValidationSample →
    Except ValidationError (List PyValue)
  | _, [] => .ok []
  | index, sample :: samples => do
      let row ← fingerprintRow texts index sample
      let rows ← fingerprintRows texts (index + 1) samples
      return row :: rows

def nonEmptySamples : String := "samples must be a non-empty tuple of ValidationSample"

def fingerprintSamples (texts : Texts) (samples : List ValidationSample) :
    Except ValidationError String := do
  require (!samples.isEmpty) nonEmptySamples
  let rows ← fingerprintRows texts 0 samples
  match Registry.dumpsText (.list rows) with
  | none => .error (.other "TypeError")
  | some text =>
      return String.ofList (hexdigest (String.ofList text))

inductive CriterionOutcome
  | pass
  | fail
  | notEvaluated
  deriving DecidableEq, Repr

def CriterionOutcome.value : CriterionOutcome → String
  | pass => "pass"
  | fail => "fail"
  | notEvaluated => "not_evaluated"

structure CriterionCheck where
  criterionKey : PyStr
  nonBlank : criterionKey.isBlank = false
  requiredValue : PyValue
  observedValue : Option PyValue
  outcome : CriterionOutcome
  observed_of_evaluated : outcome = .notEvaluated → observedValue = none

structure ValidationFigures where
  candidateName : NonBlank
  candidateVersion : NonBlank
  validatedAtUtc : String
  totalSamples : Nat
  unavailableSamples : Nat
  flatSamples : Nat
  signaledSamples : Nat
  hits : Nat
  hitRate : Option Decimal
  meanDirectionalReturn : Option Decimal
  criteriaResults : List CriterionCheck
  overallPassed : Bool
  sampleSetFingerprint : Option String

def ValidationFigures.checkRates (figures : ValidationFigures) : Except ValidationError Unit :=
  if figures.signaledSamples = 0 then
    require (figures.hitRate.isNone && figures.meanDirectionalReturn.isNone)
      "ValidationResult.hit_rate/mean_directional_return must be None when signaled_samples is 0 -- never fabricate a rate from zero signals"
  else do
    require figures.hitRate.isSome
      "ValidationResult.hit_rate must be a Decimal when signaled_samples > 0"
    require figures.meanDirectionalReturn.isSome
      "ValidationResult.mean_directional_return must be a Decimal when signaled_samples > 0"

def ValidationFigures.check (figures : ValidationFigures) : Except ValidationError Unit := do
  require (!PyText.isBlank figures.validatedAtUtc)
    "ValidationResult.validated_at_utc must be a non-empty string"
  require (figures.unavailableSamples + figures.flatSamples + figures.signaledSamples =
      figures.totalSamples)
    s!"ValidationResult: unavailable_samples + flat_samples + signaled_samples must equal total_samples ({figures.unavailableSamples}+{figures.flatSamples}+{figures.signaledSamples} != {figures.totalSamples})"
  require (figures.hits ≤ figures.signaledSamples)
    "ValidationResult.hits cannot exceed signaled_samples"
  figures.checkRates
  require (!figures.criteriaResults.isEmpty)
    "ValidationResult.criteria_results must be a non-empty tuple"
  require (figures.overallPassed = figures.criteriaResults.all fun result => result.outcome = .pass)
    "ValidationResult.overall_passed is inconsistent with criteria_results -- must be True iff every criterion's outcome is PASS"
  require (figures.sampleSetFingerprint.all fun fingerprint => !PyText.isBlank fingerprint)
    "ValidationResult.sample_set_fingerprint must be a non-empty string or None"

structure ValidationResult extends ValidationFigures where
  checked : toValidationFigures.check = .ok ()

def ValidationFigures.result (figures : ValidationFigures) :
    Except ValidationError ValidationResult :=
  match checked : figures.check with
  | .error error => .error error
  | .ok () => .ok { figures with checked }

theorem ValidationFigures.of_result {figures : ValidationFigures} {validated : ValidationResult}
    (built : figures.result = .ok validated) : validated.toValidationFigures = figures := by
  unfold ValidationFigures.result at built
  split at built
  · cases built
  · cases built
    rfl

theorem ValidationFigures.result_of_check {figures : ValidationFigures}
    (checked : figures.check = .ok ()) : figures.result = .ok { figures with checked } := by
  unfold ValidationFigures.result
  split
  · rename_i raised
    rw [checked] at raised
    cases raised
  · rfl

end TurtleExecution.Validation

/-
`run_bootstrap_resampling`: the hit rates of resampled samples, and their summary.

The generator is a parameter: for a seed and a number of samples it gives one index after the
other.
-/

import TurtleExecution.Validation.Results

set_option autoImplicit false

namespace TurtleExecution.Validation

open Candidates

structure BootstrapFigures where
  candidateName : NonBlank
  candidateVersion : NonBlank
  nResamples : Int
  resampleSize : Nat
  seed : Int
  resamplesWithHitRate : Nat
  meanHitRate : Option Decimal
  minHitRateObserved : Option Decimal
  maxHitRateObserved : Option Decimal
  fractionMeetingMinHitRate : Option Decimal
  validatedAtUtc : String

namespace BootstrapFigures

def orderMessage : String :=
  "BootstrapResult: min_hit_rate_observed <= mean_hit_rate <= max_hit_rate_observed must hold"

def requireBetween (low number high : Decimal) (message : String) :
    Except ValidationError Unit := do
  let above ← arithmetic (Arithmetic.le low number)
  let between ← if above then arithmetic (Arithmetic.le number high) else .ok false
  require between message

def checkObserved (figures : BootstrapFigures) : Except ValidationError Unit :=
  if figures.resamplesWithHitRate = 0 then
    require (figures.meanHitRate.isNone && figures.minHitRateObserved.isNone &&
        figures.maxHitRateObserved.isNone)
      "BootstrapResult.mean/min/max_hit_rate_observed must all be None when resamples_with_hit_rate is 0 -- never fabricate a distribution from zero observations"
  else
    match figures.minHitRateObserved, figures.meanHitRate, figures.maxHitRateObserved with
    | some least, some mean, some greatest => requireBetween least mean greatest orderMessage
    | _, _, _ => .error (.validation
        "BootstrapResult.mean/min/max_hit_rate_observed must all be Decimals when resamples_with_hit_rate > 0")

def checkFraction (figures : BootstrapFigures) : Except ValidationError Unit :=
  match figures.fractionMeetingMinHitRate with
  | none => .ok ()
  | some fraction => requireBetween Decimal.zero fraction (Decimal.ofInt 1)
      "BootstrapResult.fraction_meeting_min_hit_rate must be in [0, 1]"

def check (figures : BootstrapFigures) : Except ValidationError Unit := do
  require (0 ≤ figures.nResamples) "BootstrapResult.n_resamples must be a non-negative int"
  require (figures.resamplesWithHitRate ≤ figures.nResamples)
    "BootstrapResult.resamples_with_hit_rate cannot exceed n_resamples"
  figures.checkObserved
  figures.checkFraction
  require (!PyText.isBlank figures.validatedAtUtc)
    "BootstrapResult.validated_at_utc must be a non-empty string"

/-- There are no hit rates, or their mean is between the least and the greatest. -/
def Ordered (figures : BootstrapFigures) : Prop :=
  (figures.minHitRateObserved = none ∧ figures.meanHitRate = none ∧
      figures.maxHitRateObserved = none) ∨
    ∃ least mean greatest, figures.minHitRateObserved = some least ∧
      figures.meanHitRate = some mean ∧ figures.maxHitRateObserved = some greatest ∧
      Arithmetic.le least mean = .ok true ∧ Arithmetic.le mean greatest = .ok true

end BootstrapFigures

structure BootstrapResult extends BootstrapFigures where
  checked : toBootstrapFigures.check = .ok ()

def BootstrapFigures.result (figures : BootstrapFigures) :
    Except ValidationError BootstrapResult :=
  match checked : figures.check with
  | .error error => .error error
  | .ok () => .ok { figures with checked }

theorem BootstrapFigures.of_result {figures : BootstrapFigures} {built : BootstrapResult}
    (isBuilt : figures.result = .ok built) :
    built.toBootstrapFigures = figures ∧ figures.check = .ok () := by
  unfold BootstrapFigures.result at isBuilt
  split at isBuilt
  · cases isBuilt
  · rename_i checked
    cases isBuilt
    exact ⟨rfl, checked⟩

theorem BootstrapFigures.result_of_check {figures : BootstrapFigures}
    (checked : figures.check = .ok ()) : figures.result = .ok { figures with checked } := by
  unfold BootstrapFigures.result
  split
  · rename_i raised
    rw [checked] at raised
    cases raised
  · rfl

/-- `random.Random(seed)`, asked again and again for `randrange(count)`. -/
abbrev Generator : Type := Int → (count : Nat) → 0 < count → Nat → Fin count

def resampled (samples : List ValidationSample) (draw : Nat → Fin samples.length) (turn : Nat) :
    List ValidationSample :=
  (List.range samples.length).map fun place => samples.get (draw (turn * samples.length + place))

def resamplesOf (generator : Generator) (seed : Int) (samples : List ValidationSample)
    (nResamples : Int) : List (List ValidationSample) :=
  if someSamples : 0 < samples.length then
    (List.range nResamples.toNat).map (resampled samples (generator seed samples.length someSamples))
  else []

def requiredMinHitRate (texts : Texts) (specification : CandidateSpecification) :
    Except ValidationError (Option Decimal) :=
  match Dict.get? specification.acceptanceCriteria (.str minHitRateKey) with
  | none => .ok none
  | some .none => .ok none
  | some required => (minHitRateNumber texts required).map some

structure Scored where
  hitRates : List Decimal
  meetingCount : Nat

def meets (required : Option Decimal) (hitRate : Decimal) : Except ValidationError Bool :=
  match required with
  | none => .ok false
  | some required => arithmetic (Arithmetic.le required hitRate)

def Scored.add (scored : Scored) (required : Option Decimal) :
    Option Decimal → Except ValidationError Scored
  | none => .ok scored
  | some hitRate => do
      let meeting ← meets required hitRate
      return { hitRates := scored.hitRates ++ [hitRate]
               meetingCount := if meeting then scored.meetingCount + 1 else scored.meetingCount }

def observed : List Decimal → Except ValidationError (Option (Decimal × Decimal × Decimal))
  | [] => .ok none
  | first :: rest => do
      let mean ← arithmetic (Decimal.meanOf (first :: rest))
      let least ← arithmetic (minOf first rest)
      let greatest ← arithmetic (maxOf first rest)
      return some (mean, least, greatest)

def fractionMeeting (required : Option Decimal) (meetingCount : Nat) (nResamples : Int) :
    Except ValidationError (Option Decimal) :=
  match required with
  | none => .ok none
  | some _ => (arithmetic
      (Arithmetic.div (Decimal.ofInt meetingCount) (Decimal.ofInt nResamples))).map some

def summaryFigures (specification : CandidateSpecification) (nResamples : Int)
    (resampleSize : Nat) (seed : Int) (resamplesWithHitRate : Nat)
    (summary : Option (Decimal × Decimal × Decimal)) (fraction : Option Decimal)
    (validatedAtUtc : String) : BootstrapFigures :=
  { candidateName := specification.name
    candidateVersion := specification.version
    nResamples
    resampleSize
    seed
    resamplesWithHitRate
    meanHitRate := summary.map fun numbers => numbers.1
    minHitRateObserved := summary.map fun numbers => numbers.2.1
    maxHitRateObserved := summary.map fun numbers => numbers.2.2
    fractionMeetingMinHitRate := fraction
    validatedAtUtc }

section

variable {State : Type}

def scoreResamples (texts : Texts) (clock : Process State ValidationError String)
    (evaluateFn : EvaluateFn) (specification : CandidateSpecification)
    (required : Option Decimal) :
    Scored → List (List ValidationSample) → Process State ValidationError Scored
  | scored, [] => return scored
  | scored, resample :: resamples => do
      let result ← runValidation texts clock evaluateFn specification resample
      let scored ← Process.ofExcept (scored.add required result.hitRate)
      scoreResamples texts clock evaluateFn specification required scored resamples

def runBootstrapResampling (texts : Texts) (clock : Process State ValidationError String)
    (generator : Generator) (evaluateFn : EvaluateFn) (specification : CandidateSpecification)
    (samples : List ValidationSample) (nResamples seed : Int) :
    Process State ValidationError BootstrapResult := do
  let _nonempty ← Process.ofExcept (require (!samples.isEmpty) nonEmptySamples)
  let _positive ← Process.ofExcept (require (0 < nResamples) "n_resamples must be a positive int")
  let required ← Process.ofExcept (requiredMinHitRate texts specification)
  let scored ← scoreResamples texts clock evaluateFn specification required
    { hitRates := [], meetingCount := 0 } (resamplesOf generator seed samples nResamples)
  let summary ← Process.ofExcept (observed scored.hitRates)
  let fraction ← Process.ofExcept (fractionMeeting required scored.meetingCount nResamples)
  let validatedAtUtc ← clock
  Process.ofExcept (summaryFigures specification nResamples samples.length seed
    scored.hitRates.length summary fraction validatedAtUtc).result

end

end TurtleExecution.Validation

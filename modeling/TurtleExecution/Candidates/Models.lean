/-
Features and candidates: what a feature computes, the specification of a hypothesis, and the
signals that it gives.

A result is never both available and without a value, so the checks that its constructor
makes are those of its type.  A specification is checked when it is built.  Its acceptance
criteria and parameters are whatever `json.dumps` writes.
-/

import TurtleExecution.ExchangeAdapter.Models
import TurtleExecution.Foundation.JsonCopy

set_option autoImplicit false

namespace TurtleExecution.Features

open ExchangeAdapter

inductive Availability (Value : Type)
  | available (value : Value)
  | unavailable (reason : NonBlank)
  deriving DecidableEq

namespace Availability

variable {Value : Type}

def value? : Availability Value → Option Value
  | available value => some value
  | unavailable _ => none

def reason? : Availability Value → Option NonBlank
  | available _ => none
  | unavailable reason => some reason

end Availability

structure FeatureValue (Number : Type) where
  featureName : NonBlank
  featureVersion : NonBlank
  symbol : Symbol
  computedAtUtc : NonBlank
  result : Availability Number
  deriving DecidableEq

end TurtleExecution.Features

namespace TurtleExecution.Candidates

open ExchangeAdapter Features

structure CandidateSpecification where
  name : NonBlank
  version : NonBlank
  candidateType : NonBlank
  «universe» : List Symbol
  featureName : NonBlank
  featureVersion : NonBlank
  cadenceSeconds : Int
  acceptanceCriteria : PyDict
  parameters : PyDict
  universe_nonempty : «universe» ≠ []
  cadence_pos : 0 < cadenceSeconds
  criteria_nonempty : acceptanceCriteria ≠ []
  criteria_written : (PyValue.membersOf acceptanceCriteria).isSome = true
  parameters_written : (PyValue.membersOf parameters).isSome = true

theorem minute_pos : (0 : Int) < 60 := by decide

inductive SignalDirection
  | long
  | short
  | flat
  deriving DecidableEq, Repr

def SignalDirection.value : SignalDirection → String
  | long => "long"
  | short => "short"
  | flat => "flat"

structure Opinion (Number : Type) where
  direction : SignalDirection
  featureValue : Number
  threshold : Number
  deriving DecidableEq

structure CandidateSignal (Number : Type) where
  candidateName : NonBlank
  candidateVersion : NonBlank
  symbol : Symbol
  evaluatedAtUtc : NonBlank
  result : Availability (Opinion Number)
  deriving DecidableEq

variable {Number : Type}

def CandidateSignal.direction? (signal : CandidateSignal Number) : Option SignalDirection :=
  match signal.result with
  | .available opinion => some opinion.direction
  | .unavailable _ => none

def CandidateSignal.directional (signal : CandidateSignal Number) : Bool :=
  signal.direction? = some .long ∨ signal.direction? = some .short

end TurtleExecution.Candidates

/-
Idempotency keys of a portfolio manager.

A key names the operation, the position or reference it is about, if any, and the
caller's own id of the request, the leg, the payment or the fee.
-/

import TurtleExecution.Foundation.Delimited

set_option autoImplicit false

namespace TurtleExecution.PortfolioManager

open Delimited

def eventSourceTag : String := "portfolio_manager"

def namespacedKey (pmId key : String) : String :=
  eventSourceTag ++ ":" ++ pmId ++ ":" ++ key

inductive MutationKey
  | deposit (requestId : String)
  | withdraw (requestId : String)
  | reserveMargin (positionId requestId : String)
  | allocateMargin (positionId requestId : String)
  | releaseMargin (positionId requestId : String)
  | realizedPnl (positionId legId : String)
  | funding (positionId fundingId : String)
  | fee (referenceId feeId : String)
  | updateMarks (requestId : String)
  deriving DecidableEq

namespace MutationKey

def operation : MutationKey → String
  | deposit _ => "deposit"
  | withdraw _ => "withdraw"
  | reserveMargin _ _ => "reserve_margin"
  | allocateMargin _ _ => "allocate_margin"
  | releaseMargin _ _ => "release_margin"
  | realizedPnl _ _ => "realized_pnl"
  | funding _ _ => "funding"
  | fee _ _ => "fee"
  | updateMarks _ => "update_marks"

def subject? : MutationKey → Option String
  | deposit _ => none
  | withdraw _ => none
  | reserveMargin positionId _ => some positionId
  | allocateMargin positionId _ => some positionId
  | releaseMargin positionId _ => some positionId
  | realizedPnl positionId _ => some positionId
  | funding positionId _ => some positionId
  | fee referenceId _ => some referenceId
  | updateMarks _ => none

def callerId : MutationKey → String
  | deposit requestId => requestId
  | withdraw requestId => requestId
  | reserveMargin _ requestId => requestId
  | allocateMargin _ requestId => requestId
  | releaseMargin _ requestId => requestId
  | realizedPnl _ legId => legId
  | funding _ fundingId => fundingId
  | fee _ feeId => feeId
  | updateMarks requestId => requestId

def ids (key : MutationKey) : String :=
  match key.subject? with
  | none => key.callerId
  | some subject => subject ++ ":" ++ key.callerId

def text (key : MutationKey) : String :=
  key.operation ++ ":" ++ key.ids

private theorem colonFree_operation (key : MutationKey) : ColonFree key.operation := by
  cases key <;> (simp only [operation]; decide)

variable {key other : MutationKey}

private theorem fields_injective (operations : key.operation = other.operation)
    (subjects : key.subject? = other.subject?) (callerIds : key.callerId = other.callerId) :
    key = other := by
  cases key <;> cases other <;>
    simp_all only [operation, subject?, callerId, String.reduceEq, Option.some.injEq]

private theorem subject?_isSome (operations : key.operation = other.operation) :
    key.subject?.isSome = other.subject?.isSome := by
  cases key <;> cases other <;> first | rfl | simp only [operation, String.reduceEq] at operations

theorem text_injective
    (apart : ∀ subject ∈ key.subject?, ∀ otherSubject ∈ other.subject?,
      ¬ Continues subject otherSubject ∧ ¬ Continues otherSubject subject)
    (same : key.text = other.text) : key = other := by
  obtain ⟨operations, fields⟩ := append_colon_injective key.colonFree_operation
    other.colonFree_operation same
  have alike := subject?_isSome operations
  unfold ids at fields
  cases subjects : key.subject? with
  | none =>
      cases otherSubjects : other.subject? with
      | none =>
          rw [subjects, otherSubjects] at fields
          exact fields_injective operations (subjects.trans otherSubjects.symm) fields
      | some otherSubject =>
          rw [subjects, otherSubjects] at alike
          cases alike
  | some subject =>
      cases otherSubjects : other.subject? with
      | none =>
          rw [subjects, otherSubjects] at alike
          cases alike
      | some otherSubject =>
          rw [subjects, otherSubjects] at fields
          obtain ⟨before, after⟩ := apart subject subjects otherSubject otherSubjects
          obtain ⟨rfl, callerIds⟩ := append_colon_separated before after fields
          exact fields_injective operations (subjects.trans otherSubjects.symm) callerIds

end MutationKey

end TurtleExecution.PortfolioManager

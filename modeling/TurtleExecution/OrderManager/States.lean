/-
States and triggers of one order's lifecycle, and its transition table.
-/

import TurtleExecution.Foundation.TransitionTable

set_option autoImplicit false

namespace TurtleExecution.OrderManager

inductive OrderLifecycleState
  | new
  | submitted
  | acknowledged
  | partiallyFilled
  | filled
  | cancelPending
  | cancelled
  | rejected
  | expired
  | failed
  deriving DecidableEq, Repr

namespace OrderLifecycleState

def value : OrderLifecycleState → String
  | new => "NEW"
  | submitted => "SUBMITTED"
  | acknowledged => "ACKNOWLEDGED"
  | partiallyFilled => "PARTIALLY_FILLED"
  | filled => "FILLED"
  | cancelPending => "CANCEL_PENDING"
  | cancelled => "CANCELLED"
  | rejected => "REJECTED"
  | expired => "EXPIRED"
  | failed => "FAILED"

end OrderLifecycleState

inductive OrderLifecycleTrigger
  | submit
  | acknowledged
  | rejected
  | submitFailed
  | partialFill
  | fullFill
  | cancelRequested
  | cancelRetryAcknowledged
  | cancelConfirmed
  | cancelFailed
  | expired
  deriving DecidableEq, Repr

namespace OrderLifecycleTrigger

def value : OrderLifecycleTrigger → String
  | submit => "SUBMIT"
  | acknowledged => "ACKNOWLEDGED"
  | rejected => "REJECTED"
  | submitFailed => "SUBMIT_FAILED"
  | partialFill => "PARTIAL_FILL"
  | fullFill => "FULL_FILL"
  | cancelRequested => "CANCEL_REQUESTED"
  | cancelRetryAcknowledged => "CANCEL_RETRY_ACKNOWLEDGED"
  | cancelConfirmed => "CANCEL_CONFIRMED"
  | cancelFailed => "CANCEL_FAILED"
  | expired => "EXPIRED"

end OrderLifecycleTrigger

def transitionTable : TransitionTable OrderLifecycleState OrderLifecycleTrigger :=
  [(.new, .submit, .submitted),
    (.submitted, .acknowledged, .acknowledged),
    (.submitted, .rejected, .rejected),
    (.submitted, .submitFailed, .failed),
    (.acknowledged, .partialFill, .partiallyFilled),
    (.acknowledged, .fullFill, .filled),
    (.acknowledged, .cancelRequested, .cancelPending),
    (.acknowledged, .expired, .expired),
    (.partiallyFilled, .partialFill, .partiallyFilled),
    (.partiallyFilled, .fullFill, .filled),
    (.partiallyFilled, .cancelRequested, .cancelPending),
    (.partiallyFilled, .expired, .expired),
    (.partiallyFilled, .cancelConfirmed, .cancelled),
    (.cancelPending, .cancelConfirmed, .cancelled),
    (.cancelPending, .partialFill, .partiallyFilled),
    (.cancelPending, .fullFill, .filled),
    (.cancelPending, .cancelRetryAcknowledged, .cancelPending),
    (.cancelPending, .cancelFailed, .failed)]

def nextState? (state : OrderLifecycleState) (trigger : OrderLifecycleTrigger) :
    Option OrderLifecycleState :=
  TransitionTable.nextState? transitionTable state trigger

def isTerminal (state : OrderLifecycleState) : Bool :=
  TransitionTable.isTerminal transitionTable state

def stateRank : OrderLifecycleState → Nat
  | .new => 0
  | .submitted => 1
  | .acknowledged => 2
  | .partiallyFilled => 3
  | .cancelPending => 3
  | .filled => 4
  | .cancelled => 4
  | .rejected => 4
  | .expired => 4
  | .failed => 4

def triggerMinTargetRank (trigger : OrderLifecycleTrigger) : Nat :=
  let ranks := (transitionTable.filter fun edge => edge.2.1 = trigger).map fun edge =>
    stateRank edge.2.2
  ranks.tail.foldl min (ranks.headD 0)

theorem not_isTerminal_of_nextState? {state target : OrderLifecycleState}
    {trigger : OrderLifecycleTrigger} (next : nextState? state trigger = some target) :
    isTerminal state = false :=
  TransitionTable.not_isTerminal_of_nextState? next

def Answered (state : OrderLifecycleState) : Prop :=
  state ≠ .new ∧ state ≠ .submitted

instance : DecidablePred Answered := fun state =>
  inferInstanceAs (Decidable (state ≠ .new ∧ state ≠ .submitted))

theorem closedUnder_answered : TransitionTable.ClosedUnder transitionTable Answered := by
  decide

end TurtleExecution.OrderManager

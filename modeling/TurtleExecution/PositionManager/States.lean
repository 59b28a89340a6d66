/-
States and triggers of one position's lifecycle, and its transition table.
-/

import TurtleExecution.Foundation.TransitionTable

set_option autoImplicit false

namespace TurtleExecution.PositionManager

inductive PositionLifecycleState
  | new
  | opened
  | partiallyFilled
  | fullyFilled
  | t1Reached
  | breakevenActive
  | t2Reached
  | stopTriggered
  | closed
  | archived
  deriving DecidableEq, Repr

def PositionLifecycleState.value : PositionLifecycleState → String
  | new => "NEW"
  | opened => "OPEN"
  | partiallyFilled => "PARTIALLY_FILLED"
  | fullyFilled => "FULLY_FILLED"
  | t1Reached => "T1_REACHED"
  | breakevenActive => "BREAKEVEN_ACTIVE"
  | t2Reached => "T2_REACHED"
  | stopTriggered => "STOP_TRIGGERED"
  | closed => "CLOSED"
  | archived => "ARCHIVED"

inductive PositionLifecycleTrigger
  | firstFill
  | entryPartial
  | entryComplete
  | t1
  | breakeven
  | t2
  | stop
  | close
  | completeClose
  | archive
  deriving DecidableEq, Repr

def PositionLifecycleTrigger.value : PositionLifecycleTrigger → String
  | firstFill => "FIRST_FILL"
  | entryPartial => "ENTRY_PARTIAL"
  | entryComplete => "ENTRY_COMPLETE"
  | t1 => "T1"
  | breakeven => "BREAKEVEN"
  | t2 => "T2"
  | stop => "STOP"
  | close => "CLOSE"
  | completeClose => "COMPLETE_CLOSE"
  | archive => "ARCHIVE"

def transitionTable : TransitionTable PositionLifecycleState PositionLifecycleTrigger :=
  [(.new, .firstFill, .opened),
    (.opened, .entryPartial, .partiallyFilled),
    (.opened, .entryComplete, .fullyFilled),
    (.partiallyFilled, .entryPartial, .partiallyFilled),
    (.partiallyFilled, .entryComplete, .fullyFilled),
    (.partiallyFilled, .close, .closed),
    (.partiallyFilled, .stop, .stopTriggered),
    (.fullyFilled, .t1, .t1Reached),
    (.fullyFilled, .stop, .stopTriggered),
    (.fullyFilled, .close, .closed),
    (.t1Reached, .breakeven, .breakevenActive),
    (.breakevenActive, .t2, .t2Reached),
    (.breakevenActive, .stop, .stopTriggered),
    (.breakevenActive, .close, .closed),
    (.t2Reached, .completeClose, .closed),
    (.stopTriggered, .completeClose, .closed),
    (.closed, .archive, .archived)]

def nextState? (state : PositionLifecycleState) (trigger : PositionLifecycleTrigger) :
    Option PositionLifecycleState :=
  TransitionTable.nextState? transitionTable state trigger

def isTerminal (state : PositionLifecycleState) : Bool :=
  TransitionTable.isTerminal transitionTable state

def stateRank : PositionLifecycleState → Nat
  | .new => 0
  | .opened => 1
  | .partiallyFilled => 2
  | .fullyFilled => 3
  | .t1Reached => 4
  | .breakevenActive => 5
  | .t2Reached => 6
  | .stopTriggered => 6
  | .closed => 7
  | .archived => 8

def triggerMinTargetRank (trigger : PositionLifecycleTrigger) : Nat :=
  let ranks := (transitionTable.filter fun edge => edge.2.1 = trigger).map fun edge =>
    stateRank edge.2.2
  ranks.tail.foldl min (ranks.headD 0)

theorem isTerminal_iff (state : PositionLifecycleState) :
    isTerminal state = true ↔ state = .archived := by
  cases state <;> decide

def Finished (state : PositionLifecycleState) : Prop :=
  state = .closed ∨ state = .archived

instance : DecidablePred Finished := fun state =>
  inferInstanceAs (Decidable (state = .closed ∨ state = .archived))

theorem nextState?_ne_new {state target : PositionLifecycleState}
    {trigger : PositionLifecycleTrigger} (next : nextState? state trigger = some target) :
    target ≠ .new := by
  have away : ∀ edge ∈ transitionTable, edge.2.2 ≠ .new := by decide
  exact away _ (TransitionTable.mem_of_nextState? next)

end TurtleExecution.PositionManager

/-
Position ids and idempotency keys of a position manager.

A position id is derived from the manager's id and a sequence number, and a key
from the position's id and the fill or the payment it is about.
-/

import TurtleExecution.Foundation.Delimited

set_option autoImplicit false

namespace TurtleExecution.PositionManager

open Delimited

def eventSourceTag : String := "position_manager"

def makeId (pmId : String) (seq : Nat) (suffix : String) : String :=
  "pm:" ++ pmId ++ ":" ++ toString seq ++ ":" ++ suffix

def positionIdOf (pmId : String) (seq : Nat) : String := makeId pmId seq "position"

private theorem positionIdOf_append_injective {pmId rest otherRest : String} {seq other : Nat}
    (same : positionIdOf pmId seq ++ rest = positionIdOf pmId other ++ otherRest) :
    seq = other ∧ rest = otherRest := by
  have whole : makeId pmId seq ("position" ++ rest) = makeId pmId other ("position" ++ otherRest) := by
    simp only [positionIdOf, makeId, String.append_assoc] at same ⊢
    exact same
  obtain ⟨seqs, suffixes⟩ := numbered_injective whole
  exact ⟨seqs, append_left_injective suffixes⟩

def namespacedKey (pmId idempotencyKey : String) : String :=
  eventSourceTag ++ ":" ++ pmId ++ ":" ++ idempotencyKey

inductive PureTransition
  | breakeven
  | completeClose
  | archive
  deriving DecidableEq, Repr

def PureTransition.tag : PureTransition → String
  | breakeven => "breakeven"
  | completeClose => "complete_close"
  | archive => "archive"

theorem PureTransition.tag_injective {change other : PureTransition}
    (same : change.tag = other.tag) : change = other := by
  revert same
  cases change <;> cases other <;> decide

inductive MutationKey
  | create (positionId : String)
  | opening (positionId fillId : String)
  | entry (positionId fillId : String)
  | exit (positionId fillId : String)
  | transition (positionId : String) (change : PureTransition)
  | funding (positionId fundingId : String)
  deriving DecidableEq

namespace MutationKey

def positionId : MutationKey → String
  | create positionId => positionId
  | opening positionId _ => positionId
  | entry positionId _ => positionId
  | exit positionId _ => positionId
  | transition positionId _ => positionId
  | funding positionId _ => positionId

def tail : MutationKey → KeyTail
  | create _ => .bare
  | opening _ fillId => .detail "open" fillId
  | entry _ fillId => .detail "entry" fillId
  | exit _ fillId => .detail "exit" fillId
  | transition _ change => .word change.tag
  | funding _ fundingId => .detail "funding" fundingId

def text (key : MutationKey) : String :=
  key.positionId ++ key.tail.text

private theorem tail_colonFreeName (key : MutationKey) : key.tail.ColonFreeName := by
  cases key with
  | create positionId => trivial
  | transition positionId change => cases change <;> (change ColonFree _; decide)
  | opening | entry | exit | funding => change ColonFree _; decide

private theorem tail_injective {key other : MutationKey} (ids : key.positionId = other.positionId)
    (same : key.tail = other.tail) : key = other := by
  cases key <;> cases other <;>
    simp_all only [positionId, tail, KeyTail.detail.injEq, KeyTail.word.injEq, reduceCtorEq,
      String.reduceEq, false_and]
  case transition.transition => rw [PureTransition.tag_injective same]

theorem text_injective {pmId : String} {key other : MutationKey} {seq otherSeq : Nat}
    (own : key.positionId = positionIdOf pmId seq)
    (otherOwn : other.positionId = positionIdOf pmId otherSeq)
    (same : key.text = other.text) : key = other := by
  unfold text at same
  rw [own, otherOwn] at same
  obtain ⟨rfl, tails⟩ := positionIdOf_append_injective same
  exact tail_injective (own.trans otherOwn.symm)
    (KeyTail.text_injective key.tail_colonFreeName other.tail_colonFreeName tails)

end MutationKey

end TurtleExecution.PositionManager

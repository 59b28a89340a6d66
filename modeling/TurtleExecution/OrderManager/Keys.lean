/-
Request ids and idempotency keys of an order manager.

A request id is derived from the manager's id and a sequence number.  Every event
has a key that is built from the ids of the order and of the request it is about;
keys of different mutations are different texts.
-/

import TurtleExecution.Foundation.Delimited
import TurtleExecution.OrderManager.States

set_option autoImplicit false

namespace TurtleExecution.OrderManager

open Delimited

def eventSourceTag : String := "order_manager"

def makeId (omId : String) (seq : Nat) (suffix : String) : String :=
  "om:" ++ omId ++ ":" ++ toString seq ++ ":" ++ suffix

variable {omId : String}

theorem makeId_injective {seq other : Nat} {suffix otherSuffix : String}
    (same : makeId omId seq suffix = makeId omId other otherSuffix) :
    seq = other ∧ suffix = otherSuffix :=
  numbered_injective same

/-- The client order id of the order that was placed under a sequence number. -/
def placeId (omId : String) (order : Nat) : String := makeId omId order "place"

theorem placeId_injective {order other : Nat} (same : placeId omId order = placeId omId other) :
    order = other :=
  (makeId_injective same).1

/-- The prefix that `_persist` puts in front of a key. -/
def keyNamespace (omId : String) : String := eventSourceTag ++ ":" ++ omId ++ ":"

def namespacedKey (omId idempotencyKey : String) : String := keyNamespace omId ++ idempotencyKey

theorem namespacedKey_injective {omId key other : String}
    (same : namespacedKey omId key = namespacedKey omId other) : key = other :=
  append_left_injective same

/-- A recorded mutation, by the sequence numbers of its order and its request. -/
inductive MutationKey
  | submit (order : Nat)
  | status (order : Nat) (trigger : OrderLifecycleTrigger) (state : OrderLifecycleState)
  | submitFailed (order : Nat)
  | amendRequested (order request : Nat)
  | amendApplied (order request : Nat)
  | cancel (order request : Nat)
  | cancelFailed (order request : Nat)
  | cancelAll (request : Nat)
  | cancelAllPending (order request : Nat)
  | cancelAllConfirmed (order request : Nat)
  | fill (order : Nat) (fillId : String)
  deriving DecidableEq

inductive KeyForm
  | ofRequest (requestId : String)
  | ofOrder (order : Nat) (tail : KeyTail)

def KeyForm.text (omId : String) : KeyForm → String
  | ofRequest requestId => "cancel_all:" ++ requestId
  | ofOrder order tail => placeId omId order ++ tail.text

def MutationKey.form (omId : String) : MutationKey → KeyForm
  | submit order => .ofOrder order .bare
  | status order trigger state =>
      .ofOrder order (.detail "status" (trigger.value ++ ":" ++ state.value))
  | submitFailed order => .ofOrder order (.word "submit_failed")
  | amendRequested order request =>
      .ofOrder order (.detail "amend_req" (makeId omId request "amend"))
  | amendApplied order request =>
      .ofOrder order (.detail "amend_applied" (makeId omId request "amend"))
  | cancel order request => .ofOrder order (.detail "cancel" (makeId omId request "cancel"))
  | cancelFailed order request =>
      .ofOrder order (.detail "cancel_failed" (makeId omId request "cancel"))
  | cancelAll request => .ofRequest (makeId omId request "cancel_all")
  | cancelAllPending order request =>
      .ofOrder order (.detail "cancel_all_pending" (makeId omId request "cancel_all"))
  | cancelAllConfirmed order request =>
      .ofOrder order (.detail "cancel_all_confirm" (makeId omId request "cancel_all"))
  | fill order fillId => .ofOrder order (.detail "fill" fillId)

def MutationKey.text (omId : String) (key : MutationKey) : String :=
  (key.form omId).text omId

private theorem placeId_append_injective {order other : Nat} {rest otherRest : String}
    (same : placeId omId order ++ rest = placeId omId other ++ otherRest) :
    order = other ∧ rest = otherRest := by
  have whole : makeId omId order ("place" ++ rest) = makeId omId other ("place" ++ otherRest) := by
    simp only [placeId, makeId, String.append_assoc] at same ⊢
    exact same
  obtain ⟨orders, suffixes⟩ := makeId_injective whole
  exact ⟨orders, append_left_injective suffixes⟩

private theorem cancelAll_ne_placeId {omId requestId rest : String} {order : Nat} :
    "cancel_all:" ++ requestId ≠ placeId omId order ++ rest := by
  intro same
  have chars := congrArg String.toList same
  simp [placeId, makeId] at chars

def KeyForm.ColonFreeName : KeyForm → Prop
  | ofRequest _ => True
  | ofOrder _ tail => tail.ColonFreeName

theorem KeyForm.text_injective {form other : KeyForm} (free : form.ColonFreeName)
    (otherFree : other.ColonFreeName) (same : form.text omId = other.text omId) : form = other := by
  cases form with
  | ofRequest requestId =>
      cases other with
      | ofRequest otherId => exact congrArg ofRequest (append_left_injective same)
      | ofOrder order tail => exact (cancelAll_ne_placeId same).elim
  | ofOrder order tail =>
      cases other with
      | ofRequest otherId => exact (cancelAll_ne_placeId same.symm).elim
      | ofOrder other otherTail =>
          obtain ⟨rfl, tails⟩ := placeId_append_injective same
          rw [KeyTail.text_injective free otherFree tails]

theorem MutationKey.form_colonFreeName (omId : String) (key : MutationKey) :
    (key.form omId).ColonFreeName := by
  cases key <;> first | trivial | (change ColonFree _; decide)

theorem OrderLifecycleTrigger.colonFree_value (trigger : OrderLifecycleTrigger) :
    ColonFree trigger.value := by
  cases trigger <;> decide

theorem OrderLifecycleTrigger.value_injective {trigger other : OrderLifecycleTrigger}
    (same : trigger.value = other.value) : trigger = other := by
  revert same
  cases trigger <;> cases other <;> decide

theorem OrderLifecycleState.value_injective {state other : OrderLifecycleState}
    (same : state.value = other.value) : state = other := by
  revert same
  cases state <;> cases other <;> decide

theorem MutationKey.form_injective {key other : MutationKey}
    (same : key.form omId = other.form omId) : key = other := by
  cases key <;> cases other <;>
    simp only [form, KeyForm.ofOrder.injEq, KeyForm.ofRequest.injEq, KeyTail.detail.injEq,
      reduceCtorEq, and_false, String.reduceEq, false_and] at same
  case submit.submit => rw [same.1]
  case status.status =>
    obtain ⟨rfl, _, values⟩ := same
    obtain ⟨triggers, states⟩ := append_colon_injective
      (OrderLifecycleTrigger.colonFree_value _) (OrderLifecycleTrigger.colonFree_value _) values
    rw [OrderLifecycleTrigger.value_injective triggers, OrderLifecycleState.value_injective states]
  case submitFailed.submitFailed => rw [same.1]
  case cancelAll.cancelAll => rw [(makeId_injective same).1]
  case fill.fill => rw [same.1, same.2.2]
  all_goals rw [same.1, (makeId_injective same.2.2).1]

theorem MutationKey.text_injective {key other : MutationKey}
    (same : key.text omId = other.text omId) : key = other :=
  form_injective (KeyForm.text_injective (form_colonFreeName omId key)
    (form_colonFreeName omId other) same)

theorem text_submit (omId : String) (order : Nat) :
    (MutationKey.submit order).text omId = placeId omId order :=
  String.append_empty

theorem text_status (omId : String) (order : Nat) (trigger : OrderLifecycleTrigger) (state : OrderLifecycleState) :
    (MutationKey.status order trigger state).text omId =
      placeId omId order ++ ":status:" ++ trigger.value ++ ":" ++ state.value := by
  change placeId omId order ++ (KeyTail.detail "status" _).text = _
  rw [KeyTail.detail_text, ← String.append_assoc, ← String.append_assoc]
  rfl

theorem text_submitFailed (omId : String) (order : Nat) :
    (MutationKey.submitFailed order).text omId = placeId omId order ++ ":submit_failed" :=
  rfl

theorem text_amendRequested (omId : String) (order request : Nat) :
    (MutationKey.amendRequested order request).text omId =
      placeId omId order ++ ":amend_req:" ++ makeId omId request "amend" :=
  KeyTail.detail_text _ _ _

theorem text_amendApplied (omId : String) (order request : Nat) :
    (MutationKey.amendApplied order request).text omId =
      placeId omId order ++ ":amend_applied:" ++ makeId omId request "amend" :=
  KeyTail.detail_text _ _ _

theorem text_cancel (omId : String) (order request : Nat) :
    (MutationKey.cancel order request).text omId =
      placeId omId order ++ ":cancel:" ++ makeId omId request "cancel" :=
  KeyTail.detail_text _ _ _

theorem text_cancelFailed (omId : String) (order request : Nat) :
    (MutationKey.cancelFailed order request).text omId =
      placeId omId order ++ ":cancel_failed:" ++ makeId omId request "cancel" :=
  KeyTail.detail_text _ _ _

theorem text_cancelAllPending (omId : String) (order request : Nat) :
    (MutationKey.cancelAllPending order request).text omId =
      placeId omId order ++ ":cancel_all_pending:" ++ makeId omId request "cancel_all" :=
  KeyTail.detail_text _ _ _

theorem text_cancelAllConfirmed (omId : String) (order request : Nat) :
    (MutationKey.cancelAllConfirmed order request).text omId =
      placeId omId order ++ ":cancel_all_confirm:" ++ makeId omId request "cancel_all" :=
  KeyTail.detail_text _ _ _

theorem text_fill (omId : String) (order : Nat) (fillId : String) :
    (MutationKey.fill order fillId).text omId =
      placeId omId order ++ ":fill:" ++ fillId :=
  KeyTail.detail_text _ _ _

end TurtleExecution.OrderManager

/-
The keys of the execution state machines and of the order id mappings in one store.

A key is a tag and two texts, each of which shows where it ends by its length before it or by
ending the key.  So a key determines its texts, whatever characters they hold, and its kind.
-/

import TurtleExecution.ExecutionStateMachine.Machine
import TurtleExecution.HyperliquidAdapter.Mapping

set_option autoImplicit false

namespace TurtleExecution.SharedStore

open Delimited

inductive NamespacedKey
  | machine (machineId requestId : String)
  /-- The key of the event that maps an order id to a token. -/
  | mapping (account token : String)
  deriving DecidableEq

namespace NamespacedKey

def text : NamespacedKey → String
  | machine machineId requestId => ExecutionStateMachine.namespacedKey machineId requestId
  | mapping account token => HyperliquidAdapter.tokenKey account token

private theorem toList_machine (machineId requestId : String) :
    (machine machineId requestId).text.toList =
      "execution_state_machine:".toList ++
        (countedText machineId ++ (':' :: countedText requestId)) := by
  simp [text, ExecutionStateMachine.namespacedKey, ExecutionStateMachine.eventSourceTag,
    countedText, toString]

private theorem toList_mapping (account token : String) :
    (mapping account token).text.toList =
      "hyperliquid_adapter:".toList ++ (countedText account ++ (':' :: token.toList)) := by
  simp [text, HyperliquidAdapter.tokenKey, HyperliquidAdapter.sourceTag, countedText]

private theorem machine_ne_mapping (machineId requestId account token : String) :
    (machine machineId requestId).text ≠ (mapping account token).text := by
  intro same
  have chars := congrArg String.toList same
  rw [toList_machine, toList_mapping] at chars
  have first := congrArg List.head? chars
  simp at first

private theorem machine_injective {machineId requestId otherId otherRequest : String}
    (same : (machine machineId requestId).text = (machine otherId otherRequest).text) :
    machineId = otherId ∧ requestId = otherRequest := by
  have chars := congrArg String.toList same
  rw [toList_machine, toList_machine] at chars
  obtain ⟨machineIds, requests⟩ :=
    countedText_delimits machineId otherId _ _ trivial trivial (List.append_cancel_left chars)
  exact ⟨machineIds, countedText_delimits.injective trivial trivial (List.tail_eq_of_cons_eq requests)⟩

private theorem mapping_injective {account token otherAccount otherToken : String}
    (same : (mapping account token).text = (mapping otherAccount otherToken).text) :
    account = otherAccount ∧ token = otherToken := by
  have chars := congrArg String.toList same
  rw [toList_mapping, toList_mapping] at chars
  obtain ⟨accounts, tokens⟩ :=
    countedText_delimits account otherAccount _ _ trivial trivial (List.append_cancel_left chars)
  exact ⟨accounts, String.toList_injective (List.tail_eq_of_cons_eq tokens)⟩

private theorem text_injective : Function.Injective text := by
  intro key other same
  cases key with
  | machine machineId requestId =>
      cases other with
      | machine otherId otherRequest =>
          obtain ⟨rfl, rfl⟩ := machine_injective same
          rfl
      | mapping account token => exact (machine_ne_mapping _ _ _ _ same).elim
  | mapping account token =>
      cases other with
      | machine machineId requestId => exact (machine_ne_mapping _ _ _ _ same.symm).elim
      | mapping otherAccount otherToken =>
          obtain ⟨rfl, rfl⟩ := mapping_injective same
          rfl

/-- Two keys are one text exactly where they are of one kind and of the same two texts. -/
theorem text_eq_iff (key other : NamespacedKey) : key.text = other.text ↔ key = other :=
  text_injective.eq_iff

example : (machine "1:A" "B").text ≠ (machine "1" "A:1:B").text := by decide

end NamespacedKey

end TurtleExecution.SharedStore

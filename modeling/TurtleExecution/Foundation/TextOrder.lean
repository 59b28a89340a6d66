/-
The order of texts by code points, and of pairs of texts.

A stable sort puts a least item first, and of several least ones that which came first.
-/

import Mathlib.Data.List.Lex
import Mathlib.Data.List.Sort
import Mathlib.Data.Prod.Lex
import Mathlib.Data.String.Basic
import TurtleExecution.Foundation.PyText

set_option autoImplicit false

namespace TurtleExecution

instance : LinearOrder PyStr :=
  LinearOrder.lift' (fun text => text.points.map CodePoint.code) fun _ _ same =>
    PyStr.points_injective (List.map_injective_iff.mpr CodePoint.code_injective same)

section

variable {Text : Type} [LinearOrder Text]

def TextPairLe (left right : Text × Text) : Prop :=
  toLex left ≤ toLex right

instance : DecidableRel (@TextPairLe Text _) :=
  fun left right => inferInstanceAs (Decidable (toLex left ≤ toLex right))

instance : Std.Total (@TextPairLe Text _) :=
  ⟨fun left right => le_total (toLex left) (toLex right)⟩

instance : IsTrans (Text × Text) TextPairLe :=
  ⟨fun _ _ _ => le_trans⟩

end

section

variable {Item : Type} (le : Item → Item → Prop) [DecidableRel le]

theorem head?_insertionSort_of_least {first : Item} {items : List Item}
    (least : ∀ item ∈ items, le first item) :
    ((first :: items).insertionSort le).head? = some first := by
  rw [List.insertionSort_cons_of_forall_rel le least, List.head?_cons]

theorem least_of_head?_insertionSort [Std.Total le] [IsTrans Item le] {first : Item}
    {items : List Item} (isFirst : (items.insertionSort le).head? = some first) :
    first ∈ items ∧ ∀ item ∈ items, le first item := by
  have sorted := List.pairwise_insertionSort le items
  have members := List.perm_insertionSort le items
  cases split : items.insertionSort le with
  | nil =>
      rw [split] at isFirst
      cases isFirst
  | cons head rest =>
      rw [split] at isFirst sorted members
      cases isFirst
      refine ⟨members.mem_iff.mp List.mem_cons_self, ?_⟩
      intro item member
      rcases List.mem_cons.mp (members.mem_iff.mpr member) with rfl | later
      · exact (total_of le item item).elim id id
      · exact List.rel_of_pairwise_cons sorted later

end

end TurtleExecution

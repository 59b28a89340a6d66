/-
Totals of dictionaries: an amount that backs the values of a dictionary, none of them
negative.
-/

import Mathlib.Algebra.BigOperators.Group.List.Basic
import Mathlib.Algebra.Order.BigOperators.Group.List
import Mathlib.Algebra.Order.Group.Defs
import Mathlib.Data.List.Dedup
import Mathlib.Tactic.Abel
import TurtleExecution.Foundation.Dict

set_option autoImplicit false

namespace TurtleExecution

namespace Dict

section

variable {Key Amount : Type} [DecidableEq Key]

theorem erase_of_not_mem {dict : Dict Key Amount} {key : Key} (absent : key ∉ keys dict) :
    erase dict key = dict := by
  induction dict with
  | nil => rfl
  | cons item rest ih =>
      have different : item.1 ≠ key := fun same => absurd (same ▸ List.mem_cons_self) absent
      rw [erase, if_neg different, ih fun member => absent (List.mem_cons_of_mem _ member)]

theorem erase_sublist (dict : Dict Key Amount) (key : Key) : (erase dict key).Sublist dict := by
  induction dict with
  | nil => exact List.Sublist.refl _
  | cons item rest ih =>
      unfold erase
      split
      · exact ih.cons _
      · exact ih.cons_cons _

variable [AddCommGroup Amount]

def total (dict : Dict Key Amount) : Amount := (dict.map Prod.snd).sum

theorem total_set (dict : Dict Key Amount) (key : Key) (amount : Amount) :
    total (set dict key amount) = total dict + (amount - (get? dict key).getD 0) := by
  induction dict with
  | nil => simp [total, set]
  | cons item rest ih =>
      by_cases same : item.1 = key
      · simp only [total, set, get?, same, if_true, List.map_cons, List.sum_cons,
          Option.getD_some]
        abel
      · simp only [total] at ih
        simp only [total, set, get?, same, if_false, List.map_cons, List.sum_cons, ih]
        abel

theorem total_erase {dict : Dict Key Amount} (distinct : (keys dict).Nodup) (key : Key) :
    total (erase dict key) = total dict - (get? dict key).getD 0 := by
  induction dict with
  | nil => simp [total, erase]
  | cons item rest ih =>
      obtain ⟨absent, restDistinct⟩ := List.nodup_cons.mp distinct
      by_cases same : item.1 = key
      · rw [erase, if_pos same, get?, if_pos same, erase_of_not_mem (same ▸ absent)]
        simp only [total, List.map_cons, List.sum_cons, Option.getD_some, add_sub_cancel_left]
      · have later := ih restDistinct
        simp only [total] at later
        simp only [total, erase, get?, same, if_false, List.map_cons, List.sum_cons, later]
        abel

end

end Dict

section

variable {Key Amount : Type} [AddCommGroup Amount] [LinearOrder Amount]

/-- An amount is what the values of a dictionary add up to, and none of them is negative. -/
structure Backs (amount : Amount) (dict : Dict Key Amount) : Prop where
  distinct : (Dict.keys dict).Nodup
  sum : amount = Dict.total dict
  nonneg : ∀ entry ∈ dict, 0 ≤ entry.2

variable {amount : Amount} {dict : Dict Key Amount}

theorem backs_nil : Backs (0 : Amount) ([] : Dict Key Amount) :=
  { distinct := List.nodup_nil
    sum := rfl
    nonneg := fun _ member => (List.not_mem_nil member).elim }

variable [DecidableEq Key]

theorem Backs.value_nonneg (backs : Backs amount dict) (key : Key) :
    0 ≤ (dict.get? key).getD 0 := by
  cases found : dict.get? key with
  | none => exact le_refl 0
  | some value => exact backs.nonneg _ (Dict.mem_of_get? found)

theorem Backs.set (backs : Backs amount dict) (key : Key) {value : Amount} (positive : 0 ≤ value) :
    Backs (amount + (value - (dict.get? key).getD 0)) (dict.set key value) :=
  { distinct := Dict.nodup_keys_set backs.distinct key value
    sum := by rw [Dict.total_set, backs.sum]
    nonneg := fun entry member => by
      rcases Dict.mem_set member with rfl | old
      · exact positive
      · exact backs.nonneg entry old }

theorem Backs.erase (backs : Backs amount dict) (key : Key) :
    Backs (amount - (dict.get? key).getD 0) (dict.erase key) :=
  { distinct := ((Dict.erase_sublist dict key).map Prod.fst).nodup backs.distinct
    sum := by rw [Dict.total_erase backs.distinct, backs.sum]
    nonneg := fun entry member => backs.nonneg entry ((Dict.erase_sublist dict key).subset member) }

end

end TurtleExecution

namespace TurtleExecution

namespace Repeats

variable {Item Weight : Type} [DecidableEq Item] [AddCommGroup Weight]

theorem sum_eq_sum_dedup {weight : Item → Weight} {items : List Item}
    (once : ∀ item ∈ items, weight item ≠ 0 → items.count item = 1) :
    (items.map weight).sum = (items.dedup.map weight).sum := by
  induction items with
  | nil => rfl
  | cons item items ih =>
      have later : ∀ other ∈ items, weight other ≠ 0 → items.count other = 1 := by
        intro other member nonzero
        have counted := once other (List.mem_cons_of_mem item member) nonzero
        have present := List.count_pos_iff.mpr member
        by_cases same : item = other
        · rw [same, List.count_cons_self] at counted
          omega
        · rw [List.count_cons_of_ne same] at counted
          exact counted
      rw [List.map_cons, List.sum_cons, ih later]
      by_cases repeated : item ∈ items
      · have weightless : weight item = 0 := by
          by_contra nonzero
          have counted := once item List.mem_cons_self nonzero
          rw [List.count_cons_self, Nat.add_eq_right, List.count_eq_zero] at counted
          exact counted repeated
        rw [List.dedup_cons_of_mem repeated, weightless, zero_add]
      · rw [List.dedup_cons_of_notMem repeated, List.map_cons, List.sum_cons]

variable [LinearOrder Weight] [IsOrderedAddMonoid Weight] {weight : Item → Weight}

theorem sum_dedup_le {items : List Item} (nonneg : ∀ item ∈ items, 0 ≤ weight item) :
    (items.dedup.map weight).sum ≤ (items.map weight).sum :=
  List.Sublist.sum_le_sum ((List.dedup_sublist items).map weight) (by simpa using nonneg)

theorem count_of_sum_eq {items : List Item} (nonneg : ∀ item ∈ items, 0 ≤ weight item)
    (same : (items.map weight).sum = (items.dedup.map weight).sum) :
    ∀ item ∈ items, 0 < weight item → items.count item = 1 := by
  induction items with
  | nil => exact fun item impossible => absurd impossible List.not_mem_nil
  | cons item items ih =>
      have first := nonneg item List.mem_cons_self
      have rest := fun other member => nonneg other (List.mem_cons_of_mem item member)
      intro other member positive
      rw [List.map_cons, List.sum_cons] at same
      by_cases repeated : item ∈ items
      · rw [List.dedup_cons_of_mem repeated] at same
        have weightless : weight item = 0 := by
          refine le_antisymm ?_ first
          have bounded : weight item + (items.map weight).sum ≤ (items.map weight).sum :=
            same.le.trans (sum_dedup_le rest)
          exact add_le_iff_nonpos_left.mp bounded
        rw [weightless, zero_add] at same
        have different : other ≠ item := by
          rintro rfl
          exact positive.ne' weightless
        rw [List.count_cons_of_ne different.symm]
        exact ih rest same other ((List.mem_cons.mp member).resolve_left different) positive
      · rw [List.dedup_cons_of_notMem repeated, List.map_cons, List.sum_cons, add_right_inj] at same
        rcases List.mem_cons.mp member with rfl | inRest
        · rw [List.count_cons_self, List.count_eq_zero.mpr repeated]
        · have different : item ≠ other := by
            rintro rfl
            exact repeated inRest
          rw [List.count_cons_of_ne different]
          exact ih rest same other inRest positive

end Repeats

end TurtleExecution

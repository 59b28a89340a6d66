/-
Slices of a list, one behind the other.

Slices that each start where the one before them stops are the list's items again, as far as
the sizes reach.  A number that is divided with remainder is the sum of near-equal sizes.
-/

import Mathlib.Algebra.BigOperators.Group.List.Basic
import Mathlib.Algebra.Group.Action.Defs
import Mathlib.Algebra.GroupWithZero.Nat
import Mathlib.Data.List.Basic

set_option autoImplicit false

namespace TurtleExecution

variable {Item : Type}

def slice (items : List Item) (bounds : Nat × Nat) : List Item :=
  (items.drop bounds.1).take (bounds.2 - bounds.1)

theorem slice_map {Image : Type} (change : Item → Image) (items : List Item) (bounds : Nat × Nat) :
    slice (items.map change) bounds = (slice items bounds).map change := by
  rw [slice, slice, List.map_take, List.map_drop]

/-- The bounds of slices of these sizes, the first of which starts at the given place. -/
def consecutive : Nat → List Nat → List (Nat × Nat)
  | _, [] => []
  | start, size :: sizes => (start, start + size) :: consecutive (start + size) sizes

theorem length_consecutive (start : Nat) (sizes : List Nat) :
    (consecutive start sizes).length = sizes.length := by
  induction sizes generalizing start with
  | nil => rfl
  | cons size sizes ih => rw [consecutive, List.length_cons, List.length_cons, ih]

theorem flatten_slices (items : List Item) (start : Nat) (sizes : List Nat) :
    ((consecutive start sizes).map (slice items)).flatten = (items.drop start).take sizes.sum := by
  induction sizes generalizing start with
  | nil => simp [consecutive]
  | cons size sizes ih =>
      rw [consecutive, List.map_cons, List.flatten_cons, ih, slice, Nat.add_sub_cancel_left,
        List.sum_cons, List.take_add, List.drop_drop]

theorem length_slices (items : List Item) (start : Nat) (sizes : List Nat)
    (inside : start + sizes.sum ≤ items.length) :
    ((consecutive start sizes).map (slice items)).map List.length = sizes := by
  induction sizes generalizing start with
  | nil => rfl
  | cons size sizes ih =>
      rw [List.sum_cons] at inside
      have length : (slice items (start, start + size)).length = size := by
        rw [slice, List.length_take, List.length_drop]
        omega
      rw [consecutive, List.map_cons, List.map_cons, length, ih _ (by omega)]

theorem sum_extra (parts remainder : Nat) :
    ((List.range parts).map fun part => if part < remainder then 1 else 0).sum =
      min parts remainder := by
  induction parts with
  | zero => simp
  | succ parts ih =>
      rw [List.range_succ, List.map_append, List.sum_append, ih, List.map_singleton,
        List.sum_singleton]
      split <;> omega

/-- The size of a part, where the first ones take one of the remainder each. -/
def partSize (total parts part : Nat) : Nat :=
  total / parts + if part < total % parts then 1 else 0

theorem sum_partSize {total parts : Nat} (positive : 0 < parts) :
    ((List.range parts).map (partSize total parts)).sum = total := by
  have split : (List.range parts).map (partSize total parts) =
      (List.range parts).map fun part => total / parts + if part < total % parts then 1 else 0 := rfl
  have small := Nat.mod_lt total positive
  have divided := Nat.div_add_mod total parts
  rw [split, List.sum_map_add, sum_extra, List.map_const', List.sum_replicate, List.length_range,
    smul_eq_mul]
  omega

theorem partSize_le (total parts part other : Nat) :
    partSize total parts part ≤ partSize total parts other + 1 := by
  unfold partSize
  split <;> split <;> omega

theorem partSize_pos {total parts : Nat} (positive : 0 < parts) (enough : parts ≤ total)
    (part : Nat) : 0 < partSize total parts part := by
  have := Nat.div_pos enough positive
  unfold partSize
  omega

end TurtleExecution

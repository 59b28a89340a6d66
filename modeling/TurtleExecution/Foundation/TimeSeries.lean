/-
Series of values with the times at which they were observed.

A stable sort keeps what was observed at one time in its order.  Two series that agree at all
times up to a limit therefore have the same sorted rows up to it, and what is looked up there
is the same in both.
-/

import Mathlib.Data.List.Sort
import Mathlib.Tactic.Ring
import TurtleExecution.Foundation.Slices

set_option autoImplicit false

namespace TurtleExecution

section

variable {Time Value : Type} [LinearOrder Time]

/-- `bisect_right(times, limit)`: in times in order, those after the limit begin here. -/
def bisectRight (times : List Time) (limit : Time) : Nat :=
  times.findIdx fun time => limit < time

namespace TimeSeries

/-- `sorted(rows, key=lambda row: row[0])`, which is stable. -/
def sortRows (rows : List (Time × Value)) : List (Time × Value) :=
  rows.insertionSort fun left right => left.1 ≤ right.1

def Ordered (rows : List (Time × Value)) : Prop :=
  rows.Pairwise fun earlier later => earlier.1 ≤ later.1

def rowsAt (rows : List (Time × Value)) (time : Time) : List (Time × Value) :=
  rows.filter fun row => row.1 = time

def upTo (rows : List (Time × Value)) (limit : Time) : List (Time × Value) :=
  rows.filter fun row => row.1 ≤ limit

/-- At each time up to the limit both have the same values, in the same order. -/
def AgreeUpTo (limit : Time) (left right : List (Time × Value)) : Prop :=
  ∀ time ≤ limit, rowsAt left time = rowsAt right time

theorem mem_rowsAt {rows : List (Time × Value)} {time : Time} {row : Time × Value} :
    row ∈ rowsAt rows time ↔ row ∈ rows ∧ row.1 = time := by
  rw [rowsAt, List.mem_filter, decide_eq_true_eq]

theorem rowsAt_cons (row : Time × Value) (rows : List (Time × Value)) (time : Time) :
    rowsAt (row :: rows) time =
      if row.1 = time then row :: rowsAt rows time else rowsAt rows time := by
  rw [rowsAt, List.filter_cons]
  simp only [decide_eq_true_eq]
  rfl

theorem ordered_sortRows (rows : List (Time × Value)) : Ordered (sortRows rows) := by
  have total : Std.Total fun left right : Time × Value => left.1 ≤ right.1 :=
    ⟨fun left right => le_total left.1 right.1⟩
  have transitive : IsTrans (Time × Value) fun left right => left.1 ≤ right.1 :=
    ⟨fun _ _ _ first second => le_trans first second⟩
  exact List.pairwise_insertionSort _ rows

theorem rowsAt_sortRows (rows : List (Time × Value)) (time : Time) :
    rowsAt (sortRows rows) time = rowsAt rows time := by
  have tied : (rowsAt rows time).Pairwise fun left right => left.1 ≤ right.1 := by
    refine List.pairwise_of_forall_mem_list ?_
    intro left isLeft right isRight
    exact le_of_eq ((mem_rowsAt.mp isLeft).2.trans (mem_rowsAt.mp isRight).2.symm)
  have kept : (rowsAt rows time).Sublist (sortRows rows) :=
    List.sublist_insertionSort tied List.filter_sublist
  have again : rowsAt (rowsAt rows time) time = rowsAt rows time := by
    unfold rowsAt
    rw [List.filter_filter]
    simp only [Bool.and_self]
  have inside : (rowsAt rows time).Sublist (rowsAt (sortRows rows) time) := by
    rw [← again]
    exact kept.filter _
  have same : (rowsAt (sortRows rows) time).Perm (rowsAt rows time) :=
    (List.perm_insertionSort _ rows).filter _
  exact (inside.eq_of_length same.length_eq.symm).symm

variable {left right : List (Time × Value)}

theorem mem_iff_of_rowsAt (same : ∀ time, rowsAt left time = rowsAt right time) (row : Time × Value) :
    row ∈ left ↔ row ∈ right := by
  have isRow : row ∈ rowsAt left row.1 ↔ row ∈ rowsAt right row.1 := by rw [same]
  rw [mem_rowsAt, mem_rowsAt] at isRow
  simpa using isRow

theorem Ordered.eq_of_rowsAt (leftOrdered : Ordered left) (rightOrdered : Ordered right)
    (same : ∀ time, rowsAt left time = rowsAt right time) : left = right := by
  induction leftOrdered generalizing right with
  | nil =>
      refine (List.eq_nil_iff_forall_not_mem.mpr fun row member => ?_).symm
      cases (mem_iff_of_rowsAt same row).mpr member
  | @cons row rows first _ ih =>
      cases rightOrdered with
      | nil => cases (mem_iff_of_rowsAt same row).mp List.mem_cons_self
      | @cons other others otherFirst othersOrdered =>
          have before : other.1 ≤ row.1 := by
            rcases List.mem_cons.mp ((mem_iff_of_rowsAt same row).mp List.mem_cons_self)
              with rfl | later
            · exact le_refl _
            · exact otherFirst row later
          have after : row.1 ≤ other.1 := by
            rcases List.mem_cons.mp ((mem_iff_of_rowsAt same other).mpr List.mem_cons_self)
              with rfl | later
            · exact le_refl _
            · exact first other later
          have sameTime : other.1 = row.1 := le_antisymm before after
          have heads := same row.1
          rw [rowsAt_cons, rowsAt_cons, if_pos rfl, if_pos sameTime] at heads
          have sameRow := List.head_eq_of_cons_eq heads
          have tails : ∀ time, rowsAt rows time = rowsAt others time := by
            intro time
            have both := same time
            rw [rowsAt_cons, rowsAt_cons, sameTime] at both
            by_cases isTime : row.1 = time
            · rw [if_pos isTime, if_pos isTime] at both
              exact List.tail_eq_of_cons_eq both
            · rw [if_neg isTime, if_neg isTime] at both
              exact both
          rw [sameRow]
          exact congrArg _ (ih othersOrdered tails)

theorem rowsAt_upTo (rows : List (Time × Value)) (limit time : Time) :
    rowsAt (upTo rows limit) time = if time ≤ limit then rowsAt rows time else [] := by
  unfold rowsAt upTo
  rw [List.filter_filter]
  split
  · rename_i early
    refine List.filter_congr fun row _ => ?_
    by_cases isTime : row.1 = time
    · simp [isTime, early]
    · simp [isTime]
  · rename_i late
    refine List.filter_eq_nil_iff.mpr fun row _ found => ?_
    rw [Bool.and_eq_true, decide_eq_true_eq, decide_eq_true_eq] at found
    exact late (found.1 ▸ found.2)

theorem AgreeUpTo.mono {limit earlier : Time} (agree : AgreeUpTo limit left right)
    (before : earlier ≤ limit) : AgreeUpTo earlier left right :=
  fun time early => agree time (early.trans before)

theorem AgreeUpTo.upTo_eq {limit : Time} (agree : AgreeUpTo limit left right) :
    upTo (sortRows left) limit = upTo (sortRows right) limit := by
  refine Ordered.eq_of_rowsAt ((ordered_sortRows left).filter _)
    ((ordered_sortRows right).filter _) ?_
  intro time
  rw [rowsAt_upTo, rowsAt_upTo, rowsAt_sortRows, rowsAt_sortRows]
  split
  · rename_i early
    exact agree time early
  · rfl

theorem take_bisectRight {rows : List (Time × Value)} (ordered : Ordered rows) (limit : Time) :
    rows.take (bisectRight (rows.map Prod.fst) limit) = upTo rows limit := by
  induction ordered with
  | nil => rfl
  | @cons row rows first _ ih =>
      rw [bisectRight, List.map_cons, List.findIdx_cons, upTo, List.filter_cons]
      by_cases late : limit < row.1
      · have rest : upTo rows limit = [] := by
          refine List.filter_eq_nil_iff.mpr fun later member found => ?_
          exact absurd (of_decide_eq_true found) (not_le.mpr (late.trans_le (first later member)))
        rw [decide_eq_true late, cond_true, List.take_zero, if_neg (by simpa using late)]
        exact rest.symm
      · rw [decide_eq_false late, cond_false, List.take_succ_cons, if_pos (by simpa using late)]
        exact congrArg _ ih

theorem bisectRight_le (rows : List (Time × Value)) (limit : Time) :
    bisectRight (rows.map Prod.fst) limit ≤ rows.length := by
  have bound : bisectRight (rows.map Prod.fst) limit ≤ (rows.map Prod.fst).length :=
    List.findIdx_le_length
  rw [List.length_map] at bound
  exact bound

theorem bisectRight_eq {rows : List (Time × Value)} (ordered : Ordered rows) (limit : Time) :
    bisectRight (rows.map Prod.fst) limit = (upTo rows limit).length := by
  rw [← take_bisectRight ordered, List.length_take, min_eq_left (bisectRight_le rows limit)]

section

variable {limit : Time} {left right : List (Time × Value)}

theorem AgreeUpTo.bisectRight_eq (agree : AgreeUpTo limit left right) :
    bisectRight ((sortRows left).map Prod.fst) limit =
      bisectRight ((sortRows right).map Prod.fst) limit := by
  rw [TimeSeries.bisectRight_eq (ordered_sortRows left),
    TimeSeries.bisectRight_eq (ordered_sortRows right), agree.upTo_eq]

theorem AgreeUpTo.take_eq (agree : AgreeUpTo limit left right) {count : Nat}
    (before : count ≤ bisectRight ((sortRows left).map Prod.fst) limit) :
    (sortRows left).take count = (sortRows right).take count := by
  have found := agree.bisectRight_eq
  have both := agree.upTo_eq
  rw [← take_bisectRight (ordered_sortRows left), ← take_bisectRight (ordered_sortRows right),
    ← found] at both
  rw [← min_eq_left before, ← List.take_take, both, List.take_take]

theorem AgreeUpTo.getElem?_eq (agree : AgreeUpTo limit left right) {index : Nat}
    (before : index < bisectRight ((sortRows left).map Prod.fst) limit) :
    (sortRows left)[index]? = (sortRows right)[index]? := by
  have same := congrArg (fun rows => rows[index]?) (agree.take_eq before)
  simpa [List.getElem?_take, before] using same

theorem AgreeUpTo.slice_eq (agree : AgreeUpTo limit left right) {bounds : Nat × Nat}
    (before : bounds.2 ≤ bisectRight ((sortRows left).map Prod.fst) limit) :
    slice (sortRows left) bounds = slice (sortRows right) bounds := by
  have same := congrArg (List.drop bounds.1) (agree.take_eq before)
  rwa [List.drop_take, List.drop_take] at same

end

end TimeSeries

end

/-- The values of `time` in `while time <= last: ...; time += spacing`. -/
def gridTimes (time spacing last : Int) : List Int :=
  (List.range ((last - time) / spacing + 1).toNat).map fun step : Nat => time + spacing * step

section

variable {time spacing last : Int}

theorem step_of_mem_gridTimes (positive : 0 < spacing) {reached : Int}
    (member : reached ∈ gridTimes time spacing last) :
    ∃ step : Nat, reached = time + spacing * step ∧ reached ≤ last := by
  obtain ⟨step, isStep, rfl⟩ := List.mem_map.mp member
  refine ⟨step, rfl, ?_⟩
  have bound : (step : Int) ≤ (last - time) / spacing := by
    have below := List.mem_range.mp isStep
    omega
  have product := (Int.le_ediv_iff_mul_le positive).mp bound
  rw [mul_comm] at product
  omega

theorem pairwise_gridTimes (positive : 0 < spacing) :
    (gridTimes time spacing last).Pairwise fun earlier later => earlier + spacing ≤ later := by
  rw [gridTimes, List.pairwise_map]
  refine List.pairwise_lt_range.imp ?_
  intro earlier later before
  have whole : (earlier : Int) + 1 ≤ later := by exact_mod_cast before
  have product := Int.mul_le_mul_of_nonneg_left whole positive.le
  rw [mul_add, mul_one] at product
  omega

end

end TurtleExecution

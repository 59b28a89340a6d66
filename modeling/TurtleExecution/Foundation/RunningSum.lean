/-
Sums that are rounded after each addition, and the means that are taken of them.

The numbers are between zero and one.  Their running sum then stays at 10 ^ 28 at most, where
an addition of one is rounded away, so it never overflows.  What the roundings have added to
the exact sum is its drift.
-/

import Mathlib.Algebra.Order.BigOperators.Group.List
import TurtleExecution.Foundation.DecimalMagnitude

set_option autoImplicit false

namespace TurtleExecution

namespace Decimal

def runningSumFrom (start : ℚ) (values : List ℚ) : ℚ :=
  values.foldl (fun total value => nearest (total + value)) start

def runningSum (values : List ℚ) : ℚ := runningSumFrom 0 values

def drift (values : List ℚ) : ℚ := runningSum values - values.sum

def IsNumber (value : ℚ) : Prop := nearest value = value

theorem isNumber_nearest (value : ℚ) : IsNumber (nearest value) :=
  NumberFormat.nearest_nearest value

theorem exactly_ofInt (number : Int) : (Decimal.ofInt number).exactly = number := by
  rw [Decimal.ofInt, exactly, zpow_zero, mul_one, signed_natAbs]

theorem isFinite_ofInt (number : Int) : (Decimal.ofInt number).IsFinite := trivial

def sumBound : ℚ := 10 ^ (28 : Int)

theorem sumBound_pos : 0 < sumBound := ten_zpow_pos 28

theorem isNumber_sumBound : IsNumber sumBound :=
  @NumberFormat.nearest_zpow ℚ _ _ _ _ format 28 (by decide)

theorem unit_sumBound : format.unit sumBound = 10 := by
  have log : Int.log 10 |sumBound| = 28 := by
    have power : Int.log 10 (((10 : Nat) : ℚ) ^ (28 : Int)) = 28 := Int.log_zpow (by norm_num) 28
    rw [abs_of_pos sumBound_pos]
    exact power
  have place : format.place sumBound = 1 := by
    change max (Int.log 10 |sumBound| + 1 - (28 : Nat)) eTiny = 1
    rw [log]
    decide
  rw [NumberFormat.unit, place, zpow_one]
  rfl

theorem nearest_le_sumBound {total : ℚ} (small : total ≤ sumBound + 1) :
    nearest total ≤ sumBound := by
  have above : (0 : ℚ) < sumBound + 1 := by
    have := sumBound_pos
    linarith
  have stays : nearest (sumBound + 1) ≤ sumBound := by
    refine (NumberFormat.nearest_le_number_iff sumBound_pos above isNumber_sumBound).mpr (Or.inl ?_)
    rw [unit_sumBound]
    norm_num
  exact (NumberFormat.nearest_mono small).trans stays

theorem inRange_of_sum {total : ℚ} (nonneg : 0 ≤ total) (small : total ≤ sumBound + 1) :
    InRange total := by
  have bound : |total| ≤ (10 : ℚ) ^ (29 : Int) := by
    rw [abs_of_nonneg nonneg]
    refine small.trans ?_
    norm_num [sumBound]
  exact inRange_of_abs_le (by decide) (by decide) bound

theorem start_le_runningSumFrom {start : ℚ} {values : List ℚ} (isNumber : IsNumber start)
    (nonneg : ∀ value ∈ values, 0 ≤ value) : start ≤ runningSumFrom start values := by
  induction values generalizing start with
  | nil => exact le_refl start
  | cons value values ih =>
      obtain ⟨first, later⟩ := List.forall_mem_cons.mp nonneg
      have grown : start ≤ nearest (start + value) := by
        have rounded : nearest start ≤ nearest (start + value) :=
          NumberFormat.nearest_mono (le_add_of_nonneg_right first)
        rw [isNumber] at rounded
        exact rounded
      exact grown.trans (ih (isNumber_nearest _) later)

theorem le_runningSumFrom {start value : ℚ} {values : List ℚ} (startNonneg : 0 ≤ start)
    (numbers : ∀ value ∈ values, IsNumber value) (nonneg : ∀ value ∈ values, 0 ≤ value)
    (member : value ∈ values) : value ≤ runningSumFrom start values := by
  induction values generalizing start with
  | nil => cases member
  | cons first values ih =>
      obtain ⟨firstNumber, laterNumbers⟩ := List.forall_mem_cons.mp numbers
      obtain ⟨firstNonneg, laterNonneg⟩ := List.forall_mem_cons.mp nonneg
      rcases List.mem_cons.mp member with rfl | later
      · have rounded : nearest value ≤ nearest (start + value) :=
          NumberFormat.nearest_mono (le_add_of_nonneg_left startNonneg)
        rw [firstNumber] at rounded
        exact rounded.trans (start_le_runningSumFrom (isNumber_nearest _) laterNonneg)
      · exact ih (nearest_nonneg (add_nonneg startNonneg firstNonneg)) laterNumbers laterNonneg later

structure IsShare (number : Decimal) : Prop where
  isFinite : number.IsFinite
  isNumber : IsNumber number.exactly
  nonneg : 0 ≤ number.exactly
  le_one : number.exactly ≤ 1

variable {numbers : List Decimal}

theorem foldlM_add_shares {start : Decimal} (isFinite : start.IsFinite) (nonneg : 0 ≤ start.exactly)
    (small : start.exactly ≤ sumBound) (shares : ∀ number ∈ numbers, IsShare number) :
    ∃ total, numbers.foldlM Arithmetic.add start = .ok total ∧ total.IsFinite ∧
      total.exactly = runningSumFrom start.exactly (numbers.map exactly) ∧
      0 ≤ total.exactly ∧ total.exactly ≤ sumBound := by
  induction numbers generalizing start with
  | nil => exact ⟨start, rfl, isFinite, rfl, nonneg, small⟩
  | cons number numbers ih =>
      obtain ⟨share, later⟩ := List.forall_mem_cons.mp shares
      have sumNonneg : 0 ≤ start.exactly + number.exactly := add_nonneg nonneg share.nonneg
      have sumSmall : start.exactly + number.exactly ≤ sumBound + 1 := add_le_add small share.le_one
      have rounds := add_rounds isFinite share.isFinite
      generalize added : add start number = result at rounds
      cases rounds with
      | @rounded next nextFinite isNearest _ =>
          have nextNonneg : 0 ≤ next.exactly := by
            rw [isNearest]
            exact nearest_nonneg sumNonneg
          have nextSmall : next.exactly ≤ sumBound := by
            rw [isNearest]
            exact nearest_le_sumBound sumSmall
          obtain ⟨total, isTotal, totalFinite, value, bounds⟩ := ih nextFinite nextNonneg nextSmall later
          refine ⟨total, ?_, totalFinite, ?_, bounds⟩
          · rw [List.foldlM_cons]
            exact (bind_of_ok added).trans isTotal
          · rw [value, isNearest]
            rfl
      | overflow outOfRange => exact absurd (inRange_of_sum sumNonneg sumSmall) (not_lt.mpr outOfRange)

def meanOf (numbers : List Decimal) : Except ArithmeticError Decimal := do
  let total ← numbers.foldlM Arithmetic.add Decimal.zero
  Arithmetic.div total (Decimal.ofInt numbers.length)

theorem div_shares {dividend divisor : Int} (nonneg : 0 ≤ dividend) (less : dividend ≤ divisor)
    (positive : 0 < divisor) :
    ∃ share, Arithmetic.div (Decimal.ofInt dividend) (Decimal.ofInt divisor) = .ok share ∧
      IsShare share ∧ share.exactly = nearest ((dividend : ℚ) / divisor) := by
  have divisorPos : (0 : ℚ) < divisor := by exact_mod_cast positive
  have below : ((dividend : ℚ) / divisor) ≤ 1 := by
    rw [div_le_one divisorPos]
    exact_mod_cast less
  have above : (0 : ℚ) ≤ (dividend : ℚ) / divisor :=
    div_nonneg (by exact_mod_cast nonneg) divisorPos.le
  have rounds := div_rounds (isFinite_ofInt dividend) (isFinite_ofInt divisor) (by
    rw [exactly_ofInt]
    exact divisorPos.ne')
  rw [exactly_ofInt, exactly_ofInt] at rounds
  change RoundsTo _ (Arithmetic.div (Decimal.ofInt dividend) (Decimal.ofInt divisor)) at rounds
  generalize divided : Arithmetic.div (Decimal.ofInt dividend) (Decimal.ofInt divisor) = result
    at rounds
  have one : nearest 1 = 1 := by
    have power := @NumberFormat.nearest_zpow ℚ _ _ _ _ format 0 (by decide)
    rw [zpow_zero] at power
    exact power
  have roundedLe : nearest ((dividend : ℚ) / divisor) ≤ 1 := by
    rw [← one]
    exact NumberFormat.nearest_mono below
  cases rounds with
  | @rounded share isFinite isNearest _ =>
      refine ⟨share, rfl, ⟨isFinite, ?_, ?_, ?_⟩, isNearest⟩
      · rw [isNearest]
        exact isNumber_nearest _
      · rw [isNearest]
        exact nearest_nonneg above
      · rw [isNearest]
        exact roundedLe
  | overflow outOfRange =>
      have bound := sumBound_pos
      exact absurd (inRange_of_sum above (by linarith)) (not_lt.mpr outOfRange)

theorem meanOf_shares (nonempty : numbers ≠ []) (shares : ∀ number ∈ numbers, IsShare number) :
    ∃ mean, meanOf numbers = .ok mean ∧ mean.IsFinite ∧
      mean.exactly = nearest (runningSum (numbers.map exactly) / numbers.length) := by
  have zeroValue : Decimal.zero.exactly = 0 := exactly_ofInt 0
  have zeroFinite : Decimal.zero.IsFinite := trivial
  obtain ⟨total, isTotal, totalFinite, value, nonneg, small⟩ := foldlM_add_shares
    zeroFinite zeroValue.ge (zeroValue.le.trans sumBound_pos.le) shares
  have count : (1 : ℚ) ≤ numbers.length := by
    exact_mod_cast List.length_pos_iff.mpr nonempty
  have rounds := div_rounds totalFinite (isFinite_ofInt numbers.length) (by
    rw [exactly_ofInt]
    exact_mod_cast (lt_of_lt_of_le one_pos count).ne')
  rw [exactly_ofInt, Int.cast_natCast] at rounds
  have quotientNonneg : 0 ≤ total.exactly / numbers.length :=
    div_nonneg nonneg (zero_le_one.trans count)
  have quotientSmall : total.exactly / numbers.length ≤ sumBound + 1 := by
    have less := div_le_self nonneg count
    linarith
  unfold meanOf
  rw [bind_of_ok isTotal]
  change RoundsTo _ (Arithmetic.div total (Decimal.ofInt numbers.length)) at rounds
  generalize divided : Arithmetic.div total (Decimal.ofInt numbers.length) = result at rounds
  rw [zeroValue] at value
  rw [value] at rounds quotientNonneg quotientSmall
  cases rounds with
  | @rounded mean isFinite isNearest _ => exact ⟨mean, rfl, isFinite, isNearest⟩
  | overflow outOfRange =>
      exact absurd (inRange_of_sum quotientNonneg quotientSmall) (not_lt.mpr outOfRange)

def driftedMean (values : List ℚ) : ℚ := (values.sum + drift values) / values.length

/-- The drifted mean is rounded to the least of the values or above it, and to the greatest of
them or below it. -/
structure DriftAbsorbed (values : List ℚ) : Prop where
  least : ∀ least ∈ values, (∀ value ∈ values, least ≤ value) →
    format.RoundsUpTo least (driftedMean values)
  greatest : ∀ greatest ∈ values, (∀ value ∈ values, value ≤ greatest) →
    format.RoundsDownTo greatest (driftedMean values)

theorem driftedMean_eq (values : List ℚ) :
    driftedMean values = runningSum values / values.length := by
  rw [driftedMean, drift, add_sub_cancel]

theorem mean_between_iff (shares : ∀ number ∈ numbers, IsShare number)
    {least greatest mean : Decimal} (isLeast : least ∈ numbers)
    (below : ∀ number ∈ numbers, least.exactly ≤ number.exactly) (isGreatest : greatest ∈ numbers)
    (above : ∀ number ∈ numbers, number.exactly ≤ greatest.exactly)
    (isMean : mean.exactly = nearest (runningSum (numbers.map exactly) / numbers.length)) :
    (least.exactly ≤ mean.exactly ∧ mean.exactly ≤ greatest.exactly) ↔
      DriftAbsorbed (numbers.map exactly) := by
  have numbersOf : ∀ value ∈ numbers.map exactly, IsNumber value := by
    intro value member
    obtain ⟨number, isNumber, rfl⟩ := List.mem_map.mp member
    exact (shares number isNumber).isNumber
  have nonneg : ∀ value ∈ numbers.map exactly, 0 ≤ value := by
    intro value member
    obtain ⟨number, isNumber, rfl⟩ := List.mem_map.mp member
    exact (shares number isNumber).nonneg
  have count : (0 : ℚ) < numbers.length := by
    exact_mod_cast List.length_pos_of_mem isLeast
  have meanEq : driftedMean (numbers.map exactly) =
      runningSum (numbers.map exactly) / numbers.length := by
    rw [driftedMean_eq, List.length_map]
  have reached := le_runningSumFrom (le_refl 0) numbersOf nonneg
    (List.mem_map_of_mem isGreatest)
  have absorbed : DriftAbsorbed (numbers.map exactly) ↔
      format.RoundsUpTo least.exactly (driftedMean (numbers.map exactly)) ∧
        format.RoundsDownTo greatest.exactly (driftedMean (numbers.map exactly)) := by
    constructor
    · intro both
      refine ⟨both.least _ (List.mem_map_of_mem isLeast) ?_,
        both.greatest _ (List.mem_map_of_mem isGreatest) ?_⟩
      · exact List.forall_mem_map.mpr below
      · exact List.forall_mem_map.mpr above
    · intro both
      constructor
      · intro other isOther otherBelow
        obtain ⟨number, isNumber, rfl⟩ := List.mem_map.mp isOther
        have same : number.exactly = least.exactly :=
          le_antisymm (otherBelow _ (List.mem_map_of_mem isLeast)) (below number isNumber)
        rw [same]
        exact both.1
      · intro other isOther otherAbove
        obtain ⟨number, isNumber, rfl⟩ := List.mem_map.mp isOther
        have same : number.exactly = greatest.exactly :=
          le_antisymm (above number isNumber) (otherAbove _ (List.mem_map_of_mem isGreatest))
        rw [same]
        exact both.2
  rw [absorbed, isMean, ← meanEq]
  rcases (nonneg _ (List.mem_map_of_mem isGreatest)).eq_or_lt with isZero | positive
  · -- All numbers are zero, and so are their sum and their mean.
    have zeros : ∀ number ∈ numbers, number.exactly = 0 := by
      intro number member
      exact le_antisymm ((above number member).trans isZero.ge) (shares number member).nonneg
    have noDrift : runningSum (numbers.map exactly) = 0 := by
      have replicated : numbers.map exactly = List.replicate numbers.length 0 :=
        List.eq_replicate_iff.mpr ⟨List.length_map _, List.forall_mem_map.mpr zeros⟩
      rw [replicated]
      generalize numbers.length = length
      induction length with
      | zero => rfl
      | succ length ih =>
          rw [List.replicate_succ, runningSum, runningSumFrom, List.foldl_cons, add_zero, nearest_zero]
          exact ih
    rw [meanEq, noDrift, zero_div, nearest_zero, zeros least isLeast, ← isZero]
    have half := half_pos (format.unit_pos (0 : ℚ))
    have up : format.RoundsUpTo (0 : ℚ) 0 := Or.inl (by rw [sub_zero]; exact half)
    have down : format.RoundsDownTo (0 : ℚ) 0 := Or.inl (by rw [sub_zero]; exact half)
    exact ⟨fun _ => ⟨up, down⟩, fun _ => ⟨le_refl 0, le_refl 0⟩⟩
  · have meanPositive : 0 < driftedMean (numbers.map exactly) := by
      rw [meanEq]
      exact div_pos (positive.trans_le reached) count
    exact and_congr
      (NumberFormat.number_le_nearest_iff meanPositive (shares least isLeast).isNumber)
      (NumberFormat.nearest_le_number_iff positive meanPositive (shares greatest isGreatest).isNumber)

end Decimal

end TurtleExecution

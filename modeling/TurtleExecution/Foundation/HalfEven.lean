/-
Rounding to nearest, ties to even, in a format with a fixed number of digits.

Everything is derived from one fact: which values are rounded to a bound or below it.
-/

import Mathlib.Algebra.Order.Field.Power
import Mathlib.Algebra.Order.Floor.Ring
import Mathlib.Algebra.Ring.Int.Parity
import Mathlib.Data.Int.Log
import Mathlib.Tactic.FieldSimp
import Mathlib.Tactic.Linarith
import Mathlib.Tactic.Ring

set_option autoImplicit false

namespace TurtleExecution

namespace HalfEven

section

variable {Value : Type} [Field Value] [LinearOrder Value] [IsStrictOrderedRing Value]

/-- The values that round to a whole number or below it: a tie goes to the even one. -/
def Within (whole : Int) (value : Value) : Prop :=
  value < whole + 1 / 2 ∨ (value = whole + 1 / 2 ∧ Even whole)

omit [IsStrictOrderedRing Value] in
theorem Within.of_le {whole : Int} {value other : Value} (within : Within whole value)
    (below : other ≤ value) : Within whole other := by
  rcases within with less | ⟨tie, even⟩
  · exact Or.inl (lt_of_le_of_lt below less)
  · rcases below.lt_or_eq with strictly | rfl
    · exact Or.inl (lt_of_lt_of_eq strictly tie)
    · exact Or.inr ⟨tie, even⟩

theorem Within.of_le_whole {whole : Int} {value : Value} (below : value ≤ whole) :
    Within whole value :=
  Or.inl (by linarith)

theorem Within.lt {whole : Int} {value : Value} (within : Within whole value) :
    value < whole + 1 := by
  rcases within with less | ⟨tie, _⟩ <;> linarith

theorem Within.mono {whole other : Int} {value : Value} (within : Within whole value)
    (below : whole ≤ other) : Within other value := by
  rcases below.lt_or_eq with strictly | rfl
  · refine .of_le_whole (within.lt.le.trans ?_)
    exact_mod_cast strictly
  · exact within

variable [FloorRing Value]

/-- The nearest whole number, the even one of two that are equally near. -/
def whole (value : Value) : Int :=
  if Int.fract value < 1 / 2 ∨ (Int.fract value = 1 / 2 ∧ Even ⌊value⌋) then ⌊value⌋
  else ⌊value⌋ + 1

variable {value : Value} {bound : Int}

theorem whole_le_iff : whole value ≤ bound ↔ Within bound value := by
  have split := Int.floor_add_fract value
  have positive := Int.fract_nonneg value
  have small := Int.fract_lt_one value
  have atFloor : Within ⌊value⌋ value ↔
      (Int.fract value < 1 / 2 ∨ (Int.fract value = 1 / 2 ∧ Even ⌊value⌋)) := by
    constructor
    · rintro (less | ⟨tie, even⟩)
      · exact Or.inl (by linarith)
      · exact Or.inr ⟨by linarith, even⟩
    · rintro (less | ⟨tie, even⟩)
      · exact Or.inl (by linarith)
      · exact Or.inr ⟨by linarith, even⟩
  have floor_le : Within bound value → ⌊value⌋ ≤ bound := by
    intro within
    have less := within.lt
    have whole_lt : (⌊value⌋ : Value) < (bound : Value) + 1 := lt_of_le_of_lt (by linarith) less
    have cast : ⌊value⌋ < bound + 1 := by exact_mod_cast whole_lt
    omega
  unfold whole
  split
  · rename_i down
    exact ⟨(atFloor.mpr down).mono, floor_le⟩
  · rename_i up
    constructor
    · intro below
      have cast : (⌊value⌋ : Value) + 1 ≤ bound := by exact_mod_cast below
      exact .of_le_whole (by linarith)
    · intro within
      rcases (floor_le within).lt_or_eq with strictly | rfl
      · exact strictly
      · exact absurd (atFloor.mp within) up

theorem within_whole (value : Value) : Within (whole value) value := whole_le_iff.mp (le_refl _)

theorem le_whole (above : (bound : Value) ≤ value) : bound ≤ whole value := by
  have within := within_whole value
  have less : (bound : Value) < (whole value : Value) + 1 := lt_of_le_of_lt above within.lt
  have cast : bound < whole value + 1 := by exact_mod_cast less
  omega

theorem whole_le (below : value ≤ bound) : whole value ≤ bound :=
  whole_le_iff.mpr (.of_le_whole below)

@[simp] theorem whole_intCast (number : Int) : whole (number : Value) = number :=
  le_antisymm (whole_le (le_refl _)) (le_whole (le_refl _))

theorem whole_nonneg (nonneg : 0 ≤ value) : 0 ≤ whole value :=
  le_whole (by exact_mod_cast nonneg)

theorem le_whole_iff :
    bound ≤ whole value ↔ (bound : Value) - 1 / 2 < value ∨
      (value = bound - 1 / 2 ∧ Even bound) := by
  rw [← not_lt, ← Int.le_sub_one_iff, whole_le_iff, Within]
  have parity : Even (bound - 1) ↔ ¬ Even bound := by
    rw [Int.even_sub_one]
  have shift : ((bound - 1 : Int) : Value) + 1 / 2 = bound - 1 / 2 := by
    push_cast
    ring
  rw [shift, parity]
  constructor
  · intro above
    rcases lt_trichotomy value (bound - 1 / 2) with less | tie | more
    · exact absurd (Or.inl less) above
    · refine Or.inr ⟨tie, ?_⟩
      by_contra odd
      exact above (Or.inr ⟨tie, odd⟩)
    · exact Or.inl more
  · rintro (more | ⟨tie, even⟩) (less | ⟨_, odd⟩)
    · exact absurd less (lt_asymm more)
    · linarith
    · linarith
    · exact odd even

theorem whole_neg (value : Value) : whole (-value) = -whole value := by
  refine le_antisymm ?_ ?_
  · rw [whole_le_iff, Within]
    have reached := le_whole_iff.mp (le_refl (whole value))
    push_cast
    rcases reached with more | ⟨tie, even⟩
    · exact Or.inl (by linarith)
    · exact Or.inr ⟨by linarith, even.neg⟩
  · rw [le_whole_iff]
    have within := within_whole value
    push_cast
    rcases within with less | ⟨tie, even⟩
    · exact Or.inl (by linarith)
    · exact Or.inr ⟨by linarith, even.neg⟩

theorem whole_eq (near : |value - bound| < 1 / 2) : whole value = bound := by
  obtain ⟨above, below⟩ := abs_lt.mp near
  exact le_antisymm (whole_le_iff.mpr (Or.inl (by linarith)))
    (le_whole_iff.mpr (Or.inl (by linarith)))

theorem abs_whole_sub_le (value : Value) : |(whole value : Value) - value| ≤ 1 / 2 := by
  have within := within_whole value
  have reached := le_whole_iff.mp (le_refl (whole value))
  have above : value ≤ whole value + 1 / 2 := by
    rcases within with less | ⟨tie, _⟩
    · exact less.le
    · exact tie.le
  have below : (whole value : Value) - 1 / 2 ≤ value := by
    rcases reached with more | ⟨tie, _⟩
    · exact more.le
    · exact tie.ge
  rw [abs_le]
  constructor <;> linarith

end

end HalfEven

/-- A number format: so many digits in a radix, down to a least place. -/
structure NumberFormat where
  radix : Nat
  digits : Nat
  least : Int
  one_lt_radix : 1 < radix
  digits_pos : 0 < digits

namespace NumberFormat

variable {Value : Type} [Field Value] [LinearOrder Value] [IsStrictOrderedRing Value]
  [FloorRing Value] (format : NumberFormat)

def place (value : Value) : Int :=
  max (Int.log format.radix |value| + 1 - format.digits) format.least

def unit (value : Value) : Value := (format.radix : Value) ^ format.place value

def nearest (value : Value) : Value :=
  HalfEven.whole (value / format.unit value) * format.unit value

omit [FloorRing Value] in
theorem radix_pos : (0 : Value) < format.radix := by
  exact_mod_cast Nat.lt_trans Nat.zero_lt_one format.one_lt_radix

omit [FloorRing Value] in
theorem one_lt_cast_radix : (1 : Value) < format.radix := by
  exact_mod_cast format.one_lt_radix

omit [FloorRing Value] in
theorem radix_zpow_pos (exponent : Int) : (0 : Value) < (format.radix : Value) ^ exponent :=
  zpow_pos format.radix_pos exponent

variable {format}

variable (format) in
theorem unit_pos (value : Value) : 0 < format.unit value := format.radix_zpow_pos _

omit [IsStrictOrderedRing Value] in
theorem place_neg (value : Value) : format.place (-value) = format.place value := by
  unfold place
  rw [abs_neg]

theorem nearest_neg (value : Value) : format.nearest (-value) = -format.nearest value := by
  unfold nearest unit
  rw [place_neg, neg_div, HalfEven.whole_neg, Int.cast_neg, neg_mul]

theorem nearest_zero : format.nearest (0 : Value) = 0 := by
  have zero : HalfEven.whole ((0 : Int) : Value) = 0 := HalfEven.whole_intCast 0
  rw [Int.cast_zero] at zero
  rw [nearest, zero_div, zero, Int.cast_zero, zero_mul]

variable (format) in
theorem nearest_nonneg {value : Value} (nonneg : 0 ≤ value) : 0 ≤ format.nearest value := by
  have whole := HalfEven.whole_nonneg (div_nonneg nonneg (format.unit_pos value).le)
  exact mul_nonneg (by exact_mod_cast whole) (format.unit_pos value).le

variable {exponent : Int}

variable {value : Value}

theorem zpow_div_unit (above : format.place value ≤ exponent) :
    ((format.radix ^ (exponent - format.place value).toNat : Int) : Value) =
      (format.radix : Value) ^ exponent / format.unit value := by
  have radix_ne : (format.radix : Value) ≠ 0 := format.radix_pos.ne'
  rw [unit, ← zpow_sub₀ radix_ne]
  have split : exponent - format.place value = ((exponent - format.place value).toNat : Int) := by
    omega
  conv_rhs => rw [split, zpow_natCast]
  push_cast
  rfl

theorem nearest_le_zpow (above : format.place value ≤ exponent)
    (below : value ≤ (format.radix : Value) ^ exponent) :
    format.nearest value ≤ (format.radix : Value) ^ exponent := by
  have positive := format.unit_pos value
  rw [nearest, ← le_div_iff₀ positive, ← zpow_div_unit above, Int.cast_le]
  refine HalfEven.whole_le ?_
  rw [zpow_div_unit above]
  exact div_le_div_of_nonneg_right below positive.le

theorem zpow_le_nearest (above : format.place value ≤ exponent)
    (reached : (format.radix : Value) ^ exponent ≤ value) :
    (format.radix : Value) ^ exponent ≤ format.nearest value := by
  have positive := format.unit_pos value
  rw [nearest, ← div_le_iff₀ positive, ← zpow_div_unit above, Int.cast_le]
  refine HalfEven.le_whole ?_
  rw [zpow_div_unit above]
  exact div_le_div_of_nonneg_right reached positive.le

theorem zpow_le_floor {bound : Value} (above : format.place bound ≤ exponent)
    (reached : (format.radix : Value) ^ exponent ≤ bound) :
    (format.radix : Value) ^ exponent / format.unit bound ≤ ⌊bound / format.unit bound⌋ := by
  rw [← zpow_div_unit above, Int.cast_le, Int.le_floor, zpow_div_unit above]
  exact div_le_div_of_nonneg_right reached (format.unit_pos bound).le

theorem floor_lt_zpow {bound : Value} (above : format.place bound ≤ exponent)
    (below : bound < (format.radix : Value) ^ exponent) :
    (⌊bound / format.unit bound⌋ : Value) + 1 ≤
      (format.radix : Value) ^ exponent / format.unit bound := by
  have less : ⌊bound / format.unit bound⌋ <
      (format.radix ^ (exponent - format.place bound).toNat : Int) := by
    rw [Int.floor_lt, zpow_div_unit above]
    exact div_lt_div_of_pos_right below (format.unit_pos bound)
  rw [← zpow_div_unit above]
  exact_mod_cast less

variable (format) in
omit [IsStrictOrderedRing Value] in
theorem least_le_place (value : Value) : format.least ≤ format.place value :=
  le_max_right _ _

variable (format) in
theorem lt_zpow_of_pos (positive : 0 < value) :
    value < (format.radix : Value) ^ (Int.log format.radix |value| + 1) := by
  rw [abs_of_pos positive]
  exact Int.lt_zpow_succ_log_self format.one_lt_radix value

variable (format) in
theorem zpow_le_of_pos (positive : 0 < value) :
    (format.radix : Value) ^ Int.log format.radix |value| ≤ value := by
  rw [abs_of_pos positive]
  exact Int.zpow_log_le_self format.one_lt_radix positive

variable (format) in
theorem floor_div_unit_lt (positive : 0 < value) :
    (⌊value / format.unit value⌋ : Value) + 1 ≤ (format.radix : Value) ^ format.digits := by
  have below := format.lt_zpow_of_pos positive
  have place : Int.log format.radix |value| + 1 ≤ format.place value + format.digits := by
    unfold NumberFormat.place
    omega
  have reached : value < (format.radix : Value) ^ (format.place value + format.digits) :=
    below.trans_le (zpow_le_zpow_right₀ format.one_lt_cast_radix.le place)
  have floor := floor_lt_zpow (Int.le_add_of_nonneg_right (Int.natCast_nonneg format.digits)) reached
  rw [unit, zpow_add₀ format.radix_pos.ne', mul_div_cancel_left₀ _ (format.radix_zpow_pos _).ne',
    zpow_natCast] at floor
  exact floor

/-- The positive values that are rounded to a bound or below it: in units of the bound, those
within its whole part. -/
theorem nearest_le_iff {value bound : Value} (positive : 0 < value) (boundPositive : 0 < bound) :
    format.nearest value ≤ bound ↔
      HalfEven.Within ⌊bound / format.unit bound⌋ (value / format.unit bound) := by
  have digits := format.digits_pos
  have unitPositive := format.unit_pos bound
  rcases lt_trichotomy (format.place value) (format.place bound) with smaller | same | larger
  · -- The value has a smaller leading digit than the bound.
    have isPlace : format.place bound = Int.log format.radix |bound| + 1 - format.digits := by
      have least := format.least_le_place value
      unfold place at smaller least ⊢
      omega
    have logs : Int.log format.radix |value| + 1 ≤ Int.log format.radix |bound| := by
      unfold place at smaller isPlace
      omega
    have below : value ≤ (format.radix : Value) ^ Int.log format.radix |bound| :=
      (format.lt_zpow_of_pos positive).le.trans (zpow_le_zpow_right₀ format.one_lt_cast_radix.le logs)
    have reached := format.zpow_le_of_pos boundPositive
    constructor
    · intro _
      refine .of_le_whole ((div_le_div_of_nonneg_right below unitPositive.le).trans ?_)
      exact zpow_le_floor (by omega) reached
    · intro _
      exact (nearest_le_zpow (by omega) below).trans reached
  · have sameUnit : format.unit value = format.unit bound := by
      unfold unit
      rw [same]
    rw [nearest, sameUnit, ← HalfEven.whole_le_iff, Int.le_floor, le_div_iff₀ unitPositive]
  · -- The value has a larger leading digit than the bound.
    have isPlace : format.place value = Int.log format.radix |value| + 1 - format.digits := by
      have least := format.least_le_place bound
      unfold place at larger least ⊢
      omega
    have logs : Int.log format.radix |bound| + 1 ≤ Int.log format.radix |value| := by
      unfold place at larger isPlace
      omega
    have above : bound < (format.radix : Value) ^ Int.log format.radix |value| :=
      (format.lt_zpow_of_pos boundPositive).trans_le
        (zpow_le_zpow_right₀ format.one_lt_cast_radix.le logs)
    have reached := format.zpow_le_of_pos positive
    constructor
    · intro below
      exact absurd (below.trans_lt above) (not_lt.mpr (zpow_le_nearest (by omega) reached))
    · intro within
      have units := div_le_div_of_nonneg_right reached unitPositive.le
      exact absurd (within.lt.trans_le (floor_lt_zpow (by omega) above)) (not_lt.mpr units)

theorem nearest_le_nearest {value other : Value} (positive : 0 < value) (otherPositive : 0 < other)
    (within : ∀ bound : Value, 0 < bound →
      HalfEven.Within ⌊bound / format.unit bound⌋ (other / format.unit bound) →
      HalfEven.Within ⌊bound / format.unit bound⌋ (value / format.unit bound)) :
    format.nearest value ≤ format.nearest other := by
  refine le_of_forall_gt_imp_ge_of_dense fun bound above => ?_
  have boundPositive : 0 < bound := (format.nearest_nonneg otherPositive.le).trans_lt above
  rw [nearest_le_iff positive boundPositive]
  exact within bound boundPositive ((nearest_le_iff otherPositive boundPositive).mp above.le)

theorem nearest_mono {value other : Value} (below : value ≤ other) :
    format.nearest value ≤ format.nearest other := by
  have onPositive : ∀ {value other : Value}, 0 < value → value ≤ other →
      format.nearest value ≤ format.nearest other := by
    intro value other positive below
    refine nearest_le_nearest positive (positive.trans_le below) fun bound _ within => ?_
    exact within.of_le (div_le_div_of_nonneg_right below (format.unit_pos bound).le)
  rcases lt_or_ge 0 value with positive | nonpositive
  · exact onPositive positive below
  rcases lt_or_ge other 0 with negative | nonneg
  · have negated := onPositive (neg_pos.mpr negative) (neg_le_neg below)
    rw [nearest_neg, nearest_neg] at negated
    exact neg_le_neg_iff.mp negated
  · have valueNonpos := format.nearest_nonneg (neg_nonneg.mpr nonpositive)
    rw [nearest_neg] at valueNonpos
    exact (neg_nonneg.mp valueNonpos).trans (format.nearest_nonneg nonneg)

theorem abs_nearest (value : Value) : |format.nearest value| = format.nearest |value| := by
  rcases le_total 0 value with nonneg | nonpositive
  · rw [abs_of_nonneg nonneg, abs_of_nonneg (format.nearest_nonneg nonneg)]
  · rw [abs_of_nonpos nonpositive, nearest_neg, abs_of_nonpos]
    have negated := format.nearest_nonneg (neg_nonneg.mpr nonpositive)
    rw [nearest_neg] at negated
    exact neg_nonneg.mp negated

theorem nearest_of_whole {value : Value} {number : Int} (isWhole : value = number * format.unit value) :
    format.nearest value = value := by
  have units : value / format.unit value = number := by
    rw [div_eq_iff (format.unit_pos value).ne']
    exact isWhole
  rw [nearest, units, HalfEven.whole_intCast]
  exact isWhole.symm

theorem nearest_of_place_le {number : Int} {exponent : Int}
    (above : format.place ((number : Value) * (format.radix : Value) ^ exponent) ≤ exponent) :
    format.nearest ((number : Value) * (format.radix : Value) ^ exponent) =
      number * (format.radix : Value) ^ exponent := by
  have powers := zpow_div_unit above
  have positive := format.unit_pos ((number : Value) * (format.radix : Value) ^ exponent)
  rw [eq_div_iff positive.ne'] at powers
  refine @nearest_of_whole _ _ _ _ _ format _ (number * format.radix ^
    (exponent - format.place ((number : Value) * (format.radix : Value) ^ exponent)).toNat) ?_
  conv_lhs => rw [← powers]
  push_cast
  ring

theorem unit_le_zpow (nonzero : value ≠ 0) (below : |value| < (format.radix : Value) ^ exponent)
    (least : format.least ≤ exponent - format.digits) :
    format.unit value ≤ (format.radix : Value) ^ (exponent - format.digits) := by
  have digit : Int.log format.radix |value| < exponent :=
    (Int.lt_zpow_iff_log_lt format.one_lt_radix (abs_pos.mpr nonzero)).mp below
  have isPlace : format.place value ≤ exponent - format.digits := by
    unfold place
    omega
  exact zpow_le_zpow_right₀ format.one_lt_cast_radix.le isPlace

variable (format) in
theorem abs_nearest_sub_le (value : Value) :
    |format.nearest value - value| ≤ format.unit value / 2 := by
  have positive := format.unit_pos value
  have moved := HalfEven.abs_whole_sub_le (value / format.unit value)
  have scaled : format.nearest value - value =
      ((HalfEven.whole (value / format.unit value) : Value) - value / format.unit value) *
        format.unit value := by
    rw [nearest, sub_mul, div_mul_cancel₀ _ positive.ne']
  rw [scaled, abs_mul, abs_of_pos positive]
  linarith [mul_le_mul_of_nonneg_right moved positive.le]

theorem abs_nearest_sub_le_zpow (below : |value| < (format.radix : Value) ^ exponent)
    (least : format.least ≤ exponent - format.digits) :
    |format.nearest value - value| ≤ (format.radix : Value) ^ (exponent - format.digits) / 2 := by
  rcases eq_or_ne value 0 with rfl | nonzero
  · rw [nearest_zero, sub_zero, abs_zero]
    exact (half_pos (format.radix_zpow_pos _)).le
  · exact (format.abs_nearest_sub_le value).trans
      (div_le_div_of_nonneg_right (unit_le_zpow nonzero below least) zero_le_two)

theorem nearest_zpow {exponent : Int} (above : format.least ≤ exponent) :
    format.nearest ((format.radix : Value) ^ exponent) = (format.radix : Value) ^ exponent := by
  have digits := format.digits_pos
  have isPlace : format.place ((format.radix : Value) ^ exponent) ≤ exponent := by
    unfold place
    rw [abs_of_pos (format.radix_zpow_pos exponent), Int.log_zpow format.one_lt_radix]
    omega
  have kept := @nearest_of_place_le Value _ _ _ _ format 1 exponent
  rw [Int.cast_one, one_mul] at kept
  exact kept isPlace

theorem nearest_nearest (value : Value) :
    format.nearest (format.nearest value) = format.nearest value := by
  have onPositive : ∀ {value : Value}, 0 < value →
      format.nearest (format.nearest value) = format.nearest value := by
    intro value positive
    have least := format.least_le_place value
    have below : value < (format.radix : Value) ^ (Int.log format.radix |value| + 1) :=
      format.lt_zpow_of_pos positive
    have isPlace : Int.log format.radix |value| + 1 ≤ format.place value + format.digits := by
      unfold place
      omega
    have reached : value ≤ (format.radix : Value) ^ (format.place value + format.digits) :=
      below.le.trans (zpow_le_zpow_right₀ format.one_lt_cast_radix.le isPlace)
    have rounded := nearest_le_zpow (by omega) reached
    rcases rounded.lt_or_eq with less | same
    · have nonneg := format.nearest_nonneg positive.le
      rcases nonneg.lt_or_eq with roundedPositive | zero
      · refine nearest_of_place_le (max_le ?_ least)
        have smaller : Int.log format.radix (format.nearest value) <
            format.place value + format.digits :=
          (Int.lt_zpow_iff_log_lt format.one_lt_radix roundedPositive).mp less
        change Int.log format.radix |format.nearest value| + 1 - format.digits ≤ format.place value
        rw [abs_of_pos roundedPositive]
        omega
      · rw [← zero, nearest_zero]
    · rw [same]
      exact nearest_zpow (by omega)
  rcases lt_trichotomy value 0 with negative | rfl | positive
  · have negated := onPositive (neg_pos.mpr negative)
    rw [nearest_neg, nearest_neg] at negated
    exact neg_inj.mp negated
  · rw [nearest_zero, nearest_zero]
  · exact onPositive positive

end NumberFormat

end TurtleExecution

namespace TurtleExecution

namespace NumberFormat

variable {Value : Type} [Field Value] [LinearOrder Value] [IsStrictOrderedRing Value]
  [FloorRing Value] (format : NumberFormat)

/-- The number is less than half a unit above the value, or half a unit and even. -/
def RoundsUpTo (number value : Value) : Prop :=
  number - value < format.unit value / 2 ∨
    (number - value = format.unit value / 2 ∧ Even ⌊number / format.unit value⌋)

/-- The value is less than half a unit above the number, or half a unit and the number is even. -/
def RoundsDownTo (number value : Value) : Prop :=
  value - number < format.unit number / 2 ∨
    (value - number = format.unit number / 2 ∧ Even ⌊number / format.unit number⌋)

variable {format}

theorem div_unit_eq {number : Value} (isNumber : format.nearest number = number) :
    number / format.unit number = HalfEven.whole (number / format.unit number) := by
  have positive := format.unit_pos number
  rw [div_eq_iff positive.ne']
  exact isNumber.symm

variable {number value : Value}

theorem nearest_le_number_iff (numberPositive : 0 < number) (positive : 0 < value)
    (isNumber : format.nearest number = number) :
    format.nearest value ≤ number ↔ format.RoundsDownTo number value := by
  have unitPositive := format.unit_pos number
  have units := div_unit_eq isNumber
  have floor : (⌊number / format.unit number⌋ : Value) = number / format.unit number := by
    rw [units, Int.floor_intCast]
  have half : (⌊number / format.unit number⌋ : Value) + 1 / 2 =
      (number + format.unit number / 2) / format.unit number := by
    rw [floor]
    field_simp
  rw [format.nearest_le_iff positive numberPositive, HalfEven.Within, half, RoundsDownTo,
    div_lt_div_iff_of_pos_right unitPositive, div_left_inj' unitPositive.ne', sub_lt_iff_lt_add',
    sub_eq_iff_eq_add']

theorem place_le_place {value other : Value} (positive : 0 < value) (below : value ≤ other) :
    format.place value ≤ format.place other := by
  have logs : Int.log format.radix |value| ≤ Int.log format.radix |other| := by
    rw [abs_of_pos positive, abs_of_pos (positive.trans_le below)]
    exact Int.log_mono_right positive below
  unfold place
  omega

theorem div_smaller_unit (positive : 0 < value) (below : value ≤ number)
    (isNumber : format.nearest number = number) :
    number / format.unit value = ⌊number / format.unit value⌋ := by
  have powers := format.zpow_div_unit (place_le_place positive below)
  have units := div_unit_eq isNumber
  rw [div_eq_iff (format.unit_pos number).ne'] at units
  have whole : number / format.unit value =
      ((HalfEven.whole (number / format.unit number) *
        format.radix ^ (format.place number - format.place value).toNat : Int) : Value) := by
    conv_lhs => rw [units, mul_div_assoc]
    rw [Int.cast_mul, powers]
    rfl
  rw [whole, Int.floor_intCast]

theorem number_le_nearest_iff (positive : 0 < value) (isNumber : format.nearest number = number) :
    number ≤ format.nearest value ↔ format.RoundsUpTo number value := by
  have unitPositive := format.unit_pos value
  rcases le_or_gt number value with below | above
  · have reached : number ≤ format.nearest value := by
      rw [← isNumber]
      exact format.nearest_mono below
    have near : number - value < format.unit value / 2 :=
      (sub_nonpos.mpr below).trans_lt (half_pos unitPositive)
    exact ⟨fun _ => Or.inl near, fun _ => reached⟩
  · have whole := div_smaller_unit positive above.le isNumber
    have half : (⌊number / format.unit value⌋ : Value) - 1 / 2 =
        (number - format.unit value / 2) / format.unit value := by
      rw [← whole]
      field_simp
    have units : number ≤ format.nearest value ↔
        ⌊number / format.unit value⌋ ≤ HalfEven.whole (value / format.unit value) := by
      rw [nearest, ← div_le_iff₀ unitPositive, whole, Int.cast_le, Int.floor_intCast]
    rw [units, HalfEven.le_whole_iff, half, RoundsUpTo, div_lt_div_iff_of_pos_right unitPositive,
      div_left_inj' unitPositive.ne', sub_lt_comm, eq_comm, sub_eq_iff_eq_add,
      sub_eq_iff_eq_add', add_comm value]

end NumberFormat

end TurtleExecution

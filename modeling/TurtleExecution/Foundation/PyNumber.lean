/-
Whole numbers and floats, and the arithmetic that mixes them.

A float is held by its exact value.  A whole number becomes the nearest float before it
meets one in a product, and one that is too large for that raises.  Comparisons are
exact, whatever they compare.
-/

import Mathlib.Data.Rat.Floor
import Mathlib.Order.WithBot
import TurtleExecution.Foundation.Decimal
import TurtleExecution.Foundation.HalfEven

set_option autoImplicit false

namespace TurtleExecution

namespace Binary64

def format : NumberFormat :=
  { radix := 2
    digits := 53
    least := -1074
    one_lt_radix := by decide
    digits_pos := by decide }

def maxDigits : Nat := 17

/-- The text with this many digits that reads back as a positive float, if there is one:
the nearest coefficient, or else its neighbour on the other side of the float. -/
def candidate? (value : ℚ) (digits : Nat) : Option (Nat × Int) :=
  let exponent := Int.log 10 value + 1 - digits
  let scaled := value / 10 ^ exponent
  let nearer := (HalfEven.whole scaled).toNat
  let farther := if (nearer : ℚ) ≤ scaled then nearer + 1 else nearer - 1
  if format.nearest ((nearer : ℚ) * 10 ^ exponent) = value then some (nearer, exponent)
  else if format.nearest ((farther : ℚ) * 10 ^ exponent) = value then some (farther, exponent)
  else none

/-- The shortest text of a positive float, as a coefficient and an exponent. -/
def shortest (value : ℚ) : Nat × Int :=
  let found := (List.range maxDigits).findSome? fun digits => candidate? value (digits + 1)
  let (coefficient, exponent) := found.getD (0, 0)
  Decimal.dropZeros maxDigits coefficient exponent

/-- `Decimal(repr(value))`: between `0.0001` and `1e16` the text has a decimal point, with
`.0` behind a whole number. -/
def toDecimal (value : ℚ) : Decimal :=
  if value = 0 then .finite false 0 (-1)
  else
    let (coefficient, exponent) := shortest |value|
    let point := (Decimal.digitCount coefficient : Int) + exponent
    if -4 < point ∧ point ≤ 16 ∧ 0 ≤ exponent then
      .finite (value < 0) (coefficient * 10 ^ (exponent.toNat + 1)) (-1)
    else .finite (value < 0) coefficient exponent

theorem isFinite_toDecimal (value : ℚ) : (toDecimal value).IsFinite := by
  unfold toDecimal
  split
  · trivial
  · dsimp only
    split <;> trivial

end Binary64

end TurtleExecution

namespace TurtleExecution

/-- The sign of a zero is left out, since nothing computes with it. -/
inductive FloatValue
  | finite (value : ℚ)
  | infinity (negative : Bool)
  | nan
  deriving DecidableEq, Repr

inductive PyNumber
  | int (value : Int)
  | float (value : FloatValue)
  deriving DecidableEq, Repr

namespace FloatValue

def top : ℚ := 2 ^ 1024

def round (value : ℚ) : FloatValue :=
  let nearest := Binary64.format.nearest value
  if |nearest| < top then .finite nearest else .infinity (nearest < 0)

/-- `float(value)`; `none` stands for an `OverflowError`. -/
def ofInt? (value : Int) : Option FloatValue :=
  let nearest := Binary64.format.nearest (value : ℚ)
  if |nearest| < top then some (.finite nearest) else none

def add : FloatValue → FloatValue → FloatValue
  | .finite left, .finite right => round (left + right)
  | .finite _, .infinity negative => .infinity negative
  | .infinity negative, .finite _ => .infinity negative
  | .infinity negative, .infinity other => if negative = other then .infinity negative else .nan
  | _, _ => .nan

def mul : FloatValue → FloatValue → FloatValue
  | .finite left, .finite right => round (left * right)
  | .finite value, .infinity negative =>
      if value = 0 then .nan else .infinity (decide (value < 0) != negative)
  | .infinity negative, .finite value =>
      if value = 0 then .nan else .infinity (decide (value < 0) != negative)
  | .infinity negative, .infinity other => .infinity (negative != other)
  | _, _ => .nan

end FloatValue

namespace PyNumber

/-- The number in its order with the infinities; a NaN has no place there. -/
def extended : PyNumber → Option (WithBot (WithTop ℚ))
  | .int value => some (((value : ℚ) : WithTop ℚ) : WithBot (WithTop ℚ))
  | .float (.finite value) => some ((value : WithTop ℚ) : WithBot (WithTop ℚ))
  | .float (.infinity negative) => some (if negative then ⊥ else ⊤)
  | .float .nan => none

def compares (relation : WithBot (WithTop ℚ) → WithBot (WithTop ℚ) → Bool)
    (left right : PyNumber) : Bool :=
  match left.extended, right.extended with
  | some left, some right => relation left right
  | _, _ => false

def lt (left right : PyNumber) : Bool := compares (fun left right => left < right) left right

def le (left right : PyNumber) : Bool := compares (fun left right => left ≤ right) left right

def min (left right : PyNumber) : PyNumber := if right.lt left then right else left

/-- `float(number)`; `none` stands for an `OverflowError`. -/
def float? : PyNumber → Option FloatValue
  | .int value => FloatValue.ofInt? value
  | .float value => some value

/-- `left + right`; `none` stands for an `OverflowError`. -/
def add? (left right : PyNumber) : Option PyNumber :=
  match left, right with
  | .int left, .int right => some (.int (left + right))
  | left, right => do
      let left ← left.float?
      let right ← right.float?
      return .float (left.add right)

/-- `left * right`; `none` stands for an `OverflowError`. -/
def mul? (left right : PyNumber) : Option PyNumber :=
  match left, right with
  | .int left, .int right => some (.int (left * right))
  | left, right => do
      let left ← left.float?
      let right ← right.float?
      return .float (left.mul right)

end PyNumber

namespace FloatValue

theorem nearest_two_pow (exponent : Nat) :
    Binary64.format.nearest ((2 : ℚ) ^ exponent) = 2 ^ exponent := by
  have rounded : Binary64.format.nearest (((2 : Nat) : ℚ) ^ (exponent : Int)) =
      ((2 : Nat) : ℚ) ^ (exponent : Int) :=
    NumberFormat.nearest_zpow ((by decide : Binary64.format.least ≤ 0).trans (Int.natCast_nonneg _))
  exact_mod_cast rounded

theorem nearest_intCast {number : Int} (small : |number| < 2 ^ 53) :
    Binary64.format.nearest (number : ℚ) = number := by
  rcases eq_or_ne number 0 with rfl | nonzero
  · rw [Int.cast_zero, NumberFormat.nearest_zero]
  · have digit : Int.log 2 |(number : ℚ)| < 53 := by
      refine (Int.lt_zpow_iff_log_lt (by decide) (abs_pos.mpr (Int.cast_ne_zero.mpr nonzero))).mp ?_
      exact_mod_cast small
    have kept := @NumberFormat.nearest_of_place_le ℚ _ _ _ _ Binary64.format number 0
    rw [zpow_zero, mul_one] at kept
    refine kept ?_
    change max (Int.log 2 |(number : ℚ)| + 1 - 53) (-1074) ≤ 0
    omega

theorem ofInt?_two_pow (exponent : Nat) :
    (ofInt? (2 ^ exponent)).isSome = true ↔ exponent < 1024 := by
  have isPower : (((2 : Int) ^ exponent : Int) : ℚ) = 2 ^ exponent := by push_cast; rfl
  have powers : |(2 : ℚ) ^ exponent| < top ↔ exponent < 1024 := by
    rw [abs_of_pos (pow_pos (by norm_num) exponent), top]
    exact pow_lt_pow_iff_right₀ (by norm_num)
  unfold ofInt?
  simp only [isPower, nearest_two_pow]
  split
  · rename_i small
    exact ⟨fun _ => powers.mp small, fun _ => rfl⟩
  · rename_i large
    refine ⟨fun impossible => ?_, fun small => absurd (powers.mpr small) large⟩
    cases impossible

def gridUnits : Nat := 2 ^ 1074

theorem gridUnits_pos : (0 : ℚ) < gridUnits := by
  unfold gridUnits
  positivity

theorem nearest_grid (value : ℚ) :
    ∃ count : Int, Binary64.format.nearest value = count / gridUnits := by
  have least := Binary64.format.least_le_place value
  have place : (Binary64.format.place value + 1074).toNat =
      Binary64.format.place value + (1074 : Int) := Int.toNat_of_nonneg (by
    have isLeast : Binary64.format.least = -1074 := rfl
    omega)
  refine ⟨HalfEven.whole (value / Binary64.format.unit value) *
    2 ^ (Binary64.format.place value + 1074).toNat, ?_⟩
  have power : Binary64.format.unit value * gridUnits =
      2 ^ (Binary64.format.place value + 1074).toNat := by
    have isUnits : (gridUnits : ℚ) = 2 ^ ((1074 : Nat) : Int) := by
      rw [zpow_natCast]
      exact Nat.cast_pow 2 1074
    have isUnit : Binary64.format.unit value = 2 ^ Binary64.format.place value := by
      unfold NumberFormat.unit
      norm_num [Binary64.format]
    rw [isUnit, isUnits, ← zpow_natCast, place, ← zpow_add₀ (by norm_num)]
    rfl
  rw [eq_div_iff gridUnits_pos.ne', NumberFormat.nearest, mul_assoc, power]
  push_cast
  rfl

end FloatValue

end TurtleExecution

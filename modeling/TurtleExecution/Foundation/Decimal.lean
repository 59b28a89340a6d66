/-
Decimal numbers under the default context: 28 digits, half-even rounding, and the
traps for invalid operations, divisions by zero and overflows.

An operation computes the exact result and `fix` rounds it.  A sum that has 28
digits at most is not rounded.
-/

import Mathlib.Algebra.Order.Field.Power
import Mathlib.Data.Nat.Log
import Mathlib.Data.Rat.Cast.Order
import Mathlib.Tactic.FieldSimp
import Mathlib.Tactic.Linarith
import Mathlib.Tactic.Ring
import TurtleExecution.Foundation.Arithmetic

set_option autoImplicit false

namespace TurtleExecution

/-- The payload of a NaN is left out, since nothing computes with it. -/
inductive Decimal
  | finite (negative : Bool) (coefficient : Nat) (exponent : Int)
  | infinity (negative : Bool)
  | nan (signaling : Bool)
  deriving DecidableEq, Repr

namespace Decimal

def prec : Nat := 28

def eMax : Int := 999999

def eMin : Int := -999999

def eTiny : Int := eMin - prec + 1

def eTop : Int := eMax - prec + 1

def ofInt (number : Int) : Decimal :=
  .finite (number < 0) number.natAbs 0

def zero : Decimal := ofInt 0

def digitCount (coefficient : Nat) : Nat := Nat.log 10 coefficient + 1

/-- The coefficient without its last `drop` digits, rounded half to even. -/
def roundHalfEven (coefficient drop : Nat) : Nat :=
  let kept := coefficient / 10 ^ drop
  let dropped := coefficient % 10 ^ drop
  if 10 ^ drop < 2 * dropped ∨ (2 * dropped = 10 ^ drop ∧ kept % 2 = 1) then kept + 1 else kept

def fix (negative : Bool) (coefficient : Nat) (exponent : Int) : Except ArithmeticError Decimal :=
  if coefficient = 0 then .ok (.finite negative 0 (min (max exponent eTiny) eMax))
  else
    let least := (digitCount coefficient : Int) + exponent - prec
    if eTop < least then .error .overflow
    else
      let expMin := max least eTiny
      if exponent < expMin then
        let rounded := roundHalfEven coefficient (expMin - exponent).toNat
        if prec < digitCount rounded then
          if eTop < expMin + 1 then .error .overflow
          else .ok (.finite negative (rounded / 10) (expMin + 1))
        else .ok (.finite negative rounded expMin)
      else .ok (.finite negative coefficient exponent)

def isNaN : Decimal → Bool
  | nan _ => true
  | _ => false

/-- `_check_nans`: a signaling NaN raises, a quiet one is the result. -/
def checkNaNs (left right : Decimal) (otherwise : Except ArithmeticError Decimal) :
    Except ArithmeticError Decimal :=
  if left = .nan true ∨ right = .nan true then .error .invalidOperation
  else if left = .nan false ∨ right = .nan false then .ok (.nan false)
  else otherwise

def signed (negative : Bool) (coefficient : Nat) : Int :=
  if negative then -(coefficient : Int) else coefficient

def rescale (negative : Bool) (coefficient : Nat) (exponent target : Int) : Int :=
  signed negative coefficient * 10 ^ (exponent - target).toNat

def add (left right : Decimal) : Except ArithmeticError Decimal :=
  checkNaNs left right <|
    match left, right with
    | .infinity negative, .infinity other =>
        if negative = other then .ok left else .error .invalidOperation
    | .infinity _, _ => .ok left
    | _, .infinity _ => .ok right
    | .finite negative coefficient exponent, .finite other added otherExponent =>
        let target := min exponent otherExponent
        let sum := rescale negative coefficient exponent target +
          rescale other added otherExponent target
        fix (if sum = 0 then negative && other else sum < 0) sum.natAbs target
    | _, _ => .error .invalidOperation

def copyNegate : Decimal → Decimal
  | finite negative coefficient exponent => .finite (!negative) coefficient exponent
  | infinity negative => .infinity (!negative)
  | nan signaling => .nan signaling

def sub (left right : Decimal) : Except ArithmeticError Decimal :=
  checkNaNs left right (add left right.copyNegate)

def mul (left right : Decimal) : Except ArithmeticError Decimal :=
  checkNaNs left right <|
    match left, right with
    | .infinity negative, .infinity other => .ok (.infinity (negative != other))
    | .infinity negative, .finite other coefficient _ =>
        if coefficient = 0 then .error .invalidOperation else .ok (.infinity (negative != other))
    | .finite negative coefficient _, .infinity other =>
        if coefficient = 0 then .error .invalidOperation else .ok (.infinity (negative != other))
    | .finite negative coefficient exponent, .finite other multiplied otherExponent =>
        fix (negative != other) (coefficient * multiplied) (exponent + otherExponent)
    | _, _ => .error .invalidOperation

def dropZeros : Nat → Nat → Int → Nat × Int
  | 0, coefficient, exponent => (coefficient, exponent)
  | drop + 1, coefficient, exponent =>
      if coefficient % 10 = 0 then dropZeros drop (coefficient / 10) (exponent + 1)
      else (coefficient, exponent)

def div (left right : Decimal) : Except ArithmeticError Decimal :=
  checkNaNs left right <|
    match left, right with
    | .infinity _, .infinity _ => .error .invalidOperation
    | .infinity negative, .finite other _ _ => .ok (.infinity (negative != other))
    | .finite negative _ _, .infinity other => .ok (.finite (negative != other) 0 eTiny)
    | .finite negative coefficient exponent, .finite other divisor otherExponent =>
        if divisor = 0 then
          if coefficient = 0 then .error .invalidOperation else .error .divisionByZero
        else if coefficient = 0 then fix (negative != other) 0 (exponent - otherExponent)
        else
          let shift : Int := (digitCount divisor : Int) - digitCount coefficient + prec + 1
          let dividend := coefficient * 10 ^ shift.toNat
          let divisor := divisor * 10 ^ (-shift).toNat
          let quotient := dividend / divisor
          let target := exponent - otherExponent - shift
          if dividend % divisor = 0 then
            let (quotient, target) := dropZeros shift.toNat quotient target
            fix (negative != other) quotient target
          else
            fix (negative != other) (if quotient % 5 = 0 then quotient + 1 else quotient) target
    | _, _ => .error .invalidOperation

def abs (number : Decimal) : Except ArithmeticError Decimal :=
  match number with
  | .nan true => .error .invalidOperation
  | .nan false => .ok number
  | .infinity _ => .ok (.infinity false)
  | .finite _ coefficient exponent => fix false coefficient exponent

def compare : Decimal → Decimal → Ordering
  | .infinity negative, .infinity other =>
      if negative = other then .eq else if negative then .lt else .gt
  | .infinity negative, _ => if negative then .lt else .gt
  | _, .infinity other => if other then .gt else .lt
  | .finite negative coefficient exponent, .finite other compared otherExponent =>
      let target := min exponent otherExponent
      Ord.compare (rescale negative coefficient exponent target)
        (rescale other compared otherExponent target)
  | _, _ => .eq

def ordered (left right : Decimal) (holds : Ordering → Bool) : Except ArithmeticError Bool :=
  if left.isNaN ∨ right.isNaN then .error .invalidOperation else .ok (holds (compare left right))

def equal (left right : Decimal) : Except ArithmeticError Bool :=
  if left = .nan true ∨ right = .nan true then .error .invalidOperation
  else if left.isNaN ∨ right.isNaN then .ok false
  else .ok (compare left right = .eq)

def isZero : Decimal → Bool
  | finite _ coefficient _ => coefficient = 0
  | _ => false

def text : Decimal → String
  | infinity negative => if negative then "-Infinity" else "Infinity"
  | nan signaling => if signaling then "sNaN" else "NaN"
  | finite negative coefficient exponent =>
      let digits := toString coefficient
      let leftDigits := exponent + digits.length
      let dotPlace := if exponent ≤ 0 ∧ -6 < leftDigits then leftDigits else 1
      let plain :=
        if dotPlace ≤ 0 then
          "0." ++ "".pushn '0' (-dotPlace).toNat ++ digits
        else if digits.length ≤ dotPlace then
          digits ++ "".pushn '0' (dotPlace - digits.length).toNat
        else
          String.ofList (digits.toList.take dotPlace.toNat) ++ "." ++
            String.ofList (digits.toList.drop dotPlace.toNat)
      let power := leftDigits - dotPlace
      (if negative then "-" else "") ++ plain ++
        (if power = 0 then "" else "E" ++ (if 0 < power then "+" else "") ++ toString power)

end Decimal

instance : LedgerArithmetic Decimal where
  zero := Decimal.zero
  add := Decimal.add
  sub := Decimal.sub
  mul := Decimal.mul
  div := Decimal.div
  le left right := Decimal.ordered left right fun order => order ≠ .gt
  lt left right := Decimal.ordered left right fun order => order = .lt
  isZero := Decimal.isZero
  ofInt := Decimal.ofInt
  abs := Decimal.abs
  eq := Decimal.equal
  text := Decimal.text

instance : LawfulZero Decimal where
  add_zero_zero := by decide

namespace Decimal

def IsFinite : Decimal → Prop
  | finite _ _ _ => True
  | _ => False

def exactly : Decimal → ℚ
  | finite negative coefficient exponent => signed negative coefficient * 10 ^ exponent
  | _ => 0

/-- The value has 28 digits at most, within the exponents of the context. -/
def Representable (value : ℚ) : Prop :=
  ∃ (coefficient : Int) (exponent : Int), coefficient.natAbs < 10 ^ prec ∧
    eTiny ≤ exponent ∧ exponent ≤ eTop ∧ value = coefficient * 10 ^ exponent

theorem signed_mul (negative : Bool) (coefficient factor : Nat) :
    signed negative (coefficient * factor) = signed negative coefficient * factor := by
  cases negative <;> simp [signed]

theorem natAbs_signed (negative : Bool) (coefficient : Nat) :
    (signed negative coefficient).natAbs = coefficient := by
  cases negative <;> simp [signed]

theorem signed_natAbs (number : Int) : signed (decide (number < 0)) number.natAbs = number := by
  by_cases below : number < 0
  · rw [decide_eq_true below]
    simp only [signed, if_true]
    omega
  · rw [decide_eq_false below]
    simp only [signed, Bool.false_eq_true, if_false]
    omega

theorem coefficient_eq_of_value_eq {coefficient other : Nat} {exponent otherExponent : Int}
    (below : exponent ≤ otherExponent)
    (same : (coefficient : ℚ) * 10 ^ exponent = other * 10 ^ otherExponent) :
    coefficient = other * 10 ^ (otherExponent - exponent).toNat := by
  have ten : (10 : ℚ) ≠ 0 := by norm_num
  have shift : otherExponent = exponent + ((otherExponent - exponent).toNat : Int) := by omega
  rw [shift, zpow_add₀ ten, zpow_natCast, mul_comm ((10 : ℚ) ^ exponent), ← mul_assoc] at same
  have scaled := mul_right_cancel₀ (zpow_ne_zero exponent ten) same
  exact_mod_cast scaled

theorem roundHalfEven_mul (coefficient drop : Nat) :
    roundHalfEven (coefficient * 10 ^ drop) drop = coefficient := by
  have positive : 0 < 10 ^ drop := Nat.pow_pos (by decide)
  unfold roundHalfEven
  rw [Nat.mul_div_cancel _ positive, Nat.mul_mod_left]
  simp [Nat.ne_of_lt positive]

theorem lt_pow_digitCount {coefficient : Nat} : coefficient < 10 ^ digitCount coefficient :=
  Nat.lt_pow_succ_log_self (by decide) coefficient

theorem digitCount_le {coefficient digits : Nat} (nonzero : coefficient ≠ 0)
    (small : coefficient < 10 ^ digits) : digitCount coefficient ≤ digits :=
  Nat.log_lt_of_lt_pow nonzero small

theorem least_le_of_value_eq {coefficient other : Nat} {exponent otherExponent : Int}
    (nonzero : coefficient ≠ 0) (small : other < 10 ^ prec)
    (same : (coefficient : ℚ) * 10 ^ exponent = other * 10 ^ otherExponent) :
    (digitCount coefficient : Int) + exponent - prec ≤ otherExponent := by
  have ten : (1 : ℚ) < 10 := by norm_num
  have leading : 10 ^ Nat.log 10 coefficient ≤ coefficient := Nat.pow_log_le_self 10 nonzero
  have low : (10 : ℚ) ^ ((Nat.log 10 coefficient : Int) + exponent) ≤ coefficient * 10 ^ exponent := by
    rw [zpow_add₀ (by norm_num), zpow_natCast]
    exact mul_le_mul_of_nonneg_right (by exact_mod_cast leading) (zpow_nonneg (by norm_num) _)
  have high : (other : ℚ) * 10 ^ otherExponent < 10 ^ ((prec : Int) + otherExponent) := by
    rw [zpow_add₀ (by norm_num), zpow_natCast]
    exact mul_lt_mul_of_pos_right (by exact_mod_cast small) (zpow_pos (by norm_num) _)
  have powers := (zpow_lt_zpow_iff_right₀ ten).mp ((low.trans_eq same).trans_lt high)
  unfold digitCount
  push_cast
  omega

theorem value_natAbs {negative : Bool} {coefficient : Nat} {exponent : Int} {other : Int}
    {otherExponent : Int}
    (same : (signed negative coefficient : ℚ) * 10 ^ exponent = other * 10 ^ otherExponent) :
    (coefficient : ℚ) * 10 ^ exponent = other.natAbs * 10 ^ otherExponent := by
  have sizes := congrArg (fun value : ℚ => |value|) same
  simp only [abs_mul, abs_zpow] at sizes
  have ten : |(10 : ℚ)| = 10 := by norm_num
  rw [ten, ← Int.cast_abs, ← Int.cast_abs, Int.abs_eq_natAbs (signed _ _), natAbs_signed] at sizes
  rw [Nat.cast_natAbs]
  exact_mod_cast sizes

theorem fix_exact {negative : Bool} {coefficient : Nat} {exponent : Int}
    (representable : Representable (signed negative coefficient * 10 ^ exponent)) :
    ∃ number, fix negative coefficient exponent = .ok number ∧ number.IsFinite ∧
      number.exactly = signed negative coefficient * 10 ^ exponent := by
  obtain ⟨other, otherExponent, small, aboveTiny, belowTop, same⟩ := representable
  unfold fix
  by_cases isZero : coefficient = 0
  · rw [if_pos isZero]
    refine ⟨_, rfl, trivial, ?_⟩
    subst isZero
    cases negative <;> simp [exactly, signed]
  rw [if_neg isZero]
  have sizes := value_natAbs same
  have least := least_le_of_value_eq isZero small sizes
  dsimp only
  rw [if_neg (by omega)]
  generalize isMin : max ((digitCount coefficient : Int) + exponent - prec) eTiny = expMin
  have belowOther : expMin ≤ otherExponent := by omega
  by_cases rounds : exponent < expMin
  · rw [if_pos rounds]
    have scaled := coefficient_eq_of_value_eq (by omega) sizes
    generalize isDrop : (expMin - exponent).toNat = drop
    have split : coefficient = other.natAbs * 10 ^ (otherExponent - expMin).toNat * 10 ^ drop := by
      rw [scaled, Nat.mul_assoc, ← Nat.pow_add]
      congr 2
      omega
    generalize other.natAbs * 10 ^ (otherExponent - expMin).toNat = kept at split
    have keptSmall : kept < 10 ^ prec := by
      have bound : kept * 10 ^ drop < 10 ^ (prec + drop) := by
        rw [← split]
        exact Nat.lt_of_lt_of_le lt_pow_digitCount (Nat.pow_le_pow_right (by decide) (by omega))
      rw [Nat.pow_add] at bound
      exact Nat.lt_of_mul_lt_mul_right bound
    have keptNonzero : kept ≠ 0 := by
      rintro rfl
      exact isZero (split.trans (Nat.zero_mul _))
    rw [split, roundHalfEven_mul, if_neg (Nat.not_lt.mpr (digitCount_le keptNonzero keptSmall))]
    refine ⟨_, rfl, trivial, ?_⟩
    have shift : expMin = (drop : Int) + exponent := by omega
    change (signed negative kept : ℚ) * 10 ^ expMin = _
    rw [signed_mul, shift, zpow_add₀ (by norm_num), zpow_natCast]
    push_cast
    ring
  · rw [if_neg rounds]
    exact ⟨_, rfl, trivial, rfl⟩

theorem rescale_value {negative : Bool} {coefficient : Nat} {exponent target : Int}
    (below : target ≤ exponent) :
    (rescale negative coefficient exponent target : ℚ) * 10 ^ target =
      signed negative coefficient * 10 ^ exponent := by
  have shift : exponent = ((exponent - target).toNat : Int) + target := by omega
  conv_rhs => rw [shift]
  rw [zpow_add₀ (by norm_num), zpow_natCast]
  unfold rescale
  push_cast
  ring

theorem add_finite (negative other : Bool) (coefficient added : Nat) (exponent otherExponent : Int) :
    add (.finite negative coefficient exponent) (.finite other added otherExponent) =
      (let target := min exponent otherExponent
        let sum := rescale negative coefficient exponent target +
          rescale other added otherExponent target
        fix (if sum = 0 then negative && other else sum < 0) sum.natAbs target) := by
  simp only [add, checkNaNs, reduceCtorEq, or_self, if_false]

theorem isFinite_copyNegate {number : Decimal} (finite : number.IsFinite) :
    number.copyNegate.IsFinite := by
  cases number with
  | infinity | nan => exact finite.elim
  | finite => trivial

theorem exactly_copyNegate (number : Decimal) : number.copyNegate.exactly = -number.exactly := by
  cases number with
  | infinity | nan => exact neg_zero.symm
  | finite negative coefficient exponent =>
      cases negative <;> simp [copyNegate, exactly, signed]

end Decimal

end TurtleExecution

namespace TurtleExecution

/-- `-number`: a zero has no sign afterwards, and the result is rounded as others are. -/
def Decimal.minus : Decimal → Except ArithmeticError Decimal
  | .nan signaling => if signaling then .error .invalidOperation else .ok (.nan false)
  | .infinity negative => .ok (.infinity (!negative))
  | .finite negative coefficient exponent =>
      Decimal.fix (if coefficient = 0 then false else !negative) coefficient exponent

class SignedArithmetic (Number : Type) extends Arithmetic Number where
  minus : Number → Except ArithmeticError Number

instance : SignedArithmetic ℚ where
  minus number := .ok (-number)

instance : SignedArithmetic Decimal where
  minus := Decimal.minus

end TurtleExecution

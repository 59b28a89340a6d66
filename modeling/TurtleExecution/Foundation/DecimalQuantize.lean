/-
Rounding to a given exponent, whatever the number of digits before it.

Unlike the other operations, `quantize` does not round to the context: a result that
does not fit the 28 digits raises.
-/

import TurtleExecution.Foundation.DecimalText

set_option autoImplicit false

namespace TurtleExecution

namespace Decimal

inductive RoundingMode
  | halfEven
  | down
  | floor
  | ceiling
  deriving DecidableEq, Repr

def roundDropped (mode : RoundingMode) (negative : Bool) (coefficient drop : Nat) : Nat :=
  let kept := coefficient / 10 ^ drop
  let isExact := coefficient % 10 ^ drop = 0
  match mode with
  | .halfEven => roundHalfEven coefficient drop
  | .down => kept
  | .floor => if negative = false ∨ isExact then kept else kept + 1
  | .ceiling => if negative = true ∨ isExact then kept else kept + 1

def rescaled (mode : RoundingMode) (negative : Bool) (coefficient : Nat) (exponent target : Int) :
    Nat :=
  if target ≤ exponent then coefficient * 10 ^ (exponent - target).toNat
  else roundDropped mode negative coefficient (target - exponent).toNat

def adjusted : Decimal → Int
  | finite _ coefficient exponent => digitCount coefficient + exponent - 1
  | _ => 0

def scaleb (number : Decimal) (power : Int) : Except ArithmeticError Decimal :=
  match number with
  | .nan true => .error .invalidOperation
  | .nan false => .ok number
  | .infinity _ | .finite _ _ _ =>
      if power < -2 * (eMax + prec) ∨ 2 * (eMax + prec) < power then .error .invalidOperation
      else
        match number with
        | .finite negative coefficient exponent => fix negative coefficient (exponent + power)
        | other => .ok other

def toIntegralValue : Decimal → Except ArithmeticError Decimal
  | nan true => .error .invalidOperation
  | finite negative coefficient exponent =>
      if 0 ≤ exponent then .ok (.finite negative coefficient exponent)
      else .ok (.finite negative (rescaled .halfEven negative coefficient exponent 0) 0)
  | other => .ok other

def quantize (number step : Decimal) (mode : RoundingMode) : Except ArithmeticError Decimal :=
  checkNaNs number step <|
    match number, step with
    | .infinity _, .infinity _ => .ok number
    | .finite negative coefficient exponent, .finite _ _ target =>
        if target < eTiny ∨ eMax < target then .error .invalidOperation
        else if coefficient = 0 then fix negative 0 target
        else if eMax < adjusted number ∨ prec < adjusted number - target + 1 then
          .error .invalidOperation
        else
          let kept := rescaled mode negative coefficient exponent target
          if eMax < digitCount kept + target - 1 ∨ prec < digitCount kept then
            .error .invalidOperation
          else fix negative kept target
    | _, _ => .error .invalidOperation

structure CutBelow (kept : Nat) (target : Int) (value : ℚ) : Prop where
  le : kept * 10 ^ target ≤ value
  lt : value < (kept + 1) * 10 ^ target

structure CutAbove (kept : Nat) (target : Int) (value : ℚ) : Prop where
  le : value ≤ kept * 10 ^ target
  lt : kept * 10 ^ target < value + 10 ^ target

variable {coefficient : Nat} {negative : Bool}

theorem value_rescaled {exponent target : Int} (below : target ≤ exponent) :
    (coefficient : ℚ) * 10 ^ exponent =
      ((coefficient * 10 ^ (exponent - target).toNat : Nat) : ℚ) * 10 ^ target := by
  have shift : exponent = ((exponent - target).toNat : Int) + target := by omega
  conv_lhs => rw [shift, zpow_add₀ (by norm_num), zpow_natCast]
  push_cast
  ring

theorem value_dropped {coefficient : Nat} {exponent target : Int} (below : exponent < target) :
    (coefficient : ℚ) * 10 ^ exponent * 10 ^ (target - exponent).toNat =
      coefficient * 10 ^ target := by
  have shift : target = exponent + ((target - exponent).toNat : Int) := by omega
  conv_rhs => rw [shift, zpow_add₀ (by norm_num), zpow_natCast]
  ring

theorem cutBelow_rescaled {mode : RoundingMode} (downward : mode = .down ∨ mode = .floor)
    (coefficient : Nat) (exponent target : Int) :
    CutBelow (rescaled mode false coefficient exponent target) target
      (coefficient * 10 ^ exponent) := by
  have unit : (0 : ℚ) < 10 ^ target := zpow_pos (by norm_num) _
  unfold rescaled
  split
  · rename_i below
    rw [value_rescaled below]
    exact ⟨le_refl _, mul_lt_mul_of_pos_right (lt_add_one _) unit⟩
  · rename_i above
    have kept : roundDropped mode false coefficient (target - exponent).toNat =
        coefficient / 10 ^ (target - exponent).toNat := by
      rcases downward with rfl | rfl
      · rfl
      · simp [roundDropped]
    have scaled := @value_dropped coefficient exponent target (not_le.mp above)
    rw [kept]
    generalize (target - exponent).toNat = drop at scaled
    have power : (0 : ℚ) < 10 ^ drop := pow_pos (by norm_num) _
    have positive : 0 < 10 ^ drop := Nat.pow_pos (by decide)
    have low : ((coefficient / 10 ^ drop : Nat) : ℚ) * 10 ^ drop ≤ coefficient := by
      exact_mod_cast Nat.div_mul_le_self coefficient (10 ^ drop)
    have high : (coefficient : ℚ) < ((coefficient / 10 ^ drop : Nat) + 1) * 10 ^ drop := by
      have above := Nat.lt_mul_div_succ coefficient positive
      rw [Nat.mul_comm] at above
      exact_mod_cast above
    constructor
    · refine le_of_mul_le_mul_right ?_ power
      rw [scaled, mul_right_comm]
      exact mul_le_mul_of_nonneg_right low unit.le
    · refine lt_of_mul_lt_mul_right ?_ power.le
      rw [scaled, mul_right_comm]
      exact mul_lt_mul_of_pos_right high unit

theorem cutAbove_rescaled (coefficient : Nat) (exponent target : Int) :
    CutAbove (rescaled .ceiling false coefficient exponent target) target
      (coefficient * 10 ^ exponent) := by
  have unit : (0 : ℚ) < 10 ^ target := zpow_pos (by norm_num) _
  unfold rescaled
  split
  · rename_i below
    rw [value_rescaled below]
    exact ⟨le_refl _, lt_add_of_pos_right _ unit⟩
  · rename_i above
    have scaled := @value_dropped coefficient exponent target (not_le.mp above)
    generalize (target - exponent).toNat = drop at scaled
    have power : (0 : ℚ) < 10 ^ drop := pow_pos (by norm_num) _
    have positive : 0 < 10 ^ drop := Nat.pow_pos (by decide)
    have split := Nat.div_add_mod coefficient (10 ^ drop)
    have rest := Nat.mod_lt coefficient positive
    -- The coefficient is cut at the first multiple of the power that reaches it.
    have bounds : coefficient ≤ roundDropped .ceiling false coefficient drop * 10 ^ drop ∧
        roundDropped .ceiling false coefficient drop * 10 ^ drop < coefficient + 10 ^ drop := by
      unfold roundDropped
      simp only [Bool.false_eq_true, false_or]
      rw [Nat.mul_comm] at split
      split
      · omega
      · rw [Nat.add_mul, Nat.one_mul]
        omega
    generalize roundDropped .ceiling false coefficient drop = kept at bounds
    have low : (coefficient : ℚ) ≤ kept * 10 ^ drop := by exact_mod_cast bounds.1
    have high : (kept : ℚ) * 10 ^ drop < coefficient + 10 ^ drop := by exact_mod_cast bounds.2
    constructor
    · refine le_of_mul_le_mul_right ?_ power
      rw [scaled, mul_right_comm]
      exact mul_le_mul_of_nonneg_right low unit.le
    · refine lt_of_mul_lt_mul_right ?_ power.le
      rw [add_mul, scaled, mul_right_comm, mul_comm (_ ^ target) (_ ^ drop), ← add_mul]
      exact mul_lt_mul_of_pos_right high unit

theorem fix_of_fits {exponent : Int} (fits : Fits coefficient exponent) :
    fix negative coefficient exponent = .ok (.finite negative coefficient exponent) := by
  have digits := fits.digits
  have least := fits.least
  have most := fits.most
  have eTop_eq : eTop = eMax + 1 - prec := by unfold eTop; omega
  have positive : 1 ≤ digitCount coefficient := Nat.succ_le_succ (Nat.zero_le _)
  unfold fix
  split
  · rename_i isZero
    rw [isZero, max_eq_left least, min_eq_left (by omega)]
  · dsimp only
    rw [if_neg (by omega), if_neg (by omega)]

theorem scaleb_one {power : Int} (low : -6 ≤ power) (high : power ≤ 0) :
    (ofInt 1).scaleb power = .ok (.finite false 1 power) := by
  have fits : Fits 1 power := by
    have one : digitCount 1 = 1 := by decide
    constructor <;> rw [one] at * <;> simp only [prec, eTiny, eMin, eMax] <;> omega
  have inside : ¬(power < -2 * (eMax + prec) ∨ 2 * (eMax + prec) < power) := by
    simp only [prec, eMax]
    omega
  have same : (ofInt 1).scaleb power = fix false 1 (0 + power) := if_neg inside
  rw [same, Int.zero_add, fix_of_fits fits]

theorem adjusted_lt_iff {negative : Bool} {coefficient : Nat} {exponent power : Int}
    (nonzero : coefficient ≠ 0) :
    (Decimal.finite negative coefficient exponent).adjusted < power ↔
      (coefficient : ℚ) * 10 ^ exponent < 10 ^ power := by
  have ten : (1 : ℚ) < 10 := by norm_num
  have unit : (0 : ℚ) < 10 ^ exponent := zpow_pos (by norm_num) _
  have leading : 10 ^ Nat.log 10 coefficient ≤ coefficient := Nat.pow_log_le_self 10 nonzero
  have trailing : coefficient < 10 ^ digitCount coefficient := lt_pow_digitCount
  have digits : digitCount coefficient = Nat.log 10 coefficient + 1 := rfl
  rw [adjusted]
  constructor
  · intro below
    have high : (coefficient : ℚ) * 10 ^ exponent < 10 ^ ((digitCount coefficient : Int) + exponent) := by
      rw [zpow_add₀ (by norm_num), zpow_natCast]
      exact mul_lt_mul_of_pos_right (by exact_mod_cast trailing) unit
    exact high.trans_le (zpow_le_zpow_right₀ ten.le (by omega))
  · intro below
    have low : (10 : ℚ) ^ ((Nat.log 10 coefficient : Int) + exponent) ≤ coefficient * 10 ^ exponent := by
      rw [zpow_add₀ (by norm_num), zpow_natCast]
      exact mul_le_mul_of_nonneg_right (by exact_mod_cast leading) unit.le
    have powers := (zpow_lt_zpow_iff_right₀ ten).mp (low.trans_lt below)
    omega

theorem quantize_of_fits {mode : RoundingMode} {negative : Bool} {coefficient : Nat}
    {exponent target : Int} (nonzero : coefficient ≠ 0) (low : eTiny ≤ target)
    (small : (Decimal.finite negative coefficient exponent).adjusted ≤ eMax)
    (few : (Decimal.finite negative coefficient exponent).adjusted - target + 1 ≤ prec)
    (fits : Fits (rescaled mode negative coefficient exponent target) target) :
    quantize (.finite negative coefficient exponent) (.finite false 1 target) mode =
      .ok (.finite negative (rescaled mode negative coefficient exponent target) target) := by
  have most := fits.most
  have digits := fits.digits
  have positive : 1 ≤ digitCount (rescaled mode negative coefficient exponent target) :=
    Nat.succ_le_succ (Nat.zero_le _)
  unfold quantize checkNaNs
  rw [if_neg (by simp), if_neg (by simp)]
  dsimp only
  rw [if_neg (by omega), if_neg nonzero, if_neg (by omega), if_neg (by omega), fix_of_fits fits]

theorem quantize_fixed {mode : RoundingMode} {target : Int} (fits : Fits coefficient target) :
    quantize (.finite negative coefficient target) (.finite false 1 target) mode =
      .ok (.finite negative coefficient target) := by
  have digits := fits.digits
  have least := fits.least
  have most := fits.most
  have positive : 1 ≤ digitCount coefficient := Nat.succ_le_succ (Nat.zero_le _)
  by_cases isZero : coefficient = 0
  · subst isZero
    unfold quantize checkNaNs
    rw [if_neg (by simp), if_neg (by simp)]
    dsimp only
    rw [if_neg (by omega), if_pos rfl, fix_of_fits fits]
  · have kept : rescaled mode negative coefficient target target = coefficient := by
      unfold rescaled
      rw [if_pos (le_refl _), Int.sub_self, Int.toNat_zero, Nat.pow_zero, Nat.mul_one]
    have same := @quantize_of_fits mode negative coefficient target target isZero least
      (by rw [adjusted]; omega) (by rw [adjusted]; omega) (kept.symm ▸ fits)
    rw [kept] at same
    exact same

theorem quantize_of_many {mode : RoundingMode} {exponent target : Int} (nonzero : coefficient ≠ 0)
    (many : prec < (Decimal.finite negative coefficient exponent).adjusted - target + 1) :
    quantize (.finite negative coefficient exponent) (.finite false 1 target) mode =
      .error .invalidOperation := by
  unfold quantize checkNaNs
  rw [if_neg (by simp), if_neg (by simp)]
  dsimp only
  by_cases outside : target < eTiny ∨ eMax < target
  · rw [if_pos outside]
  · rw [if_neg outside, if_neg nonzero, if_pos (.inr many)]

theorem toIntegralValue_spec {number : Decimal} (isFinite : number.IsFinite) :
    ∃ whole, number.toIntegralValue = .ok whole ∧ whole.IsFinite ∧
      (∃ integer : Int, whole.exactly = integer) ∧
      ∀ integer : Int, number.exactly = integer → whole.exactly = number.exactly := by
  obtain ⟨negative, coefficient, exponent, rfl⟩ := cases_finite isFinite
  unfold toIntegralValue
  split
  · rename_i impossible
    cases impossible
  · rename_i same
    cases same
    split
    · rename_i nonneg
      refine ⟨_, rfl, trivial, ⟨signed negative coefficient * 10 ^ exponent.toNat, ?_⟩,
        fun _ _ => rfl⟩
      have place : exponent = (exponent.toNat : Int) := by omega
      rw [exactly]
      conv_lhs => rw [place, zpow_natCast]
      push_cast
      rfl
    · rename_i below
      refine ⟨_, rfl, trivial, ⟨signed negative (rescaled .halfEven negative coefficient exponent 0),
        by simp [exactly]⟩, fun integer same => ?_⟩
      -- The digits behind the point of a whole number are zeros.
      have sizes : (coefficient : ℚ) * 10 ^ exponent = (integer.natAbs : ℚ) * 10 ^ (0 : Int) :=
        @value_natAbs negative coefficient exponent integer 0 (by rw [zpow_zero, mul_one]; exact same)
      have scaled := coefficient_eq_of_value_eq (by omega) sizes
      have kept : rescaled .halfEven negative coefficient exponent 0 = integer.natAbs := by
        unfold rescaled
        rw [if_neg below]
        change roundHalfEven coefficient _ = _
        conv_lhs => rw [scaled]
        exact roundHalfEven_mul _ _
      simp only [exactly, signed_mul_zpow, kept, sizes]
  · rename_i other
    exact absurd rfl (other negative coefficient exponent)

end Decimal

end TurtleExecution

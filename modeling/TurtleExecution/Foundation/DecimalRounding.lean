/-
The operations on decimals as correctly rounded operations on their values.

What is proved here for `fix` and for the quotient is what every other operation is
reduced to: a result is the nearest number of the context, or it overflows.
-/

import Mathlib.Data.Rat.Floor
import TurtleExecution.Foundation.Decimal
import TurtleExecution.Foundation.HalfEven

set_option autoImplicit false

namespace TurtleExecution

namespace Decimal

def format : NumberFormat :=
  { radix := 10
    digits := prec
    least := eTiny
    one_lt_radix := by decide
    digits_pos := by decide }

def nearest (value : ℚ) : ℚ := format.nearest value

def top : ℚ := 10 ^ (eMax + 1)

/-- The result of a correctly rounded operation with this exact value. -/
inductive RoundsTo (value : ℚ) : Except ArithmeticError Decimal → Prop
  | rounded {number : Decimal} (isFinite : number.IsFinite) (isNearest : number.exactly = nearest value)
      (inRange : |nearest value| < top) : RoundsTo value (.ok number)
  | overflow (outOfRange : top ≤ |nearest value|) : RoundsTo value (.error .overflow)

def InRange (value : ℚ) : Prop := |nearest value| < top

theorem RoundsTo.exists_iff {value : ℚ} {result : Except ArithmeticError Decimal}
    (rounds : RoundsTo value result) {holds : Decimal → Prop} {condition : Prop}
    (same : ∀ number : Decimal, number.IsFinite → number.exactly = nearest value →
      (holds number ↔ condition)) :
    (∃ number, result = .ok number ∧ holds number) ↔ InRange value ∧ condition := by
  cases rounds with
  | @rounded number isFinite isNearest inRange =>
      constructor
      · rintro ⟨other, isOther, known⟩
        cases isOther
        exact ⟨inRange, (same number isFinite isNearest).mp known⟩
      · rintro ⟨_, known⟩
        exact ⟨number, rfl, (same number isFinite isNearest).mpr known⟩
  | overflow outOfRange =>
      constructor
      · rintro ⟨other, isOther, _⟩
        cases isOther
      · rintro ⟨inRange, _⟩
        exact absurd inRange (not_lt.mpr outOfRange)

theorem RoundsTo.congr {value other : ℚ} {result : Except ArithmeticError Decimal}
    (rounds : RoundsTo value result) (same : nearest value = nearest other) :
    RoundsTo other result := by
  cases rounds with
  | rounded isFinite isNearest inRange =>
      exact .rounded isFinite (isNearest.trans same) (same ▸ inRange)
  | overflow outOfRange => exact .overflow (same ▸ outOfRange)

theorem whole_div_pow (coefficient drop : Nat) :
    HalfEven.whole ((coefficient : ℚ) / 10 ^ drop) = roundHalfEven coefficient drop := by
  have cast : (coefficient : ℚ) / 10 ^ drop = (coefficient : ℚ) / ((10 ^ drop : Nat) : ℚ) := by
    push_cast
    rfl
  have positive : 0 < 10 ^ drop := Nat.pow_pos (by decide)
  have castPositive : (0 : ℚ) < ((10 ^ drop : Nat) : ℚ) := by exact_mod_cast positive
  unfold HalfEven.whole roundHalfEven
  rw [cast, Rat.floor_natCast_div_natCast, Int.fract_div_natCast_eq_div_natCast_mod]
  generalize 10 ^ drop = scale at positive castPositive ⊢
  have below : (coefficient % scale : Nat) / (scale : ℚ) < 1 / 2 ↔
      2 * (coefficient % scale) < scale := by
    rw [div_lt_div_iff₀ castPositive two_pos, one_mul, mul_comm]
    exact_mod_cast Iff.rfl
  have tie : (coefficient % scale : Nat) / (scale : ℚ) = 1 / 2 ↔
      2 * (coefficient % scale) = scale := by
    rw [div_eq_div_iff castPositive.ne' two_ne_zero, one_mul, mul_comm]
    exact_mod_cast Iff.rfl
  have even : Even ((coefficient : Int) / (scale : Int)) ↔ coefficient / scale % 2 = 0 := by
    rw [Int.even_iff]
    omega
  simp only [below, tie, even]
  split <;> split <;> push_cast <;> omega

variable {value : ℚ} {exponent : Int} {coefficient : Nat} {left right : Decimal}

theorem log_mul_zpow (nonzero : coefficient ≠ 0) (exponent : Int) :
    Int.log 10 ((coefficient : ℚ) * 10 ^ exponent) = Nat.log 10 coefficient + exponent := by
  have positive : (0 : ℚ) < coefficient * 10 ^ exponent :=
    mul_pos (by exact_mod_cast Nat.pos_of_ne_zero nonzero) (zpow_pos (by norm_num) _)
  have power : ∀ digits : Nat, ((10 : Nat) : ℚ) ^ ((digits : Int) + exponent) =
      ((10 ^ digits : Nat) : ℚ) * 10 ^ exponent := by
    intro digits
    rw [zpow_add₀ (by norm_num), zpow_natCast]
    push_cast
    rfl
  have scale : (0 : ℚ) < 10 ^ exponent := zpow_pos (by norm_num) _
  refine le_antisymm (Int.le_of_lt_add_one ?_) ?_
  · rw [add_right_comm, ← Int.lt_zpow_iff_log_lt (by decide) positive]
    have below : coefficient < 10 ^ (Nat.log 10 coefficient + 1) :=
      Nat.lt_pow_succ_log_self (by decide) coefficient
    have shift : (Nat.log 10 coefficient : Int) + 1 = ((Nat.log 10 coefficient + 1 : Nat) : Int) := by
      push_cast
      rfl
    rw [shift, power]
    exact mul_lt_mul_of_pos_right (by exact_mod_cast below) scale
  · rw [← Int.zpow_le_iff_le_log (by decide) positive, power]
    have reached : 10 ^ Nat.log 10 coefficient ≤ coefficient := Nat.pow_log_le_self 10 nonzero
    exact mul_le_mul_of_nonneg_right (by exact_mod_cast reached) scale.le

theorem place_mul_zpow (nonzero : coefficient ≠ 0) (exponent : Int) :
    format.place ((coefficient : ℚ) * 10 ^ exponent) =
      max ((digitCount coefficient : Int) + exponent - prec) eTiny := by
  have nonneg : (0 : ℚ) ≤ coefficient * 10 ^ exponent :=
    mul_nonneg (Nat.cast_nonneg _) (zpow_nonneg (by norm_num) _)
  unfold NumberFormat.place
  rw [abs_of_nonneg nonneg]
  change max (Int.log 10 _ + 1 - (prec : Int)) eTiny = _
  rw [log_mul_zpow nonzero, digitCount]
  push_cast
  congr 1
  ring

variable {coefficient drop : Nat}

theorem nearest_of_drop
    (isPlace : format.place ((coefficient : ℚ) * 10 ^ exponent) = exponent + drop) :
    nearest (coefficient * 10 ^ exponent) =
      roundHalfEven coefficient drop * 10 ^ (exponent + drop) := by
  have ten : (10 : ℚ) ≠ 0 := by norm_num
  have isUnit : format.unit ((coefficient : ℚ) * 10 ^ exponent) = 10 ^ (exponent + drop) := by
    unfold NumberFormat.unit
    rw [isPlace]
    rfl
  have units : (coefficient : ℚ) * 10 ^ exponent / 10 ^ (exponent + drop) =
      coefficient / 10 ^ drop := by
    rw [zpow_add₀ ten, zpow_natCast]
    field_simp
  rw [nearest, NumberFormat.nearest, isUnit, units, whole_div_pow, Int.cast_natCast]

theorem nearest_of_kept (isPlace : format.place ((coefficient : ℚ) * 10 ^ exponent) ≤ exponent) :
    nearest (coefficient * 10 ^ exponent) = coefficient * 10 ^ exponent := by
  have kept := @NumberFormat.nearest_of_place_le ℚ _ _ _ _ format coefficient exponent
  rw [Int.cast_natCast] at kept
  exact kept isPlace

theorem pow_mul_zpow (digits : Nat) (exponent : Int) :
    ((10 ^ digits : Nat) : ℚ) * 10 ^ exponent = 10 ^ ((digits : Int) + exponent) := by
  rw [zpow_add₀ (by norm_num), zpow_natCast]
  push_cast
  rfl

theorem mul_zpow_lt_top {coefficient digits : Nat} (small : coefficient < 10 ^ digits)
    (belowTop : (digits : Int) + exponent ≤ eMax + 1) :
    (coefficient : ℚ) * 10 ^ exponent < top := by
  have positive : (0 : ℚ) < 10 ^ exponent := zpow_pos (by norm_num) _
  calc (coefficient : ℚ) * 10 ^ exponent
      < ((10 ^ digits : Nat) : ℚ) * 10 ^ exponent :=
        mul_lt_mul_of_pos_right (by exact_mod_cast small) positive
    _ = 10 ^ ((digits : Int) + exponent) := pow_mul_zpow digits exponent
    _ ≤ top := zpow_le_zpow_right₀ (by norm_num) belowTop

theorem nearest_top : nearest top = top :=
  @NumberFormat.nearest_zpow ℚ _ _ _ _ format (eMax + 1) (by decide)

theorem top_le_nearest (nonzero : coefficient ≠ 0)
    (tooLarge : eTop < (digitCount coefficient : Int) + exponent - prec) :
    top ≤ nearest (coefficient * 10 ^ exponent) := by
  have leading : 10 ^ Nat.log 10 coefficient ≤ coefficient := Nat.pow_log_le_self 10 nonzero
  have digits : digitCount coefficient = Nat.log 10 coefficient + 1 := rfl
  have scale : (0 : ℚ) < 10 ^ exponent := zpow_pos (by norm_num) _
  have reached : top ≤ coefficient * 10 ^ exponent := by
    calc top ≤ 10 ^ ((Nat.log 10 coefficient : Int) + exponent) :=
          zpow_le_zpow_right₀ (by norm_num) (by unfold eTop at tooLarge; omega)
      _ = ((10 ^ Nat.log 10 coefficient : Nat) : ℚ) * 10 ^ exponent :=
          (pow_mul_zpow _ exponent).symm
      _ ≤ coefficient * 10 ^ exponent :=
          mul_le_mul_of_nonneg_right (by exact_mod_cast leading) scale.le
  rw [← nearest_top]
  exact NumberFormat.nearest_mono reached

theorem roundHalfEven_le (few : digitCount coefficient ≤ prec + drop) :
    roundHalfEven coefficient drop ≤ 10 ^ prec := by
  have kept : coefficient / 10 ^ drop < 10 ^ prec := by
    rw [Nat.div_lt_iff_lt_mul (Nat.pow_pos (by decide)), ← Nat.pow_add]
    exact Nat.lt_of_lt_of_le lt_pow_digitCount (Nat.pow_le_pow_right (by decide) few)
  unfold roundHalfEven
  dsimp only
  split <;> omega

theorem roundHalfEven_of_carries (few : digitCount coefficient ≤ prec + drop)
    (carries : prec < digitCount (roundHalfEven coefficient drop)) :
    roundHalfEven coefficient drop = 10 ^ prec := by
  refine Nat.le_antisymm (roundHalfEven_le few) ?_
  by_contra smaller
  have nonzero : roundHalfEven coefficient drop ≠ 0 := by
    intro isZero
    rw [isZero] at carries
    exact absurd carries (by decide)
  have fewRounded := digitCount_le nonzero (Nat.lt_of_not_le smaller)
  omega

theorem carried_mul_zpow (place : Int) :
    ((10 ^ prec / 10 : Nat) : ℚ) * 10 ^ (place + 1) = ((10 ^ prec : Nat) : ℚ) * 10 ^ place := by
  have quotient : 10 ^ prec / 10 = 10 ^ (prec - 1) := by decide
  have split : ((prec - 1 : Nat) : Int) + (place + 1) = prec + place := by
    unfold prec
    omega
  rw [quotient, pow_mul_zpow, pow_mul_zpow, split]

theorem fix_magnitude (negative : Bool) (exponent : Int) (nonzero : coefficient ≠ 0) :
    (fix negative coefficient exponent = .error .overflow ∧
        top ≤ nearest (coefficient * 10 ^ exponent)) ∨
      ∃ rounded place, fix negative coefficient exponent = .ok (.finite negative rounded place) ∧
        (rounded : ℚ) * 10 ^ place = nearest (coefficient * 10 ^ exponent) ∧
        nearest (coefficient * 10 ^ exponent) < top := by
  have isPlace := place_mul_zpow nonzero exponent
  unfold fix
  rw [if_neg nonzero]
  dsimp only
  by_cases tooLarge : eTop < (digitCount coefficient : Int) + exponent - prec
  · exact Or.inl ⟨if_pos tooLarge, top_le_nearest nonzero tooLarge⟩
  rw [if_neg tooLarge, ← isPlace]
  generalize isLast : format.place ((coefficient : ℚ) * 10 ^ exponent) = place at isPlace ⊢
  have placeBelowTop : place ≤ eTop := by
    rw [isPlace]
    exact max_le (not_lt.mp tooLarge) (by decide)
  by_cases rounds : exponent < place
  · rw [if_pos rounds]
    have isDrop : exponent + ((place - exponent).toNat : Int) = place := by omega
    have value := nearest_of_drop (isLast.trans isDrop.symm)
    rw [isDrop] at value
    generalize (place - exponent).toNat = drop at isDrop value ⊢
    by_cases carries : prec < digitCount (roundHalfEven coefficient drop)
    · rw [if_pos carries]
      have isPower := roundHalfEven_of_carries (by omega) carries
      rw [isPower] at value ⊢
      by_cases overflows : eTop < place + 1
      · refine Or.inl ⟨if_pos overflows, ?_⟩
        rw [value, pow_mul_zpow]
        exact zpow_le_zpow_right₀ (by norm_num) (by unfold eTop at overflows; omega)
      · rw [if_neg overflows]
        refine Or.inr ⟨_, _, rfl, (carried_mul_zpow place).trans value.symm, ?_⟩
        rw [value, ← carried_mul_zpow]
        exact mul_zpow_lt_top (by decide : 10 ^ prec / 10 < 10 ^ prec)
          (by unfold eTop at overflows; omega)
    · rw [if_neg carries]
      refine Or.inr ⟨_, _, rfl, value.symm, ?_⟩
      rw [value]
      have small := Nat.pow_le_pow_right (n := 10) (by decide) (Nat.le_of_not_lt carries)
      refine mul_zpow_lt_top (Nat.lt_of_lt_of_le lt_pow_digitCount small) ?_
      unfold eTop at placeBelowTop
      omega
  · rw [if_neg rounds]
    have value := nearest_of_kept (isLast.trans_le (not_lt.mp rounds))
    refine Or.inr ⟨_, _, rfl, value.symm, ?_⟩
    rw [value]
    exact mul_zpow_lt_top lt_pow_digitCount (by unfold eTop at tooLarge; omega)

theorem signed_mul_zpow (negative : Bool) (coefficient : Nat) (exponent : Int) :
    (signed negative coefficient : ℚ) * 10 ^ exponent =
      if negative then -((coefficient : ℚ) * 10 ^ exponent) else coefficient * 10 ^ exponent := by
  cases negative <;> simp [signed]

theorem nearest_signed (negative : Bool) (value : ℚ) :
    nearest (if negative then -value else value) =
      if negative then -nearest value else nearest value := by
  cases negative with
  | false => rfl
  | true => exact NumberFormat.nearest_neg value

theorem nearest_nonneg (nonneg : 0 ≤ value) : 0 ≤ nearest value :=
  format.nearest_nonneg nonneg

theorem nearest_zero : nearest 0 = 0 := NumberFormat.nearest_zero

theorem top_pos : 0 < top := zpow_pos (by norm_num) _

theorem fix_rounds (negative : Bool) (coefficient : Nat) (exponent : Int) :
    RoundsTo (signed negative coefficient * 10 ^ exponent) (fix negative coefficient exponent) := by
  by_cases isZero : coefficient = 0
  · subst isZero
    have zero : (signed negative 0 : ℚ) * 10 ^ exponent = 0 := by
      cases negative <;> simp [signed]
    have result : fix negative 0 exponent =
        .ok (.finite negative 0 (min (max exponent eTiny) eMax)) := if_pos rfl
    rw [zero, result]
    refine .rounded trivial ?_ ?_
    · rw [nearest_zero]
      cases negative <;> simp [exactly, signed]
    · rw [nearest_zero, abs_zero]
      exact top_pos
  · have nonneg : 0 ≤ nearest ((coefficient : ℚ) * 10 ^ exponent) :=
      nearest_nonneg (mul_nonneg (Nat.cast_nonneg _) (zpow_nonneg (by norm_num) _))
    have magnitude : |nearest (signed negative coefficient * 10 ^ exponent)| =
        nearest (coefficient * 10 ^ exponent) := by
      rw [signed_mul_zpow, nearest_signed]
      cases negative with
      | false => exact abs_of_nonneg nonneg
      | true => exact (abs_neg _).trans (abs_of_nonneg nonneg)
    rcases fix_magnitude negative exponent isZero with
      ⟨overflows, outOfRange⟩ | ⟨rounded, place, result, value, inRange⟩
    · rw [overflows]
      exact .overflow (magnitude.symm ▸ outOfRange)
    · rw [result]
      refine .rounded trivial ?_ (magnitude.symm ▸ inRange)
      rw [signed_mul_zpow negative coefficient, nearest_signed, ← value]
      exact signed_mul_zpow negative rounded place

theorem exists_rounded (representable : Representable value) :
    ∃ number : Decimal, number.exactly = value ∧ RoundsTo value (.ok number) := by
  obtain ⟨number, exponent, _, _, _, same⟩ := id representable
  rw [← signed_natAbs number] at same
  rw [same] at representable ⊢
  obtain ⟨fixed, isFixed, _, isExact⟩ := fix_exact representable
  exact ⟨fixed, isExact, isFixed ▸ fix_rounds _ _ _⟩

theorem nearest_of_representable (representable : Representable value) : nearest value = value := by
  obtain ⟨number, isExact, rounded⟩ := exists_rounded representable
  cases rounded with
  | rounded _ isNearest _ => exact isNearest.symm.trans isExact

theorem RoundsTo.exact {result : Except ArithmeticError Decimal} (rounds : RoundsTo value result)
    (representable : Representable value) :
    ∃ number, result = .ok number ∧ number.IsFinite ∧ number.exactly = value := by
  have same := nearest_of_representable representable
  cases rounds with
  | rounded isFinite isNearest _ => exact ⟨_, rfl, isFinite, isNearest.trans same⟩
  | overflow outOfRange =>
      obtain ⟨_, _, rounded⟩ := exists_rounded representable
      cases rounded with
      | rounded _ _ inRange => exact absurd inRange (not_lt.mpr outOfRange)

theorem add_rounds {left right : Decimal} (leftFinite : left.IsFinite) (rightFinite : right.IsFinite) :
    RoundsTo (left.exactly + right.exactly) (add left right) := by
  cases left with
  | infinity | nan => exact leftFinite.elim
  | finite negative coefficient exponent =>
      cases right with
      | infinity | nan => exact rightFinite.elim
      | finite other added otherExponent =>
          have leftValue := @rescale_value negative coefficient _ _
            (min_le_left exponent otherExponent)
          have rightValue := @rescale_value other added _ _
            (min_le_right exponent otherExponent)
          simp only [exactly]
          rw [← leftValue, ← rightValue, ← add_mul, ← Int.cast_add, add_finite]
          dsimp only
          generalize rescale negative coefficient exponent (min exponent otherExponent) +
            rescale other added otherExponent (min exponent otherExponent) = total
          by_cases isZero : total = 0
          · subst isZero
            have rounds := fix_rounds (negative && other) 0 (min exponent otherExponent)
            have value : (signed (negative && other) 0 : ℚ) = ((0 : Int) : ℚ) := by
              cases negative && other <;> rfl
            rw [value] at rounds
            rw [if_pos rfl]
            exact rounds
          · have rounds := fix_rounds (decide (total < 0)) total.natAbs (min exponent otherExponent)
            rw [signed_natAbs] at rounds
            rw [if_neg isZero]
            exact rounds

theorem sub_eq_add (leftFinite : left.IsFinite) (rightFinite : right.IsFinite) :
    sub left right = add left right.copyNegate := by
  cases left with
  | infinity | nan => exact leftFinite.elim
  | finite =>
      cases right with
      | infinity | nan => exact rightFinite.elim
      | finite => simp [sub, checkNaNs]

theorem sub_rounds (leftFinite : left.IsFinite) (rightFinite : right.IsFinite) :
    RoundsTo (left.exactly - right.exactly) (sub left right) := by
  rw [sub_eq_add leftFinite rightFinite, sub_eq_add_neg, ← exactly_copyNegate]
  exact add_rounds leftFinite (isFinite_copyNegate rightFinite)

theorem add_exact (leftFinite : left.IsFinite) (rightFinite : right.IsFinite)
    (representable : Representable (left.exactly + right.exactly)) :
    ∃ sum, add left right = .ok sum ∧ sum.IsFinite ∧ sum.exactly = left.exactly + right.exactly :=
  (add_rounds leftFinite rightFinite).exact representable

theorem sub_exact (leftFinite : left.IsFinite) (rightFinite : right.IsFinite)
    (representable : Representable (left.exactly - right.exactly)) :
    ∃ difference, sub left right = .ok difference ∧ difference.IsFinite ∧
      difference.exactly = left.exactly - right.exactly :=
  (sub_rounds leftFinite rightFinite).exact representable

theorem signed_mul_signed (negative other : Bool) (coefficient multiplied : Nat) :
    signed negative coefficient * signed other multiplied =
      signed (negative != other) (coefficient * multiplied) := by
  cases negative <;> cases other <;> simp [signed]

theorem mul_rounds (leftFinite : left.IsFinite) (rightFinite : right.IsFinite) :
    RoundsTo (left.exactly * right.exactly) (mul left right) := by
  cases left with
  | infinity | nan => exact leftFinite.elim
  | finite negative coefficient exponent =>
      cases right with
      | infinity | nan => exact rightFinite.elim
      | finite other multiplied otherExponent =>
          have result : mul (.finite negative coefficient exponent)
              (.finite other multiplied otherExponent) =
              fix (negative != other) (coefficient * multiplied) (exponent + otherExponent) := by
            simp only [mul, checkNaNs, reduceCtorEq, or_self, if_false]
          have value : exactly (.finite negative coefficient exponent) *
              exactly (.finite other multiplied otherExponent) =
              signed (negative != other) (coefficient * multiplied) *
                10 ^ (exponent + otherExponent) := by
            rw [← signed_mul_signed, zpow_add₀ (by norm_num)]
            simp only [exactly]
            push_cast
            ring
          rw [result, value]
          exact fix_rounds _ _ _

theorem abs_rounds {number : Decimal} (finite : number.IsFinite) :
    RoundsTo |number.exactly| number.abs := by
  cases number with
  | infinity | nan => exact finite.elim
  | finite negative coefficient exponent =>
      have value : |exactly (.finite negative coefficient exponent)| =
          signed false coefficient * 10 ^ exponent := by
        have nonneg : (0 : ℚ) ≤ coefficient * 10 ^ exponent :=
          mul_nonneg (Nat.cast_nonneg _) (zpow_nonneg (by norm_num) _)
        simp only [exactly]
        rw [signed_mul_zpow]
        cases negative with
        | false => exact abs_of_nonneg nonneg
        | true => exact (abs_neg _).trans (abs_of_nonneg nonneg)
      rw [value]
      exact fix_rounds false coefficient exponent

def sticky (quotient : Nat) : Nat := if quotient % 5 = 0 then quotient + 1 else quotient

/-- A quotient that is cut after more digits than the context has, and its sticky version, are
on the same side of every tie. -/
theorem within_sticky {quotient : Nat} {value bound : ℚ} (many : 10 ^ prec ≤ quotient)
    (above : quotient * 10 ^ exponent < value) (below : value < (quotient + 1) * 10 ^ exponent)
    (positive : 0 < bound) :
    HalfEven.Within ⌊bound / format.unit bound⌋
        ((sticky quotient : ℚ) * 10 ^ exponent / format.unit bound) ↔
      HalfEven.Within ⌊bound / format.unit bound⌋ (value / format.unit bound) := by
  have floor := format.floor_div_unit_lt positive
  have isUnit : format.unit bound = 10 ^ format.place bound := rfl
  have scale : (0 : ℚ) < 10 ^ exponent := zpow_pos (by norm_num) _
  have unitPositive := format.unit_pos bound
  have least : quotient ≤ sticky quotient := by
    unfold sticky
    split <;> omega
  generalize ⌊bound / format.unit bound⌋ = whole at floor ⊢
  by_cases fine : format.place bound ≤ exponent
  · -- Both are above the bound, since they have more digits.
    have beyond : ∀ {other : ℚ}, (quotient : ℚ) * 10 ^ exponent ≤ other →
        ¬ HalfEven.Within whole (other / format.unit bound) := by
      intro other reached within
      have digits : (10 : ℚ) ^ prec ≤ other / format.unit bound := by
        rw [le_div_iff₀ unitPositive, isUnit]
        calc (10 : ℚ) ^ prec * 10 ^ format.place bound
            ≤ quotient * 10 ^ exponent := by
              refine mul_le_mul (by exact_mod_cast many) ?_ (zpow_nonneg (by norm_num) _)
                (Nat.cast_nonneg _)
              exact zpow_le_zpow_right₀ (by norm_num) fine
          _ ≤ other := reached
      exact absurd within.lt (not_lt.mpr (le_trans floor digits))
    refine iff_of_false (beyond ?_) (beyond above.le)
    exact mul_le_mul_of_nonneg_right (by exact_mod_cast least) scale.le
  · -- A tie is a multiple of five in the last place of the quotient.
    obtain ⟨drop, isPlace⟩ : ∃ drop : Nat, format.place bound = exponent + 1 + drop :=
      ⟨(format.place bound - exponent - 1).toNat, by omega⟩
    have isTie : ((whole : ℚ) + 1 / 2) * format.unit bound =
        ((5 * ((2 * whole + 1) * 10 ^ drop) : Int) : ℚ) * 10 ^ exponent := by
      rw [isUnit, isPlace, zpow_add₀ (by norm_num), zpow_add₀ (by norm_num), zpow_natCast, zpow_one]
      push_cast
      ring
    have unfolds : ∀ other : ℚ, HalfEven.Within whole (other / format.unit bound) ↔
        other < ((5 * ((2 * whole + 1) * 10 ^ drop) : Int) : ℚ) * 10 ^ exponent ∨
          (other = ((5 * ((2 * whole + 1) * 10 ^ drop) : Int) : ℚ) * 10 ^ exponent ∧ Even whole) := by
      intro other
      rw [HalfEven.Within, div_lt_iff₀ unitPositive, div_eq_iff unitPositive.ne', isTie]
    rw [unfolds, unfolds]
    generalize (2 * whole + 1) * 10 ^ drop = fifth
    have onValue : value < ((5 * fifth : Int) : ℚ) * 10 ^ exponent ↔ (quotient : Int) < 5 * fifth := by
      constructor
      · intro less
        by_contra notLess
        have reached : ((5 * fifth : Int) : ℚ) ≤ quotient := by exact_mod_cast not_lt.mp notLess
        exact absurd (less.trans_le (mul_le_mul_of_nonneg_right reached scale.le)) (lt_asymm above)
      · intro less
        have reached : ((quotient : ℚ) + 1) ≤ ((5 * fifth : Int) : ℚ) := by exact_mod_cast less
        exact below.trans_le (mul_le_mul_of_nonneg_right reached scale.le)
    have noTie : value ≠ ((5 * fifth : Int) : ℚ) * 10 ^ exponent := by
      intro tie
      rw [tie] at above below
      have low : (quotient : ℚ) < ((5 * fifth : Int) : ℚ) := lt_of_mul_lt_mul_right above scale.le
      have high : ((5 * fifth : Int) : ℚ) < (quotient : ℚ) + 1 :=
        lt_of_mul_lt_mul_right below scale.le
      have lowCast : (quotient : Int) < 5 * fifth := by exact_mod_cast low
      have highCast : 5 * fifth < (quotient : Int) + 1 := by exact_mod_cast high
      omega
    have onSticky : (sticky quotient : ℚ) * 10 ^ exponent < ((5 * fifth : Int) : ℚ) * 10 ^ exponent ↔
        (quotient : Int) < 5 * fifth := by
      rw [mul_lt_mul_iff_left₀ scale]
      have casts : (sticky quotient : ℚ) < ((5 * fifth : Int) : ℚ) ↔
          (sticky quotient : Int) < 5 * fifth := by exact_mod_cast Iff.rfl
      rw [casts]
      unfold sticky
      split <;> push_cast <;> omega
    have noStickyTie : (sticky quotient : ℚ) * 10 ^ exponent ≠
        ((5 * fifth : Int) : ℚ) * 10 ^ exponent := by
      intro tie
      have same := mul_right_cancel₀ scale.ne' tie
      have cast : (sticky quotient : Int) = 5 * fifth := by exact_mod_cast same
      unfold sticky at cast
      split at cast <;> push_cast at cast <;> omega
    rw [onValue, onSticky, or_iff_left fun tie => noStickyTie tie.1, or_iff_left fun tie => noTie tie.1]

theorem nearest_sticky {quotient : Nat} (many : 10 ^ prec ≤ quotient)
    (above : quotient * 10 ^ exponent < value) (below : value < (quotient + 1) * 10 ^ exponent) :
    nearest (sticky quotient * 10 ^ exponent) = nearest value := by
  have scale : (0 : ℚ) < 10 ^ exponent := zpow_pos (by norm_num) _
  have valuePositive : 0 < value :=
    (mul_nonneg (Nat.cast_nonneg _) scale.le).trans_lt above
  have stickyPositive : (0 : ℚ) < sticky quotient * 10 ^ exponent := by
    refine mul_pos ?_ scale
    have positive : 0 < sticky quotient := by
      have large : 0 < quotient := Nat.lt_of_lt_of_le (Nat.pow_pos (by decide)) many
      unfold sticky
      split <;> omega
    exact_mod_cast positive
  refine le_antisymm ?_ ?_
  · exact NumberFormat.nearest_le_nearest stickyPositive valuePositive fun bound positive =>
      (within_sticky many above below positive).mpr
  · exact NumberFormat.nearest_le_nearest valuePositive stickyPositive fun bound positive =>
      (within_sticky many above below positive).mp

theorem dropZeros_value (drop coefficient : Nat) (exponent : Int) :
    ((dropZeros drop coefficient exponent).1 : ℚ) * 10 ^ (dropZeros drop coefficient exponent).2 =
      coefficient * 10 ^ exponent := by
  induction drop generalizing coefficient exponent with
  | zero => rfl
  | succ drop ih =>
      unfold dropZeros
      split
      · rename_i divides
        obtain ⟨tenth, rfl⟩ := Nat.dvd_of_mod_eq_zero divides
        rw [ih, Nat.mul_div_cancel_left _ (by decide), zpow_add₀ (by norm_num), zpow_one]
        push_cast
        ring
      · rfl

theorem quotient_large {coefficient divisor : Nat} (nonzero : coefficient ≠ 0) {shift : Int}
    (isShift : shift = (digitCount divisor : Int) - digitCount coefficient + prec + 1) :
    10 ^ prec * (divisor * 10 ^ (-shift).toNat) ≤ coefficient * 10 ^ shift.toNat := by
  have leading : 10 ^ Nat.log 10 coefficient ≤ coefficient := Nat.pow_log_le_self 10 nonzero
  have trailing : divisor ≤ 10 ^ digitCount divisor := lt_pow_digitCount.le
  have digits : digitCount coefficient = Nat.log 10 coefficient + 1 := rfl
  calc 10 ^ prec * (divisor * 10 ^ (-shift).toNat)
      ≤ 10 ^ prec * (10 ^ digitCount divisor * 10 ^ (-shift).toNat) :=
        Nat.mul_le_mul_left _ (Nat.mul_le_mul_right _ trailing)
    _ = 10 ^ (prec + digitCount divisor + (-shift).toNat) := by
        rw [Nat.pow_add, Nat.pow_add, Nat.mul_assoc]
    _ = 10 ^ (Nat.log 10 coefficient + shift.toNat) := by
        congr 1
        omega
    _ = 10 ^ Nat.log 10 coefficient * 10 ^ shift.toNat := Nat.pow_add _ _ _
    _ ≤ coefficient * 10 ^ shift.toNat := Nat.mul_le_mul_right _ leading

theorem quotient_value (coefficient divisor : Nat) (exponent otherExponent shift : Int) :
    (coefficient : ℚ) * 10 ^ exponent / (divisor * 10 ^ otherExponent) =
      ((coefficient * 10 ^ shift.toNat : Nat) : ℚ) / ((divisor * 10 ^ (-shift).toNat : Nat) : ℚ) *
        10 ^ (exponent - otherExponent - shift) := by
  have ten : (10 : ℚ) ≠ 0 := by norm_num
  have split : shift = (shift.toNat : Int) - ((-shift).toNat : Int) := by omega
  have power : (10 : ℚ) ^ (exponent - otherExponent - shift) =
      10 ^ exponent / 10 ^ otherExponent * (10 ^ (-shift).toNat / 10 ^ shift.toNat) := by
    rw [zpow_sub₀ ten, zpow_sub₀ ten]
    conv_lhs => rw [split, zpow_sub₀ ten, zpow_natCast, zpow_natCast]
    rw [div_div_eq_mul_div, mul_div_assoc]
  rw [power]
  push_cast
  have left : (10 : ℚ) ^ shift.toNat ≠ 0 := pow_ne_zero _ ten
  have right : (10 : ℚ) ^ (-shift).toNat ≠ 0 := pow_ne_zero _ ten
  have other : (10 : ℚ) ^ otherExponent ≠ 0 := zpow_ne_zero _ ten
  by_cases isZero : (divisor : ℚ) = 0
  · rw [isZero]
    simp
  · field_simp

theorem quotient_rounds (negative : Bool) {dividend divisor : Nat} (target : Int) (drop : Nat)
    (positive : 0 < divisor) (large : 10 ^ prec * divisor ≤ dividend) :
    RoundsTo (if negative then -((dividend : ℚ) / divisor * 10 ^ target)
        else (dividend : ℚ) / divisor * 10 ^ target)
      (if dividend % divisor = 0 then
        fix negative (dropZeros drop (dividend / divisor) target).1
          (dropZeros drop (dividend / divisor) target).2
      else fix negative (sticky (dividend / divisor)) target) := by
  have castPositive : (0 : ℚ) < divisor := by exact_mod_cast positive
  have scale : (0 : ℚ) < 10 ^ target := zpow_pos (by norm_num) _
  have division := Nat.div_add_mod dividend divisor
  by_cases isExact : dividend % divisor = 0
  · rw [if_pos isExact]
    have rounds := fix_rounds negative (dropZeros drop (dividend / divisor) target).1
      (dropZeros drop (dividend / divisor) target).2
    rw [signed_mul_zpow, dropZeros_value] at rounds
    have value : (dividend : ℚ) / divisor = ((dividend / divisor : Nat) : ℚ) := by
      rw [div_eq_iff castPositive.ne', mul_comm]
      exact_mod_cast (by omega : dividend = divisor * (dividend / divisor))
    rw [value]
    exact rounds
  · rw [if_neg isExact]
    have rounds := fix_rounds negative (sticky (dividend / divisor)) target
    rw [signed_mul_zpow] at rounds
    have remainder : dividend % divisor < divisor := Nat.mod_lt _ positive
    have above : ((dividend / divisor : Nat) : ℚ) < dividend / divisor := by
      rw [lt_div_iff₀ castPositive, mul_comm]
      exact_mod_cast (by omega : divisor * (dividend / divisor) < dividend)
    have below : (dividend : ℚ) / divisor < ((dividend / divisor : Nat) : ℚ) + 1 := by
      rw [div_lt_iff₀ castPositive, mul_comm, mul_add, mul_one]
      exact_mod_cast (by omega : dividend < divisor * (dividend / divisor) + divisor)
    have many : 10 ^ prec ≤ dividend / divisor := (Nat.le_div_iff_mul_le positive).mpr large
    have nearestSame := nearest_sticky many (mul_lt_mul_of_pos_right above scale)
      (mul_lt_mul_of_pos_right below scale)
    refine rounds.congr ?_
    rw [nearest_signed, nearest_signed, nearestSame]

theorem signed_div_signed (negative other : Bool) (left right : ℚ) :
    (if negative then -left else left) / (if other then -right else right) =
      if negative != other then -(left / right) else left / right := by
  cases negative <;> cases other <;> simp [neg_div, div_neg]

theorem div_rounds {left right : Decimal} (leftFinite : left.IsFinite) (rightFinite : right.IsFinite)
    (nonzero : right.exactly ≠ 0) : RoundsTo (left.exactly / right.exactly) (div left right) := by
  cases left with
  | infinity | nan => exact leftFinite.elim
  | finite negative coefficient exponent =>
      cases right with
      | infinity | nan => exact rightFinite.elim
      | finite other divisor otherExponent =>
          have divisorNonzero : divisor ≠ 0 := by
            rintro rfl
            refine nonzero ?_
            cases other <;> simp [exactly, signed]
          have value : exactly (.finite negative coefficient exponent) /
              exactly (.finite other divisor otherExponent) =
              if negative != other then
                -((coefficient : ℚ) * 10 ^ exponent / (divisor * 10 ^ otherExponent))
              else (coefficient : ℚ) * 10 ^ exponent / (divisor * 10 ^ otherExponent) := by
            simp only [exactly]
            rw [signed_mul_zpow, signed_mul_zpow, signed_div_signed]
          rw [value]
          simp only [div, checkNaNs, reduceCtorEq, or_self, if_false]
          rw [if_neg divisorNonzero]
          by_cases isZero : coefficient = 0
          · subst isZero
            rw [if_pos rfl]
            have rounds := fix_rounds (negative != other) 0 (exponent - otherExponent)
            rw [signed_mul_zpow] at rounds
            simp only [Nat.cast_zero, zero_mul, zero_div] at rounds ⊢
            exact rounds
          rw [if_neg isZero]
          generalize isShift : (digitCount divisor : Int) - digitCount coefficient + prec + 1 = shift
          rw [quotient_value coefficient divisor exponent otherExponent shift]
          have large := quotient_large isZero isShift.symm
          have scaled : 0 < divisor * 10 ^ (-shift).toNat :=
            Nat.mul_pos (Nat.pos_of_ne_zero divisorNonzero) (Nat.pow_pos (by decide))
          generalize coefficient * 10 ^ shift.toNat = dividend at large ⊢
          generalize divisor * 10 ^ (-shift).toNat = scaledDivisor at large scaled ⊢
          exact quotient_rounds _ _ shift.toNat scaled large

end Decimal

end TurtleExecution

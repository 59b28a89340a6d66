/-
Values of bounded size, which operations of the context do not overflow.
-/

import TurtleExecution.Foundation.DecimalOrder
import TurtleExecution.Foundation.DecimalRounding

set_option autoImplicit false

namespace TurtleExecution

namespace Decimal

theorem ten_zpow_pos (exponent : Int) : (0 : ℚ) < (10 : ℚ) ^ exponent :=
  zpow_pos (by norm_num) exponent

theorem ten_zpow_le {exponent other : Int} (below : exponent ≤ other) :
    (10 : ℚ) ^ exponent ≤ (10 : ℚ) ^ other :=
  zpow_le_zpow_right₀ (by norm_num) below

theorem abs_nearest_le {exponent : Int} {value : ℚ} (least : eTiny ≤ exponent)
    (small : |value| ≤ (10 : ℚ) ^ exponent) : |nearest value| ≤ (10 : ℚ) ^ exponent := by
  have rounded : nearest |value| ≤ nearest ((10 : ℚ) ^ exponent) := NumberFormat.nearest_mono small
  have kept : nearest ((10 : ℚ) ^ exponent) = (10 : ℚ) ^ exponent :=
    @NumberFormat.nearest_zpow ℚ _ _ _ _ format exponent least
  rw [nearest, NumberFormat.abs_nearest]
  rw [kept] at rounded
  exact rounded

theorem inRange_of_abs_le {exponent : Int} {value : ℚ} (least : eTiny ≤ exponent)
    (large : exponent ≤ eMax) (small : |value| ≤ (10 : ℚ) ^ exponent) : InRange value := by
  have less : (10 : ℚ) ^ eMax < top := zpow_lt_zpow_right₀ (by norm_num) (lt_add_one _)
  exact ((abs_nearest_le least small).trans (ten_zpow_le large)).trans_lt less

end Decimal

end TurtleExecution

namespace TurtleExecution

namespace Decimal

theorem exactly_one : (Decimal.ofInt 1).exactly = 1 := by
  simp [Decimal.ofInt, exactly, signed]

theorem one_isFinite : (Decimal.ofInt 1).IsFinite := trivial

theorem sign_of_finite {negative : Bool} {coefficient : Nat} {exponent : Int}
    (nonzero : coefficient ≠ 0) :
    exactly (.finite negative coefficient exponent) ≠ 0 ∧
      decide (exactly (.finite negative coefficient exponent) < 0) = negative := by
  have positive : (0 : ℚ) < coefficient * 10 ^ exponent :=
    mul_pos (by exact_mod_cast Nat.pos_of_ne_zero nonzero) (zpow_pos (by norm_num) _)
  have value : exactly (.finite negative coefficient exponent) =
      if negative then -((coefficient : ℚ) * 10 ^ exponent) else coefficient * 10 ^ exponent :=
    signed_mul_zpow negative coefficient exponent
  cases negative with
  | false =>
      have above : 0 < exactly (.finite false coefficient exponent) := value ▸ positive
      exact ⟨above.ne', decide_eq_false (not_lt.mpr above.le)⟩
  | true =>
      have below : exactly (.finite true coefficient exponent) < 0 :=
        value ▸ neg_lt_zero.mpr positive
      exact ⟨below.ne, decide_eq_true below⟩

theorem mul_infinity_iff {negative : Bool} {number : Decimal} (isFinite : number.IsFinite)
    {holds : Decimal → Prop} :
    (∃ product, Decimal.mul (.infinity negative) number = .ok product ∧ holds product) ↔
      number.exactly ≠ 0 ∧ holds (.infinity (negative != decide (number.exactly < 0))) := by
  cases number with
  | infinity | nan => exact isFinite.elim
  | finite other coefficient exponent =>
      have product : Decimal.mul (.infinity negative) (.finite other coefficient exponent) =
          if coefficient = 0 then .error .invalidOperation
          else .ok (.infinity (negative != other)) := rfl
      rw [product]
      by_cases isZero : coefficient = 0
      · subst isZero
        have zero : exactly (.finite other 0 exponent) = 0 := by
          cases other <;> simp [exactly, signed]
        rw [if_pos rfl]
        refine iff_of_false ?_ fun known => known.1 zero
        rintro ⟨product, impossible, _⟩
        cases impossible
      · obtain ⟨nonzero, sign⟩ := @sign_of_finite other coefficient exponent isZero
        rw [if_neg isZero, sign]
        constructor
        · rintro ⟨product, isProduct, known⟩
          cases isProduct
          exact ⟨nonzero, known⟩
        · exact fun known => ⟨_, rfl, known.2⟩

theorem infinity_positive {negative : Bool} {number : Decimal} (isFinite : number.IsFinite)
    (positive : 0 < number.exactly) :
    Decimal.mul (.infinity negative) number = .ok (.infinity negative) ∧
      Decimal.mul number (.infinity negative) = .ok (.infinity negative) ∧
      Decimal.div (.infinity negative) number = .ok (.infinity negative) := by
  cases number with
  | infinity | nan => exact isFinite.elim
  | finite other coefficient exponent =>
      have nonzero : coefficient ≠ 0 := by
        rintro rfl
        refine positive.ne' ?_
        cases other <;> simp [exactly, signed]
      have sign := (@sign_of_finite other coefficient exponent nonzero).2
      rw [decide_eq_false (not_lt.mpr positive.le)] at sign
      subst sign
      have product : Decimal.mul (.infinity negative) (.finite false coefficient exponent) =
          if coefficient = 0 then .error .invalidOperation
          else .ok (.infinity (negative != false)) := rfl
      have swapped : Decimal.mul (.finite false coefficient exponent) (.infinity negative) =
          if coefficient = 0 then .error .invalidOperation
          else .ok (.infinity (false != negative)) := rfl
      have quotient : Decimal.div (.infinity negative) (.finite false coefficient exponent) =
          .ok (.infinity (negative != false)) := rfl
      rw [product, swapped, quotient, if_neg nonzero, if_neg nonzero, Bool.bne_false,
        Bool.false_bne]
      exact ⟨rfl, rfl, rfl⟩

theorem finite_of_between {low number high : Decimal} (lowFinite : low.IsFinite)
    (highFinite : high.IsFinite) (above : Arithmetic.le low number = .ok true)
    (below : Arithmetic.le number high = .ok true) :
    number.IsFinite ∧ low.exactly ≤ number.exactly ∧ number.exactly ≤ high.exactly := by
  obtain ⟨lowValue, value, isLow, isValue, above⟩ := le_iff_values.mp above
  obtain ⟨value', highValue, isValue', isHigh, below⟩ := le_iff_values.mp below
  cases (extended_of_finite lowFinite).symm.trans isLow
  cases (extended_of_finite highFinite).symm.trans isHigh
  cases isValue.symm.trans isValue'
  have aboveLow := of_decide_eq_true above.symm
  have belowHigh := of_decide_eq_true below.symm
  cases number with
  | nan signaling => cases isValue
  | infinity negative =>
      cases negative with
      | false =>
          cases isValue
          exact absurd (WithBot.coe_le_coe.mp belowHigh) (not_le.mpr (WithTop.coe_lt_top _))
      | true =>
          cases isValue
          exact absurd aboveLow (not_le.mpr (WithBot.bot_lt_coe _))
  | finite negative coefficient exponent =>
      cases isValue
      exact ⟨trivial, WithTop.coe_le_coe.mp (WithBot.coe_le_coe.mp aboveLow),
        WithTop.coe_le_coe.mp (WithBot.coe_le_coe.mp belowHigh)⟩

section

variable {leftValue rightValue : WithBot (WithTop ℚ)} {number : Decimal}

def nearestExtended : WithBot (WithTop ℚ) → WithBot (WithTop ℚ) := WithBot.map (WithTop.map nearest)

theorem nearestExtended_mono : Monotone nearestExtended :=
  Monotone.withBot_map (Monotone.withTop_map fun _ _ below => NumberFormat.nearest_mono below)

private theorem extended_of_rounds {value : ℚ} (rounds : RoundsTo value (.ok number)) :
    number.extended = some (nearestExtended ((value : WithTop ℚ) : WithBot (WithTop ℚ))) := by
  cases rounds with
  | rounded isFinite isNearest inRange =>
      rw [extended_of_finite isFinite, isNearest]
      rfl

theorem extended_add {left right sum : Decimal} (isLeft : left.extended = some leftValue)
    (isRight : right.extended = some rightValue) (added : add left right = .ok sum) :
    sum.extended = some (nearestExtended (leftValue + rightValue)) := by
  cases left with
  | nan signaling => cases isLeft
  | infinity negative =>
      cases right with
      | nan signaling => cases isRight
      | infinity other =>
          cases negative <;> cases other <;> cases isLeft <;> cases isRight <;> cases added <;> rfl
      | finite other coefficient exponent =>
          cases negative <;> cases isLeft <;> cases isRight <;> cases added <;> rfl
  | finite negative coefficient exponent =>
      cases right with
      | nan signaling => cases isRight
      | infinity other => cases other <;> cases isLeft <;> cases isRight <;> cases added <;> rfl
      | finite other otherCoefficient otherExponent =>
          have rounds := @add_rounds (.finite negative coefficient exponent)
            (.finite other otherCoefficient otherExponent) trivial trivial
          rw [added] at rounds
          cases isLeft
          cases isRight
          exact extended_of_rounds rounds

def quotientExtended (divisor : WithBot (WithTop ℚ)) (value : WithBot (WithTop ℚ)) :
    WithBot (WithTop ℚ) :=
  if divisor = (⊤ : WithTop ℚ) then ((0 : ℚ) : WithTop ℚ)
  else nearestExtended (WithBot.map (WithTop.map (· / (divisor.unbotD 0).untopD 0)) value)

theorem quotientExtended_mono {divisor : WithBot (WithTop ℚ)}
    (positive : (((0 : ℚ) : WithTop ℚ) : WithBot (WithTop ℚ)) < divisor) :
    Monotone (quotientExtended divisor) := by
  intro left right below
  unfold quotientExtended
  split
  · exact le_refl _
  · rename_i isFinite
    refine nearestExtended_mono (Monotone.withBot_map (Monotone.withTop_map ?_) below)
    intro low high belowToo
    refine div_le_div_of_nonneg_right belowToo ?_
    cases divisor with
    | bot => exact absurd positive (not_lt.mpr bot_le)
    | coe divisor =>
        cases divisor with
        | top => exact absurd rfl isFinite
        | coe divisor => exact (WithTop.coe_lt_coe.mp (WithBot.coe_lt_coe.mp positive)).le

theorem extended_div {left right quotient : Decimal} (isLeft : left.extended = some leftValue)
    (isRight : right.extended = some rightValue)
    (positive : (((0 : ℚ) : WithTop ℚ) : WithBot (WithTop ℚ)) < rightValue)
    (divided : div left right = .ok quotient) :
    quotient.extended = some (quotientExtended rightValue leftValue) := by
  cases right with
  | nan signaling => cases isRight
  | infinity other =>
      cases other with
      | true =>
          cases isRight
          exact absurd positive (not_lt.mpr bot_le)
      | false =>
          cases isRight
          cases left with
          | nan signaling => cases isLeft
          | infinity negative => cases divided
          | finite negative coefficient exponent =>
              cases divided
              have zero : exactly (.finite (negative != false) 0 eTiny) = 0 := by
                cases negative <;> simp [exactly, signed]
              have isFinite : (finite (negative != false) 0 eTiny).IsFinite := trivial
              rw [extended_of_finite isFinite, zero]
              rfl
  | finite other divisor otherExponent =>
      cases isRight
      have known : 0 < exactly (.finite other divisor otherExponent) :=
        WithTop.coe_lt_coe.mp (WithBot.coe_lt_coe.mp positive)
      cases left with
      | nan signaling => cases isLeft
      | infinity negative =>
          have isPositive : other = false := by
            cases other with
            | false => rfl
            | true =>
                refine absurd known (not_lt.mpr ?_)
                have nonneg : (0 : ℚ) ≤ divisor * 10 ^ otherExponent :=
                  mul_nonneg (Nat.cast_nonneg _) (zpow_nonneg (by norm_num) _)
                simp only [exactly]
                rw [signed_mul_zpow, if_pos rfl]
                exact neg_nonpos.mpr nonneg
          subst isPositive
          cases negative <;> cases isLeft <;> cases divided <;> rfl
      | finite negative coefficient exponent =>
          have rounds := @div_rounds (.finite negative coefficient exponent)
            (.finite other divisor otherExponent) trivial trivial known.ne'
          rw [divided] at rounds
          cases isLeft
          exact extended_of_rounds rounds

private theorem checkNaNs_of_known {left right : Decimal} {otherwise : Except ArithmeticError Decimal}
    (isLeft : left.extended = some leftValue) (isRight : right.extended = some rightValue) :
    checkNaNs left right otherwise = otherwise := by
  have known : ∀ {number : Decimal} {value : WithBot (WithTop ℚ)} (signaling : Bool),
      number.extended = some value → number ≠ .nan signaling := by
    rintro number value signaling isValue rfl
    cases isValue
  rw [checkNaNs, if_neg (not_or.mpr ⟨known true isLeft, known true isRight⟩),
    if_neg (not_or.mpr ⟨known false isLeft, known false isRight⟩)]

theorem extended_sub {left right difference : Decimal} (isLeft : left.extended = some leftValue)
    (isRight : right.extended = some rightValue) (subtracted : sub left right = .ok difference) :
    ∃ negated, right.copyNegate.extended = some negated ∧
      difference.extended = some (nearestExtended (leftValue + negated)) := by
  have negates : ∃ negated, right.copyNegate.extended = some negated := by
    cases right with
    | nan signaling => cases isRight
    | infinity negative => cases negative <;> exact ⟨_, rfl⟩
    | finite negative coefficient exponent => exact ⟨_, rfl⟩
  obtain ⟨negated, isNegated⟩ := negates
  rw [sub, checkNaNs_of_known isLeft isRight] at subtracted
  exact ⟨negated, isNegated, extended_add isLeft isNegated subtracted⟩

theorem nearestExtended_nearestExtended (value : WithBot (WithTop ℚ)) :
    nearestExtended (nearestExtended value) = nearestExtended value := by
  cases value with
  | bot => rfl
  | coe value =>
      cases value with
      | top => rfl
      | coe value =>
          have same := @NumberFormat.nearest_nearest ℚ _ _ _ _ format value
          exact congrArg (fun rounded : ℚ => ((rounded : WithTop ℚ) : WithBot (WithTop ℚ))) same

end

end Decimal

end TurtleExecution

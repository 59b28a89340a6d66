/-
The order of whole numbers and floats, before and after they are made floats.
-/

import Mathlib.Order.Hom.WithTopBot
import TurtleExecution.Foundation.PyNumber

set_option autoImplicit false

namespace TurtleExecution

namespace FloatValue

def IsRounded : FloatValue → Prop
  | .finite value => round value = .finite value
  | _ => True

instance (value : FloatValue) : Decidable value.IsRounded :=
  match value with
  | .finite value => inferInstanceAs (Decidable (round value = .finite value))
  | .infinity _ => isTrue trivial
  | .nan => isTrue trivial

theorem nearest_of_isRounded {value : ℚ} (isRounded : (FloatValue.finite value).IsRounded) :
    Binary64.format.nearest value = value := by
  have rounded : round value = .finite value := isRounded
  unfold round at rounded
  dsimp only at rounded
  split at rounded
  · exact FloatValue.finite.inj rounded
  · cases rounded

theorem ofInt?_some {value : Int} {converted : FloatValue} (made : ofInt? value = some converted) :
    converted = .finite (Binary64.format.nearest (value : ℚ)) := by
  unfold ofInt? at made
  dsimp only at made
  split at made
  · exact (Option.some.inj made).symm
  · cases made

theorem ofInt?_one : ofInt? 1 = some (.finite 1) := by
  have isFloat := (ofInt?_two_pow 0).mpr (by decide)
  obtain ⟨converted, made⟩ := Option.isSome_iff_exists.mp isFloat
  rw [pow_zero] at made
  rw [made, ofInt?_some made, Int.cast_one]
  have kept := nearest_two_pow 0
  rw [pow_zero] at kept
  rw [kept]

end FloatValue

namespace PyNumber

def IsRounded : PyNumber → Prop
  | .int _ => True
  | .float value => value.IsRounded

theorem lt_int {left right : Int} : (PyNumber.int left).lt (.int right) = true ↔ left < right := by
  simp only [lt, compares, extended, decide_eq_true_iff, WithBot.coe_lt_coe, WithTop.coe_lt_coe,
    Int.cast_lt]

theorem le_int {left right : Int} : (PyNumber.int left).le (.int right) = true ↔ left ≤ right := by
  simp only [le, compares, extended, decide_eq_true_iff, WithBot.coe_le_coe, WithTop.coe_le_coe,
    Int.cast_le]

variable {left right : PyNumber} {low high : WithBot (WithTop ℚ)}

theorem lt_iff :
    left.lt right = true ↔ ∃ low high, left.extended = some low ∧ right.extended = some high ∧
      low < high := by
  unfold lt compares
  cases left.extended <;> cases right.extended <;> simp

theorem le_iff :
    left.le right = true ↔ ∃ low high, left.extended = some low ∧ right.extended = some high ∧
      low ≤ high := by
  unfold le compares
  cases left.extended <;> cases right.extended <;> simp

theorem extended_round (value : ℚ) :
    ∃ place, (PyNumber.float (FloatValue.round value)).extended = some place := by
  unfold FloatValue.round
  dsimp only
  split
  · exact ⟨_, rfl⟩
  · exact ⟨_, rfl⟩

theorem le_of_lt_eq_false (isLow : left.extended = some low) (isHigh : right.extended = some high)
    (notBelow : right.lt left = false) : left.le right = true := by
  refine le_iff.mpr ⟨low, high, isLow, isHigh, ?_⟩
  by_contra above
  rw [lt_iff.mpr ⟨high, low, isHigh, isLow, not_le.mp above⟩] at notBelow
  cases notBelow

theorem lt_of_le_eq_false (isLow : left.extended = some low) (isHigh : right.extended = some high)
    (notBelow : right.le left = false) : left.lt right = true := by
  refine lt_iff.mpr ⟨low, high, isLow, isHigh, ?_⟩
  by_contra above
  rw [le_iff.mpr ⟨high, low, isHigh, isLow, not_lt.mp above⟩] at notBelow
  cases notBelow

theorem lt_iff_not_le (isLow : left.extended = some low) (isHigh : right.extended = some high) :
    left.lt right = true ↔ ¬ right.le left = true := by
  constructor
  · intro below above
    obtain ⟨_, _, leftPlace, rightPlace, strictly⟩ := lt_iff.mp below
    obtain ⟨_, _, rightPlace', leftPlace', ordered⟩ := le_iff.mp above
    rw [leftPlace] at leftPlace'
    rw [rightPlace] at rightPlace'
    cases leftPlace'
    cases rightPlace'
    exact strictly.not_ge ordered
  · intro notAbove
    exact lt_of_le_eq_false isLow isHigh (Bool.eq_false_iff.mpr notAbove)

/-- A whole number among the floats is below a rounded value if it is below what the value is
rounded to. -/
theorem int_le_round_iff {number : Int} {value : ℚ} (small : |(number : ℚ)| < FloatValue.top) :
    (PyNumber.int number).le (.float (FloatValue.round value)) = true ↔
      (number : ℚ) ≤ Binary64.format.nearest value := by
  obtain ⟨low, high⟩ := abs_lt.mp small
  unfold FloatValue.round
  dsimp only
  split
  · simp only [le, compares, extended, decide_eq_true_iff, WithBot.coe_le_coe, WithTop.coe_le_coe]
  · rename_i large
    rcases lt_or_ge (Binary64.format.nearest value) 0 with negative | nonneg
    · rw [abs_of_neg negative] at large
      simp only [le, compares, extended, negative, decide_true, if_true, decide_eq_true_iff]
      constructor
      · intro impossible
        exact absurd (le_bot_iff.mp impossible) (WithBot.coe_ne_bot)
      · intro below
        linarith
    · rw [abs_of_nonneg nonneg] at large
      simp only [le, compares, extended, nonneg.not_gt, decide_false, decide_eq_true_iff]
      constructor
      · intro _
        linarith
      · intro _
        exact le_top

def nearestExtended : WithBot (WithTop ℚ) → WithBot (WithTop ℚ) :=
  WithBot.map (WithTop.map Binary64.format.nearest)

theorem nearestExtended_mono : Monotone nearestExtended :=
  Monotone.withBot_map (Monotone.withTop_map fun _ _ below => NumberFormat.nearest_mono below)

theorem extended_float? {number : PyNumber} {converted : FloatValue} (isRounded : number.IsRounded)
    (made : number.float? = some converted) :
    (PyNumber.float converted).extended = number.extended.map nearestExtended := by
  cases number with
  | int value =>
      rw [FloatValue.ofInt?_some made]
      rfl
  | float value =>
      cases made
      cases converted with
      | finite value =>
          have kept := FloatValue.nearest_of_isRounded isRounded
          simp [extended, nearestExtended, kept]
      | infinity negative => cases negative <;> rfl
      | nan => rfl

theorem le_float? {low high : FloatValue} (leftRounded : left.IsRounded)
    (rightRounded : right.IsRounded) (isLow : left.float? = some low)
    (isHigh : right.float? = some high) (below : left.le right = true) :
    (PyNumber.float low).le (.float high) = true := by
  obtain ⟨lowValue, highValue, leftPlace, rightPlace, ordered⟩ := le_iff.mp below
  refine le_iff.mpr ⟨_, _, ?_, ?_, nearestExtended_mono ordered⟩
  · rw [extended_float? leftRounded isLow, leftPlace]
    rfl
  · rw [extended_float? rightRounded isHigh, rightPlace]
    rfl

end PyNumber

end TurtleExecution

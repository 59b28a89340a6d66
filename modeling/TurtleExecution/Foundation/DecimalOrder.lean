/-
The order of decimals is the order of their values, with the infinities at its ends.
-/

import Mathlib.Order.Compare
import Mathlib.Order.WithBot
import TurtleExecution.Foundation.Decimal

set_option autoImplicit false

namespace TurtleExecution

namespace Decimal

/-- The value of a number that is not NaN, among the extended rationals. -/
def extended : Decimal → Option (WithBot (WithTop ℚ))
  | .finite negative coefficient exponent =>
      some ((exactly (.finite negative coefficient exponent) : WithTop ℚ) : WithBot (WithTop ℚ))
  | .infinity true => some ⊥
  | .infinity false => some ((⊤ : WithTop ℚ) : WithBot (WithTop ℚ))
  | .nan _ => none

theorem extended_of_finite {number : Decimal} (isFinite : number.IsFinite) :
    number.extended = some ((number.exactly : WithTop ℚ) : WithBot (WithTop ℚ)) := by
  cases number with
  | infinity | nan => exact isFinite.elim
  | finite negative coefficient exponent => rfl

theorem checkNaNs_of_nan {left right result : Decimal}
    {otherwise : Except ArithmeticError Decimal}
    (isNaN : left.extended = none ∨ right.extended = none)
    (checked : checkNaNs left right otherwise = .ok result) : result = .nan false := by
  unfold checkNaNs at checked
  split at checked
  · cases checked
  rename_i quiet
  split at checked
  · cases checked
    rfl
  rename_i known
  have notNaN : ∀ number : Decimal, number.extended = none → ∃ signaling, number = .nan signaling := by
    intro number isNone
    cases number with
    | nan signaling => exact ⟨signaling, rfl⟩
    | infinity negative => cases negative <;> cases isNone
    | finite negative coefficient exponent => cases isNone
  rcases isNaN with isNone | isNone
  · obtain ⟨signaling, rfl⟩ := notNaN left isNone
    cases signaling with
    | true => exact absurd (Or.inl rfl) quiet
    | false => exact absurd (Or.inl rfl) known
  · obtain ⟨signaling, rfl⟩ := notNaN right isNone
    cases signaling with
    | true => exact absurd (Or.inr rfl) quiet
    | false => exact absurd (Or.inr rfl) known

theorem isNaN_iff {number : Decimal} : number.isNaN = true ↔ number.extended = none := by
  cases number with
  | finite negative coefficient exponent => simp [isNaN, extended]
  | infinity negative => cases negative <;> simp [isNaN, extended]
  | nan signaling => simp [isNaN, extended]

theorem compare_finite (negative other : Bool) (coefficient compared : Nat)
    (exponent otherExponent : Int) :
    (compare (.finite negative coefficient exponent) (.finite other compared otherExponent)).Compares
      (exactly (.finite negative coefficient exponent))
      (exactly (.finite other compared otherExponent)) := by
  have leftValue := @rescale_value negative coefficient _ _ (min_le_left exponent otherExponent)
  have rightValue := @rescale_value other compared _ _ (min_le_right exponent otherExponent)
  have scale : (0 : ℚ) < 10 ^ min exponent otherExponent := zpow_pos (by norm_num) _
  have compares := (compare_iff (rescale negative coefficient exponent (min exponent otherExponent))
    (rescale other compared otherExponent (min exponent otherExponent))).mp rfl
  simp only [exactly, compare]
  rw [← leftValue, ← rightValue]
  generalize Ord.compare (rescale negative coefficient exponent (min exponent otherExponent))
    (rescale other compared otherExponent (min exponent otherExponent)) = order at compares
  cases order with
  | lt => exact mul_lt_mul_of_pos_right (by exact_mod_cast compares) scale
  | eq =>
      have same : rescale negative coefficient exponent (min exponent otherExponent) =
        rescale other compared otherExponent (min exponent otherExponent) := compares
      exact congrArg (fun number : Int => (number : ℚ) * 10 ^ min exponent otherExponent) same
  | gt => exact mul_lt_mul_of_pos_right (by exact_mod_cast compares) scale

theorem equal_exact {left right : Decimal} (leftFinite : left.IsFinite) (rightFinite : right.IsFinite) :
    equal left right = .ok (decide (left.exactly = right.exactly)) := by
  cases left with
  | infinity | nan => exact leftFinite.elim
  | finite negative coefficient exponent =>
      cases right with
      | infinity | nan => exact rightFinite.elim
      | finite other compared otherExponent =>
          have compares := compare_finite negative other coefficient compared exponent otherExponent
          simp only [equal, isNaN, reduceCtorEq, or_self, Bool.false_eq_true, if_false]
          exact congrArg Except.ok (decide_eq_decide.mpr compares.eq_eq)

variable {left right : Decimal} {number : Decimal}

variable {leftValue rightValue : WithBot (WithTop ℚ)} {outcome : Bool}

theorem compare_compares (isLeft : left.extended = some leftValue)
    (isRight : right.extended = some rightValue) :
    (compare left right).Compares leftValue rightValue := by
  have belowAll : ∀ value : WithTop ℚ, (⊥ : WithBot (WithTop ℚ)) < value := WithBot.bot_lt_coe
  have aboveAll : ∀ value : ℚ, ((value : WithTop ℚ) : WithBot (WithTop ℚ)) < (⊤ : WithTop ℚ) :=
    fun value => WithBot.coe_lt_coe.mpr (WithTop.coe_lt_top value)
  cases left with
  | nan signaling => cases isLeft
  | infinity negative =>
      cases right with
      | nan signaling => cases isRight
      | infinity other =>
          cases negative <;> cases other <;> cases isLeft <;> cases isRight
          · rfl
          · exact belowAll _
          · exact belowAll _
          · rfl
      | finite other compared otherExponent =>
          cases isRight
          cases negative <;> cases isLeft
          · exact aboveAll _
          · exact belowAll _
  | finite negative coefficient exponent =>
      cases isLeft
      cases right with
      | nan signaling => cases isRight
      | infinity other =>
          cases other <;> cases isRight
          · exact aboveAll _
          · exact belowAll _
      | finite other compared otherExponent =>
          cases isRight
          have compares := compare_finite negative other coefficient compared exponent otherExponent
          generalize compare (.finite negative coefficient exponent)
            (.finite other compared otherExponent) = order at compares
          cases order with
          | lt => exact WithBot.coe_lt_coe.mpr (WithTop.coe_lt_coe.mpr compares)
          | eq =>
              have same : exactly (.finite negative coefficient exponent) =
                exactly (.finite other compared otherExponent) := compares
              change ((exactly _ : WithTop ℚ) : WithBot (WithTop ℚ)) = (exactly _ : WithTop ℚ)
              rw [same]
          | gt => exact WithBot.coe_lt_coe.mpr (WithTop.coe_lt_coe.mpr compares)

theorem ordered_of_values (isLeft : left.extended = some leftValue)
    (isRight : right.extended = some rightValue) (holds : Ordering → Bool) :
    ordered left right holds = .ok (holds (compare left right)) := by
  have leftKnown : ¬ left.isNaN = true := by
    rw [isNaN_iff, isLeft]
    exact Option.some_ne_none _
  have rightKnown : ¬ right.isNaN = true := by
    rw [isNaN_iff, isRight]
    exact Option.some_ne_none _
  exact if_neg (not_or.mpr ⟨leftKnown, rightKnown⟩)

theorem le_of_values (isLeft : left.extended = some leftValue)
    (isRight : right.extended = some rightValue) :
    Arithmetic.le left right = .ok (decide (leftValue ≤ rightValue)) :=
  (ordered_of_values isLeft isRight _).trans
    (congrArg Except.ok (decide_eq_decide.mpr (compare_compares isLeft isRight).ne_gt))

theorem lt_of_values (isLeft : left.extended = some leftValue)
    (isRight : right.extended = some rightValue) :
    Arithmetic.lt left right = .ok (decide (leftValue < rightValue)) :=
  (ordered_of_values isLeft isRight _).trans
    (congrArg Except.ok (decide_eq_decide.mpr (compare_compares isLeft isRight).eq_lt))

theorem values_of_ordered {holds : Ordering → Bool}
    (compared : ordered left right holds = .ok outcome) :
    ∃ leftValue rightValue, left.extended = some leftValue ∧ right.extended = some rightValue := by
  unfold ordered at compared
  split at compared
  · cases compared
  · rename_i known
    have leftKnown : left.extended ≠ none := fun isNone => known (Or.inl (isNaN_iff.mpr isNone))
    have rightKnown : right.extended ≠ none := fun isNone => known (Or.inr (isNaN_iff.mpr isNone))
    obtain ⟨leftValue, isLeft⟩ := Option.ne_none_iff_exists'.mp leftKnown
    obtain ⟨rightValue, isRight⟩ := Option.ne_none_iff_exists'.mp rightKnown
    exact ⟨leftValue, rightValue, isLeft, isRight⟩

theorem le_iff_values :
    Arithmetic.le left right = .ok outcome ↔ ∃ leftValue rightValue,
      left.extended = some leftValue ∧ right.extended = some rightValue ∧
        outcome = decide (leftValue ≤ rightValue) := by
  constructor
  · intro compared
    obtain ⟨leftValue, rightValue, isLeft, isRight⟩ := values_of_ordered compared
    rw [le_of_values isLeft isRight] at compared
    exact ⟨leftValue, rightValue, isLeft, isRight, (Except.ok.inj compared).symm⟩
  · rintro ⟨leftValue, rightValue, isLeft, isRight, rfl⟩
    exact le_of_values isLeft isRight

theorem lt_iff_values :
    Arithmetic.lt left right = .ok outcome ↔ ∃ leftValue rightValue,
      left.extended = some leftValue ∧ right.extended = some rightValue ∧
        outcome = decide (leftValue < rightValue) := by
  constructor
  · intro compared
    obtain ⟨leftValue, rightValue, isLeft, isRight⟩ := values_of_ordered compared
    rw [lt_of_values isLeft isRight] at compared
    exact ⟨leftValue, rightValue, isLeft, isRight, (Except.ok.inj compared).symm⟩
  · rintro ⟨leftValue, rightValue, isLeft, isRight, rfl⟩
    exact lt_of_values isLeft isRight

theorem extended_zero : extended zero = some (((0 : ℚ) : WithTop ℚ) : WithBot (WithTop ℚ)) := by
  have value : exactly (.finite (decide ((0 : Int) < 0)) (0 : Int).natAbs 0) = 0 := by
    simp [exactly, signed]
  change some ((exactly (.finite (decide ((0 : Int) < 0)) (0 : Int).natAbs 0) : WithTop ℚ) :
    WithBot (WithTop ℚ)) = _
  rw [value]

theorem le_zero_of_finite (isFinite : number.IsFinite) :
    Arithmetic.le number Arithmetic.zero = .ok (decide (number.exactly ≤ 0)) := by
  refine (le_of_values (extended_of_finite isFinite) extended_zero).trans (congrArg Except.ok ?_)
  refine decide_eq_decide.mpr ?_
  rw [WithBot.coe_le_coe, WithTop.coe_le_coe]

theorem pos_of_le_zero (isFinite : number.IsFinite)
    (positive : Arithmetic.le number Arithmetic.zero = .ok false) : 0 < number.exactly := by
  rw [le_zero_of_finite isFinite] at positive
  exact not_le.mp (of_decide_eq_false (Except.ok.inj positive))

theorem positive_cases (positive : Arithmetic.le number Arithmetic.zero = .ok false) :
    (number.IsFinite ∧ 0 < number.exactly) ∨ number = .infinity false := by
  cases number with
  | nan signaling => cases signaling <;> cases positive
  | infinity negative =>
      cases negative with
      | false => exact Or.inr rfl
      | true => cases positive
  | finite negative coefficient exponent =>
      have isFinite : (finite negative coefficient exponent).IsFinite := trivial
      exact Or.inl ⟨isFinite, pos_of_le_zero isFinite positive⟩

end Decimal

end TurtleExecution

namespace TurtleExecution

section

variable {Number : Type}

/-- The first of the best: a number takes the place of the best one so far if it is better. -/
def bestOf (isBetter : Number → Number → Except ArithmeticError Bool) (best : Number) :
    List Number → Except ArithmeticError Number
  | [] => .ok best
  | number :: rest => do
      let better ← isBetter best number
      bestOf isBetter (if better then number else best) rest

theorem bestOf_ranked {isBetter : Number → Number → Except ArithmeticError Bool} {rank : Number → ℚ}
    {first : Number} {rest : List Number}
    (ranks : ∀ best ∈ first :: rest, ∀ number ∈ first :: rest,
      isBetter best number = .ok (decide (rank best < rank number))) :
    ∃ best, bestOf isBetter first rest = .ok best ∧ best ∈ first :: rest ∧
      ∀ number ∈ first :: rest, rank number ≤ rank best := by
  induction rest generalizing first with
  | nil =>
      refine ⟨first, rfl, List.mem_cons_self, ?_⟩
      intro number member
      rw [List.mem_singleton.mp member]
  | cons second rest ih =>
      have isSecond : second ∈ first :: second :: rest := List.mem_cons_of_mem first List.mem_cons_self
      rw [bestOf, bind_of_ok (ranks first List.mem_cons_self second isSecond)]
      by_cases higher : rank first < rank second
      · have later : ∀ number ∈ second :: rest, number ∈ first :: second :: rest :=
          fun number member => List.mem_cons_of_mem first member
        obtain ⟨best, isBest, member, above⟩ := ih fun best isBest number isNumber =>
          ranks best (later best isBest) number (later number isNumber)
        rw [if_pos (decide_eq_true higher)]
        refine ⟨best, isBest, later best member, ?_⟩
        intro number isNumber
        rcases List.mem_cons.mp isNumber with rfl | others
        · exact higher.le.trans (above second List.mem_cons_self)
        · exact above number others
      · have kept : ∀ number ∈ first :: rest, number ∈ first :: second :: rest := by
          intro number member
          rcases List.mem_cons.mp member with rfl | others
          · exact List.mem_cons_self
          · exact List.mem_cons_of_mem first (List.mem_cons_of_mem second others)
        obtain ⟨best, isBest, member, above⟩ := ih fun best isBest number isNumber =>
          ranks best (kept best isBest) number (kept number isNumber)
        rw [if_neg (by simpa using higher)]
        refine ⟨best, isBest, kept best member, ?_⟩
        intro number isNumber
        rcases List.mem_cons.mp isNumber with rfl | others
        · exact above number List.mem_cons_self
        · rcases List.mem_cons.mp others with rfl | last
          · exact (not_lt.mp higher).trans (above first List.mem_cons_self)
          · exact above number (List.mem_cons_of_mem first last)

variable [Arithmetic Number]

def maxOf (first : Number) (rest : List Number) : Except ArithmeticError Number :=
  bestOf Arithmetic.lt first rest

def minOf (first : Number) (rest : List Number) : Except ArithmeticError Number :=
  bestOf (fun best number => Arithmetic.lt number best) first rest

end

namespace Decimal

theorem lt_of_finite {left right : Decimal} (leftFinite : left.IsFinite)
    (rightFinite : right.IsFinite) :
    Arithmetic.lt left right = .ok (decide (left.exactly < right.exactly)) := by
  refine (lt_of_values (extended_of_finite leftFinite) (extended_of_finite rightFinite)).trans
    (congrArg Except.ok (decide_eq_decide.mpr ?_))
  rw [WithBot.coe_lt_coe, WithTop.coe_lt_coe]

theorem le_of_finite {left right : Decimal} (leftFinite : left.IsFinite)
    (rightFinite : right.IsFinite) :
    Arithmetic.le left right = .ok (decide (left.exactly ≤ right.exactly)) := by
  refine (le_of_values (extended_of_finite leftFinite) (extended_of_finite rightFinite)).trans
    (congrArg Except.ok (decide_eq_decide.mpr ?_))
  rw [WithBot.coe_le_coe, WithTop.coe_le_coe]

theorem maxOf_finite {first : Decimal} {rest : List Decimal}
    (finite : ∀ number ∈ first :: rest, number.IsFinite) :
    ∃ greatest, maxOf first rest = .ok greatest ∧ greatest ∈ first :: rest ∧
      ∀ number ∈ first :: rest, number.exactly ≤ greatest.exactly :=
  bestOf_ranked fun best isBest number isNumber =>
    lt_of_finite (finite best isBest) (finite number isNumber)

theorem minOf_finite {first : Decimal} {rest : List Decimal}
    (finite : ∀ number ∈ first :: rest, number.IsFinite) :
    ∃ least, minOf first rest = .ok least ∧ least ∈ first :: rest ∧
      ∀ number ∈ first :: rest, least.exactly ≤ number.exactly := by
  have ranks : ∀ best ∈ first :: rest, ∀ number ∈ first :: rest,
      Arithmetic.lt number best = .ok (decide (-best.exactly < -number.exactly)) := by
    intro best isBest number isNumber
    rw [lt_of_finite (finite number isNumber) (finite best isBest)]
    exact congrArg Except.ok (decide_eq_decide.mpr neg_lt_neg_iff.symm)
  obtain ⟨least, isLeast, member, below⟩ := bestOf_ranked ranks
  exact ⟨least, isLeast, member, fun number isNumber => neg_le_neg_iff.mp (below number isNumber)⟩

end Decimal

end TurtleExecution

/-
How the risk manager meets floats when it runs on decimals.

A decimal is compared with the exact value of a float, but a float becomes a decimal
through its text.
-/

import TurtleExecution.Foundation.DecimalMagnitude
import TurtleExecution.Foundation.PyNumber
import TurtleExecution.RiskManager.Models

set_option autoImplicit false

namespace TurtleExecution

namespace Decimal

/-- `number > value` for a float, which raises on a NaN. -/
def exceeds : Decimal → ℚ → Except ArithmeticError Bool
  | .finite negative coefficient exponent, value =>
      .ok (decide (value < exactly (.finite negative coefficient exponent)))
  | .infinity negative, _ => .ok (!negative)
  | .nan _, _ => .error .invalidOperation

end Decimal

instance : RiskManager.FloatComparison Decimal where
  exceeds := Decimal.exceeds
  ofFloat := Binary64.toDecimal

namespace Decimal

variable {number : Decimal}

theorem exceeds_of_finite (isFinite : number.IsFinite) (value : ℚ) :
    exceeds number value = .ok (decide (value < number.exactly)) := by
  cases number with
  | infinity | nan => exact isFinite.elim
  | finite negative coefficient exponent => rfl

theorem exceeds_eq_true_iff {value : ℚ} :
    exceeds number value = .ok true ↔
      ∃ known, number.extended = some known ∧
        ((value : WithTop ℚ) : WithBot (WithTop ℚ)) < known := by
  cases number with
  | nan signaling => simp [exceeds, extended]
  | infinity negative =>
      have belowTop : ((value : WithTop ℚ) : WithBot (WithTop ℚ)) < (⊤ : WithTop ℚ) :=
        WithBot.coe_lt_coe.mpr (WithTop.coe_lt_top value)
      cases negative with
      | false => exact iff_of_true rfl ⟨_, rfl, belowTop⟩
      | true => simp [exceeds, extended]
  | finite negative coefficient exponent =>
      simp [exceeds, extended, WithBot.coe_lt_coe, WithTop.coe_lt_coe]

end Decimal

end TurtleExecution

/-
How extreme the current open interest is against the window before it.

Both scores are functions of the window and of the current value.  A score that the window
does not determine is `none`.
-/

import TurtleExecution.ExchangeAdapter.Models
import TurtleExecution.Foundation.RunningSum

set_option autoImplicit false

namespace TurtleExecution

namespace Decimal

/-- `number ** 2`, which rounds to three digits more before it rounds to the precision. -/
def square (number : Decimal) : Except ArithmeticError Decimal :=
  checkNaNs number number <|
    match number with
    | .finite _ coefficient exponent =>
        if coefficient = 0 then .ok (.finite false 0 0)
        else
          let product := coefficient * coefficient
          let least := max ((digitCount product : Int) - (prec + 3)) (eTiny - 3 - 2 * exponent)
          if least ≤ 0 then fix false product (2 * exponent)
          else fix false (roundHalfEven product least.toNat) (2 * exponent + least)
    | .infinity _ => .ok (.infinity false)
    | .nan _ => .error .invalidOperation

/-- `number.sqrt()`: the root of a coefficient that is scaled to enough digits, whose last one
tells whether anything was cut off. -/
def sqrt (number : Decimal) : Except ArithmeticError Decimal :=
  checkNaNs number number <|
    match number with
    | .finite negative coefficient exponent =>
        if coefficient = 0 then fix negative 0 (exponent / 2)
        else if negative then .error .invalidOperation
        else
          let odd := exponent % 2 = 1
          let digits := if odd then digitCount coefficient / 2 + 1 else (digitCount coefficient + 1) / 2
          let shift : Int := prec + 1 - digits
          let shifted := (if odd then coefficient * 10 else coefficient) * 100 ^ shift.toNat
          let radicand := shifted / 100 ^ (-shift).toNat
          let root := radicand.sqrt
          if shifted % 100 ^ (-shift).toNat = 0 ∧ root * root = radicand then
            fix false (root / 10 ^ shift.toNat * 10 ^ (-shift).toNat) (exponent / 2)
          else fix false (if root % 5 = 0 then root + 1 else root) (exponent / 2 - shift)
    | .infinity negative => if negative then .error .invalidOperation else .ok number
    | .nan _ => .error .invalidOperation

end Decimal

end TurtleExecution

namespace TurtleExecution.Features

def pctrankName : NonBlank := ⟨"open_interest_pctrank_centered", by decide⟩

def pctrankVersion : NonBlank := ⟨"v1", nonBlank_v1⟩

def zscoreName : NonBlank := ⟨"open_interest_zscore", by decide⟩

def zscoreVersion : NonBlank := ⟨"v1", nonBlank_v1⟩

structure RankCounts where
  below : Nat
  equal : Nat

def RankCounts.count (current : Decimal) (counts : RankCounts) (value : Decimal) :
    Except ArithmeticError RankCounts := do
  if ← Arithmetic.lt value current then return { counts with below := counts.below + 1 }
  else if ← LedgerArithmetic.eq value current then return { counts with equal := counts.equal + 1 }
  else return counts

def percentileRankCentered (window : List Decimal) (current : Decimal) :
    Except ArithmeticError (Option Decimal) := do
  if window.isEmpty then return none
  else
    let counts ← window.foldlM (RankCounts.count current) { below := 0, equal := 0 }
    let half ← Arithmetic.div (Decimal.ofInt counts.equal) (Decimal.ofInt 2)
    let ranked ← Arithmetic.add (Decimal.ofInt counts.below) half
    let rank ← Arithmetic.div ranked (Decimal.ofInt window.length)
    some <$> Arithmetic.sub rank (.finite false 5 (-1))

def addSquare (mean total value : Decimal) : Except ArithmeticError Decimal := do
  let deviation ← Arithmetic.sub value mean
  let squared ← deviation.square
  Arithmetic.add total squared

def zscore (window : List Decimal) (current : Decimal) :
    Except ArithmeticError (Option Decimal) := do
  if window.length < 2 then return none
  else
    let mean ← Decimal.meanOf window
    let squares ← window.foldlM (addSquare mean) Decimal.zero
    let variance ← Arithmetic.div squares (Decimal.ofInt window.length)
    if ← LedgerArithmetic.eq variance Decimal.zero then return none
    else
      let std ← variance.sqrt
      let deviation ← Arithmetic.sub current mean
      some <$> Arithmetic.div deviation std

example : (Decimal.ofInt 2).sqrt = .ok (.finite false 1414213562373095048801688724 (-27)) := by
  decide +kernel

end TurtleExecution.Features

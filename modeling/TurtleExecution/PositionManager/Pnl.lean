/-
The profit and R-multiple arithmetic of one closing leg, and the average entry price.
-/

import TurtleExecution.ExchangeAdapter.Models

set_option autoImplicit false

namespace TurtleExecution.PositionManager

open ExchangeAdapter

section

variable {Number : Type} [LedgerArithmetic Number]

def compute {Value : Type} (result : Except ArithmeticError Value) : Except ModelError Value :=
  result.mapError ModelError.arithmetic

def fractionOfOriginal (quantityClosed originalIntendedQuantity : Number) :
    Except ModelError Number := do
  requirePositive "original_intended_quantity must be positive" originalIntendedQuantity
  compute (Arithmetic.div quantityClosed originalIntendedQuantity)

def anyNotPositive : List Number → Except ArithmeticError Bool
  | [] => .ok false
  | number :: numbers => do
      if ← Arithmetic.le number Arithmetic.zero then return true
      else anyNotPositive numbers

def feeInRUnits (feeAmount entryPrice quantityClosed stopD : Number) :
    Except ArithmeticError Number := do
  if ← anyNotPositive [entryPrice, quantityClosed, stopD] then return Arithmetic.zero
  else
    let notional ← Arithmetic.mul entryPrice quantityClosed
    if ← Arithmetic.le notional Arithmetic.zero then return Arithmetic.zero
    else
      let feeFractionOfNotional ← Arithmetic.div feeAmount notional
      Arithmetic.div feeFractionOfNotional stopD

def legRMultiple (entryPrice exitPrice stopD fraction feeAmount quantityClosed : Number) :
    Except ModelError Number := do
  requirePositive "entry_price must be positive" entryPrice
  requirePositive "stop_d must be positive" stopD
  compute do
    let ratio ← Arithmetic.div exitPrice entryPrice
    let gain ← Arithmetic.sub ratio (LedgerArithmetic.ofInt 1)
    let perStop ← Arithmetic.div gain stopD
    let priceReturn ← Arithmetic.mul perStop fraction
    let feeR ← feeInRUnits feeAmount entryPrice quantityClosed stopD
    Arithmetic.sub priceReturn feeR

def legPct (entryPrice exitPrice fraction : Number) : Except ModelError Number := do
  requirePositive "entry_price must be positive" entryPrice
  compute do
    let ratio ← Arithmetic.div exitPrice entryPrice
    let gain ← Arithmetic.sub ratio (LedgerArithmetic.ofInt 1)
    let percent ← Arithmetic.mul gain (LedgerArithmetic.ofInt 100)
    Arithmetic.mul percent fraction

def legRealizedPnl (entryPrice exitPrice quantityClosed feeAmount : Number) :
    Except ArithmeticError Number := do
  let difference ← Arithmetic.sub exitPrice entryPrice
  let gross ← Arithmetic.mul difference quantityClosed
  Arithmetic.sub gross feeAmount

def unrealizedPnl (avgEntryPrice markPrice remainingQuantity : Number) :
    Except ArithmeticError Number := do
  let difference ← Arithmetic.sub markPrice avgEntryPrice
  Arithmetic.mul difference remainingQuantity

def weightedAveragePrice (currentAvg : Option Number) (currentQty newPrice newQty : Number) :
    Except ArithmeticError Number :=
  match currentAvg with
  | none => .ok newPrice
  | some currentAvg => do
      if ← LedgerArithmetic.eq currentQty Arithmetic.zero then return newPrice
      else
        let totalQty ← Arithmetic.add currentQty newQty
        let held ← Arithmetic.mul currentAvg currentQty
        let added ← Arithmetic.mul newPrice newQty
        let total ← Arithmetic.add held added
        Arithmetic.div total totalQty

end

end TurtleExecution.PositionManager

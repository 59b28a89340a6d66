/-
The number operations of the modelled code, over any number type.

An operation may raise.  `ℚ` computes exactly and never raises.
-/

import Mathlib.Data.Rat.Defs
import Mathlib.Algebra.Order.Field.Rat
import Mathlib.Algebra.Field.Rat
import Mathlib.Algebra.Order.Group.Unbundled.Abs
import TurtleExecution.Foundation.Delimited

set_option autoImplicit false

namespace TurtleExecution

inductive ArithmeticError
  | invalidOperation
  | overflow
  | divisionByZero
  deriving DecidableEq, Repr

theorem bind_of_ok {Error Value Next : Type} {result : Except Error Value} {value : Value}
    {next : Value → Except Error Next} (computed : result = .ok value) :
    (result >>= next) = next value := by
  rw [computed]
  rfl

theorem ok_of_bind {Error Value Next : Type} {result : Except Error Value}
    {next : Value → Except Error Next} {final : Next} (computed : (result >>= next) = .ok final) :
    ∃ value, result = .ok value ∧ next value = .ok final := by
  cases result with
  | error error => cases computed
  | ok value => exact ⟨value, rfl, computed⟩

theorem ok_of_map {Error Value Next : Type} {result : Except Error Value} {change : Value → Next}
    {final : Next} (computed : result.map change = .ok final) :
    ∃ value, result = .ok value ∧ change value = final := by
  cases result with
  | error error => cases computed
  | ok value => exact ⟨value, rfl, Except.ok.inj computed⟩

theorem ok_of_mapError {Error Other Value : Type} {result : Except Error Value}
    {embed : Error → Other} {value : Value} (computed : result.mapError embed = .ok value) :
    result = .ok value := by
  cases result with
  | error error => cases computed
  | ok known =>
      cases computed
      rfl

class Arithmetic (Number : Type) where
  zero : Number
  add : Number → Number → Except ArithmeticError Number
  sub : Number → Number → Except ArithmeticError Number
  mul : Number → Number → Except ArithmeticError Number
  div : Number → Number → Except ArithmeticError Number
  le : Number → Number → Except ArithmeticError Bool
  lt : Number → Number → Except ArithmeticError Bool
  isZero : Number → Bool

instance : Arithmetic ℚ where
  zero := 0
  add left right := .ok (left + right)
  sub left right := .ok (left - right)
  mul left right := .ok (left * right)
  div left right := if right = 0 then .error .divisionByZero else .ok (left / right)
  le left right := .ok (decide (left ≤ right))
  lt left right := .ok (decide (left < right))
  isZero number := decide (number = 0)

class LedgerArithmetic (Number : Type) extends Arithmetic Number where
  ofInt : Int → Number
  abs : Number → Except ArithmeticError Number
  eq : Number → Number → Except ArithmeticError Bool
  text : Number → String

/-- Nothing added to nothing is nothing, and does not raise. -/
class LawfulZero (Number : Type) [LedgerArithmetic Number] : Prop where
  add_zero_zero : Arithmetic.add (Arithmetic.zero : Number) Arithmetic.zero = .ok Arithmetic.zero

class LawfulText (Number : Type) [LedgerArithmetic Number] : Prop where
  colonFree_text : ∀ number : Number, Delimited.ColonFree (LedgerArithmetic.text number)

instance : LedgerArithmetic ℚ where
  ofInt number := number
  abs number := .ok |number|
  eq left right := .ok (decide (left = right))
  text := toString

instance : LawfulZero ℚ where
  add_zero_zero := congrArg Except.ok (add_zero 0)

open Delimited in
instance : LawfulText ℚ where
  colonFree_text number := by
    change ColonFree (if number.den = 1 then toString number.num
      else toString number.num ++ "/" ++ toString number.den)
    split
    · exact colonFree_toString_int _
    · exact colonFree_append (colonFree_append (colonFree_toString_int _) (by decide))
        (colonFree_toString _)

end TurtleExecution

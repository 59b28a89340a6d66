/-
Historical observations, with the texts of their timestamps.

A type of observations is one of the scalar series or the liquidations.  What reads an
ISO-8601 text is a parameter.
-/

import Mathlib.Data.List.DropRight
import TurtleExecution.ExchangeAdapter.Models
import TurtleExecution.Foundation.DecimalOrder

set_option autoImplicit false

namespace TurtleExecution.HistoricalStorage

open ExchangeAdapter

inductive Metric
  | fundingRate
  | openInterest
  | markPrice
  deriving DecidableEq

inductive ObservationType
  | scalar (metric : Metric)
  | liquidation
  deriving DecidableEq

structure Liquidation where
  price : Decimal
  size : Decimal
  side : String
  direction : String
  method : String
  liquidatedUser : String
  markPrice : Decimal
  tid : Int
  deriving DecidableEq

def Market : ObservationType → Type
  | .scalar _ => Decimal
  | .liquidation => Liquidation

structure Observation (type : ObservationType) where
  symbol : Symbol
  observedAtUtc : String
  market : Market type
  source : String
  sourceDetail : String
  ingestedAtUtc : String

inductive StorageError
  /-- `HistoricalDataError`, with the field that it names. -/
  | historicalData (field : String)
  | arithmetic (error : ArithmeticError)
  | value
  | csv
  deriving DecidableEq

/-- The instant in UTC that `datetime.fromisoformat` reads, in microseconds, where a text
without an offset is in UTC; `none` stands for what it raises. -/
abbrev IsoTexts : Type := String → Option Int

def parseUtc (fromisoformat : IsoTexts) (value : String) : Option Int :=
  if PyText.isBlank value then none
  else
    let text := (value.toList.dropWhile PyText.isSpace).rdropWhile PyText.isSpace
    if text.getLast? = some 'Z' ∨ text.getLast? = some 'z' then
      fromisoformat (String.ofList (text.dropLast ++ "+00:00".toList))
    else fromisoformat (String.ofList text)

def refuse (refused : Bool) (field : String) : Except StorageError Unit :=
  if refused then .error (.historicalData field) else .ok ()

def checkText (className name text : String) : Except StorageError Unit :=
  refuse (PyText.isBlank text) (className ++ "." ++ name)

def checkTimestamp (fromisoformat : IsoTexts) (className name text : String) :
    Except StorageError Unit := do
  checkText className name text
  refuse (parseUtc fromisoformat text).isNone (className ++ "." ++ name)

def isNotPositive (value : Decimal) : Except StorageError Bool :=
  (Arithmetic.le value Arithmetic.zero).mapError .arithmetic

def isNegative (value : Decimal) : Except StorageError Bool :=
  (Arithmetic.lt value Arithmetic.zero).mapError .arithmetic

def validateCommon (fromisoformat : IsoTexts) (className : String) {type : ObservationType}
    (observation : Observation type) : Except StorageError Unit := do
  checkTimestamp fromisoformat className "observed_at_utc" observation.observedAtUtc
  checkText className "source" observation.source
  checkText className "source_detail" observation.sourceDetail
  checkTimestamp fromisoformat className "ingested_at_utc" observation.ingestedAtUtc

def Liquidation.validate (fromisoformat : IsoTexts) (observation : Observation .liquidation) :
    Except StorageError Unit := do
  let market : Liquidation := observation.market
  let className := "LiquidationObservation"
  checkTimestamp fromisoformat className "observed_at_utc" observation.observedAtUtc
  checkTimestamp fromisoformat className "ingested_at_utc" observation.ingestedAtUtc
  checkText className "side" market.side
  checkText className "direction" market.direction
  checkText className "method" market.method
  checkText className "liquidated_user" market.liquidatedUser
  checkText className "source" observation.source
  checkText className "source_detail" observation.sourceDetail
  refuse (← isNotPositive market.size) (className ++ ".size")
  refuse (← isNotPositive market.price) (className ++ ".price")
  refuse (← isNotPositive market.markPrice) (className ++ ".price")

def postInit (fromisoformat : IsoTexts) :
    {type : ObservationType} → Observation type → Except StorageError Unit
  | .scalar .fundingRate, observation =>
      validateCommon fromisoformat "FundingRateObservation" observation
  | .scalar .openInterest, observation => do
      validateCommon fromisoformat "OpenInterestObservation" observation
      refuse (← isNegative observation.market) "OpenInterestObservation.value"
  | .scalar .markPrice, observation => do
      validateCommon fromisoformat "MarkPriceObservation" observation
      refuse (← isNotPositive observation.market) "MarkPriceObservation.value"
  | .liquidation, observation => Liquidation.validate fromisoformat observation

variable {fromisoformat : IsoTexts} {type : ObservationType}

def Observation.checked (fromisoformat : IsoTexts) (observation : Observation type) :
    Except StorageError (Observation type) := do
  postInit fromisoformat observation
  return observation

def Accepted (fromisoformat : IsoTexts) (observation : Observation type) : Prop :=
  postInit fromisoformat observation = .ok ()

instance (observation : Observation type) : Decidable (Accepted fromisoformat observation) :=
  inferInstanceAs (Decidable (postInit fromisoformat observation = .ok ()))

def Observation.instant (fromisoformat : IsoTexts) (observation : Observation type) : Option Int :=
  parseUtc fromisoformat observation.observedAtUtc

theorem refuse_ok {refused : Bool} {field : String} {done : Unit}
    (accepted : refuse refused field = .ok done) : refused = false := by
  cases refused with
  | false => rfl
  | true => cases accepted

private theorem checkTimestamp_ok {className name text : String} {done : Unit}
    (accepted : checkTimestamp fromisoformat className name text = .ok done) :
    ∃ instant, parseUtc fromisoformat text = some instant := by
  obtain ⟨_, _, parsed⟩ := ok_of_bind accepted
  have isSome := refuse_ok parsed
  rw [Option.isNone_eq_false_iff] at isSome
  exact Option.isSome_iff_exists.mp isSome

theorem Accepted.instant {observation : Observation type}
    (accepted : Accepted fromisoformat observation) :
    ∃ instant, observation.instant fromisoformat = some instant := by
  have common : ∀ {className : String} {done : Unit},
      validateCommon fromisoformat className observation = .ok done →
        ∃ instant, observation.instant fromisoformat = some instant := by
    intro className done valid
    obtain ⟨_, observed, _⟩ := ok_of_bind valid
    exact checkTimestamp_ok observed
  cases type with
  | liquidation =>
      obtain ⟨_, observed, _⟩ := ok_of_bind accepted
      exact checkTimestamp_ok observed
  | scalar metric =>
      cases metric with
      | fundingRate => exact common accepted
      | openInterest =>
          obtain ⟨_, valid, _⟩ := ok_of_bind accepted
          exact common valid
      | markPrice =>
          obtain ⟨_, valid, _⟩ := ok_of_bind accepted
          exact common valid

private theorem not_isNaN_of_isNotPositive {value : Decimal} {outcome : Bool}
    (compared : isNotPositive value = .ok outcome) : value.isNaN = false := by
  have isOrdered := ok_of_mapError compared
  by_contra isNaN
  rw [Bool.not_eq_false] at isNaN
  change Decimal.ordered value Decimal.zero _ = _ at isOrdered
  unfold Decimal.ordered at isOrdered
  rw [if_pos (.inl isNaN)] at isOrdered
  cases isOrdered

theorem Accepted.numbers {observation : Observation .liquidation}
    (accepted : Accepted fromisoformat observation) :
    observation.market.price.isNaN = false ∧ observation.market.size.isNaN = false ∧
      observation.market.markPrice.isNaN = false := by
  obtain ⟨_, _, afterObserved⟩ := ok_of_bind accepted
  obtain ⟨_, _, afterIngested⟩ := ok_of_bind afterObserved
  obtain ⟨_, _, afterSide⟩ := ok_of_bind afterIngested
  obtain ⟨_, _, afterDirection⟩ := ok_of_bind afterSide
  obtain ⟨_, _, afterMethod⟩ := ok_of_bind afterDirection
  obtain ⟨_, _, afterUser⟩ := ok_of_bind afterMethod
  obtain ⟨_, _, afterSource⟩ := ok_of_bind afterUser
  obtain ⟨_, _, afterDetail⟩ := ok_of_bind afterSource
  obtain ⟨_, size, afterSize⟩ := ok_of_bind afterDetail
  obtain ⟨_, _, sized⟩ := ok_of_bind afterSize
  obtain ⟨_, price, afterPrice⟩ := ok_of_bind sized
  obtain ⟨_, _, priced⟩ := ok_of_bind afterPrice
  obtain ⟨_, markPrice, _⟩ := ok_of_bind priced
  exact ⟨not_isNaN_of_isNotPositive price, not_isNaN_of_isNotPositive size,
    not_isNaN_of_isNotPositive markPrice⟩

end TurtleExecution.HistoricalStorage

/-
The store of historical observations: one file a series.

A file is read whole, merged with new observations and replaced.  A process that dies
leaves the old file or the new one.
-/

import TurtleExecution.Foundation.FirstWins
import TurtleExecution.Foundation.Process
import TurtleExecution.Foundation.UtcTime
import TurtleExecution.HistoricalStorage.Observations
import Mathlib.Data.List.Sort

set_option autoImplicit false

namespace TurtleExecution.Historical

open Calendar ExchangeAdapter

inductive Source
  | binance
  | hyperliquid
  deriving DecidableEq

abbrev Metric := HistoricalStorage.Metric

inductive SourceDetail
  | metrics (symbol : Symbol) (day : Int)
  | priceOfMetrics (symbol : Symbol) (day : Int)
  | fundingRate (symbol : Symbol) (month : Month)
  | fundingHistory (symbol : Symbol) (startTime endTime : Int)
  deriving DecidableEq

/-- The instants are in microseconds.  `observed_at_utc` is the canonical text of its
instant: texts of one length, which order as the instants do. -/
structure Observation (Number : Type) where
  symbol : Symbol
  observedAtUtc : Int
  value : Number
  source : Source
  sourceDetail : SourceDetail
  ingestedAtUtc : Int

inductive HistoricalError
  | historicalData
  | arithmetic (error : ArithmeticError)
  | overflow
  | os
  deriving DecidableEq

section

variable {Number : Type} [LedgerArithmetic Number]

def checked (metric : Metric) (observation : Observation Number) :
    Except HistoricalError (Observation Number) :=
  match metric with
  | .fundingRate => .ok observation
  | .openInterest => do
      let negative ← (Arithmetic.lt observation.value Arithmetic.zero).mapError .arithmetic
      if negative then .error .historicalData else .ok observation
  | .markPrice => do
      let nonPositive ← (Arithmetic.le observation.value Arithmetic.zero).mapError .arithmetic
      if nonPositive then .error .historicalData else .ok observation

def Observation.eq (left right : Observation Number) : Except HistoricalError Bool := do
  let sameValue ← (LedgerArithmetic.eq left.value right.value).mapError .arithmetic
  pure (sameValue && decide (left.symbol = right.symbol ∧ left.observedAtUtc = right.observedAtUtc ∧
    left.source = right.source ∧ left.sourceDetail = right.sourceDetail ∧
    left.ingestedAtUtc = right.ingestedAtUtc))

abbrev DedupKey : Type := Symbol × Int

def dedupKey (observation : Observation Number) : DedupKey :=
  (observation.symbol, observation.observedAtUtc)

def addAll (byKey : Dict DedupKey (Observation Number)) (new : List (Observation Number)) :
    Except HistoricalError (Dict DedupKey (Observation Number) × Nat × List DedupKey) :=
  FirstWins.addAll (fun observation => .ok (dedupKey observation)) Observation.eq byKey new

def Chronological (left right : Observation Number) : Prop :=
  left.observedAtUtc < right.observedAtUtc ∨
    left.observedAtUtc = right.observedAtUtc ∧ left.symbol.value ≤ right.symbol.value

instance : DecidableRel (@Chronological Number) := fun left right =>
  inferInstanceAs (Decidable (left.observedAtUtc < right.observedAtUtc ∨
    left.observedAtUtc = right.observedAtUtc ∧ left.symbol.value ≤ right.symbol.value))

def KeyLe (left right : DedupKey) : Prop :=
  left.1.value < right.1.value ∨ left.1.value = right.1.value ∧ left.2 ≤ right.2

instance : DecidableRel KeyLe := fun left right =>
  inferInstanceAs (Decidable (left.1.value < right.1.value ∨
    left.1.value = right.1.value ∧ left.2 ≤ right.2))

structure MergeResult where
  existingCount : Nat
  addedCount : Nat
  conflictKeys : List DedupKey

def mergeRows (existing new : List (Observation Number)) :
    Except HistoricalError (List (Observation Number) × MergeResult) := do
  let byKey := Dict.ofItems (existing.map fun observation => (dedupKey observation, observation))
  let (merged, addedCount, conflictKeys) ← addAll byKey new
  pure ((merged.map Prod.snd).insertionSort Chronological,
    { existingCount := byKey.length, addedCount
      conflictKeys := conflictKeys.insertionSort KeyLe })

/-- `series_filename`: the names of two series differ where these do. -/
structure Series where
  metric : Metric
  symbol : Symbol
  source : Source
  deriving DecidableEq

inductive WriteAnswer
  | done
  | fails
  | dies (replaced : Bool)
  deriving DecidableEq

/-- The files, and what happens at the next writes; behind them every write is done. -/
structure Disk (Number : Type) where
  files : Dict Series (List (Observation Number))
  answers : List WriteAnswer

abbrev Collecting (Number : Type) := Process (Disk Number) HistoricalError

def Disk.rows (disk : Disk Number) (series : Series) : List (Observation Number) :=
  (Dict.get? disk.files series).getD []

def load (series : Series) : Collecting Number (List (Observation Number)) := do
  let disk ← Process.get
  Process.ofExcept ((disk.rows series).mapM (checked series.metric))

def Disk.replaced (disk : Disk Number) (series : Series) (rows : List (Observation Number)) :
    Disk Number :=
  { files := Dict.set disk.files series rows, answers := disk.answers.tail }

def replace (series : Series) (rows : List (Observation Number)) : Collecting Number Unit :=
  fun disk =>
    match disk.answers.headD .done with
    | .done => (.returned (), disk.replaced series rows)
    | .fails => (.raised .os, { disk with answers := disk.answers.tail })
    | .dies true => (.crashed, disk.replaced series rows)
    | .dies false => (.crashed, { disk with answers := disk.answers.tail })

def mergeAndWrite (series : Series) (new : List (Observation Number)) :
    Collecting Number MergeResult := do
  let existing ← load series
  let (rows, result) ← Process.ofExcept (mergeRows existing new)
  replace series rows
  pure result

end

end TurtleExecution.Historical

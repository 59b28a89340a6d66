/-
The two sources of historical observations.

Binance publishes one file a day and one file a month.  Hyperliquid answers a request
for a range with at most a page of it, so the range is read page by page.
-/

import TurtleExecution.Historical.Storage
import Mathlib.Data.List.ReduceOption

set_option autoImplicit false

namespace TurtleExecution.Historical

open Calendar ExchangeAdapter

def dayMillis : Int := 86400000

def dayOf (instant : Int) : Int := instant / (1000 * dayMillis)

def fromMillis (millis : Int) : Int := 1000 * millis

/-- What a file's download ends with: it is not published, or it cannot be fetched, fails
its checksum or has a row that is not read, or it has these rows. -/
inductive Download (Row : Type)
  | notFound
  | fails
  | csv (rows : List Row)

/-- A row of a daily file; it may have no value of the open interest. -/
structure MetricsRow (Number : Type) where
  createTime : Int
  sumOpenInterest : Number
  sumOpenInterestValue : Option Number

structure FundingRow (Number : Type) where
  time : Int
  fundingRate : Number

structure BinanceArchive (Number : Type) where
  metrics : Symbol → Int → Download (MetricsRow Number)
  fundingRate : Symbol → Month → Download (FundingRow Number)

section

variable {Number : Type} [LedgerArithmetic Number]

/-- The rows of a download, each read in turn; `none` where nothing is published. -/
def readRows {Row Value : Type} (download : Download Row)
    (read : Row → Except HistoricalError Value) : Except HistoricalError (Option (List Value)) :=
  match download with
  | .notFound => .ok none
  | .fails => .error .historicalData
  | .csv rows => do
      let values ← rows.mapM read
      pure (some values)

def openInterestOf (symbol : Symbol) (day : Int) (ingestedAtUtc : Int) (row : MetricsRow Number) :
    Except HistoricalError (Observation Number) :=
  checked .openInterest
    { symbol, observedAtUtc := row.createTime, value := row.sumOpenInterest, source := .binance
      sourceDetail := .metrics symbol day, ingestedAtUtc }

def fetchOpenInterestDay (archive : BinanceArchive Number) (clock : Int → Int) (symbol : Symbol)
    (day : Int) : Except HistoricalError (Option (List (Observation Number))) :=
  readRows (archive.metrics symbol day) (openInterestOf symbol day (clock day))

def openInterestValue (row : MetricsRow Number) : Except HistoricalError Number :=
  match row.sumOpenInterestValue with
  | some value => .ok value
  | none => .error .historicalData

def markPriceOf (symbol : Symbol) (day : Int) (ingestedAtUtc : Int) (row : MetricsRow Number)
    (value : Number) : Except HistoricalError (Observation Number) := do
  let price ← (Arithmetic.div value row.sumOpenInterest).mapError .arithmetic
  checked .markPrice
    { symbol, observedAtUtc := row.createTime, value := price, source := .binance
      sourceDetail := .priceOfMetrics symbol day, ingestedAtUtc }

def markPriceOrSkip (symbol : Symbol) (day : Int) (ingestedAtUtc : Int) (row : MetricsRow Number) :
    Except HistoricalError (Option (Observation Number)) := do
  let value ← openInterestValue row
  let nonPositive ← (Arithmetic.le row.sumOpenInterest Arithmetic.zero).mapError .arithmetic
  if nonPositive then pure none
  else do
    let mark ← markPriceOf symbol day ingestedAtUtc row value
    pure (some mark)

def fetchMarkPriceDay (archive : BinanceArchive Number) (clock : Int → Int) (symbol : Symbol)
    (day : Int) : Except HistoricalError (Option (List (Observation Number))) := do
  let read ← readRows (archive.metrics symbol day) (markPriceOrSkip symbol day (clock day))
  pure (read.map List.reduceOption)

def metricsOf (symbol : Symbol) (day : Int) (ingestedAtUtc : Int) (row : MetricsRow Number) :
    Except HistoricalError (Observation Number × Option (Observation Number)) := do
  let value ← openInterestValue row
  let openInterest ← openInterestOf symbol day ingestedAtUtc row
  let positive ← (Arithmetic.lt Arithmetic.zero row.sumOpenInterest).mapError .arithmetic
  if positive then do
    let mark ← markPriceOf symbol day ingestedAtUtc row value
    pure (openInterest, some mark)
  else pure (openInterest, none)

def fetchMetricsDay (archive : BinanceArchive Number) (clock : Int → Int) (symbol : Symbol)
    (day : Int) :
    Except HistoricalError (Option (List (Observation Number) × List (Observation Number))) := do
  let read ← readRows (archive.metrics symbol day) (metricsOf symbol day (clock day))
  pure (read.map fun rows => (rows.map Prod.fst, (rows.map Prod.snd).reduceOption))

def fundingRateOf (symbol : Symbol) (month : Month) (ingestedAtUtc : Int) (row : FundingRow Number) :
    Observation Number :=
  { symbol, observedAtUtc := fromMillis row.time, value := row.fundingRate, source := .binance
    sourceDetail := .fundingRate symbol month, ingestedAtUtc }

def fetchFundingRateMonth (archive : BinanceArchive Number) (clock : Month → Int) (symbol : Symbol)
    (month : Month) : Except HistoricalError (Option (List (Observation Number))) :=
  readRows (archive.fundingRate symbol month) fun row =>
    checked .fundingRate (fundingRateOf symbol month (clock month) row)

def pageSizeCap : Nat := 500

/-- An archive of funding rates and the endpoint that answers for it, with the rows from
the one time to the other.  It has no answer, or the rows up to a full page. -/
structure FundingHistory (Number : Type) where
  rows : List (FundingRow Number)
  answer : Int → Int → Except HistoricalError (List (FundingRow Number))
  /-- A row that is answered is in the archive, and not before the range. -/
  sound : ∀ {startTime endTime body}, answer startTime endTime = .ok body →
    ∀ row ∈ body, row ∈ rows ∧ startTime ≤ row.time
  /-- A row of the range is answered, or it is behind a full page. -/
  complete : ∀ {startTime endTime body}, answer startTime endTime = .ok body →
    ∀ row ∈ rows, startTime ≤ row.time → row.time < endTime →
      row ∈ body ∨ pageSizeCap ≤ body.length ∧ ∀ last ∈ body.getLast?, last.time ≤ row.time

def fundingHistoryOf (symbol : Symbol) (startTime endTime : Int) (ingestedAtUtc : Int)
    (row : FundingRow Number) : Observation Number :=
  { symbol, observedAtUtc := fromMillis row.time, value := row.fundingRate, source := .hyperliquid
    sourceDetail := .fundingHistory symbol startTime endTime, ingestedAtUtc }

/-- The pages from the cursor on.  The cursor advances, so the fuel is the distance. -/
def fetchPages (history : FundingHistory Number) (symbol : Symbol) (endTime : Int)
    (ingestedAtUtc : Int) : Nat → Int → Except HistoricalError (List (Observation Number))
  | 0, _ => .ok []
  | fuel + 1, cursor =>
      if cursor < endTime then do
        let body ← history.answer cursor endTime
        match body.getLast? with
        | none => pure []
        | some last => do
            let observations ← body.mapM fun row =>
              checked .fundingRate (fundingHistoryOf symbol cursor endTime ingestedAtUtc row)
            let nextCursor := last.time + 1
            if body.length < pageSizeCap ∨ nextCursor ≤ cursor then pure observations
            else do
              let later ← fetchPages history symbol endTime ingestedAtUtc fuel nextCursor
              pure (observations ++ later)
      else .ok []

def fetchFundingRateRange (history : FundingHistory Number) (ingestedAtUtc : Int) (symbol : Symbol)
    (startTime endTime : Int) : Except HistoricalError (List (Observation Number)) :=
  if startTime < 0 ∨ endTime < startTime then .error .historicalData
  else fetchPages history symbol endTime ingestedAtUtc (endTime - startTime).toNat startTime

end

end TurtleExecution.Historical

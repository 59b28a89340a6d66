/-
The collection of historical series.

A collector skips the periods that its series covers already, fetches the others and
merges what it fetched into its file.
-/

import TurtleExecution.Historical.Sources

set_option autoImplicit false

namespace TurtleExecution.Historical

open Calendar ExchangeAdapter

structure CollectionResult where
  periodsRequested : Nat
  periodsFetched : Nat
  periodsSkipped : Nat
  periodsUnavailable : Nat
  rowsAdded : Nat

def dateMax : Int := 2932896

def daysOf (startDate endDate : Int) : List Int :=
  (List.range (endDate + 1 - startDate).toNat).map fun count : Nat => startDate + count

def nextMonth (month : Month) : Month :=
  if 12 < month.month + 1 then { year := month.year + 1, month := 1 }
  else { month with month := month.month + 1 }

def monthsUpTo (last : Month) : Nat → Month → List Month
  | 0, _ => []
  | fuel + 1, month =>
      if Month.Le month last then month :: monthsUpTo last fuel (nextMonth month) else []

/-- `_month_range`; the fuel is the number of months. -/
def monthRange (startDate endDate : Int) : List Month :=
  let first := monthOf startDate
  let last := monthOf endDate
  monthsUpTo last (12 * (last.year - first.year) + last.month - first.month + 1).toNat first

structure Gathered (Batch : Type) where
  requested : Nat
  fetched : Nat
  skipped : Nat
  unavailable : Nat
  batches : List Batch

def gather {Period Batch : Type} (covered : Period → Bool)
    (fetch : Period → Except HistoricalError (Option Batch)) :
    List Period → Except HistoricalError (Gathered Batch)
  | [] => .ok { requested := 0, fetched := 0, skipped := 0, unavailable := 0, batches := [] }
  | period :: later =>
      if covered period then do
        let rest ← gather covered fetch later
        pure { rest with requested := rest.requested + 1, skipped := rest.skipped + 1 }
      else do
        let batch ← fetch period
        let rest ← gather covered fetch later
        match batch with
        | none => pure { rest with
            requested := rest.requested + 1
            fetched := rest.fetched + 1
            unavailable := rest.unavailable + 1 }
        | some batch => pure { rest with
            requested := rest.requested + 1
            fetched := rest.fetched + 1
            batches := batch :: rest.batches }

def Gathered.result {Batch : Type} (gathered : Gathered Batch) (rowsAdded : Nat) :
    CollectionResult :=
  { periodsRequested := gathered.requested, periodsFetched := gathered.fetched
    periodsSkipped := gathered.skipped, periodsUnavailable := gathered.unavailable, rowsAdded }

/-- The loop over the days; the day behind the last one has to exist. -/
def gatherDays {Batch : Type} (covered : Int → Bool)
    (fetch : Int → Except HistoricalError (Option Batch)) (startDate endDate : Int) :
    Except HistoricalError (Gathered Batch) := do
  let gathered ← gather covered fetch (daysOf startDate endDate)
  if endDate < dateMax then pure gathered else .error .overflow

section

variable {Number : Type} [LedgerArithmetic Number]

def existingDaysCovered (existing : List (Observation Number)) : List Int :=
  existing.map fun observation => dayOf observation.observedAtUtc

def existingMonthsCovered (existing : List (Observation Number)) : List Month :=
  existing.map fun observation => monthOf (dayOf observation.observedAtUtc)

def skips {Period : Type} [DecidableEq Period] (force : Bool) (covered : List Period)
    (period : Period) : Bool :=
  !force && decide (period ∈ covered)

structure Request where
  symbol : Symbol
  startDate : Int
  endDate : Int
  force : Bool

def require (accepted : Bool) : Collecting Number Unit :=
  if accepted then pure () else Process.raise .historicalData

def collectDays (metric : Metric)
    (fetch : Symbol → Int → Except HistoricalError (Option (List (Observation Number))))
    (request : Request) (source : Source) : Collecting Number CollectionResult := do
  require (decide (source = .binance))
  require (decide (request.startDate ≤ request.endDate))
  let series : Series := { metric, symbol := request.symbol, source }
  let existing ← load series
  let gathered ← Process.ofExcept (gatherDays (skips request.force (existingDaysCovered existing))
    (fetch request.symbol) request.startDate request.endDate)
  let merge ← mergeAndWrite series gathered.batches.flatten
  let _full ← load series
  pure (gathered.result merge.addedCount)

def collectOpenInterest (archive : BinanceArchive Number) (clock : Int → Int) (request : Request)
    (source : Source) : Collecting Number CollectionResult :=
  collectDays .openInterest (fetchOpenInterestDay archive clock) request source

def collectMarkPrice (archive : BinanceArchive Number) (clock : Int → Int) (request : Request)
    (source : Source) : Collecting Number CollectionResult :=
  collectDays .markPrice (fetchMarkPriceDay archive clock) request source

/-- Both series from one download a day; the days are skipped that the open interest covers. -/
def collectMetrics (archive : BinanceArchive Number) (clock : Int → Int) (request : Request) :
    Collecting Number (CollectionResult × CollectionResult) := do
  require (decide (request.startDate ≤ request.endDate))
  let openInterest : Series := { metric := .openInterest, symbol := request.symbol, source := .binance }
  let markPrice : Series := { metric := .markPrice, symbol := request.symbol, source := .binance }
  let existing ← load openInterest
  let gathered ← Process.ofExcept (gatherDays (skips request.force (existingDaysCovered existing))
    (fetchMetricsDay archive clock request.symbol) request.startDate request.endDate)
  let openInterestMerge ← mergeAndWrite openInterest (gathered.batches.map Prod.fst).flatten
  let markMerge ← mergeAndWrite markPrice (gathered.batches.map Prod.snd).flatten
  let _fullOpenInterest ← load openInterest
  let _fullMarkPrice ← load markPrice
  pure (gathered.result openInterestMerge.addedCount, gathered.result markMerge.addedCount)

/-- The archives, and the reading of a time as `int(instant.timestamp() * 1000)`. -/
structure FundingSources (Number : Type) where
  binance : BinanceArchive Number
  hyperliquid : Symbol → FundingHistory Number
  timestampMillis : Int → Int

structure Clock where
  atMonth : Month → Int
  atRange : Int

def collectFundingRateBinance (sources : FundingSources Number) (clock : Clock) (request : Request)
    (series : Series) (existing : List (Observation Number)) : Collecting Number CollectionResult := do
  let gathered ← Process.ofExcept (gather (skips request.force (existingMonthsCovered existing))
    (fetchFundingRateMonth sources.binance clock.atMonth request.symbol)
    (monthRange request.startDate request.endDate))
  let merge ← mergeAndWrite series gathered.batches.flatten
  let _full ← load series
  pure (gathered.result merge.addedCount)

def highWaterMillis (timestampMillis : Int → Int) (existing : List (Observation Number)) :
    Option Int :=
  (existing.map fun observation => timestampMillis observation.observedAtUtc).max?

/-- Where the fetch starts: behind the high-water mark, and not before the range. -/
def cursorMillis (sources : FundingSources Number) (request : Request)
    (existing : List (Observation Number)) : Int :=
  let startMillis := request.startDate * dayMillis
  match highWaterMillis sources.timestampMillis existing with
  | none => startMillis
  | some highWater => if request.force then startMillis else max startMillis (highWater + 1)

def endMillis (request : Request) : Except HistoricalError Int :=
  if request.endDate < dateMax then .ok ((request.endDate + 1) * dayMillis) else .error .overflow

def collectFundingRateHyperliquid (sources : FundingSources Number) (clock : Clock)
    (request : Request) (series : Series) (existing : List (Observation Number)) :
    Collecting Number CollectionResult := do
  let endTime ← Process.ofExcept (endMillis request)
  let cursor := cursorMillis sources request existing
  let (new, fetched) ←
    if endTime ≤ cursor then pure ([], 0)
    else do
      let new ← Process.ofExcept (fetchFundingRateRange (sources.hyperliquid request.symbol)
        clock.atRange request.symbol cursor endTime)
      pure (new, 1)
  let merge ← mergeAndWrite series new
  let _full ← load series
  pure { periodsRequested := 1, periodsFetched := fetched, periodsSkipped := 1 - fetched
         periodsUnavailable := if fetched = 1 ∧ new.length = 0 then 1 else 0
         rowsAdded := merge.addedCount }

def collectFundingRate (sources : FundingSources Number) (clock : Clock) (request : Request)
    (source : Source) : Collecting Number CollectionResult := do
  require (decide (request.startDate ≤ request.endDate))
  let series : Series := { metric := .fundingRate, symbol := request.symbol, source }
  let existing ← load series
  match source with
  | .binance => collectFundingRateBinance sources clock request series existing
  | .hyperliquid => collectFundingRateHyperliquid sources clock request series existing

end

end TurtleExecution.Historical

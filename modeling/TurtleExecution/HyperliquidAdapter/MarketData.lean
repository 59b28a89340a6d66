/-
The adapter's reads of prices and funding rates.

Both stamp what they read with the time of a clock, which other parts of the process
read as well.  The instants of the clock are given reading by reading.
-/

import TurtleExecution.Foundation.Dict
import TurtleExecution.Foundation.Process
import TurtleExecution.Foundation.UtcTime
import TurtleExecution.HyperliquidAdapter.Codec

set_option autoImplicit false

namespace TurtleExecution.HyperliquidAdapter

open ExchangeAdapter

/-- `metaAndAssetCtxs`: the names of the universe and, in parallel, the funding of each
asset; `none` stands for a field that is absent or null. -/
inductive MetaAndAssetCtxs (Raw : Type)
  | pair (names : List (Option String)) (fundings : List (Option Raw))
  | unexpected

/-- An adapter, the clock of its process and the venue's answers to its requests. -/
structure Feed (Raw : Type) where
  connected : Bool
  readings : Nat → Int
  reads : Nat
  allMids : Nat → Except CallError (List (String × Option Raw))
  metaAndAssetCtxs : Nat → Except CallError (MetaAndAssetCtxs Raw)
  requests : Nat
  /-- The instants that funding rates were stamped with. -/
  fundingTimes : List Int

def hourMicros : Int := 3600 * secondMicros

def nextHour (instant : Int) : Int := (instant / hourMicros + 1) * hourMicros

section

variable {Raw Number : Type}

def parseMarkPrice (wire : Wire Raw Number) (body : List (String × Option Raw)) (symbol : Symbol)
    (checkedAtUtc : String) : Except CallError (MarkPrice Number) :=
  match (Dict.get? body symbol.value).join with
  | none => .error (.exchangeAdapter s!"no mark price available for {symbol.value}")
  | some raw => do
      let price ← decimal wire raw "allMids price"
      return { symbol, price, timestampUtc := checkedAtUtc }

def fundingDecimal (wire : Wire Raw Number) (funding : Option Raw) : Except CallError Number :=
  match funding with
  | none => .error (.exchangeAdapter
      "Hyperliquid response field 'assetCtx.funding' is not a valid number: None")
  | some raw => decimal wire raw "assetCtx.funding"

def fundingOf (body : MetaAndAssetCtxs Raw) (symbol : Symbol) : Except CallError (Option Raw) :=
  match body with
  | .unexpected =>
      .error (.exchangeAdapter "Hyperliquid metaAndAssetCtxs response has unexpected shape")
  | .pair names fundings =>
      match (names.findIdx? fun name => name = some symbol.value).bind (fundings[·]?) with
      | none => .error (.exchangeAdapter s!"no funding rate available for {symbol.value}")
      | some funding => .ok funding

def readClock : Process (Feed Raw) CallError Int := fun feed =>
  (.returned (feed.readings feed.reads), { feed with reads := feed.reads + 1 })

def clock (utc : UtcTexts) : Process (Feed Raw) CallError String := do
  let instant ← readClock
  return utc.isoformat instant

def request {Body : Type} (answers : Feed Raw → Nat → Except CallError Body) :
    Process (Feed Raw) CallError Body := do
  let feed ← Process.get
  Process.ofExcept (requireConnected feed.connected)
  Process.modify fun feed => { feed with requests := feed.requests + 1 }
  Process.ofExcept (answers feed feed.requests)

def getMarkPrice (utc : UtcTexts) (wire : Wire Raw Number) (symbol : Symbol) :
    Process (Feed Raw) CallError (MarkPrice Number) := do
  let body ← request Feed.allMids
  let instant ← readClock
  Process.ofExcept (parseMarkPrice wire body symbol (utc.isoformat instant))

/-- The parser reads the clock once more, for the next funding time. -/
def parseFundingRate (utc : UtcTexts) (wire : Wire Raw Number) (body : MetaAndAssetCtxs Raw)
    (symbol : Symbol) (checkedAt : Int) : Process (Feed Raw) CallError (FundingRate Number) := do
  let funding ← Process.ofExcept (fundingOf body symbol)
  let now ← readClock
  let rate ← Process.ofExcept (fundingDecimal wire funding)
  Process.modify fun feed => { feed with fundingTimes := feed.fundingTimes ++ [checkedAt] }
  return { symbol
           rate
           nextFundingTimeUtc := utc.isoformat (nextHour now)
           timestampUtc := utc.isoformat checkedAt }

def getFundingRate (utc : UtcTexts) (wire : Wire Raw Number) (symbol : Symbol) :
    Process (Feed Raw) CallError (FundingRate Number) := do
  let body ← request Feed.metaAndAssetCtxs
  let instant ← readClock
  parseFundingRate utc wire body symbol instant

variable {feed after : Feed Raw} {utc : UtcTexts}

private theorem returned_request {Body : Type} {answers : Feed Raw → Nat → Except CallError Body}
    {body : Body} (ran : request answers feed = (.returned body, after)) :
    after = { feed with requests := feed.requests + 1 } := by
  obtain ⟨read, between, first, ran⟩ := Process.returned_bind ran
  cases first
  obtain ⟨_, between, checked, ran⟩ := Process.returned_bind ran
  obtain ⟨_, rfl⟩ := Process.returned_ofExcept checked
  obtain ⟨_, between, counted, ran⟩ := Process.returned_bind ran
  cases counted
  exact (Process.returned_ofExcept ran).2

theorem returned_clock {text : String} (ran : clock utc feed = (.returned text, after)) :
    text = utc.isoformat (feed.readings feed.reads) ∧
      after = { feed with reads := feed.reads + 1 } := by
  cases ran
  exact ⟨rfl, rfl⟩

theorem returned_getMarkPrice {wire : Wire Raw Number} {symbol : Symbol} {mark : MarkPrice Number}
    (ran : getMarkPrice utc wire symbol feed = (.returned mark, after)) :
    after = { feed with requests := feed.requests + 1, reads := feed.reads + 1 } := by
  obtain ⟨body, between, asked, ran⟩ := Process.returned_bind ran
  have afterRequest := returned_request asked
  subst afterRequest
  obtain ⟨instant, between, stamped, ran⟩ := Process.returned_bind ran
  cases stamped
  exact (Process.returned_ofExcept ran).2

theorem returned_getFundingRate {wire : Wire Raw Number} {symbol : Symbol}
    {funding : FundingRate Number}
    (ran : getFundingRate utc wire symbol feed = (.returned funding, after)) :
    after = { feed with
        requests := feed.requests + 1
        reads := feed.reads + 2
        fundingTimes := feed.fundingTimes ++ [feed.readings feed.reads] } ∧
      funding.timestampUtc = utc.isoformat (feed.readings feed.reads) := by
  obtain ⟨body, between, asked, ran⟩ := Process.returned_bind ran
  have afterRequest := returned_request asked
  subst afterRequest
  obtain ⟨instant, between, stamped, ran⟩ := Process.returned_bind ran
  cases stamped
  obtain ⟨raw, between, found, ran⟩ := Process.returned_bind ran
  obtain ⟨_, rfl⟩ := Process.returned_ofExcept found
  obtain ⟨now, between, again, ran⟩ := Process.returned_bind ran
  cases again
  obtain ⟨rate, between, decoded, ran⟩ := Process.returned_bind ran
  obtain ⟨_, rfl⟩ := Process.returned_ofExcept decoded
  obtain ⟨_, between, logged, ran⟩ := Process.returned_bind ran
  cases logged
  cases ran
  exact ⟨rfl, rfl⟩

end

end TurtleExecution.HyperliquidAdapter

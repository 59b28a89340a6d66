/-
Decoding of the venue's open orders and fills.

The parsers take the mapping's `resolve`; an entry whose token does not resolve is
left out.  The raw values of a response are of any type, with what the number, time
and text functions of the language read from them.
-/

import TurtleExecution.ExchangeAdapter.Models

set_option autoImplicit false

namespace TurtleExecution.HyperliquidAdapter

open ExchangeAdapter

structure Wire (Raw Number : Type) where
  number : Raw → Option Number
  /-- The time of a number of milliseconds, unless that raises. -/
  time : Raw → Option String
  str : Raw → String
  repr : Raw → String
  truthy : Raw → Bool

structure OpenOrderEntry (Raw : Type) where
  cloid : Option String
  coin : Option String
  side : Option String
  sz : Raw
  origSz : Option Raw
  timestamp : Raw
  oid : Option Raw
  limitPx : Option Raw
  reduceOnly : Option Raw

structure UserFillEntry (Raw : Type) where
  cloid : Option String
  coin : Option String
  side : Option String
  oid : Option Raw
  tid : Raw
  px : Raw
  sz : Raw
  fee : Raw
  time : Raw

section

variable {Raw Number : Type}

def decimal (wire : Wire Raw Number) (value : Raw) (fieldName : String) : Except CallError Number :=
  match wire.number value with
  | some number => .ok number
  | none => .error (.exchangeAdapter
      s!"Hyperliquid response field '{fieldName}' is not a valid number: {wire.repr value}")

def optionalDecimal (wire : Wire Raw Number) (value : Option Raw) (fieldName : String) :
    Except CallError (Option Number) :=
  match value with
  | none => .ok none
  | some value => (decimal wire value fieldName).map some

def iso (wire : Wire Raw Number) (timestampMs : Raw) : Except CallError String :=
  match wire.time timestampMs with
  | some time => .ok time
  | none => .error (.exchangeAdapter
      s!"Hyperliquid response timestamp is not valid: {wire.repr timestampMs}")

def sideOf (side : Option String) : Option OrderSide :=
  match side with
  | some "A" => some .sell
  | some "B" => some .buy
  | _ => none

def symbolOf (coin : String) : Except CallError Symbol :=
  if nonBlank : PyText.isBlank coin = false then .ok ⟨coin, nonBlank⟩
  else .error (.other "Symbol.value must be a non-empty string")

def ofArithmetic {Value : Type} (result : Except ArithmeticError Value) : Except CallError Value :=
  result.mapError fun _ => .other "decimal arithmetic"

def present (text : Option String) : Option String :=
  text.filter fun text => text ≠ ""

def engineId (resolve : String → Option String) (cloid : Option String) : Option String :=
  (present cloid).bind resolve

def parseEntries {Entry Item : Type} (parse : Entry → Except CallError (Option Item)) :
    List Entry → Except CallError (List Item)
  | [] => .ok []
  | entry :: entries => do
      let item ← parse entry
      let items ← parseEntries parse entries
      return item.toList ++ items

def userFill (wire : Wire Raw Number) (entry : UserFillEntry Raw) (clientOrderId coin : String)
    (side : OrderSide) : Except CallError (Fill Number) := do
  match entry.oid with
  | none => .error (.exchangeAdapter "Hyperliquid userFills entry is missing oid")
  | some oid =>
      let symbol ← symbolOf coin
      let price ← decimal wire entry.px "fill.px"
      let quantity ← decimal wire entry.sz "fill.sz"
      let fee ← decimal wire entry.fee "fill.fee"
      let timestampUtc ← iso wire entry.time
      return { fillId := wire.str entry.tid
               clientOrderId
               exchangeOrderId := wire.str oid
               symbol
               side
               price
               quantity
               fee
               timestampUtc }

def parseUserFill (wire : Wire Raw Number) (resolve : String → Option String)
    (entry : UserFillEntry Raw) : Except CallError (Option (Fill Number)) :=
  match engineId resolve entry.cloid with
  | none => .ok none
  | some clientOrderId =>
      match present entry.coin, sideOf entry.side with
      | some coin, some side => (userFill wire entry clientOrderId coin side).map some
      | _, _ => .ok none

def parseUserFills (wire : Wire Raw Number) (resolve : String → Option String)
    (body : List (UserFillEntry Raw)) : Except CallError (List (Fill Number)) :=
  parseEntries (parseUserFill wire resolve) body

/-- The original size of an order, which is its size where the venue gives none. -/
def originalSize (wire : Wire Raw Number) (entry : OpenOrderEntry Raw) (sz : Number) :
    Except CallError Number :=
  match entry.origSz with
  | none => .ok sz
  | some origSz => decimal wire origSz "order.origSz"

variable [Arithmetic Number]

def openOrder (wire : Wire Raw Number) (entry : OpenOrderEntry Raw) (clientOrderId coin : String)
    (side : OrderSide) : Except CallError (Order Number) := do
  let sz ← decimal wire entry.sz "order.sz"
  let origSz ← originalSize wire entry sz
  let filled ← ofArithmetic (Arithmetic.sub origSz sz)
  let timestampIso ← iso wire entry.timestamp
  let symbol ← symbolOf coin
  let notNegative ← ofArithmetic (Arithmetic.le Arithmetic.zero filled)
  let limitPrice ← optionalDecimal wire entry.limitPx "order.limitPx"
  let positive ← ofArithmetic (Arithmetic.lt Arithmetic.zero filled)
  return { clientOrderId
           exchangeOrderId := entry.oid.map wire.str
           symbol
           side
           orderType := .limit
           quantity := origSz
           filledQuantity := if notNegative then filled else Arithmetic.zero
           limitPrice
           status := if positive then .partiallyFilled else .acknowledged
           timeInForce := .gtc
           reduceOnly := (entry.reduceOnly.map wire.truthy).getD false
           createdAtUtc := timestampIso
           updatedAtUtc := timestampIso }

def parseOpenOrder (wire : Wire Raw Number) (resolve : String → Option String)
    (entry : OpenOrderEntry Raw) : Except CallError (Option (Order Number)) :=
  match engineId resolve entry.cloid with
  | none => .ok none
  | some clientOrderId =>
      match present entry.coin, sideOf entry.side with
      | some coin, some side => (openOrder wire entry clientOrderId coin side).map some
      | _, _ => .ok none

def parseOpenOrders (wire : Wire Raw Number) (resolve : String → Option String)
    (body : List (OpenOrderEntry Raw)) : Except CallError (List (Order Number)) :=
  parseEntries (parseOpenOrder wire resolve) body

def getOrders (wire : Wire Raw Number) (resolve : String → Option String) (connected : Bool)
    (frontendOpenOrders : Except CallError (List (OpenOrderEntry Raw))) :
    Except CallError (List (Order Number)) := do
  requireConnected connected
  let body ← frontendOpenOrders
  parseOpenOrders wire resolve body

end

def getFills {Raw Number : Type} (wire : Wire Raw Number) (resolve : String → Option String)
    (connected : Bool) (userFills : Except CallError (List (UserFillEntry Raw)))
    (sinceUtc : Option String) : Except CallError (List (Fill Number)) := do
  requireConnected connected
  let body ← userFills
  let fills ← parseUserFills wire resolve body
  match sinceUtc with
  | none => return fills
  | some sinceUtc => return fills.filter fun fill => sinceUtc ≤ fill.timestampUtc

end TurtleExecution.HyperliquidAdapter

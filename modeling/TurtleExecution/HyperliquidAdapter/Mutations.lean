/-
The adapter's requests that change an order at the venue, and the venue's responses.

A response is any JSON value; of two members of one name the later counts.  A session
is what one call finds: the state of the adapter, what its reads answer, and what
the venue responds.
-/

import TurtleExecution.Foundation.PyValue
import TurtleExecution.HyperliquidAdapter.Codec
import TurtleExecution.SecretsBoundary.Boundary

set_option autoImplicit false

namespace TurtleExecution.HyperliquidAdapter

open ExchangeAdapter SecretsBoundary

def member? (members : List (JsonText × Json)) (name : JsonText) : Option Json :=
  (members.reverse.find? fun member => member.1 = name).map Prod.snd

/-- Whether a number is not zero.  A literal within half of the least float of zero
is read as zero. -/
def nonzero : JsonNumber → Bool
  | .integer value => value.value ≠ 0
  | .float literal => 1 / 2 ^ 1075 < |PyValue.floatValue literal|
  | .nan => true
  | .infinity _ => true

def truthy : Json → Bool
  | .null => false
  | .bool value => value
  | .number value => nonzero value
  | .string text => text ≠ ""
  | .array items => !items.isEmpty
  | .object members => !members.isEmpty

def length : Json → Except CallError Nat
  | .string text => .ok text.text.length
  | .array items => .ok items.length
  | .object members => .ok (members.map Prod.fst).dedup.length
  | _ => .error (.other "TypeError: object has no len()")

def item (value : Json) (index : Nat) : Except CallError Json :=
  match value with
  | .string text =>
      match text.text.points[index]? with
      | some point => .ok (.string (JsonText.ofPoints [point]))
      | none => .error (.other "IndexError: string index out of range")
  | .array items =>
      match items[index]? with
      | some found => .ok found
      | none => .error (.other "IndexError: list index out of range")
  | .object _ => .error (.other s!"KeyError: {index}")
  | _ => .error (.other "TypeError: object is not subscriptable")

/-- The kinds of error that the message is mapped to are all `ExchangeAdapterError`s. -/
def mapRequestError (message : String) : CallError :=
  .exchangeAdapter message

def mapOrderStatusError (message : String) : CallError :=
  .exchangeAdapter message

/-- An `orderStatus` response with an order; `none` stands for a field that is absent
or null. -/
structure OrderStatusEntry (Raw : Type) where
  status : Option String
  statusTimestamp : Raw
  cloid : Option String
  coin : Option String
  side : Option String
  sz : Raw
  origSz : Option Raw
  timestamp : Option Raw
  oid : Option Raw
  limitPx : Option Raw
  reduceOnly : Option Raw
  repr : String

/-- `_ORDER_STATUS_MAP.get(venue_status, OrderStatus.UNKNOWN)` -/
def orderStatusOf (venueStatus : Option String) : OrderStatus :=
  let cancelled := ["canceled", "marginCanceled", "vaultWithdrawalCanceled",
    "openInterestCapCanceled", "selfTradeCanceled", "reduceOnlyCanceled",
    "siblingFilledCanceled", "delistedCanceled", "liquidatedCanceled", "scheduledCancel"]
  let rejected := ["tickRejected", "minTradeNtlRejected", "perpMarginRejected",
    "reduceOnlyRejected", "badAloPxRejected", "iocCancelRejected", "badTriggerPxRejected",
    "marketOrderNoLiquidityRejected", "positionIncreaseAtOpenInterestCapRejected",
    "positionFlipAtOpenInterestCapRejected", "tooAggressiveAtOpenInterestCapRejected",
    "openInterestIncreaseRejected", "insufficientSpotBalanceRejected", "oracleRejected",
    "perpMaxPositionRejected"]
  match venueStatus with
  | none => .unknown
  | some status =>
      if status = "open" ∨ status = "triggered" then .acknowledged
      else if status = "filled" then .filled
      else if status ∈ cancelled then .cancelled
      else if status ∈ rejected then .rejected
      else .unknown

section

variable {Raw Number : Type} [Arithmetic Number]

def statusOrder (wire : Wire Raw Number) (entry : OrderStatusEntry Raw)
    (clientOrderId coin : String) (side : OrderSide) (oid : Raw) :
    Except CallError (Order Number) := do
  let sz ← decimal wire entry.sz "order.sz"
  let origSz ← match entry.origSz with
    | none => .ok sz
    | some origSz => decimal wire origSz "order.origSz"
  let filled ← ofArithmetic (Arithmetic.sub origSz sz)
  let timestampIso ← iso wire (entry.timestamp.getD entry.statusTimestamp)
  let symbol ← symbolOf coin
  let notNegative ← ofArithmetic (Arithmetic.le Arithmetic.zero filled)
  let limitPrice ← optionalDecimal wire entry.limitPx "order.limitPx"
  return { clientOrderId
           exchangeOrderId := some (wire.str oid)
           symbol
           side
           orderType := .limit
           quantity := origSz
           filledQuantity := if notNegative then filled else Arithmetic.zero
           limitPrice
           status := orderStatusOf entry.status
           timeInForce := .gtc
           reduceOnly := (entry.reduceOnly.map wire.truthy).getD false
           createdAtUtc := timestampIso
           updatedAtUtc := timestampIso }

/-- `parse_order_status`; the body is `none` where its status is not `order`. -/
def parseOrderStatus (wire : Wire Raw Number) (resolve : String → Option String)
    (body : Option (OrderStatusEntry Raw)) (assumeClientOrderId : Option String) :
    Except CallError (Option (Order Number)) :=
  match body with
  | none => .ok none
  | some entry =>
      match present entry.coin, sideOf entry.side, entry.oid with
      | some coin, some side, some oid =>
          match assumeClientOrderId.or (engineId resolve entry.cloid) with
          | none => .error (.exchangeAdapter
              (s!"Hyperliquid order oid={wire.str oid} exists but cannot be attributed to an " ++
                "engine client_order_id -- refusing to mislabel it (INV-4)"))
          | some clientOrderId =>
              (statusOrder wire entry clientOrderId coin side oid).map some
      | _, _, _ => .error (.exchangeAdapter
          s!"Hyperliquid orderStatus response is missing required fields: {entry.repr}")

end

def tifWire : TimeInForce → Except CallError String
  | .gtc => .ok "Gtc"
  | .ioc => .ok "Ioc"
  | .postOnly => .ok "Alo"
  | .fok => .error (.exchangeAdapter
      ("Hyperliquid does not support time_in_force=FOK " ++
        "(see DEFAULT_HYPERLIQUID_CAPABILITIES)"))

structure OrderWire where
  a : Nat
  b : Bool
  p : String
  s : String
  r : Bool
  tif : String
  c : Option String

def buildOrderWire {Number : Type} (toWire : Number → Except CallError String) (assetIndex : Nat)
    (isBuy : Bool) (price size : Number) (reduceOnly : Bool) (tif : String)
    (cloid : Option String) : Except CallError OrderWire := do
  let p ← toWire price
  let s ← toWire size
  return { a := assetIndex, b := isBuy, p, s, r := reduceOnly, tif, c := cloid }

inductive Action
  | cancel (cancels : List (Nat × Int))
  | modify (oid : Int) (order : OrderWire)

structure Session (Number : Type) where
  wire : Wire Json Number
  connected : Bool
  signer : Bool
  /-- The signing boundary, with the reference of the signing key. -/
  authorize : SigningPurpose → Bytes → Except CallError Unit
  resolve : String → Option String
  knownToken : String → Option String
  assetIndex : Symbol → Except CallError Nat
  int : String → Option Int
  /-- `to_wire`, which raises where a number leaves the decimal context. -/
  toWire : Number → Except CallError String
  orderStatus : Int → Except CallError (Option (OrderStatusEntry Json))
  frontendOpenOrders : Except CallError (List (OpenOrderEntry Json))
  /-- The response of the venue to a signed action, unless signing or sending it fails. -/
  post : Action → Except CallError Json
  now : String

namespace Session

variable {Number : Type}

def requireSigner (session : Session Number) : Except CallError Unit :=
  if session.signer then .ok ()
  else .error (.exchangeAdapter
    ("HyperliquidAdapter has no wallet signer configured -- refusing to " ++
      "attempt a mutation (fail-closed; no network call was made)"))

def oidOf (session : Session Number) (exchangeOrderId : Option String) : Except CallError Int :=
  match exchangeOrderId.bind session.int with
  | some oid => .ok oid
  | none => .error (.other "ValueError: invalid literal for int()")

end Session

section

variable {Number : Type}

def checkOk (wire : Wire Json Number) (body : Json) : Except CallError Unit :=
  match body with
  | .object members =>
      match (member? members "status").getD .null with
      | .string ⟨.scalars "ok", _⟩ => .ok ()
      | .string ⟨.scalars "err", _⟩ =>
          .error (mapRequestError (wire.str ((member? members "response").getD .null)))
      | status => .error (.exchangeAdapter
          s!"unexpected Hyperliquid /exchange status: {wire.repr status}")
  | _ => .error (.exchangeAdapter "Hyperliquid /exchange returned a non-object response")

/-- `value.get(name, default)` if the value is an object, else the default. -/
def memberOr (value : Json) (name : String) (default : Json) : Json :=
  match value with
  | .object members => (member? members name).getD default
  | _ => default

/-- `_statuses`, which is asked about objects only. -/
def statuses (body : Json) : Json :=
  let response := memberOr body "response" (.object [])
  let data := memberOr response "data" (.object [])
  memberOr data "statuses" (.array [])

def asCancelled (now : String) (order : Order Number) : Order Number :=
  { order with status := .cancelled, updatedAtUtc := now }

/-- How `_transmit_cancel_order` reads the response about an order. -/
def cancelOutcome (wire : Wire Json Number) (now : String) (order : Order Number) (body : Json) :
    Except CallError (Order Number) := do
  checkOk wire body
  let statuses := statuses body
  if truthy statuses then do
    let first ← item statuses 0
    match first with
    | .object members =>
        match member? members "error" with
        | some error => .error (mapOrderStatusError (wire.str error))
        | none => return asCancelled now order
    | _ => return asCancelled now order
  else return asCancelled now order

def isSuccess : Json → Bool
  | .string text => text = "success"
  | _ => false

/-- `statuses[i] if i < len(statuses) else None` -/
def entryAt (statuses : Json) (index : Nat) : Except CallError Json := do
  let count ← length statuses
  if index < count then item statuses index else return .null

def confirmedFrom (now : String) (statuses : Json) :
    Nat → List (Order Number) → Except CallError (List (Order Number))
  | _, [] => .ok []
  | index, order :: orders => do
      let entry ← entryAt statuses index
      let rest ← confirmedFrom now statuses (index + 1) orders
      return if isSuccess entry then asCancelled now order :: rest else rest

/-- How `_transmit_cancel_all` reads the response about the orders that it asked to
cancel. -/
def cancelAllOutcome (wire : Wire Json Number) (now : String) (cancellable : List (Order Number))
    (body : Json) : Except CallError (List (Order Number)) := do
  checkOk wire body
  confirmedFrom now (statuses body) 0 cancellable

end

namespace Session

variable {Number : Type} [Arithmetic Number]

def getOrders (session : Session Number) : Except CallError (List (Order Number)) :=
  HyperliquidAdapter.getOrders session.wire session.resolve session.connected
    session.frontendOpenOrders

def getOrderStatus (session : Session Number) (exchangeOrderId : String) :
    Except CallError (Order Number) := do
  requireConnected session.connected
  match session.int exchangeOrderId with
  | none => .error (.exchangeAdapter
      (s!"exchange_order_id is not a valid Hyperliquid oid: " ++
        session.wire.repr (.string exchangeOrderId)))
  | some oid => do
      let body ← session.orderStatus oid
      match ← parseOrderStatus session.wire session.resolve body none with
      | none => .error (.exchangeAdapter
          s!"Hyperliquid has no record of order {session.wire.repr (.string exchangeOrderId)}")
      | some order => return order

def transmitCancelOrder (session : Session Number) (request : CancelRequest) :
    Except CallError (Order Number) := do
  requireConnected session.connected
  session.requireSigner
  session.authorize .cancel (utf8 request.exchangeOrderId)
  let order ← session.getOrderStatus request.exchangeOrderId
  let asset ← session.assetIndex order.symbol
  let oid ← session.oidOf (some request.exchangeOrderId)
  let body ← session.post (.cancel [(asset, oid)])
  cancelOutcome session.wire session.now order body

/-- The open orders that `cancel_all` asks the venue to cancel. -/
def cancellable (session : Session Number) (request : CancelAllRequest) :
    Except CallError (List (Order Number)) := do
  let orders ← session.getOrders
  let chosen := match request.symbol with
    | none => orders
    | some symbol => orders.filter fun order => order.symbol.value = symbol.value
  return chosen.filter fun order => order.exchangeOrderId.isSome

def cancelsOf (session : Session Number) :
    List (Order Number) → Except CallError (List (Nat × Int))
  | [] => .ok []
  | order :: orders => do
      let asset ← session.assetIndex order.symbol
      let oid ← session.oidOf order.exchangeOrderId
      let cancels ← session.cancelsOf orders
      return (asset, oid) :: cancels

def transmitCancelAll (session : Session Number) (request : CancelAllRequest) :
    Except CallError (List (Order Number)) := do
  requireConnected session.connected
  session.requireSigner
  session.authorize .cancel (utf8 "cancel_all")
  let cancellable ← session.cancellable request
  if cancellable.isEmpty then return []
  else do
    let cancels ← session.cancelsOf cancellable
    let body ← session.post (.cancel cancels)
    cancelAllOutcome session.wire session.now cancellable body

def transmitAmendOrder (session : Session Number) (request : AmendRequest Number) :
    Except CallError (Order Number) := do
  requireConnected session.connected
  session.requireSigner
  session.authorize .amend (utf8 request.exchangeOrderId)
  let order ← session.getOrderStatus request.exchangeOrderId
  let asset ← session.assetIndex order.symbol
  match request.newLimitPrice.or order.limitPrice with
  | none => .error (.exchangeAdapter "amend: order has no limit price to modify")
  | some newPrice => do
      let tif ← tifWire order.timeInForce
      let wire ← buildOrderWire session.toWire asset (order.side = .buy) newPrice
        (request.newQuantity.getD order.quantity) order.reduceOnly tif
        (session.knownToken order.clientOrderId)
      let oid ← session.oidOf (some request.exchangeOrderId)
      let body ← session.post (.modify oid wire)
      checkOk session.wire body
      -- The replacement is looked up among the open orders, read after the modification.
      let orders ← session.getOrders
      match orders.find? fun shown => shown.clientOrderId = order.clientOrderId with
      | none => .error (.exchangeAdapter
          ("amend succeeded at the venue but no open order for " ++
            session.wire.repr (.string order.clientOrderId) ++
            " was found to resolve the replacement oid -- " ++
            "re-query before operating on it (never returning the obsolete oid)"))
      | some replacement => return replacement

end Session

end TurtleExecution.HyperliquidAdapter

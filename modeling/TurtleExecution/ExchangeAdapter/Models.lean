/-
The typed values that cross the exchange adapter interface.

A request is checked when it is built.  Numbers are of any type with the
operations of `Arithmetic`, whose comparisons may raise.
-/

import TurtleExecution.Foundation.Arithmetic
import TurtleExecution.Foundation.PyText

set_option autoImplicit false

namespace TurtleExecution.ExchangeAdapter

inductive OrderSide
  | buy
  | sell
  deriving DecidableEq, Repr

def OrderSide.value : OrderSide → String
  | buy => "BUY"
  | sell => "SELL"

inductive OrderType
  | market
  | limit
  deriving DecidableEq, Repr

def OrderType.value : OrderType → String
  | market => "MARKET"
  | limit => "LIMIT"

inductive TimeInForce
  | gtc
  | ioc
  | fok
  | postOnly
  deriving DecidableEq, Repr

def TimeInForce.value : TimeInForce → String
  | gtc => "GTC"
  | ioc => "IOC"
  | fok => "FOK"
  | postOnly => "POST_ONLY"

inductive OrderStatus
  | new
  | acknowledged
  | partiallyFilled
  | filled
  | cancelled
  | rejected
  | unknown
  deriving DecidableEq, Repr

def OrderStatus.value : OrderStatus → String
  | new => "NEW"
  | acknowledged => "ACKNOWLEDGED"
  | partiallyFilled => "PARTIALLY_FILLED"
  | filled => "FILLED"
  | cancelled => "CANCELLED"
  | rejected => "REJECTED"
  | unknown => "UNKNOWN"

structure Symbol where
  value : String
  nonBlank : PyText.isBlank value = false
  deriving DecidableEq

theorem nonBlank_btc : PyText.isBlank "BTC" = false := by decide

def btc : Symbol := ⟨"BTC", nonBlank_btc⟩

theorem onlyBtc_nonempty : [btc] ≠ [] := List.cons_ne_nil _ _

inductive ModelError
  | valueError (message : String)
  | arithmetic (error : ArithmeticError)
  deriving DecidableEq, Repr

/-- What a call of the adapter raises: an `ExchangeAdapterError`, or anything else. -/
inductive CallError
  | exchangeAdapter (message : String)
  | other (message : String)
  deriving DecidableEq, Repr

def requireConnected (connected : Bool) : Except CallError Unit :=
  if connected then .ok () else .error (.exchangeAdapter "adapter is not connected")

structure OrderRequest (Number : Type) where
  clientOrderId : String
  symbol : Symbol
  side : OrderSide
  orderType : OrderType
  quantity : Number
  limitPrice : Option Number
  timeInForce : TimeInForce
  reduceOnly : Bool

structure AmendRequest (Number : Type) where
  requestId : String
  exchangeOrderId : String
  newQuantity : Option Number
  newLimitPrice : Option Number

structure CancelRequest where
  requestId : String
  exchangeOrderId : String

structure CancelAllRequest where
  requestId : String
  symbol : Option Symbol

structure Order (Number : Type) where
  clientOrderId : String
  exchangeOrderId : Option String
  symbol : Symbol
  side : OrderSide
  orderType : OrderType
  quantity : Number
  filledQuantity : Number
  limitPrice : Option Number
  status : OrderStatus
  timeInForce : TimeInForce
  reduceOnly : Bool
  createdAtUtc : String
  updatedAtUtc : String

structure Fill (Number : Type) where
  fillId : String
  clientOrderId : String
  exchangeOrderId : String
  symbol : Symbol
  side : OrderSide
  price : Number
  quantity : Number
  fee : Number
  timestampUtc : String

structure Position (Number : Type) where
  symbol : Symbol
  quantity : Number
  entryPrice : Number
  markPrice : Number
  unrealizedPnl : Number
  liquidationPrice : Option Number

structure MarkPrice (Number : Type) where
  symbol : Symbol
  price : Number
  timestampUtc : String

structure FundingRate (Number : Type) where
  symbol : Symbol
  rate : Number
  nextFundingTimeUtc : String
  timestampUtc : String

structure ExchangeCapabilities where
  supportsReduceOnly : Bool
  supportsPostOnly : Bool
  supportsIoc : Bool
  supportsFok : Bool
  supportsMarketOrders : Bool
  supportsLimitOrders : Bool
  deriving DecidableEq, Repr

def requireText (field text : String) : Except ModelError Unit :=
  if PyText.isBlank text then .error (.valueError s!"{field} must be a non-empty string")
  else .ok ()

section

variable {Number : Type} [Arithmetic Number]

def requirePositive (message : String) (number : Number) : Except ModelError Unit :=
  match Arithmetic.le number Arithmetic.zero with
  | .error error => .error (.arithmetic error)
  | .ok true => .error (.valueError message)
  | .ok false => .ok ()

def OrderRequest.validate (request : OrderRequest Number) : Except ModelError Unit := do
  requireText "client_order_id" request.clientOrderId
  requirePositive "quantity must be a positive Decimal" request.quantity
  match request.limitPrice with
  | none => return ()
  | some price => requirePositive "limit_price must be a positive Decimal when provided" price

def AmendRequest.validate (request : AmendRequest Number) : Except ModelError Unit := do
  requireText "request_id" request.requestId
  requireText "exchange_order_id" request.exchangeOrderId
  if request.newQuantity.isNone && request.newLimitPrice.isNone then
    .error (.valueError "amend must change at least one of new_quantity or new_limit_price")
  else return ()

end

def CancelRequest.validate (request : CancelRequest) : Except ModelError Unit := do
  requireText "request_id" request.requestId
  requireText "exchange_order_id" request.exchangeOrderId

def CancelAllRequest.validate (request : CancelAllRequest) : Except ModelError Unit :=
  requireText "request_id" request.requestId

end TurtleExecution.ExchangeAdapter

/-
The accounting synchronization: it books fills into the managers that it drives.

The managers and the synchronization share one store.  Notes are what `sync`
returns; an error that `sync` does not catch ends it.
-/

import TurtleExecution.OrderManager.Manager
import TurtleExecution.PortfolioManager.Manager
import TurtleExecution.PositionManager.Manager

set_option autoImplicit false

namespace TurtleExecution.AccountingSync

open ExchangeAdapter SharedStore

inductive Entry (Number : Type)
  | levelsRecorded (clientOrderId : String) (entryPrice stopPrice : Number)
  | positionMapped (clientOrderId positionId : String)
  | other (action : String)

inductive Stored (Number : Type)
  | machine (payload : ExecutionStateMachine.Payload)
  | order (payload : OrderManager.Payload Number)
  | position (payload : PositionManager.Payload Number)
  | portfolio (payload : PortfolioManager.Payload Number)
  | accounting (entry : Entry Number)
  | other (source : String)

section

variable {Number : Type}

instance : OrderManager.Sources (Stored Number) Number where
  machine :=
    { wrap := .machine
      own? := fun payload => match payload with
        | .machine payload => some payload
        | _ => none
      own?_wrap := fun _ => rfl }
  orders :=
    { wrap := .order
      own? := fun payload => match payload with
        | .order payload => some payload
        | _ => none
      own?_wrap := fun _ => rfl }
  separate := fun _ => rfl

instance : Source (Stored Number) (PositionManager.Payload Number) where
  wrap := .position
  own? := fun payload => match payload with
    | .position payload => some payload
    | _ => none
  own?_wrap := fun _ => rfl

instance : Source (Stored Number) (PortfolioManager.Payload Number) where
  wrap := .portfolio
  own? := fun payload => match payload with
    | .portfolio payload => some payload
    | _ => none
  own?_wrap := fun _ => rfl

def eventSourceTag : String := "app_accounting"

def Entry.action : Entry Number → String
  | levelsRecorded _ _ _ => "order_levels_recorded"
  | positionMapped _ _ => "order_position_mapped"
  | other action => action

/-- The key that `_append` records an entry of an order under. -/
def recordKey (action clientOrderId : String) : String :=
  eventSourceTag ++ ":" ++ action ++ ":" ++ clientOrderId

structure Levels (Number : Type) where
  entryPrice : Number
  stopPrice : Number

structure Books (Number : Type) where
  levelsByCid : Dict String (Levels Number)
  positionByCid : Dict String String
  closedQtyByPid : Dict String Number
  countedExitFills : List String

def Books.initial : Books Number :=
  { levelsByCid := [], positionByCid := [], closedQtyByPid := [], countedExitFills := [] }

def Books.apply (books : Books Number) : Entry Number → Books Number
  | .levelsRecorded clientOrderId entryPrice stopPrice =>
      { books with
        levelsByCid := books.levelsByCid.set clientOrderId { entryPrice, stopPrice } }
  | .positionMapped clientOrderId positionId =>
      { books with positionByCid := books.positionByCid.set clientOrderId positionId }
  | .other _ => books

def Books.replayEvent (books : Books Number) (event : Event (Stored Number)) : Books Number :=
  match event.payload with
  | .accounting entry => books.apply entry
  | _ => books

def construct (log : Log (Stored Number)) : Books Number :=
  log.entries.foldl Books.replayEvent Books.initial

end

end TurtleExecution.AccountingSync

namespace TurtleExecution.AccountingSync

open ExchangeAdapter SharedStore

/-- The ids that the managers were constructed with, the time at which the portfolio
manager was, and the target leverage. -/
structure Setup (Number : Type) where
  omId : String
  positionsId : String
  portfolioId : String
  portfolioSinceUtc : String
  targetLeverage : Number

inductive SyncError
  | orders (error : OrderManager.OrderManagerError)
  | positions (error : PositionManager.PositionManagerError)
  | portfolio (error : PortfolioManager.PortfolioManagerError)
  | arithmetic (error : ArithmeticError)
  | store (failure : StoreFailure)
  | call (error : CallError)

inductive Note (Number : Type)
  | fetchFailed (error : CallError)
  | unknownOrder (fillId clientOrderId : String)
  | noLevels (fillId clientOrderId : String)
  | degenerateStop (fillId clientOrderId : String)
  | deadPosition (fillId positionId : String) (state : PositionManager.PositionLifecycleState)
  | marginFailed (fillId positionId : String) (error : PortfolioManager.PortfolioManagerError)
  | unattributed (fillId : String) (symbol : Symbol)
  | partialClose (fillId : String) (symbol : Symbol) (closed filled : Number) (positionId : String)
  | failed (fillId clientOrderId : String) (error : SyncError)

/-- The world of the order manager holds the store and the environment of all.  The
notes are those of the running `sync`. -/
structure World (Number : Type) where
  orders : OrderManager.World (Stored Number) Number
  positions : PositionManager.Memory Number
  portfolio : PortfolioManager.Memory Number
  books : Books Number
  notes : List (Note Number)

section

variable {Number : Type}

def World.log (world : World Number) : Log (Stored Number) := world.orders.log

def storeAnswer (answer : OrderManager.Answer Number) : StoreAnswer :=
  { crash := answer.crash, now := answer.now, appendFailure := answer.appendFailure }

def World.positionsHost (world : World Number) :
    Host (Stored Number) (PositionManager.Memory Number) :=
  { log := world.orders.log
    memory := world.positions
    environment := fun tick => storeAnswer (world.orders.environment tick)
    clock := world.orders.clock }

def World.putPositions (host : Host (Stored Number) (PositionManager.Memory Number))
    (world : World Number) : World Number :=
  { world with
    orders := { world.orders with log := host.log, clock := host.clock }
    positions := host.memory }

def World.portfolioHost (world : World Number) :
    Host (Stored Number) (PortfolioManager.Memory Number) :=
  { log := world.orders.log
    memory := world.portfolio
    environment := fun tick => storeAnswer (world.orders.environment tick)
    clock := world.orders.clock }

def World.putPortfolio (host : Host (Stored Number) (PortfolioManager.Memory Number))
    (world : World Number) : World Number :=
  { world with
    orders := { world.orders with log := host.log, clock := host.clock }
    portfolio := host.memory }

def World.booksHost (world : World Number) : Host (Stored Number) (Books Number) :=
  { log := world.orders.log
    memory := world.books
    environment := fun tick => storeAnswer (world.orders.environment tick)
    clock := world.orders.clock }

def World.putBooks (host : Host (Stored Number) (Books Number)) (world : World Number) :
    World Number :=
  { world with
    orders := { world.orders with log := host.log, clock := host.clock }
    books := host.memory }

abbrev Operation (Number Value : Type) := Process (World Number) SyncError Value

def orders {Value : Type} (operation : OrderManager.Operation (Stored Number) Number Value) :
    Operation Number Value :=
  Process.focus World.orders (fun orders world => { world with orders }) .orders operation

def positions {Value : Type} (operation : PositionManager.Operation (Stored Number) Number Value) :
    Operation Number Value :=
  Process.focus World.positionsHost World.putPositions .positions operation

def portfolio {Value : Type} (operation : PortfolioManager.Operation (Stored Number) Number Value) :
    Operation Number Value :=
  Process.focus World.portfolioHost World.putPortfolio .portfolio operation

def books : Operation Number (Books Number) := do
  let world ← Process.get
  return world.books

def setBooks (books : Books Number) : Operation Number Unit :=
  Process.modify fun world => { world with books }

def note (note : Note Number) : Operation Number Unit :=
  Process.modify fun world => { world with notes := world.notes ++ [note] }

def compute {Value : Type} (result : Except ArithmeticError Value) : Operation Number Value :=
  Process.ofExcept (result.mapError SyncError.arithmetic)

def appendEntry (clientOrderId : String) (entry : Entry Number) :
    Process (Host (Stored Number) (Books Number)) SyncError Unit := do
  let answer ← Journal.consult
  match answer.appendFailure with
  | some failure => Process.raise (.store failure)
  | none =>
      Process.modify fun host =>
        { host with
          log := (host.log.append .positionUpdated (.accounting entry)
            (some (recordKey entry.action clientOrderId)) answer.now).2
          memory := host.memory.apply entry }

def append (clientOrderId : String) (entry : Entry Number) : Operation Number Unit :=
  Process.focus World.booksHost World.putBooks id (appendEntry clientOrderId entry)

/-- The errors that `sync` catches: those of the managers, and `ValueError`. -/
def caught : SyncError → Bool
  | .orders error =>
      match error with
      | .valueError _ => true
      | .orderNotFound _ => true
      | .illegalOrderTransition _ => true
      | .orderStateInconsistency _ => true
      | .replayIntegrity _ _ => true
      | .request (.valueError _) => true
      | .machine (.valueError _) => true
      | _ => false
  | .positions error =>
      match error with
      | .model (.valueError _) => true
      | .positionNotFound _ => true
      | .illegalPositionTransition _ => true
      | .positionStateInconsistency _ => true
      | .replayIntegrity _ _ => true
      | _ => false
  | .portfolio error =>
      match error with
      | .model (.valueError _) => true
      | .insufficientFunds _ => true
      | .insufficientMargin _ => true
      | .accountingInvariant _ => true
      | .replayIntegrity _ _ => true
      | _ => false
  | _ => false

def isPortfolioManagerError : PortfolioManager.PortfolioManagerError → Bool
  | .insufficientFunds _ => true
  | .insufficientMargin _ => true
  | .accountingInvariant _ => true
  | .replayIntegrity _ _ => true
  | _ => false

section

variable [LedgerArithmetic Number]

structure Execution (Number : Type) where
  clientOrderId : String
  levels : Option (Levels Number)

def recordExecutionLevels : List (Execution Number) → Operation Number Unit
  | [] => return ()
  | execution :: rest => do
      match execution.levels with
      | none => recordExecutionLevels rest
      | some levels => do
          let books ← books
          match books.levelsByCid.get? execution.clientOrderId with
          | some _ => recordExecutionLevels rest
          | none => do
              append execution.clientOrderId
                (.levelsRecorded execution.clientOrderId levels.entryPrice levels.stopPrice)
              recordExecutionLevels rest

def returnedSnapshot (positionId : String)
    (snapshot : Option (PositionManager.PositionSnapshot Number)) :
    Operation Number (PositionManager.PositionSnapshot Number) :=
  match snapshot with
  | some snapshot => return snapshot
  | none => Process.raise (.positions (.positionNotFound positionId))

/-- The levels of the first and the second target, for a fill on this side. -/
def targets (side : OrderSide) (entry stopD : Number) : Except ArithmeticError (Number × Number) :=
  match side with
  | .buy => do
      let t1Price ← Arithmetic.add entry stopD
      let doubled ← Arithmetic.mul (LedgerArithmetic.ofInt 2) stopD
      return (t1Price, ← Arithmetic.add entry doubled)
  | .sell => do
      let t1Price ← Arithmetic.sub entry stopD
      let doubled ← Arithmetic.mul (LedgerArithmetic.ofInt 2) stopD
      return (t1Price, ← Arithmetic.sub entry doubled)

/-- A position for an order that has none; `none` if the fill was skipped with a note. -/
def openPosition (setup : Setup Number) (fill : Fill Number) (intendedQuantity : Number) :
    Operation Number (Option String) := do
  let known ← books
  match known.levelsByCid.get? fill.clientOrderId with
  | none => do
      note (.noLevels fill.fillId fill.clientOrderId)
      return none
  | some levels => do
      let difference ← compute (Arithmetic.sub levels.entryPrice levels.stopPrice)
      let stopD ← compute (LedgerArithmetic.abs difference)
      let degenerate ← compute (Arithmetic.le stopD Arithmetic.zero)
      if degenerate then do
        note (.degenerateStop fill.fillId fill.clientOrderId)
        return none
      else do
        let (t1Price, t2Price) ← compute (targets fill.side levels.entryPrice stopD)
        let created ← positions (PositionManager.createPosition setup.positionsId
          { symbol := fill.symbol
            side := fill.side
            intendedQuantity
            stopPrice := levels.stopPrice
            stopD, t1Price, t2Price
            conviction := none })
        let snapshot ← returnedSnapshot fill.clientOrderId created
        append fill.clientOrderId (.positionMapped fill.clientOrderId snapshot.positionId)
        return some snapshot.positionId

def entryPosition (setup : Setup Number) (fill : Fill Number) (intendedQuantity : Number) :
    Operation Number (Option String) := do
  let known ← books
  match known.positionByCid.get? fill.clientOrderId with
  | some positionId => return some positionId
  | none => openPosition setup fill intendedQuantity

def isDead (state : PositionManager.PositionLifecycleState) : Bool :=
  decide (PositionManager.Finished state)

/-- The margin of a fill is reserved and allocated, or the failure is noted. -/
def bookMargin (setup : Setup Number) (positionId : String) (fill : Fill Number) (margin : Number) :
    Operation Number Unit :=
  Process.tryCatch
    (do
      let _ ← portfolio (PortfolioManager.reserveMargin setup.portfolioId positionId margin fill.fillId)
      let _ ← portfolio (PortfolioManager.allocateMargin setup.portfolioId positionId margin fill.fillId)
      return ())
    fun error =>
      match error with
      | .portfolio refused =>
          if isPortfolioManagerError refused then note (.marginFailed fill.fillId positionId refused)
          else Process.raise error
      | error => Process.raise error

def bookEntryLedger (setup : Setup Number) (positionId : String) (fill : Fill Number) :
    Operation Number Unit := do
  let notional ← compute (Arithmetic.mul fill.quantity fill.price)
  let margin ← compute (Arithmetic.div notional setup.targetLeverage)
  bookMargin setup positionId fill margin
  let charged ← compute (Arithmetic.lt Arithmetic.zero fill.fee)
  if charged then do
    let _ ← portfolio (PortfolioManager.applyFee setup.portfolioId positionId fill.fillId fill.fee)
    return ()
  else return ()

def bookEntryInto (setup : Setup Number) (positionId : String) (fill : Fill Number) :
    Operation Number Unit := do
  let before ← positions (PositionManager.trackedPosition positionId)
  let entered ← positions (PositionManager.recordEntryFill setup.positionsId positionId fill)
  let snapshot ← returnedSnapshot positionId entered
  if isDead snapshot.lifecycleState then do
    let unchanged ← compute (LedgerArithmetic.eq snapshot.filledQuantity before.filledQuantity)
    if unchanged then return ()
    else note (.deadPosition fill.fillId positionId snapshot.lifecycleState)
  else bookEntryLedger setup positionId fill

def bookEntry (setup : Setup Number) (fill : Fill Number) (intendedQuantity : Number) :
    Operation Number Unit := do
  match ← entryPosition setup fill intendedQuantity with
  | none => return ()
  | some positionId => bookEntryInto setup positionId fill

def openingSide : OrderSide → OrderSide
  | .buy => .sell
  | .sell => .buy

def canClose (symbol : Symbol) (closingSide : OrderSide)
    (position : PositionManager.PositionSnapshot Number) : Except ArithmeticError Bool :=
  if position.symbol.value = symbol.value ∧ position.side = openingSide closingSide ∧
      isDead position.lifecycleState = false then
    Arithmetic.lt Arithmetic.zero position.remainingQuantity
  else .ok false

/-- `_find_open_position`, over the values of the map. -/
def findOpenPosition (symbol : Symbol) (closingSide : OrderSide)
    (snapshots : Dict String (PositionManager.PositionSnapshot Number)) :
    List String → Except ArithmeticError (Option String)
  | [] => .ok none
  | positionId :: rest =>
      match snapshots.get? positionId with
      | none => findOpenPosition symbol closingSide snapshots rest
      | some position =>
          match canClose symbol closingSide position with
          | .error error => .error error
          | .ok true => .ok (some positionId)
          | .ok false => findOpenPosition symbol closingSide snapshots rest

/-- The position of an exit order; `none` if the fill was skipped with a note. -/
def exitPosition (fill : Fill Number) : Operation Number (Option String) := do
  let world ← Process.get
  match world.books.positionByCid.get? fill.clientOrderId with
  | some positionId => return some positionId
  | none => do
      let found ← compute (findOpenPosition fill.symbol fill.side world.positions.snapshots
        (world.books.positionByCid.map Prod.snd))
      match found with
      | none => do
          note (.unattributed fill.fillId fill.symbol)
          return none
      | some positionId => do
          append fill.clientOrderId (.positionMapped fill.clientOrderId positionId)
          return some positionId

def directed (side : OrderSide) (number : Number) : Except ArithmeticError Number :=
  match side with
  | .buy => Arithmetic.mul (LedgerArithmetic.ofInt 1) number
  | .sell => Arithmetic.mul (LedgerArithmetic.ofInt (-1)) number

def exitPnl (side : OrderSide) (avgEntryPrice : Number) (fill : Fill Number) :
    Except ArithmeticError Number := do
  let difference ← Arithmetic.sub fill.price avgEntryPrice
  let perUnit ← directed side difference
  let gross ← Arithmetic.mul perUnit fill.quantity
  Arithmetic.sub gross fill.fee

def bookExitPnl (setup : Setup Number) (positionId : String)
    (position : PositionManager.PositionSnapshot Number) (fill : Fill Number) :
    Operation Number Unit :=
  match position.avgEntryPrice with
  | none => return ()
  | some avgEntryPrice => do
      let realized ← compute (exitPnl position.side avgEntryPrice fill)
      let _ ← portfolio (PortfolioManager.applyRealizedPnl setup.portfolioId positionId fill.fillId
        realized)
      return ()

def Books.closedQty (books : Books Number) (positionId : String) : Number :=
  (books.closedQtyByPid.get? positionId).getD Arithmetic.zero

def countExit (positionId : String) (fill : Fill Number) : Operation Number Unit := do
  let known ← books
  if fill.fillId ∈ known.countedExitFills then return ()
  else do
    let counted := { known with countedExitFills := known.countedExitFills ++ [fill.fillId] }
    setBooks counted
    let closed ← compute (Arithmetic.add (counted.closedQty positionId) fill.quantity)
    setBooks { counted with closedQtyByPid := counted.closedQtyByPid.set positionId closed }

def finishExit (setup : Setup Number) (positionId : String)
    (position : PositionManager.PositionSnapshot Number) (fill : Fill Number) :
    Operation Number Unit := do
  let counted ← books
  let closed := counted.closedQty positionId
  let partialClose ← compute (Arithmetic.lt closed position.filledQuantity)
  if partialClose then
    note (.partialClose fill.fillId fill.symbol closed position.filledQuantity positionId)
  else do
    let _ ← positions (PositionManager.recordExit setup.positionsId positionId fill .close
      (some "reduce_only_fill"))
    let _ ← portfolio (PortfolioManager.releaseMargin setup.portfolioId positionId
      ("close:" ++ positionId))
    return ()

def bookExitFrom (setup : Setup Number) (positionId : String) (fill : Fill Number) :
    Operation Number Unit := do
  let position ← positions (PositionManager.trackedPosition positionId)
  bookExitPnl setup positionId position fill
  countExit positionId fill
  if isDead position.lifecycleState then return ()
  else finishExit setup positionId position fill

def bookExit (setup : Setup Number) (fill : Fill Number) : Operation Number Unit := do
  match ← exitPosition fill with
  | none => return ()
  | some positionId => bookExitFrom setup positionId fill

def observeFill (setup : Setup Number) (fill : Fill Number) : Operation Number Bool :=
  Process.tryCatch
    (do
      let _ ← orders (OrderManager.reportFill setup.omId fill.clientOrderId fill)
      return true)
    fun error =>
      match error with
      | .orders (.orderNotFound _) => do
          note (.unknownOrder fill.fillId fill.clientOrderId)
          return false
      | error => Process.raise error

def bookOne (setup : Setup Number) (fill : Fill Number) : Operation Number Unit := do
  if ← observeFill setup fill then do
    let order ← orders (OrderManager.trackedOrder fill.clientOrderId)
    if order.reduceOnly then bookExit setup fill
    else bookEntry setup fill order.quantity
  else return ()

def turn (setup : Setup Number) (fill : Fill Number) : Operation Number Unit :=
  Process.tryCatch (bookOne setup fill) fun error =>
    if caught error then note (.failed fill.fillId fill.clientOrderId error)
    else Process.raise error

def turns (setup : Setup Number) : List (Fill Number) → Operation Number Unit
  | [] => return ()
  | fill :: rest => do
      turn setup fill
      turns setup rest

def sync (setup : Setup Number) (fetched : Except CallError (List (Fill Number))) :
    Operation Number (List (Note Number)) :=
  match fetched with
  | .error error => return [.fetchFailed error]
  | .ok fills => do
      Process.modify fun world => { world with notes := [] }
      turns setup fills
      let world ← Process.get
      return world.notes

structure Totals (Number : Type) where
  unrealizedPnl : Number
  exposure : Number
  openRisk : Number

def Totals.zero : Totals Number :=
  { unrealizedPnl := Arithmetic.zero, exposure := Arithmetic.zero, openRisk := Arithmetic.zero }

def Totals.addPosition (totals : Totals Number) (position : PositionManager.PositionSnapshot Number)
    (avgEntryPrice mark : Number) : Except ArithmeticError (Totals Number) := do
  let difference ← Arithmetic.sub mark avgEntryPrice
  let perUnit ← directed position.side difference
  let profit ← Arithmetic.mul perUnit position.remainingQuantity
  let unrealizedPnl ← Arithmetic.add totals.unrealizedPnl profit
  let held ← Arithmetic.mul position.remainingQuantity mark
  let exposure ← Arithmetic.add totals.exposure held
  let risk ← Arithmetic.mul position.remainingQuantity position.stopD
  let openRisk ← Arithmetic.add totals.openRisk risk
  return { unrealizedPnl, exposure, openRisk }

/-- The loop of `update_marks` over the ids of open positions. -/
def sumPositions (marks : Symbol → Except CallError Number) (totals : Totals Number) :
    List String → Operation Number (Totals Number)
  | [] => return totals
  | positionId :: rest => do
      let position ← positions (PositionManager.trackedPosition positionId)
      let empty ← compute (Arithmetic.le position.remainingQuantity Arithmetic.zero)
      match empty, position.avgEntryPrice with
      | false, some avgEntryPrice => do
          let mark ← Process.ofExcept ((marks position.symbol).mapError SyncError.call)
          let totals ← compute (totals.addPosition position avgEntryPrice mark)
          sumPositions marks totals rest
      | _, _ => sumPositions marks totals rest

def World.openPids (world : World Number) : List String :=
  (world.books.positionByCid.map Prod.snd).filter fun positionId =>
    positionId ∈ world.portfolio.openPositionIds

def unmarked (snapshot : PortfolioManager.PortfolioSnapshot Number) : Except ArithmeticError Bool := do
  if ← LedgerArithmetic.eq snapshot.exposure Arithmetic.zero then
    if ← LedgerArithmetic.eq snapshot.unrealizedPnl Arithmetic.zero then
      LedgerArithmetic.eq snapshot.heat Arithmetic.zero
    else return false
  else return false

/-- The sums that are handed to the portfolio, unless nothing is open or marked. -/
def markTotals (marks : Symbol → Except CallError Number) :
    Operation Number (Option (Totals Number)) := do
  let world ← Process.get
  let idle ←
    if world.openPids = [] then compute (unmarked world.portfolio.snapshot) else pure false
  if idle then return none
  else do
    let totals ← sumPositions marks Totals.zero world.openPids
    return some totals

def heatOf (equity openRisk : Number) : Except ArithmeticError Number := do
  if ← Arithmetic.lt Arithmetic.zero equity then Arithmetic.div openRisk equity
  else return Arithmetic.zero

def updateMarks (setup : Setup Number) (marks : Symbol → Except CallError Number) :
    Operation Number Unit := do
  match ← markTotals marks with
  | none => return ()
  | some totals => do
      let world ← Process.get
      let snapshot := world.portfolio.snapshot
      let equity ← compute snapshot.equity
      let heat ← compute (heatOf equity totals.openRisk)
      let updatedAtUtc := snapshot.updatedAtUtc.getD setup.portfolioSinceUtc
      let values := [totals.unrealizedPnl, totals.exposure, heat].map LedgerArithmetic.text
      let requestId := String.intercalate ":" (["marks", updatedAtUtc] ++ values)
      let _ ← portfolio (PortfolioManager.updateMarks setup.portfolioId totals.unrealizedPnl
        totals.exposure heat requestId)
      return ()

end

end

end TurtleExecution.AccountingSync

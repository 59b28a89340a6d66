/-
The portfolio manager: its ledgers, how one event changes them, and its operations.

`applyEvent` is the only way an event reaches memory, live and in a replay.  It
asserts Assets == Equity after it has changed the ledgers.
-/

import TurtleExecution.ExchangeAdapter.Models
import TurtleExecution.PortfolioManager.Keys
import TurtleExecution.SharedStore.Journal

set_option autoImplicit false

namespace TurtleExecution.PortfolioManager

open ExchangeAdapter SharedStore

structure PortfolioSnapshot (Number : Type) where
  availableCash : Number
  reservedMargin : Number
  usedMargin : Number
  unrealizedPnl : Number
  realizedPnlCumulative : Number
  fundingCumulative : Number
  feesCumulative : Number
  depositsCumulative : Number
  withdrawalsCumulative : Number
  exposure : Number
  heat : Number
  openPositionIds : List String
  updatedAtUtc : Option String

namespace PortfolioSnapshot

variable {Number : Type} [LedgerArithmetic Number]

def walletBalance (snapshot : PortfolioSnapshot Number) : Except ArithmeticError Number := do
  let kept ← Arithmetic.sub snapshot.depositsCumulative snapshot.withdrawalsCumulative
  let realized ← Arithmetic.add kept snapshot.realizedPnlCumulative
  let funded ← Arithmetic.add realized snapshot.fundingCumulative
  Arithmetic.sub funded snapshot.feesCumulative

def equity (snapshot : PortfolioSnapshot Number) : Except ArithmeticError Number := do
  let walletBalance ← snapshot.walletBalance
  Arithmetic.add walletBalance snapshot.unrealizedPnl

def assets (snapshot : PortfolioSnapshot Number) : Except ArithmeticError Number := do
  let margin ← Arithmetic.add snapshot.availableCash snapshot.reservedMargin
  let held ← Arithmetic.add margin snapshot.usedMargin
  Arithmetic.add held snapshot.unrealizedPnl

def liabilities (_ : PortfolioSnapshot Number) : Number := Arithmetic.zero

end PortfolioSnapshot

inductive Entry (Number : Type)
  | deposit (amount : Number)
  | withdraw (amount : Number)
  | reserveMargin (positionId : String) (amount : Number)
  | allocateMargin (positionId : String) (amount : Number)
  | releaseMargin (positionId : String)
  | realizedPnl (positionId legId : String) (amount : Number)
  | funding (positionId fundingId : String) (amount : Number)
  | fee (referenceId feeId : String) (amount : Number)
  | updateMarks (unrealizedPnl exposure heat : Number)
  | other (action : String)

def Entry.Known {Number : Type} : Entry Number → Prop
  | .other _ => False
  | _ => True

structure Payload (Number : Type) where
  pmId : String
  entry : Entry Number

inductive PortfolioManagerError
  | model (error : ModelError)
  | insufficientFunds (message : String)
  | insufficientMargin (message : String)
  | accountingInvariant (message : String)
  | replayIntegrity (eventId : Nat) (action : String)
  | store (failure : StoreFailure)
  | notOwnEvent
  deriving DecidableEq, Repr

/-- The time of the last applied event stands for `_updated_at_utc`, which is the
time of construction before there is one. -/
structure Memory (Number : Type) where
  availableCash : Number
  reservedMargin : Number
  usedMargin : Number
  unrealizedPnl : Number
  realizedPnlCumulative : Number
  fundingCumulative : Number
  feesCumulative : Number
  depositsCumulative : Number
  withdrawalsCumulative : Number
  exposure : Number
  heat : Number
  openPositionIds : List String
  reservedByPosition : Dict String Number
  usedByPosition : Dict String Number
  releasedPositions : List String
  appliedEventIds : List Nat
  updatedAtUtc : Option String

section

variable {Number Stored : Type} [LedgerArithmetic Number]

def Memory.initial : Memory Number :=
  { availableCash := Arithmetic.zero
    reservedMargin := Arithmetic.zero
    usedMargin := Arithmetic.zero
    unrealizedPnl := Arithmetic.zero
    realizedPnlCumulative := Arithmetic.zero
    fundingCumulative := Arithmetic.zero
    feesCumulative := Arithmetic.zero
    depositsCumulative := Arithmetic.zero
    withdrawalsCumulative := Arithmetic.zero
    exposure := Arithmetic.zero
    heat := Arithmetic.zero
    openPositionIds := []
    reservedByPosition := []
    usedByPosition := []
    releasedPositions := []
    appliedEventIds := []
    updatedAtUtc := none }

def Memory.snapshot (memory : Memory Number) : PortfolioSnapshot Number :=
  { availableCash := memory.availableCash
    reservedMargin := memory.reservedMargin
    usedMargin := memory.usedMargin
    unrealizedPnl := memory.unrealizedPnl
    realizedPnlCumulative := memory.realizedPnlCumulative
    fundingCumulative := memory.fundingCumulative
    feesCumulative := memory.feesCumulative
    depositsCumulative := memory.depositsCumulative
    withdrawalsCumulative := memory.withdrawalsCumulative
    exposure := memory.exposure
    heat := memory.heat
    openPositionIds := memory.openPositionIds.mergeSort fun left right => left ≤ right
    updatedAtUtc := memory.updatedAtUtc }

/-- `_reserved_by_position.get(position_id, 0)`. -/
def Memory.reservedFor (memory : Memory Number) (positionId : String) : Number :=
  (memory.reservedByPosition.get? positionId).getD Arithmetic.zero

def Memory.usedFor (memory : Memory Number) (positionId : String) : Number :=
  (memory.usedByPosition.get? positionId).getD Arithmetic.zero

inductive Account
  | availableCash
  | reservedMargin
  | usedMargin
  | realizedPnl
  | funding
  | fees
  | deposits
  | withdrawals
  | reservedFor (positionId : String)
  | usedFor (positionId : String)
  deriving DecidableEq

def Memory.balance (memory : Memory Number) : Account → Number
  | .availableCash => memory.availableCash
  | .reservedMargin => memory.reservedMargin
  | .usedMargin => memory.usedMargin
  | .realizedPnl => memory.realizedPnlCumulative
  | .funding => memory.fundingCumulative
  | .fees => memory.feesCumulative
  | .deposits => memory.depositsCumulative
  | .withdrawals => memory.withdrawalsCumulative
  | .reservedFor positionId => memory.reservedFor positionId
  | .usedFor positionId => memory.usedFor positionId

def Memory.setBalance (memory : Memory Number) (number : Number) : Account → Memory Number
  | .availableCash => { memory with availableCash := number }
  | .reservedMargin => { memory with reservedMargin := number }
  | .usedMargin => { memory with usedMargin := number }
  | .realizedPnl => { memory with realizedPnlCumulative := number }
  | .funding => { memory with fundingCumulative := number }
  | .fees => { memory with feesCumulative := number }
  | .deposits => { memory with depositsCumulative := number }
  | .withdrawals => { memory with withdrawalsCumulative := number }
  | .reservedFor positionId =>
      { memory with reservedByPosition := memory.reservedByPosition.set positionId number }
  | .usedFor positionId =>
      { memory with usedByPosition := memory.usedByPosition.set positionId number }

abbrev Update (Number Value : Type) := Process (Memory Number) PortfolioManagerError Value

def ofArithmetic {Value : Type} (result : Except ArithmeticError Value) : Update Number Value :=
  Process.ofExcept (result.mapError fun error => .model (.arithmetic error))

def credit (account : Account) (amount : Number) : Update Number Unit := do
  let memory ← Process.get
  let balance ← ofArithmetic (Arithmetic.add (memory.balance account) amount)
  Process.modify fun memory => memory.setBalance balance account

def debit (account : Account) (amount : Number) : Update Number Unit := do
  let memory ← Process.get
  let balance ← ofArithmetic (Arithmetic.sub (memory.balance account) amount)
  Process.modify fun memory => memory.setBalance balance account

def addToSet (known : List String) (item : String) : List String :=
  if item ∈ known then known else known ++ [item]

def releaseEntry (positionId : String) : Update Number Unit := do
  let memory ← Process.get
  let reserved := memory.reservedFor positionId
  let used := memory.usedFor positionId
  Process.modify fun memory =>
    { memory with
      reservedByPosition := memory.reservedByPosition.erase positionId
      usedByPosition := memory.usedByPosition.erase positionId }
  debit .reservedMargin reserved
  debit .usedMargin used
  let freed ← ofArithmetic (Arithmetic.add reserved used)
  credit .availableCash freed
  Process.modify fun memory =>
    { memory with
      releasedPositions := addToSet memory.releasedPositions positionId
      openPositionIds := memory.openPositionIds.filter fun known => known ≠ positionId }

def applyEntry (eventId : Nat) : Entry Number → Update Number Unit
  | .deposit amount => do
      credit .availableCash amount
      credit .deposits amount
  | .withdraw amount => do
      debit .availableCash amount
      credit .withdrawals amount
  | .reserveMargin positionId amount => do
      debit .availableCash amount
      credit .reservedMargin amount
      credit (.reservedFor positionId) amount
  | .allocateMargin positionId amount => do
      debit .reservedMargin amount
      credit .usedMargin amount
      debit (.reservedFor positionId) amount
      credit (.usedFor positionId) amount
      Process.modify fun memory =>
        { memory with openPositionIds := addToSet memory.openPositionIds positionId }
  | .releaseMargin positionId => releaseEntry positionId
  | .realizedPnl _ _ amount => do
      credit .availableCash amount
      credit .realizedPnl amount
  | .funding _ _ amount => do
      credit .availableCash amount
      credit .funding amount
  | .fee _ _ amount => do
      debit .availableCash amount
      credit .fees amount
  | .updateMarks unrealizedPnl exposure heat =>
      Process.modify fun memory => { memory with unrealizedPnl, exposure, heat }
  | .other action => Process.raise (.replayIntegrity eventId action)

def assertInvariant (snapshot : PortfolioSnapshot Number) : Update Number Unit := do
  let assets ← ofArithmetic snapshot.assets
  let equity ← ofArithmetic snapshot.equity
  let claims ← ofArithmetic (Arithmetic.add snapshot.liabilities equity)
  let balanced ← ofArithmetic (LedgerArithmetic.eq assets claims)
  if balanced then return ()
  else
    Process.raise (.accountingInvariant
      s!"Assets ({LedgerArithmetic.text assets}) != Liabilities ({LedgerArithmetic.text snapshot.liabilities}) + Equity ({LedgerArithmetic.text equity}) -- accounting invariant violated")

/-- The part of `_apply_event` behind the check of the event's id. -/
def applyNew (event : Event Stored) (payload : Payload Number) :
    Update Number (PortfolioSnapshot Number) := do
  Process.modify fun memory =>
    { memory with appliedEventIds := memory.appliedEventIds ++ [event.eventId] }
  applyEntry event.eventId payload.entry
  Process.modify fun memory => { memory with updatedAtUtc := some event.timestampUtc }
  let memory ← Process.get
  assertInvariant memory.snapshot
  return memory.snapshot

/-- `_apply_event`, which may raise after it has changed memory. -/
def Memory.applyEvent (memory : Memory Number) (event : Event Stored) (payload : Payload Number) :
    Except PortfolioManagerError (PortfolioSnapshot Number) × Memory Number :=
  if event.eventId ∈ memory.appliedEventIds then (.ok memory.snapshot, memory)
  else
    match applyNew event payload memory with
    | (.returned snapshot, memory) => (.ok snapshot, memory)
    | (.raised error, memory) => (.error error, memory)
    | (.crashed, memory) => (.error .notOwnEvent, memory)

variable [Source Stored (Payload Number)]

def journal (pmId : String) : Journal Stored (Payload Number) (Memory Number) PortfolioManagerError
    (PortfolioSnapshot Number) :=
  { wrap := Source.wrap
    payload? := Source.own?
    mine := fun payload => payload.pmId = pmId
    eventType := fun _ => .positionUpdated
    namespacedKey := namespacedKey pmId
    apply := Memory.applyEvent
    storeError := .store
    notOwn := .notOwnEvent }

def maxPmIdLength : Nat := 60

def construct (pmId : String) (log : Log Stored) : Except PortfolioManagerError (Memory Number) :=
  if PyText.isBlank pmId then .error (.model (.valueError "pm_id must be a non-empty string"))
  else if maxPmIdLength < pmId.length then
    .error (.model (.valueError s!"pm_id exceeds {maxPmIdLength} characters"))
  else (journal pmId).replay Memory.initial log.entries

abbrev Operation (Stored Number Value : Type) :=
  Process (Host Stored (Memory Number)) PortfolioManagerError Value

def ofModel {Value : Type} (result : Except ModelError Value) : Operation Stored Number Value :=
  Process.ofExcept (result.mapError PortfolioManagerError.model)

def refuseAbove (amount limit : Number) (error : PortfolioManagerError) :
    Except PortfolioManagerError Unit :=
  match Arithmetic.lt limit amount with
  | .error error => .error (.model (.arithmetic error))
  | .ok true => .error error
  | .ok false => .ok ()

/-- A mutation behind the check for a repeated request: the memory may refuse it. -/
def mutate (pmId : String) (key : MutationKey) (entry : Entry Number)
    (allow : Memory Number → Except PortfolioManagerError Unit) :
    Operation Stored Number (PortfolioSnapshot Number) := do
  match ← (journal pmId).cached key.text with
  | some snapshot => return snapshot
  | none => do
      let host ← Process.get
      Process.ofExcept (allow host.memory)
      (journal pmId).record { pmId, entry } key.text

def deposit (pmId : String) (amount : Number) (requestId : String) :
    Operation Stored Number (PortfolioSnapshot Number) := do
  ofModel (requirePositive "amount must be positive" amount)
  mutate pmId (.deposit requestId) (.deposit amount) fun _ => .ok ()

def withdraw (pmId : String) (amount : Number) (requestId : String) :
    Operation Stored Number (PortfolioSnapshot Number) := do
  ofModel (requirePositive "amount must be positive" amount)
  mutate pmId (.withdraw requestId) (.withdraw amount) fun memory =>
    refuseAbove amount memory.availableCash (.insufficientFunds
      s!"withdrawal of {LedgerArithmetic.text amount} exceeds available cash {LedgerArithmetic.text memory.availableCash}")

def reserveMargin (pmId positionId : String) (amount : Number) (requestId : String) :
    Operation Stored Number (PortfolioSnapshot Number) := do
  ofModel (requirePositive "amount must be positive" amount)
  mutate pmId (.reserveMargin positionId requestId) (.reserveMargin positionId amount) fun memory =>
    refuseAbove amount memory.availableCash (.insufficientFunds
      s!"cannot reserve {LedgerArithmetic.text amount} margin; available cash is {LedgerArithmetic.text memory.availableCash}")

def allocateMargin (pmId positionId : String) (amount : Number) (requestId : String) :
    Operation Stored Number (PortfolioSnapshot Number) := do
  ofModel (requirePositive "amount must be positive" amount)
  mutate pmId (.allocateMargin positionId requestId) (.allocateMargin positionId amount) fun memory =>
    refuseAbove amount (memory.reservedFor positionId) (.insufficientMargin
      s!"cannot allocate {LedgerArithmetic.text amount} for {positionId}; only {LedgerArithmetic.text (memory.reservedFor positionId)} reserved")

def releaseMargin (pmId positionId requestId : String) :
    Operation Stored Number (PortfolioSnapshot Number) := do
  let host ← Process.get
  if positionId ∈ host.memory.releasedPositions then return host.memory.snapshot
  else mutate pmId (.releaseMargin positionId requestId) (.releaseMargin positionId) fun _ => .ok ()

def applyRealizedPnl (pmId positionId legId : String) (amount : Number) :
    Operation Stored Number (PortfolioSnapshot Number) :=
  mutate pmId (.realizedPnl positionId legId) (.realizedPnl positionId legId amount) fun _ => .ok ()

def applyFunding (pmId positionId fundingId : String) (amount : Number) :
    Operation Stored Number (PortfolioSnapshot Number) :=
  mutate pmId (.funding positionId fundingId) (.funding positionId fundingId amount) fun _ => .ok ()

def applyFee (pmId referenceId feeId : String) (amount : Number) :
    Operation Stored Number (PortfolioSnapshot Number) := do
  let negative ← ofModel ((Arithmetic.lt amount Arithmetic.zero).mapError ModelError.arithmetic)
  if negative then
    Process.raise (.model (.valueError "fee amount must be non-negative"))
  else
    mutate pmId (.fee referenceId feeId) (.fee referenceId feeId amount) fun _ => .ok ()

def updateMarks (pmId : String) (unrealizedPnl exposure heat : Number) (requestId : String) :
    Operation Stored Number (PortfolioSnapshot Number) :=
  mutate pmId (.updateMarks requestId) (.updateMarks unrealizedPnl exposure heat) fun _ => .ok ()

end

end TurtleExecution.PortfolioManager

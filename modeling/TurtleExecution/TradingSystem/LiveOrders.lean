/-
Live orders of an engine on the order manager, over all runs of its cycles.

A placement that was handed to the venue counts as live until the venue has ended it:
what the engine knows of it, or whether the call returned, makes no difference.
-/

import TurtleExecution.OrderManager.Frames
import TurtleExecution.TradingSystem.FundingAge
import TurtleExecution.TradingSystem.OpenOrders

set_option autoImplicit false

namespace TurtleExecution.TradingSystem

open ExchangeAdapter SharedStore Process

/-- An order manager, the venue's ends of the orders that it was handed, and the rest of
an engine.  An order is known by its place among the requests. -/
structure Desk (Stored Rest : Type) where
  orders : OrderManager.World Stored ℚ
  ended : List Nat
  rest : Rest

def placeKey : OrderManager.Request ℚ → Option OrderKey
  | .place request => some (request.symbol.value, request.reduceOnly)
  | _ => none

section

variable {Stored Rest : Type}

def keysFrom (ended : List Nat) (place : Nat) : List (OrderManager.Handed Stored ℚ) → List OrderKey
  | [] => []
  | handed :: rest =>
      (if place ∈ ended then [] else (placeKey handed.request).toList) ++ keysFrom ended (place + 1) rest

def liveKeys (desk : Desk Stored Rest) : List OrderKey := keysFrom desk.ended 0 desk.orders.handed

def onOrders {Value : Type} (operation : OrderManager.Operation Stored ℚ Value) :
    Process (Desk Stored Rest) CycleError Value :=
  Process.focus Desk.orders (fun orders desk => { desk with orders })
    (fun _ => CycleError.other "order manager") operation

def placeOn [OrderManager.Sources Stored ℚ] (omId : String)
    (arguments : OrderManager.PlaceArguments ℚ) : Process (Desk Stored Rest) CycleError String := do
  let snapshot ← onOrders (OrderManager.placeOrder omId arguments)
  match snapshot with
  | some snapshot => return snapshot.clientOrderId
  | none => Process.raise (.other "AttributeError: 'NoneType' object has no attribute")

private theorem keysFrom_append (ended : List Nat) (place : Nat)
    (handed more : List (OrderManager.Handed Stored ℚ)) :
    keysFrom ended place (handed ++ more) =
      keysFrom ended place handed ++ keysFrom ended (place + handed.length) more := by
  induction handed generalizing place with
  | nil => rfl
  | cons first rest ih =>
      rw [List.cons_append, keysFrom, keysFrom, ih, List.append_assoc, List.length_cons,
        Nat.add_assoc, Nat.add_comm 1]

private theorem liveKeys_onOrders {Value : Type} (operation : OrderManager.Operation Stored ℚ Value)
    (desk : Desk Stored Rest) :
    liveKeys (onOrders operation desk).2 =
      keysFrom desk.ended 0 (operation desk.orders).2.handed := by
  rw [onOrders, focus_state]
  rfl

private theorem within_placeOn [OrderManager.Sources Stored ℚ] (omId : String)
    (arguments : OrderManager.PlaceArguments ℚ) (keys : List OrderKey) (desk : Desk Stored Rest)
    (within : Within liveKeys keys desk) :
    Within liveKeys (keys ++ [keyOf arguments]) (placeOn omId arguments desk).2 := by
  refine ends_always_iff.mp ?_
  have placed : Within liveKeys (keys ++ [keyOf arguments])
      (onOrders (OrderManager.placeOrder omId arguments) desk).2 := by
    unfold Within
    rw [liveKeys_onOrders]
    rcases OrderManager.handsOnce_placeOrder omId arguments desk.orders with
      same | ⟨handed, grown, isPlacement⟩
    · rw [same]
      exact within.trans (List.sublist_append_left _ _)
    · rw [grown, keysFrom_append]
      refine List.Sublist.append within ?_
      rw [keysFrom, keysFrom, List.append_nil]
      split
      · exact List.nil_sublist _
      · obtain ⟨request, log⟩ := handed
        cases request with
        | place request =>
            obtain ⟨symbol, reduceOnly⟩ := isPlacement
            rw [placeKey, keyOf, symbol, reduceOnly]
            exact List.Sublist.refl _
        | amend request => exact isPlacement.elim
        | cancel request => exact isPlacement.elim
        | cancelAll request => exact isPlacement.elim
  refine ends_bind _ (ends_always_iff.mpr placed) fun snapshot after kept => ?_
  cases snapshot with
  | none => exact kept
  | some snapshot => exact kept

variable [OrderManager.Sources Stored ℚ]

def onDesk (omId : String) (engine : Engine (Desk Stored Rest)) : Engine (Desk Stored Rest) :=
  { engine with placeOrder := placeOn omId }

private theorem onDesk_guards (omId : String) {engine : Engine (Desk Stored Rest)}
    (lists : engine.Lists liveKeys) : (onDesk omId engine).Guards liveKeys :=
  { prepares := fun keys =>
      { start := (lists.prepares keys).start
        synchronize := (lists.prepares keys).synchronize
        reconcile := (lists.prepares keys).reconcile
        clock := (lists.prepares keys).clock
        getOrders := (lists.prepares keys).getOrders
        strategies := (lists.prepares keys).strategies }
    marketData := lists.marketData
    onExecution := lists.onExecution
    lists := lists.lists
    placeOrder := within_placeOn omId }

/-- A cycle, or anything else that places no order: the venue fills and cancels, the
engine cancels or resyncs, a process ends and another replays the log. -/
inductive DeskStep (Stored Rest : Type) [OrderManager.Sources Stored ℚ]
  | cycle (engine : Engine (Desk Stored Rest)) (lists : engine.Lists liveKeys)
      («universe» : List Symbol) (inputs : ConstructionInputs)
  | other (part : Process (Desk Stored Rest) CycleError Unit) (addsNone : AddsNone liveKeys part)

def Desk.step (omId : String) (desk : Desk Stored Rest) : DeskStep Stored Rest → Desk Stored Rest
  | .cycle engine _ «universe» inputs => (runCycle (onDesk omId engine) «universe» inputs desk).2
  | .other part _ => (part desk).2

def Desk.run (omId : String) (desk : Desk Stored Rest) (steps : List (DeskStep Stored Rest)) :
    Desk Stored Rest :=
  steps.foldl (Desk.step omId) desk

private theorem distinct_step (omId : String) {desk : Desk Stored Rest}
    (distinct : Distinct liveKeys desk)
    (step : DeskStep Stored Rest) : Distinct liveKeys (desk.step omId step) := by
  cases step with
  | cycle engine lists «universe» inputs =>
      exact nodup_runCycle (onDesk_guards omId lists) «universe» inputs desk distinct
  | other part addsNone =>
      exact (addsNone (liveKeys desk) desk (List.Sublist.refl _)).nodup distinct

/-- After every run a symbol has at most one live order of each direction class.  A
cycle may crash at each of its effects, so this covers every moment of a cycle. -/
theorem run_oneLivePerKey (omId : String) {desk : Desk Stored Rest}
    (distinct : Distinct liveKeys desk) (steps : List (DeskStep Stored Rest)) (key : OrderKey) :
    (liveKeys (desk.run omId steps)).count key ≤ 1 := by
  have final : Distinct liveKeys (desk.run omId steps) := by
    induction steps generalizing desk with
    | nil => exact distinct
    | cons step steps ih => exact ih (distinct_step omId distinct step)
  exact List.nodup_iff_count_le_one.mp final key

end

def shownOrder : OrderManager.Request ℚ → Option (Order ℚ)
  | .place request => some
      { clientOrderId := request.clientOrderId
        exchangeOrderId := none
        symbol := request.symbol
        side := request.side
        orderType := request.orderType
        quantity := request.quantity
        filledQuantity := 0
        limitPrice := request.limitPrice
        status := .acknowledged
        timeInForce := request.timeInForce
        reduceOnly := request.reduceOnly
        createdAtUtc := ""
        updatedAtUtc := "" }
  | _ => none

def shownFrom {Stored : Type} (ended : List Nat) (place : Nat) :
    List (OrderManager.Handed Stored ℚ) → List (Order ℚ)
  | [] => []
  | handed :: rest =>
      (if place ∈ ended then [] else (shownOrder handed.request).toList) ++
        shownFrom ended (place + 1) rest

private theorem liveOrderKeys_append (orders more : List (Order ℚ)) :
    liveOrderKeys (orders ++ more) = liveOrderKeys orders ++ liveOrderKeys more := by
  simp [liveOrderKeys]

private theorem liveOrderKeys_shownFrom {Stored : Type} (ended : List Nat) (place : Nat)
    (handed : List (OrderManager.Handed Stored ℚ)) :
    liveOrderKeys (shownFrom ended place handed) = keysFrom ended place handed := by
  induction handed generalizing place with
  | nil => rfl
  | cons first rest ih =>
      rw [shownFrom, keysFrom, liveOrderKeys_append, ih]
      congr 1
      split
      · rfl
      · cases first.request <;> rfl

def deskEngine (Stored : Type) : Engine (Desk Stored Unit) :=
  { idleEngine _ with
    marketData :=
      { getMarkPrice := fun _ => raise (.other "no market data")
        getFundingRate := fun symbol => pure
          { symbol
            rate := 0
            nextFundingTimeUtc := ""
            timestampUtc := UtcTexts.marks.isoformat 0 } }
    getOrders := fun desk => (.returned (shownFrom desk.ended 0 desk.orders.handed), desk)
    strategies := [fun _ => pure [entryIntent]] }

private theorem deskEngine_lists (Stored : Type) : (deskEngine Stored).Lists liveKeys :=
  { prepares := fun keys =>
      { start := keeps_pure _ ()
        synchronize := keeps_pure _ ()
        reconcile := keeps_pure _ ()
        clock := keeps_pure _ _
        getOrders := fun _ within => within
        strategies := by
          intro strategy member context
          rw [List.mem_singleton.mp member]
          exact keeps_pure _ [entryIntent] }
    marketData := fun keys =>
      { getMarkPrice := fun _ => keeps_raise _ _
        getFundingRate := fun _ => keeps_pure _ _ }
    onExecution := fun _ _ => keeps_pure _ ()
    lists := by
      intro desk orders after listed key isLive
      cases listed
      rw [liveOrderKeys_shownFrom]
      exact isLive }

abbrev DeskStored := ExecutionStateMachine.Payload ⊕ OrderManager.Payload ℚ

def freshDesk : Desk DeskStored Unit :=
  { orders :=
      { log := Ledger.empty
        machine := { machineId := "default", currentState := .ready }
        memory := OrderManager.Memory.initial
        handed := []
        environment := fun _ =>
          { crash := false
            now := "t"
            appendFailure := none
            order := .error (.exchangeAdapter "timed out")
            orders := .ok []
            found := .ok none }
        clock := 0 }
    ended := []
    rest := () }

def entryCycles : List (DeskStep DeskStored Unit) :=
  [.cycle (deskEngine DeskStored) (deskEngine_lists DeskStored) [btc] entryInputs,
    .cycle (deskEngine DeskStored) (deskEngine_lists DeskStored) [btc] entryInputs]

/-- The first placement times out, and the second cycle places none on top of it. -/
theorem run_oneLivePerKey_entryCycles :
    (liveKeys (freshDesk.run "om" entryCycles)).count ("BTC", false) ≤ 1 :=
  run_oneLivePerKey "om" (show Distinct liveKeys freshDesk from List.nodup_nil) entryCycles
    ("BTC", false)

example : liveKeys (freshDesk.run "om" entryCycles) = [("BTC", false)] := by decide +kernel

end TurtleExecution.TradingSystem

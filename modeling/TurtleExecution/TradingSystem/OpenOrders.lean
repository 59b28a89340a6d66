/-
The guard on open orders.

What is live in a state is a list of keys.  A part of an engine may end live orders but
not add any; only a placement adds one, with the key of its request.  The keys of a
cycle's placements are then new and distinct, and the live keys stay distinct.
-/

import TurtleExecution.TradingSystem.Kept
import TurtleExecution.TradingSystem.Selection

set_option autoImplicit false

namespace TurtleExecution.TradingSystem

open ExchangeAdapter RiskManager Process

section

variable {State : Type} (live : State → List OrderKey)

def Within (keys : List OrderKey) (state : State) : Prop := (live state).Sublist keys

def Distinct (state : State) : Prop := (live state).Nodup

def AddsNone {Error Value : Type} (part : Process State Error Value) : Prop :=
  ∀ keys, Process.Keeps (Within live keys) part

def keyOf (arguments : OrderManager.PlaceArguments ℚ) : OrderKey :=
  (arguments.symbol.value, arguments.reduceOnly)

def tradeKey (tradeRequest : TradeRequest ℚ) : OrderKey :=
  (tradeRequest.symbol.value, tradeRequest.reduceOnly)

/-- The parts of an engine beside its placements add no live order, and the venue lists
every live order. -/
structure Engine.Lists (engine : Engine State) : Prop where
  prepares : ∀ keys, engine.PreparesKeeping (Within live keys)
  marketData : ∀ keys, engine.marketData.Keeps (Within live keys)
  onExecution : ∀ execution, AddsNone live (engine.onExecution execution)
  lists : ∀ state orders after, engine.getOrders state = (.returned orders, after) →
    ∀ key ∈ live after, key ∈ liveOrderKeys orders

/-- A placement adds at most one live order, with the key of its request. -/
structure Engine.Guards (engine : Engine State) : Prop extends engine.Lists live where
  placeOrder : ∀ arguments keys state, Within live keys state →
    Within live (keys ++ [keyOf arguments]) (engine.placeOrder arguments state).2

variable {live} {engine : Engine State}

variable {cycle : PreparedCycle} {state : State}

variable {keys : List OrderKey}

theorem Within.nodup (within : Within live keys state) (distinct : keys.Nodup) :
    Distinct live state :=
  List.Sublist.nodup within distinct

private theorem prepare_knows (guards : engine.Guards live) {«universe» : List Symbol}
    {before start : State} (prepared : prepare engine «universe» before = (.returned cycle, start)) :
    ∀ key ∈ live start, key ∈ cycle.liveKeys := by
  obtain ⟨opened, between, _, prepared⟩ := returned_bind prepared
  obtain ⟨intents, collected, _, prepared⟩ := returned_bind prepared
  obtain ⟨orders, listed, read, prepared⟩ := returned_bind prepared
  cases prepared
  exact guards.lists collected orders start (returned_withError read)

private theorem within_executePlace (guards : engine.Guards live) (tradeRequest : TradeRequest ℚ)
    (within : Within live keys state) :
    Within live (keys ++ [tradeKey tradeRequest]) (executePlace engine tradeRequest state).2 := by
  refine ends_always_iff.mp ?_
  have unplaced : Within live (keys ++ [tradeKey tradeRequest]) state :=
    within.trans (List.sublist_append_left _ _)
  unfold executePlace
  cases engine.quantize tradeRequest with
  | error error => exact unplaced
  | ok quantized =>
      refine ends_bind_of_returned (rfl : ofExcept (.ok quantized) state = _) ?_
      refine ends_bind _ (ends_always_iff.mpr (guards.placeOrder _ keys state within)) ?_
      exact fun clientOrderId after placed => placed

private theorem within_executeAll (guards : engine.Guards live)
    {tradeRequests : List (TradeRequest ℚ)}
    (within : Within live keys state) :
    Within live (keys ++ tradeRequests.map tradeKey) (executeAll engine tradeRequests state).2 := by
  induction tradeRequests generalizing keys state with
  | nil =>
      rw [List.map_nil, List.append_nil]
      exact within
  | cons tradeRequest tradeRequests ih =>
      rw [List.map_cons, ← List.singleton_append, ← List.append_assoc]
      have wider : ∀ after, Within live (keys ++ [tradeKey tradeRequest]) after →
          Within live (keys ++ [tradeKey tradeRequest] ++ tradeRequests.map tradeKey) after :=
        fun after inside => inside.trans (List.sublist_append_left _ _)
      refine ends_always_iff.mp ?_
      refine ends_bind (fun _ after => Within live (keys ++ [tradeKey tradeRequest]) after)
        ((ends_always_iff.mpr (within_executePlace guards tradeRequest within)).mono
          (fun _ _ placed => placed) (fun _ => wider) wider) fun execution after placed => ?_
      refine ends_bind (fun _ after => Within live (keys ++ [tradeKey tradeRequest]) after)
        ((ends_always_iff.mpr (guards.onExecution execution _ after placed)).mono
          (fun _ _ noted => noted) (fun _ => wider) wider) fun _ last noted => ?_
      refine ends_bind _ (ends_always_iff.mpr (ih noted)) ?_
      exact fun executions final inside => inside

private theorem tradeKey_injOn {first second : TradeRequest ℚ}
    (same : tradeKey first = tradeKey second) :
    first.symbol = second.symbol := by
  have value := congrArg Prod.fst same
  obtain ⟨⟨_, _⟩, _⟩ := first
  obtain ⟨⟨_, _⟩, _⟩ := second
  cases value
  rfl

private theorem approved_fresh {marketData : MarketDataView State} {context : StrategyContext}
    {inputs : ConstructionInputs} {result : ConstructionResult} {state after : State}
    (ran : constructTradeRequests marketData context inputs cycle.tradable state =
      (.returned result, after)) :
    (result.approved.map tradeKey).Nodup ∧
      ∀ key ∈ result.approved.map tradeKey, key ∉ cycle.liveKeys := by
  obtain ⟨symbols, given⟩ := constructTradeRequests_keys ran
  constructor
  · rw [List.nodup_map_iff_inj_on (List.Nodup.of_map _ symbols)]
    intro first isFirst second isSecond same
    exact List.inj_on_of_nodup_map symbols isFirst isSecond (tradeKey_injOn same)
  · rintro key member isLive
    obtain ⟨tradeRequest, isApproved, rfl⟩ := List.mem_map.mp member
    obtain ⟨object, tradable, sameKey⟩ := given tradeRequest isApproved
    have notLive := (List.mem_filter.mp tradable).2
    rw [decide_eq_true_eq] at notLive
    apply notLive
    have isKey : object.key = tradeKey tradeRequest := by
      rw [requestKey, IntentObject.sizedKey, Prod.mk.injEq] at sameKey
      rw [IntentObject.key, tradeKey, sameKey.1, sameKey.2]
    rw [isKey]
    exact isLive

private theorem nodup_tradeOn (guards : engine.Guards live) {inputs : ConstructionInputs}
    {start : State}
    (distinct : Distinct live start) (knows : ∀ key ∈ live start, key ∈ cycle.liveKeys) :
    Distinct live (tradeOn engine inputs cycle start).2 := by
  have within : Within live (live start) start := List.Sublist.refl _
  have constructed := keeps_constructTradeRequests (guards.marketData (live start)) cycle.context
    inputs cycle.tradable start within
  refine ends_always_iff.mp ?_
  refine ends_bind _ ((ends_always_returning constructed).mono (fun _ _ both => both)
    (fun _ _ inside => inside.nodup distinct) fun _ inside => inside.nodup distinct) ?_
  rintro construction after ⟨ran, inside⟩
  obtain ⟨placedDistinct, fresh⟩ := approved_fresh ran
  have allDistinct : (live start ++ construction.approved.map tradeKey).Nodup := by
    refine List.nodup_append.mpr ⟨distinct, placedDistinct, ?_⟩
    rintro key isLive placed isPlaced rfl
    exact fresh key isPlaced (knows key isLive)
  have executed : Within live (live start ++ construction.approved.map tradeKey)
      (executeAll engine construction.approved after).2 := within_executeAll guards inside
  refine ends_bind _ (ends_always_iff.mpr (executed.nodup allDistinct)) ?_
  exact fun executions last kept => kept

theorem nodup_runCycle (guards : engine.Guards live) («universe» : List Symbol)
    (inputs : ConstructionInputs) :
    Process.Keeps (Distinct live) (runCycle engine «universe» inputs) := by
  intro state distinct
  have prepared := keeps_prepare (guards.prepares (live state)) «universe» state
    (List.Sublist.refl _)
  refine ends_always_iff.mp ?_
  refine ends_bind _ ((ends_always_returning prepared).mono (fun _ _ both => both)
    (fun _ _ inside => inside.nodup distinct) fun _ inside => inside.nodup distinct) ?_
  rintro cycle start ⟨ran, inside⟩
  exact ends_always_iff.mpr (nodup_tradeOn guards (inside.nodup distinct) (prepare_knows guards ran))

end

end TurtleExecution.TradingSystem

/-
Reconciliation of the locally open positions with the positions at the venue.

The engine builds one local position for every open position id; the adapter
indexes them by symbol and compares quantities.  A dictionary comprehension keeps
the last position of a symbol, so what the report says about a symbol is a fact
about the last local position on it.
-/

import Mathlib.Algebra.BigOperators.Group.List.Basic
import Mathlib.Data.List.Dedup
import TurtleExecution.PortfolioManager.Manager
import TurtleExecution.PositionManager.Manager

set_option autoImplicit false

namespace TurtleExecution.Orchestration

open ExchangeAdapter PositionManager

structure Discrepancy where
  symbolValue : String
  localQty : ℚ
  exchQty : ℚ
  deriving DecidableEq

def Discrepancy.text (decimalText : ℚ → String) (discrepancy : Discrepancy) : String :=
  s!"{discrepancy.symbolValue}: local={decimalText discrepancy.localQty} exchange={decimalText discrepancy.exchQty}"

structure ReconciliationReport where
  «matches» : Bool
  localPositions : List (Position ℚ)
  exchangePositions : List (Position ℚ)
  discrepancies : List Discrepancy
  checkedAtUtc : String

/-- The order in which a set of texts is iterated, which the language leaves open. -/
structure SetOrder where
  list : List String → List String
  perm : ∀ values, (list values).Perm values.dedup

def bySymbol (positions : List (Position ℚ)) : Dict String (Position ℚ) :=
  Dict.ofItems (positions.map fun position => (position.symbol.value, position))

def quantityOf (position : Option (Position ℚ)) : ℚ :=
  match position with
  | none => 0
  | some position => position.quantity

def discrepancies (order : SetOrder) (localPositions exchangePositions : List (Position ℚ)) :
    List Discrepancy :=
  let localBySymbol := bySymbol localPositions
  let exchBySymbol := bySymbol exchangePositions
  (order.list (localBySymbol.keys ++ exchBySymbol.keys)).filterMap fun symbolValue =>
    let localQty := quantityOf (localBySymbol.get? symbolValue)
    let exchQty := quantityOf (exchBySymbol.get? symbolValue)
    if localQty ≠ exchQty then some { symbolValue, localQty, exchQty } else none

def reportOf (order : SetOrder) (localPositions exchangePositions : List (Position ℚ))
    (now : String) : ReconciliationReport :=
  let discrepancies := discrepancies order localPositions exchangePositions
  { «matches» := discrepancies.length == 0
    localPositions
    exchangePositions
    discrepancies
    checkedAtUtc := now }

/-- What the Hyperliquid adapter reads, with what parsing each response raises. -/
structure HyperliquidAdapter where
  connected : Bool
  allMids : Symbol → Except CallError (MarkPrice ℚ)
  clearinghouseState : Except CallError (List (Position ℚ))

structure MockExchangeAdapter where
  connected : Bool
  failNext : Dict String CallError
  markPrices : Dict String (MarkPrice ℚ)
  positions : Dict String (Position ℚ)

inductive Adapter
  | hyperliquid (adapter : HyperliquidAdapter)
  | mock (adapter : MockExchangeAdapter)

def HyperliquidAdapter.getPositions (adapter : HyperliquidAdapter) :
    Except CallError (List (Position ℚ)) := do
  requireConnected adapter.connected
  adapter.clearinghouseState

def HyperliquidAdapter.getMarkPrice (adapter : HyperliquidAdapter) (symbol : Symbol) :
    Except CallError (MarkPrice ℚ) := do
  requireConnected adapter.connected
  adapter.allMids symbol

def MockExchangeAdapter.maybeRaise (adapter : MockExchangeAdapter) (methodName : String) :
    Except CallError Unit :=
  match adapter.failNext.get? methodName with
  | none => .ok ()
  | some error => .error error

def MockExchangeAdapter.getMarkPrice (adapter : MockExchangeAdapter) (symbol : Symbol) :
    Except CallError (MarkPrice ℚ) := do
  adapter.maybeRaise "get_mark_price"
  requireConnected adapter.connected
  match adapter.markPrices.get? symbol.value with
  | none => .error (.exchangeAdapter s!"no mark price available for {symbol.value}")
  | some price => .ok price

def Adapter.getMarkPrice (adapter : Adapter) (symbol : Symbol) : Except CallError (MarkPrice ℚ) :=
  match adapter with
  | .hyperliquid adapter => adapter.getMarkPrice symbol
  | .mock adapter => adapter.getMarkPrice symbol

def Adapter.exchangePositions (adapter : Adapter) : Except CallError (List (Position ℚ)) :=
  match adapter with
  | .hyperliquid adapter => do
      requireConnected adapter.connected
      adapter.getPositions
  | .mock adapter => do
      adapter.maybeRaise "reconcile"
      requireConnected adapter.connected
      return adapter.positions.map Prod.snd

def Adapter.reconcile (adapter : Adapter) (order : SetOrder) (now : String)
    (localPositions : List (Position ℚ)) : Except CallError ReconciliationReport := do
  let exchangePositions ← adapter.exchangePositions
  return reportOf order localPositions exchangePositions now

structure Engine where
  portfolioManager : PortfolioManager.Memory ℚ
  positionManager : PositionManager.Memory ℚ
  adapter : Adapter

inductive ReconcileError
  | position (error : PositionManagerError)
  | adapter (error : CallError)
  deriving DecidableEq

def signedQuantity (snapshot : PositionSnapshot ℚ) : ℚ :=
  match snapshot.side with
  | .buy => snapshot.remainingQuantity
  | .sell => -snapshot.remainingQuantity

def localPosition (engine : Engine) (positionId : String) :
    Except ReconcileError (Option (Position ℚ)) := do
  let snapshot ← (engine.positionManager.getPosition positionId).mapError .position
  if snapshot.remainingQuantity = 0 then return none
  else
    let mark ← (engine.adapter.getMarkPrice snapshot.symbol).mapError .adapter
    let unrealizedPnl ←
      (engine.positionManager.unrealizedPnl positionId mark.price).mapError .position
    return some
      { symbol := snapshot.symbol
        quantity := signedQuantity snapshot
        entryPrice := snapshot.avgEntryPrice.getD mark.price
        markPrice := mark.price
        unrealizedPnl
        liquidationPrice := none }

def localPositionsOf (engine : Engine) : List String → Except ReconcileError (List (Position ℚ))
  | [] => .ok []
  | positionId :: positionIds => do
      let position ← localPosition engine positionId
      let positions ← localPositionsOf engine positionIds
      return position.toList ++ positions

def localPositions (engine : Engine) : Except ReconcileError (List (Position ℚ)) :=
  localPositionsOf engine engine.portfolioManager.snapshot.openPositionIds

def reconcile (engine : Engine) (order : SetOrder) (now : String) :
    Except ReconcileError ReconciliationReport := do
  let positions ← localPositions engine
  (engine.adapter.reconcile order now positions).mapError .adapter

private theorem get?_bySymbol (positions : List (Position ℚ)) (symbolValue : String) :
    (bySymbol positions).get? symbolValue =
      (positions.filter fun position => position.symbol.value = symbolValue).getLast? := by
  rw [bySymbol, Dict.get?_ofItems, List.filter_map, List.getLast?_map, Option.map_map]
  exact Option.map_id'

def lastQuantity (positions : List (Position ℚ)) (symbolValue : String) : ℚ :=
  quantityOf ((bySymbol positions).get? symbolValue)

private theorem lastQuantity_eq (positions : List (Position ℚ)) (symbolValue : String) :
    lastQuantity positions symbolValue =
      ((positions.filter fun position => position.symbol.value = symbolValue).map
        Position.quantity).getLastD 0 := by
  rw [lastQuantity, get?_bySymbol, List.getLastD_eq_getLast?, List.getLast?_map]
  cases (positions.filter fun position => position.symbol.value = symbolValue).getLast? <;> rfl

private theorem lastQuantity_of_not_mem {positions : List (Position ℚ)} {symbolValue : String}
    (absent : symbolValue ∉ (bySymbol positions).keys) : lastQuantity positions symbolValue = 0 := by
  rw [lastQuantity, Dict.get?_eq_none_iff.mpr absent]
  rfl

private theorem filter_filterMap_of_nodup {Key Entry : Type} [DecidableEq Key]
    {entryOf? : Key → Option Entry}
    {keyOf : Entry → Key} (keyed : ∀ key entry, entryOf? key = some entry → keyOf entry = key)
    {keys : List Key} (distinct : keys.Nodup) (key : Key) :
    ((keys.filterMap entryOf?).filter fun entry => keyOf entry = key) =
      if key ∈ keys then (entryOf? key).toList else [] := by
  induction keys with
  | nil => rfl
  | cons head keys ih =>
      obtain ⟨fresh, distinctRest⟩ := List.nodup_cons.mp distinct
      have rest := ih distinctRest
      by_cases same : head = key
      · subst same
        rw [if_neg fresh] at rest
        rw [if_pos List.mem_cons_self]
        cases made : entryOf? head with
        | none => rw [List.filterMap_cons_none made, rest]; rfl
        | some entry =>
            have hit : decide (keyOf entry = head) = true := decide_eq_true (keyed head entry made)
            rw [List.filterMap_cons_some made, List.filter_cons, if_pos hit, rest]
            rfl
      · have member : key ∈ head :: keys ↔ key ∈ keys := by
          simp only [List.mem_cons, Ne.symm same, false_or]
        simp only [member]
        cases made : entryOf? head with
        | none => rw [List.filterMap_cons_none made, rest]
        | some entry =>
            have other : ¬ decide (keyOf entry = key) = true := by
              rw [keyed head entry made]
              exact fun hit => same (of_decide_eq_true hit)
            rw [List.filterMap_cons_some made, List.filter_cons, if_neg other, rest]

private theorem discrepancies_of_symbol (order : SetOrder)
    (localPositions exchangePositions : List (Position ℚ))
    (symbolValue : String) :
    ((discrepancies order localPositions exchangePositions).filter
        fun discrepancy => discrepancy.symbolValue = symbolValue).length =
      if lastQuantity localPositions symbolValue = lastQuantity exchangePositions symbolValue
      then 0 else 1 := by
  have distinct : (order.list ((bySymbol localPositions).keys ++
      (bySymbol exchangePositions).keys)).Nodup :=
    (order.perm _).nodup_iff.mpr (List.nodup_dedup _)
  rw [discrepancies, @filter_filterMap_of_nodup _ _ _ _ Discrepancy.symbolValue ?_ _ distinct]
  · simp only [(order.perm _).mem_iff, List.mem_dedup, List.mem_append]
    change (if _ then (if lastQuantity localPositions symbolValue ≠
      lastQuantity exchangePositions symbolValue then some _ else none).toList else []).length = _
    by_cases same : lastQuantity localPositions symbolValue =
        lastQuantity exchangePositions symbolValue
    · simp [same]
    · have present : symbolValue ∈ (bySymbol localPositions).keys ∨
          symbolValue ∈ (bySymbol exchangePositions).keys := by
        by_contra absent
        rw [not_or] at absent
        exact same ((lastQuantity_of_not_mem absent.1).trans (lastQuantity_of_not_mem absent.2).symm)
      simp [same, present]
  · intro key entry made
    dsimp only at made
    split at made
    · cases made
      rfl
    · cases made

private theorem matches_reportOf (order : SetOrder)
    (localPositions exchangePositions : List (Position ℚ))
    (now : String) :
    (reportOf order localPositions exchangePositions now).«matches» = true ↔
      ∀ symbolValue, lastQuantity localPositions symbolValue =
        lastQuantity exchangePositions symbolValue := by
  change ((discrepancies order localPositions exchangePositions).length == 0) = true ↔ _
  rw [beq_iff_eq, List.length_eq_zero_iff]
  constructor
  · intro empty symbolValue
    have counted := discrepancies_of_symbol order localPositions exchangePositions symbolValue
    rw [empty] at counted
    by_contra differ
    rw [if_neg differ] at counted
    cases counted
  · intro agree
    rw [List.eq_nil_iff_forall_not_mem]
    intro discrepancy listed
    have counted :=
      discrepancies_of_symbol order localPositions exchangePositions discrepancy.symbolValue
    rw [if_pos (agree _), List.length_eq_zero_iff, List.filter_eq_nil_iff] at counted
    exact counted discrepancy listed (decide_eq_true rfl)

def snapshotsOf (engine : Engine) (positionIds : List String) : List (PositionSnapshot ℚ) :=
  positionIds.filterMap fun positionId => engine.positionManager.snapshots.get? positionId

variable {snapshot : PositionSnapshot ℚ} {positionId : String} {engine : Engine}

private theorem snapshotsOf_cons
    (tracked : engine.positionManager.snapshots.get? positionId = some snapshot)
    (positionIds : List String) :
    snapshotsOf engine (positionId :: positionIds) = snapshot :: snapshotsOf engine positionIds :=
  List.filterMap_cons_some tracked

def Engine.openPositions (engine : Engine) : List (PositionSnapshot ℚ) :=
  snapshotsOf engine engine.portfolioManager.snapshot.openPositionIds

def signedOn (symbolValue : String) (snapshots : List (PositionSnapshot ℚ)) : List ℚ :=
  (snapshots.filter fun snapshot =>
    snapshot.symbol.value = symbolValue ∧ snapshot.remainingQuantity ≠ 0).map signedQuantity

def Readable (engine : Engine) (positionId : String) : Prop :=
  ∃ snapshot mark, engine.positionManager.snapshots.get? positionId = some snapshot ∧
    engine.adapter.getMarkPrice snapshot.symbol = .ok mark

private theorem unrealizedPnl_of_tracked {memory : PositionManager.Memory ℚ}
    (tracked : memory.snapshots.get? positionId = some snapshot) (markPrice : ℚ) :
    ∃ amount, memory.unrealizedPnl positionId markPrice = .ok amount := by
  rw [Memory.unrealizedPnl, Memory.getPosition, tracked]
  rcases held : snapshot.avgEntryPrice with _ | avgEntryPrice
  · exact ⟨_, by simp only [bind, Except.bind, held]; rfl⟩
  · by_cases flat : snapshot.remainingQuantity ≤ 0
    · refine ⟨0, ?_⟩
      simp only [bind, Except.bind, held]
      change (if decide (snapshot.remainingQuantity ≤ 0) = true then _ else _) = _
      rw [if_pos (decide_eq_true flat)]
      rfl
    · refine ⟨(markPrice - avgEntryPrice) * snapshot.remainingQuantity, ?_⟩
      simp only [bind, Except.bind, held]
      change (if decide (snapshot.remainingQuantity ≤ 0) = true then _ else _) = _
      rw [if_neg (fun positive => flat (of_decide_eq_true positive))]
      rfl

private theorem localPosition_of_readable {mark : MarkPrice ℚ}
    (tracked : engine.positionManager.snapshots.get? positionId = some snapshot)
    (priced : engine.adapter.getMarkPrice snapshot.symbol = .ok mark) :
    ∃ position, localPosition engine positionId = .ok position ∧
      position.map (fun position => (position.symbol, position.quantity)) =
        if snapshot.remainingQuantity = 0 then none
        else some (snapshot.symbol, signedQuantity snapshot) := by
  have found : engine.positionManager.getPosition positionId = .ok snapshot := by
    rw [Memory.getPosition, tracked]
  rw [localPosition, bind_of_ok (congrArg (Except.mapError ReconcileError.position) found)]
  by_cases flat : snapshot.remainingQuantity = 0
  · rw [if_pos flat, if_pos flat]
    exact ⟨none, rfl, rfl⟩
  · obtain ⟨amount, computed⟩ := unrealizedPnl_of_tracked tracked mark.price
    rw [if_neg flat, if_neg flat,
      bind_of_ok (congrArg (Except.mapError ReconcileError.adapter) priced),
      bind_of_ok (congrArg (Except.mapError ReconcileError.position) computed)]
    exact ⟨some _, rfl, rfl⟩

/-- The local positions have the symbols and signed quantities of the open snapshots
that are not flat. -/
theorem localPositionsOf_of_readable {positionIds : List String}
    (readable : ∀ positionId ∈ positionIds, Readable engine positionId) :
    ∃ positions, localPositionsOf engine positionIds = .ok positions ∧
      positions.map (fun position => (position.symbol, position.quantity)) =
        ((snapshotsOf engine positionIds).filter fun snapshot =>
          snapshot.remainingQuantity ≠ 0).map
            fun snapshot => (snapshot.symbol, signedQuantity snapshot) := by
  induction positionIds with
  | nil => exact ⟨[], rfl, rfl⟩
  | cons positionId positionIds ih =>
      obtain ⟨snapshot, mark, tracked, priced⟩ := readable positionId List.mem_cons_self
      obtain ⟨position, made, shape⟩ := localPosition_of_readable tracked priced
      obtain ⟨positions, madeRest, shapeRest⟩ :=
        ih fun other member => readable other (List.mem_cons_of_mem _ member)
      refine ⟨position.toList ++ positions, ?_, ?_⟩
      · rw [localPositionsOf, bind_of_ok made, bind_of_ok madeRest]
        rfl
      · rw [List.map_append, shapeRest, snapshotsOf_cons tracked]
        by_cases flat : snapshot.remainingQuantity = 0
        · rw [if_pos flat, Option.map_eq_none_iff] at shape
          rw [List.filter_cons_of_neg (by simp [flat]), shape]
          rfl
        · rw [if_neg flat, Option.map_eq_some_iff] at shape
          obtain ⟨built, rfl, pair⟩ := shape
          rw [List.filter_cons_of_pos (by simp [flat]), List.map_cons, ← pair]
          rfl

private theorem quantities_of_shape {positions : List (Position ℚ)}
    {snapshots : List (PositionSnapshot ℚ)}
    (shape : positions.map (fun position => (position.symbol, position.quantity)) =
      (snapshots.filter fun snapshot => snapshot.remainingQuantity ≠ 0).map
        fun snapshot => (snapshot.symbol, signedQuantity snapshot)) (symbolValue : String) :
    (positions.filter fun position => position.symbol.value = symbolValue).map Position.quantity =
      signedOn symbolValue snapshots := by
  have chosen := congrArg (fun pairs : List (Symbol × ℚ) =>
    (pairs.filter fun pair => pair.1.value = symbolValue).map Prod.snd) shape
  simp only [List.filter_map, List.map_map, List.filter_filter] at chosen
  rw [signedOn]
  simpa [Function.comp_def] using chosen

def netQuantity (symbolValue : String) (snapshots : List (PositionSnapshot ℚ)) : ℚ :=
  ((snapshots.filter fun snapshot => snapshot.symbol.value = symbolValue).map signedQuantity).sum

def venueQuantity (symbolValue : String) (venue : List (Position ℚ)) : ℚ :=
  quantityOf (venue.find? fun position => position.symbol.value = symbolValue)

/-- The report matches exactly when every net quantity is the venue's, and it lists
one discrepancy for each symbol where they differ. -/
structure ReconciliationReport.TellsTruth (report : ReconciliationReport)
    (snapshots : List (PositionSnapshot ℚ)) (venue : List (Position ℚ)) : Prop where
  matches_iff : report.«matches» = true ↔
    ∀ symbolValue, netQuantity symbolValue snapshots = venueQuantity symbolValue venue
  listed : ∀ symbolValue, (report.discrepancies.filter
      fun discrepancy => discrepancy.symbolValue = symbolValue).length =
    if netQuantity symbolValue snapshots = venueQuantity symbolValue venue then 0 else 1

/-- The quantities before the last one cancel out, or neither the last one nor the
sum of all is the venue's. -/
def LastStandsForAll (signed : List ℚ) (venue : ℚ) : Prop :=
  signed.dropLast.sum = 0 ∨ (signed.getLastD 0 ≠ venue ∧ signed.sum ≠ venue)

private theorem lastStandsForAll_iff (signed : List ℚ) (venue : ℚ) :
    LastStandsForAll signed venue ↔ (signed.getLastD 0 = venue ↔ signed.sum = venue) := by
  have split : signed.sum = signed.dropLast.sum + signed.getLastD 0 := by
    rcases List.eq_nil_or_concat signed with rfl | ⟨front, last, rfl⟩
    · simp
    · simp
  rw [LastStandsForAll, split]
  constructor
  · rintro (cancel | ⟨lastDiffers, sumDiffers⟩)
    · rw [cancel, zero_add]
    · exact iff_of_false lastDiffers sumDiffers
  · intro same
    by_cases hit : signed.getLastD 0 = venue
    · refine Or.inl ?_
      have total := same.mp hit
      rwa [hit, add_eq_right] at total
    · exact Or.inr ⟨hit, fun total => hit (same.mpr total)⟩

private theorem sum_signedOn (symbolValue : String) (snapshots : List (PositionSnapshot ℚ)) :
    (signedOn symbolValue snapshots).sum = netQuantity symbolValue snapshots := by
  induction snapshots with
  | nil => rfl
  | cons snapshot snapshots ih =>
      simp only [signedOn, netQuantity] at ih ⊢
      by_cases onSymbol : snapshot.symbol.value = symbolValue
      · by_cases flat : snapshot.remainingQuantity = 0
        · have nothing : signedQuantity snapshot = 0 := by
            rw [signedQuantity, flat]
            cases snapshot.side <;> simp
          simp [onSymbol, flat, nothing, ← ih]
        · simp [onSymbol, flat, ← ih]
      · simp [onSymbol, ← ih]

private theorem lastQuantity_of_nodup {venue : List (Position ℚ)}
    (oneEntry : (venue.map fun position => position.symbol.value).Nodup) (symbolValue : String) :
    lastQuantity venue symbolValue = venueQuantity symbolValue venue := by
  rw [lastQuantity, get?_bySymbol, venueQuantity]
  congr 1
  induction venue with
  | nil => rfl
  | cons position venue ih =>
      rw [List.map_cons, List.nodup_cons] at oneEntry
      by_cases same : position.symbol.value = symbolValue
      · have others : (venue.filter fun position => position.symbol.value = symbolValue) = [] := by
          rw [List.filter_eq_nil_iff]
          intro other member hit
          rw [same] at oneEntry
          exact oneEntry.1 (List.mem_map.mpr ⟨other, member, of_decide_eq_true hit⟩)
        simp [same, others]
      · simp [same, ih oneEntry.2]

/-- A report tells the truth exactly when the last quantity of each symbol is the
venue's where the sum is. -/
theorem tellsTruth_reportOf_iff (order : SetOrder) (now : String)
    {positions venue : List (Position ℚ)} {snapshots : List (PositionSnapshot ℚ)}
    (shape : positions.map (fun position => (position.symbol, position.quantity)) =
      (snapshots.filter fun snapshot => snapshot.remainingQuantity ≠ 0).map
        fun snapshot => (snapshot.symbol, signedQuantity snapshot))
    (oneEntry : (venue.map fun position => position.symbol.value).Nodup) :
    (reportOf order positions venue now).TellsTruth snapshots venue ↔
      ∀ symbolValue, LastStandsForAll (signedOn symbolValue snapshots)
        (venueQuantity symbolValue venue) := by
  have lastLocal : ∀ symbolValue, lastQuantity positions symbolValue =
      (signedOn symbolValue snapshots).getLastD 0 := fun symbolValue => by
    rw [lastQuantity_eq, quantities_of_shape shape]
  simp only [lastStandsForAll_iff, sum_signedOn, ← lastLocal]
  constructor
  · intro truth symbolValue
    have counted := truth.listed symbolValue
    rw [reportOf, discrepancies_of_symbol, lastQuantity_of_nodup oneEntry] at counted
    by_cases last : lastQuantity positions symbolValue = venueQuantity symbolValue venue
    · by_cases net : netQuantity symbolValue snapshots = venueQuantity symbolValue venue
      · exact iff_of_true last net
      · rw [if_pos last, if_neg net] at counted
        cases counted
    · by_cases net : netQuantity symbolValue snapshots = venueQuantity symbolValue venue
      · rw [if_neg last, if_pos net] at counted
        cases counted
      · exact iff_of_false last net
  · intro same
    refine { matches_iff := ?_, listed := ?_ }
    · rw [matches_reportOf]
      simp only [lastQuantity_of_nodup oneEntry, same]
    · intro symbolValue
      rw [reportOf, discrepancies_of_symbol, lastQuantity_of_nodup oneEntry]
      simp only [same]

/-- Reconciliation returns a report, and the report tells the truth exactly when the
last open position of every symbol stands for all of them. -/
theorem reconcile_tellsTruth_iff (engine : Engine) (order : SetOrder) (now : String)
    (venue : List (Position ℚ))
    (readable : ∀ positionId ∈ engine.portfolioManager.snapshot.openPositionIds,
      Readable engine positionId)
    (read : engine.adapter.exchangePositions = .ok venue)
    (oneEntry : (venue.map fun position => position.symbol.value).Nodup) :
    ∃ report, reconcile engine order now = .ok report ∧
      (report.TellsTruth engine.openPositions venue ↔
        ∀ symbolValue, LastStandsForAll (signedOn symbolValue engine.openPositions)
          (venueQuantity symbolValue venue)) := by
  obtain ⟨positions, built, shape⟩ := localPositionsOf_of_readable readable
  refine ⟨reportOf order positions venue now, ?_, tellsTruth_reportOf_iff order now shape oneEntry⟩
  rw [reconcile, localPositions, bind_of_ok built, Adapter.reconcile, bind_of_ok read]
  rfl

def SetOrder.plain : SetOrder :=
  { list := List.dedup
    perm := fun values => List.Perm.refl values.dedup }

def longPosition (positionId : String) : PositionSnapshot ℚ :=
  { positionId
    lifecycleState := .opened
    symbol := btc
    side := .buy
    intendedQuantity := 1
    filledQuantity := 1
    remainingQuantity := 1
    avgEntryPrice := some 100
    stopPrice := 90
    stopD := 1 / 10
    t1Price := 110
    t2Price := 120
    conviction := none
    realizedPnl := 0
    realizedR := 0
    feesPaid := 0
    fundingPaid := 0
    createdAtUtc := "2026-01-01T00:00:00+00:00"
    updatedAtUtc := "2026-01-01T00:00:00+00:00" }

def venuePosition (quantity : ℚ) : Position ℚ :=
  { symbol := btc
    quantity
    entryPrice := 100
    markPrice := 100
    unrealizedPnl := 0
    liquidationPrice := none }

def twoLongs (quantity : ℚ) : Engine :=
  { portfolioManager := { (PortfolioManager.Memory.initial : PortfolioManager.Memory ℚ) with
      openPositionIds := ["p1", "p2"] }
    positionManager := { (PositionManager.Memory.initial : PositionManager.Memory ℚ) with
      snapshots := [("p1", longPosition "p1"), ("p2", longPosition "p2")] }
    adapter := .mock
      { connected := true
        failNext := []
        markPrices := [("BTC", { symbol := btc, price := 100, timestampUtc := "" })]
        positions := [("BTC", venuePosition quantity)] } }

private theorem twoLongs_openPositionIds (quantity : ℚ) :
    (twoLongs quantity).portfolioManager.snapshot.openPositionIds = ["p1", "p2"] :=
  List.mergeSort_of_pairwise
    (show List.Pairwise (fun left right : String => (left ≤ right : Bool) = true) ["p1", "p2"] by
      decide)

private theorem twoLongs_readable (quantity : ℚ) (positionId : String)
    (member : positionId ∈ (twoLongs quantity).portfolioManager.snapshot.openPositionIds) :
    Readable (twoLongs quantity) positionId := by
  rw [twoLongs_openPositionIds] at member
  rcases List.mem_pair.mp member with rfl | rfl
  · exact ⟨longPosition "p1", _, rfl, rfl⟩
  · exact ⟨longPosition "p2", _, rfl, rfl⟩

theorem reconcile_tellsTruth_iff_twoLongs :
    ∃ report, reconcile (twoLongs 3) SetOrder.plain "" = .ok report ∧
      (report.TellsTruth (twoLongs 3).openPositions [venuePosition 3] ↔
        ∀ symbolValue, LastStandsForAll (signedOn symbolValue (twoLongs 3).openPositions)
          (venueQuantity symbolValue [venuePosition 3])) :=
  reconcile_tellsTruth_iff (twoLongs 3) SetOrder.plain "" [venuePosition 3]
    (twoLongs_readable 3) rfl (List.nodup_singleton _)

private theorem twoLongs_openPositions (quantity : ℚ) :
    (twoLongs quantity).openPositions = [longPosition "p1", longPosition "p2"] := by
  rw [Engine.openPositions, twoLongs_openPositionIds]
  rfl

private theorem netQuantity_twoLongs (quantity : ℚ) (symbolValue : String) :
    netQuantity symbolValue (twoLongs quantity).openPositions =
      if "BTC" = symbolValue then 2 else 0 := by
  rw [twoLongs_openPositions, netQuantity]
  by_cases onBtc : "BTC" = symbolValue
  · subst onBtc
    norm_num [longPosition, btc, signedQuantity]
  · simp [longPosition, btc, onBtc]

private theorem venueQuantity_singleton (quantity : ℚ) (symbolValue : String) :
    venueQuantity symbolValue [venuePosition quantity] =
      if "BTC" = symbolValue then quantity else 0 := by
  by_cases onBtc : "BTC" = symbolValue
  · simp [venueQuantity, venuePosition, btc, quantityOf, onBtc]
  · simp [venueQuantity, venuePosition, btc, quantityOf, onBtc]

private theorem reconcile_twoLongs (quantity : ℚ) (order : SetOrder) :
    ∃ report, reconcile (twoLongs quantity) order "" = .ok report ∧
      (report.«matches» = true ↔ quantity = 1) := by
  obtain ⟨positions, built, shape⟩ := localPositionsOf_of_readable (twoLongs_readable quantity)
  refine ⟨reportOf order positions [venuePosition quantity] "", ?_, ?_⟩
  · rw [reconcile, localPositions, bind_of_ok built]
    rfl
  · have last : ∀ symbolValue, lastQuantity positions symbolValue =
        if "BTC" = symbolValue then 1 else 0 := by
      intro symbolValue
      rw [lastQuantity_eq, quantities_of_shape shape, ← Engine.openPositions,
        twoLongs_openPositions, signedOn]
      by_cases onBtc : "BTC" = symbolValue
      · simp [longPosition, btc, signedQuantity, onBtc]
      · simp [longPosition, btc, onBtc]
    have atVenue : ∀ symbolValue, lastQuantity [venuePosition quantity] symbolValue =
        if "BTC" = symbolValue then quantity else 0 := by
      intro symbolValue
      have oneEntry : ([venuePosition quantity].map fun position => position.symbol.value).Nodup :=
        List.nodup_singleton _
      rw [lastQuantity_of_nodup oneEntry, venueQuantity_singleton]
    rw [matches_reportOf]
    simp only [last, atVenue]
    constructor
    · intro agree
      exact (agree "BTC").symm
    · rintro rfl symbolValue
      rfl

/-- A venue that holds both positions is reported as different, and one that holds
only the last of them as equal. -/
theorem reconcile_twoLongs_untrue :
    (∃ report, reconcile (twoLongs 2) SetOrder.plain "" = .ok report ∧
      report.«matches» = false ∧
      ∀ symbolValue, netQuantity symbolValue (twoLongs 2).openPositions =
        venueQuantity symbolValue [venuePosition 2]) ∧
    (∃ report, reconcile (twoLongs 1) SetOrder.plain "" = .ok report ∧
      report.«matches» = true ∧
      netQuantity "BTC" (twoLongs 1).openPositions ≠ venueQuantity "BTC" [venuePosition 1]) := by
  constructor
  · obtain ⟨report, returned, agree⟩ := reconcile_twoLongs 2 SetOrder.plain
    refine ⟨report, returned, ?_, fun symbolValue => ?_⟩
    · rw [← Bool.not_eq_true, agree]
      norm_num
    · rw [netQuantity_twoLongs, venueQuantity_singleton]
  · obtain ⟨report, returned, agree⟩ := reconcile_twoLongs 1 SetOrder.plain
    refine ⟨report, returned, agree.mpr rfl, ?_⟩
    rw [netQuantity_twoLongs, venueQuantity_singleton]
    norm_num

end TurtleExecution.Orchestration

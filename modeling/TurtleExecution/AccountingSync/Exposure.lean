/-
What the sums of `update_marks` count.

The loop goes through the orders that are mapped to open positions.  An exit order is mapped
to the position that it closes, which is then counted once more.
-/

import TurtleExecution.AccountingSync.Marks
import TurtleExecution.Foundation.Totals

set_option autoImplicit false

namespace TurtleExecution.AccountingSync

open ExchangeAdapter SharedStore Process

/-- The position, where something remains of it and it has an entry price. -/
def holding (snapshots : Dict String (PositionManager.PositionSnapshot ℚ)) (positionId : String) :
    Option (PositionManager.PositionSnapshot ℚ) :=
  (snapshots.get? positionId).filter fun position =>
    decide (0 < position.remainingQuantity ∧ position.avgEntryPrice.isSome)

def priceAt (marks : Symbol → Except CallError ℚ) (symbol : Symbol) : ℚ :=
  (marks symbol).toOption.getD 0

def exposureOf (marks : Symbol → Except CallError ℚ)
    (snapshots : Dict String (PositionManager.PositionSnapshot ℚ)) (positionId : String) : ℚ :=
  (holding snapshots positionId).elim 0 fun position =>
    position.remainingQuantity * priceAt marks position.symbol

def openRiskOf (snapshots : Dict String (PositionManager.PositionSnapshot ℚ))
    (positionId : String) : ℚ :=
  (holding snapshots positionId).elim 0 fun position =>
    position.remainingQuantity * position.stopD

def World.openPositions (world : World ℚ) : List String := world.openPids.dedup

structure CountsOnce (marks : Symbol → Except CallError ℚ) (world : World ℚ) (totals : Totals ℚ) :
    Prop where
  exposure : totals.exposure =
    (world.openPositions.map (exposureOf marks world.positions.snapshots)).sum
  openRisk : totals.openRisk =
    (world.openPositions.map (openRiskOf world.positions.snapshots)).sum

def Books.ordersOf (books : Books ℚ) (positionId : String) : List String :=
  (books.positionByCid.filter fun entry => entry.2 = positionId).map Prod.fst

/-- An order is mapped to an open position that the position manager does not know. -/
def World.Untracked (world : World ℚ) : Prop :=
  ∃ positionId ∈ world.openPids, world.positions.snapshots.get? positionId = none

/-- No two orders are mapped to an open position of which something remains. -/
def World.MappedOnce (world : World ℚ) : Prop :=
  ∀ positionId ∈ world.openPids, (holding world.positions.snapshots positionId).isSome →
    (world.books.ordersOf positionId).length = 1

section

variable {marks : Symbol → Except CallError ℚ}
  {snapshots : Dict String (PositionManager.PositionSnapshot ℚ)}

private theorem addPosition_exact (totals : Totals ℚ) (position : PositionManager.PositionSnapshot ℚ)
    (avgEntryPrice mark : ℚ) :
    ∃ next, totals.addPosition position avgEntryPrice mark = .ok next ∧
      next.exposure = totals.exposure + position.remainingQuantity * mark ∧
      next.openRisk = totals.openRisk + position.remainingQuantity * position.stopD := by
  obtain ⟨perUnit, isPerUnit⟩ : ∃ perUnit : ℚ,
      directed position.side (mark - avgEntryPrice) = .ok perUnit := by
    cases position.side <;> exact ⟨_, rfl⟩
  refine ⟨
    { unrealizedPnl := totals.unrealizedPnl + perUnit * position.remainingQuantity
      exposure := totals.exposure + position.remainingQuantity * mark
      openRisk := totals.openRisk + position.remainingQuantity * position.stopD }, ?_, rfl, rfl⟩
  unfold Totals.addPosition
  rw [bind_of_ok (show Arithmetic.sub mark avgEntryPrice = .ok (mark - avgEntryPrice) from rfl),
    bind_of_ok isPerUnit]
  rfl

private theorem holding_of_tracked {positionId : String}
    {position : PositionManager.PositionSnapshot ℚ}
    (tracked : snapshots.get? positionId = some position) :
    holding snapshots positionId =
      if 0 < position.remainingQuantity ∧ position.avgEntryPrice.isSome then some position
      else none := by
  unfold holding
  rw [tracked, Option.filter_some]
  simp

variable {positionIds : List String} {totals result : Totals ℚ}

private theorem sumAt_cons {positionId : String} {rest : List String}
    (summed : sumAt marks snapshots totals (positionId :: rest) = .ok result) :
    ∃ next : Totals ℚ, sumAt marks snapshots next rest = .ok result ∧
      next.exposure = totals.exposure + exposureOf marks snapshots positionId ∧
      next.openRisk = totals.openRisk + openRiskOf snapshots positionId := by
  unfold sumAt at summed
  obtain ⟨position, isTracked, summed⟩ := ok_of_bind summed
  obtain ⟨empty, isEmpty, summed⟩ := ok_of_bind summed
  have tracked : snapshots.get? positionId = some position := by
    unfold trackedAt at isTracked
    cases found : snapshots.get? positionId with
    | none =>
        rw [found] at isTracked
        cases isTracked
    | some known =>
        rw [found] at isTracked
        cases isTracked
        rfl
  have skips : holding snapshots positionId = none →
      totals.exposure = totals.exposure + exposureOf marks snapshots positionId ∧
        totals.openRisk = totals.openRisk + openRiskOf snapshots positionId := by
    intro nothing
    unfold exposureOf openRiskOf
    rw [nothing]
    exact ⟨(add_zero _).symm, (add_zero _).symm⟩
  obtain rfl : decide (position.remainingQuantity ≤ 0) = empty := Except.ok.inj isEmpty
  by_cases remains : 0 < position.remainingQuantity
  · cases averaged : position.avgEntryPrice with
    | none =>
        rw [averaged, decide_eq_false (not_le.mpr remains)] at summed
        have nothing : holding snapshots positionId = none := by
          rw [holding_of_tracked tracked, averaged]
          simp
        exact ⟨totals, summed, skips nothing⟩
    | some avgEntryPrice =>
        rw [averaged, decide_eq_false (not_le.mpr remains)] at summed
        obtain ⟨mark, isMark, summed⟩ := ok_of_bind summed
        obtain ⟨next, isNext, summed⟩ := ok_of_bind summed
        obtain ⟨added, isAdded, exposure, openRisk⟩ :=
          addPosition_exact totals position avgEntryPrice mark
        rw [isAdded] at isNext
        cases isNext
        have held : holding snapshots positionId = some position := by
          rw [holding_of_tracked tracked, averaged, if_pos ⟨remains, rfl⟩]
        have price : priceAt marks position.symbol = mark := by
          unfold priceAt
          rw [ok_of_mapError isMark]
          rfl
        refine ⟨next, summed, ?_, ?_⟩
        · rw [exposure, exposureOf, held, Option.elim_some, price]
        · rw [openRisk, openRiskOf, held, Option.elim_some]
  · rw [decide_eq_true (not_lt.mp remains)] at summed
    have nothing : holding snapshots positionId = none := by
      rw [holding_of_tracked tracked, if_neg fun known => remains known.1]
    exact ⟨totals, summed, skips nothing⟩

private theorem sumAt_exact (summed : sumAt marks snapshots totals positionIds = .ok result) :
    result.exposure = totals.exposure + (positionIds.map (exposureOf marks snapshots)).sum ∧
      result.openRisk = totals.openRisk + (positionIds.map (openRiskOf snapshots)).sum := by
  induction positionIds generalizing totals with
  | nil =>
      cases summed
      exact ⟨(add_zero _).symm, (add_zero _).symm⟩
  | cons positionId rest ih =>
      obtain ⟨next, later, exposure, openRisk⟩ := sumAt_cons summed
      obtain ⟨restExposure, restOpenRisk⟩ := ih later
      rw [List.map_cons, List.sum_cons, List.map_cons, List.sum_cons, ← add_assoc, ← add_assoc,
        ← exposure, ← openRisk]
      exact ⟨restExposure, restOpenRisk⟩

private theorem sumAt_of_tracked (price : Symbol → ℚ) (totals : Totals ℚ)
    (tracked : ∀ positionId ∈ positionIds, snapshots.get? positionId ≠ none) :
    ∃ result, sumAt (fun symbol => .ok (price symbol)) snapshots totals positionIds =
      .ok result := by
  induction positionIds generalizing totals with
  | nil => exact ⟨totals, rfl⟩
  | cons positionId rest ih =>
      obtain ⟨position, found⟩ :=
        Option.ne_none_iff_exists'.mp (tracked positionId List.mem_cons_self)
      have later := fun next => ih next fun other member =>
        tracked other (List.mem_cons_of_mem positionId member)
      have isTracked : trackedAt snapshots positionId = .ok position := by
        unfold trackedAt
        rw [found]
      unfold sumAt
      rw [bind_of_ok isTracked, bind_of_ok (show (Arithmetic.le position.remainingQuantity
        Arithmetic.zero).mapError SyncError.arithmetic =
          .ok (decide (position.remainingQuantity ≤ 0)) from rfl)]
      cases decide (position.remainingQuantity ≤ 0) with
      | true => exact later totals
      | false =>
          cases position.avgEntryPrice with
          | none => exact later totals
          | some avgEntryPrice =>
              obtain ⟨next, isNext, _⟩ :=
                addPosition_exact totals position avgEntryPrice (price position.symbol)
              dsimp only
              rw [bind_of_ok (show (Except.ok (price position.symbol) : Except CallError ℚ).mapError
                SyncError.call = .ok (price position.symbol) from rfl), isNext]
              exact later next

private theorem tracked_of_sumAt (summed : sumAt marks snapshots totals positionIds = .ok result) :
    ∀ positionId ∈ positionIds, snapshots.get? positionId ≠ none := by
  induction positionIds generalizing totals with
  | nil => exact fun positionId impossible => absurd impossible List.not_mem_nil
  | cons positionId rest ih =>
      obtain ⟨next, later, _⟩ := sumAt_cons summed
      refine List.forall_mem_cons.mpr ⟨fun unknown => ?_, ih later⟩
      unfold sumAt at summed
      obtain ⟨position, isTracked, _⟩ := ok_of_bind summed
      unfold trackedAt at isTracked
      rw [unknown] at isTracked
      cases isTracked

end

private theorem count_openPids {world : World ℚ} {positionId : String}
    (isOpen : positionId ∈ world.openPids) :
    world.openPids.count positionId = (world.books.ordersOf positionId).length := by
  have amongAll : world.openPids.count positionId =
      (world.books.positionByCid.map Prod.snd).count positionId :=
    List.count_filter (List.mem_filter.mp isOpen).2
  unfold Books.ordersOf
  rw [amongAll, List.length_map, List.count_eq_countP, List.countP_map,
    List.countP_eq_length_filter]
  congr 1

private theorem heatAt_exact (snapshot : PortfolioManager.PortfolioSnapshot ℚ) (totals : Totals ℚ) :
    ∃ heat, heatAt snapshot totals = .ok heat := by
  obtain ⟨equity, isEquity⟩ : ∃ equity : ℚ, snapshot.equity = .ok equity := ⟨_, rfl⟩
  unfold heatAt
  rw [isEquity]
  change ∃ heat, (heatOf equity totals.openRisk).mapError SyncError.arithmetic = .ok heat
  unfold heatOf
  by_cases positive : 0 < equity
  · refine ⟨totals.openRisk / equity, ?_⟩
    rw [bind_of_ok (show Arithmetic.lt Arithmetic.zero equity = .ok true from
      congrArg Except.ok (decide_eq_true positive)), if_pos rfl]
    change Except.mapError _ (if equity = 0 then _ else _) = _
    rw [if_neg positive.ne']
    rfl
  · refine ⟨0, ?_⟩
    rw [bind_of_ok (show Arithmetic.lt Arithmetic.zero equity = .ok false from
      congrArg Except.ok (decide_eq_false positive))]
    rfl

def unitMarks : Symbol → Except CallError ℚ := fun _ => .ok 1

private theorem exposureOf_unitMarks (snapshots : Dict String (PositionManager.PositionSnapshot ℚ))
    (positionId : String) :
    0 ≤ exposureOf unitMarks snapshots positionId ∧
      ((holding snapshots positionId).isSome → 0 < exposureOf unitMarks snapshots positionId) := by
  unfold exposureOf
  cases held : holding snapshots positionId with
  | none => exact ⟨le_refl _, fun impossible => absurd impossible (by decide)⟩
  | some position =>
      have remains := of_decide_eq_true (Option.filter_eq_some_iff.mp held).2
      have positive : 0 < position.remainingQuantity * priceAt unitMarks position.symbol :=
        mul_pos remains.1 one_pos
      exact ⟨positive.le, fun _ => positive⟩

/-- The sums of a call count every open position once, whatever the marks are, exactly when
the call hands nothing over or no two orders are mapped to a position that holds something. -/
theorem countsOnce_iff (world : World ℚ) :
    (∀ marks totals heat, Hands marks world world.portfolio.snapshot totals heat →
        CountsOnce marks world totals) ↔ world.Untracked ∨ world.MappedOnce := by
  constructor
  · intro counts
    by_cases untracked : world.Untracked
    · exact Or.inl untracked
    refine Or.inr fun positionId isOpen held => ?_
    have tracked : ∀ other ∈ world.openPids, world.positions.snapshots.get? other ≠ none :=
      fun other member unknown => untracked ⟨other, member, unknown⟩
    obtain ⟨totals, summed⟩ := sumAt_of_tracked (fun _ => 1) Totals.zero tracked
    obtain ⟨heat, heated⟩ := heatAt_exact world.portfolio.snapshot totals
    have sums : totalsAt unitMarks world world.portfolio.snapshot = .ok (some totals) := by
      unfold totalsAt
      rw [if_neg (List.ne_nil_of_mem isOpen)]
      change (sumAt unitMarks world.positions.snapshots Totals.zero world.openPids >>= _) = _
      exact bind_of_ok summed
    have exposure := (counts unitMarks totals heat { sums, heated }).exposure
    have summedUp := (sumAt_exact summed).1
    have same : (world.openPids.map (exposureOf unitMarks world.positions.snapshots)).sum =
        (world.openPids.dedup.map (exposureOf unitMarks world.positions.snapshots)).sum :=
      ((zero_add _).symm.trans summedUp.symm).trans exposure
    have once := Repeats.count_of_sum_eq
      (fun other _ => (exposureOf_unitMarks world.positions.snapshots other).1) same
    rw [← count_openPids isOpen]
    exact once positionId isOpen ((exposureOf_unitMarks _ positionId).2 held)
  · rintro condition marks totals heat hands
    have summed := (totalsAt_iff.mp hands.sums).2
    rcases condition with ⟨positionId, isOpen, unknown⟩ | mapped
    · exact absurd unknown (tracked_of_sumAt summed positionId isOpen)
    · have once : ∀ (weight : String → ℚ), (∀ positionId,
          holding world.positions.snapshots positionId = none → weight positionId = 0) →
          (world.openPids.map weight).sum = (world.openPositions.map weight).sum := by
        intro weight weightless
        refine Repeats.sum_eq_sum_dedup fun positionId isOpen nonzero => ?_
        rw [count_openPids isOpen]
        refine mapped positionId isOpen (Option.isSome_iff_ne_none.mpr fun nothing => ?_)
        exact nonzero (weightless positionId nothing)
      obtain ⟨exposure, openRisk⟩ := sumAt_exact summed
      constructor
      · rw [exposure, once]
        · exact zero_add _
        · intro positionId nothing
          rw [exposureOf, nothing, Option.elim_none]
      · rw [openRisk, once]
        · exact zero_add _
        · intro positionId nothing
          rw [openRiskOf, nothing, Option.elim_none]

/-- In every reachable state, a call of `update_marks` ends as the portfolio manager's update
to the sums that it hands over, and these count every open position once exactly when the call
hands nothing over or no two orders are mapped to a position that holds something. -/
theorem run_countsOnce_iff (setup : Setup ℚ) (orders : OrderManager.Memory ℚ)
    (machine : ExecutionStateMachine.Machine) (environment : Nat → OrderManager.Answer ℚ)
    (steps : List (Step ℚ)) :
    let final := steps.foldl System.step (System.start setup orders machine environment)
    (∀ marks, Updated final.setup marks final.world (updateMarks final.setup marks final.world)) ∧
      ((∀ marks totals heat, Hands marks final.world final.world.portfolio.snapshot totals heat →
        CountsOnce marks final.world totals) ↔ final.world.Untracked ∨ final.world.MappedOnce) :=
  ⟨fun marks => updateMarks_updated _ marks _, countsOnce_iff _⟩

def halfSold : List (Step ℚ) :=
  onePosition ++
    [.orders (.place { OrderManager.marketBuy with side := .sell, quantity := 1, reduceOnly := true }),
    .sync (.ok
      [{ OrderManager.fillOf "f2" (1 / 2) with
         clientOrderId := OrderManager.placeId "main" 2
         exchangeOrderId := "8"
         side := .sell
         price := 110 }])]

def halfSoldWorld : World ℚ :=
  (halfSold.foldl System.step (System.start mainSetup OrderManager.Memory.initial
    OrderManager.freshMachine
    fun tick => acceptedAt (tickingClock tick))).world

/-- The sold order is mapped to the position too, which is counted twice. -/
theorem halfSold_counts_twice :
    ¬ ∀ (setup : Setup ℚ) (orders : OrderManager.Memory ℚ)
      (machine : ExecutionStateMachine.Machine) (environment : Nat → OrderManager.Answer ℚ)
      (steps : List (Step ℚ)) (marks : Symbol → Except CallError ℚ) (totals : Totals ℚ) (heat : ℚ),
      let final := (steps.foldl System.step (System.start setup orders machine environment)).world
      Hands marks final final.portfolio.snapshot totals heat → CountsOnce marks final totals := by
  intro always
  have mapped : PositionManager.positionIdOf "main" 1 ∈ halfSoldWorld.openPids ∧
      (halfSoldWorld.books.ordersOf (PositionManager.positionIdOf "main" 1)).length = 2 ∧
      (holding halfSoldWorld.positions.snapshots
        (PositionManager.positionIdOf "main" 1)).isSome = true ∧
      ∀ positionId ∈ halfSoldWorld.openPids,
        (halfSoldWorld.positions.snapshots.get? positionId).isSome = true := by decide +kernel
  obtain ⟨isOpen, twice, held, tracked⟩ := mapped
  rcases (countsOnce_iff halfSoldWorld).mp fun marks totals heat hands =>
    always mainSetup OrderManager.Memory.initial
      OrderManager.freshMachine (fun tick => acceptedAt (tickingClock tick))
      halfSold marks totals heat hands with ⟨positionId, member, unknown⟩ | once
  · have known := tracked positionId member
    rw [unknown] at known
    cases known
  · have single := once _ isOpen held
    rw [twice] at single
    cases single

end TurtleExecution.AccountingSync

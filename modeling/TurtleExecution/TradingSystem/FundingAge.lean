/-
The age at which a cycle judges the funding rates that it fetches.

The cycle reads the clock once, before anything is fetched, and a funding rate is
stamped when it is fetched.  Its age is therefore never positive, and the risk manager
takes a negative age for stale.
-/

import Mathlib.Data.Int.ConditionallyCompleteOrder
import TurtleExecution.HyperliquidAdapter.MarketData
import TurtleExecution.RiskManager.Freshness
import TurtleExecution.TradingSystem.Kept

set_option autoImplicit false

namespace TurtleExecution.TradingSystem

open ExchangeAdapter RiskManager HyperliquidAdapter Process

section

variable {Raw Rest : Type}

/-- A read of the adapter, in an engine that has more than the adapter. -/
def onFeed {Error Value : Type} (embed : CallError → Error)
    (read : Process (Feed Raw) CallError Value) : Process (Feed Raw × Rest) Error Value :=
  Process.focus Prod.fst (fun feed state => (feed, state.2)) embed read

def marketDataView (utc : UtcTexts) (wire : Wire Raw ℚ) : MarketDataView (Feed Raw × Rest) :=
  { getMarkPrice := fun symbol => onFeed id (getMarkPrice utc wire symbol)
    getFundingRate := fun symbol => onFeed id (getFundingRate utc wire symbol) }

/-- The engine, reading prices, rates and the time through the adapter. -/
def onHyperliquid (engine : Engine (Feed Raw × Rest)) (utc : UtcTexts) (wire : Wire Raw ℚ) :
    Engine (Feed Raw × Rest) :=
  { engine with
    clock := onFeed CycleError.adapter (HyperliquidAdapter.clock utc)
    marketData := marketDataView utc wire }

variable {state after : Feed Raw × Rest}

variable {engine : Engine (Feed Raw × Rest)} {Error Value : Type} {«universe» : List Symbol}

variable {read : Process (Feed Raw) CallError Value} {before start : Feed Raw × Rest}

theorem returned_onFeed {embed : CallError → Error} {value : Value}
    (ran : onFeed embed read state = (.returned value, after)) :
    read state.1 = (.returned value, after.1) := by
  unfold onFeed focus at ran
  rcases inner : read state.1 with ⟨outcome, feed⟩
  rw [inner] at ran
  cases outcome with
  | returned known =>
      cases ran
      rfl
  | raised error => cases ran
  | crashed => cases ran

def Shows (readings : Nat → Int) (reads : Nat) (state : Feed Raw × Rest) : Prop :=
  state.1.readings = readings ∧ reads ≤ state.1.reads

def Elapses {Error Value : Type} (part : Process (Feed Raw × Rest) Error Value) : Prop :=
  ∀ readings reads, Keeps (Shows readings reads) part

structure Engine.Elapses (engine : Engine (Feed Raw × Rest)) : Prop where
  start : TradingSystem.Elapses engine.start
  synchronize : TradingSystem.Elapses engine.synchronize
  reconcile : TradingSystem.Elapses engine.reconcile
  getOrders : TradingSystem.Elapses engine.getOrders
  strategies : ∀ strategy ∈ engine.strategies, ∀ context,
    TradingSystem.Elapses (strategy context)

private theorem elapses_pure (value : Value) :
    Elapses (pure value : Process (Feed Raw × Rest) Error Value) :=
  fun _ _ => keeps_pure _ value

theorem Elapses.shows {part : Process (Feed Raw × Rest) Error Value} (elapses : Elapses part)
    {readings : Nat → Int} {reads : Nat} {value : Value} (shows_ : Shows readings reads state)
    (ran : part state = (.returned value, after)) : Shows readings reads after := by
  have kept := elapses readings reads state shows_
  rw [ran] at kept
  exact kept

private theorem returned_takeContext {evaluatedAtUtc : String} {context : StrategyContext}
    (ran : takeContext engine «universe» evaluatedAtUtc state = (.returned context, after)) :
    context.evaluatedAtUtc = evaluatedAtUtc ∧ after = state := by
  obtain ⟨read, between, first, ran⟩ := returned_bind ran
  cases first
  obtain ⟨positions, between, taken, ran⟩ := returned_bind ran
  obtain ⟨_, rfl⟩ := returned_ofExcept taken
  cases ran
  exact ⟨rfl, rfl⟩

theorem openCycle_evaluatedAt (elapses : engine.Elapses) {utc : UtcTexts} {wire : Wire Raw ℚ}
    {started : Bool} {context : StrategyContext}
    (opened : openCycle (onHyperliquid engine utc wire) «universe» before =
      (.returned (started, context), start)) :
    ∃ reading, context.evaluatedAtUtc = utc.isoformat (before.1.readings reading) ∧
      Shows before.1.readings (reading + 1) start := by
  obtain ⟨started, first, ranStart, opened⟩ := returned_bind opened
  obtain ⟨_, second, ranSynchronize, opened⟩ := returned_bind opened
  obtain ⟨_, third, ranReconcile, opened⟩ := returned_bind opened
  obtain ⟨evaluatedAtUtc, fourth, ranClock, opened⟩ := returned_bind opened
  obtain ⟨context, fifth, ranContext, opened⟩ := returned_bind opened
  cases opened
  have initially : Shows before.1.readings 0 before := ⟨rfl, Nat.zero_le _⟩
  have afterStart := Elapses.shows (fun readings reads =>
    keeps_startIfNeeded (elapses.start readings reads)) initially ranStart
  have afterSynchronize := elapses.synchronize.shows afterStart ranSynchronize
  have afterReconcile := elapses.reconcile.shows afterSynchronize ranReconcile
  change onFeed CycleError.adapter (HyperliquidAdapter.clock utc) third = _ at ranClock
  obtain ⟨shown, ticked⟩ := returned_clock (returned_onFeed ranClock)
  obtain ⟨same, rfl⟩ := returned_takeContext ranContext
  refine ⟨third.1.reads, ?_, ?_⟩
  · rw [same, shown, afterReconcile.1]
  · unfold Shows
    rw [ticked]
    exact ⟨afterReconcile.1, Nat.le_refl _⟩

private theorem prepare_evaluatedAt (elapses : engine.Elapses) {utc : UtcTexts} {wire : Wire Raw ℚ}
    {cycle : PreparedCycle}
    (prepared : prepare (onHyperliquid engine utc wire) «universe» before =
      (.returned cycle, start)) :
    ∃ reading, cycle.context.evaluatedAtUtc = utc.isoformat (before.1.readings reading) ∧
      Shows before.1.readings (reading + 1) start := by
  obtain ⟨⟨started, context⟩, opened, openedAt, prepared⟩ := returned_bind prepared
  obtain ⟨reading, shown, afterClock⟩ := openCycle_evaluatedAt elapses openedAt
  obtain ⟨intents, collected, ranCollect, prepared⟩ := returned_bind prepared
  obtain ⟨orders, read, ranOrders, prepared⟩ := returned_bind prepared
  cases prepared
  refine ⟨reading, shown, ?_⟩
  have afterCollect := Elapses.shows (fun readings reads => keeps_collectIntents
    fun strategy member context => elapses.strategies strategy member context readings reads)
      afterClock ranCollect
  exact Elapses.shows (fun readings reads => keeps_withError (elapses.getOrders readings reads))
    afterCollect ranOrders

private theorem elapses_request {Body : Type} (answers : Feed Raw → Nat → Except CallError Body)
    (readings : Nat → Int) (reads : Nat) :
    Keeps (fun feed : Feed Raw => feed.readings = readings ∧ reads ≤ feed.reads)
      (request answers) := by
  refine keeps_bind (keeps_get _) fun feed => ?_
  refine keeps_bind (keeps_ofExcept _ _) fun _ => ?_
  refine keeps_bind (fun _ holds => holds) fun _ => ?_
  exact keeps_ofExcept _ _

private theorem elapses_readClock (readings : Nat → Int) (reads : Nat) :
    Keeps (fun feed : Feed Raw => feed.readings = readings ∧ reads ≤ feed.reads) readClock :=
  fun _ holds => ⟨holds.1, Nat.le_succ_of_le holds.2⟩

private theorem elapses_onFeed {embed : CallError → Error}
    (elapses : ∀ readings reads,
      Keeps (fun feed => feed.readings = readings ∧ reads ≤ feed.reads) read) :
    Elapses (onFeed embed read : Process (Feed Raw × Rest) Error Value) := by
  intro readings reads state shows_
  change Shows readings reads (focus _ _ _ read state).2
  rw [focus_state]
  exact elapses readings reads state.1 shows_

theorem elapses_getMarkPrice (utc : UtcTexts) (wire : Wire Raw ℚ) (symbol : Symbol) :
    Elapses ((marketDataView utc wire : MarketDataView (Feed Raw × Rest)).getMarkPrice symbol) := by
  refine elapses_onFeed fun readings reads => ?_
  refine keeps_bind (elapses_request _ readings reads) fun body => ?_
  refine keeps_bind (elapses_readClock readings reads) fun instant => ?_
  exact keeps_ofExcept _ _

theorem elapses_getFundingRate (utc : UtcTexts) (wire : Wire Raw ℚ) (symbol : Symbol) :
    Elapses ((marketDataView utc wire : MarketDataView (Feed Raw × Rest)).getFundingRate symbol) := by
  refine elapses_onFeed fun readings reads => ?_
  refine keeps_bind (elapses_request _ readings reads) fun body => ?_
  refine keeps_bind (elapses_readClock readings reads) fun instant => ?_
  refine keeps_bind (keeps_ofExcept _ _) fun funding => ?_
  refine keeps_bind (elapses_readClock readings reads) fun now => ?_
  refine keeps_bind (keeps_ofExcept _ _) fun rate => ?_
  refine keeps_bind (fun _ holds => holds) fun _ => ?_
  exact keeps_pure _ _

def Fate.ReportsStaleFunding : Fate → Prop
  | .rejected trade => trade.decision.ReportsStale .fundingInfo
  | _ => False

/-- A part of the construction fetched funding rates at later readings, and its
decisions report stale funding exactly for those of an age that is stale. -/
structure Fetches (context : StrategyContext) (inputs : ConstructionInputs) (evaluatedAt : Int)
    (state after : Feed Raw × Rest) (reports : Prop) : Prop where
  readings : after.1.readings = state.1.readings
  reads : state.1.reads ≤ after.1.reads
  times : ∃ times, after.1.fundingTimes = state.1.fundingTimes ++ times ∧
    (∀ time ∈ times, ∃ reading, state.1.reads ≤ reading ∧ reading < after.1.reads ∧
      time = state.1.readings reading) ∧
    (reports ↔ blockingReason context.killSwitchState = none ∧
      ∃ time ∈ times, isStale inputs.riskManager.limits (evaluatedAt - time) = true)

section

variable {context : StrategyContext} {inputs : ConstructionInputs} {evaluatedAt : Int}

private theorem fetches_nothing (readings : after.1.readings = state.1.readings)
    (reads : state.1.reads ≤ after.1.reads)
    (noFunding : after.1.fundingTimes = state.1.fundingTimes) :
    Fetches context inputs evaluatedAt state after False := by
  refine { readings, reads, times := ⟨[], ?_, ?_, ?_⟩ }
  · rw [noFunding, List.append_nil]
  · intro time member
    cases member
  · constructor
    · exact False.elim
    · rintro ⟨_, time, member, _⟩
      cases member

theorem Fetches.trans {state between after : Feed Raw × Rest} {reports also : Prop}
    (first : Fetches context inputs evaluatedAt state between reports)
    (second : Fetches context inputs evaluatedAt between after also) :
    Fetches context inputs evaluatedAt state after (reports ∨ also) := by
  obtain ⟨times, appended, taken, stale⟩ := first.times
  obtain ⟨times', appended', taken', stale'⟩ := second.times
  refine { readings := second.readings.trans first.readings
           reads := Nat.le_trans first.reads second.reads
           times := ⟨times ++ times', ?_, ?_, ?_⟩ }
  · rw [appended', appended, List.append_assoc]
  · intro time member
    rcases List.mem_append.mp member with early | late
    · obtain ⟨reading, from_, until_, shown⟩ := taken time early
      exact ⟨reading, from_, Nat.lt_of_lt_of_le until_ second.reads, shown⟩
    · obtain ⟨reading, from_, until_, shown⟩ := taken' time late
      exact ⟨reading, Nat.le_trans first.reads from_, until_, by rw [shown, first.readings]⟩
  · rw [stale, stale', ← and_or_left]
    refine and_congr_right fun _ => ?_
    constructor
    · rintro (⟨time, member, old⟩ | ⟨time, member, old⟩)
      · exact ⟨time, List.mem_append_left _ member, old⟩
      · exact ⟨time, List.mem_append_right _ member, old⟩
    · rintro ⟨time, member, old⟩
      rcases List.mem_append.mp member with early | late
      · exact Or.inl ⟨time, early, old⟩
      · exact Or.inr ⟨time, late, old⟩

theorem Fetches.congr {reports also : Prop}
    (fetches : Fetches context inputs evaluatedAt state after reports) (same : reports ↔ also) :
    Fetches context inputs evaluatedAt state after also := by
  rw [← propext same]
  exact fetches

variable {wire : Wire Raw ℚ}

private theorem fetches_entryPrice {utc : UtcTexts} {intent : TradeIntent ℚ} {price : ℚ}
    (ran : entryPrice (marketDataView utc wire) intent state = (.returned price, after)) :
    Fetches context inputs evaluatedAt state after False := by
  unfold entryPrice at ran
  cases limited : intent.limitPrice with
  | some limitPrice =>
      rw [limited] at ran
      cases ran
      exact fetches_nothing rfl (Nat.le_refl _) rfl
  | none =>
      rw [limited] at ran
      obtain ⟨mark, between, asked, ran⟩ := returned_bind ran
      cases ran
      have later := returned_getMarkPrice (returned_onFeed (returned_withError asked))
      refine fetches_nothing ?_ ?_ ?_
      · rw [later]
      · rw [later]
        exact Nat.le_succ _
      · rw [later]

variable {tradeRequest : TradeRequest ℚ} {object : IntentObject} {fate : Fate}

private theorem staleAt_fundingInfo {symbol : Symbol} {funding : FundingRate ℚ} {time : Int}
    (shown : context.evaluatedAtUtc = inputs.riskManager.utc.isoformat evaluatedAt)
    (stamped : funding.timestampUtc = inputs.riskManager.utc.isoformat time) :
    StaleAt inputs.riskManager (evaluationOf context inputs tradeRequest symbol funding)
        .fundingInfo ↔
      isStale inputs.riskManager.limits (evaluatedAt - time) = true := by
  have aged : ageMicros inputs.riskManager.utc context.evaluatedAtUtc funding.timestampUtc =
      .ok (evaluatedAt - time) := by
    unfold ageMicros parseUtc
    rw [shown, stamped, UtcTexts.fromisoformat_isoformat, UtcTexts.fromisoformat_isoformat]
    rfl
  constructor
  · rintro ⟨timestamp, age, member, known, old⟩
    simp only [timestampsToCheck, evaluationOf, Option.toList_some, List.map_cons, List.map_nil,
      Option.getD_some, List.mem_append, List.mem_singleton, List.mem_map, Prod.mk.injEq,
      reduceCtorEq, false_and, and_false, exists_false, false_or, or_false, true_and] at member
    subst member
    change ageMicros _ context.evaluatedAtUtc _ = _ at known
    rw [aged] at known
    cases known
    exact old
  · intro old
    refine ⟨funding.timestampUtc, evaluatedAt - time, ?_, aged, old⟩
    simp [timestampsToCheck, evaluationOf]

private theorem blocks_evaluationOf {symbol : Symbol} {funding : FundingRate ℚ} :
    ¬ Blocks (evaluationOf context inputs tradeRequest symbol funding) ↔
      blockingReason context.killSwitchState = none := by
  constructor
  · intro free
    cases reason : blockingReason context.killSwitchState with
    | none => rfl
    | some reason' => exact (free ⟨_, rfl, by rw [reason]; rfl⟩).elim
  · rintro none_ ⟨state, same, blocks⟩
    cases same
    rw [none_] at blocks
    cases blocks

private theorem fetches_judge
    (shown : context.evaluatedAtUtc = inputs.riskManager.utc.isoformat evaluatedAt)
    (ran : judge (marketDataView inputs.riskManager.utc wire) context inputs object tradeRequest
      state = (.returned fate, after)) :
    Fetches context inputs evaluatedAt state after fate.ReportsStaleFunding := by
  obtain ⟨funding, between, asked, ran⟩ := returned_bind ran
  obtain ⟨later, stamped⟩ := returned_getFundingRate (returned_onFeed (returned_withError asked))
  obtain ⟨decision, evaluatedIn, evaluated, decision_⟩ := returned_bind ran
  obtain ⟨decided, rfl⟩ := returned_ofExcept evaluated
  cases decision_
  have reports : decision.ReportsStale .fundingInfo ↔
      blockingReason context.killSwitchState = none ∧
        isStale inputs.riskManager.limits
          (evaluatedAt - state.1.readings state.1.reads) = true := by
    rw [evaluate_reportsStale (ok_of_mapError decided), blocks_evaluationOf,
      staleAt_fundingInfo shown stamped]
  refine { readings := by rw [later], reads := ?_, times :=
    ⟨[state.1.readings state.1.reads], by rw [later], ?_, ?_⟩ }
  · rw [later]
    exact Nat.le_add_right _ _
  · intro time member
    rw [List.mem_singleton.mp member]
    refine ⟨state.1.reads, Nat.le_refl _, ?_, rfl⟩
    rw [later]
    exact Nat.lt_add_of_pos_right (by decide)
  · simp only [List.mem_singleton, exists_eq_left]
    rw [← reports]
    by_cases approved : decision.decision = .approved
    · rw [if_pos approved]
      constructor
      · exact False.elim
      · rintro ⟨age, member⟩
        rw [evaluate_approved (ok_of_mapError decided) approved] at member
        cases member
    · rw [if_neg approved]
      exact Iff.rfl

private theorem fetches_judgeSized {sized : Except SizeError (TradeRequest ℚ)}
    (shown : context.evaluatedAtUtc = inputs.riskManager.utc.isoformat evaluatedAt)
    (ran : judgeSized (marketDataView inputs.riskManager.utc wire) context inputs object sized
      state = (.returned fate, after)) :
    Fetches context inputs evaluatedAt state after fate.ReportsStaleFunding := by
  rcases sized with (message | error | error) | tradeRequest
  · cases ran
    exact fetches_nothing rfl (Nat.le_refl _) rfl
  · cases ran
  · cases ran
  · exact fetches_judge shown ran

private theorem fetches_fateOf
    (shown : context.evaluatedAtUtc = inputs.riskManager.utc.isoformat evaluatedAt)
    (ran : fateOf (marketDataView inputs.riskManager.utc wire) context inputs object state =
      (.returned fate, after)) :
    Fetches context inputs evaluatedAt state after fate.ReportsStaleFunding := by
  obtain ⟨price, between, priced, ran⟩ := returned_bind ran
  have first : Fetches context inputs evaluatedAt state between False := fetches_entryPrice priced
  obtain ⟨equity, middle, computed, judged⟩ := returned_bind ran
  obtain ⟨_, rfl⟩ := returned_ofExcept computed
  exact (first.trans (fetches_judgeSized shown judged)).congr (or_iff_right not_false)

def ConstructionResult.ReportsStaleFunding (result : ConstructionResult) : Prop :=
  ∃ trade ∈ result.rejected, trade.decision.ReportsStale .fundingInfo

private theorem reportsStaleFunding_add (result : ConstructionResult) (fate : Fate) :
    (result.add fate).ReportsStaleFunding ↔
      result.ReportsStaleFunding ∨ fate.ReportsStaleFunding := by
  cases fate with
  | approved tradeRequest => exact (or_iff_left not_false).symm
  | skipped intent => exact (or_iff_left not_false).symm
  | rejected trade =>
      constructor
      · rintro ⟨known, member, stale⟩
        rcases List.mem_append.mp member with old | new
        · exact Or.inl ⟨known, old, stale⟩
        · rw [List.mem_singleton.mp new] at stale
          exact Or.inr stale
      · rintro (⟨known, member, stale⟩ | stale)
        · exact ⟨known, List.mem_append_left _ member, stale⟩
        · exact ⟨trade, List.mem_append_right _ (List.mem_singleton_self trade), stale⟩

private theorem fetches_fates {objects : List IntentObject} {result final : ConstructionResult}
    (shown : context.evaluatedAtUtc = inputs.riskManager.utc.isoformat evaluatedAt)
    (ran : fates (marketDataView inputs.riskManager.utc wire) context inputs result objects state =
      (.returned final, after)) :
    ∃ reports, Fetches context inputs evaluatedAt state after reports ∧
      (final.ReportsStaleFunding ↔ result.ReportsStaleFunding ∨ reports) := by
  induction objects generalizing result state with
  | nil =>
      cases ran
      exact ⟨False, fetches_nothing rfl (Nat.le_refl _) rfl, (or_iff_left not_false).symm⟩
  | cons object objects ih =>
      obtain ⟨fate, between, judged, ran⟩ := returned_bind ran
      obtain ⟨reports, fetched, final_⟩ := ih ran
      refine ⟨_, (fetches_fateOf shown judged).trans fetched, ?_⟩
      rw [final_, reportsStaleFunding_add, or_assoc]

end

/-- A cycle that has prepared, and has then judged the first of its survivors. -/
structure JudgedCycle (engine : Engine (Feed Raw × Rest)) («universe» : List Symbol)
    (inputs : ConstructionInputs) (before : Feed Raw × Rest) where
  cycle : PreparedCycle
  start : Feed Raw × Rest
  prepared : prepare engine «universe» before = (.returned cycle, start)
  judged : List IntentObject
  judgedFirst : judged <+: (select cycle.context.«universe» cycle.tradable).1
  result : ConstructionResult
  after : Feed Raw × Rest
  ran : fates engine.marketData cycle.context inputs
    (unjudged (select cycle.context.«universe» cycle.tradable).2) judged start =
      (.returned result, after)

namespace JudgedCycle

variable {engine : Engine (Feed Raw × Rest)} {«universe» : List Symbol}
  {inputs : ConstructionInputs} {before : Feed Raw × Rest}

def fundingTimes (run : JudgedCycle engine «universe» inputs before) : List Int :=
  run.after.1.fundingTimes.drop run.start.1.fundingTimes.length

def lastInstant (run : JudgedCycle engine «universe» inputs before) : Int :=
  run.after.1.readings (run.after.1.reads - 1)

end JudgedCycle

/-- No decision reports stale funding exactly if the state blocks every decision, or if
every funding rate was fetched at the very instant that the cycle had read before. -/
theorem judgedCycle_fundingFresh_iff {engine : Engine (Feed Raw × Rest)}
    (elapses : engine.Elapses) {wire : Wire Raw ℚ} {«universe» : List Symbol}
    {inputs : ConstructionInputs} {before : Feed Raw × Rest}
    (monotone : Monotone before.1.readings)
    (run : JudgedCycle (onHyperliquid engine inputs.riskManager.utc wire) «universe» inputs before)
    {evaluatedAt : Int}
    (shown : run.cycle.context.evaluatedAtUtc = inputs.riskManager.utc.isoformat evaluatedAt)
    (short : run.lastInstant - evaluatedAt <
      inputs.riskManager.limits.maxStaleDataSeconds * secondMicros) :
    (∀ trade ∈ run.result.rejected, ¬ trade.decision.ReportsStale .fundingInfo) ↔
      (blockingReason run.cycle.context.killSwitchState).isSome ∨
        ∀ time ∈ run.fundingTimes, time = evaluatedAt := by
  obtain ⟨reading, shownThere, shows_⟩ := prepare_evaluatedAt elapses run.prepared
  have atReading : evaluatedAt = before.1.readings reading :=
    inputs.riskManager.utc.isoformat_injective (shown.symm.trans shownThere)
  obtain ⟨reports, fetched, final⟩ := fetches_fates shown run.ran
  obtain ⟨times, appended, taken, stale⟩ := fetched.times
  have isTimes : run.fundingTimes = times := by
    rw [JudgedCycle.fundingTimes, appended, List.drop_left]
  have laterReading : ∀ later, reading ≤ later →
      evaluatedAt ≤ run.after.1.readings later := by
    intro later ordered
    rw [fetched.readings, shows_.1, atReading]
    exact monotone ordered
  -- The limit is positive, because time has not gone back since the evaluation.
  have limitPositive : 0 < inputs.riskManager.limits.maxStaleDataSeconds * secondMicros := by
    have last := laterReading (run.after.1.reads - 1)
      (Nat.le_sub_one_of_lt (Nat.lt_of_lt_of_le shows_.2 fetched.reads))
    unfold JudgedCycle.lastInstant at short
    omega
  have staleIff : ∀ time ∈ times,
      (isStale inputs.riskManager.limits (evaluatedAt - time) = true ↔ time ≠ evaluatedAt) := by
    intro time member
    obtain ⟨later, from_, _, rfl⟩ := taken time member
    have ordered := laterReading later (by have := shows_.2; omega)
    rw [fetched.readings] at ordered
    rw [isStale, decide_eq_true_iff]
    omega
  have noneStale : (∀ trade ∈ run.result.rejected, ¬ trade.decision.ReportsStale .fundingInfo) ↔
      ¬ reports := by
    have nothingBefore : ∀ skipped, ¬ (unjudged skipped).ReportsStaleFunding := by
      rintro skipped ⟨trade, member, _⟩
      cases member
    rw [or_iff_right (nothingBefore _)] at final
    rw [← final]
    unfold ConstructionResult.ReportsStaleFunding
    simp only [not_exists, not_and]
  rw [noneStale, stale, isTimes, not_and_or, ← ne_eq, ← Option.isSome_iff_ne_none]
  refine or_congr_right ?_
  simp only [not_exists, not_and]
  refine forall₂_congr fun time member => ?_
  rw [staleIff time member, not_not]

end

def exactWire : Wire ℚ ℚ :=
  { number := some
    time := fun _ => none
    str := fun _ => ""
    repr := fun _ => ""
    truthy := fun value => value ≠ 0 }

def entryIntent : IntentObject :=
  { identity := 0
    intent :=
      { symbol := btc
        side := .buy
        orderType := .limit
        timeInForce := .gtc
        reduceOnly := false
        stopPrice := 90
        conviction := none
        limitPrice := some 100 } }

def entryEngine : Engine (Feed ℚ × Unit) :=
  { idleEngine _ with
    clock := raise (.other "no clock")
    strategies := [fun _ => pure [entryIntent]] }

def tickingFeed : Feed ℚ :=
  { connected := true
    readings := fun reading => reading
    reads := 0
    allMids := fun _ => .ok []
    metaAndAssetCtxs := fun _ => .ok (.pair [some "BTC"] [some 0])
    requests := 0
    fundingTimes := [] }

def entryCycle : PreparedCycle :=
  { started := false
    context :=
      { «universe» := [btc]
        portfolioSnapshot := fundedSnapshot
        openPositions := []
        killSwitchState := .ready
        evaluatedAtUtc := UtcTexts.marks.isoformat 0 }
    intents := [entryIntent]
    liveKeys := [] }

def entryConstruction : Outcome CycleError ConstructionResult × (Feed ℚ × Unit) :=
  fates (marketDataView UtcTexts.marks exactWire) entryCycle.context entryInputs
    (unjudged (select [btc] entryCycle.tradable).2) [entryIntent]
    ({ tickingFeed with reads := 1 }, ())

def rejectedOf (outcome : Outcome CycleError ConstructionResult) : List RejectedTrade :=
  match outcome with
  | .returned result => result.rejected
  | _ => []

private theorem entryConstruction_rejects :
    (rejectedOf entryConstruction.1).map (fun trade =>
      (trade.decision.decision, trade.decision.reasonCodes, trade.decision.violatedLimits.map
        fun violation => match violation with
          | .stale label age => some (label, age)
          | _ => none)) =
      [(.failSafe, [.staleData], [some (.fundingInfo, -1)])] := by
  decide +kernel

private theorem entryConstruction_returned : ∃ result,
    entryConstruction = (.returned result, entryConstruction.2) ∧
      result.rejected = rejectedOf entryConstruction.1 := by
  have rejects := entryConstruction_rejects
  rcases ran : entryConstruction with ⟨result | error | _, after⟩
  · exact ⟨result, rfl, rfl⟩
  · rw [ran] at rejects
    cases rejects
  · rw [ran] at rejects
    cases rejects

private theorem entryCycle_runs : ∃ run : JudgedCycle
    (onHyperliquid entryEngine entryInputs.riskManager.utc exactWire) [btc] entryInputs
    (tickingFeed, ()),
    run.cycle = entryCycle ∧ run.result.rejected = rejectedOf entryConstruction.1 ∧
      run.lastInstant = 2 := by
  obtain ⟨result, ran, rejected⟩ := entryConstruction_returned
  have survivors : (select [btc] entryCycle.tradable).1 = [entryIntent] := by decide +kernel
  refine ⟨{
    cycle := entryCycle
    start := ({ tickingFeed with reads := 1 }, ())
    prepared := rfl
    judged := [entryIntent]
    judgedFirst := ?_
    result
    after := entryConstruction.2
    ran }, rfl, rejected, ?_⟩
  · change [entryIntent] <+: (select [btc] entryCycle.tradable).1
    rw [survivors]
  · change entryConstruction.2.1.readings (entryConstruction.2.1.reads - 1) = 2
    decide +kernel

theorem entryEngine_elapses : entryEngine.Elapses :=
  { start := elapses_pure ()
    synchronize := elapses_pure ()
    reconcile := elapses_pure ()
    getOrders := elapses_pure []
    strategies := by
      intro strategy member context
      rw [List.mem_singleton.mp member]
      exact elapses_pure [entryIntent] }

theorem tickingFeed_monotone : Monotone tickingFeed.readings :=
  fun _ _ ordered => Int.ofNat_le.mpr ordered

theorem judgedCycle_fundingFresh_iff_entry :
    ∃ run : JudgedCycle (onHyperliquid entryEngine entryInputs.riskManager.utc exactWire)
      [btc] entryInputs (tickingFeed, ()),
      (∀ trade ∈ run.result.rejected, ¬ trade.decision.ReportsStale .fundingInfo) ↔
        (blockingReason run.cycle.context.killSwitchState).isSome ∨
          ∀ time ∈ run.fundingTimes, time = 0 := by
  obtain ⟨run, isCycle, _, last⟩ := entryCycle_runs
  have shown : run.cycle.context.evaluatedAtUtc = entryInputs.riskManager.utc.isoformat 0 := by
    rw [isCycle]
    rfl
  have short : run.lastInstant - 0 <
      entryInputs.riskManager.limits.maxStaleDataSeconds * secondMicros := by
    rw [last]
    decide
  exact ⟨run, judgedCycle_fundingFresh_iff entryEngine_elapses tickingFeed_monotone run shown short⟩

/-- On a clock that does not go back, a cycle of two microseconds fails its entry for the
rate that it has just fetched, though data may be a minute old. -/
theorem entryCycle_fundingStale :
    entryEngine.Elapses ∧ Monotone tickingFeed.readings ∧
    entryInputs.riskManager.limits.maxStaleDataSeconds = 60 ∧
    ∃ run : JudgedCycle (onHyperliquid entryEngine entryInputs.riskManager.utc exactWire)
      [btc] entryInputs (tickingFeed, ()),
      run.cycle.context.evaluatedAtUtc = UtcTexts.marks.isoformat 0 ∧ run.lastInstant = 2 ∧
      ∃ trade ∈ run.result.rejected, trade.decision.decision = .failSafe ∧
        trade.decision.ReportsStale .fundingInfo := by
  refine ⟨entryEngine_elapses, tickingFeed_monotone, rfl, ?_⟩
  obtain ⟨run, isCycle, rejected, last⟩ := entryCycle_runs
  refine ⟨run, by rw [isCycle]; rfl, last, ?_⟩
  have rejects := entryConstruction_rejects
  rw [← rejected] at rejects
  obtain ⟨trade, trades, isTrade, shown, _⟩ := List.map_eq_cons_iff.mp rejects
  rw [Prod.mk.injEq, Prod.mk.injEq] at shown
  obtain ⟨isFailSafe, _, violations⟩ := shown
  refine ⟨trade, by rw [isTrade]; exact List.mem_cons_self, isFailSafe, -1, ?_⟩
  obtain ⟨violation, _, isViolation, labelled, _⟩ := List.map_eq_cons_iff.mp violations
  rw [isViolation]
  cases violation with
  | stale label age =>
      cases labelled
      exact List.mem_cons_self
  | _ => cases labelled

end TurtleExecution.TradingSystem

/-
The funding rates that the bridge fetches within a cycle.

A cycle reads the clock before its strategies are asked, and the bridge judges what it fetches at
that reading.  The adapter stamps a rate with a later one, so that the rate is of the future
unless the clock has stood still.
-/

import TurtleExecution.ExecutionBridge.Strategy
import TurtleExecution.TradingSystem.FundingAge

set_option autoImplicit false

namespace TurtleExecution

namespace DataSources

private theorem totalSeconds_zero : totalSeconds 0 = .float (.finite 0) := by
  decide +kernel

theorem FundingRateProvider.judge_available_iff {Number : Type} {provider : FundingRateProvider}
    {wording : Wording} {fetchedAtUtc : String} {funding : ExchangeAdapter.FundingRate Number}
    {micros : Int} (notBefore : micros ≤ 0) :
    provider.judge wording fetchedAtUtc funding (totalSeconds micros) =
        .available { value := funding.rate, observedAtUtc := funding.timestampUtc } ↔
      micros = 0 := by
  unfold judge
  constructor
  · intro available
    by_contra moved
    rw [if_pos (totalSeconds_lt_zero_iff.mpr (by omega))] at available
    cases available
  · rintro rfl
    have fresh : (PyNumber.float provider.maxStalenessSeconds).lt (totalSeconds 0) ≠ true := by
      intro stale
      obtain ⟨low, high, isLow, isHigh, below⟩ := PyNumber.lt_iff.mp stale
      rw [totalSeconds_zero] at isHigh
      have notPositive : (PyNumber.float provider.maxStalenessSeconds).le (.int 0) = true :=
        PyNumber.le_iff.mpr ⟨low, high, isLow, isHigh, below.le⟩
      rw [provider.positive] at notPositive
      cases notPositive
    rw [if_neg (mt totalSeconds_lt_zero_iff.mp (lt_irrefl _)), if_neg fresh]

end DataSources

namespace ExecutionBridge

open ExchangeAdapter Candidates DataSources Features HyperliquidAdapter Process TradingSystem

section

variable {Raw Rest : Type}

def surroundingsOn (utc : UtcTexts) (wire : Wire Raw ℚ) (decimalOf : String → Option ℚ)
    (wording : Wording) : Surroundings (Feed Raw × Rest) ℚ :=
  { fromisoformat := utc.fromisoformat
    decimalOf
    wording
    reads :=
      { getMarkPrice := (marketDataView utc wire).getMarkPrice
        getFundingRate := (marketDataView utc wire).getFundingRate } }

/-- The fetch was made at a later reading, and what the adapter returned is judged at the time of
the context. -/
structure FetchedFrom (surroundings : Surroundings (Feed Raw × Rest) ℚ) (context : StrategyContext)
    (readings : Nat → Int) (reads : Nat) (fetch : Fetch (Feed Raw × Rest) ℚ) : Prop where
  shows_ : Shows readings reads fetch.world
  judged : ∀ funding after,
    surroundings.reads.getFundingRate fetch.symbol fetch.world = (.returned funding, after) →
      fetch.outcome = FundingRateProvider.default.readingOf surroundings.wording
        surroundings.fromisoformat fetch.symbol context.evaluatedAtUtc (.ok funding)

def FetchesFrom (surroundings : Surroundings (Feed Raw × Rest) ℚ) (context : StrategyContext)
    (readings : Nat → Int) (reads : Nat) (known : List (Fetch (Feed Raw × Rest) ℚ))
    (state : BridgeState (Feed Raw × Rest) ℚ) : Prop :=
  Shows readings reads state.world ∧ ∃ fetched, state.fetches = known ++ fetched ∧
    ∀ fetch ∈ fetched, FetchedFrom surroundings context readings reads fetch

private theorem fetchReading_of_attempt {State Number : Type} [BridgeArithmetic Number]
    {surroundings : Surroundings State Number} {context : StrategyContext}
    (spec : CandidateSpecification) {symbol : Symbol} {state : BridgeState State Number}
    {after : State} {funding : Except CallError (FundingRate Number)}
    (read : (attempt (surroundings.reads.getFundingRate symbol) :
      Process State DataSourceError _) state.world = (.returned funding, after)) :
    (fetchReading surroundings context spec symbol state).2 =
      state.fetched spec symbol (FundingRateProvider.default.readingOf surroundings.wording
        surroundings.fromisoformat symbol context.evaluatedAtUtc funding) after := by
  have fetched : FundingRateProvider.default.fetch surroundings.wording surroundings.fromisoformat
      surroundings.reads (pure context.evaluatedAtUtc) symbol state.world =
        ofExcept (FundingRateProvider.default.readingOf surroundings.wording
          surroundings.fromisoformat symbol context.evaluatedAtUtc funding) after :=
    bind_returned read
  unfold fetchReading
  dsimp only
  rw [fetched]
  cases FundingRateProvider.default.readingOf surroundings.wording surroundings.fromisoformat
    symbol context.evaluatedAtUtc funding <;> rfl

variable {surroundings : Surroundings (Feed Raw × Rest) ℚ} {context : StrategyContext}
  {readings : Nat → Int} {reads : Nat} {known : List (Fetch (Feed Raw × Rest) ℚ)}

variable {state : BridgeState (Feed Raw × Rest) ℚ} {fetch : Fetch (Feed Raw × Rest) ℚ}
  {decimalOf : String → Option ℚ}

theorem FetchesFrom.fetched (holds : FetchesFrom surroundings context readings reads known state)
    (spec : CandidateSpecification) {symbol : Symbol}
    {outcome : Except DataSourceError (FundingRateReading ℚ)} {after : Feed Raw × Rest}
    (shows_ : Shows readings reads after)
    (judged : ∀ funding last,
      surroundings.reads.getFundingRate symbol state.world = (.returned funding, last) →
        outcome = FundingRateProvider.default.readingOf surroundings.wording
          surroundings.fromisoformat symbol context.evaluatedAtUtc (.ok funding)) :
    FetchesFrom surroundings context readings reads known
      (state.fetched spec symbol outcome after) := by
  obtain ⟨showsBefore, fetched, isFetched, each⟩ := holds
  let fetch : Fetch (Feed Raw × Rest) ℚ := { spec, symbol, world := state.world, outcome }
  refine ⟨shows_, fetched ++ [fetch], ?_, ?_⟩
  · change state.fetches ++ [fetch] = _
    rw [isFetched, List.append_assoc]
  · intro other member
    rcases List.mem_append.mp member with old | new
    · exact each other old
    · rw [List.mem_singleton.mp new]
      exact { shows_ := showsBefore, judged }

private theorem keeps_fetchReading
    (elapses : ∀ symbol, Elapses (surroundings.reads.getFundingRate symbol))
    (spec : CandidateSpecification) (symbol : Symbol) :
    Keeps (FetchesFrom surroundings context readings reads known)
      (fetchReading surroundings context spec symbol) := by
  intro state holds
  have shows_ := elapses symbol readings reads state.world holds.1
  rcases ran : surroundings.reads.getFundingRate symbol state.world with ⟨outcome, after⟩
  rw [ran] at shows_
  cases outcome with
  | returned funding =>
      rw [fetchReading_of_attempt spec (attempt_returned ran)]
      refine holds.fetched spec shows_ fun other last again => ?_
      rw [ran] at again
      cases again
      rfl
  | raised error =>
      rw [fetchReading_of_attempt spec (attempt_raised ran)]
      refine holds.fetched spec shows_ fun other last again => ?_
      rw [ran] at again
      cases again
  | crashed =>
      have crashed : FundingRateProvider.default.fetch surroundings.wording
          surroundings.fromisoformat surroundings.reads (pure context.evaluatedAtUtc) symbol
            state.world = (.crashed, after) := by
        change Process.bind (attempt (surroundings.reads.getFundingRate symbol)) _ state.world = _
        unfold Process.bind
        rw [attempt_crashed ran]
      unfold fetchReading
      dsimp only
      rw [crashed]
      exact ⟨shows_, holds.2⟩

private theorem keeps_readMark (elapses : ∀ symbol, Elapses (surroundings.reads.getMarkPrice symbol))
    (symbol : Symbol) :
    Keeps (FetchesFrom surroundings context readings reads known)
      (readMark surroundings symbol) := by
  intro state holds
  unfold readMark
  rw [focus_state]
  exact ⟨keeps_attempt (elapses symbol readings reads) state.world holds.1, holds.2⟩

private theorem generateIntents_fetchesFrom
    (fundingElapses : ∀ symbol, Elapses (surroundings.reads.getFundingRate symbol))
    (markElapses : ∀ symbol, Elapses (surroundings.reads.getMarkPrice symbol))
    (live : List CandidateSpecification) (shows_ : Shows readings reads state.world) :
    FetchesFrom surroundings context readings reads state.fetches
      (generateIntents surroundings context live state).2 :=
  keeps_generateIntents (keeps_fetchReading fundingElapses) (fun _ _ _ holds => holds)
    (keeps_readMark markElapses) state ⟨shows_, [], by rw [List.append_nil], nofun⟩

/-- The reading has the rate, and so has a signal that is made of it. -/
def Fetch.IsFresh (decimalOf : String → Option ℚ) (fetch : Fetch (Feed Raw × Rest) ℚ)
    (funding : FundingRate ℚ) : Prop :=
  ∃ reading, fetch.outcome = .ok reading ∧
    reading.result =
      .available { value := funding.rate, observedAtUtc := funding.timestampUtc } ∧
    ∀ signal, FundingRateThreshold.evaluate decimalOf (FundingRateFeature.compute reading)
        fetch.spec = .ok signal →
      signal.result.value?.map Opinion.featureValue = some funding.rate

/-- A cycle that has opened, has asked other strategies and then asks the bridge. -/
structure BridgedCycle (engine : Engine (Feed Raw × Rest)) (utc : UtcTexts) (wire : Wire Raw ℚ)
    (decimalOf : String → Option ℚ) (wording : Wording) («universe» : List Symbol)
    (before : Feed Raw × Rest) where
  started : Bool
  context : StrategyContext
  start : Feed Raw × Rest
  opened : openCycle (onHyperliquid engine utc wire) «universe» before =
    (.returned (started, context), start)
  notBlank : PyText.isBlank context.evaluatedAtUtc = false
  others : List (StrategyContext → Process (Feed Raw × Rest) CycleError (List IntentObject))
  othersFirst : others <+: engine.strategies
  intents : List IntentObject
  bridge : BridgeState (Feed Raw × Rest) ℚ
  asked : collectIntents context others start = (.returned intents, bridge.world)
  live : List CandidateSpecification

def BridgedCycle.fetches {engine : Engine (Feed Raw × Rest)} {utc : UtcTexts} {wire : Wire Raw ℚ}
    {decimalOf : String → Option ℚ} {wording : Wording} {«universe» : List Symbol}
    {before : Feed Raw × Rest}
    (run : BridgedCycle engine utc wire decimalOf wording «universe» before) :
    List (Fetch (Feed Raw × Rest) ℚ) :=
  (generateIntents (surroundingsOn utc wire decimalOf wording) run.context run.live
    run.bridge).2.fetches.drop run.bridge.fetches.length

theorem BridgedCycle.fetchedFrom {engine : Engine (Feed Raw × Rest)} (elapses : engine.Elapses)
    {utc : UtcTexts} {wire : Wire Raw ℚ} {wording : Wording} {«universe» : List Symbol}
    {before : Feed Raw × Rest}
    {run : BridgedCycle engine utc wire decimalOf wording «universe» before}
    (shows_ : Shows readings reads run.start) (fetched : fetch ∈ run.fetches) :
    FetchedFrom (surroundingsOn utc wire decimalOf wording) run.context readings reads fetch := by
  have afterOthers := Elapses.shows (fun readings reads => keeps_collectIntents
    fun strategy member context =>
      elapses.strategies strategy (run.othersFirst.subset member) context readings reads)
        shows_ run.asked
  have from_ : FetchesFrom (surroundingsOn utc wire decimalOf wording) run.context readings reads
      run.bridge.fetches _ :=
    generateIntents_fetchesFrom (elapses_getFundingRate utc wire) (elapses_getMarkPrice utc wire)
      run.live afterOthers
  obtain ⟨_, new, appended, each⟩ := from_
  rw [BridgedCycle.fetches, appended, List.drop_left] at fetched
  exact each fetch fetched

private theorem readingOf_ok {Number : Type} (provider : FundingRateProvider) (wording : Wording)
    {utc : UtcTexts} (symbol : Symbol) {fetchedAtUtc : String} {funding : FundingRate Number}
    {fetchedAt observedAt : Int} (notBlank : PyText.isBlank fetchedAtUtc = false)
    (shown : fetchedAtUtc = utc.isoformat fetchedAt)
    (stamped : funding.timestampUtc = utc.isoformat observedAt) :
    provider.readingOf wording utc.fromisoformat symbol fetchedAtUtc (.ok funding) =
      .ok { symbol
            fetchedAtUtc := ⟨fetchedAtUtc, notBlank⟩
            result := provider.judge wording fetchedAtUtc funding
              (totalSeconds (fetchedAt - observedAt)) } := by
  have age : ageSeconds utc.fromisoformat fetchedAtUtc funding.timestampUtc =
      .ok (totalSeconds (fetchedAt - observedAt)) := by
    unfold ageSeconds
    rw [shown, stamped, UtcTexts.fromisoformat_isoformat, UtcTexts.fromisoformat_isoformat]
  have isText : NonBlank.ofText? fetchedAtUtc = some ⟨fetchedAtUtc, notBlank⟩ :=
    NonBlank.ofText?_text ⟨fetchedAtUtc, notBlank⟩
  refine (bind_of_ok age).trans ?_
  unfold readAt
  rw [isText]

private theorem isFresh_iff {funding : FundingRate ℚ} {reading : FundingRateReading ℚ}
    (outcome : fetch.outcome = .ok reading) :
    fetch.IsFresh decimalOf funding ↔
      reading.result =
        .available { value := funding.rate, observedAtUtc := funding.timestampUtc } := by
  constructor
  · rintro ⟨known, isKnown, available, _⟩
    rw [outcome] at isKnown
    cases isKnown
    exact available
  · intro available
    refine ⟨reading, outcome, available, fun signal evaluated => ?_⟩
    rw [FundingRateThreshold.evaluate_available evaluated]
    unfold FundingRateFeature.compute
    rw [available]
    rfl

/-- A rate that was returned is available exactly if the clock still showed, when it was stamped,
the instant of the cycle. -/
theorem bridgedCycle_fresh_iff {engine : Engine (Feed Raw × Rest)} (elapses : engine.Elapses)
    {utc : UtcTexts} {wire : Wire Raw ℚ} {decimalOf : String → Option ℚ} {wording : Wording}
    {«universe» : List Symbol} {before : Feed Raw × Rest} (monotone : Monotone before.1.readings)
    (run : BridgedCycle engine utc wire decimalOf wording «universe» before) {evaluatedAt : Int}
    (shown : run.context.evaluatedAtUtc = utc.isoformat evaluatedAt)
    {fetch : Fetch (Feed Raw × Rest) ℚ} (fetched : fetch ∈ run.fetches)
    {funding : FundingRate ℚ} {after : Feed Raw × Rest}
    (returned : (marketDataView utc wire).getFundingRate fetch.symbol fetch.world =
      (.returned funding, after)) :
    fetch.IsFresh decimalOf funding ↔
      fetch.world.1.readings fetch.world.1.reads = evaluatedAt := by
  obtain ⟨reading, shownThere, shows_⟩ := openCycle_evaluatedAt elapses run.opened
  have atReading : evaluatedAt = before.1.readings reading :=
    utc.isoformat_injective (shown.symm.trans shownThere)
  have fetchedFrom := run.fetchedFrom elapses shows_ fetched
  obtain ⟨_, stamped⟩ := returned_getFundingRate (returned_onFeed returned)
  have later : evaluatedAt ≤ fetch.world.1.readings fetch.world.1.reads := by
    rw [atReading, fetchedFrom.shows_.1]
    exact monotone (Nat.le_of_succ_le fetchedFrom.shows_.2)
  have outcome := (fetchedFrom.judged funding after returned).trans
    (readingOf_ok FundingRateProvider.default wording fetch.symbol run.notBlank shown stamped)
  rw [isFresh_iff outcome, FundingRateProvider.judge_available_iff (by omega), sub_eq_zero,
    eq_comm]

end

def halfOf (text : String) : Option ℚ :=
  if text = "0.5" then some (1 / 2) else none

def bitcoinFunding : CandidateSpecification :=
  { name := ⟨fundingFamily, nonBlank_fundingFamily⟩
    version := ⟨"v1", nonBlank_v1⟩
    candidateType := ⟨FundingRateThreshold.candidateType, by decide⟩
    «universe» := [btc]
    featureName := FundingRateFeature.featureName
    featureVersion := FundingRateFeature.featureVersion
    cadenceSeconds := 60
    acceptanceCriteria := [(.str "min_hit_rate", .str "0.5")]
    parameters := [(.str "threshold", .str "0.5"), (.str "stop_fraction", .str "0.5")]
    universe_nonempty := by decide
    cadence_pos := minute_pos
    criteria_nonempty := by decide
    criteria_written := by decide
    parameters_written := by decide }

def plainWording : Wording :=
  { raised := fun _ => ⟨"ExchangeAdapterError: refused", by decide⟩
    repr := fun text => s!"'{text}'"
    oneDecimal := fun _ => "0.0" }

def bridgedEntry :
    BridgedCycle entryEngine UtcTexts.marks exactWire halfOf plainWording [btc]
      (tickingFeed, ()) :=
  { started := false
    context := entryCycle.context
    start := ({ tickingFeed with reads := 1 }, ())
    opened := rfl
    notBlank := by decide
    others := []
    othersFirst := List.nil_prefix
    intents := []
    bridge :=
      { world := ({ tickingFeed with reads := 1 }, ())
        lastEvaluatedAt := []
        evaluations := []
        fetches := [] }
    asked := rfl
    live := [bitcoinFunding] }

/-- What the adapter returns at a fetch, and what the reading then has. -/
def fetchedRates (fetch : Fetch (Feed ℚ × Unit) ℚ) : Option (ℚ × String) × Option ℚ :=
  (((marketDataView UtcTexts.marks exactWire).getFundingRate fetch.symbol fetch.world).1.value?.map
      fun funding => (funding.rate, funding.timestampUtc),
    fetch.outcome.toOption.bind fun reading => reading.result.value?.map ObservedRate.value)

private theorem bridgedEntry_fetchedRates :
    bridgedEntry.fetches.map fetchedRates = [(some (0, UtcTexts.marks.isoformat 1), none)] := by
  decide +kernel

private theorem bridgedEntry_fetch : ∃ fetch ∈ bridgedEntry.fetches, ∃ funding after,
    (marketDataView UtcTexts.marks exactWire).getFundingRate fetch.symbol fetch.world =
      (.returned funding, after) ∧ funding.timestampUtc = UtcTexts.marks.isoformat 1 ∧
      ∀ reading, fetch.outcome = .ok reading → reading.result.value? = none := by
  obtain ⟨fetch, others, isFetch, rates, _⟩ := List.map_eq_cons_iff.mp bridgedEntry_fetchedRates
  obtain ⟨answer, noReading⟩ := Prod.mk.inj rates
  obtain ⟨funding, returned, shown⟩ := Option.map_eq_some_iff.mp answer
  refine ⟨fetch, by rw [isFetch]; exact List.mem_cons_self, funding, _,
    Prod.ext (Outcome.value?_eq_some_iff.mp returned) rfl, (Prod.mk.inj shown).2, ?_⟩
  intro reading isReading
  rw [isReading] at noReading
  exact Option.map_eq_none_iff.mp noReading

theorem bridgedCycle_fresh_iff_entry : ∃ fetch ∈ bridgedEntry.fetches, ∃ funding after,
    (marketDataView UtcTexts.marks exactWire).getFundingRate fetch.symbol fetch.world =
      (.returned funding, after) ∧
    (fetch.IsFresh halfOf funding ↔ fetch.world.1.readings fetch.world.1.reads = 0) := by
  obtain ⟨fetch, fetched, funding, after, returned, _⟩ := bridgedEntry_fetch
  exact ⟨fetch, fetched, funding, after, returned,
    bridgedCycle_fresh_iff entryEngine_elapses tickingFeed_monotone bridgedEntry rfl fetched returned⟩

/-- On a clock that does not go back, a rate of a microsecond ago is not available, though the
provider takes one that is five minutes old. -/
theorem bridgedEntry_notFresh :
    entryEngine.Elapses ∧ Monotone tickingFeed.readings ∧
    FundingRateProvider.default.maxStalenessSeconds = .finite 300 ∧
    ∃ run : BridgedCycle entryEngine UtcTexts.marks exactWire halfOf plainWording [btc]
      (tickingFeed, ()),
      run.context.evaluatedAtUtc = UtcTexts.marks.isoformat 0 ∧
      ∃ fetch ∈ run.fetches, ∃ funding after,
        (marketDataView UtcTexts.marks exactWire).getFundingRate fetch.symbol fetch.world =
          (.returned funding, after) ∧
        funding.timestampUtc = UtcTexts.marks.isoformat 1 ∧ ¬ fetch.IsFresh halfOf funding := by
  refine ⟨entryEngine_elapses, tickingFeed_monotone, rfl, bridgedEntry, rfl, ?_⟩
  obtain ⟨fetch, fetched, funding, after, returned, stamped, unavailable⟩ := bridgedEntry_fetch
  refine ⟨fetch, fetched, funding, after, returned, stamped, ?_⟩
  rintro ⟨reading, isReading, available, _⟩
  have none_ := unavailable reading isReading
  rw [available] at none_
  cases none_

end ExecutionBridge

end TurtleExecution

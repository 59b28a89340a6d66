/-
`ApprovedFundingAlphaStrategy`: approved specifications, evaluated on live funding rates.

A specification is evaluated where its cadence is due.  When the specifications were evaluated
last is kept under their names and versions.
-/

import TurtleExecution.Candidates.FundingRateThreshold
import TurtleExecution.DataSources.FundingRate
import TurtleExecution.Portfolio.Selection
import TurtleExecution.TradingSystem.Construction

set_option autoImplicit false

namespace TurtleExecution.ExecutionBridge

open ExchangeAdapter Features Candidates DataSources HistoricalStorage Portfolio TradingSystem

class BridgeArithmetic (Number : Type) extends LedgerArithmetic Number, SignedArithmetic Number

instance : BridgeArithmetic ℚ where
  minus := SignedArithmetic.minus

instance : BridgeArithmetic Decimal where
  minus := SignedArithmetic.minus

inductive BridgeError
  /-- `ExecutionBridgeError` for a parameter of a specification: its key, what is wrong with it
  and what it is. -/
  | parameter (key problem : String) (got : Option PyValue)
  /-- `ExecutionBridgeError` for a specification of another family. -/
  | notFundingFamily (name : String)
  /-- `ExecutionBridgeError` for symbols that are not on the watchlist. -/
  | outsideWatchlist (symbols : List String)
  | bridge (message : String)
  | dataSource (error : DataSourceError)
  | candidate (error : CandidateError)
  | intent (error : StrategyError)
  | arithmetic (error : ArithmeticError)
  | value

def fundingFamily : String := "funding_rate_threshold_rule"

theorem nonBlank_fundingFamily : PyText.isBlank fundingFamily = false := by decide

section

variable {Number : Type} [BridgeArithmetic Number]

def arithmetic {Value : Type} (result : Except ArithmeticError Value) :
    Except BridgeError Value :=
  result.mapError .arithmetic

/-- `upper_exclusive is not None and value >= upper_exclusive` -/
def atLeast (upperExclusive : Option Number) (value : Number) : Except BridgeError Bool :=
  match upperExclusive with
  | none => .ok false
  | some upper => arithmetic (Arithmetic.le upper value)

def rangeProblem (upperExclusive : Option Number) : String :=
  "must be > 0" ++ if upperExclusive.isSome then " and < 1" else ""

def checkFraction (key : String) (upperExclusive : Option Number) (raw : PyStr) (value : Number) :
    Except BridgeError Number := do
  let notPositive ← arithmetic (Arithmetic.le value Arithmetic.zero)
  let outOfRange ← if notPositive then .ok true else atLeast upperExclusive value
  if outOfRange then .error (.parameter key (rangeProblem upperExclusive) (some (.str raw)))
  else .ok value

def missingProblem : String :=
  "is missing -- the bridge never fabricates a risk level; declare it in the pre-registered specification"

def fraction (decimalOf : String → Option Number) (spec : CandidateSpecification) (key : String)
    (required : Bool) (upperExclusive : Option Number) : Except BridgeError (Option Number) :=
  let missing : Except BridgeError (Option Number) :=
    if required then .error (.parameter key missingProblem none) else .ok none
  match Dict.get? spec.parameters (.str key) with
  | none => missing
  | some .none => missing
  | some (.str raw) =>
      if raw.isBlank then
        .error (.parameter key "must be a string-encoded decimal" (some (.str raw)))
      else
        match raw.scalars?.bind decimalOf with
        | none => .error (.parameter key "is not a valid decimal" (some (.str raw)))
        | some value => (checkFraction key upperExclusive raw value).map some
  | some raw => .error (.parameter key "must be a string-encoded decimal" (some raw))

structure RiskFractions (Number : Type) where
  stop : Number
  t1 : Option Number
  t2 : Option Number

def riskFractions (decimalOf : String → Option Number) (spec : CandidateSpecification) :
    Except BridgeError (RiskFractions Number) := do
  let stop ← fraction decimalOf spec "stop_fraction" true (some (LedgerArithmetic.ofInt 1))
  let t1 ← fraction decimalOf spec "t1_fraction" false none
  let t2 ← fraction decimalOf spec "t2_fraction" false none
  match stop with
  | some stop => .ok { stop, t1, t2 }
  | none => .error (.parameter "stop_fraction" missingProblem none)

def requireWatched (watchlist : Option (List Symbol)) (spec : CandidateSpecification) :
    Except BridgeError Unit :=
  match watchlist with
  | none => .ok ()
  | some watched =>
      let outside := spec.universe.filter fun symbol => symbol ∉ watched
      if outside.isEmpty then .ok ()
      else .error (.outsideWatchlist (outside.map Symbol.value))

def checkSpecification (decimalOf : String → Option Number) (watchlist : Option (List Symbol))
    (spec : CandidateSpecification) : Except BridgeError Unit := do
  if spec.name.text ≠ fundingFamily then .error (.notFundingFamily spec.name.text) else .ok ()
  let _fractions ← riskFractions decimalOf spec
  requireWatched watchlist spec

structure ApprovedFundingAlphaStrategy (decimalOf : String → Option Number) where
  specifications : List CandidateSpecification
  watchlist : Option (List Symbol)
  nonempty : specifications ≠ []
  checked : ∀ spec ∈ specifications, checkSpecification decimalOf watchlist spec = .ok ()

/-- `_live_specifications`: all of them, or those that the registry has as approved. -/
def ApprovedFundingAlphaStrategy.liveSpecifications {decimalOf : String → Option Number}
    (strategy : ApprovedFundingAlphaStrategy decimalOf)
    (approved : Option (CandidateSpecification → Bool)) : List CandidateSpecification :=
  match approved with
  | none => strategy.specifications
  | some isLive => strategy.specifications.filter isLive

end

def cadenceKey (spec : CandidateSpecification) : String × String :=
  (spec.name.text, spec.version.text)

/-- A fetch for a specification: the world before it, and what it came to. -/
structure Fetch (State Number : Type) where
  spec : CandidateSpecification
  symbol : Symbol
  world : State
  outcome : Except DataSourceError (FundingRateReading Number)

/-- The world, the strategy's memory, and what it has evaluated and fetched so far. -/
structure BridgeState (State Number : Type) where
  world : State
  lastEvaluatedAt : Dict (String × String) String
  evaluations : List (CandidateSpecification × String)
  fetches : List (Fetch State Number)

def BridgeState.fetched {State Number : Type} (state : BridgeState State Number)
    (spec : CandidateSpecification) (symbol : Symbol)
    (outcome : Except DataSourceError (FundingRateReading Number)) (world : State) :
    BridgeState State Number :=
  { state with
    world
    fetches := state.fetches ++ [{ spec, symbol, world := state.world, outcome }] }

structure Surroundings (State Number : Type) where
  fromisoformat : IsoTexts
  decimalOf : String → Option Number
  wording : Wording
  reads : MarketReads State Number

def isDue (fromisoformat : IsoTexts) (lastEvaluatedAt : Dict (String × String) String)
    (spec : CandidateSpecification) (evaluatedAtUtc : String) : Except BridgeError Bool :=
  match Dict.get? lastEvaluatedAt (cadenceKey spec) with
  | none => .ok true
  | some last =>
      match parseUtc fromisoformat evaluatedAtUtc, parseUtc fromisoformat last with
      | some now, some last => .ok ((PyNumber.int spec.cadenceSeconds).le (totalSeconds (now - last)))
      | _, _ => .error .value

section

variable {State Number : Type} [BridgeArithmetic Number]
  (surroundings : Surroundings State Number) (context : StrategyContext)

abbrev Attributed (Number : Type) : Type := CandidateSignal Number × CandidateSpecification

/-- `provider.fetch(symbol)`, with the provider's clock pinned to the context. -/
def fetchReading (spec : CandidateSpecification) (symbol : Symbol) :
    Process (BridgeState State Number) BridgeError (FundingRateReading Number) := fun state =>
  let fetched := FundingRateProvider.default.fetch surroundings.wording
    surroundings.fromisoformat surroundings.reads (pure context.evaluatedAtUtc) symbol state.world
  match fetched with
  | (.returned reading, world) =>
      (.returned reading, state.fetched spec symbol (.ok reading) world)
  | (.raised error, world) =>
      (.raised (.dataSource error), state.fetched spec symbol (.error error) world)
  | (.crashed, world) => (.crashed, { state with world })

def evaluateSymbol (spec : CandidateSpecification) (symbol : Symbol) :
    Process (BridgeState State Number) BridgeError (List (Attributed Number)) :=
  if symbol.value ∈ context.universe.map Symbol.value then do
    let reading ← fetchReading surroundings context spec symbol
    let signal ← Process.ofExcept ((FundingRateThreshold.evaluate surroundings.decimalOf
      (FundingRateFeature.compute reading) spec).mapError .candidate)
    return [(signal, spec)]
  else return []

def evaluateSymbols (spec : CandidateSpecification) :
    List Symbol → Process (BridgeState State Number) BridgeError (List (Attributed Number))
  | [] => return []
  | symbol :: symbols => do
      let signals ← evaluateSymbol surroundings context spec symbol
      let others ← evaluateSymbols spec symbols
      return signals ++ others

/-- `self._last_evaluated_at[...] = context.evaluated_at_utc` -/
def recordEvaluation (spec : CandidateSpecification) :
    Process (BridgeState State Number) BridgeError Unit :=
  Process.modify fun state =>
    { state with
      lastEvaluatedAt := Dict.set state.lastEvaluatedAt (cadenceKey spec) context.evaluatedAtUtc
      evaluations := state.evaluations ++ [(spec, context.evaluatedAtUtc)] }

def evaluateDue (spec : CandidateSpecification) (due : Bool) :
    Process (BridgeState State Number) BridgeError (List (Attributed Number)) :=
  if due then do
    let signals ← evaluateSymbols surroundings context spec spec.universe
    let _recorded ← recordEvaluation context spec
    return signals
  else return []

def evaluateSpecification (spec : CandidateSpecification) :
    Process (BridgeState State Number) BridgeError (List (Attributed Number)) := do
  let state ← Process.get
  let due ← Process.ofExcept
    (isDue surroundings.fromisoformat state.lastEvaluatedAt spec context.evaluatedAtUtc)
  evaluateDue surroundings context spec due

def evaluateAll : List CandidateSpecification →
    Process (BridgeState State Number) BridgeError (List (Attributed Number))
  | [] => return []
  | spec :: specs => do
      let signals ← evaluateSpecification surroundings context spec
      let others ← evaluateAll specs
      return signals ++ others

def level (above : Bool) (mark fraction : Number) : Except ArithmeticError Number := do
  let factor ← if above then Arithmetic.add (LedgerArithmetic.ofInt 1) fraction
    else Arithmetic.sub (LedgerArithmetic.ofInt 1) fraction
  Arithmetic.mul mark factor

def optionalLevel (above : Bool) (mark : Number) :
    Option Number → Except ArithmeticError (Option Number)
  | none => .ok none
  | some fraction => (level above mark fraction).map some

def optionalNotPositive : Option Number → Except ArithmeticError Bool
  | none => .ok false
  | some price => Arithmetic.le price Arithmetic.zero

/-- `stop <= 0 or (t1 is not None and t1 <= 0) or (t2 is not None and t2 <= 0)` -/
def degenerate (stop : Number) (t1 t2 : Option Number) : Except ArithmeticError Bool := do
  let noStop ← Arithmetic.le stop Arithmetic.zero
  let noFirst ← if noStop then .ok true else optionalNotPositive t1
  if noFirst then return true else optionalNotPositive t2

def intentAt (signal : CandidateSignal Number) (mark : Number)
    (fractions : RiskFractions Number) : Except BridgeError (Option (TradeIntent Number)) := do
  let long := signal.direction? = some .long
  let stop ← arithmetic (level (!long) mark fractions.stop)
  let t1 ← arithmetic (optionalLevel long mark fractions.t1)
  let t2 ← arithmetic (optionalLevel long mark fractions.t2)
  let refused ← arithmetic (degenerate stop t1 t2)
  if refused then return none
  else
    let intent : TradeIntent Number :=
      { symbol := signal.symbol
        side := if long then .buy else .sell
        orderType := .limit
        timeInForce := .gtc
        reduceOnly := false
        stopPrice := stop
        conviction := none
        limitPrice := some mark
        t1Price := t1
        t2Price := t2 }
    (intent.validate).mapError .intent
    return some intent

def intentOf (signal : CandidateSignal Number) (spec : CandidateSpecification) :
    Except CallError (MarkPrice Number) → Except BridgeError (Option (TradeIntent Number))
  | .error _ => .ok none
  | .ok mark => do
      let notPositive ← arithmetic (Arithmetic.le mark.price Arithmetic.zero)
      if notPositive then return none
      else
        let fractions ← riskFractions surroundings.decimalOf spec
        intentAt signal mark.price fractions

/-- `context.market_data.get_mark_price(symbol)` -/
def readMark (symbol : Symbol) :
    Process (BridgeState State Number) BridgeError (Except CallError (MarkPrice Number)) :=
  Process.focus BridgeState.world (fun world state => { state with world }) id
    (Process.attempt (surroundings.reads.getMarkPrice symbol))

variable [DecidableEq Number]

/-- `signal_spec[id(signal)]`: of equal signals the first one is selected. -/
def specOf (signals : List (Attributed Number)) (signal : CandidateSignal Number) :
    Option CandidateSpecification :=
  (signals.find? fun attributed => attributed.1 = signal).map Prod.snd

def intentsOf (signals : List (Attributed Number)) : List (CandidateSignal Number) →
    Process (BridgeState State Number) BridgeError (List (TradeIntent Number))
  | [] => return []
  | signal :: selected => do
      let spec ← Process.ofExcept ((specOf signals signal).elim (.error .value) .ok)
      let mark ← readMark surroundings signal.symbol
      let intent ← Process.ofExcept (intentOf surroundings signal spec mark)
      let intents ← intentsOf signals selected
      return intent.toList ++ intents

def generateIntents (live : List CandidateSpecification) :
    Process (BridgeState State Number) BridgeError (List (TradeIntent Number)) := do
  let signals ← evaluateAll surroundings context live
  intentsOf surroundings signals (selectSignals (signals.map Prod.fst))

end

section

open Process

variable {State Number : Type} [BridgeArithmetic Number]
  {surroundings : Surroundings State Number} {context : StrategyContext}
  {kept : BridgeState State Number → Prop}

theorem keeps_evaluateSymbols
    (keeps : ∀ spec symbol, Keeps kept (fetchReading surroundings context spec symbol))
    (spec : CandidateSpecification) (symbols : List Symbol) :
    Keeps kept (evaluateSymbols surroundings context spec symbols) := by
  induction symbols with
  | nil => exact keeps_pure kept []
  | cons symbol symbols ih =>
      have first : Keeps kept (evaluateSymbol surroundings context spec symbol) := by
        unfold evaluateSymbol
        split
        · refine keeps_bind (keeps spec symbol) fun reading => ?_
          refine keeps_bind (keeps_ofExcept kept _) fun signal => ?_
          exact keeps_pure kept _
        · exact keeps_pure kept []
      refine keeps_bind first fun signals => ?_
      refine keeps_bind ih fun others => ?_
      exact keeps_pure kept _

private theorem keeps_evaluateAll
    (keeps : ∀ spec symbol, Keeps kept (fetchReading surroundings context spec symbol))
    {specs : List CandidateSpecification}
    (records : ∀ spec ∈ specs, Keeps kept (recordEvaluation context spec)) :
    Keeps kept (evaluateAll surroundings context specs) := by
  induction specs with
  | nil => exact keeps_pure kept []
  | cons spec specs ih =>
      have recordsRest : ∀ other ∈ specs, Keeps kept (recordEvaluation context other) :=
        fun other member => records other (List.mem_cons_of_mem _ member)
      have due (isDue : Bool) : Keeps kept (evaluateDue surroundings context spec isDue) := by
        unfold evaluateDue
        split
        · refine keeps_bind (keeps_evaluateSymbols keeps spec spec.universe) fun signals => ?_
          refine keeps_bind (records spec List.mem_cons_self) fun _ => ?_
          exact keeps_pure kept _
        · exact keeps_pure kept []
      have first : Keeps kept (evaluateSpecification surroundings context spec) := by
        refine keeps_bind (keeps_get kept) fun state => ?_
        refine keeps_bind (keeps_ofExcept kept _) fun isDue => ?_
        exact due isDue
      refine keeps_bind first fun signals => ?_
      refine keeps_bind (ih recordsRest) fun others => ?_
      exact keeps_pure kept _

variable [DecidableEq Number]

theorem keeps_intentsOf (keeps : ∀ symbol, Keeps kept (readMark surroundings symbol))
    (signals : List (Attributed Number)) (selected : List (CandidateSignal Number)) :
    Keeps kept (intentsOf surroundings signals selected) := by
  induction selected with
  | nil => exact keeps_pure kept []
  | cons signal selected ih =>
      refine keeps_bind (keeps_ofExcept kept _) fun spec => ?_
      refine keeps_bind (keeps signal.symbol) fun mark => ?_
      refine keeps_bind (keeps_ofExcept kept _) fun intent => ?_
      refine keeps_bind ih fun intents => ?_
      exact keeps_pure kept _

theorem keeps_generateIntents
    (fetches : ∀ spec symbol, Keeps kept (fetchReading surroundings context spec symbol))
    {live : List CandidateSpecification}
    (records : ∀ spec ∈ live, Keeps kept (recordEvaluation context spec))
    (reads : ∀ symbol, Keeps kept (readMark surroundings symbol)) :
    Keeps kept (generateIntents surroundings context live) :=
  keeps_bind (keeps_evaluateAll fetches records) fun signals =>
    keeps_intentsOf reads signals _

end

end TurtleExecution.ExecutionBridge

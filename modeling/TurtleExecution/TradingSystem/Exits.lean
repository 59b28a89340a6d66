/-
What becomes of intents that reduce a position.

Open orders suppress an intent by its symbol and direction class, but of the intents for
one symbol the most convinced survives, whatever its class; and the risk manager judges a
reduce-only request by the rules for entries.
-/

import TurtleExecution.TradingSystem.Fates
import TurtleExecution.TradingSystem.StopLoss

set_option autoImplicit false

namespace TurtleExecution.TradingSystem

open ExchangeAdapter RiskManager

private theorem idxOf_filter_lt_iff {Item : Type} [DecidableEq Item] {keeps : Item → Bool}
    {items : List Item} {first second : Item} (keepsFirst : keeps first = true)
    (keepsSecond : keeps second = true) :
    (items.filter keeps).idxOf first < (items.filter keeps).idxOf second ↔
      items.idxOf first < items.idxOf second := by
  induction items with
  | nil => exact Iff.rfl
  | cons item items ih =>
      by_cases kept : keeps item = true
      · rw [List.filter_cons_of_pos kept]
        by_cases isFirst : item = first
        · subst isFirst
          by_cases isSecond : item = second
          · simp [isSecond]
          · simp [List.idxOf_cons_ne _ isSecond]
        · by_cases isSecond : item = second
          · simp [isSecond]
          · simpa [List.idxOf_cons_ne _ isFirst, List.idxOf_cons_ne _ isSecond] using ih
      · rw [List.filter_cons_of_neg kept]
        have notFirst : item ≠ first := fun equal => kept (equal ▸ keepsFirst)
        have notSecond : item ≠ second := fun equal => kept (equal ▸ keepsSecond)
        simpa [List.idxOf_cons_ne _ notFirst, List.idxOf_cons_ne _ notSecond] using ih

def PreparedCycle.survivors (cycle : PreparedCycle) : List IntentObject :=
  (select cycle.context.«universe» cycle.tradable).1

/-- Sizing is run on the object at the price that is read for it, and the risk manager decides on
the request that it makes. -/
def JudgedAt {State : Type} (marketData : MarketDataView State) (context : StrategyContext)
    (inputs : ConstructionInputs) (object : IntentObject) (state : State) : Prop :=
  ∃ price between equity,
    entryPrice marketData object.intent state = (.returned price, between) ∧
    context.portfolioSnapshot.equity = .ok equity ∧
    match sizeIntent object.intent (sizingInputs inputs object.intent equity price) with
    | .error error => ∃ message, error = .sizing message
    | .ok tradeRequest => ∃ funding next decision,
        marketData.getFundingRate object.intent.symbol between = (.returned funding, next) ∧
        evaluate inputs.riskManager
          (evaluationOf context inputs tradeRequest object.intent.symbol funding) = .ok decision

private theorem judgedAt_of_fateOf {State : Type} {marketData : MarketDataView State}
    {context : StrategyContext} {inputs : ConstructionInputs} {object : IntentObject}
    {state after : State} {fate : Fate}
    (ran : fateOf marketData context inputs object state = (.returned fate, after)) :
    JudgedAt marketData context inputs object state := by
  obtain ⟨price, between, read, ran⟩ := Process.returned_bind ran
  obtain ⟨equity, middle, isEquity, judged⟩ := Process.returned_bind ran
  obtain ⟨known, rfl⟩ := Process.returned_ofExcept isEquity
  refine ⟨price, middle, equity, read, ok_of_mapError known, ?_⟩
  rcases sized : sizeIntent object.intent (sizingInputs inputs object.intent equity price) with
    (message | error | error) | tradeRequest
  · exact ⟨message, rfl⟩
  · rw [sized] at judged
    cases judged
  · rw [sized] at judged
    cases judged
  · rw [sized] at judged
    obtain ⟨funding, next, fetched, rest⟩ := Process.returned_bind judged
    obtain ⟨decision, last, decided, _⟩ := Process.returned_bind rest
    exact ⟨funding, next, decision, Process.returned_withError fetched,
      ok_of_mapError (Process.returned_ofExcept decided).1⟩

/-- The construction comes to the object, sizes it and, if that makes a request, has the risk
manager decide on it. -/
def Judged {State : Type} (marketData : MarketDataView State) (context : StrategyContext)
    (inputs : ConstructionInputs) (intents : List IntentObject) (state : State)
    (object : IntentObject) : Prop :=
  ∃ now, Turn marketData context inputs (select context.«universe» intents).1 state object now ∧
    JudgedAt marketData context inputs object now

/-- The intent has the greater key of conviction of the two, or the same one and the earlier
place. -/
def Outranks (intents : List IntentObject) (object other : IntentObject) : Prop :=
  convictionSortKey other < convictionSortKey object ∨
    (convictionSortKey other = convictionSortKey object ∧
      intents.idxOf object < intents.idxOf other)

/-- The intent is for this symbol, and no open order suppresses it. -/
structure PreparedCycle.Admits (cycle : PreparedCycle) (symbol : Symbol) (object : IntentObject) :
    Prop where
  given : object ∈ cycle.intents
  symbol : object.intent.symbol = symbol
  free : object.key ∉ cycle.liveKeys

theorem PreparedCycle.mem_ofSymbol {cycle : PreparedCycle} {symbol : Symbol}
    {object : IntentObject} :
    object ∈ ofSymbol cycle.tradable symbol ↔ cycle.Admits symbol object := by
  rw [ofSymbol, tradable, List.mem_filter, List.mem_filter, decide_eq_true_eq, decide_eq_true_eq]
  constructor
  · rintro ⟨⟨given, free⟩, symbol⟩
    exact { given, symbol, free }
  · rintro ⟨given, symbol, free⟩
    exact ⟨⟨given, free⟩, symbol⟩

theorem PreparedCycle.idxOf_lt_iff {cycle : PreparedCycle} {symbol : Symbol}
    {object other : IntentObject} (admits : cycle.Admits symbol object)
    (admitsOther : cycle.Admits symbol other) :
    (ofSymbol cycle.tradable symbol).idxOf object < (ofSymbol cycle.tradable symbol).idxOf other ↔
      cycle.intents.idxOf object < cycle.intents.idxOf other := by
  unfold ofSymbol tradable
  refine (idxOf_filter_lt_iff ?_ ?_).trans (idxOf_filter_lt_iff ?_ ?_)
  · exact decide_eq_true admits.symbol
  · exact decide_eq_true admitsOther.symbol
  · exact decide_eq_true admits.free
  · exact decide_eq_true admitsOther.free

private theorem closing_survives_iff (cycle : PreparedCycle) (symbol : Symbol) :
    (∃ object ∈ cycle.survivors, object.intent.symbol = symbol ∧
        object.intent.reduceOnly = true) ↔
      symbol ∈ cycle.context.«universe» ∧
        ∃ closing, cycle.Admits symbol closing ∧ closing.intent.reduceOnly = true ∧
          ∀ entry, cycle.Admits symbol entry → entry.intent.reduceOnly = false →
            Outranks cycle.intents closing entry := by
  constructor
  · rintro ⟨object, survives, rfl, closes⟩
    obtain ⟨inUniverse, isFirst⟩ := mem_select.mp survives
    obtain ⟨isMember, highest, earliest⟩ := List.argmax_eq_some_iff.mp isFirst
    have admits := PreparedCycle.mem_ofSymbol.mp isMember
    refine ⟨inUniverse, object, admits, closes, fun entry admitsEntry enters => ?_⟩
    have isEntry := PreparedCycle.mem_ofSymbol.mpr admitsEntry
    rcases (highest entry isEntry).lt_or_eq with below | same
    · exact Or.inl below
    · refine Or.inr ⟨same, (PreparedCycle.idxOf_lt_iff admits admitsEntry).mp ?_⟩
      refine lt_of_le_of_ne (earliest entry isEntry same.ge) fun samePlace => ?_
      rw [(List.idxOf_inj isMember).mp samePlace, enters] at closes
      cases closes
  · rintro ⟨inUniverse, closing, admits, closes, outranks⟩
    have isMember := PreparedCycle.mem_ofSymbol.mpr admits
    obtain ⟨winner, isFirst⟩ : ∃ winner,
        (ofSymbol cycle.tradable symbol).argmax convictionSortKey = some winner :=
      Option.ne_none_iff_exists'.mp fun none_ =>
        List.ne_nil_of_mem isMember (List.argmax_eq_none.mp none_)
    obtain ⟨isWinner, highest, earliest⟩ := List.argmax_eq_some_iff.mp isFirst
    have admitsWinner := PreparedCycle.mem_ofSymbol.mp isWinner
    refine ⟨winner, ?_, admitsWinner.symbol, ?_⟩
    · rw [PreparedCycle.survivors, mem_select, admitsWinner.symbol]
      exact ⟨inUniverse, isFirst⟩
    · by_contra enters
      rw [Bool.not_eq_true] at enters
      rcases outranks winner admitsWinner enters with below | ⟨same, earlier⟩
      · exact absurd (highest closing isMember) (not_le.mpr below)
      · have earlier := (PreparedCycle.idxOf_lt_iff admits admitsWinner).mpr earlier
        exact absurd (earliest closing isMember same.le) (not_le.mpr earlier)

/-- A reduce-only intent for a symbol is sized and evaluated exactly if one that is not
suppressed outranks every entry for the symbol that is not suppressed. -/
theorem closing_judged_iff {State : Type} {marketData : MarketDataView State}
    {inputs : ConstructionInputs} {cycle : PreparedCycle} {result : ConstructionResult}
    {state after : State}
    (ran : constructTradeRequests marketData cycle.context inputs cycle.tradable state =
      (.returned result, after)) (symbol : Symbol) :
    (∃ object, object.intent.symbol = symbol ∧ object.intent.reduceOnly = true ∧
        Judged marketData cycle.context inputs cycle.tradable state object) ↔
      symbol ∈ cycle.context.«universe» ∧
        ∃ closing, cycle.Admits symbol closing ∧ closing.intent.reduceOnly = true ∧
          ∀ entry, cycle.Admits symbol entry → entry.intent.reduceOnly = false →
            Outranks cycle.intents closing entry := by
  rw [← closing_survives_iff]
  constructor
  · rintro ⟨object, isOfSymbol, closes, now, turn, _⟩
    exact ⟨object, turn.mem, isOfSymbol, closes⟩
  · rintro ⟨object, survives, isOfSymbol, closes⟩
    obtain ⟨now, fate, next, turn, decided⟩ := turn_of_returned ran survives
    exact ⟨object, isOfSymbol, closes, now, turn, judgedAt_of_fateOf decided⟩

def closingIntent : IntentObject :=
  { identity := 1
    intent := { entryIntent.intent with side := .sell, reduceOnly := true, conviction := some (1 / 2) } }

def convincedEntry : IntentObject :=
  { entryIntent with intent := { entryIntent.intent with conviction := some 1 } }

def contestedCycle : PreparedCycle :=
  { entryCycle with intents := [closingIntent, convincedEntry] }

def hesitantEntry : IntentObject :=
  { entryIntent with intent := { entryIntent.intent with conviction := some (1 / 4) } }

def uncontestedCycle : PreparedCycle :=
  { entryCycle with intents := [hesitantEntry, closingIntent] }

theorem closing_judged_iff_uncontested :
    (∃ object, object.intent.symbol = btc ∧ object.intent.reduceOnly = true ∧
        Judged quietMarket uncontestedCycle.context entryInputs uncontestedCycle.tradable ()
          object) ↔
      btc ∈ uncontestedCycle.context.«universe» ∧
        ∃ closing, uncontestedCycle.Admits btc closing ∧ closing.intent.reduceOnly = true ∧
          ∀ entry, uncontestedCycle.Admits btc entry → entry.intent.reduceOnly = false →
            Outranks uncontestedCycle.intents closing entry := by
  have counted : (constructedFrom uncontestedCycle.tradable).1.value?.map
      ConstructionResult.counts = some [1, 0, 1] := by
    decide +kernel
  obtain ⟨result, ran, _⟩ := constructedFrom_counts counted
  exact @closing_judged_iff _ _ _ uncontestedCycle _ _ _ ran btc

/-- The close is for a symbol of the universe and nothing suppresses it, but only the
entry is sized and evaluated. -/
theorem closing_displaced :
    (btc ∈ contestedCycle.context.«universe» ∧ contestedCycle.Admits btc closingIntent ∧
      closingIntent.intent.reduceOnly = true ∧ contestedCycle.liveKeys = []) ∧
    (∃ result, constructedFrom contestedCycle.tradable = (.returned result, ())) ∧
    ¬ ∃ object, object.intent.symbol = btc ∧ object.intent.reduceOnly = true ∧
      Judged quietMarket contestedCycle.context entryInputs contestedCycle.tradable () object := by
  have survivors : (select contestedCycle.context.«universe» contestedCycle.tradable).1 =
      [convincedEntry] := by
    decide +kernel
  have counted : (constructedFrom contestedCycle.tradable).1.value?.map
      ConstructionResult.counts = some [1, 0, 1] := by
    decide +kernel
  obtain ⟨result, ran, _⟩ := constructedFrom_counts counted
  refine ⟨⟨List.mem_cons_self, ⟨List.mem_cons_self, rfl, List.not_mem_nil⟩, rfl, rfl⟩,
    ⟨result, ran⟩, ?_⟩
  rintro ⟨object, _, closes, now, turn, _⟩
  have member := turn.mem
  rw [survivors, List.mem_singleton] at member
  subst member
  cases closes

def capacityRules : List Rule :=
  [.maxPositions, .portfolioHeat, .riskPerTrade, .availableMargin, .fundingRate]

section

variable {Number : Type}

def marked (evaluation : Evaluation Number) (reduceOnly : Bool) : Evaluation Number :=
  { evaluation with tradeRequest := { evaluation.tradeRequest with reduceOnly } }

def RejectsFor (decision : RiskDecision Number) (reason : ReasonCode) : Prop :=
  decision.decision = .rejected ∧ reason ∈ decision.reasonCodes

variable [LedgerArithmetic Number] [FloatComparison Number] {setting : Setting Number}
  {evaluation : Evaluation Number} {inputs : Inputs Number}

private theorem reason_injective {rule other : Rule} (same : rule.reason = other.reason) :
    rule = other := by
  cases rule <;> cases other <;> first | rfl | cases same

private theorem rejectsFor_iff {decision : RiskDecision Number}
    (decided : evaluate setting evaluation = .ok decision) (free : ¬ Blocks evaluation)
    (ready : Ready setting evaluation inputs) (rule : Rule) :
    RejectsFor decision rule.reason ↔ rule.isViolated setting evaluation inputs = .ok true := by
  rw [RejectsFor, evaluate_rejected_iff decided free ready]
  constructor
  · rintro ⟨other, same, isViolated⟩
    exact reason_injective same ▸ isViolated
  · exact fun isViolated => ⟨rule, rfl, isViolated⟩

private theorem isViolated_marked (reduceOnly : Bool) {rule : Rule}
    (capacity : rule ∈ capacityRules) :
    rule.isViolated setting (marked evaluation reduceOnly) inputs =
      rule.isViolated setting evaluation inputs := by
  cases rule with
  | capability => exact absurd capacity (by decide)
  | _ => rfl

/-- A request, reduce-only or not, is rejected for a reason of capacity exactly if it violates
the rule, and the same request is so when it is marked otherwise. -/
theorem exit_rejected_iff {decision : RiskDecision Number}
    (decided : evaluate setting evaluation = .ok decision) (free : ¬ Blocks evaluation)
    (ready : Ready setting evaluation inputs) {rule : Rule} (capacity : rule ∈ capacityRules) :
    (RejectsFor decision rule.reason ↔ rule.isViolated setting evaluation inputs = .ok true) ∧
      ∀ reduceOnly other, evaluate setting (marked evaluation reduceOnly) = .ok other →
        (RejectsFor other rule.reason ↔ RejectsFor decision rule.reason) := by
  refine ⟨rejectsFor_iff decided free ready rule, fun reduceOnly other decidedOther => ?_⟩
  have readyOther : Ready setting (marked evaluation reduceOnly) inputs :=
    { stateKnown := ready.stateKnown
      inputsKnown := ready.inputsKnown
      liquidationKnown := ready.liquidationKnown
      fresh := ready.fresh
      solvent := ready.solvent }
  rw [rejectsFor_iff decidedOther free readyOther, rejectsFor_iff decided free ready,
    isViolated_marked reduceOnly capacity]

end

def heldPosition : PositionManager.PositionSnapshot ℚ :=
  { positionId := "p1"
    lifecycleState := .fullyFilled
    symbol := btc
    side := .buy
    intendedQuantity := 1
    filledQuantity := 1
    remainingQuantity := 1
    avgEntryPrice := some 100
    stopPrice := 90
    stopD := 1 / 10
    t1Price := 110
    t2Price := 120
    conviction := none
    realizedPnl := 0
    realizedR := 0
    feesPaid := 0
    fundingPaid := 0
    createdAtUtc := UtcTexts.marks.isoformat 0
    updatedAtUtc := UtcTexts.marks.isoformat 0 }

def fullContext : StrategyContext :=
  { entryCycle.context with
    portfolioSnapshot :=
      { fundedSnapshot with
        availableCash := 0
        heat := 1 / 10
        openPositionIds := ["p1"] }
    openPositions := [heldPosition] }

def exitRequest : TradeRequest ℚ :=
  { purchaseStoppedAt 110 with
    side := .sell
    reduceOnly := true
    proposedRiskAmount := 20
    estimatedLiquidationPrice := some 149 }

def exitEvaluation : Evaluation ℚ :=
  evaluationOf fullContext entryInputs exitRequest btc
    { symbol := btc
      rate := -2
      nextFundingTimeUtc := UtcTexts.marks.isoformat 0
      timestampUtc := UtcTexts.marks.isoformat 0 }

private theorem exitEvaluation_decided :
    (evaluate entryInputs.riskManager exitEvaluation).map
        (fun decision => (decision.decision, decision.reasonCodes)) =
      .ok (.rejected, [.riskPerTradeExceeded, .portfolioHeatExceeded, .maxPositionsExceeded,
        .insufficientMargin, .fundingRateTooHigh]) := by
  decide +kernel

private theorem exitEvaluation_ruled :
    ∃ decision inputs, evaluate entryInputs.riskManager exitEvaluation = .ok decision ∧
      ¬ Blocks exitEvaluation ∧ Ready entryInputs.riskManager exitEvaluation inputs ∧
      ∀ rule ∈ capacityRules, RejectsFor decision rule.reason := by
  obtain ⟨decision, decided, shown⟩ := ok_of_map exitEvaluation_decided
  obtain ⟨isRejected, reasons⟩ := Prod.mk.inj shown
  have rejects : ∀ rule ∈ capacityRules, RejectsFor decision rule.reason := by
    intro rule capacity
    rw [RejectsFor, reasons]
    exact ⟨isRejected, by revert rule; decide⟩
  cases evaluate_decided decided with
  | blocked _ => cases isRejected
  | failSafe _ _ => cases isRejected
  | ruled free ready computed => exact ⟨_, _, decided, free, ready, rejects⟩

theorem exit_rejected_iff_full :
    ∃ decision inputs, evaluate entryInputs.riskManager exitEvaluation = .ok decision ∧
      ((RejectsFor decision Rule.maxPositions.reason ↔
          Rule.maxPositions.isViolated entryInputs.riskManager exitEvaluation inputs = .ok true) ∧
        ∀ reduceOnly other,
          evaluate entryInputs.riskManager (marked exitEvaluation reduceOnly) = .ok other →
            (RejectsFor other Rule.maxPositions.reason ↔
              RejectsFor decision Rule.maxPositions.reason)) := by
  obtain ⟨decision, inputs, decided, free, ready, _⟩ := exitEvaluation_ruled
  exact ⟨decision, inputs, decided, exit_rejected_iff decided free ready (by decide)⟩

/-- A reduce-only request that a cycle evaluates on fresh data, without a blocking state, is
rejected for maximum positions, heat, risk per trade, margin and funding. -/
theorem exit_blocked_by_capacity :
    exitEvaluation.tradeRequest.reduceOnly = true ∧
    ∃ decision inputs, evaluate entryInputs.riskManager exitEvaluation = .ok decision ∧
      ¬ Blocks exitEvaluation ∧ Ready entryInputs.riskManager exitEvaluation inputs ∧
      RejectsFor decision .maxPositionsExceeded ∧ RejectsFor decision .portfolioHeatExceeded ∧
      RejectsFor decision .riskPerTradeExceeded ∧ RejectsFor decision .insufficientMargin ∧
      RejectsFor decision .fundingRateTooHigh := by
  obtain ⟨decision, inputs, decided, free, ready, rejects⟩ := exitEvaluation_ruled
  exact ⟨rfl, decision, inputs, decided, free, ready, rejects .maxPositions (by decide),
    rejects .portfolioHeat (by decide), rejects .riskPerTrade (by decide),
    rejects .availableMargin (by decide), rejects .fundingRate (by decide)⟩

end TurtleExecution.TradingSystem

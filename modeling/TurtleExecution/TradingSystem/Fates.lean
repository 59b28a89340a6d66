/-
What becomes of the intents that a construction is given.

Each survivor of the selection is approved, rejected or skipped.  Of the others every
one is skipped but the further copies of a survivor: a loser is what is not the same
object as the winner.
-/

import TurtleExecution.TradingSystem.FundingAge
import TurtleExecution.TradingSystem.Selection

set_option autoImplicit false

namespace TurtleExecution.TradingSystem

open ExchangeAdapter RiskManager

def SizedFrom (object : IntentObject) (tradeRequest : TradeRequest ℚ) : Prop :=
  ∃ sizing, sizeIntent object.intent sizing = .ok tradeRequest

/-- The loop over these objects comes to the object, in that state. -/
inductive Turn {State : Type} (marketData : MarketDataView State) (context : StrategyContext)
    (inputs : ConstructionInputs) : List IntentObject → State → IntentObject → State → Prop
  | here {object : IntentObject} {rest : List IntentObject} {state : State} :
      Turn marketData context inputs (object :: rest) state object state
  | later {first object : IntentObject} {rest : List IntentObject} {state between now : State}
      {fate : Fate} (decided : fateOf marketData context inputs first state =
        (.returned fate, between))
      (later : Turn marketData context inputs rest between object now) :
      Turn marketData context inputs (first :: rest) state object now

/-- At the price that is read for it in this state, the object can be sized. -/
def SizableNow {State : Type} (marketData : MarketDataView State) (context : StrategyContext)
    (inputs : ConstructionInputs) (object : IntentObject) (state : State) : Prop :=
  ∃ price between equity tradeRequest,
    entryPrice marketData object.intent state = (.returned price, between) ∧
    context.portfolioSnapshot.equity = .ok equity ∧
    sizeIntent object.intent (sizingInputs inputs object.intent equity price) = .ok tradeRequest

inductive FateOf (object : IntentObject) : Fate → Prop
  | approved {tradeRequest : TradeRequest ℚ} (sized : SizedFrom object tradeRequest) :
      FateOf object (.approved tradeRequest)
  | rejected {trade : RejectedTrade} (same : trade.intent = object) :
      FateOf object (.rejected trade)
  | skipped {skipped : SkippedIntent} (same : skipped.intent = object) :
      FateOf object (.skipped skipped)

structure Judges (objects : List IntentObject) (before result : ConstructionResult)
    (approved : List IntentObject) (rejected : List RejectedTrade) (skipped : List SkippedIntent) :
    Prop where
  requests : ∃ tradeRequests, result.approved = before.approved ++ tradeRequests ∧
    List.Forall₂ SizedFrom approved tradeRequests
  rejections : result.rejected = before.rejected ++ rejected
  skips : result.skipped = before.skipped ++ skipped
  partition : (approved ++ rejected.map RejectedTrade.intent ++
    skipped.map SkippedIntent.intent).Perm objects

section

variable {State : Type} {marketData : MarketDataView State} {context : StrategyContext}
  {inputs : ConstructionInputs}

private theorem fateOf_ok {object : IntentObject} {state after : State} {fate : Fate}
    (ran : fateOf marketData context inputs object state = (.returned fate, after)) :
    FateOf object fate ∧
      (SizableNow marketData context inputs object state ↔ ∀ skipped, fate ≠ .skipped skipped) := by
  obtain ⟨price, between, read, ran⟩ := Process.returned_bind ran
  obtain ⟨equity, middle, isEquity, judged⟩ := Process.returned_bind ran
  have known := ok_of_mapError (Process.returned_ofExcept isEquity).1
  have sizable_iff : SizableNow marketData context inputs object state ↔ ∃ tradeRequest,
      sizeIntent object.intent (sizingInputs inputs object.intent equity price) =
        .ok tradeRequest := by
    constructor
    · rintro ⟨_, _, _, tradeRequest, readAgain, knownAgain, sized⟩
      cases read.symm.trans readAgain
      cases known.symm.trans knownAgain
      exact ⟨tradeRequest, sized⟩
    · rintro ⟨tradeRequest, sized⟩
      exact ⟨price, between, equity, tradeRequest, read, known, sized⟩
  rw [sizable_iff]
  rcases sized : sizeIntent object.intent (sizingInputs inputs object.intent equity price) with
    (message | error | error) | tradeRequest
  · rw [sized] at judged
    cases judged
    refine ⟨.skipped rfl, ?_, fun notSkipped => (notSkipped _ rfl).elim⟩
    rintro ⟨_, impossible⟩
    cases impossible
  · rw [sized] at judged
    cases judged
  · rw [sized] at judged
    cases judged
  · rw [sized] at judged
    obtain ⟨funding, fetched, _, rest⟩ := Process.returned_bind judged
    obtain ⟨decision, decided, _, isFate⟩ := Process.returned_bind rest
    by_cases approves : decision.decision = .approved
    · rw [if_pos approves] at isFate
      cases isFate
      exact ⟨.approved ⟨_, sized⟩, iff_of_true ⟨_, rfl⟩ fun _ same => by cases same⟩
    · rw [if_neg approves] at isFate
      cases isFate
      exact ⟨.rejected rfl, iff_of_true ⟨_, rfl⟩ fun _ same => by cases same⟩

theorem Turn.mem {objects : List IntentObject} {object : IntentObject} {state now : State}
    (turn : Turn marketData context inputs objects state object now) : object ∈ objects := by
  induction turn with
  | here => exact List.mem_cons_self
  | later decided later ih => exact List.mem_cons_of_mem _ ih

/-- A loop that returns comes to each of its objects, and decides its fate. -/
theorem turn_of_returned {objects : List IntentObject} {before result : ConstructionResult}
    {state after : State}
    (ran : fates marketData context inputs before objects state = (.returned result, after))
    {object : IntentObject} (member : object ∈ objects) :
    ∃ now fate next, Turn marketData context inputs objects state object now ∧
      fateOf marketData context inputs object now = (.returned fate, next) := by
  induction objects generalizing before state with
  | nil => cases member
  | cons first objects ih =>
      obtain ⟨fate, between, decided, ran⟩ := Process.returned_bind ran
      rcases List.mem_cons.mp member with rfl | later
      · exact ⟨state, fate, between, .here, decided⟩
      · obtain ⟨now, other, next, turn, decidedLater⟩ := ih ran later
        exact ⟨now, other, next, .later decided turn, decidedLater⟩

def Evaluated (marketData : MarketDataView State) (context : StrategyContext)
    (inputs : ConstructionInputs) (objects : List IntentObject) (state : State)
    (object : IntentObject) : Prop :=
  ∃ now, Turn marketData context inputs objects state object now ∧
    SizableNow marketData context inputs object now

private theorem evaluated_cons {first object : IntentObject} {objects : List IntentObject}
    {state between : State} {fate : Fate}
    (decided : fateOf marketData context inputs first state = (.returned fate, between)) :
    Evaluated marketData context inputs (first :: objects) state object ↔
      (object = first ∧ SizableNow marketData context inputs first state) ∨
        Evaluated marketData context inputs objects between object := by
  constructor
  · rintro ⟨now, turn, sizable⟩
    cases turn with
    | here => exact .inl ⟨rfl, sizable⟩
    | later decidedAgain later =>
        cases decided.symm.trans decidedAgain
        exact .inr ⟨now, later, sizable⟩
  · rintro (⟨rfl, sizable⟩ | ⟨now, later, sizable⟩)
    · exact ⟨state, .here, sizable⟩
    · exact ⟨now, .later decided later, sizable⟩

private theorem fates_judges {objects : List IntentObject} {before result : ConstructionResult}
    {state after : State}
    (ran : fates marketData context inputs before objects state = (.returned result, after)) :
    ∃ approved rejected skipped, Judges objects before result approved rejected skipped ∧
      ∀ object, object ∈ approved ++ rejected.map RejectedTrade.intent ↔
        Evaluated marketData context inputs objects state object := by
  induction objects generalizing before state with
  | nil =>
      cases ran
      refine ⟨[], [], [],
        { requests := ⟨[], (List.append_nil _).symm, .nil⟩
          rejections := (List.append_nil _).symm
          skips := (List.append_nil _).symm
          partition := List.Perm.refl _ }, fun object => ⟨fun absent => ?_, ?_⟩⟩
      · cases absent
      · rintro ⟨_, turn, _⟩
        cases turn
  | cons object objects ih =>
      obtain ⟨fate, between, decided, ran⟩ := Process.returned_bind ran
      obtain ⟨approved, rejected, skipped, judges, evaluated⟩ := ih ran
      obtain ⟨tradeRequests, isApproved, sized⟩ := judges.requests
      obtain ⟨isFate, sizable⟩ := fateOf_ok decided
      cases isFate with
      | @approved tradeRequest sizedHere =>
          refine ⟨object :: approved, rejected, skipped,
            { requests := ⟨tradeRequest :: tradeRequests, ?_, .cons sizedHere sized⟩
              rejections := judges.rejections
              skips := judges.skips
              partition := judges.partition.cons object }, fun other => ?_⟩
          · rw [isApproved]
            exact List.append_assoc _ _ _
          · rw [evaluated_cons decided, ← evaluated, List.cons_append, List.mem_cons]
            exact or_congr_left (iff_self_and.mpr fun _ => sizable.mpr fun _ same => by cases same)
      | @rejected trade same =>
          refine ⟨approved, trade :: rejected, skipped,
            { requests := judges.requests
              rejections := ?_
              skips := judges.skips
              partition := ?_ }, fun other => ?_⟩
          · rw [judges.rejections]
            exact List.append_assoc _ _ _
          · rw [List.map_cons, same, List.append_assoc, List.cons_append]
            refine List.perm_middle.trans (List.Perm.cons object ?_)
            rw [← List.append_assoc]
            exact judges.partition
          · rw [evaluated_cons decided, ← evaluated, List.map_cons, same, List.mem_append,
              List.mem_cons, List.mem_append, or_left_comm]
            exact or_congr_left (iff_self_and.mpr fun _ => sizable.mpr fun _ same => by cases same)
      | @skipped skippedIntent same =>
          refine ⟨approved, rejected, skippedIntent :: skipped,
            { requests := judges.requests
              rejections := judges.rejections
              skips := ?_
              partition := ?_ }, fun other => ?_⟩
          · rw [judges.skips]
            exact List.append_assoc _ _ _
          · rw [List.map_cons, same]
            exact List.perm_middle.trans (judges.partition.cons object)
          · rw [evaluated_cons decided, ← evaluated]
            exact (or_iff_right fun sized => sizable.mp sized.2 _ rfl).symm

end

def extraCopies (group : List IntentObject) : Nat :=
  (group.argmax convictionSortKey).elim 0 fun winner =>
    group.countP (fun object => object.identity = winner.identity) - 1

private theorem selectFrom_losers {symbol : Symbol} {group : List IntentObject}
    {winner : IntentObject}
    (survives : group.argmax convictionSortKey = some winner) :
    (selectFrom symbol group).2.map SkippedIntent.intent =
      group.filter fun loser => loser.identity ≠ winner.identity := by
  unfold selectFrom
  split
  · cases survives
  · rename_i single
    have same : single = winner := Option.some.inj (List.argmax_singleton.symm.trans survives)
    simp [same]
  · rename_i first rest _
    rw [maxConviction_eq, Option.some.injEq] at survives
    rw [List.map_map, survives]
    exact List.map_id _

private theorem winner_and_losers {symbol : Symbol} {group : List IntentObject}
    {winner : IntentObject}
    (survives : group.argmax convictionSortKey = some winner) :
    1 + (selectFrom symbol group).2.length + extraCopies group = group.length ∧
      (extraCopies group = 0 →
        (winner :: (selectFrom symbol group).2.map SkippedIntent.intent).Perm group) := by
  have losers : (selectFrom symbol group).2.map SkippedIntent.intent =
      group.filter fun object => ¬ object.identity = winner.identity := selectFrom_losers survives
  have isMember := List.argmax_mem survives
  have copies : 0 < group.countP fun object => object.identity = winner.identity :=
    List.countP_pos_iff.mpr ⟨winner, isMember, decide_eq_true rfl⟩
  have extra : extraCopies group =
      group.countP (fun object => object.identity = winner.identity) - 1 := by
    rw [extraCopies, survives]
    rfl
  have parted := List.filter_append_perm
    (fun object : IntentObject => object.identity = winner.identity) group
  simp only [← decide_not] at parted
  constructor
  · have lengths := congrArg List.length losers
    have whole := parted.length_eq
    rw [List.length_append, ← List.countP_eq_length_filter] at whole
    rw [List.length_map] at lengths
    omega
  · intro none_
    have alone : (group.filter fun object => object.identity = winner.identity).length = 1 := by
      rw [← List.countP_eq_length_filter]
      omega
    obtain ⟨single, isSingle⟩ := List.length_eq_one_iff.mp alone
    have isWinner : winner ∈ group.filter fun object => object.identity = winner.identity :=
      List.mem_filter.mpr ⟨isMember, decide_eq_true rfl⟩
    rw [isSingle] at isWinner parted
    rw [← List.mem_singleton.mp isWinner] at parted
    rw [losers]
    exact parted

private theorem groups_accounted {groups : List (Symbol × List IntentObject)}
    (nonempty : ∀ group ∈ groups, group.2 ≠ []) :
    ((groups.map fun group => selectFrom group.1 group.2).filterMap Prod.fst).length +
        ((groups.map fun group => selectFrom group.1 group.2).flatMap Prod.snd).length +
        (groups.map fun group => extraCopies group.2).sum = (groups.flatMap Prod.snd).length ∧
      ((∀ group ∈ groups, extraCopies group.2 = 0) →
        ((groups.map fun group => selectFrom group.1 group.2).filterMap Prod.fst ++
          ((groups.map fun group => selectFrom group.1 group.2).flatMap Prod.snd).map
            SkippedIntent.intent).Perm (groups.flatMap Prod.snd)) := by
  induction groups with
  | nil => exact ⟨rfl, fun _ => List.Perm.refl _⟩
  | cons group groups ih =>
      obtain ⟨lengths, parted⟩ := ih fun other member =>
        nonempty other (List.mem_cons_of_mem group member)
      have survives : ∃ winner, group.2.argmax convictionSortKey = some winner :=
        Option.ne_none_iff_exists'.mp fun none_ =>
          nonempty group List.mem_cons_self (List.argmax_eq_none.mp none_)
      obtain ⟨winner, survives⟩ := survives
      have here : 1 + (selectFrom group.1 group.2).2.length + _ = _ ∧ _ :=
        winner_and_losers survives
      rw [List.map_cons, List.filterMap_cons_some
        ((selectFrom_survivor group.1 group.2).trans survives), List.flatMap_cons,
        List.flatMap_cons]
      constructor
      · rw [List.map_cons, List.sum_cons, List.length_cons, List.length_append, List.length_append]
        omega
      · intro none_
        obtain ⟨noneHere, noneLater⟩ := List.forall_mem_cons.mp none_
        rw [List.map_append]
        have whole := (here.2 noneHere).append (parted noneLater)
        refine List.Perm.trans ?_ whole
        rw [List.cons_append, List.cons_append]
        refine List.Perm.cons winner ?_
        rw [← List.append_assoc, ← List.append_assoc]
        exact List.Perm.append_right _ List.perm_append_comm

/-- No intent that survives for a symbol of the universe is listed twice. -/
def WinnersListedOnce («universe» : List Symbol) (intents : List IntentObject) : Prop :=
  ∀ symbol ∈ «universe», extraCopies (ofSymbol intents symbol) = 0

private theorem winnersListedOnce_iff {«universe» : List Symbol} {intents : List IntentObject} :
    WinnersListedOnce «universe» intents ↔
      ∀ group ∈ groupBySymbol (intents.filter fun object => object.intent.symbol ∈ «universe»),
        extraCopies group.2 = 0 := by
  constructor
  · rintro once ⟨symbol, group⟩ isGroup
    obtain ⟨rfl, nonempty⟩ := mem_groupBySymbol.mp isGroup
    obtain ⟨object, member⟩ := List.exists_mem_of_ne_nil _ nonempty
    obtain ⟨inside, sameSymbol⟩ := List.mem_filter.mp member
    have inUniverse := of_decide_eq_true (List.mem_filter.mp inside).2
    rw [of_decide_eq_true sameSymbol] at inUniverse
    rw [ofSymbol_within inUniverse]
    exact once symbol inUniverse
  · intro once symbol inUniverse
    by_cases none_ : ofSymbol intents symbol = []
    · rw [none_]
      rfl
    · rw [← ofSymbol_within inUniverse] at none_ ⊢
      exact once _ (mem_groupBySymbol.mpr ⟨rfl, none_⟩)

private theorem select_accounted («universe» : List Symbol) (intents : List IntentObject) :
    ((select «universe» intents).1.length + (select «universe» intents).2.length = intents.length →
        WinnersListedOnce «universe» intents) ∧
      (WinnersListedOnce «universe» intents →
        ((select «universe» intents).1 ++
          (select «universe» intents).2.map SkippedIntent.intent).Perm intents) := by
  have nonempty : ∀ group ∈ groupBySymbol (intents.filter fun object =>
      object.intent.symbol ∈ «universe»), group.2 ≠ [] :=
    fun group isGroup => (mem_groupBySymbol.mp isGroup).2
  obtain ⟨lengths, parted⟩ := groups_accounted nonempty
  have grouped := perm_groupBySymbol (intents.filter fun object =>
    object.intent.symbol ∈ «universe»)
  have outside := List.filter_append_perm
    (fun object : IntentObject => object.intent.symbol ∈ «universe») intents
  simp only [← decide_not] at outside
  rw [winnersListedOnce_iff]
  constructor
  · intro whole
    unfold select at whole
    rw [List.length_mergeSort, List.length_append, List.length_map] at whole
    have inside := grouped.length_eq
    have all := outside.length_eq
    rw [List.length_append] at all
    have none_ : ((groupBySymbol (intents.filter fun object =>
        object.intent.symbol ∈ «universe»)).map fun group => extraCopies group.2).sum = 0 := by
      omega
    intro group isGroup
    exact List.sum_eq_zero_iff_forall_eq_nat.mp none_ _ (List.mem_map_of_mem isGroup)
  · intro once
    unfold select
    rw [List.map_append, List.map_map]
    have kept := (parted once).trans grouped
    refine List.Perm.trans ?_ outside
    refine List.Perm.trans ?_ (kept.append_right _)
    refine List.Perm.trans (List.Perm.append_right _ (List.mergeSort_perm _ _)) ?_
    rw [List.append_assoc]
    refine List.Perm.append_left _ ?_
    have same : (SkippedIntent.intent ∘ fun object : IntentObject =>
        { intent := object, reason := outsideReason object.intent.symbol }) = id := rfl
    rw [same, List.map_id]
    exact List.perm_append_comm

def absConviction (object : IntentObject) : ℚ :=
  match object.intent.conviction with
  | none => -1
  | some conviction => |conviction|

/-- No intent has a greater exact conviction than one that is evaluated for its symbol. -/
def WinnersHighest {State : Type} (marketData : MarketDataView State) (context : StrategyContext)
    (inputs : ConstructionInputs) (intents : List IntentObject) (state : State) : Prop :=
  ∀ winner,
    Evaluated marketData context inputs (select context.«universe» intents).1 state winner →
    ∀ other ∈ intents, other.intent.symbol = winner.intent.symbol →
      absConviction other ≤ absConviction winner

/-- The result accounts for the intents, of which these were approved: every intent is
approved, rejected or skipped, one at most for a symbol is evaluated, and none for this
symbol has a greater conviction. -/
structure Accounting (intents : List IntentObject) (result : ConstructionResult)
    (approved : List IntentObject) : Prop where
  sized : List.Forall₂ SizedFrom approved result.approved
  total : result.approved.length + result.rejected.length + result.skipped.length = intents.length
  partition : (approved ++ result.rejected.map RejectedTrade.intent ++
    result.skipped.map SkippedIntent.intent).Perm intents
  distinct : ((approved ++ result.rejected.map RejectedTrade.intent).map
    fun object => object.intent.symbol).Nodup
  highest : ∀ object ∈ approved ++ result.rejected.map RejectedTrade.intent,
    ∀ other ∈ intents, other.intent.symbol = object.intent.symbol →
      absConviction other ≤ absConviction object

theorem Judges.total {objects : List IntentObject} {skips skipped : List SkippedIntent}
    {result : ConstructionResult} {approved : List IntentObject} {rejected : List RejectedTrade}
    (judges : Judges objects (unjudged skips) result approved rejected skipped) :
    result.approved.length + result.rejected.length + result.skipped.length =
      objects.length + skips.length := by
  obtain ⟨tradeRequests, isApproved, sized⟩ := judges.requests
  have parted := judges.partition.length_eq
  rw [List.length_append, List.length_append, List.length_map, List.length_map,
    sized.length_eq] at parted
  rw [isApproved, judges.rejections, judges.skips, List.length_append, List.length_append,
    List.length_append]
  change [].length + _ + ([].length + _) + (skips.length + _) = _
  rw [List.length_nil, List.length_nil]
  omega

private theorem Accounting.evaluated_perm {intents objects : List IntentObject}
    {skips skipped : List SkippedIntent} {result : ConstructionResult}
    {approved other : List IntentObject} {rejected : List RejectedTrade}
    (accounting : Accounting intents result other)
    (judges : Judges objects (unjudged skips) result approved rejected skipped)
    (whole : (objects ++ skips.map SkippedIntent.intent).Perm intents) :
    (approved ++ rejected.map RejectedTrade.intent).Perm
      (other ++ result.rejected.map RejectedTrade.intent) := by
  have parted := judges.partition.append_right (skips.map SkippedIntent.intent)
  have same := (parted.trans whole).trans accounting.partition.symm
  rw [judges.skips, List.map_append, List.append_assoc (approved ++ _)] at same
  have swapped : (List.map SkippedIntent.intent skipped ++ List.map SkippedIntent.intent skips).Perm
      (List.map SkippedIntent.intent (unjudged skips).skipped ++
        List.map SkippedIntent.intent skipped) := List.perm_append_comm
  exact (List.perm_append_right_iff _).mp ((List.Perm.append_left _ swapped.symm).trans same)

/-- A construction accounts for its intents exactly if no intent that survives for a symbol
is listed twice, and none that can be sized has a smaller conviction than another for its symbol. -/
theorem construction_accounts_iff {State : Type} {marketData : MarketDataView State}
    {context : StrategyContext} {inputs : ConstructionInputs} {intents : List IntentObject}
    {result : ConstructionResult} {state after : State}
    (ran : constructTradeRequests marketData context inputs intents state =
      (.returned result, after)) :
    (∃ approved, Accounting intents result approved) ↔
      WinnersListedOnce context.«universe» intents ∧
        WinnersHighest marketData context inputs intents state := by
  have looped : fates marketData context inputs
      (unjudged (select context.«universe» intents).2) (select context.«universe» intents).1 state =
        (.returned result, after) := ran
  obtain ⟨approved, rejected, skipped, judges, evaluated⟩ := fates_judges looped
  obtain ⟨onlyIf, parted⟩ := select_accounted context.«universe» intents
  have isRejected : result.rejected = rejected := judges.rejections
  constructor
  · rintro ⟨listed, accounting⟩
    have once := onlyIf (judges.total.symm.trans accounting.total)
    refine ⟨once, fun winner isEvaluated other isGiven sameSymbol => ?_⟩
    have member := (accounting.evaluated_perm judges (parted once)).subset
      ((evaluated winner).mpr isEvaluated)
    exact accounting.highest winner member other isGiven sameSymbol
  · rintro ⟨once, highest⟩
    have whole := parted once
    obtain ⟨tradeRequests, isApproved, sized⟩ := judges.requests
    have sublist : (approved ++ rejected.map RejectedTrade.intent).Sublist
        (approved ++ rejected.map RejectedTrade.intent ++ skipped.map SkippedIntent.intent) :=
      List.sublist_append_left _ _
    refine ⟨approved,
      { sized := ?_
        total := ?_
        partition := ?_
        distinct := ?_
        highest := ?_ }⟩
    · rw [isApproved]
      exact sized
    · rw [judges.total, ← whole.length_eq, List.length_append, List.length_map]
    · rw [isRejected, judges.skips, List.map_append]
      refine List.Perm.trans ?_ whole
      refine List.Perm.trans ?_ (judges.partition.append_right _)
      rw [List.append_assoc _ (List.map SkippedIntent.intent skipped)]
      exact List.Perm.append_left _ List.perm_append_comm
    · rw [isRejected]
      exact (sublist.map _).nodup
        ((judges.partition.map _).nodup_iff.mpr (select_distinct context.«universe» intents))
    · rw [isRejected]
      exact fun object member => highest object ((evaluated object).mp member)

def quietMarket : MarketDataView Unit :=
  { getMarkPrice := fun symbol => pure
      { symbol
        price := 100
        timestampUtc := UtcTexts.marks.isoformat 0 }
    getFundingRate := fun symbol => pure
      { symbol
        rate := 0
        nextFundingTimeUtc := UtcTexts.marks.isoformat 0
        timestampUtc := UtcTexts.marks.isoformat 0 } }

def constructedFrom (intents : List IntentObject) : Outcome CycleError ConstructionResult × Unit :=
  constructTradeRequests quietMarket entryCycle.context entryInputs intents ()

def ConstructionResult.counts (result : ConstructionResult) : List Nat :=
  [result.approved.length, result.rejected.length, result.skipped.length]

theorem constructedFrom_counts {intents : List IntentObject} {counts : List Nat}
    (counted : (constructedFrom intents).1.value?.map ConstructionResult.counts = some counts) :
    ∃ result, constructedFrom intents = (.returned result, ()) ∧ result.counts = counts := by
  obtain ⟨result, returned, isCounts⟩ := Option.map_eq_some_iff.mp counted
  exact ⟨result, Prod.ext (Outcome.value?_eq_some_iff.mp returned) rfl, isCounts⟩

theorem construction_accounts_iff_entry :
    ∃ result, constructedFrom [entryIntent] = (.returned result, ()) ∧
      ((∃ approved, Accounting [entryIntent] result approved) ↔
        WinnersListedOnce [btc] [entryIntent] ∧
          WinnersHighest quietMarket entryCycle.context entryInputs [entryIntent] ()) := by
  have counted : (constructedFrom [entryIntent]).1.value?.map ConstructionResult.counts =
      some [1, 0, 0] := by
    decide +kernel
  obtain ⟨result, ran, _⟩ := constructedFrom_counts counted
  exact ⟨result, ran, construction_accounts_iff ran⟩

/-- An intent that is listed twice is approved once, and its other place is not accounted for. -/
theorem listed_twice_unaccounted :
    ∃ result, constructedFrom [entryIntent, entryIntent] = (.returned result, ()) ∧
      result.counts = [1, 0, 0] ∧
      ¬ ∃ approved, Accounting [entryIntent, entryIntent] result approved := by
  have counted : (constructedFrom [entryIntent, entryIntent]).1.value?.map
      ConstructionResult.counts = some [1, 0, 0] := by
    decide +kernel
  obtain ⟨result, ran, isCounts⟩ := constructedFrom_counts counted
  refine ⟨result, ran, isCounts, ?_⟩
  rintro ⟨approved, accounting⟩
  have total := accounting.total
  simp only [ConstructionResult.counts, List.cons.injEq, and_true] at isCounts
  rw [isCounts.1, isCounts.2.1, isCounts.2.2] at total
  cases total

end TurtleExecution.TradingSystem

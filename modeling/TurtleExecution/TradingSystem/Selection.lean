/-
The survivors of the selection: intents that were given, one at most for a symbol.
-/

import Mathlib.Data.List.MinMax
import TurtleExecution.Foundation.Grouping
import TurtleExecution.TradingSystem.Construction

set_option autoImplicit false

namespace TurtleExecution.TradingSystem

open ExchangeAdapter

def ofSymbol (objects : List IntentObject) (symbol : Symbol) : List IntentObject :=
  objects.filter fun object => object.intent.symbol = symbol

private theorem groupBySymbol_eq (objects : List IntentObject) :
    groupBySymbol objects =
      Dict.groupBy (fun object : IntentObject => object.intent.symbol) objects := rfl

variable {objects : List IntentObject}

theorem mem_groupBySymbol {symbol : Symbol} {group : List IntentObject} :
    (symbol, group) ∈ groupBySymbol objects ↔ group = ofSymbol objects symbol ∧ group ≠ [] := by
  rw [groupBySymbol_eq]
  exact Dict.mem_groupBy _

theorem perm_groupBySymbol (objects : List IntentObject) :
    ((groupBySymbol objects).flatMap Prod.snd).Perm objects := by
  rw [groupBySymbol_eq]
  exact Dict.perm_groupBy _ objects

/-- The groups have distinct symbols, and each holds given intents of its symbol. -/
structure Grouped (objects : List IntentObject) (groups : Dict Symbol (List IntentObject)) : Prop where
  distinct : (groups.map Prod.fst).Nodup
  given : ∀ group ∈ groups, ∀ object ∈ group.2,
    object ∈ objects ∧ object.intent.symbol = group.1

private theorem grouped_groupBySymbol (objects : List IntentObject) :
    Grouped objects (groupBySymbol objects) := by
  refine { distinct := Dict.nodup_keys_groupBy _ objects, given := ?_ }
  intro group member object isObject
  rw [(mem_groupBySymbol.mp member).1] at isObject
  exact (Dict.mem_withKey _).mp isObject

private theorem maxConviction_mem (first : IntentObject) (rest : List IntentObject) :
    maxConviction first rest ∈ first :: rest := by
  unfold maxConviction
  induction rest generalizing first with
  | nil => exact List.mem_singleton_self first
  | cons object rest ih =>
      rw [List.foldl_cons]
      split
      · exact List.mem_cons_of_mem first (ih object)
      · rcases List.mem_cons.mp (ih first) with here | later
        · rw [here]
          exact List.mem_cons_self
        · exact List.mem_cons_of_mem first (List.mem_cons_of_mem object later)

private theorem selectFrom_mem {symbol : Symbol} {group : List IntentObject} {winner : IntentObject}
    (selected : (selectFrom symbol group).1 = some winner) : winner ∈ group := by
  unfold selectFrom at selected
  split at selected
  · cases selected
  · cases selected
    exact List.mem_cons_self
  · cases selected
    exact maxConviction_mem _ _

private theorem survivors_of_groups {groups : Dict Symbol (List IntentObject)}
    (given : ∀ group ∈ groups, ∀ object ∈ group.2,
      object ∈ objects ∧ object.intent.symbol = group.1) :
    (((groups.map fun group => selectFrom group.1 group.2).filterMap Prod.fst).map
        fun object => object.intent.symbol).Sublist (groups.map Prod.fst) ∧
      ∀ object ∈ (groups.map fun group => selectFrom group.1 group.2).filterMap Prod.fst,
        object ∈ objects := by
  induction groups with
  | nil => exact ⟨List.Sublist.refl _, fun object member => (List.not_mem_nil member).elim⟩
  | cons group groups ih =>
      obtain ⟨symbols, members⟩ := ih fun other member =>
        given other (List.mem_cons_of_mem group member)
      rw [List.map_cons, List.map_cons]
      cases selected : (selectFrom group.1 group.2).1 with
      | none =>
          rw [List.filterMap_cons_none selected]
          exact ⟨symbols.cons _, members⟩
      | some winner =>
          obtain ⟨isGiven, sameSymbol⟩ :=
            given group List.mem_cons_self winner (selectFrom_mem selected)
          rw [List.filterMap_cons_some selected, List.map_cons, sameSymbol]
          refine ⟨symbols.cons_cons _, ?_⟩
          intro object member
          rcases List.mem_cons.mp member with rfl | later
          · exact isGiven
          · exact members object later

theorem select_distinct («universe» : List Symbol) (objects : List IntentObject) :
    ((select «universe» objects).1.map fun object => object.intent.symbol).Nodup := by
  have grouped := grouped_groupBySymbol (objects.filter fun object => object.intent.symbol ∈ «universe»)
  have unsorted := (survivors_of_groups grouped.given).1.nodup grouped.distinct
  exact ((List.mergeSort_perm _ _).map _).nodup_iff.mpr unsorted

private theorem mem_of_mem_select {«universe» : List Symbol} {object : IntentObject}
    (survives : object ∈ (select «universe» objects).1) : object ∈ objects := by
  have grouped := grouped_groupBySymbol (objects.filter fun object => object.intent.symbol ∈ «universe»)
  have unsorted := (List.mergeSort_perm _ _).mem_iff.mp survives
  exact (List.mem_filter.mp ((survivors_of_groups grouped.given).2 object unsorted)).1

def requestKey (tradeRequest : RiskManager.TradeRequest ℚ) : Symbol × Bool :=
  (tradeRequest.symbol, tradeRequest.reduceOnly)

def IntentObject.sizedKey (object : IntentObject) : Symbol × Bool :=
  (object.intent.symbol, object.intent.reduceOnly)

section

variable {State : Type} {marketData : MarketDataView State} {context : StrategyContext}
  {inputs : ConstructionInputs}

private theorem approved_key {object : IntentObject} {state after : State}
    {tradeRequest : RiskManager.TradeRequest ℚ}
    (ran : fateOf marketData context inputs object state =
      (.returned (.approved tradeRequest), after)) :
    requestKey tradeRequest = object.sizedKey := by
  obtain ⟨price, between, _, ran⟩ := Process.returned_bind ran
  obtain ⟨equity, middle, _, judged⟩ := Process.returned_bind ran
  have keeps : ∀ sized state, judgeSized marketData context inputs object sized state =
      (.returned (.approved tradeRequest), after) → sized = .ok tradeRequest := by
    rintro ((message | error | error) | request) state judged
    · cases judged
    · cases judged
    · cases judged
    · obtain ⟨funding, fetched, _, rest⟩ := Process.returned_bind judged
      obtain ⟨decision, decided, _, fate⟩ := Process.returned_bind rest
      by_cases approves : decision.decision = .approved
      · rw [if_pos approves] at fate
        cases fate
        rfl
      · rw [if_neg approves] at fate
        cases fate
  have kept := sizeIntent_keeps (keeps _ _ judged)
  unfold requestKey IntentObject.sizedKey
  rw [kept.1, kept.2]

private theorem fates_keys {objects : List IntentObject} {result final : ConstructionResult}
    {state after : State}
    (ran : fates marketData context inputs result objects state = (.returned final, after)) :
    ∃ keys, final.approved.map requestKey = result.approved.map requestKey ++ keys ∧
      keys.Sublist (objects.map IntentObject.sizedKey) := by
  induction objects generalizing result state with
  | nil =>
      cases ran
      exact ⟨[], (List.append_nil _).symm, List.Sublist.refl _⟩
  | cons object objects ih =>
      obtain ⟨fate, between, decided, ran⟩ := Process.returned_bind ran
      obtain ⟨keys, approved, isSublist⟩ := ih ran
      cases fate with
      | approved tradeRequest =>
          refine ⟨object.sizedKey :: keys, ?_, isSublist.cons_cons _⟩
          rw [approved]
          simp only [ConstructionResult.add, List.map_append, List.map_cons, List.map_nil,
            approved_key decided, List.append_assoc, List.singleton_append]
      | rejected trade => exact ⟨keys, approved, isSublist.cons _⟩
      | skipped intent => exact ⟨keys, approved, isSublist.cons _⟩

/-- The approved requests of a construction: one at most for a symbol, each with the key
of a given intent. -/
theorem constructTradeRequests_keys {intents : List IntentObject} {result : ConstructionResult}
    {state after : State}
    (ran : constructTradeRequests marketData context inputs intents state =
      (.returned result, after)) :
    (result.approved.map RiskManager.TradeRequest.symbol).Nodup ∧
      ∀ tradeRequest ∈ result.approved, ∃ object ∈ intents,
        requestKey tradeRequest = object.sizedKey := by
  obtain ⟨keys, approved, isSublist⟩ := fates_keys ran
  change result.approved.map requestKey = [] ++ keys at approved
  rw [List.nil_append] at approved
  constructor
  · have symbols := (isSublist.map Prod.fst).nodup
      (by rw [List.map_map]; exact select_distinct context.«universe» intents)
    rw [← approved, List.map_map] at symbols
    exact symbols
  · intro tradeRequest member
    have isKey : requestKey tradeRequest ∈ keys := by
      rw [← approved]
      exact List.mem_map_of_mem member
    obtain ⟨object, survives, sameKey⟩ := List.mem_map.mp (isSublist.subset isKey)
    exact ⟨object, mem_of_mem_select survives, sameKey.symm⟩

end

theorem maxConviction_eq (first : IntentObject) (rest : List IntentObject) :
    (first :: rest).argmax convictionSortKey = some (maxConviction first rest) := by
  induction rest using List.reverseRecOn with
  | nil => exact List.argmax_singleton
  | append_singleton rest object ih =>
      rw [← List.cons_append, List.argmax_concat, ih]
      simp only [maxConviction, List.foldl_append, List.foldl_cons, List.foldl_nil]
      exact (apply_ite some _ _ _).symm

theorem selectFrom_survivor (symbol : Symbol) (group : List IntentObject) :
    (selectFrom symbol group).1 = group.argmax convictionSortKey := by
  unfold selectFrom
  split
  · rfl
  · exact List.argmax_singleton.symm
  · exact (maxConviction_eq _ _).symm

theorem ofSymbol_within {«universe» : List Symbol} {objects : List IntentObject} {symbol : Symbol}
    (inUniverse : symbol ∈ «universe») :
    ofSymbol (objects.filter fun object => object.intent.symbol ∈ «universe») symbol =
      ofSymbol objects symbol := by
  unfold ofSymbol
  rw [List.filter_filter]
  refine List.filter_congr fun object _ => ?_
  by_cases same : object.intent.symbol = symbol
  · simp [same, inUniverse]
  · simp [same]

theorem mem_select {«universe» : List Symbol} {objects : List IntentObject}
    {object : IntentObject} :
    object ∈ (select «universe» objects).1 ↔ object.intent.symbol ∈ «universe» ∧
      (ofSymbol objects object.intent.symbol).argmax convictionSortKey = some object := by
  unfold select
  rw [(List.mergeSort_perm _ _).mem_iff, List.mem_filterMap]
  constructor
  · rintro ⟨selected, member, survives⟩
    obtain ⟨⟨symbol, group⟩, isGroup, rfl⟩ := List.mem_map.mp member
    rw [selectFrom_survivor] at survives
    obtain ⟨isOfSymbol, _⟩ := mem_groupBySymbol.mp isGroup
    have isGiven := List.argmax_mem survives
    rw [isOfSymbol] at isGiven survives
    obtain ⟨inside, sameSymbol⟩ := List.mem_filter.mp isGiven
    have inUniverse := of_decide_eq_true (List.mem_filter.mp inside).2
    have sameSymbol := of_decide_eq_true sameSymbol
    rw [← sameSymbol] at survives
    rw [ofSymbol_within inUniverse] at survives
    exact ⟨inUniverse, survives⟩
  · rintro ⟨inUniverse, survives⟩
    rw [← ofSymbol_within inUniverse] at survives
    have isGroup := mem_groupBySymbol.mpr ⟨rfl, List.ne_nil_of_mem (List.argmax_mem survives)⟩
    exact ⟨_, List.mem_map_of_mem isGroup, (selectFrom_survivor _ _).trans survives⟩

end TurtleExecution.TradingSystem

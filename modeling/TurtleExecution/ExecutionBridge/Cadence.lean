/-
The cadences of the specifications that one strategy holds.

The strategy remembers, under a name and a version, when it last evaluated what has them.  As
long as they belong to one specification, that specification is evaluated exactly when its own
cadence has passed.
-/

import TurtleExecution.ExecutionBridge.FreshRates

set_option autoImplicit false

namespace TurtleExecution.ExecutionBridge

open Candidates DataSources Dict HistoricalStorage Process TradingSystem

section

variable {State Number : Type} [BridgeArithmetic Number]
  {surroundings : Surroundings State Number} {context : StrategyContext}

def BridgeState.memory (state : BridgeState State Number) :
    Dict (String × String) String × List (CandidateSpecification × String) :=
  (state.lastEvaluatedAt, state.evaluations)

/-- The memory has the last evaluation under each name and version, and all took place. -/
structure Accounts (tookPlace : CandidateSpecification × String → Prop)
    (memory : Dict (String × String) String × List (CandidateSpecification × String)) : Prop where
  remembers : memory.1 = ofItems (memory.2.map fun entry => (cadenceKey entry.1, entry.2))
  evaluated : ∀ entry ∈ memory.2, tookPlace entry

def Forgets {Error Value : Type} (part : Process (BridgeState State Number) Error Value) : Prop :=
  Preserves BridgeState.memory part

omit [BridgeArithmetic Number] in
private theorem forgets_fetchReading (spec : CandidateSpecification)
    (symbol : ExchangeAdapter.Symbol) :
    Forgets (fetchReading surroundings context spec symbol) := by
  intro state
  unfold fetchReading
  dsimp only
  split <;> rfl

omit [BridgeArithmetic Number] in
private theorem forgets_readMark (symbol : ExchangeAdapter.Symbol) :
    Forgets (readMark surroundings symbol) :=
  preserves_focus _ fun _ _ => rfl

private theorem forgets_evaluateSymbols (spec : CandidateSpecification)
    (symbols : List ExchangeAdapter.Symbol) :
    Forgets (evaluateSymbols surroundings context spec symbols) := by
  intro state
  have keeps : Keeps (fun after : BridgeState State Number => after.memory = state.memory)
      (evaluateSymbols surroundings context spec symbols) :=
    keeps_evaluateSymbols (fun spec symbol =>
      (forgets_fetchReading spec symbol).keeps fun memory => memory = state.memory) spec symbols
  exact keeps state rfl

variable {spec : CandidateSpecification}

private theorem returned_evaluateSymbols {symbols : List ExchangeAdapter.Symbol}
    {state after : BridgeState State Number} {signals : List (Attributed Number)}
    (ran : evaluateSymbols surroundings context spec symbols state = (.returned signals, after)) :
    after.lastEvaluatedAt = state.lastEvaluatedAt ∧ after.evaluations = state.evaluations := by
  have forgotten := @forgets_evaluateSymbols _ _ _ surroundings context spec symbols state
  rw [ran] at forgotten
  exact Prod.mk.inj forgotten

def Completes (surroundings : Surroundings State Number) (context : StrategyContext) :
    List CandidateSpecification → BridgeState State Number → Prop
  | [], _ => True
  | spec :: specs, state =>
      (isDue surroundings.fromisoformat state.lastEvaluatedAt spec context.evaluatedAtUtc =
          .ok true →
        ∃ signals after, evaluateSymbols surroundings context spec spec.universe state =
          (.returned signals, after)) ∧
      ∀ signals after, evaluateSpecification surroundings context spec state =
        (.returned signals, after) → Completes surroundings context specs after

def Timed (fromisoformat : IsoTexts) (lastEvaluatedAt : Dict (String × String) String) : Prop :=
  ∀ key last, get? lastEvaluatedAt key = some last → ∃ instant,
    parseUtc fromisoformat last = some instant

variable {fromisoformat : IsoTexts} {now : Int}
  {lastEvaluatedAt : Dict (String × String) String}

variable {evaluatedAtUtc : String} {signals : List (Attributed Number)}
  {state : BridgeState State Number}

private theorem isDue_of_timed (timed : Timed fromisoformat lastEvaluatedAt)
    (parsed : parseUtc fromisoformat evaluatedAtUtc = some now) (spec : CandidateSpecification) :
    ∃ due, isDue fromisoformat lastEvaluatedAt spec evaluatedAtUtc = .ok due := by
  unfold isDue
  cases known : get? lastEvaluatedAt (cadenceKey spec) with
  | none => exact ⟨true, rfl⟩
  | some last =>
      obtain ⟨instant, lastParsed⟩ := timed (cadenceKey spec) last known
      dsimp only
      rw [parsed, lastParsed]
      exact ⟨_, rfl⟩

private theorem timed_set (timed : Timed fromisoformat lastEvaluatedAt)
    (parsed : parseUtc fromisoformat evaluatedAtUtc = some now) (key : String × String) :
    Timed fromisoformat (set lastEvaluatedAt key evaluatedAtUtc) := by
  intro other last known
  rw [get?_set] at known
  split at known
  · cases known
    exact ⟨now, parsed⟩
  · exact timed other last known

private theorem isDue_set {key : String × String} (different : cadenceKey spec ≠ key)
    (last evaluatedAtUtc : String) :
    isDue fromisoformat (set lastEvaluatedAt key last) spec evaluatedAtUtc =
      isDue fromisoformat lastEvaluatedAt spec evaluatedAtUtc := by
  unfold isDue
  rw [get?_set_of_ne _ _ different]

def BridgeState.recorded (state : BridgeState State Number) (context : StrategyContext)
    (spec : CandidateSpecification) : BridgeState State Number :=
  { state with
    lastEvaluatedAt := set state.lastEvaluatedAt (cadenceKey spec) context.evaluatedAtUtc
    evaluations := state.evaluations ++ [(spec, context.evaluatedAtUtc)] }

private theorem evaluateSpecification_due {state after : BridgeState State Number}
    (due : isDue surroundings.fromisoformat state.lastEvaluatedAt spec context.evaluatedAtUtc =
      .ok true)
    (evaluated : evaluateSymbols surroundings context spec spec.universe state =
      (.returned signals, after)) :
    evaluateSpecification surroundings context spec state =
      (.returned signals, after.recorded context spec) := by
  refine (bind_returned (ofExcept_ok due state)).trans ?_
  unfold evaluateDue
  rw [if_pos rfl]
  exact (bind_returned evaluated).trans rfl

private theorem evaluateSpecification_notDue
    (notDue : isDue surroundings.fromisoformat state.lastEvaluatedAt spec context.evaluatedAtUtc =
      .ok false) : evaluateSpecification surroundings context spec state = (.returned [], state) :=
  (bind_returned (ofExcept_ok notDue state)).trans rfl

private theorem evaluateAll_cons (specs : List CandidateSpecification)
    {state between : BridgeState State Number}
    (evaluated : evaluateSpecification surroundings context spec state =
      (.returned signals, between)) :
    (evaluateAll surroundings context (spec :: specs) state).2 =
      (evaluateAll surroundings context specs between).2 := by
  have turn : evaluateAll surroundings context (spec :: specs) state =
      Process.bind (evaluateAll surroundings context specs) (fun others => pure (signals ++ others))
        between :=
    bind_returned evaluated
  rw [turn]
  unfold Process.bind
  rcases evaluateAll surroundings context specs between with ⟨outcome, after⟩
  cases outcome <;> rfl

def Separate (specs : List CandidateSpecification) : Prop :=
  ∀ spec ∈ specs, ∀ other ∈ specs, cadenceKey spec = cadenceKey other → spec = other

private theorem evaluateAll_evaluates {specs : List CandidateSpecification}
    (separate : Separate specs)
    (parsed : parseUtc surroundings.fromisoformat context.evaluatedAtUtc = some now)
    (timed : Timed surroundings.fromisoformat state.lastEvaluatedAt)
    (completes : Completes surroundings context specs state) :
    ∃ entries, (evaluateAll surroundings context specs state).2.evaluations =
        state.evaluations ++ entries ∧
      ∀ spec, spec ∈ entries.map Prod.fst ↔ spec ∈ specs ∧
        isDue surroundings.fromisoformat state.lastEvaluatedAt spec context.evaluatedAtUtc =
          .ok true := by
  induction specs generalizing state with
  | nil =>
      refine ⟨[], (List.append_nil _).symm, fun spec => ?_⟩
      simp
  | cons head specs ih =>
      have separateRest : Separate specs := fun spec member other otherMember =>
        separate spec (List.mem_cons_of_mem _ member) other (List.mem_cons_of_mem _ otherMember)
      obtain ⟨evaluates, rest⟩ := completes
      obtain ⟨due, isDue_⟩ := isDue_of_timed timed parsed head
      cases due with
      | false =>
          have turn : evaluateSpecification surroundings context head state =
              (.returned [], state) :=
            evaluateSpecification_notDue isDue_
          obtain ⟨entries, appended, evaluated⟩ := ih separateRest timed (rest _ _ turn)
          refine ⟨entries, by rw [evaluateAll_cons specs turn, appended], fun spec => ?_⟩
          rw [evaluated, List.mem_cons]
          constructor
          · rintro ⟨member, due⟩
            exact ⟨Or.inr member, due⟩
          · rintro ⟨rfl | member, due⟩
            · rw [isDue_] at due
              cases due
            · exact ⟨member, due⟩
      | true =>
          obtain ⟨signals, after, ran⟩ := evaluates isDue_
          have turn := evaluateSpecification_due isDue_ ran
          obtain ⟨memory, log⟩ := returned_evaluateSymbols ran
          have timedAfter : Timed surroundings.fromisoformat
              (after.recorded context head).lastEvaluatedAt :=
            timed_set (memory ▸ timed) parsed (cadenceKey head)
          obtain ⟨entries, appended, evaluated⟩ := ih separateRest timedAfter (rest _ _ turn)
          refine ⟨(head, context.evaluatedAtUtc) :: entries, ?_, fun spec => ?_⟩
          · rw [evaluateAll_cons specs turn, appended]
            change after.evaluations ++ [_] ++ entries = _
            rw [log, List.append_assoc]
            rfl
          · rw [List.map_cons, List.mem_cons, evaluated, List.mem_cons]
            change _ ∨ _ ∧ isDue _ (set after.lastEvaluatedAt _ _) _ _ = _ ↔ _
            rw [memory]
            by_cases same : spec = head
            · subst same
              exact iff_of_true (Or.inl rfl) ⟨Or.inl rfl, isDue_⟩
            · have other : spec ∈ specs → cadenceKey spec ≠ cadenceKey head := fun member keys =>
                same (separate spec (List.mem_cons_of_mem _ member) head List.mem_cons_self keys)
              rw [or_iff_right same, or_iff_right same]
              refine and_congr_right fun member => ?_
              rw [isDue_set (other member)]

def Passed (fromisoformat : IsoTexts) (spec : CandidateSpecification) (now : Int) (last : String) :
    Prop :=
  ∃ instant, parseUtc fromisoformat last = some instant ∧
    spec.cadenceSeconds * secondMicros ≤ now - instant

private theorem isDue_iff_passed (timed : Timed fromisoformat lastEvaluatedAt)
    (parsed : parseUtc fromisoformat evaluatedAtUtc = some now)
    (small : spec.cadenceSeconds ≤ exactSeconds) :
    isDue fromisoformat lastEvaluatedAt spec evaluatedAtUtc = .ok true ↔
      ∀ last, get? lastEvaluatedAt (cadenceKey spec) = some last →
        Passed fromisoformat spec now last := by
  unfold isDue
  cases known : get? lastEvaluatedAt (cadenceKey spec) with
  | none => simp
  | some last =>
      obtain ⟨instant, lastParsed⟩ := timed (cadenceKey spec) last known
      dsimp only
      rw [parsed, lastParsed]
      simp only [Except.ok.injEq, Option.some.injEq, forall_eq', Passed, lastParsed,
        exists_eq_left', le_totalSeconds_iff spec.cadence_pos.le small]

variable [DecidableEq Number]

private theorem generateIntents_memory (live : List CandidateSpecification)
    (state : BridgeState State Number) :
    (generateIntents surroundings context live state).2.memory =
      (evaluateAll surroundings context live state).2.memory := by
  change (Process.bind (evaluateAll surroundings context live) _ state).2.memory = _
  unfold Process.bind
  rcases evaluateAll surroundings context live state with ⟨outcome, after⟩
  cases outcome with
  | returned signals =>
      have keeps : Keeps (fun last : BridgeState State Number => last.memory = after.memory)
          (intentsOf surroundings signals (Portfolio.selectSignals (signals.map Prod.fst))) :=
        keeps_intentsOf (fun symbol => (forgets_readMark symbol).keeps fun memory =>
          memory = after.memory) signals _
      exact keeps after rfl
  | raised error => rfl
  | crashed => rfl

private theorem accounts_generateIntents {tookPlace : CandidateSpecification × String → Prop}
    {live : List CandidateSpecification}
    (evaluated : ∀ spec ∈ live, tookPlace (spec, context.evaluatedAtUtc)) :
    Keeps (fun state : BridgeState State Number => Accounts tookPlace state.memory)
      (generateIntents surroundings context live) := by
  refine keeps_generateIntents (fun spec symbol => (forgets_fetchReading spec symbol).keeps _)
    (fun spec member state accounts => ?_) (fun symbol => (forgets_readMark symbol).keeps _)
  obtain ⟨remembers, tookPlaceBefore⟩ := accounts
  change state.lastEvaluatedAt = _ at remembers
  refine { remembers := ?_, evaluated := fun entry member' => ?_ }
  · change set state.lastEvaluatedAt _ _ = ofItems ((state.evaluations ++ [_]).map _)
    rw [List.map_append, List.map_cons, List.map_nil, ofItems_concat, remembers]
    rfl
  · rcases List.mem_append.mp member' with old | new
    · exact tookPlaceBefore entry old
    · rw [List.mem_singleton.mp new]
      exact evaluated spec member

structure BridgeCall (State : Type) where
  approved : Option (CandidateSpecification → Bool)
  context : StrategyContext
  world : State

namespace ApprovedFundingAlphaStrategy

variable (strategy : ApprovedFundingAlphaStrategy surroundings.decimalOf)

def call (state : BridgeState State Number) (call : BridgeCall State) : BridgeState State Number :=
  (generateIntents surroundings call.context (strategy.liveSpecifications call.approved)
    { state with world := call.world }).2

def run (world : State) (calls : List (BridgeCall State)) : BridgeState State Number :=
  calls.foldl strategy.call { world, lastEvaluatedAt := [], evaluations := [], fetches := [] }

def liveIn (calls : List (BridgeCall State)) : List CandidateSpecification :=
  calls.flatMap fun call => strategy.liveSpecifications call.approved

def EvaluatedIn (calls : List (BridgeCall State)) (entry : CandidateSpecification × String) : Prop :=
  ∃ call ∈ calls, entry.1 ∈ strategy.liveSpecifications call.approved ∧
    entry.2 = call.context.evaluatedAtUtc

private theorem run_concat (world : State) (calls : List (BridgeCall State))
    (call : BridgeCall State) :
    strategy.run world (calls ++ [call]) = strategy.call (strategy.run world calls) call := by
  simp only [run, List.foldl_append, List.foldl_cons, List.foldl_nil]

private theorem accounts_run (world : State) (calls : List (BridgeCall State)) :
    Accounts (strategy.EvaluatedIn calls) (strategy.run world calls).memory := by
  induction calls using List.reverseRecOn with
  | nil => exact { remembers := rfl, evaluated := nofun }
  | append_singleton calls call ih =>
      have before : Accounts (strategy.EvaluatedIn (calls ++ [call]))
          (strategy.run world calls).memory := by
        refine { remembers := ih.remembers, evaluated := fun entry member => ?_ }
        obtain ⟨known, earlier, tookPlace⟩ := ih.evaluated entry member
        exact ⟨known, List.mem_append_left _ earlier, tookPlace⟩
      rw [run_concat]
      refine accounts_generateIntents (fun spec isLive => ?_)
        { strategy.run world calls with world := call.world } before
      exact ⟨call, List.mem_append_right _ List.mem_cons_self, isLive, rfl⟩

private theorem timed_run {calls : List (BridgeCall State)}
    (timed : ∀ known ∈ calls, ∃ instant,
      parseUtc surroundings.fromisoformat known.context.evaluatedAtUtc = some instant)
    (world : State) :
    Timed surroundings.fromisoformat (strategy.run world calls).lastEvaluatedAt := by
  intro key last known
  have accounts := strategy.accounts_run world calls
  have member := mem_of_get? known
  rw [show (strategy.run world calls).lastEvaluatedAt = _ from accounts.remembers] at member
  obtain ⟨entry, inLog, isEntry⟩ := List.mem_map.mp (mem_of_mem_ofItems member)
  obtain ⟨call, isCall, _, time⟩ := accounts.evaluated entry inLog
  cases isEntry
  rw [time]
  exact timed call isCall

private theorem get?_lastEvaluatedAt {calls : List (BridgeCall State)} (world : State)
    (separate : ∀ other ∈ strategy.liveIn calls, cadenceKey other = cadenceKey spec → other = spec)
    {last : String} :
    get? (strategy.run world calls).lastEvaluatedAt (cadenceKey spec) = some last ↔
      IsLast (strategy.run world calls).evaluations spec last := by
  have accounts := strategy.accounts_run world calls
  rw [show (strategy.run world calls).lastEvaluatedAt = _ from accounts.remembers]
  refine get?_ofItems_eq_some_iff cadenceKey fun entry member keys => ?_
  obtain ⟨call, isCall, isLive, _⟩ := accounts.evaluated entry member
  exact separate entry.1 (List.mem_flatMap.mpr ⟨call, isCall, isLive⟩) keys

end ApprovedFundingAlphaStrategy

/-- At every call of every run, a live specification is evaluated exactly if its own cadence has
passed since its own last evaluation, where specifications of one name and version are the same,
no cadence is longer than seconds are exact, and no evaluation raises. -/
theorem run_evaluates_iff_passed (strategy : ApprovedFundingAlphaStrategy surroundings.decimalOf)
    (world : State) (calls : List (BridgeCall State)) (call : BridgeCall State)
    (timed : ∀ known ∈ calls, ∃ instant,
      parseUtc surroundings.fromisoformat known.context.evaluatedAtUtc = some instant)
    {now : Int}
    (parsed : parseUtc surroundings.fromisoformat call.context.evaluatedAtUtc = some now)
    (separate : Separate (strategy.liveIn (calls ++ [call])))
    (completes : Completes surroundings call.context (strategy.liveSpecifications call.approved)
      { strategy.run world calls with world := call.world })
    {spec : CandidateSpecification} (live : spec ∈ strategy.liveSpecifications call.approved)
    (small : spec.cadenceSeconds ≤ exactSeconds) :
    (∃ entries, (strategy.run world (calls ++ [call])).evaluations =
        (strategy.run world calls).evaluations ++ entries ∧ spec ∈ entries.map Prod.fst) ↔
      ∀ last, IsLast (strategy.run world calls).evaluations spec last →
        Passed surroundings.fromisoformat spec now last := by
  have isLiveIn : ∀ other ∈ strategy.liveSpecifications call.approved,
      other ∈ strategy.liveIn (calls ++ [call]) := fun other member =>
    List.mem_flatMap.mpr ⟨call, List.mem_append_right _ List.mem_cons_self, member⟩
  have wasLiveIn : ∀ other ∈ strategy.liveIn calls, other ∈ strategy.liveIn (calls ++ [call]) := by
    intro other member
    rw [ApprovedFundingAlphaStrategy.liveIn, List.flatMap_append]
    exact List.mem_append_left _ member
  have separateNow : Separate (strategy.liveSpecifications call.approved) :=
    fun known member other otherMember =>
      separate known (isLiveIn known member) other (isLiveIn other otherMember)
  have separateBefore : ∀ other ∈ strategy.liveIn calls,
      cadenceKey other = cadenceKey spec → other = spec := fun other member =>
    separate other (wasLiveIn other member) spec (isLiveIn spec live)
  have timedMemory := strategy.timed_run timed world
  have timedNow : Timed surroundings.fromisoformat
      { strategy.run world calls with world := call.world : BridgeState State Number }.lastEvaluatedAt :=
    timedMemory
  obtain ⟨entries, appended, evaluated⟩ :=
    evaluateAll_evaluates separateNow parsed timedNow completes
  have log : (strategy.run world (calls ++ [call])).evaluations =
      (strategy.run world calls).evaluations ++ entries := by
    rw [strategy.run_concat]
    exact (congrArg Prod.snd (generateIntents_memory _ _)).trans appended
  have inEntries : (∃ others, (strategy.run world (calls ++ [call])).evaluations =
      (strategy.run world calls).evaluations ++ others ∧ spec ∈ others.map Prod.fst) ↔
        spec ∈ entries.map Prod.fst := by
    constructor
    · rintro ⟨others, alsoLog, member⟩
      rw [log] at alsoLog
      rw [List.append_cancel_left alsoLog]
      exact member
    · intro member
      exact ⟨entries, log, member⟩
  rw [inEntries, evaluated, and_iff_right live]
  refine (isDue_iff_passed timedMemory parsed small).trans ?_
  refine forall_congr' fun last => ?_
  rw [strategy.get?_lastEvaluatedAt world separateBefore]

end

def hastyFunding : CandidateSpecification :=
  { bitcoinFunding with
    cadenceSeconds := 30
    cadence_pos := by decide }

def secondVersion : CandidateSpecification :=
  { hastyFunding with version := ⟨"v2", by decide⟩ }

private theorem checked_of_bitcoinFunding {spec : CandidateSpecification}
    (member : spec ∈ [bitcoinFunding, hastyFunding, secondVersion]) :
    checkSpecification halfOf none spec = .ok () := by
  have all : ∀ known ∈ [bitcoinFunding, hastyFunding, secondVersion],
      (checkSpecification halfOf none known).toBool = true := by
    decide +kernel
  have passes := all spec member
  cases checked : checkSpecification halfOf none spec with
  | ok _ => rfl
  | error error =>
      rw [checked] at passes
      cases passes

def firstMinute : String := "2026-01-01T00:00:00+00:00"

def halfMinute : String := "2026-01-01T00:00:30+00:00"

def secondMinute : String := "2026-01-01T00:01:00+00:00"

def minuteTexts : IsoTexts := fun text =>
  if text = firstMinute then some 0
  else if text = halfMinute then some (30 * secondMicros)
  else if text = secondMinute then some (60 * secondMicros)
  else none

def noMarketData : Surroundings Unit ℚ :=
  { fromisoformat := minuteTexts
    decimalOf := halfOf
    wording := plainWording
    reads :=
      { getMarkPrice := fun _ => raise (.other "no market data")
        getFundingRate := fun _ => raise (.other "no market data") } }

def twoVersions : ApprovedFundingAlphaStrategy noMarketData.decimalOf :=
  { specifications := [bitcoinFunding, secondVersion]
    watchlist := none
    nonempty := by decide
    checked := fun _ member => checked_of_bitcoinFunding
      (List.cons_subset_cons bitcoinFunding (List.subset_cons_self hastyFunding _) member) }

def twoCadences : ApprovedFundingAlphaStrategy noMarketData.decimalOf :=
  { specifications := [bitcoinFunding, hastyFunding]
    watchlist := none
    nonempty := by decide
    checked := fun _ member => checked_of_bitcoinFunding
      (List.mem_append_left [secondVersion] member) }

def callAt (evaluatedAtUtc : String) : BridgeCall Unit :=
  { approved := none
    context := { entryCycle.context with evaluatedAtUtc }
    world := () }

private theorem completes_cons {State Number : Type} [BridgeArithmetic Number]
    {surroundings : Surroundings State Number} {context : StrategyContext}
    {spec : CandidateSpecification} {specs : List CandidateSpecification}
    {state : BridgeState State Number}
    (returns : (evaluateSymbols surroundings context spec spec.universe state).1.returns = true)
    (rest : Completes surroundings context specs
      (evaluateSpecification surroundings context spec state).2) :
    Completes surroundings context (spec :: specs) state := by
  obtain ⟨signals, returned⟩ := Outcome.returns_iff.mp returns
  refine ⟨fun _ => ⟨signals, _, Prod.ext returned rfl⟩, fun _ _ ran => ?_⟩
  rw [ran] at rest
  exact rest

private theorem twoVersions_separate :
    Separate (twoVersions.liveIn [callAt firstMinute, callAt halfMinute]) := by
  have versions : ∀ known ∈ twoVersions.liveIn [callAt firstMinute, callAt halfMinute],
      known = bitcoinFunding ∨ known = secondVersion := by
    intro known isKnown
    obtain ⟨call, isCall, isLive⟩ := List.mem_flatMap.mp isKnown
    have isVersion : known ∈ [bitcoinFunding, secondVersion] := by
      rcases List.mem_pair.mp isCall with rfl | rfl
      · exact isLive
      · exact isLive
    exact List.mem_pair.mp isVersion
  intro spec member other otherMember sameKey
  rcases versions spec member with rfl | rfl <;> rcases versions other otherMember with rfl | rfl
  · rfl
  · exact absurd sameKey (by decide)
  · exact absurd sameKey (by decide)
  · rfl

/-- Half a minute behind a call that has evaluated both versions, where one of them is due. -/
theorem run_evaluates_iff_passed_versions :
    ((∃ entries, (twoVersions.run () [callAt firstMinute, callAt halfMinute]).evaluations =
        (twoVersions.run () [callAt firstMinute]).evaluations ++ entries ∧
          secondVersion ∈ entries.map Prod.fst) ↔
      ∀ last, IsLast (twoVersions.run () [callAt firstMinute]).evaluations secondVersion last →
        Passed minuteTexts secondVersion (30 * secondMicros) last) ∧
    ((∃ entries, (twoVersions.run () [callAt firstMinute, callAt halfMinute]).evaluations =
        (twoVersions.run () [callAt firstMinute]).evaluations ++ entries ∧
          bitcoinFunding ∈ entries.map Prod.fst) ↔
      ∀ last, IsLast (twoVersions.run () [callAt firstMinute]).evaluations bitcoinFunding last →
        Passed minuteTexts bitcoinFunding (30 * secondMicros) last) := by
  have timed : ∀ known ∈ [callAt firstMinute], ∃ instant,
      parseUtc noMarketData.fromisoformat known.context.evaluatedAtUtc = some instant := by
    intro known isKnown
    rw [List.mem_singleton.mp isKnown]
    exact ⟨0, by decide +kernel⟩
  have completes : Completes noMarketData (callAt halfMinute).context
      [bitcoinFunding, secondVersion] (twoVersions.run () [callAt firstMinute]) :=
    completes_cons (by decide +kernel) (completes_cons (by decide +kernel) trivial)
  constructor
  · exact run_evaluates_iff_passed twoVersions () [callAt firstMinute] (callAt halfMinute) timed
      (by decide +kernel) twoVersions_separate completes
      (List.mem_cons_of_mem _ (List.mem_singleton.mpr rfl)) (by decide)
  · exact run_evaluates_iff_passed twoVersions () [callAt firstMinute] (callAt halfMinute) timed
      (by decide +kernel) twoVersions_separate completes List.mem_cons_self (by decide)

def evaluatedCadences (calls : List (BridgeCall Unit)) : List (Int × String) :=
  (twoCadences.run () calls).evaluations.map fun entry => (entry.1.cadenceSeconds, entry.2)

private theorem twoCadences_evaluated :
    evaluatedCadences [callAt firstMinute] = [(60, firstMinute)] ∧
    evaluatedCadences [callAt firstMinute, callAt secondMinute] =
      [(60, firstMinute), (60, secondMinute)] := by
  decide +kernel

/-- The second of two specifications of one version is live and is never evaluated, though it is
due at the first call already, and a minute later. -/
theorem hastyFunding_starves :
    hastyFunding ∈ twoCadences.liveSpecifications (callAt firstMinute).approved ∧
    (∀ last, ¬ IsLast (twoCadences.run () []).evaluations hastyFunding last) ∧
    (¬ ∃ entries, (twoCadences.run () [callAt firstMinute]).evaluations =
      (twoCadences.run () []).evaluations ++ entries ∧ hastyFunding ∈ entries.map Prod.fst) ∧
    ∀ entry ∈ (twoCadences.run () [callAt firstMinute, callAt secondMinute]).evaluations,
      entry.1 ≠ hastyFunding := by
  have starves (calls : List (BridgeCall Unit))
      (others : ∀ evaluated ∈ evaluatedCadences calls, evaluated.1 = 60) :
      ∀ entry ∈ (twoCadences.run () calls).evaluations, entry.1 ≠ hastyFunding := by
    intro entry member same
    have cadence : entry.1.cadenceSeconds = 60 := others _ (List.mem_map_of_mem member)
    rw [same] at cadence
    cases cadence
  refine ⟨List.mem_cons_of_mem _ List.mem_cons_self, ?_, ?_, ?_⟩
  · rintro last ⟨earlier, later, split, _⟩
    cases earlier <;> cases split
  · rintro ⟨entries, log, member⟩
    obtain ⟨entry, isEntry, same⟩ := List.mem_map.mp member
    refine starves [callAt firstMinute] ?_ entry ?_ same
    · rw [twoCadences_evaluated.1]
      decide
    · rw [log]
      exact List.mem_append_right _ isEntry
  · refine starves [callAt firstMinute, callAt secondMinute] ?_
    rw [twoCadences_evaluated.2]
    decide

end TurtleExecution.ExecutionBridge

/-
Which exit fills are recorded, which are refused, and which are dropped.

A fill under a new id may still be taken for a stale repeat of an earlier one: the
state's rank decides, and the parts of one exit come in the same state.
-/

import TurtleExecution.PositionManager.Remaining

set_option autoImplicit false

namespace TurtleExecution.PositionManager

open ExchangeAdapter SharedStore Process Runs

variable {trigger : PositionLifecycleTrigger}

private theorem rank_lt_of_exit {state target : PositionLifecycleState}
    (isExit : isExitTrigger trigger = true) (next : nextState? state trigger = some target) :
    stateRank state < triggerMinTargetRank trigger := by
  have climbs : ∀ edge ∈ transitionTable, isExitTrigger edge.2.1 = true →
      stateRank edge.1 < triggerMinTargetRank edge.2.1 := by decide
  exact climbs _ (TransitionTable.mem_of_nextState? next) isExit

variable {state : PositionLifecycleState}

private theorem minTargetRank_le_of_terminal (isExit : isExitTrigger trigger = true)
    (terminal : isTerminal state = true) : triggerMinTargetRank trigger ≤ stateRank state := by
  rw [isTerminal_iff] at terminal
  subst terminal
  revert isExit
  cases trigger <;> decide

private theorem tryTransition_of_rank_le {positionId : String} (isExit : isExitTrigger trigger = true)
    (past : triggerMinTargetRank trigger ≤ stateRank state) :
    tryTransition positionId trigger state = .ok none := by
  unfold tryTransition
  cases next : nextState? state trigger with
  | some target => exact absurd (rank_lt_of_exit isExit next) (Nat.not_lt.mpr past)
  | none =>
      dsimp only
      rw [if_pos (Or.inr past)]

private theorem tryTransition_of_rank_lt {positionId : String} (isExit : isExitTrigger trigger = true)
    (ahead : stateRank state < triggerMinTargetRank trigger) :
    (∃ target, nextState? state trigger = some target ∧
      tryTransition positionId trigger state = .ok (some target)) ∨
    nextState? state trigger = none ∧
      ∃ error, tryTransition positionId trigger state = .error error := by
  unfold tryTransition
  cases next : nextState? state trigger with
  | some target => exact Or.inl ⟨target, rfl, rfl⟩
  | none =>
      have fresh : ¬ (isTerminal state = true ∨ triggerMinTargetRank trigger ≤ stateRank state) := by
        rintro (terminal | past)
        · exact Nat.not_le.mpr ahead (minTargetRank_le_of_terminal isExit terminal)
        · exact Nat.not_le.mpr ahead past
      dsimp only
      rw [if_neg fresh]
      exact Or.inr ⟨rfl, _, rfl⟩

section

variable {Number Stored : Type} [LedgerArithmetic Number]

structure PositionSnapshot.AddsLeg (existing : PositionSnapshot Number)
    (details : ExitDetails Number) : Prop where
  remaining : ∃ number, Arithmetic.sub existing.remainingQuantity details.fillQuantity = .ok number
  realizedPnl : ∃ number, Arithmetic.add existing.realizedPnl details.realizedPnl = .ok number
  realizedR : ∃ number, Arithmetic.add existing.realizedR details.r = .ok number
  feesPaid : ∃ number, Arithmetic.add existing.feesPaid details.fee = .ok number

private theorem exitedSnapshot_ok_iff (event : Event Stored) (existing : PositionSnapshot Number)
    (edge : Edge) (details : ExitDetails Number) :
    (∃ next, exitedSnapshot event existing edge details = .ok next) ↔
      existing.AddsLeg details := by
  constructor
  · rintro ⟨next, computed⟩
    obtain ⟨remaining, pnl, multiple, fees, remains, realizes, multiplies, paid, _⟩ :=
      exitedSnapshot_ok computed
    exact
      { remaining := ⟨remaining, remains⟩
        realizedPnl := ⟨pnl, realizes⟩
        realizedR := ⟨multiple, multiplies⟩
        feesPaid := ⟨fees, paid⟩ }
  · rintro ⟨⟨remaining, remains⟩, ⟨pnl, realizes⟩, ⟨multiple, multiplies⟩, ⟨fees, paid⟩⟩
    unfold exitedSnapshot
    rw [remains, realizes, multiplies, paid]
    exact ⟨_, rfl⟩

variable [Source Stored (Payload Number)]

structure LegAdded (before after : Host Stored (Memory Number)) (positionId : String)
    (fill : Fill Number) : Prop where
  event : ∃ (event : Event Stored) (payload : Payload Number) (edge : Edge)
    (details : ExitDetails Number),
    after.log.entries = before.log.entries ++ [event] ∧ Source.own? event.payload = some payload ∧
      payload.positionId = positionId ∧ payload.change = .exit edge details ∧
      details.fillId = fill.fillId ∧ details.fillPrice = fill.price ∧
      details.fillQuantity = fill.quantity ∧ details.fee = fill.fee
  leg : ∃ leg : ClosedLeg Number,
    (after.memory.closedLegs.get? positionId).getD [] =
        (before.memory.closedLegs.get? positionId).getD [] ++ [leg] ∧
      leg.quantity = fill.quantity ∧ leg.exitPx = fill.price ∧ leg.fee = fill.fee
  others : ∀ other, other ≠ positionId →
    after.memory.closedLegs.get? other = before.memory.closedLegs.get? other

/-- The exit is recorded if the call returns, and nothing changed if it raises. -/
def RecordsOrRefuses (pmId positionId : String) (fill : Fill Number)
    (trigger : PositionLifecycleTrigger) (reason : Option String)
    (host : Host Stored (Memory Number)) : Prop :=
  Ends (recordExit pmId positionId fill trigger reason) host
    { returned := fun _ after => LegAdded host after positionId fill
      raised := fun _ after => after.memory = host.memory ∧ after.log = host.log
      crashed := fun _ => True }

/-- The exit is not taken for a repeat, and its leg can be added where it is legal. -/
structure Takes (memory : Memory Number) (positionId : String) (existing : PositionSnapshot Number)
    (fill : Fill Number) (trigger : PositionLifecycleTrigger) (reason : Option String) : Prop where
  unknown : fill.fillId ∉ memory.fillIds positionId
  ahead : stateRank existing.lifecycleState < triggerMinTargetRank trigger
  adds : nextState? existing.lifecycleState trigger ≠ none → ∀ avgEntryPrice details,
    existing.avgEntryPrice = some avgEntryPrice →
    exitDetails existing avgEntryPrice fill (legReason trigger existing.lifecycleState reason) =
      .ok details → existing.AddsLeg details

private theorem legAdded_of_applied {pmId positionId : String}
    {before after : Host Stored (Memory Number)}
    {existing : PositionSnapshot Number} {avgEntryPrice : Number} {fill : Fill Number}
    {reason : String} {edge : Edge} {details : ExitDetails Number} {event : Event Stored}
    {result : Except PositionManagerError (Option (PositionSnapshot Number))}
    (computed : exitDetails existing avgEntryPrice fill reason = .ok details)
    (tracked : before.memory.snapshots.get? positionId = some existing)
    (legal : edge.Legal existing.lifecycleState)
    (fresh : event.eventId ∉ before.memory.appliedEventIds)
    (entries : after.log.entries = before.log.entries ++ [event])
    (own : (Source.own? event.payload : Option (Payload Number)) =
      some { pmId, seq := none, positionId, change := .exit edge details })
    (applied : before.memory.applyEvent event
      { pmId, seq := none, positionId, change := .exit edge details } = (result, after.memory)) :
    LegAdded before after positionId fill := by
  have legs : after.memory.closedLegs = before.memory.closedLegs.set positionId
      ((before.memory.closedLegs.get? positionId).getD [] ++
        [closedLeg event positionId existing details]) := by
    rw [applyEvent_exit fresh tracked legal] at applied
    have committed := congrArg (fun pair => pair.2.closedLegs) applied
    dsimp only at committed
    rw [(commit_written _ _ _).2] at committed
    exact committed.symm
  have filled : details.fillId = fill.fillId ∧ details.fillPrice = fill.price ∧
      details.fillQuantity = fill.quantity ∧ details.fee = fill.fee := by
    obtain ⟨_, _, _, _, rfl⟩ := exitDetails_ok computed
    exact ⟨rfl, rfl, rfl, rfl⟩
  obtain ⟨sameId, price, quantity, fee⟩ := filled
  refine
    { event := ⟨event, _, edge, details, entries, own, rfl, rfl, sameId, price, quantity, fee⟩
      leg := ⟨closedLeg event positionId existing details, ?_, quantity, price, fee⟩
      others := ?_ }
  · rw [legs, Dict.get?_set_self]
    rfl
  · intro other different
    rw [legs, Dict.get?_set_of_ne _ _ different]

section

variable {pmId positionId : String} {host : Host Stored (Memory Number)}
  {existing : PositionSnapshot Number} {avgEntryPrice : Number} {fill : Fill Number}
  {reason : String} {edge : Edge} {details : ExitDetails Number}

private theorem record_exit_cases (consistent : Consistent pmId host.log host.memory)
    (computed : exitDetails existing avgEntryPrice fill reason = .ok details)
    (tracked : host.memory.snapshots.get? positionId = some existing)
    (legal : edge.Legal existing.lifecycleState)
    (fresh : ¬ InLog pmId host.log (.exit positionId fill.fillId)) :
    Ends (record pmId { pmId, seq := none, positionId, change := .exit edge details }
        (.exit positionId fill.fillId)) host
      { returned := fun _ after => LegAdded host after positionId fill ∧ existing.AddsLeg details
        raised := fun _ after =>
          (after.memory = host.memory ∧ after.log = host.log ∧ ¬ Quiet host.environment) ∨
            after.log ≠ host.log ∧ ¬ existing.AddsLeg details
        crashed := fun _ => ¬ Quiet host.environment } := by
  have ends := consistent.faithful.recorded (journal_laws_alike pmId)
    { pmId, seq := none, positionId, change := .exit edge details }
    (MutationKey.exit positionId fill.fillId).text
  change Journal.Recorded _ _ _ _ (record pmId _ _ host) at ends
  unfold Ends
  generalize record pmId { pmId, seq := none, positionId, change := .exit edge details }
    (.exit positionId fill.fillId) host = ran at ends
  cases ends with
  | crashed dies =>
      intro quiet
      rw [(quiet host.clock).1] at dies
      cases dies
  | failed lives failure fails =>
      refine Or.inl ⟨rfl, rfl, fun quiet => ?_⟩
      rw [(quiet host.clock).2] at fails
      cases fails
  | repeated lives appends event known =>
      obtain ⟨member, keyed⟩ := Log.getByIdempotencyKey_eq_some_iff.mp known
      exact absurd ⟨event, member, keyed⟩ fresh
  | added lives appends unknown log entries =>
      have new := consistent.faithful.newEvent_fresh
        { pmId, seq := none, positionId, change := .exit edge details }
        (MutationKey.exit positionId fill.fillId).text
      have own : (Source.own? ((journal pmId : Journal Stored (Payload Number) _ _ _).newEvent
          { pmId, seq := none, positionId, change := .exit edge details }
          (MutationKey.exit positionId fill.fillId).text host).payload : Option (Payload Number)) =
            some { pmId, seq := none, positionId, change := .exit edge details } :=
        Source.own?_wrap _
      generalize (journal pmId : Journal Stored (Payload Number) _ _ _).newEvent _ _ host = event
        at new own entries ⊢
      have committed : host.memory.applyEvent event
          { pmId, seq := none, positionId, change := .exit edge details } = _ :=
        applyEvent_exit new tracked legal
      change Post.Holds _ (Journal.ofResult (host.memory.applyEvent event
          { pmId, seq := none, positionId, change := .exit edge details }).1,
        { host with
          clock := host.clock + 1
          log
          memory := (host.memory.applyEvent event
            { pmId, seq := none, positionId, change := .exit edge details }).2 })
      rcases applied : host.memory.applyEvent event
        { pmId, seq := none, positionId, change := .exit edge details } with ⟨result, memory⟩
      rw [applied] at committed
      cases added : exitedSnapshot event existing edge details with
      | error error =>
          rw [added] at committed
          have raises : result = .error (.model (.arithmetic error)) := (Prod.mk.inj committed).1
          have fails : ¬ existing.AddsLeg details := by
            rw [← exitedSnapshot_ok_iff event existing edge details, added]
            rintro ⟨_, ⟨⟩⟩
          have grown : log ≠ host.log := by
            rintro rfl
            have lengths := congrArg List.length entries
            rw [List.length_append, List.length_singleton] at lengths
            omega
          rw [raises]
          exact Or.inr ⟨grown, fails⟩
      | ok next =>
          rw [added] at committed
          have returns : result = .ok (some next) := (Prod.mk.inj committed).1
          rw [returns] at applied ⊢
          exact ⟨legAdded_of_applied computed tracked legal new entries own applied,
            (exitedSnapshot_ok_iff event existing edge details).mp ⟨next, added⟩⟩

omit [LedgerArithmetic Number] in
private theorem not_legAdded_of_log {after : Host Stored (Memory Number)}
    (log : after.log = host.log) :
    ¬ LegAdded host after positionId fill := by
  rintro ⟨⟨event, _, _, _, entries, _⟩, _, _⟩
  have lengths := congrArg List.length entries
  rw [log] at lengths
  rw [List.length_append, List.length_singleton] at lengths
  omega

private theorem recordsOrRefuses_of_takes {reason : Option String}
    (consistent : Consistent pmId host.log host.memory)
    (tracked : host.memory.snapshots.get? positionId = some existing)
    (fresh : ¬ InLog pmId host.log (.exit positionId fill.fillId))
    (takes : isExitTrigger trigger = true →
      Takes host.memory positionId existing fill trigger reason) :
    RecordsOrRefuses pmId positionId fill trigger reason host := by
  have unchanged : host.memory = host.memory ∧ host.log = host.log := ⟨rfl, rfl⟩
  unfold RecordsOrRefuses recordExit
  split
  · exact ends_raise unchanged
  rename_i isExit
  rw [Bool.not_eq_false] at isExit
  have taken := takes isExit
  refine ends_bind_of_returned (trackedPosition_run tracked)
    (ends_bind_of_returned (memory_run host) ?_)
  rw [if_neg taken.unknown, if_neg fun terminal =>
    Nat.not_le.mpr taken.ahead (minTargetRank_le_of_terminal isExit terminal)]
  dsimp only
  rcases tryTransition_of_rank_lt isExit taken.ahead with ⟨target, next, tried⟩ | ⟨_, error, tried⟩
  · rw [tried]
    refine ends_bind_of_returned (rfl : _ = (Outcome.returned (some target), host)) ?_
    dsimp only
    cases averaged : existing.avgEntryPrice with
    | none => exact ends_raise unchanged
    | some avgEntryPrice =>
        refine ends_ofModel (fun _ => unchanged) fun details computed => ?_
        have adds := taken.adds (by rw [next]; nofun) avgEntryPrice details averaged computed
        refine (record_exit_cases consistent computed tracked ⟨rfl, next⟩ fresh).mono ?_ ?_ ?_
        · exact fun _ _ ended => ended.1
        · rintro _ after (⟨memory, log, _⟩ | ⟨_, fails⟩)
          · exact ⟨memory, log⟩
          · exact absurd adds fails
        · exact fun _ _ => trivial
  · rw [tried]
    exact ends_bind (fun _ _ => False) (ends_raise unchanged) fun _ _ impossible => impossible.elim

private theorem takes_of_recordsOrRefuses {reason : Option String}
    (consistent : Consistent pmId host.log host.memory) (quiet : Quiet host.environment)
    (tracked : host.memory.snapshots.get? positionId = some existing)
    (fresh : ¬ InLog pmId host.log (.exit positionId fill.fillId))
    (isExit : isExitTrigger trigger = true)
    (records : RecordsOrRefuses pmId positionId fill trigger reason host) :
    Takes host.memory positionId existing fill trigger reason := by
  unfold RecordsOrRefuses recordExit at records
  rw [if_neg (by rw [isExit]; nofun)] at records
  unfold Ends at records
  rw [bind_returned (trackedPosition_run tracked), bind_returned (memory_run host)] at records
  have unknown : fill.fillId ∉ host.memory.fillIds positionId := by
    intro known
    rw [if_pos known] at records
    exact not_legAdded_of_log rfl records
  rw [if_neg unknown] at records
  have notTerminal : ¬ isTerminal existing.lifecycleState = true := by
    intro terminal
    rw [if_pos terminal] at records
    refine not_legAdded_of_log ?_ (records : LegAdded host { host with memory := _ } positionId fill)
    rfl
  rw [if_neg notTerminal] at records
  have ahead : stateRank existing.lifecycleState < triggerMinTargetRank trigger := by
    by_contra past
    rw [tryTransition_of_rank_le isExit (Nat.not_lt.mp past)] at records
    refine not_legAdded_of_log ?_ (records : LegAdded host { host with memory := _ } positionId fill)
    rfl
  refine { unknown, ahead, adds := ?_ }
  intro legal avgEntryPrice details averaged computed
  obtain ⟨target, next⟩ := Option.ne_none_iff_exists'.mp legal
  have tried : tryTransition positionId trigger existing.lifecycleState = .ok (some target) := by
    unfold tryTransition
    rw [next]
  rw [tried] at records
  have ran : (Process.ofExcept (.ok (some target)) : Operation Stored Number _) host =
    (.returned (some target), host) := rfl
  rw [bind_returned ran, averaged] at records
  dsimp only at records
  rw [computed] at records
  have edge : Edge.Legal
      { trigger, fromState := existing.lifecycleState, toState := target }
      existing.lifecycleState := ⟨rfl, next⟩
  have cases := record_exit_cases consistent computed tracked edge fresh
  refine (@ends_always_iff _ _ _ _ _ fun _ => existing.AddsLeg details).mp
    ((Ends.and records cases).mono ?_ ?_ ?_)
  · exact fun _ _ ended => ended.2.2
  · rintro _ after ⟨⟨_, same⟩, ⟨_, _, loud⟩ | ⟨grown, _⟩⟩
    · exact absurd quiet loud
    · exact absurd same grown
  · exact fun _ ended => absurd quiet ended.2

end

def Watch.unconditional (pmId : String) (Stored Number : Type) [LedgerArithmetic Number]
    [Source Stored (Payload Number)] : Watch pmId Stored Number :=
  { conditions := { entry := fun _ _ => True, exit := fun _ _ => True }
    opens := fun _ _ _ _ _ => trivial
    kept := fun _ _ => True
    alike := fun _ _ _ _ _ => trivial
    foreign := fun _ _ _ _ _ _ _ => trivial
    recorded := fun _ _ _ _ _ _ _ _ _ _ _ => trivial }

private theorem consistent_run [LawfulZero Number] {pmId : String} (environment : Nat → StoreAnswer)
    (steps : List (Step pmId Stored Number)) :
    let final := (System.start environment : System Stored Number).run steps
    Consistent pmId final.host.log final.host.memory := by
  have started : Watched (Watch.unconditional pmId Stored Number)
      (System.start environment).host :=
    { consistent := consistent_empty pmId, kept := trivial }
  have meets : Along System.step
      (Watch.unconditional pmId Stored Number).conditions.StepMeets
      (System.start environment) steps := by
    refine along_of_all ?_ _ steps
    intro system step call _ _
    cases call <;> first | trivial | exact fun _ _ _ _ => trivial | exact fun _ _ _ _ _ => trivial
  exact (started.run meets).consistent

/-- In every reachable state, an exit fill that the log does not hold is recorded or
refused, whatever the store answers, exactly if it is not taken for a repeat and its leg
can be added. -/
theorem exit_recorded_iff_taken [LawfulZero Number] {pmId : String}
    (start : Nat → StoreAnswer) (steps : List (Step pmId Stored Number))
    {positionId : String} {existing : PositionSnapshot Number} {fill : Fill Number}
    {trigger : PositionLifecycleTrigger} (reason : Option String)
    (isExit : isExitTrigger trigger = true)
    (tracked : ((System.start start).run steps).host.memory.snapshots.get? positionId =
      some existing)
    (fresh : ¬ InLog pmId ((System.start start).run steps).host.log
      (.exit positionId fill.fillId)) :
    let host := ((System.start start).run steps).host
    (∀ environment, RecordsOrRefuses pmId positionId fill trigger reason { host with environment }) ↔
      Takes host.memory positionId existing fill trigger reason := by
  intro host
  have consistent : Consistent pmId host.log host.memory := consistent_run start steps
  constructor
  · intro records
    let answering : Host Stored (Memory Number) :=
      { host with environment := steadyStore }
    have quiet : Quiet answering.environment := fun _ => ⟨rfl, rfl⟩
    have sameConsistent : Consistent pmId answering.log answering.memory := consistent
    have sameTracked : answering.memory.snapshots.get? positionId = some existing := tracked
    have taken := takes_of_recordsOrRefuses sameConsistent quiet sameTracked fresh isExit
      (records answering.environment)
    exact taken
  · intro takes environment
    exact recordsOrRefuses_of_takes consistent tracked fresh fun _ => takes

end

def enterTwo : Step "main" (Payload ℚ) ℚ :=
  .call (.entryFill (positionIdOf "main" 1) (fillAt "f1" 100 2))

def takeQuarter (fillId : String) : Step "main" (Payload ℚ) ℚ :=
  .call (.exit (positionIdOf "main" 1) (fillAt fillId 110 (1 / 2)) .t1 none)

def firstQuarterTaken : System (Payload ℚ) ℚ :=
  steadyStart.run [openTwo, enterTwo, takeQuarter "f2"]

theorem exit_recorded_iff_taken_firstQuarter :
    ∃ existing, (steadyStart.run [openTwo, enterTwo]).host.memory.snapshots.get?
        (positionIdOf "main" 1) = some existing ∧
      ((∀ environment, RecordsOrRefuses "main" (positionIdOf "main" 1) (fillAt "f2" 110 (1 / 2))
          .t1 none { (steadyStart.run [openTwo, enterTwo]).host with environment }) ↔
        Takes (steadyStart.run [openTwo, enterTwo]).host.memory (positionIdOf "main" 1) existing
          (fillAt "f2" 110 (1 / 2)) .t1 none) := by
  have isTracked : ((steadyStart.run [openTwo, enterTwo]).host.memory.snapshots.get?
      (positionIdOf "main" 1)).isSome = true := by decide +kernel
  have fresh : ¬ InLog "main" (steadyStart.run [openTwo, enterTwo]).host.log
      (.exit (positionIdOf "main" 1) (fillAt "f2" 110 (1 / 2)).fillId) := by
    unfold InLog
    decide +kernel
  obtain ⟨existing, tracked⟩ := Option.isSome_iff_exists.mp isTracked
  exact ⟨existing, tracked,
    exit_recorded_iff_taken steadyStore [openTwo, enterTwo] none rfl tracked fresh⟩

/-- The second part returns normally, and neither a leg nor an event holds it. -/
theorem second_quarter_dropped :
    (firstQuarterTaken.host.memory.snapshots.get? (positionIdOf "main" 1)).map
        PositionSnapshot.lifecycleState = some .t1Reached ∧
      "f3" ∉ firstQuarterTaken.host.memory.fillIds (positionIdOf "main" 1) ∧
      ¬ InLog "main" firstQuarterTaken.host.log (.exit (positionIdOf "main" 1) "f3") ∧
      ∃ snapshot after,
        recordExit "main" (positionIdOf "main" 1) (fillAt "f3" 110 (1 / 2)) .t1 none
            firstQuarterTaken.host = (.returned snapshot, after) ∧
          after.log.entries.length = firstQuarterTaken.host.log.entries.length ∧
          (after.memory.closedLegs.get? (positionIdOf "main" 1)).map List.length = some 1 ∧
          ¬ LegAdded firstQuarterTaken.host after (positionIdOf "main" 1)
            (fillAt "f3" 110 (1 / 2)) := by
  have state : (firstQuarterTaken.host.memory.snapshots.get? (positionIdOf "main" 1)).map
      PositionSnapshot.lifecycleState = some .t1Reached := by decide +kernel
  have unknown : "f3" ∉ firstQuarterTaken.host.memory.fillIds (positionIdOf "main" 1) := by
    decide +kernel
  have fresh : ¬ InLog "main" firstQuarterTaken.host.log
      (.exit (positionIdOf "main" 1) "f3") := by
    unfold InLog
    decide +kernel
  have returns : (recordExit "main" (positionIdOf "main" 1) (fillAt "f3" 110 (1 / 2)) .t1 none
      firstQuarterTaken.host).1.returns = true := by decide +kernel
  have length : (recordExit "main" (positionIdOf "main" 1) (fillAt "f3" 110 (1 / 2)) .t1 none
      firstQuarterTaken.host).2.log.entries.length =
        firstQuarterTaken.host.log.entries.length := by decide +kernel
  have legs : ((recordExit "main" (positionIdOf "main" 1) (fillAt "f3" 110 (1 / 2)) .t1 none
      firstQuarterTaken.host).2.memory.closedLegs.get? (positionIdOf "main" 1)).map
        List.length = some 1 := by decide +kernel
  obtain ⟨snapshot, returned⟩ := Outcome.returns_iff.mp returns
  refine ⟨state, unknown, fresh, snapshot, _, Prod.ext returned rfl, length, legs, ?_⟩
  rintro ⟨⟨event, _, _, _, entries, _⟩, _, _⟩
  have lengths := congrArg List.length entries
  rw [length, List.length_append, List.length_singleton] at lengths
  omega

end TurtleExecution.PositionManager

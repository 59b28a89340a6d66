/-
Runs of a position manager: calls, crashes, restarts and events of other modules.

`Recorded` lists the events that calls record, with what holds of their position when
they do.  What every recorded event keeps of the log and the positions, every run keeps.
-/

import TurtleExecution.PositionManager.Operations

set_option autoImplicit false

namespace TurtleExecution.PositionManager

open ExchangeAdapter SharedStore Process

section

variable {Number Stored : Type}

/-- The memories agree on what the log says of the positions: they may differ in the
next number and in the fills that were noted without an event. -/
structure Alike (memory other : Memory Number) : Prop where
  snapshots : memory.snapshots = other.snapshots
  closedLegs : memory.closedLegs = other.closedLegs
  appliedEventIds : memory.appliedEventIds = other.appliedEventIds

theorem Alike.refl (memory : Memory Number) : Alike memory memory :=
  { snapshots := rfl, closedLegs := rfl, appliedEventIds := rfl }

variable {memory other : Memory Number}

theorem Alike.symm (alike : Alike memory other) : Alike other memory :=
  { snapshots := alike.snapshots.symm
    closedLegs := alike.closedLegs.symm
    appliedEventIds := alike.appliedEventIds.symm }

theorem Alike.trans {memory other last : Memory Number} (alike : Alike memory other)
    (next : Alike other last) : Alike memory last :=
  { snapshots := alike.snapshots.trans next.snapshots
    closedLegs := alike.closedLegs.trans next.closedLegs
    appliedEventIds := alike.appliedEventIds.trans next.appliedEventIds }

theorem Alike.note (alike : Alike memory other) (eventId : Nat) (seq : Option Nat) :
    Alike (memory.note eventId seq) (other.note eventId seq) :=
  { snapshots := alike.snapshots
    closedLegs := alike.closedLegs
    appliedEventIds := congrArg (· ++ [eventId]) alike.appliedEventIds }

theorem Alike.addFillId (alike : Alike memory other) (positionId fillId : String) :
    Alike (memory.addFillId positionId fillId) (other.addFillId positionId fillId) :=
  { snapshots := alike.snapshots
    closedLegs := alike.closedLegs
    appliedEventIds := alike.appliedEventIds }

theorem Alike.addLeg (alike : Alike memory other) (positionId : String) (leg : ClosedLeg Number) :
    Alike (memory.addLeg positionId leg) (other.addLeg positionId leg) :=
  { snapshots := alike.snapshots
    closedLegs := by
      unfold Memory.addLeg
      rw [alike.closedLegs]
    appliedEventIds := alike.appliedEventIds }

theorem Alike.commit (alike : Alike memory other) (positionId : String)
    (result : Except ArithmeticError (PositionSnapshot Number)) :
    (memory.commit positionId result).1 = (other.commit positionId result).1 ∧
      Alike (memory.commit positionId result).2 (other.commit positionId result).2 := by
  cases result with
  | error error => exact ⟨rfl, alike⟩
  | ok snapshot =>
      exact ⟨rfl,
        { snapshots := congrArg (Dict.set · positionId snapshot) alike.snapshots
          closedLegs := alike.closedLegs
          appliedEventIds := alike.appliedEventIds }⟩

variable [LedgerArithmetic Number]

theorem Alike.change (alike : Alike memory other) (event : Event Stored) (positionId : String)
    (existing : PositionSnapshot Number) (change : Change Number) :
    (memory.change event positionId existing change).1 =
        (other.change event positionId existing change).1 ∧
      Alike (memory.change event positionId existing change).2
        (other.change event positionId existing change).2 := by
  cases change with
  | create | other => exact ⟨rfl, alike⟩
  | funding details => exact alike.commit positionId _
  | entryFill edge details =>
      dsimp only [Memory.change]
      cases checkEdge event.eventId positionId existing edge with
      | error error => exact ⟨rfl, alike⟩
      | ok checked => exact (alike.addFillId positionId _).commit positionId _
  | exit edge details =>
      dsimp only [Memory.change]
      cases checkEdge event.eventId positionId existing edge with
      | error error => exact ⟨rfl, alike⟩
      | ok checked => exact ((alike.addFillId positionId _).addLeg positionId _).commit positionId _
  | transition change edge =>
      dsimp only [Memory.change]
      cases checkEdge event.eventId positionId existing edge with
      | error error => exact ⟨rfl, alike⟩
      | ok checked => exact alike.commit positionId _

theorem Alike.applyEvent (alike : Alike memory other) (event : Event Stored)
    (payload : Payload Number) :
    (memory.applyEvent event payload).1 = (other.applyEvent event payload).1 ∧
      Alike (memory.applyEvent event payload).2 (other.applyEvent event payload).2 := by
  unfold Memory.applyEvent
  dsimp only
  rw [alike.appliedEventIds, alike.snapshots]
  by_cases known : event.eventId ∈ other.appliedEventIds
  · rw [if_pos known, if_pos known]
    exact ⟨rfl, alike⟩
  · rw [if_neg known, if_neg known]
    have noted := alike.note event.eventId payload.seq
    cases payload.change with
    | create details =>
        exact ⟨rfl,
          { snapshots := congrArg (Dict.set · _ _) noted.snapshots
            closedLegs := by
              dsimp only
              rw [noted.closedLegs]
            appliedEventIds := noted.appliedEventIds }⟩
    | entryFill | exit | transition | funding | other =>
        dsimp only
        rw [noted.snapshots]
        cases (other.note event.eventId payload.seq).snapshots.get? payload.positionId with
        | none => exact ⟨rfl, noted⟩
        | some existing => exact noted.change event payload.positionId existing _

variable [Source Stored (Payload Number)]

theorem journal_laws_alike (pmId : String) :
    Journal.Laws (journal pmId : Journal Stored (Payload Number) (Memory Number) _ _)
      Memory.appliedEventIds Alike :=
  { payload?_wrap := Source.own?_wrap
    known := fun memory event payload known =>
      ⟨memory.snapshots.get? payload.positionId, if_pos known⟩
    appliedIds_apply := fun memory event payload fresh =>
      applyEvent_appliedEventIds memory event payload fresh
    same_refl := Alike.refl
    same_appliedIds := fun memory other alike => alike.appliedEventIds
    same_apply := fun memory other event payload value after alike applied => by
      have both := (alike.applyEvent event payload).2
      change memory.applyEvent event payload = _ at applied
      rw [applied] at both
      exact both }

structure Conditions (Number : Type) where
  entry : PositionSnapshot Number → Fill Number → Prop
  exit : PositionSnapshot Number → Fill Number → Prop

def openingPayload (pmId positionId : String) (fill : Fill Number) : Payload Number :=
  { pmId
    seq := none
    positionId
    change := .entryFill { trigger := .firstFill, fromState := .new, toState := .opened }
      { fillId := fill.fillId ++ ":open"
        fillPrice := fill.price
        fillQuantity := Arithmetic.zero
        fee := Arithmetic.zero } }

def entryPayload (pmId positionId : String) (fill : Fill Number) (edge : Edge) : Payload Number :=
  { pmId
    seq := none
    positionId
    change := .entryFill edge
      { fillId := fill.fillId
        fillPrice := fill.price
        fillQuantity := fill.quantity
        fee := fill.fee } }

/-- The events that calls record, with what holds of the position when they do. -/
inductive Recorded (conditions : Conditions Number) (pmId : String) (memory : Memory Number) :
    MutationKey → Payload Number → Prop
  | create (seq : Nat) (details : CreateDetails Number) :
      Recorded conditions pmId memory (.create (positionIdOf pmId seq))
        { pmId, seq := some seq, positionId := positionIdOf pmId seq, change := .create details }
  | opening (positionId : String) (fill : Fill Number) (existing : PositionSnapshot Number)
      (tracked : memory.snapshots.get? positionId = some existing)
      (isNew : existing.lifecycleState = .new) :
      Recorded conditions pmId memory (.opening positionId fill.fillId)
        (openingPayload pmId positionId fill)
  | entry (positionId : String) (fill : Fill Number) (existing : PositionSnapshot Number)
      (edge : Edge) (tracked : memory.snapshots.get? positionId = some existing)
      (isOpen : existing.lifecycleState = .opened ∨ existing.lifecycleState = .partiallyFilled)
      (legal : edge.Legal existing.lifecycleState)
      (classifies : edge.trigger = .entryComplete ∨ edge.trigger = .entryPartial)
      (allowed : conditions.entry existing fill) :
      Recorded conditions pmId memory (.entry positionId fill.fillId)
        (entryPayload pmId positionId fill edge)
  | exit (positionId : String) (fill : Fill Number) (existing : PositionSnapshot Number)
      (avgEntryPrice : Number) (reason : String) (edge : Edge) (details : ExitDetails Number)
      (tracked : memory.snapshots.get? positionId = some existing)
      (legal : edge.Legal existing.lifecycleState) (isExit : isExitTrigger edge.trigger = true)
      (averaged : existing.avgEntryPrice = some avgEntryPrice)
      (computed : exitDetails existing avgEntryPrice fill reason = .ok details)
      (allowed : conditions.exit existing fill) :
      Recorded conditions pmId memory (.exit positionId fill.fillId)
        { pmId, seq := none, positionId, change := .exit edge details }
  | transition (positionId : String) (change : PureTransition) (existing : PositionSnapshot Number)
      (edge : Edge) (tracked : memory.snapshots.get? positionId = some existing)
      (legal : edge.Legal existing.lifecycleState) :
      Recorded conditions pmId memory (.transition positionId change)
        { pmId, seq := none, positionId, change := .transition change edge }
  | funding (positionId : String) (existing : PositionSnapshot Number)
      (details : FundingDetails Number)
      (tracked : memory.snapshots.get? positionId = some existing) :
      Recorded conditions pmId memory (.funding positionId details.fundingId)
        { pmId, seq := none, positionId, change := .funding details }

def recordedEvent (pmId : String) (log : Log Stored) (key : MutationKey) (payload : Payload Number)
    (now : String) : Event Stored :=
  log.nextEvent (eventTypeForAction payload.change) (Source.wrap payload)
    (some (namespacedKey pmId key.text)) now

/-! ### What one event does to the positions -/

def written (snapshots : Dict String (PositionSnapshot Number)) (positionId : String)
    (result : Except ArithmeticError (PositionSnapshot Number)) :
    Dict String (PositionSnapshot Number) :=
  match result with
  | .ok next => snapshots.set positionId next
  | .error _ => snapshots

omit [LedgerArithmetic Number] [Source Stored (Payload Number)] in
theorem commit_written (memory : Memory Number) (positionId : String)
    (result : Except ArithmeticError (PositionSnapshot Number)) :
    (memory.commit positionId result).2.snapshots =
        written memory.snapshots positionId result ∧
      (memory.commit positionId result).2.closedLegs = memory.closedLegs := by
  cases result <;> exact ⟨rfl, rfl⟩

variable {existing : PositionSnapshot Number} {pmId : String}

variable {memory : Memory Number} {event : Event Stored}

omit [Source Stored (Payload Number)] in
theorem applyEvent_transition {pmId positionId : String} {edge : Edge} (change : PureTransition)
    (fresh : event.eventId ∉ memory.appliedEventIds)
    (tracked : memory.snapshots.get? positionId = some existing)
    (legal : edge.Legal existing.lifecycleState) :
    memory.applyEvent event { pmId, seq := none, positionId, change := .transition change edge } =
      (memory.note event.eventId none).commit positionId (.ok { existing with
        lifecycleState := edge.toState
        updatedAtUtc := event.timestampUtc }) := by
  rw [applyEvent_tracked fresh tracked fun _ impossible => by cases impossible]
  dsimp only [Memory.change]
  rw [checkEdge_of_legal legal]

omit [Source Stored (Payload Number)] in
theorem applyEvent_funding {pmId positionId : String} {details : FundingDetails Number}
    (fresh : event.eventId ∉ memory.appliedEventIds)
    (tracked : memory.snapshots.get? positionId = some existing) :
    memory.applyEvent event { pmId, seq := none, positionId, change := .funding details } =
      (memory.note event.eventId none).commit positionId (fundedSnapshot event existing details) := by
  rw [applyEvent_tracked fresh tracked fun _ impossible => by cases impossible]
  rfl

structure PositionSnapshot.Untouched (snapshot : PositionSnapshot Number) : Prop where
  filled : snapshot.filledQuantity = Arithmetic.zero
  fees : snapshot.feesPaid = Arithmetic.zero
  average : snapshot.avgEntryPrice = none

inductive Writes (memory : Memory Number) (key : MutationKey) :
    Except ArithmeticError (PositionSnapshot Number) → Prop
  | failed (error : ArithmeticError) (tracked : memory.snapshots.get? key.positionId ≠ none)
      (notOpening : ∀ positionId fillId, key ≠ .opening positionId fillId) :
      Writes memory key (.error error)
  | created (next : PositionSnapshot Number) (isCreate : key = .create key.positionId)
      (untouched : next.Untouched) : Writes memory key (.ok next)
  | moved (next : PositionSnapshot Number) (tracked : memory.snapshots.get? key.positionId ≠ none)
      (moved : next.lifecycleState ≠ .new) : Writes memory key (.ok next)
  | stayed (existing next : PositionSnapshot Number)
      (tracked : memory.snapshots.get? key.positionId = some existing)
      (notOpening : ∀ positionId fillId, key ≠ .opening positionId fillId)
      (state : next.lifecycleState = existing.lifecycleState)
      (untouched : existing.Untouched → next.Untouched) : Writes memory key (.ok next)

omit [Source Stored (Payload Number)] in
theorem enteredSnapshot_opening [LawfulZero Number] (event : Event Stored) (fill : Fill Number)
    (untouched : existing.Untouched) :
    enteredSnapshot event existing
        { trigger := .firstFill, fromState := .new, toState := .opened }
        { fillId := fill.fillId ++ ":open"
          fillPrice := fill.price
          fillQuantity := Arithmetic.zero
          fee := Arithmetic.zero } = .ok (openedSnapshot existing fill event.timestampUtc) := by
  unfold enteredSnapshot weightedAveragePrice
  dsimp only
  rw [untouched.filled, untouched.fees, untouched.average, LawfulZero.add_zero_zero]
  rfl

omit [Source Stored (Payload Number)] in
theorem Recorded.writes [LawfulZero Number] {conditions : Conditions Number} {key : MutationKey}
    {payload : Payload Number} (recorded : Recorded conditions pmId memory key payload)
    (untouched : ∀ positionId existing, memory.snapshots.get? positionId = some existing →
      existing.lifecycleState = .new → existing.Untouched)
    (fresh : event.eventId ∉ memory.appliedEventIds) :
    ∃ result, Writes memory key result ∧ (memory.applyEvent event payload).2.snapshots =
      written memory.snapshots key.positionId result := by
  cases recorded with
  | create seq details =>
      rw [applyEvent_create fresh]
      exact ⟨.ok (createdSnapshot event (positionIdOf pmId seq) details),
        .created _ rfl { filled := rfl, fees := rfl, average := rfl }, rfl⟩
  | opening positionId fill existing tracked isNew =>
      have next : nextState? .new .firstFill = some .opened := by decide
      refine ⟨.ok (openedSnapshot existing fill event.timestampUtc), .moved _ ?_ nofun, ?_⟩
      · intro absent
        cases tracked.symm.trans absent
      · unfold openingPayload
        rw [applyEvent_entryFill fresh tracked ⟨isNew.symm, next⟩, (commit_written _ _ _).1,
          enteredSnapshot_opening event fill (untouched positionId existing tracked isNew)]
        rfl
  | entry positionId fill existing edge tracked isOpen legal classifies allowed =>
      refine ⟨enteredSnapshot event existing edge
        { fillId := fill.fillId
          fillPrice := fill.price
          fillQuantity := fill.quantity
          fee := fill.fee }, ?_, ?_⟩
      · have isTracked : memory.snapshots.get? positionId ≠ none := by
          rw [tracked]
          nofun
        cases computed : enteredSnapshot event existing edge _ with
        | error error => exact .failed error isTracked nofun
        | ok next =>
            obtain ⟨_, _, _, _, _, _, rfl⟩ := enteredSnapshot_ok computed
            exact .moved _ isTracked (nextState?_ne_new legal.2)
      · unfold entryPayload
        rw [applyEvent_entryFill fresh tracked legal, (commit_written _ _ _).1]
        rfl
  | exit positionId fill existing avgEntryPrice reason edge details tracked legal isExit averaged
      computed allowed =>
      refine ⟨exitedSnapshot event existing edge details, ?_, ?_⟩
      · have isTracked : memory.snapshots.get? positionId ≠ none := by
          rw [tracked]
          nofun
        cases computed : exitedSnapshot event existing edge details with
        | error error => exact .failed error isTracked nofun
        | ok next =>
            obtain ⟨_, _, _, _, _, _, _, _, rfl⟩ := exitedSnapshot_ok computed
            exact .moved _ isTracked (nextState?_ne_new legal.2)
      · rw [applyEvent_exit fresh tracked legal, (commit_written _ _ _).1]
        rfl
  | transition positionId change existing edge tracked legal =>
      refine ⟨.ok { existing with
        lifecycleState := edge.toState
        updatedAtUtc := event.timestampUtc }, .moved _ ?_ (nextState?_ne_new legal.2), ?_⟩
      · intro absent
        cases tracked.symm.trans absent
      · rw [applyEvent_transition change fresh tracked legal, (commit_written _ _ _).1]
        rfl
  | funding positionId existing details tracked =>
      refine ⟨fundedSnapshot event existing details, ?_, ?_⟩
      · unfold fundedSnapshot
        cases Arithmetic.add existing.fundingPaid details.amount with
        | error error =>
            refine .failed error ?_ nofun
            intro absent
            cases tracked.symm.trans absent
        | ok fundingPaid =>
            exact .stayed existing _ tracked nofun rfl fun untouched =>
              { filled := untouched.filled, fees := untouched.fees, average := untouched.average }
      · rw [applyEvent_funding fresh tracked, (commit_written _ _ _).1]
        rfl

/-! ### The invariant -/

/-- What holds of the log and the memory in every reachable state. -/
structure Consistent (pmId : String) (log : Log Stored) (memory : Memory Number) : Prop where
  faithful : Journal.Faithful (journal pmId : Journal Stored (Payload Number) (Memory Number) _ _)
    Memory.appliedEventIds Alike Memory.initial log memory
  named : ∀ positionId existing, memory.snapshots.get? positionId = some existing →
    (∃ seq, positionId = positionIdOf pmId seq) ∧ InLog pmId log (.create positionId)
  untouched : ∀ positionId existing, memory.snapshots.get? positionId = some existing →
    existing.lifecycleState = .new → existing.Untouched
  opened : ∀ seq fillId, InLog pmId log (.opening (positionIdOf pmId seq) fillId) →
    ∃ existing, memory.snapshots.get? (positionIdOf pmId seq) = some existing ∧
      existing.lifecycleState ≠ .new

theorem Consistent.fresh {log : Log Stored} (consistent : Consistent pmId log memory)
    (key : MutationKey) (payload : Payload Number) (now : String) :
    (recordedEvent pmId log key payload now).eventId ∉ memory.appliedEventIds := by
  intro known
  exact Nat.not_succ_le_self _ (consistent.faithful.bounded _ known)

theorem Consistent.alike {log : Log Stored} {memory other : Memory Number}
    (consistent : Consistent pmId log memory) (alike : Alike other memory) :
    Consistent pmId log other := by
  obtain ⟨faithful, named, untouched, opened⟩ := consistent
  rw [← alike.snapshots] at named untouched opened
  refine { faithful := ?_, named, untouched, opened }
  exact
    { numbered := faithful.numbered
      bounded := by
        rw [alike.appliedEventIds]
        exact faithful.bounded
      complete := by
        rw [alike.appliedEventIds]
        exact faithful.complete
      keyed := faithful.keyed
      replayed := fun rebuilt ran => (faithful.replayed rebuilt ran).trans alike.symm }

omit [LedgerArithmetic Number] in
theorem inLog_concat {log after : Log Stored} (entries : after.entries = log.entries ++ [event])
    (key : MutationKey) :
    InLog pmId after key ↔
      InLog pmId log key ∨ event.idempotencyKey = some (namespacedKey pmId key.text) := by
  unfold InLog
  rw [entries]
  simp only [List.mem_append, List.mem_singleton, or_and_right, exists_or, exists_eq_left]

omit [LedgerArithmetic Number] in
theorem get?_written (snapshots : Dict String (PositionSnapshot Number)) (positionId other : String)
    (result : Except ArithmeticError (PositionSnapshot Number)) :
    (written snapshots positionId result).get? other =
      match result with
      | .ok next => if other = positionId then some next else snapshots.get? other
      | .error _ => snapshots.get? other := by
  cases result with
  | ok next => exact Dict.get?_set _ _ _ _
  | error error => rfl

omit [Source Stored (Payload Number)] in
theorem Recorded.named {conditions : Conditions Number} {key : MutationKey}
    {payload : Payload Number} (recorded : Recorded conditions pmId memory key payload)
    (named : ∀ positionId existing, memory.snapshots.get? positionId = some existing →
      ∃ seq, positionId = positionIdOf pmId seq) :
    payload.pmId = pmId ∧ ∃ seq, key.positionId = positionIdOf pmId seq := by
  cases recorded with
  | create seq details => exact ⟨rfl, seq, rfl⟩
  | opening _ _ existing tracked => exact ⟨rfl, named _ existing tracked⟩
  | entry _ _ existing _ tracked => exact ⟨rfl, named _ existing tracked⟩
  | exit _ _ existing _ _ _ _ tracked => exact ⟨rfl, named _ existing tracked⟩
  | transition _ _ existing _ tracked => exact ⟨rfl, named _ existing tracked⟩
  | funding _ existing _ tracked => exact ⟨rfl, named _ existing tracked⟩

section

variable {memory : Memory Number} {key : MutationKey}
  {result : Except ArithmeticError (PositionSnapshot Number)}

theorem Writes.wasTracked_or_created (writes : Writes memory key result) {other : String}
    {snapshot : PositionSnapshot Number}
    (tracked : (written memory.snapshots key.positionId result).get? other = some snapshot) :
    memory.snapshots.get? other ≠ none ∨ other = key.positionId ∧ key = .create other := by
  rw [get?_written] at tracked
  cases writes with
  | failed error isTracked notOpening => exact Or.inl (Option.ne_none_iff_exists'.mpr ⟨_, tracked⟩)
  | created next isCreate untouched =>
      dsimp only at tracked
      split at tracked
      · rename_i same
        rw [same]
        exact Or.inr ⟨rfl, isCreate⟩
      · exact Or.inl (Option.ne_none_iff_exists'.mpr ⟨_, tracked⟩)
  | moved next isTracked moved =>
      dsimp only at tracked
      split at tracked
      · rename_i same
        rw [same]
        exact Or.inl isTracked
      · exact Or.inl (Option.ne_none_iff_exists'.mpr ⟨_, tracked⟩)
  | stayed before next trackedBefore =>
      dsimp only at tracked
      split at tracked
      · rename_i same
        rw [same]
        exact Or.inl (Option.ne_none_iff_exists'.mpr ⟨_, trackedBefore⟩)
      · exact Or.inl (Option.ne_none_iff_exists'.mpr ⟨_, tracked⟩)

theorem Writes.untouched (writes : Writes memory key result)
    (before : ∀ positionId existing, memory.snapshots.get? positionId = some existing →
      existing.lifecycleState = .new → existing.Untouched)
    {other : String} {snapshot : PositionSnapshot Number}
    (tracked : (written memory.snapshots key.positionId result).get? other = some snapshot)
    (isNew : snapshot.lifecycleState = .new) : snapshot.Untouched := by
  rw [get?_written] at tracked
  cases writes with
  | failed error isTracked notOpening => exact before other snapshot tracked isNew
  | created next isCreate untouched =>
      dsimp only at tracked
      split at tracked
      · cases tracked
        exact untouched
      · exact before other snapshot tracked isNew
  | moved next isTracked moved =>
      dsimp only at tracked
      split at tracked
      · cases tracked
        exact absurd isNew moved
      · exact before other snapshot tracked isNew
  | stayed existing next trackedBefore notOpening state untouched =>
      dsimp only at tracked
      split at tracked
      · cases tracked
        exact untouched (before _ existing trackedBefore (state.symm.trans isNew))
      · exact before other snapshot tracked isNew

theorem Writes.opened (writes : Writes memory key result) {positionId fillId : String}
    (notCreated : key ≠ .create positionId)
    (before : key = .opening positionId fillId ∨ ∃ existing,
      memory.snapshots.get? positionId = some existing ∧ existing.lifecycleState ≠ .new) :
    ∃ snapshot, (written memory.snapshots key.positionId result).get? positionId = some snapshot ∧
      snapshot.lifecycleState ≠ .new := by
  rw [get?_written]
  cases writes with
  | failed error isTracked notOpening => exact before.resolve_left (notOpening _ _)
  | created next isCreate untouched =>
      have different : positionId ≠ key.positionId := by
        intro same
        rw [← same] at isCreate
        exact notCreated isCreate
      obtain ⟨existing, tracked, moved⟩ := before.resolve_left fun isOpening => by
        rw [isOpening] at isCreate
        cases isCreate
      exact ⟨existing, (if_neg different).trans tracked, moved⟩
  | moved next isTracked moved =>
      dsimp only
      split
      · exact ⟨next, rfl, moved⟩
      · rename_i different
        exact before.resolve_left fun isOpening => different (by rw [isOpening]; rfl)
  | stayed existing next trackedBefore notOpening state untouched =>
      obtain ⟨known, tracked, moved⟩ := before.resolve_left (notOpening _ _)
      dsimp only
      split
      · rename_i same
        rw [same, trackedBefore] at tracked
        cases tracked
        exact ⟨next, rfl, by rw [state]; exact moved⟩
      · exact ⟨known, tracked, moved⟩

end

theorem Consistent.recorded [LawfulZero Number] {conditions : Conditions Number} {pmId : String}
    {log after : Log Stored} {memory : Memory Number} {key : MutationKey} {payload : Payload Number}
    {now : String} (consistent : Consistent pmId log memory)
    (recorded : Recorded conditions pmId memory key payload) (unused : ¬ InLog pmId log key)
    (entries : after.entries = log.entries ++ [recordedEvent pmId log key payload now]) :
    Consistent pmId after
      (memory.applyEvent (recordedEvent pmId log key payload now) payload).2 := by
  have fresh := consistent.fresh key payload now
  obtain ⟨isMine, own⟩ := recorded.named fun positionId existing tracked =>
    (consistent.named positionId existing tracked).1
  obtain ⟨result, writes, snapshots⟩ := recorded.writes consistent.untouched fresh
  constructor
  · have mine : (journal pmId : Journal Stored (Payload Number) (Memory Number) _ _).mine payload =
        true := decide_eq_true isMine
    exact consistent.faithful.added (journal_laws_alike pmId) mine entries
  · intro other existing tracked
    rw [snapshots] at tracked
    rcases writes.wasTracked_or_created tracked with isTracked | ⟨same, isCreate⟩
    · obtain ⟨before, trackedBefore⟩ := Option.ne_none_iff_exists'.mp isTracked
      obtain ⟨named, created⟩ := consistent.named other before trackedBefore
      exact ⟨named, (inLog_concat entries _).mpr (Or.inl created)⟩
    · rw [← isCreate, same]
      exact ⟨own, (inLog_concat entries key).mpr (Or.inr rfl)⟩
  · intro other existing tracked isNew
    rw [snapshots] at tracked
    exact writes.untouched consistent.untouched tracked isNew
  · intro seq fillId logged
    rw [snapshots]
    have before : key = .opening (positionIdOf pmId seq) fillId ∨ ∃ existing,
        memory.snapshots.get? (positionIdOf pmId seq) = some existing ∧
          existing.lifecycleState ≠ .new := by
      rcases (inLog_concat entries _).mp logged with old | new
      · exact Or.inr (consistent.opened seq fillId old)
      · obtain ⟨keySeq, isOwn⟩ := own
        have texts : key.text = MutationKey.text (.opening (positionIdOf pmId seq) fillId) :=
          Delimited.append_left_injective (Option.some.inj new)
        exact Or.inl (MutationKey.text_injective isOwn rfl texts)
    refine writes.opened ?_ before
    intro isCreate
    rcases before with isOpening | ⟨existing, tracked, _⟩
    · cases isCreate.symm.trans isOpening
    · apply unused
      rw [isCreate]
      exact (consistent.named _ existing tracked).2

theorem Consistent.foreign {pmId : String} {log : Log Stored} {memory : Memory Number}
    (consistent : Consistent pmId log memory) {eventType : EventType} {payload : Stored}
    {key : Option String} {now : String}
    (notOwn : (Source.own? payload : Option (Payload Number)) = none)
    (otherKey : ∀ own, key ≠ some (namespacedKey pmId own)) :
    Consistent pmId (log.append eventType payload key now).2 memory := by
  have notMine : ((journal pmId : Journal Stored (Payload Number) (Memory Number) _ _).payload?
      payload).filter (journal pmId : Journal Stored (Payload Number) (Memory Number) _ _).mine =
        none := by
    change ((Source.own? payload : Option (Payload Number)).filter _) = none
    rw [notOwn]
    rfl
  have sameKeys : ∀ other, InLog pmId (log.append eventType payload key now).2 other ↔
      InLog pmId log other := by
    intro other
    rcases Log.append_cases log eventType payload key now with unchanged | ⟨_, entries⟩
    · rw [unchanged]
    · rw [inLog_concat entries]
      constructor
      · rintro (old | new)
        · exact old
        · exact (otherKey _ new).elim
      · exact Or.inl
  refine
    { faithful := consistent.faithful.foreign notMine otherKey
      named := ?_
      untouched := consistent.untouched
      opened := ?_ }
  · intro positionId existing tracked
    obtain ⟨named, created⟩ := consistent.named positionId existing tracked
    exact ⟨named, (sameKeys _).mpr created⟩
  · intro seq fillId logged
    exact consistent.opened seq fillId ((sameKeys _).mp logged)

theorem consistent_empty (pmId : String) :
    Consistent pmId (Ledger.empty : Log Stored) (Memory.initial : Memory Number) := by
  constructor
  · exact Journal.faithful_empty Alike.refl rfl
  · intro positionId existing absent
    cases absent
  · intro positionId existing absent
    cases absent
  · rintro seq fillId ⟨event, member, _⟩
    cases member

/-- A property of the log and the positions that every recorded event keeps. -/
structure Watch (pmId : String) (Stored Number : Type) [LedgerArithmetic Number]
    [Source Stored (Payload Number)] where
  conditions : Conditions Number
  opens : ∀ existing fill now, existing.Untouched → conditions.entry existing fill →
    conditions.entry (openedSnapshot existing fill now) fill
  kept : Log Stored → Memory Number → Prop
  alike : ∀ log memory other, Alike other memory → kept log memory → kept log other
  foreign : ∀ log after memory event,
    (journal pmId : Journal Stored (Payload Number) (Memory Number) _ _).own? event = none →
      after.entries = log.entries ++ [event] → kept log memory → kept after memory
  recorded : ∀ log after memory key payload now, Consistent pmId log memory → kept log memory →
    Recorded conditions pmId memory key payload → ¬ InLog pmId log key →
    after.entries = log.entries ++ [recordedEvent pmId log key payload now] →
    kept after (memory.applyEvent (recordedEvent pmId log key payload now) payload).2

variable {pmId : String}

structure Watched (watch : Watch pmId Stored Number) (host : Host Stored (Memory Number)) : Prop where
  consistent : Consistent pmId host.log host.memory
  kept : watch.kept host.log host.memory

def anyEnd (Value : Type) (watch : Watch pmId Stored Number) :
    Post (Host Stored (Memory Number)) PositionManagerError Value :=
  { returned := fun _ after => Watched watch after
    raised := fun _ after => Watched watch after
    crashed := fun after => Watched watch after }

variable {watch : Watch pmId Stored Number} {host : Host Stored (Memory Number)}

theorem Watched.alike (watched : Watched watch host) {memory : Memory Number}
    (alike : Alike memory host.memory) :
    Watched watch { host with memory } :=
  { consistent := watched.consistent.alike alike
    kept := watch.alike _ _ _ alike watched.kept }

theorem Watched.recording [LawfulZero Number] (watched : Watched watch host)
    {payload : Payload Number}
    {key : MutationKey} (recorded : Recorded watch.conditions pmId host.memory key payload) :
    Ends (record pmId payload key) host
      { anyEnd (Option (PositionSnapshot Number)) watch with
        returned := fun value after => Watched watch after ∧
          ((InLog pmId host.log key ∧ after.memory = host.memory) ∨ ∃ event : Event Stored,
            event.eventId ∉ host.memory.appliedEventIds ∧
              host.memory.applyEvent event payload = (.ok value, after.memory)) } := by
  have ends := watched.consistent.faithful.recorded (journal_laws_alike pmId) payload key.text
  change Journal.Recorded _ _ _ _ (record pmId payload key host) at ends
  unfold Ends
  generalize record pmId payload key host = ran at ends
  cases ends with
  | crashed dies => exact { consistent := watched.consistent, kept := watched.kept }
  | failed lives failure fails => exact { consistent := watched.consistent, kept := watched.kept }
  | repeated lives appends event known stored mine value applied =>
      obtain ⟨member, keyed⟩ := Log.getByIdempotencyKey_eq_some_iff.mp known
      exact ⟨{ consistent := watched.consistent, kept := watched.kept },
        Or.inl ⟨⟨event, member, keyed⟩, rfl⟩⟩
  | added lives appends unknown log entries =>
      have unused : ¬ InLog pmId host.log key := by
        rintro ⟨event, member, keyed⟩
        exact Log.getByIdempotencyKey_eq_none unknown event member keyed
      have new := watched.consistent.faithful.newEvent_fresh payload key.text
      have consistent := watched.consistent.recorded recorded unused entries
      have kept := watch.recorded _ _ _ _ _ _ watched.consistent watched.kept recorded unused entries
      change Post.Holds _ (Journal.ofResult (host.memory.applyEvent
          ((journal pmId).newEvent payload key.text host) payload).1,
        { host with
          clock := host.clock + 1
          log
          memory := (host.memory.applyEvent
            ((journal pmId).newEvent payload key.text host) payload).2 })
      change Consistent pmId log (host.memory.applyEvent
        ((journal pmId).newEvent payload key.text host) payload).2 at consistent
      change watch.kept log (host.memory.applyEvent
        ((journal pmId).newEvent payload key.text host) payload).2 at kept
      generalize (journal pmId).newEvent payload key.text host = event at new consistent kept ⊢
      rcases applied : host.memory.applyEvent event payload with ⟨result, memory⟩
      rw [applied] at consistent kept
      cases result with
      | ok value => exact ⟨{ consistent, kept }, Or.inr ⟨event, new, applied⟩⟩
      | error error => exact { consistent, kept }

theorem Watched.recordingKeeps [LawfulZero Number] (watched : Watched watch host)
    {payload : Payload Number}
    {key : MutationKey} (recorded : Recorded watch.conditions pmId host.memory key payload) :
    Ends (record pmId payload key) host (anyEnd _ watch) :=
  (watched.recording recorded).mono (fun _ _ ended => ended.1) (fun _ _ ended => ended)
    fun _ ended => ended

/-! ### The operations -/

omit [LedgerArithmetic Number] [Source Stored (Payload Number)] in
theorem ends_ofModel {Value Next : Type} {result : Except ModelError Value}
    {next : Value → Operation Stored Number Next}
    {post : Post (Host Stored (Memory Number)) PositionManagerError Next}
    (raised : ∀ error, post.raised error host)
    (rest : ∀ value, result = .ok value → Ends (next value) host post) :
    Ends (ofModel result >>= next) host post := by
  cases result with
  | error error =>
      exact ends_bind (fun _ _ => False) (ends_raise (raised _)) fun _ _ impossible =>
        impossible.elim
  | ok value =>
      exact ends_bind_of_returned (rfl : _ = (Outcome.returned value, host)) (rest value rfl)

omit [LedgerArithmetic Number] [Source Stored (Payload Number)] in
private theorem nextState?_of_tried {positionId : String} {trigger : PositionLifecycleTrigger}
    {current toState : PositionLifecycleState}
    (tried : (Process.ofExcept (tryTransition positionId trigger current) :
      Operation Stored Number _) host = (.returned (some toState), host)) :
    nextState? current trigger = some toState := by
  unfold tryTransition at tried
  cases next : nextState? current trigger with
  | some target =>
      rw [next] at tried
      cases tried
      rfl
  | none =>
      rw [next] at tried
      dsimp only at tried
      split at tried <;> cases tried

variable [LawfulZero Number]

private theorem createPosition_watched (watched : Watched watch host)
    (details : CreateDetails Number) :
    Ends (createPosition pmId details) host (anyEnd _ watch) := by
  unfold createPosition
  apply ends_ofModel fun _ => watched
  intro _ _
  apply ends_ofModel fun _ => watched
  intro _ _
  apply ends_bind_of_returned (memory_run host)
  apply ends_bind_modify
  have bumped : Alike { host.memory with nextSeq := host.memory.nextSeq + 1 } host.memory :=
    { snapshots := rfl, closedLegs := rfl, appliedEventIds := rfl }
  exact (watched.alike bumped).recordingKeeps (.create host.memory.nextSeq details)

structure OpenFor (watch : Watch pmId Stored Number) (positionId : String) (fill : Fill Number)
    (current : PositionLifecycleState) (host : Host Stored (Memory Number)) : Prop where
  watched : Watched watch host
  opened : ∃ opened, host.memory.snapshots.get? positionId = some opened ∧
    opened.lifecycleState = current ∧ watch.conditions.entry opened fill
  isOpen : current = .opened ∨ current = .partiallyFilled

private theorem openOnFirstFill_watched (watched : Watched watch host) {positionId : String}
    {fill : Fill Number} {existing : PositionSnapshot Number}
    (tracked : host.memory.snapshots.get? positionId = some existing)
    (takes : takesEntries existing.lifecycleState = true)
    (allowed : watch.conditions.entry existing fill) :
    Ends (openOnFirstFill pmId positionId fill existing.lifecycleState) host
      { anyEnd PositionLifecycleState watch with returned := OpenFor watch positionId fill } := by
  unfold openOnFirstFill
  by_cases isNew : existing.lifecycleState = .new
  · have next : nextState? .new .firstFill = some .opened := by decide
    rw [if_pos isNew, next]
    dsimp only
    apply ends_bind (fun _ after => OpenFor watch positionId fill .opened after)
    · apply (watched.recording (.opening positionId fill existing tracked isNew)).mono
      · rintro value after ⟨watchedAfter, ⟨logged, _⟩ | ⟨event, fresh, applied⟩⟩
        · obtain ⟨⟨seq, named⟩, _⟩ := watched.consistent.named positionId existing tracked
          rw [named] at logged tracked
          obtain ⟨opened, trackedOpened, moved⟩ := watched.consistent.opened seq _ logged
          rw [tracked] at trackedOpened
          cases trackedOpened
          exact absurd isNew moved
        · have untouched := watched.consistent.untouched positionId existing tracked isNew
          refine ⟨watchedAfter, ⟨openedSnapshot existing fill event.timestampUtc, ?_, rfl,
            watch.opens _ _ _ untouched allowed⟩, Or.inl rfl⟩
          have legal : Edge.Legal { trigger := .firstFill, fromState := .new, toState := .opened }
              existing.lifecycleState := ⟨isNew.symm, next⟩
          rw [openingPayload, applyEvent_entryFill fresh tracked legal,
            enteredSnapshot_opening event fill untouched] at applied
          rw [← (Prod.mk.inj applied).2]
          exact Dict.get?_set_self _ _ _
      · exact fun _ _ ended => ended
      · exact fun _ ended => ended
    · intro _ after openFor
      exact ends_pure openFor
  · rw [if_neg isNew]
    refine ends_pure ⟨watched, ⟨existing, tracked, rfl, allowed⟩, ?_⟩
    revert takes isNew
    cases existing.lifecycleState <;> decide

private theorem recordEntryFill_watched (watched : Watched watch host) (positionId : String)
    (fill : Fill Number)
    (allowed : ∀ existing, host.memory.snapshots.get? positionId = some existing →
      fill.fillId ∉ host.memory.fillIds positionId →
      takesEntries existing.lifecycleState = true → watch.conditions.entry existing fill) :
    Ends (recordEntryFill pmId positionId fill) host (anyEnd _ watch) := by
  unfold recordEntryFill
  refine ends_bind_tracked watched fun existing tracked => ?_
  apply ends_bind_of_returned (memory_run host)
  split
  · exact ends_pure watched
  rename_i unknown
  split
  · exact ends_raise watched
  rename_i takes
  rw [Bool.not_eq_false] at takes
  apply ends_ofModel fun _ => watched
  intro newFilled _
  apply ends_bind (OpenFor watch positionId fill)
  · exact openOnFirstFill_watched watched tracked takes (allowed existing tracked unknown takes)
  rintro current between ⟨watchedBetween, ⟨opened, trackedOpened, rfl, allowedOpened⟩, isOpen⟩
  apply ends_ofModel fun _ => watchedBetween
  intro complete _
  apply ends_bind_reads (reads_ofExcept _) fun _ => watchedBetween
  intro toState ran
  cases toState with
  | none =>
      apply ends_bind_of_returned (memory_run between)
      exact ends_pure watchedBetween
  | some toState =>
      have classifies :
          (if complete then PositionLifecycleTrigger.entryComplete else .entryPartial) =
              .entryComplete ∨
            (if complete then PositionLifecycleTrigger.entryComplete else .entryPartial) =
              .entryPartial := by
        cases complete
        · exact Or.inr rfl
        · exact Or.inl rfl
      exact watchedBetween.recordingKeeps (.entry positionId fill opened
        { trigger := _, fromState := opened.lifecycleState, toState } trackedOpened isOpen
        ⟨rfl, nextState?_of_tried ran⟩ classifies allowedOpened)

private theorem recordExit_watched (watched : Watched watch host) (positionId : String)
    (fill : Fill Number)
    (trigger : PositionLifecycleTrigger) (reason : Option String)
    (allowed : ∀ existing, host.memory.snapshots.get? positionId = some existing →
      fill.fillId ∉ host.memory.fillIds positionId → isExitTrigger trigger = true →
      nextState? existing.lifecycleState trigger ≠ none → watch.conditions.exit existing fill) :
    Ends (recordExit pmId positionId fill trigger reason) host (anyEnd _ watch) := by
  have noted : Watched watch { host with memory := host.memory.addFillId positionId fill.fillId } :=
    watched.alike { snapshots := rfl, closedLegs := rfl, appliedEventIds := rfl }
  unfold recordExit
  split
  · exact ends_raise watched
  rename_i isExit
  rw [Bool.not_eq_false] at isExit
  refine ends_bind_tracked watched fun existing tracked => ?_
  apply ends_bind_of_returned (memory_run host)
  split
  · exact ends_pure watched
  rename_i unknown
  split
  · exact noted
  dsimp only
  apply ends_bind_reads (reads_ofExcept _) fun _ => watched
  intro toState ran
  cases toState with
  | none => exact noted
  | some toState =>
      have legal := nextState?_of_tried ran
      dsimp only
      cases averaged : existing.avgEntryPrice with
      | none => exact ends_raise watched
      | some avgEntryPrice =>
          apply ends_ofModel fun _ => watched
          intro details computed
          exact watched.recordingKeeps (.exit positionId fill existing avgEntryPrice _
            { trigger, fromState := existing.lifecycleState, toState } details tracked
            ⟨rfl, legal⟩ isExit averaged computed
            (allowed existing tracked unknown isExit (by rw [legal]; nofun)))

private theorem pureTransition_watched (watched : Watched watch host) (positionId : String)
    (change : PureTransition) :
    Ends (pureTransition pmId positionId change) host (anyEnd _ watch) := by
  unfold pureTransition
  refine ends_bind_tracked watched fun existing tracked => ?_
  dsimp only
  apply ends_bind_reads (reads_ofExcept _) fun _ => watched
  intro toState ran
  cases toState with
  | none => exact ends_pure watched
  | some toState =>
      exact watched.recordingKeeps (.transition positionId change existing
        { trigger := change.trigger, fromState := existing.lifecycleState, toState } tracked
        ⟨rfl, nextState?_of_tried ran⟩)

private theorem recordFundingPayment_watched (watched : Watched watch host) (positionId : String)
    (details : FundingDetails Number) :
    Ends (recordFundingPayment pmId positionId details) host (anyEnd _ watch) := by
  unfold recordFundingPayment
  refine ends_bind_tracked watched fun existing tracked => ?_
  exact watched.recordingKeeps (.funding positionId existing details tracked)

/-! ### Runs -/

inductive Call (Number : Type)
  | create (details : CreateDetails Number)
  | entryFill (positionId : String) (fill : Fill Number)
  | exit (positionId : String) (fill : Fill Number) (trigger : PositionLifecycleTrigger)
      (reason : Option String)
  | transition (positionId : String) (change : PureTransition)
  | funding (positionId : String) (details : FundingDetails Number)

def Call.operation (pmId : String) :
    Call Number → Operation Stored Number (Option (PositionSnapshot Number))
  | .create details => createPosition pmId details
  | .entryFill positionId fill => recordEntryFill pmId positionId fill
  | .exit positionId fill trigger reason => recordExit pmId positionId fill trigger reason
  | .transition positionId change => pureTransition pmId positionId change
  | .funding positionId details => recordFundingPayment pmId positionId details

/-- An append by another module: not an own event, and under no key of this manager. -/
structure Foreign (pmId : String) (Stored Number : Type) [Source Stored (Payload Number)] where
  eventType : EventType
  payload : Stored
  key : Option String
  now : String
  notOwn : (Source.own? payload : Option (Payload Number)) = none
  otherKey : ∀ own, key ≠ some (namespacedKey pmId own)

inductive Step (pmId : String) (Stored Number : Type) [Source Stored (Payload Number)]
  | call (call : Call Number)
  | foreign (added : Foreign pmId Stored Number)
  | kill
  | restart

structure System (Stored Number : Type) where
  host : Host Stored (Memory Number)
  alive : Bool

def System.step (system : System Stored Number) : Step pmId Stored Number → System Stored Number
  | .call call =>
      if system.alive then
        match call.operation pmId system.host with
        | (.crashed, host) => { host, alive := false }
        | (_, host) => { host, alive := true }
      else system
  | .foreign added =>
      { system with
        host := { system.host with
          log := (system.host.log.append added.eventType added.payload added.key added.now).2 } }
  | .kill => { system with alive := false }
  | .restart =>
      match construct pmId system.host.log with
      | .ok memory => { host := { system.host with memory }, alive := true }
      | .error _ => { system with alive := false }

def System.run (system : System Stored Number) (steps : List (Step pmId Stored Number)) :
    System Stored Number :=
  steps.foldl System.step system

def System.start (environment : Nat → StoreAnswer) : System Stored Number :=
  { host := { log := Ledger.empty, memory := Memory.initial, environment, clock := 0 }
    alive := true }

/-- The fill of a call meets the conditions, if the call gets to the point of recording it. -/
def Conditions.Meets (conditions : Conditions Number) (memory : Memory Number) :
    Call Number → Prop
  | .entryFill positionId fill => ∀ existing,
      memory.snapshots.get? positionId = some existing →
      fill.fillId ∉ memory.fillIds positionId → takesEntries existing.lifecycleState = true →
        conditions.entry existing fill
  | .exit positionId fill trigger _ => ∀ existing,
      memory.snapshots.get? positionId = some existing →
      fill.fillId ∉ memory.fillIds positionId → isExitTrigger trigger = true →
      nextState? existing.lifecycleState trigger ≠ none → conditions.exit existing fill
  | _ => True

def Conditions.StepMeets (conditions : Conditions Number) (system : System Stored Number)
    (step : Step pmId Stored Number) : Prop :=
  ∀ call, step = .call call → system.alive = true → conditions.Meets system.host.memory call

theorem Call.operation_watched (watched : Watched watch host) (call : Call Number)
    (meets : watch.conditions.Meets host.memory call) :
    Ends (call.operation pmId) host (anyEnd _ watch) := by
  cases call with
  | create details => exact createPosition_watched watched details
  | entryFill positionId fill => exact recordEntryFill_watched watched positionId fill meets
  | exit positionId fill trigger reason =>
      exact recordExit_watched watched positionId fill trigger reason meets
  | transition positionId change => exact pureTransition_watched watched positionId change
  | funding positionId details => exact recordFundingPayment_watched watched positionId details

omit [LawfulZero Number] in
theorem Consistent.rebuilt {log : Log Stored} {memory rebuilt : Memory Number}
    (consistent : Consistent pmId log memory) (constructed : construct pmId log = .ok rebuilt) :
    Alike rebuilt memory := by
  unfold construct at constructed
  split at constructed
  · cases constructed
  split at constructed
  · cases constructed
  exact consistent.faithful.replayed rebuilt constructed

theorem Watched.step {system : System Stored Number} (watched : Watched watch system.host)
    (step : Step pmId Stored Number) (meets : watch.conditions.StepMeets system step) :
    Watched watch (system.step step).host := by
  obtain ⟨host, alive⟩ := system
  cases step with
  | call call =>
      cases alive with
      | false => exact watched
      | true =>
          have ends := call.operation_watched watched (meets call rfl rfl)
          unfold System.step
          unfold Ends at ends
          dsimp only at ends ⊢
          rw [if_pos rfl]
          rcases ran : call.operation pmId host with ⟨outcome, after⟩
          rw [ran] at ends
          cases outcome <;> exact ends
  | foreign added =>
      refine { consistent := watched.consistent.foreign added.notOwn added.otherKey, kept := ?_ }
      change watch.kept (host.log.append added.eventType added.payload added.key added.now).2
        host.memory
      rcases Log.append_cases host.log added.eventType added.payload added.key added.now with
        unchanged | ⟨_, entries⟩
      · rw [unchanged]
        exact watched.kept
      · apply watch.foreign _ _ _ _ _ entries watched.kept
        change ((Source.own? added.payload : Option (Payload Number)).filter _) = none
        rw [added.notOwn]
        rfl
  | kill => exact watched
  | restart =>
      unfold System.step
      dsimp only
      cases constructed : (construct pmId host.log : Except _ (Memory Number)) with
      | error error => exact watched
      | ok rebuilt => exact watched.alike (watched.consistent.rebuilt constructed)

theorem Watched.run {system : System Stored Number} {steps : List (Step pmId Stored Number)}
    (watched : Watched watch system.host)
    (meets : Runs.Along System.step watch.conditions.StepMeets system steps) :
    Watched watch (system.run steps).host :=
  meets.keeps (fun system => Watched watch system.host)
    (fun _ step before holds => before.step step holds) watched

end

end TurtleExecution.PositionManager

/-! ### Positions go on -/

namespace TurtleExecution.PositionManager

open ExchangeAdapter SharedStore Process

section

variable {Number Stored : Type}

def Leads : PositionLifecycleState → PositionLifecycleState → Prop :=
  Relation.ReflTransGen fun state target => ∃ trigger, nextState? state trigger = some target

/-- A position moves along edges of the table, and keeps what it was created with. -/
structure Continues (existing next : PositionSnapshot Number) : Prop where
  moved : Leads existing.lifecycleState next.lifecycleState
  planned : next =
    { existing with
      lifecycleState := next.lifecycleState
      avgEntryPrice := next.avgEntryPrice
      filledQuantity := next.filledQuantity
      remainingQuantity := next.remainingQuantity
      realizedPnl := next.realizedPnl
      realizedR := next.realizedR
      feesPaid := next.feesPaid
      fundingPaid := next.fundingPaid
      updatedAtUtc := next.updatedAtUtc }

structure Follows (before after : Memory Number) : Prop where
  tracked : ∀ positionId existing, before.snapshots.get? positionId = some existing →
    ∃ next, after.snapshots.get? positionId = some next ∧ Continues existing next
  legs : ∀ positionId legs, before.closedLegs.get? positionId = some legs →
    ∃ more, after.closedLegs.get? positionId = some (legs ++ more)

theorem Follows.of_same {before after : Memory Number}
    (snapshots : after.snapshots = before.snapshots)
    (closedLegs : after.closedLegs = before.closedLegs) : Follows before after := by
  constructor
  · intro positionId existing found
    exact ⟨existing, by rw [snapshots, found], { moved := .refl, planned := rfl }⟩
  · intro positionId legs found
    exact ⟨[], by rw [closedLegs, List.append_nil, found]⟩

theorem Follows.trans {before between after : Memory Number} (first : Follows before between)
    (second : Follows between after) : Follows before after := by
  constructor
  · intro positionId existing found
    obtain ⟨next, foundNext, continues⟩ := first.tracked positionId existing found
    obtain ⟨last, foundLast, stillContinues⟩ := second.tracked positionId next foundNext
    have planned := stillContinues.planned
    rw [continues.planned] at planned
    exact ⟨last, foundLast, { moved := continues.moved.trans stillContinues.moved, planned }⟩
  · intro positionId legs found
    obtain ⟨more, foundMore⟩ := first.legs positionId legs found
    obtain ⟨others, foundOthers⟩ := second.legs positionId _ foundMore
    exact ⟨more ++ others, by rw [foundOthers, List.append_assoc]⟩

theorem Follows.commit {memory noted : Memory Number} (follows : Follows memory noted)
    {positionId : String} {existing : PositionSnapshot Number}
    (tracked : memory.snapshots.get? positionId = some existing)
    {result : Except ArithmeticError (PositionSnapshot Number)}
    (continues : ∀ next, result = .ok next → Continues existing next) :
    Follows memory (noted.commit positionId result).2 := by
  cases result with
  | error error => exact follows
  | ok snapshot =>
      refine { tracked := ?_, legs := follows.legs }
      intro other found isFound
      change ∃ next, (noted.snapshots.set positionId snapshot).get? other = some next ∧ _
      rw [Dict.get?_set]
      split
      · rename_i same
        rw [same, tracked] at isFound
        cases isFound
        exact ⟨snapshot, rfl, continues snapshot rfl⟩
      · exact follows.tracked other found isFound

theorem Follows.setLegs {memory after : Memory Number} {positionId : String}
    {more : List (ClosedLeg Number)} (follows : ∀ other existing,
      memory.snapshots.get? other = some existing →
      ∃ next, after.snapshots.get? other = some next ∧ Continues existing next)
    (closedLegs : after.closedLegs = memory.closedLegs.set positionId
      ((memory.closedLegs.get? positionId).getD [] ++ more)) : Follows memory after := by
  refine { tracked := follows, legs := ?_ }
  intro other legs found
  rw [closedLegs, Dict.get?_set]
  split
  · rename_i same
    rw [← same, found]
    exact ⟨more, rfl⟩
  · exact ⟨[], by rw [List.append_nil, found]⟩

variable [LedgerArithmetic Number]

private theorem change_follows {memory : Memory Number} (event : Event Stored) {positionId : String}
    {existing : PositionSnapshot Number}
    (tracked : memory.snapshots.get? positionId = some existing) (change : Change Number) :
    Follows memory (memory.change event positionId existing change).2 := by
  have same : Follows memory memory := .of_same rfl rfl
  have leads : ∀ edge, checkEdge event.eventId positionId existing edge = .ok () →
      Leads existing.lifecycleState edge.toState := by
    intro edge checked
    unfold checkEdge at checked
    split at checked
    · cases checked
    rename_i starts
    split at checked
    · cases checked
    rename_i legal
    rw [← not_not.mp starts]
    exact .single ⟨edge.trigger, not_not.mp legal⟩
  cases change with
  | create | other => exact same
  | funding details =>
      refine same.commit tracked fun next computed => ?_
      obtain ⟨fundingPaid, _, computed⟩ := ok_of_bind computed
      cases computed
      exact { moved := .refl, planned := rfl }
  | entryFill edge details =>
      dsimp only [Memory.change]
      cases checked : checkEdge event.eventId positionId existing edge with
      | error error => exact same
      | ok value =>
          have noted : Follows memory (memory.addFillId positionId details.fillId) :=
            .of_same rfl rfl
          refine noted.commit tracked fun next computed => ?_
          obtain ⟨_, _, _, _, _, _, rfl⟩ := enteredSnapshot_ok computed
          exact { moved := leads edge checked, planned := rfl }
  | exit edge details =>
      dsimp only [Memory.change]
      cases checked : checkEdge event.eventId positionId existing edge with
      | error error => exact same
      | ok value =>
          have added : Follows memory ((memory.addFillId positionId details.fillId).addLeg positionId
              (closedLeg event positionId existing details)) := .setLegs same.tracked rfl
          refine added.commit tracked fun next computed => ?_
          obtain ⟨_, _, _, _, _, _, _, _, rfl⟩ := exitedSnapshot_ok computed
          exact { moved := leads edge checked, planned := rfl }
  | transition change edge =>
      dsimp only [Memory.change]
      cases checked : checkEdge event.eventId positionId existing edge with
      | error error => exact same
      | ok value =>
          refine same.commit tracked fun next computed => ?_
          cases computed
          exact { moved := leads edge checked, planned := rfl }

private theorem applyEvent_follows (memory : Memory Number) (event : Event Stored)
    (payload : Payload Number) (creates : ∀ details, payload.change = .create details →
      memory.snapshots.get? payload.positionId = none) :
    Follows memory (memory.applyEvent event payload).2 := by
  obtain ⟨pmId, seq, positionId, change⟩ := payload
  have noted : Follows memory (memory.note event.eventId seq) := .of_same rfl rfl
  unfold Memory.applyEvent
  dsimp only
  split
  · exact .of_same rfl rfl
  cases change with
  | create details =>
      refine @Follows.setLegs _ _ _ _ [] ?_ (by rw [List.append_nil]; rfl)
      intro other existing found
      refine ⟨existing, (Dict.get?_set_of_ne _ _ ?_).trans found, { moved := .refl, planned := rfl }⟩
      rintro rfl
      rw [creates details rfl] at found
      cases found
  | entryFill | exit | transition | funding | other =>
      dsimp only
      cases tracked : (memory.note event.eventId seq).snapshots.get? positionId with
      | none => exact noted
      | some existing => exact noted.trans (change_follows event tracked _)

variable [Source Stored (Payload Number)] {pmId : String}

def Watch.following (pmId : String) (Stored : Type) [Source Stored (Payload Number)]
    (start : Memory Number) : Watch pmId Stored Number :=
  { conditions := { entry := fun _ _ => True, exit := fun _ _ => True }
    opens := fun _ _ _ _ _ => trivial
    kept := fun _ memory => Follows start memory
    alike := fun _ _ _ alike follows => follows.trans (.of_same alike.snapshots alike.closedLegs)
    foreign := fun _ _ _ _ _ _ follows => follows
    recorded := fun log _ memory key payload now consistent follows recorded unused _ => by
      refine follows.trans (applyEvent_follows memory _ payload fun details isCreate => ?_)
      cases recorded with
      | create seq known =>
          cases tracked : memory.snapshots.get? (positionIdOf pmId seq) with
          | none => rfl
          | some existing => exact absurd (consistent.named _ existing tracked).2 unused
      | opening | entry | exit | transition | funding => cases isCreate }

/-- Whatever is done to a manager and whatever fails, its positions are never lost, move
along edges of the table and keep what they were created with, their legs only grow, and a
manager that is rebuilt from the log has the same positions and legs. -/
theorem run_goesForward [LawfulZero Number] (environment : Nat → StoreAnswer)
    (steps later : List (Step pmId Stored Number)) :
    let between := (System.start environment : System Stored Number).run steps
    let final := between.run later
    Follows between.host.memory final.host.memory ∧
      ∀ rebuilt, construct pmId final.host.log = .ok rebuilt → Alike rebuilt final.host.memory := by
  intro between final
  have runs : ∀ (start : Memory Number) (system : System Stored Number)
      (steps : List (Step pmId Stored Number)),
      Watched (Watch.following pmId Stored start) system.host →
      Watched (Watch.following pmId Stored start) (system.run steps).host := by
    intro start system steps watched
    refine watched.run (Runs.along_of_all ?_ _ steps)
    intro system step call _ _
    cases call <;> first | trivial | exact fun _ _ _ _ => trivial | exact fun _ _ _ _ _ => trivial
  have started := runs Memory.initial (System.start environment) steps
    { consistent := consistent_empty pmId, kept := .of_same rfl rfl }
  have watched := runs between.host.memory between later
    { consistent := started.consistent, kept := .of_same rfl rfl }
  exact ⟨watched.kept, fun rebuilt constructed => watched.consistent.rebuilt constructed⟩

end

end TurtleExecution.PositionManager

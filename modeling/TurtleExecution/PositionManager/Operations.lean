/-
What one event does to a position manager's memory, and the parts of the operations that
book fills.

Every event is noted.  One that creates a position adds it, and any other changes the
position that it is about, along a legal edge.  Every operation writes to the log through
the journal alone.
-/

import TurtleExecution.PositionManager.Manager

set_option autoImplicit false

namespace TurtleExecution.PositionManager

open ExchangeAdapter SharedStore Process

section

variable {Number Stored : Type}

section

variable [LedgerArithmetic Number]

omit [LedgerArithmetic Number] in
private theorem commit_appliedEventIds (memory : Memory Number) (positionId : String)
    (result : Except ArithmeticError (PositionSnapshot Number)) :
    (memory.commit positionId result).2.appliedEventIds = memory.appliedEventIds := by
  unfold Memory.commit
  cases result <;> rfl

private theorem change_appliedEventIds (memory : Memory Number) (event : Event Stored)
    (positionId : String)
    (existing : PositionSnapshot Number) (change : Change Number) :
    (memory.change event positionId existing change).2.appliedEventIds = memory.appliedEventIds := by
  cases change with
  | create | other => rfl
  | funding details => exact commit_appliedEventIds memory positionId _
  | entryFill edge details | exit edge details | transition change edge =>
      dsimp only [Memory.change]
      cases checkEdge event.eventId positionId existing edge with
      | error error => rfl
      | ok checked => exact commit_appliedEventIds _ positionId _

theorem applyEvent_appliedEventIds (memory : Memory Number) (event : Event Stored)
    (payload : Payload Number) (fresh : event.eventId ∉ memory.appliedEventIds) :
    (memory.applyEvent event payload).2.appliedEventIds =
      memory.appliedEventIds ++ [event.eventId] := by
  unfold Memory.applyEvent
  rw [if_neg fresh]
  dsimp only
  cases payload.change with
  | create details => rfl
  | entryFill | exit | transition | funding | other =>
      cases (memory.note event.eventId payload.seq).snapshots.get? payload.positionId with
      | none => rfl
      | some existing => exact change_appliedEventIds _ event _ existing _

variable [Source Stored (Payload Number)]

def Edge.Legal (edge : Edge) (state : PositionLifecycleState) : Prop :=
  edge.fromState = state ∧ nextState? edge.fromState edge.trigger = some edge.toState

variable {existing : PositionSnapshot Number} {edge : Edge}

omit [LedgerArithmetic Number] [Source Stored (Payload Number)] in
theorem checkEdge_of_legal (legal : edge.Legal existing.lifecycleState) (eventId : Nat)
    (positionId : String) : checkEdge eventId positionId existing edge = .ok () := by
  unfold checkEdge
  rw [if_neg (not_not.mpr legal.1), if_neg (not_not.mpr legal.2)]

variable {pmId positionId : String} {memory : Memory Number} {event : Event Stored}

omit [Source Stored (Payload Number)] in
theorem applyEvent_tracked {change : Change Number} (fresh : event.eventId ∉ memory.appliedEventIds)
    (tracked : memory.snapshots.get? positionId = some existing)
    (notCreate : ∀ details, change ≠ .create details) :
    memory.applyEvent event { pmId, seq := none, positionId, change } =
      (memory.note event.eventId none).change event positionId existing change := by
  have trackedNoted : (memory.note event.eventId none).snapshots.get? positionId = some existing :=
    tracked
  unfold Memory.applyEvent
  rw [if_neg fresh]
  dsimp only
  split
  · rename_i details
    exact absurd rfl (notCreate details)
  · rw [trackedNoted]

omit [Source Stored (Payload Number)] in
theorem applyEvent_entryFill {details : EntryDetails Number}
    (fresh : event.eventId ∉ memory.appliedEventIds)
    (tracked : memory.snapshots.get? positionId = some existing)
    (legal : edge.Legal existing.lifecycleState) :
    memory.applyEvent event { pmId, seq := none, positionId, change := .entryFill edge details } =
      ((memory.note event.eventId none).addFillId positionId details.fillId).commit positionId
        (enteredSnapshot event existing edge details) := by
  rw [applyEvent_tracked fresh tracked fun _ impossible => by cases impossible]
  dsimp only [Memory.change]
  rw [checkEdge_of_legal legal]

omit [Source Stored (Payload Number)] in
theorem applyEvent_exit {details : ExitDetails Number}
    (fresh : event.eventId ∉ memory.appliedEventIds)
    (tracked : memory.snapshots.get? positionId = some existing)
    (legal : edge.Legal existing.lifecycleState) :
    memory.applyEvent event { pmId, seq := none, positionId, change := .exit edge details } =
      (((memory.note event.eventId none).addFillId positionId details.fillId).addLeg positionId
        (closedLeg event positionId existing details)).commit positionId
          (exitedSnapshot event existing edge details) := by
  rw [applyEvent_tracked fresh tracked fun _ impossible => by cases impossible]
  dsimp only [Memory.change]
  rw [checkEdge_of_legal legal]

omit [Source Stored (Payload Number)] in
theorem applyEvent_create {seq : Nat} {details : CreateDetails Number}
    (fresh : event.eventId ∉ memory.appliedEventIds) :
    memory.applyEvent event { pmId, seq := some seq, positionId, change := .create details } =
      (.ok (some (createdSnapshot event positionId details)),
        { memory.note event.eventId (some seq) with
          snapshots := memory.snapshots.set positionId (createdSnapshot event positionId details)
          closedLegs := memory.closedLegs.set positionId
            ((memory.closedLegs.get? positionId).getD [])
          processedFillIds := memory.processedFillIds.set positionId
            (memory.fillIds positionId) }) := by
  unfold Memory.applyEvent
  rw [if_neg fresh]
  rfl

def InLog (pmId : String) (log : Log Stored) (key : MutationKey) : Prop :=
  ∃ event ∈ log.entries, event.idempotencyKey = some (namespacedKey pmId key.text)

end

end

section

variable {Number Stored : Type} [LedgerArithmetic Number] [Source Stored (Payload Number)]

variable {existing next : PositionSnapshot Number} {host : Host Stored (Memory Number)}
  {details : ExitDetails Number}

omit [Source Stored (Payload Number)] in
theorem enteredSnapshot_ok {event : Event Stored} {edge : Edge} {details : EntryDetails Number}
    (computed : enteredSnapshot event existing edge details = .ok next) :
    ∃ newAvg newFilled feesPaid,
      weightedAveragePrice existing.avgEntryPrice existing.filledQuantity details.fillPrice
        details.fillQuantity = .ok newAvg ∧
      Arithmetic.add existing.filledQuantity details.fillQuantity = .ok newFilled ∧
      Arithmetic.add existing.feesPaid details.fee = .ok feesPaid ∧
      next = { existing with
               lifecycleState := edge.toState
               avgEntryPrice := some newAvg
               filledQuantity := newFilled
               remainingQuantity := newFilled
               feesPaid
               updatedAtUtc := event.timestampUtc } := by
  unfold enteredSnapshot at computed
  obtain ⟨newAvg, averaged, computed⟩ := ok_of_bind computed
  obtain ⟨newFilled, filled, computed⟩ := ok_of_bind computed
  obtain ⟨feesPaid, paid, computed⟩ := ok_of_bind computed
  exact ⟨newAvg, newFilled, feesPaid, averaged, filled, paid, (Except.ok.inj computed).symm⟩

omit [Source Stored (Payload Number)] in
theorem exitedSnapshot_ok {event : Event Stored} {edge : Edge}
    (computed : exitedSnapshot event existing edge details = .ok next) :
    ∃ remainingQuantity realizedPnl realizedR feesPaid,
      Arithmetic.sub existing.remainingQuantity details.fillQuantity = .ok remainingQuantity ∧
      Arithmetic.add existing.realizedPnl details.realizedPnl = .ok realizedPnl ∧
      Arithmetic.add existing.realizedR details.r = .ok realizedR ∧
      Arithmetic.add existing.feesPaid details.fee = .ok feesPaid ∧
      next = { existing with
               lifecycleState := edge.toState
               remainingQuantity, realizedPnl, realizedR, feesPaid
               updatedAtUtc := event.timestampUtc } := by
  unfold exitedSnapshot at computed
  obtain ⟨remainingQuantity, remains, computed⟩ := ok_of_bind computed
  obtain ⟨realizedPnl, realizes, computed⟩ := ok_of_bind computed
  obtain ⟨realizedR, multiplies, computed⟩ := ok_of_bind computed
  obtain ⟨feesPaid, paid, computed⟩ := ok_of_bind computed
  exact ⟨remainingQuantity, realizedPnl, realizedR, feesPaid, remains, realizes, multiplies, paid,
    (Except.ok.inj computed).symm⟩

omit [Source Stored (Payload Number)] in
theorem exitDetails_ok {existing : PositionSnapshot Number} {avgEntryPrice : Number}
    {fill : Fill Number} {reason : String}
    (computed : exitDetails existing avgEntryPrice fill reason = .ok details) :
    ∃ r pct realizedPnl,
      legRealizedPnl avgEntryPrice fill.price fill.quantity fill.fee = .ok realizedPnl ∧
      details = { fillId := fill.fillId
                  fillPrice := fill.price
                  fillQuantity := fill.quantity
                  fee := fill.fee
                  r, pct, reason, realizedPnl } := by
  unfold exitDetails at computed
  obtain ⟨fraction, _, computed⟩ := ok_of_bind computed
  obtain ⟨r, _, computed⟩ := ok_of_bind computed
  obtain ⟨pct, _, computed⟩ := ok_of_bind computed
  obtain ⟨realizedPnl, realizes, computed⟩ := ok_of_bind computed
  exact ⟨r, pct, realizedPnl, ok_of_mapError realizes, (Except.ok.inj computed).symm⟩

def openedSnapshot (existing : PositionSnapshot Number) (fill : Fill Number) (now : String) :
    PositionSnapshot Number :=
  { existing with
    lifecycleState := .opened
    avgEntryPrice := some fill.price
    filledQuantity := Arithmetic.zero
    remainingQuantity := Arithmetic.zero
    feesPaid := Arithmetic.zero
    updatedAtUtc := now }

omit [LedgerArithmetic Number] [Source Stored (Payload Number)] in
theorem memory_run (host : Host Stored (Memory Number)) :
    memory host = (.returned host.memory, host) := rfl

omit [LedgerArithmetic Number] [Source Stored (Payload Number)] in
theorem trackedPosition_run {positionId : String} {existing : PositionSnapshot Number}
    (tracked : host.memory.snapshots.get? positionId = some existing) :
    trackedPosition positionId host = (.returned existing, host) := by
  unfold trackedPosition
  rw [bind_returned (memory_run host), tracked]
  rfl

omit [LedgerArithmetic Number] [Source Stored (Payload Number)] in
theorem ends_bind_tracked {Value : Type} {positionId : String}
    {next : PositionSnapshot Number → Operation Stored Number Value}
    {post : Post (Host Stored (Memory Number)) PositionManagerError Value}
    (raised : post.raised (.positionNotFound positionId) host)
    (rest : ∀ existing, host.memory.snapshots.get? positionId = some existing →
      Ends (next existing) host post) : Ends (trackedPosition positionId >>= next) host post := by
  cases tracked : host.memory.snapshots.get? positionId with
  | none =>
      refine ends_bind (fun _ _ => False) ?_ (fun _ _ impossible => impossible.elim)
      refine ends_bind_of_returned (memory_run host) ?_
      rw [tracked]
      exact ends_raise raised
  | some existing => exact ends_bind_of_returned (trackedPosition_run tracked) (rest existing tracked)

section

variable {pmId : String} {kept : Log Stored → Prop}

omit [Source Stored (Payload Number)] [LedgerArithmetic Number] in
private theorem preserves_memory_log :
    Preserves Host.log (memory : Operation Stored Number (Memory Number)) :=
  preserves_bind (preserves_get _) fun _ => preserves_pure _ _

omit [Source Stored (Payload Number)] [LedgerArithmetic Number] in
theorem preserves_trackedPosition_log (positionId : String) :
    Preserves Host.log
      (trackedPosition positionId : Operation Stored Number (PositionSnapshot Number)) := by
  refine preserves_bind preserves_memory_log fun memory => ?_
  cases memory.snapshots.get? positionId with
  | none => exact preserves_raise _ _
  | some existing => exact preserves_pure _ _

theorem keeps_createPosition
    (closed : (journal pmId : Journal Stored (Payload Number) (Memory Number) _ _).Closed kept)
    (details : CreateDetails Number) :
    Keeps (fun host : Host Stored (Memory Number) => kept host.log)
      (createPosition pmId details) :=
  keeps_bind (keeps_ofExcept _ _) fun _ => keeps_bind (keeps_ofExcept _ _) fun _ =>
    keeps_bind (preserves_memory_log.keeps kept) fun _ =>
      keeps_bind (fun _ holds => holds) fun _ => Journal.keeps_record closed _ _

theorem keeps_recordEntryFill
    (closed : (journal pmId : Journal Stored (Payload Number) (Memory Number) _ _).Closed kept)
    (positionId : String) (fill : Fill Number) :
    Keeps (fun host : Host Stored (Memory Number) => kept host.log)
      (recordEntryFill pmId positionId fill) := by
  refine keeps_bind ((preserves_trackedPosition_log _).keeps kept) fun existing =>
    keeps_bind (preserves_memory_log.keeps kept) fun before => ?_
  split
  · exact keeps_pure _ _
  split
  · exact keeps_raise _ _
  refine keeps_bind (keeps_ofExcept _ _) fun newFilled => keeps_bind ?_ fun current =>
    keeps_bind (keeps_ofExcept _ _) fun complete => keeps_bind (keeps_ofExcept _ _) fun toState => ?_
  · unfold openOnFirstFill
    split
    · split
      · exact keeps_raise _ _
      · exact keeps_bind (Journal.keeps_record closed _ _) fun _ => keeps_pure _ _
    · exact keeps_pure _ _
  · cases toState with
    | none => exact keeps_bind (preserves_memory_log.keeps kept) fun _ => keeps_pure _ _
    | some toState => exact Journal.keeps_record closed _ _

theorem keeps_recordExit
    (closed : (journal pmId : Journal Stored (Payload Number) (Memory Number) _ _).Closed kept)
    (positionId : String) (fill : Fill Number) (trigger : PositionLifecycleTrigger)
    (reason : Option String) :
    Keeps (fun host : Host Stored (Memory Number) => kept host.log)
      (recordExit pmId positionId fill trigger reason) := by
  unfold recordExit
  split
  · exact keeps_raise _ _
  refine keeps_bind ((preserves_trackedPosition_log _).keeps kept) fun existing =>
    keeps_bind (preserves_memory_log.keeps kept) fun before => ?_
  split
  · exact keeps_pure _ _
  split
  · exact keeps_bind (fun _ holds => holds) fun _ => keeps_pure _ _
  refine keeps_bind (keeps_ofExcept _ _) fun toState => ?_
  cases toState with
  | none => exact keeps_bind (fun _ holds => holds) fun _ => keeps_pure _ _
  | some toState =>
      dsimp only
      cases existing.avgEntryPrice with
      | none => exact keeps_raise _ _
      | some avgEntryPrice =>
          exact keeps_bind (keeps_ofExcept _ _) fun _ => Journal.keeps_record closed _ _

end

end

end TurtleExecution.PositionManager

/-
Synchronization of the orders in doubt, after a restart or a suspected gap.

A resync reads the orders that are tracked, never the next sequence number: its outcome
does not depend on how many numbers have been used up.
-/

import TurtleExecution.OrderManager.Frames

set_option autoImplicit false

namespace TurtleExecution.OrderManager

open ExchangeAdapter SharedStore Process

section

variable {Number Stored : Type}

def Memory.inDoubtClientOrderIds (memory : Memory Number) : List String :=
  (memory.snapshots.filter fun item =>
    item.2.lifecycleState = .submitted ∨ item.2.lifecycleState = .cancelPending).map Prod.fst

variable [Arithmetic Number] [Sources Stored Number]

def resyncOrders (omId : String) :
    List String → Operation Stored Number (List (Option (OrderSnapshot Number)))
  | [] => return []
  | clientOrderId :: rest => do
      let first ← resyncOrder omId clientOrderId
      let others ← resyncOrders omId rest
      return first :: others

def synchronize (omId : String) : Operation Stored Number (List (Option (OrderSnapshot Number))) := do
  let memory ← memory
  resyncOrders omId memory.inDoubtClientOrderIds

end

section

variable {Number Stored Value Next : Type}

def Memory.numbered (memory : Memory Number) (nextSeq : Nat) : Memory Number :=
  { memory with nextSeq }

def World.numbered (world : World Stored Number) (nextSeq : Nat) : World Stored Number :=
  { world with memory := world.memory.numbered nextSeq }

/-- With another next number the process ends in the same way, and its state differs in
the next number at most. -/
def Unnumbered (process : Operation Stored Number Value) : Prop :=
  ∀ world nextSeq, ∃ last, process (world.numbered nextSeq) =
    ((process world).1, (process world).2.numbered last)

private theorem unnumbered_pure (value : Value) :
    Unnumbered (pure value : Operation Stored Number Value) :=
  fun _ nextSeq => ⟨nextSeq, rfl⟩

private theorem unnumbered_raise (error : OrderManagerError) :
    Unnumbered (raise error : Operation Stored Number Value) :=
  fun _ nextSeq => ⟨nextSeq, rfl⟩

private theorem ofExcept_numbered (result : Except OrderManagerError Value)
    (world : World Stored Number)
    (nextSeq : Nat) :
    ofExcept result (world.numbered nextSeq) =
      ((ofExcept result world).1, (ofExcept result world).2.numbered nextSeq) := by
  cases result <;> rfl

private theorem unnumbered_ofExcept (result : Except OrderManagerError Value) :
    Unnumbered (ofExcept result : Operation Stored Number Value) :=
  fun world nextSeq => ⟨nextSeq, ofExcept_numbered result world nextSeq⟩

theorem Unnumbered.bind {process : Operation Stored Number Value}
    {next : Value → Operation Stored Number Next} (first : Unnumbered process)
    (second : ∀ value, Unnumbered (next value)) : Unnumbered (process >>= next) := by
  intro world nextSeq
  obtain ⟨between, same⟩ := first world nextSeq
  rcases ran : process world with ⟨outcome, after⟩
  rw [ran] at same
  cases outcome with
  | returned value =>
      rw [bind_returned same, bind_returned ran]
      exact second value after between
  | raised error =>
      rw [bind_raised same, bind_raised ran]
      exact ⟨between, rfl⟩
  | crashed =>
      rw [bind_crashed same, bind_crashed ran]
      exact ⟨between, rfl⟩

private theorem unnumbered_consult : Unnumbered
    (consult : Operation Stored Number (Answer Number)) := by
  intro world nextSeq
  refine ⟨nextSeq, ?_⟩
  rw [consult_eq, consult_eq]
  change (if (world.environment world.clock).crash then _ else _) = _
  cases (world.environment world.clock).crash with
  | true => rfl
  | false => rfl

private theorem unnumbered_snapshotOf (clientOrderId : String) :
    Unnumbered (snapshotOf clientOrderId : Operation Stored Number (OrderSnapshot Number)) :=
  fun world nextSeq =>
    unnumbered_ofExcept (required clientOrderId (world.memory.snapshots.get? clientOrderId))
      world nextSeq

private theorem unnumbered_trackedOrder (clientOrderId : String) :
    Unnumbered (trackedOrder clientOrderId : Operation Stored Number (OrderSnapshot Number)) := by
  intro world nextSeq
  refine ⟨nextSeq, ?_⟩
  rw [trackedOrder_eq, trackedOrder_eq]
  -- Only the snapshots of memory decide.
  have same : (world.numbered nextSeq).memory.snapshots = world.memory.snapshots := rfl
  rw [same]
  cases world.memory.snapshots.get? clientOrderId <;> rfl

theorem Memory.commit_numbered (memory : Memory Number) (clientOrderId : String)
    (result : Except OrderManagerError (OrderSnapshot Number)) (nextSeq : Nat) :
    (memory.numbered nextSeq).commit clientOrderId result =
      ((memory.commit clientOrderId result).1,
        (memory.commit clientOrderId result).2.numbered nextSeq) := by
  cases result <;> rfl

private theorem exceptIllegal_numbered (result : Except ExecutionStateMachine.MachineError
    ExecutionStateMachine.TransitionResult) (world : World Stored Number) (nextSeq : Nat) :
    exceptIllegal result (world.numbered nextSeq) =
      ((exceptIllegal result world).1, (exceptIllegal result world).2.numbered nextSeq) := by
  cases result with
  | ok result => rfl
  | error error => cases error <;> rfl

variable [Arithmetic Number]

theorem Memory.applyEvent_numbered (memory : Memory Number) (event : Event Stored)
    (payload : Payload Number) (nextSeq : Nat) :
    ∃ last, (memory.numbered nextSeq).applyEvent event payload =
      ((memory.applyEvent event payload).1, (memory.applyEvent event payload).2.numbered last) := by
  by_cases known : event.eventId ∈ memory.appliedEventIds
  · refine ⟨nextSeq, ?_⟩
    have knownToo : event.eventId ∈ (memory.numbered nextSeq).appliedEventIds := known
    unfold Memory.applyEvent
    rw [if_pos known, if_pos knownToo]
    rfl
  · have unknownToo : event.eventId ∉ (memory.numbered nextSeq).appliedEventIds := known
    refine ⟨((memory.numbered nextSeq).note event.eventId payload.seq).nextSeq, ?_⟩
    have noted : (memory.numbered nextSeq).note event.eventId payload.seq =
        (memory.note event.eventId payload.seq).numbered
          ((memory.numbered nextSeq).note event.eventId payload.seq).nextSeq := rfl
    unfold Memory.applyEvent
    rw [if_neg known, if_neg unknownToo]
    dsimp only
    rw [noted]
    generalize memory.note event.eventId payload.seq = noted
    have same : ∀ last, (noted.numbered last).snapshots = noted.snapshots := fun _ => rfl
    cases payload.action with
    | submit => cases submittedSnapshot event payload <;> rfl
    | cancelAllRequested => rfl
    | amendRequested => rfl
    | fill =>
        dsimp only
        rw [same]
        cases noted.snapshots.get? payload.clientOrderId with
        | none => rfl
        | some existing =>
            dsimp only
            cases checkedTransition event payload existing with
            | error error => rfl
            | ok toState =>
                cases required "fill_id" payload.details.fillId with
                | error error => rfl
                | ok fillId =>
                    exact Memory.commit_numbered (noted.addFillId payload.clientOrderId fillId) _ _ _
    | statusUpdate =>
        dsimp only
        rw [same]
        cases noted.snapshots.get? payload.clientOrderId with
        | none => rfl
        | some existing => exact Memory.commit_numbered noted _ _ _
    | amend =>
        dsimp only
        rw [same]
        cases noted.snapshots.get? payload.clientOrderId with
        | none => rfl
        | some existing => rfl
    | other name =>
        dsimp only
        rw [same]
        cases noted.snapshots.get? payload.clientOrderId <;> rfl

variable [Sources Stored Number]

private theorem unnumbered_persistAndApply (omId : String) (payload : Payload Number)
    (idempotencyKey : String) :
    Unnumbered (persistAndApply omId payload idempotencyKey :
      Operation Stored Number (Option (OrderSnapshot Number))) := by
  apply Unnumbered.bind
  · apply unnumbered_consult.bind
    intro answer world nextSeq
    refine ⟨nextSeq, ?_⟩
    cases answer.appendFailure <;> rfl
  · intro event world nextSeq
    cases own : (Source.own? event.payload : Option (Payload Number)) with
    | none =>
        refine ⟨nextSeq, ?_⟩
        unfold applyPersisted
        simp only [own]
        rfl
    | some payload =>
        obtain ⟨last, same⟩ := world.memory.applyEvent_numbered event payload nextSeq
        refine ⟨last, ?_⟩
        rw [applyPersisted_eq own, applyPersisted_eq own]
        change ofExcept ((world.memory.numbered nextSeq).applyEvent event payload).1
          { world with memory := ((world.memory.numbered nextSeq).applyEvent event payload).2 } = _
        rw [same]
        exact ofExcept_numbered _ { world with memory := (world.memory.applyEvent event payload).2 } _

omit [Arithmetic Number] in
private theorem unnumbered_driveExecutionSm (clientOrderId : String) (trigger : OrderLifecycleTrigger)
    (fromState : OrderLifecycleState) (isUnfilled : Bool) :
    Unnumbered (driveExecutionSm clientOrderId trigger fromState isUnfilled :
      Operation Stored Number Unit) := by
  intro world nextSeq
  refine ⟨nextSeq, ?_⟩
  rw [driveExecutionSm_eq, driveExecutionSm_eq]
  cases executionTrigger? trigger fromState isUnfilled with
  | none => rfl
  | some executionTrigger =>
      dsimp only
      by_cases dead : (world.environment world.clock).crash = true
      · rw [if_pos dead, if_pos (show ((world.numbered nextSeq).environment
          (world.numbered nextSeq).clock).crash = true from dead)]
        rfl
      · rw [if_neg dead, if_neg (show ¬ ((world.numbered nextSeq).environment
          (world.numbered nextSeq).clock).crash = true from dead)]
        have same : ExecutionStateMachine.transition (world.numbered nextSeq).log
            (world.numbered nextSeq).machine (driveCall clientOrderId executionTrigger
              ((world.numbered nextSeq).environment (world.numbered nextSeq).clock)) =
            ExecutionStateMachine.transition world.log world.machine
              (driveCall clientOrderId executionTrigger (world.environment world.clock)) := rfl
        rw [same]
        generalize ExecutionStateMachine.transition world.log world.machine
          (driveCall clientOrderId executionTrigger (world.environment world.clock)) = outcome
        exact exceptIllegal_numbered outcome.1
          { world.tick with log := outcome.2.1, machine := outcome.2.2 } nextSeq

private theorem unnumbered_ingestStatus (omId clientOrderId : String) (status : OrderStatus)
    (exchangeOrderId : Option String) :
    Unnumbered (ingestStatus omId clientOrderId status exchangeOrderId :
      Operation Stored Number (Option (OrderSnapshot Number))) := by
  unfold ingestStatus
  cases statusToTrigger? status with
  | none => exact (unnumbered_snapshotOf _).bind fun _ => unnumbered_pure _
  | some trigger =>
      apply (unnumbered_snapshotOf _).bind
      intro existing
      dsimp only
      cases nextState? existing.lifecycleState trigger with
      | none =>
          dsimp only
          split
          · exact unnumbered_pure _
          · exact unnumbered_raise _
      | some toState =>
          apply (unnumbered_persistAndApply _ _ _).bind
          intro snapshot
          exact (unnumbered_driveExecutionSm _ _ _ _).bind fun _ => unnumbered_pure _

private theorem unnumbered_resyncOrder (omId clientOrderId : String) :
    Unnumbered (resyncOrder omId clientOrderId :
      Operation Stored Number (Option (OrderSnapshot Number))) := by
  apply (unnumbered_trackedOrder _).bind
  intro existing
  cases existing.exchangeOrderId with
  | none =>
      apply (unnumbered_ofExcept _).bind
      intro _
      apply unnumbered_consult.bind
      intro answer
      apply (unnumbered_ofExcept _).bind
      intro found
      cases found with
      | none => exact unnumbered_pure _
      | some order => exact unnumbered_ingestStatus _ _ _ _
  | some exchangeOrderId =>
      apply unnumbered_consult.bind
      intro answer
      apply (unnumbered_ofExcept _).bind
      intro order
      exact unnumbered_ingestStatus _ _ _ _

theorem unnumbered_synchronize (omId : String) :
    Unnumbered (synchronize omId :
      Operation Stored Number (List (Option (OrderSnapshot Number)))) := by
  have each : ∀ clientOrderIds, Unnumbered (resyncOrders omId clientOrderIds :
      Operation Stored Number (List (Option (OrderSnapshot Number)))) := by
    intro clientOrderIds
    induction clientOrderIds with
    | nil => exact unnumbered_pure _
    | cons clientOrderId rest ih =>
        apply (unnumbered_resyncOrder omId clientOrderId).bind
        intro first
        exact ih.bind fun _ => unnumbered_pure _
  intro world nextSeq
  exact each world.memory.inDoubtClientOrderIds world nextSeq

end

end TurtleExecution.OrderManager

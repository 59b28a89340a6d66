/-
Orders that a crash left in doubt.

The process dies after an order's event is durable and before the venue's answer
is recorded.  A restart finds the order submitted; one resync and reports of the
venue's fills follow.
-/

import TurtleExecution.OrderManager.Runs
import Mathlib.Algebra.BigOperators.Group.List.Basic

set_option autoImplicit false

namespace TurtleExecution.OrderManager

open ExchangeAdapter SharedStore Process

section

variable {Number Stored : Type}

/-- From here on no effect fails, and the venue finds the order it is asked for. -/
structure Undisrupted (report : Order Number) (world : World Stored Number) : Prop where
  alive : ∀ tick, world.clock ≤ tick → (world.environment tick).crash = false
  stores : ∀ tick, world.clock ≤ tick → (world.environment tick).appendFailure = none
  finds : ∀ tick, world.clock ≤ tick → (world.environment tick).found = .ok (some report)

theorem Undisrupted.tick {report : Order Number} {world : World Stored Number}
    (undisrupted : Undisrupted report world) : Undisrupted report world.tick :=
  { alive := fun tick later => undisrupted.alive tick (Nat.le_of_succ_le later)
    stores := fun tick later => undisrupted.stores tick (Nat.le_of_succ_le later)
    finds := fun tick later => undisrupted.finds tick (Nat.le_of_succ_le later) }

def settles (Value : Type) (settled : World Stored Number → Prop) :
    Post (World Stored Number) OrderManagerError Value :=
  { returned := fun _ after => settled after
    raised := fun _ after => settled after
    crashed := fun _ => False }

variable [Sources Stored Number]

def AnswerRecorded (omId : String) (log : Log Stored) (order : Nat) : Prop :=
  InLog omId log (.submitFailed order) ∨
    ∃ trigger, InLog omId log (.status order trigger .submitted)

variable [Arithmetic Number]

structure InDoubt (omId : String) (order : Nat) (arguments : PlaceArguments Number)
    (world : World Stored Number) : Prop where
  ready : Ready (Watch.plain False omId) world
  tracked : ∃ now, world.memory.snapshots.get? (placeId omId order) =
    some (submitted omId order arguments now)
  unfilled : world.memory.fillIds (placeId omId order) = []

variable {omId : String} {order : Nat} {arguments : PlaceArguments Number}
  {world : World Stored Number}

theorem InDoubt.tick (inDoubt : InDoubt omId order arguments world) :
    InDoubt omId order arguments world.tick :=
  { ready := inDoubt.ready.tick
    tracked := inDoubt.tracked
    unfilled := inDoubt.unfilled }

theorem InDoubt.undisturbed {before after : World Stored Number}
    (inDoubt : InDoubt omId order arguments before) (ready : Ready (Watch.plain False omId) after)
    (same : after.memory = before.memory) : InDoubt omId order arguments after := by
  refine { ready, tracked := ?_, unfilled := ?_ }
  · rw [same]
    exact inDoubt.tracked
  · rw [same]
    exact inDoubt.unfilled

theorem Reachable.fillIds_untracked {exact : Prop} {core : Core Stored Number}
    (reached : Reachable exact omId core) :
    ∀ clientOrderId, core.memory.snapshots.get? clientOrderId = none →
      core.memory.fillIds clientOrderId = [] := by
  induction reached with
  | start memory constructed =>
      intro clientOrderId _
      rw [construct_empty constructed]
      rfl
  | @step core after reached move ih =>
      cases move with
      | record log key payload now recorded unused entries =>
          obtain ⟨patch, effect, applied⟩ := recorded.applied reached now
          change ∀ clientOrderId, (core.memory.applyEvent _ _).2.snapshots.get? clientOrderId = none →
            (core.memory.applyEvent _ _).2.fillIds clientOrderId = []
          rw [applied]
          intro clientOrderId untracked
          rw [Memory.patch_snapshots] at untracked
          rw [Memory.patch_fillIds]
          by_cases same : clientOrderId = patch.clientOrderId
          · cases built : patch.snapshot with
            | none =>
                rw [built] at untracked
                rw [if_pos same, effect.kept built]
                exact ih clientOrderId (by simpa using untracked)
            | some snapshot =>
                rw [if_pos ⟨same, by rw [built]; rfl⟩, built] at untracked
                cases untracked
          · rw [if_neg same]
            rw [if_neg (fun both => same both.1)] at untracked
            exact ih clientOrderId untracked
      | burn allowed => exact ih
      | lateFill patched fillId existing tracked terminal =>
          intro clientOrderId untracked
          change (core.memory.addFillId patched fillId).fillIds clientOrderId = []
          have different : clientOrderId ≠ patched := by
            rintro rfl
            change core.memory.snapshots.get? clientOrderId = none at untracked
            rw [tracked] at untracked
            cases untracked
          rw [Memory.addFillId_fillIds, if_neg different]
          exact ih clientOrderId untracked
      | hand request seq suffix identified durable fresh => exact ih
      | foreign log added entries => exact ih
      | restart memory constructed =>
          have agrees := reached.restarted constructed
          intro clientOrderId untracked
          change memory.snapshots.get? clientOrderId = none at untracked
          rw [agrees.snapshots] at untracked
          have subset := agrees.fillIds_subset clientOrderId
          rw [ih clientOrderId untracked] at subset
          exact List.subset_nil.mp subset

theorem Reachable.nextSeq_untracked {exact : Prop} {core : Core Stored Number}
    (reached : Reachable exact omId core) :
    core.memory.snapshots.get? (placeId omId core.memory.nextSeq) = none := by
  cases tracked : core.memory.snapshots.get? (placeId omId core.memory.nextSeq) with
  | none => rfl
  | some existing =>
      obtain ⟨replayed, replays, agrees⟩ := reached.consistent.replays
      obtain ⟨order, small, named⟩ := agrees.tracked replays _ existing tracked
      rw [← placeId_injective named] at small
      exact (Nat.lt_irrefl _ small).elim

private theorem persistAndApply_crashed (world : World Stored Number) {key : MutationKey}
    {payload : Payload Number} (unused : ¬ InLog omId world.log key) :
    Ends (persistAndApply omId payload (key.text omId)) world
      { returned := fun _ _ => True
        raised := fun _ _ => True
        crashed := fun dead => dead = world.tick } := by
  unfold Ends
  obtain ⟨log, entries, outcome⟩ := persistAndApply_eq world payload unused
  rw [outcome]
  cases (world.environment world.clock).crash with
  | true => rfl
  | false =>
      cases (world.environment world.clock).appendFailure with
      | some failure => trivial
      | none =>
          change Post.Holds _ (ofExcept (world.memory.applyEvent _ payload).1 _)
          cases (world.memory.applyEvent (recordedEvent omId world.log key payload
            (world.environment world.clock).now) payload).1 with
          | ok snapshot => trivial
          | error error => trivial

omit [Arithmetic Number] in
private theorem driveExecutionSm_crashed (clientOrderId : String) (trigger : OrderLifecycleTrigger)
    (fromState : OrderLifecycleState) (unfilled : Bool) (world : World Stored Number) :
    Ends (driveExecutionSm clientOrderId trigger fromState unfilled) world
      { returned := fun _ _ => True
        raised := fun _ _ => True
        crashed := fun dead => dead = world.tick } := by
  unfold Ends
  rw [driveExecutionSm_eq]
  cases executionTrigger? trigger fromState unfilled with
  | none => trivial
  | some executionTrigger =>
      dsimp only
      cases (world.environment world.clock).crash with
      | true => rfl
      | false =>
          rw [if_neg Bool.false_ne_true]
          cases (ExecutionStateMachine.transition world.log world.machine
            (driveCall clientOrderId executionTrigger (world.environment world.clock))).1 with
          | ok result => trivial
          | error error => cases error <;> trivial

/-- A process that dies on the way from the order's event to the venue's answer
leaves the order in doubt. -/
def diesInDoubt (Value : Type) (omId : String) (order : Nat) (arguments : PlaceArguments Number) :
    Post (World Stored Number) OrderManagerError Value :=
  { returned := fun _ _ => True
    raised := fun _ _ => True
    crashed := fun dead => InLog omId dead.log (.submit order) →
      ¬ AnswerRecorded omId dead.log order → InDoubt omId order arguments dead }

theorem InDoubt.statusUpdate_dies (inDoubt : InDoubt omId order arguments world) {key : MutationKey}
    (payload : Payload Number) (unused : ¬ InLog omId world.log key) :
    Ends (persistAndApply omId payload (key.text omId)) world
      (diesInDoubt (Option (OrderSnapshot Number)) omId order arguments) :=
  (persistAndApply_crashed world unused).mono (fun _ _ _ => trivial) (fun _ _ _ => trivial) (by
    rintro dead rfl _ _
    exact inDoubt.tick)

theorem InDoubt.recordFailure_dies (inDoubt : InDoubt omId order arguments world) (message : String) :
    Ends (recordFailure omId (placeId omId order) .submitFailed message
        (placeId omId order ++ ":submit_failed")) world
      (diesInDoubt Unit omId order arguments) := by
  unfold recordFailure
  refine ends_bind_reads (reads_snapshotOf _) (fun _ => trivial) ?_
  intro existing ran
  have found := snapshotOf_returned ran
  dsimp only
  cases legal : nextState? existing.lifecycleState .submitFailed with
  | none => exact ends_pure trivial
  | some toState =>
      have unused := inDoubt.ready.not_inLog_submitFailed found legal
      have dies := inDoubt.statusUpdate_dies (transitionPayload omId .statusUpdate
        (placeId omId order) none .submitFailed existing.lifecycleState toState
        { error := some message }) unused
      rw [text_submitFailed] at dies
      exact ends_bind (fun _ _ => True) dies fun _ _ _ => ends_pure trivial

theorem InDoubt.ingestStatus_dies (inDoubt : InDoubt omId order arguments world)
    (status : OrderStatus) (exchangeOrderId : Option String) :
    Ends (ingestStatus omId (placeId omId order) status exchangeOrderId) world
      (diesInDoubt (Option (OrderSnapshot Number)) omId order arguments) := by
  unfold ingestStatus
  cases reported : statusToTrigger? status with
  | none =>
      exact ends_bind_reads (reads_snapshotOf _) (fun _ => trivial) (fun _ _ => ends_pure trivial)
  | some trigger =>
      refine ends_bind_reads (reads_snapshotOf _) (fun _ => trivial) ?_
      intro existing ran
      have found := snapshotOf_returned ran
      obtain ⟨now, tracked⟩ := inDoubt.tracked
      have submittedState : existing.lifecycleState = .submitted := by
        rw [tracked] at found
        cases found
        rfl
      dsimp only
      cases legal : nextState? existing.lifecycleState trigger with
      | none =>
          dsimp only
          split
          · exact ends_pure trivial
          · exact ends_raise trivial
      | some toState =>
          have unused := inDoubt.ready.not_inLog_status found reported legal
          have recorded := persistAndApply_spec inDoubt.ready
            (.statusUpdate order existing trigger toState none _ { exchangeOrderId } found legal
              (.status status trigger reported)) trivial unused
          have dies := inDoubt.statusUpdate_dies (transitionPayload omId .statusUpdate
            (placeId omId order) none trigger existing.lifecycleState toState { exchangeOrderId }) unused
          rw [text_status] at recorded dies
          refine ends_bind (fun _ after => AnswerRecorded omId after.log order)
            ((recorded.and dies).mono ?_ (fun _ _ _ => trivial) (fun _ ended => ended.2)) ?_
          · rintro _ after ⟨⟨_, added⟩, _⟩
            refine Or.inr ⟨trigger, ?_⟩
            rw [← submittedState]
            exact (added.inLog _).mpr (Or.inr rfl)
          · intro snapshot after answered
            refine ends_bind (fun _ _ => True) ((driveExecutionSm_crashed _ _ _ _ after).mono
              (fun _ _ _ => trivial) (fun _ _ _ => trivial) ?_) (fun _ _ _ => ends_pure trivial)
            rintro dead rfl _ unanswered
            exact (unanswered answered).elim

theorem InDoubt.onAdapterError_dies {Value : Type} (inDoubt : InDoubt omId order arguments world)
    (error : OrderManagerError) (returned : Value → World Stored Number → Prop) :
    Ends (onAdapterError (fun message => recordFailure omId (placeId omId order) .submitFailed
        message (placeId omId order ++ ":submit_failed")) error) world
      { diesInDoubt Value omId order arguments with returned } := by
  unfold onAdapterError
  split
  · exact ends_bind (fun _ _ => True) (inDoubt.recordFailure_dies _) fun _ _ _ => ends_raise trivial
  · exact ends_raise trivial

structure Placing (omId : String) (order : Nat) (arguments : PlaceArguments Number)
    (world : World Stored Number) : Prop where
  inDoubt : InDoubt omId order arguments world
  durable : Durable Number omId world.log order
  notHanded : ∀ earlier ∈ world.handed, earlier.request.id ≠ makeId omId order "place"

theorem Placing.mutate_dies {Value : Type} (placing : Placing omId order arguments world)
    {request : Request Number} (identified : request.id = placeId omId order)
    (result : Answer Number → Except CallError Value) :
    Ends (mutate request result) world
      { returned := fun _ after => InDoubt omId order arguments after
        raised := fun _ after => InDoubt omId order arguments after
        crashed := fun dead => InLog omId dead.log (.submit order) →
          ¬ AnswerRecorded omId dead.log order → InDoubt omId order arguments dead } := by
  have fresh : ∀ earlier ∈ world.handed, earlier.request.id ≠ request.id := by
    rw [identified]
    exact placing.notHanded
  refine ((mutate_spec placing.inDoubt.ready identified placing.durable fresh result).and
    (mutate_answers request result world)).mono ?_ ?_ ?_
  · rintro _ after ⟨⟨⟨ready, _, memory⟩, _⟩, _⟩
    exact placing.inDoubt.undisturbed ready memory
  · rintro _ after ⟨⟨⟨ready, _, memory⟩, _⟩, _⟩
    exact placing.inDoubt.undisturbed ready memory
  · rintro dead ⟨_, rfl⟩ _ _
    exact placing.inDoubt.tick

theorem placeOrder_dies (ready : Ready (Watch.plain False omId) world)
    (arguments : PlaceArguments Number) :
    Ends (placeOrder omId arguments) world
      (diesInDoubt (Option (OrderSnapshot Number)) omId world.memory.nextSeq arguments) := by
  have unused : ¬ InLog omId world.log (.submit world.memory.nextSeq) :=
    ready.not_inLog_nextSeq fun _ spent => spent
  unfold placeOrder
  refine ends_bind_of_returned (nextId_eq omId "place" world) ?_
  have submittedEnds := (persistAndApply_bump ready (.submit arguments) trivial unused rfl).and
    (persistAndApply_crashed world.bump unused)
  rw [text_submit] at submittedEnds
  refine ends_bind (fun _ after => Placing omId world.memory.nextSeq arguments after)
    (submittedEnds.mono ?_ (fun _ _ _ => trivial) ?_) ?_
  · rintro _ after ⟨⟨readyAfter, added⟩, _⟩
    obtain ⟨event, memory⟩ := added.memory_eq ready.reachable
      (patches_submit world.memory.snapshots · omId world.memory.nextSeq arguments)
    change after.memory = world.memory.patch _ at memory
    refine
      { inDoubt := { ready := readyAfter, tracked := ⟨event.timestampUtc, ?_⟩, unfilled := ?_ }
        durable := added.durable rfl (Or.inr rfl)
        notHanded := ?_ }
    · rw [memory]
      exact Memory.patch_snapshot_self world.memory rfl
    · rw [memory, Memory.patch_fillIds, if_pos rfl]
      exact ready.reachable.fillIds_untracked _ ready.reachable.nextSeq_untracked
    · rw [show after.handed = world.handed from added.handed]
      exact ready.not_handed "place"
  · rintro dead ⟨_, rfl⟩ logged
    exact (unused logged).elim
  · intro _ after placing
    have inDoubt := placing.inDoubt
    refine ends_bind (fun _ driven => Placing omId world.memory.nextSeq arguments driven)
      (((driveExecutionSm_spec inDoubt.ready _ _ _ _).and
        (driveExecutionSm_crashed _ _ _ _ after)).mono ?_ (fun _ _ _ => trivial) ?_) ?_
    · rintro _ driven ⟨⟨readyDriven, undisturbed⟩, _⟩
      refine
        { inDoubt := inDoubt.undisturbed readyDriven undisturbed.memory
          durable := undisturbed.durable _ placing.durable
          notHanded := ?_ }
      rw [undisturbed.handed]
      exact placing.notHanded
    · rintro dead ⟨_, rfl⟩ _ _
      exact inDoubt.tick
    · intro _ driven placingDriven
      refine ends_bind_reads (reads_ofExcept _) (fun _ => trivial) ?_
      intro _ _
      refine ends_bind (fun _ answered => InDoubt omId world.memory.nextSeq arguments answered) ?_ ?_
      · refine ends_tryCatch
          (fun _ caught => InDoubt omId world.memory.nextSeq arguments caught) ?_ ?_
        · exact placingDriven.mutate_dies rfl _
        · intro error caught inDoubtCaught
          exact inDoubtCaught.onAdapterError_dies error _
      · intro answer answered inDoubtAnswered
        split
        · exact inDoubtAnswered.ingestStatus_dies _ _
        · exact inDoubtAnswered.ingestStatus_dies _ _

end

end TurtleExecution.OrderManager

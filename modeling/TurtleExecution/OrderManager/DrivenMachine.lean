/-
Runs of a manager with one order, and of the machine that it drives.

A call that drives the machine has two appends, the order's event and the machine's.  The
machine shows the order in every state that a run reaches, if the process and the store
survive the second append, and if no fill completes an order with a part filled and a cancel
in flight.
-/

import TurtleExecution.OrderManager.Driving

set_option autoImplicit false

namespace TurtleExecution.OrderManager

open ExchangeAdapter SharedStore Process
open ExecutionStateMachine (State Trigger)

section

variable {Number Stored : Type} [Arithmetic Number] [Sources Stored Number]

/-- The drives of the next order are distinct, and none of them is in the log. -/
structure FreshDrives (omId machineId : String) (world : World Stored Number) : Prop where
  undriven : ∀ trigger ∈ awaited .signalPending, world.log.getByIdempotencyKey
    (driveKey machineId (placeId omId world.memory.nextSeq) trigger) = none
  distinct : ((awaited .signalPending).map
    (driveKey machineId (placeId omId world.memory.nextSeq))).Nodup

/-- No fill leaves nothing filled, or completes an order with a part filled and a cancel in
flight. -/
def FillsInStep (memory : Memory Number) (clientOrderId : String) (fill : Fill Number) : Prop :=
  ∀ existing newFilled, memory.snapshots.get? clientOrderId = some existing →
    Arithmetic.add existing.filledQuantity fill.quantity = .ok newFilled →
    (fillTrigger newFilled existing.quantity = .ok .partialFill →
      Arithmetic.isZero newFilled = false) ∧
    (fillTrigger newFilled existing.quantity = .ok .fullFill →
      existing.lifecycleState = .cancelPending → Arithmetic.isZero existing.filledQuantity = true)

inductive Call.DrivesAt (memory : Memory Number) : Call Number → Nat → Prop
  | submitted (arguments : PlaceArguments Number) : DrivesAt memory (.place arguments) 1
  | answered (arguments : PlaceArguments Number) : DrivesAt memory (.place arguments) 4
  | cancelled (clientOrderId : String) : DrivesAt memory (.cancel clientOrderId) 3
  | pendingTurn (symbol : Option Symbol) (clientOrderId : String) (existing : OrderSnapshot Number)
      (tracked : memory.snapshots.get? clientOrderId = some existing)
      (pending : existing.lifecycleState = .cancelPending) : DrivesAt memory (.cancelAll symbol) 3
  | openTurn (symbol : Option Symbol) (clientOrderId : String) (existing : OrderSnapshot Number)
      (tracked : memory.snapshots.get? clientOrderId = some existing)
      (cancellable : existing.lifecycleState = .acknowledged ∨
        existing.lifecycleState = .partiallyFilled) : DrivesAt memory (.cancelAll symbol) 4
  | filled (clientOrderId : String) (fill : Fill Number) :
      DrivesAt memory (.reportFill clientOrderId fill) 1
  | updated (clientOrderId : String) (order : Order Number) :
      DrivesAt memory (.reportOrderUpdate clientOrderId order) 1
  | resynced (clientOrderId : String) : DrivesAt memory (.resync clientOrderId) 2

structure Call.Harmless (omId machineId : String) (world : World Stored Number) (call : Call Number) :
    Prop where
  taken : ∀ tick, call.DrivesAt world.memory tick →
    Taken (world.environment (world.clock + tick))
  fresh : ∀ arguments, call = .place arguments → FreshDrives omId machineId world
  fills : ∀ clientOrderId fill, call = .reportFill clientOrderId fill →
    FillsInStep world.memory clientOrderId fill

def Call.OneOrder (world : World Stored Number) (call : Call Number) : Prop :=
  ∀ arguments, call = .place arguments →
    ∀ clientOrderId, world.memory.snapshots.get? clientOrderId = none

variable {omId machineId clientOrderId : String} {world : World Stored Number}

theorem Idle.listens (idle : Idle omId machineId world) (fresh : FreshDrives omId machineId world) :
    Listens machineId (placeId omId world.memory.nextSeq) world := by
  refine { constructed := idle.constructed, only := ?_, undriven := ?_, distinct := fresh.distinct }
  · intro other known tracked
    rw [idle.untracked] at tracked
    cases tracked
  · rw [idle.pending]
    exact fresh.undriven

theorem Driven.idle (driven : Driven omId machineId world)
    (untracked : ∀ clientOrderId, world.memory.snapshots.get? clientOrderId = none) :
    Idle omId machineId world := by
  rcases driven with idle | ⟨clientOrderId, told⟩
  · exact idle
  · obtain ⟨existing, tracked, _⟩ := told.lags
    rw [untracked] at tracked
    cases tracked

theorem FillsInStep.fills {memory : Memory Number} {fill : Fill Number}
    (inStep : FillsInStep memory clientOrderId fill) {existing : OrderSnapshot Number}
    {newFilled : Number} {trigger : OrderLifecycleTrigger}
    (tracked : memory.snapshots.get? clientOrderId = some existing)
    (sum : Arithmetic.add existing.filledQuantity fill.quantity = .ok newFilled)
    (chosen : fillTrigger newFilled existing.quantity = .ok trigger) :
    Fills trigger existing.lifecycleState (Arithmetic.isZero existing.filledQuantity)
      (Arithmetic.isZero newFilled) := by
  obtain ⟨part, whole⟩ := inStep existing newFilled tracked sum
  rw [chosen] at part whole
  refine { kept := ?_, part := ?_, whole := ?_ }
  · intro notPart notWhole
    unfold fillTrigger at chosen
    split at chosen
    · cases chosen
    · cases chosen
      exact (notWhole rfl).elim
    · cases chosen
      exact (notPart rfl).elim
  · rintro rfl
    exact part rfl
  · rintro rfl
    exact whole rfl

/-! ### Public operations -/

variable [ApartFromMachine Stored Number]

theorem Idle.placeOrder_spec (idle : Idle omId machineId world) (arguments : PlaceArguments Number)
    (fresh : FreshDrives omId machineId world)
    (takenSubmit : Taken (world.environment (world.clock + 1)))
    (takenAnswer : Taken (world.environment (world.clock + 4))) :
    Ends (placeOrder omId arguments) world
      (drivenEnd (Option (OrderSnapshot Number)) omId machineId) := by
  have ready := idle.ready
  have driven : Driven omId machineId world := Or.inl idle
  unfold placeOrder
  refine ends_bind_of_returned (nextId_eq omId "place" world) ?_
  have unused : ¬ InLog omId world.log (.submit world.memory.nextSeq) :=
    ready.not_inLog_nextSeq fun _ spent => spent
  have submitted := driven.records (StartsAt.bumped rfl) (.submit arguments) unused
  rw [text_submit] at submitted
  refine ends_bind _ submitted ?_
  intro snapshot after records
  have lags : Lags (some .orderPlaced) .submitted (Arithmetic.isZero (Arithmetic.zero : Number))
      world.machine.currentState := by
    rw [idle.pending]
    exact ⟨.orderPending, by decide, rfl⟩
  obtain ⟨told, _⟩ := (idle.listens fresh).told ready.reachable records
    (patches_submit world.memory.snapshots · omId world.memory.nextSeq arguments) rfl
    (fun _ => ⟨rfl, _, rfl, rfl, rfl⟩) lags
  have durable : Durable Number omId after.log world.memory.nextSeq :=
    records.added.durable rfl (Or.inr rfl)
  have notHanded : ∀ earlier ∈ after.handed,
      earlier.request.id ≠ makeId omId world.memory.nextSeq "place" := by
    rw [show after.handed = world.handed from records.added.handed]
    exact ready.not_handed "place"
  obtain ⟨environment, clock⟩ := Prod.mk.inj records.setting
  have drives := ((Told.drive_spec .submit .new false told
    (by rw [environment, clock]; exact takenSubmit)).and
      (driveExecutionSm_spec told.ready _ _ _ _)).and
      (ends_of_view (driveExecutionSm_setting rfl after))
  refine ends_bind _ (drives.mono (fun _ _ ended => ended) (fun _ _ ended => ended.1.1.1.driven)
    (fun _ never => never.1.1.elim)) ?_
  rintro _ next ⟨⟨⟨toldDriven, _⟩, _, undisturbed⟩, settingDriven⟩
  rw [environment, clock] at settingDriven
  refine ends_bind_reads (reads_ofExcept _) (fun _ => toldDriven.driven) ?_
  intro _ _
  refine ends_bind (fun _ last => Told omId machineId (placeId omId world.memory.nextSeq) none last ∧
    last.setting = (world.environment, world.clock + 3)) ?_ ?_
  · refine ends_tryCatch (fun _ caught => Called omId next caught) ?_ ?_
    · refine (toldDriven.driven.mutate_spec rfl (undisturbed.durable _ durable) ?_ _).mono ?_
        (fun _ _ called => called) (fun _ ended => ended)
      · rw [undisturbed.handed]
        exact notHanded
      · intro order last called
        refine ⟨toldDriven.called called, ?_⟩
        obtain ⟨environmentDriven, clockDriven⟩ := Prod.mk.inj settingDriven
        rw [called.setting, environmentDriven, clockDriven]
    · intro error caught called
      have toldCaught := toldDriven.called called
      refine toldCaught.driven.onAdapterError_spec error (fun message => ?_) _
      exact Told.recordFailure_spec _ (.submitFailed world.memory.nextSeq) toldCaught message
        (fun _ _ => rfl) (fun _ => .submitFailed)
        (fun _ _ found legal => toldCaught.ready.not_inLog_submitFailed found legal)
  · rintro order last ⟨toldLast, settingLast⟩
    obtain ⟨environmentLast, clockLast⟩ := Prod.mk.inj settingLast
    have taken : Taken (last.environment (last.clock + 1)) := by
      rw [environmentLast, clockLast]
      exact takenAnswer
    split
    · exact toldLast.ingestStatus_spec _ _ taken
    · exact toldLast.ingestStatus_spec _ _ taken

theorem Driven.cancelOrder_spec (driven : Driven omId machineId world) (clientOrderId : String)
    (takenAnswer : Taken (world.environment (world.clock + 3))) :
    Ends (cancelOrder omId clientOrderId) world
      (drivenEnd (Option (OrderSnapshot Number)) omId machineId) := by
  have ready := driven.ready
  unfold cancelOrder
  refine ends_bind_reads (reads_trackedOrder _) (fun _ => driven) ?_
  intro existing ran
  have found := trackedOrder_returned ran
  obtain ⟨order, rfl⟩ := ready.tracked found
  have told := driven.told found
  dsimp only
  split
  · exact ends_pure driven
  cases legal : nextState? existing.lifecycleState .cancelRequested with
  | none => exact ends_raise driven
  | some toState =>
      dsimp only
      split
      · exact ends_raise driven
      refine ends_bind_of_returned (nextId_eq omId "cancel" world) ?_
      have unused : ¬ InLog omId world.log (.cancel order world.memory.nextSeq) :=
        ready.not_inLog_nextSeq fun _ spent => spent
      have unusedFailed : ¬ InLog omId world.log (.cancelFailed order world.memory.nextSeq) :=
        ready.not_inLog_nextSeq fun _ spent => spent
      have requested := told.statusUpdate_spec
        { requestId := some (makeId omId world.memory.nextSeq "cancel") } (StartsAt.bumped rfl) found
        legal .cancel unused
      dsimp only at requested
      rw [text_cancel] at requested
      refine ends_bind _ (requested.mono (fun _ _ ended => ended) (fun _ _ ended => ended)
        (fun _ ended => ended)) ?_
      rintro _ after ⟨records, toldAfter⟩
      change Told omId machineId (placeId omId order) none after at toldAfter
      obtain ⟨environment, clock⟩ := Prod.mk.inj records.setting
      have durable : Durable Number omId after.log world.memory.nextSeq :=
        records.added.durable rfl (Or.inr rfl)
      have unusedAfter : ¬ InLog omId after.log (.cancelFailed order world.memory.nextSeq) := by
        intro logged
        rcases (records.added.inLog _).mp logged with old | same
        · exact unusedFailed old
        · cases same
      have notHanded : ∀ earlier ∈ after.handed,
          earlier.request.id ≠ makeId omId world.memory.nextSeq "cancel" := by
        rw [show after.handed = world.handed from records.added.handed]
        exact ready.not_handed "cancel"
      refine ends_bind_reads (reads_ofExcept _) (fun _ => toldAfter.driven) ?_
      intro _ _
      refine ends_bind (fun _ last => Called omId after last) ?_ ?_
      · refine ends_tryCatch (fun _ caught => Called omId after caught) ?_ ?_
        · exact toldAfter.driven.mutate_spec rfl durable (by exact notHanded) _
        · intro error caught called
          have toldCaught := toldAfter.called called
          rw [← called.log] at durable unusedAfter
          refine toldCaught.driven.onAdapterError_spec error (fun message => ?_) _
          have failed := Told.recordFailure_spec .cancelFailed
            (.cancelFailed order world.memory.nextSeq) toldCaught message
            (fun _ _ => rfl) (fun _ => .cancelFailed _ durable) (fun _ _ _ _ => unusedAfter)
          rw [text_cancelFailed] at failed
          exact failed
      · intro answered last called
        refine (toldAfter.called called).ingestStatus_spec _ _ ?_
        obtain ⟨environmentLast, clockLast⟩ := Prod.mk.inj called.setting
        rw [environmentLast, clockLast, environment, clock]
        exact takenAnswer

theorem Driven.reportOrderUpdate_spec (driven : Driven omId machineId world) (clientOrderId : String)
    (order : Order Number) (taken : Taken (world.environment (world.clock + 1))) :
    Ends (reportOrderUpdate omId clientOrderId order) world
      (drivenEnd (Option (OrderSnapshot Number)) omId machineId) := by
  unfold reportOrderUpdate
  refine ends_bind_reads (reads_trackedOrder _) (fun _ => driven) ?_
  intro existing ran
  exact (driven.told (trackedOrder_returned ran)).ingestStatus_spec _ _ taken

theorem Driven.resyncOrder_spec (driven : Driven omId machineId world) (clientOrderId : String)
    (takenAnswer : Taken (world.environment (world.clock + 2))) :
    Ends (resyncOrder omId clientOrderId) world
      (drivenEnd (Option (OrderSnapshot Number)) omId machineId) := by
  have answered : ∀ after, Called omId world after → Taken (after.environment (after.clock + 1)) := by
    intro after called
    obtain ⟨environment, clock⟩ := Prod.mk.inj called.setting
    rw [environment, clock]
    exact takenAnswer
  unfold resyncOrder
  refine ends_bind_reads (reads_trackedOrder _) (fun _ => driven) ?_
  intro existing ran
  have told := driven.told (trackedOrder_returned ran)
  dsimp only
  split
  · refine ends_bind_reads (reads_ofExcept _) (fun _ => driven) ?_
    intro _ _
    refine ends_bind _ (driven.consult_spec.mono (fun _ _ called => called)
      (fun _ _ called => driven.called called) (fun _ ended => ended)) ?_
    intro answer after called
    refine ends_bind_reads (reads_ofExcept _) (fun _ => driven.called called) ?_
    intro found _
    cases found with
    | none => exact ends_pure (driven.called called)
    | some order => exact (told.called called).ingestStatus_spec _ _ (answered after called)
  · refine ends_bind _ (driven.consult_spec.mono (fun _ _ called => called)
      (fun _ _ called => driven.called called) (fun _ ended => ended)) ?_
    intro answer after called
    refine ends_bind_reads (reads_ofExcept _) (fun _ => driven.called called) ?_
    intro order _
    exact (told.called called).ingestStatus_spec _ _ (answered after called)

theorem Driven.reportFill_spec (driven : Driven omId machineId world) (clientOrderId : String)
    (fill : Fill Number) (inStep : FillsInStep world.memory clientOrderId fill)
    (taken : Taken (world.environment (world.clock + 1))) :
    Ends (reportFill omId clientOrderId fill) world
      (drivenEnd (Option (OrderSnapshot Number)) omId machineId) := by
  unfold reportFill
  refine ends_bind_reads (reads_trackedOrder _) (fun _ => driven) ?_
  intro existing ran
  have found := trackedOrder_returned ran
  obtain ⟨order, rfl⟩ := driven.ready.tracked found
  have read : memory world = (.returned world.memory, world) := rfl
  refine ends_bind_of_returned read ?_
  split
  · exact ends_pure driven
  rename_i fresh
  split
  · rename_i terminal
    have late : Ready (Watch.plain False omId)
        { world with memory := world.memory.addFillId (placeId omId order) fill.fillId } :=
      driven.ready.move (.lateFill world.core _ fill.fillId existing found terminal) rfl
    exact driven.same late rfl rfl rfl
  refine ends_bind_reads (reads_ofExcept _) (fun _ => driven) ?_
  intro newFilled summed
  refine ends_bind_reads (reads_ofExcept _) (fun _ => driven) ?_
  intro trigger triggered
  have sum := ok_of_mapError (returned_ofExcept summed).1
  have chosen := (returned_ofExcept triggered).1
  dsimp only
  cases legal : nextState? existing.lifecycleState trigger with
  | none => exact ends_raise driven
  | some toState =>
      have recorded := (driven.told found).fill_spec found fresh sum chosen legal
        (inStep.fills found sum chosen)
      dsimp only at recorded
      rw [text_fill] at recorded
      exact lagsBehind_drive recorded taken (fun _ _ ended => ended) (fun _ ended => ended)
        fun _ _ _ _ _ toldLast _ => ends_pure toldLast.driven

theorem Driven.amendOrder_spec (driven : Driven omId machineId world) (clientOrderId : String)
    (newQuantity newLimitPrice : Option Number) :
    Ends (amendOrder omId clientOrderId newQuantity newLimitPrice) world
      (drivenEnd (Option (OrderSnapshot Number)) omId machineId) := by
  have ready := driven.ready
  unfold amendOrder
  split
  · exact ends_raise driven
  refine ends_bind_reads (reads_trackedOrder _) (fun _ => driven) ?_
  intro existing ran
  have found := trackedOrder_returned ran
  obtain ⟨order, rfl⟩ := ready.tracked found
  split
  · exact ends_raise driven
  rename_i amendable
  split
  · exact ends_raise driven
  refine ends_bind_of_returned (nextId_eq omId "amend" world) ?_
  have unused : ¬ InLog omId world.log (.amendRequested order world.memory.nextSeq) :=
    ready.not_inLog_nextSeq fun _ spent => spent
  have unusedApplied : ¬ InLog omId world.log (.amendApplied order world.memory.nextSeq) :=
    ready.not_inLog_nextSeq fun _ spent => spent
  have requested := driven.records (StartsAt.bumped rfl)
    (.amendRequested order existing found
      { requestId := some (makeId omId world.memory.nextSeq "amend")
        newQuantity
        newLimitPrice := some newLimitPrice }) unused
  rw [text_amendRequested] at requested
  refine ends_bind _ requested ?_
  intro snapshot after records
  have drivenAfter := driven.intent records (.inl rfl)
  have durable : Durable Number omId after.log world.memory.nextSeq :=
    records.added.durable rfl (Or.inr rfl)
  have unusedAfter : ¬ InLog omId after.log (.amendApplied order world.memory.nextSeq) := by
    intro logged
    rcases (records.added.inLog _).mp logged with old | same
    · exact unusedApplied old
    · cases same
  have trackedAfter : after.memory.snapshots.get? (placeId omId order) = some existing := by
    rw [show after.memory.snapshots = world.memory.snapshots from
      records.added.snapshots_intent ready.reachable (Or.inl rfl)]
    exact found
  have notHanded : ∀ earlier ∈ after.handed,
      earlier.request.id ≠ makeId omId world.memory.nextSeq "amend" := by
    rw [show after.handed = world.handed from records.added.handed]
    exact ready.not_handed "amend"
  refine ends_bind_reads (reads_ofExcept _) (fun _ => drivenAfter) ?_
  intro _ _
  refine ends_bind _ ((drivenAfter.mutate_spec rfl durable (by exact notHanded) _).mono
    (fun _ _ called => called) (fun _ _ called => drivenAfter.called called) (fun _ ended => ended)) ?_
  intro answered last called
  have drivenLast := drivenAfter.called called
  rw [← called.log] at durable unusedAfter
  rw [← called.memory] at trackedAfter
  have told := drivenLast.told trackedAfter
  have applied := drivenLast.records (.inl rfl)
    (.amendApplied order world.memory.nextSeq existing durable trackedAfter
      (not_and_or.mp amendable |>.imp not_not.mp not_not.mp)
      { newQuantity := some answered.quantity
        newLimitPrice := some answered.limitPrice }) unusedAfter
  rw [text_amendApplied] at applied
  refine applied.mono ?_ (fun _ _ ended => ended) (fun _ ended => ended)
  intro snapshot final recordsFinal
  obtain ⟨known, tracked, reflects⟩ := told.lags
  rw [trackedAfter] at tracked
  cases tracked
  exact (told.listens.told drivenLast.ready.reachable recordsFinal
    (fun event => patches_amend event rfl trackedAfter) rfl (fun _ => ⟨rfl, _, rfl, rfl, rfl⟩)
    reflects).1.driven

/-! ### The loop of `cancel_all` -/

def TurnsTaken (world : World Stored Number) : Prop :=
  ∀ clientOrderId existing, world.memory.snapshots.get? clientOrderId = some existing →
    (existing.lifecycleState = .cancelPending → Taken (world.environment (world.clock + 1))) ∧
    (existing.lifecycleState = .acknowledged ∨ existing.lifecycleState = .partiallyFilled →
      Taken (world.environment (world.clock + 2)))

def turnEnd (Value : Type) (omId machineId : String) :
    Post (World Stored Number) OrderManagerError Value :=
  { drivenEnd Value omId machineId with
    returned := fun _ after => Driven omId machineId after ∧ TurnsTaken after }

theorem Driven.confirmCancelled_spec {request order : Nat} (driven : Driven omId machineId world)
    (before : BeforeConfirm (Watch.plain False omId) request order world) (answered : Order Number)
    (named : answered.clientOrderId = placeId omId order)
    (taken : Taken (world.environment (world.clock + 1))) :
    Ends (confirmCancelled omId (makeId omId request "cancel_all") answered) world
      (turnEnd (List (OrderSnapshot Number)) omId machineId) := by
  obtain ⟨existing, found, pending⟩ := before.pending
  have legal : nextState? existing.lifecycleState .cancelConfirmed = some .cancelled := by
    rw [pending]
    decide
  have recorded := (driven.told found).statusUpdate_spec
    { exchangeOrderId := answered.exchangeOrderId } (.inl rfl) found legal
    (.cancelAllConfirmed request before.durable) before.unused
  dsimp only at recorded
  rw [text_cancelAllConfirmed] at recorded
  unfold confirmCancelled
  rw [show nextState? .cancelPending .cancelConfirmed = some .cancelled by decide, named, ← pending]
  refine lagsBehind_drive recorded taken (fun _ _ ended => ended) (fun _ ended => ended) ?_
  intro snapshot _ middle last records told memory
  refine ends_pure ⟨told.driven, ?_⟩
  intro clientOrderId known tracked
  obtain rfl := told.listens.only clientOrderId known tracked
  obtain ⟨updated, patched, state⟩ :=
    (records.added.snapshots_statusUpdate driven.ready.reachable found legal).1
  rw [memory] at tracked
  obtain rfl := Option.some.inj (patched.symm.trans tracked)
  rw [state]
  constructor
  · intro never
    cases never
  · intro never
    rcases never with never | never
    · cases never
    · cases never

theorem Driven.cancelAllTurn_spec {request : Nat} (driven : Driven omId machineId world)
    (turns : BetweenTurns (Watch.plain False omId) request world) (answered : Order Number)
    (taken : TurnsTaken world) :
    Ends (cancelAllTurn omId (makeId omId request "cancel_all") answered) world
      (turnEnd (List (OrderSnapshot Number)) omId machineId) := by
  unfold cancelAllTurn
  have read : memory world = (.returned world.memory, world) := rfl
  refine ends_bind_of_returned read ?_
  cases found : world.memory.snapshots.get? answered.clientOrderId with
  | none => exact ends_pure ⟨driven, taken⟩
  | some existing =>
      obtain ⟨takenPending, takenOpen⟩ := taken _ existing found
      obtain ⟨order, named⟩ := turns.ready.tracked found
      rw [named] at found
      dsimp only
      split
      · rename_i cancellable
        have legal : nextState? existing.lifecycleState .cancelRequested = some .cancelPending := by
          rcases cancellable with state | state
          · rw [state]
            decide
          · rw [state]
            decide
        rw [legal, named]
        have recorded := (driven.told found).statusUpdate_spec
          { requestId := some (makeId omId request "cancel_all") } (.inl rfl) found legal
          (.cancelAllPending request turns.durable)
          (turns.not_inLog found (not_isTerminal_of_nextState? legal)).1
        dsimp only at recorded
        rw [text_cancelAllPending] at recorded
        refine ends_bind _ (recorded.mono (fun _ _ ended => ended) (fun _ _ ended => ended)
          (fun _ ended => ended)) ?_
        rintro _ after ⟨records, told⟩
        change Told omId machineId (placeId omId order) none after at told
        rw [if_pos rfl]
        have before := turns.requested found legal records.ready records.added
        refine told.driven.confirmCancelled_spec before answered named ?_
        obtain ⟨environment, clock⟩ := Prod.mk.inj records.setting
        rw [environment, clock]
        exact takenOpen cancellable
      · split
        · rename_i pending
          exact driven.confirmCancelled_spec (turns.beforeConfirm found pending) answered named
            (takenPending pending)
        · exact ends_pure ⟨driven, taken⟩

theorem Driven.cancelAllTurns_spec {request : Nat} (driven : Driven omId machineId world)
    (turns : BetweenTurns (Watch.plain False omId) request world) (answered : List (Order Number))
    (taken : TurnsTaken world) :
    Ends (cancelAllTurns omId (makeId omId request "cancel_all") answered) world
      (drivenEnd (List (OrderSnapshot Number)) omId machineId) := by
  induction answered generalizing world with
  | nil => exact ends_pure driven
  | cons order orders ih =>
      unfold cancelAllTurns
      have allows : AllowsTurn (Watch.plain False omId : Watch omId Stored Number) request order :=
        fun _ _ _ _ _ => ⟨trivial, trivial⟩
      have turned := (OrderManager.cancelAllTurn_spec turns order fun _ => allows).and
        (driven.cancelAllTurn_spec turns order taken)
      refine ends_bind _ (turned.mono (fun _ _ ended => ended) (fun _ _ ended => ended.2)
        (fun _ ended => ended.2)) ?_
      rintro first after ⟨⟨turnsAfter, _⟩, drivenAfter, takenAfter⟩
      refine ends_bind _ (ih drivenAfter turnsAfter takenAfter) ?_
      exact fun _ _ drivenLast => ends_pure drivenLast

theorem Driven.cancelAll_spec (driven : Driven omId machineId world) (symbol : Option Symbol)
    (taken : ∀ clientOrderId existing, world.memory.snapshots.get? clientOrderId = some existing →
      (existing.lifecycleState = .cancelPending → Taken (world.environment (world.clock + 3))) ∧
      (existing.lifecycleState = .acknowledged ∨ existing.lifecycleState = .partiallyFilled →
        Taken (world.environment (world.clock + 4)))) :
    Ends (cancelAll omId symbol) world
      (drivenEnd (List (OrderSnapshot Number)) omId machineId) := by
  have ready := driven.ready
  unfold cancelAll
  refine ends_bind_of_returned (nextId_eq omId "cancel_all" world) ?_
  have unused (key : MutationKey)
      (numbered : ∀ replayed : Memory Number, Spent omId replayed key →
        world.memory.nextSeq < replayed.nextSeq) : ¬ InLog omId world.log key :=
    ready.not_inLog_nextSeq numbered
  have requested := driven.records (StartsAt.bumped rfl)
    (.cancelAllRequested
      { requestId := some (makeId omId world.memory.nextSeq "cancel_all"), symbol })
    (unused _ fun _ spent => spent)
  refine ends_bind _ requested ?_
  intro snapshot after records
  have drivenAfter := driven.intent records (.inr rfl)
  have durable : Durable Number omId after.log world.memory.nextSeq :=
    records.added.durable rfl (Or.inr rfl)
  have notHanded : ∀ earlier ∈ after.handed,
      earlier.request.id ≠ makeId omId world.memory.nextSeq "cancel_all" := by
    rw [show after.handed = world.handed from records.added.handed]
    exact ready.not_handed "cancel_all"
  refine ends_bind_reads (reads_ofExcept _) (fun _ => drivenAfter) ?_
  intro _ _
  refine ends_bind _ ((drivenAfter.mutate_spec rfl durable (by exact notHanded) _).mono
    (fun _ _ called => called) (fun _ _ called => drivenAfter.called called) (fun _ ended => ended)) ?_
  intro orders last called
  have turns : BetweenTurns (Watch.plain False omId) world.memory.nextSeq last := by
    refine { ready := called.ready, durable := ?_, closed := ?_ }
    · rw [called.log]
      exact durable
    · intro order logged
      rw [called.log] at logged
      rcases logged with pending | confirmed
      · rcases (records.added.inLog _).mp pending with old | same
        · exact (unused (.cancelAllPending order _) (fun _ spent => spent) old).elim
        · cases same
      · rcases (records.added.inLog _).mp confirmed with old | same
        · exact (unused (.cancelAllConfirmed order _) (fun _ spent => spent) old).elim
        · cases same
  refine (drivenAfter.called called).cancelAllTurns_spec turns orders ?_
  obtain ⟨environmentAfter, clockAfter⟩ := Prod.mk.inj records.setting
  obtain ⟨environment, clock⟩ := Prod.mk.inj called.setting
  unfold TurnsTaken
  rw [called.memory, show after.memory.snapshots = world.memory.snapshots from
    records.added.snapshots_intent ready.reachable (Or.inr rfl), environment, clock,
    environmentAfter, clockAfter]
  exact taken

theorem Driven.operation_spec (driven : Driven omId machineId world) (call : Call Number)
    (one : call.OneOrder world) (harmless : call.Harmless omId machineId world) :
    Ends (call.operation omId) world (drivenEnd Unit omId machineId) := by
  obtain ⟨taken, fresh, fills⟩ := harmless
  cases call with
  | place arguments =>
      have placed := (driven.idle (one arguments rfl)).placeOrder_spec arguments (fresh arguments rfl)
        (taken 1 (.submitted arguments)) (taken 4 (.answered arguments))
      exact ends_bind _ placed fun _ _ ended => ends_pure ended
  | amend clientOrderId newQuantity newLimitPrice =>
      exact ends_bind _ (driven.amendOrder_spec clientOrderId newQuantity newLimitPrice)
        fun _ _ ended => ends_pure ended
  | cancel clientOrderId =>
      exact ends_bind _ (driven.cancelOrder_spec clientOrderId (taken 3 (.cancelled clientOrderId)))
        fun _ _ ended => ends_pure ended
  | cancelAll symbol =>
      have cancelled := driven.cancelAll_spec symbol fun clientOrderId existing tracked =>
        ⟨fun pending => taken 3 (.pendingTurn symbol clientOrderId existing tracked pending),
          fun cancellable => taken 4 (.openTurn symbol clientOrderId existing tracked cancellable)⟩
      exact ends_bind _ cancelled fun _ _ ended => ends_pure ended
  | reportFill clientOrderId fill =>
      have filled := driven.reportFill_spec clientOrderId fill (fills clientOrderId fill rfl)
        (taken 1 (.filled clientOrderId fill))
      exact ends_bind _ filled fun _ _ ended => ends_pure ended
  | reportOrderUpdate clientOrderId order =>
      have updated := driven.reportOrderUpdate_spec clientOrderId order
        (taken 1 (.updated clientOrderId order))
      exact ends_bind _ updated fun _ _ ended => ends_pure ended
  | resync clientOrderId =>
      exact ends_bind _ (driven.resyncOrder_spec clientOrderId (taken 2 (.resynced clientOrderId)))
        fun _ _ ended => ends_pure ended

end

section

variable {Number Stored : Type}

/-! ### Runs with one order -/

/-- A call with the environment's answers to its effects, a crash between two calls, or a
restart of the manager and of its machine. -/
inductive DrivingStep (Number : Type)
  | call (call : Call Number) (answers : Nat → Answer Number)
  | kill
  | restart

def World.facing (world : World Stored Number) (answers : Nat → Answer Number) :
    World Stored Number :=
  { world with environment := answers, clock := 0 }

@[simp] theorem World.facing_memory (world : World Stored Number)
    (answers : Nat → Answer Number) : (world.facing answers).memory = world.memory := rfl

variable [Arithmetic Number] [Sources Stored Number]

def System.drivingStep (omId machineId : String) (system : System Stored Number) :
    DrivingStep Number → System Stored Number
  | .call call answers =>
      System.step { system with world := system.world.facing answers }
        (.call call : Step omId Stored Number)
  | .kill => system.step (.kill : Step omId Stored Number)
  | .restart =>
      match ExecutionStateMachine.construct system.world.log machineId with
      | .ok machine => system.step (.restart machine : Step omId Stored Number)
      | .error _ => system.step (.kill : Step omId Stored Number)

def OneOrder (system : System Stored Number) (step : DrivingStep Number) : Prop :=
  ∀ call answers, step = .call call answers → system.alive = true →
    call.OneOrder (system.world.facing answers)

/-- While the manager lives, nothing comes between an order's event and the machine's. -/
def HarmlessStep (omId machineId : String) (system : System Stored Number)
    (step : DrivingStep Number) : Prop :=
  ∀ call answers, step = .call call answers → system.alive = true →
    call.Harmless omId machineId (system.world.facing answers)

/-- A live manager's machine follows, a dead one's will after a restart. -/
structure System.Follows (omId machineId : String) (system : System Stored Number) : Prop where
  survives : Survives omId machineId system.world
  driven : system.alive = true → Driven omId machineId system.world

theorem System.Follows.dead {omId machineId : String} {world : World Stored Number}
    (survives : Survives omId machineId world) :
    System.Follows omId machineId { world, alive := false } where
  survives
  driven isAlive := by cases isAlive

variable {omId machineId : String} {world : World Stored Number}

theorem Driven.facing (driven : Driven omId machineId world) (answers : Nat → Answer Number) :
    Driven omId machineId (world.facing answers) := by
  have ready : Ready (Watch.plain False omId) (world.facing answers) :=
    { reachable := driven.ready.reachable
      kept := trivial
      appends := fun impossible => impossible.elim }
  exact driven.same ready rfl rfl rfl

theorem Survives.restart {machine : ExecutionStateMachine.Machine} {rebuilt : Memory Number}
    (survives : Survives omId machineId world)
    (machineRebuilt : ExecutionStateMachine.construct world.log machineId = .ok machine)
    (memoryRebuilt : construct omId world.log = .ok rebuilt) :
    Driven omId machineId { world with memory := rebuilt, machine } := by
  obtain ⟨memory, driven⟩ := survives
  have constructed := driven.constructed
  change ExecutionStateMachine.construct world.log machineId = .ok world.machine at constructed
  rw [constructed] at machineRebuilt
  cases machineRebuilt
  obtain ⟨replayed, replays, agrees⟩ := driven.ready.reachable.consistent.replays
  have same := replays.constructed
  change construct omId world.log = .ok replayed at same
  rw [memoryRebuilt] at same
  cases same
  have ready : Ready (Watch.plain False omId) { world with memory := rebuilt } :=
    driven.ready.move (.restart { world with memory }.core rebuilt memoryRebuilt) rfl
  exact driven.same ready rfl rfl agrees.snapshots

/-- The machine shows a filled, a partly filled and an emptily cancelled order. -/
structure Mirrors (existing : OrderSnapshot Number) (state : State) : Prop where
  filled : existing.lifecycleState = .filled → state = .positionOpen
  partiallyFilled : existing.lifecycleState = .partiallyFilled → state = .partiallyFilled
  cancelled : existing.lifecycleState = .cancelled →
    Arithmetic.isZero existing.filledQuantity = true → state = .ready

theorem Reflects.mirrors {existing : OrderSnapshot Number} {state : State}
    (reflects : Reflects existing.lifecycleState (Arithmetic.isZero existing.filledQuantity) state) :
    Mirrors existing state := by
  unfold Reflects at reflects
  refine { filled := ?_, partiallyFilled := ?_, cancelled := ?_ }
  · intro isFilled
    rw [isFilled] at reflects
    exact reflects
  · intro isPartial
    rw [isPartial] at reflects
    exact reflects.1
  · intro isCancelled
    rw [isCancelled] at reflects
    exact reflects

variable [ApartFromMachine Stored Number]

theorem System.Follows.step {system : System Stored Number} (follows : system.Follows omId machineId)
    (step : DrivingStep Number) (one : OneOrder system step)
    (harmless : HarmlessStep omId machineId system step) :
    (system.drivingStep omId machineId step).Follows omId machineId := by
  obtain ⟨world, alive⟩ := system
  obtain ⟨survives, driven⟩ := follows
  cases step with
  | call call answers =>
      cases alive with
      | false =>
          obtain ⟨memory, drivenMemory⟩ := survives
          exact System.Follows.dead ⟨memory, drivenMemory.facing answers⟩
      | true =>
          have ends := ((driven rfl).facing answers).operation_spec call (one call answers rfl rfl)
            (harmless call answers rfl rfl)
          unfold System.drivingStep System.step
          unfold Ends at ends
          dsimp only at ends ⊢
          rw [if_pos rfl]
          rcases ran : call.operation omId (world.facing answers) with ⟨outcome, after⟩
          rw [ran] at ends
          cases outcome with
          | returned value => exact { survives := ends.survives, driven := fun _ => ends }
          | raised error => exact { survives := ends.survives, driven := fun _ => ends }
          | crashed => exact System.Follows.dead ends
  | kill => exact System.Follows.dead survives
  | restart =>
      unfold System.drivingStep
      dsimp only
      cases machineRebuilt : ExecutionStateMachine.construct world.log machineId with
      | error error => exact System.Follows.dead survives
      | ok machine =>
          unfold System.step
          dsimp only
          cases memoryRebuilt : (construct omId world.log : Except _ (Memory Number)) with
          | error error => exact System.Follows.dead survives
          | ok rebuilt =>
              have restarted := survives.restart machineRebuilt memoryRebuilt
              exact { survives := restarted.survives, driven := fun _ => restarted }

/-- A live manager without an order, and its machine that waits for one. -/
structure System.Begins (omId machineId : String) (system : System Stored Number) : Prop where
  live : system.Live omId
  constructed : ExecutionStateMachine.construct system.world.log machineId = .ok system.world.machine
  untracked : ∀ clientOrderId, system.world.memory.snapshots.get? clientOrderId = none
  pending : system.world.machine.currentState = .signalPending

/-- In every run with one order, between whose events and the machine's nothing comes, the
machine shows the order whenever the manager is between operations. -/
theorem run_drivesMachine {system : System Stored Number} (begins : system.Begins omId machineId)
    (steps : List (DrivingStep Number))
    (one : Runs.Along (System.drivingStep omId machineId) OneOrder system steps)
    (harmless : Runs.Along (System.drivingStep omId machineId) (HarmlessStep omId machineId) system
      steps) :
    let final := steps.foldl (System.drivingStep omId machineId) system
    final.alive = true → ∀ clientOrderId existing,
      final.world.memory.snapshots.get? clientOrderId = some existing →
      Mirrors existing final.world.machine.currentState := by
  intro final alive clientOrderId existing tracked
  have idle : Driven omId machineId system.world := Or.inl
    { ready := begins.live.sound.ready begins.live.1
      constructed := begins.constructed
      untracked := begins.untracked
      pending := begins.pending }
  have follows : final.Follows omId machineId :=
    (one.and harmless).keeps (fun system => system.Follows omId machineId)
      (fun _ step kept both => kept.step step both.1 both.2)
      { survives := idle.survives, driven := fun _ => idle }
  obtain ⟨known, found, reflects⟩ := ((follows.driven alive).told tracked).lags
  rw [tracked] at found
  cases found
  exact Reflects.mirrors reflects

end

/-! ### An order that is filled while its cancel is in flight -/

def restingAnswers : Nat → Answer ℚ := fun _ =>
  acceptingAnswer (acknowledgedOrder "main" 2)

def machineStep (currentState toState : State) (trigger : Trigger) (requestId : String) :
    Step "main" OrderStored ℚ :=
  .foreign (machineEvent "main" { machineId := "main", currentState }
    { trigger, requestId, context := none, now := "2026-01-01T00:00:00+00:00", failure := none }
    toState)

def signalled : System OrderStored ℚ :=
  (System.start Memory.initial freshMachine restingAnswers).run
      [machineStep .initializing .reconciling .started "started",
        machineStep .reconciling .ready .reconciled "reconciled",
        machineStep .ready .signalPending .signalReceived "signal",
        .restart { machineId := "main", currentState := .signalPending }]

private theorem signalled_begins : signalled.Begins "main" "main" :=
  { live := ⟨by decide +kernel, _, _, _, _, rfl, rfl⟩
    constructed := by rfl
    untracked := fun _ => by rfl
    pending := by rfl }

def buyTwo (answers : Nat → Answer ℚ) : DrivingStep ℚ :=
  .call (.place marketBuy) answers

def reportOf (fillId : String) (quantity : ℚ) : DrivingStep ℚ :=
  .call (.reportFill (placeId "main" 1) (fillOf fillId quantity)) restingAnswers

def overtakenCancel : List (DrivingStep ℚ) :=
  [buyTwo restingAnswers, reportOf "f1" 1, .call (.cancel (placeId "main" 1)) restingAnswers,
    reportOf "f2" 1]

private theorem overtakenCancel_ends :
    let final := overtakenCancel.foldl (System.drivingStep "main" "main") signalled
    final.alive = true ∧
      (final.world.memory.snapshots.get? (placeId "main" 1)).map OrderSnapshot.lifecycleState =
        some .filled ∧
      final.world.machine.currentState = .partiallyFilled := by
  decide +kernel

private theorem oneOrder_of_not_place {Number Stored : Type} {system : System Stored Number}
    {step : DrivingStep Number}
    (notPlace : ∀ arguments answers, step ≠ .call (.place arguments) answers) :
    OneOrder system step := by
  rintro call answers rfl _ arguments rfl
  exact (notPlace arguments answers rfl).elim

private theorem oneOrder_of_untracked {Number Stored : Type} {system : System Stored Number}
    (step : DrivingStep Number)
    (untracked : ∀ clientOrderId, system.world.memory.snapshots.get? clientOrderId = none) :
    OneOrder system step :=
  fun _ _ _ _ _ _ => untracked

/-- The machine still shows a partly filled order when the order is filled. -/
theorem not_drivesMachine :
    ¬ ∀ (system : System OrderStored ℚ)
      (steps : List (DrivingStep ℚ)), system.Begins "main" "main" →
      Runs.Along (System.drivingStep "main" "main") OneOrder system steps →
      let final := steps.foldl (System.drivingStep "main" "main") system
      final.alive = true → ∀ clientOrderId existing,
        final.world.memory.snapshots.get? clientOrderId = some existing →
        Mirrors existing final.world.machine.currentState := by
  intro drives
  obtain ⟨alive, isFilled, isPartial⟩ := overtakenCancel_ends
  obtain ⟨existing, tracked, filled⟩ := Option.map_eq_some_iff.mp isFilled
  have one : Runs.Along (System.drivingStep "main" "main") OneOrder signalled overtakenCancel :=
    ⟨oneOrder_of_untracked _ signalled_begins.untracked, oneOrder_of_not_place (by rintro _ _ ⟨⟩),
      oneOrder_of_not_place (by rintro _ _ ⟨⟩), oneOrder_of_not_place (by rintro _ _ ⟨⟩), trivial⟩
  have mirrors := drives signalled overtakenCancel signalled_begins one alive _ existing tracked
  have isOpen := mirrors.filled filled
  rw [isPartial] at isOpen
  cases isOpen

def foundAnswers : Nat → Answer ℚ := fun tick =>
  { restingAnswers tick with found := (restingAnswers tick).order.map some }

/-- The process dies when the venue has the order and the manager not yet its answer. -/
def dyingAnswers : Nat → Answer ℚ := fun tick =>
  { restingAnswers tick with crash := tick = 2 }

def resyncedPlacement : List (DrivingStep ℚ) :=
  [buyTwo dyingAnswers, .restart, .call (.resync (placeId "main" 1)) foundAnswers]

private theorem signalled_freshDrives :
    FreshDrives "main" "main" (signalled.world.facing dyingAnswers) :=
  { undriven := by decide +kernel
    distinct := by decide +kernel }

private theorem resyncedPlacement_order :
    let final := resyncedPlacement.foldl (System.drivingStep "main" "main") signalled
    (final.world.memory.snapshots.get? (placeId "main" 1)).map
      (fun snapshot => (snapshot.lifecycleState, snapshot.filledQuantity)) =
        some (.acknowledged, 0) := by
  decide +kernel

private theorem resyncedPlacement_fillsInStep :
    FillsInStep (resyncedPlacement.foldl (System.drivingStep "main" "main") signalled).world.memory
      (placeId "main" 1) (fillOf "f1" 2) := by
  intro existing newFilled tracked sum
  have shown := resyncedPlacement_order
  dsimp only at shown
  rw [tracked, Option.map_some, Option.some.injEq, Prod.mk.injEq] at shown
  obtain ⟨state, filled⟩ := shown
  rw [filled] at sum
  cases sum
  constructor
  · intro _
    decide +kernel
  · intro _ pending
    rw [state] at pending
    cases pending

theorem run_drivesMachine_resyncedPlacement :
    let final :=
      (resyncedPlacement ++ [reportOf "f1" 2]).foldl (System.drivingStep "main" "main") signalled
    ∀ clientOrderId existing,
      final.world.memory.snapshots.get? clientOrderId = some existing →
      Mirrors existing final.world.machine.currentState := by
  refine run_drivesMachine signalled_begins (resyncedPlacement ++ [reportOf "f1" 2]) ?_ ?_
    (by decide +kernel)
  · exact ⟨oneOrder_of_untracked _ signalled_begins.untracked,
      oneOrder_of_not_place (by rintro _ _ ⟨⟩), oneOrder_of_not_place (by rintro _ _ ⟨⟩),
      oneOrder_of_not_place (by rintro _ _ ⟨⟩), trivial⟩
  · refine ⟨?_, ?_, ?_, ?_, trivial⟩
    · rintro call answers ⟨⟩ _
      refine { taken := ?_, fresh := fun _ _ => signalled_freshDrives, fills := ?_ }
      · intro tick drives
        cases drives <;> exact { alive := by rfl, stored := by rfl }
      · rintro _ _ ⟨⟩
    · rintro _ _ ⟨⟩
    · rintro call answers ⟨⟩ _
      refine { taken := fun _ _ => { alive := rfl, stored := rfl }, fresh := ?_, fills := ?_ }
      · rintro _ ⟨⟩
      · rintro _ _ ⟨⟩
    · rintro call answers ⟨⟩ _
      refine { taken := fun _ _ => { alive := rfl, stored := rfl }, fresh := ?_, fills := ?_ }
      · rintro _ ⟨⟩
      · rintro _ _ ⟨⟩
        have inStep := resyncedPlacement_fillsInStep
        simp only [resyncedPlacement, List.foldl_cons, List.foldl_nil] at inStep
        rw [World.facing_memory]
        exact inStep

end TurtleExecution.OrderManager

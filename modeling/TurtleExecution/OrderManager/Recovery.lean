/-
The recovery of an order that a crash left in doubt: a restart, and one resync
among reports of the venue's fills, in exact arithmetic.
-/

import TurtleExecution.OrderManager.InDoubt
import Mathlib.Tactic.Linarith

set_option autoImplicit false

namespace TurtleExecution.OrderManager

open ExchangeAdapter SharedStore Process

/-! ### Fills -/

def total (fills : List (Fill ℚ)) : ℚ := (fills.map Fill.quantity).sum

def newFills (known : List String) : List (Fill ℚ) → List (Fill ℚ)
  | [] => []
  | fill :: fills =>
      if fill.fillId ∈ known then newFills known fills
      else fill :: newFills (addToSet known fill.fillId) fills

def afterComplete (quantity filled : ℚ) : List (Fill ℚ) → List (Fill ℚ)
  | [] => []
  | fill :: fills =>
      if quantity ≤ filled then fill :: fills
      else afterComplete quantity (filled + fill.quantity) fills

def filledBy (quantity filled : ℚ) : List (Fill ℚ) → ℚ
  | [] => filled
  | fill :: fills =>
      if quantity ≤ filled then filled else filledBy quantity (filled + fill.quantity) fills

private theorem filledBy_add_total (quantity : ℚ) (fills : List (Fill ℚ)) (filled : ℚ) :
    filledBy quantity filled fills + total (afterComplete quantity filled fills) =
      filled + total fills := by
  induction fills generalizing filled with
  | nil => rfl
  | cons fill fills ih =>
      unfold filledBy afterComplete
      by_cases complete : quantity ≤ filled
      · rw [if_pos complete, if_pos complete]
      · rw [if_neg complete, if_neg complete, ih, add_assoc]
        rfl

private theorem mem_newFills {known : List String} {fills : List (Fill ℚ)} {fill : Fill ℚ}
    (member : fill ∈ newFills known fills) : fill ∈ fills ∧ fill.fillId ∉ known := by
  induction fills generalizing known with
  | nil => cases member
  | cons first fills ih =>
      unfold newFills at member
      by_cases old : first.fillId ∈ known
      · rw [if_pos old] at member
        exact ⟨List.mem_cons_of_mem first (ih member).1, (ih member).2⟩
      · rw [if_neg old] at member
        rcases List.mem_cons.mp member with rfl | later
        · exact ⟨List.mem_cons_self, old⟩
        · exact ⟨List.mem_cons_of_mem first (ih later).1,
            fun known => (ih later).2 (mem_addToSet.mpr (Or.inl known))⟩

private theorem newFills_nodup (known : List String) (fills : List (Fill ℚ)) :
    ((newFills known fills).map Fill.fillId).Nodup := by
  induction fills generalizing known with
  | nil => exact List.nodup_nil
  | cons fill fills ih =>
      unfold newFills
      by_cases old : fill.fillId ∈ known
      · rw [if_pos old]
        exact ih known
      · rw [if_neg old, List.map_cons, List.nodup_cons]
        refine ⟨?_, ih _⟩
        intro again
        obtain ⟨other, member, same⟩ := List.mem_map.mp again
        refine (mem_newFills member).2 (mem_addToSet.mpr (Or.inr ?_))
        exact same

private theorem exists_newFills {known : List String} {fills : List (Fill ℚ)} {fill : Fill ℚ}
    (member : fill ∈ fills) (unknown : fill.fillId ∉ known) :
    ∃ other ∈ newFills known fills, other.fillId = fill.fillId := by
  induction fills generalizing known with
  | nil => cases member
  | cons first fills ih =>
      unfold newFills
      by_cases old : first.fillId ∈ known
      · rw [if_pos old]
        rcases List.mem_cons.mp member with rfl | later
        · exact (unknown old).elim
        · exact ih later unknown
      · rw [if_neg old]
        by_cases same : first.fillId = fill.fillId
        · exact ⟨first, List.mem_cons_self, same⟩
        · rcases List.mem_cons.mp member with rfl | later
          · exact (same rfl).elim
          · have unknownStill : fill.fillId ∉ addToSet known first.fillId := by
              rw [mem_addToSet, not_or]
              exact ⟨unknown, fun equal => same equal.symm⟩
            obtain ⟨other, inRest, named⟩ := ih later unknownStill
            exact ⟨other, List.mem_cons_of_mem first inRest, named⟩

structure VenueFills where
  fills : List (Fill ℚ)
  distinct : (fills.map Fill.fillId).Nodup

def VenueFills.unreported (venue : VenueFills) (late : List (Fill ℚ)) : List (Fill ℚ) :=
  venue.fills.filter fun fill => fill.fillId ∉ late.map Fill.fillId

theorem VenueFills.eq_of_fillId (venue : VenueFills) {fill other : Fill ℚ}
    (member : fill ∈ venue.fills) (otherMember : other ∈ venue.fills)
    (same : fill.fillId = other.fillId) : fill = other :=
  List.inj_on_of_nodup_map venue.distinct member otherMember same

theorem VenueFills.total_eq (venue : VenueFills) {late : List (Fill ℚ)} (reported : late ⊆ venue.fills) :
    total venue.fills = total (newFills [] late) + total (venue.unreported late) := by
  have split : venue.fills.Perm (newFills [] late ++ venue.unreported late) := by
    refine (List.perm_ext_iff_of_nodup (List.Nodup.of_map _ venue.distinct) ?_).mpr ?_
    · rw [List.nodup_append]
      refine ⟨List.Nodup.of_map _ (newFills_nodup [] late),
        (List.Nodup.of_map _ venue.distinct).filter _, ?_⟩
      rintro fill isNew other unreported rfl
      have absent := (List.mem_filter.mp unreported).2
      rw [decide_eq_true_eq] at absent
      exact absent (List.mem_map_of_mem (mem_newFills isNew).1)
    · intro fill
      rw [List.mem_append, VenueFills.unreported, List.mem_filter, decide_eq_true_eq]
      constructor
      · intro member
        by_cases again : fill.fillId ∈ late.map Fill.fillId
        · obtain ⟨other, inLate, same⟩ := List.mem_map.mp again
          obtain ⟨first, isNew, named⟩ := exists_newFills inLate List.not_mem_nil
          have equal : first = fill := venue.eq_of_fillId (reported (mem_newFills isNew).1) member
            (named.trans same)
          rw [← equal]
          exact Or.inl isNew
        · exact Or.inr ⟨member, again⟩
      · rintro (isNew | ⟨member, _⟩)
        · exact reported (mem_newFills isNew).1
        · exact member
  unfold total
  rw [(split.map Fill.quantity).sum_eq, List.map_append, List.sum_append]

section

variable {Stored : Type}

section

variable {Number : Type} [Sources Stored Number]

variable {report : Order Number} {omId : String}

private theorem driveExecutionSm_settles [Arithmetic Number] {world : World Stored Number}
    (ready : Ready (Watch.plain False omId) world) (undisrupted : Undisrupted report world)
    (clientOrderId : String) (trigger : OrderLifecycleTrigger) (fromState : OrderLifecycleState)
    (unfilled : Bool) :
    Ends (driveExecutionSm clientOrderId trigger fromState unfilled) world
      (settles Unit fun after =>
        Ready (Watch.plain False omId) after ∧ Undisrupted report after ∧
          after.memory = world.memory) := by
  unfold Ends
  rw [driveExecutionSm_eq]
  cases executionTrigger? trigger fromState unfilled with
  | none => exact ⟨ready, undisrupted, rfl⟩
  | some executionTrigger =>
      dsimp only
      rw [if_neg (by rw [undisrupted.alive _ (Nat.le_refl _)]; exact Bool.false_ne_true)]
      have driven := (transition_undisturbed ready
        (driveCall clientOrderId executionTrigger (world.environment world.clock))).1
      have settled : ∀ machine log, Undisrupted report { world.tick with log, machine } :=
        fun _ _ =>
          { alive := undisrupted.tick.alive
            stores := undisrupted.tick.stores
            finds := undisrupted.tick.finds }
      generalize ExecutionStateMachine.transition world.log world.machine
        (driveCall clientOrderId executionTrigger (world.environment world.clock)) = outcome at driven ⊢
      obtain ⟨result, log, machine⟩ := outcome
      cases result with
      | ok result => exact ⟨driven, settled machine log, rfl⟩
      | error error => cases error <;> exact ⟨driven, settled machine log, rfl⟩

private theorem persistAndApply_settles [Arithmetic Number] {world : World Stored Number}
    {key : MutationKey} {payload : Payload Number} (ready : Ready (Watch.plain False omId) world)
    (undisrupted : Undisrupted report world)
    (recorded : Recorded omId (Durable Number omId world.log) world.memory key payload)
    (unused : ¬ InLog omId world.log key) :
    Ends (persistAndApply omId payload (key.text omId)) world
      { returned := fun _ after => Ready (Watch.plain False omId) after ∧ Undisrupted report after ∧
          RecordedIn omId key payload world.core after.core
        raised := fun _ _ => False
        crashed := fun _ => False } := by
  have undisturbed : Ends (persistAndApply omId payload (key.text omId)) world
      { returned := fun _ after => Undisrupted report after
        raised := fun _ _ => False
        crashed := fun _ => False } := by
    unfold Ends
    obtain ⟨log, entries, outcome⟩ := persistAndApply_eq world payload unused
    obtain ⟨patch, effect, applied⟩ := recorded.applied ready.reachable
      (world.environment world.clock).now
    rw [outcome, if_neg (by rw [undisrupted.alive _ (Nat.le_refl _)]; exact Bool.false_ne_true),
      undisrupted.stores _ (Nat.le_refl _)]
    change Post.Holds _ (ofExcept (world.memory.applyEvent _ _).1 _)
    rw [show (world.memory.applyEvent (recordedEvent omId world.log key payload
        (world.environment world.clock).now) payload).1 = .ok _ from congrArg Prod.fst applied]
    exact
      { alive := undisrupted.tick.alive
        stores := undisrupted.tick.stores
        finds := undisrupted.tick.finds }
  exact ((persistAndApply_spec ready recorded trivial unused).and undisturbed).mono
    (fun _ _ ended => ⟨ended.1.1, ended.2, ended.1.2⟩) (fun _ _ ended => ended.2)
    (fun _ ended => ended.2)

structure Standing (omId : String) (report : Order Number) (order : Nat)
    (state : OrderLifecycleState) (quantity filled : Number) (known : List String)
    (world : World Stored Number) [Arithmetic Number] : Prop where
  ready : Ready (Watch.plain False omId) world
  undisrupted : Undisrupted report world
  tracked : ∃ existing, world.memory.snapshots.get? (placeId omId order) = some existing ∧
    existing.lifecycleState = state ∧ existing.quantity = quantity ∧
    existing.filledQuantity = filled
  fillIds : world.memory.fillIds (placeId omId order) = known

theorem Standing.undisturbed [Arithmetic Number] {order : Nat} {state : OrderLifecycleState}
    {quantity filled : Number} {known : List String} {before after : World Stored Number}
    (standing : Standing omId report order state quantity filled known before)
    (ready : Ready (Watch.plain False omId) after) (undisrupted : Undisrupted report after)
    (same : after.memory = before.memory) :
    Standing omId report order state quantity filled known after := by
  refine { ready, undisrupted, tracked := ?_, fillIds := ?_ }
  · rw [same]
    exact standing.tracked
  · rw [same]
    exact standing.fillIds

end

variable [Sources Stored ℚ] {omId : String} {report : Order ℚ} {order : Nat}
  {quantity filled : ℚ} {known : List String} {world : World Stored ℚ}

omit [Sources Stored ℚ] in
private theorem ends_trackedOrder {Result : Type} {clientOrderId : String}
    {existing : OrderSnapshot ℚ}
    {next : OrderSnapshot ℚ → Memory ℚ → Operation Stored ℚ Result}
    {post : Post (World Stored ℚ) OrderManagerError Result}
    (found : world.memory.snapshots.get? clientOrderId = some existing)
    (ends : Ends (next existing world.memory) world post) :
    Ends (do
      let existing ← trackedOrder clientOrderId
      let memory ← memory
      next existing memory) world post := by
  have ran : trackedOrder clientOrderId world = (.returned existing, world) := by
    rw [trackedOrder_eq, found]
  refine ends_bind_of_returned ran ?_
  have read : memory world = (.returned world.memory, world) := rfl
  exact ends_bind_of_returned read ends

variable {state : OrderLifecycleState}

variable {arguments : PlaceArguments ℚ} {fill : Fill ℚ}

theorem Standing.reportFill_known
    (standing : Standing omId report order state quantity filled known world)
    (old : fill.fillId ∈ known) :
    Ends (reportFill omId (placeId omId order) fill) world
      (settles (Option (OrderSnapshot ℚ)) fun after =>
        Standing omId report order state quantity filled known after) := by
  obtain ⟨existing, found, _⟩ := standing.tracked
  unfold reportFill
  refine ends_trackedOrder found ?_
  rw [standing.fillIds, if_pos old]
  exact ends_pure standing

theorem Standing.reportFill_closed
    (standing : Standing omId report order state quantity filled known world)
    (closed : isTerminal state = true) (fresh : fill.fillId ∉ known) :
    Ends (reportFill omId (placeId omId order) fill) world
      (settles (Option (OrderSnapshot ℚ)) fun after =>
        Standing omId report order state quantity filled (addToSet known fill.fillId) after) := by
  obtain ⟨existing, found, same, ordered, done⟩ := standing.tracked
  have terminal : isTerminal existing.lifecycleState = true := by
    rw [same]
    exact closed
  unfold reportFill
  refine ends_trackedOrder found ?_
  rw [standing.fillIds, if_neg fresh, if_pos terminal]
  exact
    { ready := standing.ready.move (.lateFill world.core _ fill.fillId existing found terminal) rfl
      undisrupted :=
        { alive := standing.undisrupted.alive
          stores := standing.undisrupted.stores
          finds := standing.undisrupted.finds }
      tracked := ⟨existing, found, same, ordered, done⟩
      fillIds := by
        change (world.memory.addFillId _ _).fillIds _ = _
        rw [Memory.addFillId_fillIds, if_pos rfl, standing.fillIds] }

theorem fillTrigger_rat (newFilled quantity : ℚ) :
    fillTrigger newFilled quantity =
      .ok (if quantity ≤ newFilled then .fullFill else .partialFill) := by
  have compared : Arithmetic.le quantity newFilled = .ok (decide (quantity ≤ newFilled)) := rfl
  unfold fillTrigger
  rw [compared]
  by_cases complete : quantity ≤ newFilled
  · rw [decide_eq_true complete, if_pos complete]
  · rw [decide_eq_false complete, if_neg complete]

theorem Standing.reportFill_open
    (standing : Standing omId report order state quantity filled known world)
    (isOpen : isTerminal state = false) (fresh : fill.fillId ∉ known) :
    Ends (reportFill omId (placeId omId order) fill) world
      (settles (Option (OrderSnapshot ℚ)) fun after =>
        match nextState? state
          (if quantity ≤ filled + fill.quantity then .fullFill else .partialFill) with
        | none => after = world
        | some toState =>
            Standing omId report order toState quantity (filled + fill.quantity)
              (addToSet known fill.fillId) after) := by
  obtain ⟨existing, found, rfl, rfl, rfl⟩ := standing.tracked
  have ready := standing.ready
  unfold reportFill
  refine ends_trackedOrder found ?_
  rw [standing.fillIds, if_neg fresh, isOpen, if_neg Bool.false_ne_true]
  have added : (ofExcept ((Arithmetic.add existing.filledQuantity fill.quantity).mapError
      OrderManagerError.arithmetic) : Operation Stored ℚ ℚ) world =
      (.returned (existing.filledQuantity + fill.quantity), world) := rfl
  refine ends_bind_of_returned added ?_
  have chosen := fillTrigger_rat (existing.filledQuantity + fill.quantity) existing.quantity
  generalize (if existing.quantity ≤ existing.filledQuantity + fill.quantity then
    OrderLifecycleTrigger.fullFill else .partialFill) = trigger at chosen ⊢
  have triggered : (ofExcept (fillTrigger (existing.filledQuantity + fill.quantity)
      existing.quantity) : Operation Stored ℚ OrderLifecycleTrigger) world =
      (.returned trigger, world) := by
    rw [chosen]
    rfl
  refine ends_bind_of_returned triggered ?_
  dsimp only
  cases legal : nextState? existing.lifecycleState trigger with
  | none => exact ends_raise rfl
  | some toState =>
      have recorded := persistAndApply_settles ready standing.undisrupted
        (.fill order existing fill _ trigger toState found (by rwa [standing.fillIds]) rfl chosen
          legal) (ready.not_inLog_fill (by rwa [standing.fillIds]))
      rw [text_fill] at recorded
      refine ends_bind (fun _ after => Standing omId report order toState existing.quantity
        (existing.filledQuantity + fill.quantity) (addToSet known fill.fillId) after)
        (recorded.mono ?_ (fun _ _ never => never.elim) (fun _ never => never)) ?_
      · rintro _ after ⟨readyAfter, undisrupted, fillAdded⟩
        obtain ⟨event, memory⟩ := fillAdded.memory_eq ready.reachable
          (patches_fill · omId (placeId omId order) fill found legal rfl)
        change after.memory = world.memory.patch _ at memory
        refine { ready := readyAfter, undisrupted, tracked := ?_, fillIds := ?_ }
        · rw [memory]
          exact ⟨_, Memory.patch_snapshot_self world.memory rfl, rfl, rfl, rfl⟩
        · rw [memory, Memory.patch_fillIds, if_pos rfl, standing.fillIds]
          rfl
      · intro snapshot after counted
        refine ends_bind (fun _ last => Standing omId report order toState existing.quantity
          (existing.filledQuantity + fill.quantity) (addToSet known fill.fillId) last)
          ((driveExecutionSm_settles counted.ready counted.undisrupted _ _ _ _).mono ?_ ?_
            (fun _ never => never)) (fun _ last standingLast => ends_pure standingLast)
        · rintro _ last ⟨readyLast, undisrupted, memory⟩
          exact counted.undisturbed readyLast undisrupted memory
        · rintro _ last ⟨readyLast, undisrupted, memory⟩
          exact counted.undisturbed readyLast undisrupted memory

/-! ### The resync -/

def stateAfter : OrderStatus → OrderLifecycleState
  | .acknowledged => .acknowledged
  | .rejected => .rejected
  | _ => .submitted

private theorem stateAfter_eq_submitted {status : OrderStatus} (notOpen : status ≠ .acknowledged)
    (notRejected : status ≠ .rejected) : stateAfter status = .submitted := by
  cases status with
  | acknowledged => exact (notOpen rfl).elim
  | rejected => exact (notRejected rfl).elim
  | _ => rfl

theorem Standing.statusUpdate_settles {existing : OrderSnapshot ℚ} {status : OrderStatus}
    {trigger : OrderLifecycleTrigger} {toState : OrderLifecycleState}
    (standing : Standing omId report order existing.lifecycleState existing.quantity
      existing.filledQuantity known world)
    (found : world.memory.snapshots.get? (placeId omId order) = some existing)
    (reported : statusToTrigger? status = some trigger)
    (legal : nextState? existing.lifecycleState trigger = some toState)
    (exchangeOrderId : Option String) :
    Ends (ingestStatus omId (placeId omId order) status exchangeOrderId) world
      (settles (Option (OrderSnapshot ℚ)) fun after =>
        Standing omId report order toState existing.quantity existing.filledQuantity known after) := by
  unfold ingestStatus
  rw [reported]
  dsimp only
  have ran : snapshotOf (placeId omId order) world = (.returned existing, world) := by
    change ofExcept (required _ (world.memory.snapshots.get? _)) world = _
    rw [found]
    rfl
  refine ends_bind_of_returned ran ?_
  rw [legal]
  have recorded := persistAndApply_settles standing.ready standing.undisrupted
    (.statusUpdate order existing trigger toState none _ { exchangeOrderId } found legal
      (.status status trigger reported)) (standing.ready.not_inLog_status found reported legal)
  rw [text_status] at recorded
  refine ends_bind (fun _ after => Standing omId report order toState existing.quantity
    existing.filledQuantity known after)
    (recorded.mono ?_ (fun _ _ never => never.elim) (fun _ never => never)) ?_
  · rintro _ after ⟨readyAfter, undisrupted, added⟩
    obtain ⟨event, memory⟩ := added.memory_eq standing.ready.reachable
      (patches_statusUpdate · omId (placeId omId order) none { exchangeOrderId } found legal)
    change after.memory = world.memory.patch _ at memory
    refine { ready := readyAfter, undisrupted, tracked := ?_, fillIds := ?_ }
    · rw [memory]
      exact ⟨_, Memory.patch_snapshot_self world.memory rfl, rfl, rfl, rfl⟩
    · rw [memory, Memory.patch_fillIds, if_pos rfl]
      exact standing.fillIds
  · intro snapshot after updated
    refine ends_bind (fun _ last => Standing omId report order toState existing.quantity
      existing.filledQuantity known last)
      ((driveExecutionSm_settles updated.ready updated.undisrupted _ _ _ _).mono ?_ ?_
        (fun _ never => never)) (fun _ last standingLast => ends_pure standingLast)
    · rintro _ last ⟨readyLast, undisrupted, memory⟩
      exact updated.undisturbed readyLast undisrupted memory
    · rintro _ last ⟨readyLast, undisrupted, memory⟩
      exact updated.undisturbed readyLast undisrupted memory

theorem Standing.ingestStatus_submitted
    (standing : Standing omId report order .submitted quantity filled known world)
    (status : OrderStatus) (exchangeOrderId : Option String) :
    Ends (ingestStatus omId (placeId omId order) status exchangeOrderId) world
      (settles (Option (OrderSnapshot ℚ)) fun after =>
        Standing omId report order (stateAfter status) quantity filled known after) := by
  have whole := standing
  obtain ⟨existing, found, state, rfl, rfl⟩ := standing.tracked
  have ran : snapshotOf (placeId omId order) world = (.returned existing, world) := by
    change ofExcept (required _ (world.memory.snapshots.get? _)) world = _
    rw [found]
    rfl
  have inert (silent : statusToTrigger? status = none) :
      Ends (ingestStatus omId (placeId omId order) status exchangeOrderId) world
        (settles (Option (OrderSnapshot ℚ)) fun after => Standing omId report order .submitted
          existing.quantity existing.filledQuantity known after) := by
    unfold ingestStatus
    rw [silent]
    exact ends_bind_of_returned ran (ends_pure whole)
  rw [← state] at whole
  cases status with
  | acknowledged =>
      exact whole.statusUpdate_settles found rfl (by rw [state]; decide) exchangeOrderId
  | rejected => exact whole.statusUpdate_settles found rfl (by rw [state]; decide) exchangeOrderId
  | cancelled =>
      unfold ingestStatus
      refine ends_bind_of_returned ran ?_
      dsimp only
      rw [state, show nextState? .submitted .cancelConfirmed = none by decide]
      dsimp only
      rw [if_neg (by decide)]
      exact ends_raise standing
  | new => exact inert rfl
  | partiallyFilled => exact inert rfl
  | filled => exact inert rfl
  | unknown => exact inert rfl

theorem InDoubt.standing (inDoubt : InDoubt omId order arguments world)
    (undisrupted : Undisrupted report world) :
    Standing omId report order .submitted arguments.quantity 0 [] world := by
  obtain ⟨now, tracked⟩ := inDoubt.tracked
  exact
    { ready := inDoubt.ready
      undisrupted
      tracked := ⟨_, tracked, rfl, rfl, rfl⟩
      fillIds := inDoubt.unfilled }

theorem InDoubt.resyncOrder_settles (inDoubt : InDoubt omId order arguments world)
    (undisrupted : Undisrupted report world) :
    Ends (resyncOrder omId (placeId omId order)) world
      (settles (Option (OrderSnapshot ℚ)) fun after =>
        Standing omId report order
          (match (placementRequest (placeId omId order) arguments).validate with
            | .ok _ => stateAfter report.status
            | .error _ => .submitted)
          arguments.quantity 0 [] after) := by
  obtain ⟨now, tracked⟩ := inDoubt.tracked
  unfold resyncOrder
  have ran : trackedOrder (placeId omId order) world =
      (.returned (submitted omId order arguments now), world) := by
    rw [trackedOrder_eq, tracked]
  refine ends_bind_of_returned ran ?_
  change Ends (ofModel (placementRequest (placeId omId order) arguments).validate >>= _) world _
  cases validated : (placementRequest (placeId omId order) arguments).validate with
  | error error =>
      have refused : (ofModel (.error error) : Operation Stored ℚ Unit) world =
          (.raised (.request error), world) := rfl
      refine ends_bind (fun _ _ => False) ?_ (fun _ _ never => never.elim)
      unfold Ends
      rw [refused]
      exact inDoubt.standing undisrupted
  | ok checked =>
      have passed : (ofModel (.ok checked) : Operation Stored ℚ Unit) world =
          (.returned checked, world) := rfl
      refine ends_bind_of_returned passed ?_
      have consulted : consult world =
          (.returned (world.environment world.clock), world.tick) := by
        rw [consult_eq, undisrupted.alive _ (Nat.le_refl _), if_neg Bool.false_ne_true]
      refine ends_bind_of_returned consulted ?_
      have found : (ofCall (world.environment world.clock).found : Operation Stored ℚ _) world.tick =
          (.returned (some report), world.tick) := by
        rw [undisrupted.finds _ (Nat.le_refl _)]
        rfl
      refine ends_bind_of_returned found ?_
      exact (inDoubt.tick.standing undisrupted.tick).ingestStatus_submitted _ _

/-! ### Runs after the restart -/

theorem System.step_settles (call : Call ℚ) {settled : World Stored ℚ → Prop}
    (ends : Ends (call.operation omId) world (settles Unit settled)) :
    ∃ after, System.step { world, alive := true } (.call call : Step omId Stored ℚ) =
      { world := after, alive := true } ∧ settled after := by
  unfold System.step
  dsimp only
  rw [if_pos rfl]
  unfold Ends at ends
  rcases ran : call.operation omId world with ⟨outcome, after⟩
  rw [ran] at ends
  cases outcome with
  | returned value => exact ⟨after, rfl, ends⟩
  | raised error => exact ⟨after, rfl, ends⟩
  | crashed => exact ends.elim

def reports (omId : String) (order : Nat) (fills : List (Fill ℚ)) : List (Step omId Stored ℚ) :=
  fills.map fun fill => .call (.reportFill (placeId omId order) fill)

omit [Sources Stored ℚ] in
private theorem settles_discard {Value : Type} {process : Operation Stored ℚ Value}
    {settled : World Stored ℚ → Prop} (ends : Ends process world (settles Value settled)) :
    Ends (do let _ ← process) world (settles Unit settled) :=
  ends_bind (fun _ after => settled after) ends fun _ _ after => ends_pure after

private theorem run_reports (kept : List String → ℚ → World Stored ℚ → Prop) (next : ℚ → Fill ℚ → ℚ)
    (step : ∀ known filled world fill, kept known filled world →
      Ends (reportFill omId (placeId omId order) fill) world
        (settles (Option (OrderSnapshot ℚ)) fun after =>
          if fill.fillId ∈ known then kept known filled after
          else kept (addToSet known fill.fillId) (next filled fill) after))
    (fills : List (Fill ℚ)) {known : List String} {filled : ℚ} {world : World Stored ℚ}
    (holds : kept known filled world) :
    ∃ after last, System.run { world, alive := true } (reports omId order fills) =
      { world := after, alive := true } ∧
        kept last ((newFills known fills).foldl next filled) after := by
  induction fills generalizing known filled world with
  | nil => exact ⟨world, known, rfl, holds⟩
  | cons fill fills ih =>
      obtain ⟨after, stepped, ended⟩ := System.step_settles
        (.reportFill (placeId omId order) fill)
        (settles_discard (step known filled world fill holds))
      have runs : System.run { world, alive := true } (reports omId order (fill :: fills)) =
          System.run { world := after, alive := true } (reports omId order fills) := by
        change System.run (System.step _ _) _ = _
        rw [stepped]
        rfl
      rw [runs]
      unfold newFills
      by_cases old : fill.fillId ∈ known
      · rw [if_pos old] at ended ⊢
        exact ih ended
      · rw [if_neg old] at ended ⊢
        exact ih ended

theorem Standing.run_submitted
    (standing : Standing omId report order .submitted quantity filled [] world)
    (fills : List (Fill ℚ)) :
    System.run { world, alive := true } (reports omId order fills) = { world, alive := true } := by
  induction fills with
  | nil => rfl
  | cons fill fills ih =>
      have fresh : fill.fillId ∉ ([] : List String) := List.not_mem_nil
      have refused := standing.reportFill_open rfl fresh
      have illegal : ∀ complete : Prop, [Decidable complete] →
          nextState? .submitted (if complete then .fullFill else .partialFill) = none := by
        intro complete _
        split
        · decide
        · decide
      rw [illegal] at refused
      obtain ⟨after, stepped, rfl⟩ := System.step_settles
        (.reportFill (placeId omId order) fill) (settles_discard refused)
      change System.run (System.step _ _) _ = _
      rw [stepped]
      exact ih

def countOne (quantity filled : ℚ) (fill : Fill ℚ) : ℚ :=
  if quantity ≤ filled then filled else filled + fill.quantity

private theorem foldl_countOne (quantity : ℚ) (fills : List (Fill ℚ)) (filled : ℚ) :
    fills.foldl (countOne quantity) filled = filledBy quantity filled fills := by
  induction fills generalizing filled with
  | nil => rfl
  | cons fill fills ih =>
      rw [List.foldl_cons, ih]
      unfold countOne
      by_cases complete : quantity ≤ filled
      · rw [if_pos complete]
        unfold filledBy
        rw [if_pos complete]
        cases fills with
        | nil => rfl
        | cons second fills => exact if_pos complete
      · rw [if_neg complete]
        conv_rhs => unfold filledBy
        rw [if_neg complete]

def Counts (omId : String) (report : Order ℚ) (order : Nat) (quantity : ℚ) (known : List String)
    (filled : ℚ) (world : World Stored ℚ) : Prop :=
  ∃ state, Standing omId report order state quantity filled known world ∧
    if quantity ≤ filled then state = .filled
    else state = .acknowledged ∨ state = .partiallyFilled

theorem Counts.reportFill (known : List String) (filled : ℚ) (world : World Stored ℚ)
    (fill : Fill ℚ) (counts : Counts omId report order quantity known filled world) :
    Ends (reportFill omId (placeId omId order) fill) world
      (settles (Option (OrderSnapshot ℚ)) fun after =>
        if fill.fillId ∈ known then Counts omId report order quantity known filled after
        else Counts omId report order quantity (addToSet known fill.fillId)
          (countOne quantity filled fill) after) := by
  obtain ⟨state, standing, stage⟩ := counts
  by_cases old : fill.fillId ∈ known
  · simp only [if_pos old]
    exact (standing.reportFill_known old).mono (fun _ _ same => ⟨state, same, stage⟩)
      (fun _ _ same => ⟨state, same, stage⟩) (fun _ never => never)
  · simp only [if_neg old]
    unfold countOne
    by_cases complete : quantity ≤ filled
    · have closed : isTerminal state = true := by
        rw [if_pos complete] at stage
        rw [stage]
        decide
      rw [if_pos complete]
      exact (standing.reportFill_closed closed old).mono (fun _ _ same => ⟨state, same, stage⟩)
        (fun _ _ same => ⟨state, same, stage⟩) (fun _ never => never)
    · rw [if_neg complete] at stage ⊢
      have isOpen : isTerminal state = false := by
        rcases stage with rfl | rfl
        · decide
        · decide
      have legal : nextState? state
          (if quantity ≤ filled + fill.quantity then .fullFill else .partialFill) =
          some (if quantity ≤ filled + fill.quantity then .filled else .partiallyFilled) := by
        rcases stage with rfl | rfl
        · split
          · decide
          · decide
        · split
          · decide
          · decide
      have counted := standing.reportFill_open isOpen old
      rw [legal] at counted
      have reached : ∀ after : World Stored ℚ, Standing omId report order
          (if quantity ≤ filled + fill.quantity then .filled else .partiallyFilled) quantity
          (filled + fill.quantity) (addToSet known fill.fillId) after →
          Counts omId report order quantity (addToSet known fill.fillId) (filled + fill.quantity)
            after := by
        intro after same
        refine ⟨_, same, ?_⟩
        by_cases full : quantity ≤ filled + fill.quantity
        · rw [if_pos full, if_pos full]
        · rw [if_neg full, if_neg full]
          exact Or.inr rfl
      exact counted.mono (fun _ after same => reached after same)
        (fun _ after same => reached after same) (fun _ never => never)

theorem Standing.reportFill_stays (closed : isTerminal state = true) (known : List String)
    (filled : ℚ) (world : World Stored ℚ) (fill : Fill ℚ)
    (standing : Standing omId report order state quantity filled known world) :
    Ends (OrderManager.reportFill omId (placeId omId order) fill) world
      (settles (Option (OrderSnapshot ℚ)) fun after =>
        if fill.fillId ∈ known then Standing omId report order state quantity filled known after
        else Standing omId report order state quantity filled (addToSet known fill.fillId) after) := by
  by_cases old : fill.fillId ∈ known
  · simp only [if_pos old]
    exact standing.reportFill_known old
  · simp only [if_neg old]
    exact standing.reportFill_closed closed old

/-! ### Recovery -/

/-- A restart, and one resync among the reports of the venue's fills. -/
def recovery (omId : String) (order : Nat) (machine : ExecutionStateMachine.Machine)
    (early late : List (Fill ℚ)) : List (Step omId Stored ℚ) :=
  .restart machine :: reports omId order early ++
    .call (.resync (placeId omId order)) :: reports omId order late

/-- The order is not in doubt, and what is filled is the sum of the venue's fills. -/
def Resolved (omId : String) (order : Nat) (venue : VenueFills) (memory : Memory ℚ) : Prop :=
  ∃ snapshot, memory.snapshots.get? (placeId omId order) = some snapshot ∧
    snapshot.lifecycleState ≠ .submitted ∧ snapshot.filledQuantity = total venue.fills

/-- The venue calls the order open and no fill is lost, or it calls the order
rejected and there are no fills. -/
def Resolvable (request : OrderRequest ℚ) (status : OrderStatus) (venue : VenueFills)
    (late : List (Fill ℚ)) : Prop :=
  request.validate = .ok () ∧
    ((status = .acknowledged ∧ total (venue.unreported late) +
        total (afterComplete request.quantity 0 (newFills [] late)) = 0) ∨
      (status = .rejected ∧ total venue.fills = 0))

theorem InDoubt.restart (inDoubt : InDoubt omId order arguments world)
    (machine : ExecutionStateMachine.Machine) :
    ∃ rebuilt, System.step { world, alive := false } (.restart machine : Step omId Stored ℚ) =
        { world := { world with memory := rebuilt, machine }, alive := true } ∧
      InDoubt omId order arguments { world with memory := rebuilt, machine } := by
  obtain ⟨rebuilt, replays, agrees⟩ := inDoubt.ready.reachable.consistent.replays
  have constructed : construct omId world.log = .ok rebuilt := replays.constructed
  obtain ⟨now, tracked⟩ := inDoubt.tracked
  refine ⟨rebuilt, ?_,
    { ready := inDoubt.ready.move (.restart world.core rebuilt constructed) rfl
      tracked := ⟨now, ?_⟩
      unfilled := ?_ }⟩
  · unfold System.step
    rw [constructed]
  · change rebuilt.snapshots.get? _ = _
    rw [agrees.snapshots]
    exact tracked
  · change rebuilt.fillIds _ = []
    rcases agrees.fillIds (placeId omId order) with same | ⟨existing, found, terminal⟩
    · rw [same]
      exact inDoubt.unfilled
    · change world.memory.snapshots.get? _ = _ at found
      rw [tracked] at found
      cases found
      cases terminal

private theorem not_resolved_of_submitted {venue : VenueFills}
    (standing : Standing omId report order .submitted quantity filled known world) :
    ¬ Resolved omId order venue world.memory := by
  rintro ⟨snapshot, found, answered, _⟩
  obtain ⟨existing, tracked, state, _⟩ := standing.tracked
  rw [tracked] at found
  cases found
  exact answered state

private theorem resolved_iff_of_standing {venue : VenueFills}
    (standing : Standing omId report order state quantity filled known world)
    (answered : state ≠ .submitted) :
    Resolved omId order venue world.memory ↔ filled = total venue.fills := by
  obtain ⟨existing, tracked, rfl, _, rfl⟩ := standing.tracked
  constructor
  · rintro ⟨snapshot, found, _, sum⟩
    rw [tracked] at found
    cases found
    exact sum
  · exact fun sum => ⟨existing, tracked, answered, sum⟩

private theorem positive_of_validate {request : OrderRequest ℚ}
    (validated : request.validate = .ok ()) :
    ¬ request.quantity ≤ 0 := by
  intro small
  have refused : requirePositive "quantity must be a positive Decimal" request.quantity =
      .error (.valueError "quantity must be a positive Decimal") := by
    have compared : Arithmetic.le request.quantity Arithmetic.zero = .ok true :=
      congrArg Except.ok (decide_eq_true small)
    unfold requirePositive
    rw [compared]
  unfold OrderRequest.validate at validated
  rw [refused] at validated
  cases named : requireText "client_order_id" request.clientOrderId with
  | error error =>
      rw [named] at validated
      cases validated
  | ok checked =>
      rw [named] at validated
      cases validated

theorem Standing.late_resolves {request : OrderRequest ℚ}
    (standing : Standing omId report order
      (match request.validate with
        | .ok _ => stateAfter report.status
        | .error _ => .submitted) request.quantity 0 [] world)
    (venue : VenueFills) {late : List (Fill ℚ)} (reported : late ⊆ venue.fills) :
    Resolved omId order venue
        (System.run { world, alive := true } (reports omId order late)).world.memory ↔
      Resolvable request report.status venue late := by
  have stuck (submitted : Standing omId report order .submitted request.quantity 0 [] world)
      (refused : ¬ Resolvable request report.status venue late) :
      Resolved omId order venue
          (System.run { world, alive := true } (reports omId order late)).world.memory ↔
        Resolvable request report.status venue late := by
    rw [submitted.run_submitted late]
    exact iff_of_false (not_resolved_of_submitted submitted) refused
  cases validated : request.validate with
  | error error =>
      rw [validated] at standing
      refine stuck standing ?_
      rintro ⟨passed, _⟩
      rw [validated] at passed
      cases passed
  | ok checked =>
      rw [validated] at standing
      dsimp only at standing
      by_cases isOpen : report.status = .acknowledged
      · rw [isOpen] at standing ⊢
        have counts : Counts omId report order request.quantity [] 0 world := by
          refine ⟨_, standing, ?_⟩
          rw [if_neg (positive_of_validate validated)]
          exact Or.inl rfl
        obtain ⟨after, last, ran, state, ended, stage⟩ := run_reports
          (Counts omId report order request.quantity) (countOne request.quantity)
          Counts.reportFill late counts
        have answered : state ≠ .submitted := by
          rintro rfl
          split at stage
          · cases stage
          · rcases stage with never | never
            · cases never
            · cases never
        rw [ran, resolved_iff_of_standing ended answered, foldl_countOne]
        have sum := filledBy_add_total request.quantity (newFills [] late) 0
        have split := venue.total_eq reported
        constructor
        · intro whole
          refine ⟨validated, Or.inl ⟨rfl, ?_⟩⟩
          linarith
        · rintro ⟨_, ⟨_, none⟩ | ⟨never, _⟩⟩
          · linarith
          · cases never
      by_cases isRejected : report.status = .rejected
      · rw [isRejected] at standing ⊢
        obtain ⟨after, last, ran, ended⟩ := run_reports
          (fun known filled world => Standing omId report order .rejected request.quantity filled
            known world) (fun filled _ => filled) (Standing.reportFill_stays rfl) late standing
        have unchanged : (newFills [] late).foldl (fun filled _ => filled) (0 : ℚ) = 0 :=
          List.foldl_fixed _
        rw [unchanged] at ended
        rw [ran, resolved_iff_of_standing ended (by decide)]
        constructor
        · exact fun whole => ⟨validated, Or.inr ⟨rfl, whole.symm⟩⟩
        · rintro ⟨_, ⟨never, _⟩ | ⟨_, none⟩⟩
          · cases never
          · exact none.symm
      · rw [stateAfter_eq_submitted isOpen isRejected] at standing
        refine stuck standing ?_
        rintro ⟨_, ⟨opened, _⟩ | ⟨rejected, _⟩⟩
        · exact isOpen opened
        · exact isRejected rejected

/-- The recovery of an order in doubt resolves it exactly when the venue calls the
order open and no fill is lost, or calls it rejected and has no fills. -/
theorem InDoubt.recovery_resolves (inDoubt : InDoubt omId order arguments world)
    (undisrupted : Undisrupted report world) (machine : ExecutionStateMachine.Machine)
    (venue : VenueFills) {early late : List (Fill ℚ)} (reported : late ⊆ venue.fills) :
    Resolved omId order venue
        (System.run { world, alive := false } (recovery omId order machine early late)).world.memory ↔
      Resolvable (placementRequest (placeId omId order) arguments) report.status venue late := by
  obtain ⟨rebuilt, restarted, recovered⟩ := inDoubt.restart machine
  have undisruptedAfter : Undisrupted report { world with memory := rebuilt, machine } :=
    { alive := undisrupted.alive, stores := undisrupted.stores, finds := undisrupted.finds }
  obtain ⟨resynced, stepped, standing⟩ := System.step_settles
    (.resync (placeId omId order))
    (settles_discard (recovered.resyncOrder_settles undisruptedAfter))
  have runs : System.run { world, alive := false } (recovery omId order machine early late) =
      System.run { world := resynced, alive := true } (reports omId order late) := by
    unfold recovery
    rw [System.run, List.foldl_append]
    change System.run (System.run (System.step _ (.restart machine)) (reports omId order early))
      (_ :: _) = _
    rw [restarted, (recovered.standing undisruptedAfter).run_submitted early]
    change System.run (System.step _ _) _ = _
    rw [stepped]
  rw [runs]
  exact Standing.late_resolves standing venue reported

/-- A call of `place_order` that the process does not survive leaves the order in
doubt, if its event is durable and the venue's answer is not recorded. -/
theorem Ready.place_inDoubt (ready : Ready (Watch.plain False omId) world)
    (arguments : PlaceArguments ℚ)
    (dies : (System.step { world, alive := true }
      (.call (.place arguments) : Step omId Stored ℚ)).alive = false) :
    let dead := System.step { world, alive := true } (.call (.place arguments) : Step omId Stored ℚ)
    InLog omId dead.world.log (.submit world.memory.nextSeq) →
      ¬ AnswerRecorded omId dead.world.log world.memory.nextSeq →
      dead = { world := dead.world, alive := false } ∧
        InDoubt omId world.memory.nextSeq arguments dead.world := by
  have ends : Ends ((Call.place arguments).operation omId) world
      (diesInDoubt Unit omId world.memory.nextSeq arguments) :=
    ends_bind (fun _ _ => True) (placeOrder_dies ready arguments) fun _ _ _ => ends_pure trivial
  unfold System.step at dies ⊢
  dsimp only at dies ⊢
  rw [if_pos rfl] at dies ⊢
  unfold Ends at ends
  rcases ran : (Call.place arguments).operation omId world with ⟨outcome, after⟩
  rw [ran] at ends dies
  cases outcome with
  | returned value => cases dies
  | raised error => cases dies
  | crashed => exact fun logged unanswered => ⟨rfl, ends logged unanswered⟩

/-- Whenever the process dies in a call of `place_order` after the order's event is
durable and before the venue's answer is recorded, the recovery resolves the
order exactly when it is resolvable. -/
theorem run_resolves {memory : Memory ℚ}
    (constructed : construct omId (Ledger.empty : Log Stored) = .ok memory)
    (machine restarted : ExecutionStateMachine.Machine) (environment : Nat → Answer ℚ)
    (steps : List (Step omId Stored ℚ)) (arguments : PlaceArguments ℚ) (report : Order ℚ)
    (venue : VenueFills) (early late : List (Fill ℚ))
    (reported : ∀ fill, fill ∈ venue.fills ↔ fill ∈ early ∨ fill ∈ late) :
    let before := (System.start memory machine environment : System Stored ℚ).run steps
    let dead := before.step (.call (.place arguments) : Step omId Stored ℚ)
    let order := before.world.memory.nextSeq
    before.alive = true → dead.alive = false → InLog omId dead.world.log (.submit order) →
      ¬ AnswerRecorded omId dead.world.log order → Undisrupted report dead.world →
      (Resolved omId order venue
          (dead.run (recovery omId order restarted early late)).world.memory ↔
        Resolvable (placementRequest (placeId omId order) arguments) report.status venue late) := by
  intro before dead order alive dies logged unanswered undisrupted
  have ready : Ready (Watch.plain False omId) before.world :=
    ((System.start_sound constructed machine fun impossible => impossible.elim).run steps).ready alive
  have isAlive : before = { world := before.world, alive := true } := by
    rw [← alive]
  have diedFrom : dead = System.step { world := before.world, alive := true }
      (.call (.place arguments) : Step omId Stored ℚ) := by
    rw [← isAlive]
  rw [diedFrom] at dies logged unanswered undisrupted ⊢
  obtain ⟨isDead, inDoubt⟩ := ready.place_inDoubt arguments dies logged unanswered
  rw [isDead]
  exact inDoubt.recovery_resolves undisrupted restarted venue fun fill member =>
    (reported fill).mpr (Or.inr member)

def filledReport : Order ℚ :=
  { acknowledgedOrder "main" 2 with
    exchangeOrderId := some "77"
    filledQuantity := 2
    status := .filled }

def wholeFill : Fill ℚ := { fillOf "f1" 2 with exchangeOrderId := "77" }

def wholeVenue : VenueFills := { fills := [wholeFill], distinct := List.nodup_singleton _ }

/-- The process dies after the order's event; later the venue finds the order. -/
def findingEnvironment : Nat → Answer ℚ := fun tick =>
  { dyingEnvironment 1 tick with found := .ok (some filledReport) }

def deadPlace : System OrderStored ℚ :=
  (System.start Memory.initial freshMachine findingEnvironment).step
      (.call (.place marketBuy) : Step "main" OrderStored ℚ)

private theorem deadPlace_unanswered : ¬ AnswerRecorded "main" deadPlace.world.log 1 := by
  have only : ∀ key : MutationKey, InLog "main" deadPlace.world.log key → key = .submit 1 := by
    rintro key ⟨event, member, keyed⟩
    have first : event.idempotencyKey =
        some (namespacedKey "main" ((MutationKey.submit 1).text "main")) := by
      rw [List.mem_singleton.mp member]
      rfl
    rw [first] at keyed
    exact (MutationKey.text_injective (namespacedKey_injective (Option.some.inj keyed))).symm
  rintro (failed | ⟨trigger, answered⟩)
  · cases only _ failed
  · cases only _ answered

private theorem deadPlace_undisrupted : Undisrupted filledReport deadPlace.world :=
  { alive := fun tick later => decide_eq_false (by
      have past : 2 ≤ tick := later
      omega)
    stores := fun _ _ => rfl
    finds := fun _ _ => rfl }

theorem run_resolves_deadPlace :
    let final := deadPlace.run (recovery "main" 1 freshMachine
      [] [wholeFill])
    Resolved "main" 1 wholeVenue final.world.memory ↔
      Resolvable (placementRequest (placeId "main" 1) marketBuy) .filled wholeVenue [wholeFill] :=
  run_resolves rfl freshMachine _ findingEnvironment []
    marketBuy filledReport wholeVenue [] [wholeFill] (fun fill => by simp [wholeVenue]) rfl rfl
    ⟨_, List.mem_singleton_self _, rfl⟩ deadPlace_unanswered deadPlace_undisrupted

/-- The order that filled before the crash stays submitted. -/
theorem deadPlace_notResolved :
    let final := deadPlace.run (recovery "main" 1 freshMachine
      [] [wholeFill])
    deadPlace.alive = false ∧ InLog "main" deadPlace.world.log (.submit 1) ∧
      ¬ AnswerRecorded "main" deadPlace.world.log 1 ∧ Undisrupted filledReport deadPlace.world ∧
      ¬ Resolved "main" 1 wholeVenue final.world.memory := by
  intro final
  refine ⟨rfl, ⟨_, List.mem_singleton_self _, rfl⟩, deadPlace_unanswered, deadPlace_undisrupted, ?_⟩
  have started : Ready (Watch.plain False "main")
      (System.start Memory.initial freshMachine findingEnvironment :
        System OrderStored ℚ).world :=
    (System.start_sound rfl _ fun impossible => impossible.elim).ready rfl
  obtain ⟨isDead, inDoubt⟩ := started.place_inDoubt marketBuy rfl ⟨_, List.mem_singleton_self _, rfl⟩
    deadPlace_unanswered
  intro resolved
  obtain ⟨_, ⟨never, _⟩ | ⟨never, _⟩⟩ := (InDoubt.recovery_resolves inDoubt deadPlace_undisrupted
    freshMachine wholeVenue (List.Subset.refl _)).mp resolved
  · cases never
  · cases never

end

end TurtleExecution.OrderManager

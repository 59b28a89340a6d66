/-
What an order manager does to a store that it shares.

The log grows by events of the manager only, and the machine is moved by its own calls,
so a property of the two that these keep outlives every operation.
-/

import TurtleExecution.OrderManager.Operations

set_option autoImplicit false

namespace TurtleExecution.OrderManager

open ExchangeAdapter SharedStore Process

section

variable {Number Stored : Type} [Sources Stored Number]

def World.shared (world : World Stored Number) : Log Stored × ExecutionStateMachine.Machine :=
  (world.log, world.machine)

/-- The property is kept by the appends of an order manager and by the calls of the machine. -/
structure Unaffected (Number : Type) [Sources Stored Number] (omId : String)
    (kept : Log Stored × ExecutionStateMachine.Machine → Prop) : Prop where
  own : ∀ log machine eventType (payload : Payload Number) key now, kept (log, machine) →
    kept ((log.append eventType (Source.wrap payload) (some (namespacedKey omId key)) now).2, machine)
  machine : ∀ log machine call, kept (log, machine) →
    kept (ExecutionStateMachine.transition log machine call).2

variable {omId : String} {kept : Log Stored × ExecutionStateMachine.Machine → Prop}

variable (Number) in
abbrev KeepsShared {Value : Type} (kept : Log Stored × ExecutionStateMachine.Machine → Prop)
    (operation : Operation Stored Number Value) : Prop :=
  Keeps (fun world : World Stored Number => kept world.shared) operation

omit [Sources Stored Number] in
private theorem preserves_consult_shared :
    Preserves World.shared (consult : Operation Stored Number (Answer Number)) := by
  intro world
  rw [consult_eq]
  split
  · rfl
  · rfl

omit [Sources Stored Number] in
private theorem preserves_mutate_shared {Value : Type} (request : Request Number)
    (result : Answer Number → Except CallError Value) :
    Preserves World.shared (mutate request result : Operation Stored Number Value) := by
  refine preserves_bind ?_ fun answer => preserves_ofCall _ _
  exact preserves_bind preserves_consult_shared fun answer =>
    preserves_bind (preserves_modify fun _ => rfl) fun _ => preserves_pure _ _

omit [Sources Stored Number] in
private theorem preserves_nextId_shared (omId suffix : String) :
    Preserves World.shared (nextId omId suffix : Operation Stored Number (Nat × String)) :=
  preserves_nextId (fun _ _ => rfl) omId suffix

private theorem keeps_driveExecutionSm (unaffected : Unaffected Number omId kept)
    (clientOrderId : String)
    (trigger : OrderLifecycleTrigger) (fromState : OrderLifecycleState) (unfilled : Bool) :
    KeepsShared Number kept (driveExecutionSm clientOrderId trigger fromState unfilled) := by
  intro world holds
  rw [driveExecutionSm_eq]
  cases executionTrigger? trigger fromState unfilled with
  | none => exact holds
  | some executionTrigger =>
      dsimp only
      cases (world.environment world.clock).crash with
      | true => exact holds
      | false =>
          exact (preserves_exceptIllegal World.shared _).keeps kept _ (unaffected.machine _ _ _ holds)

variable [Arithmetic Number]

private theorem keeps_persistAndApply (unaffected : Unaffected Number omId kept)
    (payload : Payload Number)
    (idempotencyKey : String) :
    KeepsShared Number kept (persistAndApply omId payload idempotencyKey) := by
  refine keeps_bind ?_ fun event => (preserves_applyPersisted (fun _ _ => rfl) event).keeps kept
  refine keeps_bind (preserves_consult_shared.keeps kept) fun answer => ?_
  cases answer.appendFailure with
  | some failure => exact keeps_raise _ _
  | none =>
      intro world holds
      exact unaffected.own world.log _ _ payload idempotencyKey answer.now holds

private theorem keeps_ingestStatus (unaffected : Unaffected Number omId kept) (clientOrderId : String)
    (status : OrderStatus) (exchangeOrderId : Option String) :
    KeepsShared Number kept (ingestStatus omId clientOrderId status exchangeOrderId) := by
  unfold ingestStatus
  cases statusToTrigger? status with
  | none => exact keeps_bind ((preserves_snapshotOf _ _).keeps kept) fun _ => keeps_pure _ _
  | some trigger =>
      refine keeps_bind ((preserves_snapshotOf _ _).keeps kept) fun existing => ?_
      dsimp only
      cases nextState? existing.lifecycleState trigger with
      | none =>
          dsimp only
          split
          · exact keeps_pure _ _
          · exact keeps_raise _ _
      | some toState =>
          exact keeps_bind (keeps_persistAndApply unaffected _ _) fun _ =>
            keeps_bind (keeps_driveExecutionSm unaffected _ _ _ _) fun _ => keeps_pure _ _

private theorem keeps_recordFailure (unaffected : Unaffected Number omId kept)
    (clientOrderId : String)
    (trigger : OrderLifecycleTrigger) (message idempotencyKey : String) :
    KeepsShared Number kept (recordFailure omId clientOrderId trigger message idempotencyKey) := by
  refine keeps_bind ((preserves_snapshotOf _ _).keeps kept) fun existing => ?_
  dsimp only
  cases nextState? existing.lifecycleState trigger with
  | none => exact keeps_pure _ _
  | some toState =>
      exact keeps_bind (keeps_persistAndApply unaffected _ _) fun _ => keeps_pure _ _

omit [Sources Stored Number] [Arithmetic Number] in
private theorem keeps_onAdapterError {Value : Type} {record : String → Operation Stored Number Unit}
    (keeps : ∀ message, KeepsShared Number kept (record message))
    (error : OrderManagerError) :
    KeepsShared Number kept (onAdapterError record error : Operation Stored Number Value) := by
  unfold onAdapterError
  split
  · exact keeps_bind (keeps _) fun _ => keeps_raise _ _
  · exact keeps_raise _ _

theorem keeps_placeOrder (unaffected : Unaffected Number omId kept)
    (arguments : PlaceArguments Number) :
    KeepsShared Number kept (placeOrder omId arguments) := by
  refine keeps_bind ((preserves_nextId_shared omId "place").keeps kept) ?_
  rintro ⟨seq, clientOrderId⟩
  refine keeps_bind (keeps_persistAndApply unaffected _ _) fun _ =>
    keeps_bind (keeps_driveExecutionSm unaffected _ _ _ _) fun _ =>
      keeps_bind ((preserves_ofModel _ _).keeps kept) fun _ => keeps_bind ?_ fun order => ?_
  · exact keeps_tryCatch ((preserves_mutate_shared _ _).keeps kept) fun error =>
      keeps_onAdapterError (fun message => keeps_recordFailure unaffected _ _ message _) error
  · split
    · exact keeps_ingestStatus unaffected _ _ _
    · exact keeps_ingestStatus unaffected _ _ _

private theorem keeps_amendOrder (unaffected : Unaffected Number omId kept) (clientOrderId : String)
    (newQuantity newLimitPrice : Option Number) :
    KeepsShared Number kept (amendOrder omId clientOrderId newQuantity newLimitPrice) := by
  unfold amendOrder
  split
  · exact keeps_raise _ _
  refine keeps_bind ((preserves_trackedOrder _ _).keeps kept) fun existing => ?_
  split
  · exact keeps_raise _ _
  split
  · exact keeps_raise _ _
  refine keeps_bind ((preserves_nextId_shared omId "amend").keeps kept) ?_
  rintro ⟨seq, requestId⟩
  exact keeps_bind (keeps_persistAndApply unaffected _ _) fun _ =>
    keeps_bind ((preserves_ofModel _ _).keeps kept) fun _ =>
      keeps_bind ((preserves_mutate_shared _ _).keeps kept) fun _ =>
        keeps_persistAndApply unaffected _ _

private theorem keeps_cancelOrder (unaffected : Unaffected Number omId kept)
    (clientOrderId : String) :
    KeepsShared Number kept (cancelOrder omId clientOrderId) := by
  refine keeps_bind ((preserves_trackedOrder _ _).keeps kept) fun existing => ?_
  dsimp only
  split
  · exact keeps_pure _ _
  split
  · exact keeps_raise _ _
  split
  · exact keeps_raise _ _
  refine keeps_bind ((preserves_nextId_shared omId "cancel").keeps kept) ?_
  rintro ⟨seq, requestId⟩
  refine keeps_bind (keeps_persistAndApply unaffected _ _) fun _ =>
    keeps_bind ((preserves_ofModel _ _).keeps kept) fun _ =>
      keeps_bind ?_ fun order => keeps_ingestStatus unaffected _ _ _
  exact keeps_tryCatch ((preserves_mutate_shared _ _).keeps kept) fun error =>
    keeps_onAdapterError (fun message => keeps_recordFailure unaffected _ _ message _) error

private theorem keeps_confirmCancelled (unaffected : Unaffected Number omId kept) (requestId : String)
    (order : Order Number) :
    KeepsShared Number kept (confirmCancelled omId requestId order) := by
  unfold confirmCancelled
  split
  · exact keeps_raise _ _
  · exact keeps_bind (keeps_persistAndApply unaffected _ _) fun _ =>
      keeps_bind (keeps_driveExecutionSm unaffected _ _ _ _) fun _ => keeps_pure _ _

private theorem keeps_cancelAllTurn (unaffected : Unaffected Number omId kept) (requestId : String)
    (order : Order Number) :
    KeepsShared Number kept (cancelAllTurn omId requestId order) := by
  refine keeps_bind ((preserves_memory _).keeps kept) fun memory => ?_
  cases memory.snapshots.get? order.clientOrderId with
  | none => exact keeps_pure _ _
  | some existing =>
      dsimp only
      split
      · split
        · exact keeps_raise _ _
        refine keeps_bind (keeps_persistAndApply unaffected _ _) fun _ => ?_
        split
        · exact keeps_confirmCancelled unaffected requestId order
        · exact keeps_pure _ _
      split
      · exact keeps_confirmCancelled unaffected requestId order
      · exact keeps_pure _ _

private theorem keeps_cancelAllTurns (unaffected : Unaffected Number omId kept) (requestId : String)
    (orders : List (Order Number)) :
    KeepsShared Number kept (cancelAllTurns omId requestId orders) := by
  induction orders with
  | nil => exact keeps_pure _ _
  | cons order orders ih =>
      exact keeps_bind (keeps_cancelAllTurn unaffected requestId order) fun _ =>
        keeps_bind ih fun _ => keeps_pure _ _

theorem keeps_cancelAll (unaffected : Unaffected Number omId kept) (symbol : Option Symbol) :
    KeepsShared Number kept (cancelAll omId symbol) := by
  refine keeps_bind ((preserves_nextId_shared omId "cancel_all").keeps kept) ?_
  rintro ⟨seq, requestId⟩
  exact keeps_bind (keeps_persistAndApply unaffected _ _) fun _ =>
    keeps_bind ((preserves_ofModel _ _).keeps kept) fun _ =>
      keeps_bind ((preserves_mutate_shared _ _).keeps kept) fun _ =>
        keeps_cancelAllTurns unaffected requestId _

theorem keeps_reportFill (unaffected : Unaffected Number omId kept) (clientOrderId : String)
    (fill : Fill Number) :
    KeepsShared Number kept (reportFill omId clientOrderId fill) := by
  refine keeps_bind ((preserves_trackedOrder _ _).keeps kept) fun existing =>
    keeps_bind ((preserves_memory _).keeps kept) fun memory => ?_
  split
  · exact keeps_pure _ _
  split
  · exact keeps_bind ((preserves_setMemory (fun _ _ => rfl) _).keeps kept) fun _ => keeps_pure _ _
  refine keeps_bind (keeps_ofExcept _ _) fun newFilled =>
    keeps_bind (keeps_ofExcept _ _) fun trigger => ?_
  dsimp only
  cases nextState? existing.lifecycleState trigger with
  | none => exact keeps_raise _ _
  | some toState =>
      exact keeps_bind (keeps_persistAndApply unaffected _ _) fun _ =>
        keeps_bind (keeps_driveExecutionSm unaffected _ _ _ _) fun _ => keeps_pure _ _

private theorem keeps_resyncOrder (unaffected : Unaffected Number omId kept)
    (clientOrderId : String) :
    KeepsShared Number kept (resyncOrder omId clientOrderId) := by
  refine keeps_bind ((preserves_trackedOrder _ _).keeps kept) fun existing => ?_
  dsimp only
  split
  · refine keeps_bind ((preserves_ofModel _ _).keeps kept) fun _ =>
      keeps_bind (preserves_consult_shared.keeps kept) fun answer =>
        keeps_bind ((preserves_ofCall _ _).keeps kept) fun found => ?_
    cases found with
    | none => exact keeps_pure _ _
    | some order => exact keeps_ingestStatus unaffected _ _ _
  · exact keeps_bind (preserves_consult_shared.keeps kept) fun answer =>
      keeps_bind ((preserves_ofCall _ _).keeps kept) fun order =>
        keeps_ingestStatus unaffected _ _ _

theorem Call.keeps_operation (unaffected : Unaffected Number omId kept) (call : Call Number) :
    KeepsShared Number kept (call.operation omId) := by
  cases call with
  | place arguments =>
      exact keeps_bind (keeps_placeOrder unaffected arguments) fun _ => keeps_pure _ _
  | amend clientOrderId newQuantity newLimitPrice =>
      exact keeps_bind (keeps_amendOrder unaffected clientOrderId newQuantity newLimitPrice)
        fun _ => keeps_pure _ _
  | cancel clientOrderId =>
      exact keeps_bind (keeps_cancelOrder unaffected clientOrderId) fun _ => keeps_pure _ _
  | cancelAll symbol =>
      exact keeps_bind (keeps_cancelAll unaffected symbol) fun _ => keeps_pure _ _
  | reportFill clientOrderId fill =>
      exact keeps_bind (keeps_reportFill unaffected clientOrderId fill) fun _ => keeps_pure _ _
  | reportOrderUpdate clientOrderId order =>
      refine keeps_bind ?_ fun _ => keeps_pure _ _
      exact keeps_bind ((preserves_trackedOrder _ _).keeps kept) fun _ =>
        keeps_ingestStatus unaffected _ _ _
  | resync clientOrderId =>
      exact keeps_bind (keeps_resyncOrder unaffected clientOrderId) fun _ => keeps_pure _ _

end

end TurtleExecution.OrderManager

/-
What the parts of an operation leave as it is, whatever the environment answers.
-/

import TurtleExecution.OrderManager.Effects

set_option autoImplicit false

namespace TurtleExecution.OrderManager

open ExchangeAdapter SharedStore Process

section

variable {Number Stored : Type}

def World.setting (world : World Stored Number) : (Nat → Answer Number) × Nat :=
  (world.environment, world.clock)

private theorem preserves_consult_handed :
    Preserves World.handed (consult : Operation Stored Number (Answer Number)) := by
  intro world
  rw [consult_eq]
  split
  · rfl
  · rfl

theorem preserves_memory {View : Type} (view : World Stored Number → View) :
    Preserves view (memory : Operation Stored Number (Memory Number)) :=
  preserves_bind (preserves_get view) fun _ => preserves_pure view _

theorem preserves_setMemory {View : Type} {view : World Stored Number → View}
    (kept : ∀ (world : World Stored Number) (memory : Memory Number),
      view { world with memory } = view world) (memory : Memory Number) :
    Preserves view (setMemory memory : Operation Stored Number Unit) :=
  preserves_modify fun world => kept world memory

theorem preserves_snapshotOf {View : Type} (view : World Stored Number → View)
    (clientOrderId : String) :
    Preserves view (snapshotOf clientOrderId : Operation Stored Number (OrderSnapshot Number)) :=
  preserves_bind (preserves_memory view) fun _ => preserves_ofExcept view _

theorem preserves_trackedOrder {View : Type} (view : World Stored Number → View)
    (clientOrderId : String) :
    Preserves view (trackedOrder clientOrderId : Operation Stored Number (OrderSnapshot Number)) := by
  refine preserves_bind (preserves_memory view) fun memory => ?_
  cases memory.snapshots.get? clientOrderId with
  | none => exact preserves_raise view _
  | some existing => exact preserves_pure view existing

theorem preserves_nextId {View : Type} {view : World Stored Number → View}
    (kept : ∀ (world : World Stored Number) (memory : Memory Number),
      view { world with memory } = view world) (omId suffix : String) :
    Preserves view (nextId omId suffix : Operation Stored Number (Nat × String)) :=
  preserves_bind (preserves_memory view) fun _ =>
    preserves_bind (preserves_setMemory kept _) fun _ => preserves_pure view _

theorem preserves_ofModel {View : Type} (view : World Stored Number → View)
    (result : Except ModelError Unit) : Preserves view (ofModel result : Operation Stored Number Unit) :=
  preserves_ofExcept view _

theorem preserves_ofCall {Value View : Type} (view : World Stored Number → View)
    (result : Except CallError Value) : Preserves view (ofCall result : Operation Stored Number Value) :=
  preserves_ofExcept view _

private theorem setting_of_consult {Value : Type}
    {next : Answer Number → Operation Stored Number Value}
    (silent : ∀ answer, Preserves World.setting (next answer)) (world : World Stored Number) :
    ((consult >>= next) world).2.setting = (world.environment, world.clock + 1) := by
  change (Process.bind consult next world).2.setting = _
  unfold Process.bind
  rw [consult_eq]
  cases (world.environment world.clock).crash with
  | true => rfl
  | false => exact silent _ world.tick

theorem preserves_onAdapterError {Value View : Type} {view : World Stored Number → View}
    {record : String → Operation Stored Number Unit} (kept : ∀ message, Preserves view (record message))
    (error : OrderManagerError) :
    Preserves view (onAdapterError record error : Operation Stored Number Value) := by
  unfold onAdapterError
  split
  · exact preserves_bind (kept _) fun _ => preserves_raise view _
  · exact preserves_raise view _

theorem mutate_answers {Value : Type} (request : Request Number)
    (result : Answer Number → Except CallError Value) (world : World Stored Number) :
    Ends (mutate request result) world
      { returned := fun value _ => result (world.environment world.clock) = .ok value
        raised := fun error _ => ∃ raised, result (world.environment world.clock) = .error raised ∧
          error = .call raised
        crashed := fun dead => dead = world.tick } := by
  refine ends_bind (fun answer _ => answer = world.environment world.clock) ?_ ?_
  · unfold Ends
    change Post.Holds _ (Process.bind consult _ world)
    unfold Process.bind
    rw [consult_eq]
    cases (world.environment world.clock).crash with
    | true => rfl
    | false => rfl
  · rintro answer after rfl
    unfold ofCall
    cases answered : result (world.environment world.clock) with
    | ok value => exact ends_pure rfl
    | error error => exact ends_raise ⟨error, rfl, rfl⟩

def HandsOnly {Value : Type} (allowed : Request Number → Prop)
    (process : Operation Stored Number Value) : Prop :=
  ∀ world, ∃ sent, (process world).2.handed = world.handed ++ sent ∧
    ∀ handed ∈ sent, allowed handed.request

variable {Value Next : Type} {allowed : Request Number → Prop}
  {process : Operation Stored Number Value} {next : Value → Operation Stored Number Next}

theorem handsOnly_of_preserves (allowed : Request Number → Prop)
    (kept : Preserves World.handed process) : HandsOnly allowed process :=
  fun world => ⟨[], (kept world).trans (List.append_nil _).symm,
    fun _ member => (List.not_mem_nil member).elim⟩

theorem handsOnly_bind (first : HandsOnly allowed process)
    (second : ∀ value, HandsOnly allowed (next value)) : HandsOnly allowed (process >>= next) := by
  intro world
  obtain ⟨sent, grows, every⟩ := first world
  change ∃ sent, (Process.bind process next world).2.handed = _ ∧ _
  unfold Process.bind
  rcases ran : process world with ⟨outcome, after⟩
  rw [ran] at grows
  cases outcome with
  | returned value =>
      obtain ⟨more, growsMore, everyMore⟩ := second value after
      refine ⟨sent ++ more, ?_, ?_⟩
      · rw [growsMore, show after.handed = _ from grows, List.append_assoc]
      · intro handed member
        rcases List.mem_append.mp member with old | new
        · exact every handed old
        · exact everyMore handed new
  | raised error => exact ⟨sent, grows, every⟩
  | crashed => exact ⟨sent, grows, every⟩

theorem handsOnly_tryCatch {body : Operation Stored Number Value}
    {handler : OrderManagerError → Operation Stored Number Value} (first : HandsOnly allowed body)
    (second : ∀ error, Preserves World.handed (handler error)) :
    HandsOnly allowed (Process.tryCatch body handler) := by
  intro world
  obtain ⟨sent, grows, every⟩ := first world
  unfold Process.tryCatch
  rcases ran : body world with ⟨outcome, after⟩
  rw [ran] at grows
  cases outcome with
  | returned value => exact ⟨sent, grows, every⟩
  | raised error => exact ⟨sent, (second error after).trans grows, every⟩
  | crashed => exact ⟨sent, grows, every⟩

theorem hands_of_returned {world : World Stored Number} {value : Value}
    (ran : process world = (.returned value, world)) (rest : HandsOnly allowed (next value)) :
    ∃ sent, ((process >>= next) world).2.handed = world.handed ++ sent ∧
      ∀ handed ∈ sent, allowed handed.request := by
  change ∃ sent, (Process.bind process next world).2.handed = _ ∧ _
  unfold Process.bind
  rw [ran]
  exact rest world

theorem handsOnly_mutate {request : Request Number} (isAllowed : allowed request)
    (result : Answer Number → Except CallError Value) :
    HandsOnly allowed (mutate request result : Operation Stored Number Value) := by
  refine handsOnly_bind ?_ fun answer => handsOnly_of_preserves allowed (preserves_ofCall _ _)
  refine handsOnly_bind (handsOnly_of_preserves allowed preserves_consult_handed) fun answer => ?_
  refine handsOnly_bind ?_ fun _ => handsOnly_of_preserves allowed (preserves_pure _ _)
  intro world
  refine ⟨[{ request, log := world.log }], rfl, ?_⟩
  intro handed member
  rw [List.mem_singleton.mp member]
  exact isAllowed

variable [Sources Stored Number]

omit [Sources Stored Number] in
theorem preserves_exceptIllegal {View : Type} (view : World Stored Number → View)
    (result : Except ExecutionStateMachine.MachineError ExecutionStateMachine.TransitionResult) :
    Preserves view (exceptIllegal result : Operation Stored Number Unit) := by
  unfold exceptIllegal
  split
  · exact preserves_pure _ _
  · exact preserves_pure _ _
  · exact preserves_raise _ _

private theorem preserves_driveExecutionSm_handed (clientOrderId : String)
    (trigger : OrderLifecycleTrigger)
    (fromState : OrderLifecycleState) (unfilled : Bool) :
    Preserves World.handed (driveExecutionSm clientOrderId trigger fromState unfilled :
      Operation Stored Number Unit) := by
  unfold driveExecutionSm
  cases executionTrigger? trigger fromState unfilled with
  | none => exact preserves_pure _ _
  | some executionTrigger =>
      refine preserves_bind preserves_consult_handed fun answer => ?_
      refine preserves_bind (preserves_get _) fun world => ?_
      exact preserves_bind (preserves_modify fun _ => rfl) fun _ => preserves_exceptIllegal _ _

theorem driveExecutionSm_setting {clientOrderId : String} {trigger : OrderLifecycleTrigger}
    {fromState : OrderLifecycleState} {unfilled : Bool}
    {executionTrigger : ExecutionStateMachine.Trigger}
    (driven : executionTrigger? trigger fromState unfilled = some executionTrigger)
    (world : World Stored Number) :
    (driveExecutionSm clientOrderId trigger fromState unfilled world).2.setting =
      (world.environment, world.clock + 1) := by
  unfold driveExecutionSm
  rw [driven]
  refine setting_of_consult (fun answer => ?_) world
  refine preserves_bind (preserves_get _) fun world => ?_
  exact preserves_bind (preserves_modify fun _ => rfl) fun _ => preserves_exceptIllegal _ _

variable [Arithmetic Number]

theorem preserves_applyPersisted {View : Type} {view : World Stored Number → View}
    (kept : ∀ (world : World Stored Number) (memory : Memory Number),
      view { world with memory } = view world) (event : Event Stored) :
    Preserves view (applyPersisted event : Operation Stored Number (Option (OrderSnapshot Number))) := by
  refine preserves_bind (preserves_memory view) fun memory => ?_
  cases (Source.own? event.payload : Option (Payload Number)) with
  | none => exact preserves_raise view _
  | some payload =>
      exact preserves_bind (preserves_setMemory kept _) fun _ => preserves_ofExcept view _

theorem preserves_persistAndApply_handed (omId : String) (payload : Payload Number)
    (idempotencyKey : String) :
    Preserves World.handed (persistAndApply omId payload idempotencyKey :
      Operation Stored Number (Option (OrderSnapshot Number))) := by
  refine preserves_bind ?_ (preserves_applyPersisted fun _ _ => rfl)
  refine preserves_bind preserves_consult_handed fun answer => ?_
  cases answer.appendFailure with
  | some failure => exact preserves_raise _ _
  | none =>
      exact preserves_bind (preserves_get _) fun _ =>
        preserves_bind (preserves_modify fun _ => rfl) fun _ => preserves_pure _ _

theorem persistAndApply_setting (omId : String) (payload : Payload Number) (idempotencyKey : String)
    (world : World Stored Number) :
    (persistAndApply omId payload idempotencyKey world).2.setting =
      (world.environment, world.clock + 1) := by
  have persisted : (persist omId payload idempotencyKey world).2.setting =
      (world.environment, world.clock + 1) := by
    refine setting_of_consult (fun answer => ?_) world
    cases answer.appendFailure with
    | some failure => exact preserves_raise _ _
    | none =>
        exact preserves_bind (preserves_get _) fun _ =>
          preserves_bind (preserves_modify fun _ => rfl) fun _ => preserves_pure _ _
  change (Process.bind (persist omId payload idempotencyKey) applyPersisted world).2.setting = _
  unfold Process.bind
  rcases ran : persist omId payload idempotencyKey world with ⟨outcome, after⟩
  rw [ran] at persisted
  cases outcome with
  | returned event =>
      exact (preserves_applyPersisted (fun _ _ => rfl) event after).trans persisted
  | raised error => exact persisted
  | crashed => exact persisted

theorem preserves_ingestStatus_handed (omId clientOrderId : String) (status : OrderStatus)
    (exchangeOrderId : Option String) :
    Preserves World.handed (ingestStatus omId clientOrderId status exchangeOrderId :
      Operation Stored Number (Option (OrderSnapshot Number))) := by
  unfold ingestStatus
  cases statusToTrigger? status with
  | none => exact preserves_bind (preserves_snapshotOf _ _) fun _ => preserves_pure _ _
  | some trigger =>
      refine preserves_bind (preserves_snapshotOf _ _) fun existing => ?_
      dsimp only
      cases nextState? existing.lifecycleState trigger with
      | none =>
          dsimp only
          split
          · exact preserves_pure _ _
          · exact preserves_raise _ _
      | some toState =>
          exact preserves_bind (preserves_persistAndApply_handed _ _ _) fun _ =>
            preserves_bind (preserves_driveExecutionSm_handed _ _ _ _) fun _ => preserves_pure _ _

theorem preserves_recordFailure_handed (omId clientOrderId : String)
    (trigger : OrderLifecycleTrigger) (message idempotencyKey : String) :
    Preserves World.handed (recordFailure omId clientOrderId trigger message idempotencyKey :
      Operation Stored Number Unit) := by
  refine preserves_bind (preserves_snapshotOf _ _) fun existing => ?_
  dsimp only
  cases nextState? existing.lifecycleState trigger with
  | none => exact preserves_pure _ _
  | some toState =>
      exact preserves_bind (preserves_persistAndApply_handed _ _ _) fun _ => preserves_pure _ _

def OneMore (allowed : Request Number → Prop) (earlier later : List (Handed Stored Number)) : Prop :=
  later = earlier ∨ ∃ handed, later = earlier ++ [handed] ∧ allowed handed.request

/-- The process hands the adapter one request at most, and it is of this kind. -/
def HandsOnce {Value : Type} (allowed : Request Number → Prop)
    (process : Operation Stored Number Value) : Prop :=
  ∀ world, OneMore allowed world.handed (process world).2.handed

omit [Sources Stored Number] [Arithmetic Number] in
private theorem handsOnce_bind_of_preserves (first : Preserves World.handed process)
    (second : ∀ value, HandsOnce allowed (next value)) : HandsOnce allowed (process >>= next) := by
  intro world
  have kept := first world
  change OneMore allowed world.handed (Process.bind process next world).2.handed
  unfold Process.bind
  rcases ran : process world with ⟨outcome, after⟩
  rw [ran] at kept
  change after.handed = world.handed at kept
  cases outcome with
  | returned value =>
      rw [← kept]
      exact second value after
  | raised error => exact Or.inl kept
  | crashed => exact Or.inl kept

omit [Sources Stored Number] [Arithmetic Number] in
private theorem handsOnce_bind_preserves (first : HandsOnce allowed process)
    (second : ∀ value, Preserves World.handed (next value)) :
    HandsOnce allowed (process >>= next) := by
  intro world
  have once := first world
  change OneMore allowed world.handed (Process.bind process next world).2.handed
  unfold Process.bind
  rcases ran : process world with ⟨outcome, after⟩
  rw [ran] at once
  cases outcome with
  | returned value =>
      change OneMore allowed world.handed (next value after).2.handed
      rw [second value after]
      exact once
  | raised error => exact once
  | crashed => exact once

omit [Sources Stored Number] [Arithmetic Number] in
private theorem handsOnce_tryCatch {body : Operation Stored Number Value}
    {handler : OrderManagerError → Operation Stored Number Value} (first : HandsOnce allowed body)
    (second : ∀ error, Preserves World.handed (handler error)) :
    HandsOnce allowed (Process.tryCatch body handler) := by
  intro world
  have once := first world
  unfold Process.tryCatch
  rcases ran : body world with ⟨outcome, after⟩
  rw [ran] at once
  cases outcome with
  | returned value => exact once
  | raised error =>
      change OneMore allowed world.handed (handler error after).2.handed
      rw [second error after]
      exact once
  | crashed => exact once

omit [Sources Stored Number] [Arithmetic Number] in
private theorem handsOnce_mutate {request : Request Number} (isAllowed : allowed request)
    (result : Answer Number → Except CallError Value) :
    HandsOnce allowed (mutate request result : Operation Stored Number Value) := by
  refine handsOnce_bind_preserves ?_ fun answer => preserves_ofCall _ _
  refine handsOnce_bind_of_preserves preserves_consult_handed fun answer => ?_
  refine handsOnce_bind_preserves ?_ fun _ => preserves_pure _ _
  intro world
  exact Or.inr ⟨_, rfl, isAllowed⟩

def IsPlacement (arguments : PlaceArguments Number) : Request Number → Prop
  | .place request => request.symbol = arguments.symbol ∧ request.reduceOnly = arguments.reduceOnly
  | _ => False

theorem handsOnce_placeOrder (omId : String) (arguments : PlaceArguments Number) :
    HandsOnce (IsPlacement arguments) (placeOrder omId arguments :
      Operation Stored Number (Option (OrderSnapshot Number))) := by
  refine handsOnce_bind_of_preserves (preserves_nextId (fun _ _ => rfl) _ _) fun ids => ?_
  refine handsOnce_bind_of_preserves (preserves_persistAndApply_handed _ _ _) fun _ => ?_
  refine handsOnce_bind_of_preserves (preserves_driveExecutionSm_handed _ _ _ _) fun _ => ?_
  refine handsOnce_bind_of_preserves (preserves_ofModel _ _) fun _ => ?_
  refine handsOnce_bind_preserves (handsOnce_tryCatch (handsOnce_mutate ?_ _) fun error => ?_)
    fun order => ?_
  · exact ⟨rfl, rfl⟩
  · exact preserves_onAdapterError (fun message => preserves_recordFailure_handed _ _ _ _ _) error
  · split
    · exact preserves_ingestStatus_handed _ _ _ _
    · exact preserves_ingestStatus_handed _ _ _ _

end

end TurtleExecution.OrderManager

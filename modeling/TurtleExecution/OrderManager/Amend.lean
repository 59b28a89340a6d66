/-
What the manager keeps of an order that the adapter amended.

The adapter may answer an amendment with another exchange order id; the event of
an amendment carries none.
-/

import TurtleExecution.OrderManager.Runs

set_option autoImplicit false

namespace TurtleExecution.OrderManager

open ExchangeAdapter SharedStore Process

section

variable {Number Stored : Type} [Sources Stored Number] [Arithmetic Number]

def IsCancelOf (exchangeOrderId : Option String) : Request Number → Prop
  | .cancel request => exchangeOrderId = some request.exchangeOrderId
  | _ => False

variable {omId clientOrderId : String} {world : World Stored Number}

private theorem cancelOrder_hands {existing : OrderSnapshot Number}
    (tracked : world.memory.snapshots.get? clientOrderId = some existing) :
    ∃ sent, (cancelOrder omId clientOrderId world).2.handed = world.handed ++ sent ∧
      ∀ handed ∈ sent, IsCancelOf existing.exchangeOrderId handed.request := by
  have ran : trackedOrder clientOrderId world = (.returned existing, world) := by
    rw [trackedOrder_eq, tracked]
  unfold cancelOrder
  refine hands_of_returned ran ?_
  have silent {Value : Type} {process : Operation Stored Number Value}
      (kept : Preserves World.handed process) :
      HandsOnly (IsCancelOf existing.exchangeOrderId) process := handsOnly_of_preserves _ kept
  dsimp only
  split
  · exact silent (preserves_pure _ _)
  split
  · exact silent (preserves_raise _ _)
  split
  · exact silent (preserves_raise _ _)
  rename_i exchangeOrderId known
  refine handsOnly_bind (silent (preserves_nextId (fun _ _ => rfl) omId "cancel")) ?_
  rintro ⟨seq, requestId⟩
  refine handsOnly_bind (silent (preserves_persistAndApply_handed _ _ _)) fun _ => ?_
  refine handsOnly_bind (silent (preserves_ofModel _ _)) fun _ => ?_
  refine handsOnly_bind ?_ fun order => silent (preserves_ingestStatus_handed _ _ _ _)
  refine handsOnly_tryCatch (handsOnly_mutate ?_ Answer.order) fun error =>
    preserves_onAdapterError (fun message => preserves_recordFailure_handed _ _ _ _ _) error
  exact known

structure Shows (order : Order Number) (snapshot : OrderSnapshot Number) : Prop where
  exchangeOrderId : snapshot.exchangeOrderId = order.exchangeOrderId
  quantity : snapshot.quantity = order.quantity
  limitPrice : snapshot.limitPrice = order.limitPrice

def Step.IsCall {omId : String} : Step omId Stored Number → Prop
  | .call _ => True
  | _ => False

/-- Until the next call, whatever is restarted, the manager shows the adapter's order
and cancels that order. -/
def InStep (omId clientOrderId : String) (order : Order Number) (world : World Stored Number) :
    Prop :=
  ∀ quiet : List (Step omId Stored Number), (∀ step ∈ quiet, ¬ step.IsCall) →
    let later := System.run { world, alive := true } quiet
    later.alive = true →
      (∃ snapshot, later.world.memory.snapshots.get? clientOrderId = some snapshot ∧
        Shows order snapshot) ∧
      ∃ sent, (cancelOrder omId clientOrderId later.world).2.handed = later.world.handed ++ sent ∧
        ∀ handed ∈ sent, IsCancelOf order.exchangeOrderId handed.request

theorem Ready.step_quiet {exact : Prop} {omId : String} {system : System Stored Number}
    (ready : Ready (Watch.plain exact omId) system.world) {step : Step omId Stored Number}
    (calm : ¬ step.IsCall) :
    Ready (Watch.plain exact omId) (system.step step).world ∧
      (system.step step).world.memory.snapshots = system.world.memory.snapshots := by
  cases step with
  | call call => exact (calm trivial).elim
  | foreign added =>
      obtain ⟨reachable, kept⟩ := foreign_keeps ready.reachable ready.kept added
      exact ⟨{ reachable, kept, appends := ready.appends }, rfl⟩
  | kill => exact ⟨ready, rfl⟩
  | restart machine =>
      obtain ⟨replayed, replays, agrees⟩ := ready.reachable.consistent.replays
      have constructed : construct omId system.world.log = .ok replayed := replays.constructed
      unfold System.step
      dsimp only
      rw [constructed]
      refine ⟨{ reachable := ?_, kept := trivial, appends := ready.appends }, agrees.snapshots⟩
      exact ready.reachable.step (.restart system.world.core replayed constructed)

theorem Ready.run_quiet {exact : Prop} {omId : String} (system : System Stored Number)
    (ready : Ready (Watch.plain exact omId) system.world) (quiet : List (Step omId Stored Number))
    (calm : ∀ step ∈ quiet, ¬ step.IsCall) :
    (system.run quiet).world.memory.snapshots = system.world.memory.snapshots := by
  induction quiet generalizing system with
  | nil => rfl
  | cons step quiet ih =>
      obtain ⟨readyAfter, same⟩ := ready.step_quiet (calm step List.mem_cons_self)
      have rest := ih _ readyAfter fun other member => calm other (List.mem_cons_of_mem step member)
      exact rest.trans same

theorem InStep.shows {order : Order Number} (inStep : InStep omId clientOrderId order world) :
    ∃ snapshot, world.memory.snapshots.get? clientOrderId = some snapshot ∧ Shows order snapshot := by
  obtain ⟨shown, _⟩ := inStep [] (fun _ none => (List.not_mem_nil none).elim) rfl
  exact shown

theorem Ready.inStep_iff {exact : Prop} (ready : Ready (Watch.plain exact omId) world)
    {snapshot : OrderSnapshot Number}
    (tracked : world.memory.snapshots.get? clientOrderId = some snapshot) (order : Order Number) :
    InStep omId clientOrderId order world ↔ Shows order snapshot := by
  constructor
  · intro inStep
    obtain ⟨shown, found, shows⟩ := inStep.shows
    rw [tracked] at found
    cases found
    exact shows
  · intro shows quiet calm later _
    have same : later.world.memory.snapshots = world.memory.snapshots :=
      Ready.run_quiet { world, alive := true } ready quiet calm
    have trackedLater : later.world.memory.snapshots.get? clientOrderId = some snapshot := by
      rw [same]
      exact tracked
    refine ⟨⟨snapshot, trackedLater, shows⟩, ?_⟩
    rw [← shows.exchangeOrderId]
    exact cancelOrder_hands trackedLater

omit [Sources Stored Number] in
/-- The snapshot after an amendment has the old exchange order id, and a quantity of
zero is not taken over. -/
theorem shows_amendedSnapshot (omId clientOrderId : String) (event : Event Stored)
    (order : Order Number) (existing : OrderSnapshot Number) :
    Shows order (amendedSnapshot event
        (plainPayload omId .amend clientOrderId none
          { newQuantity := some order.quantity
            newLimitPrice := some order.limitPrice }) existing) ↔
      order.exchangeOrderId = existing.exchangeOrderId ∧
        (Arithmetic.isZero order.quantity = true → order.quantity = existing.quantity) := by
  have quantity : (amendedSnapshot event
        (plainPayload omId .amend clientOrderId none
          { newQuantity := some order.quantity
            newLimitPrice := some order.limitPrice }) existing).quantity =
      if Arithmetic.isZero order.quantity then existing.quantity else order.quantity := rfl
  constructor
  · intro shows
    refine ⟨shows.exchangeOrderId.symm, ?_⟩
    intro zero
    have same := shows.quantity
    rw [quantity, if_pos zero] at same
    exact same.symm
  · rintro ⟨sameId, zeroKept⟩
    refine { exchangeOrderId := sameId.symm, quantity := ?_, limitPrice := rfl }
    rw [quantity]
    split
    · rename_i zero
      exact (zeroKept zero).symm
    · rfl

/-- After a successful amendment the manager is in step with the adapter exactly
when the adapter kept the exchange order id and the quantity is not a new zero. -/
theorem run_amendInStep_iff {omId : String} {memory : Memory Number}
    (constructed : construct omId (Ledger.empty : Log Stored) = .ok memory)
    (machine : ExecutionStateMachine.Machine) (environment : Nat → Answer Number)
    (steps : List (Step omId Stored Number)) (clientOrderId : String)
    (newQuantity newLimitPrice : Option Number) :
    let before := (System.start memory machine environment : System Stored Number).run steps
    let amended := amendOrder omId clientOrderId newQuantity newLimitPrice before.world
    before.alive = true → ∀ result, amended.1 = .returned result →
      ∃ existing order,
        before.world.memory.snapshots.get? clientOrderId = some existing ∧
        (before.world.answer (.amend clientOrderId newQuantity newLimitPrice)).order = .ok order ∧
        (InStep omId clientOrderId order amended.2 ↔
          order.exchangeOrderId = existing.exchangeOrderId ∧
            (Arithmetic.isZero order.quantity = true → order.quantity = existing.quantity)) := by
  intro before amended alive result returned
  have sound : before.Sound (Watch.plain False omId) :=
    (System.start_sound constructed machine fun impossible => impossible.elim).run steps
  have ends := amendOrder_spec (sound.ready alive) clientOrderId newQuantity newLimitPrice
    fun _ _ _ => trivial
  unfold Ends at ends
  change Post.Holds _ amended at ends
  rcases ran : amended with ⟨outcome, after⟩
  rw [ran] at ends returned
  cases returned
  obtain ⟨readyAfter, existing, order, event, tracked, answered, shown⟩ := ends
  refine ⟨existing, order, tracked, answered, ?_⟩
  rw [readyAfter.inStep_iff shown order]
  exact shows_amendedSnapshot omId clientOrderId event order existing

def limitBuy : PlaceArguments ℚ :=
  { marketBuy with orderType := .limit, limitPrice := some 100 }

def restingOrder (exchangeOrderId : String) (quantity : ℚ) : Order ℚ :=
  { acknowledgedOrder "main" quantity with
    exchangeOrderId := some exchangeOrderId
    orderType := .limit
    limitPrice := some 100 }

def replacingEnvironment : Nat → Answer ℚ := fun tick =>
  acceptingAnswer (if tick < 4 then restingOrder "7" 2 else restingOrder "8" 3)

def replacedBuy : List (Step "main" OrderStored ℚ) :=
  [.call (.place limitBuy)]

def isReturned {Value : Type} : Outcome OrderManagerError Value → Bool
  | .returned _ => true
  | _ => false

private theorem replacedBuy_amends :
    let before := (System.start Memory.initial freshMachine replacingEnvironment).run replacedBuy
    let amended := amendOrder "main" (placeId "main" 1) (some 3) none before.world
    before.alive = true ∧ ∃ result, amended.1 = .returned result := by
  intro before amended
  have alive : before.alive = true := by
    decide +kernel
  have returns : isReturned amended.1 = true := by
    decide +kernel
  refine ⟨alive, ?_⟩
  cases ended : amended.1 with
  | returned result => exact ⟨result, rfl⟩
  | raised error =>
      rw [ended] at returns
      cases returns
  | crashed =>
      rw [ended] at returns
      cases returns

theorem run_amendInStep_iff_replacedBuy :
    let before := (System.start Memory.initial freshMachine replacingEnvironment).run replacedBuy
    let amended := amendOrder "main" (placeId "main" 1) (some 3) none before.world
    ∃ existing order,
      before.world.memory.snapshots.get? (placeId "main" 1) = some existing ∧
      (before.world.answer (.amend (placeId "main" 1) (some 3) none)).order = .ok order ∧
      (InStep "main" (placeId "main" 1) order amended.2 ↔
        order.exchangeOrderId = existing.exchangeOrderId ∧
          (Arithmetic.isZero order.quantity = true → order.quantity = existing.quantity)) :=
  have constructed : construct "main"
      (Ledger.empty : Log OrderStored) =
        .ok (Memory.initial : Memory ℚ) := rfl
  match replacedBuy_amends with
  | ⟨alive, result, returned⟩ =>
      run_amendInStep_iff constructed freshMachine
        replacingEnvironment replacedBuy (placeId "main" 1) (some 3) none alive result returned

/-- The manager keeps the exchange order id that the venue has retired. -/
theorem replacedBuy_notInStep :
    let before := (System.start Memory.initial freshMachine replacingEnvironment).run replacedBuy
    let amended := amendOrder "main" (placeId "main" 1) (some 3) none before.world
    (∃ result, amended.1 = .returned result) ∧
      ∃ order, (before.world.answer (.amend (placeId "main" 1) (some 3) none)).order = .ok order ∧
        ¬ InStep "main" (placeId "main" 1) order amended.2 := by
  intro before amended
  have answered : (before.world.answer (.amend (placeId "main" 1) (some 3) none)).order.toOption.map
      Order.exchangeOrderId = some (some "8") := by
    decide +kernel
  have shown : (amended.2.memory.snapshots.get? (placeId "main" 1)).map
      OrderSnapshot.exchangeOrderId = some (some "7") := by
    decide +kernel
  refine ⟨replacedBuy_amends.2, ?_⟩
  generalize (before.world.answer (.amend (placeId "main" 1) (some 3) none)).order = answer
    at answered ⊢
  generalize amended.2 = world at shown ⊢
  cases answer with
  | error error => cases answered
  | ok order =>
      refine ⟨order, rfl, ?_⟩
      intro inStep
      obtain ⟨snapshot, found, shows⟩ := inStep.shows
      have replaced : order.exchangeOrderId = some "8" := Option.some.inj answered
      rw [found, Option.map_some, shows.exchangeOrderId, replaced] at shown
      exact absurd shown (by decide)

end

end TurtleExecution.OrderManager

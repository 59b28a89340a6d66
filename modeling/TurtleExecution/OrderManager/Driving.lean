/-
The order and the execution state machine that it drives.

An order's event and the machine's event are two appends.  The machine follows the order
while the store takes both, and while no fill completes an order of which a part is filled
and whose cancel is in flight.
-/

import TurtleExecution.OrderManager.Placement

set_option autoImplicit false

namespace TurtleExecution.OrderManager

open ExchangeAdapter SharedStore Process
open ExecutionStateMachine (State Trigger)

/-- The states in which the machine shows an order; `unfilled` says that nothing is filled. -/
def Reflects (orderState : OrderLifecycleState) (unfilled : Bool) (state : State) : Prop :=
  match orderState with
  | .new => False
  | .submitted => state = .orderPending
  | .acknowledged => state = .orderPending
  | .partiallyFilled => state = .partiallyFilled ∧ unfilled = false
  | .cancelPending => state = .orderPending ∨ state = .partiallyFilled ∧ unfilled = false
  | .filled => state = .positionOpen
  | .cancelled => unfilled = true → state = .ready
  | .rejected => True
  | .expired => True
  | .failed => True

/-- The triggers that the machine may still get in a state, and has not recorded. -/
def awaited : State → List Trigger
  | .signalPending => [.orderPlaced, .orderRejected, .partialFillReceived, .fullyFilled,
      .remainderFilled, .orderCancelled]
  | .orderPending => [.orderRejected, .partialFillReceived, .fullyFilled, .remainderFilled,
      .orderCancelled]
  | .partiallyFilled => [.remainderFilled]
  | _ => []

/-- The machine takes a trigger for the first time, or takes it again and stays. -/
structure Takes (state : State) (trigger : Trigger) (next : State) : Prop where
  legal : ExecutionStateMachine.nextState? state trigger = some next
  known : trigger ∈ awaited .signalPending
  first : trigger ∈ awaited state ∨ next = state
  rest : ∀ later ∈ awaited next, later ∈ awaited state ∧ later ≠ trigger

instance (state : State) (trigger : Trigger) (next : State) : Decidable (Takes state trigger next) :=
  decidable_of_iff
    (ExecutionStateMachine.nextState? state trigger = some next ∧ trigger ∈ awaited .signalPending ∧
      (trigger ∈ awaited state ∨ next = state) ∧
      ∀ later ∈ awaited next, later ∈ awaited state ∧ later ≠ trigger)
    ⟨fun ⟨legal, known, first, rest⟩ => { legal, known, first, rest },
      fun takes => ⟨takes.legal, takes.known, takes.first, takes.rest⟩⟩

private theorem awaited_subset (state : State) : awaited state ⊆ awaited .signalPending := by
  cases state <;> decide

/-- What the machine is behind the order: nothing, or the trigger that comes next. -/
def Lags (lag : Option Trigger) (orderState : OrderLifecycleState) (unfilled : Bool)
    (state : State) : Prop :=
  match lag with
  | none => Reflects orderState unfilled state
  | some trigger => ∃ next, Takes state trigger next ∧ Reflects orderState unfilled next

structure Fills (trigger : OrderLifecycleTrigger) (fromState : OrderLifecycleState)
    (wasUnfilled unfilled : Bool) : Prop where
  kept : trigger ≠ .partialFill → trigger ≠ .fullFill → unfilled = wasUnfilled
  part : trigger = .partialFill → unfilled = false
  /-- No fill completes an order with a part filled and a cancel in flight. -/
  whole : trigger = .fullFill → fromState = .cancelPending → wasUnfilled = true

theorem Reflects.advance {fromState toState : OrderLifecycleState} {wasUnfilled : Bool}
    (unfilled : Bool) {state : State} {trigger : OrderLifecycleTrigger}
    (reflects : Reflects fromState wasUnfilled state)
    (legal : nextState? fromState trigger = some toState)
    (fills : Fills trigger fromState wasUnfilled unfilled) :
    Lags (executionTrigger? trigger fromState unfilled) toState unfilled state := by
  obtain ⟨kept, part, whole⟩ := fills
  have edge := TransitionTable.mem_of_nextState? legal
  simp only [transitionTable, List.mem_cons, Prod.mk.injEq, List.not_mem_nil, or_false] at edge
  -- One case for each edge of the order, in the order of its table.
  rcases edge with ⟨rfl, rfl, rfl⟩ | ⟨rfl, rfl, rfl⟩ | ⟨rfl, rfl, rfl⟩ | ⟨rfl, rfl, rfl⟩ |
    ⟨rfl, rfl, rfl⟩ | ⟨rfl, rfl, rfl⟩ | ⟨rfl, rfl, rfl⟩ | ⟨rfl, rfl, rfl⟩ | ⟨rfl, rfl, rfl⟩ |
    ⟨rfl, rfl, rfl⟩ | ⟨rfl, rfl, rfl⟩ | ⟨rfl, rfl, rfl⟩ | ⟨rfl, rfl, rfl⟩ | ⟨rfl, rfl, rfl⟩ |
    ⟨rfl, rfl, rfl⟩ | ⟨rfl, rfl, rfl⟩ | ⟨rfl, rfl, rfl⟩ | ⟨rfl, rfl, rfl⟩
  · exact reflects.elim
  · exact reflects
  · obtain rfl := reflects
    exact ⟨.ready, by decide, trivial⟩
  · trivial
  · obtain rfl := reflects
    exact ⟨.partiallyFilled, by decide, rfl, part rfl⟩
  · obtain rfl := reflects
    exact ⟨.positionOpen, by decide, rfl⟩
  · exact Or.inl reflects
  · trivial
  · obtain ⟨rfl, _⟩ := reflects
    exact ⟨.partiallyFilled, by decide, rfl, part rfl⟩
  · obtain ⟨rfl, _⟩ := reflects
    exact ⟨.positionOpen, by decide, rfl⟩
  · obtain ⟨rfl, nonzero⟩ := reflects
    exact Or.inr ⟨rfl, (kept (by decide) (by decide)).trans nonzero⟩
  · trivial
  · obtain ⟨_, nonzero⟩ := reflects
    intro isUnfilled
    rw [kept (by decide) (by decide), nonzero] at isUnfilled
    cases isUnfilled
  · rcases reflects with rfl | ⟨rfl, nonzero⟩
    · cases unfilled with
      | true => exact ⟨.ready, by decide, fun _ => rfl⟩
      | false =>
          intro isUnfilled
          cases isUnfilled
    · obtain rfl := (kept (by decide) (by decide)).trans nonzero
      intro isUnfilled
      cases isUnfilled
  · rcases reflects with rfl | ⟨rfl, _⟩
    · exact ⟨.partiallyFilled, by decide, rfl, part rfl⟩
    · exact ⟨.partiallyFilled, by decide, rfl, part rfl⟩
  · -- The order drives `FULLY_FILLED`, which is illegal from `PARTIALLY_FILLED`.
    rcases reflects with rfl | ⟨_, nonzero⟩
    · exact ⟨.positionOpen, by decide, rfl⟩
    · rw [whole rfl rfl] at nonzero
      cases nonzero
  · rcases reflects with rfl | ⟨rfl, nonzero⟩
    · exact Or.inl rfl
    · exact Or.inr ⟨rfl, (kept (by decide) (by decide)).trans nonzero⟩
  · trivial

theorem StatusKey.notFill {durable : Nat → Prop} {nextSeq order : Nat} {state : OrderLifecycleState}
    {trigger : OrderLifecycleTrigger} {seq : Option Nat} {key : MutationKey}
    (keyed : StatusKey durable nextSeq order state trigger seq key) :
    trigger ≠ .partialFill ∧ trigger ≠ .fullFill := by
  cases keyed with
  | status status trigger reported => cases status <;> cases reported <;> decide
  | _ => decide

class ApartFromMachine (Stored Number : Type) [Sources Stored Number] : Prop where
  notOwn : ∀ payload : Payload Number,
    (Source.own? (Source.wrap payload : Stored) : Option ExecutionStateMachine.Payload) = none

instance {Number : Type} : ApartFromMachine (ExecutionStateMachine.Payload ⊕ Payload Number) Number :=
  ⟨fun _ => rfl⟩

def driveKey (machineId clientOrderId : String) (trigger : Trigger) : String :=
  ExecutionStateMachine.namespacedKey machineId (driveRequestId clientOrderId trigger)

structure Taken {Number : Type} (answer : Answer Number) : Prop where
  alive : answer.crash = false
  stored : answer.appendFailure = none

section

variable {Stored : Type} [Source Stored ExecutionStateMachine.Payload]

private theorem transition_takes {log : Log Stored} {machine : ExecutionStateMachine.Machine}
    {call : ExecutionStateMachine.TransitionCall} {next : State}
    (takes : Takes machine.currentState call.trigger next)
    (checked : ExecutionStateMachine.requestIdError? call.requestId = none)
    (fresh : call.trigger ∈ awaited machine.currentState → log.getByIdempotencyKey
      (ExecutionStateMachine.namespacedKey machine.machineId call.requestId) = none)
    (stored : call.failure = none) :
    (ExecutionStateMachine.transition log machine call).2 = (log, machine) ∧
        next = machine.currentState ∨
      ExecutionStateMachine.Recorded log machine call next := by
  rcases takes.first with isAwaited | again
  · right
    exact ExecutionStateMachine.transition_records checked (fresh isAwaited) takes.legal stored
  · rcases ExecutionStateMachine.transition_cases log machine call with
      answered | ⟨_, toState, recorded⟩
    · exact Or.inl ⟨answered.unchanged, again⟩
    · obtain rfl := Option.some.inj (takes.legal.symm.trans recorded.legal)
      exact Or.inr recorded

end

section

variable {Number Stored : Type} [Arithmetic Number] [Sources Stored Number]

structure Listens (machineId clientOrderId : String) (world : World Stored Number) : Prop where
  constructed : ExecutionStateMachine.construct world.log machineId = .ok world.machine
  only : ∀ other known, world.memory.snapshots.get? other = some known → other = clientOrderId
  undriven : ∀ later ∈ awaited world.machine.currentState,
    world.log.getByIdempotencyKey (driveKey machineId clientOrderId later) = none
  distinct : ((awaited .signalPending).map (driveKey machineId clientOrderId)).Nodup

structure Told (omId machineId clientOrderId : String) (lag : Option Trigger)
    (world : World Stored Number) : Prop where
  ready : Ready (Watch.plain False omId) world
  listens : Listens machineId clientOrderId world
  lags : ∃ existing, world.memory.snapshots.get? clientOrderId = some existing ∧
    Lags lag existing.lifecycleState (Arithmetic.isZero existing.filledQuantity)
      world.machine.currentState

structure Idle (omId machineId : String) (world : World Stored Number) : Prop where
  ready : Ready (Watch.plain False omId) world
  constructed : ExecutionStateMachine.construct world.log machineId = .ok world.machine
  untracked : ∀ clientOrderId, world.memory.snapshots.get? clientOrderId = none
  pending : world.machine.currentState = .signalPending

def Driven (omId machineId : String) (world : World Stored Number) : Prop :=
  Idle omId machineId world ∨ ∃ clientOrderId, Told omId machineId clientOrderId none world

/-- A process has died in a world from which a restart finds the machine following. -/
def Survives (omId machineId : String) (dead : World Stored Number) : Prop :=
  ∃ memory, Driven omId machineId { dead with memory }

def drivenEnd (Value : Type) (omId machineId : String) :
    Post (World Stored Number) OrderManagerError Value :=
  { returned := fun _ after => Driven omId machineId after
    raised := fun _ after => Driven omId machineId after
    crashed := fun dead => Survives omId machineId dead }

variable {omId machineId clientOrderId : String} {lag : Option Trigger} {world after : World Stored Number}

theorem Told.driven (told : Told omId machineId clientOrderId none world) :
    Driven omId machineId world :=
  Or.inr ⟨clientOrderId, told⟩

theorem Driven.ready (driven : Driven omId machineId world) : Ready (Watch.plain False omId) world := by
  rcases driven with idle | ⟨_, told⟩
  · exact idle.ready
  · exact told.ready

theorem Driven.constructed (driven : Driven omId machineId world) :
    ExecutionStateMachine.construct world.log machineId = .ok world.machine := by
  rcases driven with idle | ⟨_, told⟩
  · exact idle.constructed
  · exact told.listens.constructed

theorem Driven.told (driven : Driven omId machineId world) {existing : OrderSnapshot Number}
    (tracked : world.memory.snapshots.get? clientOrderId = some existing) :
    Told omId machineId clientOrderId none world := by
  rcases driven with idle | ⟨other, told⟩
  · rw [idle.untracked] at tracked
    cases tracked
  · obtain rfl := told.listens.only clientOrderId existing tracked
    exact told

theorem Told.same (told : Told omId machineId clientOrderId lag world)
    (ready : Ready (Watch.plain False omId) after) (log : after.log = world.log)
    (machine : after.machine = world.machine)
    (snapshots : after.memory.snapshots = world.memory.snapshots) :
    Told omId machineId clientOrderId lag after := by
  obtain ⟨_, ⟨constructed, only, undriven, distinct⟩, lags⟩ := told
  rw [← log, ← machine] at constructed undriven
  rw [← snapshots] at only
  rw [← snapshots, ← machine] at lags
  exact { ready, listens := { constructed, only, undriven, distinct }, lags }

theorem Driven.same (driven : Driven omId machineId world)
    (ready : Ready (Watch.plain False omId) after) (log : after.log = world.log)
    (machine : after.machine = world.machine)
    (snapshots : after.memory.snapshots = world.memory.snapshots) :
    Driven omId machineId after := by
  rcases driven with idle | ⟨clientOrderId, told⟩
  · left
    obtain ⟨_, constructed, untracked, pending⟩ := idle
    rw [← log, ← machine] at constructed
    rw [← snapshots] at untracked
    rw [← machine] at pending
    exact { ready, constructed, untracked, pending }
  · exact Or.inr ⟨clientOrderId, told.same ready log machine snapshots⟩

theorem Driven.tick (driven : Driven omId machineId world) : Driven omId machineId world.tick :=
  driven.same driven.ready.tick rfl rfl rfl

theorem Driven.bump (driven : Driven omId machineId world) : Driven omId machineId world.bump :=
  driven.same (driven.ready.move (.burn world.core fun impossible => impossible) rfl) rfl rfl rfl

theorem Driven.survives (driven : Driven omId machineId world) : Survives omId machineId world :=
  ⟨world.memory, driven⟩

theorem Told.take (call : ExecutionStateMachine.TransitionCall)
    (told : Told omId machineId clientOrderId (some call.trigger) world)
    (requestId : call.requestId = driveRequestId clientOrderId call.trigger)
    (stored : call.failure = none) :
    let outcome := ExecutionStateMachine.transition world.log world.machine call
    Told omId machineId clientOrderId none
      { world.tick with log := outcome.2.1, machine := outcome.2.2 } := by
  intro outcome
  obtain ⟨existing, tracked, next, takes, reflects⟩ := told.lags
  obtain ⟨sameId, _⟩ := ExecutionStateMachine.construct_eq_ok told.listens.constructed
  have key : ExecutionStateMachine.namespacedKey world.machine.machineId call.requestId =
      driveKey machineId clientOrderId call.trigger := by
    rw [sameId, requestId, driveKey]
  have checked : ExecutionStateMachine.requestIdError? call.requestId = none := by
    rw [requestId]
    exact driveRequestId_checked clientOrderId call.trigger
  have readyAfter := (transition_undisturbed told.ready call).1
  rcases transition_takes takes checked (by rw [key]; exact told.listens.undriven call.trigger) stored with
    ⟨unchanged, again⟩ | recorded
  · obtain ⟨log, machine⟩ := Prod.mk.inj unchanged
    rw [again] at reflects
    have caught : Told omId machineId clientOrderId none world :=
      { told with lags := ⟨existing, tracked, reflects⟩ }
    exact caught.same readyAfter log machine rfl
  · have state : outcome.2.2.currentState = next := by
      change (ExecutionStateMachine.transition world.log world.machine call).2.2.currentState = next
      rw [recorded.state]
    refine
      { ready := readyAfter
        listens :=
          { constructed := ExecutionStateMachine.construct_transition told.listens.constructed call
            only := told.listens.only
            undriven := ?_
            distinct := told.listens.distinct }
        lags := ⟨existing, tracked, ?_⟩ }
    · intro later isAwaited
      change later ∈ awaited outcome.2.2.currentState at isAwaited
      rw [state] at isAwaited
      obtain ⟨wasAwaited, different⟩ := takes.rest later isAwaited
      rw [← told.listens.undriven later wasAwaited]
      apply Log.getByIdempotencyKey_concat recorded.entries
      intro same
      have sameKey := key.symm.trans (Option.some.inj same)
      exact different (List.inj_on_of_nodup_map told.listens.distinct (awaited_subset _ wasAwaited)
        takes.known sameKey.symm)
    · change Reflects _ _ outcome.2.2.currentState
      rw [state]
      exact reflects

theorem Told.drive_spec (trigger : OrderLifecycleTrigger) (fromState : OrderLifecycleState)
    (unfilled : Bool)
    (told : Told omId machineId clientOrderId (executionTrigger? trigger fromState unfilled) world)
    (taken : Taken (world.environment world.clock)) :
    Ends (driveExecutionSm clientOrderId trigger fromState unfilled) world
      { returned := fun _ after =>
          Told omId machineId clientOrderId none after ∧ after.memory = world.memory
        raised := fun _ after =>
          Told omId machineId clientOrderId none after ∧ after.memory = world.memory
        crashed := fun _ => False } := by
  unfold Ends
  rw [driveExecutionSm_eq]
  cases driven : executionTrigger? trigger fromState unfilled with
  | none =>
      rw [driven] at told
      exact ⟨told, rfl⟩
  | some executionTrigger =>
      rw [driven] at told
      have caught := Told.take
        (driveCall clientOrderId executionTrigger (world.environment world.clock)) told rfl taken.stored
      dsimp only at caught ⊢
      rw [taken.alive, if_neg Bool.false_ne_true]
      generalize ExecutionStateMachine.transition world.log world.machine
        (driveCall clientOrderId executionTrigger (world.environment world.clock)) = outcome
        at caught ⊢
      obtain ⟨result, log, machine⟩ := outcome
      cases result with
      | ok result => exact ⟨caught, rfl⟩
      | error error =>
          cases error with
          | illegalTransition message => exact ⟨caught, rfl⟩
          | valueError message => exact ⟨caught, rfl⟩
          | replayIntegrity eventId problem => exact ⟨caught, rfl⟩
          | store failure => exact ⟨caught, rfl⟩

structure Records (omId : String) (key : MutationKey) (payload : Payload Number)
    (world : World Stored Number) (snapshot : Option (OrderSnapshot Number))
    (after : World Stored Number) : Prop where
  ready : Ready (Watch.plain False omId) after
  added : RecordedIn omId key payload world.core after.core
  machine : after.machine = world.machine
  setting : after.setting = (world.environment, world.clock + 1)
  returned : snapshot = after.memory.snapshots.get? payload.clientOrderId

/-- An event is recorded as it is, or with the number that was reserved for it. -/
def StartsAt (world : World Stored Number) (seq : Option Nat) (start : World Stored Number) : Prop :=
  start = world ∨ start = world.bump ∧ seq = some world.memory.nextSeq

omit [Arithmetic Number] [Sources Stored Number] in
theorem StartsAt.bumped {seq : Option Nat} (numbered : seq = some world.memory.nextSeq) :
    StartsAt world seq world.bump :=
  .inr ⟨rfl, numbered⟩

variable {key : MutationKey} {payload : Payload Number}

theorem Driven.records {start : World Stored Number} (driven : Driven omId machineId world)
    (starts : StartsAt world payload.seq start)
    (recorded : Recorded omId (Durable Number omId world.log) world.memory key payload)
    (unused : ¬ InLog omId world.log key) :
    Ends (persistAndApply omId payload (key.text omId)) start
      { returned := Records omId key payload world
        raised := fun _ after => Driven omId machineId after
        crashed := fun dead => Survives omId machineId dead } := by
  obtain ⟨memory, rfl, drivenStart, applies⟩ : ∃ memory : Memory Number,
      start = { world with memory } ∧ Driven omId machineId start ∧
      ∀ now, memory.applyEvent (recordedEvent omId world.log key payload now) payload =
        world.memory.applyEvent (recordedEvent omId world.log key payload now) payload := by
    rcases starts with rfl | ⟨rfl, numbered⟩
    · exact ⟨_, rfl, driven, fun _ => rfl⟩
    · exact ⟨_, rfl, driven.bump, applyEvent_bump driven.ready recorded numbered⟩
  obtain ⟨log, entries, outcome⟩ := persistAndApply_eq { world with memory } payload unused
  unfold Ends
  rw [outcome]
  dsimp only
  cases (world.environment world.clock).crash with
  | true => exact drivenStart.tick.survives
  | false =>
      rw [if_neg Bool.false_ne_true]
      cases (world.environment world.clock).appendFailure with
      | some failure => exact drivenStart.tick
      | none =>
          have same := applies (world.environment world.clock).now
          obtain ⟨patch, effect, applied⟩ := recorded.applied driven.ready.reachable
            (world.environment world.clock).now
          have added : RecordedIn omId key payload world.core
              { log
                memory := (memory.applyEvent (recordedEvent omId world.log key payload
                  (world.environment world.clock).now) payload).2
                handed := world.handed } := ⟨_, entries, congrArg Prod.snd same, rfl⟩
          have result := (congrArg Prod.fst same).trans (congrArg Prod.fst applied)
          have patched := (congrArg Prod.snd same).trans (congrArg Prod.snd applied)
          dsimp only at result patched
          change Post.Holds _ (ofExcept (memory.applyEvent (recordedEvent omId world.log
            key payload (world.environment world.clock).now) payload).1 _)
          rw [result]
          refine
            { ready := driven.ready.move (added.move recorded trivial unused) rfl
              added
              machine := rfl
              setting := rfl
              returned := ?_ }
          rw [← patched]

/-- After a recorded transition the machine lags by what the order drives. -/
def lagsBehind (omId machineId clientOrderId : String) (key : MutationKey) (payload : Payload Number)
    (trigger : OrderLifecycleTrigger) (fromState : OrderLifecycleState)
    (world : World Stored Number) :
    Post (World Stored Number) OrderManagerError (Option (OrderSnapshot Number)) :=
  { returned := fun snapshot after => Records omId key payload world snapshot after ∧
      Told omId machineId clientOrderId (executionTrigger? trigger fromState (unfilled snapshot)) after
    raised := fun _ after => Driven omId machineId after
    crashed := fun dead => Survives omId machineId dead }

theorem lagsBehind_drive {process : Operation Stored Number (Option (OrderSnapshot Number))}
    {Value : Type} {trigger : OrderLifecycleTrigger} {fromState : OrderLifecycleState}
    {start : World Stored Number}
    {next : Option (OrderSnapshot Number) → Unit → Operation Stored Number Value}
    {post : Post (World Stored Number) OrderManagerError Value}
    (recorded : Ends process start
      (lagsBehind omId machineId clientOrderId key payload trigger fromState world))
    (taken : Taken (world.environment (world.clock + 1)))
    (raised : ∀ error after, Driven omId machineId after → post.raised error after)
    (crashed : ∀ dead, Survives omId machineId dead → post.crashed dead)
    (rest : ∀ snapshot done middle after, Records omId key payload world snapshot middle →
      Told omId machineId clientOrderId none after → after.memory = middle.memory →
      Ends (next snapshot done) after post) :
    Ends (process >>= fun snapshot =>
      driveExecutionSm clientOrderId trigger fromState (unfilled snapshot) >>= next snapshot) start
      post := by
  refine ends_bind _ (recorded.mono (fun _ _ ended => ended) raised crashed) ?_
  intro snapshot after ended
  obtain ⟨records, told⟩ := ended
  obtain ⟨environment, clock⟩ := Prod.mk.inj records.setting
  refine ends_bind _ ((Told.drive_spec _ _ _ told (by rw [environment, clock]; exact taken)).mono
    (fun _ _ ended => ended) (fun error last ended => raised error last ended.1.driven)
    (fun _ never => never.elim)) ?_
  intro done last ended
  exact rest snapshot done after last records ended.1 ended.2

structure Called (omId : String) (world after : World Stored Number) : Prop where
  ready : Ready (Watch.plain False omId) after
  log : after.log = world.log
  machine : after.machine = world.machine
  memory : after.memory = world.memory
  setting : after.setting = (world.environment, world.clock + 1)

theorem Told.called (told : Told omId machineId clientOrderId lag world)
    (called : Called omId world after) : Told omId machineId clientOrderId lag after :=
  told.same called.ready called.log called.machine (by rw [called.memory])

theorem Driven.called (driven : Driven omId machineId world) (called : Called omId world after) :
    Driven omId machineId after :=
  driven.same called.ready called.log called.machine (by rw [called.memory])

theorem Driven.mutate_spec {Value : Type} {request : Request Number} {seq : Nat} {suffix : String}
    (driven : Driven omId machineId world) (identified : request.id = makeId omId seq suffix)
    (durable : Durable Number omId world.log seq)
    (fresh : ∀ earlier ∈ world.handed, earlier.request.id ≠ request.id)
    (result : Answer Number → Except CallError Value) :
    Ends (mutate request result) world
      { returned := fun _ after => Called omId world after
        raised := fun _ after => Called omId world after
        crashed := fun dead => Survives omId machineId dead } := by
  have moved : Called omId world
      { world.tick with handed := world.handed ++ [{ request, log := world.log }] } :=
    { ready := driven.ready.move (.hand world.core request seq suffix identified durable fresh) rfl
      log := rfl
      machine := rfl
      memory := rfl
      setting := rfl }
  refine ends_bind (fun _ after => Called omId world after) ?_ ?_
  · unfold Ends
    change Post.Holds _ (Process.bind consult _ world)
    unfold Process.bind
    rw [consult_eq]
    cases (world.environment world.clock).crash with
    | true => exact driven.tick.survives
    | false => exact moved
  · intro answer after called
    unfold ofCall
    cases result answer with
    | ok value => exact ends_pure called
    | error error => exact ends_raise called

theorem Driven.consult_spec (driven : Driven omId machineId world) :
    Ends consult world
      { returned := fun _ after => Called omId world after
        raised := fun _ after => Called omId world after
        crashed := fun dead => Survives omId machineId dead } := by
  unfold Ends
  rw [consult_eq]
  cases (world.environment world.clock).crash with
  | true => exact driven.tick.survives
  | false =>
      exact
        { ready := driven.ready.tick
          log := rfl
          machine := rfl
          memory := rfl
          setting := rfl }

theorem Driven.onAdapterError_spec {Value : Type} {record : String → Operation Stored Number Unit}
    (driven : Driven omId machineId world) (error : OrderManagerError)
    (recorded : ∀ message, Ends (record message) world (drivenEnd Unit omId machineId))
    (returned : Value → World Stored Number → Prop) :
    Ends (onAdapterError record error) world { drivenEnd Value omId machineId with returned } := by
  unfold onAdapterError
  split
  · rename_i message
    exact ends_bind (fun _ after => Driven omId machineId after) (recorded message)
      (fun _ after drivenAfter => ends_raise drivenAfter)
  · exact ends_raise driven

variable [ApartFromMachine Stored Number]

omit [Arithmetic Number] in
private theorem construct_recorded {log later : Log Stored} {machine : ExecutionStateMachine.Machine}
    {now : String} (constructed : ExecutionStateMachine.construct log machineId = .ok machine)
    (entries : later.entries = log.entries ++ [recordedEvent omId log key payload now]) :
    ExecutionStateMachine.construct later machineId = .ok machine := by
  have notOwn : ExecutionStateMachine.ownPayload? (recordedEvent omId log key payload now)
      machineId = none := by
    unfold ExecutionStateMachine.ownPayload?
    rw [show Source.own? (recordedEvent omId log key payload now).payload =
      (none : Option ExecutionStateMachine.Payload) from ApartFromMachine.notOwn payload]
  obtain ⟨rfl, replayed⟩ := ExecutionStateMachine.construct_eq_ok constructed
  apply ExecutionStateMachine.construct_of_replay constructed
  rw [entries, ExecutionStateMachine.replay_concat, replayed]
  exact ExecutionStateMachine.replayEvent_of_not_own notOwn machine.currentState

theorem Listens.recorded {snapshot : Option (OrderSnapshot Number)}
    {patch : Event Stored → Patch Number} (listens : Listens machineId clientOrderId world)
    (reached : Reachable False omId world.core)
    (records : Records omId key payload world snapshot after)
    (patches : ∀ event, Patches world.memory.snapshots event payload (patch event))
    (own : ∀ event, (patch event).snapshot.isSome = true → (patch event).clientOrderId = clientOrderId) :
    Listens machineId clientOrderId after := by
  obtain ⟨now, entries, _, _⟩ := records.added
  have constructed := construct_recorded listens.constructed entries
  have only := listens.only
  have undriven := listens.undriven
  rw [← records.machine] at constructed undriven
  refine { constructed, only := ?_, undriven := ?_, distinct := listens.distinct }
  · intro other known tracked
    obtain ⟨event, memory⟩ := records.added.memory_eq reached patches
    change after.memory = world.memory.patch (patch event) at memory
    rw [memory, Memory.patch_snapshots] at tracked
    split at tracked
    · rename_i both
      rw [both.1]
      exact own event both.2
    · exact only other known tracked
  · intro later isAwaited
    rw [← undriven later isAwaited]
    apply Log.getByIdempotencyKey_concat entries
    intro same
    exact machineKey_ne _ _ _ _ (Option.some.inj same).symm

variable {toState : OrderLifecycleState} {order : Nat}

variable {snapshot : Option (OrderSnapshot Number)} {existing : OrderSnapshot Number}
  {trigger : OrderLifecycleTrigger}

theorem Listens.told {patch : Event Stored → Patch Number} {filled : Number}
    (listens : Listens machineId clientOrderId world) (reached : Reachable False omId world.core)
    (records : Records omId key payload world snapshot after)
    (patches : ∀ event, Patches world.memory.snapshots event payload (patch event))
    (own : payload.clientOrderId = clientOrderId)
    (patched : ∀ event, (patch event).clientOrderId = clientOrderId ∧
      ∃ updated, (patch event).snapshot = some updated ∧ updated.lifecycleState = toState ∧
        updated.filledQuantity = filled)
    (lags : Lags lag toState (Arithmetic.isZero filled) world.machine.currentState) :
    Told omId machineId clientOrderId lag after ∧ unfilled snapshot = Arithmetic.isZero filled := by
  obtain ⟨event, memory⟩ := records.added.memory_eq reached patches
  change after.memory = world.memory.patch (patch event) at memory
  obtain ⟨same, updated, isUpdated, rfl, rfl⟩ := patched event
  have tracked : after.memory.snapshots.get? clientOrderId = some updated := by
    rw [memory, ← same]
    exact Memory.patch_snapshot_self world.memory isUpdated
  rw [← records.machine] at lags
  constructor
  · exact
      { ready := records.ready
        listens := listens.recorded reached records patches fun event _ => (patched event).1
        lags := ⟨updated, tracked, lags⟩ }
  · rw [records.returned, own, tracked, unfilled]

theorem Told.statusUpdate_spec {seq : Option Nat} {start : World Stored Number}
    (told : Told omId machineId (placeId omId order) none world) (details : Details Number)
    (starts : StartsAt world seq start)
    (tracked : world.memory.snapshots.get? (placeId omId order) = some existing)
    (legal : nextState? existing.lifecycleState trigger = some toState)
    (keyed : StatusKey (Durable Number omId world.log) world.memory.nextSeq order
      existing.lifecycleState trigger seq key) (unused : ¬ InLog omId world.log key) :
    let payload := transitionPayload omId .statusUpdate (placeId omId order) seq trigger
      existing.lifecycleState toState details
    Ends (persistAndApply omId payload (key.text omId)) start
      (lagsBehind omId machineId (placeId omId order) key payload trigger existing.lifecycleState
        world) := by
  intro payload
  have recorded : Recorded omId (Durable Number omId world.log) world.memory key payload :=
    .statusUpdate order existing trigger toState seq key details tracked legal keyed
  refine (told.driven.records starts recorded unused).mono ?_ (fun _ _ ended => ended)
    (fun _ ended => ended)
  intro snapshot after records
  obtain ⟨known, found, reflects⟩ := told.lags
  rw [tracked] at found
  cases found
  have lags := Reflects.advance (Arithmetic.isZero existing.filledQuantity) reflects legal
    { kept := fun _ _ => rfl
      part := fun isPart => (keyed.notFill.1 isPart).elim
      whole := fun isWhole => (keyed.notFill.2 isWhole).elim }
  obtain ⟨toldAfter, same⟩ := told.listens.told told.ready.reachable records
    (patches_statusUpdate · omId (placeId omId order) seq details tracked legal) rfl
    (fun _ => ⟨rfl, _, rfl, rfl, rfl⟩) lags
  rw [← same] at toldAfter
  exact ⟨records, toldAfter⟩

theorem Told.fill_spec {fill : Fill Number} {newFilled : Number}
    (told : Told omId machineId (placeId omId order) none world)
    (tracked : world.memory.snapshots.get? (placeId omId order) = some existing)
    (fresh : fill.fillId ∉ world.memory.fillIds (placeId omId order))
    (sum : Arithmetic.add existing.filledQuantity fill.quantity = .ok newFilled)
    (chosen : fillTrigger newFilled existing.quantity = .ok trigger)
    (legal : nextState? existing.lifecycleState trigger = some toState)
    (fills : Fills trigger existing.lifecycleState (Arithmetic.isZero existing.filledQuantity)
      (Arithmetic.isZero newFilled)) :
    let payload := transitionPayload omId .fill (placeId omId order) none trigger
      existing.lifecycleState toState
      { fillId := some fill.fillId
        fillQuantity := some fill.quantity
        fillPrice := some fill.price }
    Ends (persistAndApply omId payload ((MutationKey.fill order fill.fillId).text omId)) world
      (lagsBehind omId machineId (placeId omId order) (.fill order fill.fillId) payload trigger
        existing.lifecycleState world) := by
  intro payload
  have recorded : Recorded omId (Durable Number omId world.log) world.memory
      (.fill order fill.fillId) payload :=
    .fill order existing fill newFilled trigger toState tracked fresh sum chosen legal
  refine (told.driven.records (.inl rfl) recorded (told.ready.not_inLog_fill fresh)).mono ?_
    (fun _ _ ended => ended) (fun _ ended => ended)
  intro snapshot after records
  obtain ⟨known, found, reflects⟩ := told.lags
  rw [tracked] at found
  cases found
  obtain ⟨toldAfter, same⟩ := told.listens.told told.ready.reachable records
    (patches_fill · omId (placeId omId order) fill tracked legal sum) rfl
    (fun _ => ⟨rfl, _, rfl, rfl, rfl⟩) (Reflects.advance _ reflects legal fills)
  rw [← same] at toldAfter
  exact ⟨records, toldAfter⟩

theorem Driven.intent (driven : Driven omId machineId world)
    (records : Records omId key payload world snapshot after)
    (intent : payload.action = .amendRequested ∨ payload.action = .cancelAllRequested) :
    Driven omId machineId after := by
  have snapshots : after.memory.snapshots = world.memory.snapshots :=
    records.added.snapshots_intent driven.ready.reachable intent
  rcases driven with idle | ⟨clientOrderId, told⟩
  · left
    obtain ⟨now, entries, _, _⟩ := records.added
    refine { ready := records.ready, constructed := ?_, untracked := ?_, pending := ?_ }
    · rw [records.machine]
      exact construct_recorded idle.constructed entries
    · rw [snapshots]
      exact idle.untracked
    · rw [records.machine]
      exact idle.pending
  · right
    refine ⟨clientOrderId, { ready := records.ready, listens := ?_, lags := ?_ }⟩
    · exact told.listens.recorded told.ready.reachable records
        (patches_intent world.memory.snapshots · intent) (fun _ isSome => by cases isSome)
    · rw [snapshots, records.machine]
      exact told.lags

theorem Told.ingestStatus_spec (told : Told omId machineId clientOrderId none world)
    (status : OrderStatus) (exchangeOrderId : Option String)
    (taken : Taken (world.environment (world.clock + 1))) :
    Ends (ingestStatus omId clientOrderId status exchangeOrderId) world
      (drivenEnd (Option (OrderSnapshot Number)) omId machineId) := by
  have driven := told.driven
  unfold ingestStatus
  cases reported : statusToTrigger? status with
  | none => exact ends_bind_reads (reads_snapshotOf _) (fun _ => driven) (fun _ _ => ends_pure driven)
  | some trigger =>
      refine ends_bind_reads (reads_snapshotOf _) (fun _ => driven) ?_
      intro existing ran
      have found := snapshotOf_returned ran
      obtain ⟨order, rfl⟩ := told.ready.tracked found
      dsimp only
      cases legal : nextState? existing.lifecycleState trigger with
      | none =>
          dsimp only
          split
          · exact ends_pure driven
          · exact ends_raise driven
      | some toState =>
          have recorded := told.statusUpdate_spec { exchangeOrderId } (.inl rfl) found legal
            (.status status trigger reported) (told.ready.not_inLog_status found reported legal)
          dsimp only at recorded
          rw [text_status] at recorded
          exact lagsBehind_drive recorded taken (fun _ _ ended => ended) (fun _ ended => ended)
            fun _ _ _ _ _ toldLast _ => ends_pure toldLast.driven

theorem Told.recordFailure_spec (trigger : OrderLifecycleTrigger) (key : MutationKey)
    (told : Told omId machineId (placeId omId order) none world) (message : String)
    (silent : ∀ fromState unfilled, executionTrigger? trigger fromState unfilled = none)
    (keyed : ∀ state, StatusKey (Durable Number omId world.log) world.memory.nextSeq
      order state trigger none key)
    (unused : ∀ existing target,
      world.memory.snapshots.get? (placeId omId order) = some existing →
      nextState? existing.lifecycleState trigger = some target → ¬ InLog omId world.log key) :
    Ends (recordFailure omId (placeId omId order) trigger message (key.text omId)) world
      (drivenEnd Unit omId machineId) := by
  have driven := told.driven
  unfold recordFailure
  refine ends_bind_reads (reads_snapshotOf _) (fun _ => driven) ?_
  intro existing ran
  have found := snapshotOf_returned ran
  dsimp only
  cases legal : nextState? existing.lifecycleState trigger with
  | none => exact ends_pure driven
  | some toState =>
      have recorded := told.statusUpdate_spec { error := some message } (.inl rfl) found legal
        (keyed _) (unused existing toState found legal)
      refine ends_bind _ (recorded.mono (fun _ _ ended => ended) (fun _ _ ended => ended)
        (fun _ ended => ended)) ?_
      intro snapshot after ended
      have toldAfter := ended.2
      rw [silent] at toldAfter
      exact ends_pure toldAfter.driven

end

end TurtleExecution.OrderManager

/-
Placements that raise before the adapter is handed a request.

`place_order` records its event and drives the execution state machine before it builds
the request, and the request checks its arguments when it is built.
-/

import TurtleExecution.OrderManager.Runs
import TurtleExecution.Orchestration.Synchronization

set_option autoImplicit false

namespace TurtleExecution.OrderManager

open ExchangeAdapter SharedStore Process

section

variable {Number Stored : Type}

theorem driveRequestId_checked (clientOrderId : String) (trigger : ExecutionStateMachine.Trigger) :
    ExecutionStateMachine.requestIdError? (driveRequestId clientOrderId trigger) = none := by
  obtain ⟨digit, digits, isDigits, inked⟩ := hexdigest_cons (clientOrderId ++ ":" ++ trigger.value)
  have notBlank : PyText.isBlank (driveRequestId clientOrderId trigger) = false := by
    refine PyText.not_blank_of_mem ?_ inked
    rw [driveRequestId, isDigits, String.toList_ofList, List.take_succ_cons]
    exact List.mem_cons_self
  have short : ¬ ExecutionStateMachine.maxRequestIdLength <
      (driveRequestId clientOrderId trigger).length := by
    rw [driveRequestId, String.length_ofList, List.length_take,
      ExecutionStateMachine.maxRequestIdLength]
    omega
  unfold ExecutionStateMachine.requestIdError?
  rw [if_neg (by rw [notBlank]; exact Bool.false_ne_true), if_neg short]

private theorem mutate_handed {Value : Type} (request : Request Number)
    (result : Answer Number → Except CallError Value) (world : World Stored Number) :
    Ends (mutate request result) world
      { returned := fun _ after => after.handed = world.handed ++ [{ request, log := world.log }]
        raised := fun _ after => after.handed = world.handed ++ [{ request, log := world.log }]
        crashed := fun _ => True } := by
  refine ends_bind (fun _ after => after.handed = world.handed ++ [{ request, log := world.log }])
    ?_ ?_
  · unfold Ends
    change Post.Holds _ (Process.bind consult _ world)
    unfold Process.bind
    rw [consult_eq]
    cases (world.environment world.clock).crash with
    | true => trivial
    | false => rfl
  · intro answer after handed
    unfold ofCall
    cases result answer with
    | ok value => exact ends_pure handed
    | error error => exact ends_raise handed

variable [Sources Stored Number] [Arithmetic Number]

/-- The part of `place_order` behind the checks of its request. -/
def transmitPlacement (omId : String) (request : OrderRequest Number) :
    Operation Stored Number (Option (OrderSnapshot Number)) := do
  let order ← Process.tryCatch
    (mutate (.place request) Answer.order)
    (onAdapterError fun message =>
      recordFailure omId request.clientOrderId .submitFailed message
        (request.clientOrderId ++ ":submit_failed"))
  if order.status = .rejected then
    ingestStatus omId request.clientOrderId .rejected order.exchangeOrderId
  else
    ingestStatus omId request.clientOrderId .acknowledged order.exchangeOrderId

private theorem placeOrder_eq (omId : String) (arguments : PlaceArguments Number)
    (world : World Stored Number) :
    placeOrder omId arguments world =
      (persistAndApply omId
        (submitPayload omId (placeId omId world.memory.nextSeq) world.memory.nextSeq arguments)
        (placeId omId world.memory.nextSeq) >>= fun _ =>
      driveExecutionSm (placeId omId world.memory.nextSeq) .submit .new false >>= fun _ =>
      ofModel (placementRequest (placeId omId world.memory.nextSeq) arguments).validate >>= fun _ =>
      transmitPlacement omId (placementRequest (placeId omId world.memory.nextSeq) arguments) :
        Operation Stored Number (Option (OrderSnapshot Number))) world.bump := rfl

private theorem transmitPlacement_handed (omId : String) (request : OrderRequest Number)
    (world : World Stored Number) :
    Ends (transmitPlacement omId request) world
      { returned := fun _ _ => True
        raised := fun _ after => after.handed ≠ world.handed
        crashed := fun _ => True } := by
  have longer : ∀ {after : World Stored Number} {handed : Handed Stored Number},
      after.handed = world.handed ++ [handed] → after.handed ≠ world.handed := by
    intro after handed isLonger same
    rw [isLonger] at same
    simpa using congrArg List.length same
  have keeps : ∀ {Value : Type} {process : Operation Stored Number Value} {after},
      Preserves World.handed process → after.handed ≠ world.handed →
      Ends process after
        { returned := fun _ last => last.handed ≠ world.handed
          raised := fun _ last => last.handed ≠ world.handed
          crashed := fun _ => True } := by
    intro Value process after preserves different
    have moved : ∀ last : World Stored Number, last.handed = after.handed →
        last.handed ≠ world.handed := fun last same kept => different (same.symm.trans kept)
    exact (ends_of_view (preserves after)).mono (fun _ last => moved last) (fun _ last => moved last)
      fun _ _ => trivial
  apply ends_bind (fun _ after => after.handed ≠ world.handed)
  · apply ends_tryCatch (fun _ after => after.handed ≠ world.handed)
    · exact (mutate_handed _ _ world).mono (fun _ _ => longer) (fun _ _ => longer) fun _ ended => ended
    · intro error caught different
      exact keeps (preserves_onAdapterError
        (fun message => preserves_recordFailure_handed _ _ _ _ _) error) different
  · intro order after different
    split
    · exact (keeps (preserves_ingestStatus_handed _ _ _ _) different).mono
        (fun _ _ _ => trivial) (fun _ _ ended => ended) fun _ ended => ended
    · exact (keeps (preserves_ingestStatus_handed _ _ _ _) different).mono
        (fun _ _ _ => trivial) (fun _ _ ended => ended) fun _ ended => ended

/-- Nothing durable, no order in memory and no step of the execution state machine is
left, and a later synchronization ends as it would have ended. -/
structure Clean (omId : String) (world after : World Stored Number) : Prop where
  log : after.log = world.log
  snapshots : after.memory.snapshots = world.memory.snapshots
  machine : after.machine = world.machine
  inDoubt : after.memory.inDoubtClientOrderIds = world.memory.inDoubtClientOrderIds
  synchronize : ∀ environment clock,
    (synchronize omId { after with environment, clock }).1 =
      (synchronize omId { world with environment, clock }).1

private theorem clean_bump (omId : String) (world : World Stored Number) :
    Clean omId world world.bump.tick := by
  refine { log := rfl, snapshots := rfl, machine := rfl, inDoubt := rfl, synchronize := ?_ }
  intro environment clock
  let base : World Stored Number := { world with environment, clock }
  obtain ⟨last, same⟩ := unnumbered_synchronize omId base (world.memory.nextSeq + 1)
  have ends := congrArg Prod.fst same
  exact ends

/-- The event of the order is stored, and then the execution state machine refuses the
drive or the arguments make no request. -/
structure Derails (omId : String) (arguments : PlaceArguments Number) (world : World Stored Number) :
    Prop where
  alive : (world.environment world.clock).crash = false
  stored : (world.environment world.clock).appendFailure = none
  aliveAtDrive : (world.environment (world.clock + 1)).crash = false
  refused :
    ExecutionStateMachine.Refuses world.log world.machine
        (driveCall (placeId omId world.memory.nextSeq) .orderPlaced
          (world.environment (world.clock + 1))) ∨
      ∃ error, (placementRequest (placeId omId world.memory.nextSeq) arguments).validate =
        .error error

/-- A run that raises has raised cleanly or has handed a request over. -/
def RaisesCleanly (omId : String) (world : World Stored Number)
    (ran : Outcome OrderManagerError (Option (OrderSnapshot Number)) × World Stored Number) : Prop :=
  ∀ error after, ran = (.raised error, after) → after.handed = world.handed → Clean omId world after

variable {ran : Outcome OrderManagerError (Option (OrderSnapshot Number)) × World Stored Number}
  {world after : World Stored Number} {omId : String}

private theorem raisesCleanly_of_crashed (crashed : ran = (.crashed, after)) :
    RaisesCleanly omId world ran := by
  intro error other raised
  rw [crashed] at raised
  cases raised

private theorem not_raisesCleanly {error : OrderManagerError} (raised : ran = (.raised error, after))
    (handed : after.handed = world.handed)
    (longer : world.log.entries.length < after.log.entries.length) :
    ¬ RaisesCleanly omId world ran := by
  intro cleanly
  have clean := cleanly error after raised handed
  rw [clean.log] at longer
  omega

omit [Arithmetic Number] in
private theorem placementDrive_run (clientOrderId : String) (world : World Stored Number) :
    let call := driveCall clientOrderId .orderPlaced (world.environment world.clock)
    ((world.environment world.clock).crash = true ∧
      driveExecutionSm clientOrderId .submit .new false world = (.crashed, world.tick)) ∨
    ((world.environment world.clock).crash = false ∧
      ExecutionStateMachine.Refuses world.log world.machine call ∧
      ∃ error, driveExecutionSm clientOrderId .submit .new false world = (.raised error, world.tick)) ∨
    ((world.environment world.clock).crash = false ∧
      ¬ ExecutionStateMachine.Refuses world.log world.machine call ∧
      ∃ after, driveExecutionSm clientOrderId .submit .new false world = (.returned (), after) ∧
        after.handed = world.handed ∧ world.log.entries.length ≤ after.log.entries.length) := by
  intro call
  rw [driveExecutionSm_eq]
  dsimp only [executionTrigger?]
  cases alive : (world.environment world.clock).crash with
  | true => exact Or.inl ⟨rfl, rfl⟩
  | false =>
      right
      rw [if_neg Bool.false_ne_true]
      have refuses : ExecutionStateMachine.Refuses world.log world.machine call ↔ _ :=
        ExecutionStateMachine.refuses_iff (driveRequestId_checked clientOrderId .orderPlaced)
      by_cases refused : ExecutionStateMachine.Refuses world.log world.machine call
      · obtain ⟨error, raised, notIllegal⟩ := refuses.mp refused
        have unchanged := ExecutionStateMachine.transition_error raised
        refine Or.inl ⟨rfl, refused, .machine error, ?_⟩
        rw [raised, unchanged]
        cases error with
        | illegalTransition message => exact absurd rfl (notIllegal message)
        | valueError message => rfl
        | replayIntegrity eventId problem => rfl
        | store failure => rfl
      · refine Or.inr ⟨rfl, refused, ?_⟩
        have longer := (ExecutionStateMachine.transition_extends world.log world.machine call).length_le
        generalize ExecutionStateMachine.transition world.log world.machine call = outcome
          at refuses longer ⊢
        obtain ⟨answer, log, machine⟩ := outcome
        cases answer with
        | ok result => exact ⟨_, rfl, rfl, longer⟩
        | error error =>
            cases error with
            | illegalTransition message => exact ⟨_, rfl, rfl, longer⟩
            | valueError message =>
                exact absurd (refuses.mpr ⟨_, rfl, fun _ same => nomatch same⟩) refused
            | replayIntegrity eventId problem =>
                exact absurd (refuses.mpr ⟨_, rfl, fun _ same => nomatch same⟩) refused
            | store failure =>
                exact absurd (refuses.mpr ⟨_, rfl, fun _ same => nomatch same⟩) refused

/-- The append of the order's event: the process dies at it, it fails, or the event is
stored and applied. -/
theorem placementEvent_run {world : World Stored Number}
    (ready : Ready (Watch.plain False omId) world) (arguments : PlaceArguments Number) :
    let submit := persistAndApply omId
      (submitPayload omId (placeId omId world.memory.nextSeq) world.memory.nextSeq arguments)
      (placeId omId world.memory.nextSeq) world.bump
    ((world.environment world.clock).crash = true ∧ submit = (.crashed, world.bump.tick)) ∨
    ((world.environment world.clock).crash = false ∧
      ∃ failure, (world.environment world.clock).appendFailure = some failure ∧
        submit = (.raised (.store failure), world.bump.tick)) ∨
    ((world.environment world.clock).crash = false ∧
      (world.environment world.clock).appendFailure = none ∧
      ∃ snapshot after event, submit = (.returned snapshot, after) ∧
        after.log.entries = world.log.entries ++ [event] ∧
        event.idempotencyKey = some (namespacedKey omId (placeId omId world.memory.nextSeq)) ∧
        after.machine = world.machine ∧ after.handed = world.handed ∧
        after.setting = (world.environment, world.clock + 1)) := by
  intro submit
  have unused : ¬ InLog omId world.bump.log (.submit world.memory.nextSeq) :=
    ready.not_inLog_nextSeq fun _ spent => spent
  obtain ⟨log, entries, outcome⟩ := persistAndApply_eq world.bump
    (submitPayload omId (placeId omId world.memory.nextSeq) world.memory.nextSeq arguments) unused
  rw [text_submit] at outcome
  change submit = if (world.environment world.clock).crash then _ else _ at outcome
  cases alive : (world.environment world.clock).crash with
  | true =>
      rw [alive, if_pos rfl] at outcome
      exact Or.inl ⟨rfl, outcome⟩
  | false =>
      rw [alive, if_neg Bool.false_ne_true] at outcome
      right
      have answers : (world.bump.environment world.bump.clock).appendFailure =
          (world.environment world.clock).appendFailure := rfl
      rw [answers] at outcome
      cases failed : (world.environment world.clock).appendFailure with
      | some failure =>
          rw [failed] at outcome
          exact Or.inl ⟨rfl, failure, rfl, outcome⟩
      | none =>
          rw [failed] at outcome
          have recorded : Recorded omId (Durable Number omId world.log) world.memory
              (.submit world.memory.nextSeq)
              (submitPayload omId (placeId omId world.memory.nextSeq) world.memory.nextSeq
                arguments) := .submit arguments
          obtain ⟨patch, effect, applied⟩ := recorded.applied ready.reachable
            (world.environment world.clock).now
          have same := applyEvent_bump ready recorded rfl (world.environment world.clock).now
          have ok : (world.bump.memory.applyEvent (recordedEvent omId world.bump.log
              (.submit world.memory.nextSeq) _ (world.bump.environment world.bump.clock).now)
              (submitPayload omId (placeId omId world.memory.nextSeq) world.memory.nextSeq
                arguments)).1 = .ok _ :=
            (congrArg Prod.fst same).trans (congrArg Prod.fst applied)
          dsimp only at outcome
          rw [ok] at outcome
          have keyed : (recordedEvent omId world.bump.log (.submit world.memory.nextSeq)
              (submitPayload omId (placeId omId world.memory.nextSeq) world.memory.nextSeq arguments)
              (world.environment world.clock).now).idempotencyKey =
                some (namespacedKey omId (placeId omId world.memory.nextSeq)) := by
            rw [← text_submit]
            rfl
          exact Or.inr ⟨rfl, rfl, _, { world.bump.tick with log, memory := _ }, _, outcome, entries,
            keyed, rfl, rfl, rfl⟩

private theorem placeOrder_raisesCleanly {world : World Stored Number}
    (ready : Ready (Watch.plain False omId) world) (arguments : PlaceArguments Number) :
    RaisesCleanly omId world (placeOrder omId arguments world) ↔ ¬ Derails omId arguments world := by
  rw [placeOrder_eq]
  rcases placementEvent_run ready arguments with ⟨dead, ran⟩ | ⟨alive, failure, failed, ran⟩ |
    ⟨alive, stored, snapshot, after, event, ran, entries, keyed, machine, handed, setting⟩
  · apply iff_of_true
    · exact raisesCleanly_of_crashed (bind_crashed ran)
    · intro derails
      rw [derails.alive] at dead
      cases dead
  · apply iff_of_true
    · intro error last raised _
      rw [bind_raised ran] at raised
      cases raised
      exact clean_bump omId world
    · intro derails
      rw [derails.stored] at failed
      cases failed
  · obtain ⟨environment, clock⟩ := Prod.mk.inj setting
    have drive := placementDrive_run (placeId omId world.memory.nextSeq) after
    have otherKey : event.idempotencyKey ≠ some (ExecutionStateMachine.namespacedKey
        after.machine.machineId (driveCall (placeId omId world.memory.nextSeq) .orderPlaced
          (after.environment after.clock)).requestId) := by
      rw [keyed]
      exact fun same => machineKey_ne _ _ _ _ (Option.some.inj same).symm
    have refuses := ExecutionStateMachine.refuses_concat entries otherKey
    dsimp only at drive
    rw [refuses, machine, environment, clock] at drive
    have grown : world.log.entries.length < after.log.entries.length := by
      rw [entries, List.length_append]
      simp
    rw [bind_returned ran]
    rcases drive with ⟨dead, drove⟩ | ⟨aliveAtDrive, refused, error, drove⟩ |
      ⟨aliveAtDrive, accepted, driven, drove, handedToo, longer⟩
    · apply iff_of_true
      · exact raisesCleanly_of_crashed (bind_crashed drove)
      · intro derails
        rw [derails.aliveAtDrive] at dead
        cases dead
    · apply iff_of_false
      · exact not_raisesCleanly (bind_raised drove) handed grown
      · intro notDerails
        exact notDerails ⟨alive, stored, aliveAtDrive, Or.inl refused⟩
    · rw [bind_returned drove]
      cases valid : (placementRequest (placeId omId world.memory.nextSeq) arguments).validate with
      | error error =>
          apply iff_of_false
          · have refused : (ofModel (.error error) : Operation Stored Number Unit) driven =
                (.raised (.request error), driven) := rfl
            exact not_raisesCleanly (bind_raised refused) (handedToo.trans handed) (by omega)
          · intro notDerails
            exact notDerails ⟨alive, stored, aliveAtDrive, Or.inr ⟨error, valid⟩⟩
      | ok _ =>
          apply iff_of_true
          · intro error last raised same
            have ends := transmitPlacement_handed omId
              (placementRequest (placeId omId world.memory.nextSeq) arguments) driven
            have accepts : (ofModel (.ok ()) : Operation Stored Number Unit) driven =
                (.returned (), driven) := rfl
            rw [bind_returned accepts] at raised
            unfold Ends at ends
            rw [raised] at ends
            exact absurd (same.trans (handedToo.trans handed).symm) ends
          · intro derails
            rcases derails.refused with refused | ⟨error, invalid⟩
            · exact accepted refused
            · rw [valid] at invalid
              cases invalid

/-- In every state that a run reaches, a placement that raises before the adapter is
handed its request has left nothing behind, unless it derails. -/
theorem run_placesCleanly {omId : String} {memory : Memory Number}
    (constructed : construct omId (Ledger.empty : Log Stored) = .ok memory)
    (machine : ExecutionStateMachine.Machine) (environment : Nat → Answer Number)
    (steps : List (Step omId Stored Number)) (arguments : PlaceArguments Number) :
    let final := (System.start memory machine environment : System Stored Number).run steps
    final.alive = true →
      (RaisesCleanly omId final.world (placeOrder omId arguments final.world) ↔
        ¬ Derails omId arguments final.world) := by
  intro final alive
  have sound : final.Sound (Watch.plain False omId) :=
    (System.start_sound constructed machine fun impossible => impossible.elim).run steps
  exact placeOrder_raisesCleanly (sound.ready alive) arguments

end

def emptyPlacement : PlaceArguments ℚ := { marketBuy with quantity := 0 }

def idleSystem : System OrderStored ℚ :=
  System.start Memory.initial freshMachine (dyingEnvironment 3)

private theorem validate_of_nonpositive {request : OrderRequest ℚ}
    (nonpositive : request.quantity ≤ 0) :
    ∃ error, request.validate = .error error := by
  have refused : requirePositive "quantity must be a positive Decimal" request.quantity =
      .error (.valueError "quantity must be a positive Decimal") := by
    have compared : Arithmetic.le request.quantity (Arithmetic.zero : ℚ) = .ok true :=
      congrArg Except.ok (decide_eq_true nonpositive)
    rw [requirePositive, compared]
  unfold OrderRequest.validate
  cases requireText "client_order_id" request.clientOrderId with
  | error error => exact ⟨error, rfl⟩
  | ok _ =>
      refine ⟨.valueError "quantity must be a positive Decimal", ?_⟩
      rw [refused]
      rfl

private theorem emptyPlacement_derails : Derails "main" emptyPlacement idleSystem.world :=
  { alive := rfl
    stored := rfl
    aliveAtDrive := rfl
    refused := Or.inr (validate_of_nonpositive (le_refl (0 : ℚ))) }

/-- The event of an order of quantity zero stays in the log when its request is refused. -/
theorem not_placesCleanly : ¬ ∀ (steps : List (Step "main"
      OrderStored ℚ)) (arguments : PlaceArguments ℚ),
    (idleSystem.run steps).alive = true →
      RaisesCleanly "main" (idleSystem.run steps).world
        (placeOrder "main" arguments (idleSystem.run steps).world) := by
  intro cleanly
  have sound : idleSystem.Sound (Watch.plain False "main") :=
    System.start_sound rfl _ fun impossible => impossible.elim
  exact (placeOrder_raisesCleanly (sound.ready rfl) emptyPlacement).mp
    (cleanly [] emptyPlacement rfl) emptyPlacement_derails

theorem run_placesCleanly_interrupted :
    let final := (System.start Memory.initial freshMachine (dyingEnvironment 1)).run interruptedPlace
    RaisesCleanly "main" final.world (placeOrder "main" emptyPlacement final.world) ↔
      ¬ Derails "main" emptyPlacement final.world :=
  run_placesCleanly rfl freshMachine (dyingEnvironment 1)
    interruptedPlace emptyPlacement rfl

end TurtleExecution.OrderManager

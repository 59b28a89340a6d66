/-
The operations refine the moves.

From a reachable state every operation ends in a reachable state, returned or
raised, and dies in one that a restart recovers.
-/

import TurtleExecution.OrderManager.Frames

set_option autoImplicit false

namespace TurtleExecution.OrderManager

open ExchangeAdapter SharedStore Process

inductive Call (Number : Type)
  | place (arguments : PlaceArguments Number)
  | amend (clientOrderId : String) (newQuantity newLimitPrice : Option Number)
  | cancel (clientOrderId : String)
  | cancelAll (symbol : Option Symbol)
  | reportFill (clientOrderId : String) (fill : Fill Number)
  | reportOrderUpdate (clientOrderId : String) (order : Order Number)
  | resync (clientOrderId : String)

section

variable {Number Stored : Type}

def Call.delay : Call Number → Nat
  | place _ => 2
  | amend _ _ _ => 1
  | cancel _ => 1
  | cancelAll _ => 1
  | _ => 0

def World.answer (world : World Stored Number) (call : Call Number) : Answer Number :=
  world.environment (world.clock + call.delay)

def placementRequest (clientOrderId : String) (arguments : PlaceArguments Number) :
    OrderRequest Number :=
  { clientOrderId
    symbol := arguments.symbol
    side := arguments.side
    orderType := arguments.orderType
    quantity := arguments.quantity
    limitPrice := arguments.limitPrice
    timeInForce := arguments.timeInForce
    reduceOnly := arguments.reduceOnly }

def findRequest (existing : OrderSnapshot Number) : OrderRequest Number :=
  { clientOrderId := existing.clientOrderId
    symbol := existing.symbol
    side := existing.side
    orderType := existing.orderType
    quantity := existing.quantity
    limitPrice := existing.limitPrice
    timeInForce := existing.timeInForce
    reduceOnly := existing.reduceOnly }

def Call.Requests (memory : Memory Number) : Call Number → Prop
  | place _ => True
  | amend clientOrderId newQuantity newLimitPrice =>
      (newQuantity ≠ none ∨ newLimitPrice ≠ none) ∧ ∃ existing,
        memory.snapshots.get? clientOrderId = some existing ∧
        (existing.lifecycleState = .acknowledged ∨ existing.lifecycleState = .partiallyFilled) ∧
        existing.exchangeOrderId ≠ none
  | cancel clientOrderId => ∃ existing, memory.snapshots.get? clientOrderId = some existing ∧
      nextState? existing.lifecycleState .cancelRequested ≠ none ∧ existing.exchangeOrderId ≠ none
  | cancelAll _ => True
  | _ => False

def Call.Asks [Arithmetic Number] (omId : String) (memory : Memory Number) : Call Number → Prop
  | place arguments => (placementRequest (placeId omId memory.nextSeq) arguments).validate = .ok ()
  | amend clientOrderId newQuantity newLimitPrice => ∃ existing exchangeOrderId,
      memory.snapshots.get? clientOrderId = some existing ∧
      (existing.lifecycleState = .acknowledged ∨ existing.lifecycleState = .partiallyFilled) ∧
      existing.exchangeOrderId = some exchangeOrderId ∧
      AmendRequest.validate
        { requestId := makeId omId memory.nextSeq "amend"
          exchangeOrderId
          newQuantity
          newLimitPrice } = .ok ()
  | cancel clientOrderId => ∃ existing exchangeOrderId,
      memory.snapshots.get? clientOrderId = some existing ∧
      nextState? existing.lifecycleState .cancelRequested ≠ none ∧
      existing.exchangeOrderId = some exchangeOrderId ∧
      CancelRequest.validate
        { requestId := makeId omId memory.nextSeq "cancel", exchangeOrderId } = .ok ()
  | cancelAll _ => True
  | resync clientOrderId => ∃ existing, memory.snapshots.get? clientOrderId = some existing ∧
      (existing.exchangeOrderId = none → (findRequest existing).validate = .ok ())
  | _ => False

/-- An order that `cancel_all` closes where the venue reports it. -/
def Closable (memory : Memory Number) (clientOrderId : String) : Prop :=
  ∃ existing, memory.snapshots.get? clientOrderId = some existing ∧
    (existing.lifecycleState = .acknowledged ∨ existing.lifecycleState = .partiallyFilled ∨
      existing.lifecycleState = .cancelPending)

/-- What `resync_order` is told of a tracked order: it is looked up by its exchange order id, if it
has one. -/
def Answer.resynced (answer : Answer Number) (existing : OrderSnapshot Number)
    (report : Order Number) : Prop :=
  match existing.exchangeOrderId with
  | none => answer.found = .ok (some report)
  | some _ => answer.order = .ok report

/-- The keys and events that a call may record, given the adapter's answer to it. -/
inductive Caused [Arithmetic Number] (omId : String) (memory : Memory Number) (answer : Answer Number) :
    Call Number → MutationKey → Payload Number → Prop
  | submit (arguments : PlaceArguments Number) :
      Caused omId memory answer (.place arguments) (.submit memory.nextSeq)
        (submitPayload omId (placeId omId memory.nextSeq) memory.nextSeq arguments)
  | submitFailed (arguments : PlaceArguments Number) (message : String)
      (fromState toState : OrderLifecycleState)
      (answered : answer.order = .error (.exchangeAdapter message))
      (asks : (Call.place arguments).Asks omId memory) :
      Caused omId memory answer (.place arguments) (.submitFailed memory.nextSeq)
        (transitionPayload omId .statusUpdate (placeId omId memory.nextSeq) none .submitFailed
          fromState toState { error := some message })
  | placed (arguments : PlaceArguments Number) (report : Order Number)
      (trigger : OrderLifecycleTrigger) (fromState toState : OrderLifecycleState)
      (answered : answer.order = .ok report)
      (reported : statusToTrigger?
        (if report.status = .rejected then .rejected else .acknowledged) = some trigger)
      (asks : (Call.place arguments).Asks omId memory) :
      Caused omId memory answer (.place arguments) (.status memory.nextSeq trigger fromState)
        (transitionPayload omId .statusUpdate (placeId omId memory.nextSeq) none trigger fromState
          toState { exchangeOrderId := report.exchangeOrderId })
  | amendRequested (order : Nat) (newQuantity newLimitPrice : Option Number)
      (details : Details Number)
      (requests : (Call.amend (placeId omId order) newQuantity newLimitPrice).Requests memory) :
      Caused omId memory answer (.amend (placeId omId order) newQuantity newLimitPrice)
        (.amendRequested order memory.nextSeq)
        (plainPayload omId .amendRequested (placeId omId order) (some memory.nextSeq) details)
  | amended (order : Nat) (newQuantity newLimitPrice : Option Number)
      (report : Order Number) (answered : answer.order = .ok report)
      (asks : (Call.amend (placeId omId order) newQuantity newLimitPrice).Asks omId memory) :
      Caused omId memory answer (.amend (placeId omId order) newQuantity newLimitPrice)
        (.amendApplied order memory.nextSeq)
        (plainPayload omId .amend (placeId omId order) none
          { newQuantity := some report.quantity
            newLimitPrice := some report.limitPrice })
  | cancelRequested (order : Nat) (fromState toState : OrderLifecycleState)
      (details : Details Number)
      (requests : (Call.cancel (placeId omId order)).Requests memory) :
      Caused omId memory answer (.cancel (placeId omId order)) (.cancel order memory.nextSeq)
        (transitionPayload omId .statusUpdate (placeId omId order) (some memory.nextSeq)
          .cancelRequested fromState toState details)
  | cancelFailed (order : Nat) (message : String) (fromState toState : OrderLifecycleState)
      (answered : answer.order = .error (.exchangeAdapter message))
      (asks : (Call.cancel (placeId omId order)).Asks omId memory) :
      Caused omId memory answer (.cancel (placeId omId order)) (.cancelFailed order memory.nextSeq)
        (transitionPayload omId .statusUpdate (placeId omId order) none .cancelFailed fromState
          toState { error := some message })
  | cancelAnswered (order : Nat) (report : Order Number) (trigger : OrderLifecycleTrigger)
      (fromState toState : OrderLifecycleState) (answered : answer.order = .ok report)
      (reported : statusToTrigger? report.status = some trigger)
      (asks : (Call.cancel (placeId omId order)).Asks omId memory) (pending : fromState = .cancelPending) :
      Caused omId memory answer (.cancel (placeId omId order)) (.status order trigger fromState)
        (transitionPayload omId .statusUpdate (placeId omId order) none trigger fromState toState
          { exchangeOrderId := report.exchangeOrderId })
  | cancelAllRequested (symbol : Option Symbol) (details : Details Number) :
      Caused omId memory answer (.cancelAll symbol) (.cancelAll memory.nextSeq)
        (plainPayload omId .cancelAllRequested "*" (some memory.nextSeq) details)
  | cancelAllPending (symbol : Option Symbol) (reports : List (Order Number)) (report : Order Number)
      (order : Nat) (fromState toState : OrderLifecycleState) (details : Details Number)
      (answered : answer.orders = .ok reports) (member : report ∈ reports)
      (named : report.clientOrderId = placeId omId order)
      (closable : Closable memory report.clientOrderId) :
      Caused omId memory answer (.cancelAll symbol) (.cancelAllPending order memory.nextSeq)
        (transitionPayload omId .statusUpdate report.clientOrderId none .cancelRequested fromState
          toState details)
  | cancelAllConfirmed (symbol : Option Symbol) (reports : List (Order Number))
      (report : Order Number) (order : Nat) (fromState toState : OrderLifecycleState)
      (details : Details Number) (answered : answer.orders = .ok reports) (member : report ∈ reports)
      (named : report.clientOrderId = placeId omId order)
      (closable : Closable memory report.clientOrderId) :
      Caused omId memory answer (.cancelAll symbol) (.cancelAllConfirmed order memory.nextSeq)
        (transitionPayload omId .statusUpdate report.clientOrderId none .cancelConfirmed fromState
          toState details)
  | fill (order : Nat) (fill : Fill Number) (existing : OrderSnapshot Number) (newFilled : Number)
      (trigger : OrderLifecycleTrigger) (toState : OrderLifecycleState)
      (tracked : memory.snapshots.get? (placeId omId order) = some existing)
      (fresh : fill.fillId ∉ memory.fillIds (placeId omId order))
      (sum : Arithmetic.add existing.filledQuantity fill.quantity = .ok newFilled)
      (triggered : fillTrigger newFilled existing.quantity = .ok trigger)
      (legal : nextState? existing.lifecycleState trigger = some toState) :
      Caused omId memory answer (.reportFill (placeId omId order) fill) (.fill order fill.fillId)
        (transitionPayload omId .fill (placeId omId order) none trigger existing.lifecycleState
          toState
          { fillId := some fill.fillId
            fillQuantity := some fill.quantity
            fillPrice := some fill.price })
  | updated (order : Nat) (report : Order Number) (trigger : OrderLifecycleTrigger)
      (fromState toState : OrderLifecycleState)
      (reported : statusToTrigger? report.status = some trigger)
      (existing : OrderSnapshot Number)
      (tracked : memory.snapshots.get? (placeId omId order) = some existing)
      (current : existing.lifecycleState = fromState) :
      Caused omId memory answer (.reportOrderUpdate (placeId omId order) report)
        (.status order trigger fromState)
        (transitionPayload omId .statusUpdate (placeId omId order) none trigger fromState toState
          { exchangeOrderId := report.exchangeOrderId })
  | resynced (order : Nat) (report : Order Number) (trigger : OrderLifecycleTrigger)
      (fromState toState : OrderLifecycleState)
      (reported : statusToTrigger? report.status = some trigger)
      (asks : (Call.resync (placeId omId order)).Asks omId memory) (existing : OrderSnapshot Number)
      (tracked : memory.snapshots.get? (placeId omId order) = some existing)
      (answered : answer.resynced existing report) (current : existing.lifecycleState = fromState) :
      Caused omId memory answer (.resync (placeId omId order)) (.status order trigger fromState)
        (transitionPayload omId .statusUpdate (placeId omId order) none trigger fromState toState
          { exchangeOrderId := report.exchangeOrderId })

theorem reads_snapshotOf (clientOrderId : String) :
    Reads (snapshotOf clientOrderId : Operation Stored Number (OrderSnapshot Number)) := by
  intro world
  change (∃ value, ofExcept (required clientOrderId (world.memory.snapshots.get? clientOrderId))
    world = _) ∨ _
  exact reads_ofExcept _ world

variable {existing : OrderSnapshot Number}

theorem snapshotOf_returned {clientOrderId : String} {world : World Stored Number}
    (ran : snapshotOf clientOrderId world = (.returned existing, world)) :
    world.memory.snapshots.get? clientOrderId = some existing := by
  change ofExcept (required clientOrderId (world.memory.snapshots.get? clientOrderId)) world = _
    at ran
  cases found : world.memory.snapshots.get? clientOrderId with
  | none =>
      rw [found] at ran
      cases ran
  | some snapshot =>
      rw [found] at ran
      cases ran
      rfl

theorem reads_trackedOrder (clientOrderId : String) :
    Reads (trackedOrder clientOrderId : Operation Stored Number (OrderSnapshot Number)) := by
  intro world
  rw [trackedOrder_eq]
  cases world.memory.snapshots.get? clientOrderId with
  | none => exact Or.inr ⟨_, rfl⟩
  | some existing => exact Or.inl ⟨_, rfl⟩

theorem trackedOrder_returned {clientOrderId : String} {world : World Stored Number}
    (ran : trackedOrder clientOrderId world = (.returned existing, world)) :
    world.memory.snapshots.get? clientOrderId = some existing := by
  rw [trackedOrder_eq] at ran
  cases found : world.memory.snapshots.get? clientOrderId with
  | none =>
      rw [found] at ran
      cases ran
  | some snapshot =>
      rw [found] at ran
      cases ran
      rfl

private theorem asked_of_setting {world : World Stored Number} {environment : Nat → Answer Number}
    {clock : Nat} (same : world.setting = (environment, clock)) :
    world.environment world.clock = environment clock := by
  cases same
  rfl

variable [Sources Stored Number]

def ClosedBy (omId : String) (request : Nat) (world : World Stored Number) (order : Nat) : Prop :=
  InLog omId world.log (.cancelAllPending order request) ∨
      InLog omId world.log (.cancelAllConfirmed order request) →
    ∃ existing, world.memory.snapshots.get? (placeId omId order) = some existing ∧
      isTerminal existing.lifecycleState = true

theorem ClosedBy.undisturbed {omId : String} {request order : Nat}
    {before after : World Stored Number} (closed : ClosedBy omId request before order)
    (undisturbed : Undisturbed omId before after) : ClosedBy omId request after order := by
  unfold ClosedBy
  rw [undisturbed.memory, undisturbed.inLog, undisturbed.inLog]
  exact closed

variable [Arithmetic Number]
  {omId : String} {watch : Watch omId Stored Number} {world : World Stored Number}

theorem Ready.not_handed (ready : Ready watch world) (suffix : String) :
    ∀ earlier ∈ world.handed, earlier.request.id ≠ makeId omId world.memory.nextSeq suffix := by
  intro earlier member same
  obtain ⟨⟨replayed, replays, agrees⟩, accounted⟩ := ready.reachable.consistent
  obtain ⟨seq, known, identified, event, inLog, durable⟩ := accounted.recorded earlier member
  have numbered := (makeId_injective (identified.symm.trans same)).1
  have small := replays.durable seq
    ⟨event, (accounted.logged earlier member).mem inLog, durable⟩
  rw [numbered] at small
  exact Nat.lt_irrefl _ (Nat.lt_of_lt_of_le small agrees.nextSeq_le)

def Permits {omId : String} (watch : Watch omId Stored Number) (world : World Stored Number)
    (call : Call Number) : Prop :=
  ∀ key payload, Caused omId world.memory (world.answer call) call key payload →
    watch.permitted key payload

variable {trigger : OrderLifecycleTrigger} {toState : OrderLifecycleState} {Value : Type}

private theorem statusUpdate_spec (ready : Ready watch world) {order : Nat} {key : MutationKey}
    (details : Details Number)
    (tracked : world.memory.snapshots.get? (placeId omId order) = some existing)
    (legal : nextState? existing.lifecycleState trigger = some toState)
    (keyed : StatusKey (Durable Number omId world.log) world.memory.nextSeq order
      existing.lifecycleState trigger none key)
    (allowed : watch.permitted key (transitionPayload omId .statusUpdate (placeId omId order) none
      trigger existing.lifecycleState toState details)) (unused : ¬ InLog omId world.log key) :
    Ends
      (persistAndApply omId
        (transitionPayload omId .statusUpdate (placeId omId order) none trigger
          existing.lifecycleState toState details)
        (key.text omId))
      world (anyEnd (Option (OrderSnapshot Number)) watch) :=
  (persistAndApply_spec ready
    (.statusUpdate order existing trigger toState none key details tracked legal keyed) allowed
    unused).mono
    (fun _ _ ended => ended.1) (fun _ _ ended => ended.1) (fun _ ended => ended)

private theorem ingestStatus_spec (ready : Ready watch world) (clientOrderId : String)
    (status : OrderStatus)
    (exchangeOrderId : Option String)
    (allowed : ∀ order existing trigger toState, clientOrderId = placeId omId order →
      world.memory.snapshots.get? (placeId omId order) = some existing →
      statusToTrigger? status = some trigger →
      watch.permitted (.status order trigger existing.lifecycleState)
        (transitionPayload omId .statusUpdate clientOrderId none trigger existing.lifecycleState
          toState { exchangeOrderId })) :
    Ends (ingestStatus omId clientOrderId status exchangeOrderId) world
      (anyEnd (Option (OrderSnapshot Number)) watch) := by
  unfold ingestStatus
  cases reported : statusToTrigger? status with
  | none => exact ends_bind_reads (reads_snapshotOf _) (fun _ => ready) (fun _ _ => ends_pure ready)
  | some trigger =>
      refine ends_bind_reads (reads_snapshotOf _) (fun _ => ready) ?_
      intro existing ran
      have found := snapshotOf_returned ran
      obtain ⟨order, rfl⟩ := ready.tracked found
      dsimp only
      cases legal : nextState? existing.lifecycleState trigger with
      | none =>
          dsimp only
          split
          · exact ends_pure ready
          · exact ends_raise ready
      | some toState =>
          have recorded := statusUpdate_spec ready { exchangeOrderId } found legal
            (.status status trigger reported) (allowed order existing trigger toState rfl found reported)
            (ready.not_inLog_status found reported legal)
          rw [text_status] at recorded
          refine ends_bind (fun _ after => Ready watch after) recorded ?_
          intro snapshot after readyAfter
          refine ends_bind (fun _ last => Ready watch last)
            ((driveExecutionSm_spec readyAfter _ _ _ _).mono (fun _ _ ended => ended.1)
              (fun _ _ ended => ended.1) (fun _ ended => ended)) ?_
          exact fun _ last readyLast => ends_pure readyLast

private theorem recordFailure_spec (ready : Ready watch world) (order : Nat)
    (trigger : OrderLifecycleTrigger)
    (message : String) (key : MutationKey)
    (keyed : ∀ state, StatusKey (Durable Number omId world.log) world.memory.nextSeq
      order state trigger none key)
    (allowed : ∀ fromState toState, watch.permitted key (transitionPayload omId .statusUpdate
      (placeId omId order) none trigger fromState toState { error := some message }))
    (unused : ∀ existing target,
      world.memory.snapshots.get? (placeId omId order) = some existing →
      nextState? existing.lifecycleState trigger = some target → ¬ InLog omId world.log key) :
    Ends (recordFailure omId (placeId omId order) trigger message (key.text omId)) world
      (anyEnd Unit watch) := by
  unfold recordFailure
  refine ends_bind_reads (reads_snapshotOf _) (fun _ => ready) ?_
  intro existing ran
  have found := snapshotOf_returned ran
  dsimp only
  cases legal : nextState? existing.lifecycleState trigger with
  | none => exact ends_pure ready
  | some toState =>
      refine ends_bind (fun _ after => Ready watch after)
        (statusUpdate_spec ready { error := some message } found legal (keyed _) (allowed _ _)
          (unused existing toState found legal)) ?_
      exact fun _ after readyAfter => ends_pure readyAfter

private theorem onAdapterError_spec {record : String → Operation Stored Number Unit}
    (ready : Ready watch world) (error : OrderManagerError)
    (recorded : ∀ message, error = .call (.exchangeAdapter message) →
      Ends (record message) world (anyEnd Unit watch))
    (returned : Value → World Stored Number → Prop) :
    Ends (onAdapterError record error) world { anyEnd Value watch with returned } := by
  unfold onAdapterError
  split
  · rename_i message
    exact ends_bind (fun _ after => Ready watch after) (recorded message rfl)
      (fun _ after readyAfter => ends_raise readyAfter)
  · exact ends_raise ready

theorem mutate_spec (ready : Ready watch world) {request : Request Number} {seq : Nat}
    {suffix : String} (identified : request.id = makeId omId seq suffix)
    (durable : Durable Number omId world.log seq)
    (fresh : ∀ earlier ∈ world.handed, earlier.request.id ≠ request.id)
    (result : Answer Number → Except CallError Value) :
    Ends (mutate request result) world
      { returned := fun value after => (Ready watch after ∧ after.log = world.log ∧
          after.memory = world.memory) ∧ result (world.environment world.clock) = .ok value
        raised := fun error after => (Ready watch after ∧ after.log = world.log ∧
          after.memory = world.memory) ∧
            ∃ raised, result (world.environment world.clock) = .error raised ∧ error = .call raised
        crashed := fun after => Recoverable watch after } := by
  have handed : Ends (mutate request result) world
      { returned := fun _ after => Ready watch after ∧ after.log = world.log ∧
          after.memory = world.memory
        raised := fun _ after => Ready watch after ∧ after.log = world.log ∧
          after.memory = world.memory
        crashed := fun after => Recoverable watch after } := by
    refine ends_bind (fun _ after => Ready watch after ∧ after.log = world.log ∧
      after.memory = world.memory) ((hand_spec ready identified durable fresh).mono
        (fun _ _ ended => ended) (fun _ _ never => never.elim) (fun _ ended => ended)) ?_
    intro answer after ended
    unfold Ends
    rcases reads_ofExcept ((result answer).mapError OrderManagerError.call) after with
      ⟨value, ran⟩ | ⟨error, ran⟩
    · change Post.Holds _ (ofExcept _ after)
      rw [ran]
      exact ended
    · change Post.Holds _ (ofExcept _ after)
      rw [ran]
      exact ended
  exact (handed.and (mutate_answers request result world)).mono (fun _ _ ended => ended)
    (fun _ _ ended => ended) (fun _ ended => ended.1)

omit [Sources Stored Number] [Arithmetic Number] in
private theorem ofModel_returned {result : Except ModelError Unit} {world : World Stored Number}
    {value : Unit} (ran : ofModel result world = (.returned value, world)) : result = .ok () := by
  cases result with
  | ok _ => rfl
  | error error => cases ran

private theorem placeOrder_spec (ready : Ready watch world) (arguments : PlaceArguments Number)
    (permits : Permits watch world (.place arguments)) :
    Ends (placeOrder omId arguments) world
      (anyEnd (Option (OrderSnapshot Number)) watch) := by
  unfold placeOrder
  refine ends_bind_of_returned (nextId_eq omId "place" world) ?_
  have unused : ¬ InLog omId world.log (.submit world.memory.nextSeq) :=
    ready.not_inLog_nextSeq fun _ spent => spent
  have submitted := (persistAndApply_bump ready (.submit arguments)
    (permits _ _ (.submit arguments)) unused rfl).and
      (ends_of_view (persistAndApply_setting omId _ _ world.bump))
  rw [text_submit] at submitted
  have notHanded := ready.not_handed "place"
  refine ends_bind (fun _ after => (Ready watch after ∧ RecordedIn omId _ _ world.core after.core) ∧
    after.setting = (world.environment, world.clock + 1))
    (submitted.mono (fun _ _ ended => ended) (fun _ _ ended => ended.1) (fun _ ended => ended.1)) ?_
  rintro _ after ⟨⟨readyAfter, added⟩, settingAfter⟩
  have durable : Durable Number omId after.log world.memory.nextSeq :=
    added.durable rfl (Or.inr rfl)
  have notHandedAfter : ∀ earlier ∈ after.handed,
      earlier.request.id ≠ makeId omId world.memory.nextSeq "place" := by
    rw [show after.handed = world.handed from added.handed]
    exact notHanded
  have drives := (driveExecutionSm_spec readyAfter (placeId omId world.memory.nextSeq) .submit .new
    false).and (ends_of_view (driveExecutionSm_setting rfl after))
  refine ends_bind (fun _ driven => (Ready watch driven ∧ Undisturbed omId after driven) ∧
    driven.setting = (after.environment, after.clock + 1))
    (drives.mono (fun _ _ ended => ended) (fun _ _ ended => ended.1.1) (fun _ ended => ended.1)) ?_
  rintro _ driven ⟨⟨readyDriven, undisturbed⟩, settingDriven⟩
  have answer : driven.environment driven.clock = world.answer (.place arguments) := by
    obtain ⟨environmentAfter, clockAfter⟩ := Prod.mk.inj settingAfter
    obtain ⟨environmentDriven, clockDriven⟩ := Prod.mk.inj settingDriven
    rw [environmentDriven, clockDriven, environmentAfter, clockAfter]
    rfl
  refine ends_bind_reads (reads_ofExcept _) (fun _ => readyDriven) ?_
  intro _ validated
  have asks : (Call.place arguments).Asks omId world.memory := ofModel_returned validated
  refine ends_bind (fun order last => Ready watch last ∧
    (world.answer (.place arguments)).order = .ok order) ?_ ?_
  · refine ends_tryCatch (fun error caught => Ready watch caught ∧
      ∃ raised, (world.answer (.place arguments)).order = .error raised ∧ error = .call raised) ?_ ?_
    · refine (mutate_spec readyDriven rfl (undisturbed.durable _ durable) ?_ _).mono ?_ ?_
        (fun _ ended => ended)
      · rw [undisturbed.handed]
        exact notHandedAfter
      · rintro order _ ⟨⟨readyLast, _⟩, answered⟩
        rw [answer] at answered
        exact ⟨readyLast, answered⟩
      · rintro error _ ⟨⟨readyLast, _⟩, answered⟩
        rw [answer] at answered
        exact ⟨readyLast, answered⟩
    · rintro error caught ⟨readyCaught, raised, answered, rfl⟩
      refine onAdapterError_spec readyCaught (.call raised) ?_ _
      rintro message ⟨⟩
      exact recordFailure_spec readyCaught world.memory.nextSeq .submitFailed message
        (.submitFailed world.memory.nextSeq) (fun _ => .submitFailed)
        (fun _ _ => permits _ _ (.submitFailed arguments message _ _ answered asks))
        (fun _ _ found legal => readyCaught.not_inLog_submitFailed found legal)
  · rintro order last ⟨readyLast, answered⟩
    split
    · rename_i rejected
      refine ingestStatus_spec readyLast _ _ _ fun number _ trigger _ named _ reported => ?_
      obtain rfl : world.memory.nextSeq = number := placeId_injective named
      exact permits _ _ (.placed arguments order trigger _ _ answered (by rwa [if_pos rejected]) asks)
    · rename_i notRejected
      refine ingestStatus_spec readyLast _ _ _ fun number _ trigger _ named _ reported => ?_
      obtain rfl : world.memory.nextSeq = number := placeId_injective named
      exact permits _ _
        (.placed arguments order trigger _ _ answered (by rwa [if_neg notRejected]) asks)

def amendPayload (omId clientOrderId : String) (order : Order Number) : Payload Number :=
  plainPayload omId .amend clientOrderId none
    { newQuantity := some order.quantity
      newLimitPrice := some order.limitPrice }

theorem amendOrder_spec (ready : Ready watch world) (clientOrderId : String)
    (newQuantity newLimitPrice : Option Number)
    (permits : Permits watch world (.amend clientOrderId newQuantity newLimitPrice)) :
    Ends (amendOrder omId clientOrderId newQuantity newLimitPrice) world
      { returned := fun _ after => Ready watch after ∧ ∃ existing order, ∃ event : Event Stored,
          world.memory.snapshots.get? clientOrderId = some existing ∧
          (world.answer (.amend clientOrderId newQuantity newLimitPrice)).order = .ok order ∧
          after.memory.snapshots.get? clientOrderId =
            some (amendedSnapshot event (amendPayload omId clientOrderId order) existing)
        raised := fun _ after => Ready watch after
        crashed := fun after => Recoverable watch after } := by
  unfold amendOrder
  split
  · exact ends_raise ready
  rename_i changes
  refine ends_bind_reads (reads_trackedOrder _) (fun _ => ready) ?_
  intro existing ran
  have found := trackedOrder_returned ran
  obtain ⟨order, rfl⟩ := ready.tracked found
  split
  · exact ends_raise ready
  rename_i amendable
  have open_ := not_and_or.mp amendable |>.imp not_not.mp not_not.mp
  split
  · exact ends_raise ready
  rename_i exchangeOrderId named
  have requests : (Call.amend (placeId omId order) newQuantity newLimitPrice).Requests
      world.memory := by
    refine ⟨?_, existing, found, open_, ?_⟩
    · rw [← not_and_or]
      rintro ⟨rfl, rfl⟩
      exact changes rfl
    · rw [named]
      exact Option.some_ne_none _
  refine ends_bind_of_returned (nextId_eq omId "amend" world) ?_
  have unused : ¬ InLog omId world.log (.amendRequested order world.memory.nextSeq) :=
    ready.not_inLog_nextSeq fun _ spent => spent
  have unusedApplied : ¬ InLog omId world.log (.amendApplied order world.memory.nextSeq) :=
    ready.not_inLog_nextSeq fun _ spent => spent
  have intent : Recorded omId (Durable Number omId world.log) world.memory
      (.amendRequested order world.memory.nextSeq) _ :=
    .amendRequested order existing found
      { requestId := some (makeId omId world.memory.nextSeq "amend")
        newQuantity
        newLimitPrice := some newLimitPrice }
  have requested := (persistAndApply_bump ready intent
    (permits _ _ (.amendRequested order newQuantity newLimitPrice _ requests)) unused rfl).and
      (ends_of_view (persistAndApply_setting omId _ _ world.bump))
  rw [text_amendRequested] at requested
  have notHanded := ready.not_handed "amend"
  refine ends_bind (fun _ after => (Ready watch after ∧ RecordedIn omId _ _ world.core after.core) ∧
    after.setting = (world.environment, world.clock + 1))
    (requested.mono (fun _ _ ended => ended) (fun _ _ ended => ended.1) (fun _ ended => ended.1)) ?_
  rintro _ after ⟨⟨readyAfter, added⟩, settingAfter⟩
  have answer : after.environment after.clock =
      world.answer (.amend (placeId omId order) newQuantity newLimitPrice) := by
    rw [asked_of_setting settingAfter]
    rfl
  have durable : Durable Number omId after.log world.memory.nextSeq :=
    added.durable rfl (Or.inr rfl)
  have unusedAfter : ¬ InLog omId after.log (.amendApplied order world.memory.nextSeq) := by
    intro logged
    rcases (added.inLog _).mp logged with old | same
    · exact unusedApplied old
    · cases same
  have trackedAfter : after.memory.snapshots.get? (placeId omId order) = some existing := by
    rw [show after.memory.snapshots = world.memory.snapshots from
      added.snapshots_intent ready.reachable (Or.inl rfl)]
    exact found
  have notHandedAfter : ∀ earlier ∈ after.handed,
      earlier.request.id ≠ makeId omId world.memory.nextSeq "amend" := by
    rw [show after.handed = world.handed from added.handed]
    exact notHanded
  refine ends_bind_reads (reads_ofExcept _) (fun _ => readyAfter) ?_
  intro _ validated
  have asks : (Call.amend (placeId omId order) newQuantity newLimitPrice).Asks omId world.memory :=
    ⟨existing, exchangeOrderId, found, open_, named, ofModel_returned validated⟩
  refine ends_bind _ ((mutate_spec readyAfter rfl durable (by exact notHandedAfter) _).mono
    (fun _ _ ended => ended) (fun _ _ ended => ended.1.1) (fun _ ended => ended)) ?_
  rintro answered last ⟨⟨readyLast, sameLog, sameMemory⟩, fromAdapter⟩
  rw [answer] at fromAdapter
  rw [← sameLog] at durable unusedAfter
  rw [← sameMemory] at trackedAfter
  have applied := persistAndApply_spec readyLast
    (.amendApplied order world.memory.nextSeq existing durable trackedAfter open_
      { newQuantity := some answered.quantity
        newLimitPrice := some answered.limitPrice })
    (permits _ _ (.amended order newQuantity newLimitPrice answered fromAdapter asks))
    unusedAfter
  rw [text_amendApplied] at applied
  refine applied.mono ?_ (fun _ _ ended => ended.1) (fun _ ended => ended)
  rintro _ final ⟨readyFinal, addedFinal⟩
  obtain ⟨event, memory⟩ := addedFinal.memory_eq readyLast.reachable
    (fun event => patches_amend event rfl trackedAfter)
  change final.memory = last.memory.patch _ at memory
  refine ⟨readyFinal, existing, answered, event, found, fromAdapter, ?_⟩
  rw [memory]
  exact Memory.patch_snapshot_self last.memory rfl

omit [Arithmetic Number] in
private theorem cancelRequested_leads {state target : OrderLifecycleState}
    (legal : nextState? state .cancelRequested = some target) : target = .cancelPending := by
  have leads : TransitionTable.LeadsTo transitionTable .cancelRequested fun state =>
      state = OrderLifecycleState.cancelPending := by decide
  exact leads.nextState? legal

private theorem cancelOrder_spec (ready : Ready watch world) (clientOrderId : String)
    (permits : Permits watch world (.cancel clientOrderId)) :
    Ends (cancelOrder omId clientOrderId) world
      (anyEnd (Option (OrderSnapshot Number)) watch) := by
  unfold cancelOrder
  refine ends_bind_reads (reads_trackedOrder _) (fun _ => ready) ?_
  intro existing ran
  have found := trackedOrder_returned ran
  obtain ⟨order, rfl⟩ := ready.tracked found
  dsimp only
  split
  · exact ends_pure ready
  cases legal : nextState? existing.lifecycleState .cancelRequested with
  | none => exact ends_raise ready
  | some toState =>
      dsimp only
      split
      · exact ends_raise ready
      rename_i exchangeOrderId named
      have legal_ : nextState? existing.lifecycleState .cancelRequested ≠ none := by
        rw [legal]
        exact Option.some_ne_none _
      have requests : (Call.cancel (placeId omId order)).Requests world.memory := by
        refine ⟨existing, found, legal_, ?_⟩
        rw [named]
        exact Option.some_ne_none _
      refine ends_bind_of_returned (nextId_eq omId "cancel" world) ?_
      have unused : ¬ InLog omId world.log (.cancel order world.memory.nextSeq) :=
        ready.not_inLog_nextSeq fun _ spent => spent
      have unusedFailed : ¬ InLog omId world.log (.cancelFailed order world.memory.nextSeq) :=
        ready.not_inLog_nextSeq fun _ spent => spent
      have requested := (persistAndApply_bump ready
        (.statusUpdate order existing .cancelRequested toState (some world.memory.nextSeq) _
          { requestId := some (makeId omId world.memory.nextSeq "cancel") } found legal .cancel)
        (permits _ _ (.cancelRequested order _ toState _ requests)) unused rfl).and
          (ends_of_view (persistAndApply_setting omId _ _ world.bump))
      rw [text_cancel] at requested
      have notHanded := ready.not_handed "cancel"
      refine ends_bind (fun _ after => (Ready watch after ∧
        RecordedIn omId _ _ world.core after.core) ∧
        after.setting = (world.environment, world.clock + 1))
        (requested.mono (fun _ _ ended => ended) (fun _ _ ended => ended.1)
          (fun _ ended => ended.1)) ?_
      rintro _ after ⟨⟨readyAfter, added⟩, settingAfter⟩
      have answer : after.environment after.clock = world.answer (.cancel (placeId omId order)) := by
        rw [asked_of_setting settingAfter]
        rfl
      have durable : Durable Number omId after.log world.memory.nextSeq :=
        added.durable rfl (Or.inr rfl)
      have unusedAfter : ¬ InLog omId after.log (.cancelFailed order world.memory.nextSeq) := by
        intro logged
        rcases (added.inLog _).mp logged with old | same
        · exact unusedFailed old
        · cases same
      have notHandedAfter : ∀ earlier ∈ after.handed,
          earlier.request.id ≠ makeId omId world.memory.nextSeq "cancel" := by
        rw [show after.handed = world.handed from added.handed]
        exact notHanded
      refine ends_bind_reads (reads_ofExcept _) (fun _ => readyAfter) ?_
      intro _ validated
      have asks : (Call.cancel (placeId omId order)).Asks omId world.memory :=
        ⟨existing, exchangeOrderId, found, legal_, named, ofModel_returned validated⟩
      obtain ⟨⟨updated, trackedAfter, isPending⟩, _⟩ :=
        added.snapshots_statusUpdate ready.reachable found legal
      refine ends_bind (fun order last => (Ready watch last ∧ last.memory = after.memory) ∧
        (after.environment after.clock).order = .ok order) ?_ ?_
      · refine ends_tryCatch (fun error caught => (Ready watch caught ∧ caught.log = after.log ∧
          caught.memory = after.memory) ∧ ∃ raised,
            (after.environment after.clock).order = .error raised ∧ error = .call raised) ?_ ?_
        · exact (mutate_spec readyAfter rfl durable (by exact notHandedAfter) _).mono
            (fun _ _ ended => ⟨⟨ended.1.1, ended.1.2.2⟩, ended.2⟩) (fun _ _ ended => ended)
            (fun _ ended => ended)
        · rintro error caught ⟨⟨readyCaught, sameLog, sameMemory⟩, raised, answered, rfl⟩
          rw [answer] at answered
          rw [← sameLog] at durable unusedAfter
          refine onAdapterError_spec readyCaught (.call raised) ?_ _
          rintro message ⟨⟩
          have failed := recordFailure_spec readyCaught order .cancelFailed message
            (.cancelFailed order world.memory.nextSeq) (fun _ => .cancelFailed _ durable)
            (fun _ _ => permits _ _ (.cancelFailed order message _ _ answered asks))
            (fun _ _ _ _ => unusedAfter)
          rw [text_cancelFailed] at failed
          exact failed
      · rintro answered last ⟨⟨readyLast, sameMemory⟩, fromAdapter⟩
        rw [answer] at fromAdapter
        refine ingestStatus_spec readyLast _ _ _ fun number known trigger _ same tracked reported => ?_
        obtain rfl : order = number := placeId_injective same
        have pending : known.lifecycleState = .cancelPending := by
          rw [sameMemory, show after.memory.snapshots.get? (placeId omId order) = some updated from
            trackedAfter] at tracked
          cases tracked
          rw [isPending]
          exact cancelRequested_leads legal
        exact permits _ _
          (.cancelAnswered order answered trigger _ _ fromAdapter reported asks pending)

private theorem reportFill_spec (ready : Ready watch world) (clientOrderId : String)
    (fill : Fill Number)
    (permits : Permits watch world (.reportFill clientOrderId fill)) :
    Ends (reportFill omId clientOrderId fill) world
      (anyEnd (Option (OrderSnapshot Number)) watch) := by
  unfold reportFill
  refine ends_bind_reads (reads_trackedOrder _) (fun _ => ready) ?_
  intro existing ran
  have found := trackedOrder_returned ran
  obtain ⟨order, rfl⟩ := ready.tracked found
  have read : memory world = (.returned world.memory, world) := rfl
  refine ends_bind_of_returned read ?_
  split
  · exact ends_pure ready
  rename_i fresh
  split
  · rename_i terminal
    exact ready.move (.lateFill world.core _ fill.fillId existing found terminal) rfl
  refine ends_bind_reads (reads_ofExcept _) (fun _ => ready) ?_
  intro newFilled summed
  refine ends_bind_reads (reads_ofExcept _) (fun _ => ready) ?_
  intro trigger triggered
  dsimp only
  cases legal : nextState? existing.lifecycleState trigger with
  | none => exact ends_raise ready
  | some toState =>
      have sum : Arithmetic.add existing.filledQuantity fill.quantity = .ok newFilled := by
        cases added : Arithmetic.add existing.filledQuantity fill.quantity with
        | error error =>
            rw [added] at summed
            cases summed
        | ok value =>
            rw [added] at summed
            cases summed
            rfl
      have chosen : fillTrigger newFilled existing.quantity = .ok trigger := by
        cases compared : fillTrigger newFilled existing.quantity with
        | error error =>
            rw [compared] at triggered
            cases triggered
        | ok value =>
            rw [compared] at triggered
            cases triggered
            rfl
      have recorded := persistAndApply_spec ready
        (.fill order existing fill newFilled trigger toState found fresh sum chosen legal)
        (permits _ _ (.fill order fill existing newFilled trigger toState found fresh sum
          chosen legal))
        (ready.not_inLog_fill fresh)
      rw [text_fill] at recorded
      refine ends_bind (fun _ after => Ready watch after)
        (recorded.mono (fun _ _ ended => ended.1) (fun _ _ ended => ended.1)
          (fun _ ended => ended)) ?_
      intro snapshot after readyAfter
      refine ends_bind (fun _ last => Ready watch last)
        ((driveExecutionSm_spec readyAfter _ _ _ _).mono (fun _ _ ended => ended.1)
          (fun _ _ ended => ended.1) (fun _ ended => ended)) ?_
      exact fun _ last readyLast => ends_pure readyLast

private theorem reportOrderUpdate_spec (ready : Ready watch world) (clientOrderId : String)
    (order : Order Number)
    (permits : Permits watch world (.reportOrderUpdate clientOrderId order)) :
    Ends (reportOrderUpdate omId clientOrderId order) world
      (anyEnd (Option (OrderSnapshot Number)) watch) := by
  unfold reportOrderUpdate
  refine ends_bind_reads (reads_trackedOrder _) (fun _ => ready) ?_
  intro _ _
  refine ingestStatus_spec ready _ _ _ fun number existing trigger _ named tracked reported => ?_
  obtain rfl := named
  exact permits _ _ (.updated number order trigger _ _ reported existing tracked rfl)

private theorem consult_spec (ready : Ready watch world) :
    Ends consult world
      { anyEnd (Answer Number) watch with
        returned := fun answer after => Ready watch after ∧ after.memory = world.memory ∧
          answer = world.environment world.clock } := by
  unfold Ends
  rw [consult_eq]
  cases (world.environment world.clock).crash with
  | true => exact ready.tick.recoverable
  | false => exact ⟨ready.tick, rfl, rfl⟩

omit [Sources Stored Number] [Arithmetic Number] in
private theorem ofCall_returned {result : Except CallError Value} {world : World Stored Number}
    {value : Value} (ran : ofCall result world = (.returned value, world)) :
    result = .ok value := by
  cases result with
  | ok answered =>
      cases ran
      rfl
  | error error => cases ran

private theorem resyncOrder_spec (ready : Ready watch world) (clientOrderId : String)
    (permits : Permits watch world (.resync clientOrderId)) :
    Ends (resyncOrder omId clientOrderId) world
      (anyEnd (Option (OrderSnapshot Number)) watch) := by
  unfold resyncOrder
  refine ends_bind_reads (reads_trackedOrder _) (fun _ => ready) ?_
  intro existing ran
  have tracked := trackedOrder_returned ran
  dsimp only
  split
  · rename_i unnamed
    refine ends_bind_reads (reads_ofExcept _) (fun _ => ready) ?_
    intro _ validated
    refine ends_bind _ (consult_spec ready) ?_
    rintro answer after ⟨readyAfter, sameMemory, rfl⟩
    refine ends_bind_reads (reads_ofExcept _) (fun _ => readyAfter) ?_
    intro found foundRan
    cases found with
    | none => exact ends_pure readyAfter
    | some order =>
        refine ingestStatus_spec readyAfter _ _ _ fun number known trigger _ named same reported => ?_
        obtain rfl := named
        rw [sameMemory, tracked] at same
        cases same
        refine permits _ _ (.resynced number order trigger _ _ reported
          ⟨existing, tracked, fun _ => ofModel_returned validated⟩ existing tracked ?_ rfl)
        unfold Answer.resynced
        rw [unnamed]
        exact ofCall_returned foundRan
  · rename_i exchangeOrderId identified
    refine ends_bind _ (consult_spec ready) ?_
    rintro answer after ⟨readyAfter, sameMemory, rfl⟩
    refine ends_bind_reads (reads_ofExcept _) (fun _ => readyAfter) ?_
    intro order orderRan
    refine ingestStatus_spec readyAfter _ _ _ fun number known trigger _ named same reported => ?_
    obtain rfl := named
    rw [sameMemory, tracked] at same
    cases same
    refine permits _ _ (.resynced number order trigger _ _ reported
      ⟨existing, tracked, fun absent => ?_⟩ existing tracked ?_ rfl)
    · rw [identified] at absent
      cases absent
    · unfold Answer.resynced
      rw [identified]
      exact ofCall_returned orderRan

structure BetweenTurns {omId : String} (watch : Watch omId Stored Number) (request : Nat)
    (world : World Stored Number) : Prop where
  ready : Ready watch world
  durable : Durable Number omId world.log request
  closed : ∀ order, ClosedBy omId request world order

structure BeforeConfirm {omId : String} (watch : Watch omId Stored Number) (request order : Nat)
    (world : World Stored Number) : Prop where
  ready : Ready watch world
  durable : Durable Number omId world.log request
  closed : ∀ other, other ≠ order → ClosedBy omId request world other
  unused : ¬ InLog omId world.log (.cancelAllConfirmed order request)
  pending : ∃ existing, world.memory.snapshots.get? (placeId omId order) = some existing ∧
    existing.lifecycleState = .cancelPending

def betweenTurnsEnd (Value : Type) {omId : String} (watch : Watch omId Stored Number) (request : Nat) :
    Post (World Stored Number) OrderManagerError Value :=
  { returned := fun _ world => BetweenTurns watch request world
    raised := fun _ world => Ready watch world
    crashed := fun world => Recoverable watch world }

/-- A turn makes no order closable. -/
def turnedEnd (Value : Type) {omId : String} (watch : Watch omId Stored Number) (request : Nat)
    (before : World Stored Number) : Post (World Stored Number) OrderManagerError Value :=
  { betweenTurnsEnd Value watch request with
    returned := fun _ after => BetweenTurns watch request after ∧ ∀ other,
      Closable after.memory other → Closable before.memory other }

omit [Sources Stored Number] [Arithmetic Number] in
private theorem closable_of_kept {before after : World Stored Number} {clientOrderId : String}
    (closable : Closable before.memory clientOrderId)
    (kept : ∀ other, other ≠ clientOrderId →
      after.memory.snapshots.get? other = before.memory.snapshots.get? other) (other : String)
    (later : Closable after.memory other) : Closable before.memory other := by
  by_cases same : other = clientOrderId
  · rw [same]
    exact closable
  · obtain ⟨existing, tracked, state⟩ := later
    rw [kept other same] at tracked
    exact ⟨existing, tracked, state⟩

theorem ClosedBy.record {exact : Prop} {omId : String} {request order other : Nat}
    {before after : World Stored Number} {key : MutationKey} {seq : Option Nat}
    {details : Details Number} (closed : ClosedBy omId request before other)
    (reached : Reachable exact omId before.core)
    (added : RecordedIn omId key
      (transitionPayload omId .statusUpdate (placeId omId order) seq trigger
        existing.lifecycleState toState details) before.core after.core)
    (tracked : before.memory.snapshots.get? (placeId omId order) = some existing)
    (legal : nextState? existing.lifecycleState trigger = some toState) (different : other ≠ order)
    (otherKey : key ≠ .cancelAllPending other request ∧ key ≠ .cancelAllConfirmed other request) :
    ClosedBy omId request after other := by
  intro logged
  have before' : InLog omId before.log (.cancelAllPending other request) ∨
      InLog omId before.log (.cancelAllConfirmed other request) := by
    rcases logged with pending | confirmed
    · rcases (added.inLog _).mp pending with old | same
      · exact Or.inl old
      · exact (otherKey.1 same).elim
    · rcases (added.inLog _).mp confirmed with old | same
      · exact Or.inr old
      · exact (otherKey.2 same).elim
  obtain ⟨known, found, terminal⟩ := closed before'
  obtain ⟨_, unchanged⟩ := added.snapshots_statusUpdate reached tracked legal
  refine ⟨known, ?_, terminal⟩
  exact (unchanged _ (fun same => different (placeId_injective same))).trans found

variable {request order : Nat}

theorem BetweenTurns.not_inLog (turns : BetweenTurns watch request world)
    (found : world.memory.snapshots.get? (placeId omId order) = some existing)
    (alive : isTerminal existing.lifecycleState = false) :
    ¬ InLog omId world.log (.cancelAllPending order request) ∧
      ¬ InLog omId world.log (.cancelAllConfirmed order request) := by
  rw [← not_or]
  intro logged
  obtain ⟨known, same, terminal⟩ := turns.closed order logged
  rw [found] at same
  cases same
  rw [alive] at terminal
  cases terminal

theorem BetweenTurns.beforeConfirm (turns : BetweenTurns watch request world)
    (found : world.memory.snapshots.get? (placeId omId order) = some existing)
    (pending : existing.lifecycleState = .cancelPending) :
    BeforeConfirm watch request order world := by
  have alive : isTerminal existing.lifecycleState = false := by
    rw [pending]
    decide
  exact
    { ready := turns.ready
      durable := turns.durable
      closed := fun other _ => turns.closed other
      unused := (turns.not_inLog found alive).2
      pending := ⟨existing, found, pending⟩ }

theorem BetweenTurns.requested {after : World Stored Number}
    (turns : BetweenTurns watch request world) {details : Details Number}
    (found : world.memory.snapshots.get? (placeId omId order) = some existing)
    (legal : nextState? existing.lifecycleState .cancelRequested = some .cancelPending)
    (ready : Ready watch after)
    (added : RecordedIn omId (.cancelAllPending order request)
      (transitionPayload omId .statusUpdate (placeId omId order) none .cancelRequested
        existing.lifecycleState .cancelPending details) world.core after.core) :
    BeforeConfirm watch request order after := by
  obtain ⟨_, unusedConfirmed⟩ := turns.not_inLog found (not_isTerminal_of_nextState? legal)
  refine
    { ready
      durable := added.durable rfl (Or.inl turns.durable)
      closed := ?_
      unused := ?_
      pending := (added.snapshots_statusUpdate turns.ready.reachable found legal).1 }
  · intro other different
    refine (turns.closed other).record turns.ready.reachable added found legal different ⟨?_, ?_⟩
    · intro equal
      cases equal
      exact different rfl
    · intro equal
      cases equal
  · intro logged
    rcases (added.inLog _).mp logged with old | same
    · exact unusedConfirmed old
    · cases same

def AllowsTurn {omId : String} (watch : Watch omId Stored Number) (request : Nat)
    (answered : Order Number) : Prop :=
  ∀ order fromState toState details, answered.clientOrderId = placeId omId order →
    watch.permitted (.cancelAllPending order request) (transitionPayload omId .statusUpdate
      answered.clientOrderId none .cancelRequested fromState toState details) ∧
    watch.permitted (.cancelAllConfirmed order request) (transitionPayload omId .statusUpdate
      answered.clientOrderId none .cancelConfirmed fromState toState details)

private theorem confirmCancelled_spec (before : BeforeConfirm watch request order world)
    (answered : Order Number) (named : answered.clientOrderId = placeId omId order)
    (allows : AllowsTurn watch request answered) :
    Ends (confirmCancelled omId (makeId omId request "cancel_all") answered) world
      (turnedEnd (List (OrderSnapshot Number)) watch request world) := by
  obtain ⟨existing, found, pending⟩ := before.pending
  have legal : nextState? existing.lifecycleState .cancelConfirmed = some .cancelled := by
    rw [pending]
    decide
  have ready := before.ready
  have allowed : watch.permitted (.cancelAllConfirmed order request)
      (transitionPayload omId .statusUpdate (placeId omId order) none .cancelConfirmed
        existing.lifecycleState .cancelled { exchangeOrderId := answered.exchangeOrderId }) := by
    rw [← named]
    exact (allows _ _ _ _ named).2
  unfold confirmCancelled
  rw [show nextState? .cancelPending .cancelConfirmed = some .cancelled by decide, named, ← pending]
  have recorded := persistAndApply_spec ready
    (.statusUpdate order existing .cancelConfirmed .cancelled none _
      { exchangeOrderId := answered.exchangeOrderId } found legal
      (.cancelAllConfirmed request before.durable)) allowed before.unused
  rw [text_cancelAllConfirmed] at recorded
  have closable : Closable world.memory (placeId omId order) :=
    ⟨existing, found, .inr (.inr pending)⟩
  refine ends_bind (fun _ after => BetweenTurns watch request after ∧
    ∀ other, Closable after.memory other → Closable world.memory other)
    (recorded.mono ?_ (fun _ _ ended => ended.1) (fun _ ended => ended)) ?_
  · rintro _ after ⟨readyAfter, added⟩
    refine ⟨?_, closable_of_kept closable
      (added.snapshots_statusUpdate ready.reachable found legal).2⟩
    refine
      { ready := readyAfter
        durable := added.durable rfl (Or.inl before.durable)
        closed := ?_ }
    intro other
    by_cases same : other = order
    · rintro _
      obtain ⟨⟨updated, patched, state⟩, _⟩ :=
        added.snapshots_statusUpdate ready.reachable found legal
      rw [same]
      refine ⟨updated, patched, ?_⟩
      rw [state]
      decide
    · refine (before.closed other same).record ready.reachable added found legal same ⟨?_, ?_⟩
      · intro equal
        cases equal
      · intro equal
        cases equal
        exact same rfl
  · rintro snapshot after ⟨betweenTurns, notLater⟩
    refine ends_bind (fun _ last => BetweenTurns watch request last ∧
      ∀ other, Closable last.memory other → Closable world.memory other)
      ((driveExecutionSm_spec betweenTurns.ready _ _ _ _).mono ?_ (fun _ _ ended => ended.1)
        (fun _ ended => ended)) (fun _ last lastTurns => ends_pure lastTurns)
    rintro _ last ⟨readyLast, undisturbed⟩
    refine ⟨?_, ?_⟩
    · exact
        { ready := readyLast
          durable := undisturbed.durable _ betweenTurns.durable
          closed := fun other => (betweenTurns.closed other).undisturbed undisturbed }
    · rw [undisturbed.memory]
      exact notLater

theorem cancelAllTurn_spec {request : Nat}
    (turns : BetweenTurns watch request world)
    (answered : Order Number)
    (allows : Closable world.memory answered.clientOrderId → AllowsTurn watch request answered) :
    Ends (cancelAllTurn omId (makeId omId request "cancel_all") answered) world
      (turnedEnd (List (OrderSnapshot Number)) watch request world) := by
  have ready := turns.ready
  unfold cancelAllTurn
  have read : memory world = (.returned world.memory, world) := rfl
  refine ends_bind_of_returned read ?_
  cases found : world.memory.snapshots.get? answered.clientOrderId with
  | none => exact ends_pure ⟨turns, fun _ later => later⟩
  | some existing =>
      obtain ⟨order, named⟩ := ready.tracked found
      rw [named] at found
      have closable (state : existing.lifecycleState = .acknowledged ∨
          existing.lifecycleState = .partiallyFilled ∨ existing.lifecycleState = .cancelPending) :
          Closable world.memory answered.clientOrderId := by
        rw [named]
        exact ⟨existing, found, state⟩
      dsimp only
      split
      · rename_i cancellable
        have allowsTurn := allows (closable (cancellable.imp id .inl))
        have legal : nextState? existing.lifecycleState .cancelRequested = some .cancelPending := by
          rcases cancellable with state | state
          · rw [state]
            decide
          · rw [state]
            decide
        obtain ⟨unusedPending, _⟩ := turns.not_inLog found (not_isTerminal_of_nextState? legal)
        rw [legal, named]
        have allowed : watch.permitted (.cancelAllPending order request)
            (transitionPayload omId .statusUpdate (placeId omId order) none .cancelRequested
              existing.lifecycleState .cancelPending
              { requestId := some (makeId omId request "cancel_all") }) := by
          rw [← named]
          exact (allowsTurn _ _ _ _ named).1
        have recorded := persistAndApply_spec ready
          (.statusUpdate order existing .cancelRequested .cancelPending none _
            { requestId := some (makeId omId request "cancel_all") } found legal
            (.cancelAllPending request turns.durable)) allowed unusedPending
        rw [text_cancelAllPending] at recorded
        refine ends_bind (fun _ after => BeforeConfirm watch request order after ∧
          ∀ other, Closable after.memory other → Closable world.memory other)
          (recorded.mono ?_ (fun _ _ ended => ended.1) (fun _ ended => ended)) ?_
        · rintro _ after ⟨readyAfter, added⟩
          exact ⟨turns.requested found legal readyAfter added,
            closable_of_kept ⟨existing, found, cancellable.imp id .inl⟩
              (added.snapshots_statusUpdate ready.reachable found legal).2⟩
        · rintro _ after ⟨before, notLater⟩
          rw [if_pos rfl]
          refine (confirmCancelled_spec before answered named allowsTurn).mono ?_
            (fun _ _ ended => ended) (fun _ ended => ended)
          rintro _ last ⟨lastTurns, notLaterLast⟩
          exact ⟨lastTurns, fun other later => notLater other (notLaterLast other later)⟩
      · split
        · rename_i pending
          exact confirmCancelled_spec (turns.beforeConfirm found pending) answered named
            (allows (closable (.inr (.inr pending))))
        · exact ends_pure ⟨turns, fun _ later => later⟩

private theorem cancelAllTurns_spec {request : Nat}
    (turns : BetweenTurns watch request world) (answered : List (Order Number))
    (allow : ∀ order ∈ answered, Closable world.memory order.clientOrderId →
      AllowsTurn watch request order) :
    Ends (cancelAllTurns omId (makeId omId request "cancel_all") answered) world
      (betweenTurnsEnd (List (OrderSnapshot Number)) watch request) := by
  induction answered generalizing world with
  | nil => exact ends_pure turns
  | cons order orders ih =>
      unfold cancelAllTurns
      have turned := cancelAllTurn_spec turns order (allow order List.mem_cons_self)
      refine ends_bind _ (turned.mono (fun _ _ ended => ended) (fun _ _ ended => ended)
        (fun _ ended => ended)) ?_
      rintro first after ⟨betweenTurns, notLater⟩
      have rest : ∀ other ∈ orders, Closable after.memory other.clientOrderId →
          AllowsTurn watch request other :=
        fun other member later =>
          allow other (List.mem_cons_of_mem order member) (notLater _ later)
      refine ends_bind (fun _ last => BetweenTurns watch request last) (ih betweenTurns rest) ?_
      exact fun _ last lastTurns => ends_pure lastTurns

private theorem cancelAll_spec (ready : Ready watch world) (symbol : Option Symbol)
    (permits : Permits watch world (.cancelAll symbol)) :
    Ends (cancelAll omId symbol) world (anyEnd (List (OrderSnapshot Number)) watch) := by
  unfold cancelAll
  refine ends_bind_of_returned (nextId_eq omId "cancel_all" world) ?_
  have unused (key : MutationKey)
      (numbered : ∀ replayed : Memory Number, Spent omId replayed key →
        world.memory.nextSeq < replayed.nextSeq) : ¬ InLog omId world.log key :=
    ready.not_inLog_nextSeq numbered
  have requested := (persistAndApply_bump ready
    (.cancelAllRequested
      { requestId := some (makeId omId world.memory.nextSeq "cancel_all"), symbol })
    (permits _ _ (.cancelAllRequested symbol _)) (unused _ fun _ spent => spent) rfl).and
      (ends_of_view (persistAndApply_setting omId _ _ world.bump))
  have notHanded := ready.not_handed "cancel_all"
  refine ends_bind (fun _ after => (Ready watch after ∧ RecordedIn omId _ _ world.core after.core) ∧
    after.setting = (world.environment, world.clock + 1))
    (requested.mono (fun _ _ ended => ended) (fun _ _ ended => ended.1) (fun _ ended => ended.1)) ?_
  rintro _ after ⟨⟨readyAfter, added⟩, settingAfter⟩
  have answer : after.environment after.clock = world.answer (.cancelAll symbol) := by
    rw [asked_of_setting settingAfter]
    rfl
  have durable : Durable Number omId after.log world.memory.nextSeq :=
    added.durable rfl (Or.inr rfl)
  have notHandedAfter : ∀ earlier ∈ after.handed,
      earlier.request.id ≠ makeId omId world.memory.nextSeq "cancel_all" := by
    rw [show after.handed = world.handed from added.handed]
    exact notHanded
  refine ends_bind_reads (reads_ofExcept _) (fun _ => readyAfter) ?_
  intro _ _
  refine ends_bind _ ((mutate_spec readyAfter rfl durable (by exact notHandedAfter) _).mono
    (fun _ _ ended => ended) (fun _ _ ended => ended.1.1) (fun _ ended => ended)) ?_
  rintro orders last ⟨⟨readyLast, sameLog, sameMemory⟩, answered⟩
  rw [answer] at answered
  have turns : BetweenTurns watch world.memory.nextSeq last := by
    refine { ready := readyLast, durable := ?_, closed := ?_ }
    · rw [sameLog]
      exact durable
    · intro order logged
      rw [sameLog] at logged
      rcases logged with pending | confirmed
      · rcases (added.inLog _).mp pending with old | same
        · exact (unused (.cancelAllPending order _) (fun _ spent => spent) old).elim
        · cases same
      · rcases (added.inLog _).mp confirmed with old | same
        · exact (unused (.cancelAllConfirmed order _) (fun _ spent => spent) old).elim
        · cases same
  have allow : ∀ order ∈ orders, Closable last.memory order.clientOrderId →
      AllowsTurn watch world.memory.nextSeq order := by
    rintro order member ⟨existing, tracked, state⟩ number _ _ _ named
    have closable : Closable world.memory order.clientOrderId := by
      refine ⟨existing, ?_, state⟩
      rw [sameMemory, show after.memory.snapshots = world.memory.snapshots from
        added.snapshots_intent ready.reachable (Or.inr rfl)] at tracked
      exact tracked
    exact ⟨permits _ _
        (.cancelAllPending symbol orders order number _ _ _ answered member named closable),
      permits _ _
        (.cancelAllConfirmed symbol orders order number _ _ _ answered member named closable)⟩
  exact (cancelAllTurns_spec turns orders allow).mono (fun _ _ ended => ended.ready)
    (fun _ _ ended => ended) (fun _ ended => ended)

def Call.operation (omId : String) : Call Number → Operation Stored Number Unit
  | place arguments => do let _ ← placeOrder omId arguments
  | amend clientOrderId newQuantity newLimitPrice => do
      let _ ← amendOrder omId clientOrderId newQuantity newLimitPrice
  | cancel clientOrderId => do let _ ← cancelOrder omId clientOrderId
  | cancelAll symbol => do let _ ← OrderManager.cancelAll omId symbol
  | reportFill clientOrderId fill => do let _ ← OrderManager.reportFill omId clientOrderId fill
  | reportOrderUpdate clientOrderId order => do
      let _ ← OrderManager.reportOrderUpdate omId clientOrderId order
  | resync clientOrderId => do let _ ← resyncOrder omId clientOrderId

theorem Call.operation_spec (ready : Ready watch world) (call : Call Number)
    (permits : Permits watch world call) :
    Ends (call.operation omId) world (anyEnd Unit watch) := by
  cases call with
  | place arguments =>
      exact ends_bind _ (placeOrder_spec ready arguments permits) fun _ _ after => ends_pure after
  | amend clientOrderId newQuantity newLimitPrice =>
      exact ends_bind _ ((amendOrder_spec ready clientOrderId newQuantity newLimitPrice permits).mono
        (fun _ _ ended => ended.1) (fun _ _ ended => ended) (fun _ ended => ended))
        fun _ _ after => ends_pure after
  | cancel clientOrderId =>
      exact ends_bind _ (cancelOrder_spec ready clientOrderId permits)
        fun _ _ after => ends_pure after
  | cancelAll symbol =>
      exact ends_bind _ (cancelAll_spec ready symbol permits) fun _ _ after => ends_pure after
  | reportFill clientOrderId fill =>
      exact ends_bind _ (reportFill_spec ready clientOrderId fill permits)
        fun _ _ after => ends_pure after
  | reportOrderUpdate clientOrderId order =>
      exact ends_bind _ (reportOrderUpdate_spec ready clientOrderId order permits)
        fun _ _ after => ends_pure after
  | resync clientOrderId =>
      exact ends_bind _ (resyncOrder_spec ready clientOrderId permits)
        fun _ _ after => ends_pure after

end

end TurtleExecution.OrderManager

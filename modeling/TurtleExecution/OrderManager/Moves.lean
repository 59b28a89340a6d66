/-
What the operations of an order manager can do to its log and its memory.

`Recorded` lists the events that operations record, with what holds when they do;
`Move` adds the steps that record nothing.  An event changes memory by a patch
that depends on the snapshots only, so a replay repeats it.
-/

import TurtleExecution.OrderManager.Manager

set_option autoImplicit false

namespace TurtleExecution.OrderManager

open ExchangeAdapter SharedStore

section

variable {Number Stored : Type}

inductive FillChange
  | keep
  | touch
  | add (fillId : String)

def FillChange.apply (known : List String) : FillChange → List String
  | keep => known
  | touch => known
  | add fillId => addToSet known fillId

structure Patch (Number : Type) where
  eventId : Nat
  seq : Option Nat
  clientOrderId : String
  snapshot : Option (OrderSnapshot Number)
  fills : FillChange

def seqAfter (nextSeq : Nat) : Option Nat → Nat
  | some seq => max nextSeq (seq + 1)
  | none => nextSeq

def Memory.patch (memory : Memory Number) (patch : Patch Number) : Memory Number :=
  { snapshots :=
      match patch.snapshot with
      | some snapshot => memory.snapshots.set patch.clientOrderId snapshot
      | none => memory.snapshots
    processedFillIds :=
      match patch.fills with
      | .keep => memory.processedFillIds
      | change =>
          memory.processedFillIds.set patch.clientOrderId
            (change.apply (memory.fillIds patch.clientOrderId))
    appliedEventIds := memory.appliedEventIds ++ [patch.eventId]
    nextSeq := seqAfter memory.nextSeq patch.seq }

@[simp] theorem Memory.patch_appliedEventIds (memory : Memory Number) (patch : Patch Number) :
    (memory.patch patch).appliedEventIds = memory.appliedEventIds ++ [patch.eventId] := rfl

@[simp] theorem Memory.patch_nextSeq (memory : Memory Number) (patch : Patch Number) :
    (memory.patch patch).nextSeq = seqAfter memory.nextSeq patch.seq := rfl

theorem Memory.patch_snapshots (memory : Memory Number) (patch : Patch Number)
    (clientOrderId : String) :
    (memory.patch patch).snapshots.get? clientOrderId =
      if clientOrderId = patch.clientOrderId ∧ patch.snapshot.isSome then patch.snapshot
      else memory.snapshots.get? clientOrderId := by
  unfold Memory.patch
  cases patch.snapshot with
  | none => simp
  | some snapshot =>
      rw [Dict.get?_set]
      simp

theorem Memory.patch_snapshot_self (memory : Memory Number) {patch : Patch Number}
    {snapshot : OrderSnapshot Number} (built : patch.snapshot = some snapshot) :
    (memory.patch patch).snapshots.get? patch.clientOrderId = some snapshot := by
  rw [Memory.patch_snapshots, built, if_pos ⟨rfl, rfl⟩]

theorem Memory.patch_fillIds (memory : Memory Number) (patch : Patch Number)
    (clientOrderId : String) :
    (memory.patch patch).fillIds clientOrderId =
      if clientOrderId = patch.clientOrderId then
        patch.fills.apply (memory.fillIds clientOrderId)
      else memory.fillIds clientOrderId := by
  unfold Memory.patch Memory.fillIds
  by_cases same : clientOrderId = patch.clientOrderId
  · subst same
    cases patch.fills <;> simp [FillChange.apply]
  · cases patch.fills <;> simp [Dict.get?_set, same]

theorem Memory.addFillId_fillIds (memory : Memory Number) (patched fillId clientOrderId : String) :
    (memory.addFillId patched fillId).fillIds clientOrderId =
      if clientOrderId = patched then addToSet (memory.fillIds clientOrderId) fillId
      else memory.fillIds clientOrderId := by
  unfold Memory.addFillId Memory.fillIds
  by_cases same : clientOrderId = patched
  · subst same
    simp
  · simp [Dict.get?_set, same]

theorem le_seqAfter (nextSeq : Nat) (seq : Option Nat) : nextSeq ≤ seqAfter nextSeq seq := by
  cases seq with
  | none => exact Nat.le_refl nextSeq
  | some seq => exact Nat.le_max_left _ _

private theorem seqAfter_mono {nextSeq other : Nat} (ordered : nextSeq ≤ other) (seq : Option Nat) :
    seqAfter nextSeq seq ≤ seqAfter other seq := by
  cases seq with
  | none => exact ordered
  | some seq => exact max_le_max ordered (Nat.le_refl _)

private theorem note_eq_patch (memory : Memory Number) (eventId : Nat) (seq : Option Nat)
    (clientOrderId : String) :
    memory.note eventId seq =
      memory.patch { eventId, seq, clientOrderId, snapshot := none, fills := .keep } := by
  cases seq <;> rfl

variable {trigger : OrderLifecycleTrigger} {existing : OrderSnapshot Number} {payload : Payload Number}

private theorem checkedTransition_transitionPayload (event : Event Stored) (omId : String)
    (action : Action)
    (clientOrderId : String) (seq : Option Nat) {toState : OrderLifecycleState}
    (details : Details Number) (legal : nextState? existing.lifecycleState trigger = some toState) :
    checkedTransition event (transitionPayload omId action clientOrderId seq trigger
      existing.lifecycleState toState details) existing = .ok toState := by
  simp [checkedTransition, transitionPayload, legal]

def Settled (trigger : OrderLifecycleTrigger) (state : OrderLifecycleState) : Prop :=
  match trigger with
  | .acknowledged => Answered state
  | _ => isTerminal state = true

def Spent (omId : String) (replayed : Memory Number) : MutationKey → Prop
  | .submit order => order < replayed.nextSeq
  | .status order trigger _ =>
      ∃ existing, replayed.snapshots.get? (placeId omId order) = some existing ∧
        Settled trigger existing.lifecycleState
  | .submitFailed order =>
      ∃ existing, replayed.snapshots.get? (placeId omId order) = some existing ∧
        isTerminal existing.lifecycleState = true
  | .amendRequested _ request => request < replayed.nextSeq
  | .amendApplied _ request => request < replayed.nextSeq
  | .cancel _ request => request < replayed.nextSeq
  | .cancelFailed _ request => request < replayed.nextSeq
  | .cancelAll request => request < replayed.nextSeq
  | .cancelAllPending _ request => request < replayed.nextSeq
  | .cancelAllConfirmed _ request => request < replayed.nextSeq
  | .fill order fillId => fillId ∈ replayed.fillIds (placeId omId order)

def Advances (state next : OrderLifecycleState) : Prop :=
  next = state ∨ ∃ trigger, nextState? state trigger = some next

theorem Advances.terminal {state next : OrderLifecycleState} (advances : Advances state next)
    (terminal : isTerminal state = true) : next = state := by
  rcases advances with same | ⟨trigger, legal⟩
  · exact same
  · rw [not_isTerminal_of_nextState? legal] at terminal
    cases terminal

theorem Advances.settled {state next : OrderLifecycleState} (advances : Advances state next)
    (settled : Settled trigger state) : Settled trigger next := by
  have keep (terminal : isTerminal state = true) : isTerminal next = true := by
    rw [advances.terminal terminal]
    exact terminal
  cases trigger with
  | acknowledged =>
      rcases advances with rfl | ⟨trigger, legal⟩
      · exact settled
      · exact closedUnder_answered.nextState? legal settled
  | _ => exact keep settled

structure Agrees (exact : Prop) (replayed live : Memory Number) : Prop where
  snapshots : replayed.snapshots = live.snapshots
  appliedEventIds : replayed.appliedEventIds = live.appliedEventIds
  nextSeq_le : replayed.nextSeq ≤ live.nextSeq
  nextSeq_eq : exact → replayed.nextSeq = live.nextSeq
  fillIds_subset : ∀ clientOrderId, replayed.fillIds clientOrderId ⊆ live.fillIds clientOrderId
  fillIds : ∀ clientOrderId, replayed.fillIds clientOrderId = live.fillIds clientOrderId ∨
    ∃ existing, live.snapshots.get? clientOrderId = some existing ∧
      isTerminal existing.lifecycleState = true

private theorem exists_patched {memory : Memory Number} {patch : Patch Number}
    {clientOrderId : String}
    (advances : ∀ snapshot existing, patch.snapshot = some snapshot →
      memory.snapshots.get? patch.clientOrderId = some existing →
      Advances existing.lifecycleState snapshot.lifecycleState)
    (tracked : memory.snapshots.get? clientOrderId = some existing) :
    ∃ next, (memory.patch patch).snapshots.get? clientOrderId = some next ∧
      Advances existing.lifecycleState next.lifecycleState := by
  by_cases same : clientOrderId = patch.clientOrderId
  · subst same
    cases built : patch.snapshot with
    | none =>
        refine ⟨existing, ?_, Or.inl rfl⟩
        rw [Memory.patch_snapshots, built]
        simpa using tracked
    | some snapshot =>
        exact ⟨snapshot, Memory.patch_snapshot_self memory built,
          advances snapshot existing built tracked⟩
  · refine ⟨existing, ?_, Or.inl rfl⟩
    rw [Memory.patch_snapshots, if_neg (fun both => same both.1)]
    exact tracked

theorem FillChange.subset_apply (known : List String) (change : FillChange) :
    known ⊆ change.apply known := by
  intro fillId member
  cases change with
  | keep => exact member
  | touch => exact member
  | add added => exact mem_addToSet.mpr (Or.inl member)

theorem fillIds_subset_patch (memory : Memory Number) (patch : Patch Number)
    (clientOrderId : String) :
    memory.fillIds clientOrderId ⊆ (memory.patch patch).fillIds clientOrderId := by
  rw [Memory.patch_fillIds]
  split
  · exact FillChange.subset_apply _ _
  · exact List.Subset.refl _

theorem FillChange.apply_subset {known other : List String} (subset : known ⊆ other)
    (change : FillChange) : change.apply known ⊆ change.apply other := by
  cases change with
  | keep => exact subset
  | touch => exact subset
  | add added =>
      intro fillId member
      rcases mem_addToSet.mp member with old | new
      · exact mem_addToSet.mpr (Or.inl (subset old))
      · exact mem_addToSet.mpr (Or.inr new)

variable {replayed live : Memory Number} {exact : Prop}

theorem Agrees.patch {patch : Patch Number} (agrees : Agrees exact replayed live)
    (advances : ∀ snapshot existing, patch.snapshot = some snapshot →
      live.snapshots.get? patch.clientOrderId = some existing →
      Advances existing.lifecycleState snapshot.lifecycleState) :
    Agrees exact (replayed.patch patch) (live.patch patch) := by
  refine
    { snapshots := ?_
      appliedEventIds := ?_
      nextSeq_le := seqAfter_mono agrees.nextSeq_le patch.seq
      nextSeq_eq := ?_
      fillIds_subset := ?_
      fillIds := ?_ }
  · simp only [Memory.patch, agrees.snapshots]
  · rw [Memory.patch_appliedEventIds, Memory.patch_appliedEventIds, agrees.appliedEventIds]
  · intro isExact
    rw [Memory.patch_nextSeq, Memory.patch_nextSeq, agrees.nextSeq_eq isExact]
  · intro clientOrderId
    rw [Memory.patch_fillIds, Memory.patch_fillIds]
    split
    · exact FillChange.apply_subset (agrees.fillIds_subset clientOrderId) patch.fills
    · exact agrees.fillIds_subset clientOrderId
  · intro clientOrderId
    rcases agrees.fillIds clientOrderId with same | ⟨existing, tracked, terminal⟩
    · rw [Memory.patch_fillIds, Memory.patch_fillIds, same]
      exact Or.inl rfl
    · obtain ⟨next, patched, advance⟩ := exists_patched advances tracked
      refine Or.inr ⟨next, patched, ?_⟩
      rw [advance.terminal terminal]
      exact terminal

theorem Agrees.refl (exact : Prop) (memory : Memory Number) : Agrees exact memory memory :=
  { snapshots := rfl
    appliedEventIds := rfl
    nextSeq_le := Nat.le_refl _
    nextSeq_eq := fun _ => rfl
    fillIds_subset := fun _ => List.Subset.refl _
    fillIds := fun _ => Or.inl rfl }

theorem Agrees.burn (agrees : Agrees exact replayed live) (allowed : ¬ exact) :
    Agrees exact replayed { live with nextSeq := live.nextSeq + 1 } :=
  { snapshots := agrees.snapshots
    appliedEventIds := agrees.appliedEventIds
    nextSeq_le := Nat.le_succ_of_le agrees.nextSeq_le
    nextSeq_eq := fun isExact => (allowed isExact).elim
    fillIds_subset := agrees.fillIds_subset
    fillIds := agrees.fillIds }

theorem Agrees.lateFill {clientOrderId fillId : String} (agrees : Agrees exact replayed live)
    (tracked : live.snapshots.get? clientOrderId = some existing)
    (terminal : isTerminal existing.lifecycleState = true) :
    Agrees exact replayed (live.addFillId clientOrderId fillId) := by
  refine
    { snapshots := agrees.snapshots
      appliedEventIds := agrees.appliedEventIds
      nextSeq_le := agrees.nextSeq_le
      nextSeq_eq := agrees.nextSeq_eq
      fillIds_subset := ?_
      fillIds := ?_ }
  · intro other
    rw [Memory.addFillId_fillIds]
    split
    · intro known member
      exact mem_addToSet.mpr (Or.inl (agrees.fillIds_subset other member))
    · exact agrees.fillIds_subset other
  · intro other
    by_cases same : other = clientOrderId
    · rw [same]
      exact Or.inr ⟨existing, tracked, terminal⟩
    · rw [Memory.addFillId_fillIds, if_neg same]
      exact agrees.fillIds other

theorem Spent.patch {omId : String} {replayed : Memory Number} {patch : Patch Number}
    {key : MutationKey} (spent : Spent omId replayed key)
    (advances : ∀ snapshot existing, patch.snapshot = some snapshot →
      replayed.snapshots.get? patch.clientOrderId = some existing →
      Advances existing.lifecycleState snapshot.lifecycleState) :
    Spent omId (replayed.patch patch) key := by
  have later {number : Nat} (small : number < replayed.nextSeq) :
      number < (replayed.patch patch).nextSeq :=
    Nat.lt_of_lt_of_le small (le_seqAfter _ _)
  cases key with
  | status order trigger state =>
      obtain ⟨existing, tracked, settled⟩ := spent
      obtain ⟨next, patched, advance⟩ := exists_patched advances tracked
      exact ⟨next, patched, advance.settled settled⟩
  | submitFailed order =>
      obtain ⟨existing, tracked, terminal⟩ := spent
      obtain ⟨next, patched, advance⟩ := exists_patched advances tracked
      refine ⟨next, patched, ?_⟩
      rw [advance.terminal terminal]
      exact terminal
  | fill order fillId => exact fillIds_subset_patch replayed patch _ spent
  | submit order => exact later spent
  | amendRequested order request => exact later spent
  | amendApplied order request => exact later spent
  | cancel order request => exact later spent
  | cancelFailed order request => exact later spent
  | cancelAll request => exact later spent
  | cancelAllPending order request => exact later spent
  | cancelAllConfirmed order request => exact later spent

private theorem isTerminal_of_trigger {state target : OrderLifecycleState}
    (closing : trigger = .rejected ∨ trigger = .cancelConfirmed ∨ trigger = .submitFailed)
    (legal : nextState? state trigger = some target) : isTerminal target = true := by
  have leads : TransitionTable.LeadsTo transitionTable trigger fun state =>
      isTerminal state = true := by
    rcases closing with rfl | rfl | rfl <;> decide
  exact leads.nextState? legal

private theorem settled_of_status {status : OrderStatus} {state target : OrderLifecycleState}
    (reported : statusToTrigger? status = some trigger)
    (legal : nextState? state trigger = some target) : Settled trigger target := by
  cases status with
  | acknowledged =>
      cases reported
      have leads : TransitionTable.LeadsTo transitionTable .acknowledged Answered := by decide
      exact leads.nextState? legal
  | cancelled =>
      cases reported
      exact isTerminal_of_trigger (Or.inr (Or.inl rfl)) legal
  | rejected =>
      cases reported
      exact isTerminal_of_trigger (Or.inl rfl) legal
  | new => cases reported
  | partiallyFilled => cases reported
  | filled => cases reported
  | unknown => cases reported

theorem lt_seqAfter (nextSeq seq : Nat) : seq < seqAfter nextSeq (some seq) := by
  exact Nat.lt_of_lt_of_le (Nat.lt_succ_self seq) (Nat.le_max_right nextSeq (seq + 1))

def Durable (Number : Type) [Source Stored (Payload Number)] (omId : String) (log : Log Stored)
    (seq : Nat) : Prop :=
  ∃ event ∈ log.entries, ∃ payload : Payload Number,
    ownPayload? omId event = some payload ∧ payload.seq = some seq

def InLog (omId : String) (log : Log Stored) (key : MutationKey) : Prop :=
  ∃ event ∈ log.entries, event.idempotencyKey = some (namespacedKey omId (key.text omId))

/-- The triggers and keys of the status updates of an order in `state`. -/
inductive StatusKey (durable : Nat → Prop) (nextSeq order : Nat) (state : OrderLifecycleState) :
    OrderLifecycleTrigger → Option Nat → MutationKey → Prop
  | status (status : OrderStatus) (trigger : OrderLifecycleTrigger)
      (reported : statusToTrigger? status = some trigger) :
      StatusKey durable nextSeq order state trigger none (.status order trigger state)
  | submitFailed :
      StatusKey durable nextSeq order state .submitFailed none (.submitFailed order)
  | cancel :
      StatusKey durable nextSeq order state .cancelRequested (some nextSeq) (.cancel order nextSeq)
  | cancelFailed (request : Nat) (known : durable request) :
      StatusKey durable nextSeq order state .cancelFailed none (.cancelFailed order request)
  | cancelAllPending (request : Nat) (known : durable request) :
      StatusKey durable nextSeq order state .cancelRequested none (.cancelAllPending order request)
  | cancelAllConfirmed (request : Nat) (known : durable request) :
      StatusKey durable nextSeq order state .cancelConfirmed none
        (.cancelAllConfirmed order request)

variable [Arithmetic Number]

/-- An event that an operation records, and what holds when it does. -/
inductive Recorded (omId : String) (durable : Nat → Prop) (memory : Memory Number) :
    MutationKey → Payload Number → Prop
  | submit (arguments : PlaceArguments Number) :
      Recorded omId durable memory (.submit memory.nextSeq)
        (submitPayload omId (placeId omId memory.nextSeq) memory.nextSeq arguments)
  | amendRequested (order : Nat) (existing : OrderSnapshot Number)
      (tracked : memory.snapshots.get? (placeId omId order) = some existing)
      (details : Details Number) :
      Recorded omId durable memory (.amendRequested order memory.nextSeq)
        (plainPayload omId .amendRequested (placeId omId order) (some memory.nextSeq) details)
  | amendApplied (order request : Nat) (existing : OrderSnapshot Number) (known : durable request)
      (tracked : memory.snapshots.get? (placeId omId order) = some existing)
      (amendable : existing.lifecycleState = .acknowledged ∨
        existing.lifecycleState = .partiallyFilled)
      (details : Details Number) :
      Recorded omId durable memory (.amendApplied order request)
        (plainPayload omId .amend (placeId omId order) none details)
  | cancelAllRequested (details : Details Number) :
      Recorded omId durable memory (.cancelAll memory.nextSeq)
        (plainPayload omId .cancelAllRequested "*" (some memory.nextSeq) details)
  | statusUpdate (order : Nat) (existing : OrderSnapshot Number) (trigger : OrderLifecycleTrigger)
      (toState : OrderLifecycleState) (seq : Option Nat) (key : MutationKey)
      (details : Details Number)
      (tracked : memory.snapshots.get? (placeId omId order) = some existing)
      (legal : nextState? existing.lifecycleState trigger = some toState)
      (keyed : StatusKey durable memory.nextSeq order existing.lifecycleState trigger seq key) :
      Recorded omId durable memory key
        (transitionPayload omId .statusUpdate (placeId omId order) seq trigger
          existing.lifecycleState toState details)
  | fill (order : Nat) (existing : OrderSnapshot Number) (fill : Fill Number) (newFilled : Number)
      (trigger : OrderLifecycleTrigger) (toState : OrderLifecycleState)
      (tracked : memory.snapshots.get? (placeId omId order) = some existing)
      (fresh : fill.fillId ∉ memory.fillIds (placeId omId order))
      (sum : Arithmetic.add existing.filledQuantity fill.quantity = .ok newFilled)
      (triggered : fillTrigger newFilled existing.quantity = .ok trigger)
      (legal : nextState? existing.lifecycleState trigger = some toState) :
      Recorded omId durable memory (.fill order fill.fillId)
        (transitionPayload omId .fill (placeId omId order) none trigger existing.lifecycleState
          toState
          { fillId := some fill.fillId
            fillQuantity := some fill.quantity
            fillPrice := some fill.price })

def Patches (snapshots : Dict String (OrderSnapshot Number)) (event : Event Stored)
    (payload : Payload Number) (patch : Patch Number) : Prop :=
  ∀ memory : Memory Number, memory.snapshots = snapshots →
    event.eventId ∉ memory.appliedEventIds →
    memory.applyEvent event payload =
      (.ok ((memory.patch patch).snapshots.get? payload.clientOrderId), memory.patch patch)

def submitted (omId : String) (seq : Nat) (arguments : PlaceArguments Number) (now : String) :
    OrderSnapshot Number :=
  { clientOrderId := placeId omId seq
    lifecycleState := .submitted
    exchangeOrderId := none
    symbol := arguments.symbol
    side := arguments.side
    orderType := arguments.orderType
    quantity := arguments.quantity
    filledQuantity := Arithmetic.zero
    limitPrice := arguments.limitPrice
    timeInForce := arguments.timeInForce
    reduceOnly := arguments.reduceOnly
    createdAtUtc := now
    updatedAtUtc := now
    rejectReason := none }

theorem patches_submit (snapshots : Dict String (OrderSnapshot Number)) (event : Event Stored)
    (omId : String) (seq : Nat) (arguments : PlaceArguments Number) :
    Patches snapshots event (submitPayload omId (placeId omId seq) seq arguments)
      { eventId := event.eventId
        seq := some seq
        clientOrderId := placeId omId seq
        snapshot := some (submitted omId seq arguments event.timestampUtc)
        fills := .touch } := by
  rintro memory rfl fresh
  simp [Memory.applyEvent, fresh, submitPayload, plainPayload, submittedSnapshot, required, submitted,
    bind, Except.bind, pure, Except.pure, Memory.patch, Memory.note, seqAfter, Memory.fillIds,
    FillChange.apply]

theorem patches_intent (snapshots : Dict String (OrderSnapshot Number)) (event : Event Stored)
    (intent : payload.action = .amendRequested ∨ payload.action = .cancelAllRequested) :
    Patches snapshots event payload
      { eventId := event.eventId
        seq := payload.seq
        clientOrderId := payload.clientOrderId
        snapshot := none
        fills := .keep } := by
  rintro memory rfl fresh
  rw [← note_eq_patch]
  rcases intent with action | action
  · simp [Memory.applyEvent, fresh, action]
  · simp [Memory.applyEvent, fresh, action]

variable {snapshots : Dict String (OrderSnapshot Number)}

theorem patches_amend (event : Event Stored) (action : payload.action = .amend)
    (tracked : snapshots.get? payload.clientOrderId = some existing) :
    Patches snapshots event payload
      { eventId := event.eventId
        seq := payload.seq
        clientOrderId := payload.clientOrderId
        snapshot := some (amendedSnapshot event payload existing)
        fills := .keep } := by
  rintro memory rfl fresh
  have noted : (memory.note event.eventId payload.seq).snapshots.get? payload.clientOrderId =
      some existing := tracked
  simp [Memory.applyEvent, fresh, action, noted, Memory.commit, Memory.patch]
  cases payload.seq <;> simp [Memory.note, seqAfter]

theorem patches_statusUpdate (event : Event Stored) (omId clientOrderId : String) (seq : Option Nat)
    {toState : OrderLifecycleState} (details : Details Number)
    (tracked : snapshots.get? clientOrderId = some existing)
    (legal : nextState? existing.lifecycleState trigger = some toState) :
    let payload := transitionPayload omId .statusUpdate clientOrderId seq trigger
      existing.lifecycleState toState details
    Patches snapshots event payload
      { eventId := event.eventId
        seq
        clientOrderId
        snapshot := some (updatedSnapshot event payload existing toState)
        fills := .keep } := by
  rintro payload memory rfl fresh
  have noted : (memory.note event.eventId seq).snapshots.get? clientOrderId = some existing := tracked
  have checked := checkedTransition_transitionPayload event omId .statusUpdate clientOrderId seq
    details legal
  have action : payload.action = .statusUpdate := rfl
  have order : payload.clientOrderId = clientOrderId := rfl
  have sameSeq : payload.seq = seq := rfl
  simp [Memory.applyEvent, fresh, action, order, sameSeq, noted, Memory.commit, Memory.patch, payload,
    checked, Except.map]
  cases seq <;> simp [Memory.note, seqAfter]

theorem patches_fill (event : Event Stored) (omId clientOrderId : String)
    {toState : OrderLifecycleState} (fill : Fill Number) {newFilled : Number}
    (tracked : snapshots.get? clientOrderId = some existing)
    (legal : nextState? existing.lifecycleState trigger = some toState)
    (sum : Arithmetic.add existing.filledQuantity fill.quantity = .ok newFilled) :
    Patches snapshots event
      (transitionPayload omId .fill clientOrderId none trigger existing.lifecycleState toState
        { fillId := some fill.fillId
          fillQuantity := some fill.quantity
          fillPrice := some fill.price })
      { eventId := event.eventId
        seq := none
        clientOrderId
        snapshot := some
          { existing with
            lifecycleState := toState
            filledQuantity := newFilled
            updatedAtUtc := event.timestampUtc }
        fills := .add fill.fillId } := by
  rintro memory rfl fresh
  have noted : (memory.note event.eventId none).snapshots.get? clientOrderId = some existing := tracked
  simp [Memory.applyEvent, fresh, noted, Memory.commit, Memory.patch, transitionPayload, required,
    checkedTransition, legal, filledSnapshot, sum, bind, Except.bind, pure, Except.pure]
  simp [Memory.note, seqAfter, Memory.addFillId, FillChange.apply, Memory.fillIds]

/-- What a recorded event does to any memory with the same snapshots. -/
structure Effect (omId : String) (durable : Nat → Prop) (memory : Memory Number)
    (event : Event Stored) (key : MutationKey) (payload : Payload Number) (patch : Patch Number) :
    Prop where
  patches : Patches memory.snapshots event payload patch
  eventId : patch.eventId = event.eventId
  seq : patch.seq = payload.seq
  progress : ∀ snapshot, patch.snapshot = some snapshot →
    (patch.clientOrderId = placeId omId memory.nextSeq ∧ patch.seq = some memory.nextSeq) ∨
      ∃ existing, memory.snapshots.get? patch.clientOrderId = some existing ∧
        Advances existing.lifecycleState snapshot.lifecycleState
  spent : ∀ replayed : Memory Number, replayed.snapshots = memory.snapshots →
    (∀ request, durable request → request < replayed.nextSeq) →
    Spent omId (replayed.patch patch) key
  kept : patch.snapshot = none → patch.fills = .keep

theorem Recorded.effect {omId : String} {durable : Nat → Prop} {memory : Memory Number}
    {key : MutationKey} (recorded : Recorded omId durable memory key payload) (event : Event Stored) :
    ∃ patch, Effect omId durable memory event key payload patch := by
  cases recorded with
  | submit arguments =>
      exact ⟨_,
        { patches := patches_submit memory.snapshots event omId memory.nextSeq arguments
          eventId := rfl
          seq := rfl
          progress := fun snapshot _ => Or.inl ⟨rfl, rfl⟩
          spent := fun replayed _ _ => lt_seqAfter replayed.nextSeq memory.nextSeq
          kept := fun absent => by cases absent }⟩
  | amendRequested order existing tracked details =>
      exact ⟨_,
        { patches := patches_intent memory.snapshots event (Or.inl rfl)
          eventId := rfl
          seq := rfl
          progress := fun snapshot absent => by cases absent
          spent := fun replayed _ _ => lt_seqAfter replayed.nextSeq memory.nextSeq
          kept := fun _ => rfl }⟩
  | amendApplied order request existing known tracked amendable details =>
      exact ⟨_,
        { patches := patches_amend event rfl tracked
          eventId := rfl
          seq := rfl
          progress := by
            rintro snapshot ⟨⟩
            exact Or.inr ⟨existing, tracked, Or.inl rfl⟩
          spent := fun replayed _ known' => known' request known
          kept := fun absent => by cases absent }⟩
  | cancelAllRequested details =>
      exact ⟨_,
        { patches := patches_intent memory.snapshots event (Or.inr rfl)
          eventId := rfl
          seq := rfl
          progress := fun snapshot absent => by cases absent
          spent := fun replayed _ _ => lt_seqAfter replayed.nextSeq memory.nextSeq
          kept := fun _ => rfl }⟩
  | statusUpdate order existing trigger toState seq key details tracked legal keyed =>
      refine ⟨_,
        { patches := patches_statusUpdate event omId (placeId omId order) seq details tracked legal
          eventId := rfl
          seq := rfl
          progress := ?_
          spent := ?_
          kept := fun absent => by cases absent }⟩
      · rintro snapshot ⟨⟩
        exact Or.inr ⟨existing, tracked, Or.inr ⟨trigger, legal⟩⟩
      · intro replayed sameSnapshots known
        cases keyed with
        | status status trigger reported =>
            exact ⟨_, Memory.patch_snapshot_self replayed rfl, settled_of_status reported legal⟩
        | submitFailed =>
            exact ⟨_, Memory.patch_snapshot_self replayed rfl,
              isTerminal_of_trigger (Or.inr (Or.inr rfl)) legal⟩
        | cancel => exact lt_seqAfter replayed.nextSeq memory.nextSeq
        | cancelFailed request durable => exact known request durable
        | cancelAllPending request durable => exact known request durable
        | cancelAllConfirmed request durable => exact known request durable
  | fill order existing fill newFilled trigger toState tracked fresh sum triggered legal =>
      refine ⟨_,
        { patches := patches_fill event omId (placeId omId order) fill tracked legal sum
          eventId := rfl
          seq := rfl
          progress := ?_
          spent := ?_
          kept := fun absent => by cases absent }⟩
      · rintro snapshot ⟨⟩
        exact Or.inr ⟨existing, tracked, Or.inr ⟨trigger, legal⟩⟩
      · intro replayed _ _
        change fill.fillId ∈ (replayed.patch _).fillIds _
        rw [Memory.patch_fillIds, if_pos rfl]
        exact mem_addToSet.mpr (Or.inr rfl)

theorem Effect.advances {omId : String} {durable : Nat → Prop} {memory : Memory Number}
    {event : Event Stored} {key : MutationKey} {patch : Patch Number}
    (effect : Effect omId durable memory event key payload patch)
    (tracked : ∀ clientOrderId existing, memory.snapshots.get? clientOrderId = some existing →
      ∃ order < memory.nextSeq, clientOrderId = placeId omId order) :
    ∀ snapshot existing, patch.snapshot = some snapshot →
      memory.snapshots.get? patch.clientOrderId = some existing →
      Advances existing.lifecycleState snapshot.lifecycleState := by
  intro snapshot existing built found
  rcases effect.progress snapshot built with ⟨named, _⟩ | ⟨known, tracked, advances⟩
  · obtain ⟨order, small, same⟩ := tracked _ existing found
    rw [named] at same
    rw [placeId_injective same] at small
    exact (Nat.lt_irrefl order small).elim
  · rw [tracked] at found
    cases found
    exact advances

end

end TurtleExecution.OrderManager

/-
The effects of the operations, and the moves they are.

From a reachable state an effect ends in a reachable state, returned or raised,
and the process dies in one that a restart recovers.
-/

import TurtleExecution.ExecutionStateMachine.Runs
import TurtleExecution.OrderManager.Invariant

set_option autoImplicit false

namespace TurtleExecution.OrderManager

open ExchangeAdapter SharedStore Process

section

variable {Number Stored : Type}

def World.tick (world : World Stored Number) : World Stored Number :=
  { world with clock := world.clock + 1 }

theorem consult_eq (world : World Stored Number) :
    consult world =
      if (world.environment world.clock).crash then (.crashed, world.tick)
      else (.returned (world.environment world.clock), world.tick) := by
  unfold consult
  change (if (world.environment world.clock).crash then crash else _ : Operation Stored Number _)
    world.tick = _
  split
  · rfl
  · rfl

theorem trackedOrder_eq (clientOrderId : String) (world : World Stored Number) :
    trackedOrder clientOrderId world =
      match world.memory.snapshots.get? clientOrderId with
      | some existing => (.returned existing, world)
      | none => (.raised (.orderNotFound clientOrderId), world) := by
  change (match world.memory.snapshots.get? clientOrderId with
    | some existing => pure existing
    | none => raise (.orderNotFound clientOrderId) : Operation Stored Number _) world = _
  cases world.memory.snapshots.get? clientOrderId with
  | none => rfl
  | some existing => rfl

def World.bump (world : World Stored Number) : World Stored Number :=
  { world with memory := { world.memory with nextSeq := world.memory.nextSeq + 1 } }

theorem nextId_eq (omId suffix : String) (world : World Stored Number) :
    nextId omId suffix world =
      (.returned (world.memory.nextSeq, makeId omId world.memory.nextSeq suffix), world.bump) :=
  rfl

variable [Sources Stored Number]

structure Undisturbed (omId : String) (before after : World Stored Number) : Prop where
  memory : after.memory = before.memory
  handed : after.handed = before.handed
  inLog : ∀ key, InLog omId after.log key ↔ InLog omId before.log key
  durable : ∀ seq, Durable Number omId before.log seq →
    Durable Number omId after.log seq

theorem machineKey_ne (machineId requestId omId idempotencyKey : String) :
    ExecutionStateMachine.namespacedKey machineId requestId ≠ namespacedKey omId idempotencyKey := by
  intro same
  have chars := congrArg String.toList same
  simp [ExecutionStateMachine.namespacedKey, ExecutionStateMachine.eventSourceTag, namespacedKey,
    keyNamespace, eventSourceTag, toString] at chars

/-- An event of the execution state machine is foreign to the order manager. -/
def machineEvent (omId : String) (machine : ExecutionStateMachine.Machine)
    (call : ExecutionStateMachine.TransitionCall) (toState : ExecutionStateMachine.State) :
    Foreign omId Stored Number :=
  { eventType := call.trigger.eventType
    payload := Source.wrap
      (ExecutionStateMachine.transitionPayload machine.machineId call machine.currentState toState)
    key := some (ExecutionStateMachine.namespacedKey machine.machineId call.requestId)
    now := call.now
    notOwn := by
      intro event wrapped
      unfold ownPayload?
      rw [wrapped]
      rw [show Source.own? (Source.wrap _) = none from Sources.separate _]
    otherKey := fun idempotencyKey same =>
      machineKey_ne _ _ _ _ (Option.some.inj same) }

private theorem undisturbed_concat {omId : String} {before after : World Stored Number}
    (added : Foreign omId Stored Number) (memory : after.memory = before.memory)
    (handed : after.handed = before.handed)
    (entries : after.log.entries = before.log.entries ++
      [before.log.nextEvent added.eventType added.payload added.key added.now]) :
    Undisturbed omId before after := by
  refine { memory, handed, inLog := ?_, durable := ?_ }
  · intro key
    rw [inLog_concat entries key]
    constructor
    · rintro (old | new)
      · exact old
      · exact (added.otherKey _ new).elim
    · exact Or.inl
  · intro seq durable
    exact (durable_concat entries seq).mpr (Or.inl durable)

theorem Undisturbed.refl (omId : String) (world : World Stored Number) :
    Undisturbed omId world world :=
  { memory := rfl
    handed := rfl
    inLog := fun _ => Iff.rfl
    durable := fun _ durable => durable }

theorem driveExecutionSm_eq (clientOrderId : String) (trigger : OrderLifecycleTrigger)
    (fromState : OrderLifecycleState) (unfilled : Bool) (world : World Stored Number) :
    driveExecutionSm clientOrderId trigger fromState unfilled world =
      match executionTrigger? trigger fromState unfilled with
      | none => (.returned (), world)
      | some executionTrigger =>
          if (world.environment world.clock).crash then (.crashed, world.tick)
          else
            let outcome := ExecutionStateMachine.transition world.log world.machine
              (driveCall clientOrderId executionTrigger (world.environment world.clock))
            exceptIllegal outcome.1
              { world.tick with log := outcome.2.1, machine := outcome.2.2 } := by
  unfold driveExecutionSm
  cases executionTrigger? trigger fromState unfilled with
  | none => rfl
  | some executionTrigger =>
      change Process.bind consult _ world = _
      unfold Process.bind
      rw [consult_eq]
      cases (world.environment world.clock).crash with
      | true => rfl
      | false => rfl

variable [Arithmetic Number]

/-- What is watched in a run: a property that the permitted moves keep. -/
structure Watch (omId : String) (Stored Number : Type) [Sources Stored Number]
    [Arithmetic Number] where
  exact : Prop
  permitted : MutationKey → Payload Number → Prop
  kept : Core Stored Number → Prop
  keeps : ∀ before after, Reachable exact omId before → kept before →
    Move exact omId permitted before after → kept after

def Watch.plain (exact : Prop) (omId : String) : Watch omId Stored Number :=
  { exact
    permitted := anyPayload
    kept := fun _ => True
    keeps := fun _ _ _ _ _ => trivial }

/-- A reachable world; in an exact run its environment fails no append. -/
structure Ready {omId : String} (watch : Watch omId Stored Number) (world : World Stored Number) :
    Prop where
  reachable : Reachable watch.exact omId world.core
  kept : watch.kept world.core
  appends : watch.exact → ∀ tick, (world.environment tick).appendFailure = none

/-- A world whose log and requests a reachable state has, whatever is in memory. -/
def Recoverable {omId : String} (watch : Watch omId Stored Number) (world : World Stored Number) :
    Prop :=
  (watch.exact → ∀ tick, (world.environment tick).appendFailure = none) ∧
    ∃ memory, Reachable watch.exact omId { log := world.log, memory, handed := world.handed } ∧
      watch.kept { log := world.log, memory, handed := world.handed }

variable {omId : String} {watch : Watch omId Stored Number} {world : World Stored Number}

theorem Ready.recoverable (ready : Ready watch world) : Recoverable watch world :=
  ⟨ready.appends, world.memory, ready.reachable, ready.kept⟩

def anyEnd (Value : Type) {omId : String} (watch : Watch omId Stored Number) :
    Post (World Stored Number) OrderManagerError Value :=
  { returned := fun _ world => Ready watch world
    raised := fun _ world => Ready watch world
    crashed := fun world => Recoverable watch world }

theorem Ready.tick (ready : Ready watch world) : Ready watch world.tick :=
  { reachable := ready.reachable, kept := ready.kept, appends := ready.appends }

theorem Ready.move {after : World Stored Number} (ready : Ready watch world)
    (move : Move watch.exact omId watch.permitted world.core after.core)
    (environment : after.environment = world.environment) : Ready watch after :=
  { reachable := ready.reachable.step move.any
    kept := watch.keeps _ _ ready.reachable ready.kept move
    appends := by
      rw [environment]
      exact ready.appends }

variable {exact : Prop} {before after : Core Stored Number} {key : MutationKey}
  {payload : Payload Number} {existing : OrderSnapshot Number} {trigger : OrderLifecycleTrigger}

theorem applyPersisted_eq {event : Event Stored} (own : Source.own? event.payload = some payload)
    (world : World Stored Number) :
    applyPersisted event world =
      ofExcept (world.memory.applyEvent event payload).1
        { world with memory := (world.memory.applyEvent event payload).2 } := by
  unfold applyPersisted
  simp only [own]
  rfl

theorem persistAndApply_eq (world : World Stored Number) (payload : Payload Number)
    (unused : ¬ InLog omId world.log key) :
    ∃ log : Log Stored,
      log.entries = world.log.entries ++
        [recordedEvent omId world.log key payload (world.environment world.clock).now] ∧
      persistAndApply omId payload (key.text omId) world =
        if (world.environment world.clock).crash then (.crashed, world.tick)
        else
          match (world.environment world.clock).appendFailure with
          | some failure => (.raised (.store failure), world.tick)
          | none =>
              let applied := world.memory.applyEvent
                (recordedEvent omId world.log key payload (world.environment world.clock).now) payload
              ofExcept applied.1 { world.tick with log, memory := applied.2 } := by
  have fresh : world.log.getByIdempotencyKey (namespacedKey omId (key.text omId)) = none := by
    cases stored : world.log.getByIdempotencyKey (namespacedKey omId (key.text omId)) with
    | none => rfl
    | some event => exact (unused ⟨event, Log.getByIdempotencyKey_eq_some_iff.mp stored⟩).elim
  obtain ⟨added, entries⟩ := Log.append_of_fresh fresh
    (eventTypeForAction payload.action payload.toState) (Source.wrap payload)
    (world.environment world.clock).now
  refine ⟨_, entries, ?_⟩
  change Process.bind (Process.bind consult _) _ world = _
  unfold Process.bind
  simp only [consult_eq]
  cases (world.environment world.clock).crash with
  | true => rfl
  | false =>
      simp only [Bool.false_eq_true, if_false]
      cases (world.environment world.clock).appendFailure with
      | some failure => rfl
      | none =>
          have own : Source.own? (recordedEvent omId world.log key payload
              (world.environment world.clock).now).payload = some payload :=
            Source.own?_wrap payload
          change applyPersisted (world.log.append _ _ _ _).1
            { world.tick with log := (world.log.append _ _ _ _).2 } = _
          rw [added]
          exact applyPersisted_eq own _

def RecordedIn (omId : String) (key : MutationKey) (payload : Payload Number)
    (before after : Core Stored Number) : Prop :=
  ∃ now, after.log.entries = before.log.entries ++ [recordedEvent omId before.log key payload now] ∧
    after.memory = (before.memory.applyEvent (recordedEvent omId before.log key payload now)
      payload).2 ∧
    after.handed = before.handed

theorem Reachable.eventId_fresh {core : Core Stored Number} (reached : Reachable exact omId core)
    (key : MutationKey) (payload : Payload Number) (now : String) :
    (recordedEvent omId core.log key payload now).eventId ∉ core.memory.appliedEventIds := by
  obtain ⟨replayed, replays, agrees⟩ := reached.consistent.replays
  rw [← agrees.appliedEventIds]
  intro known
  exact Nat.not_succ_le_self _ (replays.applied _ known)

theorem Recorded.applied {core : Core Stored Number} (reached : Reachable exact omId core)
    (recorded : Recorded omId (Durable Number omId core.log) core.memory key payload) (now : String) :
    ∃ patch, Effect omId (Durable Number omId core.log) core.memory
        (recordedEvent omId core.log key payload now) key payload patch ∧
      core.memory.applyEvent (recordedEvent omId core.log key payload now) payload =
        (.ok ((core.memory.patch patch).snapshots.get? payload.clientOrderId),
          core.memory.patch patch) := by
  obtain ⟨patch, effect⟩ := recorded.effect (recordedEvent omId core.log key payload now)
  exact ⟨patch, effect, effect.patches core.memory rfl
    (reached.eventId_fresh key payload now)⟩

theorem RecordedIn.move {permitted : MutationKey → Payload Number → Prop}
    (added : RecordedIn omId key payload before after)
    (recorded : Recorded omId (Durable Number omId before.log) before.memory key payload)
    (allowed : permitted key payload) (unused : ¬ InLog omId before.log key) :
    Move exact omId permitted before after := by
  obtain ⟨now, entries, memory, handed⟩ := added
  have move : Move exact omId permitted before _ :=
    .record before after.log key payload now recorded allowed unused entries
  rw [← memory, ← handed] at move
  exact move

theorem persistAndApply_spec (ready : Ready watch world)
    (recorded : Recorded omId (Durable Number omId world.log) world.memory key payload)
    (allowed : watch.permitted key payload) (unused : ¬ InLog omId world.log key) :
    Ends (persistAndApply omId payload (key.text omId)) world
      { returned := fun _ after =>
          Ready watch after ∧ RecordedIn omId key payload world.core after.core
        raised := fun _ after => Ready watch after ∧ after.core = world.core
        crashed := fun after => Recoverable watch after } := by
  unfold Ends
  obtain ⟨log, entries, outcome⟩ := persistAndApply_eq world payload unused
  rw [outcome]
  cases (world.environment world.clock).crash with
  | true => exact ready.tick.recoverable
  | false =>
      cases (world.environment world.clock).appendFailure with
      | some failure => exact ⟨ready.tick, rfl⟩
      | none =>
          obtain ⟨patch, effect, applied⟩ := recorded.applied ready.reachable
            (world.environment world.clock).now
          have added : RecordedIn omId key payload world.core
              { log
                memory := (world.memory.applyEvent (recordedEvent omId world.log key payload
                  (world.environment world.clock).now) payload).2
                handed := world.handed } := ⟨_, entries, rfl, rfl⟩
          change Post.Holds _ (ofExcept (world.memory.applyEvent _ _).1 _)
          rw [show (world.memory.applyEvent (recordedEvent omId world.log key payload
              (world.environment world.clock).now) payload).1 = .ok _ from congrArg Prod.fst applied]
          exact ⟨ready.move (added.move recorded allowed unused) rfl, added⟩

theorem applyEvent_bump (ready : Ready watch world)
    (recorded : Recorded omId (Durable Number omId world.log) world.memory key payload)
    (numbered : payload.seq = some world.memory.nextSeq) (now : String) :
    world.bump.memory.applyEvent (recordedEvent omId world.log key payload now) payload =
      world.memory.applyEvent (recordedEvent omId world.log key payload now) payload := by
  obtain ⟨patch, effect, applied⟩ := recorded.applied ready.reachable now
  have same : world.bump.memory.patch patch = world.memory.patch patch := by
    have seqs : seqAfter (world.memory.nextSeq + 1) patch.seq =
        seqAfter world.memory.nextSeq patch.seq := by
      rw [effect.seq, numbered]
      simp [seqAfter]
    simp only [Memory.patch, World.bump, seqs, Memory.fillIds]
  have taken := effect.patches world.bump.memory rfl (ready.reachable.eventId_fresh key payload now)
  rw [same] at taken
  exact taken.trans applied.symm

theorem persistAndApply_bump (ready : Ready watch world)
    (recorded : Recorded omId (Durable Number omId world.log) world.memory key payload)
    (allowed : watch.permitted key payload) (unused : ¬ InLog omId world.log key)
    (numbered : payload.seq = some world.memory.nextSeq) :
    Ends (persistAndApply omId payload (key.text omId)) world.bump
      { returned := fun _ after =>
          Ready watch after ∧ RecordedIn omId key payload world.core after.core
        raised := fun _ after => Ready watch after
        crashed := fun after => Recoverable watch after } := by
  unfold Ends
  obtain ⟨log, entries, outcome⟩ := persistAndApply_eq world.bump payload unused
  rw [outcome]
  change Post.Holds _ (if (world.environment world.clock).crash then _ else _)
  cases (world.environment world.clock).crash with
  | true => exact ready.tick.recoverable
  | false =>
      change Post.Holds _ (match (world.environment world.clock).appendFailure with
        | some failure => _
        | none => _)
      cases failed : (world.environment world.clock).appendFailure with
      | some failure =>
          have inexact : ¬ watch.exact := by
            intro isExact
            rw [ready.appends isExact] at failed
            cases failed
          exact (ready.move (.burn world.core inexact) rfl : Ready watch world.bump).tick
      | none =>
          obtain ⟨patch, effect, applied⟩ := recorded.applied ready.reachable
            (world.environment world.clock).now
          have same := applyEvent_bump ready recorded numbered (world.environment world.clock).now
          have added : RecordedIn omId key payload world.core
              { log
                memory := (world.bump.memory.applyEvent (recordedEvent omId world.log key payload
                  (world.environment world.clock).now) payload).2
                handed := world.handed } := ⟨_, entries, congrArg Prod.snd same, rfl⟩
          change Post.Holds _ (ofExcept (world.bump.memory.applyEvent (recordedEvent omId world.log
            key payload (world.environment world.clock).now) payload).1 _)
          rw [show (world.bump.memory.applyEvent (recordedEvent omId world.log key payload
              (world.environment world.clock).now) payload).1 = .ok _ from
            (congrArg Prod.fst same).trans (congrArg Prod.fst applied)]
          exact ⟨ready.move (added.move recorded allowed unused) rfl, added⟩

theorem RecordedIn.inLog (added : RecordedIn omId key payload before after) (other : MutationKey) :
    InLog omId after.log other ↔ InLog omId before.log other ∨ key = other := by
  obtain ⟨now, entries, _, _⟩ := added
  rw [inLog_concat entries other]
  constructor
  · rintro (old | new)
    · exact Or.inl old
    · exact Or.inr (MutationKey.text_injective (namespacedKey_injective (Option.some.inj new)))
  · rintro (old | rfl)
    · exact Or.inl old
    · exact Or.inr rfl

theorem RecordedIn.durable (added : RecordedIn omId key payload before after)
    (own : payload.omId = omId) {seq : Nat}
    (known : Durable Number omId before.log seq ∨ payload.seq = some seq) :
    Durable Number omId after.log seq := by
  obtain ⟨now, entries, _, _⟩ := added
  rw [durable_concat entries seq]
  rcases known with old | numbered
  · exact Or.inl old
  · exact Or.inr ⟨payload, ownPayload?_recordedEvent before.log key now own, numbered⟩

theorem RecordedIn.handed (added : RecordedIn omId key payload before after) :
    after.handed = before.handed := by
  obtain ⟨now, _, _, handed⟩ := added
  exact handed

theorem RecordedIn.memory_eq {patch : Event Stored → Patch Number}
    (added : RecordedIn omId key payload before after) (reached : Reachable exact omId before)
    (patches : ∀ event, Patches before.memory.snapshots event payload (patch event)) :
    ∃ event, after.memory = before.memory.patch (patch event) := by
  obtain ⟨now, _, memory, _⟩ := added
  refine ⟨recordedEvent omId before.log key payload now, ?_⟩
  rw [memory, patches _ before.memory rfl (reached.eventId_fresh key payload now)]

theorem RecordedIn.snapshots_intent (added : RecordedIn omId key payload before after)
    (reached : Reachable exact omId before)
    (intent : payload.action = .amendRequested ∨ payload.action = .cancelAllRequested) :
    after.memory.snapshots = before.memory.snapshots := by
  obtain ⟨event, memory⟩ := added.memory_eq reached
    (patches_intent before.memory.snapshots · intent)
  rw [memory]
  rfl

theorem RecordedIn.snapshots_statusUpdate {omId clientOrderId : String} {seq : Option Nat}
    {toState : OrderLifecycleState} {details : Details Number}
    (added : RecordedIn omId key
      (transitionPayload omId .statusUpdate clientOrderId seq trigger existing.lifecycleState toState
        details) before after) (reached : Reachable exact omId before)
    (tracked : before.memory.snapshots.get? clientOrderId = some existing)
    (legal : nextState? existing.lifecycleState trigger = some toState) :
    (∃ updated, after.memory.snapshots.get? clientOrderId = some updated ∧
        updated.lifecycleState = toState) ∧
      ∀ other, other ≠ clientOrderId →
        after.memory.snapshots.get? other = before.memory.snapshots.get? other := by
  obtain ⟨event, memory⟩ := added.memory_eq reached
    (patches_statusUpdate · omId clientOrderId seq details tracked legal)
  rw [memory]
  constructor
  · exact ⟨_, Memory.patch_snapshot_self before.memory rfl, rfl⟩
  · intro other different
    rw [Memory.patch_snapshots, if_neg (fun both => different both.1)]

theorem Ready.not_inLog (ready : Ready watch world)
    (unspent : ∀ replayed, Agrees watch.exact replayed world.memory → ¬ Spent omId replayed key) :
    ¬ InLog omId world.log key := by
  intro logged
  obtain ⟨replayed, replays, agrees⟩ := ready.reachable.consistent.replays
  exact unspent replayed agrees (replays.spent key logged)

theorem Ready.not_inLog_nextSeq (ready : Ready watch world)
    (numbered : ∀ replayed : Memory Number, Spent omId replayed key →
      world.memory.nextSeq < replayed.nextSeq) : ¬ InLog omId world.log key := by
  apply ready.not_inLog
  intro replayed agrees spent
  exact Nat.lt_irrefl _ (Nat.lt_of_lt_of_le (numbered replayed spent) agrees.nextSeq_le)

private theorem not_settled {status : OrderStatus} {state target : OrderLifecycleState}
    (reported : statusToTrigger? status = some trigger)
    (legal : nextState? state trigger = some target) : ¬ Settled trigger state := by
  cases status with
  | acknowledged =>
      cases reported
      revert legal
      cases state <;> simp [Settled, Answered, nextState?, transitionTable,
        TransitionTable.nextState?]
  | cancelled =>
      cases reported
      intro settled
      exact Bool.false_ne_true ((not_isTerminal_of_nextState? legal).symm.trans settled)
  | rejected =>
      cases reported
      intro settled
      exact Bool.false_ne_true ((not_isTerminal_of_nextState? legal).symm.trans settled)
  | new => cases reported
  | partiallyFilled => cases reported
  | filled => cases reported
  | unknown => cases reported

variable {target : OrderLifecycleState} {order : Nat}

theorem Ready.not_inLog_status (ready : Ready watch world) {status : OrderStatus}
    (tracked : world.memory.snapshots.get? (placeId omId order) = some existing)
    (reported : statusToTrigger? status = some trigger)
    (legal : nextState? existing.lifecycleState trigger = some target) :
    ¬ InLog omId world.log (.status order trigger existing.lifecycleState) := by
  apply ready.not_inLog
  rintro replayed agrees ⟨known, found, settled⟩
  rw [agrees.snapshots, tracked] at found
  cases found
  exact not_settled reported legal settled

theorem Ready.not_inLog_submitFailed (ready : Ready watch world)
    (tracked : world.memory.snapshots.get? (placeId omId order) = some existing)
    (legal : nextState? existing.lifecycleState trigger = some target) :
    ¬ InLog omId world.log (.submitFailed order) := by
  apply ready.not_inLog
  rintro replayed agrees ⟨known, found, terminal⟩
  rw [agrees.snapshots, tracked] at found
  cases found
  rw [not_isTerminal_of_nextState? legal] at terminal
  cases terminal

theorem Ready.not_inLog_fill (ready : Ready watch world) {fillId : String}
    (fresh : fillId ∉ world.memory.fillIds (placeId omId order)) :
    ¬ InLog omId world.log (.fill order fillId) := by
  apply ready.not_inLog
  intro replayed agrees spent
  exact fresh (agrees.fillIds_subset _ spent)

theorem Ready.tracked (ready : Ready watch world) {clientOrderId : String}
    (found : world.memory.snapshots.get? clientOrderId = some existing) :
    ∃ order, clientOrderId = placeId omId order := by
  obtain ⟨replayed, replays, agrees⟩ := ready.reachable.consistent.replays
  obtain ⟨order, _, named⟩ := agrees.tracked replays clientOrderId existing found
  exact ⟨order, named⟩

theorem transition_undisturbed (ready : Ready watch world) (call : ExecutionStateMachine.TransitionCall) :
    let outcome := ExecutionStateMachine.transition world.log world.machine call
    let after := { world.tick with log := outcome.2.1, machine := outcome.2.2 }
    Ready watch after ∧ Undisturbed omId world after := by
  intro outcome after
  rcases ExecutionStateMachine.transition_cases world.log world.machine call with
    answered | ⟨_, toState, recorded⟩
  · have same : after.core = world.core := by
      change ({ log := outcome.2.1, memory := world.memory, handed := world.handed } : Core _ _) = _
      rw [show outcome.2.1 = world.log from congrArg Prod.fst answered.unchanged]
      rfl
    have sameLog : after.log = world.log := congrArg Core.log same
    refine ⟨{ reachable := ?_, kept := ?_, appends := ready.appends }, ?_⟩
    · rw [same]
      exact ready.reachable
    · rw [same]
      exact ready.kept
    · exact
        { memory := rfl
          handed := rfl
          inLog := fun key => by rw [sameLog]
          durable := fun seq durable => by
            rw [sameLog]
            exact durable }
  · let added : Foreign omId Stored Number := machineEvent omId world.machine call toState
    exact ⟨ready.move (.foreign world.core outcome.2.1 added recorded.entries) rfl,
      undisturbed_concat added rfl rfl recorded.entries⟩

theorem driveExecutionSm_spec (ready : Ready watch world) (clientOrderId : String) (trigger : OrderLifecycleTrigger)
    (fromState : OrderLifecycleState) (unfilled : Bool) :
    Ends (driveExecutionSm clientOrderId trigger fromState unfilled) world
      { returned := fun _ after => Ready watch after ∧ Undisturbed omId world after
        raised := fun _ after => Ready watch after ∧ Undisturbed omId world after
        crashed := fun after => Recoverable watch after } := by
  unfold Ends
  rw [driveExecutionSm_eq]
  cases executionTrigger? trigger fromState unfilled with
  | none => exact ⟨ready, Undisturbed.refl omId world⟩
  | some executionTrigger =>
      dsimp only
      cases (world.environment world.clock).crash with
      | true => exact ready.tick.recoverable
      | false =>
          obtain ⟨driven, undisturbed⟩ := transition_undisturbed ready
            (driveCall clientOrderId executionTrigger (world.environment world.clock))
          rw [if_neg Bool.false_ne_true]
          generalize ExecutionStateMachine.transition world.log world.machine
            (driveCall clientOrderId executionTrigger (world.environment world.clock)) = outcome
            at driven undisturbed ⊢
          obtain ⟨result, log, machine⟩ := outcome
          cases result with
          | ok result => exact ⟨driven, undisturbed⟩
          | error error =>
              cases error with
              | illegalTransition message => exact ⟨driven, undisturbed⟩
              | valueError message => exact ⟨driven, undisturbed⟩
              | replayIntegrity eventId problem => exact ⟨driven, undisturbed⟩
              | store failure => exact ⟨driven, undisturbed⟩

theorem hand_spec (ready : Ready watch world) {request : Request Number} {seq : Nat} {suffix : String}
    (identified : request.id = makeId omId seq suffix)
    (durable : Durable Number omId world.log seq)
    (fresh : ∀ earlier ∈ world.handed, earlier.request.id ≠ request.id) :
    Ends (hand request) world
      { returned := fun _ after => Ready watch after ∧ after.log = world.log ∧
          after.memory = world.memory
        raised := fun _ _ => False
        crashed := fun after => Recoverable watch after } := by
  unfold Ends
  change Post.Holds _ (Process.bind consult _ world)
  unfold Process.bind
  rw [consult_eq]
  cases (world.environment world.clock).crash with
  | true => exact ready.tick.recoverable
  | false =>
      exact ⟨ready.move (.hand world.core request seq suffix identified durable fresh) rfl, rfl, rfl⟩

end

end TurtleExecution.OrderManager

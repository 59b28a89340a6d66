/-
Runs of an order manager: calls, crashes, restarts and events of other modules.

The manager is alive or dead; a dead one does nothing until a restart rebuilds it
from the log.  The execution state machine of a restart is any.
-/

import TurtleExecution.OrderManager.Operations

set_option autoImplicit false

namespace TurtleExecution.OrderManager

open ExchangeAdapter SharedStore Process

section

variable {Number Stored : Type} [Arithmetic Number] [Sources Stored Number]

inductive Step (omId : String) (Stored Number : Type) [Sources Stored Number]
  | call (call : Call Number)
  | foreign (added : Foreign omId Stored Number)
  | kill
  | restart (machine : ExecutionStateMachine.Machine)

structure System (Stored Number : Type) where
  world : World Stored Number
  alive : Bool

def System.step {omId : String} (system : System Stored Number) :
    Step omId Stored Number → System Stored Number
  | .call call =>
      if system.alive then
        match call.operation omId system.world with
        | (.crashed, world) => { world, alive := false }
        | (_, world) => { world, alive := true }
      else system
  | .foreign added =>
      { system with
        world := { system.world with
          log := (system.world.log.append added.eventType added.payload added.key added.now).2 } }
  | .kill => { system with alive := false }
  | .restart machine =>
      match construct omId system.world.log with
      | .ok memory => { world := { system.world with memory, machine }, alive := true }
      | .error _ => { system with alive := false }

def System.run {omId : String} (system : System Stored Number)
    (steps : List (Step omId Stored Number)) : System Stored Number :=
  steps.foldl System.step system

def System.start (memory : Memory Number) (machine : ExecutionStateMachine.Machine)
    (environment : Nat → Answer Number) : System Stored Number :=
  { world := { log := Ledger.empty, machine, memory, handed := [], environment, clock := 0 }
    alive := true }

/-- A live system is in a reachable state, a dead one can be recovered to one. -/
structure System.Sound {omId : String} (watch : Watch omId Stored Number)
    (system : System Stored Number) : Prop where
  recoverable : Recoverable watch system.world
  ready : system.alive = true → Ready watch system.world

variable {omId : String} {watch : Watch omId Stored Number} {system : System Stored Number}

theorem System.Sound.ofReady (ready : Ready watch system.world) : system.Sound watch :=
  { recoverable := ready.recoverable, ready := fun _ => ready }

theorem System.Sound.ofRecoverable {world : World Stored Number}
    (recoverable : Recoverable watch world) : System.Sound watch { world, alive := false } :=
  { recoverable, ready := fun alive => by cases alive }

theorem foreign_keeps {core : Core Stored Number} (reached : Reachable watch.exact omId core)
    (kept : watch.kept core) (added : Foreign omId Stored Number) : let after := { core with
      log := (core.log.append added.eventType added.payload added.key added.now).2 }
    Reachable watch.exact omId after ∧ watch.kept after := by
  intro after
  rcases Log.append_cases core.log added.eventType added.payload added.key added.now with
    same | ⟨_, entries⟩
  · have unchanged : after = core := by
      change { core with log := _ } = core
      rw [same]
    rw [unchanged]
    exact ⟨reached, kept⟩
  · have move (permitted : MutationKey → Payload Number → Prop) :
        Move watch.exact omId permitted core after := .foreign core _ added entries
    exact ⟨reached.step (move _), watch.keeps _ _ reached kept (move _)⟩

theorem System.Sound.step (sound : system.Sound watch) (step : Step omId Stored Number)
    (permits : ∀ call, step = .call call → system.alive = true → Permits watch system.world call) :
    (system.step step).Sound watch := by
  obtain ⟨world, alive⟩ := system
  cases step with
  | call call =>
      cases alive with
      | false => exact sound
      | true =>
          have ends := call.operation_spec (sound.ready rfl) (permits call rfl rfl)
          unfold System.step
          unfold Ends at ends
          dsimp only at ends ⊢
          rw [if_pos rfl]
          rcases ran : call.operation omId world with ⟨outcome, after⟩
          rw [ran] at ends
          cases outcome with
          | returned value => exact .ofReady ends
          | raised error => exact .ofReady ends
          | crashed => exact .ofRecoverable ends
  | foreign added =>
      obtain ⟨appends, memory, reached, kept⟩ := sound.recoverable
      obtain ⟨reachedAfter, keptAfter⟩ := foreign_keeps reached kept added
      refine { recoverable := ⟨appends, memory, reachedAfter, keptAfter⟩, ready := ?_ }
      intro isAlive
      have ready := sound.ready isAlive
      obtain ⟨reachedReady, keptReady⟩ := foreign_keeps ready.reachable ready.kept added
      exact { reachable := reachedReady, kept := keptReady, appends }
  | kill => exact System.Sound.ofRecoverable sound.recoverable
  | restart machine =>
      obtain ⟨appends, memory, reached, kept⟩ := sound.recoverable
      unfold System.step
      dsimp only
      cases constructed : (construct omId world.log : Except _ (Memory Number)) with
      | error error => exact System.Sound.ofRecoverable sound.recoverable
      | ok rebuilt =>
          have move (permitted : MutationKey → Payload Number → Prop) :
              Move watch.exact omId permitted
                { log := world.log, memory, handed := world.handed }
                { log := world.log, memory := rebuilt, handed := world.handed } :=
            .restart _ rebuilt constructed
          exact .ofReady
            { reachable := reached.step (move _)
              kept := watch.keeps _ _ reached kept (move _)
              appends }

theorem System.Sound.run {exact : Prop} (sound : system.Sound (Watch.plain exact omId))
    (steps : List (Step omId Stored Number)) :
    (system.run steps).Sound (Watch.plain exact omId) := by
  induction steps generalizing system with
  | nil => exact sound
  | cons step steps ih => exact ih (sound.step step fun _ _ _ _ _ _ => trivial)

theorem System.start_sound {exact : Prop} {memory : Memory Number}
    (constructed : construct omId (Ledger.empty : Log Stored) = .ok memory)
    (machine : ExecutionStateMachine.Machine) {environment : Nat → Answer Number}
    (appends : exact → ∀ tick, (environment tick).appendFailure = none) :
    (System.start memory machine environment : System Stored Number).Sound
      (Watch.plain exact omId) :=
  .ofReady { reachable := .start memory constructed, kept := trivial, appends }

/-- While appends succeed, a manager rebuilt from the log has the live manager's
orders, its next number, and its fills of every order that is still open. -/
theorem run_replays {omId : String} {memory : Memory Number}
    (constructed : construct omId (Ledger.empty : Log Stored) = .ok memory)
    (machine : ExecutionStateMachine.Machine) {environment : Nat → Answer Number}
    (appends : ∀ tick, (environment tick).appendFailure = none)
    (steps : List (Step omId Stored Number)) :
    let final := (System.start memory machine environment : System Stored Number).run steps
    final.alive = true →
      ∃ rebuilt : Memory Number, construct omId final.world.log = .ok rebuilt ∧
        rebuilt.snapshots = final.world.memory.snapshots ∧
        rebuilt.nextSeq = final.world.memory.nextSeq ∧
        ∀ clientOrderId existing,
          final.world.memory.snapshots.get? clientOrderId = some existing →
          isTerminal existing.lifecycleState = false →
          rebuilt.fillIds clientOrderId = final.world.memory.fillIds clientOrderId := by
  intro final alive
  have sound : final.Sound (Watch.plain True omId) :=
    (System.start_sound constructed machine fun _ => appends).run steps
  obtain ⟨rebuilt, replays, agrees⟩ := (sound.ready alive).reachable.consistent.replays
  refine ⟨rebuilt, replays.constructed, agrees.snapshots, agrees.nextSeq_eq trivial, ?_⟩
  intro clientOrderId existing tracked isOpen
  rcases agrees.fillIds clientOrderId with same | ⟨known, found, terminal⟩
  · exact same
  · change final.world.memory.snapshots.get? clientOrderId = some known at found
    rw [tracked] at found
    cases found
    rw [isOpen] at terminal
    cases terminal

abbrev OrderStored : Type := ExecutionStateMachine.Payload ⊕ Payload ℚ

abbrev freshMachine : ExecutionStateMachine.Machine :=
  { machineId := "main", currentState := .initializing }

def marketBuy : PlaceArguments ℚ :=
  { symbol := btc
    side := .buy
    orderType := .market
    quantity := 2
    limitPrice := none
    timeInForce := .gtc
    reduceOnly := false }

def acknowledgedOrder (omId : String) (quantity : ℚ) : Order ℚ :=
  { clientOrderId := placeId omId 1
    exchangeOrderId := some "7"
    symbol := marketBuy.symbol
    side := .buy
    orderType := .market
    quantity
    filledQuantity := 0
    limitPrice := none
    status := .acknowledged
    timeInForce := .gtc
    reduceOnly := false
    createdAtUtc := "2026-01-01T00:00:00+00:00"
    updatedAtUtc := "2026-01-01T00:00:00+00:00" }

def acceptingAnswer (order : Order ℚ) : Answer ℚ :=
  { crash := false
    now := "2026-01-01T00:00:00+00:00"
    appendFailure := none
    order := .ok order
    orders := .ok []
    found := .ok none }

def fillOf (fillId : String) (quantity : ℚ) : Fill ℚ :=
  { fillId
    clientOrderId := placeId "main" 1
    exchangeOrderId := "7"
    symbol := marketBuy.symbol
    side := .buy
    price := 100
    quantity
    fee := 0
    timestampUtc := "2026-01-01T00:00:01+00:00" }

/-- An environment in which the process dies at one effect and no call is answered. -/
def dyingEnvironment (death : Nat) : Nat → Answer ℚ := fun tick =>
  { crash := tick = death
    now := "2026-01-01T00:00:00+00:00"
    appendFailure := none
    order := .error (.exchangeAdapter "timeout")
    orders := .error (.exchangeAdapter "timeout")
    found := .error (.exchangeAdapter "timeout") }

/-- An order whose process dies between its event and the call of the adapter. -/
def interruptedPlace : List (Step "main" OrderStored ℚ) :=
  [.call (.place marketBuy),
    .restart freshMachine]

theorem run_replays_interruptedPlace :
    let final := (System.start Memory.initial freshMachine (dyingEnvironment 1)).run interruptedPlace
    ∃ rebuilt : Memory ℚ, construct "main" final.world.log = .ok rebuilt ∧
      rebuilt.snapshots = final.world.memory.snapshots ∧
      rebuilt.nextSeq = final.world.memory.nextSeq ∧
      ∀ clientOrderId existing,
        final.world.memory.snapshots.get? clientOrderId = some existing →
        isTerminal existing.lifecycleState = false →
        rebuilt.fillIds clientOrderId = final.world.memory.fillIds clientOrderId :=
  run_replays rfl _ (fun _ => rfl) interruptedPlace rfl

/-- Whatever fails and whenever the process dies: the number of every request that
the adapter was handed was durable before, and no two requests share an id. -/
theorem run_persistsBeforeTransmit {omId : String} {memory : Memory Number}
    (constructed : construct omId (Ledger.empty : Log Stored) = .ok memory)
    (machine : ExecutionStateMachine.Machine) (environment : Nat → Answer Number)
    (steps : List (Step omId Stored Number)) :
    let final := (System.start memory machine environment : System Stored Number).run steps
    (∀ handed ∈ final.world.handed,
      handed.log.Extends final.world.log ∧
        ∃ seq suffix, handed.request.id = makeId omId seq suffix ∧
          ∃ event ∈ handed.log.entries, ∃ payload : Payload Number,
            ownPayload? omId event = some payload ∧ payload.seq = some seq) ∧
      (final.world.handed.map fun handed => handed.request.id).Nodup := by
  intro final
  have sound : final.Sound (Watch.plain False omId) :=
    (System.start_sound constructed machine fun impossible => impossible.elim).run steps
  obtain ⟨_, last, reached, _⟩ := sound.recoverable
  have accounted := reached.consistent.accounted
  refine ⟨?_, accounted.distinct⟩
  intro handed member
  exact ⟨accounted.logged handed member, accounted.recorded handed member⟩

theorem run_persistsBeforeTransmit_handedPlace :
    let final := (System.start Memory.initial freshMachine (dyingEnvironment 3)).run interruptedPlace
    (∀ handed ∈ final.world.handed,
      handed.log.Extends final.world.log ∧
        ∃ seq suffix, handed.request.id = makeId "main" seq suffix ∧
          ∃ event ∈ handed.log.entries, ∃ payload : Payload ℚ,
            ownPayload? "main" event = some payload ∧ payload.seq = some seq) ∧
      (final.world.handed.map fun handed => handed.request.id).Nodup :=
  run_persistsBeforeTransmit rfl freshMachine (dyingEnvironment 3) interruptedPlace

end

end TurtleExecution.OrderManager

namespace TurtleExecution.OrderManager

open ExchangeAdapter SharedStore Process

variable {Stored Number : Type} [Sources Stored Number] {omId : String}

/-- The manager's events that the log has got since then are of the kind. -/
def AddedSince (omId : String) (base : Log Stored) (kind : Payload Number → Prop)
    (log : Log Stored) : Prop :=
  ∀ event ∈ log.entries, event ∉ base.entries → ∀ payload,
    ownPayload? omId event = some payload → kind payload

theorem AddedSince.refl (kind : Payload Number → Prop) (log : Log Stored) :
    AddedSince omId log kind log :=
  fun _ member absent => (absent member).elim

theorem AddedSince.mono {base log : Log Stored} {kind wider : Payload Number → Prop}
    (since : AddedSince omId base kind log) (implies : ∀ payload, kind payload → wider payload) :
    AddedSince omId base wider log :=
  fun event member absent payload own => implies payload (since event member absent payload own)

theorem AddedSince.concat {base log after : Log Stored} {kind : Payload Number → Prop}
    {added : Event Stored} (since : AddedSince omId base kind log)
    (entries : after.entries = log.entries ++ [added])
    (allowed : ∀ payload, ownPayload? omId added = some payload → kind payload) :
    AddedSince omId base kind after := by
  intro event member absent payload own
  rw [entries] at member
  rcases List.mem_append.mp member with old | isLast
  · exact since event old absent payload own
  · rw [List.mem_singleton] at isLast
    rw [isLast] at own
    exact allowed payload own

variable [Arithmetic Number]

def Watch.records (omId : String) (Stored : Type) [Sources Stored Number] (base : Log Stored)
    (kind : Payload Number → Prop) : Watch omId Stored Number :=
  { exact := False
    permitted := fun _ => kind
    kept := fun core => AddedSince omId base kind core.log
    keeps := by
      intro before after reached since move
      cases move with
      | record log key payload now recorded allowed unused entries =>
          apply since.concat entries
          intro other own
          rw [ownPayload?_recordedEvent before.log key now recorded.omId_eq] at own
          cases own
          exact allowed
      | foreign log added entries =>
          apply since.concat entries
          intro other own
          rw [added.notOwn _ rfl] at own
          cases own
      | _ => exact since }

theorem Ready.recording {world : World Stored Number}
    (ready : Ready (Watch.plain False omId) world) (kind : Payload Number → Prop) :
    Ready (Watch.records omId Stored world.log kind) world :=
  { reachable := ready.reachable
    kept := .refl kind world.log
    appends := ready.appends }

def System.Live (omId : String) (system : System Stored Number) : Prop :=
  system.alive = true ∧ ∃ memory machine environment, ∃ steps : List (Step omId Stored Number),
    construct omId (Ledger.empty : Log Stored) = .ok memory ∧
      system = (System.start memory machine environment).run steps

theorem System.Live.sound {system : System Stored Number} (live : system.Live omId) :
    system.Sound (Watch.plain False omId : Watch omId Stored Number) := by
  obtain ⟨_, memory, machine, environment, steps, constructed, rfl⟩ := live
  exact (System.start_sound constructed machine fun impossible => impossible.elim).run steps

theorem System.Live.records_caused {system : System Stored Number} (live : system.Live omId)
    (call : Call Number) :
    AddedSince omId system.world.log
      (fun payload => ∃ key, Caused omId system.world.memory (system.world.answer call) call key
        payload)
      (system.step (.call call : Step omId Stored Number)).world.log := by
  have recording := (live.sound.ready live.1).recording fun payload => ∃ key,
    Caused omId system.world.memory (system.world.answer call) call key payload
  have ended := (System.Sound.ofReady recording).step (.call call) (by
    rintro other ⟨⟩ _ key payload caused
    exact ⟨key, caused⟩)
  obtain ⟨_, _, _, kept⟩ := ended.recoverable
  exact kept

end TurtleExecution.OrderManager

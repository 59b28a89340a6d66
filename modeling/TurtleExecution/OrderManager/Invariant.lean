/-
The states that an order manager can reach, and what holds in all of them.

`Reachable` closes the empty store under moves.  `Consistent` is the invariant:
a replay of the log gives the memory, but for fills that came late, and a key that
is in the log has been used up.
-/

import TurtleExecution.OrderManager.Moves

set_option autoImplicit false

namespace TurtleExecution.OrderManager

open ExchangeAdapter SharedStore

structure Core (Stored Number : Type) where
  log : Log Stored
  memory : Memory Number
  handed : List (Handed Stored Number)

def World.core {Stored Number : Type} (world : World Stored Number) : Core Stored Number :=
  { log := world.log, memory := world.memory, handed := world.handed }

section

variable {Number Stored : Type} [Sources Stored Number]

/-- An event of another module: not the manager's own, nor under one of its keys. -/
structure Foreign (omId : String) (Stored Number : Type) [Sources Stored Number] where
  eventType : EventType
  payload : Stored
  key : Option String
  now : String
  notOwn : ∀ event : Event Stored, event.payload = payload →
    (ownPayload? omId event : Option (Payload Number)) = none
  otherKey : ∀ idempotencyKey, key ≠ some (namespacedKey omId idempotencyKey)

def recordedEvent (omId : String) (log : Log Stored) (key : MutationKey) (payload : Payload Number)
    (now : String) : Event Stored :=
  log.nextEvent (eventTypeForAction payload.action payload.toState) (Source.wrap payload)
    (some (namespacedKey omId (key.text omId))) now

variable {omId : String}

variable {event : Event Stored}

theorem inLog_concat {log after : Log Stored} (entries : after.entries = log.entries ++ [event])
    (key : MutationKey) :
    InLog omId after key ↔
      InLog omId log key ∨ event.idempotencyKey = some (namespacedKey omId (key.text omId)) := by
  unfold InLog
  rw [entries]
  simp only [List.mem_append, List.mem_singleton, or_and_right, exists_or, exists_eq_left]

theorem durable_concat {log after : Log Stored} (entries : after.entries = log.entries ++ [event])
    (seq : Nat) :
    Durable Number omId after seq ↔
      Durable Number omId log seq ∨
        ∃ payload : Payload Number, ownPayload? omId event = some payload ∧
          payload.seq = some seq := by
  unfold Durable
  rw [entries]
  simp only [List.mem_append, List.mem_singleton, or_and_right, exists_or, exists_eq_left]

theorem ownPayload?_recordedEvent (log : Log Stored) (key : MutationKey) {payload : Payload Number}
    (now : String) (own : payload.omId = omId) :
    ownPayload? omId (recordedEvent omId log key payload now) = some payload := by
  simp [ownPayload?, recordedEvent, Log.nextEvent, Source.own?_wrap, own]

private theorem numbered_concat {log after : Log Stored}
    (entries : after.entries = log.entries ++ [event])
    (numbered : ∀ known ∈ log.entries, known.eventId ≤ log.entries.length)
    (next : event.eventId = log.entries.length + 1) :
    ∀ known ∈ after.entries, known.eventId ≤ after.entries.length := by
  intro known member
  rw [entries, List.length_append, List.length_singleton]
  rw [entries] at member
  rcases List.mem_append.mp member with old | new
  · exact Nat.le_succ_of_le (numbered known old)
  · rw [List.mem_singleton.mp new]
    exact Nat.le_of_eq next

structure Accounted (omId : String) (core : Core Stored Number) : Prop where
  recorded : ∀ handed ∈ core.handed, ∃ seq suffix, handed.request.id = makeId omId seq suffix ∧
    Durable Number omId handed.log seq
  logged : ∀ handed ∈ core.handed, handed.log.Extends core.log
  distinct : (core.handed.map fun handed => handed.request.id).Nodup

theorem Accounted.log {core : Core Stored Number} {log : Log Stored} {memory : Memory Number}
    (accounted : Accounted omId core) (extended : core.log.Extends log) :
    Accounted omId { core with log, memory } :=
  { recorded := accounted.recorded
    logged := fun handed member => (accounted.logged handed member).trans extended
    distinct := accounted.distinct }

variable {exact : Prop} {log after : Log Stored} {memory : Memory Number} {core : Core Stored Number}

theorem Accounted.hand {request : Request Number} {seq : Nat} {suffix : String}
    (accounted : Accounted omId core) (identified : request.id = makeId omId seq suffix)
    (durable : Durable Number omId core.log seq)
    (fresh : ∀ earlier ∈ core.handed, earlier.request.id ≠ request.id) :
    Accounted omId { core with handed := core.handed ++ [{ request, log := core.log }] } := by
  refine { recorded := ?_, logged := ?_, distinct := ?_ }
  · intro handed member
    rcases List.mem_append.mp member with earlier | last
    · exact accounted.recorded handed earlier
    · rw [List.mem_singleton.mp last]
      exact ⟨seq, suffix, identified, durable⟩
  · intro handed member
    rcases List.mem_append.mp member with earlier | last
    · exact accounted.logged handed earlier
    · rw [List.mem_singleton.mp last]
      exact Ledger.Extends.refl core.log
  · rw [List.map_append, List.nodup_append]
    refine ⟨accounted.distinct, List.nodup_singleton _, ?_⟩
    intro id earlier other last same
    rw [List.map_singleton, List.mem_singleton] at last
    obtain ⟨handed, member, rfl⟩ := List.mem_map.mp earlier
    exact fresh handed member (same.trans last)

variable [Arithmetic Number]

def anyPayload : MutationKey → Payload Number → Prop := fun _ _ => True

/-- One step of the manager, of another module, or of the environment.  When
`exact` holds, no number is lost to a failed append. -/
inductive Move (exact : Prop) (omId : String) (permitted : MutationKey → Payload Number → Prop) :
    Core Stored Number → Core Stored Number → Prop
  | record (core : Core Stored Number) (log : Log Stored) (key : MutationKey)
      (payload : Payload Number) (now : String)
      (recorded : Recorded omId (Durable Number omId core.log) core.memory key payload)
      (allowed : permitted key payload)
      (unused : ¬ InLog omId core.log key)
      (entries : log.entries = core.log.entries ++ [recordedEvent omId core.log key payload now]) :
      Move exact omId permitted core
        { core with
          log
          memory := (core.memory.applyEvent (recordedEvent omId core.log key payload now) payload).2 }
  | burn (core : Core Stored Number) (allowed : ¬ exact) :
      Move exact omId permitted core
        { core with memory := { core.memory with nextSeq := core.memory.nextSeq + 1 } }
  | lateFill (core : Core Stored Number) (clientOrderId fillId : String)
      (existing : OrderSnapshot Number)
      (tracked : core.memory.snapshots.get? clientOrderId = some existing)
      (terminal : isTerminal existing.lifecycleState = true) :
      Move exact omId permitted core { core with memory := core.memory.addFillId clientOrderId fillId }
  | hand (core : Core Stored Number) (request : Request Number) (seq : Nat) (suffix : String)
      (identified : request.id = makeId omId seq suffix)
      (durable : Durable Number omId core.log seq)
      (fresh : ∀ earlier ∈ core.handed, earlier.request.id ≠ request.id) :
      Move exact omId permitted core { core with handed := core.handed ++ [{ request, log := core.log }] }
  | foreign (core : Core Stored Number) (log : Log Stored) (added : Foreign omId Stored Number)
      (entries : log.entries = core.log.entries ++
        [core.log.nextEvent added.eventType added.payload added.key added.now]) :
      Move exact omId permitted core { core with log }
  | restart (core : Core Stored Number) (memory : Memory Number)
      (constructed : construct omId core.log = .ok memory) :
      Move exact omId permitted core { core with memory }

theorem Move.any {permitted : MutationKey → Payload Number → Prop} {core after : Core Stored Number}
    (move : Move exact omId permitted core after) : Move exact omId anyPayload core after := by
  cases move with
  | record log key payload now recorded allowed unused entries =>
      exact .record core log key payload now recorded trivial unused entries
  | burn allowed => exact .burn core allowed
  | lateFill clientOrderId fillId existing tracked terminal =>
      exact .lateFill core clientOrderId fillId existing tracked terminal
  | hand request seq suffix identified durable fresh =>
      exact .hand core request seq suffix identified durable fresh
  | foreign log added entries => exact .foreign core log added entries
  | restart memory constructed => exact .restart core memory constructed

inductive Reachable (exact : Prop) (omId : String) : Core Stored Number → Prop
  | start (memory : Memory Number) (constructed : construct omId (Ledger.empty : Log Stored) = .ok memory) :
      Reachable exact omId { log := Ledger.empty, memory, handed := [] }
  | step {core after : Core Stored Number} (reached : Reachable exact omId core)
      (move : Move exact omId anyPayload core after) : Reachable exact omId after

/-- What holds of a log: its replay succeeds with a memory that knows its keys. -/
structure Replays (omId : String) (log : Log Stored) (replayed : Memory Number) : Prop where
  constructed : construct omId log = .ok replayed
  numbered : ∀ event ∈ log.entries, event.eventId ≤ log.entries.length
  applied : ∀ eventId ∈ replayed.appliedEventIds, eventId ≤ log.entries.length
  tracked : ∀ clientOrderId existing, replayed.snapshots.get? clientOrderId = some existing →
    ∃ order < replayed.nextSeq, clientOrderId = placeId omId order
  durable : ∀ seq, Durable Number omId log seq → seq < replayed.nextSeq
  spent : ∀ key, InLog omId log key → Spent omId replayed key

structure Consistent (exact : Prop) (omId : String) (core : Core Stored Number) : Prop where
  replays : ∃ replayed, Replays omId core.log replayed ∧ Agrees exact replayed core.memory
  accounted : Accounted omId core

private theorem construct_concat {event : Event Stored} {replayed : Memory Number}
    (constructed : construct omId log = .ok replayed)
    (entries : after.entries = log.entries ++ [event]) :
    construct omId after = replayEvent omId replayed event := by
  unfold construct at constructed ⊢
  split at constructed
  · cases constructed
  split at constructed
  · cases constructed
  rename_i notBlank short
  rw [if_neg notBlank, if_neg short]
  unfold replay at constructed ⊢
  rw [entries, List.foldlM_append, constructed]
  change (replayEvent omId replayed event >>= fun memory => pure memory) = _
  rw [bind_pure]

theorem Recorded.omId_eq {durable : Nat → Prop} {key : MutationKey} {payload : Payload Number}
    (recorded : Recorded omId durable memory key payload) : payload.omId = omId := by
  cases recorded <;> rfl

theorem Agrees.tracked {log : Log Stored} {replayed live : Memory Number}
    (agrees : Agrees exact replayed live) (replays : Replays omId log replayed) :
    ∀ clientOrderId existing, live.snapshots.get? clientOrderId = some existing →
      ∃ order < live.nextSeq, clientOrderId = placeId omId order := by
  intro clientOrderId existing tracked
  rw [← agrees.snapshots] at tracked
  obtain ⟨order, small, named⟩ := replays.tracked clientOrderId existing tracked
  exact ⟨order, Nat.lt_of_lt_of_le small agrees.nextSeq_le, named⟩

theorem Replays.record {replayed live : Memory Number} {key : MutationKey}
    {payload : Payload Number} {now : String} (replays : Replays omId log replayed)
    (agrees : Agrees exact replayed live)
    (recorded : Recorded omId (Durable Number omId log) live key payload)
    (entries : after.entries = log.entries ++ [recordedEvent omId log key payload now]) :
    ∃ next, Replays omId after next ∧
      Agrees exact next (live.applyEvent (recordedEvent omId log key payload now) payload).2 := by
  obtain ⟨patch, effect⟩ := recorded.effect (recordedEvent omId log key payload now)
  have own := ownPayload?_recordedEvent log key now recorded.omId_eq
  have fresh : (recordedEvent omId log key payload now).eventId ∉ replayed.appliedEventIds := by
    intro known
    have bound := replays.applied _ known
    exact Nat.not_succ_le_self _ bound
  have freshLive : (recordedEvent omId log key payload now).eventId ∉ live.appliedEventIds := by
    rw [← agrees.appliedEventIds]
    exact fresh
  have advances := effect.advances (agrees.tracked replays)
  have advancesReplayed : ∀ snapshot existing, patch.snapshot = some snapshot →
      replayed.snapshots.get? patch.clientOrderId = some existing →
      Advances existing.lifecycleState snapshot.lifecycleState := by
    rw [agrees.snapshots]
    exact advances
  have later {number : Nat} (small : number < replayed.nextSeq) :
      number < (replayed.patch patch).nextSeq :=
    Nat.lt_of_lt_of_le small (le_seqAfter _ _)
  refine ⟨replayed.patch patch,
    { constructed := ?_
      numbered := numbered_concat entries replays.numbered rfl
      applied := ?_
      tracked := ?_
      durable := ?_
      spent := ?_ }, ?_⟩
  · rw [construct_concat replays.constructed entries]
    simp only [replayEvent, own, effect.patches replayed agrees.snapshots fresh]
  · intro eventId member
    rw [entries, List.length_append, List.length_singleton]
    rcases List.mem_append.mp member with old | new
    · exact Nat.le_succ_of_le (replays.applied eventId old)
    · rw [List.mem_singleton.mp new, effect.eventId]
      exact Nat.le_refl _
  · intro clientOrderId existing found
    rw [Memory.patch_snapshots] at found
    split at found
    · rename_i both
      rw [both.1]
      rcases effect.progress existing found with ⟨named, numbered⟩ | ⟨known, tracked, _⟩
      · refine ⟨live.nextSeq, ?_, named⟩
        rw [Memory.patch_nextSeq, numbered]
        exact lt_seqAfter _ _
      · rw [← agrees.snapshots] at tracked
        obtain ⟨order, small, named⟩ := replays.tracked _ known tracked
        exact ⟨order, later small, named⟩
    · obtain ⟨order, small, named⟩ := replays.tracked clientOrderId existing found
      exact ⟨order, later small, named⟩
  · intro seq durable
    rcases (durable_concat entries seq).mp durable with old | ⟨other, isOwn, numbered⟩
    · exact later (replays.durable seq old)
    · rw [own] at isOwn
      cases isOwn
      rw [Memory.patch_nextSeq, effect.seq, numbered]
      exact lt_seqAfter _ _
  · intro other logged
    rcases (inLog_concat entries other).mp logged with old | new
    · exact (replays.spent other old).patch advancesReplayed
    · have sameKey : key = other :=
        MutationKey.text_injective (namespacedKey_injective (Option.some.inj new))
      rw [← sameKey]
      exact effect.spent replayed agrees.snapshots replays.durable
  · rw [effect.patches live rfl freshLive]
    exact agrees.patch advances

theorem Replays.foreign {replayed : Memory Number} (replays : Replays omId log replayed)
    (added : Foreign omId Stored Number)
    (entries : after.entries =
      log.entries ++ [log.nextEvent added.eventType added.payload added.key added.now]) :
    Replays omId after replayed := by
  have notOwn := added.notOwn (log.nextEvent added.eventType added.payload added.key added.now) rfl
  refine
    { constructed := ?_
      numbered := numbered_concat entries replays.numbered rfl
      applied := ?_
      tracked := replays.tracked
      durable := ?_
      spent := ?_ }
  · rw [construct_concat replays.constructed entries]
    simp only [replayEvent, notOwn]
  · intro eventId member
    rw [entries, List.length_append]
    exact Nat.le_add_right_of_le (replays.applied eventId member)
  · intro seq durable
    rcases (durable_concat entries seq).mp durable with old | ⟨other, isOwn, _⟩
    · exact replays.durable seq old
    · rw [notOwn] at isOwn
      cases isOwn
  · intro key logged
    rcases (inLog_concat entries key).mp logged with old | new
    · exact replays.spent key old
    · exact (added.otherKey _ new).elim

theorem Consistent.move {core after : Core Stored Number} (consistent : Consistent exact omId core)
    (move : Move exact omId anyPayload core after) : Consistent exact omId after := by
  obtain ⟨⟨replayed, replays, agrees⟩, accounted⟩ := consistent
  cases move with
  | record log key payload now recorded allowed unused entries =>
      exact
        { replays := replays.record agrees recorded entries
          accounted := accounted.log ⟨_, entries.symm⟩ }
  | burn allowed =>
      exact
        { replays := ⟨replayed, replays, agrees.burn allowed⟩
          accounted := accounted.log (Ledger.Extends.refl core.log) }
  | lateFill clientOrderId fillId existing tracked terminal =>
      exact
        { replays := ⟨replayed, replays, agrees.lateFill tracked terminal⟩
          accounted := accounted.log (Ledger.Extends.refl core.log) }
  | hand request seq suffix identified durable fresh =>
      exact
        { replays := ⟨replayed, replays, agrees⟩
          accounted := accounted.hand identified durable fresh }
  | foreign log added entries =>
      exact
        { replays := ⟨replayed, replays.foreign added entries, agrees⟩
          accounted := accounted.log ⟨_, entries.symm⟩ }
  | restart memory constructed =>
      rw [replays.constructed] at constructed
      cases constructed
      exact
        { replays := ⟨replayed, replays, Agrees.refl exact replayed⟩
          accounted := accounted.log (Ledger.Extends.refl core.log) }

theorem construct_empty (constructed : construct omId (Ledger.empty : Log Stored) = .ok memory) :
    memory = Memory.initial := by
  unfold construct at constructed
  split at constructed
  · cases constructed
  split at constructed
  · cases constructed
  cases constructed
  rfl

private theorem replays_empty (constructed : construct omId (Ledger.empty : Log Stored) = .ok memory) :
    Replays omId (Ledger.empty : Log Stored) memory := by
  have initial : memory = Memory.initial := construct_empty constructed
  subst initial
  exact
    { constructed
      numbered := fun event member => (List.not_mem_nil member).elim
      applied := fun eventId member => (List.not_mem_nil member).elim
      tracked := fun clientOrderId existing found => by cases found
      durable := fun seq ⟨event, member, _⟩ => (List.not_mem_nil member).elim
      spent := fun key ⟨event, member, _⟩ => (List.not_mem_nil member).elim }

theorem Reachable.consistent (reached : Reachable exact omId core) :
    Consistent exact omId core := by
  induction reached with
  | start memory constructed =>
      exact
        { replays := ⟨memory, replays_empty constructed, Agrees.refl exact memory⟩
          accounted :=
            { recorded := fun handed member => (List.not_mem_nil member).elim
              logged := fun handed member => (List.not_mem_nil member).elim
              distinct := List.nodup_nil } }
  | step reached move ih => exact ih.move move

theorem Reachable.restarted (reached : Reachable exact omId core)
    (constructed : construct omId core.log = .ok memory) : Agrees exact memory core.memory := by
  obtain ⟨replayed, replays, agrees⟩ := reached.consistent.replays
  rw [replays.constructed] at constructed
  cases constructed
  exact agrees

end

end TurtleExecution.OrderManager

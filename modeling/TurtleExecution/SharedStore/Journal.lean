/-
Managers whose memory is a journal of their own events.

A manager records an event and applies it; a restart applies the recorded events
again.  `Faithful` says that the live memory is what a replay of the log gives.
-/

import TurtleExecution.Foundation.Process
import TurtleExecution.SharedStore.Log

set_option autoImplicit false

namespace TurtleExecution.SharedStore

open Process

structure StoreAnswer where
  crash : Bool
  now : String
  appendFailure : Option StoreFailure

structure Host (Stored Memory : Type) where
  log : Log Stored
  memory : Memory
  environment : Nat → StoreAnswer
  clock : Nat

/-- An environment in which no append fails and the process does not die. -/
def Quiet (environment : Nat → StoreAnswer) : Prop :=
  ∀ tick, (environment tick).crash = false ∧ (environment tick).appendFailure = none

def steadyStore : Nat → StoreAnswer := fun _ =>
  { crash := false, now := "2026-01-01T00:00:00+00:00", appendFailure := none }

structure Journal (Stored Own Memory Error Value : Type) where
  wrap : Own → Stored
  payload? : Stored → Option Own
  mine : Own → Bool
  eventType : Own → EventType
  namespacedKey : String → String
  apply : Memory → Event Stored → Own → Except Error Value × Memory
  storeError : StoreFailure → Error
  notOwn : Error

namespace Journal

section

variable {Stored Own Memory Error Value : Type}

def own? (journal : Journal Stored Own Memory Error Value) (event : Event Stored) : Option Own :=
  (journal.payload? event.payload).filter journal.mine

/-- The next answer of the environment, unless the process dies here. -/
def consult : Process (Host Stored Memory) Error StoreAnswer := do
  let host ← Process.get
  let answer := host.environment host.clock
  Process.modify fun host => { host with clock := host.clock + 1 }
  if answer.crash then Process.crash else return answer

def persist (journal : Journal Stored Own Memory Error Value) (payload : Own)
    (key : String) : Process (Host Stored Memory) Error (Event Stored) := do
  let answer ← consult
  match answer.appendFailure with
  | some failure => Process.raise (journal.storeError failure)
  | none => do
      let host ← Process.get
      let (event, log) := host.log.append (journal.eventType payload) (journal.wrap payload)
        (some (journal.namespacedKey key)) answer.now
      Process.modify fun host => { host with log }
      return event

def applyStored (journal : Journal Stored Own Memory Error Value) (event : Event Stored) :
    Process (Host Stored Memory) Error Value := do
  match journal.payload? event.payload with
  | none => Process.raise journal.notOwn
  | some payload => do
      let host ← Process.get
      let (result, memory) := journal.apply host.memory event payload
      Process.modify fun host => { host with memory }
      Process.ofExcept result

def record (journal : Journal Stored Own Memory Error Value) (payload : Own) (key : String) :
    Process (Host Stored Memory) Error Value := do
  let event ← journal.persist payload key
  journal.applyStored event

/-- `_get_cached`: the event stored under the key, applied. -/
def cached (journal : Journal Stored Own Memory Error Value) (key : String) :
    Process (Host Stored Memory) Error (Option Value) := do
  let host ← Process.get
  match host.log.getByIdempotencyKey (journal.namespacedKey key) with
  | none => return none
  | some event => do
      let value ← journal.applyStored event
      return some value

def replayEvent (journal : Journal Stored Own Memory Error Value) (memory : Memory)
    (event : Event Stored) : Except Error Memory :=
  match journal.own? event with
  | none => .ok memory
  | some payload =>
      match journal.apply memory event payload with
      | (.ok _, memory) => .ok memory
      | (.error error, _) => .error error

def replay (journal : Journal Stored Own Memory Error Value) (initial : Memory)
    (events : List (Event Stored)) : Except Error Memory :=
  events.foldlM journal.replayEvent initial

/-- What the theory asks of a journal: an event is applied once, and memories that
are the same but for what is not recorded take it in the same way. -/
structure Laws (journal : Journal Stored Own Memory Error Value) (appliedIds : Memory → List Nat)
    (Same : Memory → Memory → Prop) : Prop where
  payload?_wrap : ∀ payload, journal.payload? (journal.wrap payload) = some payload
  known : ∀ memory (event : Event Stored) payload, event.eventId ∈ appliedIds memory →
    ∃ value, journal.apply memory event payload = (.ok value, memory)
  appliedIds_apply : ∀ memory (event : Event Stored) payload, event.eventId ∉ appliedIds memory →
    appliedIds (journal.apply memory event payload).2 = appliedIds memory ++ [event.eventId]
  same_refl : ∀ memory, Same memory memory
  same_appliedIds : ∀ memory other, Same memory other → appliedIds memory = appliedIds other
  same_apply : ∀ memory other (event : Event Stored) payload value after, Same memory other →
    journal.apply memory event payload = (.ok value, after) →
    Same after (journal.apply other event payload).2

/-- A memory that has applied the manager's events of the log, and is what a replay
of the log gives if it succeeds. -/
structure Faithful (journal : Journal Stored Own Memory Error Value) (appliedIds : Memory → List Nat)
    (Same : Memory → Memory → Prop) (initial : Memory) (log : Log Stored) (memory : Memory) :
    Prop where
  numbered : ∀ event ∈ log.entries, event.eventId ≤ log.entries.length
  bounded : ∀ eventId ∈ appliedIds memory, eventId ≤ log.entries.length
  complete : ∀ event ∈ log.entries, (journal.own? event).isSome → event.eventId ∈ appliedIds memory
  keyed : ∀ event ∈ log.entries, ∀ key,
    event.idempotencyKey = some (journal.namespacedKey key) → (journal.own? event).isSome
  replayed : ∀ rebuilt, journal.replay initial log.entries = .ok rebuilt → Same rebuilt memory

variable {journal : Journal Stored Own Memory Error Value} {appliedIds : Memory → List Nat}
  {Same : Memory → Memory → Prop} {initial : Memory}

theorem replay_concat (journal : Journal Stored Own Memory Error Value) (initial : Memory)
    (events : List (Event Stored)) (event : Event Stored) :
    journal.replay initial (events ++ [event]) =
      (journal.replay initial events).bind fun memory => journal.replayEvent memory event := by
  unfold replay
  rw [List.foldlM_append]
  cases List.foldlM journal.replayEvent initial events with
  | error error => rfl
  | ok memory =>
      change (journal.replayEvent memory event >>= fun memory => pure memory) = _
      rw [bind_pure]
      rfl

private theorem replay_concat_ok {journal : Journal Stored Own Memory Error Value} {initial : Memory}
    {events : List (Event Stored)} {event : Event Stored} {rebuilt : Memory}
    (ran : journal.replay initial (events ++ [event]) = .ok rebuilt) :
    ∃ known, journal.replay initial events = .ok known ∧
      journal.replayEvent known event = .ok rebuilt := by
  rw [replay_concat] at ran
  cases before : journal.replay initial events with
  | error error =>
      rw [before] at ran
      cases ran
  | ok known =>
      rw [before] at ran
      exact ⟨known, rfl, ran⟩

theorem faithful_empty (same_refl : ∀ memory, Same memory memory)
    (nothingApplied : appliedIds initial = []) :
    Faithful journal appliedIds Same initial Ledger.empty initial :=
  { numbered := fun event member => (List.not_mem_nil member).elim
    bounded := fun eventId member => by rw [nothingApplied] at member; cases member
    complete := fun event member => (List.not_mem_nil member).elim
    keyed := fun event member => (List.not_mem_nil member).elim
    replayed := fun rebuilt ran => by cases ran; exact same_refl initial }

theorem Faithful.foreign {log : Log Stored} {memory : Memory}
    (faithful : Faithful journal appliedIds Same initial log memory) {eventType : EventType}
    {payload : Stored} {key : Option String} {now : String}
    (notOwn : (journal.payload? payload).filter journal.mine = none)
    (otherKey : ∀ own, key ≠ some (journal.namespacedKey own)) :
    Faithful journal appliedIds Same initial (log.append eventType payload key now).2 memory := by
  rcases Log.append_cases log eventType payload key now with unchanged | ⟨_, entries⟩
  · rw [unchanged]
    exact faithful
  · have notOwnEvent : journal.own? (log.nextEvent eventType payload key now) = none := notOwn
    have length : (log.append eventType payload key now).2.entries.length =
        log.entries.length + 1 := by rw [entries, List.length_append, List.length_singleton]
    refine
      { numbered := ?_
        bounded := fun eventId member => ?_
        complete := ?_
        keyed := ?_
        replayed := ?_ }
    · intro event member
      rw [length]
      rw [entries] at member
      rcases List.mem_append.mp member with old | new
      · exact Nat.le_succ_of_le (faithful.numbered event old)
      · rw [List.mem_singleton.mp new]
        exact Nat.le_refl _
    · rw [length]
      exact Nat.le_succ_of_le (faithful.bounded eventId member)
    · intro event member own
      rw [entries] at member
      rcases List.mem_append.mp member with old | new
      · exact faithful.complete event old own
      · rw [List.mem_singleton.mp new, notOwnEvent] at own
        cases own
    · intro event member own keyed
      rw [entries] at member
      rcases List.mem_append.mp member with old | new
      · exact faithful.keyed event old own keyed
      · rw [List.mem_singleton.mp new] at keyed
        exact (otherKey own keyed).elim
    · intro rebuilt ran
      rw [entries] at ran
      obtain ⟨known, before, last⟩ := replay_concat_ok ran
      simp only [replayEvent, notOwnEvent, Except.ok.injEq] at last
      rw [← last]
      exact faithful.replayed known before

theorem Faithful.added (laws : Laws journal appliedIds Same) {log after : Log Stored}
    {memory : Memory} (faithful : Faithful journal appliedIds Same initial log memory)
    {payload : Own} {key : String} {now : String} (mine : journal.mine payload = true)
    (entries : after.entries = log.entries ++ [log.nextEvent (journal.eventType payload)
      (journal.wrap payload) (some (journal.namespacedKey key)) now]) :
    Faithful journal appliedIds Same initial after
      (journal.apply memory (log.nextEvent (journal.eventType payload) (journal.wrap payload)
        (some (journal.namespacedKey key)) now) payload).2 := by
  generalize added : log.nextEvent (journal.eventType payload) (journal.wrap payload)
    (some (journal.namespacedKey key)) now = event at entries ⊢
  have id : event.eventId = log.entries.length + 1 := by rw [← added]; rfl
  have own : journal.own? event = some payload := by
    rw [← added]
    simp [own?, Log.nextEvent, laws.payload?_wrap, mine]
  have fresh : event.eventId ∉ appliedIds memory := by
    intro known
    have bound := faithful.bounded _ known
    omega
  have length : after.entries.length = log.entries.length + 1 := by
    rw [entries, List.length_append, List.length_singleton]
  refine
    { numbered := ?_
      bounded := ?_
      complete := ?_
      keyed := ?_
      replayed := ?_ }
  · intro other member
    rw [length]
    rw [entries] at member
    rcases List.mem_append.mp member with old | new
    · exact Nat.le_succ_of_le (faithful.numbered other old)
    · rw [List.mem_singleton.mp new, id]
  · intro eventId member
    rw [laws.appliedIds_apply memory event payload fresh] at member
    rw [length]
    rcases List.mem_append.mp member with old | new
    · exact Nat.le_succ_of_le (faithful.bounded eventId old)
    · rw [List.mem_singleton.mp new, id]
  · intro other member isOwn
    rw [laws.appliedIds_apply memory event payload fresh]
    rw [entries] at member
    rcases List.mem_append.mp member with old | new
    · exact List.mem_append_left _ (faithful.complete other old isOwn)
    · rw [List.mem_singleton.mp new]
      exact List.mem_append_right _ (List.mem_singleton_self _)
  · intro other member otherKey keyed
    rw [entries] at member
    rcases List.mem_append.mp member with old | new
    · exact faithful.keyed other old otherKey keyed
    · rw [List.mem_singleton.mp new, own]
      rfl
  · intro rebuilt ran
    rw [entries] at ran
    obtain ⟨known, before, last⟩ := replay_concat_ok ran
    simp only [replayEvent, own] at last
    rcases applied : journal.apply known event payload with ⟨result, next⟩
    rw [applied] at last
    cases result with
    | error error => cases last
    | ok value =>
        cases last
        exact laws.same_apply known memory event payload value rebuilt
          (faithful.replayed known before) applied

def ofResult (result : Except Error Value) : Outcome Error Value :=
  match result with
  | .ok value => .returned value
  | .error error => .raised error

variable {host : Host Stored Memory}

private theorem applyStored_eq {event : Event Stored} {payload : Own}
    (own : journal.payload? event.payload = some payload) :
    (journal.applyStored event : Process (Host Stored Memory) Error Value) host =
      (ofResult (journal.apply host.memory event payload).1,
        { host with memory := (journal.apply host.memory event payload).2 }) := by
  unfold applyStored
  rw [own]
  change Process.ofExcept (journal.apply host.memory event payload).1
    { host with memory := (journal.apply host.memory event payload).2 } = _
  cases (journal.apply host.memory event payload).1 <;> rfl

def newEvent (journal : Journal Stored Own Memory Error Value) (payload : Own) (key : String)
    (host : Host Stored Memory) : Event Stored :=
  host.log.nextEvent (journal.eventType payload) (journal.wrap payload)
    (some (journal.namespacedKey key)) (host.environment host.clock).now

theorem Faithful.newEvent_fresh
    (faithful : Faithful journal appliedIds Same initial host.log host.memory) (payload : Own)
    (key : String) : (journal.newEvent payload key host).eventId ∉ appliedIds host.memory := by
  intro known
  exact Nat.not_succ_le_self _ (faithful.bounded _ known)

/-- How a recording ends: the process dies, the append fails, the key is known and
nothing changes, or the event is added and applied. -/
inductive Recorded (journal : Journal Stored Own Memory Error Value) (payload : Own) (key : String)
    (host : Host Stored Memory) : Outcome Error Value × Host Stored Memory → Prop
  | crashed (dies : (host.environment host.clock).crash = true) :
      Recorded journal payload key host (.crashed, { host with clock := host.clock + 1 })
  | failed (lives : (host.environment host.clock).crash = false) (failure : StoreFailure)
      (fails : (host.environment host.clock).appendFailure = some failure) :
      Recorded journal payload key host
        (.raised (journal.storeError failure), { host with clock := host.clock + 1 })
  | repeated (lives : (host.environment host.clock).crash = false)
      (appends : (host.environment host.clock).appendFailure = none) (event : Event Stored)
      (known : host.log.getByIdempotencyKey (journal.namespacedKey key) = some event)
      (stored : Own) (own : journal.own? event = some stored) (value : Value)
      (applied : journal.apply host.memory event stored = (.ok value, host.memory)) :
      Recorded journal payload key host (.returned value, { host with clock := host.clock + 1 })
  | added (lives : (host.environment host.clock).crash = false)
      (appends : (host.environment host.clock).appendFailure = none)
      (fresh : host.log.getByIdempotencyKey (journal.namespacedKey key) = none) (log : Log Stored)
      (entries : log.entries = host.log.entries ++ [journal.newEvent payload key host]) :
      Recorded journal payload key host
        (ofResult (journal.apply host.memory (journal.newEvent payload key host) payload).1,
          { host with
            clock := host.clock + 1
            log
            memory := (journal.apply host.memory (journal.newEvent payload key host) payload).2 })

theorem Faithful.recorded (laws : Laws journal appliedIds Same)
    (faithful : Faithful journal appliedIds Same initial host.log host.memory) (payload : Own)
    (key : String) : Recorded journal payload key host (journal.record payload key host) := by
  cases dies : (host.environment host.clock).crash with
  | true =>
      have ran : journal.record payload key host =
          (.crashed, { host with clock := host.clock + 1 }) := by
        simp [record, persist, consult, Process.get, Process.modify, Bind.bind, Process.bind, dies,
          Process.crash]
      rw [ran]
      exact .crashed dies
  | false =>
      cases fails : (host.environment host.clock).appendFailure with
      | some failure =>
          have ran : journal.record payload key host =
              (.raised (journal.storeError failure), { host with clock := host.clock + 1 }) := by
            simp [record, persist, consult, Process.get, Process.modify, Bind.bind, Process.bind,
              dies, fails, Process.raise, Pure.pure]
          rw [ran]
          exact .failed dies failure fails
      | none =>
          rcases appended : host.log.append (journal.eventType payload) (journal.wrap payload)
            (some (journal.namespacedKey key)) (host.environment host.clock).now with ⟨event, log⟩
          have ran : journal.record payload key host =
              journal.applyStored event { host with clock := host.clock + 1, log } := by
            simp [record, persist, consult, Process.get, Process.modify, Bind.bind, Process.bind,
              dies, fails, Pure.pure, appended]
          rw [ran]
          cases known : host.log.getByIdempotencyKey (journal.namespacedKey key) with
          | some stored =>
              rw [Log.append_of_stored known] at appended
              obtain ⟨rfl, rfl⟩ := Prod.mk.inj appended
              obtain ⟨member, keyed⟩ := Log.getByIdempotencyKey_eq_some_iff.mp known
              have isOwn := faithful.keyed stored member key keyed
              obtain ⟨payload, own⟩ := Option.isSome_iff_exists.mp isOwn
              have unwrapped : journal.payload? stored.payload = some payload :=
                (Option.filter_eq_some_iff.mp own).1
              obtain ⟨value, applied⟩ := laws.known host.memory stored payload
                (faithful.complete stored member isOwn)
              rw [applyStored_eq unwrapped]
              dsimp only
              rw [applied]
              exact .repeated dies fails stored known payload own value applied
          | none =>
              obtain ⟨answered, entries⟩ := Log.append_of_fresh known (journal.eventType payload)
                (journal.wrap payload) (host.environment host.clock).now
              rw [appended] at answered entries
              subst answered
              rw [applyStored_eq (laws.payload?_wrap payload)]
              exact .added dies fails known log entries

theorem Faithful.record (laws : Laws journal appliedIds Same) {payload : Own} {key : String}
    (mine : journal.mine payload = true) :
    Keeps (fun host => Faithful journal appliedIds Same initial host.log host.memory)
      (journal.record payload key : Process (Host Stored Memory) Error Value) := by
  intro host faithful
  have ends := faithful.recorded laws payload key
  generalize journal.record payload key host = ran at ends
  cases ends with
  | crashed dies => exact faithful
  | failed lives failure fails => exact faithful
  | repeated lives appends event known stored own value applied => exact faithful
  | added lives appends fresh log entries => exact faithful.added laws mine entries

theorem Faithful.lookup (laws : Laws journal appliedIds Same)
    (faithful : Faithful journal appliedIds Same initial host.log host.memory) (key : String) :
    (host.log.getByIdempotencyKey (journal.namespacedKey key) = none ∧
        journal.cached key host = (.returned none, host)) ∨
      ∃ event value, host.log.getByIdempotencyKey (journal.namespacedKey key) = some event ∧
        journal.cached key host = (.returned (some value), host) := by
  cases known : host.log.getByIdempotencyKey (journal.namespacedKey key) with
  | none =>
      refine Or.inl ⟨rfl, ?_⟩
      simp [cached, Process.get, Bind.bind, Process.bind, known, Pure.pure]
  | some event =>
      obtain ⟨member, keyed⟩ := Log.getByIdempotencyKey_eq_some_iff.mp known
      have isOwn := faithful.keyed event member key keyed
      obtain ⟨payload, own⟩ := Option.isSome_iff_exists.mp isOwn
      have unwrapped : journal.payload? event.payload = some payload :=
        (Option.filter_eq_some_iff.mp own).1
      obtain ⟨value, applied⟩ := laws.known host.memory event payload
        (faithful.complete event member isOwn)
      have answered : journal.applyStored event host = (.returned value, host) := by
        rw [applyStored_eq unwrapped, applied]
        rfl
      refine Or.inr ⟨event, value, rfl, ?_⟩
      simp [cached, Process.get, Bind.bind, Process.bind, known, Pure.pure, answered]

def Closed (journal : Journal Stored Own Memory Error Value) (kept : Log Stored → Prop) : Prop :=
  ∀ log payload key now, kept log → kept (log.append (journal.eventType payload)
    (journal.wrap payload) (some (journal.namespacedKey key)) now).2

theorem keeps_consult (kept : Log Stored → Prop) :
    Keeps (fun host : Host Stored Memory => kept host.log)
      (consult : Process (Host Stored Memory) Error StoreAnswer) := by
  refine keeps_bind (keeps_get _) fun host => keeps_bind (fun _ holds => holds) fun _ => ?_
  split
  · exact fun _ holds => holds
  · exact keeps_pure _ _

private theorem keeps_applyStored (kept : Log Stored → Prop) (event : Event Stored) :
    Keeps (fun host : Host Stored Memory => kept host.log)
      (journal.applyStored event : Process (Host Stored Memory) Error Value) := by
  unfold applyStored
  cases journal.payload? event.payload with
  | none => exact keeps_raise _ _
  | some payload =>
      refine keeps_bind (keeps_get _) fun host => keeps_bind ?_ fun _ => keeps_ofExcept _ _
      exact fun _ holds => holds

theorem keeps_cached (kept : Log Stored → Prop) (key : String) :
    Keeps (fun host : Host Stored Memory => kept host.log)
      (journal.cached key : Process (Host Stored Memory) Error (Option Value)) := by
  refine keeps_bind (keeps_get _) fun host => ?_
  split
  · exact keeps_pure _ _
  · exact keeps_bind (keeps_applyStored kept _) fun _ => keeps_pure _ _

theorem keeps_record {kept : Log Stored → Prop} (closed : journal.Closed kept) (payload : Own)
    (key : String) :
    Keeps (fun host : Host Stored Memory => kept host.log)
      (journal.record payload key : Process (Host Stored Memory) Error Value) := by
  refine keeps_bind ?_ fun event => keeps_applyStored kept event
  intro host holds
  cases dies : (host.environment host.clock).crash with
  | true =>
      simpa [persist, consult, Process.get, Process.modify, Bind.bind, Process.bind, dies,
        Process.crash] using holds
  | false =>
      cases fails : (host.environment host.clock).appendFailure with
      | some failure =>
          simpa [persist, consult, Process.get, Process.modify, Bind.bind, Process.bind, dies, fails,
            Process.raise, Pure.pure] using holds
      | none =>
          have next := closed host.log payload key (host.environment host.clock).now holds
          simpa [persist, consult, Process.get, Process.modify, Bind.bind, Process.bind, dies, fails,
            Pure.pure] using next

end

end Journal

end TurtleExecution.SharedStore

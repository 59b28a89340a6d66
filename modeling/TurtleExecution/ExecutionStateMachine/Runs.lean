/-
Runs of the only machine with its id on a shared log.

`transition_cases` says once what a call can do.  From it, the live state is the
state that replay reconstructs, results can be asked for again, and a recorded
emergency kill is never left.
-/

import TurtleExecution.ExecutionStateMachine.Machine

set_option autoImplicit false

namespace TurtleExecution.ExecutionStateMachine

open SharedStore

section

variable {Stored : Type}

private theorem resultFromEvent_transitionPayload (event : Event Stored) (machineId : String)
    (call : TransitionCall) (fromState toState : State) (requestId : String) (replayed : Bool) :
    resultFromEvent event (transitionPayload machineId call fromState toState) requestId replayed =
      .ok
        { eventId := event.eventId
          trigger := call.trigger
          fromState
          toState
          timestampUtc := event.timestampUtc
          requestId
          context := .dict (call.context.getD [])
          replayed } := by
  simp [resultFromEvent, transitionPayload, bind, Except.bind, pure, Except.pure]

private theorem resultFromEvent_replayed {event : Event Stored} {payload : Payload}
    {requestId : String}
    {replayed : Bool} {result : TransitionResult}
    (read : resultFromEvent event payload requestId replayed = .ok result) (other : Bool) :
    resultFromEvent event payload requestId other = .ok { result with replayed := other } ∧
      result.requestId = requestId := by
  simp only [resultFromEvent, bind, Except.bind, pure, Except.pure] at read ⊢
  split at read
  · cases read
  split at read
  · cases read
  split at read
  · cases read
  cases read
  exact ⟨rfl, rfl⟩

variable {error : MachineError}

private theorem parseTrigger_error {raw : PyValue} {eventId : Nat}
    (raised : parseTrigger raw eventId = .error error) :
    error = .replayIntegrity eventId (.unknownTrigger raw) := by
  unfold parseTrigger at raised
  split at raised
  · split at raised
    · cases raised
    · cases raised
      rfl
  · cases raised
    rfl

private theorem parseState_error {raw : PyValue} {eventId : Nat} {field : String}
    (raised : parseState raw eventId field = .error error) :
    error = .replayIntegrity eventId (.unknownState field raw) := by
  unfold parseState at raised
  split at raised
  · split at raised
    · cases raised
    · cases raised
      rfl
  · cases raised
    rfl

private theorem resultFromEvent_error {event : Event Stored} {payload : Payload} {requestId : String}
    {replayed : Bool} (raised : resultFromEvent event payload requestId replayed = .error error) :
    ∃ problem, error = .replayIntegrity event.eventId problem := by
  simp only [resultFromEvent, bind, Except.bind, pure, Except.pure] at raised
  split at raised
  · rename_i unread
    cases raised
    exact ⟨_, parseTrigger_error unread⟩
  split at raised
  · rename_i unread
    cases raised
    exact ⟨_, parseState_error unread⟩
  split at raised
  · rename_i unread
    cases raised
    exact ⟨_, parseState_error unread⟩
  cases raised

variable [Source Stored Payload]

theorem ownPayload?_wrap {event : Event Stored} {payload : Payload} {machineId : String}
    (wrapped : event.payload = Source.wrap payload) (own : payload.machineId = .str machineId) :
    ownPayload? event machineId = some payload := by
  simp [ownPayload?, wrapped, Source.own?_wrap, own]

def transitionEvent (log : Log Stored) (machine : Machine) (call : TransitionCall)
    (toState : State) : Event Stored :=
  log.nextEvent call.trigger.eventType
    (Source.wrap (transitionPayload machine.machineId call machine.currentState toState))
    (some (namespacedKey machine.machineId call.requestId)) call.now

structure Answered (log : Log Stored) (machine : Machine) (call : TransitionCall) : Prop where
  unchanged : (transition log machine call).2 = (log, machine)
  answer : ∀ result, (transition log machine call).1 = .ok result →
    ∃ event payload,
      log.getByIdempotencyKey (namespacedKey machine.machineId call.requestId) = some event ∧
      ownPayload? event machine.machineId = some payload ∧
      resultFromEvent event payload call.requestId true = .ok result

structure Recorded (log : Log Stored) (machine : Machine) (call : TransitionCall)
    (toState : State) : Prop where
  fresh : log.getByIdempotencyKey (namespacedKey machine.machineId call.requestId) = none
  legal : nextState? machine.currentState call.trigger = some toState
  answer : (transition log machine call).1 =
    resultFromEvent (transitionEvent log machine call toState)
      (transitionPayload machine.machineId call machine.currentState toState) call.requestId false
  entries : (transition log machine call).2.1.entries =
    log.entries ++ [transitionEvent log machine call toState]
  state : (transition log machine call).2.2 = { machine with currentState := toState }

variable {machineId : String} {log : Log Stored} {machine : Machine} {call : TransitionCall}

theorem transition_records {toState : State} (checked : requestIdError? call.requestId = none)
    (fresh : log.getByIdempotencyKey (namespacedKey machine.machineId call.requestId) = none)
    (legal : nextState? machine.currentState call.trigger = some toState)
    (taken : call.failure = none) : Recorded log machine call toState := by
  obtain ⟨added, entries⟩ := Log.append_of_fresh fresh call.trigger.eventType
    (Source.wrap (transitionPayload machine.machineId call machine.currentState toState)) call.now
  refine { fresh, legal, answer := ?_, entries := ?_, state := ?_ }
  · simp [transition, checked, fresh, legal, taken, added, transitionEvent]
  · simp [transition, checked, fresh, legal, taken, entries, transitionEvent]
  · simp [transition, checked, fresh, legal, taken]

theorem transition_cases (log : Log Stored) (machine : Machine) (call : TransitionCall) :
    Answered log machine call ∨
      requestIdError? call.requestId = none ∧ ∃ toState, Recorded log machine call toState := by
  cases checked : requestIdError? call.requestId with
  | some error =>
      refine Or.inl { unchanged := ?_, answer := ?_ }
      · simp [transition, checked]
      · simp [transition, checked]
  | none =>
      cases stored : log.getByIdempotencyKey (namespacedKey machine.machineId call.requestId) with
      | some existing =>
          cases own : ownPayload? existing machine.machineId with
          | none =>
              refine Or.inl { unchanged := ?_, answer := ?_ }
              · simp [transition, checked, stored, own]
              · simp [transition, checked, stored, own]
          | some payload =>
              refine Or.inl { unchanged := ?_, answer := ?_ }
              · simp [transition, checked, stored, own]
              · intro result returned
                refine ⟨existing, payload, stored, own, ?_⟩
                simpa [transition, checked, stored, own] using returned
      | none =>
          cases legal : nextState? machine.currentState call.trigger with
          | none =>
              refine Or.inl { unchanged := ?_, answer := ?_ }
              · simp [transition, checked, stored, legal]
              · simp [transition, checked, stored, legal]
          | some toState =>
              cases failure : call.failure with
              | some failure =>
                  refine Or.inl { unchanged := ?_, answer := ?_ }
                  · simp [transition, checked, stored, legal, failure]
                  · simp [transition, checked, stored, legal, failure]
              | none =>
                  exact Or.inr ⟨rfl, toState, transition_records checked stored legal failure⟩

theorem transition_log (log : Log Stored) (machine : Machine) (call : TransitionCall) :
    (transition log machine call).2.1 = log ∨
      ∃ payload : Payload, (transition log machine call).2.1 =
        (log.append call.trigger.eventType (Source.wrap payload)
          (some (namespacedKey machine.machineId call.requestId)) call.now).2 := by
  unfold transition
  split
  · exact Or.inl rfl
  dsimp only
  split
  · split
    · exact Or.inl rfl
    · exact Or.inl rfl
  split
  · exact Or.inl rfl
  split
  · exact Or.inl rfl
  exact Or.inr ⟨_, rfl⟩

theorem transition_error {error : MachineError}
    (raised : (transition log machine call).1 = .error error) :
    (transition log machine call).2 = (log, machine) := by
  rcases transition_cases log machine call with answered | ⟨_, toState, recorded⟩
  · exact answered.unchanged
  · rw [recorded.answer, resultFromEvent_transitionPayload] at raised
    cases raised

/-- The key of the call belongs to an event that is not a readable one of the machine, or
the transition is legal and its append fails. -/
def Refuses (log : Log Stored) (machine : Machine) (call : TransitionCall) : Prop :=
  match log.getByIdempotencyKey (namespacedKey machine.machineId call.requestId) with
  | some existing =>
      ∀ payload, ownPayload? existing machine.machineId = some payload →
        ∀ result, resultFromEvent existing payload call.requestId true ≠ .ok result
  | none => nextState? machine.currentState call.trigger ≠ none ∧ call.failure ≠ none

/-- A call with a valid request id raises something other than that the transition is
illegal exactly where the machine refuses it. -/
theorem refuses_iff (checked : requestIdError? call.requestId = none) :
    Refuses log machine call ↔ ∃ error, (transition log machine call).1 = .error error ∧
      ∀ message, error ≠ .illegalTransition message := by
  unfold Refuses
  cases stored : log.getByIdempotencyKey (namespacedKey machine.machineId call.requestId) with
  | some existing =>
      cases own : ownPayload? existing machine.machineId with
      | none => simp [transition, checked, stored, own]
      | some payload =>
          cases answered : resultFromEvent existing payload call.requestId true with
          | ok result => simp [transition, checked, stored, own, answered]
          | error error =>
              obtain ⟨problem, isProblem⟩ := resultFromEvent_error answered
              simp [transition, checked, stored, own, answered, isProblem]
  | none =>
      cases legal : nextState? machine.currentState call.trigger with
      | none => simp [transition, checked, stored, legal]
      | some toState =>
          cases failed : call.failure with
          | some failure => simp [transition, checked, stored, legal, failed]
          | none =>
              obtain ⟨added, _⟩ := Log.append_of_fresh stored call.trigger.eventType
                (Source.wrap (transitionPayload machine.machineId call machine.currentState
                  toState)) call.now
              simp [transition, checked, stored, legal, failed, added,
                resultFromEvent_transitionPayload]

variable {log later : Log Stored} {result : TransitionResult} {event : Event Stored}

theorem refuses_concat (entries : later.entries = log.entries ++ [event])
    (otherKey : event.idempotencyKey ≠ some (namespacedKey machine.machineId call.requestId)) :
    Refuses later machine call ↔ Refuses log machine call := by
  unfold Refuses
  rw [Log.getByIdempotencyKey_concat entries otherKey]

theorem replay_concat (machineId : String) (events : List (Event Stored)) (event : Event Stored) :
    replay machineId (events ++ [event]) =
      (replay machineId events).bind fun state => replayEvent machineId state event := by
  unfold replay
  rw [List.foldlM_append]
  simp only [List.foldlM_cons, List.foldlM_nil, bind_pure]
  rfl

theorem replayEvent_of_not_own (foreign : ownPayload? event machineId = none) (current : State) :
    replayEvent machineId current event = .ok current := by
  simp [replayEvent, foreign]

private theorem replayEvent_transitionEvent (log : Log Stored) (machine : Machine)
    (call : TransitionCall)
    {toState : State} (legal : nextState? machine.currentState call.trigger = some toState) :
    replayEvent machine.machineId machine.currentState (transitionEvent log machine call toState) =
      .ok toState := by
  have own : ownPayload? (transitionEvent log machine call toState) machine.machineId =
      some (transitionPayload machine.machineId call machine.currentState toState) :=
    ownPayload?_wrap rfl rfl
  simp [replayEvent, own, transitionPayload, bind, Except.bind, legal]

private theorem replayEvent_own {current next : State} {payload : Payload}
    (own : ownPayload? event machineId = some payload)
    (replayed : replayEvent machineId current event = .ok next) :
    ∃ trigger, parseState payload.toState event.eventId "to_state" = .ok next ∧
      nextState? current trigger = some next := by
  simp only [replayEvent, own, bind, Except.bind] at replayed
  split at replayed
  · cases replayed
  split at replayed
  · cases replayed
  split at replayed
  · cases replayed
  rename_i trigger _ _ fromState _ _ toState toStateParsed
  split at replayed
  · cases replayed
  split at replayed
  · cases replayed
  rename_i sameState legal
  cases replayed
  rw [not_not] at sameState legal
  subst sameState
  exact ⟨trigger, toStateParsed, legal⟩

private theorem foldlM_killed {events : List (Event Stored)} {current last : State}
    (killed : Killed current) (replayed : events.foldlM (replayEvent machineId) current = .ok last) :
    Killed last := by
  induction events generalizing current with
  | nil =>
      cases replayed
      exact killed
  | cons event events ih =>
      rw [List.foldlM_cons] at replayed
      cases one : replayEvent machineId current event with
      | error error => simp [one, bind, Except.bind] at replayed
      | ok next =>
          simp only [one, bind, Except.bind] at replayed
          refine ih ?_ replayed
          cases own : ownPayload? event machineId with
          | none =>
              rw [replayEvent_of_not_own own] at one
              cases one
              exact killed
          | some payload =>
              obtain ⟨trigger, _, legal⟩ := replayEvent_own own one
              exact closedUnder_killed.nextState? legal killed

def KillRecorded (log : Log Stored) (machineId : String) : Prop :=
  ∃ event ∈ log.entries, ∃ payload, ownPayload? event machineId = some payload ∧
    payload.toState = .str State.emergencyKill.value

theorem replay_killed {last : State} (recorded : KillRecorded log machineId)
    (replayed : replay machineId log.entries = .ok last) : Killed last := by
  obtain ⟨event, member, payload, own, kill⟩ := recorded
  obtain ⟨front, back, split⟩ := List.append_of_mem member
  rw [replay, split, List.foldlM_append] at replayed
  cases before : front.foldlM (replayEvent machineId) State.initializing with
  | error error => simp [before, bind, Except.bind] at replayed
  | ok current =>
      simp only [before, bind, Except.bind, List.foldlM_cons] at replayed
      cases one : replayEvent machineId current event with
      | error error => simp [one] at replayed
      | ok next =>
          simp only [one] at replayed
          obtain ⟨trigger, parsed, _⟩ := replayEvent_own own one
          rw [kill, parseState_value] at parsed
          cases parsed
          exact foldlM_killed (Or.inl rfl) replayed

/-- An append by another module: its payload is no own payload of the machine. -/
structure ForeignAppend (Stored : Type) [Source Stored Payload] (machineId : String) where
  eventType : EventType
  payload : Stored
  key : Option String
  now : String
  foreign : ∀ event : Event Stored, event.payload = payload → ownPayload? event machineId = none

inductive Step (Stored : Type) [Source Stored Payload] (machineId : String)
  | transition (call : TransitionCall)
  | foreign (append : ForeignAppend Stored machineId)
  | restart

structure System (Stored : Type) [Source Stored Payload] where
  log : Log Stored
  machine : Machine
  results : List TransitionResult

def System.step {machineId : String} (system : System Stored) :
    Step Stored machineId → System Stored
  | .transition call =>
      let (answer, log, machine) := ExecutionStateMachine.transition system.log system.machine call
      { log, machine, results := system.results ++ answer.toOption.toList }
  | .foreign append =>
      { system with
        log := (system.log.append append.eventType append.payload append.key append.now).2 }
  | .restart =>
      match construct system.log machineId with
      | .ok machine => { system with machine }
      | .error _ => system

def System.run {machineId : String} (system : System Stored) (steps : List (Step Stored machineId)) :
    System Stored :=
  steps.foldl System.step system

structure ResultRecorded (log : Log Stored) (machineId : String) (result : TransitionResult) :
    Prop where
  checked : requestIdError? result.requestId = none
  stored : ∃ event payload,
    log.getByIdempotencyKey (namespacedKey machineId result.requestId) = some event ∧
    ownPayload? event machineId = some payload ∧
    ∀ replayed, resultFromEvent event payload result.requestId replayed =
      .ok { result with replayed }

theorem ResultRecorded.mono (recorded : ResultRecorded log machineId result)
    (extended : log.Extends later) : ResultRecorded later machineId result := by
  obtain ⟨event, payload, found, own, read⟩ := recorded.stored
  obtain ⟨member, keyed⟩ := Log.getByIdempotencyKey_eq_some_iff.mp found
  exact
    { checked := recorded.checked
      stored := ⟨event, payload,
        Log.getByIdempotencyKey_eq_some_iff.mpr ⟨extended.mem member, keyed⟩, own, read⟩ }

theorem ResultRecorded.repeated (recorded : ResultRecorded log machine.machineId result)
    (same : call.requestId = result.requestId) :
    transition log machine call = (.ok { result with replayed := true }, log, machine) := by
  obtain ⟨event, payload, found, own, read⟩ := recorded.stored
  rw [← same] at found
  have checked := recorded.checked
  rw [← same] at checked
  simp only [transition, checked, found, own]
  rw [same, read true]

theorem construct_eq_ok (constructed : construct log machineId = .ok machine) :
    machine.machineId = machineId ∧ replay machineId log.entries = .ok machine.currentState := by
  unfold construct at constructed
  split at constructed
  · cases constructed
  split at constructed
  · cases constructed
  cases replayed : replay machineId log.entries with
  | error error =>
      rw [replayed] at constructed
      cases constructed
  | ok state =>
      rw [replayed] at constructed
      cases constructed
      exact ⟨rfl, rfl⟩

theorem construct_of_replay (constructed : construct log machineId = .ok machine) {state : State}
    (replayed : replay machineId later.entries = .ok state) :
    construct later machineId = .ok { machineId, currentState := state } := by
  unfold construct at constructed ⊢
  split at constructed
  · cases constructed
  split at constructed
  · cases constructed
  rename_i notBlank short
  rw [if_neg notBlank, if_neg short, replayed]
  rfl

/-- A reconstructed machine is the live one, and every result can be asked for again. -/
structure System.Sound (machineId : String) (system : System Stored) : Prop where
  reconstructed : construct system.log machineId = .ok system.machine
  recorded : ∀ result ∈ system.results, ResultRecorded system.log machineId result

private theorem transition_resultRecorded (returned : (transition log machine call).1 = .ok result) :
    ResultRecorded (transition log machine call).2.1 machine.machineId result := by
  have checked : requestIdError? call.requestId = none := by
    cases failed : requestIdError? call.requestId with
    | none => rfl
    | some error => simp [transition, failed] at returned
  rcases transition_cases log machine call with answered | ⟨_, toState, recorded⟩
  · obtain ⟨event, payload, found, own, read⟩ := answered.answer result returned
    obtain ⟨_, sameRequest⟩ := resultFromEvent_replayed read true
    rw [answered.unchanged]
    refine { checked := by rw [sameRequest]; exact checked, stored := ⟨event, payload, ?_, own, ?_⟩ }
    · rw [sameRequest]
      exact found
    · intro replayed
      have again := (resultFromEvent_replayed read replayed).1
      rwa [← sameRequest] at again
  · have read := recorded.answer.symm.trans returned
    obtain ⟨_, sameRequest⟩ := resultFromEvent_replayed read true
    refine
      { checked := by rw [sameRequest]; exact checked
        stored := ⟨transitionEvent log machine call toState, _, ?_, ownPayload?_wrap rfl rfl, ?_⟩ }
    · rw [sameRequest, Log.getByIdempotencyKey_eq_some_iff, recorded.entries]
      exact ⟨List.mem_append_right _ (List.mem_singleton_self _), rfl⟩
    · intro replayed
      have again := (resultFromEvent_replayed read replayed).1
      rwa [← sameRequest] at again

theorem transition_extends (log : Log Stored) (machine : Machine) (call : TransitionCall) :
    log.Extends (transition log machine call).2.1 := by
  rcases transition_cases log machine call with answered | ⟨_, toState, recorded⟩
  · rw [answered.unchanged]
    exact Ledger.Extends.refl log
  · exact ⟨_, recorded.entries.symm⟩

theorem construct_transition (constructed : construct log machineId = .ok machine)
    (call : TransitionCall) :
    construct (transition log machine call).2.1 machineId = .ok (transition log machine call).2.2 := by
  obtain ⟨rfl, replayed⟩ := construct_eq_ok constructed
  rcases transition_cases log machine call with answered | ⟨_, toState, recorded⟩
  · rw [answered.unchanged]
    exact constructed
  · rw [recorded.state]
    apply construct_of_replay constructed
    rw [recorded.entries, replay_concat, replayed]
    exact replayEvent_transitionEvent log machine call recorded.legal

private theorem construct_foreign (constructed : construct log machineId = .ok machine)
    (append : ForeignAppend Stored machineId) :
    construct (log.append append.eventType append.payload append.key append.now).2 machineId =
      .ok machine := by
  obtain ⟨rfl, replayed⟩ := construct_eq_ok constructed
  apply construct_of_replay constructed
  rcases Log.append_cases log append.eventType append.payload append.key append.now with
    same | ⟨_, added⟩
  · rw [same]
    exact replayed
  · rw [added, replay_concat, replayed]
    exact replayEvent_of_not_own (append.foreign _ rfl) machine.currentState

private theorem toOption_eq_some {Error Value : Type} {answer : Except Error Value} {value : Value}
    (returned : answer.toOption = some value) : answer = .ok value := by
  cases answer with
  | error error => cases returned
  | ok other =>
      cases returned
      rfl

theorem System.Sound.step {system : System Stored} (sound : system.Sound machineId)
    (step : Step Stored machineId) : (system.step step).Sound machineId := by
  cases step with
  | transition call =>
      refine
        { reconstructed := construct_transition sound.reconstructed call
          recorded := ?_ }
      intro result member
      rcases List.mem_append.mp member with earlier | returned
      · exact (sound.recorded result earlier).mono
          (transition_extends system.log system.machine call)
      · have recorded := transition_resultRecorded (toOption_eq_some (Option.mem_toList.mp returned))
        rwa [(construct_eq_ok sound.reconstructed).1] at recorded
  | foreign append =>
      exact
        { reconstructed := construct_foreign sound.reconstructed append
          recorded := fun result member => (sound.recorded result member).mono
            (Log.extends_append system.log _ _ _ _) }
  | restart =>
      rw [System.step, sound.reconstructed]
      exact sound

theorem System.Sound.run {system : System Stored} (sound : system.Sound machineId)
    (steps : List (Step Stored machineId)) : (system.run steps).Sound machineId := by
  induction steps generalizing system with
  | nil => exact sound
  | cons step steps ih => exact ih (sound.step step)

theorem System.extends_step (system : System Stored) (step : Step Stored machineId) :
    system.log.Extends (system.step step).log := by
  cases step with
  | transition call => exact transition_extends system.log system.machine call
  | foreign append => exact Log.extends_append system.log _ _ _ _
  | restart =>
      unfold System.step
      cases construct system.log machineId with
      | error error => exact Ledger.Extends.refl system.log
      | ok machine => exact Ledger.Extends.refl system.log

theorem System.extends_run (system : System Stored) (steps : List (Step Stored machineId)) :
    system.log.Extends (system.run steps).log := by
  induction steps generalizing system with
  | nil => exact Ledger.Extends.refl system.log
  | cons step steps ih => exact (system.extends_step step).trans (ih (system.step step))

theorem KillRecorded.mono (recorded : KillRecorded log machineId) (extended : log.Extends later) :
    KillRecorded later machineId := by
  obtain ⟨event, member, kill⟩ := recorded
  exact ⟨event, extended.mem member, kill⟩

/-- The machine and its log agree after every run, and an emergency kill is for good. -/
theorem run_agrees {machineId : String} {log : Log Stored} {machine : Machine}
    (constructed : construct log machineId = .ok machine)
    (earlier later : List (Step Stored machineId)) :
    let before := System.run { log, machine, results := [] } earlier
    let final := before.run later
    construct final.log machineId = .ok final.machine ∧
      (∀ call error, (transition final.log final.machine call).1 = .error error →
        (transition final.log final.machine call).2 = (final.log, final.machine)) ∧
      (∀ result ∈ final.results, ∀ call : TransitionCall, call.requestId = result.requestId →
        transition final.log final.machine call =
          (.ok { result with replayed := true }, final.log, final.machine)) ∧
      (KillRecorded before.log machineId → Killed final.machine.currentState) := by
  intro before final
  have start : System.Sound machineId { log, machine, results := [] } :=
    { reconstructed := constructed
      recorded := fun result member => (List.not_mem_nil member).elim }
  have sound : final.Sound machineId := (start.run earlier).run later
  obtain ⟨sameId, replayed⟩ := construct_eq_ok sound.reconstructed
  refine ⟨sound.reconstructed, fun call error => transition_error, ?_, ?_⟩
  · intro result member call sameRequest
    have recorded := sound.recorded result member
    rw [← sameId] at recorded
    exact recorded.repeated sameRequest
  · intro kill
    exact replay_killed (kill.mono (before.extends_run later)) replayed

theorem run_agrees_emergencyKill :
    let kill : TransitionCall :=
      { trigger := .emergencyKillTriggered, requestId := "r1", context := none, now := "t"
        failure := none }
    let earlier : List (Step PyDict "engine") := [.transition kill]
    let later : List (Step PyDict "engine") := [.transition kill, .restart]
    let before := System.run
      { log := Ledger.empty, machine := ⟨"engine", .initializing⟩, results := [] } earlier
    let final := before.run later
    construct final.log "engine" = .ok final.machine ∧
      (∀ call error, (transition final.log final.machine call).1 = .error error →
        (transition final.log final.machine call).2 = (final.log, final.machine)) ∧
      (∀ result ∈ final.results, ∀ call : TransitionCall, call.requestId = result.requestId →
        transition final.log final.machine call =
          (.ok { result with replayed := true }, final.log, final.machine)) ∧
      (KillRecorded before.log "engine" → Killed final.machine.currentState) :=
  run_agrees (by rfl) _ _

end

end TurtleExecution.ExecutionStateMachine

/-
An emergency stop is for good.

Unless the application's flag is set, a kill that the log holds shows in the state of
the machine: every module keeps that, a process that starts replays it, and the
emergency stop sets the flag where its own append may break it.
-/

import TurtleExecution.AccountingSync.Marks
import TurtleExecution.App.State
import TurtleExecution.ExecutionStateMachine.Runs
import TurtleExecution.TradingSystem.Kept

set_option autoImplicit false

namespace TurtleExecution.App

open SharedStore TradingSystem SecretsBoundary ExecutionStateMachine Process

section

variable {Stored Keys Rest Snapshot : Type} [Source Stored ExecutionStateMachine.Payload]

/-- A property that every call of the machine keeps, also one whose append raises late
and leaves its event, and every append of another module. -/
structure Closed (kept : Log Stored → Machine → Prop) : Prop where
  transition : ∀ log machine call, kept log machine →
    kept (ExecutionStateMachine.transition log machine call).2.1
      (ExecutionStateMachine.transition log machine call).2.2
  late : ∀ log machine call, call.trigger ≠ .emergencyKillTriggered → kept log machine →
    kept (ExecutionStateMachine.transition log machine call).2.1 machine
  append : ∀ log machine (append : ForeignAppend Stored defaultMachineId), kept log machine →
    kept (log.append append.eventType append.payload append.key append.now).2 machine

/-- The part reaches the log and the machine through their operations alone. -/
def Lawful {Error Value : Type} (part : Process (EngineState Stored Keys Rest) Error Value) : Prop :=
  ∀ kept, Closed kept → Keeps (fun state => kept state.log state.machine) part

structure Accounting.Lawful (accounting : Accounting (EngineState Stored Keys Rest)) : Prop where
  sync : App.Lawful accounting.sync
  updateMarks : App.Lawful accounting.updateMarks
  recordExecutionLevels : ∀ executions, App.Lawful (accounting.recordExecutionLevels executions)

structure Parts.Lawful (parts : Parts Stored Keys Rest Snapshot) : Prop where
  engine : ∀ kept, Closed kept →
    parts.engine.Keeps fun state : EngineState Stored Keys Rest => kept state.log state.machine
  accounting : ∀ accounting ∈ parts.accounting, accounting.Lawful
  now : App.Lawful parts.now
  cancelAll : App.Lawful parts.cancelAll
  revokeSigner : App.Lawful parts.revokeSigner
  capture : ∀ app, App.Lawful (parts.capture app)
  cheapSnapshot : ∀ app, App.Lawful (parts.cheapSnapshot app)

variable {parts : Parts Stored Keys Rest Snapshot}

theorem Parts.Lawful.cycleEngine (lawful : parts.Lawful) {kept : Log Stored → Machine → Prop}
    (closed : Closed kept) :
    parts.cycleEngine.Keeps fun state => kept state.log state.machine := by
  refine (lawful.engine kept closed).trading _ (lawful.engine kept closed).placeOrder ?_
  intro execution
  cases accounted : parts.accounting with
  | none => exact keeps_pure _ ()
  | some accounting =>
      exact (lawful.accounting accounting accounted).recordExecutionLevels _ kept closed

private theorem lawful_syncBefore (lawful : parts.Lawful) : Lawful (syncBefore parts) := by
  intro kept closed
  unfold syncBefore
  cases accounted : parts.accounting with
  | none => exact keeps_pure _ []
  | some accounting =>
      have accounts := lawful.accounting accounting accounted
      refine keeps_bind (keeps_get _) fun state => ?_
      cases parts.engine.isStarted state with
      | false => exact keeps_pure _ []
      | true =>
          refine keeps_bind (accounts.sync kept closed) fun notes => ?_
          exact keeps_bind (accounts.updateMarks kept closed) fun _ => keeps_pure _ notes

private theorem lawful_syncAfter (lawful : parts.Lawful) (result : CycleResult) :
    Lawful (syncAfter parts result) := by
  intro kept closed
  unfold syncAfter
  cases accounted : parts.accounting with
  | none => exact keeps_pure _ []
  | some accounting =>
      have accounts := lawful.accounting accounting accounted
      exact keeps_bind (accounts.recordExecutionLevels _ kept closed) fun _ =>
        accounts.sync kept closed

private theorem lawful_cycleBody (lawful : parts.Lawful) : Lawful (cycleBody parts) := by
  intro kept closed
  refine keeps_bind (lawful_syncBefore lawful kept closed) fun before => ?_
  refine keeps_bind (lawful.now kept closed) fun now => ?_
  refine keeps_bind (keeps_runCycle (lawful.cycleEngine closed) _ _) fun result => ?_
  refine keeps_bind (lawful_syncAfter lawful result kept closed) fun after => ?_
  exact keeps_pure _ _

def Shown (log : Log Stored) (machine : Machine) : Prop :=
  machine.machineId = defaultMachineId ∧
    (KillRecorded log defaultMachineId → Killed machine.currentState)

private theorem killRecorded_append {log : Log Stored} {machineId : String} {event : Event Stored}
    {later : Log Stored} (entries : later.entries = log.entries ++ [event])
    (recorded : KillRecorded later machineId) :
    KillRecorded log machineId ∨ ∃ payload, ownPayload? event machineId = some payload ∧
      payload.toState = .str State.emergencyKill.value := by
  obtain ⟨known, member, payload, own, kill⟩ := recorded
  rw [entries] at member
  rcases List.mem_append.mp member with old | new
  · exact Or.inl ⟨known, old, payload, own, kill⟩
  · rw [List.mem_singleton.mp new] at own
    exact Or.inr ⟨payload, own, kill⟩

private theorem killRecorded_transition {log : Log Stored} {machine : Machine} {call : TransitionCall}
    {toState : ExecutionStateMachine.State} (recorded : Recorded log machine call toState)
    (kill : KillRecorded (transition log machine call).2.1 machine.machineId) :
    KillRecorded log machine.machineId ∨ toState = .emergencyKill := by
  rcases killRecorded_append recorded.entries kill with old | ⟨payload, own, isKill⟩
  · exact Or.inl old
  · have written : ownPayload? (transitionEvent log machine call toState) machine.machineId =
        some (transitionPayload machine.machineId call machine.currentState toState) :=
      ownPayload?_wrap rfl rfl
    rw [written, Option.some.injEq] at own
    have parsed := parseState_value toState 0 ""
    rw [show PyValue.str toState.value = payload.toState by rw [← own]; rfl, isKill,
      parseState_value, Except.ok.injEq] at parsed
    exact Or.inr parsed.symm

private theorem emergencyKill_of_nextState? {state : ExecutionStateMachine.State} {trigger : Trigger}
    (legal : nextState? state trigger = some .emergencyKill) : trigger = .emergencyKillTriggered := by
  have edges : ∀ edge ∈ transitionTable, edge.2.2 = .emergencyKill →
      edge.2.1 = .emergencyKillTriggered := by decide
  exact edges _ (TransitionTable.mem_of_nextState? legal) rfl

private theorem closed_shown : Closed (@Shown Stored _) := by
  refine { transition := ?_, late := ?_, append := ?_ }
  · rintro log machine call ⟨isDefault, shown⟩
    rcases transition_cases log machine call with answered | ⟨_, toState, recorded⟩
    · rw [answered.unchanged]
      exact ⟨isDefault, shown⟩
    · rw [recorded.state]
      refine ⟨isDefault, fun kill => ?_⟩
      rw [← isDefault] at kill
      rcases killRecorded_transition recorded kill with old | isKill
      · exact closedUnder_killed.nextState? recorded.legal (shown (by rwa [← isDefault]))
      · exact Or.inl isKill
  · rintro log machine call other ⟨isDefault, shown⟩
    rcases transition_cases log machine call with answered | ⟨_, toState, recorded⟩
    · rw [answered.unchanged]
      exact ⟨isDefault, shown⟩
    · refine ⟨isDefault, fun kill => ?_⟩
      rw [← isDefault] at kill
      rcases killRecorded_transition recorded kill with old | rfl
      · exact shown (by rwa [← isDefault])
      · exact (other (emergencyKill_of_nextState? recorded.legal)).elim
  · rintro log machine append ⟨isDefault, shown⟩
    refine ⟨isDefault, fun kill => ?_⟩
    rcases Log.append_cases log append.eventType append.payload append.key append.now with
      same | ⟨_, added⟩
    · rw [same] at kill
      exact shown kill
    · rcases killRecorded_append added kill with old | ⟨payload, own, _⟩
      · exact shown old
      · rw [append.foreign _ rfl] at own
        cases own

private theorem shown_of_construct {log : Log Stored} {machine : Machine}
    (constructed : construct log defaultMachineId = .ok machine) : Shown log machine := by
  obtain ⟨isDefault, replayed⟩ := construct_eq_ok constructed
  exact ⟨isDefault, fun kill => replay_killed kill replayed⟩

/-- The log is at least the given one, and shows in the machine unless the flag is set. -/
def Guards (start : Log Stored) (flag : Bool) (log : Log Stored) (machine : Machine) : Prop :=
  start.Extends log ∧ (flag = true ∨ Shown log machine)

def Guarded (start : Log Stored) (app : AppState Stored Keys Rest Snapshot) : Prop :=
  Guards start app.emergencyStopped app.engine.log app.engine.machine

private theorem closed_guards (start : Log Stored) (flag : Bool) : Closed (Guards start flag) := by
  refine { transition := ?_, late := ?_, append := ?_ }
  · rintro log machine call ⟨extended, set | shown⟩
    · exact ⟨extended.trans (transition_extends log machine call), Or.inl set⟩
    · exact ⟨extended.trans (transition_extends log machine call),
        Or.inr (closed_shown.transition log machine call shown)⟩
  · rintro log machine call other ⟨extended, set | shown⟩
    · exact ⟨extended.trans (transition_extends log machine call), Or.inl set⟩
    · exact ⟨extended.trans (transition_extends log machine call),
        Or.inr (closed_shown.late log machine call other shown)⟩
  · rintro log machine append ⟨extended, set | shown⟩
    · exact ⟨extended.trans (Log.extends_append log _ _ _ _), Or.inl set⟩
    · exact ⟨extended.trans (Log.extends_append log _ _ _ _),
        Or.inr (closed_shown.append log machine append shown)⟩

variable {start : Log Stored}

variable {app : AppState Stored Keys Rest Snapshot} {Value : Type}

variable {part : Process (EngineState Stored Keys Rest) CycleError Value}

private theorem keeps_onEngine (lawful : Lawful part) :
    Keeps (Guarded start)
      (onEngine part : Process (AppState Stored Keys Rest Snapshot) AppError Value) := by
  intro app guarded
  rw [onEngine, focus_state]
  exact lawful (Guards start app.emergencyStopped) (closed_guards start _) app.engine guarded

private theorem keeps_note {change : AppState Stored Keys Rest Snapshot → AppState Stored Keys Rest Snapshot}
    (engine : ∀ app, (change app).engine = app.engine)
    (flag : ∀ app, (change app).emergencyStopped = app.emergencyStopped) :
    Keeps (Guarded start) (modify change : Process _ AppError Unit) := by
  intro app guarded
  change Guards start (change app).emergencyStopped (change app).engine.log (change app).engine.machine
  rw [engine, flag]
  exact guarded

private theorem keeps_noteError (error : AppError) :
    Keeps (Guarded start)
      (noteError parts error : Process (AppState Stored Keys Rest Snapshot) AppError Value) := by
  cases error with
  | cycle error =>
      exact keeps_bind (keeps_note (fun _ => rfl) fun _ => rfl) fun _ => keeps_raise _ _
  | emergencyStopActive message => exact keeps_raise _ _

omit [Source Stored ExecutionStateMachine.Payload] in
private theorem recordNotes_engine (notes : List String) (app : AppState Stored Keys Rest Snapshot) :
    (recordNotes notes app).engine = app.engine := by
  unfold recordNotes
  split <;> rfl

omit [Source Stored ExecutionStateMachine.Payload] in
private theorem recordNotes_emergencyStopped (notes : List String)
    (app : AppState Stored Keys Rest Snapshot) :
    (recordNotes notes app).emergencyStopped = app.emergencyStopped := by
  unfold recordNotes
  split <;> rfl

private theorem keeps_refreshSnapshot (lawful : parts.Lawful) :
    Keeps (Guarded start) (refreshSnapshot parts) := by
  refine keeps_tryCatch ?_ fun error => ?_
  · refine keeps_bind (keeps_get _) fun app => ?_
    refine keeps_bind (keeps_onEngine (lawful.capture app)) fun snapshot => ?_
    exact keeps_note (fun _ => rfl) fun _ => rfl
  · cases error with
    | cycle error => exact keeps_note (fun _ => rfl) fun _ => rfl
    | emergencyStopActive message => exact keeps_raise _ _

private theorem keeps_runAccepted (lawful : parts.Lawful) : Keeps (Guarded start)
    (runAccepted parts) := by
  have body : Keeps (Guarded start) (tryCatch (onEngine (cycleBody parts)) (noteError parts)) :=
    keeps_tryCatch (keeps_onEngine (lawful_cycleBody lawful)) keeps_noteError
  refine keeps_bind body fun ran => ?_
  refine keeps_bind (keeps_onEngine lawful.now) fun completedAt => ?_
  refine keeps_bind (keeps_note (recordNotes_engine ran.2) (recordNotes_emergencyStopped ran.2))
    fun _ => ?_
  exact keeps_bind (keeps_refreshSnapshot lawful) fun _ => keeps_pure _ ran.1

private theorem keeps_runOneCycle (lawful : parts.Lawful) : Keeps (Guarded start)
    (runOneCycle parts) := by
  refine keeps_bind (keeps_get _) fun app => ?_
  cases app.isStopped with
  | true => exact keeps_raise _ _
  | false => exact keeps_runAccepted lawful

private theorem keeps_cancelResting (lawful : parts.Lawful) :
    Keeps (Guarded start) (cancelResting parts) := by
  refine keeps_bind (keeps_get _) fun app => ?_
  cases !app.isStopped && parts.engine.isStarted app.engine with
  | false => exact keeps_pure _ []
  | true =>
      refine keeps_tryCatch (keeps_onEngine lawful.cancelAll) fun error => ?_
      cases error with
      | cycle error =>
          exact keeps_bind (keeps_note (fun _ => rfl) fun _ => rfl) fun _ => keeps_pure _ []
      | emergencyStopActive message => exact keeps_raise _ _

private theorem lawful_revokeAll : Lawful (revokeAll parts) := by
  intro kept closed state holds
  unfold revokeAll
  rcases state.boundary.revokeAll parts.backend with ⟨_ | _, boundary⟩
  · exact holds
  · exact holds

private theorem recordKill_extends (now : String) :
    Keeps (fun state => start.Extends state.log) (recordKill parts now) := by
  intro state extended
  have grows : ∀ failure, start.Extends (ExecutionStateMachine.transition state.log state.machine
      (killCall now failure)).2.1 := fun failure =>
    extended.trans (transition_extends state.log state.machine (killCall now failure))
  have answers : ∀ failure, start.Extends (answered state (ExecutionStateMachine.transition state.log
      state.machine (killCall now failure))).2.log := by
    intro failure
    have grown := grows failure
    rcases answer : ExecutionStateMachine.transition state.log state.machine
      (killCall now failure) with ⟨_ | _, log, machine⟩
    · rw [answer] at grown
      exact grown
    · rw [answer] at grown
      exact grown
  unfold recordKill
  cases parts.appendFate state with
  | completes => exact answers none
  | fails failure => exact answers (some failure)
  | failsLate failure =>
      simp only
      split
      · exact answers none
      · exact grows none
  | crashes => exact extended
  | crashesLate => exact grows none

omit [Source Stored ExecutionStateMachine.Payload] in
private theorem ends_onEngine (keeps : Keeps (fun state => start.Extends state.log) part)
    (extended : start.Extends app.engine.log) :
    Ends (onEngine part) app
      { returned := fun _ after => start.Extends after.engine.log
        raised := fun error after => (∃ inner, error = .cycle inner) ∧
          start.Extends after.engine.log
        crashed := fun after => start.Extends after.engine.log } := by
  refine (ends_focus (keeps.ends extended)).mono ?_ ?_ ?_
  · rintro value after ⟨engine, grown, rfl⟩
    exact grown
  · rintro error after ⟨inner, engine, grown, rfl, rfl⟩
    exact ⟨⟨inner, rfl⟩, grown⟩
  · rintro after ⟨engine, grown, rfl⟩
    exact grown

private theorem closed_extends : Closed (fun log _ => start.Extends log) :=
  { transition := fun log machine call extended =>
      extended.trans (transition_extends log machine call)
    late := fun log machine call _ extended =>
      extended.trans (transition_extends log machine call)
    append := fun log _ _ extended => extended.trans (Log.extends_append log _ _ _ _) }

private theorem ends_propagateKill (lawful : parts.Lawful) (extended : start.Extends app.engine.log) :
    Ends (propagateKill parts) app
      { returned := fun _ after => start.Extends after.engine.log
        raised := fun _ _ => False
        crashed := fun after => start.Extends after.engine.log } := by
  refine ends_bind_get ?_
  cases isStoppedState app.engine.machine.currentState with
  | true => exact extended
  | false =>
      have records : Keeps (fun state => start.Extends state.log) (parts.now >>= recordKill parts) :=
        keeps_bind (lawful.now _ closed_extends) recordKill_extends
      refine ends_tryCatch _ (ends_onEngine records extended) ?_
      rintro error after ⟨⟨inner, rfl⟩, grown⟩
      exact grown

private theorem ends_emergencyStop (lawful : parts.Lawful) (guarded : Guarded start app) :
    Ends (emergencyStop parts) app
      { returned := fun _ after => Guarded start after
        raised := fun _ after => Guarded start after
        crashed := fun after => start.Extends after.engine.log } := by
  have atCrash : ∀ {Value : Type} {part : Process (AppState Stored Keys Rest Snapshot) AppError Value}
      {before : AppState Stored Keys Rest Snapshot}, Keeps (Guarded start) part →
      Guarded start before → Ends part before
        { returned := fun _ after => Guarded start after
          raised := fun _ after => Guarded start after
          crashed := fun after => start.Extends after.engine.log } :=
    fun keeps holds => (keeps.ends holds).mono (fun _ _ kept => kept) (fun _ _ kept => kept)
      fun _ kept => kept.1
  refine ends_bind _ (atCrash (keeps_cancelResting lawful) guarded) fun cancelled first held => ?_
  refine ends_bind _ (atCrash (keeps_onEngine lawful_revokeAll) held) fun _ second held => ?_
  refine ends_bind _ (atCrash (keeps_onEngine lawful.revokeSigner) held) fun _ third held => ?_
  refine ends_bind (fun _ after => start.Extends after.engine.log)
    ((ends_propagateKill lawful held.1).mono (fun _ _ grown => grown)
      (fun _ _ impossible => impossible.elim) fun _ grown => grown) fun _ fourth grown => ?_
  refine ends_bind_modify ?_
  -- From here on the flag is set, whatever became of the append.
  have flagged : Guarded start { fourth with emergencyStopped := true } := ⟨grown, Or.inl rfl⟩
  refine ends_bind_get ?_
  refine ends_bind _ (atCrash (keeps_onEngine (lawful.cheapSnapshot _)) flagged)
    fun snapshot fifth held => ?_
  exact held

inductive System (Stored Keys Rest Snapshot : Type)
  | down (log : Log Stored)
  | up (app : AppState Stored Keys Rest Snapshot)

namespace System

def log : System Stored Keys Rest Snapshot → Log Stored
  | .down log => log
  | .up app => app.engine.log

def ofEnd {Value : Type} :
    Outcome AppError Value × AppState Stored Keys Rest Snapshot → System Stored Keys Rest Snapshot
  | (.crashed, app) => .down app.engine.log
  | (_, app) => .up app

end System

/-- What happens to a store: processes start and end, and the calls of the process that runs. -/
inductive Step (parts : Parts Stored Keys Rest Snapshot)
  | start (boot : Boot Stored Keys Rest) (lawful : Lawful boot.deposit)
  | cycle
  | emergencyStop
  | other (part : Process (EngineState Stored Keys Rest) CycleError Unit) (lawful : Lawful part)
  | exit

def System.step (system : System Stored Keys Rest Snapshot) (step : Step parts) :
    System Stored Keys Rest Snapshot :=
  match system, step with
  | .down log, .start boot _ =>
      match create boot log with
      | (some app, _) => .up app
      | (none, after) => .down after
  | .up app, .cycle => .ofEnd (runOneCycle parts app)
  | .up app, .emergencyStop => .ofEnd (App.emergencyStop parts app)
  | .up app, .other part _ => .ofEnd (onEngine part app)
  | .up app, .exit => .down app.engine.log
  | system, _ => system

def System.run (system : System Stored Keys Rest Snapshot) (steps : List (Step parts)) :
    System Stored Keys Rest Snapshot :=
  steps.foldl System.step system

/-- The store holds at least the given log, and the process on it is guarded. -/
def System.Guarded (start : Log Stored) : System Stored Keys Rest Snapshot → Prop
  | .down log => start.Extends log
  | .up app => App.Guarded start app

variable {system : System Stored Keys Rest Snapshot} {app : AppState Stored Keys Rest Snapshot}

private theorem guarded_ofEnd {Value : Type}
    {process : Process (AppState Stored Keys Rest Snapshot) AppError Value}
    (ends : Ends process app
      { returned := fun _ after => Guarded start after
        raised := fun _ after => Guarded start after
        crashed := fun after => start.Extends after.engine.log }) :
    System.Guarded start (.ofEnd (process app)) := by
  unfold Ends at ends
  rcases ran : process app with ⟨outcome, after⟩
  rw [ran] at ends
  cases outcome with
  | returned value => exact ends
  | raised error => exact ends
  | crashed => exact ends

private theorem guarded_ofEnd_of_keeps {Value : Type}
    {process : Process (AppState Stored Keys Rest Snapshot) AppError Value}
    (keeps : Keeps (Guarded start) process) (guarded : Guarded start app) :
    System.Guarded start (.ofEnd (process app)) :=
  guarded_ofEnd ((keeps.ends guarded).mono (fun _ _ held => held) (fun _ _ held => held)
    fun _ held => held.1)

private theorem guarded_create {boot : Boot Stored Keys Rest} (lawful : Lawful boot.deposit)
    {log : Log Stored} (extended : start.Extends log) :
    System.Guarded start (match create boot log with
      | (some app, _) => .up (app : AppState Stored Keys Rest Snapshot)
      | (none, after) => .down after) := by
  unfold create
  cases constructed : construct log defaultMachineId with
  | error error => exact extended
  | ok machine =>
      cases boot.build log with
      | none => exact extended
      | some built =>
          have deposited := lawful (Guards start false) (closed_guards start false)
            { log, machine, boundary := built.1, rest := built.2 }
            ⟨extended, Or.inr (shown_of_construct constructed)⟩
          simp only
          rcases ran : boot.deposit { log, machine, boundary := built.1, rest := built.2 } with
            ⟨outcome, engine⟩
          rw [ran] at deposited
          obtain ⟨grown, impossible | shown⟩ := deposited
          · cases impossible
          · cases outcome with
            | returned value => exact ⟨grown, Or.inr shown⟩
            | raised error => exact grown
            | crashed => exact grown

theorem System.Guarded.step (lawful : parts.Lawful) (guarded : system.Guarded start)
    (step : Step parts) : (system.step step).Guarded start := by
  cases system with
  | down log =>
      cases step with
      | start boot deposits => exact guarded_create deposits guarded
      | cycle => exact guarded
      | emergencyStop => exact guarded
      | other part _ => exact guarded
      | exit => exact guarded
  | up app =>
      cases step with
      | start boot _ => exact guarded
      | cycle => exact guarded_ofEnd_of_keeps (keeps_runOneCycle lawful) guarded
      | emergencyStop => exact guarded_ofEnd (ends_emergencyStop lawful guarded)
      | other part acts => exact guarded_ofEnd_of_keeps (keeps_onEngine acts) guarded
      | exit => exact guarded.1

theorem System.Guarded.run (lawful : parts.Lawful) (guarded : system.Guarded start)
    (steps : List (Step parts)) : (system.run steps).Guarded start := by
  induction steps generalizing system with
  | nil => exact guarded
  | cons step steps ih => exact ih (guarded.step lawful step)

theorem System.Guarded.extends (guarded : system.Guarded start) : start.Extends system.log := by
  cases system with
  | down log => exact guarded
  | up app => exact guarded.1

theorem Guarded.refuses (guarded : Guarded start app)
    (kill : KillRecorded app.engine.log defaultMachineId) :
    runOneCycle parts app =
      (.raised (.emergencyStopActive (stopMessage app.engine.machine.currentState)), app) := by
  have stopped : app.isStopped = true := by
    unfold AppState.isStopped isStoppedState
    obtain ⟨_, set | ⟨_, shown⟩⟩ := guarded
    · rw [set, Bool.true_or]
    · rcases shown kill with isKill | isStopped
      · rw [isKill]
        simp
      · rw [isStopped]
        simp
  rw [runOneCycle, bind_returned (rfl : get app = (.returned app, app)), stopped]
  rfl

/-- Once a kill is recorded, no process on the store runs a cycle: each call is refused
and changes nothing.  A boundary that was revoked signs nothing, whatever is called. -/
theorem run_staysStopped (lawful : parts.Lawful) (log : Log Stored)
    (earlier later : List (Step parts)) :
    let before := System.run (.down log) earlier
    let final := before.run later
    (KillRecorded before.log defaultMachineId → ∀ app, final = .up app →
      runOneCycle parts app =
        (.raised (.emergencyStopActive (stopMessage app.engine.machine.currentState)), app)) ∧
    ∀ (boundary : SigningBoundary Keys) (calls : List SigningBoundary.Call) (ref : String)
      (purpose : SigningPurpose) (message : Bytes),
      ((boundary.revokeAll parts.backend).1 = .ok () →
        ∃ error, ((boundary.revokeAll parts.backend).2.run parts.backend calls).sign parts.backend
          ref purpose message = .error error) ∧
      ((boundary.revoke parts.backend ref).1 = .ok () →
        ∃ error, ((boundary.revoke parts.backend ref).2.run parts.backend calls).sign parts.backend
          ref purpose message = .error error) := by
  intro before final
  refine ⟨?_, SigningBoundary.signs_nothing parts.backend⟩
  intro kill app isUp
  have fromStart : before.Guarded log := by
    have initially : System.Guarded log (.down log : System Stored Keys Rest Snapshot) :=
      Ledger.Extends.refl log
    exact initially.run lawful earlier
  have fromBefore : before.Guarded before.log := by
    cases same : before with
    | down last => exact Ledger.Extends.refl last
    | up app =>
        rw [same] at fromStart
        exact ⟨Ledger.Extends.refl _, fromStart.2⟩
  have guarded : final.Guarded before.log := fromBefore.run lawful later
  have grown : before.log.Extends final.log := guarded.extends
  rw [isUp] at guarded grown
  exact Guarded.refuses guarded (kill.mono grown)

end

section

variable {Keys Snapshot : Type}

/-- An engine whose rest are the managers and the accounting, on its log and its machine. -/
abbrev Managed (Keys : Type) : Type :=
  EngineState (AccountingSync.Stored ℚ) Keys (AccountingSync.World ℚ)

def managers (state : Managed Keys) : AccountingSync.World ℚ :=
  { state.rest with
    orders := { state.rest.orders with log := state.log, machine := state.machine } }

def putManagers (world : AccountingSync.World ℚ) (state : Managed Keys) : Managed Keys :=
  { state with log := world.orders.log, machine := world.orders.machine, rest := world }

def onManagers {Value : Type} (operation : AccountingSync.Operation ℚ Value) :
    Process (Managed Keys) CycleError Value :=
  Process.focus managers putManagers (fun _ => .other "managers") operation

def placedId (placed : Option (OrderManager.OrderSnapshot ℚ)) : AccountingSync.Operation ℚ String :=
  match placed with
  | some order => return order.clientOrderId
  | none => Process.raise (.orders (.orderNotFound ""))

def levelsOf (execution : ExecutionResult) : AccountingSync.Execution ℚ :=
  { clientOrderId := execution.clientOrderId
    levels := some
      { entryPrice := execution.tradeRequest.entryPrice
        stopPrice := execution.tradeRequest.stopPrice } }

/-- The parts with the order manager and the accounting as they are modelled; the venue
answers with the fills and the marks. -/
def Parts.withManagers
    (parts : Parts (AccountingSync.Stored ℚ) Keys (AccountingSync.World ℚ) Snapshot)
    (setup : AccountingSync.Setup ℚ)
    (fetched : Except ExchangeAdapter.CallError (List (ExchangeAdapter.Fill ℚ)))
    (marks : ExchangeAdapter.Symbol → Except ExchangeAdapter.CallError ℚ)
    (noteText : AccountingSync.Note ℚ → String) :
    Parts (AccountingSync.Stored ℚ) Keys (AccountingSync.World ℚ) Snapshot :=
  { parts with
    engine :=
      { parts.engine with
        placeOrder := fun arguments => onManagers do
          let placed ← AccountingSync.orders (OrderManager.placeOrder setup.omId arguments)
          placedId placed }
    accounting := some
      { sync := onManagers do
          let notes ← AccountingSync.sync setup fetched
          return notes.map noteText
        updateMarks := onManagers (AccountingSync.updateMarks setup marks)
        recordExecutionLevels := fun executions =>
          onManagers (AccountingSync.recordExecutionLevels (executions.map levelsOf)) }
    cancelAll := onManagers (AccountingSync.orders (OrderManager.cancelAll setup.omId none)) }

private theorem Closed.apart {kept : Log (AccountingSync.Stored ℚ) → Machine → Prop}
    (closed : Closed kept) {log : Log (AccountingSync.Stored ℚ)} {machine : Machine}
    (eventType : EventType) {payload : AccountingSync.Stored ℚ} (key : Option String) (now : String)
    (other : payload.sourceTag ≠ eventSourceTag) (holds : kept log machine) :
    kept (log.append eventType payload key now).2 machine := by
  refine closed.append log machine { eventType, payload, key, now, foreign := ?_ } holds
  intro event same
  unfold ownPayload?
  rw [same]
  cases payload with
  | machine payload => exact absurd rfl other
  | _ => rfl

private theorem Closed.steady {kept : Log (AccountingSync.Stored ℚ) → Machine → Prop}
    (closed : Closed kept) (portfolioId : String) :
    AccountingSync.Steady portfolioId fun seen : AccountingSync.Seen ℚ => kept seen.1 seen.2.1 := by
  refine
    { append := fun _ _ eventType _ key now holds apart _ =>
        closed.apart eventType key now apart.payload holds
      transition := fun log machine _ call holds => closed.transition log machine call holds
      portfolio := ?_ }
  intro call world holds
  unfold AccountingSync.portfolio
  rw [focus_state]
  have appends : (PortfolioManager.journal portfolioId : Journal (AccountingSync.Stored ℚ)
      (PortfolioManager.Payload ℚ) (PortfolioManager.Memory ℚ) _ _).Closed
        fun log => kept log world.orders.machine :=
    fun _ _ _ now before => closed.apart _ _ now
      (show PortfolioManager.eventSourceTag ≠ eventSourceTag by decide) before
  exact call.keeps_operation appends world.portfolioHost holds

private theorem lawful_onManagers {Value : Type} (portfolioId : String)
    {operation : AccountingSync.Operation ℚ Value}
    (keeps : ∀ {kept : AccountingSync.Seen ℚ → Prop}, AccountingSync.Steady portfolioId kept →
      Keeps (fun world => kept world.seen) operation) :
    Lawful (onManagers operation : Process (Managed Keys) CycleError Value) := by
  intro kept closed state holds
  unfold onManagers
  rw [focus_state]
  exact keeps (closed.steady portfolioId) (managers state) holds

/-- The order manager and the accounting reach the log and the machine through their
operations alone. -/
theorem Parts.Lawful.withManagers
    {parts : Parts (AccountingSync.Stored ℚ) Keys (AccountingSync.World ℚ) Snapshot}
    (lawful : parts.Lawful) (setup : AccountingSync.Setup ℚ)
    (fetched : Except ExchangeAdapter.CallError (List (ExchangeAdapter.Fill ℚ)))
    (marks : ExchangeAdapter.Symbol → Except ExchangeAdapter.CallError ℚ)
    (noteText : AccountingSync.Note ℚ → String) :
    (parts.withManagers setup fetched marks noteText).Lawful := by
  have places : ∀ arguments, App.Lawful ((parts.withManagers setup fetched marks
      noteText).engine.placeOrder arguments) := by
    intro arguments
    refine lawful_onManagers setup.portfolioId fun steady => keeps_bind
      (AccountingSync.keeps_orders steady fun _ unaffected =>
        OrderManager.keeps_placeOrder unaffected arguments) fun placed => ?_
    cases placed with
    | some order => exact keeps_pure _ _
    | none => exact keeps_raise _ _
  refine
    { engine := fun kept closed => (lawful.engine kept closed).trading _
        (fun arguments => places arguments kept closed) (lawful.engine kept closed).onExecution
      accounting := ?_
      now := lawful.now
      cancelAll := ?_
      revokeSigner := lawful.revokeSigner
      capture := lawful.capture
      cheapSnapshot := lawful.cheapSnapshot }
  · intro accounting member
    cases member
    exact
      { sync := lawful_onManagers setup.portfolioId fun steady =>
          keeps_bind (AccountingSync.keeps_sync steady fetched) fun _ => keeps_pure _ _
        updateMarks := lawful_onManagers setup.portfolioId fun steady =>
          AccountingSync.keeps_updateMarks steady marks
        recordExecutionLevels := fun executions => lawful_onManagers setup.portfolioId fun steady =>
          AccountingSync.keeps_recordExecutionLevels steady _ }
  · exact lawful_onManagers setup.portfolioId fun steady =>
      AccountingSync.keeps_orders steady fun _ unaffected =>
        OrderManager.keeps_cancelAll unaffected none

end

abbrev Keyring : Type := Dict String Bytes

/-- An engine that trades nothing, on a store whose appends raise after they have written. -/
def quietParts : Parts (AccountingSync.Stored ℚ) Keyring (AccountingSync.World ℚ) Unit :=
  { engine := idleEngine _
    «universe» := []
    inputs := entryInputs
    accounting := none
    now := pure "t"
    cancelAll := pure []
    backend := environmentHmac fun _ message => message
    revokeSigner := pure ()
    appendFate := fun _ => .failsLate { message := "fsync" }
    capture := fun _ => pure ()
    cheapSnapshot := fun _ => pure ()
    describe := fun _ => "" }

def managedParts : Parts (AccountingSync.Stored ℚ) Keyring (AccountingSync.World ℚ) Unit :=
  quietParts.withManagers AccountingSync.mainSetup (.ok []) (fun _ => .ok 100) fun _ => ""

def managedBoot : Boot (AccountingSync.Stored ℚ) Keyring (AccountingSync.World ℚ) :=
  { build := fun _ => some
      ({ engineVersion := "1.0.0"
         exchangeName := "hyperliquid"
         expectedRefs := ["hyperliquid_signing_key_v1"]
         keys := [("hyperliquid_signing_key_v1", [1])]
         revoked := [] },
       (AccountingSync.System.start AccountingSync.mainSetup OrderManager.Memory.initial
         { machineId := defaultMachineId, currentState := .initializing }
         fun _ => AccountingSync.acceptedAt "t").world)
    deposit := pure () }

private theorem quietParts_lawful : quietParts.Lawful :=
  { engine := fun _ _ => idleEngine_keeps _
    accounting := fun accounting member => by cases member
    now := fun _ _ => keeps_pure _ "t"
    cancelAll := fun _ _ => keeps_pure _ []
    revokeSigner := fun _ _ => keeps_pure _ ()
    capture := fun _ _ _ => keeps_pure _ ()
    cheapSnapshot := fun _ _ _ => keeps_pure _ () }

private theorem managedParts_lawful : managedParts.Lawful :=
  quietParts_lawful.withManagers _ _ _ _

private theorem managedBoot_lawful : Lawful managedBoot.deposit := fun _ _ => keeps_pure _ ()

/-- The machine of the stopped process has not seen the kill, and the next process has. -/
theorem run_staysStopped_lateAppend :
    let before : System (AccountingSync.Stored ℚ) Keyring (AccountingSync.World ℚ) Unit :=
      System.run (.down Ledger.empty)
        ([.start managedBoot managedBoot_lawful, .emergencyStop] : List (Step managedParts))
    let final := before.run
      ([.cycle, .exit, .start managedBoot managedBoot_lawful] : List (Step managedParts))
    KillRecorded before.log defaultMachineId ∧
      ∃ app, final = .up app ∧ runOneCycle managedParts app =
        (.raised (.emergencyStopActive (stopMessage app.engine.machine.currentState)), app) := by
  intro before final
  have stays := (run_staysStopped managedParts_lawful Ledger.empty
    [.start managedBoot managedBoot_lawful, .emergencyStop]
    [.cycle, .exit, .start managedBoot managedBoot_lawful]).1
  have kill : KillRecorded before.log defaultMachineId :=
    ⟨_, List.mem_cons_of_mem _ (List.mem_singleton_self _), _, rfl, rfl⟩
  exact ⟨kill, _, rfl, stays kill _ rfl⟩

end TurtleExecution.App

/-
The application: one engine, and the latest outcome of its cycles.

A cycle is refused while an emergency stop is in effect.  An emergency stop cancels,
revokes and records, in this order; what the calls raise is caught where the
application catches it.
-/

import TurtleExecution.SecretsBoundary.Boundary
import TurtleExecution.TradingSystem.Cycle

set_option autoImplicit false

namespace TurtleExecution.App

open SharedStore TradingSystem SecretsBoundary
open ExecutionStateMachine (Machine TransitionCall)

/-- What an engine holds: the log, the state machine, the boundary and all the rest. -/
structure EngineState (Stored Keys Rest : Type) where
  log : Log Stored
  machine : Machine
  boundary : SigningBoundary Keys
  rest : Rest

structure AppState (Stored Keys Rest Snapshot : Type) where
  engine : EngineState Stored Keys Rest
  emergencyStopped : Bool
  lastError : Option String
  lastCycle : Option CycleResult
  lastCycleCompletedAtUtc : Option String
  cyclesRun : Nat
  latestSnapshot : Option Snapshot

inductive AppError
  | emergencyStopActive (message : String)
  | cycle (error : CycleError)

structure Accounting (State : Type) where
  sync : Process State CycleError (List String)
  updateMarks : Process State CycleError Unit
  recordExecutionLevels : List ExecutionResult → Process State CycleError Unit

inductive AppendFate
  | completes
  | fails (failure : StoreFailure)
  | failsLate (failure : StoreFailure)
  | crashes
  | crashesLate

/-- What an application is built from, and what its environment does. -/
structure Parts (Stored Keys Rest Snapshot : Type) where
  engine : Engine (EngineState Stored Keys Rest)
  «universe» : List ExchangeAdapter.Symbol
  inputs : ConstructionInputs
  accounting : Option (Accounting (EngineState Stored Keys Rest))
  now : Process (EngineState Stored Keys Rest) CycleError String
  cancelAll : Process (EngineState Stored Keys Rest) CycleError
    (List (OrderManager.OrderSnapshot ℚ))
  backend : Backend Keys
  /-- `wallet_signer.revoke()`, where there is a signer that can. -/
  revokeSigner : Process (EngineState Stored Keys Rest) CycleError Unit
  appendFate : EngineState Stored Keys Rest → AppendFate
  capture : AppState Stored Keys Rest Snapshot →
    Process (EngineState Stored Keys Rest) CycleError Snapshot
  cheapSnapshot : AppState Stored Keys Rest Snapshot →
    Process (EngineState Stored Keys Rest) CycleError Snapshot
  describe : CycleError → String

def isStoppedState (state : ExecutionStateMachine.State) : Bool :=
  state = .emergencyKill || state = .stopped

section

variable {Stored Keys Rest Snapshot : Type}

def AppState.isStopped (app : AppState Stored Keys Rest Snapshot) : Bool :=
  app.emergencyStopped || isStoppedState app.engine.machine.currentState

def onEngine {Value : Type} (part : Process (EngineState Stored Keys Rest) CycleError Value) :
    Process (AppState Stored Keys Rest Snapshot) AppError Value :=
  Process.focus AppState.engine (fun engine app => { app with engine }) AppError.cycle part

variable (parts : Parts Stored Keys Rest Snapshot)

/-- The engine with the state of its machine, and the hook on every execution. -/
def Parts.cycleEngine : Engine (EngineState Stored Keys Rest) :=
  { parts.engine with
    currentState := fun state => state.machine.currentState
    onExecution := fun execution =>
      match parts.accounting with
      | none => pure ()
      | some accounting => accounting.recordExecutionLevels [execution] }

def Parts.cycleInputs (now : String) : ConstructionInputs :=
  { parts.inputs with correlationInfo := { entries := [], asOfUtc := now } }

/-- The books are brought up to date before the cycle, if the engine is started. -/
def syncBefore : Process (EngineState Stored Keys Rest) CycleError (List String) :=
  match parts.accounting with
  | none => return []
  | some accounting => do
      let state ← Process.get
      match parts.engine.isStarted state with
      | false => return []
      | true => do
          let notes ← accounting.sync
          accounting.updateMarks
          return notes

def syncAfter (result : CycleResult) :
    Process (EngineState Stored Keys Rest) CycleError (List String) :=
  match parts.accounting with
  | none => return []
  | some accounting => do
      accounting.recordExecutionLevels result.executions
      accounting.sync

/-- The guarded part of a cycle: its result, and the notes of the accounting. -/
def cycleBody : Process (EngineState Stored Keys Rest) CycleError (CycleResult × List String) := do
  let before ← syncBefore parts
  let now ← parts.now
  let result ← runCycle parts.cycleEngine parts.«universe» (parts.cycleInputs now)
  let after ← syncAfter parts result
  return (result, before ++ after)

/-- `last_error` is set, and the error raised again. -/
def noteError {Value : Type} :
    AppError → Process (AppState Stored Keys Rest Snapshot) AppError Value
  | .cycle error => do
      Process.modify fun app => { app with lastError := some (parts.describe error) }
      Process.raise (.cycle error)
  | .emergencyStopActive message => Process.raise (.emergencyStopActive message)

def recordNotes (notes : List String) (app : AppState Stored Keys Rest Snapshot) :
    AppState Stored Keys Rest Snapshot :=
  if notes.isEmpty then app
  else { app with lastError := some ("accounting: " ++ String.intercalate " | " notes) }

def refreshSnapshot : Process (AppState Stored Keys Rest Snapshot) AppError Unit :=
  Process.tryCatch
    (do
      let app ← Process.get
      let snapshot ← onEngine (parts.capture app)
      Process.modify fun app => { app with latestSnapshot := some snapshot })
    fun
      | .cycle error => Process.modify fun app =>
          { app with lastError := some ("snapshot refresh failed: " ++ parts.describe error) }
      | .emergencyStopActive message => Process.raise (.emergencyStopActive message)

def stopMessage (state : ExecutionStateMachine.State) : String :=
  "emergency stop is active (signing revoked, execution state " ++ state.value ++
    "): refusing to run a trading cycle. Resuming requires a fresh deployment (new event store + " ++
    "signing config)."

def runAccepted : Process (AppState Stored Keys Rest Snapshot) AppError CycleResult := do
  let (result, notes) ← Process.tryCatch (onEngine (cycleBody parts)) (noteError parts)
  let completedAt ← onEngine parts.now
  Process.modify fun app =>
    { recordNotes notes app with
      lastCycle := some result
      lastCycleCompletedAtUtc := some completedAt
      cyclesRun := app.cyclesRun + 1 }
  refreshSnapshot parts
  return result

def runOneCycle : Process (AppState Stored Keys Rest Snapshot) AppError CycleResult := do
  let app ← Process.get
  match app.isStopped with
  | true => Process.raise (.emergencyStopActive (stopMessage app.engine.machine.currentState))
  | false => runAccepted parts

def noteStopError {Value : Type} (text : String → String) (value : Value) :
    AppError → Process (AppState Stored Keys Rest Snapshot) AppError Value
  | .cycle error => do
      Process.modify fun app => { app with lastError := some (text (parts.describe error)) }
      return value
  | .emergencyStopActive message => Process.raise (.emergencyStopActive message)

/-- Resting orders are cancelled on the first stop of a started engine. -/
def cancelResting : Process (AppState Stored Keys Rest Snapshot) AppError
    (List (OrderManager.OrderSnapshot ℚ)) := do
  let app ← Process.get
  match !app.isStopped && parts.engine.isStarted app.engine with
  | false => return []
  | true =>
      Process.tryCatch (onEngine parts.cancelAll) (noteStopError parts
        (fun description => "emergency stop: cancel_all before revocation failed (" ++
          description ++ ") -- resting venue orders may remain live and are now unmanageable by " ++
          "this engine; cancel them at the venue") [])

def revokeAll : Process (EngineState Stored Keys Rest) CycleError Unit := fun state =>
  match state.boundary.revokeAll parts.backend with
  | (.ok (), boundary) => (.returned (), { state with boundary })
  | (.error _, boundary) => (.raised (.other "signing backend"), { state with boundary })

variable [Source Stored ExecutionStateMachine.Payload]

def killCall (now : String) (failure : Option StoreFailure) : TransitionCall :=
  { trigger := .emergencyKillTriggered
    requestId := "app:emergency-stop:" ++ now
    context := some [(.str "source", .str "app_runtime"),
      (.str "reason", .str "operator_emergency_stop")]
    now
    failure }

def answered (state : EngineState Stored Keys Rest) :
    Except ExecutionStateMachine.MachineError ExecutionStateMachine.TransitionResult ×
      Log Stored × Machine →
    Outcome CycleError Unit × EngineState Stored Keys Rest
  | (.ok _, log, machine) => (.returned (), { state with log, machine })
  | (.error _, log, machine) => (.raised (.other "transition"), { state with log, machine })

/-- `esm.transition(EMERGENCY_KILL_TRIGGERED, ...)`; an append that ends late has added
its event, but has not changed the machine. -/
def recordKill (now : String) : Process (EngineState Stored Keys Rest) CycleError Unit :=
  fun state =>
    let completed := ExecutionStateMachine.transition state.log state.machine (killCall now none)
    match parts.appendFate state with
    | .completes => answered state completed
    | .fails failure => answered state
        (ExecutionStateMachine.transition state.log state.machine (killCall now (some failure)))
    | .failsLate _ =>
        if completed.2.1.entries.length = state.log.entries.length then answered state completed
        else (.raised (.other "append"), { state with log := completed.2.1 })
    | .crashes => (.crashed, state)
    | .crashesLate => (.crashed, { state with log := completed.2.1 })

def propagateKill : Process (AppState Stored Keys Rest Snapshot) AppError Unit := do
  let app ← Process.get
  match isStoppedState app.engine.machine.currentState with
  | true => return ()
  | false =>
      Process.tryCatch (onEngine (parts.now >>= recordKill parts)) (noteStopError parts
        (fun description => "emergency stop: signing revoked, but recording EMERGENCY_KILL " ++
          "failed: " ++ description) ())

def emergencyStop : Process (AppState Stored Keys Rest Snapshot) AppError
    (List (OrderManager.OrderSnapshot ℚ)) := do
  let cancelled ← cancelResting parts
  onEngine (revokeAll parts)
  onEngine parts.revokeSigner
  propagateKill parts
  Process.modify fun app => { app with emergencyStopped := true }
  let app ← Process.get
  let snapshot ← onEngine (parts.cheapSnapshot app)
  Process.modify fun app => { app with latestSnapshot := some snapshot }
  return cancelled

def defaultMachineId : String := "default"

/-- What the start of a process makes of the settings: the parts of the engine beside
the machine, unless they cannot be built, and the deposit that seeds the portfolio. -/
structure Boot (Stored Keys Rest : Type) where
  build : Log Stored → Option (SigningBoundary Keys × Rest)
  deposit : Process (EngineState Stored Keys Rest) CycleError Unit

/-- `AppState.create`; without a state, what was raised ends the process. -/
def create (boot : Boot Stored Keys Rest) (log : Log Stored) :
    Option (AppState Stored Keys Rest Snapshot) × Log Stored :=
  match ExecutionStateMachine.construct log defaultMachineId, boot.build log with
  | .ok machine, some (boundary, rest) =>
      match boot.deposit { log, machine, boundary, rest } with
      | (.returned (), engine) =>
          (some
            { engine
              emergencyStopped := isStoppedState engine.machine.currentState
              lastError := none
              lastCycle := none
              lastCycleCompletedAtUtc := none
              cyclesRun := 0
              latestSnapshot := none }, engine.log)
      | (_, engine) => (none, engine.log)
  | _, _ => (none, log)

end

end TurtleExecution.App

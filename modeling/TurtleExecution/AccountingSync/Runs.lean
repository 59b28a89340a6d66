/-
Runs of the accounting synchronization with the managers that it drives.

The portfolio manager stays sound in every run: the other modules leave its part of
the store alone, and its own operations record what they apply.
-/

import TurtleExecution.AccountingSync.Sharing

set_option autoImplicit false

namespace TurtleExecution.AccountingSync

open ExchangeAdapter SharedStore Process

section

variable {Number : Type} [LedgerArithmetic Number]

/-- The memory is sound, and its marks are those of the last mark update in the log. -/
structure MarksSound (portfolioId : String) (log : Log (Stored Number))
    (memory : PortfolioManager.Memory Number) : Prop where
  sound : PortfolioManager.Sound portfolioId log memory
  marks : memory.marks = PortfolioManager.lastMarks portfolioId log

def PortfolioReady (portfolioId : String) (world : World Number) : Prop :=
  MarksSound portfolioId world.log world.portfolio

section

variable {portfolioId : String} {Value : Type}

section

variable {kept : Seen Number → Prop}

theorem keeps_orders (steady : Steady portfolioId kept) {omId : String}
    {operation : OrderManager.Operation (Stored Number) Number Value}
    (keeps : ∀ shared : Log (Stored Number) × ExecutionStateMachine.Machine → Prop,
      OrderManager.Unaffected Number omId shared →
        Keeps (fun world : OrderManager.World (Stored Number) Number => shared world.shared)
          operation) :
    Keeps (fun world => kept world.seen) (orders operation) := by
  intro world holds
  unfold orders
  rw [focus_state]
  exact keeps _ (steady.orders omId world.portfolio) world.orders holds

private theorem keeps_positions (steady : Steady portfolioId kept) {pmId : String}
    {operation : PositionManager.Operation (Stored Number) Number Value}
    (keeps : ∀ closed : Log (Stored Number) → Prop,
      (PositionManager.journal pmId : Journal (Stored Number) (PositionManager.Payload Number)
        (PositionManager.Memory Number) _ _).Closed closed →
      Keeps (fun host : Host (Stored Number) (PositionManager.Memory Number) => closed host.log)
        operation) :
    Keeps (fun world => kept world.seen) (positions operation) := by
  intro world holds
  unfold positions
  rw [focus_state]
  exact keeps _ (steady.positions pmId (world.orders.machine, world.portfolio)) world.positionsHost
    holds

private theorem keeps_trackedPosition (steady : Steady portfolioId kept) (positionId : String) :
    Keeps (fun world : World Number => kept world.seen)
      (positions (PositionManager.trackedPosition positionId)) :=
  @keeps_positions _ _ _ _ _ steady "" _ fun closed _ =>
    (PositionManager.preserves_trackedPosition_log positionId).keeps closed

private theorem keeps_append (steady : Steady portfolioId kept) (clientOrderId : String)
    (entry : Entry Number) : Keeps (fun world => kept world.seen) (append clientOrderId entry) := by
  intro world holds
  unfold append
  rw [focus_state]
  have appends : Keeps (fun host : Host (Stored Number) (Books Number) =>
      kept (host.log, world.orders.machine, world.portfolio)) (appendEntry clientOrderId entry) := by
    refine keeps_bind (Journal.keeps_consult fun log => kept (log, _)) fun answer => ?_
    cases answer.appendFailure with
    | some failure => exact keeps_raise _ _
    | none =>
        intro host before
        exact steady.accounting before entry entry.action clientOrderId _
  exact appends world.booksHost holds

omit [LedgerArithmetic Number] in
private theorem keeps_returnedSnapshot (positionId : String)
    (snapshot : Option (PositionManager.PositionSnapshot Number)) :
    Keeps (fun world => kept world.seen) (returnedSnapshot positionId snapshot) := by
  cases snapshot with
  | some snapshot => exact keeps_pure _ _
  | none => exact keeps_raise _ _

theorem keeps_recordExecutionLevels (steady : Steady portfolioId kept)
    (executions : List (Execution Number)) :
    Keeps (fun world => kept world.seen) (recordExecutionLevels executions) := by
  induction executions with
  | nil => exact keeps_pure _ _
  | cons execution rest ih =>
      unfold recordExecutionLevels
      cases execution.levels with
      | none => exact ih
      | some levels =>
          refine keeps_bind (fun _ holds => holds) fun books => ?_
          cases books.levelsByCid.get? execution.clientOrderId with
          | some known => exact ih
          | none => exact keeps_bind (keeps_append steady _ _) fun _ => ih

private theorem keeps_openPosition (steady : Steady portfolioId kept) (setup : Setup Number)
    (fill : Fill Number) (intendedQuantity : Number) :
    Keeps (fun world => kept world.seen) (openPosition setup fill intendedQuantity) := by
  refine keeps_bind (fun _ holds => holds) fun known => ?_
  split
  · exact keeps_bind (fun _ holds => holds) fun _ => keeps_pure _ _
  · refine keeps_bind (keeps_ofExcept _ _) fun difference => keeps_bind (keeps_ofExcept _ _)
      fun stopD => keeps_bind (keeps_ofExcept _ _) fun degenerate => ?_
    split
    · exact keeps_bind (fun _ holds => holds) fun _ => keeps_pure _ _
    · refine keeps_bind (keeps_ofExcept _ _) fun levels => keeps_bind ?_ fun created =>
        keeps_bind (keeps_returnedSnapshot _ _) fun snapshot =>
          keeps_bind (keeps_append steady _ _) fun _ => keeps_pure _ _
      exact keeps_positions steady fun kept closed => PositionManager.keeps_createPosition closed _

private theorem keeps_bookMargin {setup : Setup Number} (steady : Steady setup.portfolioId kept)
    (positionId : String) (fill : Fill Number)
    (margin : Number) :
    Keeps (fun world => kept world.seen) (bookMargin setup positionId fill margin) := by
  refine keeps_tryCatch ?_ fun error => ?_
  · exact keeps_bind (steady.portfolio (.reserveMargin positionId margin fill.fillId)) fun _ =>
      keeps_bind (steady.portfolio (.allocateMargin positionId margin fill.fillId)) fun _ =>
        keeps_pure _ _
  · split
    · split
      · exact fun _ holds => holds
      · exact keeps_raise _ _
    · exact keeps_raise _ _

private theorem keeps_bookEntry {setup : Setup Number} (steady : Steady setup.portfolioId kept)
    (fill : Fill Number)
    (intendedQuantity : Number) :
    Keeps (fun world => kept world.seen) (bookEntry setup fill intendedQuantity) := by
  have ledger : ∀ positionId, Keeps (fun world => kept world.seen)
      (bookEntryLedger setup positionId fill) := by
    intro positionId
    refine keeps_bind (keeps_ofExcept _ _) fun notional => keeps_bind (keeps_ofExcept _ _)
      fun margin => keeps_bind (keeps_bookMargin steady _ _ _) fun _ =>
        keeps_bind (keeps_ofExcept _ _) fun charged => ?_
    split
    · exact keeps_bind (steady.portfolio (.applyFee positionId fill.fillId fill.fee)) fun _ =>
        keeps_pure _ _
    · exact keeps_pure _ _
  refine keeps_bind (keeps_bind (fun _ holds => holds) fun known => ?_) fun positionId => ?_
  · split
    · exact keeps_pure _ _
    · exact keeps_openPosition steady setup fill intendedQuantity
  cases positionId with
  | none => exact keeps_pure _ _
  | some positionId =>
      refine keeps_bind (keeps_trackedPosition steady _) fun before => keeps_bind ?_ fun entered =>
        keeps_bind (keeps_returnedSnapshot _ _) fun snapshot => ?_
      · exact keeps_positions steady fun kept closed =>
          PositionManager.keeps_recordEntryFill closed positionId fill
      split
      · refine keeps_bind (keeps_ofExcept _ _) fun unchanged => ?_
        split
        · exact keeps_pure _ _
        · exact fun _ holds => holds
      · exact ledger positionId

private theorem keeps_bookExitFrom {setup : Setup Number} (steady : Steady setup.portfolioId kept)
    (positionId : String) (fill : Fill Number) :
    Keeps (fun world => kept world.seen) (bookExitFrom setup positionId fill) := by
  refine keeps_bind (keeps_trackedPosition steady _) fun position => keeps_bind ?_ fun _ =>
    keeps_bind ?_ fun _ => ?_
  · unfold bookExitPnl
    split
    · exact keeps_pure _ _
    · exact keeps_bind (keeps_ofExcept _ _) fun realized =>
        keeps_bind (steady.portfolio (.applyRealizedPnl positionId fill.fillId realized)) fun _ =>
          keeps_pure _ _
  · refine keeps_bind (fun _ holds => holds) fun known => ?_
    split
    · exact keeps_pure _ _
    · exact keeps_bind (fun _ holds => holds) fun _ => keeps_bind (keeps_ofExcept _ _) fun _ =>
        fun _ holds => holds
  split
  · exact keeps_pure _ _
  · refine keeps_bind (fun _ holds => holds) fun counted => keeps_bind (keeps_ofExcept _ _)
      fun partialClose => ?_
    split
    · exact fun _ holds => holds
    · refine keeps_bind (keeps_positions steady fun kept closed =>
        PositionManager.keeps_recordExit closed positionId fill _ _) fun _ =>
          keeps_bind (steady.portfolio (.releaseMargin positionId ("close:" ++ positionId))) fun _ =>
            keeps_pure _ _

private theorem keeps_bookExit {setup : Setup Number} (steady : Steady setup.portfolioId kept)
    (fill : Fill Number) :
    Keeps (fun world => kept world.seen) (bookExit setup fill) := by
  refine keeps_bind (keeps_bind (keeps_get _) fun world => ?_) fun positionId => ?_
  · split
    · exact keeps_pure _ _
    · refine keeps_bind (keeps_ofExcept _ _) fun found => ?_
      split
      · exact keeps_bind (fun _ holds => holds) fun _ => keeps_pure _ _
      · exact keeps_bind (keeps_append steady _ _) fun _ => keeps_pure _ _
  · cases positionId with
    | none => exact keeps_pure _ _
    | some positionId => exact keeps_bookExitFrom steady positionId fill

private theorem keeps_turn {setup : Setup Number} (steady : Steady setup.portfolioId kept)
    (fill : Fill Number) :
    Keeps (fun world => kept world.seen) (turn setup fill) := by
  refine keeps_tryCatch (keeps_bind (keeps_tryCatch ?_ fun error => ?_) fun known => ?_)
    fun error => ?_
  · refine keeps_bind (keeps_orders steady fun kept unaffected =>
      OrderManager.keeps_reportFill unaffected fill.clientOrderId fill) fun _ => keeps_pure _ _
  · split
    · exact keeps_bind (fun _ holds => holds) fun _ => keeps_pure _ _
    · exact keeps_raise _ _
  · split
    · refine keeps_bind (@keeps_orders _ _ _ _ _ steady setup.omId _ fun kept _ =>
        (OrderManager.preserves_trackedOrder OrderManager.World.shared fill.clientOrderId).keeps kept)
          fun order => ?_
      split
      · exact keeps_bookExit steady fill
      · exact keeps_bookEntry steady fill order.quantity
    · exact keeps_pure _ _
  · split
    · exact fun _ holds => holds
    · exact keeps_raise _ _

theorem keeps_sync {setup : Setup Number} (steady : Steady setup.portfolioId kept)
    (fetched : Except CallError (List (Fill Number))) :
    Keeps (fun world => kept world.seen) (sync setup fetched) := by
  have all : ∀ fills, Keeps (fun world => kept world.seen) (turns setup fills) := by
    intro fills
    induction fills with
    | nil => exact keeps_pure _ _
    | cons fill rest ih => exact keeps_bind (keeps_turn steady fill) fun _ => ih
  cases fetched with
  | error error => exact keeps_pure _ _
  | ok fills =>
      exact keeps_bind (fun _ holds => holds) fun _ => keeps_bind (all fills) fun _ =>
        keeps_bind (keeps_get _) fun _ => keeps_pure _ _

private theorem keeps_sumPositions (steady : Steady portfolioId kept)
    (marks : Symbol → Except CallError Number) (totals : Totals Number) (positionIds : List String) :
    Keeps (fun world => kept world.seen) (sumPositions marks totals positionIds) := by
  induction positionIds generalizing totals with
  | nil => exact keeps_pure _ _
  | cons positionId rest ih =>
      refine keeps_bind (keeps_trackedPosition steady _) fun position =>
        keeps_bind (keeps_ofExcept _ _) fun empty => ?_
      split
      · exact keeps_bind (keeps_ofExcept _ _) fun mark => keeps_bind (keeps_ofExcept _ _)
          fun totals => ih totals
      · exact ih totals

theorem keeps_updateMarks {setup : Setup Number} (steady : Steady setup.portfolioId kept)
    (marks : Symbol → Except CallError Number) :
    Keeps (fun world => kept world.seen) (updateMarks setup marks) := by
  refine keeps_bind (keeps_bind (keeps_get _) fun world => ?_) fun totals => ?_
  · have summed : ∀ idle : Bool, Keeps (fun world => kept world.seen)
        (if idle = true then pure none
        else do
          let totals ← sumPositions marks Totals.zero world.openPids
          return some totals : Operation Number (Option (Totals Number))) := by
      intro idle
      split
      · exact keeps_pure _ _
      · exact keeps_bind (keeps_sumPositions steady _ _ _) fun _ => keeps_pure _ _
    dsimp only
    split
    · exact keeps_bind (keeps_ofExcept _ _) summed
    · exact keeps_bind (keeps_pure _ _) summed
  · cases totals with
    | none => exact keeps_pure _ _
    | some totals =>
        exact keeps_bind (keeps_get _) fun world => keeps_bind (keeps_ofExcept _ _) fun equity =>
          keeps_bind (keeps_ofExcept _ _) fun heat =>
            keeps_bind (steady.portfolio (.updateMarks totals.unrealizedPnl totals.exposure heat _))
              fun _ => keeps_pure _ _

end

private theorem ready_portfolio (call : PortfolioManager.Call Number) :
    Keeps (PortfolioReady portfolioId) (portfolio (call.operation portfolioId)) := by
  intro world ready
  unfold portfolio
  rw [focus_state]
  have ends := PortfolioManager.Call.operation_spec (show PortfolioManager.Ready portfolioId
    world.portfolioHost from ready.sound) call
  let kept := fun after : Host (Stored Number) (PortfolioManager.Memory Number) =>
    PortfolioManager.Ready portfolioId after ∧
      after.memory.marks = PortfolioManager.lastMarks portfolioId after.log
  have unchanged : ∀ after : Host (Stored Number) (PortfolioManager.Memory Number),
      after.log = world.portfolioHost.log ∧ after.memory = world.portfolioHost.memory →
        kept after := by
    rintro after ⟨log, memory⟩
    change PortfolioManager.Sound portfolioId after.log after.memory ∧ _ = _
    rw [log, memory]
    exact ⟨ready.sound, ready.marks⟩
  -- An event that the manager applied is the last of its log, whatever applying it gave.
  have marked : ∀ (after : Host (Stored Number) (PortfolioManager.Memory Number))
      (event : Event (Stored Number)) result,
      event.eventId ∉ world.portfolioHost.memory.appliedEventIds →
      (PortfolioManager.journal portfolioId : Journal (Stored Number)
        (PortfolioManager.Payload Number) (PortfolioManager.Memory Number) _ _).own? event =
          some { pmId := portfolioId, entry := call.entry } →
      after.log.entries = world.portfolioHost.log.entries ++ [event] →
      world.portfolioHost.memory.applyEvent event { pmId := portfolioId, entry := call.entry } =
        (result, after.memory) →
      after.memory.marks = PortfolioManager.lastMarks portfolioId after.log := by
    intro after event result fresh own entries applied
    have marks := PortfolioManager.applyEvent_marks
      { pmId := portfolioId, entry := call.entry } fresh
    rw [applied] at marks
    rw [PortfolioManager.lastMarks_concat entries, own]
    exact marks.trans (congrArg _ ready.marks)
  have ended := (@ends_always_iff _ _ _ _ _ kept).mp (ends.mono ?_ ?_ unchanged)
  · exact { sound := ended.1, marks := ended.2 }
  · rintro value after (⟨rfl, _⟩ | ⟨_, readyAfter, event, snapshot, fresh, _, own, entries,
      applied⟩)
    · exact unchanged _ ⟨rfl, rfl⟩
    · exact ⟨readyAfter, marked after event _ fresh own entries applied⟩
  · rintro value after (same | ⟨_, readyAfter, event, error, fresh, own, entries, applied⟩)
    · exact unchanged after same
    · exact ⟨readyAfter, marked after event _ fresh own entries applied⟩

theorem steady_ready (portfolioId : String) :
    Steady portfolioId fun seen : Seen Number => MarksSound portfolioId seen.1 seen.2.2 :=
  { append := fun _ rest _ _ _ _ ready _ apart =>
      { sound := portfolio_belongs portfolioId rest.2 _ _ _ _ _ ready.sound apart
        marks := lastMarks_belongs portfolioId rest.2.marks _ _ _ _ _ ready.marks apart }
    transition := fun log machine memory call ready =>
      { sound := (portfolio_belongs portfolioId memory).transition (by decide) (by decide) log
          machine call ready.sound
        marks := (lastMarks_belongs portfolioId memory.marks).transition (by decide) (by decide) log
          machine call ready.marks }
    portfolio := ready_portfolio }

end

/-- An append by a module that is not modelled here, which leaves the portfolio manager's
part of the store alone. -/
structure Foreign (Number : Type) where
  eventType : EventType
  payload : Stored Number
  key : Option String
  now : String
  apart : Apart PortfolioManager.eventSourceTag payload key

inductive Step (Number : Type)
  | sync (fetched : Except CallError (List (Fill Number)))
  | recordExecutionLevels (executions : List (Execution Number))
  | updateMarks (marks : Symbol → Except CallError Number)
  | portfolio (call : PortfolioManager.Call Number)
  | orders (call : OrderManager.Call Number)
  | foreign (added : Foreign Number)
  | kill
  | restart (machine : ExecutionStateMachine.Machine) (sinceUtc : String)

structure System (Number : Type) where
  setup : Setup Number
  world : World Number
  alive : Bool

def System.perform {Value : Type} (system : System Number) (operation : Operation Number Value) :
    System Number :=
  if system.alive then
    match operation system.world with
    | (.crashed, world) => { system with world, alive := false }
    | (_, world) => { system with world }
  else system

/-- The managers and the synchronization are built from the store, or none of them is. -/
def World.rebuilt (setup : Setup Number) (world : World Number)
    (machine : ExecutionStateMachine.Machine) : Option (World Number) := do
  let memory ← (OrderManager.construct setup.omId world.log).toOption
  let positions ← (PositionManager.construct setup.positionsId world.log).toOption
  let portfolio ← (PortfolioManager.construct setup.portfolioId world.log).toOption
  return { orders := { world.orders with memory, machine }
           positions, portfolio
           books := construct world.log
           notes := [] }

def System.step (system : System Number) : Step Number → System Number
  | .sync fetched => system.perform (AccountingSync.sync system.setup fetched)
  | .recordExecutionLevels executions =>
      system.perform (AccountingSync.recordExecutionLevels executions)
  | .updateMarks marks => system.perform (AccountingSync.updateMarks system.setup marks)
  | .portfolio call =>
      system.perform (AccountingSync.portfolio (call.operation system.setup.portfolioId))
  | .orders call => system.perform (AccountingSync.orders (call.operation system.setup.omId))
  | .foreign added =>
      { system with
        world := { system.world with
          orders := { system.world.orders with
            log := (system.world.log.append added.eventType added.payload added.key
              added.now).2 } } }
  | .kill => { system with alive := false }
  | .restart machine sinceUtc =>
      match system.world.rebuilt system.setup machine with
      | some world =>
          { setup := { system.setup with portfolioSinceUtc := sinceUtc }, world, alive := true }
      | none => { system with alive := false }

def System.start (setup : Setup Number) (orders : OrderManager.Memory Number)
    (machine : ExecutionStateMachine.Machine) (environment : Nat → OrderManager.Answer Number) :
    System Number :=
  { setup
    world :=
      { orders :=
          { log := Ledger.empty, machine, memory := orders, handed := [], environment, clock := 0 }
        positions := PositionManager.Memory.initial
        portfolio := PortfolioManager.Memory.initial
        books := Books.initial
        notes := [] }
    alive := true }

theorem System.perform_keeps {Value : Type} {system : System Number}
    {operation : Operation Number Value}
    (keeps : Keeps (PortfolioReady system.setup.portfolioId) operation)
    (ready : PortfolioReady system.setup.portfolioId system.world) :
    PortfolioReady (system.perform operation).setup.portfolioId (system.perform operation).world := by
  have after := keeps system.world ready
  unfold System.perform
  split
  · rcases ran : operation system.world with ⟨outcome, world⟩
    rw [ran] at after
    cases outcome <;> exact after
  · exact ready

theorem System.step_ready {system : System Number}
    (ready : PortfolioReady system.setup.portfolioId system.world) (step : Step Number) :
    PortfolioReady (system.step step).setup.portfolioId (system.step step).world := by
  cases step with
  | sync fetched => exact System.perform_keeps (keeps_sync (steady_ready _) fetched) ready
  | recordExecutionLevels executions =>
      exact System.perform_keeps (keeps_recordExecutionLevels (steady_ready _) executions) ready
  | updateMarks marks => exact System.perform_keeps (keeps_updateMarks (steady_ready _) marks) ready
  | portfolio call => exact System.perform_keeps (ready_portfolio call) ready
  | orders call =>
      exact System.perform_keeps (keeps_orders (steady_ready _) fun kept unaffected =>
        OrderManager.Call.keeps_operation unaffected call) ready
  | foreign added =>
      exact
        { sound := portfolio_belongs system.setup.portfolioId system.world.portfolio _ _ _ _ _
            ready.sound added.apart
          marks := lastMarks_belongs system.setup.portfolioId system.world.portfolio.marks _ _ _ _ _
            ready.marks added.apart }
  | kill => exact ready
  | restart machine sinceUtc =>
      unfold System.step
      dsimp only
      cases rebuilt : system.world.rebuilt system.setup machine with
      | none => exact ready
      | some world =>
          unfold World.rebuilt at rebuilt
          obtain ⟨memory, _, rebuilt⟩ := Option.bind_eq_some_iff.mp rebuilt
          obtain ⟨positions, _, rebuilt⟩ := Option.bind_eq_some_iff.mp rebuilt
          obtain ⟨portfolio, constructed, rebuilt⟩ := Option.bind_eq_some_iff.mp rebuilt
          have same : portfolio = system.world.portfolio := by
            refine PortfolioManager.Sound.rebuilt ready.sound ?_
            cases result : (PortfolioManager.construct system.setup.portfolioId system.world.log :
              Except _ (PortfolioManager.Memory Number)) with
            | error error =>
                rw [result] at constructed
                cases constructed
            | ok known =>
                rw [result] at constructed
                cases constructed
                rfl
          cases rebuilt
          subst same
          exact { sound := ready.sound, marks := ready.marks }

theorem portfolioReady_run (setup : Setup Number) (orders : OrderManager.Memory Number)
    (machine : ExecutionStateMachine.Machine) (environment : Nat → OrderManager.Answer Number)
    (steps : List (Step Number)) :
    let final := steps.foldl System.step (System.start setup orders machine environment)
    PortfolioReady final.setup.portfolioId final.world := by
  have started : PortfolioReady setup.portfolioId
      (System.start setup orders machine environment).world :=
    { sound := PortfolioManager.sound_empty setup.portfolioId, marks := rfl }
  exact steps.foldlRecOn System.step started fun system ready step _ => system.step_ready ready step

end

end TurtleExecution.AccountingSync

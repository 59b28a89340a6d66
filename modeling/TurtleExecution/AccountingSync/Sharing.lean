/-
The modules that share one store leave each other's part of the log alone.

Every module writes under its own source tag, and a key begins with the tag of its
module.  A property of the log that belongs to one tag is kept by all the others.
-/

import TurtleExecution.AccountingSync.Sync
import TurtleExecution.ExecutionStateMachine.Runs
import TurtleExecution.OrderManager.Progress
import TurtleExecution.OrderManager.Sharing
import TurtleExecution.PortfolioManager.Balance
import TurtleExecution.PositionManager.Runs

set_option autoImplicit false

namespace TurtleExecution.AccountingSync

open Delimited ExchangeAdapter SharedStore Process

section

variable {Number : Type}

def Stored.sourceTag : Stored Number → String
  | .machine _ => ExecutionStateMachine.eventSourceTag
  | .order _ => OrderManager.eventSourceTag
  | .position _ => PositionManager.eventSourceTag
  | .portfolio _ => PortfolioManager.eventSourceTag
  | .accounting _ => eventSourceTag
  | .other source => source

def tags : List String :=
  [ExecutionStateMachine.eventSourceTag, OrderManager.eventSourceTag,
    PositionManager.eventSourceTag, PortfolioManager.eventSourceTag, eventSourceTag]

/-- The tags of the modules that do no more to the store than append. -/
def appendingTags : List String :=
  [OrderManager.eventSourceTag, PositionManager.eventSourceTag, eventSourceTag]

/-- An append of another module: neither its payload nor its key carries the tag. -/
structure Apart (tag : String) (payload : Stored Number) (key : Option String) : Prop where
  payload : payload.sourceTag ≠ tag
  key : ∀ rest, key ≠ some (tag ++ ":" ++ rest)

def BelongsTo (tag : String) (kept : Log (Stored Number) → Prop) : Prop :=
  ∀ log eventType payload key now, kept log → Apart tag payload key →
    kept (log.append eventType payload key now).2

private theorem colonFree_of_mem_tags {tag : String} (known : tag ∈ tags) : ColonFree tag := by
  have every : ∀ tag ∈ tags, ColonFree tag := by decide
  exact every tag known

private theorem apart_of_tags {tag other : String} (known : tag ∈ tags) (otherKnown : other ∈ tags)
    (different : other ≠ tag) {payload : Stored Number} (own : payload.sourceTag = other)
    (rest : String) : Apart tag payload (some (other ++ ":" ++ rest)) := by
  refine { payload := own ▸ different, key := ?_ }
  intro tail same
  exact different (append_colon_injective (colonFree_of_mem_tags otherKnown)
    (colonFree_of_mem_tags known) (Option.some.inj same)).1

private theorem machineKey_eq (machineId requestId : String) :
    ExecutionStateMachine.namespacedKey machineId requestId =
      ExecutionStateMachine.eventSourceTag ++ ":" ++ (toString machineId.length ++ ":" ++
        machineId ++ ":" ++ toString requestId.length ++ ":" ++ requestId) := by
  change ExecutionStateMachine.eventSourceTag ++ ":" ++ toString machineId.length ++ ":" ++
    machineId ++ ":" ++ toString requestId.length ++ ":" ++ requestId = _
  simp only [String.append_assoc]

private theorem ordersKey_eq (omId key : String) :
    OrderManager.namespacedKey omId key =
      OrderManager.eventSourceTag ++ ":" ++ (omId ++ ":" ++ key) := by
  simp only [OrderManager.namespacedKey, OrderManager.keyNamespace, String.append_assoc]

private theorem positionsKey_eq (pmId key : String) :
    PositionManager.namespacedKey pmId key =
      PositionManager.eventSourceTag ++ ":" ++ (pmId ++ ":" ++ key) := by
  simp only [PositionManager.namespacedKey, String.append_assoc]

private theorem portfolioKey_eq (pmId key : String) :
    PortfolioManager.namespacedKey pmId key =
      PortfolioManager.eventSourceTag ++ ":" ++ (pmId ++ ":" ++ key) := by
  simp only [PortfolioManager.namespacedKey, String.append_assoc]

private theorem recordKey_eq (action clientOrderId : String) :
    recordKey action clientOrderId = eventSourceTag ++ ":" ++ (action ++ ":" ++ clientOrderId) := by
  simp only [recordKey, String.append_assoc]

/-- The part of the world that the state machine or the portfolio manager writes. -/
abbrev Seen (Number : Type) : Type :=
  Log (Stored Number) × ExecutionStateMachine.Machine × PortfolioManager.Memory Number

def World.seen (world : World Number) : Seen Number :=
  (world.orders.log, world.orders.machine, world.portfolio)

section

variable [LedgerArithmetic Number]

/-- The property is kept by the appends of the other modules, and by all that the state
machine and the portfolio manager do. -/
structure Steady (portfolioId : String) (kept : Seen Number → Prop) : Prop where
  append : ∀ log rest eventType payload key now, kept (log, rest) →
    Apart ExecutionStateMachine.eventSourceTag payload key →
    Apart PortfolioManager.eventSourceTag payload key →
    kept ((log.append eventType payload key now).2, rest)
  transition : ∀ log machine memory call, kept (log, machine, memory) →
    kept ((ExecutionStateMachine.transition log machine call).2.1,
      (ExecutionStateMachine.transition log machine call).2.2, memory)
  portfolio : ∀ call : PortfolioManager.Call Number,
    Keeps (fun world : World Number => kept world.seen) (portfolio (call.operation portfolioId))

variable {portfolioId : String} {kept : Seen Number → Prop}

private theorem Steady.tagged (steady : Steady portfolioId kept) {log : Log (Stored Number)}
    {rest : ExecutionStateMachine.Machine × PortfolioManager.Memory Number}
    (holds : kept (log, rest)) {payload : Stored Number}
    (other : payload.sourceTag ∈ appendingTags)
    {key tail : String} (tagged : key = payload.sourceTag ++ ":" ++ tail) (eventType : EventType)
    (now : String) : kept ((log.append eventType payload (some key) now).2, rest) := by
  have different : ∀ tag ∈ appendingTags, tag ∈ tags ∧
      tag ≠ ExecutionStateMachine.eventSourceTag ∧ tag ≠ PortfolioManager.eventSourceTag := by decide
  obtain ⟨known, notMachine, notPortfolio⟩ := different _ other
  rw [tagged]
  exact steady.append log rest eventType payload _ now holds
    (apart_of_tags (by decide) known notMachine rfl tail)
    (apart_of_tags (by decide) known notPortfolio rfl tail)

theorem Steady.orders (steady : Steady portfolioId kept) (omId : String)
    (memory : PortfolioManager.Memory Number) :
    OrderManager.Unaffected Number omId
      fun shared : Log (Stored Number) × _ => kept (shared.1, shared.2, memory) :=
  { own := fun _ _ eventType _ key now holds =>
      steady.tagged holds (List.mem_cons_self) (ordersKey_eq omId key) eventType now
    machine := fun log machine call holds => steady.transition log machine memory call holds }

theorem Steady.accounting (steady : Steady portfolioId kept) {log : Log (Stored Number)}
    {rest : ExecutionStateMachine.Machine × PortfolioManager.Memory Number}
    (holds : kept (log, rest)) (entry : Entry Number) (action clientOrderId now : String) :
    kept ((log.append .positionUpdated (.accounting entry) (some (recordKey action clientOrderId))
      now).2, rest) :=
  steady.tagged holds (by simp [Stored.sourceTag, appendingTags]) (recordKey_eq action clientOrderId) _ now

theorem Steady.positions (steady : Steady portfolioId kept) (pmId : String)
    (rest : ExecutionStateMachine.Machine × PortfolioManager.Memory Number) :
    (PositionManager.journal pmId : Journal (Stored Number) (PositionManager.Payload Number)
      (PositionManager.Memory Number) _ _).Closed fun log => kept (log, rest) := by
  intro log payload key now holds
  have other : Stored.sourceTag (.position payload) ∈ appendingTags := by
    simp [Stored.sourceTag, appendingTags]
  exact steady.tagged holds other (positionsKey_eq pmId key) _ now

end

theorem BelongsTo.transition {tag : String} {kept : Log (Stored Number) → Prop}
    (belongs : BelongsTo tag kept) (known : tag ∈ tags)
    (different : ExecutionStateMachine.eventSourceTag ≠ tag) (log : Log (Stored Number))
    (machine : ExecutionStateMachine.Machine) (call : ExecutionStateMachine.TransitionCall)
    (holds : kept log) : kept (ExecutionStateMachine.transition log machine call).2.1 := by
  rcases ExecutionStateMachine.transition_log log machine call with same | ⟨payload, added⟩
  · rw [same]
    exact holds
  · rw [added, machineKey_eq]
    refine belongs log _ _ _ _ holds (apart_of_tags known ?_ different rfl _)
    decide

variable [LedgerArithmetic Number]

theorem portfolio_belongs (pmId : String) (memory : PortfolioManager.Memory Number) :
    BelongsTo PortfolioManager.eventSourceTag
      (fun log : Log (Stored Number) => PortfolioManager.Sound pmId log memory) := by
  intro log eventType payload key now sound apart
  refine sound.foreign ?_ ?_
  · cases payload with
    | portfolio payload => exact absurd rfl apart.payload
    | _ => rfl
  · intro own same
    rw [portfolioKey_eq] at same
    exact apart.key _ same

theorem lastMarks_belongs (pmId : String) (marks : PortfolioManager.Marks Number) :
    BelongsTo PortfolioManager.eventSourceTag
      (fun log : Log (Stored Number) => marks = PortfolioManager.lastMarks pmId log) := by
  intro log eventType payload key now same apart
  rcases Log.append_cases log eventType payload key now with unchanged | ⟨_, entries⟩
  · rw [unchanged]
    exact same
  · rw [PortfolioManager.lastMarks_concat entries]
    cases payload with
    | portfolio payload => exact absurd rfl apart.payload
    | _ => exact same

end

end TurtleExecution.AccountingSync

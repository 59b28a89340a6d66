/-
Runs of a portfolio manager: calls, crashes, restarts and events of other modules.

A call is its checked arguments, the key it is recorded under, its entry and what
the ledgers must allow.
-/

import TurtleExecution.Foundation.Decimal
import TurtleExecution.PortfolioManager.Replay

set_option autoImplicit false

namespace TurtleExecution.PortfolioManager

open ExchangeAdapter SharedStore Process

instance {Number : Type} : Source (Payload Number) (Payload Number) where
  wrap := id
  own? := some
  own?_wrap := fun _ => rfl

inductive Call (Number : Type)
  | deposit (amount : Number) (requestId : String)
  | withdraw (amount : Number) (requestId : String)
  | reserveMargin (positionId : String) (amount : Number) (requestId : String)
  | allocateMargin (positionId : String) (amount : Number) (requestId : String)
  | releaseMargin (positionId requestId : String)
  | applyRealizedPnl (positionId legId : String) (amount : Number)
  | applyFunding (positionId fundingId : String) (amount : Number)
  | applyFee (referenceId feeId : String) (amount : Number)
  | updateMarks (unrealizedPnl exposure heat : Number) (requestId : String)

section

variable {Number Stored : Type} [LedgerArithmetic Number]

def Call.operation [Source Stored (Payload Number)] (pmId : String) :
    Call Number → Operation Stored Number (PortfolioSnapshot Number)
  | .deposit amount requestId => PortfolioManager.deposit pmId amount requestId
  | .withdraw amount requestId => PortfolioManager.withdraw pmId amount requestId
  | .reserveMargin positionId amount requestId =>
      PortfolioManager.reserveMargin pmId positionId amount requestId
  | .allocateMargin positionId amount requestId =>
      PortfolioManager.allocateMargin pmId positionId amount requestId
  | .releaseMargin positionId requestId => PortfolioManager.releaseMargin pmId positionId requestId
  | .applyRealizedPnl positionId legId amount =>
      PortfolioManager.applyRealizedPnl pmId positionId legId amount
  | .applyFunding positionId fundingId amount =>
      PortfolioManager.applyFunding pmId positionId fundingId amount
  | .applyFee referenceId feeId amount => PortfolioManager.applyFee pmId referenceId feeId amount
  | .updateMarks unrealizedPnl exposure heat requestId =>
      PortfolioManager.updateMarks pmId unrealizedPnl exposure heat requestId

def Call.key : Call Number → MutationKey
  | .deposit _ requestId => .deposit requestId
  | .withdraw _ requestId => .withdraw requestId
  | .reserveMargin positionId _ requestId => .reserveMargin positionId requestId
  | .allocateMargin positionId _ requestId => .allocateMargin positionId requestId
  | .releaseMargin positionId requestId => .releaseMargin positionId requestId
  | .applyRealizedPnl positionId legId _ => .realizedPnl positionId legId
  | .applyFunding positionId fundingId _ => .funding positionId fundingId
  | .applyFee referenceId feeId _ => .fee referenceId feeId
  | .updateMarks _ _ _ requestId => .updateMarks requestId

def Call.entry : Call Number → Entry Number
  | .deposit amount _ => .deposit amount
  | .withdraw amount _ => .withdraw amount
  | .reserveMargin positionId amount _ => .reserveMargin positionId amount
  | .allocateMargin positionId amount _ => .allocateMargin positionId amount
  | .releaseMargin positionId _ => .releaseMargin positionId
  | .applyRealizedPnl positionId legId amount => .realizedPnl positionId legId amount
  | .applyFunding positionId fundingId amount => .funding positionId fundingId amount
  | .applyFee referenceId feeId amount => .fee referenceId feeId amount
  | .updateMarks unrealizedPnl exposure heat _ => .updateMarks unrealizedPnl exposure heat

omit [LedgerArithmetic Number] in
theorem Call.entry_known (call : Call Number) : call.entry.Known := by
  cases call <;> trivial

def Call.arguments : Call Number → Except PortfolioManagerError Unit
  | .deposit amount _ | .withdraw amount _ | .reserveMargin _ amount _ | .allocateMargin _ amount _ =>
      (requirePositive "amount must be positive" amount).mapError .model
  | .applyFee _ _ amount =>
      match Arithmetic.lt amount Arithmetic.zero with
      | .error error => .error (.model (.arithmetic error))
      | .ok true => .error (.model (.valueError "fee amount must be non-negative"))
      | .ok false => .ok ()
  | _ => .ok ()

def Call.allow (memory : Memory Number) : Call Number → Except PortfolioManagerError Unit
  | .withdraw amount _ =>
      refuseAbove amount memory.availableCash (.insufficientFunds
        s!"withdrawal of {LedgerArithmetic.text amount} exceeds available cash {LedgerArithmetic.text memory.availableCash}")
  | .reserveMargin _ amount _ =>
      refuseAbove amount memory.availableCash (.insufficientFunds
        s!"cannot reserve {LedgerArithmetic.text amount} margin; available cash is {LedgerArithmetic.text memory.availableCash}")
  | .allocateMargin positionId amount _ =>
      refuseAbove amount (memory.reservedFor positionId) (.insufficientMargin
        s!"cannot allocate {LedgerArithmetic.text amount} for {positionId}; only {LedgerArithmetic.text (memory.reservedFor positionId)} reserved")
  | _ => .ok ()

variable [Source Stored (Payload Number)]

def Call.Released (memory : Memory Number) : Call Number → Prop
  | .releaseMargin positionId _ => positionId ∈ memory.releasedPositions
  | _ => False

/-- A call whose event is to be recorded: its arguments are good, it is not a repeated
request and the ledgers allow it. -/
structure Call.Records (pmId : String) (host : Host Stored (Memory Number)) (call : Call Number) :
    Prop where
  arguments : call.arguments = .ok ()
  unreleased : ¬ call.Released host.memory
  fresh : ¬ InLog pmId host.log call.key
  admitted : call.allow host.memory = .ok ()

/-- The event of the call is in the log, or the position of the call was released. -/
def Call.Repeats (pmId : String) (call : Call Number) (host : Host Stored (Memory Number)) : Prop :=
  InLog pmId host.log call.key ∨ call.Released host.memory

theorem Call.operation_eq (pmId : String) {call : Call Number} {host : Host Stored (Memory Number)}
    (unreleased : ¬ call.Released host.memory) :
    call.operation pmId host =
      (Process.ofExcept call.arguments >>= fun _ =>
        mutate pmId call.key call.entry fun memory => call.allow memory) host := by
  cases call with
  | applyRealizedPnl | applyFunding | updateMarks => rfl
  | releaseMargin positionId requestId =>
      change (if positionId ∈ host.memory.releasedPositions then
        (pure host.memory.snapshot : Operation Stored Number _) else _) host = _
      have unknown : positionId ∉ host.memory.releasedPositions := unreleased
      rw [if_neg unknown]
      rfl
  | deposit amount requestId | withdraw amount requestId | reserveMargin positionId amount requestId
    | allocateMargin positionId amount requestId => rfl
  | applyFee referenceId feeId amount =>
      change Process.bind (ofModel _) _ host = Process.bind (Process.ofExcept _) _ host
      dsimp only [Call.arguments]
      cases sign : (Arithmetic.lt amount Arithmetic.zero : Except ArithmeticError Bool) with
      | error error => rfl
      | ok negative =>
          cases negative with
          | true => rfl
          | false => rfl

/-- A call returns at once for what is released, refuses its arguments, or mutates. -/
theorem Call.operation_ends {pmId : String} {host : Host Stored (Memory Number)} (call : Call Number)
    {post : Post (Host Stored (Memory Number)) PortfolioManagerError (PortfolioSnapshot Number)}
    (released : call.Released host.memory → post.returned host.memory.snapshot host)
    (refused : ∀ error, call.arguments = .error error → post.raised error host)
    (mutates : call.arguments = .ok () → ¬ call.Released host.memory →
      Ends (mutate pmId call.key call.entry fun memory => call.allow memory) host post) :
    Ends (call.operation pmId) host post := by
  by_cases isReleased : call.Released host.memory
  · cases call with
    | releaseMargin positionId requestId =>
        change Post.Holds _ ((if positionId ∈ host.memory.releasedPositions then
          (pure host.memory.snapshot : Operation Stored Number _) else _) host)
        have known : positionId ∈ host.memory.releasedPositions := isReleased
        rw [if_pos known]
        exact released isReleased
    | _ => exact isReleased.elim
  · unfold Ends
    rw [call.operation_eq pmId isReleased]
    cases arguments : call.arguments with
    | error error =>
        exact ends_bind (fun _ _ => False) (ends_raise (refused error arguments))
          (fun _ _ impossible => impossible.elim)
    | ok checked =>
        exact ends_bind_of_returned (rfl : _ = (Outcome.returned checked, host))
          (mutates arguments isReleased)

theorem Call.keeps_operation {pmId : String} {kept : Log Stored → Prop}
    (closed : (journal pmId : Journal Stored (Payload Number) (Memory Number) _ _).Closed kept)
    (call : Call Number) :
    Keeps (fun host : Host Stored (Memory Number) => kept host.log) (call.operation pmId) := by
  have mutates : Keeps (fun host : Host Stored (Memory Number) => kept host.log)
      (mutate pmId call.key call.entry fun memory => call.allow memory) := by
    refine keeps_bind (Journal.keeps_cached kept _) fun known => ?_
    cases known with
    | some snapshot => exact keeps_pure _ _
    | none =>
        exact keeps_bind (keeps_get _) fun _ => keeps_bind (keeps_ofExcept _ _) fun _ =>
          Journal.keeps_record closed _ _
  intro host holds
  have ended : Ends (call.operation pmId) host (.always fun after => kept after.log) :=
    call.operation_ends (fun _ => holds) (fun _ _ => holds) fun _ _ =>
      ends_always_iff.mpr (mutates host holds)
  exact ends_always_iff.mp ended

theorem Call.operation_spec {pmId : String} {host : Host Stored (Memory Number)}
    (ready : Ready pmId host) (call : Call Number) :
    Ends (call.operation pmId) host
      { returned := fun _ after => (after = host ∧ call.Repeats pmId host) ∨
          call.Records pmId host ∧ Ready pmId after ∧
            ∃ (event : Event Stored) (snapshot : PortfolioSnapshot Number),
              event.eventId ∉ host.memory.appliedEventIds ∧
              event.idempotencyKey = some (namespacedKey pmId call.key.text) ∧
              (journal pmId : Journal Stored (Payload Number) (Memory Number) _ _).own? event =
                some { pmId, entry := call.entry } ∧
              after.log.entries = host.log.entries ++ [event] ∧
              host.memory.applyEvent event { pmId, entry := call.entry } =
                (.ok snapshot, after.memory)
        raised := fun _ after => (after.log = host.log ∧ after.memory = host.memory) ∨
          call.Records pmId host ∧ Ready pmId after ∧
            ∃ (event : Event Stored) (error : PortfolioManagerError),
              event.eventId ∉ host.memory.appliedEventIds ∧
              (journal pmId : Journal Stored (Payload Number) (Memory Number) _ _).own? event =
                some { pmId, entry := call.entry } ∧
              after.log.entries = host.log.entries ++ [event] ∧
              host.memory.applyEvent event { pmId, entry := call.entry } =
                (.error error, after.memory)
        crashed := fun after => after.log = host.log ∧ after.memory = host.memory } := by
  refine call.operation_ends (fun released => Or.inl ⟨rfl, Or.inr released⟩)
    (fun _ _ => Or.inl ⟨rfl, rfl⟩) fun arguments released => ?_
  refine (mutate_spec ready call.key call.entry fun memory => call.allow memory).mono ?_ ?_ ?_
  · intro value after posted
    cases posted with
    | before known => exact Or.inl ⟨rfl, Or.inl known⟩
    | now absent admitted after readyAfter environment event keyed own entries fresh snapshot
        applied =>
        exact Or.inr ⟨⟨arguments, released, absent, admitted⟩, readyAfter, event, snapshot, fresh,
          keyed, own, entries, applied⟩
  · rintro error after ⟨readyAfter, absent, ⟨rfl, _⟩ | ⟨_, memory, log⟩ |
      ⟨admitted, event, fresh, own, entries, applied⟩⟩
    · exact Or.inl ⟨rfl, rfl⟩
    · exact Or.inl ⟨log, memory⟩
    · exact Or.inr ⟨⟨arguments, released, absent, admitted⟩, readyAfter, event, error, fresh,
        own, entries, applied⟩
  · rintro after ⟨_, memory, log, _⟩
    exact ⟨log, memory⟩

section

variable {host : Host Stored (Memory Number)} {pmId : String} {call : Call Number}

theorem Call.operation_of_repeats (ready : Ready pmId host) (arguments : call.arguments = .ok ())
    (repeats : call.Repeats pmId host) :
    ∃ snapshot, call.operation pmId host = (.returned snapshot, host) := by
  by_cases released : call.Released host.memory
  · cases call with
    | releaseMargin positionId requestId =>
        refine ⟨host.memory.snapshot, ?_⟩
        change (if positionId ∈ host.memory.releasedPositions then
          (pure host.memory.snapshot : Operation Stored Number _) else _) host = _
        have member : positionId ∈ host.memory.releasedPositions := released
        rw [if_pos member]
        rfl
    | _ => exact released.elim
  · obtain ⟨snapshot, ran⟩ := mutate_of_inLog ready (repeats.resolve_right released) call.entry
      fun memory => call.allow memory
    refine ⟨snapshot, ?_⟩
    rw [call.operation_eq pmId released, arguments]
    exact ran

omit [Source Stored (Payload Number)] in
theorem Call.arguments_of_released {memory : Memory Number} (released : call.Released memory) :
    call.arguments = .ok () := by
  cases call with
  | releaseMargin positionId requestId => rfl
  | _ => exact released.elim

theorem Call.arguments_of_returned {host after : Host Stored (Memory Number)}
    {snapshot : PortfolioSnapshot Number}
    (returned : call.operation pmId host = (.returned snapshot, after)) :
    call.arguments = .ok () := by
  by_cases released : call.Released host.memory
  · exact Call.arguments_of_released released
  · rw [call.operation_eq pmId released] at returned
    cases arguments : call.arguments with
    | ok checked => rfl
    | error error =>
        rw [arguments] at returned
        cases returned

end

/-- An append by another module: not an own event, and under no key of this manager. -/
structure Foreign (pmId : String) (Stored Number : Type) [Source Stored (Payload Number)] where
  eventType : EventType
  payload : Stored
  key : Option String
  now : String
  notOwn : (Source.own? payload : Option (Payload Number)) = none
  otherKey : ∀ own, key ≠ some (namespacedKey pmId own)

inductive Step (pmId : String) (Stored Number : Type) [Source Stored (Payload Number)]
  | call (call : Call Number)
  | foreign (added : Foreign pmId Stored Number)
  | kill
  | restart

structure System (Stored Number : Type) where
  host : Host Stored (Memory Number)
  alive : Bool

def System.step {pmId : String} (system : System Stored Number) :
    Step pmId Stored Number → System Stored Number
  | .call call =>
      if system.alive then
        match call.operation pmId system.host with
        | (.crashed, host) => { host, alive := false }
        | (_, host) => { host, alive := true }
      else system
  | .foreign added =>
      { system with
        host := { system.host with
          log := (system.host.log.append added.eventType added.payload added.key added.now).2 } }
  | .kill => { system with alive := false }
  | .restart =>
      match construct pmId system.host.log with
      | .ok memory => { host := { system.host with memory }, alive := true }
      | .error _ => { system with alive := false }

def System.start (environment : Nat → StoreAnswer) : System Stored Number :=
  { host := { log := Ledger.empty, memory := Memory.initial, environment, clock := 0 }
    alive := true }

section

variable {pmId : String} {system : System Stored Number} {call : Call Number}

theorem System.step_ready (ready : Ready pmId system.host) (step : Step pmId Stored Number) :
    Ready pmId (system.step step).host := by
  obtain ⟨host, alive⟩ := system
  cases step with
  | call other =>
      cases alive with
      | false => exact ready
      | true =>
          have ends := other.operation_spec ready
          unfold Ends at ends
          unfold System.step
          dsimp only
          rw [if_pos rfl]
          have unchanged : ∀ after : Host Stored (Memory Number),
              after.log = host.log ∧ after.memory = host.memory → Ready pmId after := by
            rintro after ⟨log, memory⟩
            unfold Ready
            rw [log, memory]
            exact ready
          rcases ran : other.operation pmId host with ⟨outcome, after⟩
          rw [ran] at ends
          cases outcome with
          | returned snapshot =>
              rcases ends with ⟨rfl, _⟩ | ⟨_, readyAfter, _⟩
              · exact ready
              · exact readyAfter
          | raised error =>
              rcases ends with same | ⟨_, readyAfter, _⟩
              · exact unchanged after same
              · exact readyAfter
          | crashed => exact unchanged after ends
  | foreign added => exact Sound.foreign ready added.notOwn added.otherKey
  | kill => exact ready
  | restart =>
      unfold System.step
      dsimp only
      cases constructed : (construct pmId host.log : Except _ (Memory Number)) with
      | error error => exact ready
      | ok rebuilt =>
          have same : rebuilt = host.memory := Sound.rebuilt ready constructed
          rw [same]
          exact ready

omit [LedgerArithmetic Number] [Source Stored (Payload Number)] in
theorem Call.Repeats.grown {before after : Host Stored (Memory Number)}
    (repeats : call.Repeats pmId before)
    (log : ∀ event ∈ before.log.entries, event ∈ after.log.entries)
    (released : ∀ positionId ∈ before.memory.releasedPositions,
      positionId ∈ after.memory.releasedPositions) : call.Repeats pmId after := by
  refine repeats.imp ?_ ?_
  · rintro ⟨event, member, keyed⟩
    exact ⟨event, log event member, keyed⟩
  · intro known
    cases call with
    | releaseMargin positionId requestId => exact released positionId known
    | _ => exact known.elim

/-- The log and the released positions of a manager only grow. -/
theorem Call.Repeats.step (ready : Ready pmId system.host) (repeats : call.Repeats pmId system.host)
    (step : Step pmId Stored Number) : call.Repeats pmId (system.step step).host := by
  obtain ⟨host, alive⟩ := system
  have unchanged : ∀ after : Host Stored (Memory Number),
      after.log = host.log ∧ after.memory = host.memory → call.Repeats pmId after := by
    rintro after ⟨log, memory⟩
    refine repeats.grown ?_ ?_
    · rw [log]
      exact fun _ member => member
    · rw [memory]
      exact fun _ member => member
  have grown : ∀ (after : Host Stored (Memory Number)) (event : Event Stored) payload result,
      after.log.entries = host.log.entries ++ [event] →
      host.memory.applyEvent event payload = (result, after.memory) →
      call.Repeats pmId after := by
    intro after event payload result entries applied
    refine repeats.grown ?_ fun positionId known => ?_
    · intro other member
      rw [entries]
      exact List.mem_append_left _ member
    · have kept := applyEvent_releasedPositions event payload known
      rw [applied] at kept
      exact kept
  cases step with
  | call other =>
      cases alive with
      | false => exact repeats
      | true =>
          have ends := other.operation_spec ready
          unfold Ends at ends
          unfold System.step
          dsimp only
          rw [if_pos rfl]
          rcases ran : other.operation pmId host with ⟨outcome, after⟩
          rw [ran] at ends
          cases outcome with
          | returned snapshot =>
              rcases ends with ⟨rfl, _⟩ | ⟨_, _, event, _, _, _, _, entries, applied⟩
              · exact repeats
              · exact grown after event _ _ entries applied
          | raised error =>
              rcases ends with same | ⟨_, _, event, _, _, _, entries, applied⟩
              · exact unchanged after same
              · exact grown after event _ _ entries applied
          | crashed => exact unchanged after ends
  | foreign added =>
      refine repeats.grown ?_ fun _ known => known
      intro event member
      change event ∈ (host.log.append added.eventType added.payload added.key added.now).2.entries
      rcases Log.append_cases host.log added.eventType added.payload added.key added.now with
        same | ⟨_, entries⟩
      · rw [same]
        exact member
      · rw [entries]
        exact List.mem_append_left _ member
  | kill => exact repeats
  | restart =>
      unfold System.step
      dsimp only
      cases constructed : (construct pmId host.log : Except _ (Memory Number)) with
      | error error => exact repeats
      | ok rebuilt => exact unchanged _ ⟨rfl, Sound.rebuilt ready constructed⟩

private theorem ready_run (pmId : String) (environment : Nat → StoreAnswer)
    (steps : List (Step pmId Stored Number)) :
    Ready pmId (steps.foldl System.step (System.start environment)).host := by
  have started : Ready pmId (System.start environment : System Stored Number).host := sound_empty pmId
  exact steps.foldlRecOn (motive := fun system => Ready pmId system.host) System.step started
    fun _ ready step _ => System.step_ready ready step

/-- Whatever a run does after a call that returned, crashes and restarts included, the same
call returns again and changes nothing, as long as a manager runs then. -/
theorem run_repeatChangesNothing {environment : Nat → StoreAnswer}
    {steps later : List (Step pmId Stored Number)} {call : Call Number}
    {snapshot : PortfolioSnapshot Number} {after : Host Stored (Memory Number)}
    (returned : call.operation pmId (steps.foldl System.step (System.start environment)).host =
      (.returned snapshot, after)) :
    let final := later.foldl System.step { host := after, alive := true }
    final.alive = true →
      ∃ repeated, call.operation pmId final.host = (.returned repeated, final.host) := by
  intro final _
  have ends := call.operation_spec (ready_run pmId environment steps)
  unfold Ends at ends
  rw [returned] at ends
  have first : Ready pmId after ∧ call.Repeats pmId after := by
    rcases ends with ⟨rfl, repeats⟩ | ⟨_, ready, event, _, _, keyed, _, entries, _⟩
    · exact ⟨ready_run pmId environment steps, repeats⟩
    · refine ⟨ready, Or.inl ⟨event, ?_, keyed⟩⟩
      rw [entries]
      exact List.mem_append_right _ (List.mem_singleton_self _)
  have started : Ready pmId ({ host := after, alive := true } : System Stored Number).host ∧
      call.Repeats pmId ({ host := after, alive := true } : System Stored Number).host := first
  have atEnd : Ready pmId final.host ∧ call.Repeats pmId final.host :=
    later.foldlRecOn
      (motive := fun system => Ready pmId system.host ∧ call.Repeats pmId system.host) System.step
      started fun _ known step _ => ⟨System.step_ready known.1 step, known.2.step known.1 step⟩
  exact Call.operation_of_repeats atEnd.1 (Call.arguments_of_returned returned) atEnd.2

end

end

def marginHeld : List (Step "main" (Payload Decimal) Decimal) :=
  [.call (.deposit (.ofInt 100) "d1"), .call (.reserveMargin "p1" (.ofInt 10) "r1"),
    .call (.allocateMargin "p1" (.ofInt 5) "a1")]

theorem run_repeatChangesNothing_released :
    let release : Call Decimal := .releaseMargin "p1" "x1"
    let held := marginHeld.foldl System.step (System.start steadyStore)
    let later : List (Step "main" (Payload Decimal) Decimal) :=
      [.kill, .restart, .call (.deposit (.ofInt 5) "d2")]
    let final := later.foldl System.step
      { host := (release.operation "main" held.host).2, alive := true }
    ∃ repeated, release.operation "main" final.host = (.returned repeated, final.host) := by
  have returns : (releaseMargin "main" "p1" "x1"
      (marginHeld.foldl System.step (System.start steadyStore)).host).1.returns = true := by
    decide +kernel
  obtain ⟨snapshot, returned⟩ := Outcome.returns_iff.mp returns
  have ran : (Call.releaseMargin "p1" "x1" : Call Decimal).operation "main"
      (marginHeld.foldl System.step (System.start steadyStore)).host = (.returned snapshot, _) :=
    Prod.ext returned rfl
  intro release held later final
  have alive : final.alive = true := by decide +kernel
  exact run_repeatChangesNothing ran alive

end TurtleExecution.PortfolioManager

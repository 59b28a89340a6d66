/-
The ledgers in exact arithmetic: both accounts of the assets agree after every event.

`post` is what an entry does to the balances; no event of a balanced ledger raises.  So a
call posts its entry or changes nothing: it raises for its arguments, for what the ledgers
refuse, or for the store.
-/

import TurtleExecution.PortfolioManager.Runs

set_option autoImplicit false

namespace TurtleExecution.PortfolioManager

open ExchangeAdapter SharedStore Process

section

variable {Stored : Type}

def Memory.credited (memory : Memory ℚ) (account : Account) (amount : ℚ) : Memory ℚ :=
  memory.setBalance (memory.balance account + amount) account

def Memory.debited (memory : Memory ℚ) (account : Account) (amount : ℚ) : Memory ℚ :=
  memory.setBalance (memory.balance account - amount) account

def Memory.released (memory : Memory ℚ) (positionId : String) : Memory ℚ :=
  let reserved := memory.reservedFor positionId
  let used := memory.usedFor positionId
  let freed := (({ memory with
      reservedByPosition := memory.reservedByPosition.erase positionId
      usedByPosition := memory.usedByPosition.erase positionId } : Memory ℚ).debited
        .reservedMargin reserved).debited .usedMargin used
  let paid := freed.credited .availableCash (reserved + used)
  { paid with
    releasedPositions := addToSet paid.releasedPositions positionId
    openPositionIds := paid.openPositionIds.filter fun known => known ≠ positionId }

def Memory.post (memory : Memory ℚ) : Entry ℚ → Memory ℚ
  | .deposit amount => (memory.credited .availableCash amount).credited .deposits amount
  | .withdraw amount => (memory.debited .availableCash amount).credited .withdrawals amount
  | .reserveMargin positionId amount =>
      ((memory.debited .availableCash amount).credited .reservedMargin amount).credited
        (.reservedFor positionId) amount
  | .allocateMargin positionId amount =>
      let moved := (((memory.debited .reservedMargin amount).credited .usedMargin amount).debited
        (.reservedFor positionId) amount).credited (.usedFor positionId) amount
      { moved with openPositionIds := addToSet moved.openPositionIds positionId }
  | .releaseMargin positionId => memory.released positionId
  | .realizedPnl _ _ amount => (memory.credited .availableCash amount).credited .realizedPnl amount
  | .funding _ _ amount => (memory.credited .availableCash amount).credited .funding amount
  | .fee _ _ amount => (memory.debited .availableCash amount).credited .fees amount
  | .updateMarks unrealizedPnl exposure heat => { memory with unrealizedPnl, exposure, heat }
  | .other _ => memory

private theorem applyEntry_eq_post (eventId : Nat) {entry : Entry ℚ} (known : entry.Known)
    (memory : Memory ℚ) :
    applyEntry eventId entry memory = (.returned (), memory.post entry) := by
  cases entry with
  | other action => exact known.elim
  | deposit | withdraw | reserveMargin | allocateMargin | releaseMargin | realizedPnl | funding | fee
    | updateMarks => rfl

def Memory.wallet (memory : Memory ℚ) : ℚ :=
  memory.depositsCumulative - memory.withdrawalsCumulative + memory.realizedPnlCumulative +
    memory.fundingCumulative - memory.feesCumulative

def Balanced (memory : Memory ℚ) : Prop :=
  memory.availableCash + memory.reservedMargin + memory.usedMargin = memory.wallet

theorem balanced_initial : Balanced (Memory.initial : Memory ℚ) := by
  unfold Balanced Memory.wallet Memory.initial
  change (0 : ℚ) + 0 + 0 = 0 - 0 + 0 + 0 - 0
  norm_num

theorem Balanced.post {memory : Memory ℚ} (balanced : Balanced memory) (entry : Entry ℚ) :
    Balanced (memory.post entry) := by
  unfold Balanced Memory.wallet at *
  cases entry with
  | updateMarks | other => exact balanced
  | deposit amount | withdraw amount | realizedPnl _ _ amount | funding _ _ amount | fee _ _ amount
    | reserveMargin _ amount | allocateMargin _ amount =>
      simp only [Memory.post, Memory.credited, Memory.debited, Memory.setBalance, Memory.balance]
      linarith
  | releaseMargin positionId =>
      simp only [Memory.post, Memory.released, Memory.credited, Memory.debited, Memory.setBalance,
        Memory.balance]
      linarith

theorem Balanced.assertInvariant {memory : Memory ℚ} (balanced : Balanced memory)
    (state : Memory ℚ) :
    PortfolioManager.assertInvariant memory.snapshot state = (.returned (), state) := by
  have equal : (decide (memory.availableCash + memory.reservedMargin + memory.usedMargin +
      memory.unrealizedPnl = 0 + (memory.wallet + memory.unrealizedPnl))) = true := by
    refine decide_eq_true ?_
    rw [zero_add, balanced]
  change (if decide (memory.availableCash + memory.reservedMargin + memory.usedMargin +
      memory.unrealizedPnl = 0 + (memory.wallet + memory.unrealizedPnl)) = true then
    (pure () : Update ℚ Unit) else _) state = _
  rw [if_pos equal]
  rfl

def Memory.posted (memory : Memory ℚ) (event : Event Stored) (entry : Entry ℚ) : Memory ℚ :=
  { memory.post entry with
    appliedEventIds := memory.appliedEventIds ++ [event.eventId]
    updatedAtUtc := some event.timestampUtc }

theorem post_appliedEventIds (memory : Memory ℚ) (entry : Entry ℚ) (appliedEventIds : List Nat) :
    Memory.post { memory with appliedEventIds } entry =
      { memory.post entry with appliedEventIds } := by
  cases entry <;> rfl

private theorem applyEvent_eq_posted {memory : Memory ℚ} (balanced : Balanced memory)
    {event : Event Stored}
    (fresh : event.eventId ∉ memory.appliedEventIds) {entry : Entry ℚ} (known : entry.Known)
    (pmId : String) :
    memory.applyEvent event { pmId, entry } =
      (.ok (memory.posted event entry).snapshot, memory.posted event entry) := by
  have applied := applyEntry_eq_post event.eventId known
    { memory with appliedEventIds := memory.appliedEventIds ++ [event.eventId] }
  rw [post_appliedEventIds] at applied
  have posted : Balanced (memory.posted event entry) := balanced.post entry
  have ran : applyNew event { pmId, entry } memory =
      (.returned (memory.posted event entry).snapshot, memory.posted event entry) := by
    change Process.bind (applyEntry event.eventId entry) _
      { memory with appliedEventIds := memory.appliedEventIds ++ [event.eventId] } = _
    unfold Process.bind
    rw [applied]
    change Process.bind (PortfolioManager.assertInvariant (memory.posted event entry).snapshot) _
      (memory.posted event entry) = _
    unfold Process.bind
    rw [posted.assertInvariant]
    rfl
  unfold Memory.applyEvent
  rw [if_neg fresh, ran]

end

section

variable {Stored : Type} [Source Stored (Payload ℚ)]

structure Call.Posts (pmId : String) (call : Call ℚ) (before after : Host Stored (Memory ℚ)) :
    Prop where
  ready : Ready pmId after
  environment : after.environment = before.environment
  records : call.Records pmId before
  posted : ∃ event : Event Stored,
    event.idempotencyKey = some (namespacedKey pmId call.key.text) ∧
      after.log.entries = before.log.entries ++ [event] ∧
      after.memory = before.memory.posted event call.entry

variable {host : Host Stored (Memory ℚ)} {pmId : String} {call : Call ℚ}

theorem Call.operation_posts (ready : Ready pmId host) (balanced : Balanced host.memory)
    (call : Call ℚ) :
    Ends (call.operation pmId) host
      { returned := fun _ after => (after = host ∧ call.Repeats pmId host) ∨
          call.Posts pmId host after
        raised := fun error after => (after.log = host.log ∧ after.memory = host.memory) ∧
          (¬ Quiet host.environment ∨ call.arguments = .error error ∨
            ¬ InLog pmId host.log call.key ∧ call.allow host.memory = .error error)
        crashed := fun after => (after.log = host.log ∧ after.memory = host.memory) ∧
          ¬ Quiet host.environment } := by
  refine call.operation_ends (fun released => Or.inl ⟨rfl, Or.inr released⟩)
    (fun error refused => ⟨⟨rfl, rfl⟩, Or.inr (Or.inl refused)⟩) fun arguments released => ?_
  refine (mutate_spec ready call.key call.entry fun memory => call.allow memory).mono ?_ ?_ ?_
  · intro value after posted
    cases posted with
    | before known => exact Or.inl ⟨rfl, Or.inl known⟩
    | now absent admitted after readyAfter environment event keyed own entries fresh snapshot
        applied =>
        rw [applyEvent_eq_posted balanced fresh call.entry_known pmId] at applied
        refine Or.inr
          { ready := readyAfter
            environment
            records := ⟨arguments, released, absent, admitted⟩
            posted := ⟨event, keyed, entries, ?_⟩ }
        exact (congrArg Prod.snd applied).symm
  · rintro error after ⟨readyAfter, absent, ⟨rfl, refused⟩ | ⟨loud, memory, log⟩ |
      ⟨admitted, event, fresh, own, entries, applied⟩⟩
    · exact ⟨⟨rfl, rfl⟩, Or.inr (Or.inr ⟨absent, refused⟩)⟩
    · exact ⟨⟨log, memory⟩, Or.inl loud⟩
    · rw [applyEvent_eq_posted balanced fresh call.entry_known pmId] at applied
      cases applied
  · rintro after ⟨_, memory, log, loud⟩
    exact ⟨⟨log, memory⟩, loud⟩

omit [Source Stored (Payload ℚ)] in
theorem Balanced.posted {memory : Memory ℚ} (balanced : Balanced memory) (event : Event Stored)
    (entry : Entry ℚ) : Balanced (memory.posted event entry) :=
  balanced.post entry

end

end TurtleExecution.PortfolioManager

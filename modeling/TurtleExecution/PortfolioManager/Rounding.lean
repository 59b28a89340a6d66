/-
A portfolio manager on decimals of 28 digits: runs of which every ledger sum is exact.

The two accounts of the assets add the same amounts in different orders.  Where no
sum is rounded, decimals carry the exact ledgers, which balance; where one is, the
check may fail after the event is stored, and then every replay fails.
-/

import TurtleExecution.Foundation.DecimalOrder
import TurtleExecution.Foundation.DecimalRounding
import TurtleExecution.Foundation.TransitionTable
import TurtleExecution.PortfolioManager.Balance

set_option autoImplicit false

namespace TurtleExecution.PortfolioManager

open ExchangeAdapter SharedStore Process Runs

def Memory.exact (memory : Memory Decimal) : Memory ℚ :=
  { availableCash := memory.availableCash.exactly
    reservedMargin := memory.reservedMargin.exactly
    usedMargin := memory.usedMargin.exactly
    unrealizedPnl := memory.unrealizedPnl.exactly
    realizedPnlCumulative := memory.realizedPnlCumulative.exactly
    fundingCumulative := memory.fundingCumulative.exactly
    feesCumulative := memory.feesCumulative.exactly
    depositsCumulative := memory.depositsCumulative.exactly
    withdrawalsCumulative := memory.withdrawalsCumulative.exactly
    exposure := memory.exposure.exactly
    heat := memory.heat.exactly
    openPositionIds := memory.openPositionIds
    reservedByPosition := memory.reservedByPosition.mapValues Decimal.exactly
    usedByPosition := memory.usedByPosition.mapValues Decimal.exactly
    releasedPositions := memory.releasedPositions
    appliedEventIds := memory.appliedEventIds
    updatedAtUtc := memory.updatedAtUtc }

def Entry.exact : Entry Decimal → Entry ℚ
  | .deposit amount => .deposit amount.exactly
  | .withdraw amount => .withdraw amount.exactly
  | .reserveMargin positionId amount => .reserveMargin positionId amount.exactly
  | .allocateMargin positionId amount => .allocateMargin positionId amount.exactly
  | .releaseMargin positionId => .releaseMargin positionId
  | .realizedPnl positionId legId amount => .realizedPnl positionId legId amount.exactly
  | .funding positionId fundingId amount => .funding positionId fundingId amount.exactly
  | .fee referenceId feeId amount => .fee referenceId feeId amount.exactly
  | .updateMarks unrealizedPnl exposure heat =>
      .updateMarks unrealizedPnl.exactly exposure.exactly heat.exactly
  | .other action => .other action

def Entry.amount? : Entry Decimal → Option Decimal
  | .deposit amount | .withdraw amount | .reserveMargin _ amount | .allocateMargin _ amount
  | .realizedPnl _ _ amount | .funding _ _ amount | .fee _ _ amount => some amount
  | .updateMarks unrealizedPnl _ _ => some unrealizedPnl
  | .releaseMargin _ | .other _ => none

def Memory.sums (memory : Memory ℚ) : Entry ℚ → List ℚ
  | .deposit amount => [memory.availableCash + amount, memory.depositsCumulative + amount]
  | .withdraw amount => [memory.availableCash - amount, memory.withdrawalsCumulative + amount]
  | .reserveMargin positionId amount =>
      [memory.availableCash - amount, memory.reservedMargin + amount,
        memory.reservedFor positionId + amount]
  | .allocateMargin positionId amount =>
      [memory.reservedMargin - amount, memory.usedMargin + amount,
        memory.reservedFor positionId - amount, memory.usedFor positionId + amount]
  | .releaseMargin positionId =>
      [memory.reservedMargin - memory.reservedFor positionId,
        memory.usedMargin - memory.usedFor positionId,
        memory.reservedFor positionId + memory.usedFor positionId,
        memory.availableCash + (memory.reservedFor positionId + memory.usedFor positionId)]
  | .realizedPnl _ _ amount => [memory.availableCash + amount, memory.realizedPnlCumulative + amount]
  | .funding _ _ amount => [memory.availableCash + amount, memory.fundingCumulative + amount]
  | .fee _ _ amount => [memory.availableCash - amount, memory.feesCumulative + amount]
  | .updateMarks _ _ _ => []
  | .other _ => []

def Memory.checkedSums (memory : Memory ℚ) : List ℚ :=
  [memory.availableCash + memory.reservedMargin,
    memory.availableCash + memory.reservedMargin + memory.usedMargin,
    memory.availableCash + memory.reservedMargin + memory.usedMargin + memory.unrealizedPnl,
    memory.depositsCumulative - memory.withdrawalsCumulative,
    memory.depositsCumulative - memory.withdrawalsCumulative + memory.realizedPnlCumulative,
    memory.depositsCumulative - memory.withdrawalsCumulative + memory.realizedPnlCumulative +
      memory.fundingCumulative,
    memory.wallet, memory.wallet + memory.unrealizedPnl]

structure Exact (memory : Memory Decimal) (entry : Entry Decimal) : Prop where
  amount : ∀ amount ∈ entry.amount?, amount.IsFinite
  sums : ∀ sum ∈ memory.exact.sums entry.exact ++ (memory.exact.post entry.exact).checkedSums,
    Decimal.Representable sum

structure AllFinite (memory : Memory Decimal) : Prop where
  balance : ∀ account, (memory.balance account).IsFinite
  unrealizedPnl : memory.unrealizedPnl.IsFinite

private theorem exactly_zero : (Arithmetic.zero : Decimal).exactly = 0 := by
  change ((0 : Int) : ℚ) * 10 ^ (0 : Int) = 0
  norm_num

private theorem allFinite_initial : AllFinite (Memory.initial : Memory Decimal) :=
  { balance := fun account => by cases account <;> trivial
    unrealizedPnl := trivial }

private theorem exact_initial : (Memory.initial : Memory Decimal).exact = Memory.initial := by
  simp only [Memory.exact, Memory.initial, exactly_zero]
  rfl

private theorem balance_exact (memory : Memory Decimal) (account : Account) :
    memory.exact.balance account = (memory.balance account).exactly := by
  cases account with
  | reservedFor positionId =>
      change ((Dict.mapValues _ _).get? positionId).getD 0 = Decimal.exactly (Option.getD _ _)
      rw [Dict.get?_mapValues]
      cases memory.reservedByPosition.get? positionId with
      | none => exact exactly_zero.symm
      | some reserved => rfl
  | usedFor positionId =>
      change ((Dict.mapValues _ _).get? positionId).getD 0 = Decimal.exactly (Option.getD _ _)
      rw [Dict.get?_mapValues]
      cases memory.usedByPosition.get? positionId with
      | none => exact exactly_zero.symm
      | some used => rfl
  | _ => rfl

private theorem setBalance_exact (memory : Memory Decimal) (number : Decimal) (account : Account) :
    (memory.setBalance number account).exact = memory.exact.setBalance number.exactly account := by
  cases account <;> simp [Memory.setBalance, Memory.exact, Dict.mapValues_set]

private theorem balance_setBalance (memory : Memory Decimal) (number : Decimal)
    (account other : Account) :
    (memory.setBalance number account).balance other =
      if other = account then number else memory.balance other := by
  cases account <;> cases other <;>
    simp [Memory.setBalance, Memory.balance, Memory.reservedFor, Memory.usedFor, Dict.get?_set]
  all_goals split <;> rfl

theorem AllFinite.setBalance {memory : Memory Decimal} (finite : AllFinite memory) {number : Decimal}
    (numberFinite : number.IsFinite) (account : Account) :
    AllFinite (memory.setBalance number account) := by
  refine { balance := fun other => ?_, unrealizedPnl := ?_ }
  · rw [balance_setBalance]
    split
    · exact numberFinite
    · exact finite.balance other
  · cases account <;> exact finite.unrealizedPnl

structure Carries (memory : Memory Decimal) (ledgers : Memory ℚ) : Prop where
  finite : AllFinite memory
  exact : memory.exact = ledgers

variable {memory : Memory Decimal} {ledgers : Memory ℚ}

theorem Carries.balance (carries : Carries memory ledgers) (account : Account) :
    (memory.balance account).exactly = ledgers.balance account := by
  rw [← carries.exact, balance_exact]

theorem Carries.setBalance (carries : Carries memory ledgers) {number : Decimal}
    (numberFinite : number.IsFinite) (account : Account) :
    Carries (memory.setBalance number account) (ledgers.setBalance number.exactly account) :=
  { finite := carries.finite.setBalance numberFinite account
    exact := by rw [setBalance_exact, carries.exact] }

theorem Carries.credit (carries : Carries memory ledgers) {account : Account} {amount : Decimal}
    (finite : amount.IsFinite)
    (representable : Decimal.Representable (ledgers.balance account + amount.exactly)) :
    Ends (PortfolioManager.credit account amount) memory
      { returned := fun _ after => Carries after (ledgers.credited account amount.exactly)
        raised := fun _ _ => False
        crashed := fun _ => False } := by
  rw [← carries.balance] at representable
  obtain ⟨sum, added, sumFinite, value⟩ :=
    Decimal.add_exact (carries.finite.balance account) finite representable
  refine ends_bind_of_returned (rfl : _ = (Outcome.returned memory, memory)) ?_
  change Ends (ofArithmetic (Decimal.add _ _) >>= _) memory _
  rw [added]
  refine ends_bind_of_returned (rfl : _ = (Outcome.returned sum, memory)) ?_
  change Carries (memory.setBalance sum account) _
  unfold Memory.credited
  rw [← carries.balance, ← value]
  exact carries.setBalance sumFinite account

theorem Carries.debit (carries : Carries memory ledgers) {account : Account} {amount : Decimal}
    (finite : amount.IsFinite)
    (representable : Decimal.Representable (ledgers.balance account - amount.exactly)) :
    Ends (PortfolioManager.debit account amount) memory
      { returned := fun _ after => Carries after (ledgers.debited account amount.exactly)
        raised := fun _ _ => False
        crashed := fun _ => False } := by
  rw [← carries.balance] at representable
  obtain ⟨difference, subtracted, differenceFinite, value⟩ :=
    Decimal.sub_exact (carries.finite.balance account) finite representable
  refine ends_bind_of_returned (rfl : _ = (Outcome.returned memory, memory)) ?_
  change Ends (ofArithmetic (Decimal.sub _ _) >>= _) memory _
  rw [subtracted]
  refine ends_bind_of_returned (rfl : _ = (Outcome.returned difference, memory)) ?_
  change Carries (memory.setBalance difference account) _
  unfold Memory.debited
  rw [← carries.balance, ← value]
  exact carries.setBalance differenceFinite account

theorem Carries.erase (carries : Carries memory ledgers) (positionId : String) :
    Carries
      { memory with
        reservedByPosition := memory.reservedByPosition.erase positionId
        usedByPosition := memory.usedByPosition.erase positionId }
      { ledgers with
        reservedByPosition := ledgers.reservedByPosition.erase positionId
        usedByPosition := ledgers.usedByPosition.erase positionId } := by
  obtain ⟨finite, rfl⟩ := carries
  refine
    { finite := { balance := fun account => ?_, unrealizedPnl := finite.unrealizedPnl }
      exact := ?_ }
  · have kept := finite.balance account
    cases account with
    | reservedFor other =>
        change ((memory.reservedByPosition.erase positionId).get? other |>.getD
          Arithmetic.zero).IsFinite
        rw [Dict.get?_erase]
        split
        · trivial
        · exact kept
    | usedFor other =>
        change ((memory.usedByPosition.erase positionId).get? other |>.getD
          Arithmetic.zero).IsFinite
        rw [Dict.get?_erase]
        split
        · trivial
        · exact kept
    | _ => exact kept
  · simp only [Memory.exact, Dict.mapValues_erase]

theorem Carries.release (carries : Carries memory ledgers) (positionId : String)
    (sums : ∀ sum ∈ ledgers.sums (.releaseMargin positionId), Decimal.Representable sum) :
    Ends (releaseEntry positionId) memory
      { returned := fun _ after => Carries after (ledgers.post (.releaseMargin positionId))
        raised := fun _ _ => False
        crashed := fun _ => False } := by
  have reserved := carries.balance (.reservedFor positionId)
  have used := carries.balance (.usedFor positionId)
  have reservedFinite := carries.finite.balance (.reservedFor positionId)
  have usedFinite := carries.finite.balance (.usedFor positionId)
  generalize isReserved : memory.balance (.reservedFor positionId) = reservedNumber
    at reserved reservedFinite
  generalize isUsed : memory.balance (.usedFor positionId) = usedNumber at used usedFinite
  change memory.reservedFor positionId = reservedNumber at isReserved
  change memory.usedFor positionId = usedNumber at isUsed
  change reservedNumber.exactly = ledgers.reservedFor positionId at reserved
  change usedNumber.exactly = ledgers.usedFor positionId at used
  have isSum : Decimal.Representable (reservedNumber.exactly + usedNumber.exactly) := by
    rw [reserved, used]
    exact sums _ (by simp [Memory.sums])
  obtain ⟨freed, added, freedFinite, value⟩ := Decimal.add_exact reservedFinite usedFinite isSum
  unfold releaseEntry
  refine ends_bind_of_returned (rfl : _ = (Outcome.returned memory, memory)) ?_
  rw [isReserved, isUsed]
  refine ends_bind_of_returned (rfl : _ = (Outcome.returned (), _)) ?_
  refine ends_bind _ ((carries.erase positionId).debit reservedFinite ?_) fun _ _ second => ?_
  · rw [reserved]
    exact sums _ (by simp [Memory.sums, Memory.balance])
  refine ends_bind _ (second.debit usedFinite ?_) fun _ between third => ?_
  · rw [used]
    exact sums _ (by simp [Memory.sums, Memory.balance, Memory.debited, Memory.setBalance])
  change Ends (ofArithmetic (Decimal.add _ _) >>= _) between _
  rw [added]
  refine ends_bind_of_returned (rfl : _ = (Outcome.returned freed, between)) ?_
  refine ends_bind _ (third.credit freedFinite ?_) fun _ after last => ?_
  · rw [value, reserved, used]
    exact sums _ (by simp [Memory.sums, Memory.balance, Memory.debited, Memory.setBalance])
  rw [value, reserved, used] at last
  exact
    { finite := { balance := last.finite.balance, unrealizedPnl := last.finite.unrealizedPnl }
      exact := congrArg (fun ledgers : Memory ℚ =>
        { ledgers with
          releasedPositions := addToSet ledgers.releasedPositions positionId
          openPositionIds := ledgers.openPositionIds.filter fun known => known ≠ positionId })
        last.exact }

theorem Carries.applyEntry (carries : Carries memory ledgers) {entry : Entry Decimal}
    (known : entry.Known) (amounts : ∀ amount ∈ entry.amount?, amount.IsFinite)
    (sums : ∀ sum ∈ ledgers.sums entry.exact, Decimal.Representable sum) (eventId : Nat) :
    Ends (PortfolioManager.applyEntry eventId entry) memory
      { returned := fun _ after => Carries after (ledgers.post entry.exact)
        raised := fun _ _ => False
        crashed := fun _ => False } := by
  cases entry with
  | other action => exact known.elim
  | deposit amount | realizedPnl _ _ amount | funding _ _ amount =>
      have finite := amounts amount rfl
      exact ends_bind _ (carries.credit finite (sums _ (by simp [Entry.exact, Memory.sums, Memory.balance])))
        fun _ _ next => next.credit finite (sums _ (by
          simp [Entry.exact, Memory.sums, Memory.balance, Memory.credited, Memory.setBalance]))
  | withdraw amount | fee _ _ amount =>
      have finite := amounts amount rfl
      exact ends_bind _ (carries.debit finite (sums _ (by simp [Entry.exact, Memory.sums, Memory.balance])))
        fun _ _ next => next.credit finite (sums _ (by
          simp [Entry.exact, Memory.sums, Memory.balance, Memory.debited, Memory.setBalance]))
  | reserveMargin positionId amount =>
      have finite := amounts amount rfl
      exact ends_bind _ (carries.debit finite (sums _ (by simp [Entry.exact, Memory.sums, Memory.balance])))
        fun _ _ next => ends_bind _ (next.credit finite (sums _ (by
            simp [Entry.exact, Memory.sums, Memory.balance, Memory.debited, Memory.setBalance])))
          fun _ _ last => last.credit finite (sums _ (by
            simp [Entry.exact, Memory.sums, Memory.balance, Memory.credited, Memory.debited,
              Memory.setBalance, Memory.reservedFor]))
  | allocateMargin positionId amount =>
      have finite := amounts amount rfl
      refine ends_bind _ (carries.debit finite (sums _ (by
        simp [Entry.exact, Memory.sums, Memory.balance]))) fun _ _ next => ?_
      refine ends_bind _ (next.credit finite (sums _ (by
        simp [Entry.exact, Memory.sums, Memory.balance, Memory.debited, Memory.setBalance])))
        fun _ _ third => ?_
      refine ends_bind _ (third.debit finite (sums _ (by
        simp [Entry.exact, Memory.sums, Memory.balance, Memory.credited, Memory.debited,
          Memory.setBalance, Memory.reservedFor]))) fun _ _ fourth => ?_
      refine ends_bind _ (fourth.credit finite (sums _ (by
        simp [Entry.exact, Memory.sums, Memory.balance, Memory.credited, Memory.debited,
          Memory.setBalance, Memory.usedFor]))) fun _ after last => ?_
      exact
        { finite := { balance := last.finite.balance, unrealizedPnl := last.finite.unrealizedPnl }
          exact := congrArg (fun ledgers : Memory ℚ =>
            { ledgers with openPositionIds := addToSet ledgers.openPositionIds positionId }) last.exact }
  | releaseMargin positionId =>
      exact carries.release positionId sums
  | updateMarks unrealizedPnl exposure heat =>
      exact
        { finite :=
            { balance := fun account => by
                have kept := carries.finite.balance account
                cases account <;> exact kept
              unrealizedPnl := amounts unrealizedPnl rfl }
          exact := congrArg (fun ledgers : Memory ℚ =>
            { ledgers with
              unrealizedPnl := unrealizedPnl.exactly
              exposure := exposure.exactly
              heat := heat.exactly }) carries.exact }

theorem Carries.assets (carries : Carries memory ledgers)
    (sums : ∀ sum ∈ ledgers.checkedSums, Decimal.Representable sum) :
    ∃ assets, memory.snapshot.assets = .ok assets ∧ assets.IsFinite ∧ assets.exactly =
      ledgers.availableCash + ledgers.reservedMargin + ledgers.usedMargin + ledgers.unrealizedPnl := by
  obtain ⟨finite, rfl⟩ := carries
  obtain ⟨margin, first, marginFinite, marginValue⟩ :=
    Decimal.add_exact (finite.balance .availableCash) (finite.balance .reservedMargin)
      (sums _ (by simp only [Memory.checkedSums, List.mem_cons, Memory.balance, Memory.exact, true_or]))
  obtain ⟨held, second, heldFinite, heldValue⟩ :=
    Decimal.add_exact marginFinite (finite.balance .usedMargin)
      (sums _ (by
        rw [marginValue]
        simp only [Memory.checkedSums, List.mem_cons, Memory.balance, Memory.exact, true_or, or_true]))
  obtain ⟨assets, third, assetsFinite, assetsValue⟩ :=
    Decimal.add_exact heldFinite finite.unrealizedPnl
      (sums _ (by
        rw [heldValue, marginValue]
        simp only [Memory.checkedSums, List.mem_cons, Memory.balance, Memory.exact, true_or, or_true]))
  refine ⟨assets, (bind_of_ok first).trans ((bind_of_ok second).trans third), assetsFinite, ?_⟩
  · rw [assetsValue, heldValue, marginValue]
    rfl

theorem Carries.equity (carries : Carries memory ledgers)
    (sums : ∀ sum ∈ ledgers.checkedSums, Decimal.Representable sum) :
    ∃ equity, memory.snapshot.equity = .ok equity ∧ equity.IsFinite ∧
      equity.exactly = ledgers.wallet + ledgers.unrealizedPnl := by
  obtain ⟨finite, rfl⟩ := carries
  obtain ⟨kept, first, keptFinite, keptValue⟩ :=
    Decimal.sub_exact (finite.balance .deposits) (finite.balance .withdrawals)
      (sums _ (by
        simp only [Memory.checkedSums, List.mem_cons, Memory.balance, Memory.exact, true_or, or_true]))
  obtain ⟨realized, second, realizedFinite, realizedValue⟩ :=
    Decimal.add_exact keptFinite (finite.balance .realizedPnl)
      (sums _ (by
        rw [keptValue]
        simp only [Memory.checkedSums, List.mem_cons, Memory.balance, Memory.exact, true_or, or_true]))
  obtain ⟨funded, third, fundedFinite, fundedValue⟩ :=
    Decimal.add_exact realizedFinite (finite.balance .funding)
      (sums _ (by
        rw [realizedValue, keptValue]
        simp only [Memory.checkedSums, List.mem_cons, Memory.balance, Memory.exact, true_or, or_true]))
  obtain ⟨wallet, fourth, walletFinite, walletValue⟩ :=
    Decimal.sub_exact fundedFinite (finite.balance .fees)
      (sums _ (by
        rw [fundedValue, realizedValue, keptValue]
        simp only [Memory.checkedSums, Memory.wallet, List.mem_cons, Memory.balance, Memory.exact,
          true_or, or_true]))
  have isWallet : wallet.exactly = memory.exact.wallet := by
    rw [walletValue, fundedValue, realizedValue, keptValue]
    rfl
  obtain ⟨equity, fifth, equityFinite, equityValue⟩ :=
    Decimal.add_exact walletFinite finite.unrealizedPnl
      (sums _ (by
        rw [isWallet]
        simp only [Memory.checkedSums, List.mem_cons, Memory.exact, true_or, or_true]))
  have isBalance : memory.snapshot.walletBalance = .ok wallet :=
    (bind_of_ok first).trans ((bind_of_ok second).trans ((bind_of_ok third).trans fourth))
  refine ⟨equity, (bind_of_ok isBalance).trans fifth, equityFinite, ?_⟩
  · rw [equityValue, isWallet]
    rfl

theorem Carries.assertInvariant (carries : Carries memory ledgers) (balanced : Balanced ledgers)
    (sums : ∀ sum ∈ ledgers.checkedSums, Decimal.Representable sum) (state : Memory Decimal) :
    PortfolioManager.assertInvariant memory.snapshot state = (.returned (), state) := by
  obtain ⟨assets, isAssets, assetsFinite, assetsValue⟩ := carries.assets sums
  obtain ⟨equity, isEquity, equityFinite, equityValue⟩ := carries.equity sums
  have zeroFinite : (Arithmetic.zero : Decimal).IsFinite := trivial
  obtain ⟨claims, isClaims, claimsFinite, claimsValue⟩ :=
    Decimal.add_exact zeroFinite equityFinite (by
      rw [exactly_zero, zero_add, equityValue]
      exact sums _ (by simp only [Memory.checkedSums, List.mem_cons, true_or, or_true]))
  have equal := Decimal.equal_exact assetsFinite claimsFinite
  have same : assets.exactly = claims.exactly := by
    rw [claimsValue, exactly_zero, zero_add, equityValue, assetsValue, balanced]
  rw [decide_eq_true same] at equal
  change Process.bind (ofArithmetic memory.snapshot.assets) _ state = _
  rw [isAssets]
  change Process.bind (ofArithmetic memory.snapshot.equity) _ state = _
  rw [isEquity]
  change Process.bind (ofArithmetic (Decimal.add Arithmetic.zero equity)) _ state = _
  rw [isClaims]
  change Process.bind (ofArithmetic (Decimal.equal assets claims)) _ state = _
  rw [equal]
  rfl

variable {Stored : Type}

theorem Carries.applyEvent (carries : Carries memory ledgers) (balanced : Balanced ledgers)
    {event : Event Stored} (fresh : event.eventId ∉ memory.appliedEventIds) {entry : Entry Decimal}
    (known : entry.Known) (exact_ : Exact memory entry) (pmId : String) :
    ∃ after, memory.applyEvent event { pmId, entry } = (.ok after.snapshot, after) ∧
      Carries after (ledgers.posted event entry.exact) := by
  have isLedgers := carries.exact
  have noted : Carries { memory with appliedEventIds := memory.appliedEventIds ++ [event.eventId] }
      { ledgers with appliedEventIds := ledgers.appliedEventIds ++ [event.eventId] } :=
    { finite := { balance := carries.finite.balance, unrealizedPnl := carries.finite.unrealizedPnl }
      exact := by
        rw [← isLedgers]
        rfl }
  have sums := exact_.sums
  rw [isLedgers] at sums
  have ends := noted.applyEntry known exact_.amount
    (fun sum member => sums sum (List.mem_append_left _ member)) event.eventId
  rw [post_appliedEventIds] at ends
  unfold Ends at ends
  rcases ran : PortfolioManager.applyEntry event.eventId entry
    { memory with appliedEventIds := memory.appliedEventIds ++ [event.eventId] } with ⟨outcome, after⟩
  rw [ran] at ends
  cases outcome with
  | raised error => exact ends.elim
  | crashed => exact ends.elim
  | returned posted =>
      have final : Carries { after with updatedAtUtc := some event.timestampUtc }
          (ledgers.posted event entry.exact) :=
        { finite := { balance := ends.finite.balance, unrealizedPnl := ends.finite.unrealizedPnl }
          exact := congrArg (fun ledgers : Memory ℚ =>
            { ledgers with updatedAtUtc := some event.timestampUtc }) ends.exact }
      refine ⟨_, ?_, final⟩
      have checked := final.assertInvariant (balanced.post entry.exact)
        (fun sum member => sums sum (List.mem_append_right _ member))
        { after with updatedAtUtc := some event.timestampUtc }
      have applied : applyNew event { pmId, entry } memory = (.returned
          ({ after with updatedAtUtc := some event.timestampUtc } : Memory Decimal).snapshot,
          { after with updatedAtUtc := some event.timestampUtc }) := by
        change Process.bind (PortfolioManager.applyEntry event.eventId entry) _
          { memory with appliedEventIds := memory.appliedEventIds ++ [event.eventId] } = _
        unfold Process.bind
        rw [ran]
        change Process.bind (PortfolioManager.assertInvariant
          ({ after with updatedAtUtc := some event.timestampUtc } : Memory Decimal).snapshot) _
          { after with updatedAtUtc := some event.timestampUtc } = _
        unfold Process.bind
        rw [checked]
        rfl
      unfold Memory.applyEvent
      rw [if_neg fresh, applied]

variable [Source Stored (Payload Decimal)]

structure Kept (pmId : String) (host : Host Stored (Memory Decimal)) : Prop where
  ready : Ready pmId host
  replays : (journal pmId).replay Memory.initial host.log.entries = .ok host.memory
  balanced : Balanced host.memory.exact
  finite : AllFinite host.memory

def ExactStep {pmId : String} (system : System Stored Decimal) (step : Step pmId Stored Decimal) :
    Prop :=
  ∀ call, step = .call call → system.alive = true → call.Records pmId system.host →
    Exact system.host.memory call.entry

def Answers {pmId : String} (system : System Stored Decimal) (step : Step pmId Stored Decimal) :
    Prop :=
  ∀ call error, step = .call call → system.alive = true →
    (call.operation pmId system.host).1 = .raised error →
      (call.operation pmId system.host).2.log = system.host.log

theorem Kept.start {pmId : String} (environment : Nat → StoreAnswer) :
    Kept pmId (System.start environment : System Stored Decimal).host :=
  { ready := sound_empty pmId
    replays := rfl
    balanced := exact_initial ▸ balanced_initial
    finite := allFinite_initial }

variable {pmId : String} {system : System Stored Decimal}

theorem Kept.call {host : Host Stored (Memory Decimal)} (kept : Kept pmId host)
    (call : Call Decimal) (exact_ : call.Records pmId host → Exact host.memory call.entry) :
    Ends (call.operation pmId) host
      { returned := fun _ after => Kept pmId after
        raised := fun _ after => Kept pmId after ∧ after.log = host.log
        crashed := fun after => Kept pmId after } := by
  have unchanged {after : Host Stored (Memory Decimal)}
      (same : after.log = host.log ∧ after.memory = host.memory) : Kept pmId after := by
    obtain ⟨log, memory⟩ := same
    exact
      { ready := by
          unfold Ready
          rw [log, memory]
          exact kept.ready
        replays := by rw [log, memory]; exact kept.replays
        balanced := by rw [memory]; exact kept.balanced
        finite := by rw [memory]; exact kept.finite }
  have carries : Carries host.memory host.memory.exact := { finite := kept.finite, exact := rfl }
  refine (call.operation_spec kept.ready).mono ?_ ?_ (fun after same => unchanged same)
  · rintro value after (⟨rfl, _⟩ | ⟨records, ready, event, snapshot, fresh, _, own, entries,
      applied⟩)
    · exact kept
    · obtain ⟨memory, posted, carried⟩ := carries.applyEvent kept.balanced fresh call.entry_known
        (exact_ records) pmId
      rw [posted] at applied
      obtain ⟨_, isMemory⟩ := Prod.mk.inj applied
      refine
        { ready
          replays := ?_
          balanced := ?_
          finite := isMemory ▸ carried.finite }
      · rw [entries, Journal.replay_concat, kept.replays]
        change (journal pmId).replayEvent host.memory event = _
        unfold Journal.replayEvent
        rw [own]
        dsimp only
        rw [show (journal pmId).apply host.memory event _ = _ from posted, isMemory]
      · rw [← isMemory, carried.exact]
        exact kept.balanced.post call.entry.exact
  · rintro error after (same | ⟨records, ready, event, problem, fresh, own, entries, applied⟩)
    · exact ⟨unchanged same, same.1⟩
    · obtain ⟨memory, posted, _⟩ := carries.applyEvent kept.balanced fresh call.entry_known
        (exact_ records) pmId
      rw [posted] at applied
      cases applied

theorem Kept.foreign {host : Host Stored (Memory Decimal)} (kept : Kept pmId host)
    (added : Foreign pmId Stored Decimal) :
    Kept pmId { host with
      log := (host.log.append added.eventType added.payload added.key added.now).2 } := by
  refine
    { ready := Sound.foreign kept.ready added.notOwn added.otherKey
      replays := ?_
      balanced := kept.balanced
      finite := kept.finite }
  rcases Log.append_cases host.log added.eventType added.payload added.key added.now with
    unchanged | ⟨_, entries⟩
  · change (journal pmId).replay Memory.initial
      (host.log.append added.eventType added.payload added.key added.now).2.entries = _
    rw [unchanged]
    exact kept.replays
  · have notOwn : (journal pmId : Journal Stored (Payload Decimal) (Memory Decimal) _ _).own?
        (host.log.nextEvent added.eventType added.payload added.key added.now) = none := by
      change ((Source.own? added.payload).filter _ : Option (Payload Decimal)) = none
      rw [added.notOwn]
      rfl
    change (journal pmId).replay Memory.initial
      (host.log.append added.eventType added.payload added.key added.now).2.entries = _
    rw [entries, Journal.replay_concat, kept.replays]
    change (journal pmId).replayEvent host.memory _ = _
    unfold Journal.replayEvent
    rw [notOwn]

theorem Kept.step (kept : Kept pmId system.host) (step : Step pmId Stored Decimal)
    (exact_ : ExactStep system step) : Kept pmId (system.step step).host ∧ Answers system step := by
  obtain ⟨host, alive⟩ := system
  cases step with
  | call call =>
      cases alive with
      | false =>
          refine ⟨kept, ?_⟩
          intro other error same isAlive
          cases isAlive
      | true =>
          have ends := kept.call call (exact_ call rfl rfl)
          unfold Ends at ends
          unfold System.step
          dsimp only at ends ⊢
          rw [if_pos rfl]
          refine ⟨?_, ?_⟩
          · rcases ran : call.operation pmId host with ⟨outcome, after⟩
            rw [ran] at ends
            cases outcome with
            | returned snapshot => exact ends
            | raised error => exact ends.1
            | crashed => exact ends
          · rintro other error same _ raised
            cases same
            dsimp only at raised ⊢
            rcases ran : call.operation pmId host with ⟨outcome, after⟩
            rw [ran] at ends raised
            cases raised
            exact ends.2
  | foreign added => exact ⟨kept.foreign added, fun call error same => by cases same⟩
  | kill => exact ⟨kept, fun call error same => by cases same⟩
  | restart =>
      refine ⟨?_, fun call error same => by cases same⟩
      unfold System.step
      dsimp only
      cases constructed : (construct pmId host.log : Except _ (Memory Decimal)) with
      | error error => exact kept
      | ok rebuilt =>
          have same : rebuilt = host.memory := Sound.rebuilt kept.ready constructed
          rw [same]
          exact kept

theorem Kept.run (kept : Kept pmId system.host) {steps : List (Step pmId Stored Decimal)}
    (exact_ : Along System.step ExactStep system steps) :
    Along System.step Answers system steps ∧ Kept pmId (steps.foldl System.step system).host := by
  induction steps generalizing system with
  | nil => exact ⟨trivial, kept⟩
  | cons step steps ih =>
      obtain ⟨keptNext, answers⟩ := kept.step step exact_.1
      obtain ⟨rest, keptFinal⟩ := ih keptNext exact_.2
      exact ⟨⟨answers, rest⟩, keptFinal⟩

/-- While no recorded event rounds a sum, a call whose event is stored does not raise,
and a manager rebuilt from the store has the live manager's snapshot. -/
theorem run_replays_of_exact {pmId : String}
    (named : construct pmId (Ledger.empty : Log Stored) = .ok (Memory.initial : Memory Decimal))
    (environment : Nat → StoreAnswer) (steps : List (Step pmId Stored Decimal))
    (exact_ : Along System.step ExactStep (System.start environment) steps) :
    let start : System Stored Decimal := System.start environment
    let final := steps.foldl System.step start
    Along System.step Answers start steps ∧
      ∃ rebuilt : Memory Decimal, construct pmId final.host.log = .ok rebuilt ∧
        rebuilt.snapshot = final.host.memory.snapshot := by
  intro start final
  obtain ⟨answers, kept⟩ := (Kept.start environment).run exact_
  refine ⟨answers, final.host.memory, ?_, rfl⟩
  unfold construct at named ⊢
  split at named
  · cases named
  split at named
  · cases named
  next notBlank short =>
    rw [if_neg notBlank, if_neg short]
    exact kept.replays

theorem run_replays_of_exact_deposit :
    let start : System (Payload Decimal) Decimal := System.start steadyStore
    let steps : List (Step "main" (Payload Decimal) Decimal) :=
      [.call (.deposit (Decimal.ofInt 100) "first"), .kill, .restart]
    let final := steps.foldl System.step start
    Along System.step Answers start steps ∧
      ∃ rebuilt : Memory Decimal, construct "main" final.host.log = .ok rebuilt ∧
        rebuilt.snapshot = final.host.memory.snapshot := by
  refine run_replays_of_exact rfl steadyStore _ ⟨?_, ?_, ?_, trivial⟩
  · rintro call same _ _
    cases same
    have hundred : Decimal.Representable 100 :=
      ⟨100, 0, by decide, by decide, by decide, by norm_num⟩
    have value : (Decimal.ofInt 100).exactly = 100 := by
      change ((100 : Int) : ℚ) * 10 ^ (0 : Int) = 100
      norm_num
    refine { amount := fun amount member => by cases member; trivial, sums := ?_ }
    change ∀ sum ∈ (Memory.exact Memory.initial).sums (.deposit (Decimal.ofInt 100).exactly) ++
      ((Memory.exact Memory.initial).post (.deposit (Decimal.ofInt 100).exactly)).checkedSums, _
    rw [exact_initial, value]
    intro sum member
    simp only [Memory.sums, Memory.checkedSums, Memory.post, Memory.credited, Memory.setBalance,
      Memory.balance, Memory.wallet, Memory.initial, Arithmetic.zero, List.cons_append, List.nil_append,
      List.mem_cons, List.not_mem_nil, add_zero, zero_add, sub_zero, or_false, or_self] at member
    rw [member]
    exact hundred
  · intro call same
    cases same
  · intro call same
    cases same

def largeDeposit : Step "main" (Payload Decimal) Decimal :=
  .call (.deposit (.finite false 1 27) "first")

def firstProfit : Step "main" (Payload Decimal) Decimal :=
  .call (.applyRealizedPnl "position" "leg 1" (.finite false 6 (-1)))

/-- The second one is rounded in the cash again, but the wallet rounds their sum to 1. -/
def secondProfit : Call Decimal := .applyRealizedPnl "position" "leg 2" (.finite false 6 (-1))

def behindFirstProfit : System (Payload Decimal) Decimal :=
  ((System.start steadyStore).step largeDeposit).step firstProfit

theorem roundedProfits_not_replayed :
    let start : System (Payload Decimal) Decimal := System.start steadyStore
    let steps : List (Step "main" (Payload Decimal) Decimal) :=
      [largeDeposit, firstProfit, .call secondProfit]
    let final := steps.foldl System.step start
    ¬ Along System.step Answers start steps ∧
      ∀ rebuilt : Memory Decimal, construct "main" final.host.log ≠ .ok rebuilt := by
  have raises : ∃ error, (secondProfit.operation "main" behindFirstProfit.host).1 = .raised error :=
    Outcome.raises_iff.mp (by decide +kernel)
  have alive : behindFirstProfit.alive = true := by decide +kernel
  have stores : (secondProfit.operation "main" behindFirstProfit.host).2.log.entries.length ≠
      behindFirstProfit.host.log.entries.length := by
    decide +kernel
  have fails : (construct "main" (behindFirstProfit.step (.call secondProfit :
      Step "main" (Payload Decimal) Decimal)).host.log : Except _ (Memory Decimal)).toOption.isSome =
        false := by
    decide +kernel
  refine ⟨fun along => ?_, fun rebuilt constructed => ?_⟩
  · have answers : Answers behindFirstProfit (.call secondProfit :
        Step "main" (Payload Decimal) Decimal) := along.2.2.1
    obtain ⟨error, raised⟩ := raises
    exact stores (congrArg (fun log => log.entries.length)
      (answers secondProfit error rfl alive raised))
  · change construct "main" (behindFirstProfit.step (.call secondProfit :
      Step "main" (Payload Decimal) Decimal)).host.log = _ at constructed
    rw [constructed] at fails
    cases fails

end TurtleExecution.PortfolioManager

/-
The books of a position: its fills in the log, its exit legs, and its snapshot.

Numbers are exact.  An entry fill is recorded before the average price is computed, so
an entry that brings what was filled back to nothing is recorded and cannot be applied.
-/

import TurtleExecution.PositionManager.Remaining
import Mathlib.Algebra.BigOperators.Group.List.Basic

set_option autoImplicit false

namespace TurtleExecution.PositionManager

open ExchangeAdapter SharedStore Process Runs

/-- The entry fill of the position that the event records; the event that opens the
position is not a fill. -/
def Payload.entryOf? (payload : Payload ℚ) (positionId : String) : Option (EntryDetails ℚ) :=
  match payload.change with
  | .entryFill edge details =>
      if payload.positionId = positionId ∧ edge.trigger ≠ .firstFill then some details else none
  | _ => none

section

variable {Stored : Type} [Source Stored (Payload ℚ)] {pmId : String}

def entryFills (pmId : String) (log : Log Stored) (positionId : String) : List (EntryDetails ℚ) :=
  log.entries.filterMap fun event =>
    ((journal pmId : Journal Stored (Payload ℚ) (Memory ℚ) _ _).own? event).bind
      fun payload => payload.entryOf? positionId

private theorem entryFills_concat {log after : Log Stored} {event : Event Stored}
    (entries : after.entries = log.entries ++ [event]) (positionId : String) :
    entryFills pmId after positionId = entryFills pmId log positionId ++
      (((journal pmId : Journal Stored (Payload ℚ) (Memory ℚ) _ _).own? event).bind
        fun payload => payload.entryOf? positionId).toList := by
  unfold entryFills
  rw [entries, List.filterMap_append]
  apply congrArg
  cases shown : ((journal pmId : Journal Stored (Payload ℚ) (Memory ℚ) _ _).own? event).bind
      fun payload => payload.entryOf? positionId with
  | none => exact List.filterMap_cons_none shown
  | some details => exact List.filterMap_cons_some shown

private theorem own?_recordedEvent {log : Log Stored} {key : MutationKey} {payload : Payload ℚ}
    {now : String} (isMine : payload.pmId = pmId) :
    (journal pmId : Journal Stored (Payload ℚ) (Memory ℚ) _ _).own?
      (recordedEvent pmId log key payload now) = some payload := by
  change ((Source.own? (Source.wrap payload : Stored) : Option (Payload ℚ)).filter _) = _
  rw [Source.own?_wrap]
  simp [journal, isMine]

private theorem entryFills_recorded {log after : Log Stored} {key : MutationKey} {payload : Payload ℚ}
    {now : String} (isMine : payload.pmId = pmId)
    (entries : after.entries = log.entries ++ [recordedEvent pmId log key payload now])
    (positionId : String) :
    entryFills pmId after positionId = entryFills pmId log positionId ++
      (payload.entryOf? positionId).toList := by
  rw [entryFills_concat entries, own?_recordedEvent isMine, Option.bind_some]

end

/-! ### The books of one position -/

def filledIn (fills : List (EntryDetails ℚ)) : ℚ :=
  (fills.map EntryDetails.fillQuantity).sum

def costOf (fills : List (EntryDetails ℚ)) : ℚ :=
  (fills.map fun fill => fill.fillPrice * fill.fillQuantity).sum

def feesOf (fills : List (EntryDetails ℚ)) : ℚ :=
  (fills.map EntryDetails.fee).sum

def legSum (amount : ClosedLeg ℚ → ℚ) (legs : List (ClosedLeg ℚ)) : ℚ :=
  (legs.map amount).sum

@[simp] theorem legSum_nil (amount : ClosedLeg ℚ → ℚ) : legSum amount [] = 0 := rfl

@[simp] theorem legSum_concat (amount : ClosedLeg ℚ → ℚ) (legs : List (ClosedLeg ℚ))
    (leg : ClosedLeg ℚ) : legSum amount (legs ++ [leg]) = legSum amount legs + amount leg := by
  simp [legSum]

@[simp] theorem filledIn_concat (fills : List (EntryDetails ℚ)) (fill : EntryDetails ℚ) :
    filledIn (fills ++ [fill]) = filledIn fills + fill.fillQuantity := by
  simp [filledIn]

@[simp] theorem costOf_concat (fills : List (EntryDetails ℚ)) (fill : EntryDetails ℚ) :
    costOf (fills ++ [fill]) = costOf fills + fill.fillPrice * fill.fillQuantity := by
  simp [costOf]

@[simp] theorem feesOf_concat (fills : List (EntryDetails ℚ)) (fill : EntryDetails ℚ) :
    feesOf (fills ++ [fill]) = feesOf fills + fill.fee := by
  simp [feesOf]

/-- The snapshot of a position against its exit legs and its entry fills. -/
structure Conserved (snapshot : PositionSnapshot ℚ) (legs : List (ClosedLeg ℚ))
    (fills : List (EntryDetails ℚ)) : Prop where
  filled : snapshot.filledQuantity = filledIn fills
  remaining : snapshot.filledQuantity - snapshot.remainingQuantity = legSum ClosedLeg.quantity legs
  pnl : snapshot.realizedPnl = legSum ClosedLeg.realizedPnl legs
  multiple : snapshot.realizedR = legSum ClosedLeg.r legs
  fees : snapshot.feesPaid = feesOf fills + legSum ClosedLeg.fee legs
  cost : ∀ average, snapshot.avgEntryPrice = some average →
    average * snapshot.filledQuantity = costOf fills
  unpriced : snapshot.avgEntryPrice = none → fills = []
  legs : ∀ leg ∈ legs, ∃ entryPx, leg.entryPx = some entryPx ∧
    leg.realizedPnl = (leg.exitPx - entryPx) * leg.quantity - leg.fee

def Entering (state : PositionLifecycleState) : Prop :=
  state = .new ∨ state = .opened ∨ state = .partiallyFilled

instance : DecidablePred Entering := fun state =>
  inferInstanceAs (Decidable (state = .new ∨ state = .opened ∨ state = .partiallyFilled))

private theorem entering_of_nextState? {state target : PositionLifecycleState}
    {trigger : PositionLifecycleTrigger} (next : nextState? state trigger = some target)
    (entering : Entering target) : Entering state ∧ isExitTrigger trigger = false := by
  have backwards : ∀ edge ∈ transitionTable, Entering edge.2.2 →
      Entering edge.1 ∧ isExitTrigger edge.2.1 = false := by decide
  exact backwards _ (TransitionTable.mem_of_nextState? next) entering

/-- An entry fill is not recorded where it brings a filled quantity back to nothing. -/
def averageable : Conditions ℚ :=
  { entry := fun existing fill => existing.filledQuantity ≠ 0 →
      existing.filledQuantity + fill.quantity ≠ 0
    exit := fun _ _ => True }

private theorem conserved_created {Stored : Type} (event : Event Stored) (positionId : String)
    (details : CreateDetails ℚ) : Conserved (createdSnapshot event positionId details) [] [] := by
  constructor
  · rfl
  · exact sub_self (0 : ℚ)
  · rfl
  · rfl
  · exact (add_zero (0 : ℚ)).symm
  · intro average absent
    cases absent
  · intro _
    rfl
  · intro leg absent
    cases absent

private theorem weightedAveragePrice_cost {average : Option ℚ} {filled price quantity newAvg cost : ℚ}
    (averaged : weightedAveragePrice average filled price quantity = .ok newAvg)
    (priced : ∀ known, average = some known → known * filled = cost)
    (unpriced : average = none → filled = 0 ∧ cost = 0) :
    newAvg * (filled + quantity) = cost + price * quantity := by
  cases average with
  | none =>
      obtain ⟨nothing, free⟩ := unpriced rfl
      cases averaged
      rw [nothing, free]
      ring
  | some known =>
      have costs := priced known rfl
      by_cases nothing : filled = 0
      · have isPrice : newAvg = price := by
          unfold weightedAveragePrice at averaged
          obtain ⟨isZero, compared, averaged⟩ := ok_of_bind averaged
          obtain rfl : decide (filled = 0) = isZero := Except.ok.inj compared
          rw [if_pos (decide_eq_true nothing)] at averaged
          exact (Except.ok.inj averaged).symm
        rw [isPrice, ← costs, nothing]
        ring
      · unfold weightedAveragePrice at averaged
        obtain ⟨isZero, compared, averaged⟩ := ok_of_bind averaged
        obtain rfl : decide (filled = 0) = isZero := Except.ok.inj compared
        rw [if_neg (by rw [decide_eq_true_iff]; exact nothing)] at averaged
        change (if filled + quantity = 0 then (Except.error _ : Except ArithmeticError ℚ)
          else .ok ((known * filled + price * quantity) / (filled + quantity))) = .ok newAvg
            at averaged
        split at averaged
        · cases averaged
        · rename_i nonzero
          rw [← Except.ok.inj averaged, ← costs]
          exact div_mul_cancel₀ _ nonzero

private theorem enteredSnapshot_computes {Stored : Type} (event : Event Stored)
    {existing : PositionSnapshot ℚ} (edge : Edge) (details : EntryDetails ℚ)
    (nonzero : existing.filledQuantity ≠ 0 → existing.filledQuantity + details.fillQuantity ≠ 0) :
    ∃ next, enteredSnapshot event existing edge details = .ok next := by
  have averages : ∃ newAvg, weightedAveragePrice existing.avgEntryPrice existing.filledQuantity
      details.fillPrice details.fillQuantity = .ok newAvg := by
    unfold weightedAveragePrice
    cases existing.avgEntryPrice with
    | none => exact ⟨_, rfl⟩
    | some average =>
        change ∃ newAvg, (if decide (existing.filledQuantity = 0) = true
          then (.ok details.fillPrice : Except ArithmeticError ℚ)
          else if existing.filledQuantity + details.fillQuantity = 0 then .error .divisionByZero
            else .ok ((average * existing.filledQuantity +
              details.fillPrice * details.fillQuantity) /
                (existing.filledQuantity + details.fillQuantity))) = .ok newAvg
        by_cases nothing : existing.filledQuantity = 0
        · rw [if_pos (decide_eq_true nothing)]
          exact ⟨_, rfl⟩
        · rw [if_neg (by rw [decide_eq_true_iff]; exact nothing), if_neg (nonzero nothing)]
          exact ⟨_, rfl⟩
  obtain ⟨newAvg, averaged⟩ := averages
  unfold enteredSnapshot
  rw [averaged]
  exact ⟨_, rfl⟩

section

variable {Stored : Type} {event : Event Stored} {existing next : PositionSnapshot ℚ} {edge : Edge}
  {legs : List (ClosedLeg ℚ)} {fills : List (EntryDetails ℚ)}

theorem Conserved.entered {details : EntryDetails ℚ} (conserved : Conserved existing [] fills)
    (computed : enteredSnapshot event existing edge details = .ok next) :
    Conserved next [] (fills ++ [details]) := by
  obtain ⟨newAvg, newFilled, feesPaid, averaged, filled, paid, rfl⟩ := enteredSnapshot_ok computed
  obtain rfl : existing.filledQuantity + details.fillQuantity = newFilled := Except.ok.inj filled
  obtain rfl : existing.feesPaid + details.fee = feesPaid := Except.ok.inj paid
  constructor
  · rw [filledIn_concat, ← conserved.filled]
  · exact sub_self _
  · exact conserved.pnl
  · exact conserved.multiple
  · have before := conserved.fees
    rw [legSum_nil, add_zero] at before ⊢
    rw [feesOf_concat, ← before]
  · intro average isAverage
    cases isAverage
    rw [costOf_concat]
    apply weightedAveragePrice_cost averaged conserved.cost
    intro unpriced
    have none := conserved.unpriced unpriced
    rw [conserved.filled, none]
    exact ⟨rfl, rfl⟩
  · intro absent
    cases absent
  · exact conserved.legs

theorem Conserved.opened {fill : Fill ℚ} (conserved : Conserved existing [] fills)
    (untouched : existing.Untouched) : Conserved (openedSnapshot existing fill event.timestampUtc)
      [] fills := by
  have none := conserved.unpriced untouched.average
  subst none
  constructor
  · rfl
  · exact sub_self (0 : ℚ)
  · exact conserved.pnl
  · exact conserved.multiple
  · exact (add_zero (0 : ℚ)).symm
  · intro average _
    exact mul_zero average
  · intro _
    rfl
  · exact conserved.legs

theorem Conserved.exited {positionId : String} {avgEntryPrice : ℚ} {fill : Fill ℚ} {reason : String}
    {details : ExitDetails ℚ} (conserved : Conserved existing legs fills)
    (averaged : existing.avgEntryPrice = some avgEntryPrice)
    (detailed : exitDetails existing avgEntryPrice fill reason = .ok details)
    (computed : exitedSnapshot event existing edge details = .ok next) :
    Conserved next (legs ++ [closedLeg event positionId existing details]) fills := by
  obtain ⟨remaining, pnl, multiple, fees, remains, realizes, multiplies, paid, rfl⟩ :=
    exitedSnapshot_ok computed
  obtain rfl : existing.remainingQuantity - details.fillQuantity = remaining :=
    Except.ok.inj remains
  obtain rfl : existing.realizedPnl + details.realizedPnl = pnl := Except.ok.inj realizes
  obtain rfl : existing.realizedR + details.r = multiple := Except.ok.inj multiplies
  obtain rfl : existing.feesPaid + details.fee = fees := Except.ok.inj paid
  constructor
  · exact conserved.filled
  · rw [legSum_concat, ← conserved.remaining]
    change existing.filledQuantity - (existing.remainingQuantity - details.fillQuantity) =
      existing.filledQuantity - existing.remainingQuantity + details.fillQuantity
    ring
  · rw [legSum_concat, ← conserved.pnl]
    rfl
  · rw [legSum_concat, ← conserved.multiple]
    rfl
  · rw [legSum_concat, ← add_assoc, ← conserved.fees]
    rfl
  · exact conserved.cost
  · exact conserved.unpriced
  · intro leg member
    rcases List.mem_append.mp member with old | new
    · exact conserved.legs leg old
    · rw [List.mem_singleton.mp new]
      obtain ⟨r, pct, realizedPnl, realized, rfl⟩ := exitDetails_ok detailed
      exact ⟨avgEntryPrice, averaged, (Except.ok.inj realized).symm⟩

end

/-! ### The books of a manager -/

def Memory.legs (memory : Memory ℚ) (positionId : String) : List (ClosedLeg ℚ) :=
  (memory.closedLegs.get? positionId).getD []

section

variable {Stored : Type} [Source Stored (Payload ℚ)] {pmId : String}

structure Accounted (pmId : String) (log : Log Stored) (positionId : String)
    (snapshot : Option (PositionSnapshot ℚ)) (legs : List (ClosedLeg ℚ))
    (fills : List (EntryDetails ℚ)) : Prop where
  keyed : ∀ fill ∈ fills, InLog pmId log (.entry positionId fill.fillId)
  distinct : (fills.map EntryDetails.fillId).Nodup
  untracked : snapshot = none → legs = [] ∧ fills = []
  conserved : ∀ existing, snapshot = some existing → Conserved existing legs fills
  entering : ∀ existing, snapshot = some existing → Entering existing.lifecycleState → legs = []

def AllAccounted (pmId : String) (log : Log Stored) (memory : Memory ℚ) : Prop :=
  ∀ positionId, Accounted pmId log positionId (memory.snapshots.get? positionId)
    (memory.legs positionId) (entryFills pmId log positionId)

variable {fills : List (EntryDetails ℚ)} {positionId : String}

omit [Source Stored (Payload ℚ)] in
theorem Accounted.of_tracked {log : Log Stored} {snapshot : PositionSnapshot ℚ}
    {legs : List (ClosedLeg ℚ)}
    (keyed : ∀ fill ∈ fills, InLog pmId log (.entry positionId fill.fillId))
    (distinct : (fills.map EntryDetails.fillId).Nodup) (conserved : Conserved snapshot legs fills)
    (entering : Entering snapshot.lifecycleState → legs = []) :
    Accounted pmId log positionId (some snapshot) legs fills := by
  refine { keyed, distinct, untracked := ?_, conserved := ?_, entering := ?_ }
  · intro absent
    cases absent
  · intro existing isSnapshot
    cases isSnapshot
    exact conserved
  · intro existing isSnapshot
    cases isSnapshot
    exact entering

omit [Source Stored (Payload ℚ)] in
theorem Accounted.grow {log after : Log Stored} {snapshot : Option (PositionSnapshot ℚ)}
    {legs : List (ClosedLeg ℚ)} (accounted : Accounted pmId log positionId snapshot legs fills)
    (grows : ∀ key, InLog pmId log key → InLog pmId after key) :
    Accounted pmId after positionId snapshot legs fills :=
  { accounted with keyed := fun fill member => grows _ (accounted.keyed fill member) }

omit [Source Stored (Payload ℚ)] in
theorem Accounted.advance {log : Log Stored} {existing next : PositionSnapshot ℚ}
    {legs : List (ClosedLeg ℚ)}
    (accounted : Accounted pmId log positionId (some existing) legs fills)
    (conserved : Conserved existing legs fills → Conserved next legs fills)
    (entering : Entering next.lifecycleState → Entering existing.lifecycleState) :
    Accounted pmId log positionId (some next) legs fills := by
  apply Accounted.of_tracked accounted.keyed accounted.distinct
  · exact conserved (accounted.conserved existing rfl)
  · intro isEntering
    exact accounted.entering existing rfl (entering isEntering)

def AppliesInBooks (pmId : String) (after : Log Stored) (memory : Memory ℚ) (event : Event Stored)
    (payload : Payload ℚ) : Prop :=
  ∃ value base, memory.applyEvent event payload = (.ok value, base) ∧ AllAccounted pmId after base

theorem Memory.legs_addLeg (memory : Memory ℚ) (positionId other : String) (leg : ClosedLeg ℚ) :
    (memory.addLeg positionId leg).legs other =
      if other = positionId then memory.legs other ++ [leg] else memory.legs other := by
  unfold Memory.legs Memory.addLeg
  dsimp only
  rw [Dict.get?_set]
  by_cases same : other = positionId
  · rw [if_pos same, if_pos same, same]
    rfl
  · rw [if_neg same, if_neg same]

section

variable {log after : Log Stored} {memory base : Memory ℚ} {key : MutationKey}
  {payload : Payload ℚ} {now : String} {existing next : PositionSnapshot ℚ}
  {result : Except ArithmeticError (PositionSnapshot ℚ)}
  (accounted : AllAccounted pmId log memory) (isMine : payload.pmId = pmId)
  (entries : after.entries = log.entries ++ [recordedEvent pmId log key payload now])

include accounted isMine entries

theorem AllAccounted.recorded_for
    (snapshots : base.snapshots = memory.snapshots.set payload.positionId next)
    (added : List (ClosedLeg ℚ))
    (legs : ∀ other, base.legs other =
      if other = payload.positionId then memory.legs other ++ added else memory.legs other)
    (own : (∀ other, InLog pmId log other → InLog pmId after other) → InLog pmId after key →
      Accounted pmId after payload.positionId (some next)
        (memory.legs payload.positionId ++ added)
        (entryFills pmId log payload.positionId ++
          (payload.entryOf? payload.positionId).toList)) :
    AllAccounted pmId after base := by
  have grows : ∀ key, InLog pmId log key → InLog pmId after key :=
    fun other logged => (inLog_concat entries other).mpr (Or.inl logged)
  intro positionId
  rw [snapshots, Dict.get?_set, entryFills_recorded isMine entries, legs]
  by_cases same : positionId = payload.positionId
  · rw [if_pos same, if_pos same, same]
    exact own grows ((inLog_concat entries key).mpr (Or.inr rfl))
  · have silent : payload.entryOf? positionId = none := by
      unfold Payload.entryOf?
      cases payload.change with
      | entryFill edge details => exact if_neg fun both => same both.1.symm
      | _ => rfl
    rw [if_neg same, if_neg same, silent, Option.toList_none, List.append_nil]
    exact (accounted positionId).grow grows

variable (applied : memory.applyEvent (recordedEvent pmId log key payload now) payload =
    base.commit payload.positionId result)
  (computed : result = .ok next) (snapshots : base.snapshots = memory.snapshots)

include applied computed snapshots

theorem AllAccounted.committed (added : List (ClosedLeg ℚ))
    (legs : ∀ other, base.legs other =
      if other = payload.positionId then memory.legs other ++ added else memory.legs other)
    (own : (∀ other, InLog pmId log other → InLog pmId after other) → InLog pmId after key →
      Accounted pmId after payload.positionId (some next)
        (memory.legs payload.positionId ++ added)
        (entryFills pmId log payload.positionId ++
          (payload.entryOf? payload.positionId).toList)) :
    AppliesInBooks pmId after memory (recordedEvent pmId log key payload now) payload := by
  unfold AppliesInBooks
  rw [applied, computed]
  refine ⟨some next, _, rfl, accounted.recorded_for isMine entries ?_ added legs own⟩
  exact congrArg (fun known => Dict.set known payload.positionId next) snapshots

variable (closedLegs : base.closedLegs = memory.closedLegs)

include closedLegs

theorem AllAccounted.committed_sameLegs
    (own : (∀ other, InLog pmId log other → InLog pmId after other) → InLog pmId after key →
      Accounted pmId after payload.positionId (some next) (memory.legs payload.positionId)
        (entryFills pmId log payload.positionId ++
          (payload.entryOf? payload.positionId).toList)) :
    AppliesInBooks pmId after memory (recordedEvent pmId log key payload now) payload := by
  apply accounted.committed isMine entries applied computed snapshots []
  · intro other
    rw [List.append_nil, ite_self]
    unfold Memory.legs
    rw [closedLegs]
  · rw [List.append_nil]
    exact own

theorem AllAccounted.committed_advance
    (silent : payload.entryOf? payload.positionId = none)
    (tracked : memory.snapshots.get? payload.positionId = some existing)
    (conserved : Conserved existing (memory.legs payload.positionId)
        (entryFills pmId log payload.positionId) →
      Conserved next (memory.legs payload.positionId) (entryFills pmId log payload.positionId))
    (entering : Entering next.lifecycleState → Entering existing.lifecycleState) :
    AppliesInBooks pmId after memory (recordedEvent pmId log key payload now) payload := by
  have before := accounted payload.positionId
  rw [tracked] at before
  apply accounted.committed_sameLegs isMine entries applied computed snapshots closedLegs
  intro grows _
  rw [silent, Option.toList_none, List.append_nil]
  exact (before.grow grows).advance conserved entering

end

section

variable {log after : Log Stored} {memory : Memory ℚ} {now positionId : String} {fill : Fill ℚ}
  {existing : PositionSnapshot ℚ} {edge : Edge}

variable {key : MutationKey} {payload : Payload ℚ}

theorem AllAccounted.create {seq : Nat} {details : CreateDetails ℚ}
    (isCreate : payload =
      { pmId, seq := some seq, positionId := positionIdOf pmId seq, change := .create details })
    (accounted : AllAccounted pmId log memory)
    (fresh : (recordedEvent pmId log key payload now).eventId ∉ memory.appliedEventIds)
    (untracked : memory.snapshots.get? (positionIdOf pmId seq) = none)
    (entries : after.entries = log.entries ++ [recordedEvent pmId log key payload now]) :
    AppliesInBooks pmId after memory (recordedEvent pmId log key payload now) payload := by
  subst isCreate
  obtain ⟨noLegs, noFills⟩ := (accounted (positionIdOf pmId seq)).untracked untracked
  refine ⟨_, _, applyEvent_create fresh, accounted.recorded_for rfl entries rfl [] ?_ ?_⟩
  · intro other
    unfold Memory.legs
    dsimp only
    rw [Dict.get?_set, List.append_nil, ite_self]
    by_cases same : other = positionIdOf pmId seq
    · rw [if_pos same, same]
      rfl
    · rw [if_neg same]
  · intro _ _
    dsimp only [Payload.entryOf?]
    rw [noLegs, noFills]
    apply Accounted.of_tracked
    · intro fill absent
      cases absent
    · exact List.nodup_nil
    · exact conserved_created _ _ details
    · intro _
      rfl

theorem AllAccounted.opening (accounted : AllAccounted pmId log memory)
    (fresh : (recordedEvent pmId log key (openingPayload pmId positionId fill) now).eventId ∉
      memory.appliedEventIds) (tracked : memory.snapshots.get? positionId = some existing)
    (isNew : existing.lifecycleState = .new) (untouched : existing.Untouched)
    (entries : after.entries = log.entries ++
      [recordedEvent pmId log key (openingPayload pmId positionId fill) now]) :
    AppliesInBooks pmId after memory
      (recordedEvent pmId log key (openingPayload pmId positionId fill) now)
      (openingPayload pmId positionId fill) := by
  have next : nextState? .new .firstFill = some .opened := by decide
  have before := accounted positionId
  rw [tracked] at before
  have noLegs : memory.legs positionId = [] := before.entering existing rfl (Or.inl isNew)
  apply accounted.committed_advance rfl entries
    (applyEvent_entryFill fresh tracked ⟨isNew.symm, next⟩)
    (enteredSnapshot_opening _ fill untouched) rfl rfl (if_neg fun both => both.2 rfl) tracked
  · intro conserved
    change Conserved existing (memory.legs positionId) _ at conserved
    change Conserved _ (memory.legs positionId) _
    rw [noLegs] at conserved ⊢
    exact conserved.opened untouched
  · intro _
    exact Or.inl isNew

theorem AllAccounted.entry (accounted : AllAccounted pmId log memory)
    (fresh : (recordedEvent pmId log (.entry positionId fill.fillId)
      (entryPayload pmId positionId fill edge) now).eventId ∉ memory.appliedEventIds)
    (tracked : memory.snapshots.get? positionId = some existing)
    (isOpen : existing.lifecycleState = .opened ∨ existing.lifecycleState = .partiallyFilled)
    (legal : edge.Legal existing.lifecycleState)
    (classifies : edge.trigger = .entryComplete ∨ edge.trigger = .entryPartial)
    (allowed : averageable.entry existing fill)
    (unused : ¬ InLog pmId log (.entry positionId fill.fillId))
    (entries : after.entries = log.entries ++ [recordedEvent pmId log
      (.entry positionId fill.fillId) (entryPayload pmId positionId fill edge) now]) :
    AppliesInBooks pmId after memory (recordedEvent pmId log (.entry positionId fill.fillId)
      (entryPayload pmId positionId fill edge) now) (entryPayload pmId positionId fill edge) := by
  have before := accounted positionId
  rw [tracked] at before
  have noLegs : memory.legs positionId = [] := before.entering existing rfl (Or.inr isOpen)
  have conserved := before.conserved existing rfl
  rw [noLegs] at conserved
  obtain ⟨next, computed⟩ := enteredSnapshot_computes
    (recordedEvent pmId log (.entry positionId fill.fillId)
      (entryPayload pmId positionId fill edge) now) edge
    { fillId := fill.fillId
      fillPrice := fill.price
      fillQuantity := fill.quantity
      fee := fill.fee } allowed
  have credited : (entryPayload pmId positionId fill edge).entryOf? positionId = some
      { fillId := fill.fillId
        fillPrice := fill.price
        fillQuantity := fill.quantity
        fee := fill.fee } := by
    apply if_pos
    refine ⟨rfl, ?_⟩
    intro isFirst
    rcases classifies with other | other <;> cases isFirst.symm.trans other
  apply accounted.committed_sameLegs rfl entries (applyEvent_entryFill fresh tracked legal) computed
    rfl rfl
  intro grows logged
  change Accounted pmId after positionId (some next) (memory.legs positionId)
    (entryFills pmId log positionId ++
      ((entryPayload pmId positionId fill edge).entryOf? positionId).toList)
  rw [credited, Option.toList_some, noLegs]
  apply Accounted.of_tracked
  · intro known member
    rcases List.mem_append.mp member with old | new
    · exact grows _ (before.keyed known old)
    · rw [List.mem_singleton.mp new]
      exact logged
  · rw [List.map_append]
    apply before.distinct.append (List.nodup_singleton _)
    intro fillId old new
    obtain ⟨known, member, rfl⟩ := List.mem_map.mp old
    have used := before.keyed known member
    rw [List.mem_singleton.mp new] at used
    exact unused used
  · exact conserved.entered computed
  · intro _
    rfl

theorem AllAccounted.exit {avgEntryPrice : ℚ} {reason : String} {details : ExitDetails ℚ}
    (isExit : payload = { pmId, seq := none, positionId, change := .exit edge details })
    (accounted : AllAccounted pmId log memory)
    (fresh : (recordedEvent pmId log key payload now).eventId ∉ memory.appliedEventIds)
    (tracked : memory.snapshots.get? positionId = some existing)
    (legal : edge.Legal existing.lifecycleState) (exits : isExitTrigger edge.trigger = true)
    (averaged : existing.avgEntryPrice = some avgEntryPrice)
    (detailed : exitDetails existing avgEntryPrice fill reason = .ok details)
    (entries : after.entries = log.entries ++ [recordedEvent pmId log key payload now]) :
    AppliesInBooks pmId after memory (recordedEvent pmId log key payload now) payload := by
  subst isExit
  have before := accounted positionId
  rw [tracked] at before
  have conserved := before.conserved existing rfl
  apply accounted.committed rfl entries (applyEvent_exit fresh tracked legal) rfl rfl
    [closedLeg _ positionId existing details]
  · intro other
    exact Memory.legs_addLeg _ positionId other _
  · intro grows _
    have silent : Payload.entryOf?
        { pmId, seq := none, positionId, change := .exit edge details } positionId = none := rfl
    rw [silent, Option.toList_none, List.append_nil]
    apply Accounted.of_tracked
    · intro known member
      exact grows _ (before.keyed known member)
    · exact before.distinct
    · exact conserved.exited averaged detailed rfl
    · intro isEntering
      have entered := entering_of_nextState? legal.2 isEntering
      rw [exits] at entered
      cases entered.2

theorem AllAccounted.recorded (consistent : Consistent pmId log memory)
    (accounted : AllAccounted pmId log memory)
    (recorded : Recorded averageable pmId memory key payload) (unused : ¬ InLog pmId log key)
    (entries : after.entries = log.entries ++ [recordedEvent pmId log key payload now]) :
    AppliesInBooks pmId after memory (recordedEvent pmId log key payload now) payload := by
  have fresh := consistent.fresh key payload now
  cases recorded with
  | create seq details =>
      have untracked : memory.snapshots.get? (positionIdOf pmId seq) = none := by
        cases tracked : memory.snapshots.get? (positionIdOf pmId seq) with
        | none => rfl
        | some existing => exact absurd (consistent.named _ existing tracked).2 unused
      exact accounted.create rfl fresh untracked entries
  | opening positionId fill existing tracked isNew =>
      exact accounted.opening fresh tracked isNew
        (consistent.untouched positionId existing tracked isNew) entries
  | entry positionId fill existing edge tracked isOpen legal classifies allowed =>
      exact accounted.entry fresh tracked isOpen legal classifies allowed unused entries
  | exit positionId fill existing avgEntryPrice reason edge details tracked legal exits averaged
      detailed allowed =>
      exact accounted.exit rfl fresh tracked legal exits averaged detailed entries
  | transition positionId change existing edge tracked legal =>
      apply accounted.committed_advance rfl entries (applyEvent_transition change fresh tracked legal)
        rfl rfl rfl rfl tracked
      · intro conserved
        exact { conserved with }
      · intro isEntering
        rw [← legal.1]
        exact (entering_of_nextState? legal.2 isEntering).1
  | funding positionId existing details tracked =>
      apply accounted.committed_advance rfl entries (applyEvent_funding fresh tracked) rfl rfl rfl rfl
        tracked
      · intro conserved
        exact { conserved with }
      · exact id

end

/-! ### Runs -/

structure Books (pmId : String) (log : Log Stored) (memory : Memory ℚ) : Prop where
  accounted : AllAccounted pmId log memory
  replays : ∃ rebuilt, (journal pmId).replay (Memory.initial : Memory ℚ) log.entries = .ok rebuilt

theorem Books.recorded {log after : Log Stored} {memory : Memory ℚ} {key : MutationKey}
    {payload : Payload ℚ} {now : String} (consistent : Consistent pmId log memory)
    (books : Books pmId log memory) (recorded : Recorded averageable pmId memory key payload)
    (unused : ¬ InLog pmId log key)
    (entries : after.entries = log.entries ++ [recordedEvent pmId log key payload now]) :
    Books pmId after (memory.applyEvent (recordedEvent pmId log key payload now) payload).2 := by
  obtain ⟨value, base, applied, accounted⟩ :=
    books.accounted.recorded consistent recorded unused entries
  have isMine := (recorded.named fun positionId existing tracked =>
    (consistent.named positionId existing tracked).1).1
  constructor
  · rw [applied]
    exact accounted
  · obtain ⟨rebuilt, ran⟩ := books.replays
    have alike := consistent.faithful.replayed rebuilt ran
    have result := (alike.applyEvent (recordedEvent pmId log key payload now) payload).1
    rw [applied] at result
    rw [entries, Journal.replay_concat, ran]
    change ∃ next, (journal pmId).replayEvent rebuilt (recordedEvent pmId log key payload now) =
      .ok next
    unfold Journal.replayEvent
    rw [own?_recordedEvent isMine]
    rcases appliedRebuilt : rebuilt.applyEvent (recordedEvent pmId log key payload now) payload with
      ⟨outcome, next⟩
    rw [appliedRebuilt] at result
    obtain rfl : outcome = .ok value := result
    refine ⟨next, ?_⟩
    dsimp only
    rw [show (journal pmId).apply rebuilt (recordedEvent pmId log key payload now) payload =
      (.ok value, next) from appliedRebuilt]

theorem Books.foreign {log after : Log Stored} {memory : Memory ℚ} {event : Event Stored}
    (notOwn : (journal pmId : Journal Stored (Payload ℚ) (Memory ℚ) _ _).own? event = none)
    (entries : after.entries = log.entries ++ [event]) (books : Books pmId log memory) :
    Books pmId after memory := by
  constructor
  · intro positionId
    rw [entryFills_concat entries, notOwn, Option.bind_none, Option.toList_none, List.append_nil]
    exact (books.accounted positionId).grow fun other logged =>
      (inLog_concat entries other).mpr (Or.inl logged)
  · obtain ⟨rebuilt, ran⟩ := books.replays
    refine ⟨rebuilt, ?_⟩
    rw [entries, Journal.replay_concat, ran]
    change (journal pmId).replayEvent rebuilt event = .ok rebuilt
    unfold Journal.replayEvent
    rw [notOwn]

def Watch.books (pmId : String) (Stored : Type) [Source Stored (Payload ℚ)] :
    Watch pmId Stored ℚ :=
  { conditions := averageable
    opens := by
      intro existing fill now untouched _ nonzero
      exact absurd rfl nonzero
    kept := Books pmId
    alike := by
      intro log memory other alike books
      refine { books with accounted := ?_ }
      unfold AllAccounted Memory.legs
      rw [alike.snapshots, alike.closedLegs]
      exact books.accounted
    foreign := fun _ _ _ _ notOwn entries books => books.foreign notOwn entries
    recorded := fun _ _ _ _ _ _ consistent books recorded unused entries =>
      books.recorded consistent recorded unused entries }

private theorem books_empty : Books pmId (Ledger.empty : Log Stored) Memory.initial := by
  constructor
  · intro positionId
    constructor
    · intro fill absent
      cases absent
    · exact List.nodup_nil
    · intro _
      exact ⟨rfl, rfl⟩
    · intro existing absent
      cases absent
    · intro existing absent
      cases absent
  · exact ⟨Memory.initial, rfl⟩

/-- While no recorded entry brings a filled quantity back to nothing, the snapshot of a
position is the sum of its distinct entry fills and its exit legs, and a manager that is
rebuilt from the log has the same positions and legs. -/
theorem run_conserved {memory : Memory ℚ}
    (constructed : construct pmId (Ledger.empty : Log Stored) = .ok memory)
    (environment : Nat → StoreAnswer) (steps : List (Step pmId Stored ℚ))
    (meets : Along System.step averageable.StepMeets (System.start environment) steps) :
    let final := ((System.start environment).run steps).host
    (∀ positionId snapshot, final.memory.snapshots.get? positionId = some snapshot →
      Conserved snapshot (final.memory.legs positionId) (entryFills pmId final.log positionId) ∧
        ((entryFills pmId final.log positionId).map EntryDetails.fillId).Nodup) ∧
    ∃ rebuilt : Memory ℚ, construct pmId final.log = .ok rebuilt ∧
      rebuilt.snapshots = final.memory.snapshots ∧ rebuilt.closedLegs = final.memory.closedLegs := by
  intro final
  have started : Watched (Watch.books pmId Stored) (System.start environment).host :=
    { consistent := consistent_empty pmId, kept := books_empty }
  have watched := started.run meets
  constructor
  · intro positionId snapshot tracked
    have accounted := watched.kept.accounted positionId
    exact ⟨accounted.conserved snapshot tracked, accounted.distinct⟩
  · obtain ⟨rebuilt, ran⟩ := watched.kept.replays
    have rebuilds : construct pmId final.log = .ok rebuilt := by
      unfold construct at constructed ⊢
      split at constructed
      · cases constructed
      split at constructed
      · cases constructed
      rename_i notBlank short
      rw [if_neg notBlank, if_neg short]
      exact ran
    have alike := watched.consistent.rebuilt rebuilds
    exact ⟨rebuilt, rebuilds, alike.snapshots, alike.closedLegs⟩

end

theorem run_conserved_stoppedOut :
    let final := (steadyStart.run [openTwo, enterOne, stopOut 1]).host
    (∀ positionId snapshot, final.memory.snapshots.get? positionId = some snapshot →
      Conserved snapshot (final.memory.legs positionId) (entryFills "main" final.log positionId) ∧
        ((entryFills "main" final.log positionId).map EntryDetails.fillId).Nodup) ∧
    ∃ rebuilt : Memory ℚ, construct "main" final.log = .ok rebuilt ∧
      rebuilt.snapshots = final.memory.snapshots ∧
      rebuilt.closedLegs = final.memory.closedLegs := by
  apply run_conserved rfl steadyStore [openTwo, enterOne, stopOut 1]
  refine ⟨?_, ?_, ?_, trivial⟩
  · intro call isCall _
    cases isCall
    trivial
  · intro call isCall _
    cases isCall
    intro existing tracked _ _ nonzero
    have filled : ((steadyStart.run [openTwo]).host.memory.snapshots.get?
        (positionIdOf "main" 1)).map PositionSnapshot.filledQuantity = some 0 := by
      decide +kernel
    change (steadyStart.run [openTwo]).host.memory.snapshots.get? (positionIdOf "main" 1) =
      some existing at tracked
    rw [tracked] at filled
    exact absurd (Option.some.inj filled) nonzero
  · intro call isCall _
    cases isCall
    exact fun _ _ _ _ _ => trivial

def takeBackOne : Step "main" (Payload ℚ) ℚ :=
  .call (.entryFill (positionIdOf "main" 1) (fillAt "f2" 100 (-1)))

private theorem takeBackOne_unreadable :
    (match (construct "main" (steadyStart.run [openTwo, enterOne, takeBackOne]).host.log :
        Except PositionManagerError (Memory ℚ)) with
      | .ok _ => true
      | .error _ => false) = false := by
  decide +kernel

/-- The entry is in the log, is not in the position, and no manager can be rebuilt. -/
theorem not_run_conserved :
    ¬ ∀ steps : List (Step "main" (Payload ℚ) ℚ),
      (∀ positionId snapshot,
        (steadyStart.run steps).host.memory.snapshots.get? positionId = some snapshot →
        Conserved snapshot ((steadyStart.run steps).host.memory.legs positionId)
          (entryFills "main" (steadyStart.run steps).host.log positionId)) ∧
      ∃ rebuilt : Memory ℚ, construct "main" (steadyStart.run steps).host.log = .ok rebuilt := by
  intro conserved
  obtain ⟨books, rebuilt, rebuilds⟩ := conserved [openTwo, enterOne, takeBackOne]
  have unreadable := takeBackOne_unreadable
  rw [rebuilds] at unreadable
  cases unreadable

end TurtleExecution.PositionManager

/-
The remaining quantity of a position.

An entry sets it to the filled quantity and an exit takes the exit's quantity away.  No
exit is compared with what remains.
-/

import TurtleExecution.Foundation.DecimalMagnitude
import TurtleExecution.PositionManager.Runs

set_option autoImplicit false

namespace TurtleExecution.PositionManager

open ExchangeAdapter SharedStore Process Runs

section

variable {Number : Type} [LedgerArithmetic Number]

def Computed (number : Number) : Prop :=
  number = Arithmetic.zero ∨ ∃ left right : Number,
    Arithmetic.add left right = .ok number ∨ Arithmetic.sub left right = .ok number

/-- The order of the numbers, and what sums and differences keep of it, rounded or not. -/
class OrderedArithmetic (Number : Type) [LedgerArithmetic Number] : Prop where
  zero_le_zero : Arithmetic.le (Arithmetic.zero : Number) Arithmetic.zero = .ok true
  le_self : ∀ number : Number, Arithmetic.le Arithmetic.zero number = .ok true →
    Arithmetic.le number number = .ok true
  le_trans : ∀ number other last : Number, Arithmetic.le number other = .ok true →
    Arithmetic.le other last = .ok true → Arithmetic.le number last = .ok true
  le_of_lt : ∀ number other : Number, Arithmetic.lt number other = .ok true →
    Arithmetic.le number other = .ok true
  add_nonneg : ∀ left right sum : Number, Arithmetic.le Arithmetic.zero left = .ok true →
    Arithmetic.le Arithmetic.zero right = .ok true → Arithmetic.add left right = .ok sum →
    Arithmetic.le Arithmetic.zero sum = .ok true
  sub_between : ∀ left right difference : Number, Computed left →
    Arithmetic.le Arithmetic.zero right = .ok true → Arithmetic.le right left = .ok true →
    Arithmetic.sub left right = .ok difference →
    Arithmetic.le Arithmetic.zero difference = .ok true ∧
      Arithmetic.le difference left = .ok true

instance : OrderedArithmetic ℚ where
  zero_le_zero := congrArg Except.ok (decide_eq_true (le_refl (0 : ℚ)))
  le_self number _ := congrArg Except.ok (decide_eq_true (le_refl number))
  le_trans number other last first second := by
    have below : number ≤ other := of_decide_eq_true (Except.ok.inj first)
    have above : other ≤ last := of_decide_eq_true (Except.ok.inj second)
    exact congrArg Except.ok (decide_eq_true (below.trans above))
  le_of_lt number other less := by
    have below : number < other := of_decide_eq_true (Except.ok.inj less)
    exact congrArg Except.ok (decide_eq_true below.le)
  add_nonneg left right sum leftNonneg rightNonneg added := by
    have first : (0 : ℚ) ≤ left := of_decide_eq_true (Except.ok.inj leftNonneg)
    have second : (0 : ℚ) ≤ right := of_decide_eq_true (Except.ok.inj rightNonneg)
    cases added
    exact congrArg Except.ok (decide_eq_true (add_nonneg first second))
  sub_between left right difference _ rightNonneg below subtracted := by
    have nonneg : (0 : ℚ) ≤ right := of_decide_eq_true (Except.ok.inj rightNonneg)
    have fits : right ≤ left := of_decide_eq_true (Except.ok.inj below)
    cases subtracted
    exact ⟨congrArg Except.ok (decide_eq_true (sub_nonneg.mpr fits)),
      congrArg Except.ok (decide_eq_true (sub_le_self left nonneg))⟩

private theorem values_of_nonneg {number : Decimal}
    (nonneg : Arithmetic.le Arithmetic.zero number = .ok true) :
    ∃ value, number.extended = some value ∧
      (((0 : ℚ) : WithTop ℚ) : WithBot (WithTop ℚ)) ≤ value := by
  obtain ⟨zero, value, isZero, isValue, above⟩ := Decimal.le_iff_values.mp nonneg
  cases Decimal.extended_zero.symm.trans isZero
  exact ⟨value, isValue, of_decide_eq_true above.symm⟩

private theorem le_of_extended {number other : Decimal} {low high : WithBot (WithTop ℚ)}
    (isLow : number.extended = some low) (isHigh : other.extended = some high) (below : low ≤ high) :
    Arithmetic.le number other = .ok true :=
  (Decimal.le_of_values isLow isHigh).trans (congrArg Except.ok (decide_eq_true below))

private theorem operands_known {left right number : Decimal}
    {otherwise : Except ArithmeticError Decimal} {value : WithBot (WithTop ℚ)}
    (checked : Decimal.checkNaNs left right otherwise = .ok number)
    (isValue : number.extended = some value) :
    ∃ leftValue rightValue, left.extended = some leftValue ∧ right.extended = some rightValue := by
  have known : ∀ operand : Decimal, operand = left ∨ operand = right → operand.extended ≠ none := by
    rintro operand isOperand isNaN
    have isNone := Decimal.checkNaNs_of_nan (isOperand.imp (· ▸ isNaN) (· ▸ isNaN)) checked
    rw [isNone] at isValue
    cases isValue
  obtain ⟨leftValue, isLeft⟩ := Option.ne_none_iff_exists'.mp (known left (Or.inl rfl))
  obtain ⟨rightValue, isRight⟩ := Option.ne_none_iff_exists'.mp (known right (Or.inr rfl))
  exact ⟨leftValue, rightValue, isLeft, isRight⟩

/-- What is computed is a number of the context, or infinite. -/
private theorem rounded_of_computed {number : Decimal} (computed : Computed number)
    {value : WithBot (WithTop ℚ)} (isValue : number.extended = some value) :
    Decimal.nearestExtended value = value := by
  rcases computed with rfl | ⟨left, right, added | subtracted⟩
  · cases Decimal.extended_zero.symm.trans isValue
    exact congrArg (fun rounded : ℚ => ((rounded : WithTop ℚ) : WithBot (WithTop ℚ)))
      Decimal.nearest_zero
  · obtain ⟨leftValue, rightValue, isLeft, isRight⟩ := operands_known added isValue
    cases (Decimal.extended_add isLeft isRight added).symm.trans isValue
    exact Decimal.nearestExtended_nearestExtended _
  · obtain ⟨leftValue, rightValue, isLeft, isRight⟩ := operands_known subtracted isValue
    obtain ⟨negated, _, isDifference⟩ := Decimal.extended_sub isLeft isRight subtracted
    cases isDifference.symm.trans isValue
    exact Decimal.nearestExtended_nearestExtended _

private theorem zero_le_nearestExtended {value : WithBot (WithTop ℚ)}
    (nonneg : (((0 : ℚ) : WithTop ℚ) : WithBot (WithTop ℚ)) ≤ value) :
    (((0 : ℚ) : WithTop ℚ) : WithBot (WithTop ℚ)) ≤ Decimal.nearestExtended value := by
  have rounded := Decimal.nearestExtended_mono nonneg
  rwa [show Decimal.nearestExtended ((0 : ℚ) : WithTop ℚ) = ((0 : ℚ) : WithTop ℚ) from
    congrArg (fun rounded : ℚ => ((rounded : WithTop ℚ) : WithBot (WithTop ℚ)))
      Decimal.nearest_zero] at rounded

/-- A difference of what is not less, among the values with the infinities. -/
private theorem sub_values {left right difference : Decimal} {leftValue rightValue negated :
    WithBot (WithTop ℚ)} (isLeft : left.extended = some leftValue)
    (isRight : right.extended = some rightValue)
    (isNegated : right.copyNegate.extended = some negated)
    (nonneg : (((0 : ℚ) : WithTop ℚ) : WithBot (WithTop ℚ)) ≤ rightValue)
    (below : rightValue ≤ leftValue) (subtracted : Decimal.sub left right = .ok difference) :
    (((0 : ℚ) : WithTop ℚ) : WithBot (WithTop ℚ)) ≤ leftValue + negated ∧
      leftValue + negated ≤ leftValue := by
  cases right with
  | nan signaling => cases isRight
  | infinity negative =>
      cases negative with
      | true =>
          cases isRight
          exact absurd nonneg (not_le.mpr (WithBot.bot_lt_coe _))
      | false =>
          -- nothing but infinity is above it, and infinity less infinity raises
          cases isRight
          cases left with
          | nan signaling => cases isLeft
          | infinity other =>
              cases other with
              | true =>
                  cases isLeft
                  exact absurd below (not_le.mpr (WithBot.bot_lt_coe _))
              | false => cases subtracted
          | finite other coefficient exponent =>
              cases isLeft
              exact absurd below (not_le.mpr (WithBot.coe_lt_coe.mpr (WithTop.coe_lt_top _)))
  | finite negative coefficient exponent =>
      have isFinite : (Decimal.finite negative coefficient exponent).IsFinite := trivial
      rw [Decimal.extended_of_finite (Decimal.isFinite_copyNegate isFinite),
        Decimal.exactly_copyNegate] at isNegated
      rw [Decimal.extended_of_finite isFinite] at isRight
      cases isNegated
      cases isRight
      have least : (0 : ℚ) ≤ Decimal.exactly (.finite negative coefficient exponent) :=
        WithTop.coe_le_coe.mp (WithBot.coe_le_coe.mp nonneg)
      cases leftValue with
      | bot => exact absurd (nonneg.trans below) (not_le.mpr (WithBot.bot_lt_coe _))
      | coe leftValue =>
          cases leftValue with
          | top => exact ⟨le_top, le_refl _⟩
          | coe value =>
              have fits : Decimal.exactly (.finite negative coefficient exponent) ≤ value :=
                WithTop.coe_le_coe.mp (WithBot.coe_le_coe.mp below)
              constructor
              · exact WithBot.coe_le_coe.mpr (WithTop.coe_le_coe.mpr (by linarith))
              · exact WithBot.coe_le_coe.mpr (WithTop.coe_le_coe.mpr (by linarith))

instance : OrderedArithmetic Decimal where
  zero_le_zero := le_of_extended Decimal.extended_zero Decimal.extended_zero (le_refl _)
  le_self number nonneg := by
    obtain ⟨value, isValue, _⟩ := values_of_nonneg nonneg
    exact le_of_extended isValue isValue (le_refl value)
  le_trans number other last first second := by
    obtain ⟨low, middle, isLow, isMiddle, below⟩ := Decimal.le_iff_values.mp first
    obtain ⟨again, high, isAgain, isHigh, above⟩ := Decimal.le_iff_values.mp second
    cases isMiddle.symm.trans isAgain
    exact le_of_extended isLow isHigh
      ((of_decide_eq_true below.symm).trans (of_decide_eq_true above.symm))
  le_of_lt number other less := by
    obtain ⟨low, high, isLow, isHigh, below⟩ := Decimal.lt_iff_values.mp less
    exact le_of_extended isLow isHigh (of_decide_eq_true below.symm).le
  add_nonneg left right sum leftNonneg rightNonneg added := by
    obtain ⟨leftValue, isLeft, leftAbove⟩ := values_of_nonneg leftNonneg
    obtain ⟨rightValue, isRight, rightAbove⟩ := values_of_nonneg rightNonneg
    exact le_of_extended Decimal.extended_zero (Decimal.extended_add isLeft isRight added)
      (zero_le_nearestExtended (add_nonneg leftAbove rightAbove))
  sub_between left right difference computed rightNonneg below subtracted := by
    obtain ⟨rightValue, leftValue, isRight, isLeft, fits⟩ := Decimal.le_iff_values.mp below
    obtain ⟨known, isKnown, nonneg⟩ := values_of_nonneg rightNonneg
    cases isRight.symm.trans isKnown
    obtain ⟨negated, isNegated, isDifference⟩ := Decimal.extended_sub isLeft isRight subtracted
    obtain ⟨least, most⟩ := sub_values isLeft isRight isNegated nonneg
      (of_decide_eq_true fits.symm) subtracted
    refine ⟨le_of_extended Decimal.extended_zero isDifference (zero_le_nearestExtended least), ?_⟩
    refine le_of_extended isDifference isLeft ?_
    have rounded := Decimal.nearestExtended_mono most
    rwa [rounded_of_computed computed isLeft] at rounded

/-- What remains of a position is not negative and not more than was filled. -/
structure InRange (snapshot : PositionSnapshot Number) : Prop where
  computed : Computed snapshot.remainingQuantity
  nonneg : Arithmetic.le Arithmetic.zero snapshot.remainingQuantity = .ok true
  below : Arithmetic.le snapshot.remainingQuantity snapshot.filledQuantity = .ok true

def AllInRange (snapshots : Dict String (PositionSnapshot Number)) : Prop :=
  ∀ positionId snapshot, snapshots.get? positionId = some snapshot → InRange snapshot

/-- Fills are positive, and an exit is for no more than what remains. -/
def withinRemaining : Conditions Number :=
  { entry := fun _ fill => Arithmetic.lt Arithmetic.zero fill.quantity = .ok true
    exit := fun existing fill => Arithmetic.lt Arithmetic.zero fill.quantity = .ok true ∧
      Arithmetic.le fill.quantity existing.remainingQuantity = .ok true }

theorem AllInRange.set {snapshots : Dict String (PositionSnapshot Number)}
    (inRange : AllInRange snapshots) {positionId : String}
    {result : Except ArithmeticError (PositionSnapshot Number)}
    (next : ∀ snapshot, result = .ok snapshot → InRange snapshot) :
    AllInRange (written snapshots positionId result) := by
  intro other snapshot tracked
  rw [get?_written] at tracked
  cases result with
  | error error => exact inRange other snapshot tracked
  | ok written =>
      dsimp only at tracked
      split at tracked
      · cases tracked
        exact next snapshot rfl
      · exact inRange other snapshot tracked

variable [OrderedArithmetic Number]

private theorem inRange_of_nothing {snapshot : PositionSnapshot Number}
    (remaining : snapshot.remainingQuantity = Arithmetic.zero)
    (filled : snapshot.filledQuantity = Arithmetic.zero) : InRange snapshot := by
  constructor
  · exact Or.inl remaining
  · rw [remaining]
    exact OrderedArithmetic.zero_le_zero
  · rw [remaining, filled]
    exact OrderedArithmetic.zero_le_zero

variable {Stored : Type} {event : Event Stored}

theorem InRange.entered {existing next : PositionSnapshot Number} {edge : Edge}
    {details : EntryDetails Number} (inRange : InRange existing)
    (nonneg : Arithmetic.le Arithmetic.zero details.fillQuantity = .ok true)
    (computed : enteredSnapshot event existing edge details = .ok next) : InRange next := by
  obtain ⟨newAvg, newFilled, feesPaid, _, filled, _, rfl⟩ := enteredSnapshot_ok computed
  have filledNonneg :=
    OrderedArithmetic.le_trans _ _ _ inRange.nonneg inRange.below
  have sumNonneg := OrderedArithmetic.add_nonneg _ _ _ filledNonneg nonneg filled
  constructor
  · exact Or.inr ⟨_, _, Or.inl filled⟩
  · exact sumNonneg
  · exact OrderedArithmetic.le_self _ sumNonneg

theorem InRange.exited {existing next : PositionSnapshot Number} {edge : Edge}
    {details : ExitDetails Number} (inRange : InRange existing)
    (nonneg : Arithmetic.le Arithmetic.zero details.fillQuantity = .ok true)
    (fits : Arithmetic.le details.fillQuantity existing.remainingQuantity = .ok true)
    (computed : exitedSnapshot event existing edge details = .ok next) : InRange next := by
  obtain ⟨remaining, _, _, _, remains, _, _, _, rfl⟩ := exitedSnapshot_ok computed
  obtain ⟨remainingNonneg, smaller⟩ :=
    OrderedArithmetic.sub_between _ _ _ inRange.computed nonneg fits remains
  constructor
  · exact Or.inr ⟨_, _, Or.inr remains⟩
  · exact remainingNonneg
  · exact OrderedArithmetic.le_trans _ _ _ smaller inRange.below

theorem AllInRange.recorded {pmId : String} {memory : Memory Number} {key : MutationKey}
    {payload : Payload Number} (inRange : AllInRange memory.snapshots)
    (recorded : Recorded withinRemaining pmId memory key payload)
    (fresh : event.eventId ∉ memory.appliedEventIds) :
    AllInRange (memory.applyEvent event payload).2.snapshots := by
  cases recorded with
  | create seq details =>
      have created : AllInRange (written memory.snapshots (positionIdOf pmId seq)
          (.ok (createdSnapshot event (positionIdOf pmId seq) details))) := by
        apply inRange.set
        intro snapshot isCreated
        cases isCreated
        exact inRange_of_nothing rfl rfl
      rw [applyEvent_create fresh]
      exact created
  | opening positionId fill existing tracked isNew =>
      have next : nextState? .new .firstFill = some .opened := by decide
      rw [openingPayload, applyEvent_entryFill fresh tracked ⟨isNew.symm, next⟩,
        (commit_written _ _ _).1]
      apply inRange.set
      intro snapshot computed
      exact (inRange positionId existing tracked).entered OrderedArithmetic.zero_le_zero computed
  | entry positionId fill existing edge tracked isOpen legal classifies positive =>
      rw [entryPayload, applyEvent_entryFill fresh tracked legal, (commit_written _ _ _).1]
      apply inRange.set
      intro snapshot computed
      have nonneg := OrderedArithmetic.le_of_lt Arithmetic.zero fill.quantity positive
      exact (inRange positionId existing tracked).entered nonneg computed
  | exit positionId fill existing avgEntryPrice reason edge details tracked legal isExit averaged
      detailed allowed =>
      rw [applyEvent_exit fresh tracked legal, (commit_written _ _ _).1]
      apply inRange.set
      intro snapshot computed
      obtain ⟨r, pct, realizedPnl, _, rfl⟩ := exitDetails_ok detailed
      exact (inRange positionId existing tracked).exited
        (OrderedArithmetic.le_of_lt _ _ allowed.1) allowed.2 computed
  | transition positionId change existing edge tracked legal =>
      rw [applyEvent_transition change fresh tracked legal, (commit_written _ _ _).1]
      apply inRange.set
      intro snapshot computed
      cases computed
      exact { inRange positionId existing tracked with }
  | funding positionId existing details tracked =>
      rw [applyEvent_funding fresh tracked, (commit_written _ _ _).1]
      apply inRange.set
      intro snapshot computed
      obtain ⟨fundingPaid, _, funded⟩ := ok_of_bind computed
      cases funded
      exact { inRange positionId existing tracked with }

def Watch.remaining (pmId : String) (Stored Number : Type) [LedgerArithmetic Number]
    [OrderedArithmetic Number] [Source Stored (Payload Number)] : Watch pmId Stored Number :=
  { conditions := withinRemaining
    opens := fun _ _ _ _ positive => positive
    kept := fun _ memory => AllInRange memory.snapshots
    alike := fun _ memory other alike inRange => by
      rw [alike.snapshots]
      exact inRange
    foreign := fun _ _ _ _ _ _ inRange => inRange
    recorded := fun log _ memory key payload now consistent inRange recorded _ _ =>
      inRange.recorded recorded (consistent.fresh key payload now) }

/-- In a run whose exits are for no more than what remains, what remains of a position is
not negative and not more than was filled. -/
theorem run_inRange {Stored : Type} [LawfulZero Number] [Source Stored (Payload Number)]
    {pmId : String} (environment : Nat → StoreAnswer) (steps : List (Step pmId Stored Number))
    (meets : Along System.step withinRemaining.StepMeets (System.start environment) steps) :
    ∀ positionId snapshot,
      ((System.start environment).run steps).host.memory.snapshots.get? positionId = some snapshot →
      Arithmetic.le Arithmetic.zero snapshot.remainingQuantity = .ok true ∧
        Arithmetic.le snapshot.remainingQuantity snapshot.filledQuantity = .ok true := by
  intro positionId snapshot tracked
  have started : Watched (Watch.remaining pmId Stored Number) (System.start environment).host := by
    constructor
    · exact consistent_empty pmId
    · intro other existing absent
      cases absent
  have final := (started.run meets).kept positionId snapshot tracked
  exact ⟨final.nonneg, final.below⟩

end

instance {Number : Type} : Source (Payload Number) (Payload Number) where
  wrap := id
  own? := some
  own?_wrap := fun _ => rfl

def openTwo : Step "main" (Payload ℚ) ℚ :=
  .call (.create
    { symbol := btc
      side := .buy
      intendedQuantity := 2
      stopPrice := 95
      stopD := 1 / 20
      t1Price := 110
      t2Price := 120
      conviction := none })

def fillAt (fillId : String) (price quantity : ℚ) : Fill ℚ :=
  { fillId
    clientOrderId := "order"
    exchangeOrderId := "7"
    symbol := btc
    side := .buy
    price
    quantity
    fee := 1
    timestampUtc := "2026-01-01T00:00:00+00:00" }

def enterOne : Step "main" (Payload ℚ) ℚ :=
  .call (.entryFill (positionIdOf "main" 1) (fillAt "f1" 100 1))

def stopOut (quantity : ℚ) : Step "main" (Payload ℚ) ℚ :=
  .call (.exit (positionIdOf "main" 1) (fillAt "f2" 95 quantity) .stop none)

def steadyStart : System (Payload ℚ) ℚ := System.start steadyStore

private theorem enterOne_remaining :
    ((steadyStart.run [openTwo, enterOne]).host.memory.snapshots.get? (positionIdOf "main" 1)).map
      PositionSnapshot.remainingQuantity = some 1 := by
  decide +kernel

theorem run_inRange_stoppedOut :
    ∃ snapshot, (steadyStart.run [openTwo, enterOne, stopOut 1]).host.memory.snapshots.get?
        (positionIdOf "main" 1) = some snapshot ∧
      Arithmetic.le Arithmetic.zero snapshot.remainingQuantity = .ok true ∧
        Arithmetic.le snapshot.remainingQuantity snapshot.filledQuantity = .ok true := by
  have positive : Arithmetic.lt (Arithmetic.zero : ℚ) 1 = .ok true := by decide
  have isTracked : ((steadyStart.run [openTwo, enterOne, stopOut 1]).host.memory.snapshots.get?
      (positionIdOf "main" 1)).isSome = true := by decide +kernel
  obtain ⟨snapshot, tracked⟩ := Option.isSome_iff_exists.mp isTracked
  refine ⟨snapshot, tracked, ?_⟩
  apply run_inRange steadyStore [openTwo, enterOne, stopOut 1] _ _ snapshot tracked
  refine ⟨?_, ?_, ?_, trivial⟩
  · intro call isCall _
    cases isCall
    trivial
  · intro call isCall _
    cases isCall
    exact fun _ _ _ _ => positive
  · intro call isCall _
    cases isCall
    intro existing tracked _ _ _
    have remains := enterOne_remaining
    change (steadyStart.run [openTwo, enterOne]).host.memory.snapshots.get? (positionIdOf "main" 1) =
      some existing at tracked
    rw [tracked] at remains
    refine ⟨positive, ?_⟩
    rw [Option.some.inj remains]
    decide

theorem run_goesForward_stoppedOut :
    let between := steadyStart.run [openTwo, enterOne]
    let final := between.run [.kill, .restart, stopOut 1]
    Follows between.host.memory final.host.memory ∧
      ∀ rebuilt, construct "main" final.host.log = .ok rebuilt → Alike rebuilt final.host.memory :=
  run_goesForward steadyStore [openTwo, enterOne] [.kill, .restart, stopOut 1]

private theorem stopOutTwo_quantities :
    ((steadyStart.run [openTwo, enterOne, stopOut 2]).host.memory.snapshots.get?
      (positionIdOf "main" 1)).map (fun snapshot =>
        (snapshot.filledQuantity, snapshot.remainingQuantity)) = some (1, -1) := by
  decide +kernel

def Call.Positive : Call ℚ → Prop
  | .entryFill _ fill => 0 < fill.quantity
  | .exit _ fill _ _ => 0 < fill.quantity
  | _ => True

/-- An exit of more than what remains is recorded. -/
theorem not_run_inRange :
    ¬ ∀ steps : List (Step "main" (Payload ℚ) ℚ),
      (∀ step ∈ steps, ∀ call, step = .call call → call.Positive) →
      ∀ positionId snapshot,
        (steadyStart.run steps).host.memory.snapshots.get? positionId = some snapshot →
        0 ≤ snapshot.remainingQuantity ∧ snapshot.remainingQuantity ≤ snapshot.filledQuantity := by
  intro inRange
  obtain ⟨snapshot, tracked, shown⟩ := Option.map_eq_some_iff.mp stopOutTwo_quantities
  have one_pos : (0 : ℚ) < 1 := by decide
  have two_pos : (0 : ℚ) < 2 := by decide
  have positive : ∀ step ∈ [openTwo, enterOne, stopOut 2], ∀ call, step = .call call →
      call.Positive := by
    intro step member call isCall
    simp only [List.mem_cons, List.not_mem_nil, or_false] at member
    rcases member with rfl | rfl | rfl
    · cases isCall
      trivial
    · cases isCall
      exact one_pos
    · cases isCall
      exact two_pos
  have nonneg := (inRange _ positive _ snapshot tracked).1
  rw [(Prod.mk.inj shown).2] at nonneg
  exact absurd nonneg (by decide)

end TurtleExecution.PositionManager

/-
How two observations compare.

A quiet NaN equals nothing, not even itself, and a signaling one raises.
-/

import TurtleExecution.HistoricalStorage.Files

set_option autoImplicit false

namespace TurtleExecution.HistoricalStorage

def sameNumber (left right : Decimal) : Except StorageError Bool :=
  (LedgerArithmetic.eq left right).mapError .arithmetic

def both (first second : Except StorageError Bool) : Except StorageError Bool := do
  if ← first then second else return false

def Market.eq : (type : ObservationType) → Market type → Market type → Except StorageError Bool
  | .scalar _, left, right => sameNumber left right
  | .liquidation, left, right =>
      let left : Liquidation := left
      let right : Liquidation := right
      both (sameNumber left.price right.price) <|
        both (sameNumber left.size right.size) <|
        both (return decide (left.side = right.side ∧ left.direction = right.direction ∧
          left.method = right.method ∧ left.liquidatedUser = right.liquidatedUser)) <|
        both (sameNumber left.markPrice right.markPrice) (return decide (left.tid = right.tid))

variable {fromisoformat : IsoTexts} {type : ObservationType}

def SameProvenance (left right : Observation type) : Prop :=
  left.source = right.source ∧ left.sourceDetail = right.sourceDetail ∧
    left.ingestedAtUtc = right.ingestedAtUtc

instance (left right : Observation type) : Decidable (SameProvenance left right) :=
  inferInstanceAs (Decidable (_ ∧ _ ∧ _))

def Observation.eq (left right : Observation type) : Except StorageError Bool :=
  both (return decide (left.symbol = right.symbol ∧ left.observedAtUtc = right.observedAtUtc)) <|
    both (Market.eq type left.market right.market) (return decide (SameProvenance left right))

def Market.numbers : (type : ObservationType) → Market type → List Decimal
  | .scalar _, value => [value]
  | .liquidation, market =>
      [Liquidation.price market, Liquidation.size market, Liquidation.markPrice market]

def Signals (observation : Observation type) : Prop :=
  Decimal.nan true ∈ Market.numbers type observation.market

def HoldsNaN (observation : Observation type) : Prop :=
  ∃ number ∈ Market.numbers type observation.market, number.isNaN = true

def SameMarket (left right : Observation type) : Prop :=
  left.market = right.market ∨ Market.eq type left.market right.market = .ok true

private theorem compare_self (number : Decimal) : Decimal.compare number number = .eq := by
  cases number with
  | finite negative coefficient exponent => exact compare_eq_iff_eq.mpr rfl
  | infinity negative => exact if_pos rfl
  | nan signaling => rfl

variable {first second : Except StorageError Bool} {left right : Decimal}

private theorem sameNumber_total (leftQuiet : left ≠ .nan true) (rightQuiet : right ≠ .nan true) :
    ∃ same, sameNumber left right = .ok same := by
  have quiet : ¬(left = .nan true ∨ right = .nan true) := fun either =>
    either.elim leftQuiet rightQuiet
  change ∃ same, (Decimal.equal left right).mapError _ = _
  unfold Decimal.equal
  rw [if_neg quiet]
  split
  · exact ⟨false, rfl⟩
  · exact ⟨_, rfl⟩

private theorem quiet_of_sameNumber {same : Bool} (compared : sameNumber left right = .ok same) :
    left ≠ .nan true ∧ right ≠ .nan true := by
  have isEqual : Decimal.equal left right = .ok same := ok_of_mapError compared
  unfold Decimal.equal at isEqual
  split at isEqual
  · cases isEqual
  · rename_i quiet
    exact not_or.mp quiet

private theorem sameNumber_self {number : Decimal} (isNumber : number.isNaN = false) :
    sameNumber number number = .ok true := by
  have quiet : ¬(number = .nan true ∨ number = .nan true) := by
    rintro (rfl | rfl) <;> cases isNumber
  have numbers : ¬(number.isNaN ∨ number.isNaN) := by
    simp [isNumber]
  change (Decimal.equal number number).mapError _ = _
  unfold Decimal.equal
  rw [if_neg quiet, if_neg numbers, compare_self]
  rfl

private theorem isNaN_of_sameNumber (same : sameNumber left right = .ok true) :
    left.isNaN = false := by
  have isEqual : Decimal.equal left right = .ok true := ok_of_mapError same
  unfold Decimal.equal at isEqual
  split at isEqual
  · cases isEqual
  · split at isEqual
    · cases isEqual
    · rename_i numbers
      exact Bool.eq_false_iff.mpr (not_or.mp numbers).1

private theorem both_ok {first second : Bool} :
    both (.ok first) (.ok second) = .ok (first && second) := by
  cases first <;> rfl

private theorem both_total (isFirst : ∃ holds, first = .ok holds)
    (isSecond : ∃ holds, second = .ok holds) :
    ∃ holds, both first second = .ok holds := by
  obtain ⟨firstHolds, rfl⟩ := isFirst
  obtain ⟨secondHolds, rfl⟩ := isSecond
  exact ⟨_, both_ok⟩

private theorem both_true : both first second = .ok true ↔ first = .ok true ∧ second = .ok true := by
  cases first with
  | error raised => simp [both, bind, Except.bind]
  | ok holds => cases holds <;> simp [both, bind, Except.bind, pure, Except.pure]

variable {left right : Observation type}

private theorem market_eq_total (leftQuiet : ¬Signals left) (rightQuiet : ¬Signals right) :
    ∃ same, Market.eq type left.market right.market = .ok same := by
  have total : ∀ number ∈ Market.numbers type left.market,
      ∀ other ∈ Market.numbers type right.market, ∃ same, sameNumber number other = .ok same := by
    intro number member other isOther
    refine sameNumber_total ?_ ?_
    · rintro rfl
      exact leftQuiet member
    · rintro rfl
      exact rightQuiet isOther
  cases type with
  | scalar metric => exact total _ List.mem_cons_self _ List.mem_cons_self
  | liquidation =>
      refine both_total (total _ (by simp [Market.numbers]) _ (by simp [Market.numbers])) ?_
      refine both_total (total _ (by simp [Market.numbers]) _ (by simp [Market.numbers])) ?_
      refine both_total ⟨_, rfl⟩ (both_total ?_ ⟨_, rfl⟩)
      exact total _ (by simp [Market.numbers]) _ (by simp [Market.numbers])

private theorem market_eq_self {observation : Observation type} (numbers : ¬HoldsNaN observation) :
    Market.eq type observation.market observation.market = .ok true := by
  have isNumber : ∀ number ∈ Market.numbers type observation.market,
      sameNumber number number = .ok true := by
    intro number member
    exact sameNumber_self (Bool.eq_false_iff.mpr fun isNaN => numbers ⟨number, member, isNaN⟩)
  cases type with
  | scalar metric => exact isNumber _ List.mem_cons_self
  | liquidation =>
      refine both_true.mpr ⟨isNumber _ List.mem_cons_self, both_true.mpr ⟨isNumber _ ?_, ?_⟩⟩
      · exact List.mem_cons_of_mem _ List.mem_cons_self
      · refine both_true.mpr ⟨by simp [pure, Except.pure], both_true.mpr ⟨isNumber _ ?_, ?_⟩⟩
        · exact List.mem_cons_of_mem _ (List.mem_cons_of_mem _ List.mem_cons_self)
        · simp [pure, Except.pure]

private theorem numbers_of_market_eq (same : Market.eq type left.market right.market = .ok true) :
    ¬HoldsNaN left := by
  rintro ⟨number, member, isNaN⟩
  have isNumber : number.isNaN = false := by
    cases type with
    | scalar metric =>
        rw [List.mem_singleton.mp member]
        exact isNaN_of_sameNumber same
    | liquidation =>
        obtain ⟨price, afterPrice⟩ := both_true.mp same
        obtain ⟨size, afterSize⟩ := both_true.mp afterPrice
        obtain ⟨_, afterTexts⟩ := both_true.mp afterSize
        obtain ⟨markPrice, _⟩ := both_true.mp afterTexts
        simp only [Market.numbers, List.mem_cons, List.not_mem_nil, or_false] at member
        rcases member with rfl | rfl | rfl
        · exact isNaN_of_sameNumber price
        · exact isNaN_of_sameNumber size
        · exact isNaN_of_sameNumber markPrice
  rw [isNumber] at isNaN
  cases isNaN

private theorem quiet_of_market_eq (leftAccepted : Accepted fromisoformat left)
    (rightAccepted : Accepted fromisoformat right) {same : Bool}
    (compared : Market.eq type left.market right.market = .ok same) :
    ¬Signals left ∧ ¬Signals right := by
  cases type with
  | scalar metric =>
      obtain ⟨leftQuiet, rightQuiet⟩ := quiet_of_sameNumber compared
      exact ⟨fun signals => leftQuiet (List.mem_singleton.mp signals).symm,
        fun signals => rightQuiet (List.mem_singleton.mp signals).symm⟩
  | liquidation =>
      have quiet : ∀ observation : Observation .liquidation,
          Accepted fromisoformat observation → ¬Signals observation := by
        intro observation accepted signals
        obtain ⟨price, size, markPrice⟩ := accepted.numbers
        simp only [Signals, Market.numbers, List.mem_cons, List.not_mem_nil, or_false] at signals
        rcases signals with signal | signal | signal
        · rw [← signal] at price
          cases price
        · rw [← signal] at size
          cases size
        · rw [← signal] at markPrice
          cases markPrice
      exact ⟨quiet left leftAccepted, quiet right rightAccepted⟩

theorem identity_eq (same : identity left = identity right) :
    left.symbol = right.symbol ∧ left.observedAtUtc = right.observedAtUtc := by
  have texts : left.symbol.value = right.symbol.value ∧
      left.observedAtUtc = right.observedAtUtc := by
    cases type <;> simp only [identity, List.cons.injEq] at same <;> exact ⟨same.1, same.2.1⟩
  obtain ⟨⟨leftValue, leftNonBlank⟩, _, _, _, _, _⟩ := left
  obtain ⟨⟨rightValue, rightNonBlank⟩, _, _, _, _, _⟩ := right
  obtain ⟨rfl, observed⟩ := texts
  exact ⟨rfl, observed⟩

private theorem eq_of_identity (same : identity left = identity right) :
    left.eq right = both (Market.eq type left.market right.market)
      (return decide (SameProvenance left right)) := by
  unfold Observation.eq
  rw [decide_eq_true (identity_eq same)]
  rfl

theorem eq_true_iff (same : identity left = identity right) :
    left.eq right = .ok true ↔
      SameMarket left right ∧ SameProvenance left right ∧ ¬HoldsNaN left := by
  rw [eq_of_identity same, both_true]
  constructor
  · rintro ⟨market, provenance⟩
    exact ⟨.inr market, of_decide_eq_true (Except.ok.inj provenance), numbers_of_market_eq market⟩
  · rintro ⟨market, provenance, numbers⟩
    refine ⟨?_, by rw [decide_eq_true provenance]; rfl⟩
    rcases market with isSame | isEqual
    · rw [← isSame]
      exact market_eq_self numbers
    · exact isEqual

theorem eq_ok_iff (same : identity left = identity right)
    (leftAccepted : Accepted fromisoformat left) (rightAccepted : Accepted fromisoformat right) :
    (∃ outcome, left.eq right = .ok outcome) ↔ ¬Signals left ∧ ¬Signals right := by
  rw [eq_of_identity same]
  constructor
  · rintro ⟨outcome, compared⟩
    obtain ⟨market, isMarket, _⟩ := ok_of_bind compared
    exact quiet_of_market_eq leftAccepted rightAccepted isMarket
  · rintro ⟨leftQuiet, rightQuiet⟩
    obtain ⟨market, isMarket⟩ := market_eq_total leftQuiet rightQuiet
    rw [isMarket]
    exact ⟨_, both_ok⟩

end TurtleExecution.HistoricalStorage

/-
`assess_quality`: what is said of a series.

A series is in order where no observation is before the one in front of it, and free of
duplicates where no two observations have the same symbol and timestamp.
-/

import Mathlib.Algebra.Order.BigOperators.Group.List
import Mathlib.Data.List.Chain
import Mathlib.Data.List.Sort
import Mathlib.Data.String.Basic
import TurtleExecution.Foundation.PyNumber
import TurtleExecution.Foundation.Grouping
import TurtleExecution.Foundation.UtcTime
import TurtleExecution.HistoricalStorage.Files

set_option autoImplicit false

namespace TurtleExecution.HistoricalStorage

variable {fromisoformat : IsoTexts} {type : ObservationType}

abbrev Gap : Type := String × String × Decimal

structure DataQualityReport where
  totalCount : Nat
  uniqueCount : Nat
  duplicateCount : Nat
  duplicateKeys : List (String × String)
  isMonotonic : Bool
  outOfOrderIndices : List Nat
  gapCount : Nat
  gaps : List Gap
  clean : Bool
  isConsistent : clean = (decide (duplicateCount = 0) && isMonotonic && decide (gapCount = 0))

def defaultGapToleranceFactor : Decimal := .finite false 15 (-1)

def decimalOfNumber : PyNumber → Except StorageError Decimal
  | .int value => do
      let _text ← intText value
      return Decimal.ofInt value
  | .float (.finite value) => return Binary64.toDecimal value
  | .float (.infinity negative) => return .infinity negative
  | .float .nan => return .nan false

/-- `Decimal(str(duration.total_seconds()))` of a number of microseconds. -/
def durationSeconds (micros : Int) : Decimal :=
  Binary64.toDecimal (Binary64.format.nearest ((micros : ℚ) / secondMicros))

def seriesKey (observation : Observation type) : String × String :=
  (observation.symbol.value, observation.observedAtUtc)

/-- The timestamp of an observation that was built without its constructor may not be one. -/
def parsedTime (fromisoformat : IsoTexts) (observation : Observation type) :
    Except StorageError Int :=
  match observation.instant fromisoformat with
  | some instant => .ok instant
  | none => .error (.historicalData "observed_at_utc")

/-- The places, counted from the given one on, of the instants that are before the one in
front of them. -/
def outOfOrder : Nat → List Int → List Nat
  | place, earlier :: later :: rest =>
      if later < earlier then place :: outOfOrder (place + 1) (later :: rest)
      else outOfOrder (place + 1) (later :: rest)
  | _, _ => []

def wideGaps (tolerance : Decimal) :
    List (Int × Observation type) → Except StorageError (List Gap)
  | (earlierTime, earlier) :: (laterTime, later) :: rest => do
      let seconds := durationSeconds (laterTime - earlierTime)
      let wide ← (Arithmetic.lt tolerance seconds).mapError .arithmetic
      let gaps ← wideGaps tolerance ((laterTime, later) :: rest)
      return if wide then (earlier.observedAtUtc, later.observedAtUtc, seconds) :: gaps else gaps
  | _ => .ok []

def findGaps (parsedTimes : List Int) (observations : List (Observation type))
    (gapToleranceFactor : Decimal) : Option PyNumber → Except StorageError (List Gap)
  | none => .ok []
  | some interval => do
      let seconds ← decimalOfNumber interval
      let tolerance ← (Arithmetic.mul seconds gapToleranceFactor).mapError .arithmetic
      wideGaps tolerance ((parsedTimes.zip observations).insertionSort fun left right =>
        left.1 ≤ right.1)

def PairLe (left right : String × String) : Prop :=
  left.1 < right.1 ∨ left.1 = right.1 ∧ left.2 ≤ right.2

instance : DecidableRel PairLe := fun left right =>
  inferInstanceAs (Decidable (left.1 < right.1 ∨ left.1 = right.1 ∧ left.2 ≤ right.2))

def assessQuality (fromisoformat : IsoTexts) (observations : List (Observation type))
    (expectedIntervalSeconds : Option PyNumber) (gapToleranceFactor : Decimal) :
    Except StorageError DataQualityReport := do
  refuse observations.isEmpty "observations"
  refuse (expectedIntervalSeconds.any fun interval => interval.le (.int 0))
    "expected_interval_seconds"
  let seen := Dict.tally (observations.map seriesKey)
  let repeated := seen.filter fun item => 1 < item.2
  let duplicateCount := (repeated.map fun item => item.2 - 1).sum
  let parsedTimes ← observations.mapM (parsedTime fromisoformat)
  let outOfOrderIndices := outOfOrder 1 parsedTimes
  let isMonotonic := decide (outOfOrderIndices.length = 0)
  let gaps ← findGaps parsedTimes observations gapToleranceFactor expectedIntervalSeconds
  return {
    totalCount := observations.length
    uniqueCount := seen.length
    duplicateCount := duplicateCount
    duplicateKeys := (repeated.map Prod.fst).insertionSort PairLe
    isMonotonic := isMonotonic
    outOfOrderIndices := outOfOrderIndices
    gapCount := gaps.length
    gaps := gaps
    clean := decide (duplicateCount = 0) && isMonotonic && decide (gaps.length = 0)
    isConsistent := rfl }

def InOrder (fromisoformat : IsoTexts) (earlier later : Observation type) : Prop :=
  ∀ earlierTime laterTime, earlier.instant fromisoformat = some earlierTime →
    later.instant fromisoformat = some laterTime → earlierTime ≤ laterTime

private theorem outOfOrder_eq_nil {place : Nat} {times : List Int} :
    outOfOrder place times = [] ↔ times.Pairwise (· ≤ ·) := by
  rw [← List.isChain_iff_pairwise]
  induction times generalizing place with
  | nil => simp [outOfOrder]
  | cons earlier rest ih =>
      cases rest with
      | nil => simp [outOfOrder]
      | cons later rest =>
          rw [outOfOrder, List.isChain_cons_cons]
          by_cases before : later < earlier
          · rw [if_pos before]
            exact ⟨fun impossible => absurd impossible (List.cons_ne_nil _ _),
              fun both => absurd both.1 (not_le.mpr before)⟩
          · rw [if_neg before, ih]
            exact ⟨fun inOrder => ⟨not_lt.mp before, inOrder⟩, fun both => both.2⟩

theorem parsedTime_ok {observation : Observation type} {instant : Int} :
    parsedTime fromisoformat observation = .ok instant ↔
      observation.instant fromisoformat = some instant := by
  unfold parsedTime
  cases observation.instant fromisoformat with
  | none => exact ⟨fun impossible => (by cases impossible), fun impossible => (by cases impossible)⟩
  | some known => rw [Except.ok.injEq, Option.some.injEq]

variable {observations : List (Observation type)}

private theorem pairwise_times {times : List Int}
    (parsed : List.Forall₂ (fun observation instant =>
      parsedTime fromisoformat observation = .ok instant) observations times) :
    times.Pairwise (· ≤ ·) ↔ observations.Pairwise (InOrder fromisoformat) := by
  induction parsed with
  | nil => simp
  | @cons observation instant observations times isTime rest ih =>
      rw [List.pairwise_cons, List.pairwise_cons, ih]
      refine and_congr_left fun _ => ?_
      have first := parsedTime_ok.mp isTime
      constructor
      · intro below later member earlierTime laterTime isEarlier isLater
        obtain ⟨time, isMember, parsedLater⟩ := exists_of_forall₂_left rest member
        rw [first] at isEarlier
        rw [parsedTime_ok, isLater] at parsedLater
        rw [← Option.some.inj isEarlier, Option.some.inj parsedLater]
        exact below time isMember
      · intro inOrder time member
        obtain ⟨later, isLater, parsedLater⟩ := exists_of_forall₂_right rest member
        exact inOrder later isLater _ _ first (parsedTime_ok.mp parsedLater)

private theorem no_duplicates_iff {names : List (String × String)} :
    ((Dict.tally names).filter fun item => 1 < item.2) = [] ↔ names.Nodup := by
  rw [← Dict.tally_le_one_iff, List.filter_eq_nil_iff]
  simp

private theorem sum_eq_zero_iff {items : Dict (String × String) Nat} :
    ((items.filter fun item => 1 < item.2).map fun item => item.2 - 1).sum = 0 ↔
      (items.filter fun item => 1 < item.2) = [] := by
  constructor
  · intro zero
    rw [List.filter_eq_nil_iff]
    intro item member repeated
    have isRepeated : item ∈ items.filter fun item => 1 < item.2 :=
      List.mem_filter.mpr ⟨member, repeated⟩
    have inSum := List.mem_map_of_mem (f := fun item : (String × String) × Nat => item.2 - 1)
      isRepeated
    have bounded := List.single_le_sum (fun _ _ => Nat.zero_le _) _ inSum
    rw [zero] at bounded
    have many := of_decide_eq_true repeated
    omega
  · intro none
    rw [none]
    rfl

theorem assessQuality_report {interval : Option PyNumber} {factor : Decimal}
    {report : DataQualityReport}
    (assessed : assessQuality fromisoformat observations interval factor = .ok report) :
    (report.isMonotonic = true ↔ observations.Pairwise (InOrder fromisoformat)) ∧
      (report.duplicateCount = 0 ↔ (observations.map seriesKey).Nodup) ∧
      (report.duplicateKeys = [] ↔ (observations.map seriesKey).Nodup) := by
  obtain ⟨_, _, afterEmpty⟩ := ok_of_bind assessed
  obtain ⟨_, _, afterInterval⟩ := ok_of_bind afterEmpty
  obtain ⟨times, parsed, afterTimes⟩ := ok_of_bind afterInterval
  obtain ⟨gaps, _, same⟩ := ok_of_bind afterTimes
  rw [← Except.ok.inj same]
  refine ⟨?_, ?_, ?_⟩
  · dsimp only
    rw [decide_eq_true_eq, List.length_eq_zero_iff, outOfOrder_eq_nil]
    exact pairwise_times (forall₂_of_mapM parsed)
  · exact sum_eq_zero_iff.trans no_duplicates_iff
  · dsimp only
    rw [← List.length_eq_zero_iff, List.length_insertionSort, List.length_map,
      List.length_eq_zero_iff]
    exact no_duplicates_iff

theorem assessQuality_total {factor : Decimal}
    (accepted : ∀ observation ∈ observations, Accepted fromisoformat observation) :
    (∃ report, assessQuality fromisoformat observations none factor = .ok report) ↔
      observations ≠ [] := by
  constructor
  · rintro ⟨report, assessed⟩ rfl
    cases assessed
  · intro nonempty
    have isNonempty : refuse observations.isEmpty "observations" = .ok () := by
      cases observations with
      | nil => exact absurd rfl nonempty
      | cons first rest => rfl
    have parsed : ∃ times, observations.mapM (parsedTime fromisoformat) = .ok times := by
      clear nonempty isNonempty
      induction observations with
      | nil => exact ⟨[], rfl⟩
      | cons first rest ih =>
          obtain ⟨time, isTime⟩ := (accepted first List.mem_cons_self).instant
          obtain ⟨times, areTimes⟩ := ih fun other member =>
            accepted other (List.mem_cons_of_mem _ member)
          refine ⟨time :: times, ?_⟩
          rw [List.mapM_cons, bind_of_ok (parsedTime_ok.mpr isTime), bind_of_ok areTimes]
          rfl
    obtain ⟨times, areTimes⟩ := parsed
    unfold assessQuality
    rw [bind_of_ok isNonempty]
    change ∃ report, (observations.mapM (parsedTime fromisoformat) >>= _) = _
    rw [bind_of_ok areTimes]
    exact ⟨_, rfl⟩

end TurtleExecution.HistoricalStorage

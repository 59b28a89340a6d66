/-
`run_walk_forward_validation`: the samples in order of time, validated fold by fold.

The slices of the folds are consecutive and near-equal.  What the runner counts of a list is
the sum of what it counts of its samples, so the folds count together what the whole list
counts.
-/

import Mathlib.Algebra.Group.Nat.Defs
import Mathlib.Algebra.Group.Prod
import TurtleExecution.Foundation.Slices
import TurtleExecution.Validation.Results

set_option autoImplicit false

namespace TurtleExecution.Validation

open Candidates

def foldBoundaries (nSamples nFolds : Nat) : List (Nat × Nat) :=
  consecutive 0 ((List.range nFolds).map (partSize nSamples nFolds))

def foldsOf (sortedSamples : List ValidationSample) (nFolds : Nat) :
    List (List ValidationSample) :=
  (foldBoundaries sortedSamples.length nFolds).map (slice sortedSamples)

def timedSample (texts : Texts) (sample : ValidationSample) :
    Except ValidationError (Int × ValidationSample) :=
  match sample.computedAt texts with
  | some instant => .ok (instant, sample)
  | none => .error (.timestamp none)

/-- `sorted(samples, key=...)`, which is stable. -/
def sortSamples (texts : Texts) (samples : List ValidationSample) :
    Except ValidationError (List ValidationSample) := do
  let timed ← samples.mapM (timedSample texts)
  return (timed.insertionSort fun left right => left.1 ≤ right.1).map Prod.snd

structure WalkForwardFigures where
  candidateName : NonBlank
  candidateVersion : NonBlank
  nFolds : Int
  foldResults : List ValidationResult
  hitRateRange : Option Decimal
  validatedAtUtc : String
  overallPassed : Bool
  sampleSetFingerprint : Option String

def WalkForwardFigures.check (figures : WalkForwardFigures) : Except ValidationError Unit := do
  require (0 < figures.nFolds) "WalkForwardResult.n_folds must be a positive int"
  require (figures.foldResults.length = figures.nFolds)
    "WalkForwardResult.fold_results must be a tuple of length n_folds"
  require (!PyText.isBlank figures.validatedAtUtc)
    "WalkForwardResult.validated_at_utc must be a non-empty string"
  require (figures.overallPassed = figures.foldResults.all fun fold => fold.overallPassed)
    "WalkForwardResult.overall_passed must equal all(fold.overall_passed for fold in fold_results)"

structure WalkForwardResult extends WalkForwardFigures where
  checked : toWalkForwardFigures.check = .ok ()

def WalkForwardFigures.result (figures : WalkForwardFigures) :
    Except ValidationError WalkForwardResult :=
  match checked : figures.check with
  | .error error => .error error
  | .ok () => .ok { figures with checked }

theorem WalkForwardFigures.of_result {figures : WalkForwardFigures}
    {validated : WalkForwardResult} (built : figures.result = .ok validated) :
    validated.toWalkForwardFigures = figures := by
  unfold WalkForwardFigures.result at built
  split at built
  · cases built
  · cases built
    rfl

theorem WalkForwardFigures.result_of_check {figures : WalkForwardFigures}
    (checked : figures.check = .ok ()) : figures.result = .ok { figures with checked } := by
  unfold WalkForwardFigures.result
  split
  · rename_i raised
    rw [checked] at raised
    cases raised
  · rfl

def hitRateRange : List Decimal → Except ValidationError (Option Decimal)
  | first :: second :: rest => do
      let greatest ← arithmetic (maxOf first (second :: rest))
      let least ← arithmetic (minOf first (second :: rest))
      (arithmetic (Arithmetic.sub greatest least)).map some
  | _ => .ok none

section

variable {State : Type}

def runFolds (texts : Texts) (clock : Process State ValidationError String)
    (evaluateFn : EvaluateFn) (specification : CandidateSpecification) :
    List (List ValidationSample) → Process State ValidationError (List ValidationResult)
  | [] => return []
  | fold :: folds => do
      let result ← runValidation texts clock evaluateFn specification fold
      let results ← runFolds texts clock evaluateFn specification folds
      return result :: results

def tooManyFolds (nFolds : Int) (count : Nat) : String :=
  s!"n_folds ({nFolds}) cannot exceed the number of samples ({count}) -- every fold must contain at least one sample"

def runWalkForwardValidation (texts : Texts) (clock : Process State ValidationError String)
    (evaluateFn : EvaluateFn) (specification : CandidateSpecification)
    (samples : List ValidationSample) (nFolds : Int) :
    Process State ValidationError WalkForwardResult := do
  let _nonempty ← Process.ofExcept (require (!samples.isEmpty) nonEmptySamples)
  let _positive ← Process.ofExcept (require (0 < nFolds) "n_folds must be a positive int")
  let _enough ← Process.ofExcept
    (require (nFolds ≤ samples.length) (tooManyFolds nFolds samples.length))
  let sortedSamples ← Process.ofExcept (sortSamples texts samples)
  let foldResults ← runFolds texts clock evaluateFn specification
    (foldsOf sortedSamples nFolds.toNat)
  let hitRateRange ← Process.ofExcept
    (hitRateRange (foldResults.filterMap fun fold => fold.hitRate))
  let validatedAtUtc ← clock
  let fingerprint ← Process.ofExcept (fingerprintSamples texts samples)
  Process.ofExcept (WalkForwardFigures.result
    { candidateName := specification.name
      candidateVersion := specification.version
      nFolds
      foldResults
      hitRateRange
      validatedAtUtc
      overallPassed := foldResults.all fun fold => fold.overallPassed
      sampleSetFingerprint := some fingerprint })

end

/-- The folds are consecutive slices, none of them is empty, and their sizes are near-equal. -/
structure Partitions (samples : List ValidationSample) (nFolds : Nat)
    (folds : List (List ValidationSample)) : Prop where
  count : folds.length = nFolds
  nonempty : ∀ fold ∈ folds, fold ≠ []
  balanced : ∀ fold ∈ folds, ∀ other ∈ folds, fold.length ≤ other.length + 1
  whole : folds.flatten = samples

private theorem partitions_foldsOf (samples : List ValidationSample) {nFolds : Nat}
    (positive : 0 < nFolds) (enough : nFolds ≤ samples.length) :
    Partitions samples nFolds (foldsOf samples nFolds) := by
  have total : ((List.range nFolds).map (partSize samples.length nFolds)).sum = samples.length :=
    sum_partSize positive
  have lengths : (foldsOf samples nFolds).map List.length =
      (List.range nFolds).map (partSize samples.length nFolds) := by
    exact length_slices samples 0 _ (by omega)
  have size : ∀ fold ∈ foldsOf samples nFolds,
      ∃ part, fold.length = partSize samples.length nFolds part := by
    intro fold member
    have isLength := List.mem_map_of_mem (f := List.length) member
    rw [lengths] at isLength
    obtain ⟨part, _, isSize⟩ := List.mem_map.mp isLength
    exact ⟨part, isSize.symm⟩
  constructor
  · rw [foldsOf, List.length_map, foldBoundaries, length_consecutive, List.length_map,
      List.length_range]
  · intro fold member empty
    obtain ⟨part, isSize⟩ := size fold member
    have nonempty := partSize_pos positive enough part
    rw [empty, List.length_nil] at isSize
    omega
  · intro fold member other isOther
    obtain ⟨part, isSize⟩ := size fold member
    obtain ⟨otherPart, isOtherSize⟩ := size other isOther
    rw [isSize, isOtherSize]
    exact partSize_le samples.length nFolds part otherPart
  · rw [foldsOf, foldBoundaries, flatten_slices, total, List.drop_zero, List.take_length]

/-- Neither sample's timestamp is unreadable, and the first one is not later. -/
def NotLater (texts : Texts) (earlier later : ValidationSample) : Prop :=
  ∃ instant other, earlier.computedAt texts = some instant ∧ later.computedAt texts = some other ∧
    instant ≤ other

private theorem computedAt_of_timed {texts : Texts} {sample : ValidationSample}
    {timed : Int × ValidationSample} (isTimed : timedSample texts sample = .ok timed) :
    timed.2 = sample ∧ timed.2.computedAt texts = some timed.1 := by
  unfold timedSample at isTimed
  split at isTimed
  · rename_i read
    cases isTimed
    exact ⟨rfl, read⟩
  · cases isTimed

private theorem sortSamples_sorts {texts : Texts} {samples sorted : List ValidationSample}
    (sorts : sortSamples texts samples = .ok sorted) :
    sorted.Perm samples ∧ sorted.Pairwise (NotLater texts) := by
  obtain ⟨timed, isTimed, rest⟩ := ok_of_bind sorts
  cases rest
  have pairs := forall₂_of_mapM isTimed
  have ordered := List.perm_insertionSort (fun left right : Int × ValidationSample => left.1 ≤ right.1)
    timed
  have same : timed.map Prod.snd = samples := by
    clear isTimed sorts ordered
    induction pairs with
    | nil => rfl
    | cons isFirst _ ih => rw [List.map_cons, ih, (computedAt_of_timed isFirst).1]
  have read : ∀ item ∈ timed, item.2.computedAt texts = some item.1 := by
    clear isTimed sorts ordered same
    induction pairs with
    | nil =>
        intro item member
        cases member
    | cons isFirst _ ih =>
        exact List.forall_mem_cons.mpr ⟨(computedAt_of_timed isFirst).2, ih⟩
  constructor
  · rw [← same]
    exact ordered.map Prod.snd
  · have total : Std.Total fun left right : Int × ValidationSample => left.1 ≤ right.1 :=
      ⟨fun left right => le_total left.1 right.1⟩
    have transitive : IsTrans (Int × ValidationSample) fun left right => left.1 ≤ right.1 :=
      ⟨fun _ _ _ first second => le_trans first second⟩
    have sortedPairs := List.pairwise_insertionSort
      (fun left right : Int × ValidationSample => left.1 ≤ right.1) timed
    rw [List.pairwise_map]
    refine sortedPairs.imp_of_mem ?_
    intro earlier later isEarlier isLater notLater
    exact ⟨earlier.1, later.1, read earlier (ordered.mem_iff.mp isEarlier),
      read later (ordered.mem_iff.mp isLater), notLater⟩

def Tally.counts (tally : Tally) : ℕ × ℕ × ℕ × ℕ :=
  (tally.hits, tally.signaled, tally.flat, tally.unavailable)

/-- All samples, hits, signals, flat samples and samples without a signal. -/
def ValidationFigures.counts (figures : ValidationFigures) : ℕ × ℕ × ℕ × ℕ × ℕ :=
  (figures.totalSamples, figures.hits, figures.signaledSamples, figures.flatSamples,
    figures.unavailableSamples)

private theorem score_counts {tally next : Tally} {sample : ValidationSample}
    {signal : CandidateSignal Decimal} (scored : tally.score sample signal = .ok next) :
    ∃ own, Tally.empty.score sample signal = .ok own ∧ next.counts = tally.counts + own.counts := by
  unfold Tally.score at scored ⊢
  split at scored
  · cases scored
    exact ⟨_, rfl, by simp [Tally.counts, Tally.signaled, Tally.empty]⟩
  · rename_i opinion available
    by_cases flat : opinion.direction = .flat
    · rw [if_pos flat] at scored ⊢
      cases scored
      exact ⟨_, rfl, by simp [Tally.counts, Tally.signaled, Tally.empty]⟩
    · rw [if_neg flat] at scored ⊢
      obtain ⟨directional, isDirectional, rest⟩ := ok_of_bind scored
      obtain ⟨hit, isHit, isNext⟩ := ok_of_bind rest
      cases isNext
      rw [bind_of_ok isDirectional, bind_of_ok isHit]
      refine ⟨_, rfl, ?_⟩
      cases hit <;> simp [Tally.counts, Tally.signaled, Tally.empty]

section

variable (evaluateFn : EvaluateFn) (specification : CandidateSpecification)

def countsOf (sample : ValidationSample) : ℕ × ℕ × ℕ × ℕ :=
  match scoreSamples evaluateFn specification .empty [sample] with
  | .ok tally => tally.counts
  | .error _ => 0

private theorem scoreSamples_counts {tally final : Tally} {samples : List ValidationSample}
    (scored : scoreSamples evaluateFn specification tally samples = .ok final) :
    final.counts = tally.counts + (samples.map (countsOf evaluateFn specification)).sum := by
  induction samples generalizing tally with
  | nil =>
      cases scored
      simp
  | cons sample samples ih =>
      obtain ⟨signal, isSignal, rest⟩ := ok_of_bind scored
      obtain ⟨next, isNext, later⟩ := ok_of_bind rest
      obtain ⟨own, isOwn, added⟩ := score_counts isNext
      have alone : countsOf evaluateFn specification sample = own.counts := by
        unfold countsOf scoreSamples
        rw [bind_of_ok isSignal, bind_of_ok isOwn]
        rfl
      rw [ih later, added, List.map_cons, List.sum_cons, alone, add_assoc]

variable {evaluateFn specification} {State : Type} {texts : Texts}
  {clock : Process State ValidationError String}

private theorem runValidation_counts {samples : List ValidationSample} {state after : State}
    {result : ValidationResult}
    (ran : runValidation texts clock evaluateFn specification samples state =
      (.returned result, after)) :
    result.counts =
      (samples.length, (samples.map (countsOf evaluateFn specification)).sum) := by
  obtain ⟨_, _, _, ran⟩ := Process.returned_bind ran
  obtain ⟨tally, _, isTally, ran⟩ := Process.returned_bind ran
  obtain ⟨rates, _, _, ran⟩ := Process.returned_bind ran
  obtain ⟨_, _, _, ran⟩ := Process.returned_bind ran
  obtain ⟨_, _, _, ran⟩ := Process.returned_bind ran
  obtain ⟨_, _, _, ran⟩ := Process.returned_bind ran
  have figures := ValidationFigures.of_result (Process.returned_ofExcept ran).1
  have scored := scoreSamples_counts evaluateFn specification (Process.returned_ofExcept isTally).1
  have empty : Tally.empty.counts = 0 := rfl
  rw [empty, zero_add] at scored
  rw [figures, ← scored]
  rfl

def FoldValidated (texts : Texts) (clock : Process State ValidationError String)
    (evaluateFn : EvaluateFn) (specification : CandidateSpecification)
    (fold : List ValidationSample) (result : ValidationResult) : Prop :=
  ∃ state after, runValidation texts clock evaluateFn specification fold state =
    (.returned result, after)

variable {folds : List (List ValidationSample)}

theorem runFolds_validates {state after : State} {results : List ValidationResult}
    (ran : runFolds texts clock evaluateFn specification folds state = (.returned results, after)) :
    List.Forall₂ (FoldValidated texts clock evaluateFn specification) folds results := by
  induction folds generalizing state results with
  | nil =>
      cases ran
      exact .nil
  | cons fold folds ih =>
      obtain ⟨result, between, first, ran⟩ := Process.returned_bind ran
      obtain ⟨later, _, rest, ran⟩ := Process.returned_bind ran
      cases ran
      exact .cons ⟨state, between, first⟩ (ih rest)

theorem sum_foldCounts {results : List ValidationResult}
    (validated : List.Forall₂ (FoldValidated texts clock evaluateFn specification) folds results) :
    (results.map fun result => result.counts).sum =
      (folds.flatten.length, (folds.flatten.map (countsOf evaluateFn specification)).sum) := by
  induction validated with
  | nil => rfl
  | cons first _ ih =>
      obtain ⟨_, _, ran⟩ := first
      rw [List.map_cons, List.sum_cons, ih, runValidation_counts ran, List.flatten_cons,
        List.length_append, List.map_append, List.sum_append]
      rfl

private theorem runFolds_returns (ticks : Ticks clock)
    (validatable : ∀ fold ∈ folds, Validatable texts evaluateFn specification fold) (state : State) :
    ∃ results after,
      runFolds texts clock evaluateFn specification folds state = (.returned results, after) := by
  induction folds generalizing state with
  | nil => exact ⟨[], state, rfl⟩
  | cons fold folds ih =>
      obtain ⟨⟨tally, rates, validates⟩, later⟩ := List.forall_mem_cons.mp validatable
      obtain ⟨now, between, isNow, shown⟩ := ticks state
      obtain ⟨result, validated, _⟩ := runValidation_returns validates isNow shown
      obtain ⟨results, after, ran⟩ := ih later between
      refine ⟨result :: results, after, ?_⟩
      rw [runFolds, Process.bind_returned validated, Process.bind_returned ran]
      rfl

private theorem hitRate_share {fold : List ValidationSample} {result : ValidationResult}
    (validated : FoldValidated texts clock evaluateFn specification fold result) :
    ∀ hitRate ∈ result.hitRate, Decimal.IsShare hitRate := by
  obtain ⟨state, after, ran⟩ := validated
  obtain ⟨tally, rates, validates, isRate⟩ := validates_of_returned ran
  rw [isRate]
  exact (rates_share (scoreSamples_accounts accounts_empty validates.scored) validates.rated).2

private theorem sub_shares {left right : Decimal} (isLeft : Decimal.IsShare left)
    (isRight : Decimal.IsShare right) :
    ∃ difference, Arithmetic.sub left right = .ok difference := by
  have rounds := Decimal.sub_rounds isLeft.isFinite isRight.isFinite
  change Decimal.RoundsTo _ (Arithmetic.sub left right) at rounds
  generalize Arithmetic.sub left right = result at rounds
  cases rounds with
  | @rounded difference _ _ _ => exact ⟨difference, rfl⟩
  | overflow outOfRange =>
      have small : |left.exactly - right.exactly| ≤ (10 : ℚ) ^ (0 : Int) := by
        rw [zpow_zero, abs_sub_le_iff]
        have := isLeft.nonneg
        have := isLeft.le_one
        have := isRight.nonneg
        have := isRight.le_one
        constructor <;> linarith
      exact absurd (Decimal.inRange_of_abs_le (by decide) (by decide) small)
        (not_lt.mpr outOfRange)

private theorem hitRateRange_ok {hitRates : List Decimal}
    (shares : ∀ hitRate ∈ hitRates, Decimal.IsShare hitRate) :
    ∃ range, hitRateRange hitRates = .ok range := by
  match hitRates, shares with
  | [], _ => exact ⟨none, rfl⟩
  | [only], _ => exact ⟨none, rfl⟩
  | first :: second :: rest, shares =>
      have finite : ∀ hitRate ∈ first :: second :: rest, hitRate.IsFinite :=
        fun hitRate member => (shares hitRate member).isFinite
      obtain ⟨greatest, isMax, isGreatest, _⟩ := Decimal.maxOf_finite finite
      obtain ⟨least, isMin, isLeast, _⟩ := Decimal.minOf_finite finite
      obtain ⟨range, isRange⟩ := sub_shares (shares greatest isGreatest) (shares least isLeast)
      refine ⟨some range, ?_⟩
      rw [hitRateRange, isMax, isMin]
      exact congrArg (fun result => (arithmetic result).map some) isRange

private theorem walkForward_returns (ticks : Ticks clock) {samples sorted : List ValidationSample}
    {nFolds : Int} (positive : 0 < nFolds) (admitted : nFolds ≤ samples.length)
    (dated : ∀ sample ∈ samples, Dated texts sample)
    (sorts : sortSamples texts samples = .ok sorted)
    (validatable : ∀ fold ∈ foldsOf sorted nFolds.toNat,
      Validatable texts evaluateFn specification fold) (state : State) :
    ∃ result after,
      runWalkForwardValidation texts clock evaluateFn specification samples nFolds state =
        (.returned result, after) := by
  have nonempty : samples ≠ [] := by
    rintro rfl
    rw [List.length_nil] at admitted
    omega
  obtain ⟨foldResults, between, folds⟩ := runFolds_returns ticks validatable state
  have validated := runFolds_validates folds
  have shares : ∀ hitRate ∈ foldResults.filterMap (fun fold => fold.hitRate),
      Decimal.IsShare hitRate := by
    intro hitRate member
    obtain ⟨result, isResult, isRate⟩ := List.mem_filterMap.mp member
    obtain ⟨fold, _, foldValidated⟩ := exists_of_forall₂_right validated isResult
    exact hitRate_share foldValidated hitRate isRate
  obtain ⟨range, isRange⟩ := hitRateRange_ok shares
  obtain ⟨now, after, isNow, shown⟩ := ticks between
  obtain ⟨fingerprint, isFingerprint, _⟩ := fingerprintSamples_ok nonempty dated
  have count : (foldResults.length : Int) = nFolds := by
    have lengths := (sortSamples_sorts sorts).1.length_eq
    have some_ : 0 < nFolds.toNat := by omega
    have partitions := partitions_foldsOf sorted some_ (by omega)
    have same := validated.length_eq
    rw [partitions.count] at same
    omega
  let figures : WalkForwardFigures :=
    { candidateName := specification.name
      candidateVersion := specification.version
      nFolds
      foldResults
      hitRateRange := range
      validatedAtUtc := now
      overallPassed := foldResults.all fun fold => fold.overallPassed
      sampleSetFingerprint := some fingerprint }
  have checked : figures.check = .ok () := by
    unfold WalkForwardFigures.check
    rw [bind_of_ok (require_of (decide_eq_true positive) _),
      bind_of_ok (require_of (decide_eq_true count) _),
      bind_of_ok (require_of (by rw [shown]; rfl) _)]
    exact require_of (decide_eq_true rfl) _
  refine ⟨{ figures with checked }, after, ?_⟩
  unfold runWalkForwardValidation
  rw [Process.bind_returned (Process.ofExcept_ok (require_nonEmpty nonempty) state),
    Process.bind_returned (Process.ofExcept_ok (require_of (decide_eq_true positive) _) state),
    Process.bind_returned (Process.ofExcept_ok (require_of (decide_eq_true admitted) _) state),
    Process.bind_returned (Process.ofExcept_ok sorts state), Process.bind_returned folds,
    Process.bind_returned (Process.ofExcept_ok isRange between), Process.bind_returned isNow,
    Process.bind_returned (Process.ofExcept_ok isFingerprint after)]
  exact Process.ofExcept_ok (WalkForwardFigures.result_of_check checked) after

/-- The folds split the samples in order of time, and together they count what a validation of
all samples counts. -/
theorem walkForward_partitions {samples : List ValidationSample} {nFolds : Int}
    (positive : 0 < nFolds) (admitted : nFolds ≤ samples.length) :
    (∀ sorted, sortSamples texts samples = .ok sorted →
      sorted.Perm samples ∧ sorted.Pairwise (NotLater texts) ∧
        Partitions sorted nFolds.toNat (foldsOf sorted nFolds.toNat)) ∧
    ∀ state result after,
      runWalkForwardValidation texts clock evaluateFn specification samples nFolds state =
        (.returned result, after) →
      ∃ sorted, sortSamples texts samples = .ok sorted ∧
        List.Forall₂ (FoldValidated texts clock evaluateFn specification)
          (foldsOf sorted nFolds.toNat) result.foldResults ∧
        ∀ start whole final,
          runValidation texts clock evaluateFn specification samples start =
            (.returned whole, final) →
          (result.foldResults.map fun fold => fold.counts).sum = whole.counts := by
  have splits : ∀ sorted, sortSamples texts samples = .ok sorted →
      sorted.Perm samples ∧ sorted.Pairwise (NotLater texts) ∧
        Partitions sorted nFolds.toNat (foldsOf sorted nFolds.toNat) := by
    intro sorted sorts
    obtain ⟨same, ordered⟩ := sortSamples_sorts sorts
    have lengths := same.length_eq
    exact ⟨same, ordered, partitions_foldsOf sorted (by omega) (by omega)⟩
  refine ⟨splits, ?_⟩
  intro state result after ran
  obtain ⟨_, _, _, ran⟩ := Process.returned_bind ran
  obtain ⟨_, _, _, ran⟩ := Process.returned_bind ran
  obtain ⟨_, _, _, ran⟩ := Process.returned_bind ran
  obtain ⟨sorted, _, sorts, ran⟩ := Process.returned_bind ran
  obtain ⟨foldResults, _, folds, ran⟩ := Process.returned_bind ran
  obtain ⟨_, _, _, ran⟩ := Process.returned_bind ran
  obtain ⟨_, _, _, ran⟩ := Process.returned_bind ran
  obtain ⟨_, _, _, ran⟩ := Process.returned_bind ran
  have figures := WalkForwardFigures.of_result (Process.returned_ofExcept ran).1
  have isSorted := (Process.returned_ofExcept sorts).1
  have validated := runFolds_validates folds
  have isResult : result.foldResults = foldResults := by rw [figures]
  obtain ⟨same, _, partitions⟩ := splits sorted isSorted
  rw [isResult]
  refine ⟨sorted, isSorted, validated, ?_⟩
  intro start whole final wholeRan
  rw [sum_foldCounts validated, partitions.whole, runValidation_counts wholeRan, same.length_eq,
    (same.map _).sum_eq]

end

private theorem sortSamples_oneInThree : sortSamples utcTexts oneInThree = .ok oneInThree := by
  have read : ∀ outcome, timedSample utcTexts (midnightSample outcome) =
      .ok (1767225600000000, midnightSample outcome) := by
    intro outcome
    have isInstant : (midnightSample outcome).computedAt utcTexts = some 1767225600000000 := by
      change HistoricalStorage.parseUtc utcTexts.fromisoformat "2026-01-01T00:00:00+00:00" = _
      decide +kernel
    rw [timedSample, isInstant]
  have timed : oneInThree.mapM (timedSample utcTexts) =
      .ok (oneInThree.map fun sample => (1767225600000000, sample)) := by
    simp only [oneInThree, List.map_cons, List.map_nil, List.mapM_cons, List.mapM_nil, read]
    rfl
  rw [sortSamples, bind_of_ok timed]
  rfl

private theorem validatable_foldsOf_oneInThree : ∀ fold ∈ foldsOf oneInThree 2,
    Validatable utcTexts evaluateLong alwaysLong fold := by
  have folds : foldsOf oneInThree 2 =
      [[Decimal.ofInt 1, Decimal.ofInt (-1)].map midnightSample,
        [Decimal.ofInt (-1)].map midnightSample] := rfl
  rw [folds, List.forall_mem_cons, List.forall_mem_singleton]
  constructor
  · have half : Arithmetic.div (Decimal.ofInt (1 : Nat)) (Decimal.ofInt (2 : Nat)) =
        .ok (Decimal.finite false 5 (-1)) := by decide +kernel
    have mean : Decimal.meanOf [Decimal.ofInt 1, Decimal.ofInt (-1)] = .ok (Decimal.ofInt 0) := by
      decide +kernel
    exact ⟨_, _, validates_midnight (List.cons_ne_nil _ _) rfl half mean⟩
  · have noHit : Arithmetic.div (Decimal.ofInt (0 : Nat)) (Decimal.ofInt (1 : Nat)) =
        .ok (Decimal.ofInt 0) := by decide +kernel
    have mean : Decimal.meanOf [Decimal.ofInt (-1)] = .ok (Decimal.ofInt (-1)) := by
      decide +kernel
    exact ⟨_, _, validates_midnight (List.cons_ne_nil _ _) rfl noHit mean⟩

theorem walkForward_partitions_two_folds :
    Partitions oneInThree 2 (foldsOf oneInThree 2) ∧
    ∃ result after, runWalkForwardValidation utcTexts midnightClock evaluateLong alwaysLong
        oneInThree 2 () = (.returned result, after) ∧
      ∀ start whole final,
        runValidation utcTexts midnightClock evaluateLong alwaysLong oneInThree start =
          (.returned whole, final) →
        (result.foldResults.map fun fold => fold.counts).sum = whole.counts := by
  have dated : ∀ sample ∈ oneInThree, Dated utcTexts sample :=
    List.forall_mem_map.mpr fun outcome _ => dated_midnight outcome
  have positive : (0 : Int) < 2 := by decide
  have admitted : (2 : Int) ≤ oneInThree.length := by decide
  obtain ⟨result, after, ran⟩ := walkForward_returns ticks_midnight positive admitted dated
    sortSamples_oneInThree validatable_foldsOf_oneInThree ()
  obtain ⟨splits, counts⟩ := @walkForward_partitions evaluateLong alwaysLong Unit utcTexts
    midnightClock oneInThree 2 positive admitted
  obtain ⟨_, _, partitions⟩ := splits oneInThree sortSamples_oneInThree
  obtain ⟨_, _, _, sums⟩ := counts () result after ran
  exact ⟨partitions, result, after, ran, sums⟩

end TurtleExecution.Validation

/-
`run_regime_stratified_validation`: the samples of each regime, validated on their own.

The groups of the labelled samples split them, and a sample without a label is counted and
keeps the result from passing.
-/

import TurtleExecution.Validation.Folds

set_option autoImplicit false

namespace TurtleExecution.Validation

open Candidates

def labelled (samples : List ValidationSample) : List (String × ValidationSample) :=
  samples.filterMap fun sample => sample.regimeLabel.map fun label => (label.text, sample)

/-- `grouped`: the samples of each label, in order of first mention. -/
def regimesOf (samples : List ValidationSample) : Dict String (List ValidationSample) :=
  (Dict.groupBy Prod.fst (labelled samples)).mapValues fun group => group.map Prod.snd

structure RegimeFigures where
  candidateName : NonBlank
  candidateVersion : NonBlank
  regimeResults : Dict String ValidationResult
  nRegimesObserved : Nat
  unstratifiedSampleCount : Nat
  validatedAtUtc : String
  overallPassed : Bool

def RegimeFigures.check (figures : RegimeFigures) : Except ValidationError Unit := do
  require (figures.regimeResults.all fun regime => !PyText.isBlank regime.1)
    "RegimeStratificationResult.regime_results keys must be non-empty strings"
  require (figures.nRegimesObserved = figures.regimeResults.length)
    "RegimeStratificationResult.n_regimes_observed must equal len(regime_results)"
  require (!PyText.isBlank figures.validatedAtUtc)
    "RegimeStratificationResult.validated_at_utc must be a non-empty string"
  let expectedOverall := figures.unstratifiedSampleCount = 0 ∧ 1 ≤ figures.nRegimesObserved ∧
    figures.regimeResults.all (fun regime => regime.2.overallPassed) = true
  require (figures.overallPassed = decide expectedOverall)
    "RegimeStratificationResult.overall_passed must be True iff there are zero unstratified samples, at least one regime was observed, and every regime's own ValidationResult passed"

abbrev RegimeStratificationResult : Type :=
  { figures : RegimeFigures // figures.check = .ok () }

def RegimeFigures.result (figures : RegimeFigures) :
    Except ValidationError RegimeStratificationResult :=
  match checked : figures.check with
  | .error error => .error error
  | .ok () => .ok ⟨figures, checked⟩

theorem RegimeFigures.of_result {figures : RegimeFigures} {validated : RegimeStratificationResult}
    (built : figures.result = .ok validated) : validated.1 = figures := by
  unfold RegimeFigures.result at built
  split at built
  · cases built
  · cases built
    rfl

section

variable {State : Type} {texts : Texts} {clock : Process State ValidationError String}
  {evaluateFn : EvaluateFn} {specification : CandidateSpecification}

def runRegimeStratifiedValidation (texts : Texts) (clock : Process State ValidationError String)
    (evaluateFn : EvaluateFn) (specification : CandidateSpecification)
    (samples : List ValidationSample) : Process State ValidationError RegimeStratificationResult := do
  let _nonempty ← Process.ofExcept (require (!samples.isEmpty) nonEmptySamples)
  let grouped := regimesOf samples
  let unstratified := samples.countP fun sample => sample.regimeLabel.isNone
  let results ← runFolds texts clock evaluateFn specification (grouped.map Prod.snd)
  let regimeResults := grouped.keys.zip results
  let validatedAtUtc ← clock
  Process.ofExcept (RegimeFigures.result
    { candidateName := specification.name
      candidateVersion := specification.version
      regimeResults
      nRegimesObserved := regimeResults.length
      unstratifiedSampleCount := unstratified
      validatedAtUtc
      overallPassed := decide (unstratified = 0 ∧ 1 ≤ regimeResults.length ∧
        regimeResults.all (fun regime => regime.2.overallPassed) = true) })

private theorem regimesOf_splits (samples : List ValidationSample) :
    (regimesOf samples).keys.Nodup ∧
      ((regimesOf samples).map Prod.snd).flatten.Perm ((labelled samples).map Prod.snd) ∧
      ∀ regime ∈ regimesOf samples, regime.2 ≠ [] ∧ regime.2 =
        ((labelled samples).filter fun item => item.1 = regime.1).map Prod.snd := by
  have keys : (regimesOf samples).keys = (Dict.groupBy Prod.fst (labelled samples)).keys := by
    rw [regimesOf, Dict.keys, Dict.mapValues, List.map_map]
    rfl
  refine ⟨?_, ?_, ?_⟩
  · rw [keys]
    exact Dict.nodup_keys_groupBy _ _
  · have same := (Dict.perm_groupBy Prod.fst (labelled samples)).map Prod.snd
    rw [List.map_flatMap] at same
    rw [regimesOf, Dict.mapValues, List.map_map, ← List.flatMap_def]
    exact same
  · intro regime member
    obtain ⟨⟨label, group⟩, isGroup, rfl⟩ := List.mem_map.mp member
    obtain ⟨rfl, nonempty⟩ := (Dict.mem_groupBy Prod.fst).mp isGroup
    exact ⟨fun empty => nonempty (List.map_eq_nil_iff.mp empty), rfl⟩

private theorem filter_labelled (samples : List ValidationSample) (label : String) :
    ((labelled samples).filter fun item => item.1 = label).map Prod.snd =
      samples.filter fun sample => sample.regimeLabel.map NonBlank.text = some label := by
  induction samples with
  | nil => rfl
  | cons sample samples ih =>
      unfold labelled at ih ⊢
      cases known : sample.regimeLabel with
      | none =>
          rw [List.filterMap_cons_none (by rw [known]; rfl), ih,
            List.filter_cons_of_neg (by rw [known]; simp)]
      | some other =>
          rw [List.filterMap_cons_some (by rw [known]; rfl)]
          by_cases same : other.text = label
          · rw [List.filter_cons_of_pos (by simpa using same), List.map_cons, ih,
              List.filter_cons_of_pos (by rw [known]; simpa using same)]
          · rw [List.filter_cons_of_neg (by simpa using same), ih,
              List.filter_cons_of_neg (by rw [known]; simpa using same)]

private theorem length_labelled (samples : List ValidationSample) :
    (labelled samples).length + samples.countP (fun sample => sample.regimeLabel.isNone) =
      samples.length := by
  induction samples with
  | nil => rfl
  | cons sample samples ih =>
      unfold labelled at ih ⊢
      cases label : sample.regimeLabel <;> simp [label] <;> omega

private theorem forall₂_keys_zip {Value Result : Type} {related : Value → Result → Prop}
    {dict : Dict String Value} {results : List Result}
    (pairs : List.Forall₂ related (dict.map Prod.snd) results) :
    List.Forall₂ (fun item result => result.1 = item.1 ∧ related item.2 result.2) dict
        (dict.keys.zip results) ∧ (dict.keys.zip results).map Prod.snd = results := by
  induction dict generalizing results with
  | nil =>
      cases pairs
      exact ⟨.nil, rfl⟩
  | cons item dict ih =>
      cases pairs with
      | cons first rest =>
          obtain ⟨later, same⟩ := ih rest
          exact ⟨.cons ⟨rfl, first⟩ later, congrArg (_ :: ·) same⟩

/-- What a result says: every regime is validated on its own samples, together the regimes
count what their samples count, and the result passes exactly if no sample is without a label
and every regime passes. -/
structure Stratifies (texts : Texts) (clock : Process State ValidationError String)
    (evaluateFn : EvaluateFn) (specification : CandidateSpecification)
    (samples : List ValidationSample) (figures : RegimeFigures) : Prop where
  distinct : (regimesOf samples).keys.Nodup
  groups : ∀ regime ∈ regimesOf samples, regime.2 ≠ [] ∧ regime.2 =
    samples.filter fun sample => sample.regimeLabel.map NonBlank.text = some regime.1
  split : ((regimesOf samples).map Prod.snd).flatten.Perm ((labelled samples).map Prod.snd)
  validated : List.Forall₂ (fun regime result => result.1 = regime.1 ∧
    FoldValidated texts clock evaluateFn specification regime.2 result.2)
    (regimesOf samples) figures.regimeResults
  counted : (figures.regimeResults.map fun regime => regime.2.counts).sum =
    ((labelled samples).length,
      ((labelled samples).map fun item => countsOf evaluateFn specification item.2).sum)
  passed : figures.overallPassed = true ↔ (∀ sample ∈ samples, sample.regimeLabel ≠ none) ∧
    ∀ regime ∈ figures.regimeResults, regime.2.overallPassed = true

theorem regimes_stratify {samples : List ValidationSample} {state after : State}
    {result : RegimeStratificationResult}
    (ran : runRegimeStratifiedValidation texts clock evaluateFn specification samples state =
      (.returned result, after)) :
    Stratifies texts clock evaluateFn specification samples result.1 := by
  obtain ⟨_, _, isNonempty, ran⟩ := Process.returned_bind ran
  obtain ⟨results, _, folds, ran⟩ := Process.returned_bind ran
  obtain ⟨now, _, _, ran⟩ := Process.returned_bind ran
  have figures := RegimeFigures.of_result (Process.returned_ofExcept ran).1
  have folded := runFolds_validates folds
  obtain ⟨validated, same⟩ := forall₂_keys_zip folded
  obtain ⟨distinct, splits, groups⟩ := regimesOf_splits samples
  rw [figures]
  refine { distinct, groups := ?_, split := splits, validated, counted := ?_, passed := ?_ }
  · intro regime member
    obtain ⟨nonempty, isGroup⟩ := groups regime member
    exact ⟨nonempty, isGroup.trans (filter_labelled samples regime.1)⟩
  · have sums := sum_foldCounts folded
    rw [← same, List.map_map] at sums
    refine sums.trans ?_
    rw [splits.length_eq, List.length_map, (splits.map _).sum_eq, List.map_map]
    rfl
  · have all : samples.countP (fun sample => sample.regimeLabel.isNone) = 0 ↔
        ∀ sample ∈ samples, sample.regimeLabel ≠ none := by
      simp only [List.countP_eq_zero, Option.isNone_iff_eq_none, ne_eq]
    dsimp only
    rw [decide_eq_true_iff, all, List.all_eq_true]
    refine and_congr_right fun isLabelled => and_iff_right_of_imp fun _ => ?_
    have counts := length_labelled samples
    rw [all.mpr isLabelled, ← List.length_map Prod.snd, ← splits.length_eq] at counts
    rw [← validated.length_eq, Nat.one_le_iff_ne_zero]
    intro none
    rw [List.length_eq_zero_iff.mp none] at counts
    rw [List.length_eq_zero_iff.mp counts.symm] at isNonempty
    cases isNonempty

end

def oneLabelled : List ValidationSample :=
  [{ midnightSample (Decimal.ofInt 1) with regimeLabel := some ⟨"calm", by decide⟩ },
    midnightSample (Decimal.ofInt (-1))]

theorem regimes_stratify_oneLabelled :
    ∃ result, runRegimeStratifiedValidation utcTexts midnightClock evaluateLong alwaysLong
        oneLabelled () = (.returned result, ()) ∧
      Stratifies utcTexts midnightClock evaluateLong alwaysLong oneLabelled result.1 := by
  have returns : (runRegimeStratifiedValidation utcTexts midnightClock evaluateLong alwaysLong
      oneLabelled ()).1.returns = true := by
    decide +kernel
  obtain ⟨result, returned⟩ := Outcome.returns_iff.mp returns
  have ran : runRegimeStratifiedValidation utcTexts midnightClock evaluateLong alwaysLong
      oneLabelled () = (.returned result, ()) := Prod.ext returned (Subsingleton.elim _ _)
  exact ⟨result, ran, regimes_stratify ran⟩

end TurtleExecution.Validation

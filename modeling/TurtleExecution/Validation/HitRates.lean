/-
When a bootstrap summary is built.

Every hit rate is a share, so the sum of the hit rates never overflows and their mean, least
and greatest are found.  The mean is a rounded quotient of a rounded sum.  It is between the
least and the greatest hit rate where the roundings of the sum have not moved it too far.
-/

import TurtleExecution.Validation.Bootstrap

set_option autoImplicit false

namespace TurtleExecution.Validation

open Candidates

def hitRateOf (evaluateFn : EvaluateFn) (specification : CandidateSpecification)
    (samples : List ValidationSample) : Option ℚ :=
  match scoreSamples evaluateFn specification .empty samples with
  | .ok tally =>
      if tally.signaled = 0 then none
      else some (Decimal.nearest ((tally.hits : ℚ) / tally.signaled))
  | .error _ => none

section

variable {State : Type} {texts : Texts} {clock : Process State ValidationError String}
  {evaluateFn : EvaluateFn} {specification : CandidateSpecification}

theorem Validates.hitRate {samples : List ValidationSample} {tally : Tally}
    {rates : Option Decimal × Option Decimal}
    (validates : Validates texts evaluateFn specification samples tally rates) :
    rates.1.map Decimal.exactly = hitRateOf evaluateFn specification samples ∧
      ∀ hitRate ∈ rates.1, Decimal.IsShare hitRate := by
  have accounts := scoreSamples_accounts accounts_empty validates.scored
  obtain ⟨value, shares⟩ := rates_share accounts validates.rated
  refine ⟨?_, shares⟩
  rw [value, hitRateOf, validates.scored]

/-- A requirement is between zero and one, so a hit rate can be compared with it. -/
def Comparable (required : Option Decimal) : Prop :=
  ∀ number ∈ required, ∃ value, number.extended = some value

private theorem requiredMinHitRate_ok {samples : List ValidationSample}
    (validatable : Validatable texts evaluateFn specification samples) :
    ∃ required, requiredMinHitRate texts specification = .ok required ∧ Comparable required := by
  obtain ⟨tally, rates, validates⟩ := validatable
  obtain ⟨checks, isChecks⟩ := validates.checkable
  unfold requiredMinHitRate
  split
  · exact ⟨none, rfl, fun number member => by cases member⟩
  · exact ⟨none, rfl, fun number member => by cases member⟩
  · rename_i required _ found
    have isCriterion := Dict.mem_of_get? found
    obtain ⟨check, _, isCheck⟩ := exists_of_forall₂_left (forall₂_of_mapM isChecks) isCriterion
    rw [checkCriterion, if_pos rfl] at isCheck
    obtain ⟨number, isNumber, rest⟩ := ok_of_bind isCheck
    obtain ⟨notNegative, compared, _⟩ := ok_of_bind rest
    rw [isNumber]
    refine ⟨some number, rfl, ?_⟩
    intro other member
    cases member
    obtain ⟨_, value, _, isValue⟩ := Decimal.values_of_ordered (ok_of_mapError compared)
    exact ⟨value, isValue⟩

variable {required : Option Decimal}

private theorem meets_ok (comparable : Comparable required) {hitRate : Decimal}
    (share : Decimal.IsShare hitRate) : ∃ meeting, meets required hitRate = .ok meeting := by
  cases required with
  | none => exact ⟨false, rfl⟩
  | some number =>
      obtain ⟨value, isValue⟩ := comparable number rfl
      have compared := Decimal.le_of_values isValue (Decimal.extended_of_finite share.isFinite)
      exact ⟨_, congrArg arithmetic compared⟩

/-- What the turns so far have left: hit rates of the resamples that had signals. -/
structure Collected (evaluateFn : EvaluateFn) (specification : CandidateSpecification)
    (resamples : List (List ValidationSample)) (scored : Scored) : Prop where
  values : scored.hitRates.map Decimal.exactly =
    resamples.filterMap (hitRateOf evaluateFn specification)
  shares : ∀ hitRate ∈ scored.hitRates, Decimal.IsShare hitRate
  meeting : scored.meetingCount ≤ scored.hitRates.length

theorem Collected.add {resamples : List (List ValidationSample)} {scored next : Scored}
    {resample : List ValidationSample} {tally : Tally} {rates : Option Decimal × Option Decimal}
    (collected : Collected evaluateFn specification resamples scored)
    (validates : Validates texts evaluateFn specification resample tally rates)
    (added : scored.add required rates.1 = .ok next) :
    Collected evaluateFn specification (resamples ++ [resample]) next := by
  obtain ⟨value, shares⟩ := validates.hitRate
  cases hasRate : rates.1 with
  | none =>
      rw [hasRate] at added value
      cases added
      refine { values := ?_, shares := collected.shares, meeting := collected.meeting }
      rw [List.filterMap_append, List.filterMap_cons_none value.symm, List.filterMap_nil,
        List.append_nil, collected.values]
  | some hitRate =>
      rw [hasRate] at added value shares
      obtain ⟨meeting, _, isNext⟩ := ok_of_bind added
      cases isNext
      have few := collected.meeting
      refine { values := ?_, shares := ?_, meeting := ?_ }
      · rw [List.filterMap_append, List.filterMap_cons_some value.symm, List.filterMap_nil,
          List.map_append, collected.values]
        rfl
      · intro other member
        rcases List.mem_append.mp member with earlier | new
        · exact collected.shares other earlier
        · rw [List.mem_singleton.mp new]
          exact shares hitRate rfl
      · rw [List.length_append, List.length_singleton]
        dsimp only
        split <;> omega

private theorem scoreResamples_collects {earlier resamples : List (List ValidationSample)}
    {scored final : Scored} {state after : State}
    (collected : Collected evaluateFn specification earlier scored)
    (ran : scoreResamples texts clock evaluateFn specification required scored resamples state =
      (.returned final, after)) :
    (∀ resample ∈ resamples, Validatable texts evaluateFn specification resample) ∧
      Collected evaluateFn specification (earlier ++ resamples) final := by
  induction resamples generalizing earlier scored state with
  | nil =>
      cases ran
      refine ⟨fun resample member => absurd member List.not_mem_nil, ?_⟩
      rw [List.append_nil]
      exact collected
  | cons resample resamples ih =>
      obtain ⟨result, between, validated, ran⟩ := Process.returned_bind ran
      obtain ⟨next, _, added, ran⟩ := Process.returned_bind ran
      obtain ⟨tally, rates, validates, hitRate⟩ := validates_of_returned validated
      have isNext := (Process.returned_ofExcept added).1
      rw [hitRate] at isNext
      obtain ⟨later, all⟩ := ih (collected.add validates isNext) ran
      rw [List.append_assoc] at all
      exact ⟨List.forall_mem_cons.mpr ⟨⟨tally, rates, validates⟩, later⟩, all⟩

private theorem scoreResamples_returns (ticks : Ticks clock) (comparable : Comparable required)
    {resamples : List (List ValidationSample)}
    (validatable : ∀ resample ∈ resamples, Validatable texts evaluateFn specification resample)
    (scored : Scored) (state : State) :
    ∃ final after, scoreResamples texts clock evaluateFn specification required scored resamples
      state = (.returned final, after) := by
  induction resamples generalizing scored state with
  | nil => exact ⟨scored, state, rfl⟩
  | cons resample resamples ih =>
      obtain ⟨⟨tally, rates, validates⟩, later⟩ := List.forall_mem_cons.mp validatable
      obtain ⟨now, between, isNow, shown⟩ := ticks state
      obtain ⟨result, validated, hitRate⟩ := runValidation_returns validates isNow shown
      have added : ∃ next, scored.add required result.hitRate = .ok next := by
        rw [hitRate]
        cases hasRate : rates.1 with
        | none => exact ⟨scored, rfl⟩
        | some known =>
            obtain ⟨meeting, isMeeting⟩ := meets_ok comparable (validates.hitRate.2 known hasRate)
            rw [Scored.add, bind_of_ok isMeeting]
            exact ⟨_, rfl⟩
      obtain ⟨next, isNext⟩ := added
      obtain ⟨final, after, ran⟩ := ih later next between
      refine ⟨final, after, ?_⟩
      rw [scoreResamples, Process.bind_returned validated,
        Process.bind_returned (Process.ofExcept_ok isNext between)]
      exact ran

end

private theorem ok_of_require {holds : Bool} {message : String}
    (required : require holds message = .ok ()) : holds = true := by
  cases holds with
  | false => cases required
  | true => rfl

private theorem requireBetween_iff {low number high : Decimal} {message : String}
    (lowFinite : low.IsFinite) (isFinite : number.IsFinite) (highFinite : high.IsFinite) :
    BootstrapFigures.requireBetween low number high message = .ok () ↔
      low.exactly ≤ number.exactly ∧ number.exactly ≤ high.exactly := by
  have below : arithmetic (Arithmetic.le low number) =
      .ok (decide (low.exactly ≤ number.exactly)) :=
    congrArg arithmetic (Decimal.le_of_finite lowFinite isFinite)
  have above : arithmetic (Arithmetic.le number high) =
      .ok (decide (number.exactly ≤ high.exactly)) :=
    congrArg arithmetic (Decimal.le_of_finite isFinite highFinite)
  unfold BootstrapFigures.requireBetween
  rw [bind_of_ok below]
  by_cases isBelow : low.exactly ≤ number.exactly
  · rw [if_pos (decide_eq_true isBelow), bind_of_ok above]
    constructor
    · intro between
      exact ⟨isBelow, of_decide_eq_true (ok_of_require between)⟩
    · intro between
      exact require_of (decide_eq_true between.2) message
  · rw [if_neg (by simpa using isBelow)]
    constructor
    · intro between
      cases between
    · intro between
      exact absurd between.1 isBelow

structure Observes (hitRates : List Decimal) (mean least greatest : Decimal) : Prop where
  isMean : mean.exactly =
    Decimal.nearest (Decimal.runningSum (hitRates.map Decimal.exactly) / hitRates.length)
  meanFinite : mean.IsFinite
  isLeast : least ∈ hitRates
  below : ∀ hitRate ∈ hitRates, least.exactly ≤ hitRate.exactly
  isGreatest : greatest ∈ hitRates
  above : ∀ hitRate ∈ hitRates, hitRate.exactly ≤ greatest.exactly

variable {hitRates : List Decimal}

private theorem observed_ok (nonempty : hitRates ≠ [])
    (shares : ∀ hitRate ∈ hitRates, Decimal.IsShare hitRate) :
    ∃ mean least greatest, observed hitRates = .ok (some (mean, least, greatest)) ∧
      Observes hitRates mean least greatest := by
  cases hitRates with
  | nil => exact absurd rfl nonempty
  | cons first rest =>
      have finite : ∀ hitRate ∈ first :: rest, hitRate.IsFinite :=
        fun hitRate member => (shares hitRate member).isFinite
      obtain ⟨mean, computed, meanFinite, isMean⟩ := Decimal.meanOf_shares nonempty shares
      obtain ⟨least, isMin, isLeast, below⟩ := Decimal.minOf_finite finite
      obtain ⟨greatest, isMax, isGreatest, above⟩ := Decimal.maxOf_finite finite
      refine ⟨mean, least, greatest, ?_, { isMean, meanFinite, isLeast, below, isGreatest, above }⟩
      rw [observed, computed, isMin, isMax]
      rfl

theorem Observes.between_iff {mean least greatest : Decimal}
    (observes : Observes hitRates mean least greatest)
    (shares : ∀ hitRate ∈ hitRates, Decimal.IsShare hitRate) :
    BootstrapFigures.requireBetween least mean greatest BootstrapFigures.orderMessage = .ok () ↔
      Decimal.DriftAbsorbed (hitRates.map Decimal.exactly) := by
  rw [requireBetween_iff (shares least observes.isLeast).isFinite observes.meanFinite
    (shares greatest observes.isGreatest).isFinite]
  exact Decimal.mean_between_iff shares observes.isLeast observes.below observes.isGreatest
    observes.above observes.isMean

private theorem checkObserved_iff {figures : BootstrapFigures}
    {summary : Option (Decimal × Decimal × Decimal)}
    (shares : ∀ hitRate ∈ hitRates, Decimal.IsShare hitRate)
    (isSummary : observed hitRates = .ok summary)
    (counted : figures.resamplesWithHitRate = hitRates.length)
    (mean : figures.meanHitRate = summary.map fun numbers => numbers.1)
    (least : figures.minHitRateObserved = summary.map fun numbers => numbers.2.1)
    (greatest : figures.maxHitRateObserved = summary.map fun numbers => numbers.2.2) :
    figures.checkObserved = .ok () ↔ Decimal.DriftAbsorbed (hitRates.map Decimal.exactly) := by
  unfold BootstrapFigures.checkObserved
  rw [counted, mean, least, greatest]
  cases hitRates with
  | nil =>
      cases isSummary
      refine ⟨fun _ => ⟨?_, ?_⟩, fun _ => rfl⟩ <;> exact fun number member => by cases member
  | cons first rest =>
      obtain ⟨mean, least, greatest, isObserved, observes⟩ :=
        observed_ok (List.cons_ne_nil first rest) shares
      rw [isObserved] at isSummary
      cases isSummary
      rw [if_neg (by simp)]
      exact observes.between_iff shares

private theorem fractionMeeting_ok (required : Option Decimal) {meetingCount : Nat} {nResamples : Int}
    (few : (meetingCount : Int) ≤ nResamples) (positive : 0 < nResamples) :
    ∃ fraction, fractionMeeting required meetingCount nResamples = .ok fraction ∧
      ∀ figures : BootstrapFigures, figures.fractionMeetingMinHitRate = fraction →
        figures.checkFraction = .ok () := by
  cases required with
  | none =>
      refine ⟨none, rfl, ?_⟩
      intro figures isFraction
      rw [BootstrapFigures.checkFraction, isFraction]
  | some required =>
      obtain ⟨share, divided, isShare, _⟩ :=
        Decimal.div_shares (Int.natCast_nonneg meetingCount) few positive
      refine ⟨some share, ?_, ?_⟩
      · rw [fractionMeeting, divided]
        rfl
      · intro figures isFraction
        have one : (Decimal.ofInt 1).exactly = 1 := by
          rw [Decimal.exactly_ofInt, Int.cast_one]
        have zero : (Decimal.ofInt 0).exactly = 0 := by
          rw [Decimal.exactly_ofInt, Int.cast_zero]
        rw [BootstrapFigures.checkFraction, isFraction]
        refine (requireBetween_iff (Decimal.isFinite_ofInt 0) isShare.isFinite
          (Decimal.isFinite_ofInt 1)).mpr ⟨?_, ?_⟩
        · rw [zero]
          exact isShare.nonneg
        · rw [one]
          exact isShare.le_one

private theorem check_of_observed {figures : BootstrapFigures} (nonneg : 0 ≤ figures.nResamples)
    (few : (figures.resamplesWithHitRate : Int) ≤ figures.nResamples)
    (isObserved : figures.checkObserved = .ok ()) (isFraction : figures.checkFraction = .ok ())
    (shown : PyText.isBlank figures.validatedAtUtc = false) : figures.check = .ok () := by
  unfold BootstrapFigures.check
  rw [bind_of_ok (require_of (decide_eq_true nonneg) _),
    bind_of_ok (require_of (decide_eq_true few) _), bind_of_ok isObserved, bind_of_ok isFraction]
  exact require_of (by rw [shown]; rfl) _

section

variable {State : Type} {texts : Texts} {clock : Process State ValidationError String}
  {evaluateFn : EvaluateFn} {specification : CandidateSpecification} {generator : Generator}
  {samples : List ValidationSample} {nResamples seed : Int}

variable (generator seed nResamples) in
private theorem length_resamplesOf (nonempty : samples ≠ []) :
    (resamplesOf generator seed samples nResamples).length = nResamples.toNat := by
  rw [resamplesOf, dif_pos (List.length_pos_iff.mpr nonempty), List.length_map, List.length_range]

private theorem collected_nil : Collected evaluateFn specification []
    { hitRates := [], meetingCount := 0 } :=
  { values := rfl
    shares := fun _ member => absurd member List.not_mem_nil
    meeting := Nat.le_refl 0 }

def hitRatesOf (evaluateFn : EvaluateFn) (specification : CandidateSpecification)
    (resamples : List (List ValidationSample)) : List ℚ :=
  resamples.filterMap (hitRateOf evaluateFn specification)

private theorem absorbed_of_returned {state after : State} {result : BootstrapResult}
    (ran : runBootstrapResampling texts clock generator evaluateFn specification samples nResamples
      seed state = (.returned result, after)) :
    (∀ resample ∈ resamplesOf generator seed samples nResamples,
        Validatable texts evaluateFn specification resample) ∧
      Decimal.DriftAbsorbed (hitRatesOf evaluateFn specification
        (resamplesOf generator seed samples nResamples)) := by
  obtain ⟨_, _, _, ran⟩ := Process.returned_bind ran
  obtain ⟨_, _, _, ran⟩ := Process.returned_bind ran
  obtain ⟨required, _, _, ran⟩ := Process.returned_bind ran
  obtain ⟨scored, _, turns, ran⟩ := Process.returned_bind ran
  obtain ⟨summary, _, isSummary, ran⟩ := Process.returned_bind ran
  obtain ⟨fraction, _, _, ran⟩ := Process.returned_bind ran
  obtain ⟨now, _, _, ran⟩ := Process.returned_bind ran
  obtain ⟨_, checked⟩ := BootstrapFigures.of_result (Process.returned_ofExcept ran).1
  obtain ⟨validatable, collected⟩ := scoreResamples_collects collected_nil turns
  rw [List.nil_append] at collected
  obtain ⟨_, _, rest⟩ := ok_of_bind checked
  obtain ⟨_, _, rest⟩ := ok_of_bind rest
  obtain ⟨_, isObserved, _⟩ := ok_of_bind rest
  have absorbed := (checkObserved_iff collected.shares (Process.returned_ofExcept isSummary).1
    rfl rfl rfl rfl).mp isObserved
  rw [collected.values] at absorbed
  exact ⟨validatable, absorbed⟩

private theorem returned_of_absorbed (ticks : Ticks clock) (nonempty : samples ≠ [])
    (positive : 0 < nResamples) (state : State)
    (validatable : ∀ resample ∈ resamplesOf generator seed samples nResamples,
      Validatable texts evaluateFn specification resample)
    (absorbed : Decimal.DriftAbsorbed (hitRatesOf evaluateFn specification
      (resamplesOf generator seed samples nResamples))) :
    ∃ result after, runBootstrapResampling texts clock generator evaluateFn specification samples
      nResamples seed state = (.returned result, after) := by
  have count := length_resamplesOf generator nResamples seed nonempty
  have someResample : ∃ resample, resample ∈ resamplesOf generator seed samples nResamples := by
    refine List.exists_mem_of_length_pos ?_
    omega
  obtain ⟨resample, member⟩ := someResample
  obtain ⟨required, isRequired, comparable⟩ :=
    requiredMinHitRate_ok (validatable resample member)
  obtain ⟨scored, between, turns⟩ := scoreResamples_returns ticks comparable validatable
    { hitRates := [], meetingCount := 0 } state
  obtain ⟨_, collected⟩ := scoreResamples_collects collected_nil turns
  rw [List.nil_append] at collected
  have isSummary : ∃ summary, observed scored.hitRates = .ok summary := by
    by_cases none_ : scored.hitRates = []
    · rw [none_]
      exact ⟨none, rfl⟩
    · obtain ⟨mean, least, greatest, isObserved, _⟩ := observed_ok none_ collected.shares
      exact ⟨_, isObserved⟩
  obtain ⟨summary, isSummary⟩ := isSummary
  have lengths : scored.hitRates.length ≤ nResamples.toNat := by
    rw [← count, ← List.length_map Decimal.exactly, collected.values]
    exact List.length_filterMap_le _ _
  have few := collected.meeting
  have fewMeeting : (scored.meetingCount : Int) ≤ nResamples := by omega
  obtain ⟨fraction, isFraction, checks⟩ := fractionMeeting_ok required fewMeeting positive
  obtain ⟨now, after, isNow, shown⟩ := ticks between
  have absorbedHere : Decimal.DriftAbsorbed (scored.hitRates.map Decimal.exactly) := by
    rw [collected.values]
    exact absorbed
  have fewRates : (scored.hitRates.length : Int) ≤ nResamples := by omega
  have checked : (summaryFigures specification nResamples samples.length seed
      scored.hitRates.length summary fraction now).check = .ok () :=
    check_of_observed positive.le fewRates
      ((checkObserved_iff collected.shares isSummary rfl rfl rfl rfl).mpr absorbedHere)
      (checks _ rfl) shown
  refine ⟨{ summaryFigures specification nResamples samples.length seed
    scored.hitRates.length summary fraction now with checked }, after, ?_⟩
  unfold runBootstrapResampling
  rw [Process.bind_returned (Process.ofExcept_ok (require_nonEmpty nonempty) state),
    Process.bind_returned (Process.ofExcept_ok (require_of (decide_eq_true positive) _) state),
    Process.bind_returned (Process.ofExcept_ok isRequired state),
    Process.bind_returned turns,
    Process.bind_returned (Process.ofExcept_ok isSummary between),
    Process.bind_returned (Process.ofExcept_ok isFraction between),
    Process.bind_returned isNow]
  exact Process.ofExcept_ok (BootstrapFigures.result_of_check checked) after

private theorem ordered_of_requireBetween {low number high : Decimal} {message : String}
    (between : BootstrapFigures.requireBetween low number high message = .ok ()) :
    Arithmetic.le low number = .ok true ∧ Arithmetic.le number high = .ok true := by
  obtain ⟨above, isAbove, rest⟩ := ok_of_bind between
  cases above with
  | false => cases rest
  | true =>
      rw [if_pos rfl] at rest
      obtain ⟨inside, isInside, required⟩ := ok_of_bind rest
      rw [ok_of_require required] at isInside
      exact ⟨ok_of_mapError isAbove, ok_of_mapError isInside⟩

theorem BootstrapResult.ordered (result : BootstrapResult) : result.Ordered := by
  obtain ⟨_, _, rest⟩ := ok_of_bind result.checked
  obtain ⟨_, _, rest⟩ := ok_of_bind rest
  obtain ⟨_, observed, _⟩ := ok_of_bind rest
  unfold BootstrapFigures.checkObserved at observed
  split at observed
  · left
    have none_ := ok_of_require observed
    simp only [Bool.and_eq_true, Option.isNone_iff_eq_none] at none_
    exact ⟨none_.1.2, none_.1.1, none_.2⟩
  · right
    split at observed
    · rename_i least mean greatest isLeast isMean isGreatest
      obtain ⟨below, above⟩ := ordered_of_requireBetween observed
      exact ⟨least, mean, greatest, isLeast, isMean, isGreatest, below, above⟩
    · cases observed

/-- The summary is built exactly where every resample can be validated and the drift of the
hit rates is absorbed. -/
theorem bootstrap_constructs_iff (ticks : Ticks clock) (nonempty : samples ≠ [])
    (positive : 0 < nResamples) (state : State) :
    (∃ result after, runBootstrapResampling texts clock generator evaluateFn specification samples
        nResamples seed state = (.returned result, after) ∧ result.Ordered) ↔
      (∀ resample ∈ resamplesOf generator seed samples nResamples,
        Validatable texts evaluateFn specification resample) ∧
      Decimal.DriftAbsorbed (hitRatesOf evaluateFn specification
        (resamplesOf generator seed samples nResamples)) := by
  constructor
  · intro constructs
    obtain ⟨result, after, ran, _⟩ := constructs
    exact absorbed_of_returned ran
  · intro condition
    obtain ⟨result, after, ran⟩ :=
      returned_of_absorbed ticks nonempty positive state condition.1 condition.2
    exact ⟨result, after, ran, result.ordered⟩

end

def inTurn : Generator := fun _ count positive place => ⟨place % count, Nat.mod_lt place positive⟩

private theorem oneInThree_ne_nil : oneInThree ≠ [] := List.cons_ne_nil _ _

private theorem resamples_inTurn (nResamples seed : Int) :
    resamplesOf inTurn seed oneInThree nResamples =
      List.replicate nResamples.toNat oneInThree := by
  refine List.eq_replicate_iff.mpr
    ⟨length_resamplesOf inTurn nResamples seed oneInThree_ne_nil, ?_⟩
  intro resample member
  obtain ⟨turn, _, rfl⟩ := List.mem_map.mp member
  refine List.ext_getElem (by rw [resampled, List.length_map, List.length_range]) ?_
  intro place _ inside
  have isPlace : (turn * oneInThree.length + place) % oneInThree.length = place := by
    rw [Nat.mul_add_mod', Nat.mod_eq_of_lt inside]
  simp only [resampled, inTurn, List.getElem_map, List.getElem_range, List.get_eq_getElem, isPlace]

private theorem hitRates_inTurn (nResamples seed : Int) :
    hitRatesOf evaluateLong alwaysLong (resamplesOf inTurn seed oneInThree nResamples) =
      List.replicate nResamples.toNat third.exactly := by
  have rate : hitRateOf evaluateLong alwaysLong oneInThree = some third.exactly := by
    obtain ⟨tally, mean, validates⟩ := validates_oneInThree
    exact validates.hitRate.1.symm
  rw [resamples_inTurn, hitRatesOf, List.filterMap_replicate_of_some rate]

private theorem validatable_inTurn (nResamples seed : Int) :
    ∀ resample ∈ resamplesOf inTurn seed oneInThree nResamples,
      Validatable utcTexts evaluateLong alwaysLong resample := by
  intro resample member
  rw [resamples_inTurn] at member
  rw [List.eq_of_mem_replicate member]
  obtain ⟨tally, mean, validates⟩ := validates_oneInThree
  exact ⟨tally, _, validates⟩

private theorem isShare_third : Decimal.IsShare third := by
  obtain ⟨tally, mean, validates⟩ := validates_oneInThree
  exact validates.hitRate.2 third rfl

private theorem driftAbsorbed_thirds_iff {count : Nat} {mean : Decimal}
    (computed : Decimal.meanOf (List.replicate (count + 1) third) = .ok mean) :
    Decimal.DriftAbsorbed (List.replicate (count + 1) third.exactly) ↔
      mean.exactly = third.exactly := by
  have shares : ∀ number ∈ List.replicate (count + 1) third, Decimal.IsShare number := by
    intro number member
    rw [List.eq_of_mem_replicate member]
    exact isShare_third
  have same : ∀ number ∈ List.replicate (count + 1) third, number.exactly = third.exactly := by
    intro number member
    rw [List.eq_of_mem_replicate member]
  have isThird : third ∈ List.replicate (count + 1) third :=
    List.mem_replicate.mpr ⟨Nat.succ_ne_zero _, rfl⟩
  obtain ⟨found, isFound, _, isMean⟩ := Decimal.meanOf_shares (List.ne_nil_of_mem isThird) shares
  rw [computed] at isFound
  cases isFound
  have between := Decimal.mean_between_iff shares isThird (fun number member => (same number member).ge)
    isThird (fun number member => (same number member).le) isMean
  rw [List.map_replicate] at between
  rw [← between]
  constructor
  · intro both
    exact le_antisymm both.2 both.1
  · intro equal
    exact ⟨equal.ge, equal.le⟩

theorem bootstrap_constructs_iff_three_thirds :
    ∃ result after, runBootstrapResampling utcTexts midnightClock inTurn evaluateLong alwaysLong
      oneInThree 3 7 () = (.returned result, after) ∧ result.Ordered := by
  have mean : Decimal.meanOf (List.replicate 3 third) = .ok third := by decide +kernel
  refine (bootstrap_constructs_iff ticks_midnight oneInThree_ne_nil (by decide) ()).mpr
    ⟨validatable_inTurn 3 7, ?_⟩
  rw [hitRates_inTurn]
  exact (driftAbsorbed_thirds_iff mean).mpr rfl

/-- Every resample of four has a third of hits, and their mean is less than a third. -/
theorem no_summary_of_four_thirds :
    (∀ resample ∈ resamplesOf inTurn 7 oneInThree 4,
      Validatable utcTexts evaluateLong alwaysLong resample) ∧
    ¬ ∃ result after, runBootstrapResampling utcTexts midnightClock inTurn evaluateLong
      alwaysLong oneInThree 4 7 () = (.returned result, after) := by
  refine ⟨validatable_inTurn 4 7, ?_⟩
  intro constructs
  obtain ⟨result, after, ran⟩ := constructs
  have absorbed := (absorbed_of_returned ran).2
  have mean : Decimal.meanOf (List.replicate 4 third) =
    .ok (.finite false 3333333333333333333333333332 (-28)) := by decide +kernel
  rw [hitRates_inTurn] at absorbed
  have equal := (driftAbsorbed_thirds_iff mean).mp absorbed
  norm_num [third, Decimal.exactly, Decimal.signed] at equal

end TurtleExecution.Validation

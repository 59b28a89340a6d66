/-
No sample looks ahead, and the outcomes of a symbol's samples do not overlap.

A sample at a time is made of what three lookups and a window give there.  Where two series
agree up to the time these are the same, so nothing that is observed later has any part in the
sample.
-/

import TurtleExecution.OpenInterestCampaign.BuildSamples

set_option autoImplicit false

namespace TurtleExecution.OpenInterestCampaign

open ExchangeAdapter Features HistoricalStorage Validation

/-- More seconds than any `datetime` is away from the epoch. -/
def farSeconds : Int := 2 ^ 40

variable {seconds : Int}

private theorem near_of_isDatetime (isDatetime : IsDatetime (seconds * secondMicros)) :
    |seconds| < farSeconds := by
  obtain ⟨low, high⟩ := isDatetime
  have first : Calendar.yearStart 1 = -719162 := by decide
  have last : Calendar.yearStart 10000 = 2932897 := by decide
  rw [first] at low
  rw [last] at high
  have micros : dayMicros = 86400 * secondMicros := by decide
  have positive : 0 < secondMicros := by decide
  rw [micros, ← mul_assoc] at low high
  have lowSeconds := le_of_mul_le_mul_right low positive
  have highSeconds := lt_of_mul_lt_mul_right high positive.le
  rw [abs_lt]
  unfold farSeconds
  omega

private theorem cast_lt_top {number : Int} (small : |number| < 2 ^ 53) :
    |(number : ℚ)| < FloatValue.top := by
  have cast : |(number : ℚ)| < 2 ^ 53 := by exact_mod_cast small
  exact cast.trans (pow_lt_pow_right₀ (by norm_num) (by norm_num))

private theorem round_intCast {number : Int} (small : |number| < 2 ^ 53) :
    FloatValue.round (number : ℚ) = .finite number := by
  unfold FloatValue.round
  simp only [FloatValue.nearest_intCast small]
  rw [if_pos (cast_lt_top small)]

private theorem ofInt?_intCast {number : Int} (small : |number| < 2 ^ 53) :
    FloatValue.ofInt? number = some (.finite number) := by
  unfold FloatValue.ofInt?
  simp only [FloatValue.nearest_intCast small]
  rw [if_pos (cast_lt_top small)]

private theorem truncate_intCast (number : Int) : truncate (number : ℚ) = number := by
  unfold truncate
  split
  · exact Int.floor_intCast number
  · exact Int.ceil_intCast number

private theorem epochMs_whole (near : |seconds| < farSeconds) :
    epochMs (seconds * secondMicros) = .ok (1000 * seconds) := by
  obtain ⟨low, high⟩ := abs_lt.mp near
  unfold farSeconds at low high
  have micro : (secondMicros : ℚ) ≠ 0 := by norm_num [secondMicros]
  have timestamp : DataSources.totalSeconds (seconds * secondMicros) =
      .float (.finite seconds) := by
    rw [DataSources.totalSeconds, Int.cast_mul, mul_div_cancel_right₀ _ micro,
      round_intCast (abs_lt.mpr (by omega))]
  have thousand := @ofInt?_intCast 1000 (by decide)
  have product : FloatValue.round ((seconds : ℚ) * ((1000 : Int) : ℚ)) =
      .finite ((1000 * seconds : Int) : ℚ) := by
    rw [← round_intCast (abs_lt.mpr (by omega))]
    push_cast
    rw [mul_comm]
  have milliseconds : (PyNumber.float (.finite seconds)).mul? (.int 1000) =
      some (.float (.finite ((1000 * seconds : Int) : ℚ))) := by
    unfold PyNumber.mul? PyNumber.float?
    simp only [thousand, Option.bind_eq_bind, Option.bind_some, FloatValue.mul, product]
    rfl
  rw [epochMs, timestamp, milliseconds]
  exact congrArg Except.ok (truncate_intCast _)

private theorem fromTimestamp_whole (small : |seconds| < 2 ^ 53) :
    fromTimestamp (1000 * seconds) =
      if IsDatetime (seconds * secondMicros) then .ok (seconds * secondMicros)
      else .error .timestamp := by
  have quotient : ((1000 * seconds : Int) : ℚ) / 1000 = seconds := by
    push_cast
    rw [mul_div_cancel_left₀ _ (by norm_num)]
  have noFraction : HalfEven.whole (Binary64.format.nearest
      (((seconds : ℚ) - seconds) * secondMicros)) = 0 := by
    rw [sub_self, zero_mul, NumberFormat.nearest_zero]
    decide +kernel
  unfold fromTimestamp
  rw [quotient, round_intCast small]
  simp only [truncate_intCast, noFraction, add_zero]

structure ReadsBack (texts : CampaignTexts) : Prop where
  written : ∀ instant, IsDatetime instant →
    parseUtc texts.fromisoformat (texts.isoformat instant) = some instant
  canonical : ∀ instant, IsDatetime instant →
    parseUtc texts.fromisoformat (texts.isoformatMicroseconds instant) = some instant

private theorem read_canonicalTime {texts : CampaignTexts} (readsBack : ReadsBack texts)
    (small : |seconds| < 2 ^ 53) {text : String}
    (written : canonicalTime texts (1000 * seconds) = .ok text) :
    parseUtc texts.fromisoformat text = some (seconds * secondMicros) := by
  obtain ⟨instant, isInstant, rest⟩ := ok_of_bind written
  rw [fromTimestamp_whole small] at isInstant
  split at isInstant
  · rename_i isDatetime
    cases isInstant
    rw [readsBack.written _ isDatetime] at rest
    cases rest
    exact readsBack.canonical _ isDatetime
  · cases isInstant

section

variable {metric : Metric} (texts : CampaignTexts)

/-- Every observation is at a whole second that a `datetime` holds. -/
def InWholeSeconds (observations : List (Observation (.scalar metric))) : Prop :=
  ∀ observation ∈ observations, ∃ seconds, IsDatetime (seconds * secondMicros) ∧
    observation.instant texts.fromisoformat = some (seconds * secondMicros)

def valuesAt (observations : List (Observation (.scalar metric))) (instant : Int) : List Decimal :=
  (observations.filter fun observation =>
    observation.instant texts.fromisoformat = some instant).map valueOf

def AgreeUpTo (limit : Int) (left right : List (Observation (.scalar metric))) : Prop :=
  ∀ instant ≤ limit, valuesAt texts left instant = valuesAt texts right instant

def IsRow (observation : Observation (.scalar metric)) (row : Int × Decimal) : Prop :=
  ∃ seconds, |seconds| < farSeconds ∧
    observation.instant texts.fromisoformat = some (seconds * secondMicros) ∧
    row = (1000 * seconds, valueOf observation)

variable {texts} {observations : List (Observation (.scalar metric))}

private theorem toSortedPairs_whole {series : Series}
    (sorted : toSortedPairs texts observations = .ok series)
    (whole : InWholeSeconds texts observations) :
    ∃ rows, series = Series.ofRows (TimeSeries.sortRows rows) ∧
      List.Forall₂ (IsRow texts) observations rows := by
  obtain ⟨rows, isRows, rest⟩ := ok_of_bind sorted
  cases rest
  refine ⟨rows, rfl, forall₂_imp_mem (forall₂_of_mapM isRows) ?_⟩
  intro observation member row isRow
  obtain ⟨seconds, isDatetime, isInstant⟩ := whole observation member
  have near := near_of_isDatetime isDatetime
  unfold timedRow at isRow
  rw [isInstant, bind_of_ok (show orRaise BuildError.timestamp (some _) = .ok _ from rfl),
    bind_of_ok (epochMs_whole near)] at isRow
  cases isRow
  exact ⟨seconds, near, isInstant, rfl⟩

private theorem rowsAt_whole {rows : List (Int × Decimal)}
    (isRows : List.Forall₂ (IsRow texts) observations rows) (seconds : Int) :
    TimeSeries.rowsAt rows (1000 * seconds) =
      (valuesAt texts observations (seconds * secondMicros)).map fun value =>
        (1000 * seconds, value) := by
  induction isRows with
  | nil => rfl
  | @cons observation row observations rows isRow _ ih =>
      obtain ⟨at_, _, isInstant, rfl⟩ := isRow
      rw [TimeSeries.rowsAt_cons, ih, valuesAt, valuesAt, List.filter_cons, isInstant]
      by_cases same : at_ = seconds
      · rw [same, if_pos rfl, if_pos (decide_eq_true rfl)]
        rfl
      · have differs : ¬ some (at_ * secondMicros) = some (seconds * secondMicros) := by
          intro equal
          have product := Option.some.inj equal
          exact same (mul_right_cancel₀ (by decide) product)
        rw [if_neg (by omega), if_neg (by simpa using differs)]

private theorem rowsAt_between {rows : List (Int × Decimal)}
    (isRows : List.Forall₂ (IsRow texts) observations rows) {ms : Int}
    (between : ¬ (1000 : Int) ∣ ms) : TimeSeries.rowsAt rows ms = [] := by
  refine List.filter_eq_nil_iff.mpr fun row member found => ?_
  obtain ⟨observation, _, seconds, _, _, isRow⟩ := exists_of_forall₂_right isRows member
  rw [isRow, decide_eq_true_eq] at found
  exact between ⟨seconds, found.symm⟩

theorem AgreeUpTo.rows {other : List (Observation (.scalar metric))} {seconds : Int}
    (agree : AgreeUpTo texts (seconds * secondMicros) observations other)
    {rows otherRows : List (Int × Decimal)}
    (isRows : List.Forall₂ (IsRow texts) observations rows)
    (isOtherRows : List.Forall₂ (IsRow texts) other otherRows) :
    TimeSeries.AgreeUpTo (1000 * seconds) rows otherRows := by
  intro ms early
  by_cases whole : (1000 : Int) ∣ ms
  · obtain ⟨at_, rfl⟩ := whole
    have earlier : at_ * secondMicros ≤ seconds * secondMicros :=
      Int.mul_le_mul_of_nonneg_right (by omega) (by decide)
    rw [rowsAt_whole isRows, rowsAt_whole isOtherRows, agree _ earlier]
  · rw [rowsAt_between isRows whole, rowsAt_between isOtherRows whole]

end

section

variable {limit : Int} {left right : List (Int × Decimal)}

private theorem latestAtOrBefore_eq (agree : TimeSeries.AgreeUpTo limit left right)
    (toleranceMs : Int) :
    latestAtOrBefore (.ofRows (TimeSeries.sortRows left)) limit toleranceMs =
      latestAtOrBefore (.ofRows (TimeSeries.sortRows right)) limit toleranceMs := by
  unfold latestAtOrBefore Series.ofRows
  simp only [List.getElem?_map]
  rw [← agree.bisectRight_eq]
  split
  · rfl
  · rename_i index found
    rw [agree.getElem?_eq (by omega)]

private theorem windowValues_eq (agree : TimeSeries.AgreeUpTo limit left right) {startMs endMs : Int}
    (start : startMs ≤ endMs) (before : endMs ≤ limit) :
    windowValues (.ofRows (TimeSeries.sortRows left)) startMs endMs =
      windowValues (.ofRows (TimeSeries.sortRows right)) startMs endMs := by
  have atStart := agree.mono (show startMs - 1 ≤ limit by omega)
  have atEnd := agree.mono (show endMs - 1 ≤ limit by omega)
  unfold windowValues Series.ofRows
  rw [slice_map, slice_map]
  dsimp only
  rw [← atStart.bisectRight_eq, ← atEnd.bisectRight_eq]
  exact congrArg _ (atEnd.slice_eq (le_refl _))

end

/-! ### What a sample is made of -/

inductive Normalization
  | pctrank
  | zscore

namespace Normalization

def name : Normalization → NonBlank
  | pctrank => pctrankName
  | zscore => zscoreName

def version : Normalization → NonBlank
  | pctrank => pctrankVersion
  | zscore => zscoreVersion

def score : Normalization → List Decimal → Decimal → Except ArithmeticError (Option Decimal)
  | pctrank => percentileRankCentered
  | zscore => Features.zscore

def sample? : Normalization → Visit → Option ValidationSample
  | pctrank => Visit.pctrank?
  | zscore => Visit.zscore?

def samples : Normalization → CampaignSamples → List ValidationSample
  | pctrank => CampaignSamples.pctrankSamples
  | zscore => CampaignSamples.zscoreSamples

private theorem samples_of (normalization : Normalization) (visited : List (List Visit)) :
    normalization.samples (CampaignSamples.of visited) =
      visited.flatten.filterMap normalization.sample? := by
  cases normalization <;> rfl

end Normalization

section

variable {texts : CampaignTexts} {parameters : Parameters} {regimeLabeler : Option RegimeLabeler}
  {symbol : Symbol} {normalization : Normalization} {oi marks : Series} {tMs : Int}

/-- The outcome of a sample is observed at the time that is written in this text. -/
def ObservedIn (texts : CampaignTexts) (sample : ValidationSample) (ms : Int) : Prop :=
  ∃ observedAt, sample.outcomeObservedAtUtc = some observedAt ∧
    canonicalTime texts ms = .ok observedAt.text

/-- A sample of a score at a time, with what was looked up for it. -/
structure MadeOf (texts : CampaignTexts) (parameters : Parameters) (symbol : Symbol)
    (normalization : Normalization) (oi marks : Series) (tMs : Int)
    (currentOi markT markFwd value : Decimal) (sample : ValidationSample) : Prop where
  current : latestAtOrBefore oi tMs parameters.toleranceMs = some currentOi
  start : latestAtOrBefore marks tMs parameters.toleranceMs = some markT
  forward :
    latestAtOrBefore marks (tMs + parameters.horizonMs) parameters.toleranceMs = some markFwd
  scored : normalization.score (windowValues oi (tMs - parameters.windowMs) tMs) currentOi =
    .ok (some value)
  realized : realizedReturn markFwd markT = .ok sample.realizedOutcome
  computed : canonicalTime texts tMs = .ok sample.featureValue.computedAtUtc.text
  observed : ObservedIn texts sample (tMs + parameters.horizonMs)
  feature : sample.featureValue =
    { featureName := normalization.name
      featureVersion := normalization.version
      symbol
      computedAtUtc := sample.featureValue.computedAtUtc
      result := .available value }

private theorem ok_of_orRaise {Value : Type} {error : BuildError} {found : Option Value}
    {value : Value}
    (raised : orRaise error found = .ok value) : found = some value := by
  cases found with
  | none => cases raised
  | some known =>
      cases raised
      rfl

private theorem text_of_nonBlank {field text : String} {name : NonBlank}
    (checked : nonBlank field text = .ok name) : name.text = text := by
  have known := ok_of_orRaise checked
  unfold NonBlank.ofText? at known
  split at known
  · cases known
    rfl
  · cases known

variable {sample : ValidationSample}

private theorem scoreSample_some {featureName featureVersion : NonBlank}
    {computedAt outcomeAt : String}
    {realized : Decimal} {regime : Option String} {scored : Option Decimal}
    (made : scoreSample symbol featureName featureVersion computedAt outcomeAt realized regime
      scored = .ok (some sample)) :
    ∃ value, scored = some value ∧ sample.realizedOutcome = realized ∧
      sample.featureValue.computedAtUtc.text = computedAt ∧
      (∃ observedAt, sample.outcomeObservedAtUtc = some observedAt ∧ observedAt.text = outcomeAt) ∧
      sample.featureValue =
        { featureName
          featureVersion
          symbol
          computedAtUtc := sample.featureValue.computedAtUtc
          result := .available value } := by
  cases scored with
  | none => cases made
  | some value =>
      obtain ⟨known, isKnown, same⟩ := ok_of_map made
      cases same
      obtain ⟨computedAtUtc, isComputed, rest⟩ := ok_of_bind isKnown
      obtain ⟨observedAtUtc, isObserved, rest⟩ := ok_of_bind rest
      obtain ⟨regimeLabel, _, rest⟩ := ok_of_bind rest
      cases rest
      exact ⟨value, rfl, rfl, text_of_nonBlank isComputed,
        ⟨observedAtUtc, rfl, text_of_nonBlank isObserved⟩, rfl⟩

private theorem ok_of_arithmetically {Value : Type} {result : Except ArithmeticError Value}
    {value : Value}
    (computed : arithmetically result = .ok value) : result = .ok value :=
  ok_of_mapError computed

private theorem buildAt_built {window : List Decimal} {currentOi markT markFwd : Decimal}
    {visited : Visit}
    (built : buildAt texts parameters regimeLabeler symbol tMs window currentOi markT markFwd =
      .ok visited) (isSample : normalization.sample? visited = some sample) :
    ∃ value, normalization.score window currentOi = .ok (some value) ∧
      realizedReturn markFwd markT = .ok sample.realizedOutcome ∧
      canonicalTime texts tMs = .ok sample.featureValue.computedAtUtc.text ∧
      ObservedIn texts sample (tMs + parameters.horizonMs) ∧
      sample.featureValue =
        { featureName := normalization.name
          featureVersion := normalization.version
          symbol
          computedAtUtc := sample.featureValue.computedAtUtc
          result := .available value } := by
  obtain ⟨realized, isRealized, rest⟩ := ok_of_bind built
  obtain ⟨computedAt, isComputed, rest⟩ := ok_of_bind rest
  obtain ⟨outcomeAt, isOutcome, rest⟩ := ok_of_bind rest
  obtain ⟨regime, _, rest⟩ := ok_of_bind rest
  obtain ⟨pct, isPct, rest⟩ := ok_of_bind rest
  obtain ⟨z, isZ, rest⟩ := ok_of_bind rest
  obtain ⟨pctrankSample, isPctrankSample, rest⟩ := ok_of_bind rest
  obtain ⟨zscoreSample, isZscoreSample, rest⟩ := ok_of_bind rest
  cases rest
  rw [ok_of_arithmetically isRealized, isComputed]
  have made : ∃ scored, normalization.score window currentOi = .ok scored ∧
      scoreSample symbol normalization.name normalization.version computedAt outcomeAt realized
        regime scored = .ok (some sample) := by
    cases normalization with
    | pctrank =>
        cases isSample
        exact ⟨pct, ok_of_arithmetically isPct, isPctrankSample⟩
    | zscore =>
        cases isSample
        exact ⟨z, ok_of_arithmetically isZ, isZscoreSample⟩
  obtain ⟨scored, isScored, isMade⟩ := made
  obtain ⟨value, rfl, rfl, rfl, ⟨observedAt, isObserved, rfl⟩, feature⟩ := scoreSample_some isMade
  exact ⟨value, isScored, rfl, rfl, ⟨observedAt, isObserved, isOutcome⟩, feature⟩

private theorem visit_made {visited : Visit}
    (ran : visit texts parameters regimeLabeler symbol oi marks tMs = .ok visited)
    (isSample : normalization.sample? visited = some sample) :
    ∃ currentOi markT markFwd value, MadeOf texts parameters symbol normalization oi marks tMs
      currentOi markT markFwd value sample := by
  have skipped : ∀ skip, normalization.sample? (.skipped skip) = none := by
    cases normalization <;> exact fun _ => rfl
  unfold visit at ran
  split at ran
  · cases ran
    rw [skipped] at isSample
    cases isSample
  · rename_i currentOi current
    dsimp only at ran
    split at ran
    · cases ran
      rw [skipped] at isSample
      cases isSample
    · obtain ⟨missing, _, rest⟩ := ok_of_bind ran
      split at rest
      · rename_i markT start _
        split at rest
        · cases rest
          rw [skipped] at isSample
          cases isSample
        · rename_i markFwd forward
          obtain ⟨value, scored, realized, computed, observed, feature⟩ :=
            buildAt_built rest isSample
          exact ⟨currentOi, markT, markFwd, value, current, start, forward, scored, realized,
            computed, observed, feature⟩
      · cases rest
        rw [skipped] at isSample
        cases isSample

end

section

variable {texts : CampaignTexts} {parameters : Parameters} {symbol : Symbol}
  {normalization : Normalization} {oi marks otherOi otherMarks : Series} {tMs : Int}
  {currentOi markT markFwd value otherCurrentOi otherMarkT otherMarkFwd otherValue : Decimal}
  {sample other : ValidationSample}

theorem MadeOf.feature_eq
    (made : MadeOf texts parameters symbol normalization oi marks tMs currentOi markT markFwd value
      sample)
    (otherMade : MadeOf texts parameters symbol normalization otherOi otherMarks tMs otherCurrentOi
      otherMarkT otherMarkFwd otherValue other)
    (sameCurrent : latestAtOrBefore oi tMs parameters.toleranceMs =
      latestAtOrBefore otherOi tMs parameters.toleranceMs)
    (sameWindow : windowValues oi (tMs - parameters.windowMs) tMs =
      windowValues otherOi (tMs - parameters.windowMs) tMs) :
    sample.featureValue = other.featureValue := by
  have current := sameCurrent
  rw [made.current, otherMade.current] at current
  cases current
  have scored := made.scored
  rw [sameWindow, otherMade.scored] at scored
  cases scored
  have computed := made.computed
  rw [otherMade.computed] at computed
  have sameText : sample.featureValue.computedAtUtc = other.featureValue.computedAtUtc :=
    NonBlank.ext (Except.ok.inj computed).symm
  rw [made.feature, otherMade.feature, sameText]

theorem MadeOf.outcome_eq
    (made : MadeOf texts parameters symbol normalization oi marks tMs currentOi markT markFwd value
      sample)
    (otherMade : MadeOf texts parameters symbol normalization otherOi otherMarks tMs otherCurrentOi
      otherMarkT otherMarkFwd otherValue other)
    (sameStart : latestAtOrBefore marks tMs parameters.toleranceMs =
      latestAtOrBefore otherMarks tMs parameters.toleranceMs)
    (sameForward : latestAtOrBefore marks (tMs + parameters.horizonMs) parameters.toleranceMs =
      latestAtOrBefore otherMarks (tMs + parameters.horizonMs) parameters.toleranceMs) :
    sample.realizedOutcome = other.realizedOutcome := by
  have start := sameStart
  rw [made.start, otherMade.start] at start
  cases start
  have forward := sameForward
  rw [made.forward, otherMade.forward] at forward
  cases forward
  have realized := made.realized
  rw [otherMade.realized] at realized
  exact (Except.ok.inj realized).symm

end

def Parameters.horizonSeconds (parameters : Parameters) : Int := parameters.horizonHours * 3600

/-- A time in whole seconds, with a horizon behind it, that floats hold. -/
structure OnGrid (parameters : Parameters) (tMs seconds : Int) : Prop where
  time : tMs = 1000 * seconds
  outcome : tMs + parameters.horizonMs = 1000 * (seconds + parameters.horizonSeconds)
  small : |seconds| < 2 ^ 53
  outcome_small : |seconds + parameters.horizonSeconds| < 2 ^ 53

section

variable {metric : Metric} {texts : CampaignTexts} {observations : List (Observation (.scalar metric))}

private theorem last_near {rows : List (Int × Decimal)}
    (isRows : List.Forall₂ (IsRow texts) observations rows) {last : Int}
    (isLast : (Series.ofRows (TimeSeries.sortRows rows)).times.getLast? = some last) :
    last < 1000 * farSeconds := by
  obtain ⟨row, member, rfl⟩ := List.mem_map.mp (List.mem_of_getLast? isLast)
  have known := (List.perm_insertionSort _ rows).mem_iff.mp member
  obtain ⟨_, _, seconds, near, _, rfl⟩ := exists_of_forall₂_right isRows known
  have high := (abs_lt.mp near).2
  dsimp only
  omega

end

private theorem midnight_seconds {instant midnight : Int}
    (next : nextMidnight instant = .ok midnight) :
    ∃ seconds, |seconds| < farSeconds ∧ midnight = seconds * secondMicros := by
  unfold nextMidnight at next
  dsimp only at next
  split at next
  · rename_i isDatetime
    cases next
    have micros : (instant / dayMicros + 1) * dayMicros =
        (instant / dayMicros + 1) * 86400 * secondMicros := by
      rw [mul_assoc]
      rfl
    rw [micros] at isDatetime ⊢
    exact ⟨_, near_of_isDatetime isDatetime, rfl⟩
  · cases next

private theorem sampleTimes_onGrid {texts : CampaignTexts} {parameters : Parameters}
    {oiObs : List (Observation (.scalar .openInterest))}
    {markObs : List (Observation (.scalar .markPrice))} {oiRows markRows : List (Int × Decimal)}
    (isOi : List.Forall₂ (IsRow texts) oiObs oiRows)
    (isMarks : List.Forall₂ (IsRow texts) markObs markRows) {times : List Int}
    (found : sampleTimes parameters (.ofRows (TimeSeries.sortRows oiRows))
      (.ofRows (TimeSeries.sortRows markRows)) = .ok times) :
    times.Pairwise (fun earlier later => earlier + parameters.spacingMs ≤ later) ∧
      ∀ tMs ∈ times, ∃ seconds, OnGrid parameters tMs seconds := by
  have hours := parameters.sampleSpacingHours_pos
  have spacing : 0 < parameters.spacingMs := by
    unfold Parameters.spacingMs
    omega
  unfold sampleTimes at found
  split at found
  · rename_i firstOi lastOi lastMark _ isLastOi isLastMark
    dsimp only at found
    split at found
    · cases found
      exact ⟨.nil, fun _ member => absurd member List.not_mem_nil⟩
    · obtain ⟨first, _, rest⟩ := ok_of_bind found
      obtain ⟨midnight, isMidnight, rest⟩ := ok_of_bind rest
      obtain ⟨startMs, isStart, rest⟩ := ok_of_bind rest
      cases rest
      obtain ⟨startSeconds, near, rfl⟩ := midnight_seconds isMidnight
      rw [epochMs_whole near] at isStart
      cases isStart
      refine ⟨pairwise_gridTimes spacing, fun tMs member => ?_⟩
      obtain ⟨step, isStep, inside⟩ := step_of_mem_gridTimes spacing member
      have lastOiNear := last_near isOi isLastOi
      have lastMarkNear := last_near isMarks isLastMark
      have low := (abs_lt.mp near).1
      have later : 0 ≤ parameters.sampleSpacingHours * step :=
        mul_nonneg hours.le (Int.natCast_nonneg step)
      have horizon := parameters.horizonHours_pos
      have scaled : parameters.spacingMs * step =
          1000 * (3600 * (parameters.sampleSpacingHours * step)) := by
        unfold Parameters.spacingMs
        ring
      unfold farSeconds at low lastOiNear lastMarkNear
      refine ⟨startSeconds + 3600 * (parameters.sampleSpacingHours * step), ?_, ?_, ?_, ?_⟩
      · omega
      · unfold Parameters.horizonMs Parameters.horizonSeconds
        omega
      · rw [abs_lt]
        omega
      · rw [abs_lt]
        unfold Parameters.horizonMs at inside
        unfold Parameters.horizonSeconds
        omega
  · cases found
    exact ⟨.nil, fun _ member => absurd member List.not_mem_nil⟩

section

variable {texts : CampaignTexts} {parameters : Parameters} {regimeLabeler : Option RegimeLabeler}
  {oiBySymbol : OpenInterests} {markBySymbol : Marks} {symbol : Symbol}

def Visits (texts : CampaignTexts) (parameters : Parameters)
    (regimeLabeler : Option RegimeLabeler) (oiBySymbol : OpenInterests) (markBySymbol : Marks)
    (symbol : Symbol) (visits : Option (List Visit)) : Prop :=
  visitSymbol texts parameters regimeLabeler symbol (seriesOf oiBySymbol symbol)
    (seriesOf markBySymbol symbol) = .ok visits

private theorem buildSamples_visits {built : CampaignSamples}
    (ran : buildSamples texts parameters regimeLabeler oiBySymbol markBySymbol = .ok built) :
    parameters.horizonHours ≤ parameters.sampleSpacingHours ∧ ∃ visited,
      List.Forall₂ (Visits texts parameters regimeLabeler oiBySymbol markBySymbol)
        (sortedSymbols oiBySymbol) visited ∧
      built = CampaignSamples.of (visited.filterMap id) := by
  unfold buildSamples at ran
  split at ran
  · cases ran
  · rename_i spaced
    obtain ⟨visited, isVisited, rest⟩ := ok_of_bind ran
    cases rest
    exact ⟨not_lt.mp spaced, visited, forall₂_of_mapM isVisited, rfl⟩

variable {visits : List Visit} {normalization : Normalization}

theorem Visits.times
    (visited : Visits texts parameters regimeLabeler oiBySymbol markBySymbol symbol (some visits)) :
    ∃ oi marks times, toSortedPairs texts (seriesOf oiBySymbol symbol) = .ok oi ∧
      toSortedPairs texts (seriesOf markBySymbol symbol) = .ok marks ∧
      sampleTimes parameters oi marks = .ok times ∧
      List.Forall₂ (fun tMs result =>
        visit texts parameters regimeLabeler symbol oi marks tMs = .ok result) times visits := by
  unfold Visits visitSymbol at visited
  split at visited
  · cases visited
  · obtain ⟨oi, isOi, rest⟩ := ok_of_bind visited
    obtain ⟨marks, isMarks, rest⟩ := ok_of_bind rest
    obtain ⟨times, isTimes, rest⟩ := ok_of_bind rest
    obtain ⟨known, isVisits, same⟩ := ok_of_map rest
    cases same
    exact ⟨oi, marks, times, isOi, isMarks, isTimes, forall₂_of_mapM isVisits⟩

theorem Visits.symbol_eq
    (visited : Visits texts parameters regimeLabeler oiBySymbol markBySymbol symbol (some visits))
    {sample : ValidationSample} (isSample : sample ∈ visits.filterMap normalization.sample?) :
    sample.featureValue.symbol = symbol := by
  obtain ⟨oi, marks, times, _, _, _, pairs⟩ := visited.times
  obtain ⟨result, member, made⟩ := List.mem_filterMap.mp isSample
  obtain ⟨tMs, _, ran⟩ := exists_of_forall₂_right pairs member
  obtain ⟨_, _, _, _, isMade⟩ := visit_made ran made
  rw [isMade.feature]

private theorem visits_of_sample {symbols : List Symbol} {visited : List (Option (List Visit))}
    (pairs : List.Forall₂ (Visits texts parameters regimeLabeler oiBySymbol markBySymbol) symbols
      visited) {normalization : Normalization} {sample : ValidationSample}
    (member : sample ∈ (visited.filterMap id).flatten.filterMap normalization.sample?) :
    sample.featureValue.symbol ∈ symbols ∧ ∃ visits,
      Visits texts parameters regimeLabeler oiBySymbol markBySymbol sample.featureValue.symbol
        (some visits) ∧ sample ∈ visits.filterMap normalization.sample? := by
  obtain ⟨result, isResult, isSample⟩ := List.mem_filterMap.mp member
  obtain ⟨visits, isVisits, isMember⟩ := List.mem_flatten.mp isResult
  obtain ⟨known, isKnown, same⟩ := List.mem_filterMap.mp isVisits
  cases same
  obtain ⟨owner, isOwner, ownerVisits⟩ := exists_of_forall₂_right pairs isKnown
  have made := List.mem_filterMap.mpr ⟨result, isMember, isSample⟩
  rw [ownerVisits.symbol_eq made]
  exact ⟨isOwner, visits, ownerVisits, made⟩

structure WholeSeconds (texts : CampaignTexts) (oiBySymbol : OpenInterests) (markBySymbol : Marks)
    (symbol : Symbol) : Prop where
  oi : InWholeSeconds texts (seriesOf oiBySymbol symbol)
  marks : InWholeSeconds texts (seriesOf markBySymbol symbol)

structure Sampled (texts : CampaignTexts) (parameters : Parameters) (oiBySymbol : OpenInterests)
    (markBySymbol : Marks) (symbol : Symbol) (normalization : Normalization)
    (oiRows markRows : List (Int × Decimal)) (seconds : Int) (sample : ValidationSample) : Prop where
  oi : List.Forall₂ (IsRow texts) (seriesOf oiBySymbol symbol) oiRows
  marks : List.Forall₂ (IsRow texts) (seriesOf markBySymbol symbol) markRows
  grid : OnGrid parameters (1000 * seconds) seconds
  made : ∃ currentOi markT markFwd value, MadeOf texts parameters symbol normalization
    (.ofRows (TimeSeries.sortRows oiRows)) (.ofRows (TimeSeries.sortRows markRows))
    (1000 * seconds) currentOi markT markFwd value sample

theorem Visits.sampled
    (visited : Visits texts parameters regimeLabeler oiBySymbol markBySymbol symbol (some visits))
    (whole : WholeSeconds texts oiBySymbol markBySymbol symbol) (normalization : Normalization) :
    ∃ oiRows markRows, ∃ times : List Int,
      times.Pairwise (fun earlier later => earlier + parameters.spacingMs ≤ later) ∧
      List.Forall₂ (fun tMs result => ∀ sample, normalization.sample? result = some sample →
        ∃ seconds, tMs = 1000 * seconds ∧
          Sampled texts parameters oiBySymbol markBySymbol symbol normalization oiRows markRows
            seconds sample) times visits := by
  obtain ⟨oi, marks, times, isOi, isMarks, isTimes, pairs⟩ := visited.times
  obtain ⟨oiRows, rfl, oiPairs⟩ := toSortedPairs_whole isOi whole.oi
  obtain ⟨markRows, rfl, markPairs⟩ := toSortedPairs_whole isMarks whole.marks
  obtain ⟨apart, grid⟩ := sampleTimes_onGrid oiPairs markPairs isTimes
  refine ⟨oiRows, markRows, times, apart, forall₂_imp_mem pairs ?_⟩
  intro tMs member result ran sample isSample
  obtain ⟨seconds, onGrid⟩ := grid tMs member
  have isTime := onGrid.time
  subst isTime
  exact ⟨seconds, rfl, oiPairs, markPairs, onGrid, visit_made ran isSample⟩

private theorem sampled_of_mem {built : CampaignSamples}
    (ran : buildSamples texts parameters regimeLabeler oiBySymbol markBySymbol = .ok built)
    (whole : WholeSeconds texts oiBySymbol markBySymbol symbol) {sample : ValidationSample}
    (member : sample ∈ normalization.samples built) (isSymbol : sample.featureValue.symbol = symbol) :
    ∃ oiRows markRows seconds, Sampled texts parameters oiBySymbol markBySymbol symbol normalization
      oiRows markRows seconds sample := by
  obtain ⟨_, visited, pairs, rfl⟩ := buildSamples_visits ran
  rw [Normalization.samples_of] at member
  obtain ⟨_, visits, isVisits, made⟩ := visits_of_sample pairs member
  rw [isSymbol] at isVisits
  obtain ⟨result, isMember, isSample⟩ := List.mem_filterMap.mp made
  obtain ⟨oiRows, markRows, times, _, sampledPairs⟩ := isVisits.sampled whole normalization
  obtain ⟨tMs, _, sampled⟩ := exists_of_forall₂_right sampledPairs isMember
  obtain ⟨seconds, _, isSampled⟩ := sampled sample isSample
  exact ⟨oiRows, markRows, seconds, isSampled⟩

end

/-! ### No look-ahead and no overlap -/

def Parameters.horizonMicros (parameters : Parameters) : Int :=
  parameters.horizonSeconds * secondMicros

def SampledAt (texts : CampaignTexts) (symbol : Symbol) (instant : Int)
    (sample : ValidationSample) : Prop :=
  sample.featureValue.symbol = symbol ∧
    parseUtc texts.fromisoformat sample.featureValue.computedAtUtc.text = some instant

def HasWindow (texts : CampaignTexts) (sample : ValidationSample) (start finish : Int) : Prop :=
  parseUtc texts.fromisoformat sample.featureValue.computedAtUtc.text = some start ∧
    ∃ observedAt, sample.outcomeObservedAtUtc = some observedAt ∧
      parseUtc texts.fromisoformat observedAt.text = some finish

/-- Samples of one symbol at one instant in two runs are the same, where the series agree up to
the instant and, for the outcome, the marks up to a horizon later. -/
def NoLookAhead (texts : CampaignTexts) (parameters : Parameters) (symbol : Symbol)
    (oi otherOi : OpenInterests) (marks otherMarks : Marks)
    (samples others : List ValidationSample) : Prop :=
  ∀ instant, AgreeUpTo texts instant (seriesOf oi symbol) (seriesOf otherOi symbol) →
    ∀ sample ∈ samples, SampledAt texts symbol instant sample →
      ∀ other ∈ others, SampledAt texts symbol instant other →
        sample.featureValue = other.featureValue ∧
        (AgreeUpTo texts (instant + parameters.horizonMicros) (seriesOf marks symbol)
          (seriesOf otherMarks symbol) → sample.realizedOutcome = other.realizedOutcome)

/-- The samples of a symbol come in order, and each outcome ends before the next one starts. -/
def NoOverlap (texts : CampaignTexts) (parameters : Parameters) (symbol : Symbol)
    (samples : List ValidationSample) : Prop :=
  (samples.filter fun sample => sample.featureValue.symbol = symbol).Pairwise fun earlier later =>
    ∃ start next, HasWindow texts earlier start (start + parameters.horizonMicros) ∧
      HasWindow texts later next (next + parameters.horizonMicros) ∧
      start + parameters.horizonMicros ≤ next

section

variable {texts : CampaignTexts} {parameters : Parameters}
  {regimeLabeler otherLabeler : Option RegimeLabeler} {oiBySymbol otherOi : OpenInterests}
  {markBySymbol otherMarks : Marks} {symbol : Symbol} {normalization : Normalization}
  {built otherBuilt : CampaignSamples}

theorem Sampled.computed {oiRows markRows : List (Int × Decimal)} {seconds : Int}
    {sample : ValidationSample}
    (sampled : Sampled texts parameters oiBySymbol markBySymbol symbol normalization oiRows markRows
      seconds sample) (readsBack : ReadsBack texts) :
    parseUtc texts.fromisoformat sample.featureValue.computedAtUtc.text =
      some (seconds * secondMicros) := by
  obtain ⟨_, _, _, _, made⟩ := sampled.made
  exact read_canonicalTime readsBack sampled.grid.small made.computed

theorem Sampled.hasWindow {oiRows markRows : List (Int × Decimal)} {seconds : Int}
    {sample : ValidationSample}
    (sampled : Sampled texts parameters oiBySymbol markBySymbol symbol normalization oiRows markRows
      seconds sample) (readsBack : ReadsBack texts) :
    HasWindow texts sample (seconds * secondMicros)
      (seconds * secondMicros + parameters.horizonMicros) := by
  refine ⟨sampled.computed readsBack, ?_⟩
  obtain ⟨_, _, _, _, made⟩ := sampled.made
  obtain ⟨observedAt, isObserved, written⟩ := made.observed
  rw [sampled.grid.outcome] at written
  refine ⟨observedAt, isObserved, ?_⟩
  rw [read_canonicalTime readsBack sampled.grid.outcome_small written, Parameters.horizonMicros,
    add_mul]

private theorem noLookAhead (readsBack : ReadsBack texts)
    (ran : buildSamples texts parameters regimeLabeler oiBySymbol markBySymbol = .ok built)
    (whole : WholeSeconds texts oiBySymbol markBySymbol symbol)
    (otherRan : buildSamples texts parameters otherLabeler otherOi otherMarks = .ok otherBuilt)
    (otherWhole : WholeSeconds texts otherOi otherMarks symbol) :
    NoLookAhead texts parameters symbol oiBySymbol otherOi markBySymbol otherMarks
      (normalization.samples built) (normalization.samples otherBuilt) := by
  intro instant agree sample member sampledAt other otherMember otherSampledAt
  obtain ⟨oiRows, markRows, seconds, sampled⟩ :=
    sampled_of_mem ran whole member sampledAt.1
  obtain ⟨otherOiRows, otherMarkRows, otherSeconds, otherSampled⟩ :=
    sampled_of_mem otherRan otherWhole otherMember otherSampledAt.1
  have isInstant := sampled.computed readsBack
  rw [sampledAt.2] at isInstant
  cases isInstant
  have isOther := otherSampled.computed readsBack
  rw [otherSampledAt.2] at isOther
  have sameSeconds : seconds = otherSeconds :=
    mul_right_cancel₀ (by decide) (Option.some.inj isOther)
  subst sameSeconds
  obtain ⟨_, _, _, _, made⟩ := sampled.made
  obtain ⟨_, _, _, _, otherMade⟩ := otherSampled.made
  have rows := agree.rows sampled.oi otherSampled.oi
  have days := parameters.windowDays_pos
  have window : 1000 * seconds - parameters.windowMs ≤ 1000 * seconds := by
    unfold Parameters.windowMs
    omega
  refine ⟨made.feature_eq otherMade (latestAtOrBefore_eq rows _)
    (windowValues_eq rows window (le_refl _)), fun marksAgree => ?_⟩
  have horizon := parameters.horizonHours_pos
  rw [Parameters.horizonMicros, ← add_mul] at marksAgree
  have markRows := marksAgree.rows sampled.marks otherSampled.marks
  refine made.outcome_eq otherMade (latestAtOrBefore_eq (markRows.mono ?_) _) ?_
  · unfold Parameters.horizonSeconds
    omega
  · rw [sampled.grid.outcome]
    exact latestAtOrBefore_eq markRows _

theorem Visits.noOverlap (readsBack : ReadsBack texts) {visits : List Visit}
    (visited : Visits texts parameters regimeLabeler oiBySymbol markBySymbol symbol (some visits))
    (whole : WholeSeconds texts oiBySymbol markBySymbol symbol)
    (spaced : parameters.horizonHours ≤ parameters.sampleSpacingHours) :
    (visits.filterMap normalization.sample?).Pairwise fun earlier later =>
      ∃ start next, HasWindow texts earlier start (start + parameters.horizonMicros) ∧
        HasWindow texts later next (next + parameters.horizonMicros) ∧
        start + parameters.horizonMicros ≤ next := by
  obtain ⟨oiRows, markRows, times, apart, pairs⟩ := visited.sampled whole normalization
  clear visited
  induction pairs with
  | nil => exact .nil
  | @cons tMs result times visits first rest ih =>
      obtain ⟨later, others⟩ := List.pairwise_cons.mp apart
      rw [List.filterMap_cons]
      split
      · exact ih others
      · rename_i sample isSample
        refine List.pairwise_cons.mpr ⟨fun next isNext => ?_, ih others⟩
        obtain ⟨start, rfl, sampled⟩ := first sample isSample
        obtain ⟨nextResult, nextMember, isNextSample⟩ := List.mem_filterMap.mp isNext
        obtain ⟨nextMs, isTime, nextSampled⟩ := exists_of_forall₂_right rest nextMember
        obtain ⟨nextStart, rfl, isNextSampled⟩ := nextSampled next isNextSample
        refine ⟨_, _, sampled.hasWindow readsBack, isNextSampled.hasWindow readsBack, ?_⟩
        have between := later _ isTime
        rw [Parameters.horizonMicros, ← add_mul]
        refine Int.mul_le_mul_of_nonneg_right ?_ (by decide)
        unfold Parameters.spacingMs at between
        unfold Parameters.horizonSeconds
        omega

private theorem nodup_sortedSymbols (distinct : (Dict.keys oiBySymbol).Nodup) :
    (sortedSymbols oiBySymbol).Nodup :=
  (List.perm_insertionSort _ _).nodup_iff.mpr distinct

private theorem filter_samples {symbols : List Symbol} {visited : List (Option (List Visit))}
    (pairs : List.Forall₂ (Visits texts parameters regimeLabeler oiBySymbol markBySymbol) symbols
      visited) (distinct : symbols.Nodup) :
    ((visited.filterMap id).flatten.filterMap normalization.sample?).filter
        (fun sample => sample.featureValue.symbol = symbol) = [] ∨
      ∃ visits, Visits texts parameters regimeLabeler oiBySymbol markBySymbol symbol (some visits) ∧
        ((visited.filterMap id).flatten.filterMap normalization.sample?).filter
          (fun sample => sample.featureValue.symbol = symbol) =
            visits.filterMap normalization.sample? := by
  induction pairs with
  | nil => exact Or.inl rfl
  | @cons owner first symbols visited isFirst rest ih =>
      obtain ⟨isNew, others⟩ := List.nodup_cons.mp distinct
      cases first with
      | none => exact ih others
      | some visits =>
          rw [show (some visits :: visited).filterMap id = visits :: visited.filterMap id from rfl,
            List.flatten_cons, List.filterMap_append,
            List.filter_append]
          by_cases isOwner : owner = symbol
          · subst isOwner
            have none_ : ((visited.filterMap id).flatten.filterMap normalization.sample?).filter
                (fun sample => sample.featureValue.symbol = owner) = [] := by
              refine List.filter_eq_nil_iff.mpr fun sample member isSymbol => isNew ?_
              rw [← of_decide_eq_true isSymbol]
              exact (visits_of_sample rest member).1
            have all : (visits.filterMap normalization.sample?).filter
                (fun sample => sample.featureValue.symbol = owner) =
                  visits.filterMap normalization.sample? :=
              List.filter_eq_self.mpr fun sample member =>
                decide_eq_true (isFirst.symbol_eq member)
            rw [none_, all, List.append_nil]
            exact Or.inr ⟨visits, isFirst, rfl⟩
          · have none_ : (visits.filterMap normalization.sample?).filter
                (fun sample => sample.featureValue.symbol = symbol) = [] := by
              refine List.filter_eq_nil_iff.mpr fun sample member isSymbol => isOwner ?_
              rw [← isFirst.symbol_eq member]
              exact of_decide_eq_true isSymbol
            rw [none_, List.nil_append]
            exact ih others

private theorem noOverlap (readsBack : ReadsBack texts) (distinct : (Dict.keys oiBySymbol).Nodup)
    (ran : buildSamples texts parameters regimeLabeler oiBySymbol markBySymbol = .ok built)
    (whole : WholeSeconds texts oiBySymbol markBySymbol symbol) :
    NoOverlap texts parameters symbol (normalization.samples built) := by
  obtain ⟨spaced, visited, pairs, rfl⟩ := buildSamples_visits ran
  rw [Normalization.samples_of]
  unfold NoOverlap
  rcases filter_samples pairs (nodup_sortedSymbols distinct) with isEmpty | ⟨visits, isVisits, same⟩
  · rw [isEmpty]
    exact .nil
  · rw [same]
    exact isVisits.noOverlap readsBack whole spaced

/-- Two runs over series that agree up to an instant and its horizon make the same samples at the
instant, whatever the series become later, and the outcomes of one run do not overlap. -/
theorem samples_causal (readsBack : ReadsBack texts) (distinct : (Dict.keys oiBySymbol).Nodup)
    (ran : buildSamples texts parameters regimeLabeler oiBySymbol markBySymbol = .ok built)
    (whole : WholeSeconds texts oiBySymbol markBySymbol symbol)
    (otherRan : buildSamples texts parameters otherLabeler otherOi otherMarks = .ok otherBuilt)
    (otherWhole : WholeSeconds texts otherOi otherMarks symbol) :
    NoLookAhead texts parameters symbol oiBySymbol otherOi markBySymbol otherMarks
        built.pctrankSamples otherBuilt.pctrankSamples ∧
      NoLookAhead texts parameters symbol oiBySymbol otherOi markBySymbol otherMarks
        built.zscoreSamples otherBuilt.zscoreSamples ∧
      NoOverlap texts parameters symbol built.pctrankSamples ∧
      NoOverlap texts parameters symbol built.zscoreSamples := by
  refine ⟨?_, ?_, ?_, ?_⟩
  · exact @noLookAhead texts parameters regimeLabeler otherLabeler oiBySymbol otherOi markBySymbol
      otherMarks symbol .pctrank built otherBuilt readsBack ran whole otherRan otherWhole
  · exact @noLookAhead texts parameters regimeLabeler otherLabeler oiBySymbol otherOi markBySymbol
      otherMarks symbol .zscore built otherBuilt readsBack ran whole otherRan otherWhole
  · exact @noOverlap texts parameters regimeLabeler oiBySymbol markBySymbol symbol .pctrank built
      readsBack distinct ran whole
  · exact @noOverlap texts parameters regimeLabeler oiBySymbol markBySymbol symbol .zscore built
      readsBack distinct ran whole

end

/-! ### Two runs that part after the first sample -/

def firstDays : List (Int × String) :=
  [(0, "1970-01-01T00:00:00"), (86400000000, "1970-01-02T00:00:00"),
    (90000000000, "1970-01-02T01:00:00"), (172800000000, "1970-01-03T00:00:00"),
    (176400000000, "1970-01-03T01:00:00"), (180000000000, "1970-01-03T02:00:00")]

/-- An instant of the first days as it is written, and any other one in marks. -/
def writtenWith (fraction : String) (instant : Int) : String :=
  match firstDays.find? fun day => day.1 = instant with
  | some day => day.2 ++ fraction ++ "+00:00"
  | none => UtcTexts.marks.isoformat instant

def firstDayTexts : CampaignTexts :=
  { fromisoformat := fun text =>
      match firstDays.find? fun day =>
          text = day.2 ++ "+00:00" ∨ text = day.2 ++ ".000000+00:00" with
      | some day => some day.1
      | none => UtcTexts.marks.fromisoformat text
    isoformat := writtenWith ""
    isoformatMicroseconds := writtenWith ".000000" }

private theorem parseUtc_plain {fromisoformat : IsoTexts} {text : String}
    (nonempty : text.toList ≠ [])
    (plain : ∀ c ∈ text.toList, PyText.isSpace c = false ∧ c ≠ 'Z' ∧ c ≠ 'z') :
    parseUtc fromisoformat text = fromisoformat text := by
  obtain ⟨first, rest, isCons⟩ := List.exists_cons_of_ne_nil nonempty
  have last := List.getLast_mem nonempty
  have notBlank : PyText.isBlank text = false := PyText.not_blank_of_mem last (plain _ last).1
  have left : text.toList.dropWhile PyText.isSpace = text.toList := by
    rw [isCons, List.dropWhile_cons_of_neg]
    rw [(plain first (by rw [isCons]; simp)).1]
    decide
  have right : text.toList.rdropWhile PyText.isSpace = text.toList := by
    rw [List.rdropWhile_eq_self_iff]
    intro _
    rw [(plain _ last).1]
    decide
  have noMark : ¬ (text.toList.getLast? = some 'Z' ∨ text.toList.getLast? = some 'z') := by
    rw [List.getLast?_eq_getLast_of_ne_nil nonempty, Option.some.injEq, Option.some.injEq, not_or]
    exact (plain _ last).2
  unfold parseUtc
  rw [notBlank, left, right]
  simp only [Bool.false_eq_true, if_false, if_neg noMark, String.ofList_toList]

private theorem marks_chars (instant : Int) : ∃ sign count, (sign = '+' ∨ sign = '-') ∧
    (UtcTexts.marks.isoformat instant).toList = sign :: List.replicate count '|' := by
  cases instant with
  | ofNat count => exact ⟨'+', count, Or.inl rfl, String.toList_ofList⟩
  | negSucc count => exact ⟨'-', count, Or.inr rfl, String.toList_ofList⟩

private theorem read_marks (instant : Int) :
    parseUtc firstDayTexts.fromisoformat (UtcTexts.marks.isoformat instant) = some instant := by
  obtain ⟨sign, count, isSign, chars⟩ := marks_chars instant
  have plain : ∀ c ∈ (UtcTexts.marks.isoformat instant).toList,
      PyText.isSpace c = false ∧ c ≠ 'Z' ∧ c ≠ 'z' := by
    rw [chars]
    intro c member
    rcases List.mem_cons.mp member with rfl | isMark
    · rcases isSign with rfl | rfl <;> decide
    · rw [(List.mem_replicate.mp isMark).2]
      decide
  have unknown : firstDays.find? (fun day =>
      decide (UtcTexts.marks.isoformat instant = day.2 ++ "+00:00" ∨
        UtcTexts.marks.isoformat instant = day.2 ++ ".000000+00:00")) = none := by
    have starts : ∀ day ∈ firstDays, ∀ rest, UtcTexts.marks.isoformat instant ≠ day.2 ++ rest := by
      intro day member rest same
      have heads := congrArg (fun text => text.toList.head?) same
      have digit : ∀ day ∈ firstDays, ∃ tail, day.2.toList = '1' :: tail := by
        unfold firstDays
        simp
      obtain ⟨tail, isTail⟩ := digit day member
      simp only [chars, String.toList_append, isTail, List.cons_append, List.head?_cons,
        Option.some.injEq] at heads
      subst heads
      rcases isSign with impossible | impossible <;> exact absurd impossible (by decide)
    refine List.find?_eq_none.mpr fun day member found => ?_
    rcases of_decide_eq_true found with same | same
    · exact starts day member _ same
    · exact starts day member _ same
  rw [parseUtc_plain (by rw [chars]; exact List.cons_ne_nil _ _) plain]
  unfold firstDayTexts
  dsimp only
  rw [unknown]
  exact UtcTexts.marks.fromisoformat_isoformat instant

private theorem readsBack_firstDayTexts : ReadsBack firstDayTexts := by
  have read : ∀ fraction, (∀ day ∈ firstDays,
      parseUtc firstDayTexts.fromisoformat (day.2 ++ fraction ++ "+00:00") = some day.1) →
      ∀ instant, parseUtc firstDayTexts.fromisoformat (writtenWith fraction instant) =
        some instant := by
    intro fraction days instant
    unfold writtenWith
    split
    · rename_i day found
      have isDay : day.1 = instant := by simpa using List.find?_some found
      rw [days day (List.mem_of_find?_eq_some found), isDay]
    · exact read_marks instant
  constructor
  · exact fun instant _ => read "" (by decide +kernel) instant
  · exact fun instant _ => read ".000000" (by decide +kernel) instant

def observationOf (metric : Metric) (observedAtUtc : String) (value : Int) :
    Observation (.scalar metric) :=
  { symbol := btc
    observedAtUtc
    market := Decimal.ofInt value
    source := "binance"
    sourceDetail := "synthetic"
    ingestedAtUtc := "1970-01-01T00:00:00+00:00" }

def interestUntil (last : Int) : OpenInterests :=
  [(btc, [observationOf .openInterest "1970-01-01T00:00:00+00:00" 5,
    observationOf .openInterest "1970-01-02T00:00:00+00:00" 1,
    observationOf .openInterest "1970-01-02T01:00:00+00:00" 2,
    observationOf .openInterest "1970-01-03T00:00:00+00:00" 3,
    observationOf .openInterest "1970-01-03T01:00:00+00:00" last])]

def marksUntil (last : Int) : Marks :=
  [(btc, [observationOf .markPrice "1970-01-03T00:00:00+00:00" 100,
    observationOf .markPrice "1970-01-03T01:00:00+00:00" 110,
    observationOf .markPrice "1970-01-03T02:00:00+00:00" last])]

def hourly : Parameters :=
  { windowDays := 1
    horizonHours := 1
    sampleSpacingHours := 1
    toleranceMs := 600000
    windowDays_pos := by decide
    horizonHours_pos := by decide
    sampleSpacingHours_pos := by decide
    toleranceMs_pos := by decide }

def computedTimes (built : CampaignSamples) : List String :=
  built.pctrankSamples.map fun sample => sample.featureValue.computedAtUtc.text

private theorem buildSamples_hourly {lastOi lastMark : Int}
    (times : (buildSamples firstDayTexts hourly none (interestUntil lastOi)
      (marksUntil lastMark)).toOption.map computedTimes =
        some ["1970-01-03T00:00:00.000000+00:00", "1970-01-03T01:00:00.000000+00:00"]) :
    ∃ built, buildSamples firstDayTexts hourly none (interestUntil lastOi) (marksUntil lastMark) =
        .ok built ∧
      ∃ sample ∈ built.pctrankSamples, sample.featureValue.computedAtUtc.text =
        "1970-01-03T00:00:00.000000+00:00" := by
  cases ran : buildSamples firstDayTexts hourly none (interestUntil lastOi) (marksUntil lastMark) with
  | error error =>
      rw [ran] at times
      cases times
  | ok built =>
      rw [ran] at times
      refine ⟨built, rfl, ?_⟩
      have first : "1970-01-03T00:00:00.000000+00:00" ∈ computedTimes built := by
        rw [Option.some.inj times]
        exact List.mem_cons_self
      exact List.mem_map.mp first

private theorem wholeSeconds_hourly (lastOi lastMark : Int) :
    WholeSeconds firstDayTexts (interestUntil lastOi) (marksUntil lastMark) btc := by
  have isWhole {metric : Metric} {value : Int} {text : String} (seconds : Int)
      (isDatetime : IsDatetime (seconds * secondMicros))
      (read : parseUtc firstDayTexts.fromisoformat text = some (seconds * secondMicros)) :
      ∃ seconds, IsDatetime (seconds * secondMicros) ∧
        (observationOf metric text value).instant firstDayTexts.fromisoformat =
          some (seconds * secondMicros) := ⟨seconds, isDatetime, read⟩
  constructor
  · intro observation member
    have isOne : observation ∈ [observationOf .openInterest "1970-01-01T00:00:00+00:00" 5,
        observationOf .openInterest "1970-01-02T00:00:00+00:00" 1,
        observationOf .openInterest "1970-01-02T01:00:00+00:00" 2,
        observationOf .openInterest "1970-01-03T00:00:00+00:00" 3,
        observationOf .openInterest "1970-01-03T01:00:00+00:00" lastOi] := member
    simp only [List.mem_cons, List.not_mem_nil, or_false] at isOne
    rcases isOne with rfl | rfl | rfl | rfl | rfl
    · exact isWhole 0 (by decide) (by decide +kernel)
    · exact isWhole 86400 (by decide) (by decide +kernel)
    · exact isWhole 90000 (by decide) (by decide +kernel)
    · exact isWhole 172800 (by decide) (by decide +kernel)
    · exact isWhole 176400 (by decide) (by decide +kernel)
  · intro observation member
    have isOne : observation ∈ [observationOf .markPrice "1970-01-03T00:00:00+00:00" 100,
        observationOf .markPrice "1970-01-03T01:00:00+00:00" 110,
        observationOf .markPrice "1970-01-03T02:00:00+00:00" lastMark] := member
    simp only [List.mem_cons, List.not_mem_nil, or_false] at isOne
    rcases isOne with rfl | rfl | rfl
    · exact isWhole 172800 (by decide) (by decide +kernel)
    · exact isWhole 176400 (by decide) (by decide +kernel)
    · exact isWhole 180000 (by decide) (by decide +kernel)

private theorem agreeUpTo_concat {metric : Metric} {texts : CampaignTexts} {limit later : Int}
    {known : List (Observation (.scalar metric))} {last other : Observation (.scalar metric)}
    (isLater : last.instant texts.fromisoformat = some later)
    (isOther : other.instant texts.fromisoformat = some later) (after : limit < later) :
    AgreeUpTo texts limit (known ++ [last]) (known ++ [other]) := by
  intro instant early
  have differs : ¬ some later = some instant := by
    intro same
    have equal := Option.some.inj same
    omega
  unfold valuesAt
  rw [List.filter_append, List.filter_append, List.filter_singleton, List.filter_singleton,
    isLater, isOther]
  simp only [differs, decide_false, cond_false]

/-- The first sample does not show what the open interest was an hour later, nor the mark after
two hours. -/
theorem samples_causal_hourly :
    ∃ built otherBuilt,
      buildSamples firstDayTexts hourly none (interestUntil 9) (marksUntil 90) = .ok built ∧
      buildSamples firstDayTexts hourly none (interestUntil 7) (marksUntil 200) = .ok otherBuilt ∧
      (∃ sample ∈ built.pctrankSamples, ∃ other ∈ otherBuilt.pctrankSamples,
        SampledAt firstDayTexts btc 172800000000 sample ∧
          sample.featureValue = other.featureValue ∧
          sample.realizedOutcome = other.realizedOutcome) ∧
      NoOverlap firstDayTexts hourly btc built.pctrankSamples := by
  obtain ⟨built, ran, sample, member, computed⟩ := @buildSamples_hourly 9 90 (by decide +kernel)
  obtain ⟨otherBuilt, otherRan, other, otherMember, otherComputed⟩ :=
    @buildSamples_hourly 7 200 (by decide +kernel)
  obtain ⟨causal, _, apart, _⟩ := samples_causal readsBack_firstDayTexts (by decide) ran
    (wholeSeconds_hourly 9 90) otherRan (wholeSeconds_hourly 7 200)
  have read : parseUtc firstDayTexts.fromisoformat "1970-01-03T00:00:00.000000+00:00" =
      some 172800000000 := by decide +kernel
  have owned {last lastMark : Int} {all : CampaignSamples}
      (ranAll : buildSamples firstDayTexts hourly none (interestUntil last) (marksUntil lastMark) =
        .ok all) {one : ValidationSample} (isOne : one ∈ all.pctrankSamples) :
      one.featureValue.symbol = btc := by
    obtain ⟨_, visited, pairs, rfl⟩ := buildSamples_visits ranAll
    have owner := (@visits_of_sample _ _ _ _ _ _ _ pairs .pctrank _ isOne).1
    exact List.mem_singleton.mp owner
  have sampledAt : SampledAt firstDayTexts btc 172800000000 sample :=
    ⟨owned ran member, by rw [computed, read]⟩
  have otherSampledAt : SampledAt firstDayTexts btc 172800000000 other :=
    ⟨owned otherRan otherMember, by rw [otherComputed, read]⟩
  have interestAgrees : AgreeUpTo firstDayTexts 172800000000 (seriesOf (interestUntil 9) btc)
      (seriesOf (interestUntil 7) btc) :=
    @agreeUpTo_concat .openInterest firstDayTexts 172800000000 176400000000
      [observationOf .openInterest "1970-01-01T00:00:00+00:00" 5,
        observationOf .openInterest "1970-01-02T00:00:00+00:00" 1,
        observationOf .openInterest "1970-01-02T01:00:00+00:00" 2,
        observationOf .openInterest "1970-01-03T00:00:00+00:00" 3] _ _
      (show parseUtc _ "1970-01-03T01:00:00+00:00" = _ by decide +kernel)
      (show parseUtc _ "1970-01-03T01:00:00+00:00" = _ by decide +kernel) (by decide)
  have marksAgree : AgreeUpTo firstDayTexts (172800000000 + hourly.horizonMicros)
      (seriesOf (marksUntil 90) btc) (seriesOf (marksUntil 200) btc) :=
    @agreeUpTo_concat .markPrice firstDayTexts _ 180000000000
      [observationOf .markPrice "1970-01-03T00:00:00+00:00" 100,
        observationOf .markPrice "1970-01-03T01:00:00+00:00" 110] _ _
      (show parseUtc _ "1970-01-03T02:00:00+00:00" = _ by decide +kernel)
      (show parseUtc _ "1970-01-03T02:00:00+00:00" = _ by decide +kernel) (by decide)
  obtain ⟨sameFeature, sameOutcome⟩ := causal 172800000000 interestAgrees sample member sampledAt
    other otherMember otherSampledAt
  exact ⟨built, otherBuilt, ran, otherRan,
    ⟨sample, member, other, otherMember, sampledAt, sameFeature, sameOutcome marksAgree⟩, apart⟩

end TurtleExecution.OpenInterestCampaign

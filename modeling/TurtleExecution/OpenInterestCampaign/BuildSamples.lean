/-
`build_samples`: validation samples from series of open interest and of mark prices.

Along the sample times of a symbol, each at a spacing from the last, a time is skipped where a
datum is missing, and otherwise it makes one sample for each of the two scores.
-/

import TurtleExecution.DataSources.FundingRate
import TurtleExecution.Features.OpenInterestRolling
import TurtleExecution.Foundation.TimeSeries
import TurtleExecution.Validation.Models

set_option autoImplicit false

namespace TurtleExecution.OpenInterestCampaign

open ExchangeAdapter Features HistoricalStorage Validation

inductive BuildError
  | value (message : String)
  /-- The `ValueError` of a text that is no timestamp, or a time that no `datetime` holds. -/
  | timestamp
  | arithmetic (error : ArithmeticError)
  | sample (message : String)
  | other (message : String)

structure CampaignTexts where
  fromisoformat : IsoTexts
  isoformat : Int → String
  /-- `isoformat(timespec="microseconds")` of an instant in UTC. -/
  isoformatMicroseconds : Int → String

def orRaise {Value : Type} (error : BuildError) : Option Value → Except BuildError Value
  | some value => .ok value
  | none => .error error

def dayMicros : Int := 24 * 3600 * secondMicros

/-- The instants that a `datetime` holds: the years from 1 to 9999. -/
def IsDatetime (instant : Int) : Prop :=
  Calendar.yearStart 1 * dayMicros ≤ instant ∧ instant < Calendar.yearStart 10000 * dayMicros

instance (instant : Int) : Decidable (IsDatetime instant) := inferInstanceAs (Decidable (_ ∧ _))

def truncate (value : ℚ) : Int := if 0 ≤ value then ⌊value⌋ else ⌈value⌉

def epochMs (instant : Int) : Except BuildError Int :=
  match (DataSources.totalSeconds instant).mul? (.int 1000) with
  | some (.float (.finite value)) => .ok (truncate value)
  | _ => .error .timestamp

/-- `datetime.fromtimestamp(ms / 1000, tz=timezone.utc)` -/
def fromTimestamp (ms : Int) : Except BuildError Int :=
  match FloatValue.round ((ms : ℚ) / 1000) with
  | .finite seconds =>
      let fraction := Binary64.format.nearest ((seconds - truncate seconds) * secondMicros)
      let instant := truncate seconds * secondMicros + HalfEven.whole fraction
      if IsDatetime instant then .ok instant else .error .timestamp
  | _ => .error .timestamp

/-- `dt.replace(hour=0, minute=0, second=0, microsecond=0) + timedelta(days=1)` -/
def nextMidnight (instant : Int) : Except BuildError Int :=
  let midnight := (instant / dayMicros + 1) * dayMicros
  if IsDatetime midnight then .ok midnight else .error .timestamp

/-- `canonical_utc(datetime.fromtimestamp(t_ms / 1000, tz=timezone.utc).isoformat())` -/
def canonicalTime (texts : CampaignTexts) (ms : Int) : Except BuildError String := do
  let instant ← fromTimestamp ms
  let read ← orRaise .timestamp (parseUtc texts.fromisoformat (texts.isoformat instant))
  return texts.isoformatMicroseconds read

structure Series where
  times : List Int
  values : List Decimal

def Series.ofRows (rows : List (Int × Decimal)) : Series :=
  { times := rows.map Prod.fst
    values := rows.map Prod.snd }

def valueOf {metric : Metric} (observation : Observation (.scalar metric)) : Decimal :=
  observation.market

def timedRow {metric : Metric} (texts : CampaignTexts) (observation : Observation (.scalar metric)) :
    Except BuildError (Int × Decimal) := do
  let instant ← orRaise .timestamp (observation.instant texts.fromisoformat)
  let ms ← epochMs instant
  return (ms, valueOf observation)

def toSortedPairs {metric : Metric} (texts : CampaignTexts)
    (observations : List (Observation (.scalar metric))) : Except BuildError Series := do
  let rows ← observations.mapM (timedRow texts)
  return Series.ofRows (TimeSeries.sortRows rows)

def latestAtOrBefore (series : Series) (tMs toleranceMs : Int) : Option Decimal :=
  match bisectRight series.times tMs with
  | 0 => none
  | index + 1 => do
      let time ← series.times[index]?
      if toleranceMs < tMs - time then none else series.values[index]?

def windowValues (series : Series) (startMs endMs : Int) : List Decimal :=
  slice series.values
    (bisectRight series.times (startMs - 1), bisectRight series.times (endMs - 1))

structure Parameters where
  windowDays : Int
  horizonHours : Int
  sampleSpacingHours : Int
  toleranceMs : Int
  windowDays_pos : 0 < windowDays
  horizonHours_pos : 0 < horizonHours
  sampleSpacingHours_pos : 0 < sampleSpacingHours
  toleranceMs_pos : 0 < toleranceMs

namespace Parameters

def windowMs (parameters : Parameters) : Int := parameters.windowDays * 24 * 3600 * 1000

def horizonMs (parameters : Parameters) : Int := parameters.horizonHours * 3600 * 1000

def spacingMs (parameters : Parameters) : Int := parameters.sampleSpacingHours * 3600 * 1000

end Parameters

abbrev RegimeLabeler : Type := Int → Except BuildError String

/-- `regime_labeler(t_ms) if regime_labeler is not None else None` -/
def regimeAt (regimeLabeler : Option RegimeLabeler) (tMs : Int) :
    Except BuildError (Option String) :=
  match regimeLabeler with
  | none => .ok none
  | some label => some <$> label tMs

def nonBlank (field text : String) : Except BuildError NonBlank :=
  orRaise (.sample (field ++ " must be a non-empty string")) (NonBlank.ofText? text)

def checkedLabel : Option String → Except BuildError (Option NonBlank)
  | none => .ok none
  | some label => some <$> nonBlank "ValidationSample.regime_label" label

/-- The constructors of a `FeatureValue` and of its `ValidationSample`. -/
def sampleOf (featureName featureVersion : NonBlank) (symbol : Symbol) (computedAt outcomeAt : String)
    (value realized : Decimal) (regime : Option String) : Except BuildError ValidationSample := do
  let computedAtUtc ← nonBlank "FeatureValue.computed_at_utc" computedAt
  let observedAtUtc ← nonBlank "ValidationSample.outcome_observed_at_utc" outcomeAt
  let regimeLabel ← checkedLabel regime
  return {
    featureValue :=
      { featureName, featureVersion, symbol, computedAtUtc, result := .available value }
    realizedOutcome := realized
    outcomeObservedAtUtc := some observedAtUtc
    regimeLabel }

inductive Skip
  | noOi
  | thinWindow
  | noMarkT
  | noMarkForward
  deriving DecidableEq

inductive Visit
  | skipped (skip : Skip)
  | built (pctrank zscore : Option ValidationSample)

def arithmetically {Value : Type} (result : Except ArithmeticError Value) :
    Except BuildError Value :=
  result.mapError .arithmetic

def isMissing : Option Decimal → Except BuildError Bool
  | none => .ok true
  | some mark => arithmetically (LedgerArithmetic.eq mark Decimal.zero)

def realizedReturn (markFwd markT : Decimal) : Except ArithmeticError Decimal := do
  let ratio ← Arithmetic.div markFwd markT
  Arithmetic.sub ratio (Decimal.ofInt 1)

section

variable (texts : CampaignTexts) (parameters : Parameters) (regimeLabeler : Option RegimeLabeler)
  (symbol : Symbol)

def scoreSample (featureName featureVersion : NonBlank) (computedAt outcomeAt : String)
    (realized : Decimal) (regime : Option String) :
    Option Decimal → Except BuildError (Option ValidationSample)
  | none => .ok none
  | some value =>
      some <$> sampleOf featureName featureVersion symbol computedAt outcomeAt value realized regime

def buildAt (tMs : Int) (window : List Decimal) (currentOi markT markFwd : Decimal) :
    Except BuildError Visit := do
  let realized ← arithmetically (realizedReturn markFwd markT)
  let computedAt ← canonicalTime texts tMs
  let outcomeAt ← canonicalTime texts (tMs + parameters.horizonMs)
  let regime ← regimeAt regimeLabeler tMs
  let pct ← arithmetically (percentileRankCentered window currentOi)
  let z ← arithmetically (zscore window currentOi)
  let pctrankSample ← scoreSample symbol pctrankName pctrankVersion computedAt outcomeAt realized
    regime pct
  let zscoreSample ← scoreSample symbol zscoreName zscoreVersion computedAt outcomeAt realized
    regime z
  return .built pctrankSample zscoreSample

def visit (oi marks : Series) (tMs : Int) : Except BuildError Visit :=
  match latestAtOrBefore oi tMs parameters.toleranceMs with
  | none => .ok (.skipped .noOi)
  | some currentOi =>
      let window := windowValues oi (tMs - parameters.windowMs) tMs
      if window.length < 2 then .ok (.skipped .thinWindow)
      else do
        let markT := latestAtOrBefore marks tMs parameters.toleranceMs
        let missing ← isMissing markT
        match missing, markT with
        | false, some markT =>
            match latestAtOrBefore marks (tMs + parameters.horizonMs) parameters.toleranceMs with
            | none => .ok (.skipped .noMarkForward)
            | some markFwd =>
                buildAt texts parameters regimeLabeler symbol tMs window currentOi markT markFwd
        | _, _ => .ok (.skipped .noMarkT)

/-- The sample times from the first midnight with a window before it to the last time with a
mark after it. -/
def sampleTimes (oi marks : Series) : Except BuildError (List Int) :=
  match oi.times.head?, oi.times.getLast?, marks.times.getLast? with
  | some firstOi, some lastOi, some lastMark =>
      let firstMs := firstOi + parameters.windowMs
      let lastMs := min lastOi (lastMark - parameters.horizonMs)
      if lastMs ≤ firstMs then .ok []
      else do
        let first ← fromTimestamp firstMs
        let midnight ← nextMidnight first
        let startMs ← epochMs midnight
        return gridTimes startMs parameters.spacingMs lastMs
  | _, _, _ => .ok []

/-- The visits of a symbol; `none` stands for a symbol without data. -/
def visitSymbol (oiObs : List (Observation (.scalar .openInterest)))
    (markObs : List (Observation (.scalar .markPrice))) :
    Except BuildError (Option (List Visit)) :=
  if oiObs.isEmpty || markObs.isEmpty then .ok none
  else do
    let oi ← toSortedPairs texts oiObs
    let marks ← toSortedPairs texts markObs
    let times ← sampleTimes parameters oi marks
    some <$> times.mapM (visit texts parameters regimeLabeler symbol oi marks)

end

structure Diagnostics where
  symbols : Nat
  gridPoints : Nat
  built : Nat
  skipNoOi : Nat
  skipThinWindow : Nat
  skipNoMarkT : Nat
  skipNoMarkForward : Nat
  skipNormPctNone : Nat
  skipNormZNone : Nat
  deriving DecidableEq

structure CampaignSamples where
  pctrankSamples : List ValidationSample
  zscoreSamples : List ValidationSample
  diagnostics : Diagnostics

def Visit.pctrank? : Visit → Option ValidationSample
  | skipped _ => none
  | built pctrank _ => pctrank

def Visit.zscore? : Visit → Option ValidationSample
  | skipped _ => none
  | built _ zscore => zscore

def Visit.isSkip (skip : Skip) : Visit → Bool
  | skipped other => skip = other
  | built _ _ => false

def Visit.isBuilt : Visit → Bool
  | skipped _ => false
  | built _ _ => true

def Diagnostics.of (visited : List (List Visit)) : Diagnostics :=
  let visits := visited.flatten
  { symbols := visited.length
    gridPoints := visits.length
    built := visits.countP Visit.isBuilt
    skipNoOi := visits.countP (Visit.isSkip .noOi)
    skipThinWindow := visits.countP (Visit.isSkip .thinWindow)
    skipNoMarkT := visits.countP (Visit.isSkip .noMarkT)
    skipNoMarkForward := visits.countP (Visit.isSkip .noMarkForward)
    skipNormPctNone := visits.countP fun visit => visit.isBuilt && visit.pctrank?.isNone
    skipNormZNone := visits.countP fun visit => visit.isBuilt && visit.zscore?.isNone }

def CampaignSamples.of (visited : List (List Visit)) : CampaignSamples :=
  { pctrankSamples := visited.flatten.filterMap Visit.pctrank?
    zscoreSamples := visited.flatten.filterMap Visit.zscore?
    diagnostics := Diagnostics.of visited }

abbrev OpenInterests : Type := Dict Symbol (List (Observation (.scalar .openInterest)))

abbrev Marks : Type := Dict Symbol (List (Observation (.scalar .markPrice)))

def seriesOf {metric : Metric} (bySymbol : Dict Symbol (List (Observation (.scalar metric))))
    (symbol : Symbol) : List (Observation (.scalar metric)) :=
  (Dict.get? bySymbol symbol).getD []

def spacingMessage (parameters : Parameters) : String :=
  s!"sample_spacing_hours ({parameters.sampleSpacingHours}) must be >= horizon_hours ({parameters.horizonHours}) to keep outcome windows non-overlapping"

/-- `sorted(oi_by_symbol, key=lambda s: s.value)` -/
def sortedSymbols (oiBySymbol : OpenInterests) : List Symbol :=
  (Dict.keys oiBySymbol).insertionSort fun left right => left.value ≤ right.value

def buildSamples (texts : CampaignTexts) (parameters : Parameters)
    (regimeLabeler : Option RegimeLabeler) (oiBySymbol : OpenInterests) (markBySymbol : Marks) :
    Except BuildError CampaignSamples :=
  if parameters.sampleSpacingHours < parameters.horizonHours then
    .error (.value (spacingMessage parameters))
  else do
    let visited ← (sortedSymbols oiBySymbol).mapM fun symbol =>
      visitSymbol texts parameters regimeLabeler symbol (seriesOf oiBySymbol symbol)
        (seriesOf markBySymbol symbol)
    return CampaignSamples.of (visited.filterMap id)

end TurtleExecution.OpenInterestCampaign

/-
The funding rates that a provider reads, or the reasons why there are none.

A rate is as old as the time between its timestamp and the time at which the provider fetched
it.  Where that is negative, or more than the provider tolerates, the reading is unavailable.
-/

import TurtleExecution.Candidates.Models
import TurtleExecution.Foundation.FloatOrder
import TurtleExecution.Foundation.Process
import TurtleExecution.Foundation.UtcTime
import TurtleExecution.HistoricalStorage.Observations

set_option autoImplicit false

namespace TurtleExecution.DataSources

open ExchangeAdapter Features HistoricalStorage

inductive DataSourceError
  | dataSource (message : String)
  | value
  deriving DecidableEq

structure MarketReads (State Number : Type) where
  getMarkPrice : Symbol → Process State CallError (MarkPrice Number)
  getFundingRate : Symbol → Process State CallError (FundingRate Number)

structure Wording where
  raised : CallError → NonBlank
  repr : String → String
  oneDecimal : PyNumber → String

structure ObservedRate (Number : Type) where
  value : Number
  observedAtUtc : String
  deriving DecidableEq

structure FundingRateReading (Number : Type) where
  symbol : Symbol
  fetchedAtUtc : NonBlank
  result : Availability (ObservedRate Number)
  deriving DecidableEq

structure FundingRateProvider where
  maxStalenessSeconds : FloatValue
  positive : (PyNumber.float maxStalenessSeconds).le (.int 0) = false

namespace FundingRateProvider

def default : FundingRateProvider :=
  { maxStalenessSeconds := .finite 300
    positive := by decide +kernel }

end FundingRateProvider

/-- `timedelta.total_seconds()` of so many microseconds. -/
def totalSeconds (micros : Int) : PyNumber :=
  .float (FloatValue.round ((micros : ℚ) / secondMicros))

def exactSeconds : Int := 2 ^ 34

private theorem nearest_micros_lt {seconds : Int} {value : ℚ} (nonneg : 0 ≤ seconds)
    (small : seconds ≤ exactSeconds) (near : (seconds : ℚ) - 1 < value)
    (short : value ≤ seconds - 1 / secondMicros) :
    Binary64.format.nearest value < seconds := by
  have low : (0 : ℚ) ≤ seconds := by exact_mod_cast nonneg
  have high : (seconds : ℚ) ≤ 2 ^ 34 := by exact_mod_cast small
  have step : (0 : ℚ) < 1 / secondMicros := by norm_num [secondMicros]
  have digits : |value| < ((2 : Nat) : ℚ) ^ (34 : Int) := by
    rw [abs_lt]
    norm_num
    constructor <;> linarith
  have half : ((2 : Nat) : ℚ) ^ ((34 : Int) - (53 : Nat)) / 2 < 1 / secondMicros := by
    norm_num [secondMicros]
  have moved : |Binary64.format.nearest value - value| ≤
      ((2 : Nat) : ℚ) ^ ((34 : Int) - (53 : Nat)) / 2 :=
    NumberFormat.abs_nearest_sub_le_zpow digits (by decide)
  linarith [(abs_le.mp moved).2]

private theorem int_le_nearest_micros {seconds micros : Int} (nonneg : 0 ≤ seconds)
    (small : seconds ≤ exactSeconds) :
    (seconds : ℚ) ≤ Binary64.format.nearest ((micros : ℚ) / secondMicros) ↔
      seconds * secondMicros ≤ micros := by
  have micro : (0 : ℚ) < (secondMicros : ℚ) := by norm_num [secondMicros]
  have isExact {number : Int} (low : -1 ≤ number) (high : number ≤ exactSeconds) :
      Binary64.format.nearest (number : ℚ) = number :=
    FloatValue.nearest_intCast (abs_lt.mpr ⟨by omega, lt_of_le_of_lt high (by decide)⟩)
  have scaled : (seconds : ℚ) ≤ (micros : ℚ) / secondMicros ↔ seconds * secondMicros ≤ micros := by
    rw [le_div_iff₀ micro]
    exact_mod_cast Iff.rfl
  rw [← scaled]
  refine ⟨fun reached => ?_, fun reached => ?_⟩
  · by_contra short
    have below : (micros : ℚ) / secondMicros ≤ seconds - 1 / secondMicros := by
      rw [scaled, not_le] at short
      rw [div_le_iff₀ micro, sub_mul, one_div, inv_mul_cancel₀ micro.ne']
      have whole : micros ≤ seconds * secondMicros - 1 := Int.le_sub_one_of_lt short
      exact_mod_cast whole
    rcases le_or_gt ((micros : ℚ) / secondMicros) ((seconds - 1 : Int) : ℚ) with far | near
    · have rounded := Binary64.format.nearest_mono far
      rw [isExact (by omega) (by omega)] at rounded
      have impossible : seconds ≤ seconds - 1 := by exact_mod_cast reached.trans rounded
      omega
    · rw [Int.cast_sub, Int.cast_one] at near
      exact absurd reached (not_le.mpr (nearest_micros_lt nonneg small near below))
  · rw [← isExact (by omega) small]
    exact Binary64.format.nearest_mono reached

theorem le_totalSeconds_iff {seconds micros : Int} (nonneg : 0 ≤ seconds)
    (small : seconds ≤ exactSeconds) :
    (PyNumber.int seconds).le (totalSeconds micros) = true ↔ seconds * secondMicros ≤ micros := by
  rw [← int_le_nearest_micros nonneg small]
  refine PyNumber.int_le_round_iff ?_
  have low : (0 : ℚ) ≤ seconds := by exact_mod_cast nonneg
  have high : (seconds : ℚ) ≤ 2 ^ 34 := by exact_mod_cast small
  rw [abs_of_nonneg low]
  exact high.trans_lt (pow_lt_pow_right₀ (by norm_num) (by norm_num))

theorem totalSeconds_lt_zero_iff {micros : Int} :
    (totalSeconds micros).lt (.int 0) = true ↔ micros < 0 := by
  obtain ⟨place, isPlace⟩ := PyNumber.extended_round ((micros : ℚ) / secondMicros)
  have reached := @le_totalSeconds_iff 0 micros (le_refl 0) (by decide)
  rw [zero_mul] at reached
  rw [← not_le, ← reached]
  exact PyNumber.lt_iff_not_le isPlace rfl

def ageSeconds (fromisoformat : IsoTexts) (fetchedAtUtc observedAtUtc : String) :
    Except DataSourceError PyNumber :=
  match fromisoformat fetchedAtUtc, fromisoformat observedAtUtc with
  | some fetchedAt, some observedAt => .ok (totalSeconds (fetchedAt - observedAt))
  | _, _ => .error .value

section

variable {State Number : Type}

def readAt (symbol : Symbol) (fetchedAtUtc : String) (result : Availability (ObservedRate Number)) :
    Except DataSourceError (FundingRateReading Number) :=
  match NonBlank.ofText? fetchedAtUtc with
  | some fetchedAtUtc => .ok { symbol, fetchedAtUtc, result }
  | none => .error (.dataSource "FundingRateReading.fetched_at_utc must be a non-empty string")

def futureReason (wording : Wording) (timestampUtc fetchedAtUtc : String) : NonBlank :=
  NonBlank.append ⟨"funding rate timestamp ", by decide⟩
    s!"{wording.repr timestampUtc} is in the future relative to fetch time {wording.repr fetchedAtUtc}"

def staleReason (wording : Wording) (age maxStalenessSeconds : PyNumber) : NonBlank :=
  NonBlank.append ⟨"stale: funding rate observed ", by decide⟩
    s!"{wording.oneDecimal age}s ago, exceeds max_staleness_seconds={wording.oneDecimal maxStalenessSeconds}"

def FundingRateProvider.judge (provider : FundingRateProvider) (wording : Wording)
    (fetchedAtUtc : String) (funding : FundingRate Number) (age : PyNumber) :
    Availability (ObservedRate Number) :=
  if age.lt (.int 0) then
    .unavailable (futureReason wording funding.timestampUtc fetchedAtUtc)
  else if (PyNumber.float provider.maxStalenessSeconds).lt age then
    .unavailable (staleReason wording age (.float provider.maxStalenessSeconds))
  else .available { value := funding.rate, observedAtUtc := funding.timestampUtc }

def FundingRateProvider.readingOf (provider : FundingRateProvider) (wording : Wording)
    (fromisoformat : IsoTexts) (symbol : Symbol) (fetchedAtUtc : String) :
    Except CallError (FundingRate Number) → Except DataSourceError (FundingRateReading Number)
  | .error error => readAt symbol fetchedAtUtc (.unavailable (wording.raised error))
  | .ok funding => do
      let age ← ageSeconds fromisoformat fetchedAtUtc funding.timestampUtc
      readAt symbol fetchedAtUtc (provider.judge wording fetchedAtUtc funding age)

def FundingRateProvider.fetch (provider : FundingRateProvider) (wording : Wording)
    (fromisoformat : IsoTexts) (reads : MarketReads State Number)
    (clock : Process State DataSourceError String) (symbol : Symbol) :
    Process State DataSourceError (FundingRateReading Number) := do
  let fetchedAtUtc ← clock
  let funding ← Process.attempt (reads.getFundingRate symbol)
  Process.ofExcept (provider.readingOf wording fromisoformat symbol fetchedAtUtc funding)

end

end TurtleExecution.DataSources

namespace TurtleExecution.Features

open DataSources

namespace FundingRateFeature

def featureName : NonBlank := ⟨"funding_rate_raw", by decide⟩

def featureVersion : NonBlank := ⟨"v1", nonBlank_v1⟩

variable {Number : Type}

def resultOf : Availability (ObservedRate Number) → Availability Number
  | .available observed => .available observed.value
  | .unavailable reason =>
      .unavailable (NonBlank.append ⟨"input reading unavailable: ", by decide⟩ reason.text)

def compute (reading : FundingRateReading Number) : FeatureValue Number :=
  { featureName
    featureVersion
    symbol := reading.symbol
    computedAtUtc := reading.fetchedAtUtc
    result := resultOf reading.result }

end FundingRateFeature

end TurtleExecution.Features

/-
A validation that has scored its samples builds its result.

The samples without a signal, the flat ones and the others are all samples, so the counts of
the result add up; and a fingerprint can be taken of every list of samples with readable
timestamps.
-/

import TurtleExecution.Foundation.JsonNative
import TurtleExecution.HistoricalStorage.CleanSeries
import TurtleExecution.Validation.Runner

set_option autoImplicit false

namespace TurtleExecution.Validation

open Candidates ExchangeAdapter Features HistoricalStorage

structure Dated (texts : Texts) (sample : ValidationSample) : Prop where
  computed : (sample.computedAt texts).isSome = true
  observed : ∀ observedAt, sample.outcomeObservedAtUtc = some observedAt →
    (parseUtc texts.fromisoformat observedAt.text).isSome = true

variable {texts : Texts} {samples : List ValidationSample} {tally : Tally} {sample : ValidationSample}

private theorem canonical_of_read {value : String} (index : Nat)
    (read : (parseUtc texts.fromisoformat value).isSome = true) :
    ∃ text, canonical texts index value = .ok text := by
  obtain ⟨instant, isInstant⟩ := Option.isSome_iff_exists.mp read
  refine ⟨texts.isoformat instant, ?_⟩
  rw [canonical, canonicalUtc, isInstant]
  rfl

private theorem plain_optionalText (text : Option String) : PyValue.Plain (optionalText text) := by
  cases text <;> constructor

private theorem canonicalObserved_of_read (index : Nat) (dated : Dated texts sample) :
    ∃ observedAt, canonicalObserved texts index sample.outcomeObservedAtUtc = .ok observedAt := by
  cases given : sample.outcomeObservedAtUtc with
  | none => exact ⟨none, rfl⟩
  | some observedAt =>
      obtain ⟨text, isText⟩ := canonical_of_read index (dated.observed observedAt given)
      exact ⟨some text, congrArg (Except.map some) isText⟩

private theorem fingerprintRow_plain (index : Nat) (dated : Dated texts sample) :
    ∃ row, fingerprintRow texts index sample = .ok row ∧ PyValue.Plain row := by
  obtain ⟨computedAt, isComputed⟩ := canonical_of_read index dated.computed
  obtain ⟨observedAt, isObserved⟩ := canonicalObserved_of_read index dated
  unfold fingerprintRow
  rw [bind_of_ok isComputed, bind_of_ok isObserved]
  refine ⟨_, rfl, PyValue.plain_dict_iff.mpr ⟨?_, ?_⟩⟩
  · simp [PyValue.Plain, plain_optionalText]
  · simp only [List.map_cons, List.map_nil]
    decide

variable {rates : Option Decimal × Option Decimal} {scored : Nat} {index : Nat}

private theorem read_of_canonical {value text : String}
    (isText : canonical texts index value = .ok text) :
    (parseUtc texts.fromisoformat value).isSome = true := by
  unfold canonical canonicalUtc at isText
  cases read : parseUtc texts.fromisoformat value with
  | none =>
      rw [read] at isText
      cases isText
  | some instant => rfl

private theorem dated_of_fingerprintRow {row : PyValue}
    (isRow : fingerprintRow texts index sample = .ok row) : Dated texts sample := by
  obtain ⟨computedAt, isComputed, rest⟩ := ok_of_bind isRow
  obtain ⟨observedAt, isObserved, _⟩ := ok_of_bind rest
  refine { computed := read_of_canonical isComputed, observed := ?_ }
  intro given isGiven
  rw [isGiven] at isObserved
  obtain ⟨text, isText, _⟩ := ok_of_map isObserved
  exact read_of_canonical isText

private theorem dated_of_fingerprintRows {rows : List PyValue}
    (isRows : fingerprintRows texts index samples = .ok rows) :
    ∀ sample ∈ samples, Dated texts sample := by
  induction samples generalizing index rows with
  | nil =>
      intro sample member
      cases member
  | cons sample samples ih =>
      obtain ⟨row, isRow, rest⟩ := ok_of_bind isRows
      obtain ⟨later, isLater, _⟩ := ok_of_bind rest
      exact List.forall_mem_cons.mpr ⟨dated_of_fingerprintRow isRow, ih isLater⟩

private theorem fingerprintRows_plain (index : Nat) (dated : ∀ sample ∈ samples, Dated texts sample) :
    ∃ rows, fingerprintRows texts index samples = .ok rows ∧ ∀ row ∈ rows, PyValue.Plain row := by
  induction samples generalizing index with
  | nil => exact ⟨[], rfl, fun row member => absurd member List.not_mem_nil⟩
  | cons sample samples ih =>
      obtain ⟨first, later⟩ := List.forall_mem_cons.mp dated
      obtain ⟨row, isRow, plain⟩ := fingerprintRow_plain index first
      obtain ⟨rows, isRows, plainRows⟩ := ih (index + 1) later
      refine ⟨row :: rows, ?_, List.forall_mem_cons.mpr ⟨plain, plainRows⟩⟩
      rw [fingerprintRows, bind_of_ok isRow, bind_of_ok isRows]
      rfl

theorem require_nonEmpty (nonempty : samples ≠ []) :
    require (!samples.isEmpty) nonEmptySamples = .ok () := by
  cases samples with
  | nil => exact absurd rfl nonempty
  | cons sample samples => rfl

theorem fingerprintSamples_ok (nonempty : samples ≠ [])
    (dated : ∀ sample ∈ samples, Dated texts sample) :
    ∃ fingerprint, fingerprintSamples texts samples = .ok fingerprint ∧
      PyText.isBlank fingerprint = false := by
  obtain ⟨rows, isRows, plain⟩ := fingerprintRows_plain 0 dated
  have plainRows : PyValue.Plain (.list rows) := PyValue.plainItems_iff.mpr plain
  obtain ⟨tree, written⟩ := PyValue.plain_toJson plainRows
  unfold fingerprintSamples
  rw [bind_of_ok (require_nonEmpty nonempty), bind_of_ok isRows, Registry.dumpsText, written]
  exact ⟨_, rfl, hexdigest_not_blank _⟩

structure Accounts (tally : Tally) (scored : Nat) : Prop where
  all : tally.unavailable + tally.flat + tally.signaled = scored
  hits : tally.hits ≤ tally.signaled

theorem Accounts.score {tally next : Tally} {signal : CandidateSignal Decimal}
    (accounts : Accounts tally scored) (isNext : tally.score sample signal = .ok next) :
    Accounts next (scored + 1) := by
  obtain ⟨all, hits⟩ := accounts
  unfold Tally.score at isNext
  split at isNext
  · cases isNext
    constructor <;> simp only [Tally.signaled] at all hits ⊢ <;> omega
  · split at isNext
    · cases isNext
      constructor <;> simp only [Tally.signaled] at all hits ⊢ <;> omega
    · obtain ⟨directional, _, rest⟩ := ok_of_bind isNext
      obtain ⟨hit, _, added⟩ := ok_of_bind rest
      cases added
      constructor <;>
        simp only [Tally.signaled, List.length_append, List.length_singleton] at all hits ⊢
      · omega
      · cases hit <;> simp <;> omega

theorem scoreSamples_accounts {evaluateFn : EvaluateFn} {specification : CandidateSpecification}
    {tally final : Tally} (accounts : Accounts tally scored)
    (isFinal : scoreSamples evaluateFn specification tally samples = .ok final) :
    Accounts final (scored + samples.length) := by
  induction samples generalizing tally scored with
  | nil =>
      cases isFinal
      exact accounts
  | cons sample samples ih =>
      obtain ⟨signal, _, rest⟩ := ok_of_bind isFinal
      obtain ⟨next, isNext, later⟩ := ok_of_bind rest
      have after := ih (accounts.score isNext) later
      rw [List.length_cons, Nat.add_comm samples.length, ← Nat.add_assoc]
      exact after

theorem accounts_empty : Accounts .empty 0 :=
  { all := rfl, hits := Nat.le_refl 0 }

theorem rates_share (accounts : Accounts tally scored) (rated : tally.rates = .ok rates) :
    rates.1.map Decimal.exactly =
        (if tally.signaled = 0 then none
          else some (Decimal.nearest ((tally.hits : ℚ) / tally.signaled))) ∧
      ∀ hitRate ∈ rates.1, Decimal.IsShare hitRate := by
  unfold Tally.rates at rated
  split at rated
  · rename_i unsignaled
    cases rated
    rw [if_pos unsignaled]
    exact ⟨rfl, fun hitRate member => by cases member⟩
  · rename_i signaled
    obtain ⟨hitRate, isRate, rest⟩ := ok_of_bind rated
    obtain ⟨mean, _, isRates⟩ := ok_of_bind rest
    cases isRates
    have few := accounts.hits
    obtain ⟨share, isShare, shares, value⟩ := Decimal.div_shares (Int.natCast_nonneg tally.hits)
      (Int.ofNat_le.mpr few) (by omega)
    have same : share = hitRate := by
      have divided := ok_of_mapError isRate
      rw [isShare] at divided
      exact Except.ok.inj divided
    subst same
    rw [if_neg signaled]
    refine ⟨congrArg some (value.trans ?_), ?_⟩
    · rw [Int.cast_natCast, Int.cast_natCast]
    · intro other member
      cases member
      exact shares

private theorem rates_isSome (rated : tally.rates = .ok rates) :
    (tally.signaled = 0 → rates = (none, none)) ∧
      (tally.signaled ≠ 0 → rates.1.isSome = true ∧ rates.2.isSome = true) := by
  unfold Tally.rates at rated
  split at rated
  · rename_i none_
    cases rated
    exact ⟨fun _ => rfl, fun some_ => absurd none_ some_⟩
  · rename_i some_
    obtain ⟨hitRate, _, rest⟩ := ok_of_bind rated
    obtain ⟨mean, _, isRates⟩ := ok_of_bind rest
    cases isRates
    exact ⟨fun none_ => absurd none_ some_, fun _ => ⟨rfl, rfl⟩⟩

private theorem checkRates_of_rated {figures : ValidationFigures}
    (rated : tally.rates = .ok (figures.hitRate, figures.meanDirectionalReturn))
    (signaled : figures.signaledSamples = tally.signaled) : figures.checkRates = .ok () := by
  obtain ⟨unsignaled, signals⟩ := rates_isSome rated
  unfold ValidationFigures.checkRates
  by_cases silent : figures.signaledSamples = 0
  · have noRates := unsignaled (signaled ▸ silent)
    rw [Prod.mk.injEq] at noRates
    rw [if_pos silent, noRates.1, noRates.2]
    rfl
  · have bothRates := signals (signaled ▸ silent)
    rw [if_neg silent, bind_of_ok (require_of bothRates.1 _)]
    exact require_of bothRates.2 _

private theorem check_of_accounts {figures : ValidationFigures}
    (accounts : Accounts tally figures.totalSamples)
    (rated : tally.rates = .ok (figures.hitRate, figures.meanDirectionalReturn))
    (hits : figures.hits = tally.hits) (signaled : figures.signaledSamples = tally.signaled)
    (flat : figures.flatSamples = tally.flat)
    (unavailable : figures.unavailableSamples = tally.unavailable)
    (dated : PyText.isBlank figures.validatedAtUtc = false)
    (nonempty : figures.criteriaResults.isEmpty = false)
    (passed : figures.overallPassed =
      figures.criteriaResults.all fun result => result.outcome = .pass)
    (printed : figures.sampleSetFingerprint.all (fun fingerprint => !PyText.isBlank fingerprint) =
      true) : figures.check = .ok () := by
  have all := accounts.all
  have few := accounts.hits
  rw [← unavailable, ← flat, ← signaled] at all
  rw [← signaled, ← hits] at few
  unfold ValidationFigures.check
  rw [bind_of_ok (require_of (by rw [dated]; rfl) _), bind_of_ok (require_of (decide_eq_true all) _),
    bind_of_ok (require_of (decide_eq_true few) _), bind_of_ok (checkRates_of_rated rated signaled),
    bind_of_ok (require_of (by rw [nonempty]; rfl) _),
    bind_of_ok (require_of (decide_eq_true passed) _)]
  exact require_of printed _

section

variable {State : Type} {texts : Texts} {clock : Process State ValidationError String}
  {evaluateFn : EvaluateFn} {specification : CandidateSpecification}

/-- What a run takes from its samples and the clock, where it returns. -/
structure Validates (texts : Texts) (evaluateFn : EvaluateFn)
    (specification : CandidateSpecification) (samples : List ValidationSample)
    (tally : Tally) (rates : Option Decimal × Option Decimal) : Prop where
  nonempty : samples ≠ []
  scored : scoreSamples evaluateFn specification .empty samples = .ok tally
  rated : tally.rates = .ok rates
  checkable : ∃ checks, specification.acceptanceCriteria.mapM
    (checkCriterion texts rates.1 tally.signaled) = .ok checks
  dated : ∀ sample ∈ samples, Dated texts sample

def Validatable (texts : Texts) (evaluateFn : EvaluateFn) (specification : CandidateSpecification)
    (samples : List ValidationSample) : Prop :=
  ∃ tally rates, Validates texts evaluateFn specification samples tally rates

def Ticks (clock : Process State ValidationError String) : Prop :=
  ∀ state, ∃ now after, clock state = (.returned now, after) ∧ PyText.isBlank now = false

theorem runValidation_returns {samples : List ValidationSample} {tally : Tally}
    {rates : Option Decimal × Option Decimal} {state after : State} {now : String}
    (validates : Validates texts evaluateFn specification samples tally rates)
    (isNow : clock state = (.returned now, after)) (shown : PyText.isBlank now = false) :
    ∃ result, runValidation texts clock evaluateFn specification samples state =
      (.returned result, after) ∧ result.hitRate = rates.1 := by
  obtain ⟨checks, isChecks⟩ := validates.checkable
  obtain ⟨fingerprint, isFingerprint, printed⟩ :=
    fingerprintSamples_ok validates.nonempty validates.dated
  have accounts := scoreSamples_accounts accounts_empty validates.scored
  rw [Nat.zero_add] at accounts
  have checksNonempty : checks.isEmpty = false := by
    rw [List.isEmpty_eq_false_iff]
    intro empty
    have pairs := forall₂_of_mapM isChecks
    rw [empty, List.forall₂_nil_right_iff] at pairs
    exact specification.criteria_nonempty pairs
  let figures : ValidationFigures :=
    { candidateName := specification.name
      candidateVersion := specification.version
      validatedAtUtc := now
      totalSamples := samples.length
      unavailableSamples := tally.unavailable
      flatSamples := tally.flat
      signaledSamples := tally.signaled
      hits := tally.hits
      hitRate := rates.1
      meanDirectionalReturn := rates.2
      criteriaResults := checks
      overallPassed := checks.all fun result => result.outcome = .pass
      sampleSetFingerprint := some fingerprint }
  have checked : figures.check = .ok () :=
    check_of_accounts accounts validates.rated rfl rfl rfl rfl shown checksNonempty rfl
      (by simp only [figures, Option.all_some, printed, Bool.not_false])
  refine ⟨{ figures with checked }, ?_, rfl⟩
  unfold runValidation
  rw [Process.bind_returned (Process.ofExcept_ok (require_nonEmpty validates.nonempty) state),
    Process.bind_returned (Process.ofExcept_ok validates.scored state),
    Process.bind_returned (Process.ofExcept_ok validates.rated state),
    Process.bind_returned (Process.ofExcept_ok isChecks state),
    Process.bind_returned isNow,
    Process.bind_returned (Process.ofExcept_ok isFingerprint after)]
  exact Process.ofExcept_ok (ValidationFigures.result_of_check checked) after

theorem validates_of_returned {samples : List ValidationSample} {state after : State}
    {result : ValidationResult}
    (ran : runValidation texts clock evaluateFn specification samples state =
      (.returned result, after)) :
    ∃ tally rates, Validates texts evaluateFn specification samples tally rates ∧
      result.hitRate = rates.1 := by
  obtain ⟨_, _, someSamples, ran⟩ := Process.returned_bind ran
  obtain ⟨tally, _, isTally, ran⟩ := Process.returned_bind ran
  obtain ⟨rates, _, isRates, ran⟩ := Process.returned_bind ran
  obtain ⟨checks, _, isChecks, ran⟩ := Process.returned_bind ran
  obtain ⟨now, _, _, ran⟩ := Process.returned_bind ran
  obtain ⟨fingerprint, _, isFingerprint, ran⟩ := Process.returned_bind ran
  have figures := ValidationFigures.of_result (Process.returned_ofExcept ran).1
  obtain ⟨_, _, printed⟩ := ok_of_bind (Process.returned_ofExcept isFingerprint).1
  obtain ⟨rows, isRows, _⟩ := ok_of_bind printed
  have validates : Validates texts evaluateFn specification samples tally rates :=
    { nonempty := by
        rintro rfl
        cases (Process.returned_ofExcept someSamples).1
      scored := (Process.returned_ofExcept isTally).1
      rated := (Process.returned_ofExcept isRates).1
      checkable := ⟨checks, (Process.returned_ofExcept isChecks).1⟩
      dated := dated_of_fingerprintRows isRows }
  refine ⟨tally, rates, validates, ?_⟩
  rw [figures]

end

def utcTexts : Texts :=
  { fromisoformat := HistoricalStorage.midnightTexts
    isoformat := fun instant =>
      if instant = 1767225601000000 then "2026-01-01T00:00:01.000000+00:00"
      else "2026-01-01T00:00:00.000000+00:00"
    decimalOf := fun _ => none }

def midnightSample (realizedOutcome : Decimal) : ValidationSample :=
  { featureValue :=
      { featureName := ⟨"funding_rate", by decide⟩
        featureVersion := ⟨"v1", nonBlank_v1⟩
        symbol := btc
        computedAtUtc := ⟨"2026-01-01T00:00:00+00:00", nonBlank_newYear⟩
        result := .available (Decimal.ofInt 1) }
    realizedOutcome
    outcomeObservedAtUtc := none
    regimeLabel := none }

def alwaysLong : CandidateSpecification :=
  { name := ⟨"always_long", by decide⟩
    version := ⟨"v1", nonBlank_v1⟩
    candidateType := ⟨"threshold", by decide⟩
    «universe» := [btc]
    featureName := ⟨"funding_rate", by decide⟩
    featureVersion := ⟨"v1", nonBlank_v1⟩
    cadenceSeconds := 60
    acceptanceCriteria := [(.str minSignaledSamplesKey, .int 1)]
    parameters := []
    universe_nonempty := onlyBtc_nonempty
    cadence_pos := minute_pos
    criteria_nonempty := by decide
    criteria_written := by decide
    parameters_written := by decide }

def evaluateLong : EvaluateFn := fun featureValue specification =>
  .ok
    { candidateName := specification.name
      candidateVersion := specification.version
      symbol := featureValue.symbol
      evaluatedAtUtc := featureValue.computedAtUtc
      result := .available
        { direction := .long
          featureValue := Decimal.ofInt 1
          threshold := Decimal.ofInt 0 } }

def midnightClock : Process Unit ValidationError String := fun state =>
  (.returned "2026-01-01T00:00:01+00:00", state)

theorem ticks_midnight : Ticks midnightClock :=
  fun state => ⟨_, state, rfl, by decide⟩

theorem dated_midnight (realizedOutcome : Decimal) :
    Dated utcTexts (midnightSample realizedOutcome) := by
  have read : (parseUtc utcTexts.fromisoformat "2026-01-01T00:00:00+00:00").isSome = true := by
    decide +kernel
  exact { computed := read, observed := fun observedAt given => by cases given }

theorem validates_midnight {outcomes : List Decimal} {hits : Nat} {hitRate mean : Decimal}
    (nonempty : outcomes ≠ [])
    (scored : scoreSamples evaluateLong alwaysLong .empty (outcomes.map midnightSample) =
      .ok { unavailable := 0, flat := 0, hits, directionalReturns := outcomes })
    (share : Arithmetic.div (Decimal.ofInt hits) (Decimal.ofInt outcomes.length) = .ok hitRate)
    (isMean : Decimal.meanOf outcomes = .ok mean) :
    Validates utcTexts evaluateLong alwaysLong (outcomes.map midnightSample)
      { unavailable := 0, flat := 0, hits, directionalReturns := outcomes }
      (some hitRate, some mean) := by
  have signals : outcomes.length ≠ 0 := List.length_eq_zero_iff.not.mpr nonempty
  have shareHere : arithmetic (Arithmetic.div (Decimal.ofInt hits)
      (Decimal.ofInt outcomes.length)) = .ok hitRate := congrArg arithmetic share
  have meanHere : arithmetic (Decimal.meanOf outcomes) = .ok mean := congrArg arithmetic isMean
  refine
    { nonempty := by simpa using nonempty
      scored
      rated := ?_
      checkable := ⟨_, rfl⟩
      dated := List.forall_mem_map.mpr fun outcome _ => dated_midnight outcome }
  rw [Tally.rates, Tally.signaled, if_neg signals, bind_of_ok shareHere, bind_of_ok meanHere]
  rfl

def oneInThree : List ValidationSample :=
  [Decimal.ofInt 1, Decimal.ofInt (-1), Decimal.ofInt (-1)].map midnightSample

def third : Decimal := .finite false 3333333333333333333333333333 (-28)

theorem validates_oneInThree :
    ∃ tally mean, Validates utcTexts evaluateLong alwaysLong oneInThree tally
      (some third, some mean) := by
  have mean : Decimal.meanOf [Decimal.ofInt 1, Decimal.ofInt (-1), Decimal.ofInt (-1)] =
    .ok (.finite true 3333333333333333333333333333 (-28)) := by decide +kernel
  have share : Arithmetic.div (Decimal.ofInt (1 : Nat)) (Decimal.ofInt (3 : Nat)) = .ok third := by
    decide +kernel
  exact ⟨_, _, validates_midnight (List.cons_ne_nil _ _) rfl share mean⟩

end TurtleExecution.Validation

/-
Duplicates are told apart by the texts of their timestamps.

The audit of samples and the report of a series count what they have seen under the same text.
So they go by instants only where no moment of a symbol is repeated at all.
-/

import TurtleExecution.HistoricalStorage.Rewriting
import TurtleExecution.Validation.CausalityAudit

set_option autoImplicit false

namespace TurtleExecution.Validation

open ExchangeAdapter HistoricalStorage Notations

section

variable {texts : Texts} {samples others : List ValidationSample}

def RewritesSample (texts : Texts) (sample other : ValidationSample) : Prop :=
  ∃ computedAtUtc outcomeObservedAtUtc,
    Renotes (parseUtc texts.fromisoformat) sample.featureValue.computedAtUtc.text
      computedAtUtc.text ∧
    Option.Rel (fun text other : NonBlank =>
      Renotes (parseUtc texts.fromisoformat) text.text other.text)
      sample.outcomeObservedAtUtc outcomeObservedAtUtc ∧
    other = { sample with
      featureValue := { sample.featureValue with computedAtUtc }
      outcomeObservedAtUtc }

private theorem rewrites_sampleKey {sample other : ValidationSample}
    (rewrites : RewritesSample texts sample other) :
    Rewrites (parseUtc texts.fromisoformat) (sampleKey sample) (sampleKey other) := by
  obtain ⟨computedAtUtc, outcomeObservedAtUtc, renotes, _, rfl⟩ := rewrites
  exact ⟨rfl, renotes⟩

private theorem sampleKey_rewritten (rewritten : List.Forall₂ (RewritesSample texts) samples others) :
    List.Forall₂ (Rewrites (parseUtc texts.fromisoformat)) (samples.map sampleKey)
      (others.map sampleKey) := by
  rw [List.forall₂_map_left_iff, List.forall₂_map_right_iff]
  exact rewritten.imp fun _ _ => rewrites_sampleKey

private theorem not_blank_of_renotes {text : NonBlank} {other : String}
    (renotes : Renotes (parseUtc texts.fromisoformat) text.text other) :
    PyText.isBlank other = false := by
  rcases renotes with rfl | ⟨instant, _, isOther⟩
  · exact text.nonBlank
  · exact not_blank_of_read isOther

private theorem observed_self (outcomeObservedAtUtc : Option NonBlank) :
    Option.Rel (fun text other : NonBlank =>
      Renotes (parseUtc texts.fromisoformat) text.text other.text)
      outcomeObservedAtUtc outcomeObservedAtUtc := by
  cases outcomeObservedAtUtc with
  | none => exact .none
  | some observedAt => exact .some (renotes_self _)

private theorem exists_rewritten_samples {names : List (String × String)}
    (rewritten : List.Forall₂ (Rewrites (parseUtc texts.fromisoformat)) (samples.map sampleKey)
      names) :
    ∃ others, List.Forall₂ (RewritesSample texts) samples others ∧ others.map sampleKey = names := by
  induction samples generalizing names with
  | nil =>
      cases rewritten
      exact ⟨[], .nil, rfl⟩
  | cons sample samples ih =>
      rw [List.map_cons] at rewritten
      obtain ⟨name, later, isFirst, isLater, rfl⟩ := List.forall₂_cons_left_iff.mp rewritten
      obtain ⟨others, areOthers, names⟩ := ih isLater
      obtain ⟨symbol, text⟩ := name
      obtain ⟨sameSymbol, renotes⟩ := isFirst
      let computedAtUtc : NonBlank := ⟨text, not_blank_of_renotes renotes⟩
      refine ⟨{ sample with featureValue := { sample.featureValue with computedAtUtc } } :: others,
        .cons ⟨computedAtUtc, sample.outcomeObservedAtUtc, renotes, observed_self _, rfl⟩
          areOthers, ?_⟩
      rw [List.map_cons, names]
      exact congrArg (· :: later) (Prod.ext sameSymbol.symm rfl)

private theorem orderable_rewritten {sample other : ValidationSample}
    (rewrites : RewritesSample texts sample other) :
    Orderable texts other ↔ Orderable texts sample := by
  obtain ⟨computedAtUtc, outcomeObservedAtUtc, computed, observed, rfl⟩ := rewrites
  have sameComputed := computed.read_eq
  unfold Orderable ValidationSample.computedAt
  dsimp only
  rw [sameComputed]
  generalize sample.outcomeObservedAtUtc = given at observed
  cases observed with
  | none => exact Iff.rfl
  | some renotes =>
      simp only [Option.some.injEq, forall_eq', renotes.read_eq]

private theorem auditable_rewritten (rewritten : List.Forall₂ (RewritesSample texts) samples others) :
    Auditable texts others ↔ Auditable texts samples := by
  refine and_congr ?_ ?_
  · rw [← List.length_pos_iff, ← List.length_pos_iff, rewritten.length_eq]
  · induction rewritten with
    | nil => exact Iff.rfl
    | cons isFirst _ ih =>
        rw [List.forall_mem_cons, List.forall_mem_cons, orderable_rewritten isFirst, ih]

end

section

variable {State : Type} {texts : Texts} {clock : Process State ValidationError String}
  {samples : List ValidationSample}

def OneSamplePerMoment (texts : Texts) (samples : List ValidationSample) : Prop :=
  samples.Pairwise fun left right =>
    ¬ SameMoment (parseUtc texts.fromisoformat) (sampleKey left) (sampleKey right)

def auditedDuplicates (texts : Texts) (clock : Process State ValidationError String)
    (samples : List ValidationSample) (state : State) : Option Nat :=
  (runCausalityAudit texts clock samples state).1.value?.map fun result => result.duplicateSamples

/-- The number of duplicates survives other notations of the timestamps, and every sample whose
symbol had one at its instant before is reported. -/
structure AuditByInstant (texts : Texts) (clock : Process State ValidationError String)
    (samples : List ValidationSample) (state : State) : Prop where
  unchanged : ∀ others, List.Forall₂ (RewritesSample texts) samples others →
    auditedDuplicates texts clock others state = auditedDuplicates texts clock samples state
  reported : ∀ result after,
    runCausalityAudit texts clock samples state = (.returned result, after) →
    ∀ before sample later, samples = before ++ sample :: later →
      (∃ earlier ∈ before,
        SameMoment (parseUtc texts.fromisoformat) (sampleKey earlier) (sampleKey sample)) →
      duplicateDetail before.length (sampleKey sample) ∈ result.violationDetails

private theorem auditedDuplicates_of_auditable (ticks : Ticks clock)
    (auditable : Auditable texts samples)
    (state : State) :
    ∃ duplicates, auditedDuplicates texts clock samples state = some duplicates ∧
      duplicates + distinct (samples.map sampleKey) = samples.length := by
  obtain ⟨result, after, ran⟩ := runCausalityAudit_returns ticks auditable state
  obtain ⟨_, tally, audited, isDuplicates, _⟩ := audited_of_returned ran
  refine ⟨result.duplicateSamples, ?_, ?_⟩
  · rw [auditedDuplicates, ran]
    rfl
  · rw [isDuplicates]
    exact audited.duplicates

private theorem auditedDuplicates_of_not_auditable (refused : ¬ Auditable texts samples)
    (state : State) :
    auditedDuplicates texts clock samples state = none := by
  unfold auditedDuplicates
  rw [Option.map_eq_none_iff, Option.eq_none_iff_forall_ne_some]
  intro result isValue
  rw [Outcome.value?_eq_some_iff] at isValue
  have ran : runCausalityAudit texts clock samples state =
      (.returned result, (runCausalityAudit texts clock samples state).2) :=
    Prod.ext isValue rfl
  exact refused (audited_of_returned ran).1

private theorem auditByInstant_iff (ticks : Ticks clock) (state : State) :
    AuditByInstant texts clock samples state ↔
      (Auditable texts samples → OneSamplePerMoment texts samples) := by
  constructor
  · intro byInstant auditable
    have survives : ∀ names, List.Forall₂ (Rewrites (parseUtc texts.fromisoformat))
        (samples.map sampleKey) names → distinct names = distinct (samples.map sampleKey) := by
      intro names areNames
      obtain ⟨others, rewritten, rfl⟩ := exists_rewritten_samples areNames
      obtain ⟨here, isHere, counted⟩ := auditedDuplicates_of_auditable ticks auditable state
      obtain ⟨there, isThere, recounted⟩ := auditedDuplicates_of_auditable ticks
        ((auditable_rewritten rewritten).mpr auditable) state
      have same := byInstant.unchanged others rewritten
      rw [isHere, isThere, Option.some.injEq] at same
      have lengths := rewritten.length_eq
      omega
    have once := (distinct_rewritten_iff (endless_parseUtc texts.fromisoformat)).mp survives
    exact List.pairwise_map.mp once
  · intro condition
    constructor
    · intro others rewritten
      by_cases auditable : Auditable texts samples
      · have once : (samples.map sampleKey).Pairwise fun left right =>
            ¬ SameMoment (parseUtc texts.fromisoformat) left right :=
          List.pairwise_map.mpr (condition auditable)
        have same := distinct_rewritten (sampleKey_rewritten rewritten) once
        obtain ⟨here, isHere, counted⟩ := auditedDuplicates_of_auditable ticks auditable state
        obtain ⟨there, isThere, recounted⟩ := auditedDuplicates_of_auditable ticks
          ((auditable_rewritten rewritten).mpr auditable) state
        have lengths := rewritten.length_eq
        rw [isHere, isThere, Option.some.injEq]
        omega
      · rw [auditedDuplicates_of_not_auditable auditable,
          auditedDuplicates_of_not_auditable ((auditable_rewritten rewritten).not.mpr auditable)]
    · intro result after ran before sample later split repeated
      have once := condition (audited_of_returned ran).1
      obtain ⟨earlier, member, same⟩ := repeated
      rw [OneSamplePerMoment, split, List.pairwise_append] at once
      exact absurd same (once.2.2 earlier member sample List.mem_cons_self)

/-- The audit of samples and the report of a series go by instants exactly where no moment of
theirs is repeated. -/
theorem duplicates_byInstant_iff (ticks : Ticks clock) (state : State)
    (samples : List ValidationSample) {type : ObservationType} (interval : Option PyNumber)
    (factor : Decimal) (observations : List (Observation type)) :
    (AuditByInstant texts clock samples state ↔
      (Auditable texts samples → OneSamplePerMoment texts samples)) ∧
    (ReportByInstant texts.fromisoformat interval factor observations ↔
      (Assesses texts.fromisoformat interval factor observations →
        OncePerMoment texts.fromisoformat observations)) :=
  ⟨auditByInstant_iff ticks state, reportByInstant_iff⟩

end

def observedSample (computedAtUtc : NonBlank) : ValidationSample :=
  { midnightSample (Decimal.ofInt 1) with
    featureValue :=
      { (midnightSample (Decimal.ofInt 1)).featureValue with computedAtUtc }
    outcomeObservedAtUtc := some ⟨"2026-01-01T00:00:01+00:00", by decide⟩ }

def utcMidnight : NonBlank := ⟨"2026-01-01T00:00:00+00:00", nonBlank_newYear⟩

def easternMidnight : NonBlank := ⟨"2026-01-01T05:00:00+05:00", by decide⟩

def secondLater : NonBlank := ⟨"2026-01-01T00:00:01+00:00", by decide⟩

def etherSample : ValidationSample :=
  { observedSample easternMidnight with
    featureValue :=
      { (observedSample easternMidnight).featureValue with symbol := ⟨"ETH", by decide⟩ } }

theorem duplicates_byInstant_iff_two :
    AuditByInstant utcTexts midnightClock [observedSample utcMidnight, etherSample] () ∧
      ReportByInstant midnightTexts none defaultGapToleranceFactor
        [midnightRate utcMidnight.text, midnightRate secondLater.text] := by
  have readUtc : parseUtc midnightTexts utcMidnight.text = some 1767225600000000 := by
    decide +kernel
  have readLater : parseUtc midnightTexts secondLater.text = some 1767225601000000 := by
    decide +kernel
  have both := @duplicates_byInstant_iff Unit utcTexts midnightClock ticks_midnight ()
    [observedSample utcMidnight, etherSample] (.scalar .fundingRate) none
    defaultGapToleranceFactor [midnightRate utcMidnight.text, midnightRate secondLater.text]
  refine ⟨both.1.mpr fun _ => List.pairwise_pair.mpr ?_,
    both.2.mpr fun _ => List.pairwise_pair.mpr ?_⟩
  · rintro ⟨sameSymbol, _⟩
    exact absurd sameSymbol (by decide)
  · rintro ⟨_, instant, isFirst, isSecond⟩
    have sameInstant := (readUtc.symm.trans isFirst).trans (isSecond.symm.trans readLater)
    exact absurd sameInstant (by decide)

/-- Two samples and two rates of one symbol at one instant, and no duplicate is counted. -/
theorem two_notations_not_reported :
    auditedDuplicates utcTexts midnightClock
        [observedSample utcMidnight, observedSample easternMidnight] () = some 0 ∧
      reportedDuplicates midnightTexts none defaultGapToleranceFactor
        [midnightRate utcMidnight.text, midnightRate easternMidnight.text] = some (0, []) ∧
      ¬ AuditByInstant utcTexts midnightClock
        [observedSample utcMidnight, observedSample easternMidnight] () ∧
      ¬ ReportByInstant midnightTexts none defaultGapToleranceFactor
        [midnightRate utcMidnight.text, midnightRate easternMidnight.text] := by
  have readUtc : parseUtc midnightTexts utcMidnight.text = some 1767225600000000 := by
    decide +kernel
  have readEastern : parseUtc midnightTexts easternMidnight.text = some 1767225600000000 := by
    decide +kernel
  have counted : auditedDuplicates utcTexts midnightClock
      [observedSample utcMidnight, observedSample easternMidnight] () = some 0 := by decide +kernel
  have reported : reportedDuplicates midnightTexts none defaultGapToleranceFactor
      [midnightRate utcMidnight.text, midnightRate easternMidnight.text] = some (0, []) := by
    decide +kernel
  refine ⟨counted, reported, ?_, ?_⟩
  · intro byInstant
    have auditable : Auditable utcTexts
        [observedSample utcMidnight, observedSample easternMidnight] := by
      by_contra refused
      rw [auditedDuplicates_of_not_auditable refused] at counted
      cases counted
    have once := (auditByInstant_iff ticks_midnight ()).mp byInstant auditable
    rw [OneSamplePerMoment, List.pairwise_pair] at once
    exact once ⟨rfl, _, readUtc, readEastern⟩
  · intro byInstant
    have assesses : Assesses midnightTexts none defaultGapToleranceFactor
        [midnightRate utcMidnight.text, midnightRate easternMidnight.text] := by
      by_contra refused
      rw [reportedDuplicates_of_not_assesses refused] at reported
      cases reported
    have once := reportByInstant_iff.mp byInstant assesses
    rw [OncePerMoment, List.pairwise_pair] at once
    exact once ⟨rfl, _, readUtc, readEastern⟩

end TurtleExecution.Validation

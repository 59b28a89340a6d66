/-
Timestamps in other notations of their instants, and the duplicates that are reported.

The keys of a series hold the texts of the timestamps.  A leading blank already makes another
text of the same instant.
-/

import Mathlib.Data.Finset.Lattice.Fold
import TurtleExecution.Foundation.Notations
import TurtleExecution.HistoricalStorage.CleanSeries

set_option autoImplicit false

namespace TurtleExecution.HistoricalStorage

open Notations

variable {fromisoformat : IsoTexts} {type : ObservationType}

private theorem parseUtc_blank (text : String) :
    parseUtc fromisoformat (" " ++ text) = parseUtc fromisoformat text := by
  have chars : (" " ++ text).toList = ' ' :: text.toList := by
    rw [String.toList_append]
    rfl
  have space : PyText.isSpace ' ' = true := by decide
  have sameBlank : PyText.isBlank (" " ++ text) = PyText.isBlank text := by
    rw [PyText.isBlank, chars, List.all_cons, space, Bool.true_and, PyText.isBlank]
  unfold parseUtc
  rw [sameBlank, chars, List.dropWhile_cons_of_pos space]

def indented : Nat → String → String
  | 0, text => text
  | blanks + 1, text => " " ++ indented blanks text

private theorem parseUtc_indented (blanks : Nat) (text : String) :
    parseUtc fromisoformat (indented blanks text) = parseUtc fromisoformat text := by
  induction blanks with
  | zero => rfl
  | succ blanks ih => rw [indented, parseUtc_blank, ih]

private theorem length_indented (blanks : Nat) (text : String) :
    (indented blanks text).length = blanks + text.length := by
  induction blanks with
  | zero => rw [indented, Nat.zero_add]
  | succ blanks ih =>
      have one : (" ").length = 1 := by decide
      rw [indented, String.length_append, ih, one]
      omega

variable (fromisoformat) in
theorem endless_parseUtc : Endless (parseUtc fromisoformat) := by
  intro text instant isText known
  refine ⟨indented (known.sup String.length + 1) text, ?_, ?_⟩
  · intro isKnown
    have bounded : (indented (known.sup String.length + 1) text).length ≤
        known.sup String.length := Finset.le_sup isKnown
    rw [length_indented] at bounded
    omega
  · rw [parseUtc_indented, isText]

theorem not_blank_of_read {text : String} {instant : Int}
    (isText : parseUtc fromisoformat text = some instant) : PyText.isBlank text = false := by
  unfold parseUtc at isText
  split at isText
  · cases isText
  · rename_i notBlank
    rwa [Bool.not_eq_true] at notBlank

def RewritesObservation (fromisoformat : IsoTexts) (observation other : Observation type) : Prop :=
  ∃ observedAtUtc ingestedAtUtc,
    Renotes (parseUtc fromisoformat) observation.observedAtUtc observedAtUtc ∧
    Renotes (parseUtc fromisoformat) observation.ingestedAtUtc ingestedAtUtc ∧
    other = { observation with observedAtUtc, ingestedAtUtc }

private theorem rewrites_seriesKey {observation other : Observation type}
    (rewrites : RewritesObservation fromisoformat observation other) :
    Rewrites (parseUtc fromisoformat) (seriesKey observation) (seriesKey other) := by
  obtain ⟨observedAtUtc, ingestedAtUtc, renotes, _, rfl⟩ := rewrites
  exact ⟨rfl, renotes⟩

private theorem instant_rewritten {observation other : Observation type}
    (rewrites : RewritesObservation fromisoformat observation other) :
    other.instant fromisoformat = observation.instant fromisoformat :=
  (rewrites_seriesKey rewrites).2.read_eq

private theorem exists_rewritten_observations {observations : List (Observation type)}
    {names : List (String × String)}
    (rewritten : List.Forall₂ (Rewrites (parseUtc fromisoformat)) (observations.map seriesKey) names) :
    ∃ others, List.Forall₂ (RewritesObservation fromisoformat) observations others ∧
      others.map seriesKey = names := by
  induction observations generalizing names with
  | nil =>
      cases rewritten
      exact ⟨[], .nil, rfl⟩
  | cons observation observations ih =>
      rw [List.map_cons] at rewritten
      obtain ⟨name, later, isFirst, isLater, rfl⟩ := List.forall₂_cons_left_iff.mp rewritten
      obtain ⟨others, areOthers, names⟩ := ih isLater
      obtain ⟨symbol, observedAtUtc⟩ := name
      obtain ⟨sameSymbol, renotes⟩ := isFirst
      refine ⟨{ observation with observedAtUtc } :: others, .cons ?_ areOthers, ?_⟩
      · exact ⟨observedAtUtc, observation.ingestedAtUtc, renotes, renotes_self _, rfl⟩
      · rw [List.map_cons, names]
        exact congrArg (· :: later) (Prod.ext sameSymbol.symm rfl)

def SameTime (row other : Int × Observation type) : Prop := row.1 = other.1

variable {rows others : List (Int × Observation type)}

private theorem wideGaps_rewritten {tolerance : Decimal}
    (sameTimes : List.Forall₂ SameTime rows others)
    (found : ∃ gaps, wideGaps tolerance rows = .ok gaps) :
    ∃ gaps, wideGaps tolerance others = .ok gaps := by
  induction sameTimes with
  | nil => exact ⟨[], rfl⟩
  | cons sameFirst rest ih =>
      cases rest with
      | nil => exact ⟨[], rfl⟩
      | cons sameSecond later =>
          obtain ⟨gaps, isFound⟩ := found
          obtain ⟨wide, compared, isRest⟩ := ok_of_bind isFound
          obtain ⟨laterGaps, isLater, _⟩ := ok_of_bind isRest
          obtain ⟨otherGaps, areGaps⟩ := ih ⟨laterGaps, isLater⟩
          rw [SameTime] at sameFirst sameSecond
          rw [sameFirst, sameSecond] at compared
          rw [wideGaps, bind_of_ok compared, bind_of_ok areGaps]
          exact ⟨_, rfl⟩

private theorem orderedInsert_rewritten {row other : Int × Observation type}
    (same : SameTime row other)
    (sameTimes : List.Forall₂ SameTime rows others) :
    List.Forall₂ SameTime (rows.orderedInsert (fun left right => left.1 ≤ right.1) row)
      (others.orderedInsert (fun left right => left.1 ≤ right.1) other) := by
  induction sameTimes with
  | nil => exact .cons same .nil
  | @cons first otherFirst rows others sameFirst rest ih =>
      rw [List.orderedInsert, List.orderedInsert]
      by_cases before : row.1 ≤ first.1
      · rw [if_pos before, if_pos (same ▸ sameFirst ▸ before)]
        exact .cons same (.cons sameFirst rest)
      · rw [if_neg before, if_neg (same ▸ sameFirst ▸ before)]
        exact .cons sameFirst ih

private theorem insertionSort_rewritten (sameTimes : List.Forall₂ SameTime rows others) :
    List.Forall₂ SameTime (rows.insertionSort fun left right => left.1 ≤ right.1)
      (others.insertionSort fun left right => left.1 ≤ right.1) := by
  induction sameTimes with
  | nil => exact .nil
  | cons sameFirst _ ih => exact orderedInsert_rewritten sameFirst ih

variable {observations others : List (Observation type)}

private theorem zip_rewritten {times : List Int}
    (rewritten : List.Forall₂ (RewritesObservation fromisoformat) observations others) :
    List.Forall₂ SameTime (times.zip observations) (times.zip others) := by
  induction rewritten generalizing times with
  | nil =>
      rw [List.zip_nil_right]
      exact .nil
  | cons _ _ ih =>
      cases times with
      | nil => exact .nil
      | cons time times => exact .cons rfl ih

private theorem findGaps_rewritten {times : List Int} {factor : Decimal} {interval : Option PyNumber}
    (rewritten : List.Forall₂ (RewritesObservation fromisoformat) observations others)
    (found : ∃ gaps, findGaps times observations factor interval = .ok gaps) :
    ∃ gaps, findGaps times others factor interval = .ok gaps := by
  cases interval with
  | none => exact ⟨[], rfl⟩
  | some interval =>
      obtain ⟨gaps, isFound⟩ := found
      obtain ⟨seconds, isSeconds, rest⟩ := ok_of_bind isFound
      obtain ⟨tolerance, isTolerance, isWide⟩ := ok_of_bind rest
      obtain ⟨otherGaps, areGaps⟩ := wideGaps_rewritten
        (insertionSort_rewritten (zip_rewritten rewritten)) ⟨gaps, isWide⟩
      refine ⟨otherGaps, ?_⟩
      rw [findGaps, bind_of_ok isSeconds, bind_of_ok isTolerance, areGaps]

private theorem mapM_parsedTime_rewritten {times : List Int}
    (rewritten : List.Forall₂ (RewritesObservation fromisoformat) observations others)
    (parsed : observations.mapM (parsedTime fromisoformat) = .ok times) :
    others.mapM (parsedTime fromisoformat) = .ok times := by
  rw [mapM_ok] at parsed ⊢
  induction rewritten generalizing times with
  | nil =>
      cases parsed
      exact .nil
  | cons isFirst _ ih =>
      cases parsed with
      | cons isTime later =>
          refine .cons ?_ (ih later)
          rw [parsedTime_ok, instant_rewritten isFirst]
          exact parsedTime_ok.mp isTime

structure Assesses (fromisoformat : IsoTexts) (interval : Option PyNumber) (factor : Decimal)
    (observations : List (Observation type)) : Prop where
  nonempty : observations ≠ []
  positive : interval.any (fun interval => interval.le (.int 0)) = false
  measured : ∃ times, observations.mapM (parsedTime fromisoformat) = .ok times ∧
    ∃ gaps, findGaps times observations factor interval = .ok gaps

section

variable {interval : Option PyNumber} {factor : Decimal}
  {observations others : List (Observation type)}

theorem Assesses.rewritten (assesses : Assesses fromisoformat interval factor observations)
    (rewritten : List.Forall₂ (RewritesObservation fromisoformat) observations others) :
    Assesses fromisoformat interval factor others := by
  obtain ⟨times, parsed, found⟩ := assesses.measured
  refine
    { nonempty := ?_
      positive := assesses.positive
      measured := ⟨times, mapM_parsedTime_rewritten rewritten parsed,
        findGaps_rewritten rewritten found⟩ }
  rintro rfl
  cases rewritten
  exact assesses.nonempty rfl

private theorem renotes_symm {text other : String}
    (renotes : Renotes (parseUtc fromisoformat) text other) :
    Renotes (parseUtc fromisoformat) other text := by
  rcases renotes with same | ⟨instant, isText, isOther⟩
  · exact Or.inl same.symm
  · exact Or.inr ⟨instant, isOther, isText⟩

private theorem rewritten_symm
    (rewritten : List.Forall₂ (RewritesObservation fromisoformat) observations others) :
    List.Forall₂ (RewritesObservation fromisoformat) others observations := by
  refine rewritten.flip.imp ?_
  rintro other observation ⟨observedAtUtc, ingestedAtUtc, observed, ingested, rfl⟩
  exact ⟨observation.observedAtUtc, observation.ingestedAtUtc, renotes_symm observed,
    renotes_symm ingested, rfl⟩

private theorem assesses_of_report {report : DataQualityReport}
    (assessed : assessQuality fromisoformat observations interval factor = .ok report) :
    Assesses fromisoformat interval factor observations ∧
      report.duplicateCount + distinct (observations.map seriesKey) = observations.length := by
  obtain ⟨_, someRows, afterEmpty⟩ := ok_of_bind assessed
  obtain ⟨_, positive, afterInterval⟩ := ok_of_bind afterEmpty
  obtain ⟨times, parsed, afterTimes⟩ := ok_of_bind afterInterval
  obtain ⟨gaps, found, same⟩ := ok_of_bind afterTimes
  constructor
  · refine
      { nonempty := List.isEmpty_eq_false_iff.mp (refuse_ok someRows)
        positive := refuse_ok positive
        measured := ⟨times, parsed, gaps, found⟩ }
  · rw [← Except.ok.inj same]
    have counted := Dict.sum_excess_tally (observations.map seriesKey)
    rw [List.length_map] at counted
    exact counted

private theorem report_of_assesses (assesses : Assesses fromisoformat interval factor observations) :
    ∃ report, assessQuality fromisoformat observations interval factor = .ok report := by
  obtain ⟨times, parsed, gaps, found⟩ := assesses.measured
  have someRows : refuse observations.isEmpty "observations" = .ok () := by
    rw [List.isEmpty_eq_false_iff.mpr assesses.nonempty]
    rfl
  have positive : refuse (interval.any fun interval => interval.le (.int 0))
      "expected_interval_seconds" = .ok () := by
    rw [assesses.positive]
    rfl
  unfold assessQuality
  rw [bind_of_ok someRows, bind_of_ok positive]
  change ∃ report, (observations.mapM (parsedTime fromisoformat) >>= _) = _
  rw [bind_of_ok parsed]
  change ∃ report, (findGaps times observations factor interval >>= _) = _
  rw [bind_of_ok found]
  exact ⟨_, rfl⟩

def OncePerMoment (fromisoformat : IsoTexts) (observations : List (Observation type)) : Prop :=
  observations.Pairwise fun left right =>
    ¬ SameMoment (parseUtc fromisoformat) (seriesKey left) (seriesKey right)

def reportedDuplicates (fromisoformat : IsoTexts) (interval : Option PyNumber) (factor : Decimal)
    (observations : List (Observation type)) : Option (Nat × List (String × String)) :=
  match assessQuality fromisoformat observations interval factor with
  | .ok report => some (report.duplicateCount, report.duplicateKeys)
  | .error _ => none

/-- The report of duplicates survives other notations of the timestamps, and has every
observation whose symbol was observed at its instant before. -/
structure ReportByInstant (fromisoformat : IsoTexts) (interval : Option PyNumber)
    (factor : Decimal) (observations : List (Observation type)) : Prop where
  unchanged : ∀ others, List.Forall₂ (RewritesObservation fromisoformat) observations others →
    reportedDuplicates fromisoformat interval factor others =
      reportedDuplicates fromisoformat interval factor observations
  reported : ∀ report, assessQuality fromisoformat observations interval factor = .ok report →
    ∀ before observation after, observations = before ++ observation :: after →
      (∃ earlier ∈ before,
        SameMoment (parseUtc fromisoformat) (seriesKey earlier) (seriesKey observation)) →
      seriesKey observation ∈ report.duplicateKeys

private theorem reportedDuplicates_once
    (assesses : Assesses fromisoformat interval factor observations)
    (once : OncePerMoment fromisoformat observations) :
    reportedDuplicates fromisoformat interval factor observations = some (0, []) := by
  obtain ⟨report, assessed⟩ := report_of_assesses assesses
  obtain ⟨_, noCount, noKeys⟩ := assessQuality_report assessed
  obtain ⟨times, parsed, _⟩ := assesses.measured
  have nodup : (observations.map seriesKey).Nodup := by
    rw [List.Nodup, List.pairwise_map]
    refine List.Pairwise.imp_of_mem ?_ once
    intro left right isLeft _ different same
    obtain ⟨time, _, isTime⟩ := exists_of_forall₂_left (forall₂_of_mapM parsed) isLeft
    have instant : parseUtc fromisoformat (seriesKey left).2 = some time := parsedTime_ok.mp isTime
    refine different ⟨congrArg Prod.fst same, time, instant, ?_⟩
    rw [← same]
    exact instant
  unfold reportedDuplicates
  rw [assessed]
  exact congrArg some (Prod.ext (noCount.mpr nodup) (noKeys.mpr nodup))

theorem reportedDuplicates_of_not_assesses
    (refused : ¬ Assesses fromisoformat interval factor observations) :
    reportedDuplicates fromisoformat interval factor observations = none := by
  unfold reportedDuplicates
  cases assessed : assessQuality fromisoformat observations interval factor with
  | error error => rfl
  | ok report => exact absurd (assesses_of_report assessed).1 refused

private theorem oncePerMoment_rewritten (once : OncePerMoment fromisoformat observations)
    (rewritten : List.Forall₂ (RewritesObservation fromisoformat) observations others) :
    OncePerMoment fromisoformat others := by
  unfold OncePerMoment at once ⊢
  induction rewritten with
  | nil => exact .nil
  | @cons observation other observations others isFirst rest ih =>
      obtain ⟨different, later⟩ := List.pairwise_cons.mp once
      refine List.pairwise_cons.mpr ⟨?_, ih later⟩
      intro otherLater isLater same
      obtain ⟨original, isOriginal, rewrites⟩ := exists_of_forall₂_right rest isLater
      obtain ⟨owner, instant, isHere, isThere⟩ := same
      have first := rewrites_seriesKey isFirst
      have second := rewrites_seriesKey rewrites
      refine different original isOriginal ⟨?_, instant, ?_, ?_⟩
      · rw [← first.1, owner, second.1]
      · rw [← first.2.read_eq, isHere]
      · rw [← second.2.read_eq, isThere]

theorem reportByInstant_iff :
    ReportByInstant fromisoformat interval factor observations ↔
      (Assesses fromisoformat interval factor observations →
        OncePerMoment fromisoformat observations) := by
  constructor
  · intro byInstant assesses
    have survives : ∀ names, List.Forall₂ (Rewrites (parseUtc fromisoformat))
        (observations.map seriesKey) names →
          distinct names = distinct (observations.map seriesKey) := by
      intro names areNames
      obtain ⟨others, rewritten, rfl⟩ := exists_rewritten_observations areNames
      obtain ⟨report, assessed⟩ := report_of_assesses assesses
      obtain ⟨other, otherAssessed⟩ := report_of_assesses (assesses.rewritten rewritten)
      have same := byInstant.unchanged others rewritten
      unfold reportedDuplicates at same
      rw [assessed, otherAssessed, Option.some.injEq, Prod.mk.injEq] at same
      have here := (assesses_of_report assessed).2
      have there := (assesses_of_report otherAssessed).2
      have lengths := rewritten.length_eq
      omega
    have once := (distinct_rewritten_iff (endless_parseUtc fromisoformat)).mp survives
    exact List.pairwise_map.mp once
  · intro condition
    constructor
    · intro others rewritten
      by_cases assesses : Assesses fromisoformat interval factor observations
      · have once := condition assesses
        rw [reportedDuplicates_once assesses once,
          reportedDuplicates_once (assesses.rewritten rewritten)
            (oncePerMoment_rewritten once rewritten)]
      · have otherRefused : ¬ Assesses fromisoformat interval factor others :=
          fun accepted => assesses (accepted.rewritten (rewritten_symm rewritten))
        rw [reportedDuplicates_of_not_assesses assesses,
          reportedDuplicates_of_not_assesses otherRefused]
    · intro report assessed before observation after split repeated
      have once := condition (assesses_of_report assessed).1
      obtain ⟨earlier, member, same⟩ := repeated
      rw [OncePerMoment, split, List.pairwise_append] at once
      exact absurd same (once.2.2 earlier member observation List.mem_cons_self)

end

end TurtleExecution.HistoricalStorage

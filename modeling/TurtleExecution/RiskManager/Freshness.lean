/-
Which timestamps a decision reports as stale.

The business rules report none, and a blocking state hides them; otherwise a
decision reports exactly the stale ones among the timestamps that are checked.
-/

import TurtleExecution.RiskManager.Manager

set_option autoImplicit false

namespace TurtleExecution.RiskManager

open ExchangeAdapter

section

variable {Number : Type} {setting : Setting Number}

def RiskDecision.ReportsStale (decision : RiskDecision Number) (label : Label) : Prop :=
  ∃ age, .stale label age ∈ decision.violatedLimits

def StaleAt (setting : Setting Number) (evaluation : Evaluation Number) (label : Label) : Prop :=
  ∃ timestamp age, (label, timestamp) ∈ timestampsToCheck setting evaluation ∧
    ageMicros setting.utc evaluation.evaluatedAtUtc timestamp = .ok age ∧
    isStale setting.limits age = true

private theorem mem_staleData {evaluatedAtUtc : String} {pairs : List (Label × String)}
    {stale : List (Violation Number)} (computed : staleData setting evaluatedAtUtc pairs = .ok stale)
    (label : Label) :
    (∃ age, .stale label age ∈ stale) ↔
      ∃ timestamp age, (label, timestamp) ∈ pairs ∧
        ageMicros setting.utc evaluatedAtUtc timestamp = .ok age ∧
        isStale setting.limits age = true := by
  induction pairs generalizing stale with
  | nil =>
      cases computed
      constructor
      · rintro ⟨age, member⟩
        cases member
      · rintro ⟨timestamp, age, member, _⟩
        cases member
  | cons pair pairs ih =>
      obtain ⟨known, timestamp⟩ := pair
      obtain ⟨age, aged, computed⟩ := ok_of_bind computed
      obtain ⟨rest, computedRest, computed⟩ := ok_of_bind computed
      cases computed
      have onRest := ih computedRest
      by_cases isOld : isStale setting.limits age = true
      · rw [if_pos isOld]
        constructor
        · rintro ⟨found, member⟩
          rcases List.mem_append.mp member with here | later
          · have same := List.mem_singleton.mp here
            cases same
            exact ⟨timestamp, age, List.mem_cons_self, aged, isOld⟩
          · obtain ⟨other, otherAge, isPair, otherAged, otherOld⟩ := onRest.mp ⟨found, later⟩
            exact ⟨other, otherAge, List.mem_cons_of_mem _ isPair, otherAged, otherOld⟩
        · rintro ⟨other, otherAge, isPair, otherAged, otherOld⟩
          rcases List.mem_cons.mp isPair with here | later
          · cases here
            rw [otherAged] at aged
            cases aged
            exact ⟨_, List.mem_append_left _ (List.mem_singleton_self _)⟩
          · obtain ⟨found, member⟩ := onRest.mpr ⟨other, otherAge, later, otherAged, otherOld⟩
            exact ⟨found, List.mem_append_right _ member⟩
      · rw [if_neg isOld, List.nil_append, onRest]
        constructor
        · rintro ⟨other, otherAge, isPair, otherAged, otherOld⟩
          exact ⟨other, otherAge, List.mem_cons_of_mem _ isPair, otherAged, otherOld⟩
        · rintro ⟨other, otherAge, isPair, otherAged, otherOld⟩
          rcases List.mem_cons.mp isPair with here | later
          · cases here
            rw [otherAged] at aged
            cases aged
            exact absurd otherOld isOld
          · exact ⟨other, otherAge, later, otherAged, otherOld⟩

def Violation.isStale : Violation Number → Bool
  | .stale _ _ => true
  | _ => false

section

variable [LedgerArithmetic Number]

private theorem mem_dataProblems {evaluation : Evaluation Number}
    {problems : List (ReasonCode × Violation Number)}
    (computed : dataProblems setting evaluation = .ok problems) (label : Label) :
    (∃ age, .stale label age ∈ problems.map Prod.snd) ↔ StaleAt setting evaluation label := by
  obtain ⟨stale, computedStale, computed⟩ := ok_of_bind computed
  obtain ⟨broke, _, computed⟩ := ok_of_bind computed
  cases computed
  rw [StaleAt, ← mem_staleData computedStale label]
  refine exists_congr fun age => ?_
  simp only [List.map_append, List.mem_append, List.map_map, List.mem_map, Function.comp_apply]
  constructor
  · rintro ((⟨input, _, impossible⟩ | ⟨violation, member, rfl⟩) | inEquity)
    · cases impossible
    · exact member
    · obtain ⟨pair, member, isStale⟩ := inEquity
      cases broke with
      | false => cases member
      | true =>
          rw [List.mem_singleton.mp member] at isStale
          cases isStale
  · intro member
    exact Or.inl (Or.inr ⟨_, member, rfl⟩)

variable [FloatComparison Number]

omit [LedgerArithmetic Number] [FloatComparison Number] in
private theorem not_isStale_of_broken {isBroken : Bool} {reason : ReasonCode}
    {violation : Violation Number}
    (fresh : violation.isStale = false) :
    ∀ pair ∈ broken isBroken reason violation, pair.2.isStale = false := by
  intro pair member
  cases isBroken with
  | false => cases member
  | true =>
      rw [List.mem_singleton.mp member]
      exact fresh

variable {evaluation : Evaluation Number} {decision : RiskDecision Number}

private theorem businessRules_fresh {inputs : Inputs Number}
    {violations : List (ReasonCode × Violation Number)} {figures : Figures Number}
    (computed : businessRules setting evaluation inputs = .ok (violations, figures)) :
    ∀ pair ∈ violations, pair.2.isStale = false := by
  obtain ⟨equity, _, computed⟩ := ok_of_bind computed
  obtain ⟨heatContribution, _, computed⟩ := ok_of_bind computed
  obtain ⟨calculatedHeat, _, computed⟩ := ok_of_bind computed
  obtain ⟨calculatedExposure, _, computed⟩ := ok_of_bind computed
  obtain ⟨riskTooHigh, _, computed⟩ := ok_of_bind computed
  obtain ⟨heatTooHigh, _, computed⟩ := ok_of_bind computed
  obtain ⟨marginTooHigh, _, computed⟩ := ok_of_bind computed
  obtain ⟨leverageTooHigh, _, computed⟩ := ok_of_bind computed
  obtain ⟨buffer, _, computed⟩ := ok_of_bind computed
  obtain ⟨difference, _, computed⟩ := ok_of_bind computed
  obtain ⟨stopDistance, _, computed⟩ := ok_of_bind computed
  obtain ⟨minRequiredBuffer, _, computed⟩ := ok_of_bind computed
  obtain ⟨tooClose, _, computed⟩ := ok_of_bind computed
  obtain ⟨costRate, _, computed⟩ := ok_of_bind computed
  obtain ⟨fundingEstimate, _, computed⟩ := ok_of_bind computed
  obtain ⟨fundingTooHigh, _, computed⟩ := ok_of_bind computed
  obtain ⟨correlated, _, computed⟩ := ok_of_bind computed
  cases computed
  intro pair member
  simp only [List.mem_append] at member
  rcases member with (((((((member | member) | member) | member) | member) | member) | member) |
    member) | member
  · exact not_isStale_of_broken rfl pair member
  · exact not_isStale_of_broken rfl pair member
  · exact not_isStale_of_broken rfl pair member
  · exact not_isStale_of_broken rfl pair member
  · exact not_isStale_of_broken rfl pair member
  · exact not_isStale_of_broken rfl pair member
  · exact not_isStale_of_broken rfl pair member
  · exact not_isStale_of_broken rfl pair member
  · obtain ⟨text, _, rfl⟩ := List.mem_map.mp member
    rfl

def Blocks (evaluation : Evaluation Number) : Prop :=
  ∃ state, evaluation.killSwitchState = some state ∧ (blockingReason state).isSome

omit [LedgerArithmetic Number] [FloatComparison Number] in
theorem not_blocks (free : (evaluation.killSwitchState.bind fun state =>
    (blockingReason state).map (state, ·)) = none) : ¬ Blocks evaluation := by
  rintro ⟨state, isState, blocks⟩
  obtain ⟨reason, isReason⟩ := Option.isSome_iff_exists.mp blocks
  rw [isState, Option.bind_some, isReason] at free
  cases free

private theorem verified_reportsStale (decided : verified setting evaluation = .ok decision)
    (label : Label) :
    decision.ReportsStale label ↔ StaleAt setting evaluation label := by
  obtain ⟨problems, computed, decided⟩ := ok_of_bind decided
  rw [← mem_dataProblems computed label]
  split at decided
  · obtain ⟨⟨violations, figures⟩, ruled, decided⟩ := ok_of_bind decided
    cases decided
    constructor
    · rintro ⟨age, member⟩
      obtain ⟨pair, isPair, same⟩ := List.mem_map.mp member
      have fresh := businessRules_fresh (ok_of_mapError ruled) pair isPair
      rw [same] at fresh
      cases fresh
    · rintro ⟨age, member⟩
      cases member
  · cases decided
    exact Iff.rfl

theorem evaluate_reportsStale (decided : evaluate setting evaluation = .ok decision) (label : Label) :
    decision.ReportsStale label ↔ ¬ Blocks evaluation ∧ StaleAt setting evaluation label := by
  obtain ⟨_, _, decided⟩ := ok_of_bind decided
  obtain ⟨_, _, decided⟩ := ok_of_bind decided
  split at decided
  · rename_i state reason found
    cases decided
    obtain ⟨state', isState, isReason⟩ := Option.bind_eq_some_iff.mp found
    obtain ⟨reason', blocks, _⟩ := Option.map_eq_some_iff.mp isReason
    constructor
    · rintro ⟨age, member⟩
      have same := List.mem_singleton.mp member
      cases same
    · rintro ⟨free, _⟩
      exact (free ⟨state', isState, by rw [blocks]; rfl⟩).elim
  · rename_i notBlocked
    rw [verified_reportsStale decided label]
    constructor
    · intro stale
      exact ⟨not_blocks notBlocked, stale⟩
    · exact fun both => both.2

theorem evaluate_approved (decided : evaluate setting evaluation = .ok decision)
    (approved : decision.decision = .approved) : decision.violatedLimits = [] := by
  obtain ⟨_, _, decided⟩ := ok_of_bind decided
  obtain ⟨_, _, decided⟩ := ok_of_bind decided
  split at decided
  · cases decided
    cases approved
  · obtain ⟨problems, computed, decided⟩ := ok_of_bind decided
    split at decided
    · obtain ⟨⟨violations, figures⟩, ruled, decided⟩ := ok_of_bind decided
      cases decided
      change (if violations.isEmpty then Decision.approved else .rejected) = .approved at approved
      cases violations with
      | nil => rfl
      | cons violation violations => cases approved
    · cases decided
      cases approved

end

end

end TurtleExecution.RiskManager

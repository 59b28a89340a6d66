/-
`run_causality_audit`: duplicate samples, and outcomes that do not follow their features.

A sample is known by its symbol and the text of its timestamp.  The loop keeps the keys it has
seen and counts the samples whose key it has seen before.
-/

import TurtleExecution.Foundation.Notations
import TurtleExecution.Validation.Results

set_option autoImplicit false

namespace TurtleExecution.Validation

open HistoricalStorage Notations

structure AuditFigures where
  totalSamples : Nat
  uniqueSampleKeys : Nat
  duplicateSamples : Nat
  orderingVerified : Nat
  orderingViolated : Nat
  orderingNotVerifiable : Nat
  violationDetails : List String
  auditedAtUtc : String
  passed : Bool

def AuditFigures.check (figures : AuditFigures) : Except ValidationError Unit := do
  require (figures.uniqueSampleKeys + figures.duplicateSamples = figures.totalSamples)
    s!"CausalityAuditResult: unique_sample_keys + duplicate_samples must equal total_samples ({figures.uniqueSampleKeys}+{figures.duplicateSamples} != {figures.totalSamples})"
  require (figures.orderingVerified + figures.orderingViolated + figures.orderingNotVerifiable =
      figures.totalSamples)
    s!"CausalityAuditResult: ordering_verified + ordering_violated + ordering_not_verifiable must equal total_samples ({figures.orderingVerified}+{figures.orderingViolated}+{figures.orderingNotVerifiable} != {figures.totalSamples})"
  require (figures.violationDetails.all fun detail => !PyText.isBlank detail)
    "CausalityAuditResult.violation_details must be a tuple of non-empty strings"
  require (!PyText.isBlank figures.auditedAtUtc)
    "CausalityAuditResult.audited_at_utc must be a non-empty string"
  require (figures.passed = (decide (figures.duplicateSamples = 0) &&
      decide (figures.orderingViolated = 0) && decide (figures.orderingNotVerifiable = 0)))
    "CausalityAuditResult.passed is inconsistent -- must be True iff there are zero duplicates, zero ordering violations, and zero not-verifiable samples"

structure CausalityAuditResult extends AuditFigures where
  checked : toAuditFigures.check = .ok ()

def AuditFigures.result (figures : AuditFigures) : Except ValidationError CausalityAuditResult :=
  match checked : figures.check with
  | .error error => .error error
  | .ok () => .ok { figures with checked }

theorem AuditFigures.of_result {figures : AuditFigures} {audited : CausalityAuditResult}
    (built : figures.result = .ok audited) : audited.toAuditFigures = figures := by
  unfold AuditFigures.result at built
  split at built
  · cases built
  · cases built
    rfl

theorem AuditFigures.result_of_check {figures : AuditFigures} (checked : figures.check = .ok ()) :
    figures.result = .ok { figures with checked } := by
  unfold AuditFigures.result
  split
  · rename_i raised
    rw [checked] at raised
    cases raised
  · rfl

def sampleKey (sample : ValidationSample) : String × String :=
  (sample.featureValue.symbol.value, sample.featureValue.computedAtUtc.text)

def duplicateDetail (index : Nat) (key : String × String) : String :=
  s!"sample {index}: duplicate data point for {key.1} @ {key.2} (already present earlier in this batch)"

def orderDetail (index : Nat) (observedAt computedAt : String) : String :=
  s!"sample {index}: outcome_observed_at_utc ({observedAt}) does not strictly follow feature computed_at_utc ({computedAt}) -- a realized outcome cannot be measured at or before the feature that supposedly predicted it"

structure AuditTally where
  seenKeys : List (String × String)
  duplicateCount : Nat
  orderingVerified : Nat
  orderingViolated : Nat
  orderingNotVerifiable : Nat
  violationDetails : List String

namespace AuditTally

def empty : AuditTally :=
  { seenKeys := []
    duplicateCount := 0
    orderingVerified := 0
    orderingViolated := 0
    orderingNotVerifiable := 0
    violationDetails := [] }

def noteKey (tally : AuditTally) (index : Nat) (sample : ValidationSample) : AuditTally :=
  let key := sampleKey sample
  if key ∈ tally.seenKeys then
    { tally with
      duplicateCount := tally.duplicateCount + 1
      violationDetails := tally.violationDetails ++ [duplicateDetail index key] }
  else { tally with seenKeys := key :: tally.seenKeys }

def noteOrder (texts : Texts) (tally : AuditTally) (index : Nat) (sample : ValidationSample) :
    Except ValidationError AuditTally :=
  match sample.outcomeObservedAtUtc with
  | none => .ok { tally with orderingNotVerifiable := tally.orderingNotVerifiable + 1 }
  | some observedAt =>
      match sample.computedAt texts, parseUtc texts.fromisoformat observedAt.text with
      | some featureTime, some outcomeTime =>
          if featureTime < outcomeTime then
            .ok { tally with orderingVerified := tally.orderingVerified + 1 }
          else
            .ok { tally with
              orderingViolated := tally.orderingViolated + 1
              violationDetails := tally.violationDetails ++
                [orderDetail index observedAt.text sample.featureValue.computedAtUtc.text] }
      | _, _ => .error (.timestamp (some index))

end AuditTally

def auditSamples (texts : Texts) :
    Nat → AuditTally → List ValidationSample → Except ValidationError AuditTally
  | _, tally, [] => .ok tally
  | index, tally, sample :: samples => do
      let tally ← (tally.noteKey index sample).noteOrder texts index sample
      auditSamples texts (index + 1) tally samples

def auditFigures (total : Nat) (tally : AuditTally) (auditedAtUtc : String) : AuditFigures :=
  { totalSamples := total
    uniqueSampleKeys := tally.seenKeys.length
    duplicateSamples := tally.duplicateCount
    orderingVerified := tally.orderingVerified
    orderingViolated := tally.orderingViolated
    orderingNotVerifiable := tally.orderingNotVerifiable
    violationDetails := tally.violationDetails
    auditedAtUtc
    passed := decide (tally.duplicateCount = 0) && decide (tally.orderingViolated = 0) &&
      decide (tally.orderingNotVerifiable = 0) }

def runCausalityAudit {State : Type} (texts : Texts)
    (clock : Process State ValidationError String) (samples : List ValidationSample) :
    Process State ValidationError CausalityAuditResult := do
  let _nonempty ← Process.ofExcept (require (!samples.isEmpty) nonEmptySamples)
  let tally ← Process.ofExcept (auditSamples texts 0 .empty samples)
  let auditedAtUtc ← clock
  Process.ofExcept (auditFigures samples.length tally auditedAtUtc).result

namespace AuditTally

/-- The keys of the samples are seen once each, and the other samples are duplicates. -/
structure KeysOf (tally : AuditTally) (samples : List ValidationSample) : Prop where
  seen : ∀ key, key ∈ tally.seenKeys ↔ key ∈ samples.map sampleKey
  once : tally.seenKeys.Nodup
  counted : tally.seenKeys.length + tally.duplicateCount = samples.length

def ordered (tally : AuditTally) : Nat :=
  tally.orderingVerified + tally.orderingViolated + tally.orderingNotVerifiable

def Written (tally : AuditTally) : Prop :=
  tally.violationDetails.all (fun detail => !PyText.isBlank detail) = true

private theorem keysOf_empty : KeysOf .empty [] :=
  { seen := fun _ => Iff.rfl
    once := List.nodup_nil
    counted := rfl }

variable {tally next : AuditTally} {samples : List ValidationSample} {index : Nat}
  {sample : ValidationSample} {texts : Texts}

theorem KeysOf.note (keysOf : tally.KeysOf samples) :
    (tally.noteKey index sample).KeysOf (samples ++ [sample]) := by
  obtain ⟨seen, once, counted⟩ := keysOf
  have isSeen : ∀ key, key ∈ (samples ++ [sample]).map sampleKey ↔
      key ∈ tally.seenKeys ∨ key = sampleKey sample := by
    intro key
    rw [List.map_append, List.mem_append, List.map_singleton, List.mem_singleton, seen]
  unfold noteKey
  by_cases known : sampleKey sample ∈ tally.seenKeys
  · rw [if_pos known]
    refine { seen := ?_, once := once, counted := ?_ }
    · intro key
      rw [isSeen]
      constructor
      · exact Or.inl
      · rintro (isKey | rfl)
        · exact isKey
        · exact known
    · rw [List.length_append, List.length_singleton]
      dsimp only
      omega
  · rw [if_neg known]
    refine { seen := ?_, once := List.nodup_cons.mpr ⟨known, once⟩, counted := ?_ }
    · intro key
      rw [isSeen, List.mem_cons, or_comm]
    · rw [List.length_append, List.length_singleton]
      dsimp only
      rw [List.length_cons]
      omega

private theorem noteOrder_keys (noted : tally.noteOrder texts index sample = .ok next) :
    next.seenKeys = tally.seenKeys ∧ next.duplicateCount = tally.duplicateCount := by
  unfold noteOrder at noted
  split at noted
  · cases noted
    exact ⟨rfl, rfl⟩
  · split at noted
    · split at noted <;> cases noted <;> exact ⟨rfl, rfl⟩
    · cases noted

theorem KeysOf.noteOrder (keysOf : tally.KeysOf samples)
    (noted : tally.noteOrder texts index sample = .ok next) : next.KeysOf samples := by
  obtain ⟨seenKeys, duplicateCount⟩ := noteOrder_keys noted
  obtain ⟨seen, once, counted⟩ := keysOf
  exact
    { seen := seenKeys ▸ seen
      once := seenKeys ▸ once
      counted := by rw [seenKeys, duplicateCount, counted] }

private theorem ordered_noteKey : (tally.noteKey index sample).ordered = tally.ordered := by
  unfold noteKey
  dsimp only
  split <;> rfl

private theorem ordered_noteOrder (noted : tally.noteOrder texts index sample = .ok next) :
    next.ordered = tally.ordered + 1 := by
  unfold noteOrder at noted
  split at noted
  · cases noted
    rfl
  · split at noted
    · split at noted <;> cases noted <;> simp only [ordered] <;> omega
    · cases noted

private theorem not_blank_sample (rest : String) : PyText.isBlank ("sample " ++ rest) = false := by
  rw [PyText.isBlank, String.toList_append]
  rfl

private theorem written_append {details : List String} {detail : String} (written : tally.Written)
    (isDetails : details = tally.violationDetails ++ [detail])
    (notBlank : PyText.isBlank detail = false) :
    details.all (fun detail => !PyText.isBlank detail) = true := by
  rw [isDetails, List.all_append, List.all_cons, List.all_nil, notBlank]
  rw [Written] at written
  rw [written]
  rfl

private theorem not_blank_duplicateDetail (key : String × String) :
    PyText.isBlank (duplicateDetail index key) = false := by
  simp only [duplicateDetail, String.append_assoc]
  exact not_blank_sample _

private theorem not_blank_orderDetail (observedAt computedAt : String) :
    PyText.isBlank (orderDetail index observedAt computedAt) = false := by
  simp only [orderDetail, String.append_assoc]
  exact not_blank_sample _

theorem Written.note (written : tally.Written) : (tally.noteKey index sample).Written := by
  unfold noteKey
  dsimp only
  split
  · exact written_append written rfl (not_blank_duplicateDetail _)
  · exact written

theorem Written.noteOrder (written : tally.Written)
    (noted : tally.noteOrder texts index sample = .ok next) : next.Written := by
  unfold AuditTally.noteOrder at noted
  split at noted
  · cases noted
    exact written
  · split at noted
    · split at noted
      · cases noted
        exact written
      · cases noted
        exact written_append written rfl (not_blank_orderDetail _ _)
    · cases noted

end AuditTally

structure Audited (tally : AuditTally) (samples : List ValidationSample) : Prop where
  keysOf : tally.KeysOf samples
  ordered : tally.ordered = samples.length
  written : tally.Written

private theorem audited_empty : Audited .empty [] :=
  { keysOf := AuditTally.keysOf_empty
    ordered := rfl
    written := rfl }

variable {samples : List ValidationSample} {tally : AuditTally} {texts : Texts} {index : Nat}

private theorem auditSamples_audits {tally final : AuditTally}
    {earlier samples : List ValidationSample}
    (audited : Audited tally earlier) (ran : auditSamples texts index tally samples = .ok final) :
    Audited final (earlier ++ samples) := by
  induction samples generalizing index tally earlier with
  | nil =>
      cases ran
      rw [List.append_nil]
      exact audited
  | cons sample samples ih =>
      obtain ⟨next, noted, rest⟩ := ok_of_bind ran
      have added : Audited next (earlier ++ [sample]) :=
        { keysOf := audited.keysOf.note.noteOrder noted
          ordered := by
            rw [AuditTally.ordered_noteOrder noted, AuditTally.ordered_noteKey, audited.ordered,
              List.length_append, List.length_singleton]
          written := audited.written.note.noteOrder noted }
      have all := ih added rest
      rw [List.append_assoc] at all
      exact all

theorem Audited.duplicates (audited : Audited tally samples) :
    tally.duplicateCount + distinct (samples.map sampleKey) = samples.length := by
  have sameKeys : distinct (samples.map sampleKey) = tally.seenKeys.length := by
    rw [distinct, ← List.toFinset_card_of_nodup audited.keysOf.once]
    refine congrArg Finset.card (Finset.ext fun key => ?_)
    rw [List.mem_toFinset, List.mem_toFinset, audited.keysOf.seen]
  have counted := audited.keysOf.counted
  omega

def Orderable (texts : Texts) (sample : ValidationSample) : Prop :=
  ∀ observedAt, sample.outcomeObservedAtUtc = some observedAt →
    (sample.computedAt texts).isSome = true ∧
      (parseUtc texts.fromisoformat observedAt.text).isSome = true

/-- There are samples, and all that are compared have readable timestamps. -/
def Auditable (texts : Texts) (samples : List ValidationSample) : Prop :=
  samples ≠ [] ∧ ∀ sample ∈ samples, Orderable texts sample

private theorem noteOrder_ok_iff {sample : ValidationSample} :
    (∃ next, tally.noteOrder texts index sample = .ok next) ↔ Orderable texts sample := by
  unfold AuditTally.noteOrder Orderable
  cases sample.outcomeObservedAtUtc with
  | none =>
      refine ⟨?_, fun _ => ⟨_, rfl⟩⟩
      intro _ observedAt given
      cases given
  | some observedAt =>
      cases computed : sample.computedAt texts with
      | none =>
          constructor
          · rintro ⟨next, noted⟩
            cases noted
          · intro orderable
            cases (orderable observedAt rfl).1
      | some featureTime =>
          cases observed : parseUtc texts.fromisoformat observedAt.text with
          | none =>
              constructor
              · rintro ⟨next, noted⟩
                simp only [observed] at noted
                cases noted
              · intro orderable
                have isSome := (orderable observedAt rfl).2
                rw [observed] at isSome
                cases isSome
          | some outcomeTime =>
              constructor
              · rintro _ given ⟨⟩
                exact ⟨rfl, by rw [observed]; rfl⟩
              · intro _
                simp only [observed]
                split <;> exact ⟨_, rfl⟩

private theorem auditSamples_ok_iff :
    (∃ final, auditSamples texts index tally samples = .ok final) ↔
      ∀ sample ∈ samples, Orderable texts sample := by
  induction samples generalizing index tally with
  | nil => exact ⟨fun _ sample member => absurd member List.not_mem_nil, fun _ => ⟨tally, rfl⟩⟩
  | cons sample samples ih =>
      rw [List.forall_mem_cons]
      constructor
      · rintro ⟨final, ran⟩
        obtain ⟨next, noted, rest⟩ := ok_of_bind ran
        exact ⟨noteOrder_ok_iff.mp ⟨next, noted⟩, ih.mp ⟨final, rest⟩⟩
      · rintro ⟨first, later⟩
        obtain ⟨next, noted⟩ := noteOrder_ok_iff.mpr first
        obtain ⟨final, rest⟩ := ih.mpr later
        refine ⟨final, ?_⟩
        rw [auditSamples, bind_of_ok noted]
        exact rest

theorem Audited.check {now : String} (audited : Audited tally samples)
    (shown : PyText.isBlank now = false) :
    (auditFigures samples.length tally now).check = .ok () := by
  have shownHere : (!PyText.isBlank now) = true := by
    rw [shown]
    rfl
  refine (bind_of_ok (require_of (decide_eq_true audited.keysOf.counted) _)).trans ?_
  refine (bind_of_ok (require_of (decide_eq_true audited.ordered) _)).trans ?_
  refine (bind_of_ok (require_of audited.written _)).trans ?_
  refine (bind_of_ok (require_of shownHere _)).trans ?_
  exact require_of (decide_eq_true rfl) _

section

variable {State : Type} {texts : Texts} {clock : Process State ValidationError String}
  {samples : List ValidationSample}

theorem audited_of_returned {state after : State} {result : CausalityAuditResult}
    (ran : runCausalityAudit texts clock samples state = (.returned result, after)) :
    Auditable texts samples ∧ ∃ tally, Audited tally samples ∧
      result.duplicateSamples = tally.duplicateCount ∧
      auditSamples texts 0 .empty samples = .ok tally := by
  obtain ⟨_, _, someSamples, ran⟩ := Process.returned_bind ran
  obtain ⟨tally, _, isTally, ran⟩ := Process.returned_bind ran
  obtain ⟨now, _, _, ran⟩ := Process.returned_bind ran
  have figures := AuditFigures.of_result (Process.returned_ofExcept ran).1
  have audits := (Process.returned_ofExcept isTally).1
  have nonempty : samples ≠ [] := by
    rintro rfl
    cases (Process.returned_ofExcept someSamples).1
  refine ⟨⟨nonempty, auditSamples_ok_iff.mp ⟨tally, audits⟩⟩, tally,
    auditSamples_audits audited_empty audits, ?_, audits⟩
  rw [figures]
  rfl

theorem runCausalityAudit_returns (ticks : Ticks clock) (auditable : Auditable texts samples)
    (state : State) :
    ∃ result after, runCausalityAudit texts clock samples state = (.returned result, after) := by
  obtain ⟨tally, audits⟩ := auditSamples_ok_iff.mpr auditable.2
  obtain ⟨now, after, isNow, shown⟩ := ticks state
  have audited := auditSamples_audits audited_empty audits
  rw [List.nil_append] at audited
  refine ⟨{ auditFigures samples.length tally now with checked := audited.check shown }, after, ?_⟩
  unfold runCausalityAudit
  rw [Process.bind_returned (Process.ofExcept_ok (require_nonEmpty auditable.1) state),
    Process.bind_returned (Process.ofExcept_ok audits state), Process.bind_returned isNow]
  exact Process.ofExcept_ok (AuditFigures.result_of_check (audited.check shown)) after

end

end TurtleExecution.Validation

/-
Evidence packages, and their way into the registry.

A package holds the dictionary of the specification that was validated.  It is attached only to
an experiment whose stored specification is equal to that.
-/

import TurtleExecution.Candidates.RoundTrip
import TurtleExecution.Registry.Restarts
import TurtleExecution.Validation.Models

set_option autoImplicit false

namespace TurtleExecution.Validation

open Candidates PyValue Registry

def CriterionCheck.toDict (check : CriterionCheck) : PyDict :=
  [(.str "criterion_key", .str check.criterionKey),
    (.str "required_value", check.requiredValue),
    (.str "observed_value", check.observedValue.getD .none),
    (.str "outcome", .str check.outcome.value)]

def ValidationResult.toDict (result : ValidationResult) : PyDict :=
  [(.str "candidate_name", .str result.candidateName.text),
    (.str "candidate_version", .str result.candidateVersion.text),
    (.str "validated_at_utc", .str result.validatedAtUtc),
    (.str "total_samples", .int result.totalSamples),
    (.str "unavailable_samples", .int result.unavailableSamples),
    (.str "flat_samples", .int result.flatSamples),
    (.str "signaled_samples", .int result.signaledSamples),
    (.str "hits", .int result.hits),
    (.str "hit_rate", optionalText (result.hitRate.map Decimal.text)),
    (.str "mean_directional_return", optionalText (result.meanDirectionalReturn.map Decimal.text)),
    (.str "criteria_results", .list (result.criteriaResults.map fun check => .dict check.toDict)),
    (.str "overall_passed", .bool result.overallPassed),
    (.str "sample_set_fingerprint", optionalText result.sampleSetFingerprint)]

inductive PackageError
  /-- `ValidationError` for a field of the package, and what is wrong with it. -/
  | field (name problem : String)
  | stage (name problem : String)
  /-- `ValidationError` for a package of another specification than the experiment's. -/
  | mismatched (experimentId : String)
  | unordered
  | registry (error : RegistryError)

structure JsonMapping where
  entries : PyDict
  nonempty : entries ≠ []
  written : (membersOf entries).isSome = true

/-- `_validate_json_native_mapping` with `allow_empty=False`. -/
def jsonMapping (refuse : String → PackageError) (entries : PyDict) :
    Except PackageError JsonMapping :=
  if nonempty : entries ≠ [] then
    if written : (membersOf entries).isSome = true then .ok { entries, nonempty, written }
    else .error (refuse "must be JSON-serializable using only JSON-native types (str, int, float, bool, None, list, dict)")
  else .error (refuse "must not be empty")

structure EvidencePackage where
  candidateName : NonBlank
  candidateVersion : NonBlank
  candidateSpecification : JsonMapping
  validationResults : Dict NonBlank JsonMapping
  knownLimitations : List NonBlank
  assembledAtUtc : NonBlank
  fingerprint : NonBlank
  results_nonempty : validationResults ≠ []

def resultsDict (results : Dict NonBlank PyDict) : PyValue :=
  .dict (results.map fun stage => (.str stage.1.text, .dict stage.2))

def EvidencePackage.results (package : EvidencePackage) : Dict NonBlank PyDict :=
  Dict.mapValues JsonMapping.entries package.validationResults

def textList (texts : List NonBlank) : PyValue :=
  .list (PyValue.textItems (texts.map NonBlank.text))

def EvidencePackage.toDict (package : EvidencePackage) : PyDict :=
  [(.str "candidate_name", .str package.candidateName.text),
    (.str "candidate_version", .str package.candidateVersion.text),
    (.str "candidate_specification", .dict package.candidateSpecification.entries),
    (.str "validation_results", resultsDict package.results),
    (.str "known_limitations", textList package.knownLimitations),
    (.str "assembled_at_utc", .str package.assembledAtUtc.text),
    (.str "fingerprint", .str package.fingerprint.text)]

def packageFingerprint (candidateSpecification : PyDict) (results : Dict NonBlank PyDict)
    (knownLimitations : List NonBlank) : Except PackageError String :=
  let text := dumpsText (.dict
    [(.str "candidate_specification", .dict candidateSpecification),
      (.str "validation_results", resultsDict results),
      (.str "known_limitations", textList knownLimitations)])
  text.elim (.error .unordered) fun canonical =>
    .ok (String.ofList (hexdigest (String.ofList canonical)))

def nonEmptyString (name text : String) : Except PackageError NonBlank :=
  (NonBlank.ofText? text).elim (.error (.field name "must be a non-empty string")) .ok

def stageResult (stage : NonBlank × PyDict) : Except PackageError (NonBlank × JsonMapping) :=
  (jsonMapping (.stage stage.1.text) stage.2).map fun result => (stage.1, result)

def stageResults : Dict NonBlank PyDict →
    Except PackageError { stages : Dict NonBlank JsonMapping // stages ≠ [] }
  | [] => .error (.field "validation_results" "must be a non-empty Mapping")
  | stage :: stages => do
      let first ← stageResult stage
      let others ← stages.mapM stageResult
      return ⟨first :: others, List.cons_ne_nil _ _⟩

/-- `EvidencePackage(...)`, whose fields are checked in their order. -/
def buildPackage (candidateName candidateVersion : NonBlank) (candidateSpecification : PyDict)
    (results : Dict NonBlank PyDict) (knownLimitations : List NonBlank)
    (assembledAtUtc fingerprint : String) : Except PackageError EvidencePackage := do
  let specification ← jsonMapping (.field "candidate_specification") candidateSpecification
  let stages ← stageResults results
  let assembledAtUtc ← nonEmptyString "assembled_at_utc" assembledAtUtc
  let fingerprint ← nonEmptyString "fingerprint" fingerprint
  return {
    candidateName, candidateVersion, knownLimitations, assembledAtUtc, fingerprint
    candidateSpecification := specification
    validationResults := stages.val
    results_nonempty := stages.property }

def evidencePackageFromValidationResult (spec : CandidateSpecification) (stageName : String)
    (result : ValidationResult) (knownLimitations : List NonBlank) (now : String) :
    Except PackageError EvidencePackage := do
  let stage ← nonEmptyString "stage_name" stageName
  let results : Dict NonBlank PyDict := [(stage, result.toDict)]
  let fingerprint ← packageFingerprint spec.toSpecificationDict results knownLimitations
  buildPackage spec.name spec.version spec.toSpecificationDict results knownLimitations now
    fingerprint

def EvidencePackage.withStageResult (package : EvidencePackage) (stageName : String)
    (stageResult : PyDict) (now : String) : Except PackageError EvidencePackage := do
  let stage ← nonEmptyString "stage_name" stageName
  if (Dict.get? package.validationResults stage).isSome then
    .error (.stage stageName "is already present in this EvidencePackage -- build a new package rather than silently overwriting existing evidence")
  else
    let result ← jsonMapping (.stage stageName) stageResult
    let results := Dict.set package.results stage result.entries
    let fingerprint ← packageFingerprint package.candidateSpecification.entries results
      package.knownLimitations
    buildPackage package.candidateName package.candidateVersion
      package.candidateSpecification.entries results package.knownLimitations now fingerprint

inductive ProducedFor (spec : CandidateSpecification) : EvidencePackage → Prop
  | first {package : EvidencePackage} (stageName : String) (result : ValidationResult)
      (knownLimitations : List NonBlank) (now : String)
      (built : evidencePackageFromValidationResult spec stageName result knownLimitations now =
        .ok package) : ProducedFor spec package
  | extended {package next : EvidencePackage} (produced : ProducedFor spec package)
      (stageName : String) (stageResult : PyDict) (now : String)
      (built : package.withStageResult stageName stageResult now = .ok next) : ProducedFor spec next

private theorem jsonMapping_ok {refuse : String → PackageError} {entries : PyDict}
    {made : JsonMapping}
    (built : jsonMapping refuse entries = .ok made) : made.entries = entries := by
  unfold jsonMapping at built
  split at built
  · split at built
    · cases built
      rfl
    · cases built
  · cases built

variable {package : EvidencePackage}

private theorem buildPackage_ok {candidateName candidateVersion : NonBlank} {specification : PyDict}
    {results : Dict NonBlank PyDict} {knownLimitations : List NonBlank}
    {assembledAtUtc fingerprint : String}
    (built : buildPackage candidateName candidateVersion specification results knownLimitations
      assembledAtUtc fingerprint = .ok package) :
    package.candidateSpecification.entries = specification := by
  obtain ⟨mapping, isMapping, built⟩ := ok_of_bind built
  obtain ⟨stages, _, built⟩ := ok_of_bind built
  obtain ⟨_, _, built⟩ := ok_of_bind built
  obtain ⟨_, _, built⟩ := ok_of_bind built
  cases built
  exact jsonMapping_ok isMapping

theorem ProducedFor.specification {spec : CandidateSpecification}
    (produced : ProducedFor spec package) :
    package.candidateSpecification.entries = spec.toSpecificationDict := by
  induction produced with
  | first stageName result knownLimitations now built =>
      obtain ⟨_, _, built⟩ := ok_of_bind built
      obtain ⟨_, _, built⟩ := ok_of_bind built
      exact buildPackage_ok built
  | extended _ stageName stageResult now built ih =>
      obtain ⟨_, _, built⟩ := ok_of_bind built
      split at built
      · cases built
      · obtain ⟨_, _, built⟩ := ok_of_bind built
        obtain ⟨_, _, built⟩ := ok_of_bind built
        exact (buildPackage_ok built).trans ih

def attachEvidencePackage (experimentId : String) (package : EvidencePackage) :
    Process ExperimentRegistry PackageError Record := do
  let registry ← Process.get
  let record ← Process.ofExcept
    ((Registry.get registry.records experimentId).mapError PackageError.registry)
  if equal sameOrEqual record.specification
      (.dict package.candidateSpecification.entries) then
    Process.withError .registry (ExperimentRegistry.attachEvidence experimentId package.toDict
      package.fingerprint.text)
  else Process.raise (.mismatched experimentId)

theorem EvidencePackage.valid (package : EvidencePackage) :
    ExperimentRegistry.validateMapping package.toDict = .ok () := by
  have results : Native (resultsDict package.results) := by
    apply native_dict
    apply native_entries
    intro entry member
    obtain ⟨stage, isStage, rfl⟩ := List.mem_map.mp member
    obtain ⟨held, _, rfl⟩ := List.mem_map.mp isStage
    exact ⟨⟨_, rfl⟩, native_dict held.2.written⟩
  have limitations : Native (textList package.knownLimitations) :=
    native_texts (package.knownLimitations.map NonBlank.text)
  have native : NativeEntries package.toDict := by
    simp only [EvidencePackage.toDict, NativeEntries, List.forall_mem_cons]
    exact ⟨⟨⟨_, rfl⟩, rfl⟩, ⟨⟨_, rfl⟩, rfl⟩,
      ⟨⟨_, rfl⟩, native_dict package.candidateSpecification.written⟩, ⟨⟨_, rfl⟩, results⟩,
      ⟨⟨_, rfl⟩, limitations⟩, ⟨⟨_, rfl⟩, rfl⟩, ⟨⟨_, rfl⟩, rfl⟩, List.forall_mem_nil _⟩
  have written : (treeOf (.dict package.toDict)).isSome = true := native_dict (native_entries native)
  have nonempty : package.toDict ≠ [] := List.cons_ne_nil _ _
  unfold ExperimentRegistry.validateMapping
  rw [if_neg nonempty, if_pos written]

theorem attachEvidencePackage_returns {registry : ExperimentRegistry}
    (inStep : InStep registry) {id : String} {record : Record}
    (found : Dict.get? registry.records (.str id) = some record) (isSealed : record.isSealed = true)
    (noEvidence : isNone record.evidence = true)
    (same : equal sameOrEqual record.specification
      (.dict package.candidateSpecification.entries) = true) :
    ∃ attached after, attachEvidencePackage id package registry =
      (.returned attached, after) := by
  have shown : Registry.get registry.records id = .ok record := inStep.shown found
  obtain ⟨attached, after, ran⟩ := attachEvidence_returns inStep found isSealed noEvidence
    package.valid package.fingerprint.nonBlank
  refine ⟨attached, after, ?_⟩
  unfold attachEvidencePackage
  rw [Process.bind_returned (show Process.get registry = (.returned registry, registry) from rfl),
    shown]
  rw [Process.bind_returned (show Process.ofExcept _ registry = (.returned record, registry) from rfl),
    if_pos same]
  exact Process.withError_returned ran

end TurtleExecution.Validation

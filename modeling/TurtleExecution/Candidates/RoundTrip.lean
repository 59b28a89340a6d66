/-
Specifications as dictionaries, and back.

`from_specification_dict` reads what a registry has stored.  The constructor accepts whatever
`json.dumps` writes, and not all of that is read back as it was.
-/

import TurtleExecution.Candidates.Models
import TurtleExecution.Foundation.PyEquality

set_option autoImplicit false

namespace TurtleExecution.Candidates

open ExchangeAdapter PyValue

inductive SpecificationError
  /-- `CandidateError` for a field of the specification, and what is wrong with it. -/
  | field (name problem : String)
  /-- `CandidateError` for data that is no mapping, or has no list under `universe`. -/
  | shape (name expected : String)
  /-- `CandidateError` for a field that the dictionary does not have. -/
  | missing (key : String)
  | malformed (message : String)

def CandidateSpecification.toSpecificationDict (spec : CandidateSpecification) : PyDict :=
  [(.str "candidate_name", .str spec.name.text),
    (.str "candidate_version", .str spec.version.text),
    (.str "candidate_type", .str spec.candidateType.text),
    (.str "universe", .list (textItems (spec.universe.map Symbol.value))),
    (.str "feature_name", .str spec.featureName.text),
    (.str "feature_version", .str spec.featureVersion.text),
    (.str "cadence_seconds", .int spec.cadenceSeconds),
    (.str "acceptance_criteria", .dict spec.acceptanceCriteria),
    (.str "parameters", .dict spec.parameters)]

def nonEmptyText (name : String) : PyValue → Except SpecificationError NonBlank
  | .str text =>
      (text.scalars?.bind NonBlank.ofText?).elim (.error (.field name "must be a non-empty string")) .ok
  | _ => .error (.field name "must be a non-empty string")

def nonEmptyUniverse («universe» : List Symbol) :
    Except SpecificationError { symbols : List Symbol // symbols ≠ [] } :=
  if nonempty : «universe» ≠ [] then .ok ⟨«universe», nonempty⟩
  else .error (.field "universe" "must be a non-empty tuple")

def positiveCadence (value : PyValue) : Except SpecificationError { seconds : Int // 0 < seconds } :=
  match value with
  | .int seconds =>
      if positive : 0 < seconds then .ok ⟨seconds, positive⟩
      else .error (.field "cadence_seconds" "must be a positive int")
  | _ => .error (.field "cadence_seconds" "must be a positive int")

/-- `_validate_json_native_mapping`, which accepts whatever `json.dumps` does. -/
def validateJsonNativeMapping (name : String) (allowEmpty : Bool) (value : PyValue) :
    Except SpecificationError { entries : PyDict //
      (allowEmpty = false → entries ≠ []) ∧ (membersOf entries).isSome = true } :=
  match value with
  | .dict entries =>
      if nonempty : allowEmpty = false → entries ≠ [] then
        if written : (membersOf entries).isSome = true then .ok ⟨entries, nonempty, written⟩
        else .error (.field name "must be JSON-serializable using only JSON-native types (str, int, float, bool, None, list, dict) -- stringify anything else first")
      else .error (.field name "must not be empty")
  | _ => .error (.field name "must be a Mapping")

structure Arguments where
  name : PyValue
  version : PyValue
  candidateType : PyValue
  «universe» : List Symbol
  featureName : PyValue
  featureVersion : PyValue
  cadenceSeconds : PyValue
  acceptanceCriteria : PyValue
  parameters : PyValue

def Arguments.construct (arguments : Arguments) :
    Except SpecificationError CandidateSpecification := do
  let name ← nonEmptyText "name" arguments.name
  let version ← nonEmptyText "version" arguments.version
  let candidateType ← nonEmptyText "candidate_type" arguments.candidateType
  let featureName ← nonEmptyText "feature_name" arguments.featureName
  let featureVersion ← nonEmptyText "feature_version" arguments.featureVersion
  let symbols ← nonEmptyUniverse arguments.universe
  let cadence ← positiveCadence arguments.cadenceSeconds
  let criteria ← validateJsonNativeMapping "acceptance_criteria" false arguments.acceptanceCriteria
  let parameters ← validateJsonNativeMapping "parameters" true arguments.parameters
  return {
    name, version, candidateType, featureName, featureVersion
    «universe» := symbols.val
    cadenceSeconds := cadence.val
    acceptanceCriteria := criteria.val
    parameters := parameters.val
    universe_nonempty := symbols.property
    cadence_pos := cadence.property
    criteria_nonempty := criteria.property.1 rfl
    criteria_written := criteria.property.2
    parameters_written := parameters.property.2 }

def mapping : PyValue → Except SpecificationError PyDict
  | .dict entries => .ok entries
  | _ => .error (.shape "data" "must be a Mapping")

def item (data : PyDict) (key : String) : Except SpecificationError PyValue :=
  (Dict.get? data (.str key)).elim (.error (.missing key)) .ok

def universeItems : PyValue → Except SpecificationError (List PyValue)
  | .list items => .ok items
  | .tuple items => .ok items
  | _ => .error (.shape "universe" "must be a list")

def symbolOf : PyValue → Except SpecificationError Symbol
  | .str (.scalars value) =>
      if nonBlank : PyText.isBlank value = false then .ok ⟨value, nonBlank⟩
      else .error (.malformed "Symbol.value must be a non-empty string")
  | _ => .error (.malformed "Symbol.value must be a non-empty string")

def fromSpecificationDict (data : PyValue) : Except SpecificationError CandidateSpecification := do
  let data ← mapping data
  let universeRaw ← item data "universe"
  let items ← universeItems universeRaw
  let name ← item data "candidate_name"
  let version ← item data "candidate_version"
  let candidateType ← item data "candidate_type"
  let symbols ← items.mapM symbolOf
  let featureName ← item data "feature_name"
  let featureVersion ← item data "feature_version"
  let cadenceSeconds ← item data "cadence_seconds"
  let acceptanceCriteria ← item data "acceptance_criteria"
  let parameters ← item data "parameters"
  Arguments.construct {
    name, version, candidateType, featureName, featureVersion, cadenceSeconds
    «universe» := symbols
    acceptanceCriteria, parameters }

/-- `left == right`, as the fields of a dataclass are compared. -/
def CandidateSpecification.equals (left right : CandidateSpecification) : Bool :=
  left.name = right.name && left.version = right.version &&
    left.candidateType = right.candidateType && left.universe = right.universe &&
    left.featureName = right.featureName && left.featureVersion = right.featureVersion &&
    left.cadenceSeconds = right.cadenceSeconds &&
    equal sameOrEqual (.dict left.acceptanceCriteria) (.dict right.acceptanceCriteria) &&
    equal sameOrEqual (.dict left.parameters) (.dict right.parameters)

private theorem nonEmptyText_of (name : String) (text : NonBlank) :
    nonEmptyText name (.str text.text) = .ok text := by
  rw [nonEmptyText, PyStr.scalars?, Option.bind_some, NonBlank.ofText?_text]
  rfl

private theorem validateJsonNativeMapping_of (name : String) {allowEmpty : Bool} {entries : PyDict}
    (nonempty : allowEmpty = false → entries ≠ [])
    (written : (membersOf entries).isSome = true) :
    validateJsonNativeMapping name allowEmpty (.dict entries) = .ok ⟨entries, nonempty, written⟩ :=
  (dif_pos nonempty).trans (dif_pos written)

private theorem symbolOf_of (symbol : Symbol) : symbolOf (.str symbol.value) = .ok symbol :=
  dif_pos symbol.nonBlank

private theorem mapM_symbolOf («universe» : List Symbol) :
    (textItems (universe.map Symbol.value)).mapM symbolOf = .ok «universe» := by
  apply mapM_ok.mpr
  induction «universe» with
  | nil => exact .nil
  | cons symbol symbols ih => exact .cons (symbolOf_of symbol) ih

def CandidateSpecification.withMappings (spec : CandidateSpecification) (criteria parameters : PyDict)
    (nonempty : criteria ≠ []) (criteriaWritten : (membersOf criteria).isSome = true)
    (parametersWritten : (membersOf parameters).isSome = true) : CandidateSpecification :=
  { spec with
    acceptanceCriteria := criteria
    parameters := parameters
    criteria_nonempty := nonempty
    criteria_written := criteriaWritten
    parameters_written := parametersWritten }

private theorem construct_of (spec : CandidateSpecification) {criteria parameters : PyDict}
    (nonempty : criteria ≠ []) (criteriaWritten : (membersOf criteria).isSome = true)
    (parametersWritten : (membersOf parameters).isSome = true) :
    Arguments.construct
      { name := .str spec.name.text, version := .str spec.version.text
        candidateType := .str spec.candidateType.text, «universe» := spec.universe
        featureName := .str spec.featureName.text, featureVersion := .str spec.featureVersion.text
        cadenceSeconds := .int spec.cadenceSeconds
        acceptanceCriteria := .dict criteria, parameters := .dict parameters } =
      .ok (spec.withMappings criteria parameters nonempty criteriaWritten parametersWritten) := by
  have symbols : nonEmptyUniverse spec.universe = .ok ⟨spec.universe, spec.universe_nonempty⟩ :=
    dif_pos spec.universe_nonempty
  have cadence : positiveCadence (.int spec.cadenceSeconds) =
      .ok ⟨spec.cadenceSeconds, spec.cadence_pos⟩ := dif_pos spec.cadence_pos
  have mayBeEmpty : true = false → parameters ≠ [] := Bool.noConfusion
  have parametersValid := validateJsonNativeMapping_of "parameters" mayBeEmpty parametersWritten
  unfold Arguments.construct
  dsimp only
  rw [bind_of_ok (nonEmptyText_of _ spec.name), bind_of_ok (nonEmptyText_of _ spec.version),
    bind_of_ok (nonEmptyText_of _ spec.candidateType), bind_of_ok (nonEmptyText_of _ spec.featureName),
    bind_of_ok (nonEmptyText_of _ spec.featureVersion), bind_of_ok symbols, bind_of_ok cadence,
    bind_of_ok (validateJsonNativeMapping_of _ (fun _ => nonempty) criteriaWritten),
    bind_of_ok parametersValid]
  rfl

private theorem item_of {data : PyDict} {key : String} {value : PyValue}
    (found : Dict.get? data (.str key) = some value) : item data key = .ok value := by
  rw [item, found]
  rfl

private theorem specificationDict_text (spec : CandidateSpecification) :
    ∀ entry ∈ spec.toSpecificationDict, ∃ name : JsonText, entry.1 = .str name.text := by
  simp [CandidateSpecification.toSpecificationDict]

private theorem specificationDict_nodup (spec : CandidateSpecification) :
    (spec.toSpecificationDict.map Prod.fst).Nodup := by
  simp [CandidateSpecification.toSpecificationDict]

/-- What a registry keeps of a specification is read back, with what it keeps of the criteria
and of the parameters. -/
theorem fromSpecificationDict_kept {spec : CandidateSpecification} {copied kept : PyValue}
    (isCopy : deepCopy (.dict spec.toSpecificationDict) = some copied)
    (isKept : CopyOrImage copied kept) :
    ∃ criteria parameters nonempty criteriaWritten parametersWritten,
      fromSpecificationDict kept =
        .ok (spec.withMappings criteria parameters nonempty criteriaWritten parametersWritten) ∧
      (∃ copy, deepCopy (.dict spec.acceptanceCriteria) = some copy ∧
        CopyOrImage copy (.dict criteria)) ∧
      ∃ copy, deepCopy (.dict spec.parameters) = some copy ∧ CopyOrImage copy (.dict parameters) := by
  obtain ⟨data, rfl, fields⟩ :=
    isKept.fields (specificationDict_text spec) (specificationDict_nodup spec) isCopy
  have text {name value : String}
      (found : Dict.get? spec.toSpecificationDict (.str name) = some (.str value)) :
      item data name = .ok (.str value) := by
    obtain ⟨copy, field, isFieldCopy, isFieldKept, isField⟩ := fields _ _ found
    rw [isFieldKept.str isFieldCopy rfl] at isField
    exact item_of isField
  have cadence : item data "cadence_seconds" = .ok (.int spec.cadenceSeconds) := by
    obtain ⟨copy, field, isFieldCopy, isFieldKept, isField⟩ := fields "cadence_seconds" _ rfl
    rw [isFieldKept.int isFieldCopy] at isField
    exact item_of isField
  have symbols : item data "universe" =
      .ok (.list (textItems (spec.universe.map Symbol.value))) := by
    obtain ⟨copy, field, isFieldCopy, isFieldKept, isField⟩ := fields "universe" _ rfl
    rw [isFieldKept.texts isFieldCopy] at isField
    exact item_of isField
  obtain ⟨criteriaCopy, _, isCriteriaCopy, criteriaKept, isCriteria⟩ :=
    fields "acceptance_criteria" _ rfl
  obtain ⟨parametersCopy, _, isParametersCopy, parametersKept, isParameters⟩ :=
    fields "parameters" _ rfl
  obtain ⟨criteria, rfl, criteriaSome, criteriaWritten⟩ := criteriaKept.dict isCriteriaCopy
  obtain ⟨parameters, rfl, _, parametersWritten⟩ := parametersKept.dict isParametersCopy
  refine ⟨criteria, parameters, criteriaSome spec.criteria_nonempty, criteriaWritten,
    parametersWritten, ?_, ⟨_, isCriteriaCopy, criteriaKept⟩, ⟨_, isParametersCopy, parametersKept⟩⟩
  unfold fromSpecificationDict
  rw [bind_of_ok (show mapping (.dict data) = .ok data from rfl), bind_of_ok symbols,
    bind_of_ok (show universeItems (.list _) = .ok _ from rfl), bind_of_ok (text rfl),
    bind_of_ok (text rfl), bind_of_ok (text rfl), bind_of_ok (mapM_symbolOf spec.universe),
    bind_of_ok (text rfl), bind_of_ok (text rfl), bind_of_ok cadence,
    bind_of_ok (item_of isCriteria), bind_of_ok (item_of isParameters)]
  exact construct_of spec _ _ _

structure CandidateSpecification.JsonNative (spec : CandidateSpecification) : Prop where
  criteria : Plain (.dict spec.acceptanceCriteria)
  parameters : Plain (.dict spec.parameters)

theorem specificationDict_written {spec : CandidateSpecification}
    (fewDigits : FewDigits spec.cadenceSeconds) :
    ∃ copied, deepCopy (.dict spec.toSpecificationDict) = some copied := by
  have symbols := native_texts (spec.universe.map Symbol.value)
  have cadence : Native (.int spec.cadenceSeconds) := by
    rw [Native, treeOf, intNumber?, dif_pos fewDigits]
    rfl
  have native : NativeEntries spec.toSpecificationDict := by
    simp only [CandidateSpecification.toSpecificationDict, NativeEntries, List.forall_mem_cons]
    exact ⟨⟨⟨_, rfl⟩, rfl⟩, ⟨⟨_, rfl⟩, rfl⟩, ⟨⟨_, rfl⟩, rfl⟩, ⟨⟨_, rfl⟩, symbols⟩, ⟨⟨_, rfl⟩, rfl⟩,
      ⟨⟨_, rfl⟩, rfl⟩, ⟨⟨_, rfl⟩, cadence⟩, ⟨⟨_, rfl⟩, native_dict spec.criteria_written⟩,
      ⟨⟨_, rfl⟩, native_dict spec.parameters_written⟩, List.forall_mem_nil _⟩
  obtain ⟨members, written⟩ := Option.isSome_iff_exists.mp (native_entries native)
  exact ⟨ofJson (.object members), by rw [deepCopy, treeOf, written]; rfl⟩

theorem fewDigits_of_specificationDict {spec : CandidateSpecification} {copied : PyValue}
    (isCopy : deepCopy (.dict spec.toSpecificationDict) = some copied) :
    FewDigits spec.cadenceSeconds := by
  obtain ⟨copies, _, areCopies⟩ :=
    get?_deepCopy (specificationDict_text spec) (specificationDict_nodup spec) isCopy
  obtain ⟨copy, isCadence, _⟩ := areCopies "cadence_seconds" (.int spec.cadenceSeconds) rfl
  obtain ⟨tree, written, _⟩ := Option.map_eq_some_iff.mp isCadence
  obtain ⟨number, isNumber, _⟩ := Option.map_eq_some_iff.mp written
  exact fewDigits_of_intNumber? isNumber

theorem plain_specificationDict {spec : CandidateSpecification} (native : spec.JsonNative)
    (fewDigits : FewDigits spec.cadenceSeconds) : Plain (.dict spec.toSpecificationDict) := by
  refine plain_dict_iff.mpr ⟨fun entry member => ⟨specificationDict_text spec entry member, ?_⟩,
    specificationDict_nodup spec⟩
  revert entry
  simp only [CandidateSpecification.toSpecificationDict, List.forall_mem_cons]
  exact ⟨rfl, rfl, rfl, plain_texts _, rfl, rfl, fewDigits, native.criteria, native.parameters,
    List.forall_mem_nil _⟩

theorem equal_kept_iff {value copied kept : PyValue}
    (isCopy : deepCopy value = some copied) (isKept : CopyOrImage copied kept) :
    equal sameOrEqual kept value = true ↔ Plain value := by
  rw [isKept.equal_eq (plain_deepCopy isCopy), equal_copy_iff isCopy]

/-- What is read back of a kept specification is equal to it exactly where a copy changes
nothing. -/
theorem equals_kept_iff {spec : CandidateSpecification} {copied kept : PyValue}
    (isCopy : deepCopy (.dict spec.toSpecificationDict) = some copied)
    (isKept : CopyOrImage copied kept) :
    (∃ back, fromSpecificationDict kept = .ok back ∧ back.equals spec = true) ↔
      spec.JsonNative := by
  obtain ⟨criteria, parameters, nonempty, criteriaWritten, parametersWritten, read,
    ⟨_, isCriteriaCopy, criteriaKept⟩, ⟨_, isParametersCopy, parametersKept⟩⟩ :=
      fromSpecificationDict_kept isCopy isKept
  have criteriaEqual := equal_kept_iff isCriteriaCopy criteriaKept
  have parametersEqual := equal_kept_iff isParametersCopy parametersKept
  constructor
  · intro survived
    obtain ⟨back, isBack, same⟩ := survived
    rw [read] at isBack
    cases isBack
    rw [CandidateSpecification.equals, Bool.and_eq_true, Bool.and_eq_true] at same
    obtain ⟨⟨_, sameCriteria⟩, sameParameters⟩ := same
    exact { criteria := criteriaEqual.mp sameCriteria
            parameters := parametersEqual.mp sameParameters }
  · intro native
    refine ⟨_, read, ?_⟩
    rw [CandidateSpecification.equals, Bool.and_eq_true, Bool.and_eq_true]
    refine ⟨⟨?_, criteriaEqual.mpr native.criteria⟩, parametersEqual.mpr native.parameters⟩
    simp [CandidateSpecification.withMappings]

end TurtleExecution.Candidates

/-
Records that have been written and read back answer every query alike.

Reading back changes only the order of the items in the dictionaries of a record, and
no query looks at that.
-/

import TurtleExecution.Registry.Queries
import TurtleExecution.Registry.Replay

set_option autoImplicit false

namespace TurtleExecution.Registry

open PyValue

/-- Two records that differ at most in the order of items in their dictionaries. -/
structure SameRecord (live rebuilt : Record) : Prop where
  fields : rebuilt =
    { live with
      specification := rebuilt.specification
      evidence := rebuilt.evidence
      governanceDecision := rebuilt.governanceDecision }
  specification : alike live.specification rebuilt.specification = true
  evidence : alike live.evidence rebuilt.evidence = true
  governanceDecision : alike live.governanceDecision rebuilt.governanceDecision = true

def Image (value image : PyValue) : Prop :=
  Plain value ∧ reread value = some image

variable {value image : PyValue}

theorem Image.copy (isImage : Image value image) :
    copy value = .ok value ∧ copy image = .ok image :=
  ⟨copy_of (plain_copy isImage.1), copy_of (plain_copy (plain_reread isImage.2))⟩

theorem image_none : Image .none .none := ⟨trivial, rfl⟩

theorem Image.atom (isImage : Image value image) (atom : isAtom value = true) : image = value := by
  obtain ⟨plain, read⟩ := isImage
  obtain ⟨tree, written, rfl⟩ := Option.map_eq_some_iff.mp read
  exact plain_atom atom plain written

private theorem Image.shape (isImage : Image value image) :
    Registry.isNone value = Registry.isNone image ∧
      Registry.isMapping value = Registry.isMapping image := by
  cases value with
  | list items =>
      obtain ⟨tree, written, rfl⟩ := Option.map_eq_some_iff.mp isImage.2
      obtain ⟨trees, _, rfl⟩ := Option.map_eq_some_iff.mp written
      exact ⟨rfl, rfl⟩
  | tuple items => exact isImage.1.elim
  | dict entries =>
      obtain ⟨members, _, _, sorted⟩ := reread_dict isImage.1
      rw [isImage.2] at sorted
      cases sorted
      exact ⟨rfl, rfl⟩
  | _ =>
      rw [isImage.atom rfl]
      exact ⟨rfl, rfl⟩

theorem Image.isNone (isImage : Image value image) : isNone value = isNone image :=
  isImage.shape.1

theorem Image.isMapping (isImage : Image value image) : isMapping value = isMapping image :=
  isImage.shape.2

structure Imaged (live rebuilt : Record) : Prop where
  fields : rebuilt =
    { live with
      specification := rebuilt.specification
      evidence := rebuilt.evidence
      governanceDecision := rebuilt.governanceDecision }
  specification : Image live.specification rebuilt.specification
  evidence : Image live.evidence rebuilt.evidence
  governanceDecision : Image live.governanceDecision rebuilt.governanceDecision

theorem Imaged.same {live rebuilt : Record} (imaged : Imaged live rebuilt) :
    SameRecord live rebuilt :=
  { fields := imaged.fields
    specification := alike_reread imaged.specification.1 imaged.specification.2
    evidence := alike_reread imaged.evidence.1 imaged.evidence.2
    governanceDecision := alike_reread imaged.governanceDecision.1 imaged.governanceDecision.2 }

/-- The records of a live registry, and those that a replay leads to. -/
abbrev AllImaged (live rebuilt : Records) : Prop :=
  Dict.Related Imaged live rebuilt

/-- Both raise the same error, or both answer, with results that are the same. -/
def Agree {Value Other : Type} (same : Value → Other → Prop) :
    Except RegistryError Value → Except RegistryError Other → Prop
  | .ok left, .ok right => same left right
  | .error left, .error right => left = right
  | _, _ => False

section

variable {Value Other Next Last : Type} {same : Value → Other → Prop} {then_ : Next → Last → Prop}

theorem Agree.bind {left : Except RegistryError Value} {right : Except RegistryError Other}
    {next : Value → Except RegistryError Next} {last : Other → Except RegistryError Last}
    (agree : Agree same left right)
    (rest : ∀ value other, same value other → Agree then_ (next value) (last other)) :
    Agree then_ (left >>= next) (right >>= last) := by
  cases left with
  | error error =>
      cases right with
      | error other => exact agree
      | ok other => exact agree.elim
  | ok value =>
      cases right with
      | error other => exact agree.elim
      | ok other => exact rest value other agree

private theorem agree_refl (result : Except RegistryError Value) : Agree Eq result result := by
  cases result <;> rfl

private theorem agree_bind (first : Except RegistryError Value)
    {next : Value → Except RegistryError Next}
    {last : Value → Except RegistryError Last} (rest : ∀ value, Agree then_ (next value) (last value)) :
    Agree then_ (first >>= next) (first >>= last) :=
  (agree_refl first).bind fun value _ same => same ▸ rest value

end

structure SameAnswers (live rebuilt : Records) : Prop where
  records : Dict.Related SameRecord live rebuilt
  count : live.length = rebuilt.length
  «exists» : ∀ experimentId, Registry.exists live experimentId = Registry.exists rebuilt experimentId
  get : ∀ experimentId, Agree SameRecord (get live experimentId) (get rebuilt experimentId)
  evidence : ∀ experimentId, Agree (fun left right => alike left right = true)
    (getEvidence live experimentId) (getEvidence rebuilt experimentId)
  decision : ∀ experimentId, Agree (fun left right => alike left right = true)
    (getGovernanceDecision live experimentId) (getGovernanceDecision rebuilt experimentId)
  list : ∀ isSealed state, Agree (List.Forall₂ SameRecord)
    (listExperiments live isSealed state) (listExperiments rebuilt isSealed state)
  roots : Agree (List.Forall₂ SameRecord) (getRoots live) (getRoots rebuilt)
  children : ∀ experimentId, Agree (List.Forall₂ SameRecord) (getChildren live experimentId)
    (getChildren rebuilt experimentId)
  ancestors : ∀ experimentId, Agree (List.Forall₂ SameRecord) (getAncestors live experimentId)
    (getAncestors rebuilt experimentId)
  descendants : ∀ experimentId, Agree (List.Forall₂ SameRecord) (getDescendants live experimentId)
    (getDescendants rebuilt experimentId)
  fingerprint : ∀ fingerprint, Agree (List.Forall₂ SameRecord) (findByFingerprint live fingerprint)
    (findByFingerprint rebuilt fingerprint)
  field : ∀ atoms name value, Agree (List.Forall₂ SameRecord)
    (findBySpecificationField atoms live name value)
    (findBySpecificationField atoms rebuilt name value)

section

variable {live rebuilt : Records}

private theorem snapshotOf_agree (imaged : AllImaged live rebuilt) (id : PyKey) :
    Agree SameRecord (snapshotOf live id) (snapshotOf rebuilt id) := by
  unfold snapshotOf
  rcases imaged.get? id with ⟨unknown, alsoUnknown⟩ | ⟨record, image, found, foundImage, pair⟩
  · rw [unknown, alsoUnknown]
    rfl
  · rw [found, foundImage]
    obtain ⟨specification, evidence, decision, rfl⟩ :
        ∃ specification evidence decision, image =
          { record with specification, evidence, governanceDecision := decision } :=
      ⟨_, _, _, pair.fields⟩
    obtain ⟨copied, copiedImage⟩ := pair.specification.copy
    dsimp only
    refine agree_bind _ fun _ => agree_bind _ fun _ => agree_bind _ fun _ => ?_
    rw [bind_of_ok copied, bind_of_ok copiedImage, ← pair.specification.isMapping]
    refine agree_bind _ fun _ => agree_bind _ fun _ => agree_bind _ fun _ => agree_bind _ fun _ =>
      agree_bind _ fun _ => ?_
    exact pair.same

private theorem snapshotsOf_agree (imaged : AllImaged live rebuilt) (ids : List PyKey) :
    Agree (List.Forall₂ SameRecord) (snapshotsOf live ids) (snapshotsOf rebuilt ids) := by
  induction ids with
  | nil => exact List.Forall₂.nil
  | cons id ids ih =>
      apply (snapshotOf_agree imaged id).bind
      intro first firstImage same
      apply ih.bind
      intro rest restImages others
      exact List.Forall₂.cons same others

private theorem requireKnown_agree (imaged : AllImaged live rebuilt) (experimentId : PyStr) :
    Agree Imaged (requireKnown live experimentId) (requireKnown rebuilt experimentId) := by
  unfold requireKnown
  rcases imaged.get? (.str experimentId) with
    ⟨unknown, alsoUnknown⟩ | ⟨record, image, found, foundImage, pair⟩
  · rw [unknown, alsoUnknown]
    rfl
  · rw [found, foundImage]
    exact pair

private theorem copyOrNone_agree {value image : PyValue} (isImage : Image value image) :
    Agree (fun left right => alike left right = true) (copyOrNone value) (copyOrNone image) := by
  obtain ⟨copied, copiedImage⟩ := isImage.copy
  unfold copyOrNone
  rw [← isImage.isNone, copied, copiedImage]
  cases isNone value with
  | true => exact plain_alike (trivial : Plain .none)
  | false => exact alike_reread isImage.1 isImage.2

private theorem sortKey?_eq (imaged : AllImaged live rebuilt) (id : PyKey) :
    sortKey? live id = sortKey? rebuilt id := by
  unfold sortKey?
  rcases imaged.get? id with ⟨unknown, alsoUnknown⟩ | ⟨record, image, found, foundImage, pair⟩
  · rw [unknown, alsoUnknown]
  · rw [found, foundImage, Option.map_some, Option.map_some, pair.fields]

private theorem sortedIds_eq (imaged : AllImaged live rebuilt) (ids : List PyKey) :
    sortedIds live ids = sortedIds rebuilt ids := by
  have same : sortKey? live = sortKey? rebuilt := funext (sortKey?_eq imaged)
  unfold sortedIds
  rw [same]

theorem sortedIds_perm {records : Records} {ids sorted : List PyKey} (isSorted : sortedIds records ids = .ok sorted) :
    sorted.Perm ids := by
  unfold sortedIds at isSorted
  split at isSorted
  · cases isSorted
    exact List.perm_insertionSort _ ids
  · cases isSorted

private theorem idsWhere_eq (imaged : AllImaged live rebuilt) {accepts : PyKey → Record → Bool}
    (blind : ∀ id record image, Imaged record image → accepts id record = accepts id image) :
    idsWhere live accepts = idsWhere rebuilt accepts := by
  have selected : (live.filter fun item => accepts item.1 item.2).map Prod.fst =
      (rebuilt.filter fun item => accepts item.1 item.2).map Prod.fst := by
    induction imaged with
    | nil => rfl
    | @cons item image _ _ pair _ ih =>
        obtain ⟨sameId, isImaged⟩ := pair
        rw [List.filter_cons, List.filter_cons, ← sameId, ← blind item.1 item.2 image.2 isImaged]
        cases accepts item.1 item.2 with
        | true =>
            rw [if_pos rfl, if_pos rfl, List.map_cons, List.map_cons, ih, sameId]
        | false =>
            rw [if_neg Bool.false_ne_true, if_neg Bool.false_ne_true, ih]
  unfold idsWhere
  rw [selected, sortedIds_eq imaged]

private theorem recordsWhere_agree (imaged : AllImaged live rebuilt) {accepts : PyKey → Record → Bool}
    (blind : ∀ id record image, Imaged record image → accepts id record = accepts id image) :
    Agree (List.Forall₂ SameRecord) (recordsWhere live accepts) (recordsWhere rebuilt accepts) := by
  unfold recordsWhere
  rw [idsWhere_eq imaged blind]
  exact agree_bind _ fun ids => snapshotsOf_agree imaged ids

private theorem childrenOf_eq (imaged : AllImaged live rebuilt) :
    childrenOf live = childrenOf rebuilt := by
  funext id
  apply idsWhere_eq imaged
  intro other record image pair
  rw [pair.fields]

private theorem parentOf_eq (imaged : AllImaged live rebuilt) : parentOf live = parentOf rebuilt := by
  funext id
  unfold parentOf
  rcases imaged.get? id with ⟨unknown, alsoUnknown⟩ | ⟨record, image, found, foundImage, pair⟩
  · rw [unknown, alsoUnknown]
  · rw [found, foundImage, Option.map_some, Option.map_some, pair.fields]

private theorem hasField_eq {atoms : PyValue → PyValue → Bool} {name : PyStr}
    {value held image : PyValue}
    (isImage : Image held image) : hasField atoms name value held = hasField atoms name value image := by
  have kind := isImage.isMapping
  cases held with
  | dict entries =>
      cases image with
      | dict images =>
          rw [hasField, hasField, get?_reread isImage.1 isImage.2]
          cases found : Dict.get? entries (.str name) with
          | none => rfl
          | some field =>
              have plain : Plain field :=
                ((plain_dict_iff.mp isImage.1).1 _ (Dict.mem_of_get? found)).2
              obtain ⟨tree, written⟩ := plain_toJson plain
              have read : reread field = some (ofJson tree) := by rw [reread, written]; rfl
              rw [Option.bind_some, read, Option.any_some, Option.any_some, equal_reread plain read]
      | _ => cases kind
  | _ =>
      cases image with
      | dict images => cases kind
      | _ => rfl

theorem sameAnswers_of_imaged (imaged : AllImaged live rebuilt) : SameAnswers live rebuilt := by
  constructor
  case records => exact imaged.imp fun _ _ pair => ⟨pair.1, pair.2.same⟩
  case count => exact imaged.length_eq
  case «exists» =>
    intro experimentId
    unfold Registry.exists
    rcases imaged.get? (.str experimentId) with
      ⟨unknown, alsoUnknown⟩ | ⟨record, image, found, foundImage, _⟩
    · rw [unknown, alsoUnknown]
    · rw [found, foundImage]
      rfl
  case get => exact fun experimentId => snapshotOf_agree imaged _
  case evidence =>
    intro experimentId
    exact (requireKnown_agree imaged experimentId).bind fun _ _ pair => copyOrNone_agree pair.evidence
  case decision =>
    intro experimentId
    exact (requireKnown_agree imaged experimentId).bind fun _ _ pair =>
      copyOrNone_agree pair.governanceDecision
  case list =>
    intro isSealed state
    apply recordsWhere_agree imaged
    intro id record image pair
    rw [pair.fields]
  case roots =>
    apply recordsWhere_agree imaged
    intro id record image pair
    rw [pair.fields]
  case children =>
    intro experimentId
    apply (requireKnown_agree imaged experimentId).bind
    intro _ _ _
    rw [childrenOf_eq imaged]
    exact agree_bind _ fun ids => snapshotsOf_agree imaged ids
  case ancestors =>
    intro experimentId
    apply (requireKnown_agree imaged experimentId).bind
    intro record image pair
    rw [parentOf_eq imaged, imaged.keys_eq, show image.parentId = record.parentId by rw [pair.fields]]
    exact agree_bind _ fun chain => snapshotsOf_agree imaged chain.reverse
  case descendants =>
    intro experimentId
    apply (requireKnown_agree imaged experimentId).bind
    intro _ _ _
    rw [childrenOf_eq imaged, imaged.keys_eq]
    exact agree_bind _ fun ids => snapshotsOf_agree imaged ids
  case fingerprint =>
    intro fingerprint
    unfold findByFingerprint
    split
    · rfl
    · apply recordsWhere_agree imaged
      intro id record image pair
      rw [pair.fields]
  case field =>
    intro atoms name value
    unfold findBySpecificationField
    split
    · rfl
    · apply recordsWhere_agree imaged
      intro id record image pair
      exact hasField_eq pair.specification

end

end TurtleExecution.Registry

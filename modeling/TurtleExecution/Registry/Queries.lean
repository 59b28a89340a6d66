/-
The queries of the experiment registry.

A query reads the records only.  What a walk has not visited yet is a list that becomes
shorter, so both walks end.
-/

import TurtleExecution.Foundation.JsonNative
import TurtleExecution.Registry.Registry

set_option autoImplicit false

namespace TurtleExecution.Registry

def snapshotsOf (records : Records) : List PyKey → Except RegistryError (List Record)
  | [] => .ok []
  | id :: ids => do
      let first ← snapshotOf records id
      let rest ← snapshotsOf records ids
      return first :: rest

def sortKey? (records : Records) (id : PyKey) : Option (PyStr × PyStr) :=
  match (Dict.get? records id).map Record.createdAtUtc, id with
  | some (.str createdAtUtc), .str experimentId => some (createdAtUtc, experimentId)
  | _, _ => none

/-- `_sorted_ids`; ids or times that are no texts are taken to raise where they are compared. -/
def sortedIds (records : Records) (ids : List PyKey) : Except RegistryError (List PyKey) :=
  if ids.length ≤ 1 ∨ ∀ id ∈ ids, (sortKey? records id).isSome = true then
    .ok (ids.insertionSort fun left right =>
      TextPairLe ((sortKey? records left).getD ("", "")) ((sortKey? records right).getD ("", "")))
  else .error .typeError

def idsWhere (records : Records) (accepts : PyKey → Record → Bool) :
    Except RegistryError (List PyKey) :=
  sortedIds records ((records.filter fun item => accepts item.1 item.2).map Prod.fst)

def recordsWhere (records : Records) (accepts : PyKey → Record → Bool) :
    Except RegistryError (List Record) := do
  let ids ← idsWhere records accepts
  snapshotsOf records ids

def requireKnown (records : Records) (experimentId : PyStr) : Except RegistryError Record :=
  match Dict.get? records (.str experimentId) with
  | some record => .ok record
  | none => .error .experimentNotFound

def copyOrNone (value : PyValue) : Except RegistryError PyValue :=
  if isNone value then .ok .none else copy value

def getGovernanceDecision (records : Records) (experimentId : PyStr) :
    Except RegistryError PyValue := do
  let record ← requireKnown records experimentId
  copyOrNone record.governanceDecision

def getEvidence (records : Records) (experimentId : PyStr) : Except RegistryError PyValue := do
  let record ← requireKnown records experimentId
  copyOrNone record.evidence

def «exists» (records : Records) (experimentId : PyStr) : Bool :=
  (Dict.get? records (.str experimentId)).isSome

def get (records : Records) (experimentId : PyStr) : Except RegistryError Record :=
  snapshotOf records (.str experimentId)

def listExperiments (records : Records) (isSealed : Option Bool) (state : Option LifecycleState) :
    Except RegistryError (List Record) :=
  recordsWhere records fun _ record =>
    isSealed.all (fun isSealed => record.isSealed = isSealed) &&
      state.all fun state => record.lifecycleState = state

def getRoots (records : Records) : Except RegistryError (List Record) :=
  recordsWhere records fun _ record => isNone record.parentId

def childrenOf (records : Records) (id : PyKey) : Except RegistryError (List PyKey) :=
  idsWhere records fun _ record => hashKey? record.parentId = some id

def getChildren (records : Records) (experimentId : PyStr) : Except RegistryError (List Record) := do
  let _known ← requireKnown records experimentId
  let ids ← childrenOf records (.str experimentId)
  snapshotsOf records ids

def isTextOf (text : PyStr) : PyValue → Bool
  | .str value => value = text
  | _ => false

def findByFingerprint (records : Records) (fingerprint : PyStr) :
    Except RegistryError (List Record) :=
  if fingerprint.isBlank then .error .valueError
  else recordsWhere records fun _ record => isTextOf fingerprint record.fingerprint

def hasField (atoms : PyValue → PyValue → Bool) (name : PyStr) (value : PyValue) :
    PyValue → Bool
  | .dict entries => (Dict.get? entries (.str name)).any fun held => PyValue.equal atoms held value
  | _ => false

def findBySpecificationField (atoms : PyValue → PyValue → Bool) (records : Records) (name : PyStr)
    (value : PyValue) : Except RegistryError (List Record) :=
  if name.isBlank then .error .valueError
  else recordsWhere records fun _ record => hasField atoms name value record.specification

/-- The parents from one on, the nearest first; `remaining` has the ids that were not
visited. -/
def ancestorsFrom (parentOf : PyKey → Option PyValue) (remaining : List PyKey) (current : PyValue) :
    Except RegistryError (List PyKey) :=
  if isNone current then .ok []
  else
    match hashKey? current with
    | none => .error .typeError
    | some id =>
        if _unvisited : id ∈ remaining then
          match parentOf id with
          | none => .error .malformedRegistryLog
          | some parent => do
              let rest ← ancestorsFrom parentOf (remaining.erase id) parent
              return id :: rest
        else .error .malformedRegistryLog
  termination_by remaining.length
  decreasing_by
    rw [List.length_erase_of_mem _unvisited]
    have present := List.length_pos_of_mem _unvisited
    omega

def parentOf (records : Records) (id : PyKey) : Option PyValue :=
  (Dict.get? records id).map Record.parentId

def getAncestors (records : Records) (experimentId : PyStr) :
    Except RegistryError (List Record) := do
  let record ← requireKnown records experimentId
  let chain ← ancestorsFrom (parentOf records) (records.keys.erase (.str experimentId))
    record.parentId
  snapshotsOf records chain.reverse

/-- What remains once the children are visited; none of them was visited before. -/
def visitAll : List PyKey → List PyKey → Except RegistryError (List PyKey)
  | remaining, [] => .ok remaining
  | remaining, child :: children =>
      if child ∈ remaining then visitAll (remaining.erase child) children
      else .error .malformedRegistryLog

private theorem length_visitAll {remaining children left : List PyKey}
    (visited : visitAll remaining children = .ok left) :
    left.length + children.length = remaining.length := by
  induction children generalizing remaining with
  | nil =>
      cases visited
      rfl
  | cons child children ih =>
      rw [visitAll] at visited
      split at visited
      · rename_i unvisited
        have later := ih visited
        rw [List.length_erase_of_mem unvisited] at later
        have present := List.length_pos_of_mem unvisited
        rw [List.length_cons]
        omega
      · cases visited

/-- Breadth first, the ids below the frontier, in the order in which they are found. -/
def descendantsFrom (children : PyKey → Except RegistryError (List PyKey)) (remaining : List PyKey) :
    List PyKey → Except RegistryError (List PyKey)
  | [] => .ok []
  | current :: frontier =>
      match children current with
      | .error error => .error error
      | .ok found =>
          match _visited : visitAll remaining found with
          | .error error => .error error
          | .ok left => do
              let rest ← descendantsFrom children left (frontier ++ found)
              return found ++ rest
  termination_by frontier => 2 * remaining.length + frontier.length
  decreasing_by
    have lengths := length_visitAll _visited
    rw [List.length_append, List.length_cons]
    omega

def getDescendants (records : Records) (experimentId : PyStr) :
    Except RegistryError (List Record) := do
  let _known ← requireKnown records experimentId
  let ids ← descendantsFrom (childrenOf records) (records.keys.erase (.str experimentId))
    [.str experimentId]
  snapshotsOf records ids

end TurtleExecution.Registry

/-
The walks through a lineage: up the chain of parents, and down breadth first.

Where every record on the way can be shown, both walks return, and they agree.
-/

import Mathlib.Data.List.Chain
import TurtleExecution.Registry.Lineage

set_option autoImplicit false

namespace TurtleExecution.Registry

open Process ExperimentRegistry Forest

structure Visited (remaining children left : List PyKey) : Prop where
  childrenNodup : children.Nodup
  remained : ∀ id ∈ children, id ∈ remaining
  leftNodup : left.Nodup
  mem_left : ∀ id, id ∈ left ↔ id ∈ remaining ∧ id ∉ children

private theorem visitAll_ok {remaining children left : List PyKey} (nodup : remaining.Nodup)
    (visited : visitAll remaining children = .ok left) : Visited remaining children left := by
  induction children generalizing remaining with
  | nil =>
      cases visited
      exact { childrenNodup := List.nodup_nil, remained := nofun, leftNodup := nodup
              mem_left := fun id => by simp }
  | cons child children ih =>
      rw [visitAll] at visited
      split at visited
      · rename_i unvisited
        have rest := ih (nodup.erase child) visited
        have mem_erase : ∀ id, id ∈ remaining.erase child ↔ id ≠ child ∧ id ∈ remaining :=
          fun id => nodup.mem_erase_iff
        refine { childrenNodup := List.nodup_cons.mpr ⟨fun again => ?_, rest.childrenNodup⟩
                 remained := fun id member => ?_
                 leftNodup := rest.leftNodup
                 mem_left := fun id => ?_ }
        · exact ((mem_erase child).mp (rest.remained child again)).1 rfl
        · rcases List.mem_cons.mp member with rfl | later
          · exact unvisited
          · exact ((mem_erase id).mp (rest.remained id later)).2
        · rw [rest.mem_left, mem_erase, List.mem_cons, not_or]
          constructor
          · rintro ⟨⟨different, member⟩, other⟩
            exact ⟨member, different, other⟩
          · rintro ⟨member, different, other⟩
            exact ⟨⟨different, member⟩, other⟩
      · cases visited

private theorem visitAll_returns {remaining children : List PyKey} (nodup : children.Nodup)
    (remained : ∀ id ∈ children, id ∈ remaining) : ∃ left, visitAll remaining children = .ok left := by
  induction children generalizing remaining with
  | nil => exact ⟨remaining, rfl⟩
  | cons child children ih =>
      obtain ⟨notAgain, nodupRest⟩ := List.nodup_cons.mp nodup
      rw [visitAll, if_pos (remained child List.mem_cons_self)]
      refine ih nodupRest fun id member => ?_
      have different : id ≠ child := by
        rintro rfl
        exact notAgain member
      exact (List.mem_erase_of_ne different).mpr (remained id (List.mem_cons_of_mem _ member))

section

variable {children : PyKey → Except RegistryError (List PyKey)}

private theorem descendantsFrom_cons {remaining frontier found left : List PyKey} {current : PyKey}
    (isFound : children current = .ok found) (visited : visitAll remaining found = .ok left) :
    descendantsFrom children remaining (current :: frontier) =
      (do
        let rest ← descendantsFrom children left (frontier ++ found)
        return found ++ rest) := by
  rw [descendantsFrom, isFound]
  dsimp only
  split
  · rename_i error refused
    rw [visited] at refused
    cases refused
  · rename_i other again
    rw [visited] at again
    cases again
    rfl

/-- A walk that returns: from the frontier, with these ids not visited, it finds those. -/
inductive Walk (children : PyKey → Except RegistryError (List PyKey)) :
    List PyKey → List PyKey → List PyKey → Prop
  | done (remaining : List PyKey) : Walk children remaining [] []
  | visit {remaining frontier found left rest : List PyKey} {current : PyKey}
      (isFound : children current = .ok found) (visited : visitAll remaining found = .ok left)
      (walk : Walk children left (frontier ++ found) rest) :
      Walk children remaining (current :: frontier) (found ++ rest)

variable {remaining frontier ids : List PyKey}

private theorem walk_of_ok (walked : descendantsFrom children remaining frontier = .ok ids) :
    Walk children remaining frontier ids := by
  induction remaining, frontier using descendantsFrom.induct children generalizing ids with
  | case1 remaining =>
      rw [descendantsFrom] at walked
      cases walked
      exact .done remaining
  | case2 remaining current frontier error refused =>
      rw [descendantsFrom, refused] at walked
      cases walked
  | case3 remaining current frontier found isFound error refused =>
      rw [descendantsFrom, isFound] at walked
      dsimp only at walked
      split at walked
      · cases walked
      · rename_i left visited
        rw [refused] at visited
        cases visited
  | case4 remaining current frontier found isFound left visited ih =>
      rw [descendantsFrom_cons isFound visited] at walked
      obtain ⟨rest, isRest, same⟩ := ok_of_bind walked
      cases same
      exact .visit isFound visited (ih isRest)

def IsChild (children : PyKey → Except RegistryError (List PyKey)) (above id : PyKey) : Prop :=
  ∃ found, children above = .ok found ∧ id ∈ found

theorem Walk.closed (walk : Walk children remaining frontier ids) :
    ∀ above ∈ frontier ++ ids, ∃ found, children above = .ok found ∧ ∀ id ∈ found, id ∈ ids := by
  induction walk with
  | done remaining => nofun
  | @visit remaining frontier found left rest current isFound visited _ ih =>
      intro above member
      rw [List.cons_append, List.mem_cons, ← List.append_assoc] at member
      rcases member with rfl | later
      · exact ⟨found, isFound, fun id isChild => List.mem_append_left _ isChild⟩
      · obtain ⟨others, isOthers, inRest⟩ := ih above later
        exact ⟨others, isOthers, fun id isChild => List.mem_append_right _ (inRest id isChild)⟩

theorem Walk.sound (walk : Walk children remaining frontier ids) :
    ∀ id ∈ ids, ∃ above ∈ frontier, Relation.TransGen (IsChild children) above id := by
  induction walk with
  | done remaining => nofun
  | @visit remaining frontier found left rest current isFound visited _ ih =>
      have direct {id : PyKey} (isChild : id ∈ found) : IsChild children current id :=
        ⟨found, isFound, isChild⟩
      intro id member
      rcases List.mem_append.mp member with isChild | later
      · exact ⟨current, List.mem_cons_self, .single (direct isChild)⟩
      · obtain ⟨above, inFrontier, below⟩ := ih id later
        rcases List.mem_append.mp inFrontier with old | isChild
        · exact ⟨above, List.mem_cons_of_mem _ old, below⟩
        · exact ⟨current, List.mem_cons_self, .head (direct isChild) below⟩

theorem Walk.nodup (walk : Walk children remaining frontier ids) (nodup : remaining.Nodup) :
    ids.Nodup ∧ ∀ id ∈ ids, id ∈ remaining := by
  induction walk with
  | done remaining => exact ⟨List.nodup_nil, nofun⟩
  | @visit remaining frontier found left rest current isFound visited _ ih =>
      have visits := visitAll_ok nodup visited
      obtain ⟨restNodup, fromLeft⟩ := ih visits.leftNodup
      constructor
      · refine List.nodup_append.mpr ⟨visits.childrenNodup, restNodup, ?_⟩
        rintro id isChild other later rfl
        exact ((visits.mem_left id).mp (fromLeft id later)).2 isChild
      · intro id member
        rcases List.mem_append.mp member with isChild | later
        · exact visits.remained id isChild
        · exact ((visits.mem_left id).mp (fromLeft id later)).1

/-- A frontier of a forest: no node of it is below another one, and nothing below was visited. -/
structure Front (children : PyKey → Except RegistryError (List PyKey))
    (parent : PyKey → Option PyKey) (remaining frontier : List PyKey) : Prop where
  remainingNodup : remaining.Nodup
  nodup : frontier.Nodup
  apart : ∀ id ∈ frontier, ∀ other ∈ frontier, ¬ Above parent id other
  unvisited : ∀ above ∈ frontier, ∀ id, Above parent above id → id ∈ remaining
  listed : ∀ above ∈ frontier, ∀ id, id = above ∨ Above parent above id →
    ∃ found, children id = .ok found ∧ found.Nodup ∧
      ∀ child, child ∈ found ↔ parent child = some id

theorem Front.step {parent : PyKey → Option PyKey} (ranked : Ranked parent)
    {remaining frontier found left : List PyKey} {current : PyKey}
    (front : Front children parent remaining (current :: frontier))
    (isFound : children current = .ok found) (visited : visitAll remaining found = .ok left) :
    Front children parent left (frontier ++ found) := by
  obtain ⟨_, again, foundNodup, mem_found⟩ :=
    front.listed current List.mem_cons_self current (Or.inl rfl)
  rw [isFound] at again
  cases again
  have visits := visitAll_ok front.remainingNodup visited
  obtain ⟨notCurrent, frontierNodup⟩ := List.nodup_cons.mp front.nodup
  have later {id : PyKey} (member : id ∈ frontier) : id ∈ current :: frontier :=
    List.mem_cons_of_mem _ member
  have child {id : PyKey} (isChild : id ∈ found) : Above parent current id :=
    above_of_parent ((mem_found id).mp isChild)
  -- what is above a child is the current node, or above it
  have above_child {above id : PyKey} (isChild : id ∈ found) (isAbove : Above parent above id) :
      above = current ∨ Above parent above current := by
    obtain ⟨direct, isParent, reached⟩ := above_iff.mp isAbove
    rw [(mem_found id).mp isChild] at isParent
    cases isParent
    exact reached
  have not_above_child {id : PyKey} (member : id ∈ frontier) {other : PyKey}
      (isChild : other ∈ found) : ¬ Above parent id other := by
    intro isAbove
    rcases above_child isChild isAbove with rfl | isAbove
    · exact notCurrent member
    · exact front.apart id (later member) current List.mem_cons_self isAbove
  have child_not_found {id other : PyKey} (isChild : id ∈ found)
      (below : Above parent id other) : other ∉ found := by
    intro alsoChild
    rcases above_child alsoChild below with rfl | isAbove
    · exact ranked.not_above_self id (child isChild)
    · exact ranked.not_above_self current ((child isChild).trans isAbove)
  refine { remainingNodup := visits.leftNodup, nodup := ?_, apart := ?_, unvisited := ?_,
           listed := ?_ }
  · refine List.nodup_append.mpr ⟨frontierNodup, foundNodup, ?_⟩
    rintro id member other isChild rfl
    exact front.apart current List.mem_cons_self id (later member) (child isChild)
  · intro id member other otherMember isAbove
    rcases List.mem_append.mp member with old | isChild
    · rcases List.mem_append.mp otherMember with otherOld | otherChild
      · exact front.apart id (later old) other (later otherOld) isAbove
      · exact not_above_child old otherChild isAbove
    · rcases List.mem_append.mp otherMember with otherOld | otherChild
      · exact front.apart current List.mem_cons_self other (later otherOld)
          ((child isChild).trans isAbove)
      · exact child_not_found isChild isAbove otherChild
  · intro above member id isAbove
    rw [visits.mem_left]
    rcases List.mem_append.mp member with old | isChild
    · exact ⟨front.unvisited above (later old) id isAbove, fun isChild =>
        not_above_child old isChild isAbove⟩
    · exact ⟨front.unvisited current List.mem_cons_self id ((child isChild).trans isAbove),
        child_not_found isChild isAbove⟩
  · intro above member id reached
    rcases List.mem_append.mp member with old | isChild
    · exact front.listed above (later old) id reached
    · refine front.listed current List.mem_cons_self id (Or.inr ?_)
      rcases reached with rfl | isAbove
      · exact child isChild
      · exact (child isChild).trans isAbove

private theorem descendantsFrom_returns {parent : PyKey → Option PyKey} (ranked : Ranked parent)
    {remaining frontier : List PyKey} (front : Front children parent remaining frontier) :
    ∃ ids, descendantsFrom children remaining frontier = .ok ids := by
  induction remaining, frontier using descendantsFrom.induct children with
  | case1 remaining => exact ⟨[], by rw [descendantsFrom]⟩
  | case2 remaining current frontier error refused =>
      obtain ⟨found, isFound, _⟩ := front.listed current List.mem_cons_self current (Or.inl rfl)
      rw [refused] at isFound
      cases isFound
  | case3 remaining current frontier found isFound error refused =>
      obtain ⟨_, again, nodup, mem_found⟩ :=
        front.listed current List.mem_cons_self current (Or.inl rfl)
      rw [isFound] at again
      cases again
      obtain ⟨left, visited⟩ := @visitAll_returns remaining found nodup fun id isChild =>
        front.unvisited current List.mem_cons_self id
          (above_of_parent ((mem_found id).mp isChild))
      rw [refused] at visited
      cases visited
  | case4 remaining current frontier found isFound left visited ih =>
      obtain ⟨rest, walked⟩ := ih (front.step ranked isFound visited)
      exact ⟨found ++ rest, by rw [descendantsFrom_cons isFound visited, walked]; rfl⟩

end

variable {records : Records}

variable {id : PyKey} {record : Record} {ids : List PyKey} {shown : List Record}
  {experimentId : PyStr}

private theorem childrenOf_ok (lineage : Lineage records) {found : List PyKey}
    (isFound : childrenOf records id = .ok found) :
    found.Nodup ∧ ∀ child, child ∈ found ↔
      ∃ record, Dict.get? records child = some record ∧ hashKey? record.parentId = some id := by
  have perm := sortedIds_perm isFound
  refine ⟨perm.nodup_iff.mpr (lineage.nodup.sublist (List.filter_sublist.map Prod.fst)),
    fun child => ?_⟩
  rw [perm.mem_iff, List.mem_map]
  constructor
  · rintro ⟨item, member, rfl⟩
    obtain ⟨isItem, isParent⟩ := List.mem_filter.mp member
    exact ⟨item.2, Dict.get?_of_mem lineage.nodup isItem, of_decide_eq_true isParent⟩
  · rintro ⟨record, isRecord, isParent⟩
    exact ⟨(child, record), List.mem_filter.mpr
      ⟨Dict.mem_of_get? isRecord, decide_eq_true isParent⟩, rfl⟩

private theorem childrenOf_returns
    (sortable : ∀ child record, Dict.get? records child = some record →
      hashKey? record.parentId = some id → (sortKey? records child).isSome = true)
    (lineage : Lineage records) : ∃ found, childrenOf records id = .ok found := by
  unfold childrenOf idsWhere sortedIds
  rw [if_pos (Or.inr fun child member => ?_)]
  · exact ⟨_, rfl⟩
  · obtain ⟨item, isItem, rfl⟩ := List.mem_map.mp member
    obtain ⟨isItem, isParent⟩ := List.mem_filter.mp isItem
    exact sortable item.1 item.2 (Dict.get?_of_mem lineage.nodup isItem)
      (of_decide_eq_true isParent)

private theorem parentKey_eq_some {id parent : PyKey}
    (isParent : parentKey records id = some parent) :
    ∃ record, Dict.get? records id = some record ∧ isNone record.parentId = false ∧
      hashKey? record.parentId = some parent := by
  obtain ⟨record, found, keyed⟩ := Option.bind_eq_some_iff.mp isParent
  unfold Record.parentKey at keyed
  split at keyed
  · cases keyed
  · rename_i present
    exact ⟨record, found, Bool.eq_false_iff.mpr present, keyed⟩

private theorem parentKey_of_text {text : PyStr} (found : Dict.get? records id = some record)
    (hashed : hashKey? record.parentId = some (.str text)) :
    parentKey records id = some (.str text) := by
  unfold parentKey Record.parentKey
  rw [found, Option.bind_some, hashKey?_str hashed]
  rfl

/-- The record of the key as it is returned, with a copy of its specification. -/
structure ShownAs (records : Records) (id : PyKey) (shown : Record) : Prop where
  record : ∃ record specification, Dict.get? records id = some record ∧ Presentable record ∧
    shown = { record with specification }

private theorem guardRecord_ok {accepted : Bool} {error : RegistryError}
    (passed : guardRecord accepted error = .ok ()) : accepted = true := by
  cases accepted with
  | true => rfl
  | false => cases passed

private theorem snapshotOf_ok {shown : Record} (isShown : snapshotOf records id = .ok shown) :
    ShownAs records id shown := by
  unfold snapshotOf at isShown
  cases found : Dict.get? records id with
  | none =>
      rw [found] at isShown
      cases isShown
  | some record =>
      rw [found] at isShown
      obtain ⟨_, experimentId, isShown⟩ := ok_of_bind isShown
      obtain ⟨_, fingerprint, isShown⟩ := ok_of_bind isShown
      obtain ⟨_, parent, isShown⟩ := ok_of_bind isShown
      obtain ⟨specification, isCopy, isShown⟩ := ok_of_bind isShown
      obtain ⟨_, mapping, isShown⟩ := ok_of_bind isShown
      obtain ⟨_, createdAt, isShown⟩ := ok_of_bind isShown
      obtain ⟨_, sealedAt, isShown⟩ := ok_of_bind isShown
      obtain ⟨_, isSealed, isShown⟩ := ok_of_bind isShown
      obtain ⟨_, evidence, isShown⟩ := ok_of_bind isShown
      cases isShown
      refine ⟨record, specification, found, ?_, rfl⟩
      refine { experimentId := guardRecord_ok experimentId, fingerprint := guardRecord_ok fingerprint
               parent := guardRecord_ok parent, specification := ?_
               createdAt := guardRecord_ok createdAt, sealedAt := guardRecord_ok sealedAt
               isSealed := of_decide_eq_true (guardRecord_ok isSealed)
               evidence := guardRecord_ok evidence }
      have isMap := guardRecord_ok mapping
      cases specification with
      | dict items => exact ⟨items, copy_ok isCopy⟩
      | _ => cases isMap

private theorem snapshotsOf_ok (areShown : snapshotsOf records ids = .ok shown) :
    List.Forall₂ (ShownAs records) ids shown := by
  induction ids generalizing shown with
  | nil =>
      cases areShown
      exact .nil
  | cons id ids ih =>
      obtain ⟨first, isFirst, areShown⟩ := ok_of_bind areShown
      obtain ⟨rest, isRest, same⟩ := ok_of_bind areShown
      cases same
      exact .cons (snapshotOf_ok isFirst) (ih isRest)

private theorem snapshotsOf_returns {ids : List PyKey}
    (presentable : ∀ id ∈ ids, ∃ record, Dict.get? records id = some record ∧ Presentable record) :
    ∃ shown, snapshotsOf records ids = .ok shown := by
  induction ids with
  | nil => exact ⟨[], rfl⟩
  | cons id ids ih =>
      obtain ⟨record, found, isPresentable⟩ := presentable id List.mem_cons_self
      obtain ⟨items, isCopy⟩ := isPresentable.specification
      have isFirst := snapshotOf_presentable found isPresentable isCopy
      obtain ⟨rest, isRest⟩ := ih fun other member => presentable other (List.mem_cons_of_mem _ member)
      refine ⟨{ record with specification := .dict items } :: rest, ?_⟩
      rw [snapshotsOf, bind_of_ok isFirst, bind_of_ok isRest]
      rfl

theorem Lineage.root (lineage : Lineage records) (found : Dict.get? records id = some record)
    (noParent : parentKey records id = none) : record.parentId = .none := by
  rcases lineage.parents id record found with root | ⟨parent, isKey, _⟩
  · exact root
  · unfold parentKey Record.parentKey at noParent
    rw [found, Option.bind_some] at noParent
    split at noParent
    · rename_i isRoot
      exact isNone_iff.mp isRoot
    · rw [isKey] at noParent
      cases noParent

private theorem ancestorsFrom_chain (lineage : Lineage records)
    (found : Dict.get? records id = some record)
    {remaining ancestors : List PyKey} (chain : Chain (parentKey records) id ancestors)
    (unvisited : ∀ ancestor ∈ ancestors, ancestor ∈ remaining) :
    ancestorsFrom (parentOf records) remaining record.parentId = .ok ancestors := by
  induction chain generalizing remaining record with
  | @root id noParent =>
      rw [lineage.root found noParent, ancestorsFrom, isNone, if_pos rfl]
  | @step id above rest isParent chain ih =>
      obtain ⟨known, isKnown, present, hashed⟩ := parentKey_eq_some isParent
      rw [found] at isKnown
      cases isKnown
      obtain ⟨next, isNext⟩ : ∃ next, Dict.get? records above = some next := by
        rcases lineage.parents id record found with root | ⟨parent, isKey, isParent⟩
        · rw [root] at present
          cases present
        · rw [hashed] at isKey
          cases isKey
          exact Option.isSome_iff_exists.mp isParent
      have isParentOf : parentOf records above = some next.parentId := by
        rw [parentOf, isNext]
        rfl
      have notAgain : above ∉ rest := chain.not_mem lineage.ranked
      have unvisitedRest : ∀ ancestor ∈ rest, ancestor ∈ remaining.erase above := by
        intro ancestor member
        have different : ancestor ≠ above := by
          rintro rfl
          exact notAgain member
        exact (List.mem_erase_of_ne different).mpr
          (unvisited ancestor (List.mem_cons_of_mem _ member))
      rw [ancestorsFrom, present, if_neg Bool.false_ne_true, hashed]
      dsimp only
      rw [dif_pos (unvisited above List.mem_cons_self), isParentOf]
      dsimp only
      rw [ih isNext unvisitedRest]
      rfl

private theorem mem_keys_iff :
    id ∈ Dict.keys records ↔ ∃ record, Dict.get? records id = some record := by
  rw [← Option.isSome_iff_exists, Option.isSome_iff_ne_none, Ne, Dict.get?_eq_none_iff, not_not]

theorem Lineage.known (lineage : Lineage records) {above id : PyKey}
    (isAbove : Above (parentKey records) above id) :
    (∃ record, Dict.get? records above = some record) ∧
      ∃ record, Dict.get? records id = some record := by
  have step {parent child : PyKey} (isParent : parentKey records child = some parent) :
      (∃ record, Dict.get? records parent = some record) ∧
        ∃ record, Dict.get? records child = some record := by
    obtain ⟨record, found, present, hashed⟩ := parentKey_eq_some isParent
    refine ⟨?_, record, found⟩
    rcases lineage.parents child record found with root | ⟨known, isKey, isKnown⟩
    · rw [root] at present
      cases present
    · rw [hashed] at isKey
      cases isKey
      exact Option.isSome_iff_exists.mp isKnown
  induction isAbove with
  | single isParent => exact step isParent
  | tail _ isParent ih => exact ⟨ih.1, (step isParent).2⟩

private theorem getAncestors_eq (lineage : Lineage records)
    (found : Dict.get? records (.str experimentId) = some record) {ancestors : List PyKey}
    (chain : Chain (parentKey records) (.str experimentId) ancestors) :
    getAncestors records experimentId = snapshotsOf records ancestors.reverse := by
  have isKnown : requireKnown records experimentId = .ok record := by
    rw [requireKnown, found]
  have unvisited : ∀ ancestor ∈ ancestors,
      ancestor ∈ (Dict.keys records).erase (.str experimentId) := by
    intro ancestor member
    have isAbove := chain.mem_iff.mp member
    have different : ancestor ≠ .str experimentId := by
      rintro rfl
      exact lineage.ranked.not_above_self _ isAbove
    exact (List.mem_erase_of_ne different).mpr (mem_keys_iff.mpr (lineage.known isAbove).1)
  rw [getAncestors, bind_of_ok isKnown, bind_of_ok (ancestorsFrom_chain lineage found chain unvisited)]

def namesOf (shown : List Record) : List PyValue := shown.map Record.experimentId

/-- The records before an experiment's own lead from a root to it, along parent links. -/
structure RunsFromRoot (ancestors : List Record) (own : Record) : Prop where
  fromRoot : (ancestors ++ [own]).head?.map Record.parentId = some .none
  links : (ancestors ++ [own]).IsChain fun earlier later => later.parentId = earlier.experimentId

structure LineageHolds (records : Records) : Prop where
  acyclic : ∀ id, ¬ Above (parentKey records) id id
  returns : ∀ experimentId, «exists» records experimentId = true →
    (∃ ancestors, getAncestors records experimentId = .ok ancestors) ∧
      ∃ descendants, getDescendants records experimentId = .ok descendants
  agree : ∀ first second ancestors descendants, getAncestors records first = .ok ancestors →
    getDescendants records second = .ok descendants →
      (.str first ∈ namesOf descendants ↔ .str second ∈ namesOf ancestors)
  ancestorsOnce : ∀ experimentId ancestors, getAncestors records experimentId = .ok ancestors →
    (namesOf ancestors).Nodup ∧ .str experimentId ∉ namesOf ancestors
  descendantsOnce : ∀ experimentId descendants,
    getDescendants records experimentId = .ok descendants →
      (namesOf descendants).Nodup ∧ .str experimentId ∉ namesOf descendants
  path : ∀ experimentId own ancestors, Dict.get? records (.str experimentId) = some own →
    getAncestors records experimentId = .ok ancestors → RunsFromRoot ancestors own

/-- Every ancestor and every descendant of an experiment can be shown. -/
def LineagePresentable (records : Records) : Prop :=
  ∀ experimentId, «exists» records experimentId = true → ∀ id,
    Above (parentKey records) id (.str experimentId) ∨
        Above (parentKey records) (.str experimentId) id →
      ∃ record, Dict.get? records id = some record ∧ Presentable record

section

variable (lineage : Lineage records)

include lineage

theorem ShownAs.hashed {shown : Record} (isShown : ShownAs records id shown) :
    hashKey? shown.experimentId = some id := by
  obtain ⟨record, specification, found, _, rfl⟩ := isShown.record
  exact lineage.named id record found

private theorem namesOf_hashed (areShown : List.Forall₂ (ShownAs records) ids shown) :
    (namesOf shown).map hashKey? = ids.map some := by
  induction areShown with
  | nil => rfl
  | cons isShown _ ih =>
      change hashKey? _ :: (namesOf _).map hashKey? = _
      rw [isShown.hashed lineage, ih]
      rfl

private theorem mem_namesOf (areShown : List.Forall₂ (ShownAs records) ids shown) :
    .str experimentId ∈ namesOf shown ↔ .str experimentId ∈ ids := by
  have hashed := namesOf_hashed lineage areShown
  constructor
  · intro member
    have inKeys : hashKey? (.str experimentId) ∈ (namesOf shown).map hashKey? :=
      List.mem_map_of_mem member
    rw [hashed] at inKeys
    obtain ⟨id, isId, same⟩ := List.mem_map.mp inKeys
    cases same
    exact isId
  · intro member
    have inKeys : some (.str experimentId) ∈ ids.map some := List.mem_map_of_mem member
    rw [← hashed] at inKeys
    obtain ⟨name, isName, same⟩ := List.mem_map.mp inKeys
    rw [← hashKey?_str same]
    exact isName

private theorem namesOf_nodup (areShown : List.Forall₂ (ShownAs records) ids shown)
    (nodup : ids.Nodup) :
    (namesOf shown).Nodup := by
  refine List.Nodup.of_map hashKey? ?_
  rw [namesOf_hashed lineage areShown]
  exact nodup.map (Option.some_injective _)

private theorem getAncestors_ok {ancestors : List Record}
    (answered : getAncestors records experimentId = .ok ancestors) :
    ∃ own ids, Dict.get? records (.str experimentId) = some own ∧
      Chain (parentKey records) (.str experimentId) ids ∧
      List.Forall₂ (ShownAs records) ids.reverse ancestors := by
  obtain ⟨ids, chain⟩ := exists_chain lineage.ranked (.str experimentId)
  cases found : Dict.get? records (.str experimentId) with
  | none =>
      rw [getAncestors, requireKnown, found] at answered
      cases answered
  | some own =>
      rw [getAncestors_eq lineage found chain] at answered
      exact ⟨own, ids, rfl, chain, snapshotsOf_ok answered⟩

omit lineage in
private theorem getDescendants_ok {descendants : List Record}
    (answered : getDescendants records experimentId = .ok descendants) :
    ∃ own ids, Dict.get? records (.str experimentId) = some own ∧
      Walk (childrenOf records) ((Dict.keys records).erase (.str experimentId))
        [.str experimentId] ids ∧
      List.Forall₂ (ShownAs records) ids descendants := by
  obtain ⟨own, isKnown, answered⟩ := ok_of_bind answered
  obtain ⟨ids, walked, answered⟩ := ok_of_bind answered
  refine ⟨own, ids, ?_, walk_of_ok walked, snapshotsOf_ok answered⟩
  unfold requireKnown at isKnown
  cases found : Dict.get? records (.str experimentId) with
  | none =>
      rw [found] at isKnown
      cases isKnown
  | some record =>
      rw [found] at isKnown
      cases isKnown
      rfl

theorem Walk.complete {remaining ids : List PyKey}
    (walk : Walk (childrenOf records) remaining [.str experimentId] ids)
    (below : Above (parentKey records) (.str experimentId) id) : id ∈ ids := by
  have step {above child : PyKey} (seen : above ∈ [.str experimentId] ++ ids)
      (isParent : parentKey records child = some above) : child ∈ ids := by
    obtain ⟨found, isFound, inIds⟩ := walk.closed above seen
    obtain ⟨record, isRecord, _, hashed⟩ := parentKey_eq_some isParent
    exact inIds child (((childrenOf_ok lineage isFound).2 child).mpr ⟨record, isRecord, hashed⟩)
  induction below with
  | single isParent => exact step (List.mem_append_left _ List.mem_cons_self) isParent
  | tail _ isParent ih => exact step (List.mem_append_right _ ih) isParent

theorem Presentable.textKey (presentable : Presentable record)
    (found : Dict.get? records id = some record) : ∃ text, id = .str text := by
  have hashed := lineage.named id record found
  have isTextId := presentable.experimentId
  cases isId : record.experimentId with
  | str text =>
      rw [isId] at hashed
      exact ⟨text, (Option.some.inj hashed).symm⟩
  | _ =>
      rw [isId] at isTextId
      cases isTextId

variable {experimentId : PyStr}
  (presentable : ∀ id, Above (parentKey records) (.str experimentId) id →
    ∃ record, Dict.get? records id = some record ∧ Presentable record)

include presentable

private theorem textKey_below
    (reached : id = .str experimentId ∨ Above (parentKey records) (.str experimentId) id) :
    ∃ text, id = .str text := by
  rcases reached with same | below
  · exact ⟨experimentId, same⟩
  · obtain ⟨record, found, isPresentable⟩ := presentable id below
    exact isPresentable.textKey lineage found

private theorem mem_children_iff
    (reached : id = .str experimentId ∨ Above (parentKey records) (.str experimentId) id)
    {child : PyKey} :
    (∃ record, Dict.get? records child = some record ∧ hashKey? record.parentId = some id) ↔
      parentKey records child = some id := by
  obtain ⟨text, rfl⟩ := textKey_below lineage presentable reached
  constructor
  · rintro ⟨record, found, hashed⟩
    exact parentKey_of_text found hashed
  · intro isParent
    obtain ⟨record, found, _, hashed⟩ := parentKey_eq_some isParent
    exact ⟨record, found, hashed⟩

theorem Walk.mem_iff {remaining ids : List PyKey}
    (walk : Walk (childrenOf records) remaining [.str experimentId] ids) :
    id ∈ ids ↔ Above (parentKey records) (.str experimentId) id := by
  refine ⟨fun member => ?_, Walk.complete lineage walk⟩
  have step {above child : PyKey}
      (reached : above = .str experimentId ∨ Above (parentKey records) (.str experimentId) above)
      (isChild : IsChild (childrenOf records) above child) :
      Above (parentKey records) (.str experimentId) child := by
    obtain ⟨found, isFound, member⟩ := isChild
    have isParent := (mem_children_iff lineage presentable reached).mp
      (((childrenOf_ok lineage isFound).2 child).mp member)
    rcases reached with rfl | below
    · exact above_of_parent isParent
    · exact below.below isParent
  obtain ⟨above, inFrontier, path⟩ := walk.sound id member
  rw [List.mem_singleton.mp inFrontier] at path
  clear member
  induction path with
  | single isChild => exact step (Or.inl rfl) isChild
  | tail _ isChild ih => exact step (Or.inr ih) isChild

private theorem front_descendants :
    Front (childrenOf records) (parentKey records)
      ((Dict.keys records).erase (.str experimentId)) [.str experimentId] := by
  refine { remainingNodup := lineage.nodup.erase _, nodup := List.nodup_singleton _,
           apart := ?_, unvisited := ?_, listed := ?_ }
  · intro id member other otherMember isAbove
    rw [List.mem_singleton.mp member, List.mem_singleton.mp otherMember] at isAbove
    exact lineage.ranked.not_above_self _ isAbove
  · intro above member id isAbove
    rw [List.mem_singleton.mp member] at isAbove
    have different : id ≠ .str experimentId := by
      rintro rfl
      exact lineage.ranked.not_above_self _ isAbove
    exact (List.mem_erase_of_ne different).mpr (mem_keys_iff.mpr (lineage.known isAbove).2)
  · intro above member id reached
    rw [List.mem_singleton.mp member] at reached
    have sortable : ∀ child record, Dict.get? records child = some record →
        hashKey? record.parentId = some id → (sortKey? records child).isSome = true := by
      intro child record found hashed
      have isParent := (mem_children_iff lineage presentable reached).mp ⟨record, found, hashed⟩
      have below : Above (parentKey records) (.str experimentId) child := by
        rcases reached with rfl | below
        · exact above_of_parent isParent
        · exact below.below isParent
      obtain ⟨text, rfl⟩ := textKey_below lineage presentable (Or.inr below)
      obtain ⟨known, isKnown, isPresentable⟩ := presentable _ below
      have createdAt := isPresentable.createdAt
      unfold sortKey?
      rw [isKnown, Option.map_some]
      cases isTime : known.createdAtUtc with
      | str time => rfl
      | _ =>
          rw [isTime] at createdAt
          cases createdAt
    obtain ⟨found, isFound⟩ := childrenOf_returns sortable lineage
    obtain ⟨nodup, mem_found⟩ := childrenOf_ok lineage isFound
    refine ⟨found, isFound, nodup, fun child => ?_⟩
    rw [mem_found, mem_children_iff lineage presentable reached]

private theorem getDescendants_returns {own : Record}
    (found : Dict.get? records (.str experimentId) = some own) :
    ∃ descendants, getDescendants records experimentId = .ok descendants := by
  obtain ⟨ids, walked⟩ :=
    descendantsFrom_returns lineage.ranked (front_descendants lineage presentable)
  obtain ⟨descendants, areShown⟩ := @snapshotsOf_returns records ids fun id member =>
    presentable id ((Walk.mem_iff lineage presentable (walk_of_ok walked)).mp member)
  have isKnown : requireKnown records experimentId = .ok own := by
    rw [requireKnown, found]
  refine ⟨descendants, ?_⟩
  rw [getDescendants, bind_of_ok isKnown, bind_of_ok walked]
  exact areShown

end

private theorem exists_iff :
    «exists» records experimentId = true ↔
      ∃ own, Dict.get? records (.str experimentId) = some own :=
  Option.isSome_iff_exists

section

variable (lineage : Lineage records)

include lineage

private theorem lineagePresentable_of_returns (holds : LineageHolds records) :
    LineagePresentable records := by
  intro experimentId isKnown id related
  obtain ⟨⟨ancestors, up⟩, descendants, down⟩ := holds.returns experimentId isKnown
  have shown {ids : List PyKey} {results : List Record}
      (areShown : List.Forall₂ (ShownAs records) ids results) (member : id ∈ ids) :
      ∃ record, Dict.get? records id = some record ∧ Presentable record := by
    obtain ⟨result, _, isShown⟩ := exists_of_forall₂_left areShown member
    obtain ⟨record, _, found, presentable, _⟩ := isShown.record
    exact ⟨record, found, presentable⟩
  rcases related with isAbove | below
  · obtain ⟨_, ids, _, chain, areShown⟩ := getAncestors_ok lineage up
    exact shown areShown (List.mem_reverse.mpr (chain.mem_iff.mpr isAbove))
  · obtain ⟨_, ids, _, walk, areShown⟩ := getDescendants_ok down
    exact shown areShown (Walk.complete lineage walk below)

private theorem runsFromRoot_of_chain (chain : Chain (parentKey records) id ids) {record own : Record}
    (found : Dict.get? records id = some record) (sameParent : own.parentId = record.parentId)
    {up : List Record} (areShown : List.Forall₂ (ShownAs records) ids up) :
    RunsFromRoot up.reverse own := by
  induction chain generalizing record own up with
  | root noParent =>
      cases areShown
      refine { fromRoot := ?_, links := List.isChain_singleton own }
      change some own.parentId = some .none
      rw [sameParent, lineage.root found noParent]
  | @step id above rest isParent chain ih =>
      cases areShown with
      | @cons _ shown _ others isShown areShown =>
      obtain ⟨known, specification, isKnown, presentable, rfl⟩ := isShown.record
      have before := @ih known { known with specification } isKnown rfl others areShown
      obtain ⟨text, rfl⟩ := presentable.textKey lineage isKnown
      have isName : known.experimentId = .str text :=
        hashKey?_str (lineage.named _ known isKnown)
      obtain ⟨_, isRecord, _, hashed⟩ := parentKey_eq_some isParent
      rw [found] at isRecord
      cases isRecord
      have link : own.parentId = known.experimentId := by
        rw [isName, sameParent, hashKey?_str hashed]
      rw [List.reverse_cons]
      refine { fromRoot := ?_, links := ?_ }
      · rw [List.head?_append_of_ne_nil _ (List.append_ne_nil_of_right_ne_nil _ (List.cons_ne_nil _ _))]
        exact before.fromRoot
      · refine List.isChain_append.mpr ⟨before.links, List.isChain_singleton own, ?_⟩
        intro earlier isEarlier later isLater
        rw [List.getLast?_concat, Option.mem_some_iff] at isEarlier
        cases isEarlier
        cases isLater
        exact link

private theorem lineageHolds_of_presentable (presentable : LineagePresentable records) :
    LineageHolds records := by
  have below (experimentId : PyStr) (isKnown : «exists» records experimentId = true) :
      ∀ id, Above (parentKey records) (.str experimentId) id →
        ∃ record, Dict.get? records id = some record ∧ Presentable record :=
    fun id isBelow => presentable experimentId isKnown id (Or.inr isBelow)
  refine { acyclic := lineage.ranked.not_above_self, returns := ?_, agree := ?_,
           ancestorsOnce := ?_, descendantsOnce := ?_, path := ?_ }
  · intro experimentId isKnown
    obtain ⟨own, found⟩ := exists_iff.mp isKnown
    refine ⟨?_, getDescendants_returns lineage (below experimentId isKnown) found⟩
    obtain ⟨ids, chain⟩ := exists_chain lineage.ranked (.str experimentId)
    rw [getAncestors_eq lineage found chain]
    exact snapshotsOf_returns fun id member => presentable experimentId isKnown id
      (Or.inl (chain.mem_iff.mp (List.mem_reverse.mp member)))
  · intro first second ancestors descendants up down
    obtain ⟨_, ids, _, chain, ancestorsShown⟩ := getAncestors_ok lineage up
    obtain ⟨own, walked, found, walk, descendantsShown⟩ := getDescendants_ok down
    rw [mem_namesOf lineage descendantsShown, mem_namesOf lineage ancestorsShown,
      Walk.mem_iff lineage (below second (exists_iff.mpr ⟨own, found⟩)) walk, List.mem_reverse,
      chain.mem_iff]
  · intro experimentId ancestors up
    obtain ⟨_, ids, _, chain, areShown⟩ := getAncestors_ok lineage up
    refine ⟨namesOf_nodup lineage areShown
      (List.nodup_reverse.mpr (chain.nodup lineage.ranked)), ?_⟩
    rw [mem_namesOf lineage areShown, List.mem_reverse]
    exact chain.not_mem lineage.ranked
  · intro experimentId descendants down
    obtain ⟨own, ids, found, walk, areShown⟩ := getDescendants_ok down
    refine ⟨namesOf_nodup lineage areShown (walk.nodup (lineage.nodup.erase _)).1, ?_⟩
    rw [mem_namesOf lineage areShown,
      Walk.mem_iff lineage (below experimentId (exists_iff.mpr ⟨own, found⟩)) walk]
    exact lineage.ranked.not_above_self _
  · intro experimentId own ancestors found up
    obtain ⟨known, ids, isKnown, chain, areShown⟩ := getAncestors_ok lineage up
    have shownUp : List.Forall₂ (ShownAs records) ids ancestors.reverse := by
      rw [← List.reverse_reverse ids]
      exact List.forall₂_reverse_iff.mpr areShown
    rw [← List.reverse_reverse ancestors]
    exact runsFromRoot_of_chain lineage chain found rfl shownUp

end

/-- In every registry, the lineage queries answer for a forest exactly if every ancestor and every
descendant of an experiment can be shown. -/
theorem reachable_lineageHolds_iff {registry : ExperimentRegistry} (reachable : Reachable registry) :
    LineageHolds registry.records ↔ LineagePresentable registry.records :=
  ⟨lineagePresentable_of_returns reachable.lineage, lineageHolds_of_presentable reachable.lineage⟩

theorem Healthy.presentable (healthy : Healthy id record)
    (plain : PyValue.Plain record.specification) : Presentable record := by
  refine { experimentId := healthy.experimentId, fingerprint := healthy.fingerprint
           parent := healthy.parent, specification := ?_, createdAt := healthy.createdAt
           sealedAt := healthy.sealedAt, isSealed := healthy.isSealed
           evidence := healthy.evidence }
  have mapping := healthy.mapping
  have isCopy := PyValue.plain_copy plain
  cases isSpecification : record.specification with
  | dict items =>
      rw [isSpecification] at isCopy
      exact ⟨items, isCopy⟩
  | _ =>
      rw [isSpecification] at mapping
      cases mapping

theorem run_lineageHolds (mutations : List (Time × Mutation)) :
    LineageHolds (ExperimentRegistry.start.run mutations).records := by
  have inStep := inStep_run mutations inStep_start
  have reachable : Reachable (ExperimentRegistry.start.run mutations) := by
    induction mutations using List.reverseRecOn with
    | nil => exact .opened [] rfl
    | append_singleton mutations mutation ih =>
        rw [ExperimentRegistry.run, List.foldl_append]
        exact .called (ih (inStep_run mutations inStep_start)) mutation
  refine lineageHolds_of_presentable reachable.lineage fun experimentId _ id related => ?_
  have isKnown : ∃ record, Dict.get? (ExperimentRegistry.start.run mutations).records id =
      some record := by
    rcases related with isAbove | below
    · exact (reachable.lineage.known isAbove).1
    · exact (reachable.lineage.known below).2
  obtain ⟨record, found⟩ := isKnown
  obtain ⟨_, pair⟩ := inStep.imaged found
  exact ⟨record, found, (inStep.healthy id record found).presentable pair.specification.1⟩

def creationOf (experimentId : PyStr) (parentId fingerprint : PyValue) : Entry :=
  [(.str "type", .str entryCreated), (.str "experiment_id", .str experimentId),
    (.str "fingerprint", fingerprint), (.str "parent_id", parentId),
    (.str "specification", .dict []), (.str "created_at_utc", .str "t")]

def numberedLog : List Entry :=
  [creationOf "a" .none (.str "f"), creationOf "b" (.str "a") (.int 5)]

def numberedRecords : Records :=
  let record (experimentId : PyStr) (parentId fingerprint : PyValue) : Record :=
    { experimentId := .str experimentId, fingerprint, parentId, specification := .dict []
      createdAtUtc := .str "t", isSealed := false, sealedAtUtc := .none, evidence := .none
      evidenceFingerprint := .none, lifecycleState := .proposed, governanceDecision := .none }
  [(.str "a", record "a" .none (.str "f")), (.str "b", record "b" (.str "a") (.int 5))]

private theorem replay_numberedLog : replay numberedLog = .ok numberedRecords := rfl

/-- Replay accepts the log, and the descendants of its root cannot be shown. -/
theorem numberedLog_notHolds :
    Reachable { storage := numberedLog, records := numberedRecords, answers := [] } ∧
    «exists» numberedRecords "a" = true ∧
    (¬ ∃ descendants, getDescendants numberedRecords "a" = .ok descendants) ∧
    ¬ LineageHolds numberedRecords := by
  have lineage := replay_lineage replay_numberedLog
  have raises : ¬ ∃ descendants, getDescendants numberedRecords "a" = .ok descendants := by
    rintro ⟨descendants, answered⟩
    obtain ⟨_, ids, _, walk, areShown⟩ := getDescendants_ok answered
    have below : Above (parentKey numberedRecords) (.str "a") (.str "b") := above_of_parent rfl
    obtain ⟨_, _, isShown⟩ := exists_of_forall₂_left areShown (Walk.complete lineage walk below)
    obtain ⟨record, _, found, presentable, _⟩ := isShown.record
    cases found
    exact absurd presentable.fingerprint (by decide)
  refine ⟨.opened [] replay_numberedLog, rfl, raises, fun holds => raises ?_⟩
  exact (holds.returns "a" rfl).2

theorem reachable_lineageHolds_iff_numbered :
    LineageHolds numberedRecords ↔ LineagePresentable numberedRecords :=
  reachable_lineageHolds_iff (Reachable.opened [] replay_numberedLog)

end TurtleExecution.Registry

/-
The names of a tree and the keys of a value, at every depth.

`dumps` writes each key of a value as a name of the tree and no other name.  A walk that
goes through dictionaries and lists sees the keys that are not inside a tuple.
-/

import TurtleExecution.Foundation.JsonSorted
import TurtleExecution.Foundation.Pairs

set_option autoImplicit false

namespace TurtleExecution

namespace Json

mutual
def named (bad : JsonText → Bool) : Json → Bool
  | .array items => namedItems bad items
  | .object members => namedMembers bad members
  | _ => false

def namedItems (bad : JsonText → Bool) : List Json → Bool
  | [] => false
  | item :: items => named bad item || namedItems bad items

def namedMembers (bad : JsonText → Bool) : List (JsonText × Json) → Bool
  | [] => false
  | (name, value) :: members => bad name || named bad value || namedMembers bad members
end

variable {bad : JsonText → Bool}

theorem namedItems_iff {items : List Json} :
    namedItems bad items = true ↔ ∃ item ∈ items, named bad item = true := by
  induction items with
  | nil => simp [namedItems]
  | cons item items ih => simp [namedItems, ih]

theorem namedMembers_iff {members : List (JsonText × Json)} :
    namedMembers bad members = true ↔
      ∃ member ∈ members, bad member.1 = true ∨ named bad member.2 = true := by
  induction members with
  | nil => simp [namedMembers]
  | cons member members ih =>
      obtain ⟨name, value⟩ := member
      rw [namedMembers, Bool.or_eq_true, Bool.or_eq_true, ih, List.exists_mem_cons_iff]

end Json

namespace PyValue

mutual
def keyed (bad : PyKey → Bool) : PyValue → Bool
  | .list items => keyedItems bad items
  | .tuple items => keyedItems bad items
  | .dict entries => keyedEntries bad entries
  | _ => false

def keyedItems (bad : PyKey → Bool) : List PyValue → Bool
  | [] => false
  | item :: items => keyed bad item || keyedItems bad items

def keyedEntries (bad : PyKey → Bool) : List (PyKey × PyValue) → Bool
  | [] => false
  | (key, value) :: entries => bad key || keyed bad value || keyedEntries bad entries
end

mutual
def tupleKeyed (bad : PyKey → Bool) : PyValue → Bool
  | .list items => tupleKeyedItems bad items
  | .tuple items => keyedItems bad items
  | .dict entries => tupleKeyedEntries bad entries
  | _ => false

def tupleKeyedItems (bad : PyKey → Bool) : List PyValue → Bool
  | [] => false
  | item :: items => tupleKeyed bad item || tupleKeyedItems bad items

def tupleKeyedEntries (bad : PyKey → Bool) : List (PyKey × PyValue) → Bool
  | [] => false
  | (_, value) :: entries => tupleKeyed bad value || tupleKeyedEntries bad entries
end

mutual
def openlyKeyed (bad : PyKey → Bool) : PyValue → Bool
  | .list items => openlyKeyedItems bad items
  | .tuple _ => false
  | .dict entries => openlyKeyedEntries bad entries
  | _ => false

def openlyKeyedItems (bad : PyKey → Bool) : List PyValue → Bool
  | [] => false
  | item :: items => openlyKeyed bad item || openlyKeyedItems bad items

def openlyKeyedEntries (bad : PyKey → Bool) : List (PyKey × PyValue) → Bool
  | [] => false
  | (key, value) :: entries => bad key || openlyKeyed bad value || openlyKeyedEntries bad entries
end

variable {bad : PyKey → Bool}

mutual
theorem keyed_eq : ∀ value : PyValue,
    keyed bad value = (openlyKeyed bad value || tupleKeyed bad value)
  | .list items => by
      rw [keyed, openlyKeyed, tupleKeyed, keyedItems_eq items]
  | .tuple items => by
      rw [keyed, openlyKeyed, tupleKeyed, Bool.false_or]
  | .dict entries => by
      rw [keyed, openlyKeyed, tupleKeyed, keyedEntries_eq entries]
  | .none | .bool _ | .int _ | .float _ | .str _ | .other => rfl

theorem keyedItems_eq : ∀ items : List PyValue,
    keyedItems bad items = (openlyKeyedItems bad items || tupleKeyedItems bad items)
  | [] => rfl
  | item :: items => by
      rw [keyedItems, openlyKeyedItems, tupleKeyedItems, keyed_eq item, keyedItems_eq items]
      ac_rfl

theorem keyedEntries_eq : ∀ entries : List (PyKey × PyValue),
    keyedEntries bad entries = (openlyKeyedEntries bad entries || tupleKeyedEntries bad entries)
  | [] => rfl
  | (key, value) :: entries => by
      rw [keyedEntries, openlyKeyedEntries, tupleKeyedEntries, keyed_eq value,
        keyedEntries_eq entries]
      ac_rfl
end

theorem keyedItems_iff {items : List PyValue} :
    keyedItems bad items = true ↔ ∃ item ∈ items, keyed bad item = true := by
  induction items with
  | nil => simp [keyedItems]
  | cons item items ih => simp [keyedItems, ih]

theorem keyedEntries_iff {entries : PyDict} :
    keyedEntries bad entries = true ↔
      ∃ entry ∈ entries, bad entry.1 = true ∨ keyed bad entry.2 = true := by
  induction entries with
  | nil => simp [keyedEntries]
  | cons entry entries ih =>
      obtain ⟨key, value⟩ := entry
      rw [keyedEntries, Bool.or_eq_true, Bool.or_eq_true, ih, List.exists_mem_cons_iff]

theorem named_toJson {badName : JsonText → Bool}
    (texts : ∀ key name, keyText? key = some name → badName name = bad key)
    {value : PyValue} {tree : Json} (written : toJson value = some tree) :
    Json.named badName tree = true ↔ keyed bad value = true := by
  induction value using inductionOn generalizing tree with
  | list items ih | tuple items ih =>
      obtain ⟨trees, itemsWritten, rfl⟩ := Option.map_eq_some_iff.mp written
      rw [Json.named, keyed, Json.namedItems_iff, keyedItems_iff]
      exact (exists_iff_of_forall₂ (toJsonItems_forall₂ itemsWritten) fun item member tree isTree =>
        (ih item member isTree).symm).symm
  | dict entries ih =>
      obtain ⟨members, sorted, rfl⟩ := Option.map_eq_some_iff.mp written
      obtain ⟨pairs, entriesWritten, areMembers⟩ := Option.bind_eq_some_iff.mp sorted
      rw [sortedMembers] at areMembers
      split at areMembers
      · have order := List.perm_insertionSort
          (fun left right : PyKey × Json => keyLe left.1 right.1 = true) pairs
        rw [Json.named, keyed, Json.namedMembers_iff, keyedEntries_iff]
        have asPairs : (∃ entry ∈ entries, bad entry.1 = true ∨ keyed bad entry.2 = true) ↔
            ∃ pair ∈ pairs, bad pair.1 = true ∨ Json.named badName pair.2 = true :=
          exists_iff_of_forall₂ (toJsonEntries_forall₂ entriesWritten) fun entry member pair same => by
            rw [same.1, ih entry member same.2]
        have asMembers : (∃ pair ∈ pairs.insertionSort _,
              bad pair.1 = true ∨ Json.named badName pair.2 = true) ↔
            ∃ member ∈ members, badName member.1 = true ∨ Json.named badName member.2 = true :=
          exists_iff_of_forall₂ (keyTexts_forall₂ areMembers) fun pair _ member same => by
            rw [texts _ _ same.1, same.2]
        rw [asPairs, ← asMembers]
        simp only [order.mem_iff]
      · cases areMembers
  | other => cases written
  | int value =>
      obtain ⟨number, _, rfl⟩ := Option.map_eq_some_iff.mp written
      simp [Json.named, keyed]
  | _ =>
      cases written
      simp [Json.named, keyed]

end PyValue

end TurtleExecution

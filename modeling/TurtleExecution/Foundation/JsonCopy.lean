/-
`json.loads(json.dumps(value))`, the deep copy of a JSON value.

Members keep their order here, as `dumps` without `sort_keys` writes them.
-/

import TurtleExecution.Foundation.JsonSorted

set_option autoImplicit false

namespace TurtleExecution.PyValue

mutual
/-- The tree that `json.dumps(value)` prints, or `none` where it raises `TypeError`. -/
def treeOf : PyValue → Option Json
  | .none => some .null
  | .bool value => some (.bool value)
  | .int value => (intNumber? value).map Json.number
  | .float value => some (.number (floatNumber value))
  | .str text => some (.string text.joined)
  | .list items => (treesOf items).map Json.array
  | .tuple items => (treesOf items).map Json.array
  | .dict entries => (membersOf entries).map Json.object
  | .other => Option.none

def treesOf : List PyValue → Option (List Json)
  | [] => some []
  | item :: items =>
      match treeOf item, treesOf items with
      | some item, some items => some (item :: items)
      | _, _ => Option.none

def membersOf : List (PyKey × PyValue) → Option (List (JsonText × Json))
  | [] => some []
  | (key, value) :: entries =>
      match keyText? key, treeOf value, membersOf entries with
      | some name, some value, some members => some ((name, value) :: members)
      | _, _, _ => Option.none
end

def deepCopy (value : PyValue) : Option PyValue :=
  (treeOf value).map ofJson

/-- A value that `json.loads` built: it can be written again. -/
def Native (value : PyValue) : Prop :=
  (treeOf value).isSome = true

theorem native_items {items : List PyValue} (native : ∀ item ∈ items, Native item) :
    (treesOf items).isSome = true := by
  induction items with
  | nil => rfl
  | cons item items ih =>
      obtain ⟨tree, first⟩ := Option.isSome_iff_exists.mp (native item List.mem_cons_self)
      obtain ⟨trees, rest⟩ := Option.isSome_iff_exists.mp
        (ih fun later member => native later (List.mem_cons_of_mem _ member))
      rw [treesOf, first, rest]
      rfl

def textItems (texts : List String) : List PyValue :=
  texts.map fun text : String => .str text

theorem native_texts (texts : List String) : Native (.list (textItems texts)) := by
  rw [Native, treeOf, Option.isSome_map]
  apply native_items
  intro value member
  obtain ⟨text, _, rfl⟩ := List.mem_map.mp member
  rfl

/-- Entries with names for keys and values that can be written again. -/
def NativeEntries (entries : PyDict) : Prop :=
  ∀ entry ∈ entries, (∃ name, entry.1 = .str name) ∧ Native entry.2

variable {entries : PyDict}

theorem native_entries (native : NativeEntries entries) : (membersOf entries).isSome = true := by
  induction entries with
  | nil => rfl
  | cons entry entries ih =>
      obtain ⟨key, value⟩ := entry
      obtain ⟨⟨name, isName⟩, valueNative⟩ := native _ List.mem_cons_self
      change key = .str name at isName
      subst isName
      obtain ⟨tree, first⟩ := Option.isSome_iff_exists.mp valueNative
      obtain ⟨members, rest⟩ := Option.isSome_iff_exists.mp
        (ih fun later member => native later (List.mem_cons_of_mem _ member))
      change treeOf value = some tree at first
      rw [membersOf, first, rest]
      rfl

theorem native_dict (written : (membersOf entries).isSome = true) : Native (.dict entries) := by
  rw [Native, treeOf, Option.isSome_map]
  exact written

theorem nativeEntries_set {name : PyStr} {value : PyValue} (native : NativeEntries entries)
    (valueNative : Native value) : NativeEntries (Dict.set entries (.str name) value) := by
  induction entries with
  | nil =>
      intro entry member
      rw [Dict.set, List.mem_singleton] at member
      subst member
      exact ⟨⟨name, rfl⟩, valueNative⟩
  | cons first entries ih =>
      obtain ⟨firstNative, rest⟩ := List.forall_mem_cons.mp native
      rw [Dict.set]
      split
      · exact List.forall_mem_cons.mpr ⟨⟨firstNative.1, valueNative⟩, rest⟩
      · exact List.forall_mem_cons.mpr ⟨firstNative, ih rest⟩

theorem nativeEntries_ofJsonMembers {members : List (JsonText × Json)}
    (native : NativeEntries entries) (valuesNative : ∀ member ∈ members, Native (ofJson member.2)) :
    NativeEntries (ofJsonMembers entries members) := by
  induction members generalizing entries with
  | nil => exact native
  | cons member members ih =>
      obtain ⟨name, value⟩ := member
      obtain ⟨first, rest⟩ := List.forall_mem_cons.mp valuesNative
      exact ih (nativeEntries_set native first) rest

theorem native_ofJsonItems {items : List Json} (native : ∀ item ∈ items, Native (ofJson item)) :
    ∀ item ∈ ofJsonItems items, Native item := by
  induction items with
  | nil =>
      intro item member
      cases member
  | cons item items ih =>
      obtain ⟨first, rest⟩ := List.forall_mem_cons.mp native
      exact List.forall_mem_cons.mpr ⟨first, ih rest⟩

theorem native_ofJson (tree : Json) : Native (ofJson tree) := by
  induction tree using Json.inductionOn with
  | null => rfl
  | bool value => rfl
  | number value =>
      cases value with
      | integer value => rw [ofJson, ofNumber, Native, treeOf, intNumber?_value]; rfl
      | _ => rfl
  | string value => rfl
  | array items ih =>
      rw [ofJson, Native, treeOf, Option.isSome_map]
      exact native_items (native_ofJsonItems ih)
  | object members ih =>
      rw [ofJson]
      apply native_dict
      exact native_entries (nativeEntries_ofJsonMembers (by intro entry member; cases member) ih)

theorem deepCopy_deepCopy {value copy : PyValue} (copied : deepCopy value = some copy) :
    ∃ again, deepCopy copy = some again := by
  obtain ⟨tree, _, rfl⟩ := Option.map_eq_some_iff.mp copied
  obtain ⟨next, written⟩ := Option.isSome_iff_exists.mp (native_ofJson tree)
  exact ⟨ofJson next, by rw [deepCopy, written]; rfl⟩

theorem treeOf_eq_null_iff {value : PyValue} : treeOf value = some .null ↔ value = .none := by
  cases value with
  | none => exact ⟨fun _ => rfl, fun _ => rfl⟩
  | int value | list items | tuple items | dict entries =>
      constructor
      · intro written
        rw [treeOf] at written
        obtain ⟨_, _, isNull⟩ := Option.map_eq_some_iff.mp written
        cases isNull
      · intro isNone
        cases isNone
  | _ => constructor <;> intro same <;> cases same

theorem ofJson_eq_none_iff {tree : Json} : ofJson tree = .none ↔ tree = .null := by
  cases tree with
  | null => exact ⟨fun _ => rfl, fun _ => rfl⟩
  | number value =>
      constructor
      · intro isNone
        rw [ofJson] at isNone
        cases value <;> cases isNone
      · intro isNull
        cases isNull
  | _ =>
      constructor <;> intro same
      · rw [ofJson] at same
        cases same
      · cases same

theorem deepCopy_eq_none_iff {value copied : PyValue} (isCopy : deepCopy value = some copied) :
    copied = .none ↔ value = .none := by
  obtain ⟨tree, written, isTree⟩ := Option.map_eq_some_iff.mp isCopy
  rw [← isTree, ofJson_eq_none_iff, ← treeOf_eq_null_iff, written, Option.some.injEq]

end TurtleExecution.PyValue

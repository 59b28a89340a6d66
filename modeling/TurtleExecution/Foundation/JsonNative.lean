/-
Values that `json.loads` builds, and what the language's equality sees of them.

Such a value is its own deep copy.  Written with sorted keys and read back it is equal
to itself: only the order of the items of its dictionaries has changed, and an equality
of dictionaries does not look at that.
-/

import TurtleExecution.Foundation.JsonCopy
import TurtleExecution.Foundation.Pairs

set_option autoImplicit false

namespace TurtleExecution.PyValue

def isAtom : PyValue → Bool
  | .list _ => false
  | .tuple _ => false
  | .dict _ => false
  | _ => true

mutual
/-- `left == right`, given how values that are no containers compare. -/
def equal (atoms : PyValue → PyValue → Bool) : PyValue → PyValue → Bool
  | .list left, right =>
      match right with
      | .list right => equalItems atoms left right
      | _ => false
  | .tuple left, right =>
      match right with
      | .tuple right => equalItems atoms left right
      | _ => false
  | .dict left, right =>
      match right with
      | .dict right => decide (left.length = right.length) && equalEntries atoms left right
      | _ => false
  | left, right => isAtom right && atoms left right

def equalItems (atoms : PyValue → PyValue → Bool) : List PyValue → List PyValue → Bool
  | [], right => right.isEmpty
  | item :: left, right =>
      match right with
      | [] => false
      | against :: right => equal atoms item against && equalItems atoms left right

def equalEntries (atoms : PyValue → PyValue → Bool) : List (PyKey × PyValue) → PyDict → Bool
  | [], _ => true
  | (key, value) :: left, right =>
      (match Dict.get? right key with
        | some against => equal atoms value against
        | Option.none => false) &&
      equalEntries atoms left right
end

/-- Whether two values that are no containers are one value of one kind. -/
def sameAtom : PyValue → PyValue → Bool
  | .none, .none => true
  | .bool left, .bool right => left = right
  | .int left, .int right => left = right
  | .float left, .float right => left = right
  | .str left, .str right => left = right
  | _, _ => false

/-- Whether the values are one but for the order of the items of dictionaries. -/
def alike (left right : PyValue) : Bool :=
  equal sameAtom left right

variable {atoms : PyValue → PyValue → Bool}

theorem equalEntries_iff {left : List (PyKey × PyValue)} {right : PyDict} :
    equalEntries atoms left right = true ↔ ∀ entry ∈ left, ∃ against,
      Dict.get? right entry.1 = some against ∧ equal atoms entry.2 against = true := by
  induction left with
  | nil => simp [equalEntries]
  | cons entry left ih =>
      obtain ⟨key, value⟩ := entry
      rw [equalEntries, Bool.and_eq_true, ih, List.forall_mem_cons]
      cases found : Dict.get? right key with
      | none => simp
      | some against => simp

mutual
/-- The value is made of lists, dictionaries with distinct string keys, and atoms, with no pair
of surrogates, no integer of too many digits and no NaN but the one of `json`. -/
def Plain : PyValue → Prop
  | .none => True
  | .bool _ => True
  | .int value => FewDigits value
  | .float (.nan constant) => constant = true
  | .float _ => True
  | .str text => text.unpaired = true
  | .list items => PlainItems items
  | .tuple _ => False
  | .dict entries =>
      (∀ entry ∈ entries, ∃ name : JsonText, entry.1 = .str name.text) ∧
        (entries.map Prod.fst).Nodup ∧ PlainEntries entries
  | .other => False

def PlainItems : List PyValue → Prop
  | [] => True
  | item :: items => Plain item ∧ PlainItems items

def PlainEntries : List (PyKey × PyValue) → Prop
  | [] => True
  | (_, value) :: entries => Plain value ∧ PlainEntries entries
end

theorem plainItems_iff {items : List PyValue} : PlainItems items ↔ ∀ item ∈ items, Plain item := by
  induction items with
  | nil => simp [PlainItems]
  | cons item items ih => simp [PlainItems, ih]

variable {entries : PyDict} {members : List (JsonText × Json)} {value : PyValue}

theorem plainEntries_iff : PlainEntries entries ↔ ∀ entry ∈ entries, Plain entry.2 := by
  induction entries with
  | nil => simp [PlainEntries]
  | cons entry entries ih =>
      obtain ⟨key, value⟩ := entry
      simp [PlainEntries, ih]

theorem plain_dict_iff : Plain (.dict entries) ↔
    (∀ entry ∈ entries, (∃ name : JsonText, entry.1 = .str name.text) ∧ Plain entry.2) ∧
      (entries.map Prod.fst).Nodup := by
  rw [Plain, plainEntries_iff]
  constructor
  · rintro ⟨text, nodup, plain⟩
    exact ⟨fun entry member => ⟨text entry member, plain entry member⟩, nodup⟩
  · rintro ⟨entries, nodup⟩
    exact ⟨fun entry member => (entries entry member).1, nodup,
      fun entry member => (entries entry member).2⟩

theorem plain_set {name : JsonText} (plain : Plain (.dict entries)) (plainValue : Plain value) :
    Plain (.dict (Dict.set entries (.str name.text) value)) := by
  obtain ⟨entriesPlain, nodup⟩ := plain_dict_iff.mp plain
  apply plain_dict_iff.mpr
  refine ⟨?_, Dict.nodup_keys_set nodup _ _⟩
  intro entry member
  rcases Dict.mem_set member with isNew | old
  · rw [isNew]
    exact ⟨⟨name, rfl⟩, plainValue⟩
  · exact entriesPlain entry old

theorem plain_ofJsonMembers (plain : Plain (.dict entries))
    (values : ∀ member ∈ members, Plain (ofJson member.2)) :
    Plain (.dict (ofJsonMembers entries members)) := by
  induction members generalizing entries with
  | nil => exact plain
  | cons member members ih =>
      obtain ⟨name, value⟩ := member
      obtain ⟨first, rest⟩ := List.forall_mem_cons.mp values
      exact ih (plain_set plain first) rest

theorem plain_ofJsonItems {items : List Json} (plain : ∀ item ∈ items, Plain (ofJson item)) :
    PlainItems (ofJsonItems items) := by
  induction items with
  | nil => trivial
  | cons item items ih =>
      obtain ⟨first, rest⟩ := List.forall_mem_cons.mp plain
      exact ⟨first, ih rest⟩

theorem plain_ofJson (tree : Json) : Plain (ofJson tree) := by
  induction tree using Json.inductionOn with
  | null => trivial
  | bool value => trivial
  | number value =>
      cases value with
      | integer value => exact value.fewDigits
      | nan => rfl
      | _ => trivial
  | string value => exact value.unpaired
  | array items ih => exact plain_ofJsonItems ih
  | object members ih =>
      exact plain_ofJsonMembers (plain_dict_iff.mpr ⟨fun _ none => (by cases none), List.nodup_nil⟩) ih

theorem plain_deepCopy {value copied : PyValue} (isCopy : deepCopy value = some copied) :
    Plain copied := by
  obtain ⟨tree, _, rfl⟩ := Option.map_eq_some_iff.mp isCopy
  exact plain_ofJson tree

variable {items : List PyValue} {value image : PyValue}

theorem treesOf_ofJsonItems
    (same : ∀ item ∈ items, ∃ tree, treeOf item = some tree ∧ ofJson tree = item) :
    ∃ trees, treesOf items = some trees ∧ ofJsonItems trees = items := by
  induction items with
  | nil => exact ⟨[], rfl, rfl⟩
  | cons item items ih =>
      obtain ⟨⟨tree, written, read⟩, rest⟩ := List.forall_mem_cons.mp same
      obtain ⟨trees, restWritten, restRead⟩ := ih rest
      exact ⟨tree :: trees, by rw [treesOf, written, restWritten], by rw [ofJsonItems, read, restRead]⟩

theorem membersOf_ofMembers
    (same : ∀ entry ∈ entries, (∃ name : JsonText, entry.1 = .str name.text) ∧
      ∃ tree, treeOf entry.2 = some tree ∧ ofJson tree = entry.2) :
    ∃ members, membersOf entries = some members ∧ ofMembers members = entries := by
  induction entries with
  | nil => exact ⟨[], rfl, rfl⟩
  | cons entry entries ih =>
      obtain ⟨⟨⟨name, isName⟩, tree, written, read⟩, rest⟩ := List.forall_mem_cons.mp same
      obtain ⟨members, restWritten, restRead⟩ := ih rest
      obtain ⟨key, value⟩ := entry
      obtain rfl : key = .str name.text := isName
      refine ⟨(name, tree) :: members, ?_, ?_⟩
      · rw [membersOf, show treeOf value = some tree from written, restWritten, keyText?,
          JsonText.joined_text]
      · rw [ofMembers, List.map_cons, read]
        exact congrArg _ restRead

theorem nodup_of_ofMembers (same : ofMembers members = entries)
    (nodup : (entries.map Prod.fst).Nodup) : (members.map Prod.fst).Nodup := by
  apply nodup_names nodup
  rw [← same, ofMembers, List.map_map]
  rfl

theorem plain_treeOf (plain : Plain value) :
    ∃ tree, treeOf value = some tree ∧ ofJson tree = value := by
  induction value using inductionOn with
  | none => exact ⟨.null, rfl, rfl⟩
  | bool value => exact ⟨.bool value, rfl, rfl⟩
  | int value =>
      have fewDigits : FewDigits value := plain
      refine ⟨.number (.integer { value, fewDigits }), ?_, rfl⟩
      rw [treeOf, intNumber?, dif_pos fewDigits, Option.map_some]
  | float value =>
      refine ⟨.number (floatNumber value), rfl, ?_⟩
      cases value with
      | nan constant =>
          cases plain
          rfl
      | _ => rfl
  | str text =>
      exact ⟨.string text.joined, rfl, congrArg PyValue.str (JsonText.joined_of_unpaired plain)⟩
  | list items ih =>
      have itemsPlain := plainItems_iff.mp plain
      obtain ⟨trees, written, read⟩ :=
        treesOf_ofJsonItems fun item member => ih item member (itemsPlain item member)
      exact ⟨.array trees, by rw [treeOf, written]; rfl, by rw [ofJson, read]⟩
  | tuple items ih => exact plain.elim
  | dict entries ih =>
      obtain ⟨entriesPlain, nodup⟩ := plain_dict_iff.mp plain
      obtain ⟨members, written, read⟩ := membersOf_ofMembers fun entry member =>
        ⟨(entriesPlain entry member).1, ih entry member (entriesPlain entry member).2⟩
      refine ⟨.object members, by rw [treeOf, written]; rfl, ?_⟩
      rw [ofJson_object (nodup_of_ofMembers read nodup), read]
  | other => exact plain.elim

theorem plain_copy (plain : Plain value) : deepCopy value = some value := by
  obtain ⟨tree, written, read⟩ := plain_treeOf plain
  rw [deepCopy, written, Option.map_some, read]

theorem toJsonItems_plain (written : ∀ item ∈ items, ∃ tree, toJson item = some tree) :
    ∃ trees, toJsonItems items = some trees ∧
      List.Forall₂ (fun item tree => toJson item = some tree) items trees := by
  induction items with
  | nil => exact ⟨[], rfl, .nil⟩
  | cons item items ih =>
      obtain ⟨⟨tree, first⟩, rest⟩ := List.forall_mem_cons.mp written
      obtain ⟨trees, later, pairs⟩ := ih rest
      exact ⟨tree :: trees, by rw [toJsonItems, first, later], .cons first pairs⟩

def Pairs (entry : PyKey × PyValue) (member : JsonText × Json) : Prop :=
  entry.1 = .str member.1.text ∧ toJson entry.2 = some member.2

theorem toJsonEntries_plain
    (written : ∀ entry ∈ entries, (∃ name : JsonText, entry.1 = .str name.text) ∧
      ∃ tree, toJson entry.2 = some tree) :
    ∃ members : List (JsonText × Json), toJsonEntries entries = some (members.map textEntry) ∧
      List.Forall₂ Pairs entries members := by
  induction entries with
  | nil => exact ⟨[], rfl, .nil⟩
  | cons entry entries ih =>
      obtain ⟨⟨⟨name, isName⟩, tree, first⟩, rest⟩ := List.forall_mem_cons.mp written
      obtain ⟨members, later, pairs⟩ := ih rest
      obtain ⟨key, value⟩ := entry
      obtain rfl : key = .str name.text := isName
      refine ⟨(name, tree) :: members, ?_, .cons ⟨rfl, first⟩ pairs⟩
      rw [toJsonEntries, show toJson value = some tree from first, later]
      rfl

theorem names_of_related {related : PyKey × PyValue → JsonText × Json → Prop}
    (named : ∀ entry member, related entry member → entry.1 = .str member.1.text)
    (pairs : List.Forall₂ related entries members) :
    entries.map Prod.fst = members.map fun member => PyKey.str member.1.text := by
  induction pairs with
  | nil => rfl
  | cons first _ ih => rw [List.map_cons, List.map_cons, named _ _ first, ih]

theorem names_of_pairs (pairs : List.Forall₂ Pairs entries members) :
    entries.map Prod.fst = members.map fun member => PyKey.str member.1.text :=
  names_of_related (fun _ _ pair => pair.1) pairs

theorem plain_toJson (plain : Plain value) : ∃ tree, toJson value = some tree := by
  induction value using inductionOn with
  | none => exact ⟨_, rfl⟩
  | bool value => exact ⟨_, rfl⟩
  | int value =>
      have fewDigits : FewDigits value := plain
      exact ⟨_, by rw [toJson, intNumber?, dif_pos fewDigits]; rfl⟩
  | float value => exact ⟨_, rfl⟩
  | str text => exact ⟨_, rfl⟩
  | list items ih =>
      have itemsPlain := plainItems_iff.mp plain
      obtain ⟨trees, written, _⟩ :=
        toJsonItems_plain fun item member => ih item member (itemsPlain item member)
      exact ⟨.array trees, by rw [toJson, written]; rfl⟩
  | tuple items ih => exact plain.elim
  | dict entries ih =>
      obtain ⟨entriesPlain, _⟩ := plain_dict_iff.mp plain
      obtain ⟨members, written, _⟩ := toJsonEntries_plain fun entry member =>
        ⟨(entriesPlain entry member).1, ih entry member (entriesPlain entry member).2⟩
      exact ⟨_, by rw [toJson, written, Option.bind_some, sortedMembers_textEntry]; rfl⟩
  | other => exact plain.elim

theorem reread_dict (plain : Plain (.dict entries)) :
    ∃ members : List (JsonText × Json), List.Forall₂ Pairs entries members ∧
      (members.map Prod.fst).Nodup ∧
      reread (.dict entries) = some (.dict (ofMembers (members.insertionSort Json.NameLe))) := by
  obtain ⟨entriesPlain, nodup⟩ := plain_dict_iff.mp plain
  obtain ⟨members, written, pairs⟩ := toJsonEntries_plain fun entry member =>
    ⟨(entriesPlain entry member).1, plain_toJson (entriesPlain entry member).2⟩
  have names := nodup_names nodup (names_of_pairs pairs)
  refine ⟨members, pairs, names, ?_⟩
  have sortedNames : ((members.insertionSort Json.NameLe).map Prod.fst).Nodup :=
    (((List.perm_insertionSort Json.NameLe members).map Prod.fst).nodup_iff).mpr names
  rw [reread, toJson, written, Option.bind_some, sortedMembers_textEntry, Option.map_some,
    Option.map_some, ofJson_object sortedNames]

theorem nodup_ofMembers (nodup : (members.map Prod.fst).Nodup) :
    (Dict.keys (ofMembers members)).Nodup := by
  have keys : Dict.keys (ofMembers members) =
      (members.map Prod.fst).map fun name => PyKey.str name.text := by
    rw [Dict.keys, ofMembers, List.map_map, List.map_map]
    rfl
  rw [keys]
  exact nodup.map fun _ _ same => JsonText.ext (PyKey.str.inj same)

theorem mem_ofMembers_insertionSort (entry : PyKey × PyValue) :
    entry ∈ ofMembers (members.insertionSort Json.NameLe) ↔ entry ∈ ofMembers members :=
  ((List.perm_insertionSort Json.NameLe members).map _).mem_iff

theorem get?_ofMembers_insertionSort (nodup : (members.map Prod.fst).Nodup) (key : PyKey) :
    Dict.get? (ofMembers (members.insertionSort Json.NameLe)) key =
      Dict.get? (ofMembers members) key :=
  Dict.get?_of_perm (nodup_ofMembers nodup)
    ((List.perm_insertionSort Json.NameLe members).map _) key

theorem get?_written {write : PyValue → Option Json} {entries : PyDict}
    {members : List (JsonText × Json)}
    (pairs : List.Forall₂ (fun entry member => entry.1 = PyKey.str member.1.text ∧
      write entry.2 = some member.2) entries members) (key : PyKey) :
    Dict.get? (ofMembers members) key =
      (Dict.get? entries key).bind fun value => (write value).map ofJson := by
  induction pairs with
  | nil => rfl
  | @cons entry member entries members first _ ih =>
      obtain ⟨entryKey, value⟩ := entry
      obtain ⟨other, tree⟩ := member
      obtain ⟨isName, written⟩ := first
      obtain rfl : entryKey = .str other.text := isName
      rw [ofMembers, List.map_cons, Dict.get?, Dict.get?]
      by_cases same : PyKey.str other.text = key
      · rw [if_pos same, if_pos same, Option.bind_some, show write value = some tree from written]
        rfl
      · rw [if_neg same, if_neg same]
        exact ih

theorem get?_pairs (pairs : List.Forall₂ Pairs entries members) (key : PyKey) :
    Dict.get? (ofMembers members) key = (Dict.get? entries key).bind reread :=
  @get?_written toJson entries members pairs key

theorem get?_reread {entries images : PyDict} (plain : Plain (.dict entries))
    (read : reread (.dict entries) = some (.dict images)) (key : PyKey) :
    Dict.get? images key = (Dict.get? entries key).bind reread := by
  obtain ⟨members, pairs, names, sorted⟩ := reread_dict plain
  rw [read] at sorted
  cases sorted
  rw [get?_ofMembers_insertionSort names, get?_pairs pairs]

def Indistinct (atoms : PyValue → PyValue → Bool) (value image : PyValue) : Prop :=
  ∀ right, equal atoms value right = equal atoms image right

theorem equalItems_indistinct {items images : List PyValue}
    (indistinct : List.Forall₂ (Indistinct atoms) items images) (right : List PyValue) :
    equalItems atoms items right = equalItems atoms images right := by
  induction indistinct generalizing right with
  | nil => rfl
  | cons first _ ih =>
      cases right with
      | nil => rfl
      | cons against right => rw [equalItems, equalItems, first against, ih right]

theorem equalEntries_pairs
    (pairs : List.Forall₂ (fun entry member => entry.1 = PyKey.str member.1.text ∧
      Indistinct atoms entry.2 (ofJson member.2)) entries members) (right : PyDict) :
    equalEntries atoms entries right = equalEntries atoms (ofMembers members) right := by
  induction pairs with
  | nil => rfl
  | @cons entry member entries members first _ ih =>
      obtain ⟨key, value⟩ := entry
      obtain ⟨name, tree⟩ := member
      obtain ⟨isName, indistinct⟩ := first
      obtain rfl : key = .str name.text := isName
      rw [ofMembers, List.map_cons, equalEntries, equalEntries, ih]
      cases Dict.get? right (.str name.text) with
      | none => rfl
      | some against =>
          dsimp only
          rw [show equal atoms value against = equal atoms (ofJson tree) against from
            indistinct against]
          rfl

theorem ofJsonItems_forall₂ {trees : List Json}
    (indistinct : List.Forall₂ (fun item tree => Indistinct atoms item (ofJson tree)) items trees) :
    List.Forall₂ (Indistinct atoms) items (ofJsonItems trees) := by
  induction indistinct with
  | nil => exact .nil
  | cons first _ ih => exact .cons first ih

theorem plain_atom {tree : Json} (atom : isAtom value = true) (plain : Plain value)
    (written : toJson value = some tree) : ofJson tree = value := by
  obtain ⟨other, copied, read⟩ := plain_treeOf plain
  have same : toJson value = treeOf value := by
    cases value with
    | list items | tuple items | dict entries => cases atom
    | _ => rfl
  rw [same, copied] at written
  cases written
  exact read

theorem plain_indistinct {tree : Json} (plain : Plain value) (written : toJson value = some tree) :
    Indistinct atoms value (ofJson tree) := by
  induction value using inductionOn generalizing tree with
  | list items ih =>
      have itemsPlain := plainItems_iff.mp plain
      obtain ⟨trees, itemsWritten, pairs⟩ :=
        toJsonItems_plain fun item member => plain_toJson (itemsPlain item member)
      rw [toJson, itemsWritten] at written
      cases written
      have images := ofJsonItems_forall₂ (forall₂_imp_mem pairs fun item member tree same =>
        ih item member (itemsPlain item member) same)
      intro right
      rw [ofJson]
      cases right with
      | list right => exact equalItems_indistinct images right
      | _ => rfl
  | tuple items ih => exact plain.elim
  | dict entries ih =>
      obtain ⟨entriesPlain, _⟩ := plain_dict_iff.mp plain
      obtain ⟨members, pairs, names, read⟩ := reread_dict plain
      have image : ofJson tree = .dict (ofMembers (members.insertionSort Json.NameLe)) := by
        rw [reread, written] at read
        exact Option.some.inj read
      have unsorted : List.Forall₂ (fun entry member => entry.1 = PyKey.str member.1.text ∧
          Indistinct atoms entry.2 (ofJson member.2)) entries members :=
        forall₂_imp_mem pairs fun entry member _ pair =>
          ⟨pair.1, ih entry member (entriesPlain entry member).2 pair.2⟩
      intro right
      rw [image]
      cases right with
      | dict right =>
          have lengths : entries.length = (ofMembers (members.insertionSort Json.NameLe)).length := by
            rw [ofMembers, List.length_map, List.length_insertionSort, pairs.length_eq]
          have sorted : equalEntries atoms (ofMembers members) right =
              equalEntries atoms (ofMembers (members.insertionSort Json.NameLe)) right := by
            rw [Bool.eq_iff_iff, equalEntries_iff, equalEntries_iff]
            simp only [mem_ofMembers_insertionSort]
          rw [equal, equal, ← lengths, equalEntries_pairs unsorted, sorted]
      | _ => rfl
  | other => exact plain.elim
  | _ =>
      rw [plain_atom rfl plain written]
      exact fun _ => rfl

theorem equal_reread {value image right : PyValue} (plain : Plain value)
    (read : reread value = some image) : equal atoms value right = equal atoms image right := by
  obtain ⟨tree, written, rfl⟩ := Option.map_eq_some_iff.mp read
  exact plain_indistinct plain written right

theorem equalItems_refl (same : ∀ item ∈ items, equal atoms item item = true) :
    equalItems atoms items items = true := by
  induction items with
  | nil => rfl
  | cons item items ih =>
      obtain ⟨first, rest⟩ := List.forall_mem_cons.mp same
      rw [equalItems, first, ih rest]
      rfl

theorem equal_self (same : ∀ value, isAtom value = true → Plain value → atoms value value = true)
    (plain : Plain value) : equal atoms value value = true := by
  induction value using inductionOn with
  | list items ih =>
      have itemsPlain := plainItems_iff.mp plain
      exact equalItems_refl fun item member => ih item member (itemsPlain item member)
  | tuple items ih => exact plain.elim
  | dict entries ih =>
      obtain ⟨entriesPlain, nodup⟩ := plain_dict_iff.mp plain
      rw [equal, decide_eq_true rfl, Bool.true_and, equalEntries_iff]
      intro entry member
      exact ⟨entry.2, Dict.get?_of_mem nodup member, ih entry member (entriesPlain entry member).2⟩
  | other => exact plain.elim
  | _ => exact (Bool.and_eq_true _ _).mpr ⟨rfl, same _ rfl plain⟩

theorem plain_alike (plain : Plain value) : alike value value = true := by
  apply equal_self _ plain
  intro value atom valuePlain
  cases value with
  | list items | tuple items | dict entries => cases atom
  | other => exact valuePlain.elim
  | none => rfl
  | _ => exact decide_eq_true rfl

theorem plain_reread (read : reread value = some image) : Plain image := by
  obtain ⟨tree, _, rfl⟩ := Option.map_eq_some_iff.mp read
  exact plain_ofJson tree

theorem alike_reread (plain : Plain value) (read : reread value = some image) :
    alike value image = true :=
  (equal_reread plain read).trans (plain_alike (plain_reread read))

theorem plain_textKeyed (plain : Plain value) : TextKeyed value := by
  induction value using inductionOn with
  | list items ih =>
      have itemsPlain := plainItems_iff.mp plain
      exact textKeyedItems_iff.mpr fun item member => ih item member (itemsPlain item member)
  | tuple items ih => exact plain.elim
  | dict entries ih =>
      obtain ⟨entriesPlain, nodup⟩ := plain_dict_iff.mp plain
      exact ⟨fun entry member => (entriesPlain entry member).1, nodup, textKeyedEntries_iff.mpr
        fun entry member => ih entry member (entriesPlain entry member).2⟩
  | _ => trivial

theorem reread_reread (plain : Plain value) (read : reread value = some image) :
    reread image = some image := by
  obtain ⟨tree, written, rfl⟩ := Option.map_eq_some_iff.mp read
  rw [reread, toJson_ofJson (sorted_toJson (plain_textKeyed plain) written), Option.map_some]

theorem pairs_of_textKeys {pairs : List (PyKey × Json)}
    (text : ∀ entry ∈ entries, ∃ name : JsonText, entry.1 = .str name.text)
    (written : List.Forall₂ (fun entry pair => entry.1 = pair.1 ∧ toJson entry.2 = some pair.2)
      entries pairs) :
    ∃ members : List (JsonText × Json), pairs = members.map textEntry ∧
      List.Forall₂ Pairs entries members := by
  induction written with
  | nil => exact ⟨[], rfl, .nil⟩
  | @cons entry pair entries pairs first _ ih =>
      obtain ⟨⟨name, isName⟩, rest⟩ := List.forall_mem_cons.mp text
      obtain ⟨members, rfl, others⟩ := ih rest
      obtain ⟨key, tree⟩ := pair
      obtain rfl : key = .str name.text := first.1.symm.trans isName
      exact ⟨(name, tree) :: members, rfl, .cons ⟨isName, first.2⟩ others⟩

theorem mem_of_pairs (pairs : List.Forall₂ Pairs entries members) {entry : PyKey × PyValue}
    (member : entry ∈ entries) :
    ∃ name tree, entry.1 = .str name.text ∧ toJson entry.2 = some tree ∧ (name, tree) ∈ members := by
  induction pairs with
  | nil => cases member
  | @cons first pair entries members isPair _ ih =>
      rcases List.mem_cons.mp member with rfl | later
      · exact ⟨pair.1, pair.2, isPair.1, isPair.2, List.mem_cons_self⟩
      · obtain ⟨name, tree, isName, isTree, isMember⟩ := ih later
        exact ⟨name, tree, isName, isTree, List.mem_cons_of_mem _ isMember⟩

/-- A dictionary with distinct string keys has an image of as many entries, with the image
of each value under the value's key. -/
theorem dict_image {tree : Json} (text : ∀ entry ∈ entries, ∃ name : JsonText, entry.1 = .str name.text)
    (distinct : (entries.map Prod.fst).Nodup) (written : toJson (.dict entries) = some tree) :
    ∃ images, ofJson tree = .dict images ∧ images.length = entries.length ∧
      ∀ entry ∈ entries, ∃ valueTree, toJson entry.2 = some valueTree ∧
        Dict.get? images entry.1 = some (ofJson valueTree) := by
  obtain ⟨members, sorted, rfl⟩ := Option.map_eq_some_iff.mp written
  obtain ⟨keyed, entriesWritten, areMembers⟩ := Option.bind_eq_some_iff.mp sorted
  obtain ⟨unsorted, rfl, pairs⟩ := pairs_of_textKeys text (toJsonEntries_forall₂ entriesWritten)
  rw [sortedMembers_textEntry] at areMembers
  cases areMembers
  have names := nodup_names distinct (names_of_pairs pairs)
  have sortedNames : ((unsorted.insertionSort Json.NameLe).map Prod.fst).Nodup :=
    (((List.perm_insertionSort Json.NameLe unsorted).map Prod.fst).nodup_iff).mpr names
  refine ⟨_, ofJson_object sortedNames, ?_, ?_⟩
  · rw [ofMembers, List.length_map, List.length_insertionSort, pairs.length_eq]
  · intro entry member
    obtain ⟨name, valueTree, isName, isTree, isMember⟩ := mem_of_pairs pairs member
    refine ⟨valueTree, isTree, ?_⟩
    rw [isName, get?_ofMembers_insertionSort names]
    exact Dict.get?_of_mem (nodup_ofMembers names) (List.mem_map_of_mem isMember)

end TurtleExecution.PyValue

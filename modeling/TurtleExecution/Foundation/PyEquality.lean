/-
Equality of a value with the copy that `json.loads(json.dumps(value))` makes of it.

The copy has lists for tuples, texts for the keys of dictionaries and one character for a pair
of surrogates, so it is equal to the value only where there were none of them to change.  A NaN
is equal to nothing, but containers compare their items by identity first, and all that
`json.loads` builds are one object.
-/

import TurtleExecution.Foundation.FloatOrder
import TurtleExecution.Foundation.JsonNative

set_option autoImplicit false

namespace TurtleExecution.PyValue

def number? : PyValue → Option PyNumber
  | .bool value => some (.int (if value then 1 else 0))
  | .int value => some (.int value)
  | .float (.finite literal) => some (.float (FloatValue.round (floatValue literal)))
  | .float (.nan _) => some (.float .nan)
  | .float (.infinity negative) => some (.float (.infinity negative))
  | _ => Option.none

/-- Whether an item that is no container, of a value that `json.loads` built, is the same as the
other one or equal to it. -/
def sameOrEqual : PyValue → PyValue → Bool
  | .none, .none => true
  | .str left, .str right => left = right
  | .float (.nan left), .float (.nan right) => left && right
  | left, right =>
      match number? left, number? right with
      | some left, some right => PyNumber.compares (fun low high => low = high) left right
      | _, _ => false

theorem compares_self (number : PyNumber) {place : WithBot (WithTop ℚ)}
    (isPlace : number.extended = some place) :
    PyNumber.compares (fun low high => low = high) number number = true := by
  unfold PyNumber.compares
  rw [isPlace]
  exact decide_eq_true rfl

section

variable {items : List PyValue} {entries : PyDict}

theorem sameOrEqual_self {value : PyValue} (atom : isAtom value = true) (plain : Plain value) :
    sameOrEqual value value = true := by
  cases value with
  | none => rfl
  | bool value => exact compares_self (.int (if value then 1 else 0)) rfl
  | int value => exact compares_self (.int value) rfl
  | float value =>
      cases value with
      | finite literal =>
          obtain ⟨place, isPlace⟩ := PyNumber.extended_round (floatValue literal)
          exact compares_self _ isPlace
      | nan constant =>
          cases plain
          rfl
      | infinity negative => exact compares_self (.float (.infinity negative)) rfl
  | str text => exact decide_eq_true rfl
  | list items | tuple items | dict entries => cases atom
  | other => exact plain.elim

theorem treesOf_forall₂ {trees : List Json} (written : treesOf items = some trees) :
    List.Forall₂ (fun item tree => treeOf item = some tree) items trees := by
  induction items generalizing trees with
  | nil =>
      cases written
      exact .nil
  | cons item items ih =>
      rw [treesOf] at written
      split at written
      · rename_i tree others isTree areOthers
        cases written
        exact .cons isTree (ih areOthers)
      · cases written

theorem membersOf_forall₂ {members : List (JsonText × Json)}
    (text : ∀ entry ∈ entries, ∃ name : JsonText, entry.1 = .str name.text)
    (written : membersOf entries = some members) :
    List.Forall₂ (fun entry member => entry.1 = PyKey.str member.1.text ∧
      treeOf entry.2 = some member.2) entries members := by
  induction entries generalizing members with
  | nil =>
      cases written
      exact .nil
  | cons entry entries ih =>
      obtain ⟨⟨name, isName⟩, rest⟩ := List.forall_mem_cons.mp text
      obtain ⟨key, value⟩ := entry
      obtain rfl : key = .str name.text := isName
      rw [membersOf, keyText?, JsonText.joined_text] at written
      split at written
      · rename_i keyText tree others isText isTree areOthers
        cases isText
        cases written
        exact .cons ⟨rfl, isTree⟩ (ih rest areOthers)
      · cases written

theorem equalItems_ofJsonItems {trees : List Json}
    (written : List.Forall₂ (fun item tree => treeOf item = some tree) items trees)
    (isEqual : equalItems sameOrEqual (ofJsonItems trees) items = true) :
    ∀ item ∈ items, ∃ copied, deepCopy item = some copied ∧
      equal sameOrEqual copied item = true := by
  induction written with
  | nil => nofun
  | cons isTree _ ih =>
      obtain ⟨first, rest⟩ := (Bool.and_eq_true _ _).mp isEqual
      exact List.forall_mem_cons.mpr
        ⟨⟨_, by rw [deepCopy, isTree]; rfl, first⟩, ih rest⟩

theorem perm_keys {copies entries : PyDict} (nodup : (copies.map Prod.fst).Nodup)
    (lengths : copies.length = entries.length)
    (isEqual : equalEntries sameOrEqual copies entries = true) :
    (copies.map Prod.fst).Perm (entries.map Prod.fst) := by
  have within : copies.map Prod.fst ⊆ entries.map Prod.fst := by
    intro key isKey
    obtain ⟨entry, member, rfl⟩ := List.mem_map.mp isKey
    obtain ⟨against, found, _⟩ := equalEntries_iff.mp isEqual entry member
    exact List.mem_map.mpr ⟨_, Dict.mem_of_get? found, rfl⟩
  apply (List.subperm_of_subset nodup within).perm_of_length_le
  rw [List.length_map, List.length_map, lengths]

theorem equal_copy_dict {copied : PyValue} (isCopy : deepCopy (.dict entries) = some copied)
    (isEqual : equal sameOrEqual copied (.dict entries) = true) :
    (entries.map Prod.fst).Nodup ∧ ∀ entry ∈ entries, (∃ name : JsonText, entry.1 = .str name.text) ∧
      ∃ value, deepCopy entry.2 = some value ∧ equal sameOrEqual value entry.2 = true := by
  have plain := plain_deepCopy isCopy
  obtain ⟨tree, written, rfl⟩ := Option.map_eq_some_iff.mp isCopy
  obtain ⟨members, membersWritten, rfl⟩ := Option.map_eq_some_iff.mp written
  rw [ofJson] at plain isEqual
  obtain ⟨copiesPlain, copiesNodup⟩ := plain_dict_iff.mp plain
  obtain ⟨lengths, valuesEqual⟩ := (Bool.and_eq_true _ _).mp isEqual
  have sameKeys := perm_keys copiesNodup (of_decide_eq_true lengths) valuesEqual
  have nodup : (entries.map Prod.fst).Nodup := sameKeys.nodup_iff.mp copiesNodup
  have text : ∀ entry ∈ entries, ∃ name : JsonText, entry.1 = .str name.text := by
    intro entry member
    obtain ⟨copy, isCopyEntry, sameKey⟩ :=
      List.mem_map.mp (sameKeys.mem_iff.mpr (List.mem_map_of_mem member))
    rw [← sameKey]
    exact (copiesPlain copy isCopyEntry).1
  have pairs := membersOf_forall₂ text membersWritten
  rw [ofJsonMembers_eq (nodup_names nodup (names_of_related (fun _ _ pair => pair.1) pairs)) (fun _ _ => rfl), List.nil_append] at valuesEqual
  refine ⟨nodup, fun entry member => ⟨text entry member, ?_⟩⟩
  obtain ⟨named, isNamed, isName, isTree⟩ := exists_of_forall₂_left pairs member
  obtain ⟨against, found, same⟩ := equalEntries_iff.mp valuesEqual
    (.str named.1.text, ofJson named.2) (List.mem_map_of_mem isNamed)
  rw [← isName, Dict.get?_of_mem nodup member] at found
  cases found
  exact ⟨ofJson named.2, by rw [deepCopy, isTree]; rfl, same⟩

theorem plain_of_equal {value copied : PyValue} (isCopy : deepCopy value = some copied)
    (isEqual : equal sameOrEqual copied value = true) : Plain value := by
  induction value using inductionOn generalizing copied with
  | int value =>
      obtain ⟨tree, written, _⟩ := Option.map_eq_some_iff.mp isCopy
      obtain ⟨number, isNumber, _⟩ := Option.map_eq_some_iff.mp written
      exact fewDigits_of_intNumber? isNumber
  | float value =>
      cases isCopy
      cases value with
      | nan constant => exact isEqual
      | _ => trivial
  | str text =>
      cases isCopy
      have same : text.joined.text = text := of_decide_eq_true isEqual
      exact (congrArg PyStr.unpaired same).symm.trans text.joined.unpaired
  | list items ih =>
      obtain ⟨tree, written, rfl⟩ := Option.map_eq_some_iff.mp isCopy
      obtain ⟨trees, itemsWritten, rfl⟩ := Option.map_eq_some_iff.mp written
      apply plainItems_iff.mpr
      intro item member
      obtain ⟨itemCopy, isItemCopy, same⟩ :=
        equalItems_ofJsonItems (treesOf_forall₂ itemsWritten) isEqual item member
      exact ih item member isItemCopy same
  | tuple items ih =>
      -- the copy is a list, which is equal to no tuple
      obtain ⟨tree, written, rfl⟩ := Option.map_eq_some_iff.mp isCopy
      obtain ⟨trees, itemsWritten, rfl⟩ := Option.map_eq_some_iff.mp written
      cases isEqual
  | dict entries ih =>
      obtain ⟨nodup, values⟩ := equal_copy_dict isCopy isEqual
      refine plain_dict_iff.mpr ⟨fun entry member => ?_, nodup⟩
      obtain ⟨text, valueCopy, isValueCopy, same⟩ := values entry member
      exact ⟨text, ih entry member isValueCopy same⟩
  | other => cases isCopy
  | _ => trivial

theorem equal_copy_iff {value copied : PyValue} (isCopy : deepCopy value = some copied) :
    equal sameOrEqual copied value = true ↔ Plain value := by
  constructor
  · exact plain_of_equal isCopy
  · intro plain
    rw [plain_copy plain] at isCopy
    cases isCopy
    exact equal_self (fun _ => sameOrEqual_self) plain

end

def CopyOrImage (copied kept : PyValue) : Prop :=
  kept = copied ∨ reread copied = some kept

variable {copied kept : PyValue} {entries : PyDict}

theorem CopyOrImage.equal_eq (isKept : CopyOrImage copied kept) (plain : Plain copied)
    (atoms : PyValue → PyValue → Bool) (right : PyValue) :
    equal atoms kept right = equal atoms copied right := by
  rcases isKept with rfl | read
  · rfl
  · exact (equal_reread plain read).symm

theorem CopyOrImage.image {copied kept image : PyValue} (isKept : CopyOrImage copied kept)
    (plain : Plain copied) (read : reread kept = some image) : CopyOrImage copied image := by
  rcases isKept with rfl | first
  · exact Or.inr read
  · rw [reread_reread plain first] at read
    cases read
    exact Or.inr first

theorem copyOrImage_of_fixed (isKept : CopyOrImage copied kept)
    (fixed : reread copied = some copied) : kept = copied := by
  rcases isKept with rfl | read
  · rfl
  · exact Option.some.inj (read.symm.trans fixed)

theorem get?_deepCopy {copied : PyValue} (text : ∀ entry ∈ entries, ∃ name : JsonText, entry.1 = .str name.text)
    (nodup : (entries.map Prod.fst).Nodup) (isCopy : deepCopy (.dict entries) = some copied) :
    ∃ copies, copied = .dict copies ∧ ∀ name value, Dict.get? entries (.str name) = some value →
      ∃ copy, deepCopy value = some copy ∧ Dict.get? copies (.str name) = some copy := by
  obtain ⟨tree, written, rfl⟩ := Option.map_eq_some_iff.mp isCopy
  obtain ⟨members, membersWritten, rfl⟩ := Option.map_eq_some_iff.mp written
  have pairs := membersOf_forall₂ text membersWritten
  have names := nodup_names nodup (names_of_related (fun _ _ pair => pair.1) pairs)
  refine ⟨ofMembers members, ofJson_object names, fun name value found => ?_⟩
  obtain ⟨member, _, _, isTree⟩ := exists_of_forall₂_left pairs (Dict.mem_of_get? found)
  have isValueCopy : deepCopy value = some (ofJson member.2) := by
    rw [deepCopy, show treeOf value = some member.2 from isTree]
    rfl
  refine ⟨ofJson member.2, isValueCopy, ?_⟩
  rw [@get?_written treeOf entries members pairs (.str name), found]
  exact isValueCopy

theorem CopyOrImage.values {copies : PyDict} {kept : PyValue}
    (isKept : CopyOrImage (.dict copies) kept) (plain : Plain (.dict copies)) :
    ∃ entries, kept = .dict entries ∧ ∀ name value, Dict.get? copies (.str name) = some value →
      ∃ field, Dict.get? entries (.str name) = some field ∧ CopyOrImage value field := by
  rcases isKept with rfl | read
  · exact ⟨copies, rfl, fun name value found => ⟨value, found, Or.inl rfl⟩⟩
  · obtain ⟨members, _, _, sorted⟩ := reread_dict plain
    have image := read.symm.trans sorted
    cases image
    refine ⟨_, rfl, fun name value found => ?_⟩
    have valuePlain : Plain value :=
      ((plain_dict_iff.mp plain).1 _ (Dict.mem_of_get? found)).2
    obtain ⟨tree, written⟩ := plain_toJson valuePlain
    have valueRead : reread value = some (ofJson tree) := by rw [reread, written]; rfl
    refine ⟨ofJson tree, ?_, Or.inr valueRead⟩
    rw [get?_reread plain read, found, Option.bind_some, valueRead]

theorem CopyOrImage.fields (isKept : CopyOrImage copied kept)
    (text : ∀ entry ∈ entries, ∃ name : JsonText, entry.1 = .str name.text) (nodup : (entries.map Prod.fst).Nodup)
    (isCopy : deepCopy (.dict entries) = some copied) :
    ∃ values, kept = .dict values ∧ ∀ name value, Dict.get? entries (.str name) = some value →
      ∃ copy field, deepCopy value = some copy ∧ CopyOrImage copy field ∧
        Dict.get? values (.str name) = some field := by
  have plain := plain_deepCopy isCopy
  obtain ⟨copies, rfl, areCopies⟩ := get?_deepCopy text nodup isCopy
  obtain ⟨values, rfl, areKept⟩ := isKept.values plain
  refine ⟨values, rfl, fun name value found => ?_⟩
  obtain ⟨copy, isValueCopy, isCopied⟩ := areCopies name value found
  obtain ⟨field, isField, isValueKept⟩ := areKept name copy isCopied
  exact ⟨copy, field, isValueCopy, isValueKept, isField⟩

theorem CopyOrImage.eq_of_fixed {value : PyValue} (isKept : CopyOrImage copied kept)
    (isCopy : deepCopy value = some copied) (plain : Plain value) (fixed : toJson value = treeOf value) :
    kept = value := by
  obtain ⟨tree, written, read⟩ := plain_treeOf plain
  rw [deepCopy, written, Option.map_some, read] at isCopy
  cases isCopy
  apply copyOrImage_of_fixed isKept
  rw [reread, fixed, written, Option.map_some, read]

theorem CopyOrImage.str {text : PyStr} (isKept : CopyOrImage copied kept)
    (isCopy : deepCopy (.str text) = some copied) (unpaired : text.unpaired = true) :
    kept = .str text :=
  isKept.eq_of_fixed isCopy unpaired rfl

theorem CopyOrImage.int {value : Int} (isKept : CopyOrImage copied kept)
    (isCopy : deepCopy (.int value) = some copied) : kept = .int value := by
  obtain ⟨tree, written, _⟩ := Option.map_eq_some_iff.mp isCopy
  obtain ⟨number, isNumber, _⟩ := Option.map_eq_some_iff.mp written
  exact isKept.eq_of_fixed isCopy (fewDigits_of_intNumber? isNumber) rfl

theorem toJsonItems_texts (texts : List String) :
    toJsonItems (textItems texts) = treesOf (textItems texts) := by
  induction texts with
  | nil => rfl
  | cons text texts ih =>
      rw [textItems] at ih ⊢
      rw [List.map_cons, toJsonItems, treesOf, ih]
      rfl

theorem plain_texts (texts : List String) : Plain (.list (textItems texts)) := by
  apply plainItems_iff.mpr
  intro item member
  obtain ⟨text, _, rfl⟩ := List.mem_map.mp member
  rfl

theorem CopyOrImage.texts {texts : List String} (isKept : CopyOrImage copied kept)
    (isCopy : deepCopy (.list (textItems texts)) = some copied) : kept = .list (textItems texts) := by
  apply isKept.eq_of_fixed isCopy (plain_texts texts)
  rw [toJson, treeOf, toJsonItems_texts]

theorem ofJsonMembers_ne_nil (nonempty : entries ≠ []) (members : List (JsonText × Json)) :
    ofJsonMembers entries members ≠ [] := by
  induction members generalizing entries with
  | nil => exact nonempty
  | cons member members ih =>
      apply ih
      intro empty
      have found := Dict.get?_set_self entries (.str member.1.text) (ofJson member.2)
      rw [empty] at found
      cases found

/-- What is kept of a dictionary is a dictionary, which can be written, and is empty only if
the first one is. -/
theorem CopyOrImage.dict (isCopy : deepCopy (.dict entries) = some copied)
    (isKept : CopyOrImage copied kept) :
    ∃ values, kept = .dict values ∧ (entries ≠ [] → values ≠ []) ∧
      (membersOf values).isSome = true := by
  have plain := plain_deepCopy isCopy
  have written {values : PyDict} (valuesPlain : Plain (.dict values)) :
      (membersOf values).isSome = true := by
    obtain ⟨tree, isTree, _⟩ := plain_treeOf valuesPlain
    obtain ⟨members, isMembers, _⟩ := Option.map_eq_some_iff.mp isTree
    rw [isMembers]
    rfl
  obtain ⟨tree, isTree, rfl⟩ := Option.map_eq_some_iff.mp isCopy
  obtain ⟨members, isMembers, rfl⟩ := Option.map_eq_some_iff.mp isTree
  rw [ofJson] at plain isKept
  have nonempty : entries ≠ [] → ofJsonMembers [] members ≠ [] := by
    intro some
    cases entries with
    | nil => exact absurd rfl some
    | cons entry entries =>
        cases members with
        | nil =>
            obtain ⟨key, value⟩ := entry
            rw [membersOf] at isMembers
            split at isMembers <;> cases isMembers
        | cons member members =>
            exact ofJsonMembers_ne_nil (List.cons_ne_nil _ _) members
  rcases isKept with rfl | read
  · exact ⟨_, rfl, nonempty, written plain⟩
  · obtain ⟨images, pairs, _, sorted⟩ := reread_dict plain
    have image := read.symm.trans sorted
    cases image
    refine ⟨_, rfl, fun some empty => nonempty some ?_, written (plain_reread read)⟩
    have lengths := pairs.length_eq
    rw [ofMembers, List.map_eq_nil_iff, ← List.length_eq_zero_iff, List.length_insertionSort] at empty
    rw [empty] at lengths
    exact List.length_eq_zero_iff.mp lengths

end TurtleExecution.PyValue

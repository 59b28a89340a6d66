/-
Values whose dictionaries have string keys.

`dumps` writes such a value as a tree whose objects are sorted by name, and the
value read back from a sorted tree is written as the same tree.  (Numbers as keys
are ordered as numbers when they are written and as text when they are read back.)
-/

import TurtleExecution.Foundation.PyValue

set_option autoImplicit false

namespace TurtleExecution

namespace Json

def NameLe (left right : JsonText × Json) : Prop :=
  left.1.text ≤ right.1.text

instance : DecidableRel NameLe := fun left right =>
  inferInstanceAs (Decidable (left.1.text ≤ right.1.text))

mutual
/-- Every object lists its members in the order of their names, each name once. -/
def Sorted : Json → Prop
  | .array items => SortedItems items
  | .object members =>
      members.Pairwise NameLe ∧ (members.map Prod.fst).Nodup ∧ SortedMembers members
  | _ => True

def SortedItems : List Json → Prop
  | [] => True
  | item :: items => Sorted item ∧ SortedItems items

def SortedMembers : List (JsonText × Json) → Prop
  | [] => True
  | (_, value) :: members => Sorted value ∧ SortedMembers members
end

theorem sortedItems_iff {items : List Json} :
    SortedItems items ↔ ∀ item ∈ items, Sorted item := by
  induction items with
  | nil => simp [SortedItems]
  | cons item items ih => simp [SortedItems, ih]

theorem sortedMembers_iff {members : List (JsonText × Json)} :
    SortedMembers members ↔ ∀ member ∈ members, Sorted member.2 := by
  induction members with
  | nil => simp [SortedMembers]
  | cons member members ih =>
      obtain ⟨name, value⟩ := member
      simp [SortedMembers, ih]

end Json

namespace PyValue

instance : Std.Total Json.NameLe :=
  ⟨fun left right => le_total left.1.text right.1.text⟩

instance : IsTrans (JsonText × Json) Json.NameLe :=
  ⟨fun _ _ _ => le_trans⟩

def textEntry (member : JsonText × Json) : PyKey × Json :=
  (.str member.1.text, member.2)

theorem keyTexts_textEntry (members : List (JsonText × Json)) :
    keyTexts (members.map textEntry) = some members := by
  induction members with
  | nil => rfl
  | cons member members ih =>
      rw [List.map_cons, textEntry, keyTexts, ih, keyText?, JsonText.joined_text]

theorem sortable_textEntry (members : List (JsonText × Json)) :
    sortable ((members.map textEntry).map Prod.fst) = true := by
  match members with
  | [] => rfl
  | [_] => rfl
  | first :: second :: members =>
      simp [sortable, textEntry, keyLe?]

theorem sortedMembers_textEntry (members : List (JsonText × Json)) :
    sortedMembers (members.map textEntry) = some (members.insertionSort Json.NameLe) := by
  have sorted := List.map_insertionSort (r := Json.NameLe)
    (fun left right : PyKey × Json => keyLe left.1 right.1 = true) textEntry members
    (fun left _ right _ => by simp [textEntry, keyLe, keyLe?, Json.NameLe])
  rw [sortedMembers, if_pos (sortable_textEntry members), ← sorted, keyTexts_textEntry]

theorem insertionSort_eq_of_perm {left right : List (JsonText × Json)} (same : left.Perm right)
    (nodup : (left.map Prod.fst).Nodup) (sorted : left.Pairwise Json.NameLe) :
    right.insertionSort Json.NameLe = left := by
  refine List.Perm.eq_of_pairwise ?_ (List.pairwise_insertionSort Json.NameLe right) sorted
    ((List.perm_insertionSort Json.NameLe right).trans same.symm)
  intro first second isRight isLeft before after
  have sameName : first.1 = second.1 := JsonText.ext (le_antisymm before after)
  have firstIsLeft : first ∈ left :=
    same.mem_iff.mpr ((List.mem_insertionSort Json.NameLe).mp isRight)
  exact List.inj_on_of_nodup_map nodup firstIsLeft isLeft sameName

def ofMembers (members : List (JsonText × Json)) : PyDict :=
  members.map fun member => (.str member.1.text, ofJson member.2)

variable {entries : PyDict} {members : List (JsonText × Json)}

theorem ofJsonMembers_eq (nodup : (members.map Prod.fst).Nodup)
    (fresh : ∀ member ∈ members, Dict.get? entries (.str member.1.text) = Option.none) :
    ofJsonMembers entries members = entries ++ ofMembers members := by
  induction members generalizing entries with
  | nil => simp [ofJsonMembers, ofMembers]
  | cons member members ih =>
      obtain ⟨name, value⟩ := member
      obtain ⟨absent, nodup⟩ := List.nodup_cons.mp nodup
      rw [ofJsonMembers, Dict.set_of_get?_eq_none (fresh _ List.mem_cons_self), ih nodup]
      · simp [ofMembers]
      · intro other isMember
        have different : PyKey.str other.1.text ≠ .str name.text := by
          intro same
          injection same with same
          exact absent (List.mem_map.mpr ⟨other, isMember, JsonText.ext same⟩)
        rw [← Dict.set_of_get?_eq_none (fresh _ List.mem_cons_self),
          Dict.get?_set_of_ne _ _ different]
        exact fresh other (List.mem_cons_of_mem _ isMember)

theorem ofJson_object (nodup : (members.map Prod.fst).Nodup) :
    ofJson (.object members) = .dict (ofMembers members) := by
  rw [ofJson, ofJsonMembers_eq nodup (fun _ _ => rfl), List.nil_append]

theorem toJsonItems_ofJson {items : List Json}
    (same : ∀ item ∈ items, toJson (ofJson item) = some item) :
    toJsonItems (ofJsonItems items) = some items := by
  induction items with
  | nil => rfl
  | cons item items ih =>
      rw [ofJsonItems, toJsonItems, same item List.mem_cons_self,
        ih fun other member => same other (List.mem_cons_of_mem _ member)]

theorem toJsonEntries_ofMembers
    (same : ∀ member ∈ members, toJson (ofJson member.2) = some member.2) :
    toJsonEntries (ofMembers members) = some (members.map textEntry) := by
  induction members with
  | nil => rfl
  | cons member members ih =>
      have rest := ih fun other later => same other (List.mem_cons_of_mem _ later)
      rw [ofMembers] at rest ⊢
      rw [List.map_cons, toJsonEntries, same member List.mem_cons_self, rest]
      rfl

theorem toJson_ofMembers (same : ∀ member ∈ members, toJson (ofJson member.2) = some member.2) :
    toJson (.dict (ofMembers members)) = some (.object (members.insertionSort Json.NameLe)) := by
  simp only [toJson, toJsonEntries_ofMembers same, Option.bind_some, sortedMembers_textEntry,
    Option.map_some]

theorem toJson_ofJson {tree : Json} (sorted : tree.Sorted) : toJson (ofJson tree) = some tree := by
  induction tree using Json.inductionOn with
  | null => rfl
  | bool value => rfl
  | number value =>
      cases value with
      | integer value => rw [ofJson, ofNumber, toJson, intNumber?_value, Option.map_some]
      | _ => rfl
  | string value => rw [ofJson, toJson, JsonText.joined_text]
  | array items ih =>
      have itemsSorted := Json.sortedItems_iff.mp sorted
      rw [ofJson, toJson, toJsonItems_ofJson fun item member => ih item member (itemsSorted item member)]
      rfl
  | object members ih =>
      obtain ⟨ordered, nodup, membersSorted⟩ := sorted
      have valuesSorted := Json.sortedMembers_iff.mp membersSorted
      rw [ofJson_object nodup,
        toJson_ofMembers fun member isMember => ih member isMember (valuesSorted member isMember),
        List.Pairwise.insertionSort_eq ordered]

mutual
def TextKeyed : PyValue → Prop
  | .list items => TextKeyedItems items
  | .tuple items => TextKeyedItems items
  | .dict entries =>
      (∀ entry ∈ entries, ∃ name : JsonText, entry.1 = .str name.text) ∧ (entries.map Prod.fst).Nodup ∧
        TextKeyedEntries entries
  | _ => True

def TextKeyedItems : List PyValue → Prop
  | [] => True
  | item :: items => TextKeyed item ∧ TextKeyedItems items

def TextKeyedEntries : List (PyKey × PyValue) → Prop
  | [] => True
  | (_, value) :: entries => TextKeyed value ∧ TextKeyedEntries entries
end

variable {pairs : List (PyKey × Json)} {items : List PyValue}

theorem textKeyedItems_iff : TextKeyedItems items ↔ ∀ item ∈ items, TextKeyed item := by
  induction items with
  | nil => simp [TextKeyedItems]
  | cons item items ih => simp [TextKeyedItems, ih]

theorem textKeyedEntries_iff : TextKeyedEntries entries ↔ ∀ entry ∈ entries, TextKeyed entry.2 := by
  induction entries with
  | nil => simp [TextKeyedEntries]
  | cons entry entries ih =>
      obtain ⟨key, value⟩ := entry
      simp [TextKeyedEntries, ih]

@[elab_as_elim] theorem inductionOn {motive : PyValue → Prop} (value : PyValue)
    (none : motive .none)
    (bool : ∀ value, motive (.bool value))
    (int : ∀ value, motive (.int value))
    (float : ∀ value, motive (.float value))
    (str : ∀ text, motive (.str text))
    (list : ∀ items, (∀ item ∈ items, motive item) → motive (.list items))
    (tuple : ∀ items, (∀ item ∈ items, motive item) → motive (.tuple items))
    (dict : ∀ entries, (∀ entry ∈ entries, motive entry.2) → motive (.dict entries))
    (other : motive .other) : motive value :=
  @PyValue.rec motive (fun items => ∀ item ∈ items, motive item)
    (fun entries => ∀ entry ∈ entries, motive entry.2) (fun entry => motive entry.2)
    none bool int float str list tuple dict other
    (fun _ member => absurd member List.not_mem_nil)
    (fun _ _ first others => List.forall_mem_cons.mpr ⟨first, others⟩)
    (fun _ member => absurd member List.not_mem_nil)
    (fun _ _ first others => List.forall_mem_cons.mpr ⟨first, others⟩)
    (fun _ _ holds => holds) value

theorem toJsonItems_all {trees : List Json} (written : toJsonItems items = some trees) :
    ∀ tree ∈ trees, ∃ item ∈ items, toJson item = some tree := by
  induction items generalizing trees with
  | nil =>
      cases written
      simp
  | cons item items ih =>
      rw [toJsonItems] at written
      split at written
      · rename_i first others firstWritten othersWritten
        cases written
        intro tree member
        rcases List.mem_cons.mp member with rfl | later
        · exact ⟨item, List.mem_cons_self, firstWritten⟩
        · obtain ⟨source, isItem, same⟩ := ih othersWritten tree later
          exact ⟨source, List.mem_cons_of_mem _ isItem, same⟩
      · cases written

theorem toJsonEntries_text (written : toJsonEntries entries = some pairs)
    (text : ∀ entry ∈ entries, ∃ name : JsonText, entry.1 = .str name.text) :
    ∃ members : List (JsonText × Json), pairs = members.map textEntry ∧
      entries.map Prod.fst = members.map (fun member => PyKey.str member.1.text) ∧
      ∀ member ∈ members, ∃ entry ∈ entries, toJson entry.2 = some member.2 := by
  induction entries generalizing pairs with
  | nil =>
      cases written
      exact ⟨[], rfl, rfl, by simp⟩
  | cons entry entries ih =>
      obtain ⟨key, value⟩ := entry
      rw [toJsonEntries] at written
      split at written
      · rename_i tree others treeWritten othersWritten
        cases written
        obtain ⟨name, rfl⟩ := text _ List.mem_cons_self
        obtain ⟨members, rfl, keys, values⟩ := ih othersWritten
          (fun other later => text other (List.mem_cons_of_mem _ later))
        refine ⟨(name, tree) :: members, rfl, by simp [keys], ?_⟩
        intro member isMember
        rcases List.mem_cons.mp isMember with rfl | later
        · exact ⟨_, List.mem_cons_self, treeWritten⟩
        · obtain ⟨source, isEntry, same⟩ := values member later
          exact ⟨source, List.mem_cons_of_mem _ isEntry, same⟩
      · cases written

theorem nodup_names (nodup : (entries.map Prod.fst).Nodup)
    (keys : entries.map Prod.fst = members.map (fun member => PyKey.str member.1.text)) :
    (members.map Prod.fst).Nodup := by
  rw [keys] at nodup
  apply List.Nodup.of_map fun name : JsonText => PyKey.str name.text
  rw [List.map_map]
  exact nodup

theorem sorted_insertionSort (nodup : (members.map Prod.fst).Nodup)
    (values : ∀ member ∈ members, member.2.Sorted) :
    (Json.object (members.insertionSort Json.NameLe)).Sorted := by
  refine ⟨List.pairwise_insertionSort _ _, ?_, Json.sortedMembers_iff.mpr ?_⟩
  · exact (((List.perm_insertionSort Json.NameLe members).map Prod.fst).nodup_iff).mpr nodup
  · intro member isMember
    exact values member ((List.mem_insertionSort _).mp isMember)

theorem sorted_toJson {value : PyValue} {tree : Json} (keyed : TextKeyed value)
    (written : toJson value = some tree) : tree.Sorted := by
  induction value using inductionOn generalizing tree with
  | none =>
      cases written
      trivial
  | bool value =>
      cases written
      trivial
  | int value =>
      obtain ⟨number, _, rfl⟩ := Option.map_eq_some_iff.mp written
      trivial
  | float value =>
      cases written
      trivial
  | str text =>
      cases written
      trivial
  | list items ih =>
      obtain ⟨trees, itemsWritten, rfl⟩ := Option.map_eq_some_iff.mp written
      refine Json.sortedItems_iff.mpr ?_
      intro item member
      obtain ⟨source, isItem, same⟩ := toJsonItems_all itemsWritten item member
      exact ih source isItem (textKeyedItems_iff.mp keyed source isItem) same
  | tuple items ih =>
      obtain ⟨trees, itemsWritten, rfl⟩ := Option.map_eq_some_iff.mp written
      refine Json.sortedItems_iff.mpr ?_
      intro item member
      obtain ⟨source, isItem, same⟩ := toJsonItems_all itemsWritten item member
      exact ih source isItem (textKeyedItems_iff.mp keyed source isItem) same
  | dict entries ih =>
      obtain ⟨text, nodup, valuesKeyed⟩ := keyed
      obtain ⟨sortedPairs, paired, rfl⟩ := Option.map_eq_some_iff.mp written
      obtain ⟨pairs, entriesWritten, isSorted⟩ := Option.bind_eq_some_iff.mp paired
      obtain ⟨members, rfl, keys, values⟩ := toJsonEntries_text entriesWritten text
      rw [sortedMembers_textEntry] at isSorted
      cases isSorted
      refine sorted_insertionSort (nodup_names nodup keys) ?_
      intro member isMember
      obtain ⟨source, isEntry, same⟩ := values member isMember
      exact ih source isEntry (textKeyedEntries_iff.mp valuesKeyed source isEntry) same
  | other => cases written

theorem toJsonItems_forall₂ {trees : List Json} (written : toJsonItems items = some trees) :
    List.Forall₂ (fun item tree => toJson item = some tree) items trees := by
  induction items generalizing trees with
  | nil =>
      cases written
      exact .nil
  | cons item items ih =>
      rw [toJsonItems] at written
      split at written
      · rename_i tree others isTree areOthers
        cases written
        exact .cons isTree (ih areOthers)
      · cases written

theorem toJsonEntries_forall₂ (written : toJsonEntries entries = some pairs) :
    List.Forall₂ (fun entry pair => entry.1 = pair.1 ∧ toJson entry.2 = some pair.2)
      entries pairs := by
  induction entries generalizing pairs with
  | nil =>
      cases written
      exact .nil
  | cons entry entries ih =>
      obtain ⟨key, value⟩ := entry
      rw [toJsonEntries] at written
      split at written
      · rename_i tree others isTree areOthers
        cases written
        exact .cons ⟨rfl, isTree⟩ (ih areOthers)
      · cases written

theorem keyTexts_forall₂ (named : keyTexts pairs = some members) :
    List.Forall₂ (fun pair member => keyText? pair.1 = some member.1 ∧ pair.2 = member.2)
      pairs members := by
  induction pairs generalizing members with
  | nil =>
      cases named
      exact .nil
  | cons pair pairs ih =>
      obtain ⟨key, value⟩ := pair
      rw [keyTexts] at named
      split at named
      · rename_i name others isName areOthers
        cases named
        exact .cons ⟨isName, rfl⟩ (ih areOthers)
      · cases named

end PyValue

end TurtleExecution

/-
What the registry's log reads back as.

A line that was written whole is read back and its checksum agrees.  A line that was
cut is no JSON text, so it is dropped where it is the last one with content.
-/

import TurtleExecution.Registry.Storage

set_option autoImplicit false

namespace TurtleExecution.Registry

/-- An entry that is read back as it was written: none of its keys is the checksum's,
and what is read of it is written as the same text. -/
structure Storable (entry : PyDict) : Prop where
  named : ∀ item ∈ entry, ∃ name : JsonText, item.1 = .str name.text
  distinct : (entry.map Prod.fst).Nodup
  unsealed : Dict.get? entry checksumKey = none
  stable : ∀ image, PyValue.reread (.dict entry) = some image →
    dumpsText image = dumpsText (.dict entry)

theorem storable_of_textKeyed {entry : PyDict} (keyed : PyValue.TextKeyed (.dict entry))
    (unsealed : Dict.get? entry checksumKey = none) : Storable entry := by
  refine ⟨keyed.1, keyed.2.1, unsealed, ?_⟩
  intro image isImage
  obtain ⟨tree, built, rfl⟩ := Option.map_eq_some_iff.mp isImage
  rw [dumpsText, dumpsText, built, PyValue.toJson_ofJson (PyValue.sorted_toJson keyed built)]

structure Stored where
  members : List (JsonText × Json)
  record : PyValue
  checked : verified (PyValue.ofJson (.object members)) = some record

def Stored.text (stored : Stored) : Text :=
  Json.printWith [' '] (.object stored.members)

variable {cut rest : Text} {tree : Json}

variable {entry : PyDict} {name : JsonText}

private theorem get?_ofMembers {members : List (JsonText × Json)} (nodup : (members.map Prod.fst).Nodup)
    (isMember : (name, tree) ∈ members) :
    Dict.get? (PyValue.ofMembers members) (.str name.text) = some (PyValue.ofJson tree) := by
  induction members with
  | nil => cases isMember
  | cons member members ih =>
      obtain ⟨absent, nodup⟩ := List.nodup_cons.mp nodup
      rcases List.mem_cons.mp isMember with rfl | later
      · simp [PyValue.ofMembers, Dict.get?]
      · have different : PyKey.str member.1.text ≠ .str name.text := by
          intro same
          injection same with same
          exact absent (List.mem_map.mpr ⟨_, later, (JsonText.ext same).symm⟩)
        have found := ih nodup later
        rw [PyValue.ofMembers] at found ⊢
        rw [List.map_cons, Dict.get?, if_neg different, found]

private theorem filter_ofMembers (members : List (JsonText × Json)) (name : JsonText) :
    (PyValue.ofMembers members).filter (fun entry => decide (entry.1 ≠ .str name.text)) =
      PyValue.ofMembers (members.filter fun member => decide (member.1 ≠ name)) := by
  unfold PyValue.ofMembers
  rw [List.filter_map]
  congr 1
  exact List.filter_congr fun member _ => by simp [JsonText.ext_iff]

private theorem filter_insertionSort {members : List (JsonText × Json)}
    (nodup : (members.map Prod.fst).Nodup)
    (absent : name ∉ members.map Prod.fst) :
    ((members ++ [(name, tree)]).insertionSort Json.NameLe).filter
        (fun member => decide (member.1 ≠ name)) = members.insertionSort Json.NameLe := by
  have kept : (members ++ [(name, tree)]).filter (fun member => decide (member.1 ≠ name)) =
      members := by
    rw [List.filter_append, List.filter_eq_self.mpr]
    · simp
    · intro member isMember
      have different : member.1 ≠ name := by
        rintro rfl
        exact absent (List.mem_map_of_mem isMember)
      simpa using different
  have same := (List.perm_insertionSort Json.NameLe (members ++ [(name, tree)])).filter
    fun member => decide (member.1 ≠ name)
  rw [kept] at same
  refine (PyValue.insertionSort_eq_of_perm same ?_ ?_).symm
  · exact ((same.map Prod.fst).nodup_iff).mpr nodup
  · exact (List.pairwise_insertionSort Json.NameLe _).sublist List.filter_sublist

private theorem toJsonEntries_append {pairs : List (PyKey × Json)} {key : PyKey} {text : String}
    (built : PyValue.toJsonEntries entry = some pairs) :
    PyValue.toJsonEntries (entry ++ [(key, .str text)]) = some (pairs ++ [(key, .string text)]) := by
  induction entry generalizing pairs with
  | nil =>
      cases built
      rfl
  | cons first entry ih =>
      obtain ⟨firstKey, value⟩ := first
      rw [PyValue.toJsonEntries] at built
      split at built
      · rename_i tree others treeBuilt othersBuilt
        cases built
        rw [List.cons_append, PyValue.toJsonEntries, treeBuilt, ih othersBuilt]
        rfl
      · cases built

private def checksumName : JsonText := "_checksum"

private theorem checksumKey_eq : checksumKey = .str checksumName.text := rfl

theorem payload_storable {line : Text} (storable : Storable entry)
    (written : payload entry = some line) :
    ∃ stored : Stored, line = stored.text ++ ['\n'] ∧
      PyValue.reread (.dict entry) = some stored.record := by
  obtain ⟨checksum, summed, lineWritten⟩ := Option.bind_eq_some_iff.mp written
  obtain ⟨whole, wholeWritten, rfl⟩ := Option.map_eq_some_iff.mp lineWritten
  obtain ⟨canonical, canonicalWritten, checksumIs⟩ := Option.map_eq_some_iff.mp summed
  have stable := storable.stable
  obtain ⟨tree, treeBuilt, rfl⟩ := Option.map_eq_some_iff.mp canonicalWritten
  have reread : PyValue.reread (.dict entry) = some (PyValue.ofJson tree) := by
    rw [PyValue.reread, treeBuilt]
    rfl
  have recordText := stable _ reread
  rw [canonicalWritten] at recordText
  obtain ⟨sortedPairs, paired, rfl⟩ := Option.map_eq_some_iff.mp treeBuilt
  obtain ⟨pairs, entriesBuilt, isSorted⟩ := Option.bind_eq_some_iff.mp paired
  obtain ⟨members, rfl, keys, _values⟩ := PyValue.toJsonEntries_text entriesBuilt storable.named
  rw [PyValue.sortedMembers_textEntry] at isSorted
  cases isSorted
  have names := PyValue.nodup_names storable.distinct keys
  have sortedNames : ((members.insertionSort Json.NameLe).map Prod.fst).Nodup :=
    (((List.perm_insertionSort Json.NameLe members).map Prod.fst).nodup_iff).mpr names
  have absent : checksumName ∉ members.map Prod.fst := by
    intro isMember
    refine Dict.get?_eq_none_iff.mp storable.unsealed ?_
    obtain ⟨member, member_mem, isName⟩ := List.mem_map.mp isMember
    rw [Dict.keys, keys, checksumKey_eq, ← isName]
    exact List.mem_map_of_mem member_mem
  have wholeNames :
      (((members ++ [(checksumName, Json.string checksum)]).insertionSort Json.NameLe).map
        Prod.fst).Nodup := by
    rw [((List.perm_insertionSort Json.NameLe _).map Prod.fst).nodup_iff, List.map_append]
    exact List.nodup_append'.mpr ⟨names, List.nodup_singleton _, by simpa using absent⟩
  have wholeTree : PyValue.toJson (.dict (checksummed entry checksum)) =
      some (.object ((members ++ [(checksumName, Json.string checksum)]).insertionSort
        Json.NameLe)) := by
    rw [checksummed, Dict.set_of_get?_eq_none storable.unsealed, PyValue.toJson,
      toJsonEntries_append entriesBuilt, Option.bind_some,
      show members.map PyValue.textEntry ++ [(checksumKey, Json.string checksum)] =
        (members ++ [(checksumName, Json.string checksum)]).map PyValue.textEntry by
          rw [List.map_append]; rfl,
      PyValue.sortedMembers_textEntry]
    rfl
  rw [PyValue.ofJson_object sortedNames] at recordText
  have checked : verified (PyValue.ofJson (.object
      ((members ++ [(checksumName, Json.string checksum)]).insertionSort Json.NameLe))) =
        some (PyValue.ofJson (.object (members.insertionSort Json.NameLe))) := by
    have claimed := get?_ofMembers wholeNames
      ((List.mem_insertionSort Json.NameLe).mpr (List.mem_append_right members List.mem_cons_self))
    rw [PyValue.ofJson_object wholeNames, PyValue.ofJson_object sortedNames, verified,
      checksumKey_eq, claimed, filter_ofMembers, filter_insertionSort names absent]
    have actual : entryChecksum (PyValue.ofMembers (members.insertionSort Json.NameLe)) =
        some checksum := by
      rw [entryChecksum, recordText]
      exact congrArg some checksumIs
    simp only [actual, claims, PyValue.ofJson, decide_true, if_true]
  refine ⟨⟨_, _, checked⟩, ?_, ?_⟩
  · rw [dumpsText, wholeTree] at wholeWritten
    cases wholeWritten
    rfl
  · exact reread

def PlainLines (file : Text) : Prop :=
  ∀ c ∈ file, Json.IsPlain c ∨ c = '\n'

private theorem universalNewlines_plain {file : Text} (plain : PlainLines file) :
    universalNewlines file = file := by
  induction file with
  | nil => rfl
  | cons c file ih =>
      obtain ⟨first, rest⟩ := List.forall_mem_cons.mp plain
      have noReturn : c ≠ '\r' := by
        rintro rfl
        rcases first with printable | newline
        · exact absurd printable (by decide)
        · exact absurd newline (by decide)
      rw [universalNewlines.eq_def]
      split
      · rename_i nothing
        cases nothing
      · rename_i same
        exact absurd (List.cons.inj same).1 noReturn
      · rename_i same
        exact absurd (List.cons.inj same).1 noReturn
      · rename_i same
        cases same
        rw [ih rest]

theorem plain_ne_newline {text : Text} (plain : ∀ c ∈ text, Json.IsPlain c) :
    ∀ c ∈ text, c ≠ '\n' := by
  rintro c member rfl
  exact absurd (plain _ member) (by decide)

private theorem readLines_line {text : Text} (oneLine : ∀ c ∈ text, c ≠ '\n') (rest : Text) :
    readLines (text ++ '\n' :: rest) = (text ++ ['\n']) :: readLines rest := by
  induction text with
  | nil => simp [readLines]
  | cons c text ih =>
      obtain ⟨first, others⟩ := List.forall_mem_cons.mp oneLine
      rw [List.cons_append, readLines, if_neg first, ih others]
      rfl

private theorem readLines_tail {text : Text} (oneLine : ∀ c ∈ text, c ≠ '\n') (nonempty : text ≠ []) :
    readLines text = [text] := by
  induction text with
  | nil => exact absurd rfl nonempty
  | cons c text ih =>
      obtain ⟨first, others⟩ := List.forall_mem_cons.mp oneLine
      rw [readLines, if_neg first]
      cases text with
      | nil => rfl
      | cons next text => rw [ih others (List.cons_ne_nil _ _)]

theorem Stored.plain (stored : Stored) : ∀ c ∈ stored.text, Json.IsPlain c :=
  Json.plain_printWith (Json.plain_of_all (by decide)) _

theorem Stored.starts (stored : Stored) : ∃ rest, stored.text = '{' :: rest := by
  obtain ⟨members, record, checked⟩ := stored
  cases members with
  | nil => exact ⟨_, rfl⟩
  | cons member members => exact ⟨_, rfl⟩

private theorem printMembersWith_ends (members : List (JsonText × Json)) :
    ∃ start, Json.printMembersWith [' '] members = start ++ ['}'] := by
  induction members with
  | nil => exact ⟨[], rfl⟩
  | cons member members ih =>
      obtain ⟨start, same⟩ := ih
      rw [Json.printMembersWith, same]
      exact ⟨_, by simp only [← List.append_assoc, ← List.cons_append]; rfl⟩

theorem Stored.ends (stored : Stored) : ∃ start, stored.text = start ++ ['}'] := by
  obtain ⟨members, record, checked⟩ := stored
  cases members with
  | nil => exact ⟨['{'], rfl⟩
  | cons member members =>
      obtain ⟨start, same⟩ := printMembersWith_ends members
      unfold Stored.text
      rw [Json.printWith, same]
      exact ⟨_, by simp only [← List.append_assoc, ← List.cons_append]; rfl⟩

private theorem strip_brace (rest : Text) :
    strip ('{' :: rest) = ('{' :: rest).rdropWhile PyText.isSpace := rfl

theorem Stored.strip_text (stored : Stored) : strip stored.text = stored.text := by
  obtain ⟨rest, starts⟩ := stored.starts
  obtain ⟨start, ends⟩ := stored.ends
  rw [starts, strip_brace, ← starts, ends, List.rdropWhile_concat_neg _ _ _ (by decide)]

theorem Stored.strip_line (stored : Stored) : strip (stored.text ++ ['\n']) = stored.text := by
  have same := stored.strip_text
  obtain ⟨rest, starts⟩ := stored.starts
  rw [starts] at same ⊢
  rw [List.cons_append, strip_brace, ← List.cons_append, List.rdropWhile_concat_pos _ _ _ (by decide)]
  exact same

theorem Stored.strip_cut (stored : Stored) (isCut : stored.text = cut ++ rest) (nonempty : cut ≠ []) :
    strip cut ≠ [] ∧ ∃ missing, stored.text = strip cut ++ (missing ++ rest) := by
  obtain ⟨tail, starts⟩ := stored.starts
  cases cut with
  | nil => exact absurd rfl nonempty
  | cons c cut =>
      have brace : c = '{' := by
        rw [starts, List.cons_append] at isCut
        exact ((List.cons.inj isCut).1).symm
      subst brace
      obtain ⟨missing, same⟩ := List.rdropWhile_prefix PyText.isSpace ('{' :: cut)
      refine ⟨?_, missing, ?_⟩
      · rw [strip_brace]
        intro nothing
        have spaces := List.rdropWhile_eq_nil_iff.mp nothing '{' List.mem_cons_self
        exact absurd spaces (by decide)
      · rw [strip_brace, ← List.append_assoc, same, isCut]

theorem Stored.parse_text (stored : Stored) :
    Json.parse stored.text = some (.object stored.members) :=
  Json.parse_printWith (List.all_eq_true.mp (by decide)) _

theorem Stored.text_ne_nil (stored : Stored) : stored.text ≠ [] := by
  obtain ⟨rest, starts⟩ := stored.starts
  rw [starts]
  exact List.cons_ne_nil _ _

def lines (stored : List Stored) : Text :=
  stored.flatMap fun one => one.text ++ ['\n']

private theorem plainLines_lines (stored : List Stored) : PlainLines (lines stored) := by
  intro c member
  obtain ⟨one, _, inLine⟩ := List.mem_flatMap.mp member
  rcases List.mem_append.mp inLine with inText | newline
  · exact Or.inl (one.plain c inText)
  · exact Or.inr (List.mem_singleton.mp newline)

private theorem readLines_lines (stored : List Stored) (rest : Text) :
    (readLines (lines stored ++ rest)).map strip =
      stored.map Stored.text ++ (readLines rest).map strip := by
  induction stored with
  | nil => rfl
  | cons one stored ih =>
      rw [lines, List.flatMap_cons, List.append_assoc, List.append_assoc, List.singleton_append,
        readLines_line (plain_ne_newline one.plain), List.map_cons, one.strip_line]
      exact congrArg (one.text :: ·) ih

private theorem readEntries_text (stored : Stored) (lineNumber : Nat) (later : List Text) :
    readEntries lineNumber (stored.text :: later) =
      (readEntries (lineNumber + 1) later).map (stored.record :: ·) := by
  simp only [readEntries, if_neg stored.text_ne_nil, stored.parse_text, stored.checked]

private theorem readEntries_texts (stored : List Stored) (lineNumber : Nat) (later : List Text) :
    readEntries lineNumber (stored.map Stored.text ++ later) =
      (readEntries (lineNumber + stored.length) later).map (stored.map Stored.record ++ ·) := by
  induction stored generalizing lineNumber with
  | nil => cases left : readEntries lineNumber later <;> simp [left, Except.map]
  | cons one stored ih =>
      rw [List.map_cons, List.cons_append, readEntries_text, ih, List.length_cons,
        Nat.add_right_comm, Nat.add_assoc]
      cases readEntries (lineNumber + (stored.length + 1)) later <;> rfl

theorem readAll_lines (stored : List Stored) :
    readAll (lines stored) = .ok (stored.map Stored.record) := by
  have read := readLines_lines stored []
  have texts := readEntries_texts stored 1 []
  rw [List.append_nil] at read
  rw [readAll, universalNewlines_plain (plainLines_lines stored), read]
  simpa [readLines, readEntries, Except.map] using texts

theorem plain_cut {stored : Stored} (isCut : stored.text = cut ++ rest) :
    ∀ c ∈ cut, Json.IsPlain c := by
  intro c member
  refine stored.plain c ?_
  rw [isCut]
  exact List.mem_append_left rest member

private theorem plainLines_cut (stored : List Stored) {last : Stored}
    (isCut : last.text = cut ++ rest) :
    PlainLines (lines stored ++ cut) := by
  intro c member
  rcases List.mem_append.mp member with inLines | inCut
  · exact plainLines_lines stored c inLines
  · exact Or.inl (plain_cut isCut c inCut)

theorem readAll_cut (stored : List Stored) {last : Stored} (isCut : last.text = cut ++ rest)
    (nonempty : cut ≠ []) (proper : rest ≠ []) :
    readAll (lines stored ++ cut) = .ok (stored.map Stored.record) := by
  have oneLine := plain_ne_newline (plain_cut isCut)
  obtain ⟨stripped, missing, same⟩ := last.strip_cut isCut nonempty
  have unread : Json.parse (strip cut) = none := by
    refine Json.parse_prefix (List.all_eq_true.mp (by decide : [' '].all Json.isSpace = true)) same ?_
    exact fun nothing => proper (List.append_eq_nil_iff.mp nothing).2
  rw [readAll, universalNewlines_plain (plainLines_cut stored isCut), readLines_lines,
    readLines_tail oneLine nonempty, readEntries_texts]
  simp [readEntries, stripped, unread, Except.map]

theorem readAll_unended (stored : List Stored) (last : Stored) :
    readAll (lines stored ++ last.text) = .ok ((stored ++ [last]).map Stored.record) := by
  have plain := plainLines_cut stored (List.append_nil last.text).symm
  rw [readAll, universalNewlines_plain plain, readLines_lines,
    readLines_tail (plain_ne_newline last.plain) last.text_ne_nil, List.map_singleton,
    last.strip_text, readEntries_texts, readEntries_text]
  simp [readEntries, Except.map]

end TurtleExecution.Registry

/-
Lists in which the first row of each key stays.

Rows that come later are added where their key is not there yet, and compared with the row
under their key where it is.
-/

import Mathlib.Data.List.Nodup
import TurtleExecution.Foundation.Arithmetic
import TurtleExecution.Foundation.Dict

set_option autoImplicit false

namespace TurtleExecution

namespace FirstWins

variable {Row Key : Type} [DecidableEq Key] (key : Row → Key)

/-- The rows whose key is neither known nor the key of an earlier row. -/
def fresh (known : List Key) : List Row → List Row
  | [] => []
  | row :: later =>
      if key row ∈ known then fresh known later else row :: fresh (known ++ [key row]) later

def kept (rows : List Row) : List Row := fresh key [] rows

def index (rows : List Row) : Dict Key Row := rows.map fun row => (key row, row)

/-- What new rows make of the known ones: the rows under their keys, how many are added, and
the keys of those that differ from the row under their key. -/
def addAll {Error : Type} (keyOf : Row → Except Error Key) (eq : Row → Row → Except Error Bool)
    (byKey : Dict Key Row) : List Row → Except Error (Dict Key Row × Nat × List Key)
  | [] => .ok (byKey, 0, [])
  | row :: later => do
      let name ← keyOf row
      match Dict.get? byKey name with
      | none => do
          let (merged, added, conflicts) ← addAll keyOf eq (Dict.set byKey name row) later
          return (merged, added + 1, conflicts)
      | some known => do
          let same ← eq known row
          let (merged, added, conflicts) ← addAll keyOf eq byKey later
          return (merged, added, if same then conflicts else name :: conflicts)

variable {key} {known other : List Key} {rows more : List Row}

theorem fresh_congr (same : ∀ name, name ∈ known ↔ name ∈ other) :
    fresh key known rows = fresh key other rows := by
  induction rows generalizing known other with
  | nil => rfl
  | cons row later ih =>
      unfold fresh
      have added : ∀ name, name ∈ known ++ [key row] ↔ name ∈ other ++ [key row] := by
        intro name
        rw [List.mem_append, List.mem_append, same]
      by_cases isKnown : key row ∈ known
      · rw [if_pos isKnown, if_pos ((same _).mp isKnown), ih same]
      · rw [if_neg isKnown, if_neg fun isOther => isKnown ((same _).mpr isOther), ih added]

theorem fresh_append :
    fresh key known (rows ++ more) =
      fresh key known rows ++ fresh key (known ++ rows.map key) more := by
  induction rows generalizing known with
  | nil => simp [fresh]
  | cons row later ih =>
      rw [List.cons_append, fresh, fresh]
      have merged : ∀ name, name ∈ known ++ [key row] ++ later.map key ↔
          name ∈ known ++ (row :: later).map key := by
        intro name
        simp
      by_cases isKnown : key row ∈ known
      · rw [if_pos isKnown, if_pos isKnown, ih]
        refine congrArg _ (fresh_congr fun name => ?_)
        rw [← merged]
        simp only [List.mem_append, List.mem_singleton]
        constructor
        · rintro (inKnown | inLater)
          · exact .inl (.inl inKnown)
          · exact .inr inLater
        · rintro ((inKnown | rfl) | inLater)
          · exact .inl inKnown
          · exact .inl isKnown
          · exact .inr inLater
      · rw [if_neg isKnown, if_neg isKnown, ih, fresh_congr merged]
        rfl

variable {row : Row} {name : Key}

theorem mem_of_mem_fresh (member : row ∈ fresh key known rows) : row ∈ rows ∧ key row ∉ known := by
  induction rows generalizing known with
  | nil => cases member
  | cons first later ih =>
      unfold fresh at member
      split at member
      · exact ⟨List.mem_cons_of_mem _ (ih member).1, (ih member).2⟩
      · rename_i isNew
        rcases List.mem_cons.mp member with rfl | behind
        · exact ⟨List.mem_cons_self, isNew⟩
        · obtain ⟨isLater, absent⟩ := ih behind
          exact ⟨List.mem_cons_of_mem _ isLater,
            fun isKnown => absent (List.mem_append_left _ isKnown)⟩

theorem fresh_sublist : (fresh key known rows).Sublist rows := by
  induction rows generalizing known with
  | nil => exact .slnil
  | cons row later ih =>
      unfold fresh
      split
      · exact ih.cons row
      · exact ih.cons_cons row

theorem nodup_fresh : ((fresh key known rows).map key).Nodup := by
  induction rows generalizing known with
  | nil => exact List.nodup_nil
  | cons row later ih =>
      unfold fresh
      split
      · exact ih
      · refine List.nodup_cons.mpr ⟨fun member => ?_, ih⟩
        obtain ⟨other, isFresh, same⟩ := List.mem_map.mp member
        refine (mem_of_mem_fresh isFresh).2 ?_
        rw [same]
        exact List.mem_append_right _ (List.mem_singleton.mpr rfl)

theorem fresh_eq_nil (allKnown : ∀ row ∈ rows, key row ∈ known) : fresh key known rows = [] := by
  cases isFresh : fresh key known rows with
  | nil => rfl
  | cons row later =>
      obtain ⟨member, absent⟩ := mem_of_mem_fresh (isFresh ▸ List.mem_cons_self : row ∈ _)
      exact absurd (allKnown row member) absent

theorem fresh_of_nodup (distinct : (rows.map key).Nodup)
    (allNew : ∀ row ∈ rows, key row ∉ known) : fresh key known rows = rows := by
  induction rows generalizing known with
  | nil => rfl
  | cons row later ih =>
      obtain ⟨apart, laterDistinct⟩ := List.nodup_cons.mp distinct
      rw [fresh, if_neg (allNew row List.mem_cons_self), ih laterDistinct]
      intro other member isKnown
      rcases List.mem_append.mp isKnown with inKnown | same
      · exact allNew other (List.mem_cons_of_mem _ member) inKnown
      · rw [List.mem_singleton] at same
        exact apart (same ▸ List.mem_map_of_mem member)

theorem kept_append : kept key (rows ++ more) = kept key rows ++ fresh key (rows.map key) more := by
  unfold kept
  rw [fresh_append, List.nil_append]

theorem kept_of_nodup (distinct : (rows.map key).Nodup) : kept key rows = rows :=
  fresh_of_nodup distinct fun _ _ => List.not_mem_nil

theorem mem_of_mem_kept (member : row ∈ kept key rows) : row ∈ rows :=
  (mem_of_mem_fresh member).1

theorem mem_keys_kept : name ∈ (kept key rows).map key ↔ name ∈ rows.map key := by
  constructor
  · intro member
    obtain ⟨row, isKept, same⟩ := List.mem_map.mp member
    exact List.mem_map.mpr ⟨row, mem_of_mem_kept isKept, same⟩
  · intro member
    induction rows using List.reverseRecOn with
    | nil => cases member
    | append_singleton rows row ih =>
        rw [kept_append, List.map_append, List.mem_append]
        rw [List.map_append, List.mem_append] at member
        by_cases earlier : name ∈ rows.map key
        · exact .inl (ih earlier)
        · have isLast : name = key row := by
            simpa using member.resolve_left earlier
          rw [isLast] at earlier
          rw [fresh, if_neg earlier, isLast]
          exact .inr List.mem_cons_self

omit [DecidableEq Key] in
theorem eq_of_key_eq (distinct : (rows.map key).Nodup) {row first : Row} (member : row ∈ rows)
    (isFirst : first ∈ rows) (same : key row = key first) : row = first :=
  List.inj_on_of_nodup_map distinct member isFirst same

omit [DecidableEq Key] in
theorem nodup_concat (distinct : (rows.map key).Nodup) (isNew : key row ∉ rows.map key) :
    ((rows ++ [row]).map key).Nodup := by
  rw [List.map_append]
  refine distinct.append (List.nodup_singleton _) fun name inRows isLast => ?_
  rw [List.mem_singleton.mp isLast] at inRows
  exact isNew inRows

omit [DecidableEq Key] in
theorem keys_index : Dict.keys (index key rows) = rows.map key := by
  unfold Dict.keys index
  rw [List.map_map]
  rfl

theorem get?_index_eq_none : Dict.get? (index key rows) name = none ↔ name ∉ rows.map key := by
  rw [Dict.get?_eq_none_iff, keys_index]

theorem get?_index (distinct : (rows.map key).Nodup) :
    Dict.get? (index key rows) name = some row ↔ row ∈ rows ∧ key row = name := by
  constructor
  · intro found
    obtain ⟨other, member, same⟩ := List.mem_map.mp (Dict.mem_of_get? found)
    obtain ⟨isName, rfl⟩ := Prod.mk.inj same
    exact ⟨member, isName⟩
  · rintro ⟨member, rfl⟩
    have isDistinct : (Dict.keys (index key rows)).Nodup := by
      rw [keys_index]
      exact distinct
    exact Dict.get?_of_mem isDistinct
      (List.mem_map_of_mem member : (key row, row) ∈ index key rows)

theorem set_index (isNew : key row ∉ rows.map key) :
    Dict.set (index key rows) (key row) row = index key (rows ++ [row]) := by
  rw [Dict.set_of_get?_eq_none (get?_index_eq_none.mpr isNew)]
  unfold index
  rw [List.map_append]
  rfl

section

variable {Error : Type} {keyOf : Row → Except Error Key} {eq : Row → Row → Except Error Bool}
  {byKey : Dict Key Row} {first : Row} {result : Dict Key Row × Nat × List Key}

theorem addAll_known (named : keyOf row = .ok name) (found : Dict.get? byKey name = some first) :
    addAll keyOf eq byKey (row :: more) = .ok result ↔
      ∃ same all, eq first row = .ok same ∧ addAll keyOf eq byKey more = .ok all ∧
        result = (all.1, all.2.1, if same then all.2.2 else name :: all.2.2) := by
  rw [addAll, bind_of_ok named]
  simp only [found]
  constructor
  · intro computed
    obtain ⟨same, isSame, rest⟩ := ok_of_bind computed
    obtain ⟨all, isAll, final⟩ := ok_of_bind rest
    exact ⟨same, all, isSame, isAll, (Except.ok.inj final).symm⟩
  · rintro ⟨same, all, isSame, isAll, rfl⟩
    rw [bind_of_ok isSame, bind_of_ok isAll]
    rfl

theorem addAll_new (named : keyOf row = .ok name) (missing : Dict.get? byKey name = none) :
    addAll keyOf eq byKey (row :: more) = .ok result ↔
      ∃ all, addAll keyOf eq (Dict.set byKey name row) more = .ok all ∧
        result = (all.1, all.2.1 + 1, all.2.2) := by
  rw [addAll, bind_of_ok named]
  simp only [missing]
  constructor
  · intro computed
    obtain ⟨all, isAll, final⟩ := ok_of_bind computed
    exact ⟨all, isAll, (Except.ok.inj final).symm⟩
  · rintro ⟨all, isAll, rfl⟩
    rw [bind_of_ok isAll]
    rfl

/-- Where no row is without a key, the first row of each key is there. -/
theorem addAll_index (named : ∀ row, keyOf row = .ok (key row)) (distinct : (rows.map key).Nodup)
    (computed : addAll keyOf eq (index key rows) more = .ok result) :
    result.1 = index key (kept key (rows ++ more)) := by
  rw [kept_append, kept_of_nodup distinct]
  induction more generalizing rows result with
  | nil =>
      cases computed
      rw [fresh, List.append_nil]
  | cons row later ih =>
      by_cases isKnown : key row ∈ rows.map key
      · obtain ⟨first, isFirst, same⟩ := List.mem_map.mp isKnown
        obtain ⟨_, all, _, isAll, rfl⟩ :=
          (addAll_known (named row) ((get?_index distinct).mpr ⟨isFirst, same⟩)).mp computed
        have rest := ih distinct isAll
        rw [fresh, if_pos isKnown]
        exact rest
      · obtain ⟨all, isAll, rfl⟩ :=
          (addAll_new (named row) (get?_index_eq_none.mpr isKnown)).mp computed
        rw [set_index isKnown] at isAll
        have rest := ih (nodup_concat distinct isKnown) isAll
        rw [List.map_append] at rest
        rw [fresh, if_neg isKnown, List.append_cons]
        exact rest

end

end FirstWins

end TurtleExecution

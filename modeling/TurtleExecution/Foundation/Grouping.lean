/-
Dictionaries that count keys, and dictionaries of the items that share a key.
-/

import Mathlib.Algebra.BigOperators.Group.List.Lemmas
import Mathlib.Algebra.GroupWithZero.Nat
import Mathlib.Data.Finset.Card
import Mathlib.Data.List.Basic
import Mathlib.Data.List.Nodup
import TurtleExecution.Foundation.Dict

set_option autoImplicit false

namespace TurtleExecution.Dict

variable {Item Key : Type} [DecidableEq Key] (keyOf : Item → Key)

def groupBy (items : List Item) : Dict Key (List Item) :=
  items.foldl
    (fun groups item =>
      groups.set (keyOf item) ((groups.get? (keyOf item)).getD [] ++ [item])) []

def withKey (items : List Item) (key : Key) : List Item :=
  items.filter fun item => keyOf item = key

variable {items : List Item} {key : Key}

theorem mem_withKey {item : Item} :
    item ∈ withKey keyOf items key ↔ item ∈ items ∧ keyOf item = key := by
  rw [withKey, List.mem_filter, decide_eq_true_iff]

theorem groupBy_concat (items : List Item) (item : Item) :
    groupBy keyOf (items ++ [item]) =
      (groupBy keyOf items).set (keyOf item)
        (((groupBy keyOf items).get? (keyOf item)).getD [] ++ [item]) := by
  simp only [groupBy, List.foldl_append, List.foldl_cons, List.foldl_nil]

theorem withKey_concat (items : List Item) (item : Item) (key : Key) :
    withKey keyOf (items ++ [item]) key =
      withKey keyOf items key ++ if key = keyOf item then [item] else [] := by
  rw [withKey, withKey, List.filter_append, List.filter_singleton]
  by_cases same : keyOf item = key
  · simp [same]
  · simp [same, Ne.symm same]

theorem get?_groupBy (items : List Item) (key : Key) :
    get? (groupBy keyOf items) key =
      if withKey keyOf items key = [] then none else some (withKey keyOf items key) := by
  induction items using List.reverseRecOn with
  | nil => rfl
  | append_singleton items item ih =>
      rw [groupBy_concat, get?_set, withKey_concat]
      by_cases same : key = keyOf item
      · subst same
        rw [ih, if_pos rfl, if_pos rfl, if_neg (List.append_ne_nil_of_right_ne_nil _ (by simp))]
        split
        · rename_i empty
          rw [empty]
          rfl
        · rfl
      · rw [if_neg same, if_neg same, List.append_nil, ih]

theorem nodup_keys_groupBy (items : List Item) : (keys (groupBy keyOf items)).Nodup := by
  induction items using List.reverseRecOn with
  | nil => exact List.nodup_nil
  | append_singleton items item ih =>
      rw [groupBy_concat]
      exact nodup_keys_set ih _ _

theorem mem_groupBy {group : List Item} :
    (key, group) ∈ groupBy keyOf items ↔ group = withKey keyOf items key ∧ group ≠ [] := by
  have found := get?_groupBy keyOf items key
  constructor
  · intro member
    rw [get?_of_mem (nodup_keys_groupBy keyOf items) member] at found
    split at found
    · cases found
    · rename_i nonempty
      cases found
      exact ⟨rfl, nonempty⟩
  · intro isGroup
    rw [← isGroup.1, if_neg isGroup.2] at found
    exact mem_of_get? found

theorem mem_keys_groupBy : key ∈ keys (groupBy keyOf items) ↔ ∃ item ∈ items, keyOf item = key := by
  have absent : get? (groupBy keyOf items) key = none ↔ key ∉ keys (groupBy keyOf items) :=
    get?_eq_none_iff
  rw [get?_groupBy] at absent
  constructor
  · intro member
    have nonempty : withKey keyOf items key ≠ [] := by
      intro empty
      rw [if_pos empty] at absent
      exact absent.mp rfl member
    obtain ⟨item, isItem⟩ := List.exists_mem_of_ne_nil _ nonempty
    exact ⟨item, (mem_withKey keyOf).mp isItem⟩
  · rintro ⟨item, isItem, hasKey⟩
    have member : item ∈ withKey keyOf items key := (mem_withKey keyOf).mpr ⟨isItem, hasKey⟩
    rw [if_neg (List.ne_nil_of_mem member)] at absent
    by_contra outside
    cases absent.mpr outside

theorem perm_flatMap_withKey {keys : List Key} (distinct : keys.Nodup)
    (covered : ∀ item ∈ items, keyOf item ∈ keys) :
    (keys.flatMap (withKey keyOf items)).Perm items := by
  induction keys generalizing items with
  | nil =>
      cases items with
      | nil => exact List.Perm.refl _
      | cons item items => exact absurd (covered item List.mem_cons_self) List.not_mem_nil
  | cons key keys ih =>
      obtain ⟨notIn, distinct⟩ := List.nodup_cons.mp distinct
      have coveredRest : ∀ item ∈ items.filter fun item => keyOf item ≠ key, keyOf item ∈ keys := by
        intro item member
        obtain ⟨isItem, different⟩ := List.mem_filter.mp member
        exact (List.mem_cons.mp (covered item isItem)).resolve_left (of_decide_eq_true different)
      have others := ih distinct coveredRest
      have same : keys.flatMap (withKey keyOf (items.filter fun item => keyOf item ≠ key)) =
          keys.flatMap (withKey keyOf items) := by
        refine List.flatMap_congr fun other member => ?_
        rw [withKey, withKey, List.filter_filter]
        refine List.filter_congr fun item _ => ?_
        have different : other ≠ key := fun equal => notIn (equal ▸ member)
        by_cases here : keyOf item = other
        · simp [here, different]
        · simp [here]
      rw [same] at others
      rw [List.flatMap_cons]
      exact (others.append_left _).trans (by simpa [withKey] using List.filter_append_perm _ items)

theorem perm_groupBy (items : List Item) :
    ((groupBy keyOf items).flatMap Prod.snd).Perm items := by
  have groups : (groupBy keyOf items).flatMap Prod.snd =
      (keys (groupBy keyOf items)).flatMap (withKey keyOf items) := by
    rw [keys, List.flatMap_map]
    exact List.flatMap_congr fun group member => ((mem_groupBy keyOf).mp member).1
  rw [groups]
  refine perm_flatMap_withKey keyOf (nodup_keys_groupBy keyOf items) fun item member => ?_
  exact (mem_keys_groupBy keyOf).mpr ⟨item, member, rfl⟩

end TurtleExecution.Dict

namespace TurtleExecution

namespace Dict

variable {Key : Type} [DecidableEq Key]

/-- How often each key comes, in the order in which the keys come first. -/
def tally (names : List Key) : Dict Key Nat :=
  names.foldl (fun seen name => set seen name ((get? seen name).getD 0 + 1)) []

theorem tally_concat (names : List Key) (name : Key) :
    tally (names ++ [name]) =
      set (tally names) name ((get? (tally names) name).getD 0 + 1) := by
  unfold tally
  rw [List.foldl_append, List.foldl_cons, List.foldl_nil]

theorem nodup_keys_tally (names : List Key) : (keys (tally names)).Nodup := by
  induction names using List.reverseRecOn with
  | nil => exact List.nodup_nil
  | append_singleton names name ih =>
      rw [tally_concat]
      exact nodup_keys_set ih _ _

theorem get?_tally (names : List Key) (name : Key) :
    get? (tally names) name = if name ∈ names then some (names.count name) else none := by
  induction names using List.reverseRecOn with
  | nil => rfl
  | append_singleton names last ih =>
      have counted : (get? (tally names) name).getD 0 = names.count name := by
        rw [ih]
        split
        · rfl
        · rename_i absent
          exact (List.count_eq_zero.mpr absent).symm
      rw [tally_concat, get?_set, List.count_append]
      by_cases same : name = last
      · subst same
        rw [if_pos rfl, counted, if_pos (List.mem_append_right _ List.mem_cons_self),
          List.count_singleton_self]
      · rw [if_neg same, ih, List.count_singleton]
        simp [same, Ne.symm same]

theorem tally_le_one_iff {names : List Key} :
    (∀ item ∈ tally names, item.2 ≤ 1) ↔ names.Nodup := by
  rw [List.nodup_iff_count_le_one]
  constructor
  · intro once name
    by_cases member : name ∈ names
    · have found := get?_tally names name
      rw [if_pos member] at found
      exact once _ (mem_of_get? found)
    · rw [List.count_eq_zero.mpr member]
      exact Nat.zero_le 1
  · intro once item isItem
    have found := get?_of_mem (nodup_keys_tally names) isItem
    rw [get?_tally] at found
    split at found
    · rw [← Option.some.inj found]
      exact once item.1
    · cases found

theorem mem_keys_tally {names : List Key} {name : Key} :
    name ∈ keys (tally names) ↔ name ∈ names := by
  have found := get?_tally names name
  constructor
  · intro member
    by_contra absent
    rw [if_neg absent] at found
    exact get?_eq_none_iff.mp found member
  · intro member
    rw [if_pos member] at found
    by_contra absent
    rw [get?_eq_none_iff.mpr absent] at found
    cases found

theorem keys_tally_perm (names : List Key) : (keys (tally names)).Perm names.dedup := by
  refine (List.perm_ext_iff_of_nodup (nodup_keys_tally names) names.nodup_dedup).mpr ?_
  intro name
  rw [mem_keys_tally, List.mem_dedup]

theorem length_tally (names : List Key) : (tally names).length = names.toFinset.card := by
  have lengths := (keys_tally_perm names).length_eq
  rw [keys, List.length_map] at lengths
  rw [lengths, List.card_toFinset]

theorem counts_tally (names : List Key) :
    (tally names).map Prod.snd = (keys (tally names)).map fun name => names.count name := by
  rw [keys, List.map_map]
  refine List.map_congr_left fun item isItem => ?_
  have found := get?_of_mem (nodup_keys_tally names) isItem
  rw [get?_tally] at found
  split at found
  · exact (Option.some.inj found).symm
  · cases found

theorem sum_tally (names : List Key) : ((tally names).map Prod.snd).sum = names.length := by
  rw [counts_tally, ((keys_tally_perm names).map _).sum_eq]
  exact List.sum_map_count_dedup_eq_length names

omit [DecidableEq Key] in
theorem sum_excess {items : Dict Key Nat} (counted : ∀ item ∈ items, 1 ≤ item.2) :
    ((items.filter fun item => 1 < item.2).map fun item => item.2 - 1).sum + items.length =
      (items.map Prod.snd).sum := by
  induction items with
  | nil => rfl
  | cons item items ih =>
      obtain ⟨first, later⟩ := List.forall_mem_cons.mp counted
      have rest := ih later
      rw [List.map_cons, List.sum_cons, List.length_cons, List.filter_cons]
      by_cases many : 1 < item.2
      · rw [if_pos (decide_eq_true many), List.map_cons, List.sum_cons]
        omega
      · rw [if_neg (by simpa using many)]
        omega

theorem sum_excess_tally (names : List Key) :
    (((tally names).filter fun item => 1 < item.2).map fun item => item.2 - 1).sum +
      names.toFinset.card = names.length := by
  have counted : ∀ item ∈ tally names, 1 ≤ item.2 := by
    intro item isItem
    have found := get?_of_mem (nodup_keys_tally names) isItem
    rw [get?_tally] at found
    split at found
    · rename_i member
      rw [← Option.some.inj found]
      exact List.count_pos_iff.mpr member
    · cases found
  rw [← length_tally, sum_excess counted, sum_tally]

end Dict

end TurtleExecution

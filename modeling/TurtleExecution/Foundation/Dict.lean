/-
Insertion-ordered dictionaries.

A dictionary is the list of its items.  Setting a key that is present keeps the
key's place; a new key goes to the end.
-/

import Mathlib.Data.List.Induction

set_option autoImplicit false

namespace TurtleExecution

abbrev Dict (Key Value : Type) := List (Key × Value)

namespace Dict

variable {Key Value : Type} [DecidableEq Key]

def get? (dict : Dict Key Value) (key : Key) : Option Value :=
  match dict with
  | [] => none
  | (known, value) :: rest => if known = key then some value else get? rest key

def set (dict : Dict Key Value) (key : Key) (value : Value) : Dict Key Value :=
  match dict with
  | [] => [(key, value)]
  | (known, old) :: rest =>
      if known = key then (known, value) :: rest else (known, old) :: set rest key value

/-- `dict.pop(key, None)`, without what it returns. -/
def erase (dict : Dict Key Value) (key : Key) : Dict Key Value :=
  match dict with
  | [] => []
  | (known, value) :: rest => if known = key then erase rest key else (known, value) :: erase rest key

def keys (dict : Dict Key Value) : List Key :=
  dict.map Prod.fst

/-- A comprehension over items, where the last item with a key wins. -/
def ofItems (items : List (Key × Value)) : Dict Key Value :=
  items.foldl (fun dict item => set dict item.1 item.2) []

@[simp] theorem get?_nil (key : Key) : get? ([] : Dict Key Value) key = none := rfl

@[simp] theorem get?_set_self (dict : Dict Key Value) (key : Key) (value : Value) :
    get? (set dict key value) key = some value := by
  induction dict with
  | nil => simp [set, get?]
  | cons item rest ih =>
      by_cases same : item.1 = key
      · simp [set, get?, same]
      · simp [set, get?, same, ih]

theorem get?_set_of_ne (dict : Dict Key Value) {key other : Key} (value : Value)
    (different : other ≠ key) : get? (set dict key value) other = get? dict other := by
  induction dict with
  | nil => simp [set, get?, Ne.symm different]
  | cons item rest ih =>
      by_cases same : item.1 = key
      · have miss : item.1 ≠ other := fun equal => different (equal.symm.trans same)
        simp [set, get?, same, Ne.symm different]
      · by_cases hit : item.1 = other
        · simp [set, get?, hit, different]
        · simp [set, get?, same, hit, ih]

theorem get?_set (dict : Dict Key Value) (key other : Key) (value : Value) :
    get? (set dict key value) other = if other = key then some value else get? dict other := by
  by_cases same : other = key
  · subst same
    simp
  · rw [get?_set_of_ne dict value same, if_neg same]

theorem get?_erase (dict : Dict Key Value) (key other : Key) :
    get? (erase dict key) other = if other = key then none else get? dict other := by
  induction dict with
  | nil => simp [erase]
  | cons item rest ih =>
      by_cases same : item.1 = key
      · by_cases hit : other = key
        · simp [erase, same, hit] at ih ⊢
          exact ih
        · simp [erase, get?, same, hit, ih, Ne.symm hit]
      · by_cases hit : item.1 = other
        · have different : other ≠ key := fun equal => same (hit.trans equal)
          simp [erase, get?, hit, different]
        · simp [erase, get?, same, hit, ih]

variable {dict : Dict Key Value} {entry : Key × Value} {key : Key}

theorem get?_eq_none_iff : get? dict key = none ↔ key ∉ keys dict := by
  induction dict with
  | nil => simp [keys]
  | cons item rest ih =>
      by_cases same : item.1 = key
      · simp [get?, keys, same]
      · simp only [keys] at ih
        simp [get?, keys, same, ih, Ne.symm same]

theorem get?_ofItems (items : List (Key × Value)) (key : Key) :
    get? (ofItems items) key =
      ((items.filter fun item => item.1 = key).getLast?).map Prod.snd := by
  induction items using List.reverseRecOn with
  | nil => rfl
  | append_singleton items item ih =>
      have built : ofItems (items ++ [item]) = set (ofItems items) item.1 item.2 := by
        simp only [ofItems, List.foldl_append, List.foldl_cons, List.foldl_nil]
      rw [built, get?_set, List.filter_append]
      by_cases same : item.1 = key
      · simp [same]
      · simp [same, Ne.symm same, ih]

theorem mem_of_get? {value : Value} (found : get? dict key = some value) : (key, value) ∈ dict := by
  induction dict with
  | nil => cases found
  | cons item rest ih =>
      by_cases same : item.1 = key
      · simp only [get?, same, if_true, Option.some.injEq] at found
        subst same found
        exact List.mem_cons_self
      · simp only [get?, same, if_false] at found
        exact List.mem_cons_of_mem _ (ih found)

theorem mem_set {value : Value} (member : entry ∈ set dict key value) :
    entry = (key, value) ∨ entry ∈ dict := by
  induction dict with
  | nil => exact Or.inl (List.mem_singleton.mp member)
  | cons item rest ih =>
      unfold set at member
      split at member
      · rename_i same
        rcases List.mem_cons.mp member with here | later
        · rw [same] at here
          exact Or.inl here
        · exact Or.inr (List.mem_cons_of_mem _ later)
      · rcases List.mem_cons.mp member with here | later
        · exact Or.inr (here ▸ List.mem_cons_self)
        · exact (ih later).imp_right (List.mem_cons_of_mem _)

theorem nodup_keys_set (distinct : (keys dict).Nodup) (key : Key) (value : Value) :
    (keys (set dict key value)).Nodup := by
  induction dict with
  | nil => exact List.nodup_cons.mpr ⟨List.not_mem_nil, List.nodup_nil⟩
  | cons item rest ih =>
      obtain ⟨fresh, restDistinct⟩ := List.nodup_cons.mp distinct
      unfold set
      split
      · exact distinct
      · rename_i different
        refine List.nodup_cons.mpr ⟨?_, ih restDistinct⟩
        intro member
        obtain ⟨entry, isEntry, sameKey⟩ := List.mem_map.mp member
        rcases mem_set isEntry with rfl | old
        · exact different sameKey.symm
        · exact fresh (List.mem_map.mpr ⟨entry, old, sameKey⟩)

theorem set_of_get?_eq_none (absent : get? dict key = none) (value : Value) :
    set dict key value = dict ++ [(key, value)] := by
  induction dict with
  | nil => rfl
  | cons item rest ih =>
      by_cases same : item.1 = key
      · simp [get?, same] at absent
      · simp only [get?, same, if_false] at absent
        simp [set, same, ih absent]

theorem get?_of_mem (distinct : (keys dict).Nodup) (member : entry ∈ dict) :
    get? dict entry.1 = some entry.2 := by
  induction dict with
  | nil => cases member
  | cons first rest ih =>
      obtain ⟨absent, restDistinct⟩ := List.nodup_cons.mp distinct
      rcases List.mem_cons.mp member with here | later
      · rw [here, get?, if_pos rfl]
      · rw [get?, if_neg, ih restDistinct later]
        intro same
        exact absent (List.mem_map.mpr ⟨entry, later, same.symm⟩)

theorem get?_of_perm {other : Dict Key Value} (distinct : (keys dict).Nodup) (same : other.Perm dict)
    (key : Key) : get? other key = get? dict key := by
  have otherDistinct : (keys other).Nodup := (same.map Prod.fst).nodup_iff.mpr distinct
  apply Option.ext
  intro value
  constructor
  · exact fun found => get?_of_mem distinct (same.mem_iff.mp (mem_of_get? found))
  · exact fun found => get?_of_mem otherDistinct (same.mem_iff.mpr (mem_of_get? found))

theorem ofItems_concat (items : List (Key × Value)) (item : Key × Value) :
    ofItems (items ++ [item]) = set (ofItems items) item.1 item.2 := by
  simp only [ofItems, List.foldl_append, List.foldl_cons, List.foldl_nil]

theorem nodup_keys_ofItems (items : List (Key × Value)) : (keys (ofItems items)).Nodup := by
  induction items using List.reverseRecOn with
  | nil => exact List.nodup_nil
  | append_singleton items item ih =>
      rw [ofItems_concat]
      exact nodup_keys_set ih _ _

theorem mem_of_mem_ofItems {items : List (Key × Value)} (member : entry ∈ ofItems items) :
    entry ∈ items := by
  induction items using List.reverseRecOn with
  | nil => cases member
  | append_singleton items item ih =>
      rw [ofItems_concat] at member
      rcases mem_set member with here | earlier
      · rw [here]
        exact List.mem_append_right _ List.mem_cons_self
      · exact List.mem_append_left _ (ih earlier)

theorem ofItems_of_nodup {items : List (Key × Value)} (distinct : (items.map Prod.fst).Nodup) :
    ofItems items = items := by
  induction items using List.reverseRecOn with
  | nil => rfl
  | append_singleton items item ih =>
      rw [List.map_append, List.nodup_append] at distinct
      obtain ⟨before, _, apart⟩ := distinct
      rw [ofItems_concat, ih before]
      apply set_of_get?_eq_none
      exact get?_eq_none_iff.mpr fun member => apart _ member _ (List.mem_singleton.mpr rfl) rfl

variable {Other : Type}

def mapValues (change : Value → Other) (dict : Dict Key Value) : Dict Key Other :=
  dict.map fun item => (item.1, change item.2)

theorem get?_mapValues (change : Value → Other) (dict : Dict Key Value) (key : Key) :
    get? (mapValues change dict) key = (get? dict key).map change := by
  induction dict with
  | nil => rfl
  | cons item rest ih =>
      by_cases same : item.1 = key
      · simp [mapValues, get?, same]
      · simp only [mapValues] at ih
        simp [mapValues, get?, same, ih]

theorem mapValues_set (change : Value → Other) (dict : Dict Key Value) (key : Key) (value : Value) :
    mapValues change (set dict key value) = set (mapValues change dict) key (change value) := by
  induction dict with
  | nil => rfl
  | cons item rest ih =>
      by_cases same : item.1 = key
      · simp [mapValues, set, same]
      · simp only [mapValues] at ih
        simp [mapValues, set, same, ih]

theorem mapValues_erase (change : Value → Other) (dict : Dict Key Value) (key : Key) :
    mapValues change (erase dict key) = erase (mapValues change dict) key := by
  induction dict with
  | nil => rfl
  | cons item rest ih =>
      simp only [mapValues] at ih
      by_cases same : item.1 = key
      · simp [mapValues, erase, same, ih]
      · simp [mapValues, erase, same, ih]

def Related (related : Value → Other → Prop) (left : Dict Key Value) (right : Dict Key Other) :
    Prop :=
  List.Forall₂ (fun item other => item.1 = other.1 ∧ related item.2 other.2) left right

variable {related : Value → Other → Prop} {left : Dict Key Value} {right : Dict Key Other}

omit [DecidableEq Key] in
theorem Related.keys_eq (pairs : Related related left right) : keys left = keys right := by
  induction pairs with
  | nil => rfl
  | cons pair _ ih => exact congrArg₂ List.cons pair.1 ih

theorem Related.get? (pairs : Related related left right) (key : Key) :
    (get? left key = none ∧ get? right key = none) ∨
      ∃ value other, get? left key = some value ∧ get? right key = some other ∧
        related value other := by
  induction pairs with
  | nil => exact Or.inl ⟨rfl, rfl⟩
  | @cons item other _ _ pair _ ih =>
      obtain ⟨sameKey, isRelated⟩ := pair
      rw [Dict.get?, Dict.get?, ← sameKey]
      by_cases same : item.1 = key
      · rw [if_pos same, if_pos same]
        exact Or.inr ⟨item.2, other.2, rfl, rfl, isRelated⟩
      · rw [if_neg same, if_neg same]
        exact ih

theorem Related.set (pairs : Related related left right) (key : Key) {value : Value} {other : Other}
    (isRelated : related value other) :
    Related related (set left key value) (set right key other) := by
  induction pairs with
  | nil => exact .cons ⟨rfl, isRelated⟩ .nil
  | @cons item _ _ _ pair rest ih =>
      rw [Dict.set, Dict.set, ← pair.1]
      by_cases same : item.1 = key
      · rw [if_pos same, if_pos same]
        exact .cons ⟨rfl, isRelated⟩ rest
      · rw [if_neg same, if_neg same]
        exact .cons ⟨rfl, pair.2⟩ ih

end Dict

end TurtleExecution

namespace TurtleExecution.Dict

def IsLast {Item Value : Type} (log : List (Item × Value)) (item : Item) (value : Value) : Prop :=
  ∃ earlier later, log = earlier ++ (item, value) :: later ∧ ∀ entry ∈ later, entry.1 ≠ item

theorem isLast_concat {Item Value : Type} {log : List (Item × Value)} {entry : Item × Value}
    {item : Item} {value : Value} :
    IsLast (log ++ [entry]) item value ↔
      (entry.1 = item ∧ entry.2 = value) ∨ (entry.1 ≠ item ∧ IsLast log item value) := by
  constructor
  · rintro ⟨earlier, later, split, none_⟩
    induction later using List.reverseRecOn with
    | nil =>
        obtain ⟨_, isEntry⟩ := List.append_inj' split rfl
        cases List.singleton_inj.mp isEntry
        exact Or.inl ⟨rfl, rfl⟩
    | append_singleton later last =>
        rw [← List.cons_append, ← List.append_assoc] at split
        obtain ⟨isLog, isEntry⟩ := List.append_inj' split rfl
        cases List.singleton_inj.mp isEntry
        refine Or.inr ⟨none_ entry (List.mem_append_right _ List.mem_cons_self), earlier, later,
          isLog, fun other member => none_ other (List.mem_append_left _ member)⟩
  · rintro (⟨rfl, rfl⟩ | ⟨different, earlier, later, rfl, none_⟩)
    · exact ⟨log, [], rfl, nofun⟩
    · refine ⟨earlier, later ++ [entry], by simp, fun other member => ?_⟩
      rcases List.mem_append.mp member with old | new
      · exact none_ other old
      · rw [List.mem_singleton.mp new]
        exact different

/-- A dictionary of the entries has the last value of each item, where no two items that occur
have one key. -/
theorem get?_ofItems_eq_some_iff {Item Key Value : Type} [DecidableEq Key] (key : Item → Key)
    {log : List (Item × Value)} {item : Item} {value : Value}
    (separate : ∀ entry ∈ log, key entry.1 = key item → entry.1 = item) :
    get? (ofItems (log.map fun entry => (key entry.1, entry.2))) (key item) = some value ↔
      IsLast log item value := by
  induction log using List.reverseRecOn with
  | nil =>
      constructor
      · intro impossible
        cases impossible
      · rintro ⟨earlier, later, split, _⟩
        cases earlier <;> cases split
  | append_singleton log entry ih =>
      have earlier : ∀ entry ∈ log, key entry.1 = key item → entry.1 = item :=
        fun entry member => separate entry (List.mem_append_left _ member)
      have last := separate entry (List.mem_append_right _ List.mem_cons_self)
      rw [List.map_append, List.map_cons, List.map_nil, ofItems_concat, get?_set,
        isLast_concat, ← ih earlier]
      by_cases same : entry.1 = item
      · simp [same]
      · have different : key item ≠ key entry.1 := fun keys => same (last keys.symm)
        simp [same, different]

end TurtleExecution.Dict

namespace TurtleExecution.Dict

variable {Key Value : Type} [DecidableEq Key] [DecidableEq Value]

/-- One dictionary maps a key to a value exactly where the other maps the value back. -/
def Inverse (forward : Dict Key Value) (backward : Dict Value Key) : Prop :=
  ∀ key value, forward.get? key = some value ↔ backward.get? value = some key

theorem inverse_nil : Inverse ([] : Dict Key Value) [] := by
  intro key value
  simp

theorem Inverse.set {forward : Dict Key Value} {backward : Dict Value Key}
    (inverse : Inverse forward backward) {key : Key} {value : Value}
    (keyFree : ∀ known, forward.get? key = some known → known = value)
    (valueFree : ∀ known, backward.get? value = some known → known = key) :
    Inverse (forward.set key value) (backward.set value key) := by
  intro other target
  rw [get?_set, get?_set]
  by_cases sameKey : other = key
  · by_cases sameValue : target = value
    · rw [if_pos sameKey, if_pos sameValue, sameKey, sameValue]
      exact iff_of_true rfl rfl
    · rw [if_pos sameKey, if_neg sameValue, sameKey]
      constructor
      · intro mapped
        exact absurd (Option.some.inj mapped).symm sameValue
      · intro back
        exact absurd (keyFree target ((inverse key target).mpr back)) sameValue
  · by_cases sameValue : target = value
    · rw [if_neg sameKey, if_pos sameValue, sameValue]
      constructor
      · intro mapped
        exact absurd (valueFree other ((inverse other value).mp mapped)) sameKey
      · intro back
        exact absurd (Option.some.inj back).symm sameKey
    · rw [if_neg sameKey, if_neg sameValue]
      exact inverse other target

end TurtleExecution.Dict

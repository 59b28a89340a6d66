/-
Texts that are read, and the other notations of what they are read as.

Names are told apart by an owner and a text.  The number of distinct names counts an owner's
moment once for each of its notations, so it survives every rewriting only where no moment of
an owner is written twice.
-/

import Mathlib.Data.Finset.Card
import Mathlib.Data.List.Forall2

set_option autoImplicit false

namespace TurtleExecution

namespace Notations

theorem pairwise_of_splits {Name : Type} {related : Name → Name → Prop} {names : List Name}
    (splits : ∀ before name after, names = before ++ name :: after →
      ∀ earlier ∈ before, related earlier name) : names.Pairwise related := by
  induction names using List.reverseRecOn with
  | nil => exact .nil
  | append_singleton names last ih =>
      refine List.pairwise_append.mpr ⟨ih ?_, List.pairwise_singleton _ _, ?_⟩
      · intro before name after split
        refine splits before name (after ++ [last]) ?_
        rw [split, List.append_assoc, List.cons_append]
      · intro earlier member later isLast
        rw [List.mem_singleton.mp isLast]
        exact splits names last [] rfl earlier member

section

variable {Name : Type} [DecidableEq Name]

def distinct (names : List Name) : Nat := names.toFinset.card

theorem distinct_cons (name : Name) (names : List Name) :
    distinct (name :: names) = if name ∈ names then distinct names else distinct names + 1 := by
  unfold distinct
  rw [List.toFinset_cons, Finset.card_insert_eq_ite]
  simp only [List.mem_toFinset]

/-- A name that is replaced leaves the number as it is where both of them are known elsewhere,
or neither is. -/
theorem distinct_replace_iff {before after : List Name} {name other : Name} :
    distinct (before ++ other :: after) = distinct (before ++ name :: after) ↔
      (other ∈ before ++ after ↔ name ∈ before ++ after) := by
  have moved : ∀ moved, distinct (before ++ moved :: after) =
      distinct (moved :: (before ++ after)) := by
    intro moved
    have perm : (before ++ moved :: after).Perm (moved :: (before ++ after)) := List.perm_middle
    exact congrArg Finset.card (List.toFinset_eq_of_perm _ _ perm)
  rw [moved, moved, distinct_cons, distinct_cons]
  by_cases isOther : other ∈ before ++ after <;> by_cases isName : name ∈ before ++ after <;>
    simp [isOther, isName]

end

variable {Owner Text Instant : Type} (read : Text → Option Instant)

/-- The other text is read as the same instant, or is the text itself. -/
def Renotes (text other : Text) : Prop :=
  other = text ∨ ∃ instant, read text = some instant ∧ read other = some instant

def SameMoment (left right : Owner × Text) : Prop :=
  left.1 = right.1 ∧ ∃ instant, read left.2 = some instant ∧ read right.2 = some instant

def Rewrites (name other : Owner × Text) : Prop :=
  other.1 = name.1 ∧ Renotes read name.2 other.2

def Endless : Prop :=
  ∀ text instant, read text = some instant →
    ∀ known : Finset Text, ∃ other, other ∉ known ∧ read other = some instant

variable {read}

theorem renotes_self (text : Text) : Renotes read text text := Or.inl rfl

theorem Renotes.read_eq {text other : Text} (renotes : Renotes read text other) :
    read other = read text := by
  rcases renotes with rfl | ⟨instant, isText, isOther⟩
  · rfl
  · rw [isText, isOther]

theorem rewritten_eq_iff {left right newLeft newRight : Owner × Text}
    (rewritesLeft : Rewrites read left newLeft) (rewritesRight : Rewrites read right newRight)
    (different : ¬ SameMoment read left right) : newLeft = newRight ↔ left = right := by
  obtain ⟨leftOwner, leftText⟩ := rewritesLeft
  obtain ⟨rightOwner, rightText⟩ := rewritesRight
  rcases leftText with sameLeft | ⟨instant, isLeft, isNewLeft⟩
  · rcases rightText with sameRight | ⟨instant, isRight, isNewRight⟩
    · rw [Prod.ext leftOwner sameLeft, Prod.ext rightOwner sameRight]
    · constructor
      · rintro rfl
        refine absurd ⟨leftOwner.symm.trans rightOwner, instant, ?_, isRight⟩ different
        rw [← sameLeft]
        exact isNewRight
      · rintro rfl
        exact absurd ⟨rfl, instant, isRight, isRight⟩ different
  · constructor
    · rintro rfl
      refine absurd ⟨leftOwner.symm.trans rightOwner, instant, isLeft, ?_⟩ different
      rw [← Renotes.read_eq rightText]
      exact isNewLeft
    · rintro rfl
      exact absurd ⟨rfl, instant, isLeft, isLeft⟩ different

theorem rewrites_self (names : List (Owner × Text)) : List.Forall₂ (Rewrites read) names names := by
  induction names with
  | nil => exact .nil
  | cons name names ih => exact .cons ⟨rfl, renotes_self _⟩ ih

theorem rewrites_one {before after : List (Owner × Text)} {name other : Owner × Text}
    (rewrites : Rewrites read name other) :
    List.Forall₂ (Rewrites read) (before ++ name :: after) (before ++ other :: after) := by
  refine List.rel_append (rewrites_self before) ?_
  exact .cons rewrites (rewrites_self after)

theorem mem_rewritten_iff {name other : Owner × Text} {names others : List (Owner × Text)}
    (rewrites : Rewrites read name other) (rewritten : List.Forall₂ (Rewrites read) names others)
    (different : ∀ later ∈ names, ¬ SameMoment read name later) :
    other ∈ others ↔ name ∈ names := by
  induction rewritten with
  | nil => exact ⟨fun member => (by cases member), fun member => (by cases member)⟩
  | @cons first newFirst names others isFirst _ ih =>
      obtain ⟨firstDifferent, later⟩ := List.forall_mem_cons.mp different
      rw [List.mem_cons, List.mem_cons, rewritten_eq_iff rewrites isFirst firstDifferent, ih later]

variable [DecidableEq Owner] [DecidableEq Text]

theorem distinct_rewritten {names others : List (Owner × Text)}
    (rewritten : List.Forall₂ (Rewrites read) names others)
    (once : names.Pairwise fun left right => ¬ SameMoment read left right) :
    distinct others = distinct names := by
  induction rewritten with
  | nil => rfl
  | @cons name other names others isFirst rest ih =>
      obtain ⟨different, later⟩ := List.pairwise_cons.mp once
      have same := mem_rewritten_iff isFirst rest different
      rw [distinct_cons, distinct_cons, ih later]
      by_cases member : name ∈ names
      · rw [if_pos member, if_pos (same.mpr member)]
      · rw [if_neg member, if_neg (same.not.mpr member)]

/-- The number of distinct names survives every rewriting exactly where no owner has one moment
twice. -/
theorem distinct_rewritten_iff (endless : Endless read) {names : List (Owner × Text)} :
    (∀ others, List.Forall₂ (Rewrites read) names others → distinct others = distinct names) ↔
      names.Pairwise fun left right => ¬ SameMoment read left right := by
  constructor
  · intro survives
    refine pairwise_of_splits ?_
    rintro before name after rfl earlier member same
    have replaced : ∀ other, Rewrites read name other →
        (other ∈ before ++ after ↔ name ∈ before ++ after) :=
      fun other rewrites => distinct_replace_iff.mp (survives _ (rewrites_one rewrites))
    obtain ⟨owner, instant, isEarlier, isName⟩ := same
    -- In the notation of the earlier name it is known, in a new one it is not.
    have known := (replaced earlier ⟨owner, Or.inr ⟨instant, isName, isEarlier⟩⟩).mp
      (List.mem_append_left _ member)
    obtain ⟨text, isNew, isText⟩ :=
      endless name.2 instant isName ((before ++ after).map Prod.snd).toFinset
    have unknown : (name.1, text) ∉ before ++ after := by
      intro isKnown
      exact isNew (List.mem_toFinset.mpr (List.mem_map_of_mem isKnown))
    exact unknown ((replaced (name.1, text) ⟨rfl, Or.inr ⟨instant, isName, isText⟩⟩).mpr known)
  · intro once others rewritten
    exact distinct_rewritten rewritten once

end Notations

end TurtleExecution

/-
Append-only ledgers with idempotent submission.

Entries may carry a key.  No two entries of a ledger carry the same key, so a key
that was submitted once is answered by one entry from then on, in this ledger and
in every extension of it.
-/

import Mathlib.Data.List.Basic
import Mathlib.Data.List.Infix

set_option autoImplicit false

namespace TurtleExecution

structure Ledger (Key Entry : Type) (keyOf : Entry → Option Key) where
  entries : List Entry
  distinct : entries.Pairwise fun earlier later =>
    ∀ key, keyOf earlier = some key → keyOf later ≠ some key

namespace Ledger

section

variable {Key Entry : Type} {keyOf : Entry → Option Key}

@[ext] theorem ext {first second : Ledger Key Entry keyOf}
    (same : first.entries = second.entries) : first = second := by
  cases first
  cases second
  cases same
  rfl

def empty : Ledger Key Entry keyOf :=
  { entries := [], distinct := List.Pairwise.nil }

theorem eq_of_key (ledger : Ledger Key Entry keyOf) {first second : Entry} {key : Key}
    (hFirst : first ∈ ledger.entries) (hSecond : second ∈ ledger.entries)
    (firstKey : keyOf first = some key) (secondKey : keyOf second = some key) : first = second := by
  obtain ⟨entries, distinct⟩ := ledger
  dsimp only at hFirst hSecond
  induction distinct with
  | nil => cases hFirst
  | cons head tail ih =>
      rcases List.mem_cons.mp hFirst with rfl | inFirst
      · rcases List.mem_cons.mp hSecond with rfl | inSecond
        · rfl
        · exact absurd secondKey (head _ inSecond key firstKey)
      · rcases List.mem_cons.mp hSecond with rfl | inSecond
        · exact absurd firstKey (head _ inFirst key secondKey)
        · exact ih inFirst inSecond

def push (ledger : Ledger Key Entry keyOf) (entry : Entry)
    (fresh : ∀ key, keyOf entry = some key → ∀ known ∈ ledger.entries, keyOf known ≠ some key) :
    Ledger Key Entry keyOf :=
  { entries := ledger.entries ++ [entry]
    distinct := by
      refine List.pairwise_append.mpr ⟨ledger.distinct, List.pairwise_singleton _ _, ?_⟩
      intro known isKnown later isLater key knownKey laterKey
      rw [List.mem_singleton.mp isLater] at laterKey
      exact fresh key laterKey known isKnown knownKey }

@[simp] theorem push_entries (ledger : Ledger Key Entry keyOf) (entry : Entry)
    (fresh : ∀ key, keyOf entry = some key → ∀ known ∈ ledger.entries, keyOf known ≠ some key) :
    (ledger.push entry fresh).entries = ledger.entries ++ [entry] := rfl

/-- A later state of a ledger: entries were only added behind the known ones. -/
def Extends (earlier later : Ledger Key Entry keyOf) : Prop :=
  earlier.entries <+: later.entries

theorem Extends.refl (ledger : Ledger Key Entry keyOf) : ledger.Extends ledger :=
  List.prefix_refl _

theorem Extends.trans {first second third : Ledger Key Entry keyOf}
    (before : first.Extends second) (after : second.Extends third) : first.Extends third :=
  List.IsPrefix.trans before after

theorem Extends.mem {earlier later : Ledger Key Entry keyOf} (extended : earlier.Extends later)
    {entry : Entry} (known : entry ∈ earlier.entries) : entry ∈ later.entries :=
  extended.subset known

theorem extends_push (ledger : Ledger Key Entry keyOf) (entry : Entry)
    (fresh : ∀ key, keyOf entry = some key → ∀ known ∈ ledger.entries, keyOf known ≠ some key) :
    ledger.Extends (ledger.push entry fresh) :=
  List.prefix_append _ _

end

section

variable {Key Entry : Type} [DecidableEq Key] {keyOf : Entry → Option Key}

def stored? (ledger : Ledger Key Entry keyOf) (entry : Entry) : Option Entry :=
  ledger.entries.find? fun known => (keyOf known).isSome && keyOf known = keyOf entry

variable {ledger : Ledger Key Entry keyOf}

theorem stored?_eq_none {entry : Entry} (absent : ledger.stored? entry = none) :
    ∀ key, keyOf entry = some key → ∀ known ∈ ledger.entries, keyOf known ≠ some key := by
  intro key entryKey known isKnown knownKey
  have missed := List.find?_eq_none.mp absent known isKnown
  simp [knownKey, entryKey] at missed

theorem stored?_eq_some_iff {entry known : Entry} {key : Key} (entryKey : keyOf entry = some key) :
    ledger.stored? entry = some known ↔ known ∈ ledger.entries ∧ keyOf known = some key := by
  constructor
  · intro found
    have hit := List.find?_some found
    simp only [entryKey, Bool.and_eq_true, decide_eq_true_eq] at hit
    exact ⟨List.mem_of_find?_eq_some found, hit.2⟩
  · rintro ⟨isKnown, knownKey⟩
    cases found : ledger.stored? entry with
    | none => exact absurd knownKey (stored?_eq_none found key entryKey known isKnown)
    | some other =>
        have hit := List.find?_some found
        simp only [entryKey, Bool.and_eq_true, decide_eq_true_eq] at hit
        rw [ledger.eq_of_key (List.mem_of_find?_eq_some found) isKnown hit.2 knownKey]

/-- Submit an entry: a key that is known answers with its entry and adds nothing. -/
def submit (ledger : Ledger Key Entry keyOf) (entry : Entry) : Entry × Ledger Key Entry keyOf :=
  match found : ledger.stored? entry with
  | some known => (known, ledger)
  | none => (entry, ledger.push entry (stored?_eq_none found))

theorem submit_of_stored {entry known : Entry} (found : ledger.stored? entry = some known) :
    ledger.submit entry = (known, ledger) := by
  unfold submit
  split
  · rename_i other foundOther
    rw [found] at foundOther
    cases foundOther
    rfl
  · rename_i absent
    rw [found] at absent
    cases absent

theorem submit_of_absent {entry : Entry} (absent : ledger.stored? entry = none) :
    ledger.submit entry = (entry, ledger.push entry (stored?_eq_none absent)) := by
  unfold submit
  split
  · rename_i known found
    rw [absent] at found
    cases found
  · rfl

theorem extends_submit (ledger : Ledger Key Entry keyOf) (entry : Entry) :
    ledger.Extends (ledger.submit entry).2 := by
  cases found : ledger.stored? entry with
  | some known =>
      rw [submit_of_stored found]
      exact Extends.refl ledger
  | none =>
      rw [submit_of_absent found]
      exact extends_push ledger entry (stored?_eq_none found)

end

end Ledger

end TurtleExecution

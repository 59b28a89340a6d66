/-
When a merge is the first-wins merge that it is meant to be.

A merge compares whole rows, so that a row fetched again counts as a conflict although
its market data is the same.
-/

import TurtleExecution.HistoricalStorage.Merging

set_option autoImplicit false

namespace TurtleExecution.HistoricalStorage

open ExchangeAdapter FirstWins

variable {fromisoformat : IsoTexts} {type : ObservationType}

private theorem added_again (rows batch : List (Observation type)) :
    added (mergedRows rows batch) batch = [] := by
  refine fresh_eq_nil fun incoming member => ?_
  obtain ⟨first, isFirst, same⟩ := covered_mergedRows member
  exact List.mem_map.mpr ⟨first, isFirst, same⟩

private theorem mergedRows_again (rows batch : List (Observation type)) :
    mergedRows (mergedRows rows batch) batch = mergedRows rows batch := by
  conv_lhs => rw [mergedRows, added_again, List.append_nil]
  exact (pairwise_mergedRows rows batch).insertionSort_eq

private theorem eq_self_iff {row : Observation type} : row.eq row = .ok true ↔ ¬HoldsNaN row := by
  rw [eq_true_iff rfl]
  exact ⟨fun all => all.2.2, fun numbers => ⟨.inl rfl, ⟨rfl, rfl, rfl⟩, numbers⟩⟩

/-- Against the merged rows, each row of the batch is compared: those that were added with
themselves. -/
theorem conflictsOf_again {known all batch : List (Observation type)}
    (distinct : (known.map identity).Nodup) (allDistinct : (all.map identity).Nodup)
    (same : ∀ row, row ∈ all ↔ row ∈ known ++ added known batch) :
    (conflictsOf all batch).length = (conflictsOf known batch).length +
        (added known batch).countP (fun row => row.eq row ≠ .ok true) ∧
      ((∀ row ∈ added known batch, ¬HoldsNaN row) →
        conflictsOf all batch = conflictsOf known batch) := by
  induction batch generalizing known with
  | nil => exact ⟨rfl, fun _ => rfl⟩
  | cons incoming later ih =>
      by_cases isKnown : identity incoming ∈ known.map identity
      · obtain ⟨first, isFirst, sameKey⟩ := List.mem_map.mp isKnown
        have found : Dict.get? (index identity known) (identity incoming) = some first :=
          (get?_index distinct).mpr ⟨isFirst, sameKey⟩
        have foundAll : Dict.get? (index identity all) (identity incoming) = some first :=
          (get?_index allDistinct).mpr
            ⟨(same first).mpr (List.mem_append_left _ isFirst), sameKey⟩
        rw [added_known isKnown] at same ⊢
        obtain ⟨counted, equal⟩ := ih distinct same
        rw [conflictsOf, conflictsOf]
        simp only [found, foundAll]
        split
        · exact ⟨counted, equal⟩
        · rw [List.length_cons, List.length_cons, counted]
          exact ⟨by omega, fun numbers => congrArg _ (equal numbers)⟩
      · have missing : Dict.get? (index identity known) (identity incoming) = none :=
          get?_index_eq_none.mpr isKnown
        rw [added_new isKnown, List.append_cons] at same
        have foundAll : Dict.get? (index identity all) (identity incoming) = some incoming :=
          (get?_index allDistinct).mpr ⟨(same incoming).mpr (List.mem_append_left _
            (List.mem_append_right _ List.mem_cons_self)), rfl⟩
        obtain ⟨counted, equal⟩ := ih (nodup_concat distinct isKnown) same
        rw [added_new isKnown, conflictsOf, conflictsOf, List.countP_cons]
        simp only [foundAll, missing]
        by_cases isSame : incoming.eq incoming = .ok true
        · rw [if_pos isSame]
          have uncounted : decide (incoming.eq incoming ≠ .ok true) = false := by
            simp [isSame]
          rw [uncounted, if_neg Bool.false_ne_true, Nat.add_zero]
          exact ⟨counted, fun numbers => equal fun row member =>
            numbers row (List.mem_cons_of_mem _ member)⟩
        · rw [if_neg isSame, List.length_cons]
          have isCounted : decide (incoming.eq incoming ≠ .ok true) = true := by
            simp [isSame]
          rw [isCounted, if_pos rfl, counted]
          refine ⟨by omega, fun numbers => ?_⟩
          exact absurd (eq_self_iff.mpr (numbers incoming List.mem_cons_self)) isSame

private theorem mem_conflictsOf {known batch : List (Observation type)}
    (distinct : (known.map identity).Nodup)
    (covered : ∀ incoming ∈ batch, ∃ first ∈ known, identity first = identity incoming)
    {key : DedupKey} :
    key ∈ conflictsOf known batch ↔ ∃ incoming ∈ batch, identity incoming = key ∧
      ∃ first ∈ known, identity first = key ∧ first.eq incoming ≠ .ok true := by
  induction batch with
  | nil => simp [conflictsOf]
  | cons incoming later ih =>
      obtain ⟨first, isFirst, same⟩ := covered incoming List.mem_cons_self
      have found : Dict.get? (index identity known) (identity incoming) = some first :=
        (get?_index distinct).mpr ⟨isFirst, same⟩
      have laterIff := ih fun row member => covered row (List.mem_cons_of_mem _ member)
      have here : (∃ stored ∈ known, identity stored = key ∧ stored.eq incoming ≠ .ok true) →
          identity incoming = key → first.eq incoming ≠ .ok true := by
        rintro ⟨stored, isStored, isKey, differs⟩ isIncoming
        rwa [eq_of_key_eq distinct isFirst isStored (same.trans (isIncoming.trans isKey.symm))]
      rw [conflictsOf, List.exists_mem_cons_iff]
      simp only [found]
      split
      · rename_i isSame
        rw [laterIff]
        refine ⟨.inr, fun either => either.resolve_left ?_⟩
        exact fun now => here now.2 now.1 isSame
      · rename_i differs
        rw [List.mem_cons, laterIff]
        refine or_congr_left ⟨?_, fun now => now.1.symm⟩
        rintro rfl
        exact ⟨rfl, first, isFirst, same, differs⟩

structure MergesOnce (fromisoformat : IsoTexts) (rows batch : List (Observation type))
    (written : CsvFile) (result : MergeResult) (stored : List (Observation type)) : Prop where
  loaded : load fromisoformat type (some written) = .ok stored
  once : (stored.map identity).Nodup
  unchanged : ∀ row ∈ rows, row ∈ stored
  firsts : stored.Perm (kept identity (rows ++ batch))
  conflicts : ∀ key, key ∈ result.conflictKeys ↔ ∃ incoming ∈ batch, identity incoming = key ∧
    ∃ first ∈ stored, identity first = key ∧ ¬SameMarket first incoming
  again : ∃ repeated, mergeAndWrite fromisoformat (some written) batch = .ok (written, repeated) ∧
    repeated.addedCount = 0 ∧ repeated.conflictKeys = result.conflictKeys

def MergesFirstWins (fromisoformat : IsoTexts) (file : Option CsvFile)
    (rows batch : List (Observation type)) : Prop :=
  ∃ written result stored, mergeAndWrite fromisoformat file batch = .ok (written, result) ∧
    MergesOnce fromisoformat rows batch written result stored

structure Mergeable (rows batch : List (Observation type)) : Prop where
  writable : ∀ incoming ∈ batch, Writable incoming
  readable : ∀ row ∈ kept identity (rows ++ batch), Readable row
  quiet : ∀ incoming ∈ batch, ¬Signals incoming
  quietStored : ∀ row ∈ rows, ∀ incoming ∈ batch, identity row = identity incoming → ¬Signals row
  numbers : ∀ row ∈ added rows batch, ¬HoldsNaN row
  /-- A row with the market values of the row under its key has its provenance as well, or
  it comes with a row whose market values differ. -/
  told : ∀ incoming ∈ batch, ∀ first ∈ kept identity (rows ++ batch),
    identity first = identity incoming → SameMarket first incoming →
      SameProvenance first incoming ∧ ¬HoldsNaN first ∨
        ∃ other ∈ batch, identity other = identity incoming ∧ ¬SameMarket first other

/-- The keys in conflict are those whose market values differ exactly when no row has only
another provenance. -/
theorem conflicts_iff {stored batch : List (Observation type)}
    (distinct : (stored.map identity).Nodup)
    (covered : ∀ incoming ∈ batch, ∃ first ∈ stored, identity first = identity incoming) :
    (∀ key, key ∈ conflictsOf stored batch ↔ ∃ incoming ∈ batch, identity incoming = key ∧
        ∃ first ∈ stored, identity first = key ∧ ¬SameMarket first incoming) ↔
      ∀ incoming ∈ batch, ∀ first ∈ stored, identity first = identity incoming →
        SameMarket first incoming → SameProvenance first incoming ∧ ¬HoldsNaN first ∨
          ∃ other ∈ batch, identity other = identity incoming ∧ ¬SameMarket first other := by
  constructor
  · intro conflicts incoming member first isFirst same sameMarket
    by_cases equal : first.eq incoming = .ok true
    · exact .inl ((eq_true_iff same).mp equal).2
    · have isConflict := (mem_conflictsOf distinct covered).mpr
        ⟨incoming, member, rfl, first, isFirst, same, equal⟩
      obtain ⟨other, isOther, sameKey, known, isKnown, knownKey, differs⟩ :=
        (conflicts _).mp isConflict
      rw [eq_of_key_eq distinct isKnown isFirst (knownKey.trans same.symm)] at differs
      exact .inr ⟨other, isOther, sameKey, differs⟩
  · intro told key
    rw [mem_conflictsOf distinct covered]
    constructor
    · rintro ⟨incoming, member, rfl, first, isFirst, same, differs⟩
      by_cases sameMarket : SameMarket first incoming
      · rcases told incoming member first isFirst same sameMarket with equal | other
        · exact absurd ((eq_true_iff same).mpr ⟨sameMarket, equal⟩) differs
        · obtain ⟨row, isRow, sameKey, different⟩ := other
          exact ⟨row, isRow, sameKey, first, isFirst, same, different⟩
      · exact ⟨incoming, member, rfl, first, isFirst, same, sameMarket⟩
    · rintro ⟨incoming, member, rfl, first, isFirst, same, different⟩
      exact ⟨incoming, member, rfl, first, isFirst, same,
        fun equal => different ((eq_true_iff same).mp equal).1⟩

variable {file : Option CsvFile} {rows batch : List (Observation type)}

private theorem mergeable_of_mergesFirstWins (stored : Stored fromisoformat file rows)
    (accepted : ∀ incoming ∈ batch, Accepted fromisoformat incoming)
    (merges : MergesFirstWins fromisoformat file rows batch) : Mergeable rows batch := by
  obtain ⟨written, result, read, merged, once⟩ := merges
  obtain ⟨⟨_, writable, _⟩, same⟩ := (mergeAndWrite_ok stored accepted).mp merged
  obtain ⟨rfl, rfl⟩ := Prod.mk.inj same
  have isStored := stored_mergedRows stored accepted writable
  obtain ⟨readable, rfl⟩ := isStored.load.mp once.loaded
  obtain ⟨repeated, mergedAgain, _, sameKeys⟩ := once.again
  obtain ⟨⟨_, _, separate⟩, sameAgain⟩ := (mergeAndWrite_ok isStored accepted).mp mergedAgain
  obtain ⟨_, rfl⟩ := Prod.mk.inj sameAgain
  have isKept := @mem_mergedRows_iff_kept _ rows batch stored.distinct
  have across := (List.pairwise_append.mp separate).2.2
  obtain ⟨counted, equal⟩ := conflictsOf_again stored.distinct isStored.distinct
    fun row => (perm_mergedRows rows batch).mem_iff
  have numbers : ∀ row ∈ added rows batch, ¬HoldsNaN row := by
    -- The sorted keys have one length, so that no added row differs from itself.
    have lengths := congrArg List.length sameKeys
    rw [List.length_insertionSort, List.length_insertionSort, counted, Nat.add_eq_left,
      List.countP_eq_zero] at lengths
    intro row member
    have isSame := lengths row member
    rw [decide_eq_true_eq, not_not] at isSame
    exact eq_self_iff.mp isSame
  have covered := fun incoming member => @covered_mergedRows _ rows batch incoming member
  refine ⟨writable, fun row member => readable row (isKept.mpr member), ?_, ?_, numbers, ?_⟩
  · intro incoming member
    obtain ⟨first, isFirst, sameKey⟩ := covered incoming member
    exact (across first isFirst incoming member sameKey).2
  · intro row isRow incoming member sameKey
    exact (across row (mem_mergedRows.mpr (.inl isRow)) incoming member sameKey).1
  · have conflicts := once.conflicts
    simp only [List.mem_insertionSort, ← equal numbers] at conflicts
    intro incoming member first isFirst
    exact (conflicts_iff isStored.distinct covered).mp conflicts incoming member first
      (isKept.mpr isFirst)

private theorem mergesFirstWins_of_mergeable (stored : Stored fromisoformat file rows)
    (accepted : ∀ incoming ∈ batch, Accepted fromisoformat incoming)
    (mergeable : Mergeable rows batch) : MergesFirstWins fromisoformat file rows batch := by
  have isKept := @mem_mergedRows_iff_kept _ rows batch stored.distinct
  have covered := fun incoming member => @covered_mergedRows _ rows batch incoming member
  have isStored := stored_mergedRows stored accepted mergeable.writable
  have readable : ∀ row ∈ mergedRows rows batch, Readable row :=
    fun row member => mergeable.readable row (isKept.mp member)
  have quietFirst : ∀ first ∈ mergedRows rows batch, ∀ incoming ∈ batch,
      identity first = identity incoming → ¬Signals first := by
    intro first isFirst incoming member same
    rcases mem_mergedRows.mp isFirst with isRow | isAdded
    · exact mergeable.quietStored first isRow incoming member same
    · exact mergeable.quiet first (mem_added isAdded)
  have separate : ∀ known : List (Observation type), (known.map identity).Nodup →
      (∀ first ∈ known, first ∈ mergedRows rows batch) → (known ++ batch).Pairwise Separate := by
    intro known distinct within
    rw [List.pairwise_append]
    refine ⟨separate_of_distinct distinct, ?_, ?_⟩
    · exact List.pairwise_of_forall_mem_list fun left isLeft right isRight _ =>
        ⟨mergeable.quiet left isLeft, mergeable.quiet right isRight⟩
    · exact fun first isFirst incoming member same =>
        ⟨quietFirst first (within first isFirst) incoming member same,
          mergeable.quiet incoming member⟩
  obtain ⟨_, equal⟩ := conflictsOf_again stored.distinct isStored.distinct
    fun row => (perm_mergedRows rows batch).mem_iff
  have sameConflicts := equal mergeable.numbers
  refine ⟨_, _, mergedRows rows batch, (mergeAndWrite_ok stored accepted).mpr ⟨⟨?_,
    mergeable.writable, ?_⟩, rfl⟩, ?_⟩
  · exact fun row member => readable row (mem_mergedRows.mpr (.inl member))
  · exact separate rows stored.distinct fun row member => mem_mergedRows.mpr (.inl member)
  · refine ⟨isStored.load.mpr ⟨readable, rfl⟩, isStored.distinct,
      fun row member => mem_mergedRows.mpr (.inl member), ?_, ?_, ?_⟩
    · rw [kept_rows stored.distinct]
      exact perm_mergedRows rows batch
    · simp only [List.mem_insertionSort, ← sameConflicts]
      refine (conflicts_iff isStored.distinct covered).mpr ?_
      exact fun incoming member first isFirst =>
        mergeable.told incoming member first (isKept.mp isFirst)
    · have again := (mergeAndWrite_ok isStored accepted).mpr ⟨⟨readable, mergeable.writable,
        separate _ isStored.distinct fun _ member => member⟩, rfl⟩
      rw [mergedRows_again, added_again, sameConflicts] at again
      exact ⟨_, again, rfl, rfl⟩

/-- A merge is a first-wins merge exactly when the batch is mergeable. -/
theorem mergeAndWrite_firstWins_iff (stored : Stored fromisoformat file rows)
    (accepted : ∀ incoming ∈ batch, Accepted fromisoformat incoming) :
    MergesFirstWins fromisoformat file rows batch ↔ Mergeable rows batch :=
  ⟨mergeable_of_mergesFirstWins stored accepted, mergesFirstWins_of_mergeable stored accepted⟩

def newYearTexts : IsoTexts := fun text =>
  if text = "2026-01-01T00:00:00+00:00" then some 1767225600000000
  else if text = "2026-02-01T00:00:00+00:00" then some 1769904000000000
  else if text = "2026-02-02T00:00:00+00:00" then some 1769990400000000
  else none

def storedRate : Observation (.scalar .fundingRate) := rateAt "2026-01-01T00:00:00+00:00" "2026-02-01T00:00:00+00:00"

def refetchedRate : Observation (.scalar .fundingRate) := rateAt "2026-01-01T00:00:00+00:00" "2026-02-02T00:00:00+00:00"

private theorem storedRate_stored : Stored newYearTexts
    (some [fieldnames, cells storedRate]) [storedRate] :=
  ⟨.inr ⟨_, rfl, writeFile_ok.mpr ⟨fun _ _ => trivial, rfl⟩⟩,
    List.forall_mem_singleton.mpr (by decide +kernel), List.nodup_singleton _⟩

private theorem kept_storedRate {row : Observation (.scalar .fundingRate)}
    (member : row ∈ kept identity ([storedRate] ++ [storedRate])) : row = storedRate := by
  rw [kept_rows storedRate_stored.distinct, added, fresh_eq_nil fun row isRow =>
    List.mem_map_of_mem isRow, List.append_nil] at member
  exact List.mem_singleton.mp member

theorem mergeAndWrite_firstWins_iff_rate :
    MergesFirstWins newYearTexts (some [fieldnames, cells storedRate]) [storedRate] [storedRate] := by
  have accepted : Accepted newYearTexts storedRate := by decide +kernel
  have readable : Readable storedRate := by
    unfold Readable
    decide +kernel
  have quiet : ¬Signals storedRate := by
    unfold Signals
    decide +kernel
  have noNaN : ¬HoldsNaN storedRate := by
    unfold HoldsNaN
    decide +kernel
  apply (mergeAndWrite_firstWins_iff storedRate_stored
    (List.forall_mem_singleton.mpr accepted)).mpr
  constructor
  · exact fun _ _ => trivial
  · intro row member
    rw [kept_storedRate member]
    exact readable
  · exact List.forall_mem_singleton.mpr quiet
  · exact List.forall_mem_singleton.mpr fun _ _ _ => quiet
  · intro row member
    rw [List.mem_singleton.mp (mem_added member)]
    exact noNaN
  · intro incoming member first isFirst _ _
    rw [kept_storedRate isFirst, List.mem_singleton.mp member]
    exact .inl ⟨⟨rfl, rfl, rfl⟩, noNaN⟩

/-- A stored rate is fetched again a day later, and is reported as a conflict. -/
theorem refetchedRate_conflicts :
    Stored newYearTexts (some [fieldnames, cells storedRate]) [storedRate] ∧
      Accepted newYearTexts refetchedRate ∧
      ¬MergesFirstWins newYearTexts (some [fieldnames, cells storedRate]) [storedRate]
        [refetchedRate] := by
  have accepted : Accepted newYearTexts refetchedRate := by decide +kernel
  refine ⟨storedRate_stored, accepted, fun merges => ?_⟩
  have mergeable := mergeable_of_mergesFirstWins storedRate_stored
    (List.forall_mem_singleton.mpr accepted) merges
  have isFirst : storedRate ∈ kept identity ([storedRate] ++ [refetchedRate]) := by
    rw [kept_rows storedRate_stored.distinct]
    exact List.mem_cons_self
  rcases mergeable.told refetchedRate (List.mem_singleton.mpr rfl) storedRate isFirst rfl (.inl rfl)
    with ⟨provenance, _⟩ | ⟨other, isOther, _, differs⟩
  · exact absurd provenance (by decide)
  · rw [List.mem_singleton.mp isOther] at differs
    exact differs (.inl rfl)

end TurtleExecution.HistoricalStorage

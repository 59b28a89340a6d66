/-
`merge_and_write`: what a batch makes of a stored series.

The rows of a series keep their keys apart.  A batch adds its rows with new keys, and its
other rows are compared with the row that has their key.
-/

import Mathlib.Data.List.Sort
import Mathlib.Data.String.Basic
import TurtleExecution.Foundation.FirstWins
import TurtleExecution.HistoricalStorage.Comparing

set_option autoImplicit false

namespace TurtleExecution.HistoricalStorage

open FirstWins

variable {fromisoformat : IsoTexts} {type : ObservationType}

def addAll (byKey : Dict DedupKey (Observation type)) (newObservations : List (Observation type)) :
    Except StorageError (Dict DedupKey (Observation type) × Nat × List DedupKey) :=
  FirstWins.addAll dedupKey Observation.eq byKey newObservations

def keyed (byKey : Dict DedupKey (Observation type)) : List (Observation type) →
    Except StorageError (Dict DedupKey (Observation type))
  | [] => .ok byKey
  | observation :: later => do
      let key ← dedupKey observation
      keyed (Dict.set byKey key observation) later

def SortLe (left right : Observation type) : Prop :=
  left.observedAtUtc < right.observedAtUtc ∨
    left.observedAtUtc = right.observedAtUtc ∧ left.symbol.value ≤ right.symbol.value

instance : DecidableRel (@SortLe type) := fun left right =>
  inferInstanceAs (Decidable (left.observedAtUtc < right.observedAtUtc ∨
    left.observedAtUtc = right.observedAtUtc ∧ left.symbol.value ≤ right.symbol.value))

structure MergeResult where
  existingCount : Nat
  addedCount : Nat
  conflictKeys : List DedupKey
  deriving DecidableEq

def mergeAndWrite (fromisoformat : IsoTexts) (file : Option CsvFile)
    (newObservations : List (Observation type)) : Except StorageError (CsvFile × MergeResult) := do
  let existing ← load fromisoformat type file
  let byKey ← keyed [] existing
  let (merged, addedCount, conflicts) ← addAll byKey newObservations
  let written ← writeFile ((merged.map Prod.snd).insertionSort SortLe)
  return (written, { existingCount := byKey.length, addedCount
                     conflictKeys := conflicts.insertionSort (· ≤ ·) })

def added (rows batch : List (Observation type)) : List (Observation type) :=
  fresh identity (rows.map identity) batch

def mergedRows (rows batch : List (Observation type)) : List (Observation type) :=
  (rows ++ added rows batch).insertionSort SortLe

def conflictsOf (known : List (Observation type)) : List (Observation type) → List DedupKey
  | [] => []
  | incoming :: later =>
      match Dict.get? (index identity known) (identity incoming) with
      | none => conflictsOf (known ++ [incoming]) later
      | some first =>
          if first.eq incoming = .ok true then conflictsOf known later
          else identity incoming :: conflictsOf known later

def Separate (left right : Observation type) : Prop :=
  identity left = identity right → ¬Signals left ∧ ¬Signals right

variable {known later : List (Observation type)} {incoming first : Observation type}

theorem added_new (isNew : identity incoming ∉ known.map identity) :
    added known (incoming :: later) = incoming :: added (known ++ [incoming]) later := by
  unfold added
  rw [fresh, if_neg isNew, List.map_append]
  rfl

theorem added_known (isKnown : identity incoming ∈ known.map identity) :
    added known (incoming :: later) = added known later := by
  unfold added
  rw [fresh, if_pos isKnown]

/-- A row whose key is known does not spoil a comparison if it can be compared with the
row under its key. -/
theorem pairwise_known (distinct : (known.map identity).Nodup)
    (isFirst : first ∈ known) (same : identity first = identity incoming) :
    (known ++ incoming :: later).Pairwise Separate ↔
      (¬Signals first ∧ ¬Signals incoming) ∧ (known ++ later).Pairwise Separate := by
  rw [List.pairwise_append, List.pairwise_append, List.pairwise_cons]
  constructor
  · rintro ⟨knownPairs, ⟨_, laterPairs⟩, across⟩
    exact ⟨across first isFirst incoming List.mem_cons_self same, knownPairs, laterPairs,
      fun row member other isOther => across row member other (List.mem_cons_of_mem _ isOther)⟩
  · rintro ⟨⟨firstQuiet, incomingQuiet⟩, knownPairs, laterPairs, across⟩
    refine ⟨knownPairs, ⟨fun other isOther sameKey => ?_, laterPairs⟩, ?_⟩
    · exact ⟨incomingQuiet, (across first isFirst other isOther (same.trans sameKey)).2⟩
    · intro row member other isOther sameKey
      rcases List.mem_cons.mp isOther with rfl | behind
      · rw [eq_of_key_eq distinct member isFirst (sameKey.trans same.symm)]
        exact ⟨firstQuiet, incomingQuiet⟩
      · exact across row member other behind sameKey

theorem separate_of_distinct {rows : List (Observation type)}
    (distinct : (rows.map identity).Nodup) : rows.Pairwise Separate := by
  rw [List.Nodup, List.pairwise_map] at distinct
  exact distinct.imp fun different same => absurd same different

variable {result : Dict DedupKey (Observation type) × Nat × List DedupKey}

private theorem addAll_ok {batch : List (Observation type)} (distinct : (known.map identity).Nodup)
    (knownAccepted : ∀ row ∈ known, Accepted fromisoformat row)
    (accepted : ∀ row ∈ batch, Accepted fromisoformat row) :
    addAll (index identity known) batch = .ok result ↔
      ((∀ row ∈ batch, Writable row) ∧ (known ++ batch).Pairwise Separate) ∧
        result = (index identity (known ++ added known batch), (added known batch).length,
          conflictsOf known batch) := by
  unfold addAll
  induction batch generalizing known result with
  | nil =>
      have alone := separate_of_distinct distinct
      rw [FirstWins.addAll, List.append_nil]
      simp only [added, fresh, List.append_nil, conflictsOf, List.length_nil, alone, and_true,
        List.not_mem_nil, false_implies, implies_true, true_and, Except.ok.injEq]
      exact eq_comm
  | cons incoming later ih =>
      have incomingAccepted := accepted incoming List.mem_cons_self
      have laterAccepted := fun row member => accepted row (List.mem_cons_of_mem incoming member)
      rw [List.forall_mem_cons]
      by_cases writable : Writable incoming
      swap
      · rw [FirstWins.addAll]
        constructor
        · intro computed
          obtain ⟨key, named, _⟩ := ok_of_bind computed
          exact absurd (dedupKey_ok.mp named).1 writable
        · exact fun impossible => absurd impossible.1.1.1 writable
      have named : dedupKey incoming = .ok (identity incoming) := dedupKey_ok.mpr ⟨writable, rfl⟩
      by_cases isKnown : identity incoming ∈ known.map identity
      · obtain ⟨first, isFirst, same⟩ := List.mem_map.mp isKnown
        have found : Dict.get? (index identity known) (identity incoming) = some first :=
          (get?_index distinct).mpr ⟨isFirst, same⟩
        have compared := eq_ok_iff same (knownAccepted first isFirst) incomingAccepted
        rw [addAll_known named found, pairwise_known distinct isFirst same,
          added_known isKnown, conflictsOf]
        simp only [found]
        constructor
        · rintro ⟨outcome, all, isOutcome, isAll, rfl⟩
          obtain ⟨⟨laterWritable, laterPairs⟩, rfl⟩ :=
            (ih distinct knownAccepted laterAccepted).mp isAll
          refine ⟨⟨⟨writable, laterWritable⟩, compared.mp ⟨_, isOutcome⟩, laterPairs⟩, ?_⟩
          rw [isOutcome]
          cases outcome <;> rfl
        · rintro ⟨⟨⟨_, laterWritable⟩, quiet, laterPairs⟩, rfl⟩
          obtain ⟨outcome, isOutcome⟩ := compared.mpr quiet
          refine ⟨outcome, _, isOutcome, (ih distinct knownAccepted laterAccepted).mpr
            ⟨⟨laterWritable, laterPairs⟩, rfl⟩, ?_⟩
          rw [isOutcome]
          cases outcome <;> rfl
      · have missing : Dict.get? (index identity known) (identity incoming) = none :=
          get?_index_eq_none.mpr isKnown
        have grownAccepted : ∀ row ∈ known ++ [incoming], Accepted fromisoformat row :=
          List.forall_mem_append.mpr ⟨knownAccepted, List.forall_mem_singleton.mpr incomingAccepted⟩
        have rest := fun result =>
          @ih (known ++ [incoming]) result (nodup_concat distinct isKnown) grownAccepted laterAccepted
        rw [addAll_new named missing, set_index isKnown, List.append_cons known incoming later,
          added_new isKnown, conflictsOf, List.append_cons known incoming (added _ _)]
        simp only [missing]
        constructor
        · rintro ⟨all, isAll, rfl⟩
          obtain ⟨⟨laterWritable, laterPairs⟩, rfl⟩ := (rest all).mp isAll
          exact ⟨⟨⟨writable, laterWritable⟩, laterPairs⟩, rfl⟩
        · rintro ⟨⟨⟨_, laterWritable⟩, laterPairs⟩, rfl⟩
          exact ⟨_, (rest _).mpr ⟨⟨laterWritable, laterPairs⟩, rfl⟩, rfl⟩

private theorem keyed_ok {rows : List (Observation type)} {known : List (Observation type)}
    (distinct : ((known ++ rows).map identity).Nodup) (writable : ∀ row ∈ rows, Writable row) :
    keyed (index identity known) rows = .ok (index identity (known ++ rows)) := by
  induction rows generalizing known with
  | nil => rw [keyed, List.append_nil]
  | cons row later ih =>
      rw [List.append_cons] at distinct ⊢
      have isNew : identity row ∉ known.map identity := by
        intro isKnown
        rw [List.map_append, List.nodup_append, List.map_append, List.nodup_append] at distinct
        exact distinct.1.2.2 _ isKnown _ (List.mem_singleton.mpr rfl) rfl
      rw [keyed, bind_of_ok (dedupKey_ok.mpr ⟨writable row List.mem_cons_self, rfl⟩),
        set_index isNew]
      exact ih distinct fun other member => writable other (List.mem_cons_of_mem _ member)

/-- A file that holds the rows, as it is written; no file holds no rows. -/
structure Stored (fromisoformat : IsoTexts) (file : Option CsvFile)
    (rows : List (Observation type)) : Prop where
  isFile : file = none ∧ rows = [] ∨ ∃ written, file = some written ∧ writeFile rows = .ok written
  accepted : ∀ row ∈ rows, Accepted fromisoformat row
  distinct : (rows.map identity).Nodup

theorem Stored.writable {file : Option CsvFile} {rows : List (Observation type)}
    (stored : Stored fromisoformat file rows) : ∀ row ∈ rows, Writable row := by
  rcases stored.isFile with ⟨_, rfl⟩ | ⟨written, _, isWritten⟩
  · exact fun row impossible => absurd impossible List.not_mem_nil
  · exact (writeFile_ok.mp isWritten).1

theorem Stored.load {file : Option CsvFile} {rows read : List (Observation type)}
    (stored : Stored fromisoformat file rows) :
    load fromisoformat type file = .ok read ↔ (∀ row ∈ rows, Readable row) ∧ read = rows := by
  have writable := stored.writable
  rcases stored.isFile with ⟨rfl, rfl⟩ | ⟨written, rfl, isWritten⟩
  · rw [HistoricalStorage.load, Except.ok.injEq]
    simp [eq_comm]
  · rw [(writeFile_ok.mp isWritten).2]
    exact load_written writable stored.accepted

theorem perm_mergedRows (rows batch : List (Observation type)) :
    (mergedRows rows batch).Perm (rows ++ added rows batch) :=
  List.perm_insertionSort _ _

variable {rows batch : List (Observation type)}

theorem mem_added {row : Observation type} (member : row ∈ added rows batch) : row ∈ batch :=
  (mem_of_mem_fresh member).1

theorem mem_mergedRows {row : Observation type} :
    row ∈ mergedRows rows batch ↔ row ∈ rows ∨ row ∈ added rows batch := by
  rw [(perm_mergedRows rows batch).mem_iff, List.mem_append]

theorem nodup_grown (distinct : (rows.map identity).Nodup) :
    ((rows ++ added rows batch).map identity).Nodup := by
  rw [List.map_append, List.nodup_append]
  refine ⟨distinct, nodup_fresh, fun name member other isOther same => ?_⟩
  obtain ⟨row, isAdded, isName⟩ := List.mem_map.mp isOther
  refine (mem_of_mem_fresh isAdded).2 ?_
  rw [isName, ← same]
  exact member

private theorem map_snd_index (rows : List (Observation type)) :
    (index identity rows).map Prod.snd = rows := by
  unfold index
  rw [List.map_map]
  exact List.map_id rows

theorem kept_rows (distinct : (rows.map identity).Nodup) :
    kept identity (rows ++ batch) = rows ++ added rows batch := by
  rw [kept_append, kept_of_nodup distinct]
  rfl

theorem mem_mergedRows_iff_kept {rows batch : List (Observation type)}
    (distinct : (rows.map identity).Nodup) {row : Observation type} :
    row ∈ mergedRows rows batch ↔ row ∈ kept identity (rows ++ batch) := by
  rw [mem_mergedRows, kept_rows distinct, List.mem_append]

theorem covered_mergedRows {rows batch : List (Observation type)} {incoming : Observation type}
    (member : incoming ∈ batch) :
    ∃ first ∈ mergedRows rows batch, identity first = identity incoming := by
  have isKey : identity incoming ∈ (kept identity (rows ++ batch)).map identity :=
    mem_keys_kept.mpr (List.mem_map_of_mem (List.mem_append_right _ member))
  rw [kept_append, List.map_append, List.mem_append] at isKey
  rcases isKey with inRows | inAdded
  · obtain ⟨first, isKept, same⟩ := List.mem_map.mp inRows
    exact ⟨first, mem_mergedRows.mpr (.inl (mem_of_mem_kept isKept)), same⟩
  · obtain ⟨first, isAdded, same⟩ := List.mem_map.mp inAdded
    exact ⟨first, mem_mergedRows.mpr (.inr isAdded), same⟩

theorem mergeAndWrite_ok {file : Option CsvFile} {rows batch : List (Observation type)}
    {outcome : CsvFile × MergeResult} (stored : Stored fromisoformat file rows)
    (accepted : ∀ row ∈ batch, Accepted fromisoformat row) :
    mergeAndWrite fromisoformat file batch = .ok outcome ↔
      ((∀ row ∈ rows, Readable row) ∧ (∀ row ∈ batch, Writable row) ∧
        (rows ++ batch).Pairwise Separate) ∧
      outcome = (fieldnamesFor type :: (mergedRows rows batch).map cells,
        { existingCount := rows.length, addedCount := (added rows batch).length
          conflictKeys := (conflictsOf rows batch).insertionSort (· ≤ ·) }) := by
  have isKeyed : keyed [] rows = .ok (index identity rows) :=
    @keyed_ok _ rows [] stored.distinct stored.writable
  have sized : (index identity rows).length = rows.length := List.length_map _
  have written : (∀ row ∈ batch, Writable row) →
      writeFile (mergedRows rows batch) =
        .ok (fieldnamesFor type :: (mergedRows rows batch).map cells) := by
    intro writable
    refine writeFile_ok.mpr ⟨fun row member => ?_, rfl⟩
    rcases mem_mergedRows.mp member with isRow | isAdded
    · exact stored.writable row isRow
    · exact writable row (mem_added isAdded)
  unfold mergeAndWrite
  constructor
  · intro computed
    obtain ⟨existing, loaded, afterLoad⟩ := ok_of_bind computed
    obtain ⟨readable, rfl⟩ := stored.load.mp loaded
    rw [bind_of_ok isKeyed] at afterLoad
    obtain ⟨all, isAll, afterAll⟩ := ok_of_bind afterLoad
    obtain ⟨⟨writable, pairs⟩, rfl⟩ :=
      (addAll_ok stored.distinct stored.accepted accepted).mp isAll
    dsimp only at afterAll
    rw [map_snd_index] at afterAll
    change (writeFile (mergedRows existing batch) >>= _) = _ at afterAll
    rw [bind_of_ok (written writable), sized] at afterAll
    exact ⟨⟨readable, writable, pairs⟩, (Except.ok.inj afterAll).symm⟩
  · rintro ⟨⟨readable, writable, pairs⟩, rfl⟩
    rw [bind_of_ok (stored.load.mpr ⟨readable, rfl⟩), bind_of_ok isKeyed,
      bind_of_ok ((addAll_ok stored.distinct stored.accepted accepted).mpr
        ⟨⟨writable, pairs⟩, rfl⟩)]
    dsimp only
    rw [map_snd_index]
    change (writeFile (mergedRows rows batch) >>= _) = _
    rw [bind_of_ok (written writable), sized]
    rfl

theorem stored_mergedRows {file : Option CsvFile} (stored : Stored fromisoformat file rows)
    (accepted : ∀ row ∈ batch, Accepted fromisoformat row) (writable : ∀ row ∈ batch, Writable row) :
    Stored fromisoformat (some (fieldnamesFor type :: (mergedRows rows batch).map cells))
      (mergedRows rows batch) := by
  refine ⟨.inr ⟨_, rfl, writeFile_ok.mpr ⟨fun row member => ?_, rfl⟩⟩, fun row member => ?_, ?_⟩
  · rcases mem_mergedRows.mp member with isRow | isAdded
    · exact stored.writable row isRow
    · exact writable row (mem_added isAdded)
  · rcases mem_mergedRows.mp member with isRow | isAdded
    · exact stored.accepted row isRow
    · exact accepted row (mem_added isAdded)
  · exact ((perm_mergedRows rows batch).map identity).nodup_iff.mpr (nodup_grown stored.distinct)

instance : Std.Total (@SortLe type) where
  total left right := by
    rcases lt_trichotomy left.observedAtUtc right.observedAtUtc with before | same | after
    · exact .inl (.inl before)
    · rcases le_total left.symbol.value right.symbol.value with below | above
      · exact .inl (.inr ⟨same, below⟩)
      · exact .inr (.inr ⟨same.symm, above⟩)
    · exact .inr (.inl after)

instance : IsTrans (Observation type) SortLe where
  trans left middle right := by
    rintro (first | ⟨firstSame, firstBelow⟩) (second | ⟨secondSame, secondBelow⟩)
    · exact .inl (first.trans second)
    · exact .inl (secondSame ▸ first)
    · exact .inl (firstSame ▸ second)
    · exact .inr ⟨firstSame.trans secondSame, firstBelow.trans secondBelow⟩

theorem pairwise_mergedRows (rows batch : List (Observation type)) :
    (mergedRows rows batch).Pairwise SortLe :=
  List.pairwise_insertionSort SortLe _

def rateAt (observedAtUtc ingestedAtUtc : String) : Observation (.scalar .fundingRate) :=
  { symbol := ExchangeAdapter.btc
    observedAtUtc
    market := Decimal.finite false 1 (-4)
    source := "binance"
    sourceDetail := "BTCUSDT-fundingRate-2026-01.zip"
    ingestedAtUtc }

end TurtleExecution.HistoricalStorage

/-
When the series that batches make is clean.

A series is sorted by the texts of its timestamps, and its rows are told apart by their
keys.  Readers take it to be sorted by instants, and tell its rows apart by symbol and
timestamp.
-/

import TurtleExecution.HistoricalStorage.Merging
import TurtleExecution.HistoricalStorage.Quality

set_option autoImplicit false

namespace TurtleExecution.HistoricalStorage

open ExchangeAdapter FirstWins

variable {fromisoformat : IsoTexts} {type : ObservationType}

def mergeAll (fromisoformat : IsoTexts) :
    Option CsvFile → List (List (Observation type)) → Except StorageError (Option CsvFile)
  | file, [] => .ok file
  | file, batch :: later => do
      let (written, _result) ← mergeAndWrite fromisoformat file batch
      mergeAll fromisoformat (some written) later

def rowsAfter (rows : List (Observation type)) (batches : List (List (Observation type))) :
    List (Observation type) :=
  batches.foldl mergedRows rows

private theorem separate_symmetric {left right : Observation type} (separate : Separate left right) :
    Separate right left :=
  fun same => (separate same.symm).symm

instance : Std.Symm (@Separate type) where
  symm _ _ := separate_symmetric

private theorem pairwise_merged {rows batch later : List (Observation type)} :
    (rows ++ batch ++ later).Pairwise Separate ↔
      (rows ++ batch).Pairwise Separate ∧ (mergedRows rows batch ++ later).Pairwise Separate := by
  have perm := (perm_mergedRows rows batch).append_right later
  rw [perm.pairwise_iff separate_symmetric]
  constructor
  · intro all
    refine ⟨(List.pairwise_append.mp all).1, all.sublist ?_⟩
    exact ((List.Sublist.refl rows).append fresh_sublist).append (List.Sublist.refl later)
  · rintro ⟨before, merged⟩
    obtain ⟨_, laterPairs, across⟩ := List.pairwise_append.mp merged
    refine List.pairwise_append.mpr ⟨before, laterPairs, fun row member other isOther same => ?_⟩
    -- The row under the key of the other is compared with both.
    have first : ∃ first ∈ rows ++ added rows batch, identity first = identity row := by
      rcases List.mem_append.mp member with isRow | inBatch
      · exact ⟨row, List.mem_append_left _ isRow, rfl⟩
      · obtain ⟨first, isFirst, sameKey⟩ := covered_mergedRows inBatch
        exact ⟨first, (perm_mergedRows rows batch).mem_iff.mp isFirst, sameKey⟩
    obtain ⟨first, isFirst, sameKey⟩ := first
    obtain ⟨firstQuiet, otherQuiet⟩ := across first isFirst other isOther (sameKey.trans same)
    refine ⟨?_, otherQuiet⟩
    by_cases isSame : first = row
    · rwa [← isSame]
    · have isMember : first ∈ rows ++ batch :=
        ((List.Sublist.refl rows).append fresh_sublist).subset isFirst
      exact (before.forall isMember member isSame sameKey).2

variable {batches : List (List (Observation type))}

variable {rows : List (Observation type)} {series : List (Observation type)}

private theorem distinct_rowsAfter (distinct : (rows.map identity).Nodup) :
    ((rowsAfter rows batches).map identity).Nodup := by
  induction batches generalizing rows with
  | nil => exact distinct
  | cons batch later ih =>
      exact ih (((perm_mergedRows rows batch).map identity).nodup_iff.mpr (nodup_grown distinct))

private theorem sorted_rowsAfter (sorted : rows.Pairwise SortLe) :
    (rowsAfter rows batches).Pairwise SortLe := by
  induction batches generalizing rows with
  | nil => exact sorted
  | cons batch later ih => exact ih (pairwise_mergedRows rows batch)

private theorem mem_rowsAfter (distinct : (rows.map identity).Nodup) {row : Observation type} :
    row ∈ rowsAfter rows batches ↔ row ∈ kept identity (rows ++ batches.flatten) := by
  induction batches generalizing rows with
  | nil =>
      rw [List.flatten_nil, List.append_nil, kept_of_nodup distinct]
      rfl
  | cons batch later ih =>
      have perm := perm_mergedRows rows batch
      have grown := (perm.map identity).nodup_iff.mpr (nodup_grown distinct)
      have keys : ∀ name, name ∈ (mergedRows rows batch).map identity ↔
          name ∈ (rows ++ batch).map identity := by
        intro name
        rw [(perm.map identity).mem_iff, ← kept_rows distinct]
        exact mem_keys_kept
      change row ∈ rowsAfter (mergedRows rows batch) later ↔ _
      rw [ih grown, List.flatten_cons, ← List.append_assoc, kept_append, kept_append,
        kept_of_nodup grown, kept_rows distinct, List.mem_append, List.mem_append,
        perm.mem_iff, fresh_congr keys]

/-- All merges and the reading behind them succeed exactly when each row can be written and
compared, and the rows that stay can be read. -/
theorem mergeAll_ok {file : Option CsvFile} {rows series : List (Observation type)}
    (stored : Stored fromisoformat file rows)
    (accepted : ∀ batch ∈ batches, ∀ row ∈ batch, Accepted fromisoformat row) :
    (∃ final, mergeAll fromisoformat file batches = .ok final ∧
        load fromisoformat type final = .ok series) ↔
      ((∀ row ∈ rowsAfter rows batches, Readable row) ∧ (∀ row ∈ batches.flatten, Writable row) ∧
        (rows ++ batches.flatten).Pairwise Separate) ∧ series = rowsAfter rows batches := by
  induction batches generalizing file rows with
  | nil =>
      have alone := separate_of_distinct stored.distinct
      constructor
      · rintro ⟨final, same, loaded⟩
        cases same
        obtain ⟨readable, rfl⟩ := stored.load.mp loaded
        exact ⟨⟨readable, fun _ none => absurd none List.not_mem_nil, by simpa using alone⟩, rfl⟩
      · rintro ⟨⟨readable, _⟩, rfl⟩
        exact ⟨file, rfl, stored.load.mpr ⟨readable, rfl⟩⟩
  | cons batch later ih =>
      have batchAccepted := accepted batch List.mem_cons_self
      have laterAccepted := fun other member => accepted other (List.mem_cons_of_mem batch member)
      have merges := fun outcome => @mergeAndWrite_ok _ _ _ _ _ outcome stored batchAccepted
      have flat : ∀ row, row ∈ (batch :: later).flatten ↔ row ∈ batch ∨ row ∈ later.flatten := by
        intro row
        rw [List.flatten_cons, List.mem_append]
      rw [List.flatten_cons, ← List.append_assoc, pairwise_merged, List.forall_mem_append]
      constructor
      · rintro ⟨final, merged, loaded⟩
        obtain ⟨outcome, isOutcome, rest⟩ := ok_of_bind merged
        obtain ⟨⟨_, writable, pairs⟩, rfl⟩ := (merges _).mp isOutcome
        obtain ⟨⟨readable, laterWritable, laterPairs⟩, isSeries⟩ :=
          (ih (stored_mergedRows stored batchAccepted writable) laterAccepted).mp
            ⟨final, rest, loaded⟩
        exact ⟨⟨readable, ⟨writable, laterWritable⟩, pairs, laterPairs⟩, isSeries⟩
      · rintro ⟨⟨readable, ⟨writable, laterWritable⟩, pairs, laterPairs⟩, isSeries⟩
        have isStored := stored_mergedRows stored batchAccepted writable
        obtain ⟨final, rest, loaded⟩ := (ih isStored laterAccepted).mpr
          ⟨⟨readable, laterWritable, laterPairs⟩, isSeries⟩
        have kept : ∀ row ∈ rows, Readable row := by
          intro row member
          refine readable row ?_
          change row ∈ rowsAfter (mergedRows rows batch) later
          rw [mem_rowsAfter isStored.distinct, kept_append, kept_of_nodup isStored.distinct]
          exact List.mem_append_left _ (mem_mergedRows.mpr (.inl member))
        have merged := (merges _).mpr ⟨⟨kept, writable, pairs⟩, rfl⟩
        refine ⟨final, ?_, loaded⟩
        rw [mergeAll, bind_of_ok merged]
        exact rest

/-- The batches make a series that is in order and free of duplicates. -/
def StoresClean (fromisoformat : IsoTexts) (batches : List (List (Observation type))) : Prop :=
  ∃ file series, mergeAll fromisoformat none batches = .ok file ∧
    load fromisoformat type file = .ok series ∧
    series.Pairwise (InOrder fromisoformat) ∧
    (∃ report, assessQuality fromisoformat series none defaultGapToleranceFactor = .ok report) ∧
    ∀ interval factor report,
      assessQuality fromisoformat series interval factor = .ok report →
        report.isMonotonic = true ∧ report.duplicateCount = 0 ∧ report.duplicateKeys = []

structure Storable (fromisoformat : IsoTexts) (observations : List (Observation type)) : Prop where
  nonempty : observations ≠ []
  writable : ∀ observation ∈ observations, Writable observation
  readable : ∀ row ∈ kept identity observations, Readable row
  separate : observations.Pairwise Separate
  /-- The texts of the timestamps are in the order of the instants. -/
  ordered : ∀ earlier ∈ observations, ∀ later ∈ observations,
    earlier.observedAtUtc < later.observedAtUtc → InOrder fromisoformat earlier later
  single : ∀ left ∈ observations, ∀ right ∈ observations,
    seriesKey left = seriesKey right → identity left = identity right

private theorem seriesKey_eq {left right : Observation type} (same : identity left = identity right) :
    seriesKey left = seriesKey right := by
  obtain ⟨symbol, observed⟩ := identity_eq same
  unfold seriesKey
  rw [symbol, observed]

private theorem inOrder_congr {earlier later first second : Observation type}
    (inOrder : InOrder fromisoformat first second)
    (same : first.observedAtUtc = earlier.observedAtUtc)
    (sameLater : second.observedAtUtc = later.observedAtUtc) :
    InOrder fromisoformat earlier later := by
  unfold InOrder Observation.instant at *
  rwa [← same, ← sameLater]

private theorem pairwise_inOrder_iff (sorted : series.Pairwise SortLe) :
    series.Pairwise (InOrder fromisoformat) ↔
      ∀ earlier ∈ series, ∀ later ∈ series,
        earlier.observedAtUtc < later.observedAtUtc → InOrder fromisoformat earlier later := by
  constructor
  · intro inOrder
    have pairs : series.Pairwise fun left right =>
        (left.observedAtUtc < right.observedAtUtc → InOrder fromisoformat left right) ∧
          (right.observedAtUtc < left.observedAtUtc → InOrder fromisoformat right left) := by
      refine (sorted.and inOrder).imp fun both => ⟨fun _ => both.2, fun before => ?_⟩
      rcases both.1 with less | ⟨same, _⟩
      · exact absurd before less.not_gt
      · exact absurd before (same ▸ lt_irrefl _)
    have symmetric : Std.Symm fun left right : Observation type =>
        (left.observedAtUtc < right.observedAtUtc → InOrder fromisoformat left right) ∧
          (right.observedAtUtc < left.observedAtUtc → InOrder fromisoformat right left) :=
      { symm := fun _ _ both => ⟨both.2, both.1⟩ }
    intro earlier isEarlier later isLater before
    have different : earlier ≠ later := by
      rintro rfl
      exact lt_irrefl _ before
    exact (pairs.forall isEarlier isLater different).1 before
  · intro ordered
    refine sorted.imp_of_mem fun isEarlier isLater either => ?_
    rcases either with before | ⟨same, _⟩
    · exact ordered _ isEarlier _ isLater before
    · intro earlierTime laterTime isTime isLaterTime
      unfold Observation.instant at isTime isLaterTime
      rw [same, isLaterTime] at isTime
      exact (Option.some.inj isTime).ge

/-- Rows with different keys are told apart by symbol and timestamp exactly when there is
one key to these. -/
theorem nodup_seriesKey_iff (distinct : (series.map identity).Nodup) :
    (series.map seriesKey).Nodup ↔ ∀ left ∈ series, ∀ right ∈ series,
      seriesKey left = seriesKey right → identity left = identity right := by
  constructor
  · intro unique left isLeft right isRight same
    rw [eq_of_key_eq unique isLeft isRight same]
  · intro single
    rw [List.Nodup, List.pairwise_map] at distinct ⊢
    exact distinct.imp_of_mem fun isLeft isRight different same =>
      different (single _ isLeft _ isRight same)

private theorem nodup_nothing : (([] : List (Observation type)).map identity).Nodup := List.nodup_nil

private theorem stored_nothing : Stored fromisoformat none ([] : List (Observation type)) :=
  ⟨.inl ⟨rfl, rfl⟩, fun _ none => absurd none List.not_mem_nil, nodup_nothing⟩

variable {batches : List (List (Observation type))}

private theorem mem_series {row : Observation type} :
    row ∈ rowsAfter [] batches ↔ row ∈ kept identity batches.flatten := by
  rw [mem_rowsAfter nodup_nothing, List.nil_append]

private theorem series_covers {observation : Observation type}
    (member : observation ∈ batches.flatten) :
    ∃ row ∈ rowsAfter [] batches, identity row = identity observation := by
  obtain ⟨row, isKept, same⟩ := List.mem_map.mp
    (mem_keys_kept.mpr (List.mem_map_of_mem member) :
      identity observation ∈ (kept identity batches.flatten).map identity)
  exact ⟨row, mem_series.mpr isKept, same⟩

private theorem mem_of_mem_series {row : Observation type} (member : row ∈ rowsAfter [] batches) :
    row ∈ batches.flatten :=
  mem_of_mem_kept (mem_series.mp member)

private theorem accepted_series
    (accepted : ∀ batch ∈ batches, ∀ row ∈ batch, Accepted fromisoformat row) :
    ∀ row ∈ rowsAfter [] batches, Accepted fromisoformat row := by
  intro row member
  obtain ⟨batch, isBatch, inBatch⟩ := List.mem_flatten.mp (mem_of_mem_series member)
  exact accepted batch isBatch row inBatch

private theorem storable_of_storesClean
    (accepted : ∀ batch ∈ batches, ∀ row ∈ batch, Accepted fromisoformat row)
    (clean : StoresClean fromisoformat batches) : Storable fromisoformat batches.flatten := by
  obtain ⟨file, series, merged, loaded, inOrder, ⟨report, assessed⟩, reports⟩ := clean
  obtain ⟨⟨readable, writable, separate⟩, rfl⟩ :=
    (mergeAll_ok stored_nothing accepted).mp ⟨file, merged, loaded⟩
  rw [List.nil_append] at separate
  have nonempty := (assessQuality_total (accepted_series accepted)).mp ⟨report, assessed⟩
  have unique := (assessQuality_report assessed).2.1.mp (reports _ _ _ assessed).2.1
  have ordered := (pairwise_inOrder_iff (sorted_rowsAfter List.Pairwise.nil)).mp inOrder
  have single := (nodup_seriesKey_iff (distinct_rowsAfter nodup_nothing)).mp unique
  refine ⟨?_, writable, fun row member => readable row (mem_series.mpr member), separate, ?_, ?_⟩
  · intro none
    obtain ⟨row, member⟩ := List.exists_mem_of_ne_nil _ nonempty
    exact List.eq_nil_iff_forall_not_mem.mp none row (mem_of_mem_series member)
  · intro earlier isEarlier later isLater before
    obtain ⟨first, isFirst, sameEarlier⟩ := series_covers isEarlier
    obtain ⟨second, isSecond, sameLater⟩ := series_covers isLater
    have observed := (identity_eq sameEarlier).2
    have laterObserved := (identity_eq sameLater).2
    refine inOrder_congr (ordered first isFirst second isSecond ?_) observed laterObserved
    rwa [observed, laterObserved]
  · intro left isLeft right isRight same
    obtain ⟨first, isFirst, sameLeft⟩ := series_covers isLeft
    obtain ⟨second, isSecond, sameRight⟩ := series_covers isRight
    rw [← sameLeft, ← sameRight]
    refine single first isFirst second isSecond ?_
    rw [seriesKey_eq sameLeft, seriesKey_eq sameRight, same]

private theorem storesClean_of_storable
    (accepted : ∀ batch ∈ batches, ∀ row ∈ batch, Accepted fromisoformat row)
    (storable : Storable fromisoformat batches.flatten) : StoresClean fromisoformat batches := by
  have within := fun row member => @mem_of_mem_series _ batches row member
  obtain ⟨file, merged, loaded⟩ := (mergeAll_ok stored_nothing accepted).mpr
    ⟨⟨fun row member => storable.readable row (mem_series.mp member), storable.writable,
      storable.separate⟩, rfl⟩
  have inOrder := (pairwise_inOrder_iff (sorted_rowsAfter List.Pairwise.nil)).mpr
    fun earlier isEarlier later isLater =>
      storable.ordered earlier (within earlier isEarlier) later (within later isLater)
  have unique := (nodup_seriesKey_iff (distinct_rowsAfter nodup_nothing)).mpr
    fun left isLeft right isRight =>
      storable.single left (within left isLeft) right (within right isRight)
  refine ⟨file, _, merged, loaded, inOrder,
    (assessQuality_total (accepted_series accepted)).mpr ?_, fun interval factor report assessed => ?_⟩
  · intro none
    obtain ⟨observation, member⟩ := List.exists_mem_of_ne_nil _ storable.nonempty
    obtain ⟨row, isRow, _⟩ := series_covers member
    rw [none] at isRow
    cases isRow
  · obtain ⟨monotonic, count, keys⟩ := assessQuality_report assessed
    exact ⟨monotonic.mpr inOrder, count.mpr unique, keys.mpr unique⟩

/-- The batches make a clean series exactly when their observations are storable. -/
theorem storesClean_iff
    (accepted : ∀ batch ∈ batches, ∀ row ∈ batch, Accepted fromisoformat row) :
    StoresClean fromisoformat batches ↔ Storable fromisoformat batches.flatten :=
  ⟨storable_of_storesClean accepted, storesClean_of_storable accepted⟩

def midnightTexts : IsoTexts := fun text =>
  if text = "2026-01-01T00:00:00+00:00" then some 1767225600000000
  else if text = "2026-01-01T05:00:00+05:00" then some 1767225600000000
  else if text = "2026-01-01T00:00:01+00:00" then some 1767225601000000
  else none

def midnightRate (observedAtUtc : String) : Observation (.scalar .fundingRate) :=
  rateAt observedAtUtc "2026-01-01T00:00:01+00:00"

theorem storesClean_iff_rates :
    StoresClean midnightTexts [[midnightRate "2026-01-01T00:00:01+00:00"],
      [midnightRate "2026-01-01T00:00:00+00:00"]] := by
  have accepted : ∀ batch ∈ [[midnightRate "2026-01-01T00:00:01+00:00"],
      [midnightRate "2026-01-01T00:00:00+00:00"]], ∀ row ∈ batch, Accepted midnightTexts row := by
    decide +kernel
  apply (storesClean_iff accepted).mpr
  constructor
  · exact List.cons_ne_nil _ _
  · exact fun _ _ => trivial
  · intro row member
    have isRow := mem_of_mem_kept member
    simp only [List.flatten_cons, List.flatten_nil, List.cons_append, List.nil_append,
      List.mem_cons, List.not_mem_nil, or_false] at isRow
    rcases isRow with rfl | rfl <;> unfold Readable <;> decide +kernel
  · unfold Separate Signals
    decide +kernel
  · intro earlier isEarlier later isLater before
    simp only [List.flatten_cons, List.flatten_nil, List.cons_append, List.nil_append,
      List.mem_cons, List.not_mem_nil, or_false] at isEarlier isLater
    rcases isEarlier with rfl | rfl <;> rcases isLater with rfl | rfl
    · exact absurd before (lt_irrefl _)
    · exact absurd before (by decide +kernel)
    · intro earlierTime laterTime isTime isLaterTime
      cases isTime
      cases isLaterTime
      decide
    · exact absurd before (lt_irrefl _)
  · decide +kernel

def pairedFill (side direction : String) : Observation .liquidation :=
  { symbol := btc
    observedAtUtc := "2026-01-01T00:00:00+00:00"
    market := Liquidation.mk (.finite false 90000 0) (.finite false 1 (-1)) side direction "market"
      "0xabc" (.finite false 90000 0) 7
    source := "hyperliquid"
    sourceDetail := "node_fills_by_block"
    ingestedAtUtc := "2026-01-01T00:00:01+00:00" }

/-- A midnight that is written with an offset is sorted behind a later second, and the two
fills of a liquidation count as duplicates. -/
theorem midnight_unordered :
    (Accepted midnightTexts (midnightRate "2026-01-01T05:00:00+05:00") ∧
      Accepted midnightTexts (midnightRate "2026-01-01T00:00:01+00:00") ∧
      ¬StoresClean midnightTexts [[midnightRate "2026-01-01T05:00:00+05:00",
        midnightRate "2026-01-01T00:00:01+00:00"]]) ∧
    Accepted midnightTexts (pairedFill "A" "Close Long") ∧
      Accepted midnightTexts (pairedFill "B" "Close Short") ∧
      ¬StoresClean midnightTexts [[pairedFill "A" "Close Long", pairedFill "B" "Close Short"]] := by
  have rates : ∀ batch ∈ [[midnightRate "2026-01-01T05:00:00+05:00",
      midnightRate "2026-01-01T00:00:01+00:00"]], ∀ row ∈ batch, Accepted midnightTexts row := by
    decide +kernel
  have fills : ∀ batch ∈ [[pairedFill "A" "Close Long", pairedFill "B" "Close Short"]],
      ∀ row ∈ batch, Accepted midnightTexts row := by
    decide +kernel
  refine ⟨⟨by decide +kernel, by decide +kernel, fun clean => ?_⟩, by decide +kernel,
    by decide +kernel, fun clean => ?_⟩
  · have storable := storable_of_storesClean rates clean
    have inOrder := storable.ordered (midnightRate "2026-01-01T00:00:01+00:00")
      (List.mem_cons_of_mem _ List.mem_cons_self) (midnightRate "2026-01-01T05:00:00+05:00")
      List.mem_cons_self (by decide +kernel)
    exact absurd (inOrder 1767225601000000 1767225600000000 (by decide +kernel)
      (by decide +kernel)) (by decide)
  · have storable := storable_of_storesClean fills clean
    have same := storable.single (pairedFill "A" "Close Long") List.mem_cons_self
      (pairedFill "B" "Close Short") (List.mem_cons_of_mem _ List.mem_cons_self) rfl
    exact absurd same (by decide +kernel)

end TurtleExecution.HistoricalStorage

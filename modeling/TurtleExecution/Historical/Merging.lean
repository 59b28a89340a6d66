/-
What a merge makes of a series.

Each key of the existing and of the new rows has one row, and a row that was there
stays.  Where a write does not return, the file is the old one or the new one.
-/

import TurtleExecution.Foundation.Pairs
import TurtleExecution.Historical.Storage

set_option autoImplicit false

namespace TurtleExecution.Historical

open FirstWins Process

section

variable {Number : Type} [LedgerArithmetic Number]

theorem checked_same {metric : Metric} {observation result : Observation Number}
    (accepted : checked metric observation = .ok result) : result = observation := by
  cases metric with
  | fundingRate =>
      cases accepted
      rfl
  | openInterest =>
      obtain ⟨negative, _, rest⟩ := ok_of_bind accepted
      cases negative with
      | true => cases rest
      | false =>
          cases rest
          rfl
  | markPrice =>
      obtain ⟨nonPositive, _, rest⟩ := ok_of_bind accepted
      cases nonPositive with
      | true => cases rest
      | false =>
          cases rest
          rfl

private theorem checked_all {metric : Metric} {rows loaded : List (Observation Number)}
    (accepted : rows.mapM (checked metric) = .ok loaded) : loaded = rows := by
  have pairs := (forall₂_of_mapM accepted).imp fun _ _ one => (checked_same one).symm
  rw [List.forall₂_eq_eq_eq] at pairs
  exact pairs.symm

variable {new : List (Observation Number)} {series : Series}

def Unique (rows : List (Observation Number)) : Prop :=
  (rows.map dedupKey).Nodup

structure Merged (existing new rows : List (Observation Number)) : Prop where
  unique : Unique rows
  kept : Unique existing → ∀ row ∈ existing, row ∈ rows
  from_ : ∀ row ∈ rows, row ∈ existing ∨ row ∈ new
  present : ∀ row ∈ new, ∃ other ∈ rows, dedupKey other = dedupKey row

omit [LedgerArithmetic Number] in
private theorem ofItems_eq_index (existing : List (Observation Number)) :
    ∃ known, Dict.ofItems (existing.map fun observation => (dedupKey observation, observation)) =
        index dedupKey known ∧ Unique known ∧ (∀ row ∈ known, row ∈ existing) ∧
          (Unique existing → known = existing) := by
  have own : ∀ item ∈ Dict.ofItems
      (existing.map fun observation => (dedupKey observation, observation)),
        item.1 = dedupKey item.2 ∧ item.2 ∈ existing := by
    intro item member
    obtain ⟨observation, isExisting, rfl⟩ := List.mem_map.mp (Dict.mem_of_mem_ofItems member)
    exact ⟨rfl, isExisting⟩
  have distinct := Dict.nodup_keys_ofItems
    (existing.map fun observation => (dedupKey observation, observation))
  refine ⟨(Dict.ofItems (existing.map fun observation =>
    (dedupKey observation, observation))).map Prod.snd, ?_, ?_, ?_, ?_⟩
  · unfold index
    rw [List.map_map]
    exact (List.map_id _).symm.trans
      (List.map_congr_left fun item member => Prod.ext (own item member).1 rfl)
  · unfold Unique
    rw [List.map_map]
    exact (List.map_congr_left fun item member => (own item member).1) ▸ distinct
  · intro row member
    obtain ⟨item, isItem, rfl⟩ := List.mem_map.mp member
    exact (own item isItem).2
  · intro unique
    rw [Dict.ofItems_of_nodup (by rw [List.map_map]; exact unique), List.map_map]
    exact List.map_id existing

private theorem mergeRows_ok {existing new rows : List (Observation Number)} {result : MergeResult}
    (computed : mergeRows existing new = .ok (rows, result)) : Merged existing new rows := by
  obtain ⟨⟨merged, added, conflicts⟩, allAdded, same⟩ := ok_of_bind computed
  cases same
  obtain ⟨known, isIndex, unique, fromExisting, same⟩ := ofItems_eq_index existing
  rw [isIndex] at allAdded
  have isMerged : merged = index dedupKey (kept dedupKey (known ++ new)) :=
    addAll_index (fun _ => rfl) unique allAdded
  have order : ((merged.map Prod.snd).insertionSort Chronological).Perm
      (kept dedupKey (known ++ new)) := by
    have sorted := List.perm_insertionSort Chronological (merged.map Prod.snd)
    rw [isMerged] at sorted ⊢
    unfold index at sorted ⊢
    rw [List.map_map] at sorted ⊢
    exact sorted.trans (.of_eq (List.map_id _))
  constructor
  · exact (order.map dedupKey).nodup_iff.mpr nodup_fresh
  · intro existingUnique row member
    rw [order.mem_iff, kept_append, kept_of_nodup unique, same existingUnique]
    exact List.mem_append_left _ member
  · intro row member
    rcases List.mem_append.mp (mem_of_mem_kept (order.mem_iff.mp member)) with isKnown | isNew
    · exact Or.inl (fromExisting row isKnown)
    · exact Or.inr isNew
  · intro row member
    have isKey : dedupKey row ∈ (kept dedupKey (known ++ new)).map dedupKey :=
      mem_keys_kept.mpr (List.mem_map_of_mem (List.mem_append_right known member))
    obtain ⟨other, isKept, sameKey⟩ := List.mem_map.mp isKey
    exact ⟨other, order.mem_iff.mpr isKept, sameKey⟩

omit [LedgerArithmetic Number] in
theorem Unique.eq {rows : List (Observation Number)} (unique : Unique rows)
    {left right : Observation Number} (isLeft : left ∈ rows) (isRight : right ∈ rows)
    (same : dedupKey left = dedupKey right) : left = right :=
  List.inj_on_of_nodup_map unique isLeft isRight same

private theorem load_ends (series : Series) (disk : Disk Number) :
    Ends (load series) disk
      { returned := fun rows after => rows = disk.rows series ∧ after = disk
        raised := fun _ after => after = disk
        crashed := fun _ => False } := by
  apply ends_bind_get
  cases accepted : (disk.rows series).mapM (checked series.metric) with
  | error error => exact rfl
  | ok rows => exact ⟨checked_all accepted, rfl⟩

def Wrote (before : Disk Number) (series : Series) (new : List (Observation Number))
    (after : Disk Number) : Prop :=
  ∃ rows, Merged (before.rows series) new rows ∧ after.files = Dict.set before.files series rows

omit [LedgerArithmetic Number] in
private theorem replace_ends (series : Series) (rows : List (Observation Number))
    (disk : Disk Number) :
    Ends (replace series rows) disk
      { returned := fun _ after => after.files = Dict.set disk.files series rows
        raised := fun _ after => after.files = disk.files
        crashed := fun after => after.files = disk.files ∨
          after.files = Dict.set disk.files series rows } := by
  unfold Ends replace
  cases disk.answers.headD .done with
  | done => exact rfl
  | fails => exact rfl
  | dies replaced =>
      cases replaced with
      | true => exact Or.inr rfl
      | false => exact Or.inl rfl

private theorem mergeAndWrite_ends (series : Series) (new : List (Observation Number))
    (disk : Disk Number) :
    Ends (mergeAndWrite series new) disk
      { returned := fun _ after => Wrote disk series new after
        raised := fun _ after => after.files = disk.files
        crashed := fun after => after.files = disk.files ∨ Wrote disk series new after } := by
  unfold mergeAndWrite
  apply ends_bind (fun rows after => rows = disk.rows series ∧ after = disk)
  · exact (load_ends series disk).mono (fun _ _ same => same) (fun _ _ same => by rw [same])
      (fun _ impossible => impossible.elim)
  · intro existing after ⟨isRows, unchanged⟩
    rw [isRows, unchanged]
    apply ends_bind_ofExcept fun _ => rfl
    intro merged computed
    have isMerged := mergeRows_ok computed
    apply ends_bind (fun _ after => after.files = Dict.set disk.files series merged.1)
    · exact (replace_ends series merged.1 disk).mono (fun _ _ same => same)
        (fun _ _ same => same)
        (fun _ either => either.imp_right fun same => ⟨_, isMerged, same⟩)
    · exact fun _ after same => ⟨_, isMerged, same⟩

omit [LedgerArithmetic Number] in
theorem rows_written {before after : Disk Number} (wrote : Wrote before series new after) :
    Merged (before.rows series) new (after.rows series) ∧
      ∀ other, other ≠ series → after.rows other = before.rows other := by
  obtain ⟨rows, merged, files⟩ := wrote
  unfold Disk.rows at *
  rw [files]
  constructor
  · rw [Dict.get?_set_self]
    exact merged
  · intro other different
    rw [Dict.get?_set_of_ne _ _ different]

theorem ends_bind_load {Value : Type} {next : List (Observation Number) → Collecting Number Value}
    {disk : Disk Number} {post : Post (Disk Number) HistoricalError Value}
    (refused : ∀ error, post.raised error disk) (rest : Ends (next (disk.rows series)) disk post) :
    Ends (load series >>= next) disk post := by
  apply ends_bind (fun rows after => rows = disk.rows series ∧ after = disk)
  · apply (load_ends series disk).mono
    · exact fun _ _ same => same
    · intro error _ same
      rw [same]
      exact refused error
    · exact fun _ impossible => impossible.elim
  · intro rows after ⟨isRows, unchanged⟩
    rw [isRows, unchanged]
    exact rest

theorem ends_bind_merge {Value : Type} {next : MergeResult → Collecting Number Value}
    {disk : Disk Number} {post : Post (Disk Number) HistoricalError Value}
    (unwritten : ∀ after : Disk Number, after.files = disk.files →
      (∀ error, post.raised error after) ∧ post.crashed after)
    (written : ∀ after, Wrote disk series new after →
      post.crashed after ∧ ∀ result, Ends (next result) after post) :
    Ends (mergeAndWrite series new >>= next) disk post := by
  apply ends_bind (fun _ after => Wrote disk series new after)
  · apply (mergeAndWrite_ends series new disk).mono
    · exact fun _ _ wrote => wrote
    · exact fun error after same => (unwritten after same).1 error
    · intro after either
      rcases either with same | wrote
      · exact (unwritten after same).2
      · exact (written after wrote).1
  · exact fun result after wrote => (written after wrote).2 result

end

end TurtleExecution.Historical

/-
Runs of the collectors that write the open interest and the mark prices.

Which days `collect_metrics` skips is read off the open interest alone.  Both series are
complete behind a call exactly if what it skips is in them, or in a file that it fetches.
-/

import TurtleExecution.Historical.Fetching

set_option autoImplicit false

namespace TurtleExecution.Historical

open Calendar ExchangeAdapter Process

section

variable {Number : Type} [LedgerArithmetic Number]

def MetricsRow.markPrice (row : MetricsRow Number) : Option Number :=
  match row.sumOpenInterestValue, Arithmetic.lt Arithmetic.zero row.sumOpenInterest with
  | some value, .ok true => (Arithmetic.div value row.sumOpenInterest).toOption
  | _, _ => none

variable {symbol : Symbol} {archive : BinanceArchive Number} {day ingestedAtUtc : Int}
  {row : MetricsRow Number}

private theorem openInterestOf_ok {observation : Observation Number}
    (read : openInterestOf symbol day ingestedAtUtc row = .ok observation) :
    IsReading symbol row.createTime row.sumOpenInterest observation := by
  cases checked_same read
  exact ⟨rfl, rfl, rfl⟩

private theorem markPriceOf_ok {value : Number} {observation : Observation Number}
    (read : markPriceOf symbol day ingestedAtUtc row value = .ok observation) :
    ∃ price, Arithmetic.div value row.sumOpenInterest = .ok price ∧
      IsReading symbol row.createTime price observation := by
  obtain ⟨price, divided, rest⟩ := ok_of_bind read
  cases checked_same rest
  exact ⟨price, ok_of_mapError divided, rfl, rfl, rfl⟩

private theorem metricsOf_ok {openInterest : Observation Number} {mark : Option (Observation Number)}
    (read : metricsOf symbol day ingestedAtUtc row = .ok (openInterest, mark)) :
    IsReading symbol row.createTime row.sumOpenInterest openInterest ∧
      (∀ observation ∈ mark, ∃ price ∈ row.markPrice,
        IsReading symbol row.createTime price observation) ∧
      ∀ price ∈ row.markPrice, ∃ observation ∈ mark,
        IsReading symbol row.createTime price observation := by
  obtain ⟨value, isValue, rest⟩ := ok_of_bind read
  obtain ⟨observation, readOpenInterest, rest⟩ := ok_of_bind rest
  obtain ⟨positive, compared, rest⟩ := ok_of_bind rest
  have sign := ok_of_mapError compared
  have hasValue : row.sumOpenInterestValue = some value := by
    unfold openInterestValue at isValue
    split at isValue
    · cases isValue
      assumption
    · cases isValue
  unfold MetricsRow.markPrice
  rw [hasValue, sign]
  cases positive with
  | false =>
      cases rest
      exact ⟨openInterestOf_ok readOpenInterest, by simp, by simp⟩
  | true =>
      obtain ⟨marked, readMark, same⟩ := ok_of_bind rest
      cases same
      obtain ⟨price, divided, isReading⟩ := markPriceOf_ok readMark
      dsimp only
      rw [divided]
      refine ⟨openInterestOf_ok readOpenInterest, ?_, ?_⟩
      · intro observation isMark
        cases Option.mem_some.mp isMark
        exact ⟨price, rfl, isReading⟩
      · intro other isPrice
        cases (isPrice : some price = some other)
        exact ⟨marked, rfl, isReading⟩

structure FileRead (symbol : Symbol) (rows : List (MetricsRow Number))
    (batch : List (Observation Number) × List (Observation Number)) : Prop where
  openInterestFrom : ∀ observation ∈ batch.1, ∃ row ∈ rows,
    IsReading symbol row.createTime row.sumOpenInterest observation
  openInterest : ∀ row ∈ rows, ∃ observation ∈ batch.1,
    IsReading symbol row.createTime row.sumOpenInterest observation
  markPriceFrom : ∀ observation ∈ batch.2, ∃ row ∈ rows, ∃ price ∈ row.markPrice,
    IsReading symbol row.createTime price observation
  markPrice : ∀ row ∈ rows, ∀ price ∈ row.markPrice, ∃ observation ∈ batch.2,
    IsReading symbol row.createTime price observation

variable {disk : Disk Number} {clock : Int → Int} {day : Int}

private theorem fetchMetricsDay_ok
    {result : Option (List (Observation Number) × List (Observation Number))}
    (fetched : fetchMetricsDay archive clock symbol day = .ok result) :
    (∀ rows, archive.metrics symbol day = .csv rows →
      ∃ batch, result = some batch ∧ FileRead symbol rows batch) ∧
    ∀ batch, result = some batch → ∃ rows, archive.metrics symbol day = .csv rows ∧
      FileRead symbol rows batch := by
  obtain ⟨read, readAll, same⟩ := ok_of_bind fetched
  cases same
  rcases readRows_ok readAll with ⟨unpublished, nothing⟩ | ⟨rows, values, isFile, isRead, pairs⟩
  · rw [nothing, unpublished]
    exact ⟨fun _ impossible => (nomatch impossible), fun _ impossible => (nomatch impossible)⟩
  · have isAll : FileRead symbol rows (values.map Prod.fst, (values.map Prod.snd).reduceOption) := by
      constructor
      · intro observation member
        obtain ⟨value, isValue, rfl⟩ := List.mem_map.mp member
        obtain ⟨row, isRow, readRow⟩ := exists_of_forall₂_right pairs isValue
        exact ⟨row, isRow, (metricsOf_ok readRow).1⟩
      · intro row isRow
        obtain ⟨value, isValue, readRow⟩ := exists_of_forall₂_left pairs isRow
        exact ⟨value.1, List.mem_map.mpr ⟨value, isValue, rfl⟩, (metricsOf_ok readRow).1⟩
      · intro observation member
        obtain ⟨value, isValue, isMark⟩ := List.mem_map.mp (List.reduceOption_mem_iff.mp member)
        obtain ⟨row, isRow, readRow⟩ := exists_of_forall₂_right pairs isValue
        obtain ⟨price, isPrice, isReading⟩ := (metricsOf_ok readRow).2.1 observation isMark
        exact ⟨row, isRow, price, isPrice, isReading⟩
      · intro row isRow price isPrice
        obtain ⟨value, isValue, readRow⟩ := exists_of_forall₂_left pairs isRow
        obtain ⟨observation, isMark, isReading⟩ := (metricsOf_ok readRow).2.2 price isPrice
        exact ⟨observation, List.reduceOption_mem_iff.mpr
          (List.mem_map.mpr ⟨value, isValue, isMark⟩), isReading⟩
    rw [isRead, isFile]
    constructor
    · rintro _ ⟨⟩
      exact ⟨_, rfl, isAll⟩
    · rintro _ ⟨⟩
      exact ⟨rows, rfl, isAll⟩

/-- No two rows of a file have one key, and its rows are of its symbol. -/
def Disk.Sound (disk : Disk Number) : Prop :=
  ∀ series, Unique (disk.rows series) ∧ ∀ row ∈ disk.rows series, row.symbol = series.symbol

omit [LedgerArithmetic Number] in
theorem Disk.Sound.written {before after : Disk Number} (sound : before.Sound) {series : Series}
    {new : List (Observation Number)} (own : ∀ observation ∈ new, observation.symbol = series.symbol)
    (wrote : Wrote before series new after) : after.Sound := by
  obtain ⟨merged, others⟩ := rows_written wrote
  intro other
  by_cases same : other = series
  · rw [same]
    refine ⟨merged.unique, fun row member => ?_⟩
    rcases merged.from_ row member with known | isAdded
    · exact (sound series).2 row known
    · exact own row isAdded
  · rw [others other same]
    exact sound other

omit [LedgerArithmetic Number] in
theorem Disk.Sound.of_files {before after : Disk Number} (sound : before.Sound)
    (files : after.files = before.files) : after.Sound := by
  unfold Disk.Sound Disk.rows at *
  rw [files]
  exact sound

def staysSound (Value : Type) : Post (Disk Number) HistoricalError Value :=
  { returned := fun _ after => after.Sound
    raised := fun _ after => after.Sound
    crashed := fun after => after.Sound }

private theorem collectDays_sound {metric : Metric}
    {fetch : Symbol → Int → Except HistoricalError (Option (List (Observation Number)))}
    (own : ∀ symbol day batch, fetch symbol day = .ok (some batch) →
      ∀ observation ∈ batch, observation.symbol = symbol) (request : Request) (source : Source)
    (sound : disk.Sound) :
    Ends (collectDays metric fetch request source) disk (staysSound CollectionResult) := by
  unfold collectDays
  apply ends_bind_require fun _ => sound
  intro _
  apply ends_bind_require fun _ => sound
  intro _
  apply ends_bind_load fun _ => sound
  apply ends_bind_ofExcept fun _ => sound
  intro gathered computed
  have all := gatherDays_ok computed
  apply ends_bind_merge
  · exact fun after same => ⟨fun _ => sound.of_files same, sound.of_files same⟩
  · intro after wrote
    have after_sound : after.Sound := by
      apply sound.written _ wrote
      intro observation member
      obtain ⟨batch, isBatch, inBatch⟩ := List.mem_flatten.mp member
      obtain ⟨day, _, _, fetched⟩ := all.from_ batch isBatch
      exact own _ day batch fetched observation inBatch
    refine ⟨after_sound, fun result => ?_⟩
    apply ends_bind_load fun _ => after_sound
    exact after_sound

private theorem fetchOpenInterestDay_own {batch : List (Observation Number)}
    (fetched : fetchOpenInterestDay archive clock symbol day = .ok (some batch)) :
    ∀ observation ∈ batch, observation.symbol = symbol := by
  intro observation member
  rcases readRows_ok fetched with ⟨_, impossible⟩ | ⟨_, values, _, same, pairs⟩
  · cases impossible
  · cases same
    obtain ⟨row, _, read⟩ := exists_of_forall₂_right pairs member
    exact (openInterestOf_ok read).symbol

private theorem fetchMarkPriceDay_own {batch : List (Observation Number)}
    (fetched : fetchMarkPriceDay archive clock symbol day = .ok (some batch)) :
    ∀ observation ∈ batch, observation.symbol = symbol := by
  intro observation member
  obtain ⟨read, readAll, same⟩ := ok_of_bind fetched
  rcases readRows_ok readAll with ⟨_, nothing⟩ | ⟨_, values, _, isRead, pairs⟩
  · rw [nothing] at same
    cases same
  · rw [isRead] at same
    cases same
    obtain ⟨row, _, readRow⟩ := exists_of_forall₂_right pairs (List.reduceOption_mem_iff.mp member)
    obtain ⟨value, _, rest⟩ := ok_of_bind readRow
    obtain ⟨nonPositive, _, rest⟩ := ok_of_bind rest
    cases nonPositive with
    | true => cases rest
    | false =>
        obtain ⟨mark, readMark, same⟩ := ok_of_bind rest
        cases same
        obtain ⟨_, _, isReading⟩ := markPriceOf_ok readMark
        exact isReading.symbol

def openInterestSeries (symbol : Symbol) : Series :=
  { metric := .openInterest, symbol, source := .binance }

def markPriceSeries (symbol : Symbol) : Series :=
  { metric := .markPrice, symbol, source := .binance }

def Request.skipsDay (request : Request) (disk : Disk Number) (day : Int) : Bool :=
  skips request.force (existingDaysCovered (disk.rows (openInterestSeries request.symbol))) day

def MetricsWritten (archive : BinanceArchive Number) (clock : Int → Int) (request : Request)
    (before after : Disk Number) : Prop :=
  ∃ batches, FetchedAll (request.skipsDay before) (fetchMetricsDay archive clock request.symbol)
      (daysOf request.startDate request.endDate) batches ∧
    Merged (before.rows (openInterestSeries request.symbol)) (batches.map Prod.fst).flatten
      (after.rows (openInterestSeries request.symbol)) ∧
    Merged (before.rows (markPriceSeries request.symbol)) (batches.map Prod.snd).flatten
      (after.rows (markPriceSeries request.symbol))

private theorem collectMetrics_ends (archive : BinanceArchive Number) (clock : Int → Int)
    (request : Request) (sound : disk.Sound) :
    Ends (collectMetrics archive clock request) disk
      { returned := fun _ after => after.Sound ∧ MetricsWritten archive clock request disk after
        raised := fun _ after => after.Sound
        crashed := fun after => after.Sound } := by
  unfold collectMetrics
  apply ends_bind_require fun _ => sound
  intro _
  apply ends_bind_load fun _ => sound
  apply ends_bind_ofExcept fun _ => sound
  intro gathered computed
  have all := gatherDays_ok computed
  have readBatch : ∀ batch ∈ gathered.batches, ∃ rows, FileRead request.symbol rows batch := by
    intro batch isBatch
    obtain ⟨day, _, _, fetched⟩ := all.from_ batch isBatch
    obtain ⟨rows, _, isRead⟩ := (fetchMetricsDay_ok fetched).2 batch rfl
    exact ⟨rows, isRead⟩
  apply ends_bind_merge
  · exact fun after same => ⟨fun _ => sound.of_files same, sound.of_files same⟩
  · intro between wroteOpenInterest
    have betweenSound : between.Sound := by
      apply sound.written _ wroteOpenInterest
      intro observation member
      obtain ⟨_, isList, inList⟩ := List.mem_flatten.mp member
      obtain ⟨batch, isBatch, rfl⟩ := List.mem_map.mp isList
      obtain ⟨rows, isRead⟩ := readBatch batch isBatch
      obtain ⟨_, _, isReading⟩ := isRead.openInterestFrom observation inList
      exact isReading.symbol
    refine ⟨betweenSound, fun merge => ?_⟩
    apply ends_bind_merge
    · exact fun after same => ⟨fun _ => betweenSound.of_files same, betweenSound.of_files same⟩
    · intro after wroteMark
      have afterSound : after.Sound := by
        apply betweenSound.written _ wroteMark
        intro observation member
        obtain ⟨_, isList, inList⟩ := List.mem_flatten.mp member
        obtain ⟨batch, isBatch, rfl⟩ := List.mem_map.mp isList
        obtain ⟨rows, isRead⟩ := readBatch batch isBatch
        obtain ⟨_, _, _, _, isReading⟩ := isRead.markPriceFrom observation inList
        exact isReading.symbol
      have different : openInterestSeries request.symbol ≠ markPriceSeries request.symbol := by
        intro same
        injection same with sameMetric
        cases sameMetric
      obtain ⟨openInterestMerged, others⟩ := rows_written wroteOpenInterest
      obtain ⟨markMerged, unchanged⟩ := rows_written wroteMark
      refine ⟨afterSound, fun markMerge => ?_⟩
      apply ends_bind_load fun _ => afterSound
      apply ends_bind_load fun _ => afterSound
      refine ⟨afterSound, gathered.batches, all, ?_, ?_⟩
      · rw [unchanged _ different]
        exact openInterestMerged
      · rw [← others _ different.symm]
        exact markMerged

inductive MetricsOperation
  | openInterest (request : Request) (source : Source)
  | markPrice (request : Request) (source : Source)
  | metrics (request : Request)

structure MetricsCall where
  operation : MetricsOperation
  clock : Int → Int
  answers : List WriteAnswer

def MetricsCall.perform (archive : BinanceArchive Number)
    (files : Dict Series (List (Observation Number))) (call : MetricsCall) :
    Dict Series (List (Observation Number)) :=
  match call.operation with
  | .openInterest request source =>
      (collectOpenInterest archive call.clock request source { files, answers := call.answers }).2.files
  | .markPrice request source =>
      (collectMarkPrice archive call.clock request source { files, answers := call.answers }).2.files
  | .metrics request =>
      (collectMetrics archive call.clock request { files, answers := call.answers }).2.files

def filesAfter (archive : BinanceArchive Number) (calls : List MetricsCall) :
    Dict Series (List (Observation Number)) :=
  calls.foldl (MetricsCall.perform archive) []

omit [LedgerArithmetic Number] in
private theorem sound_of_ends {Value : Type} {process : Collecting Number Value}
    (ends : Ends process disk (staysSound Value)) : (process disk).2.Sound := by
  unfold Ends at ends
  rcases ran : process disk with ⟨outcome, after⟩
  rw [ran] at ends
  cases outcome <;> exact ends

private theorem sound_perform (archive : BinanceArchive Number)
    {files : Dict Series (List (Observation Number))} (call : MetricsCall)
    (sound : ∀ answers, Disk.Sound { files, answers }) (answers : List WriteAnswer) :
    Disk.Sound { files := call.perform archive files, answers } := by
  unfold MetricsCall.perform
  cases call.operation with
  | openInterest request source =>
      apply Disk.Sound.of_files (sound_of_ends (collectDays_sound
        (fun _ _ _ => fetchOpenInterestDay_own) request source (sound call.answers)))
      rfl
  | markPrice request source =>
      apply Disk.Sound.of_files (sound_of_ends (collectDays_sound
        (fun _ _ _ => fetchMarkPriceDay_own) request source (sound call.answers)))
      rfl
  | metrics request =>
      apply Disk.Sound.of_files (sound_of_ends ((collectMetrics_ends archive call.clock request
        (sound call.answers)).mono (fun _ _ both => both.1) (fun _ _ sound => sound)
          (fun _ sound => sound)))
      rfl

private theorem sound_filesAfter (archive : BinanceArchive Number) (calls : List MetricsCall)
    (answers : List WriteAnswer) : Disk.Sound { files := filesAfter archive calls, answers } := by
  have all : ∀ files : Dict Series (List (Observation Number)),
      (∀ answers, Disk.Sound { files, answers }) →
        ∀ answers, Disk.Sound { files := calls.foldl (MetricsCall.perform archive) files, answers } := by
    induction calls with
    | nil => exact fun _ sound => sound
    | cons call calls ih => exact fun files sound => ih _ (sound_perform archive call sound)
  refine all [] (fun _ series => ⟨List.nodup_nil, fun _ member => ?_⟩) answers
  exact absurd member List.not_mem_nil

section

variable (readings : Int → Int → Number → Prop)

def AllStored (symbol : Symbol) (rows : List (Observation Number)) : Prop :=
  ∀ day instant value, readings day instant value →
    ∃ observation ∈ rows, IsReading symbol instant value observation

/-- A reading of a skipped day is stored or is one of a day that is not skipped, and no
other value is stored or read at its instant. -/
structure NoneMissed (skipped : Int → Bool) (existing : List (Observation Number)) : Prop where
  known : ∀ day instant value, readings day instant value → skipped day = true →
    (∃ observation ∈ existing, observation.observedAtUtc = instant) ∨
      ∃ other value, readings other instant value ∧ skipped other = false
  sameStored : ∀ day instant value, readings day instant value →
    ∀ observation ∈ existing, observation.observedAtUtc = instant → observation.value = value
  sameRead : ∀ day instant value, readings day instant value →
    ∀ other otherValue, readings other instant otherValue → otherValue = value

variable {readings} {skipped : Int → Bool} {symbol : Symbol}
  {existing new rows : List (Observation Number)}

omit [LedgerArithmetic Number] in
private theorem value_eq_of_sameInstant (unique : Unique rows) {first second : Observation Number}
    (isFirst : first ∈ rows) (isSecond : second ∈ rows) (symbols : first.symbol = second.symbol)
    (instants : first.observedAtUtc = second.observedAtUtc) : first.value = second.value := by
  rw [unique.eq isFirst isSecond (Prod.ext symbols instants)]

section

variable (unique : Unique existing) (own : ∀ row ∈ existing, row.symbol = symbol)
  (merged : Merged existing new rows)
  (from_ : ∀ observation ∈ new, ∃ day instant value, readings day instant value ∧
    skipped day = false ∧ IsReading symbol instant value observation)

include unique own merged from_

omit [LedgerArithmetic Number] in
private theorem noneMissed_of_allStored (stored : AllStored readings symbol rows) :
    NoneMissed readings skipped existing := by
  constructor
  · intro day instant value isReading _
    obtain ⟨observation, member, isStored⟩ := stored day instant value isReading
    rcases merged.from_ observation member with isKnown | isNew
    · exact Or.inl ⟨observation, isKnown, isStored.instant⟩
    · obtain ⟨other, otherInstant, otherValue, isOther, notSkipped, isFetched⟩ :=
        from_ observation isNew
      have sameInstant := isFetched.instant.symm.trans isStored.instant
      subst sameInstant
      exact Or.inr ⟨other, otherValue, isOther, notSkipped⟩
  · intro day instant value isReading known isKnown sameInstant
    obtain ⟨observation, member, isStored⟩ := stored day instant value isReading
    rw [value_eq_of_sameInstant merged.unique (merged.kept unique known isKnown) member
      ((own known isKnown).trans isStored.symbol.symm) (sameInstant.trans isStored.instant.symm)]
    exact isStored.value
  · intro day instant value isReading other otherValue isOther
    obtain ⟨observation, member, isStored⟩ := stored day instant value isReading
    obtain ⟨otherObservation, otherMember, otherStored⟩ := stored other instant otherValue isOther
    rw [← otherStored.value, value_eq_of_sameInstant merged.unique otherMember member
      (otherStored.symbol.trans isStored.symbol.symm)
      (otherStored.instant.trans isStored.instant.symm)]
    exact isStored.value

omit unique [LedgerArithmetic Number] in
theorem NoneMissed.isReading (noneMissed : NoneMissed readings skipped existing)
    {day instant : Int} {value : Number} (isReading : readings day instant value)
    {observation : Observation Number} (member : observation ∈ rows)
    (sameInstant : observation.observedAtUtc = instant) :
    IsReading symbol instant value observation := by
  rcases merged.from_ observation member with isKnown | isNew
  · exact ⟨own observation isKnown, sameInstant,
      noneMissed.sameStored day instant value isReading observation isKnown sameInstant⟩
  · obtain ⟨other, otherInstant, otherValue, isOther, _, isFetched⟩ := from_ observation isNew
    have same := isFetched.instant.symm.trans sameInstant
    subst same
    refine ⟨isFetched.symbol, sameInstant, ?_⟩
    rw [isFetched.value]
    exact noneMissed.sameRead day _ value isReading other otherValue isOther

omit [LedgerArithmetic Number] in
private theorem allStored_iff
    (fetched : ∀ day instant value, readings day instant value → skipped day = false →
      ∃ observation ∈ new, IsReading symbol instant value observation) :
    AllStored readings symbol rows ↔ NoneMissed readings skipped existing := by
  refine ⟨noneMissed_of_allStored unique own merged from_, ?_⟩
  intro noneMissed day instant value isReading
  have present : ∀ other otherValue, readings other instant otherValue → skipped other = false →
      ∃ observation ∈ rows, observation.observedAtUtc = instant := by
    intro other otherValue isOther notSkipped
    obtain ⟨observation, isNew, isFetched⟩ := fetched other instant otherValue isOther notSkipped
    obtain ⟨kept, member, sameKey⟩ := merged.present observation isNew
    exact ⟨kept, member, (congrArg Prod.snd sameKey).trans isFetched.instant⟩
  have found : ∃ observation ∈ rows, observation.observedAtUtc = instant := by
    cases isSkipped : skipped day with
    | false => exact present day value isReading isSkipped
    | true =>
        rcases noneMissed.known day instant value isReading isSkipped with
          ⟨known, isKnown, sameInstant⟩ | ⟨other, otherValue, isOther, notSkipped⟩
        · exact ⟨known, merged.kept unique known isKnown, sameInstant⟩
        · exact present other otherValue isOther notSkipped
  obtain ⟨observation, member, sameInstant⟩ := found
  exact ⟨observation, member,
    noneMissed.isReading own merged from_ isReading member sameInstant⟩

end

end

def openInterestReadings (archive : BinanceArchive Number) (request : Request) (day instant : Int)
    (value : Number) : Prop :=
  day ∈ daysOf request.startDate request.endDate ∧
    ∃ rows, archive.metrics request.symbol day = .csv rows ∧
      ∃ row ∈ rows, row.createTime = instant ∧ row.sumOpenInterest = value

def markPriceReadings (archive : BinanceArchive Number) (request : Request) (day instant : Int)
    (value : Number) : Prop :=
  day ∈ daysOf request.startDate request.endDate ∧
    ∃ rows, archive.metrics request.symbol day = .csv rows ∧
      ∃ row ∈ rows, row.createTime = instant ∧ row.markPrice = some value

def BothComplete (archive : BinanceArchive Number) (request : Request) (disk : Disk Number) : Prop :=
  AllStored (openInterestReadings archive request) request.symbol
      (disk.rows (openInterestSeries request.symbol)) ∧
    AllStored (markPriceReadings archive request) request.symbol
      (disk.rows (markPriceSeries request.symbol))

/-- What the call skips is in both series, or in a file that it fetches. -/
def NothingMissed (archive : BinanceArchive Number) (request : Request) (disk : Disk Number) : Prop :=
  NoneMissed (openInterestReadings archive request) (request.skipsDay disk)
      (disk.rows (openInterestSeries request.symbol)) ∧
    NoneMissed (markPriceReadings archive request) (request.skipsDay disk)
      (disk.rows (markPriceSeries request.symbol))

/-- Behind any calls, interrupted or not: a call that returns leaves both series complete
exactly if it has missed nothing. -/
theorem collectMetrics_complete_iff (archive : BinanceArchive Number) (calls : List MetricsCall)
    (clock : Int → Int) (request : Request) (answers : List WriteAnswer)
    (returned : ∃ results, (collectMetrics archive clock request
      { files := filesAfter archive calls, answers }).1 = .returned results) :
    BothComplete archive request
        (collectMetrics archive clock request { files := filesAfter archive calls, answers }).2 ↔
      NothingMissed archive request { files := filesAfter archive calls, answers } := by
  have sound := sound_filesAfter archive calls answers
  have ends := collectMetrics_ends archive clock request sound
  generalize ({ files := filesAfter archive calls, answers } : Disk Number) = disk at *
  obtain ⟨results, returned⟩ := returned
  unfold Ends at ends
  rcases ran : collectMetrics archive clock request disk with ⟨outcome, after⟩
  rw [ran] at ends returned
  cases returned
  obtain ⟨_, batches, all, openInterestMerged, markMerged⟩ := ends
  have ofFile : ∀ day ∈ daysOf request.startDate request.endDate, request.skipsDay disk day = false →
      ∀ rows, archive.metrics request.symbol day = .csv rows →
        ∃ batch ∈ batches, FileRead request.symbol rows batch := by
    intro day inRange notSkipped rows isFile
    obtain ⟨result, fetched, isIn⟩ := all.present day inRange notSkipped
    obtain ⟨batch, isBatch, isRead⟩ := (fetchMetricsDay_ok fetched).1 rows isFile
    exact ⟨batch, isIn batch isBatch, isRead⟩
  have ofBatch : ∀ batch ∈ batches, ∃ day ∈ daysOf request.startDate request.endDate,
      request.skipsDay disk day = false ∧
        ∃ rows, archive.metrics request.symbol day = .csv rows ∧ FileRead request.symbol rows batch := by
    intro batch isBatch
    obtain ⟨day, inRange, notSkipped, fetched⟩ := all.from_ batch isBatch
    exact ⟨day, inRange, notSkipped, (fetchMetricsDay_ok fetched).2 batch rfl⟩
  apply and_congr
  · obtain ⟨unique, own⟩ := sound (openInterestSeries request.symbol)
    apply allStored_iff unique own openInterestMerged
    · intro observation member
      obtain ⟨_, isList, inList⟩ := List.mem_flatten.mp member
      obtain ⟨batch, isBatch, rfl⟩ := List.mem_map.mp isList
      obtain ⟨day, inRange, notSkipped, rows, isFile, isRead⟩ := ofBatch batch isBatch
      obtain ⟨row, isRow, isReading⟩ := isRead.openInterestFrom observation inList
      exact ⟨day, _, _, ⟨inRange, rows, isFile, row, isRow, rfl, rfl⟩, notSkipped, isReading⟩
    · rintro day instant value ⟨inRange, rows, isFile, row, isRow, rfl, rfl⟩ notSkipped
      obtain ⟨batch, isBatch, isRead⟩ := ofFile day inRange notSkipped rows isFile
      obtain ⟨observation, inBatch, isReading⟩ := isRead.openInterest row isRow
      exact ⟨observation, List.mem_flatten.mpr ⟨_, List.mem_map.mpr ⟨batch, isBatch, rfl⟩, inBatch⟩,
        isReading⟩
  · obtain ⟨unique, own⟩ := sound (markPriceSeries request.symbol)
    apply allStored_iff unique own markMerged
    · intro observation member
      obtain ⟨_, isList, inList⟩ := List.mem_flatten.mp member
      obtain ⟨batch, isBatch, rfl⟩ := List.mem_map.mp isList
      obtain ⟨day, inRange, notSkipped, rows, isFile, isRead⟩ := ofBatch batch isBatch
      obtain ⟨row, isRow, price, isPrice, isReading⟩ := isRead.markPriceFrom observation inList
      exact ⟨day, _, _, ⟨inRange, rows, isFile, row, isRow, rfl, isPrice⟩, notSkipped, isReading⟩
    · rintro day instant value ⟨inRange, rows, isFile, row, isRow, rfl, isPrice⟩ notSkipped
      obtain ⟨batch, isBatch, isRead⟩ := ofFile day inRange notSkipped rows isFile
      obtain ⟨observation, inBatch, isReading⟩ := isRead.markPrice row isRow value isPrice
      exact ⟨observation, List.mem_flatten.mpr ⟨_, List.mem_map.mpr ⟨batch, isBatch, rfl⟩, inBatch⟩,
        isReading⟩

end

def oneDay : BinanceArchive ℚ :=
  { metrics := fun _ day =>
      if day = 19723 then
        .csv [{ createTime := 19723 * 1000 * dayMillis, sumOpenInterest := 2
                sumOpenInterestValue := some 84000 }]
      else .notFound
    fundingRate := fun _ _ => .notFound }

def oneDayRequest : Request :=
  { symbol := btc, startDate := 19723, endDate := 19723, force := false }

def interrupted : MetricsCall :=
  { operation := .metrics oneDayRequest, clock := fun _ => 0, answers := [.done, .dies false] }

/-- The same call returns behind the interruption, and the mark price is not stored. -/
theorem interrupted_notComplete :
    (∃ results, (collectMetrics oneDay (fun _ => 0) oneDayRequest
        { files := filesAfter oneDay [interrupted], answers := [] }).1 = .returned results) ∧
      ¬ BothComplete oneDay oneDayRequest (collectMetrics oneDay (fun _ => 0) oneDayRequest
        { files := filesAfter oneDay [interrupted], answers := [] }).2 := by
  constructor
  · exact Outcome.returns_iff.mp (by decide +kernel)
  · intro complete
    obtain ⟨observation, member, _⟩ := complete.2 19723 (19723 * 1000 * dayMillis) 42000
      ⟨by decide, _, rfl, _, List.mem_cons_self, rfl, by decide +kernel⟩
    have nothing : ((collectMetrics oneDay (fun _ => 0) oneDayRequest
        { files := filesAfter oneDay [interrupted], answers := [] }).2.rows
          (markPriceSeries oneDayRequest.symbol)).isEmpty = true := by decide +kernel
    rw [List.isEmpty_iff.mp nothing] at member
    cases member

def everyDay : BinanceArchive ℚ :=
  { oneDay with
    metrics := fun _ day =>
      .csv [{ createTime := day * 1000 * dayMillis, sumOpenInterest := 2
              sumOpenInterestValue := some 84000 }] }

def finished : MetricsCall :=
  { operation := .metrics oneDayRequest, clock := fun _ => 0, answers := [] }

def twoDayRequest : Request :=
  { oneDayRequest with endDate := 19724 }

/-- The first of the two days is skipped: an earlier call has stored it. -/
theorem collectMetrics_complete_iff_skippedDay :
    twoDayRequest.skipsDay { files := filesAfter everyDay [finished], answers := [] } 19723 = true ∧
      (BothComplete everyDay twoDayRequest (collectMetrics everyDay (fun _ => 0) twoDayRequest
        { files := filesAfter everyDay [finished], answers := [] }).2 ↔
      NothingMissed everyDay twoDayRequest
        { files := filesAfter everyDay [finished], answers := [] }) :=
  ⟨by decide +kernel, collectMetrics_complete_iff everyDay [finished] (fun _ => 0) twoDayRequest []
    (Outcome.returns_iff.mp (by decide +kernel))⟩

end TurtleExecution.Historical

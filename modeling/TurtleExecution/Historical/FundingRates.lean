/-
Runs of funding rate collections.

A call misses a row of its range if it passes over the row and the series does not have
it: in a month that the series has rows of already, or at or before the high-water mark.
Where no call misses a row the series has every row of the ranges, in any order of calls.
-/

import TurtleExecution.Foundation.TransitionTable
import TurtleExecution.Historical.Fetching

set_option autoImplicit false

namespace TurtleExecution.Historical

open Calendar ExchangeAdapter Process Runs

section

variable {Number : Type} [LedgerArithmetic Number]

/-! ### What is fetched -/

abbrev IsRate (symbol : Symbol) (row : FundingRow Number) : Observation Number → Prop :=
  IsReading symbol (fromMillis row.time) row.fundingRate

/-- The observations are of rows from the cursor on, and have every row up to the end. -/
structure Paged (history : FundingHistory Number) (symbol : Symbol) (endTime cursor : Int)
    (observations : List (Observation Number)) : Prop where
  sound : ∀ observation ∈ observations, ∃ row ∈ history.rows, cursor ≤ row.time ∧
    IsRate symbol row observation
  complete : ∀ row ∈ history.rows, cursor ≤ row.time → row.time < endTime →
    ∃ observation ∈ observations, observation.observedAtUtc = fromMillis row.time

section

variable {history : FundingHistory Number} {symbol : Symbol}
  {endTime cursor ingestedAtUtc : Int} {body : List (FundingRow Number)}

omit [LedgerArithmetic Number] in
theorem Paged.nil (nothing : ∀ row ∈ history.rows, cursor ≤ row.time → endTime ≤ row.time) :
    Paged history symbol endTime cursor [] := by
  constructor
  · intro observation absent
    cases absent
  · intro row member after before
    have behind := nothing row member after
    omega

private theorem page_ok {page : List (Observation Number)}
    (answered : history.answer cursor endTime = .ok body)
    (mapped : (body.mapM fun row =>
      checked .fundingRate (fundingHistoryOf symbol cursor endTime ingestedAtUtc row)) = .ok page) :
    (∀ observation ∈ page, ∃ row ∈ history.rows, cursor ≤ row.time ∧
        IsRate symbol row observation) ∧
      ∀ row ∈ body, ∃ observation ∈ page, observation.observedAtUtc = fromMillis row.time := by
  have pairs := forall₂_of_mapM mapped
  constructor
  · intro observation member
    obtain ⟨row, isRow, same⟩ := exists_of_forall₂_right pairs member
    cases same
    obtain ⟨inHistory, after⟩ := history.sound answered row isRow
    exact ⟨row, inHistory, after, rfl, rfl, rfl⟩
  · intro row member
    obtain ⟨observation, isOne, same⟩ := exists_of_forall₂_left pairs member
    cases same
    exact ⟨_, isOne, rfl⟩

omit [LedgerArithmetic Number] in
/-- A row of the range is in the page, or behind its last row.  Behind a full page a row
may have the time of the last one. -/
theorem timed_or_behind (answered : history.answer cursor endTime = .ok body)
    {last : FundingRow Number} (isLast : body.getLast? = some last) {row : FundingRow Number}
    (member : row ∈ history.rows) (after : cursor ≤ row.time) (before : row.time < endTime) :
    (∃ known ∈ body, known.time = row.time) ∨ last.time + 1 ≤ row.time := by
  rcases history.complete answered row member after before with here | ⟨_, behind⟩
  · exact Or.inl ⟨row, here, rfl⟩
  · rcases Int.lt_or_eq_of_le (behind last isLast) with less | same
    · exact Or.inr less
    · exact Or.inl ⟨last, List.mem_of_getLast? isLast, same⟩

omit [LedgerArithmetic Number] in
theorem Paged.append {page later : List (Observation Number)} {last : FundingRow Number}
    (advanced : cursor ≤ last.time)
    (fromPage : ∀ observation ∈ page, ∃ row ∈ history.rows, cursor ≤ row.time ∧
      IsRate symbol row observation)
    (found : ∀ row ∈ history.rows, cursor ≤ row.time → row.time < endTime →
      (∃ observation ∈ page, observation.observedAtUtc = fromMillis row.time) ∨
        last.time + 1 ≤ row.time)
    (paged : Paged history symbol endTime (last.time + 1) later) :
    Paged history symbol endTime cursor (page ++ later) := by
  constructor
  · intro observation member
    rcases List.mem_append.mp member with here | behind
    · exact fromPage observation here
    · obtain ⟨row, isRow, after, isRate⟩ := paged.sound observation behind
      exact ⟨row, isRow, by omega, isRate⟩
  · intro row member after before
    rcases found row member after before with ⟨observation, isOne, same⟩ | behind
    · exact ⟨observation, List.mem_append_left _ isOne, same⟩
    · obtain ⟨observation, isOne, same⟩ := paged.complete row member behind before
      exact ⟨observation, List.mem_append_right _ isOne, same⟩

end

private theorem fetchPages_ok {history : FundingHistory Number} {symbol : Symbol}
    {endTime ingestedAtUtc : Int}
    {fuel : Nat} {cursor : Int} {observations : List (Observation Number)}
    (enough : endTime - cursor ≤ fuel)
    (computed : fetchPages history symbol endTime ingestedAtUtc fuel cursor = .ok observations) :
    Paged history symbol endTime cursor observations := by
  induction fuel generalizing cursor observations with
  | zero =>
      cases computed
      exact Paged.nil fun row _ after => by omega
  | succ fuel ih =>
      unfold fetchPages at computed
      split at computed
      · obtain ⟨body, answered, rest⟩ := ok_of_bind computed
        cases isLast : body.getLast? with
        | none =>
            rw [isLast] at rest
            cases rest
            obtain rfl : body = [] := List.getLast?_eq_none_iff.mp isLast
            apply Paged.nil
            intro row member after
            by_contra before
            rcases history.complete answered row member after (by omega) with here | ⟨full, _⟩
            · cases here
            · cases full
        | some last =>
            rw [isLast] at rest
            obtain ⟨page, mapped, rest⟩ := ok_of_bind rest
            obtain ⟨fromPage, ofBody⟩ := page_ok answered mapped
            dsimp only at rest
            split at rest
            · rename_i stopped
              cases rest
              refine { sound := fromPage, complete := fun row member after before => ?_ }
              rcases history.complete answered row member after before with here | ⟨full, _⟩
              · exact ofBody row here
              · have advanced := (history.sound answered last (List.mem_of_getLast? isLast)).2
                omega
            · obtain ⟨later, fetched, same⟩ := ok_of_bind rest
              cases same
              have advanced := (history.sound answered last (List.mem_of_getLast? isLast)).2
              apply Paged.append advanced fromPage _ (ih (by omega) fetched)
              intro row member after before
              refine (timed_or_behind answered isLast member after before).imp_left ?_
              rintro ⟨known, isKnown, same⟩
              rw [← same]
              exact ofBody known isKnown
      · cases computed
        exact Paged.nil fun row _ after => by omega

private theorem fetchFundingRateMonth_ok {archive : BinanceArchive Number} {clock : Month → Int}
    {symbol : Symbol} {month : Month} {batch : List (Observation Number)}
    (fetched : fetchFundingRateMonth archive clock symbol month = .ok (some batch)) :
    ∃ rows, archive.fundingRate symbol month = .csv rows ∧
      (∀ observation ∈ batch, ∃ row ∈ rows, IsRate symbol row observation) ∧
      ∀ row ∈ rows, ∃ observation ∈ batch, observation.observedAtUtc = fromMillis row.time := by
  rcases readRows_ok fetched with ⟨_, impossible⟩ | ⟨rows, values, isFile, same, pairs⟩
  · cases impossible
  · cases same
    refine ⟨rows, isFile, ?_, ?_⟩
    · intro observation member
      obtain ⟨row, isRow, same⟩ := exists_of_forall₂_right pairs member
      cases same
      exact ⟨row, isRow, rfl, rfl, rfl⟩
    · intro row member
      obtain ⟨observation, isOne, same⟩ := exists_of_forall₂_left pairs member
      cases same
      exact ⟨_, isOne, rfl⟩

/-! ### One call -/

def fundingSeries (symbol : Symbol) (source : Source) : Series :=
  { metric := .fundingRate, symbol, source }

def ArchiveRow (sources : FundingSources Number) (symbol : Symbol) (row : FundingRow Number) :
    Source → Prop
  | .binance => ∃ month rows, sources.binance.fundingRate symbol month = .csv rows ∧ row ∈ rows
  | .hyperliquid => row ∈ (sources.hyperliquid symbol).rows

def Request.Asks (request : Request) (row : FundingRow Number) : Prop :=
  request.startDate ≤ dayOf (fromMillis row.time) ∧ dayOf (fromMillis row.time) ≤ request.endDate

/-- The call does not pass over the row: its file is of a month that is not covered, or it
is not before the cursor. -/
def Reached (sources : FundingSources Number) (request : Request)
    (existing : List (Observation Number)) (row : FundingRow Number) : Source → Prop
  | .binance => ∃ month ∈ monthRange request.startDate request.endDate,
      skips request.force (existingMonthsCovered existing) month = false ∧
        ∃ rows, sources.binance.fundingRate request.symbol month = .csv rows ∧ row ∈ rows
  | .hyperliquid => cursorMillis sources request existing ≤ row.time

/-- The rows that a call merges: of the archive, and all that it reaches. -/
structure NewRates (sources : FundingSources Number) (request : Request) (source : Source)
    (existing new : List (Observation Number)) : Prop where
  from_ : ∀ observation ∈ new, ∃ row, ArchiveRow sources request.symbol row source ∧
    Reached sources request existing row source ∧ IsRate request.symbol row observation
  present : ∀ row, ArchiveRow sources request.symbol row source →
    Reached sources request existing row source →
      (source = .hyperliquid → row.time < (request.endDate + 1) * dayMillis) →
        ∃ observation ∈ new, observation.observedAtUtc = fromMillis row.time

def RatesWritten (sources : FundingSources Number) (request : Request) (source : Source)
    (before after : Disk Number) : Prop :=
  ∃ new, NewRates sources request source (before.rows (fundingSeries request.symbol source)) new ∧
    Wrote before (fundingSeries request.symbol source) new after

/-- A call that returns has merged its rows, and another one has changed nothing or has
merged them, too. -/
def collected (sources : FundingSources Number) (request : Request) (source : Source)
    (before : Disk Number) : Post (Disk Number) HistoricalError CollectionResult :=
  { returned := fun _ after => RatesWritten sources request source before after
    raised := fun _ after => after.files = before.files ∨
      RatesWritten sources request source before after
    crashed := fun after => after.files = before.files ∨
      RatesWritten sources request source before after }

private theorem ends_store {sources : FundingSources Number} {request : Request} {source : Source}
    {disk : Disk Number} {new : List (Observation Number)}
    (isNew : NewRates sources request source (disk.rows (fundingSeries request.symbol source)) new)
    (result : MergeResult → CollectionResult) :
    Ends (mergeAndWrite (fundingSeries request.symbol source) new >>= fun merge =>
      load (fundingSeries request.symbol source) >>= fun _ => pure (result merge)) disk
        (collected sources request source disk) := by
  apply ends_bind_merge
  · exact fun after same => ⟨fun _ => Or.inl same, Or.inl same⟩
  · intro after wrote
    have written : RatesWritten sources request source disk after := ⟨new, isNew, wrote⟩
    refine ⟨Or.inr written, fun merge => ?_⟩
    apply ends_bind_load fun _ => Or.inr written
    exact written

private theorem collectFundingRateBinance_ends (sources : FundingSources Number) (clock : Clock)
    (request : Request) (disk : Disk Number) :
    Ends (collectFundingRateBinance sources clock request (fundingSeries request.symbol .binance)
      (disk.rows (fundingSeries request.symbol .binance))) disk
        (collected sources request .binance disk) := by
  unfold collectFundingRateBinance
  apply ends_bind_ofExcept fun _ => Or.inl rfl
  intro gathered computed
  have all := gather_ok computed
  apply ends_store
  constructor
  · intro observation member
    obtain ⟨batch, isBatch, inBatch⟩ := List.mem_flatten.mp member
    obtain ⟨month, inRange, notSkipped, fetched⟩ := all.from_ batch isBatch
    obtain ⟨rows, isFile, fromFile, _⟩ := fetchFundingRateMonth_ok fetched
    obtain ⟨row, isRow, isRate⟩ := fromFile observation inBatch
    exact ⟨row, ⟨month, rows, isFile, isRow⟩,
      ⟨month, inRange, notSkipped, rows, isFile, isRow⟩, isRate⟩
  · intro row _ ⟨month, inRange, notSkipped, rows, isFile, isRow⟩ _
    obtain ⟨result, fetched, isIn⟩ := all.present month inRange notSkipped
    cases result with
    | none =>
        rcases readRows_ok fetched with ⟨unpublished, _⟩ | ⟨_, _, _, impossible, _⟩
        · rw [isFile] at unpublished
          cases unpublished
        · cases impossible
    | some batch =>
        obtain ⟨others, isOther, _, ofFile⟩ := fetchFundingRateMonth_ok fetched
        rw [isFile] at isOther
        cases isOther
        obtain ⟨observation, inBatch, same⟩ := ofFile row isRow
        exact ⟨observation, List.mem_flatten.mpr ⟨batch, isIn batch rfl, inBatch⟩, same⟩

omit [LedgerArithmetic Number] in
theorem Request.Asks.before {request : Request} {row : FundingRow Number}
    (asks : request.Asks row) : row.time < (request.endDate + 1) * dayMillis := by
  have notLater := asks.2
  unfold dayOf fromMillis at notLater
  unfold dayMillis at *
  omega

private theorem collectFundingRateHyperliquid_ends (sources : FundingSources Number) (clock : Clock)
    (request : Request) (disk : Disk Number) :
    Ends (collectFundingRateHyperliquid sources clock request
      (fundingSeries request.symbol .hyperliquid)
      (disk.rows (fundingSeries request.symbol .hyperliquid))) disk
        (collected sources request .hyperliquid disk) := by
  unfold collectFundingRateHyperliquid
  apply ends_bind_ofExcept fun _ => Or.inl rfl
  intro endTime isEnd
  have sameEnd : endTime = (request.endDate + 1) * dayMillis := by
    unfold endMillis at isEnd
    split at isEnd
    · cases isEnd
      rfl
    · cases isEnd
  dsimp only
  split
  · rename_i nothing
    apply ends_store
    constructor
    · exact fun _ member => absurd member List.not_mem_nil
    · intro row _ reached before
      have early := before rfl
      change cursorMillis sources request _ ≤ row.time at reached
      omega
  · cases computed : fetchFundingRateRange (sources.hyperliquid request.symbol) clock.atRange
      request.symbol (cursorMillis sources request
        (disk.rows (fundingSeries request.symbol .hyperliquid))) endTime with
    | error error => exact Or.inl rfl
    | ok new =>
        unfold fetchFundingRateRange at computed
        split at computed
        · cases computed
        · have paged := fetchPages_ok (by omega) computed
          apply ends_store
          constructor
          · exact paged.sound
          · intro row isRow reached before
            rw [← sameEnd] at before
            exact paged.complete row isRow reached (before rfl)

private theorem collectFundingRate_ends (sources : FundingSources Number) (clock : Clock)
    (request : Request) (source : Source) (disk : Disk Number) :
    Ends (collectFundingRate sources clock request source) disk
      (collected sources request source disk) := by
  unfold collectFundingRate
  apply ends_bind_require fun _ => Or.inl rfl
  intro _
  apply ends_bind_load fun _ => Or.inl rfl
  cases source with
  | binance => exact collectFundingRateBinance_ends sources clock request disk
  | hyperliquid => exact collectFundingRateHyperliquid_ends sources clock request disk

/-! ### Runs -/

structure FundingCall where
  clock : Clock
  request : Request
  source : Source
  answers : List WriteAnswer

structure FundingState (Number : Type) where
  files : Dict Series (List (Observation Number))
  requested : List (Request × Source)

def FundingState.start : FundingState Number :=
  { files := [], requested := [] }

def FundingState.disk (state : FundingState Number) (call : FundingCall) : Disk Number :=
  { files := state.files, answers := call.answers }

def FundingState.ended (state : FundingState Number) (sources : FundingSources Number)
    (call : FundingCall) : Outcome HistoricalError CollectionResult × Disk Number :=
  collectFundingRate sources call.clock call.request call.source (state.disk call)

def FundingState.step (sources : FundingSources Number) (state : FundingState Number)
    (call : FundingCall) : FundingState Number :=
  { files := (state.ended sources call).2.files
    requested :=
      match (state.ended sources call).1 with
      | .returned _ => state.requested ++ [(call.request, call.source)]
      | _ => state.requested }

def FundingState.run (sources : FundingSources Number) (calls : List FundingCall) :
    FundingState Number :=
  calls.foldl (FundingState.step sources) FundingState.start

def FundingState.rates (state : FundingState Number) (symbol : Symbol) (source : Source) :
    List (Observation Number) :=
  (Dict.get? state.files (fundingSeries symbol source)).getD []

/-- Every archive row of the ranges that were asked for is in the series, exactly once. -/
def FundingState.Complete (sources : FundingSources Number) (state : FundingState Number) : Prop :=
  ∀ request source, (request, source) ∈ state.requested →
    ∀ row, ArchiveRow sources request.symbol row source → request.Asks row →
      ((state.rates request.symbol source).filter fun observation =>
        decide (observation.observedAtUtc = fromMillis row.time)).map Observation.value =
          [row.fundingRate]

/-- The call passes over no row that it asks for and that is not stored, and the rows of
the archive at the time of a row that it asks for have one rate. -/
structure FundingState.MissesNothing (sources : FundingSources Number) (state : FundingState Number)
    (call : FundingCall) : Prop where
  reached : ∀ row, ArchiveRow sources call.request.symbol row call.source →
    call.request.Asks row →
      Reached sources call.request (state.rates call.request.symbol call.source) row call.source ∨
        ∃ known ∈ state.rates call.request.symbol call.source,
          known.observedAtUtc = fromMillis row.time
  oneRate : ∀ row other, ArchiveRow sources call.request.symbol row call.source →
    ArchiveRow sources call.request.symbol other call.source → call.request.Asks row →
      other.time = row.time → other.fundingRate = row.fundingRate

structure FundingState.Sound (sources : FundingSources Number) (state : FundingState Number) :
    Prop where
  unique : ∀ symbol source, Unique (state.rates symbol source)
  fromArchive : ∀ symbol source, ∀ observation ∈ state.rates symbol source,
    ∃ row, ArchiveRow sources symbol row source ∧ IsRate symbol row observation

structure FundingState.Kept (sources : FundingSources Number) (state : FundingState Number) : Prop
    extends FundingState.Sound sources state where
  present : ∀ request source, (request, source) ∈ state.requested →
    ∀ row, ArchiveRow sources request.symbol row source → request.Asks row →
      ∃ observation ∈ state.rates request.symbol source,
        observation.observedAtUtc = fromMillis row.time
  oneRate : ∀ request source, (request, source) ∈ state.requested →
    ∀ row other, ArchiveRow sources request.symbol row source →
      ArchiveRow sources request.symbol other source → request.Asks row →
        other.time = row.time → other.fundingRate = row.fundingRate

omit [LedgerArithmetic Number] in
private theorem rates_of_written {sources : FundingSources Number} {state next : FundingState Number}
    {call : FundingCall} {after : Disk Number}
    (written : RatesWritten sources call.request call.source (state.disk call) after)
    (files : next.files = after.files) :
    ∃ new, NewRates sources call.request call.source
        (state.rates call.request.symbol call.source) new ∧
      Merged (state.rates call.request.symbol call.source) new
        (next.rates call.request.symbol call.source) ∧
      ∀ symbol source, (symbol, source) ≠ (call.request.symbol, call.source) →
        next.rates symbol source = state.rates symbol source := by
  obtain ⟨new, isNew, rows, merged, wrote⟩ := written
  refine ⟨new, isNew, ?_, ?_⟩
  · have isRows : next.rates call.request.symbol call.source = rows := by
      unfold FundingState.rates
      rw [files, wrote, Dict.get?_set_self]
      rfl
    rw [isRows]
    exact merged
  · intro symbol source different
    unfold FundingState.rates
    rw [files, wrote, Dict.get?_set_of_ne]
    · rfl
    · intro same
      injection same with _ sameSymbol sameSource
      exact different (Prod.ext sameSymbol sameSource)

section

variable {sources : FundingSources Number} {state next : FundingState Number} {call : FundingCall}
  {after : Disk Number}

omit [LedgerArithmetic Number] in
private theorem rates_cases (others : ∀ symbol source,
    (symbol, source) ≠ (call.request.symbol, call.source) →
      next.rates symbol source = state.rates symbol source) (symbol : Symbol) (source : Source) :
    (symbol, source) = (call.request.symbol, call.source) ∨
      next.rates symbol source = state.rates symbol source :=
  (em _).imp_right (others symbol source)

omit [LedgerArithmetic Number] in
private theorem rates_grow (sound : state.Sound sources)
    (written : RatesWritten sources call.request call.source (state.disk call) after)
    (files : next.files = after.files) (symbol : Symbol) (source : Source)
    {observation : Observation Number} (member : observation ∈ state.rates symbol source) :
    observation ∈ next.rates symbol source := by
  obtain ⟨new, _, merged, others⟩ := rates_of_written written files
  rcases rates_cases others symbol source with same | unchanged
  · cases same
    exact merged.kept (sound.unique _ _) observation member
  · rw [unchanged]
    exact member

omit [LedgerArithmetic Number] in
theorem FundingState.Sound.written (sound : state.Sound sources)
    (written : RatesWritten sources call.request call.source (state.disk call) after)
    (files : next.files = after.files) : next.Sound sources := by
  obtain ⟨new, isNew, merged, others⟩ := rates_of_written written files
  constructor
  case unique =>
    intro symbol source
    rcases rates_cases others symbol source with same | unchanged
    · cases same
      exact merged.unique
    · rw [unchanged]
      exact sound.unique symbol source
  case fromArchive =>
    intro symbol source observation member
    rcases rates_cases others symbol source with same | unchanged
    · cases same
      rcases merged.from_ observation member with known | isAdded
      · exact sound.fromArchive _ _ observation known
      · obtain ⟨row, isRow, _, isRate⟩ := isNew.from_ observation isAdded
        exact ⟨row, isRow, isRate⟩
    · rw [unchanged] at member
      exact sound.fromArchive symbol source observation member

omit [LedgerArithmetic Number] in
theorem FundingState.Kept.written (kept : state.Kept sources)
    (written : RatesWritten sources call.request call.source (state.disk call) after)
    (files : next.files = after.files)
    (requested : next.requested = state.requested ∨
      next.requested = state.requested ++ [(call.request, call.source)] ∧
        state.MissesNothing sources call) : next.Kept sources := by
  obtain ⟨new, isNew, merged, _⟩ := rates_of_written written files
  have grows : ∀ symbol source, ∀ {observation}, observation ∈ state.rates symbol source →
      observation ∈ next.rates symbol source :=
    fun symbol source => rates_grow kept.toSound written files symbol source
  constructor
  case toSound => exact kept.toSound.written written files
  case present =>
    intro request source isRequested row isRow asks
    have earlier : (request, source) ∈ state.requested →
        ∃ observation ∈ next.rates request.symbol source,
          observation.observedAtUtc = fromMillis row.time := by
      intro isEarlier
      obtain ⟨observation, member, same⟩ := kept.present request source isEarlier row isRow asks
      exact ⟨observation, grows _ _ member, same⟩
    rcases requested with same | ⟨added, missesNothing⟩
    · exact earlier (same ▸ isRequested)
    · rw [added] at isRequested
      rcases List.mem_append.mp isRequested with isEarlier | isLast
      · exact earlier isEarlier
      · cases List.mem_singleton.mp isLast
        rcases missesNothing.reached row isRow asks with reached | ⟨known, member, same⟩
        · obtain ⟨observation, isAdded, same⟩ := isNew.present row isRow reached fun _ => asks.before
          obtain ⟨other, member, sameKey⟩ := merged.present observation isAdded
          exact ⟨other, member, (congrArg Prod.snd sameKey).trans same⟩
        · exact ⟨known, grows _ _ member, same⟩
  case oneRate =>
    intro request source isRequested
    rcases requested with same | ⟨added, missesNothing⟩
    · exact kept.oneRate request source (same ▸ isRequested)
    · rw [added] at isRequested
      rcases List.mem_append.mp isRequested with isEarlier | isLast
      · exact kept.oneRate request source isEarlier
      · cases List.mem_singleton.mp isLast
        exact missesNothing.oneRate

end

theorem FundingState.step_cases (sources : FundingSources Number) (state : FundingState Number)
    (call : FundingCall) : state.step sources call = state ∨
      ∃ after, RatesWritten sources call.request call.source (state.disk call) after ∧
        (state.step sources call).files = after.files ∧
        ((state.step sources call).requested = state.requested ∨
          (state.step sources call).requested = state.requested ++ [(call.request, call.source)] ∧
            ∃ result, (state.ended sources call).1 = .returned result) := by
  have ends := collectFundingRate_ends sources call.clock call.request call.source (state.disk call)
  unfold Ends at ends
  change Post.Holds _ (state.ended sources call) at ends
  unfold FundingState.step
  rcases ended : state.ended sources call with ⟨outcome, after⟩
  rw [ended] at ends
  cases outcome with
  | returned result => exact Or.inr ⟨after, ends, rfl, Or.inr ⟨rfl, result, rfl⟩⟩
  | raised error =>
      rcases ends with same | written
      · left
        dsimp only
        rw [same]
        rfl
      · exact Or.inr ⟨after, written, rfl, Or.inl rfl⟩
  | crashed =>
      rcases ends with same | written
      · left
        dsimp only
        rw [same]
        rfl
      · exact Or.inr ⟨after, written, rfl, Or.inl rfl⟩

variable {sources : FundingSources Number} {state : FundingState Number}

theorem FundingState.Sound.step (sound : state.Sound sources) (call : FundingCall) :
    (state.step sources call).Sound sources := by
  rcases state.step_cases sources call with same | ⟨after, written, files, _⟩
  · rw [same]
    exact sound
  · exact sound.written written files

theorem FundingState.Kept.step (kept : state.Kept sources) {call : FundingCall}
    (missesNothing : (∃ result, (state.ended sources call).1 = .returned result) →
      state.MissesNothing sources call) : (state.step sources call).Kept sources := by
  rcases state.step_cases sources call with same | ⟨after, written, files, requested⟩
  · rw [same]
    exact kept
  · apply kept.written written files
    exact requested.imp_right fun added => ⟨added.1, missesNothing added.2⟩

omit [LedgerArithmetic Number] in
theorem FundingState.kept_start (sources : FundingSources Number) :
    (FundingState.start : FundingState Number).Kept sources :=
  { unique := fun _ _ => List.nodup_nil
    fromArchive := fun _ _ _ member => absurd member List.not_mem_nil
    present := fun _ _ isRequested => absurd isRequested List.not_mem_nil
    oneRate := fun _ _ isRequested => absurd isRequested List.not_mem_nil }

omit [LedgerArithmetic Number] in
private theorem filter_instant {rows : List (Observation Number)} {symbol : Symbol}
    (unique : Unique rows)
    (own : ∀ row ∈ rows, row.symbol = symbol) {observation : Observation Number}
    (member : observation ∈ rows) :
    (rows.filter fun other => decide (other.observedAtUtc = observation.observedAtUtc)) =
      [observation] := by
  generalize selected : (rows.filter fun other =>
    decide (other.observedAtUtc = observation.observedAtUtc)) = found
  have isFound : ∀ other ∈ found, other = observation := by
    intro other isOther
    rw [← selected] at isOther
    obtain ⟨isRow, same⟩ := List.mem_filter.mp isOther
    apply unique.eq isRow member
    exact Prod.ext ((own other isRow).trans (own observation member).symm) (of_decide_eq_true same)
  have distinct : found.Nodup := by
    rw [← selected]
    exact (List.Nodup.of_map _ unique).filter _
  have here : observation ∈ found := by
    rw [← selected]
    exact List.mem_filter.mpr ⟨member, decide_eq_true rfl⟩
  have copies := List.eq_replicate_of_mem isFound
  rw [copies] at distinct
  have one : found.length = 1 := by
    have atMost := List.nodup_replicate.mp distinct
    have some_ := List.length_pos_of_mem here
    omega
  rw [one] at copies
  exact copies

/-- In every run whose returning calls miss nothing, the series have every archive row of
the ranges that were asked for. -/
theorem run_complete (sources : FundingSources Number) (calls : List FundingCall)
    (missesNothing : Along (FundingState.step sources)
      (fun state call => (∃ result, (state.ended sources call).1 = .returned result) →
        state.MissesNothing sources call) FundingState.start calls) :
    (FundingState.run sources calls).Complete sources := by
  have kept : (FundingState.run sources calls).Kept sources :=
    missesNothing.keeps (FundingState.Kept sources)
      (fun _ _ kept missesNothing => kept.step missesNothing) (FundingState.kept_start sources)
  intro request source isRequested row isRow asks
  obtain ⟨observation, member, same⟩ := kept.present request source isRequested row isRow asks
  obtain ⟨other, isOther, isRate⟩ := kept.fromArchive request.symbol source observation member
  have sameTime : other.time = row.time := by
    have instants := isRate.instant.symm.trans same
    unfold fromMillis at instants
    omega
  have own : ∀ known ∈ (FundingState.run sources calls).rates request.symbol source,
      known.symbol = request.symbol := by
    intro known isKnown
    obtain ⟨_, _, isRate⟩ := kept.fromArchive request.symbol source known isKnown
    exact isRate.symbol
  have only := filter_instant (kept.unique request.symbol source) own member
  rw [same] at only
  rw [only, List.map_singleton, isRate.value,
    kept.oneRate request source isRequested row other isRow isOther asks sameTime]

def InMonths (archive : BinanceArchive Number) : Prop :=
  ∀ symbol month rows, archive.fundingRate symbol month = .csv rows →
    ∀ row ∈ rows, monthOf (dayOf (fromMillis row.time)) = month

/-- Where the series has a row of a month, it has the rows of the month's file. -/
def FundingState.WholeMonths (sources : FundingSources Number) (state : FundingState Number) :
    Prop :=
  ∀ symbol, ∀ known ∈ state.rates symbol .binance, ∀ rows,
    sources.binance.fundingRate symbol (monthOf (dayOf known.observedAtUtc)) = .csv rows →
      ∀ row ∈ rows, ∃ other ∈ state.rates symbol .binance,
        other.observedAtUtc = fromMillis row.time

theorem FundingState.WholeMonths.step (inMonths : InMonths sources.binance)
    (sound : state.Sound sources) (whole : state.WholeMonths sources) (call : FundingCall) :
    (state.step sources call).WholeMonths sources := by
  rcases state.step_cases sources call with same | ⟨after, written, files, _⟩
  · rw [same]
    exact whole
  · intro symbol known member rows isFile row isRow
    have earlier : known ∈ state.rates symbol .binance →
        ∃ other ∈ (state.step sources call).rates symbol .binance,
          other.observedAtUtc = fromMillis row.time := by
      intro isKnown
      obtain ⟨other, isOther, same⟩ := whole symbol known isKnown rows isFile row isRow
      exact ⟨other, rates_grow sound written files symbol .binance isOther, same⟩
    obtain ⟨new, isNew, merged, others⟩ := rates_of_written written files
    rcases rates_cases others symbol .binance with same | unchanged
    · obtain ⟨sameSymbol, sameSource⟩ := Prod.mk.inj same
      subst sameSymbol
      rw [← sameSource] at merged isNew
      rcases merged.from_ known member with isKnown | isAdded
      · exact earlier isKnown
      · -- its file has been fetched, so every row of it is new
        obtain ⟨its, _, ⟨month, inRange, notSkipped, fetched, isFetched, isIts⟩, isRate⟩ :=
          isNew.from_ known isAdded
        have sameMonth := inMonths _ month fetched isFetched its isIts
        rw [isRate.instant, sameMonth, isFetched] at isFile
        cases isFile
        obtain ⟨observation, isOne, sameInstant⟩ := isNew.present row ⟨month, rows, isFetched, isRow⟩
          ⟨month, inRange, notSkipped, rows, isFetched, isRow⟩
          (fun impossible => Source.noConfusion impossible)
        obtain ⟨other, isOther, sameKey⟩ := merged.present observation isOne
        exact ⟨other, isOther, (congrArg Prod.snd sameKey).trans sameInstant⟩
    · rw [unchanged] at member
      exact earlier member

/-- Where the files are of their months, a call for them passes over stored rows only,
whatever calls came before it. -/
theorem binance_reached (sources : FundingSources Number) (inMonths : InMonths sources.binance)
    (calls : List FundingCall) (request : Request) (row : FundingRow Number)
    (isRow : ArchiveRow sources request.symbol row .binance) (asks : request.Asks row) :
    Reached sources request ((FundingState.run sources calls).rates request.symbol .binance) row
        .binance ∨
      ∃ known ∈ (FundingState.run sources calls).rates request.symbol .binance,
        known.observedAtUtc = fromMillis row.time := by
  have kept : (FundingState.run sources calls).Sound sources ∧
      (FundingState.run sources calls).WholeMonths sources := by
    have start := FundingState.kept_start sources
    unfold FundingState.run
    have both : ∀ state : FundingState Number, state.Sound sources ∧ state.WholeMonths sources →
        (calls.foldl (FundingState.step sources) state).Sound sources ∧
          (calls.foldl (FundingState.step sources) state).WholeMonths sources := by
      induction calls with
      | nil => exact fun _ both => both
      | cons call calls ih =>
          exact fun state both => ih _ ⟨both.1.step call, both.2.step inMonths both.1 call⟩
    exact both _ ⟨start.toSound, fun _ _ member => absurd member List.not_mem_nil⟩
  obtain ⟨month, rows, isFile, isRow⟩ := isRow
  have sameMonth := inMonths _ month rows isFile row isRow
  have inRange : month ∈ monthRange request.startDate request.endDate := by
    rw [← sameMonth]
    exact monthOf_mem_monthRange asks.1 asks.2
  cases skipped : skips request.force (existingMonthsCovered
      ((FundingState.run sources calls).rates request.symbol .binance)) month with
  | false => exact Or.inl ⟨month, inRange, skipped, rows, isFile, isRow⟩
  | true =>
      have isCovered := of_decide_eq_true (Bool.and_eq_true_iff.mp skipped).2
      obtain ⟨known, member, sameAsMonth⟩ := List.mem_map.mp isCovered
      right
      apply kept.2 request.symbol known member rows _ row isRow
      rw [sameAsMonth]
      exact isFile

end

/-- A venue that has the rows, in their order, and answers with the first page of a range. -/
def FundingHistory.ofRows {Number : Type} (rows : List (FundingRow Number))
    (ordered : rows.Pairwise fun row later => row.time ≤ later.time) : FundingHistory Number where
  rows := rows
  answer startTime endTime := .ok ((rows.filter fun row =>
    decide (startTime ≤ row.time ∧ row.time ≤ endTime)).take pageSizeCap)
  sound := by
    intro startTime endTime body answered row member
    cases answered
    obtain ⟨isRow, inRange⟩ := List.mem_filter.mp (List.mem_of_mem_take member)
    exact ⟨isRow, (of_decide_eq_true inRange).1⟩
  complete := by
    intro startTime endTime body answered row isRow after before
    cases answered
    generalize selected : (rows.filter fun row =>
      decide (startTime ≤ row.time ∧ row.time ≤ endTime)) = found
    have member : row ∈ found.take pageSizeCap ++ found.drop pageSizeCap := by
      rw [List.take_append_drop, ← selected]
      exact List.mem_filter.mpr ⟨isRow, decide_eq_true ⟨after, Int.le_of_lt before⟩⟩
    have pairs : (found.take pageSizeCap ++ found.drop pageSizeCap).Pairwise
        fun row later => row.time ≤ later.time := by
      rw [List.take_append_drop, ← selected]
      exact ordered.filter _
    rcases List.mem_append.mp member with here | behind
    · exact Or.inl here
    · refine Or.inr ⟨?_, fun last isLast => ?_⟩
      · have longer := List.length_pos_of_mem behind
        rw [List.length_drop] at longer
        rw [List.length_take]
        omega
      · exact (List.pairwise_append.mp pairs).2.2 last (List.mem_of_getLast? isLast) row behind

def twoDays : FundingSources ℚ :=
  { binance := { metrics := fun _ _ => .notFound, fundingRate := fun _ _ => .notFound }
    hyperliquid := fun _ => FundingHistory.ofRows
      [{ time := 19723 * dayMillis + 3600000, fundingRate := 1 },
        { time := 19724 * dayMillis + 3600000, fundingRate := 2 }] (by decide)
    timestampMillis := fun instant => instant / 1000 }

def dayCall (day : Int) : FundingCall :=
  { clock := { atMonth := fun _ => 0, atRange := 0 }
    request := { symbol := btc, startDate := day, endDate := day, force := false }
    source := .hyperliquid
    answers := [] }

def januaryFile : FundingSources ℚ :=
  { twoDays with
    binance :=
      { metrics := fun _ _ => .notFound
        fundingRate := fun _ month =>
          if month = { year := 2024, month := 1 } then
            .csv [{ time := 19723 * dayMillis + 3600000, fundingRate := 1 }]
          else .notFound } }

theorem binance_reached_january :
    let request := (dayCall 19723).request
    let stored := (FundingState.run januaryFile
      [{ dayCall 19724 with source := .binance }]).rates request.symbol .binance
    let row : FundingRow ℚ := { time := 19723 * dayMillis + 3600000, fundingRate := 1 }
    Reached januaryFile request stored row .binance ∨
      ∃ known ∈ stored, known.observedAtUtc = fromMillis row.time := by
  have inMonths : InMonths januaryFile.binance := by
    intro symbol month rows isFile row isRow
    change (if month = _ then Download.csv _ else _) = _ at isFile
    split at isFile
    · cases isFile
      rename_i isJanuary
      rw [isJanuary, List.mem_singleton.mp isRow]
      decide
    · cases isFile
  exact binance_reached januaryFile inMonths [{ dayCall 19724 with source := .binance }]
    (dayCall 19723).request _ ⟨{ year := 2024, month := 1 }, _, rfl, List.mem_cons_self⟩
    ⟨by decide, by decide⟩

/-- The second day is collected first, and the first day is not fetched behind it. -/
theorem backfill_notComplete :
    (FundingState.run twoDays [dayCall 19724, dayCall 19723]).requested =
        [((dayCall 19724).request, .hyperliquid), ((dayCall 19723).request, .hyperliquid)] ∧
      ¬ (FundingState.run twoDays [dayCall 19724, dayCall 19723]).Complete twoDays := by
  constructor
  · rfl
  · intro complete
    have shown := complete (dayCall 19723).request .hyperliquid
      (show _ ∈ [_, _] from List.mem_cons_of_mem _ List.mem_cons_self)
      { time := 19723 * dayMillis + 3600000, fundingRate := 1 } List.mem_cons_self ⟨by decide, by decide⟩
    revert shown
    decide

theorem run_complete_inOrder :
    (FundingState.run twoDays [dayCall 19723, dayCall 19724]).Complete twoDays := by
  apply run_complete
  have isEither : ∀ symbol row, ArchiveRow twoDays symbol row .hyperliquid →
      row = { time := 19723 * dayMillis + 3600000, fundingRate := 1 } ∨
        row = { time := 19724 * dayMillis + 3600000, fundingRate := 2 } := by
    intro symbol row isRow
    exact (List.mem_cons.mp isRow).imp_right List.mem_singleton.mp
  have oneRate : ∀ symbol row other, ArchiveRow twoDays symbol row .hyperliquid →
      ArchiveRow twoDays symbol other .hyperliquid → other.time = row.time →
        other.fundingRate = row.fundingRate := by
    intro symbol row other isRow isOther sameTime
    rcases isEither symbol row isRow with rfl | rfl <;>
      rcases isEither symbol other isOther with rfl | rfl
    · rfl
    · exact absurd sameTime (by decide)
    · exact absurd sameTime (by decide)
    · rfl
  refine ⟨fun _ => ⟨?_, ?_⟩, fun _ => ⟨?_, ?_⟩, trivial⟩
  · intro row isRow asks
    rcases isEither _ row isRow with rfl | rfl
    · exact Or.inl (show cursorMillis _ _ _ ≤ _ by decide)
    · exact absurd asks.2 (by decide)
  · exact fun row other isRow isOther _ => oneRate _ row other isRow isOther
  · intro row isRow asks
    rcases isEither _ row isRow with rfl | rfl
    · exact absurd asks.1 (by decide)
    · exact Or.inl (show cursorMillis _ _ _ ≤ _ by decide)
  · exact fun row other isRow isOther _ => oneRate _ row other isRow isOther

end TurtleExecution.Historical

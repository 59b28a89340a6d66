/-
The pages of the venue's funding history, against any server.

The server may answer anything to any call.  Whatever it answers, a cursor that goes on
advances on the grid of the floats, so that the pages end.
-/

import TurtleExecution.Foundation.Pairs
import TurtleExecution.Foundation.PyNumber
import TurtleExecution.Historical.Sources

set_option autoImplicit false

namespace TurtleExecution.Historical

open ExchangeAdapter

inductive HistoryRow (Rate : Type)
  | row (time : PyNumber) (fundingRate : Rate)
  /-- No object, a key that is missing, or a time that is no number. -/
  | malformed
  deriving DecidableEq

inductive HistoryBody (Rate : Type)
  | array (rows : List (HistoryRow Rate))
  | other (typeName : String)
  deriving DecidableEq

inductive TransportError
  | http (code : Int) (message : String)
  | url (message : String)
  | other (message : String)
  deriving DecidableEq

structure HistoryRequest where
  coin : String
  startTime : PyNumber
  endTime : Int
  deriving DecidableEq

abbrev HistoryServer (Rate : Type) : Type :=
  Nat → HistoryRequest → Except TransportError (HistoryBody Rate)

inductive FetchError (Rate : Type)
  /-- The errors up to `malformedRow` are `HistoricalDataError`s. -/
  | badRange (message : String)
  | http (code : Int) (message : String)
  | url (message : String)
  | notArray (typeName : String)
  | malformedRow (detail : HistoryRequest) (row : HistoryRow Rate)
  | escaped
  deriving DecidableEq

inductive TimeError
  | value
  | escaped
  deriving DecidableEq

/-- `time / 1000`; `none` stands for an `OverflowError`. -/
def secondsOf : PyNumber → Option FloatValue
  | .int millis =>
      let nearest := Binary64.format.nearest ((millis : ℚ) / 1000)
      if |nearest| < FloatValue.top then some (.finite nearest) else none
  | .float (.finite millis) => some (FloatValue.round (millis / 1000))
  | .float other => some other

/-- The first and the last second of the years that `datetime` has. -/
def firstSecond : Int := -62135596800

def lastSecond : Int := 253402300799

def InClock (second : Int) : Prop := -67768040609740800 ≤ second ∧ second ≤ 67768036191676799

instance : DecidablePred InClock := fun second =>
  inferInstanceAs (Decidable (-67768040609740800 ≤ second ∧ second ≤ 67768036191676799))

/-- A number of seconds as microseconds: the fraction is rounded on its own. -/
def microseconds (seconds : ℚ) : Int :=
  let whole := if 0 ≤ seconds then ⌊seconds⌋ else ⌈seconds⌉
  whole * 10 ^ 6 + HalfEven.whole (Binary64.format.nearest ((seconds - whole) * 10 ^ 6))

/-- `canonical_utc(datetime.fromtimestamp(time / 1000, tz=utc).isoformat())`, as the instant in
microseconds. -/
def observedInstant (time : PyNumber) : Except TimeError Int :=
  match secondsOf time with
  | none => .error .escaped
  | some .nan => .error .value
  | some (.infinity _) => .error .escaped
  | some (.finite seconds) =>
      let instant := microseconds seconds
      let second := instant / 10 ^ 6
      if ¬InClock second then .error .escaped
      else if second < firstSecond ∨ lastSecond < second then .error .value
      else .ok instant

def yearTenThousand : Int := 253402300800000

private theorem microseconds_bounds {seconds : ℚ} (nonneg : 0 ≤ seconds) :
    ⌊seconds⌋ * 10 ^ 6 ≤ microseconds seconds ∧
      microseconds seconds ≤ ⌊seconds⌋ * 10 ^ 6 +
        HalfEven.whole (Binary64.format.nearest ((seconds - ⌊seconds⌋) * 10 ^ 6)) := by
  have low : 0 ≤ (seconds - ⌊seconds⌋) * 10 ^ 6 :=
    mul_nonneg (sub_nonneg.mpr (Int.floor_le seconds)) (by norm_num)
  have fraction := HalfEven.whole_nonneg (Binary64.format.nearest_nonneg low)
  unfold microseconds
  dsimp only
  rw [if_pos nonneg]
  omega

private theorem secondsOf_int {millis : Int} (nonneg : 0 ≤ millis)
    (within : millis < yearTenThousand) :
    secondsOf (.int millis) = some (.finite (Binary64.format.nearest ((millis : ℚ) / 1000))) ∧
      0 ≤ Binary64.format.nearest ((millis : ℚ) / 1000) ∧
      Binary64.format.nearest ((millis : ℚ) / 1000) ≤ 253402300800 - 1 / 2048 := by
  have last : Binary64.format.nearest ((253402300799999 : ℚ) / 1000) ≤
      253402300800 - 1 / 2048 := by decide +kernel
  have cast : (millis : ℚ) ≤ 253402300799999 := by
    have below : millis ≤ 253402300799999 := by
      unfold yearTenThousand at within
      omega
    exact_mod_cast below
  have positive : (0 : ℚ) ≤ millis / 1000 :=
    div_nonneg (by exact_mod_cast nonneg) (by norm_num)
  have low : 0 ≤ Binary64.format.nearest ((millis : ℚ) / 1000) :=
    Binary64.format.nearest_nonneg positive
  have high : Binary64.format.nearest ((millis : ℚ) / 1000) ≤ 253402300800 - 1 / 2048 :=
    (NumberFormat.nearest_mono (div_le_div_of_nonneg_right cast (by norm_num))).trans last
  have finite : |Binary64.format.nearest ((millis : ℚ) / 1000)| < FloatValue.top := by
    rw [abs_of_nonneg low]
    refine high.trans_lt (lt_of_lt_of_le (b := 2 ^ 40) (by norm_num) ?_)
    exact pow_le_pow_right₀ (by norm_num) (by norm_num)
  exact ⟨if_pos finite, low, high⟩

private theorem observedInstant_of_seconds {time : PyNumber} {seconds : ℚ} {instant : Int}
    (isSeconds : secondsOf time = some (.finite seconds)) (isInstant : microseconds seconds = instant)
    (nonneg : 0 ≤ instant) (below : instant < 253402300800 * 10 ^ 6) :
    observedInstant time = .ok instant := by
  unfold observedInstant
  simp only [isSeconds, isInstant]
  have second : 0 ≤ instant / 10 ^ 6 ∧ instant / 10 ^ 6 ≤ 253402300799 := by omega
  rw [if_neg (by unfold InClock; omega), if_neg (by unfold firstSecond lastSecond; omega)]

private theorem observedInstant_ok {millis : Int} (nonneg : 0 ≤ millis)
    (within : millis < yearTenThousand) :
    ∃ instant, observedInstant (.int millis) = .ok instant := by
  obtain ⟨isSeconds, low, high⟩ := secondsOf_int nonneg within
  generalize Binary64.format.nearest ((millis : ℚ) / 1000) = seconds at isSeconds low high
  obtain ⟨above, below⟩ := microseconds_bounds low
  have floorNonneg : 0 ≤ ⌊seconds⌋ := Int.floor_nonneg.mpr low
  have fractionLt := Int.lt_floor_add_one seconds
  refine ⟨_, observedInstant_of_seconds isSeconds rfl (by omega) ?_⟩
  have rounded : HalfEven.whole (Binary64.format.nearest ((seconds - ⌊seconds⌋) * 10 ^ 6)) ≤
      10 ^ 6 := by
    have million : Binary64.format.nearest (10 ^ 6 : ℚ) ≤ ((10 ^ 6 : Int) : ℚ) := by
      decide +kernel
    refine HalfEven.whole_le ((NumberFormat.nearest_mono ?_).trans million)
    exact mul_le_of_le_one_left (by norm_num) (by linarith)
  rcases Int.lt_or_le ⌊seconds⌋ 253402300799 with earlier | reached
  · omega
  · -- In the last second the fraction is not rounded up to the next one.
    have isFloor : ⌊seconds⌋ = 253402300799 := by
      refine le_antisymm (Int.lt_add_one_iff.mp (Int.floor_lt.mpr ?_)) reached
      push_cast
      linarith
    have few : HalfEven.whole (Binary64.format.nearest ((seconds - ⌊seconds⌋) * 10 ^ 6)) ≤
        999512 := by
      have most : Binary64.format.nearest (999512 : ℚ) ≤ ((999512 : Int) : ℚ) := by
        decide +kernel
      refine HalfEven.whole_le ((NumberFormat.nearest_mono ?_).trans most)
      rw [isFloor]
      push_cast
      linarith
    omega

private theorem microseconds_near {seconds : ℚ} {second part : Int} (nonneg : 0 ≤ second)
    (isPart : 0 ≤ part ∧ part < 1000) (reached : second ≤ seconds)
    (near : |seconds - (second + part / 1000)| ≤ 2 ^ (-21 : Int)) :
    microseconds seconds = second * 10 ^ 6 + part * 1000 := by
  have within : (0 : ℚ) ≤ part ∧ (part : ℚ) ≤ 999 := by
    exact_mod_cast And.intro isPart.1 (Int.le_sub_one_of_lt isPart.2)
  rw [show (2 : ℚ) ^ (-21 : Int) = 1 / 2097152 by norm_num, abs_le] at near
  have isFloor : ⌊seconds⌋ = second :=
    Int.floor_eq_iff.mpr ⟨reached, by linarith⟩
  unfold microseconds
  dsimp only
  rw [if_pos ((by exact_mod_cast nonneg : (0 : ℚ) ≤ second).trans reached), isFloor]
  congr 1
  refine HalfEven.whole_eq ?_
  have small : |(seconds - second) * 10 ^ 6| < ((2 : Nat) : ℚ) ^ (20 : Int) := by
    rw [abs_of_nonneg (mul_nonneg (by linarith) (by norm_num))]
    norm_num
    linarith
  have moved : |Binary64.format.nearest ((seconds - second) * 10 ^ 6) - (seconds - second) * 10 ^ 6| ≤
      ((2 : Nat) : ℚ) ^ ((20 : Int) - (53 : Nat)) / 2 :=
    NumberFormat.abs_nearest_sub_le_zpow small (by decide)
  have tiny : ((2 : Nat) : ℚ) ^ ((20 : Int) - (53 : Nat)) / 2 < 1 / 1000 := by norm_num
  obtain ⟨up, down⟩ := abs_le.mp (moved.trans tiny.le)
  push_cast
  rw [abs_lt]
  constructor <;> linarith

/-- Before the year 2242 a whole number of milliseconds is read as it is. -/
theorem observedInstant_eq_fromMillis {millis : Int} (nonneg : 0 ≤ millis)
    (early : millis < 1000 * 2 ^ 33) : observedInstant (.int millis) = .ok (fromMillis millis) := by
  obtain ⟨isSeconds, -, -⟩ := secondsOf_int nonneg (early.trans (by decide))
  have parts : (millis : ℚ) / 1000 = (millis / 1000 : Int) + (millis % 1000 : Int) / 1000 := by
    rw [div_eq_iff (by norm_num), add_mul, div_mul_cancel₀ _ (by norm_num)]
    exact_mod_cast (by omega : millis = millis / 1000 * 1000 + millis % 1000)
  have reached : ((millis / 1000 : Int) : ℚ) ≤ Binary64.format.nearest ((millis : ℚ) / 1000) := by
    have exact_ : Binary64.format.nearest ((millis / 1000 : Int) : ℚ) = (millis / 1000 : Int) :=
      FloatValue.nearest_intCast (abs_lt.mpr ⟨by omega, by omega⟩)
    rw [← exact_, parts]
    refine NumberFormat.nearest_mono (le_add_of_nonneg_right (div_nonneg ?_ (by norm_num)))
    exact_mod_cast Int.emod_nonneg millis (by decide)
  have small : |(millis : ℚ) / 1000| < ((2 : Nat) : ℚ) ^ (33 : Int) := by
    rw [abs_of_nonneg (div_nonneg (by exact_mod_cast nonneg) (by norm_num)),
      div_lt_iff₀ (by norm_num), mul_comm]
    exact_mod_cast early
  have near : |Binary64.format.nearest ((millis : ℚ) / 1000) -
      ((millis / 1000 : Int) + (millis % 1000 : Int) / 1000)| ≤ 2 ^ (-21 : Int) := by
    rw [← parts]
    refine (NumberFormat.abs_nearest_sub_le_zpow small (by decide)).trans (le_of_eq ?_)
    change ((2 : Nat) : ℚ) ^ ((33 : Int) - (53 : Nat)) / 2 = 2 ^ (-21 : Int)
    norm_num
  have isPart : 0 ≤ millis % 1000 ∧ millis % 1000 < 1000 := by omega
  have isInstant := microseconds_near (by omega) isPart reached near
  rw [show millis / 1000 * 10 ^ 6 + millis % 1000 * 1000 = fromMillis millis by
    unfold fromMillis; omega] at isInstant
  exact observedInstant_of_seconds isSeconds isInstant (by unfold fromMillis; omega)
    (by unfold fromMillis; omega)

structure FundingRateObservation (Number : Type) where
  symbol : Symbol
  observedAtUtc : Int
  value : Number
  source : Source
  sourceDetail : HistoryRequest
  ingestedAtUtc : String

section

variable {Rate Number : Type}

/-- What a row is read as; `number` is `Decimal(value)`, unless that raises. -/
def readRow (number : Rate → Option Number) (symbol : Symbol) (request : HistoryRequest)
    (ingestedAtUtc : String) (row : HistoryRow Rate) :
    Except (FetchError Rate) (FundingRateObservation Number) :=
  match row with
  | .malformed => .error (.malformedRow request row)
  | .row time fundingRate =>
      match observedInstant time with
      | .error .value => .error (.malformedRow request row)
      | .error .escaped => .error .escaped
      | .ok instant =>
          match number fundingRate with
          | none => .error (.malformedRow request row)
          | some value =>
              .ok { symbol, observedAtUtc := instant, value, source := .hyperliquid
                    sourceDetail := request, ingestedAtUtc }

def nextCursor : HistoryRow Rate → Option PyNumber
  | .row time _ => time.add? (.int 1)
  | .malformed => none

def transportError : TransportError → FetchError Rate
  | .http code message => .http code message
  | .url message => .url message
  | .other _ => .escaped

variable (server : HistoryServer Rate) (number : Rate → Option Number) (symbol : Symbol)
  (endMs : Int) (ingestedAtUtc : String)

/-- The pages from the cursor on, after a number of calls; `none` stands for more calls than
the fuel allows. -/
def readPages : Nat → Nat → PyNumber →
    Option (Except (FetchError Rate) (List (FundingRateObservation Number)))
  | 0, _, _ => none
  | fuel + 1, calls, cursor =>
      if cursor.lt (.int endMs) then
        let request : HistoryRequest :=
          { coin := symbol.value, startTime := cursor, endTime := endMs }
        match server calls request with
        | .error raised => some (.error (transportError raised))
        | .ok (.other typeName) => some (.error (.notArray typeName))
        | .ok (.array body) =>
            match body.getLast? with
            | none => some (.ok [])
            | some last =>
                match body.mapM (readRow number symbol request ingestedAtUtc) with
                | .error raised => some (.error raised)
                | .ok observations =>
                    match nextCursor last with
                    | none => some (.error .escaped)
                    | some next =>
                        if body.length < pageSizeCap ∨ next.le cursor = true then
                          some (.ok observations)
                        else
                          (readPages fuel (calls + 1) next).map fun later =>
                            later.map (observations ++ ·)
      else some (.ok [])

def fetchHistory (fuel : Nat) (startMs : Int) :
    Option (Except (FetchError Rate) (List (FundingRateObservation Number))) :=
  if startMs < 0 then some (.error (.badRange "start_ms must be a non-negative int"))
  else if endMs < startMs then some (.error (.badRange "end_ms must be an int >= start_ms"))
  else readPages server number symbol endMs ingestedAtUtc fuel 0 (.int startMs)

end

def place (value : ℚ) : WithBot (WithTop ℚ) := ((value : WithTop ℚ) : WithBot (WithTop ℚ))

private theorem place_lt {value other : ℚ} : place value < place other ↔ value < other := by
  unfold place
  rw [WithBot.coe_lt_coe, WithTop.coe_lt_coe]

private theorem place_le {value other : ℚ} : place value ≤ place other ↔ value ≤ other := by
  unfold place
  rw [WithBot.coe_le_coe, WithTop.coe_le_coe]

/-- A cursor that is on the grid of the floats, or that no time is behind. -/
def OnGrid (cursor : PyNumber) : Prop :=
  cursor.extended = none ∨ cursor.extended = some ⊤ ∨
    ∃ count : Int, cursor.extended = some (place (count / FloatValue.gridUnits))

private theorem onGrid_int (value : Int) : OnGrid (.int value) := by
  refine .inr (.inr ⟨value * FloatValue.gridUnits, ?_⟩)
  have same : ((value * FloatValue.gridUnits : Int) : ℚ) / FloatValue.gridUnits = value := by
    push_cast
    exact mul_div_cancel_right₀ _ FloatValue.gridUnits_pos.ne'
  rw [same]
  rfl

private theorem onGrid_round (value : ℚ) :
    OnGrid (.float (.round value)) ∨ (PyNumber.float (.round value)).extended = some ⊥ := by
  unfold FloatValue.round
  dsimp only
  split
  · obtain ⟨count, isCount⟩ := FloatValue.nearest_grid value
    rw [isCount]
    exact .inl (.inr (.inr ⟨count, rfl⟩))
  · by_cases negative : Binary64.format.nearest value < 0
    · exact .inr (by simp [PyNumber.extended, negative])
    · exact .inl (.inr (.inl (by simp [PyNumber.extended, negative])))

private theorem onGrid_infinity (negative : Bool) :
    OnGrid (.float (.infinity negative)) ∨
      (PyNumber.float (.infinity negative)).extended = some ⊥ := by
  cases negative with
  | false => exact .inl (.inr (.inl rfl))
  | true => exact .inr rfl

private theorem onGrid_add (left right : FloatValue) :
    OnGrid (.float (left.add right)) ∨ (PyNumber.float (left.add right)).extended = some ⊥ := by
  cases left with
  | nan => exact .inl (.inl rfl)
  | finite value =>
      cases right with
      | finite added => exact onGrid_round _
      | infinity negative => exact onGrid_infinity _
      | nan => exact .inl (.inl rfl)
  | infinity negative =>
      cases right with
      | finite added => exact onGrid_infinity _
      | nan => exact .inl (.inl rfl)
      | infinity other =>
          unfold FloatValue.add
          dsimp only
          split
          · exact onGrid_infinity _
          · exact .inl (.inl rfl)

private theorem nextCursor_onGrid {Rate : Type} {row : HistoryRow Rate} {next : PyNumber}
    (isNext : nextCursor row = some next) : OnGrid next ∨ next.extended = some ⊥ := by
  cases row with
  | malformed => cases isNext
  | row time fundingRate =>
      cases time with
      | int value =>
          cases isNext
          exact .inl (onGrid_int _)
      | float value =>
          obtain ⟨one, _, isSum⟩ := Option.bind_eq_some_iff.mp isNext
          cases isSum
          exact onGrid_add value one

private theorem before_end {cursor : PyNumber} {endMs : Int} (onGrid : OnGrid cursor)
    (before : cursor.lt (.int endMs) = true) :
    ∃ count : Int, cursor.extended = some (place (count / FloatValue.gridUnits)) ∧
      count < endMs * FloatValue.gridUnits := by
  unfold PyNumber.lt PyNumber.compares at before
  rcases onGrid with nowhere | behind | ⟨count, isCount⟩
  · rw [nowhere] at before
    cases before
  · rw [behind] at before
    exact absurd (of_decide_eq_true before) not_top_lt
  · rw [isCount] at before
    refine ⟨count, isCount, ?_⟩
    have less : (count : ℚ) / FloatValue.gridUnits < endMs := place_lt.mp (of_decide_eq_true before)
    rw [div_lt_iff₀ FloatValue.gridUnits_pos] at less
    exact_mod_cast less

private theorem advances {cursor next : PyNumber} {count : Int}
    (isCount : cursor.extended = some (place (count / FloatValue.gridUnits)))
    (isNext : OnGrid next ∨ next.extended = some ⊥) (further : next.le cursor = false) :
    OnGrid next ∧ ∀ later : Int, next.extended = some (place (later / FloatValue.gridUnits)) →
      count < later := by
  unfold PyNumber.le PyNumber.compares at further
  rw [isCount] at further
  constructor
  · refine isNext.resolve_right fun first => ?_
    rw [first] at further
    exact of_decide_eq_false further bot_le
  · intro later isLater
    rw [isLater] at further
    have less : (count : ℚ) / FloatValue.gridUnits < later / FloatValue.gridUnits :=
      place_lt.mp (not_le.mp (of_decide_eq_false further))
    rw [div_lt_div_iff_of_pos_right FloatValue.gridUnits_pos] at less
    exact_mod_cast less

section

variable {Rate Number : Type} (server : HistoryServer Rate) (number : Rate → Option Number)
  (symbol : Symbol) (endMs : Int) (ingestedAtUtc : String)

private theorem readPages_cases (fuel calls : Nat) (cursor : PyNumber) :
    (∃ outcome, readPages server number symbol endMs ingestedAtUtc (fuel + 1) calls cursor =
        some outcome) ∨
      ∃ (last : HistoryRow Rate) (next : PyNumber) (observations : List _),
        cursor.lt (.int endMs) = true ∧ nextCursor last = some next ∧
        next.le cursor = false ∧
        readPages server number symbol endMs ingestedAtUtc (fuel + 1) calls cursor =
          (readPages server number symbol endMs ingestedAtUtc fuel (calls + 1) next).map
            fun later => later.map (observations ++ ·) := by
  rw [readPages]
  split
  case isFalse => exact .inl ⟨_, rfl⟩
  case isTrue before =>
    dsimp only
    split
    · exact .inl ⟨_, rfl⟩
    · exact .inl ⟨_, rfl⟩
    · split
      · exact .inl ⟨_, rfl⟩
      · rename_i last _
        split
        · exact .inl ⟨_, rfl⟩
        · rename_i observations _
          split
          · exact .inl ⟨_, rfl⟩
          · rename_i next isNext
            split
            · exact .inl ⟨_, rfl⟩
            · rename_i goesOn
              have further := Bool.eq_false_of_not_eq_true (not_or.mp goesOn).2
              exact .inr ⟨last, next, observations, before, isNext, further, rfl⟩

private theorem readPages_ends (fuel calls : Nat) (cursor : PyNumber) (onGrid : OnGrid cursor)
    (some_ : 0 < fuel)
    (enough : ∀ count : Int, cursor.extended = some (place (count / FloatValue.gridUnits)) →
      endMs * FloatValue.gridUnits - count < fuel) :
    ∃ outcome, readPages server number symbol endMs ingestedAtUtc fuel calls cursor =
      some outcome := by
  induction fuel generalizing calls cursor with
  | zero => exact absurd some_ (Nat.lt_irrefl 0)
  | succ fuel ih =>
      rcases readPages_cases server number symbol endMs ingestedAtUtc fuel calls cursor with
        ends | ⟨last, next, observations, before, isNext, further, goesOn⟩
      · exact ends
      · obtain ⟨count, isCount, below⟩ := before_end onGrid before
        have left := enough count isCount
        obtain ⟨nextGrid, above⟩ := advances isCount (nextCursor_onGrid isNext) further
        obtain ⟨outcome, ends⟩ := ih (calls + 1) next nextGrid (by omega) fun later isLater => by
          have behind := above later isLater
          omega
        rw [goesOn, ends]
        exact ⟨_, rfl⟩

end

section

variable {Rate Number : Type}

def windowed (history : List (Int × Rate)) (startMs endMs : Int) : List (Int × Rate) :=
  history.filter fun row => startMs ≤ row.1 ∧ row.1 < endMs

def firstPage (history : List (Int × Rate)) (startMs endMs : Int) : List (HistoryRow Rate) :=
  ((windowed history startMs endMs).take pageSizeCap).map fun row => .row (.int row.1) row.2

structure ReadOf (number : Rate → Option Number) (symbol : Symbol) (endMs : Int)
    (ingestedAtUtc : String) (row : Int × Rate) (observation : FundingRateObservation Number) :
    Prop where
  own : observation.symbol = symbol
  time : observedInstant (.int row.1) = .ok observation.observedAtUtc
  value : number row.2 = some observation.value
  source : observation.source = .hyperliquid
  ingested : observation.ingestedAtUtc = ingestedAtUtc
  detail : ∃ cursor, observation.sourceDetail =
    { coin := symbol.value, startTime := .int cursor, endTime := endMs }

variable {history : List (Int × Rate)}

private theorem windowed_after (ordered : history.Pairwise fun row later => row.1 < later.1)
    {startMs endMs : Int} {page rest : List (Int × Rate)} {last : Int × Rate}
    (split : windowed history startMs endMs = page ++ rest) (isLast : page.getLast? = some last) :
    windowed history (last.1 + 1) endMs = rest := by
  have mem_last := List.mem_of_getLast? isLast
  have inWindow : ∀ row ∈ page, startMs ≤ row.1 ∧ row.1 < endMs := by
    intro row member
    have inside : row ∈ windowed history startMs endMs :=
      split ▸ List.mem_append_left _ member
    exact of_decide_eq_true (List.mem_filter.mp inside).2
  have pairs : (page ++ rest).Pairwise fun row later => row.1 < later.1 :=
    split ▸ ordered.sublist List.filter_sublist
  obtain ⟨pagePairs, _, across⟩ := List.pairwise_append.mp pairs
  have narrowed : windowed history (last.1 + 1) endMs =
      (windowed history startMs endMs).filter fun row => last.1 + 1 ≤ row.1 := by
    unfold windowed
    rw [List.filter_filter]
    refine List.filter_congr fun row _ => ?_
    have first := (inWindow last mem_last).1
    rw [← Bool.decide_and]
    refine decide_eq_decide.mpr ?_
    constructor
    · rintro ⟨above, below⟩
      exact ⟨above, by omega, below⟩
    · rintro ⟨above, _, below⟩
      exact ⟨above, below⟩
  have noneOfPage : (page.filter fun row => last.1 + 1 ≤ row.1) = [] := by
    rw [List.filter_eq_nil_iff]
    intro row member above
    have above := of_decide_eq_true above
    obtain ⟨front, rfl⟩ := List.getLast?_eq_some_iff.mp isLast
    rcases List.mem_append.mp member with earlier | isLast
    · have less := (List.pairwise_append.mp pagePairs).2.2 row earlier last (by simp)
      omega
    · rw [List.mem_singleton.mp isLast] at above
      omega
  have allOfRest : (rest.filter fun row => last.1 + 1 ≤ row.1) = rest := by
    rw [List.filter_eq_self]
    intro row member
    exact decide_eq_true (across last mem_last row member)
  rw [narrowed, split, List.filter_append, noneOfPage, allOfRest, List.nil_append]

def Readable (number : Rate → Option Number) (row : Int × Rate) : Prop :=
  (∃ instant, observedInstant (.int row.1) = .ok instant) ∧ ∃ value, number row.2 = some value

def Proper (number : Rate → Option Number) (row : Int × Rate) : Prop :=
  row.1 < yearTenThousand ∧ ∃ value, number row.2 = some value

private theorem readRow_readable {number : Rate → Option Number} {symbol : Symbol}
    {endMs cursor : Int} {ingestedAtUtc : String} {row : Int × Rate}
    (readable : Readable number row) :
    ∃ observation, readRow number symbol
        { coin := symbol.value, startTime := .int cursor, endTime := endMs } ingestedAtUtc
        (.row (.int row.1) row.2) = .ok observation ∧
      ReadOf number symbol endMs ingestedAtUtc row observation := by
  obtain ⟨⟨instant, isInstant⟩, value, isValue⟩ := readable
  refine ⟨{ symbol, observedAtUtc := instant, value, source := .hyperliquid
            sourceDetail := _, ingestedAtUtc }, ?_,
    ⟨rfl, isInstant, isValue, rfl, rfl, cursor, rfl⟩⟩
  simp only [readRow, isInstant, isValue]

private theorem readPage_readable {number : Rate → Option Number} {symbol : Symbol}
    {endMs cursor : Int} {ingestedAtUtc : String} {page : List (Int × Rate)}
    (readable : ∀ row ∈ page, Readable number row) :
    ∃ observations, (page.map fun row => HistoryRow.row (.int row.1) row.2).mapM
        (readRow number symbol
          { coin := symbol.value, startTime := .int cursor, endTime := endMs } ingestedAtUtc) =
        .ok observations ∧
      List.Forall₂ (ReadOf number symbol endMs ingestedAtUtc) page observations := by
  induction page with
  | nil => exact ⟨[], rfl, .nil⟩
  | cons row page ih =>
      obtain ⟨observation, isRead, readOf⟩ :=
        @readRow_readable _ _ number symbol endMs cursor ingestedAtUtc row
          (readable row List.mem_cons_self)
      obtain ⟨observations, areRead, readAll⟩ :=
        ih fun row member => readable row (List.mem_cons_of_mem _ member)
      refine ⟨observation :: observations, ?_, .cons readOf readAll⟩
      rw [List.map_cons, List.mapM_cons, bind_of_ok isRead, bind_of_ok areRead]
      rfl

/-- The server answers each request with the first page of its history from the start on. -/
def Serves (server : HistoryServer Rate) (symbol : Symbol) (endMs : Int)
    (history : List (Int × Rate)) : Prop :=
  ∀ (calls : Nat) (startMs : Int),
    server calls { coin := symbol.value, startTime := .int startMs, endTime := endMs } =
      .ok (.array (firstPage history startMs endMs))

private theorem windowed_eq_nil {startMs endMs : Int} (after : endMs ≤ startMs) :
    windowed history startMs endMs = [] := by
  refine List.filter_eq_nil_iff.mpr fun row _ inside => ?_
  have inside := of_decide_eq_true inside
  omega

private theorem drop_eq_nil_of_stops {cursor endMs : Int} {last : Int × Rate}
    (isLast : ((windowed history cursor endMs).take pageSizeCap).getLast? = some last)
    (stops : ((windowed history cursor endMs).take pageSizeCap).length < pageSizeCap ∨
      last.1 + 1 ≤ cursor) : (windowed history cursor endMs).drop pageSizeCap = [] := by
  have member := List.mem_of_mem_take (List.mem_of_getLast? isLast)
  have inside := of_decide_eq_true (List.mem_filter.mp member).2
  have short := stops.resolve_right (by omega)
  rw [List.length_take] at short
  rw [List.drop_eq_nil_iff]
  omega

private theorem readPages_complete {server : HistoryServer Rate} {number : Rate → Option Number}
    {symbol : Symbol} {endMs : Int} (ordered : history.Pairwise fun row later => row.1 < later.1)
    (serves : Serves server symbol endMs history) (ingestedAtUtc : String) {fuel calls : Nat}
    {cursor : Int} (readable : ∀ row ∈ windowed history cursor endMs, Readable number row)
    {outcome : Except (FetchError Rate) (List (FundingRateObservation Number))}
    (ends : readPages server number symbol endMs ingestedAtUtc fuel calls (.int cursor) =
      some outcome) :
    ∃ observations, outcome = .ok observations ∧
      List.Forall₂ (ReadOf number symbol endMs ingestedAtUtc) (windowed history cursor endMs)
        observations := by
  induction fuel generalizing calls cursor outcome with
  | zero => cases ends
  | succ fuel ih =>
      rw [readPages] at ends
      split at ends
      case isFalse after =>
        -- No time is between the cursor and the end.
        cases ends
        have reached : endMs ≤ cursor := by
          by_contra before
          exact after (decide_eq_true (place_lt.mpr (by exact_mod_cast not_le.mp before)))
        rw [windowed_eq_nil reached]
        exact ⟨[], rfl, .nil⟩
      case isTrue =>
        dsimp only at ends
        rw [serves calls cursor] at ends
        dsimp only at ends
        have split := List.take_append_drop pageSizeCap (windowed history cursor endMs)
        rw [firstPage, List.getLast?_map, List.length_map] at ends
        obtain ⟨observations, areRead, readAll⟩ :=
          @readPage_readable _ _ number symbol endMs cursor ingestedAtUtc
            ((windowed history cursor endMs).take pageSizeCap)
            fun row member => readable row (List.mem_of_mem_take member)
        cases isLast : ((windowed history cursor endMs).take pageSizeCap).getLast? with
        | none =>
            -- The page is empty, and so is the window.
            rw [isLast] at ends
            cases ends
            have isEmpty := List.getLast?_eq_none_iff.mp isLast
            rw [List.take_eq_nil_iff] at isEmpty
            rw [isEmpty.resolve_left (by decide)]
            exact ⟨[], rfl, .nil⟩
        | some last =>
            rw [isLast] at ends
            simp only [Option.map_some, areRead, nextCursor, PyNumber.add?] at ends
            split at ends
            · rename_i stops
              cases ends
              have whole := drop_eq_nil_of_stops isLast (stops.imp_right fun back => by
                exact_mod_cast place_le.mp (of_decide_eq_true back))
              rw [whole, List.append_nil] at split
              rw [← split]
              exact ⟨observations, rfl, readAll⟩
            · rename_i goesOn
              have behind := windowed_after ordered split.symm isLast
              obtain ⟨later, isLater, ends⟩ := Option.map_eq_some_iff.mp ends
              obtain ⟨found, rfl, foundAll⟩ := ih (fun row member => readable row (by
                rw [← split]
                exact List.mem_append_right _ (behind ▸ member))) isLater
              refine ⟨observations ++ found, ends.symm, ?_⟩
              rw [← split]
              exact List.rel_append readAll (behind ▸ foundAll)

/-- Whatever the server answers, the pages end; and the rows of a window that can be read are
each returned once, in the order of their times. -/
theorem fetchHistory_ends_and_complete (number : Rate → Option Number) (symbol : Symbol)
    (startMs endMs : Int) (ingestedAtUtc : String) :
    (∀ server : HistoryServer Rate, ∃ bound, ∀ fuel, bound ≤ fuel → ∃ outcome,
      fetchHistory server number symbol endMs ingestedAtUtc fuel startMs = some outcome) ∧
    ∀ (server : HistoryServer Rate) (history : List (Int × Rate)),
      (history.Pairwise fun row later => row.1 < later.1) →
      Serves server symbol endMs history → 0 ≤ startMs → startMs ≤ endMs →
      (∀ row ∈ windowed history startMs endMs, Proper number row) →
      ∃ bound, ∀ fuel, bound ≤ fuel → ∃ observations,
        fetchHistory server number symbol endMs ingestedAtUtc fuel startMs =
          some (.ok observations) ∧
        List.Forall₂ (ReadOf number symbol endMs ingestedAtUtc) (windowed history startMs endMs)
          observations := by
  have ends : ∀ server : HistoryServer Rate, ∃ bound, ∀ fuel, bound ≤ fuel → ∃ outcome,
      fetchHistory server number symbol endMs ingestedAtUtc fuel startMs = some outcome := by
    intro server
    refine ⟨((endMs - startMs) * FloatValue.gridUnits).toNat + 1, fun fuel enough => ?_⟩
    unfold fetchHistory
    split
    · exact ⟨_, rfl⟩
    · split
      · exact ⟨_, rfl⟩
      · refine readPages_ends server number symbol endMs ingestedAtUtc fuel 0 _ (onGrid_int startMs)
          (by omega) fun count isCount => ?_
        have same : place (startMs : ℚ) = place (count / FloatValue.gridUnits) :=
          Option.some.inj isCount
        have units : (startMs : ℚ) = count / FloatValue.gridUnits :=
          le_antisymm (place_le.mp same.le) (place_le.mp same.ge)
        rw [eq_div_iff FloatValue.gridUnits_pos.ne'] at units
        have units : startMs * FloatValue.gridUnits = count := by exact_mod_cast units
        rw [Int.sub_mul] at enough
        omega
  refine ⟨ends, fun server history ordered serves nonneg window proper => ?_⟩
  obtain ⟨bound, ended⟩ := ends server
  refine ⟨bound, fun fuel enough => ?_⟩
  obtain ⟨outcome, isOutcome⟩ := ended fuel enough
  rw [isOutcome]
  rw [fetchHistory, if_neg (not_lt.mpr nonneg), if_neg (not_lt.mpr window)] at isOutcome
  obtain ⟨observations, rfl, readAll⟩ := readPages_complete ordered serves ingestedAtUtc
    (fun row member => by
      have inside := of_decide_eq_true (List.mem_filter.mp member).2
      obtain ⟨within, isNumber⟩ := proper row member
      exact ⟨observedInstant_ok (nonneg.trans inside.1) within, isNumber⟩) isOutcome
  exact ⟨observations, rfl, readAll⟩

def serve (history : List (Int × Rate)) : HistoryServer Rate :=
  fun _ request =>
    match request.startTime with
    | .int startMs => .ok (.array (firstPage history startMs request.endTime))
    | .float _ => .ok (.array [])

end

def twoRates : List (Int × ℚ) := [(1700000000000, 1 / 8), (1700003600000, -1 / 8)]

theorem fetchHistory_ends_and_complete_twoRates :
    ∃ bound, ∀ fuel, bound ≤ fuel → ∃ observations,
      fetchHistory (serve twoRates) some btc 1700010000000 "2026-01-01T00:00:00+00:00" fuel 0 =
        some (.ok observations) ∧
      List.Forall₂ (ReadOf some btc 1700010000000 "2026-01-01T00:00:00+00:00")
        (windowed twoRates 0 1700010000000) observations :=
  (fetchHistory_ends_and_complete some btc 0 1700010000000 "2026-01-01T00:00:00+00:00").2
    (serve twoRates) twoRates (by decide) (fun _ _ => rfl) (by decide) (by decide)
    fun row member => by
      have time : ∀ row ∈ windowed twoRates 0 1700010000000, row.1 < yearTenThousand := by
        decide +kernel
      exact ⟨time row member, row.2, rfl⟩

def lateRate : List (Int × ℚ) := [(yearTenThousand, 1 / 8)]

/-- The history has distinct whole times and is served, but its row is refused. -/
theorem lateRate_refused :
    (lateRate.Pairwise fun row later => row.1 < later.1) ∧
      Serves (serve lateRate) btc (10 ^ 15) lateRate ∧
      (∀ fuel, fetchHistory (serve lateRate) some btc (10 ^ 15) "2026-01-01T00:00:00+00:00"
          (fuel + 1) 0 =
        some (.error (.malformedRow
          { coin := "BTC", startTime := .int 0, endTime := 10 ^ 15 }
          (.row (.int yearTenThousand) (1 / 8))))) ∧
      ¬∃ fuel observations, fetchHistory (serve lateRate) some btc (10 ^ 15)
          "2026-01-01T00:00:00+00:00" fuel 0 = some (.ok observations) := by
  have refused : ∀ fuel, fetchHistory (serve lateRate) some btc (10 ^ 15)
      "2026-01-01T00:00:00+00:00" (fuel + 1) 0 =
        some (.error (.malformedRow
          { coin := "BTC", startTime := .int 0, endTime := 10 ^ 15 }
          (.row (.int yearTenThousand) (1 / 8)))) := by
    intro fuel
    have late : observedInstant (.int yearTenThousand) = .error .value := by decide +kernel
    have page : firstPage lateRate 0 (10 ^ 15) = [.row (.int yearTenThousand) (1 / 8)] := by
      decide +kernel
    have before : (PyNumber.int 0).lt (.int (10 ^ 15)) = true := by decide +kernel
    rw [fetchHistory, if_neg (by decide), if_neg (by decide), readPages, if_pos before]
    simp only [serve, page, List.getLast?_singleton, List.mapM_cons, readRow, late]
    rfl
  refine ⟨by decide, fun _ _ => rfl, refused, ?_⟩
  rintro ⟨fuel, observations, returned⟩
  cases fuel with
  | zero => cases returned
  | succ fuel => cases (refused fuel).symm.trans returned

end TurtleExecution.Historical

/-
One CSV file a series.

A file is its records, header first; the quoting of `csv` gives each cell back as it was
written.  A cell longer than the field limit is written but not read.
-/

import Std.Data.String.ToInt
import TurtleExecution.Foundation.DecimalParse
import TurtleExecution.Foundation.Dict
import TurtleExecution.Foundation.Pairs
import TurtleExecution.HistoricalStorage.Observations

set_option autoImplicit false

namespace TurtleExecution.HistoricalStorage

open ExchangeAdapter

def fieldSizeLimit : Nat := 131072

def fewDigits (text : String) : Bool := text.toList.countP Char.isDigit ≤ PyText.maxStrDigits

def intText (value : Int) : Except StorageError String :=
  if fewDigits (toString value) then .ok (toString value) else .error .value

def ofIntText (text : String) : Except StorageError Int :=
  if fewDigits text then
    match text.toInt? with
    | some value => .ok value
    | none => .error .value
  else .error .value

def fieldnames : List String :=
  ["observed_at_utc", "symbol", "value", "source", "source_detail", "ingested_at_utc"]

def liquidationFieldnames : List String :=
  ["observed_at_utc", "symbol", "price", "size", "side", "direction", "method",
    "liquidated_user", "mark_price", "tid", "source", "source_detail", "ingested_at_utc"]

def fieldnamesFor : ObservationType → List String
  | .scalar _ => fieldnames
  | .liquidation => liquidationFieldnames

abbrev DedupKey : Type := List String

def dedupKey : {type : ObservationType} → Observation type → Except StorageError DedupKey
  | .liquidation, observation => do
      let market : Liquidation := observation.market
      let tid ← intText market.tid
      return [observation.symbol.value, observation.observedAtUtc, tid, market.side]
  | .scalar _, observation => return [observation.symbol.value, observation.observedAtUtc]

abbrev Row : Type := Dict String String

def observationToRow : {type : ObservationType} → Observation type → Except StorageError Row
  | .liquidation, observation => do
      let market : Liquidation := observation.market
      let tid ← intText market.tid
      return [("observed_at_utc", observation.observedAtUtc), ("symbol", observation.symbol.value),
        ("price", market.price.text), ("size", market.size.text), ("side", market.side),
        ("direction", market.direction), ("method", market.method),
        ("liquidated_user", market.liquidatedUser), ("mark_price", market.markPrice.text),
        ("tid", tid), ("source", observation.source), ("source_detail", observation.sourceDetail),
        ("ingested_at_utc", observation.ingestedAtUtc)]
  | .scalar _, observation =>
      return [("observed_at_utc", observation.observedAtUtc), ("symbol", observation.symbol.value),
        ("value", Decimal.text observation.market), ("source", observation.source),
        ("source_detail", observation.sourceDetail), ("ingested_at_utc", observation.ingestedAtUtc)]

/-- `row[name]`; the cells that a short record misses are refused by each constructor. -/
def cell (row : Row) (name : String) : Except StorageError String :=
  match Dict.get? row name with
  | some text => .ok text
  | none => .error .value

def symbolOf (text : String) : Except StorageError Symbol :=
  if nonBlank : PyText.isBlank text = false then .ok ⟨text, nonBlank⟩ else .error .value

def decimalOf (text : String) : Except StorageError Decimal :=
  match Decimal.ofText? text with
  | some number => .ok number
  | none => .error (.arithmetic .invalidOperation)

def liquidationOf (row : Row) : Except StorageError Liquidation := do
  let price ← decimalOf (← cell row "price")
  let size ← decimalOf (← cell row "size")
  let side ← cell row "side"
  let direction ← cell row "direction"
  let method ← cell row "method"
  let liquidatedUser ← cell row "liquidated_user"
  let markPrice ← decimalOf (← cell row "mark_price")
  let tid ← ofIntText (← cell row "tid")
  return { price, size, side, direction, method, liquidatedUser, markPrice, tid }

def marketOf (row : Row) : (type : ObservationType) → Except StorageError (Market type)
  | .scalar _ => do decimalOf (← cell row "value")
  | .liquidation => liquidationOf row

def rowToObservation (fromisoformat : IsoTexts) (row : Row) (type : ObservationType) :
    Except StorageError (Observation type) := do
  let symbol ← symbolOf (← cell row "symbol")
  let observedAtUtc ← cell row "observed_at_utc"
  let market ← marketOf row type
  let source ← cell row "source"
  let sourceDetail ← cell row "source_detail"
  let ingestedAtUtc ← cell row "ingested_at_utc"
  Observation.checked fromisoformat
    { symbol, observedAtUtc, market, source, sourceDetail, ingestedAtUtc }

abbrev Record : Type := List String

abbrev CsvFile : Type := List Record

def readRecord (record : Record) : Except StorageError Record :=
  if record.all fun text => text.length ≤ fieldSizeLimit then .ok record else .error .csv

/-- A record of `csv.DictReader` as an observation. -/
def readObservation (fromisoformat : IsoTexts) (type : ObservationType) (record : Record) :
    Except StorageError (Observation type) := do
  let cells ← readRecord record
  rowToObservation fromisoformat ((fieldnamesFor type).zip cells) type

/-- The observations of a file that may not exist.  Records without cells are skipped. -/
def load (fromisoformat : IsoTexts) (type : ObservationType) :
    Option CsvFile → Except StorageError (List (Observation type))
  | none => .ok []
  | some [] => .ok []
  | some (header :: records) => do
      let names ← readRecord header
      if names ≠ fieldnamesFor type then .error (.historicalData "header")
      else (records.filter fun record => record ≠ []).mapM (readObservation fromisoformat type)

def writeRow (names : List String) (row : Row) : Record :=
  names.map fun name => (Dict.get? row name).getD ""

def writeFile {type : ObservationType} (rows : List (Observation type)) :
    Except StorageError CsvFile := do
  let records ← rows.mapM fun observation => do
    return writeRow (fieldnamesFor type) (← observationToRow observation)
  return fieldnamesFor type :: records

variable {fromisoformat : IsoTexts} {type : ObservationType}

def Writable : {type : ObservationType} → Observation type → Prop
  | .liquidation, observation =>
      fewDigits (toString (Liquidation.tid observation.market)) = true
  | .scalar _, _ => True

def identity : {type : ObservationType} → Observation type → DedupKey
  | .liquidation, observation => [observation.symbol.value, observation.observedAtUtc,
      toString (Liquidation.tid observation.market), Liquidation.side observation.market]
  | .scalar _, observation => [observation.symbol.value, observation.observedAtUtc]

def marketCells : (type : ObservationType) → Market type → List String
  | .scalar _, value => [Decimal.text value]
  | .liquidation, market => [Decimal.text (Liquidation.price market),
      Decimal.text (Liquidation.size market), Liquidation.side market,
      Liquidation.direction market, Liquidation.method market, Liquidation.liquidatedUser market,
      Decimal.text (Liquidation.markPrice market), toString (Liquidation.tid market)]

def cells (observation : Observation type) : Record :=
  observation.observedAtUtc :: observation.symbol.value ::
    (marketCells type observation.market ++
      [observation.source, observation.sourceDetail, observation.ingestedAtUtc])

def Readable (observation : Observation type) : Prop :=
  ∀ text ∈ cells observation, text.length ≤ fieldSizeLimit

private theorem intText_ok {value : Int} {text : String} :
    intText value = .ok text ↔ fewDigits (toString value) = true ∧ text = toString value := by
  unfold intText
  split
  · rename_i few
    exact ⟨fun written => ⟨few, (Except.ok.inj written).symm⟩, fun named => by rw [named.2]⟩
  · rename_i many
    exact ⟨fun written => (by cases written), fun named => absurd named.1 many⟩

private theorem ofIntText_toString {value : Int} (few : fewDigits (toString value) = true) :
    ofIntText (toString value) = .ok value := by
  have isRead : (toString value).toInt? = some value := Int.toInt?_repr value
  unfold ofIntText
  rw [if_pos few, isRead]

variable {observation : Observation type}

theorem dedupKey_ok {key : DedupKey} :
    dedupKey observation = .ok key ↔ Writable observation ∧ key = identity observation := by
  cases type with
  | scalar metric =>
      constructor
      · intro named
        exact ⟨trivial, (Except.ok.inj named).symm⟩
      · rintro ⟨_, rfl⟩
        rfl
  | liquidation =>
      constructor
      · intro named
        obtain ⟨tid, written, same⟩ := ok_of_bind named
        obtain ⟨few, rfl⟩ := intText_ok.mp written
        exact ⟨few, (Except.ok.inj same).symm⟩
      · rintro ⟨few, rfl⟩
        exact bind_of_ok (intText_ok.mpr ⟨few, rfl⟩)

private theorem writeRow_ok {record : Record} :
    (do return writeRow (fieldnamesFor type) (← observationToRow observation) :
      Except StorageError Record) = .ok record ↔
      Writable observation ∧ record = cells observation := by
  cases type with
  | scalar metric =>
      constructor
      · intro written
        exact ⟨trivial, (Except.ok.inj written).symm⟩
      · rintro ⟨_, rfl⟩
        rfl
  | liquidation =>
      constructor
      · intro written
        obtain ⟨row, isRow, same⟩ := ok_of_bind written
        obtain ⟨tid, named, sameRow⟩ := ok_of_bind isRow
        obtain ⟨few, rfl⟩ := intText_ok.mp named
        cases sameRow
        exact ⟨few, (Except.ok.inj same).symm⟩
      · rintro ⟨few, rfl⟩
        have isRow : observationToRow observation = _ := bind_of_ok (intText_ok.mpr ⟨few, rfl⟩)
        rw [bind_of_ok isRow]
        rfl

private theorem symbolOf_value (symbol : Symbol) : symbolOf symbol.value = .ok symbol := by
  unfold symbolOf
  rw [dif_pos symbol.nonBlank]

private theorem decimalOf_text (number : Decimal) : decimalOf number.text = .ok number := by
  unfold decimalOf
  rw [Decimal.ofText?_text]

private theorem marketOf_cells (writable : Writable observation) :
    marketOf ((fieldnamesFor type).zip (cells observation)) type = .ok observation.market := by
  cases type with
  | scalar metric => exact decimalOf_text _
  | liquidation =>
      let market : Liquidation := observation.market
      change (do
        let price ← decimalOf market.price.text
        let size ← decimalOf market.size.text
        let markPrice ← decimalOf market.markPrice.text
        let tid ← ofIntText (toString market.tid)
        return Liquidation.mk price size market.side market.direction market.method
          market.liquidatedUser markPrice tid) = _
      rw [bind_of_ok (decimalOf_text market.price), bind_of_ok (decimalOf_text market.size),
        bind_of_ok (decimalOf_text market.markPrice), bind_of_ok (ofIntText_toString writable)]
      rfl

private theorem rowToObservation_cells (writable : Writable observation) :
    rowToObservation fromisoformat ((fieldnamesFor type).zip (cells observation)) type =
      Observation.checked fromisoformat observation := by
  have isMarket := marketOf_cells writable
  have texts : let row := (fieldnamesFor type).zip (cells observation)
      cell row "symbol" = .ok observation.symbol.value ∧
        cell row "observed_at_utc" = .ok observation.observedAtUtc ∧
        cell row "source" = .ok observation.source ∧
        cell row "source_detail" = .ok observation.sourceDetail ∧
        cell row "ingested_at_utc" = .ok observation.ingestedAtUtc := by
    cases type <;> exact ⟨rfl, rfl, rfl, rfl, rfl⟩
  obtain ⟨symbol, observedAtUtc, source, sourceDetail, ingestedAtUtc⟩ := texts
  unfold rowToObservation
  rw [bind_of_ok symbol, bind_of_ok (symbolOf_value observation.symbol), bind_of_ok observedAtUtc,
    bind_of_ok isMarket, bind_of_ok source, bind_of_ok sourceDetail, bind_of_ok ingestedAtUtc]

private theorem readObservation_cells {observation read : Observation type}
    (writable : Writable observation) (accepted : Accepted fromisoformat observation) :
    readObservation fromisoformat type (cells observation) = .ok read ↔
      Readable observation ∧ read = observation := by
  have isRead : Observation.checked fromisoformat observation = .ok observation :=
    bind_of_ok accepted
  have fits : (cells observation).all (fun text => text.length ≤ fieldSizeLimit) = true ↔
      Readable observation := by
    simp [Readable]
  unfold readObservation readRecord
  by_cases readable : Readable observation
  · rw [if_pos (fits.mpr readable)]
    change rowToObservation fromisoformat _ type = _ ↔ _
    rw [rowToObservation_cells writable, isRead]
    constructor
    · intro same
      exact ⟨readable, (Except.ok.inj same).symm⟩
    · rintro ⟨_, rfl⟩
      rfl
  · rw [if_neg fun all => readable (fits.mp all)]
    constructor
    · intro impossible
      cases impossible
    · intro both
      exact absurd both.1 readable

theorem writeFile_ok {rows : List (Observation type)} {file : CsvFile} :
    writeFile rows = .ok file ↔
      (∀ row ∈ rows, Writable row) ∧ file = fieldnamesFor type :: rows.map cells := by
  unfold writeFile
  constructor
  · intro written
    obtain ⟨records, isRecords, same⟩ := ok_of_bind written
    cases same
    have pairs := (forall₂_of_mapM isRecords).imp fun _ _ one => writeRow_ok.mp one
    refine ⟨fun row member => ?_, congrArg _ ?_⟩
    · obtain ⟨record, _, writable, _⟩ := exists_of_forall₂_left pairs member
      exact writable
    · have spelled := pairs.imp fun _ _ one => one.2.symm
      rw [← List.forall₂_map_left_iff, List.forall₂_eq_eq_eq] at spelled
      exact spelled.symm
  · rintro ⟨writable, rfl⟩
    refine bind_of_ok (mapM_ok.mpr ?_)
    rw [List.forall₂_map_right_iff, List.forall₂_same]
    exact fun row member => writeRow_ok.mpr ⟨writable row member, rfl⟩

theorem load_written {rows read : List (Observation type)}
    (writable : ∀ row ∈ rows, Writable row)
    (accepted : ∀ row ∈ rows, Accepted fromisoformat row) :
    load fromisoformat type (some (fieldnamesFor type :: rows.map cells)) = .ok read ↔
      (∀ row ∈ rows, Readable row) ∧ read = rows := by
  have header : readRecord (fieldnamesFor type) = .ok (fieldnamesFor type) := by
    cases type <;> rfl
  have records : ((rows.map cells).filter fun record => record ≠ []) = rows.map cells := by
    rw [List.filter_eq_self]
    intro record member
    obtain ⟨row, _, rfl⟩ := List.mem_map.mp member
    simp [cells]
  rw [load, bind_of_ok header, if_neg (fun different => different rfl), records, mapM_ok,
    List.forall₂_map_left_iff]
  constructor
  · intro pairs
    have each := forall₂_imp_mem pairs fun row member read one =>
      (readObservation_cells (writable row member) (accepted row member)).mp one
    refine ⟨fun row member => ?_, ?_⟩
    · obtain ⟨read, _, readable, _⟩ := exists_of_forall₂_left each member
      exact readable
    · have same := each.imp fun _ _ one => one.2.symm
      rw [List.forall₂_eq_eq_eq] at same
      exact same.symm
  · rintro ⟨readable, rfl⟩
    rw [List.forall₂_same]
    exact fun row member => (readObservation_cells (writable row member) (accepted row member)).mpr
      ⟨readable row member, rfl⟩

end TurtleExecution.HistoricalStorage

/-
What a mark update stores, and when a repeat stores nothing.

The request id of an update holds the time of the portfolio's last event, which the
update itself moves, and the heat, which depends on the unrealized profit that it sets.
-/

import TurtleExecution.AccountingSync.Runs

set_option autoImplicit false

namespace TurtleExecution.AccountingSync

open ExchangeAdapter SharedStore Process

section

variable {Number : Type} [LedgerArithmetic Number]

/-! ### What a call hands to the portfolio -/

def trackedAt (snapshots : Dict String (PositionManager.PositionSnapshot Number))
    (positionId : String) : Except SyncError (PositionManager.PositionSnapshot Number) :=
  match snapshots.get? positionId with
  | some position => .ok position
  | none => .error (.positions (.positionNotFound positionId))

def sumAt (marks : Symbol → Except CallError Number)
    (snapshots : Dict String (PositionManager.PositionSnapshot Number)) (totals : Totals Number) :
    List String → Except SyncError (Totals Number)
  | [] => .ok totals
  | positionId :: rest => do
      let position ← trackedAt snapshots positionId
      let empty ← (Arithmetic.le position.remainingQuantity Arithmetic.zero).mapError
        SyncError.arithmetic
      match empty, position.avgEntryPrice with
      | false, some avgEntryPrice => do
          let mark ← (marks position.symbol).mapError SyncError.call
          let totals ← (totals.addPosition position avgEntryPrice mark).mapError SyncError.arithmetic
          sumAt marks snapshots totals rest
      | _, _ => sumAt marks snapshots totals rest

/-- The sums of a call that finds the portfolio with this snapshot, unless it is skipped. -/
def totalsAt (marks : Symbol → Except CallError Number) (world : World Number)
    (snapshot : PortfolioManager.PortfolioSnapshot Number) : Except SyncError (Option (Totals Number)) := do
  let idle ← if world.openPids = [] then (unmarked snapshot).mapError SyncError.arithmetic
    else .ok false
  if idle then return none
  else do
    let totals ← sumAt marks world.positions.snapshots Totals.zero world.openPids
    return some totals

def heatAt (snapshot : PortfolioManager.PortfolioSnapshot Number) (totals : Totals Number) :
    Except SyncError Number := do
  let equity ← snapshot.equity.mapError SyncError.arithmetic
  (heatOf equity totals.openRisk).mapError SyncError.arithmetic

/-- The call hands these sums and this heat to a portfolio with this snapshot. -/
structure Hands (marks : Symbol → Except CallError Number) (world : World Number)
    (snapshot : PortfolioManager.PortfolioSnapshot Number) (totals : Totals Number) (heat : Number) :
    Prop where
  sums : totalsAt marks world snapshot = .ok (some totals)
  heated : heatAt snapshot totals = .ok heat

def World.lastEvent (setup : Setup Number) (world : World Number) : String :=
  world.portfolio.updatedAtUtc.getD setup.portfolioSinceUtc

def Totals.marks (totals : Totals Number) (heat : Number) : PortfolioManager.Marks Number :=
  { unrealizedPnl := totals.unrealizedPnl, exposure := totals.exposure, heat }

def marksRequestId (updatedAtUtc : String) (values : PortfolioManager.Marks Number) : String :=
  String.intercalate ":" (["marks", updatedAtUtc] ++
    [values.unrealizedPnl, values.exposure, values.heat].map LedgerArithmetic.text)

omit [LedgerArithmetic Number] in
private theorem positions_tracked (world : World Number) (positionId : String) :
    (positions (PositionManager.trackedPosition positionId) :
        Operation Number (PositionManager.PositionSnapshot Number)) world =
      (Process.ofExcept (trackedAt world.positions.snapshots positionId) :
        Operation Number _) world := by
  unfold positions focus trackedAt
  cases tracked : world.positions.snapshots.get? positionId with
  | some position =>
      have ran : PositionManager.trackedPosition positionId world.positionsHost =
          (.returned position, world.positionsHost) := PositionManager.trackedPosition_run tracked
      rw [ran]
      rfl
  | none =>
      have ran : (PositionManager.trackedPosition positionId :
          PositionManager.Operation (Stored Number) Number _) world.positionsHost =
            (.raised (.positionNotFound positionId), world.positionsHost) := by
        have absent : world.positionsHost.memory.snapshots.get? positionId = none := tracked
        unfold PositionManager.trackedPosition
        rw [bind_returned (PositionManager.memory_run world.positionsHost), absent]
        rfl
      rw [ran]
      rfl

omit [LedgerArithmetic Number] in
private theorem bind_asExcept {Value Next : Type} {operation : Operation Number Value}
    {result : Except SyncError Value} {next : Value → Operation Number Next}
    {rest : Value → Except SyncError Next} {world : World Number}
    (first : operation world = (Process.ofExcept result : Operation Number Value) world)
    (second : ∀ value, next value world = (Process.ofExcept (rest value) : Operation Number Next) world) :
    (operation >>= next) world = (Process.ofExcept (result >>= rest) : Operation Number Next) world := by
  change Process.bind operation next world = _
  unfold Process.bind
  rw [first]
  cases result with
  | error error => rfl
  | ok value => exact second value

private theorem sumPositions_eq (marks : Symbol → Except CallError Number) (world : World Number)
    (totals : Totals Number) (positionIds : List String) :
    sumPositions marks totals positionIds world =
      (Process.ofExcept (sumAt marks world.positions.snapshots totals positionIds) :
        Operation Number (Totals Number)) world := by
  induction positionIds generalizing totals with
  | nil => rfl
  | cons positionId rest ih =>
      unfold sumPositions sumAt
      refine bind_asExcept (positions_tracked world positionId) fun position =>
        bind_asExcept rfl fun empty => ?_
      cases empty with
      | true => exact ih totals
      | false =>
          cases position.avgEntryPrice with
          | none => exact ih totals
          | some avgEntryPrice =>
              exact bind_asExcept rfl fun mark => bind_asExcept rfl fun totals => ih totals

private theorem markTotals_eq (marks : Symbol → Except CallError Number) (world : World Number) :
    markTotals marks world = (Process.ofExcept (totalsAt marks world world.portfolio.snapshot) :
      Operation Number (Option (Totals Number))) world := by
  have summed : ∀ idle : Bool,
      (if idle = true then pure none
      else do
        let totals ← sumPositions marks Totals.zero world.openPids
        return some totals : Operation Number (Option (Totals Number))) world =
      (Process.ofExcept (if idle = true then pure none
      else do
        let totals ← sumAt marks world.positions.snapshots Totals.zero world.openPids
        return some totals) : Operation Number (Option (Totals Number))) world := by
    intro idle
    cases idle with
    | true => rfl
    | false => exact bind_asExcept (sumPositions_eq marks world _ _) fun totals => rfl
  unfold markTotals totalsAt
  have gets : (Process.get : Operation Number (World Number)) world = (.returned world, world) := rfl
  rw [bind_returned gets]
  dsimp only
  split
  · exact bind_asExcept rfl summed
  · exact bind_asExcept rfl summed

private theorem skipped_of_totalsAt {marks : Symbol → Except CallError Number} {world : World Number}
    {snapshot : PortfolioManager.PortfolioSnapshot Number}
    (none : totalsAt marks world snapshot = .ok none) :
    world.openPids = [] ∧ unmarked snapshot = .ok true := by
  have summed : ∀ idle : Bool, (if idle = true then pure Option.none
      else do
        let totals ← sumAt marks world.positions.snapshots Totals.zero world.openPids
        return some totals : Except SyncError (Option (Totals Number))) = .ok Option.none →
      idle = true := by
    intro idle skips
    cases idle with
    | true => rfl
    | false =>
        cases sums : sumAt marks world.positions.snapshots Totals.zero world.openPids with
        | error error =>
            rw [sums] at skips
            cases skips
        | ok totals =>
            rw [sums] at skips
            cases skips
  unfold totalsAt at none
  dsimp only at none
  split at none
  · rename_i noneOpen
    cases zero : unmarked snapshot with
    | error error =>
        rw [zero] at none
        cases none
    | ok idle =>
        rw [zero] at none
        rw [summed idle none]
        exact ⟨noneOpen, rfl⟩
  · cases summed false none

/-- How a call ends: it raises before it hands anything over, it is skipped, or it hands
its values to the portfolio manager. -/
inductive Updated (setup : Setup Number) (marks : Symbol → Except CallError Number)
    (world : World Number) : Outcome SyncError Unit × World Number → Prop
  | failed (error : SyncError)
      (nothing : ∀ totals heat, ¬ Hands marks world world.portfolio.snapshot totals heat) :
      Updated setup marks world (.raised error, world)
  | skipped (nothing : ∀ totals heat, ¬ Hands marks world world.portfolio.snapshot totals heat)
      (noneOpen : world.openPids = []) (zero : unmarked world.portfolio.snapshot = .ok true) :
      Updated setup marks world (.returned (), world)
  | handed (totals : Totals Number) (heat : Number)
      (hands : Hands marks world world.portfolio.snapshot totals heat) :
      Updated setup marks world
        ((portfolio (PortfolioManager.updateMarks setup.portfolioId totals.unrealizedPnl
          totals.exposure heat (marksRequestId (world.lastEvent setup) (totals.marks heat))) >>=
            fun _ => pure ()) world)

theorem updateMarks_updated (setup : Setup Number) (marks : Symbol → Except CallError Number)
    (world : World Number) : Updated setup marks world (updateMarks setup marks world) := by
  unfold updateMarks
  have summed := markTotals_eq marks world
  cases sums : totalsAt marks world world.portfolio.snapshot with
  | error error =>
      rw [sums] at summed
      rw [bind_raised summed]
      refine .failed error fun totals heat hands => ?_
      rw [hands.sums] at sums
      cases sums
  | ok totals =>
      rw [sums] at summed
      rw [bind_returned summed]
      cases totals with
      | none =>
          obtain ⟨noneOpen, zero⟩ := skipped_of_totalsAt sums
          refine .skipped (fun totals heat hands => ?_) noneOpen zero
          rw [hands.sums] at sums
          cases sums
      | some totals =>
          have gets : (Process.get : Operation Number (World Number)) world =
            (.returned world, world) := rfl
          dsimp only
          rw [bind_returned gets]
          have failed : ∀ error, heatAt world.portfolio.snapshot totals = .error error →
              ∀ others heat, ¬ Hands marks world world.portfolio.snapshot others heat := by
            intro error fails others heat hands
            have same := hands.sums
            rw [sums] at same
            cases same
            rw [hands.heated] at fails
            cases fails
          cases computed : world.portfolio.snapshot.equity with
          | error error =>
              have fails : heatAt world.portfolio.snapshot totals = .error (.arithmetic error) := by
                unfold heatAt
                rw [computed]
                rfl
              exact .failed _ (failed _ fails)
          | ok equity =>
              have rest : heatAt world.portfolio.snapshot totals =
                  (heatOf equity totals.openRisk).mapError SyncError.arithmetic := by
                unfold heatAt
                rw [computed]
                rfl
              cases divided : heatOf equity totals.openRisk with
              | error error =>
                  rw [divided] at rest
                  change Updated _ _ _ (((compute (heatOf equity totals.openRisk)) >>= _) world)
                  rw [divided]
                  exact .failed _ (failed _ rest)
              | ok heat =>
                  rw [divided] at rest
                  change Updated _ _ _ (((compute (heatOf equity totals.openRisk)) >>= _) world)
                  rw [divided]
                  exact .handed totals heat { sums, heated := rest }

/-! ### What the open positions amount to -/

structure Holding (Number : Type) where
  position : PositionManager.PositionSnapshot Number
  avgEntryPrice : Number
  mark : Number

def Holding.unrealizedPnl (holding : Holding Number) : Except ArithmeticError Number := do
  let difference ← Arithmetic.sub holding.mark holding.avgEntryPrice
  let perUnit ← directed holding.position.side difference
  Arithmetic.mul perUnit holding.position.remainingQuantity

def Holding.exposure (holding : Holding Number) : Except ArithmeticError Number :=
  Arithmetic.mul holding.position.remainingQuantity holding.mark

def Holding.openRisk (holding : Holding Number) : Except ArithmeticError Number :=
  Arithmetic.mul holding.position.remainingQuantity holding.position.stopD

def holdingAt (marks : Symbol → Except CallError Number)
    (snapshots : Dict String (PositionManager.PositionSnapshot Number)) (positionId : String) :
    Except SyncError (Option (Holding Number)) := do
  let position ← trackedAt snapshots positionId
  let empty ← (Arithmetic.le position.remainingQuantity Arithmetic.zero).mapError
    SyncError.arithmetic
  match empty, position.avgEntryPrice with
  | false, some avgEntryPrice => do
      let mark ← (marks position.symbol).mapError SyncError.call
      return some { position, avgEntryPrice, mark }
  | _, _ => return none

def holdingsAt (marks : Symbol → Except CallError Number)
    (snapshots : Dict String (PositionManager.PositionSnapshot Number)) :
    List String → Except SyncError (List (Holding Number))
  | [] => return []
  | positionId :: rest => do
      let holding ← holdingAt marks snapshots positionId
      let holdings ← holdingsAt marks snapshots rest
      return holding.toList ++ holdings

def total (amount : Holding Number → Except ArithmeticError Number) (sum : Number)
    (holdings : List (Holding Number)) : Except ArithmeticError Number :=
  holdings.foldlM (fun sum holding => amount holding >>= Arithmetic.add sum) sum

/-- The values of the open positions at these marks, with the heat over the equity of the
portfolio's snapshot. -/
def valuesAt (marks : Symbol → Except CallError Number) (world : World Number)
    (snapshot : PortfolioManager.PortfolioSnapshot Number) :
    Except SyncError (PortfolioManager.Marks Number) := do
  let holdings ← holdingsAt marks world.positions.snapshots world.openPids
  let amount := fun of : Holding Number → Except ArithmeticError Number =>
    (total of Arithmetic.zero holdings).mapError SyncError.arithmetic
  let unrealizedPnl ← amount Holding.unrealizedPnl
  let exposure ← amount Holding.exposure
  let openRisk ← amount Holding.openRisk
  let equity ← snapshot.equity.mapError SyncError.arithmetic
  let heat ← (heatOf equity openRisk).mapError SyncError.arithmetic
  return { unrealizedPnl, exposure, heat }

/-- No position is open, and the marks are zero or cannot be compared with it. -/
def NothingToMark (world : World Number) (snapshot : PortfolioManager.PortfolioSnapshot Number) :
    Prop :=
  world.openPids = [] ∧ unmarked snapshot ≠ .ok false

private theorem sumAt_cons_eq (marks : Symbol → Except CallError Number)
    (snapshots : Dict String (PositionManager.PositionSnapshot Number)) (totals : Totals Number)
    (positionId : String) (rest : List String) :
    sumAt marks snapshots totals (positionId :: rest) =
      holdingAt marks snapshots positionId >>= fun holding? =>
        match holding? with
        | none => sumAt marks snapshots totals rest
        | some holding =>
            (totals.addPosition holding.position holding.avgEntryPrice holding.mark).mapError
              SyncError.arithmetic >>= fun totals => sumAt marks snapshots totals rest := by
  conv_lhs => unfold sumAt
  unfold holdingAt
  cases trackedAt snapshots positionId with
  | error error => rfl
  | ok position =>
      cases empty : (Arithmetic.le position.remainingQuantity Arithmetic.zero :
          Except ArithmeticError Bool) with
      | error error => simp [Bind.bind, Except.bind, Except.mapError, empty]
      | ok isEmpty =>
          cases isEmpty <;> cases priced : position.avgEntryPrice <;>
            simp [Bind.bind, Except.bind, Except.mapError, empty, priced, Pure.pure, Except.pure]
          cases marks position.symbol <;> rfl

private theorem addPosition_iff {totals next : Totals Number} {holding : Holding Number} :
    totals.addPosition holding.position holding.avgEntryPrice holding.mark = .ok next ↔
      (holding.unrealizedPnl >>= Arithmetic.add totals.unrealizedPnl) = .ok next.unrealizedPnl ∧
        (holding.exposure >>= Arithmetic.add totals.exposure) = .ok next.exposure ∧
        (holding.openRisk >>= Arithmetic.add totals.openRisk) = .ok next.openRisk := by
  unfold Totals.addPosition Holding.unrealizedPnl Holding.exposure Holding.openRisk
  constructor
  · intro added
    obtain ⟨difference, isDifference, added⟩ := ok_of_bind added
    obtain ⟨perUnit, isPerUnit, added⟩ := ok_of_bind added
    obtain ⟨profit, isProfit, added⟩ := ok_of_bind added
    obtain ⟨unrealizedPnl, isUnrealizedPnl, added⟩ := ok_of_bind added
    obtain ⟨held, isHeld, added⟩ := ok_of_bind added
    obtain ⟨exposure, isExposure, added⟩ := ok_of_bind added
    obtain ⟨risk, isRisk, added⟩ := ok_of_bind added
    obtain ⟨openRisk, isOpenRisk, same⟩ := ok_of_bind added
    cases same
    refine ⟨?_, (bind_of_ok isHeld).trans isExposure, (bind_of_ok isRisk).trans isOpenRisk⟩
    rw [bind_of_ok isDifference, bind_of_ok isPerUnit]
    exact (bind_of_ok isProfit).trans isUnrealizedPnl
  · rintro ⟨profits, exposures, risks⟩
    obtain ⟨profit, isProfit, isUnrealizedPnl⟩ := ok_of_bind profits
    obtain ⟨difference, isDifference, isProfit⟩ := ok_of_bind isProfit
    obtain ⟨perUnit, isPerUnit, isProfit⟩ := ok_of_bind isProfit
    obtain ⟨held, isHeld, isExposure⟩ := ok_of_bind exposures
    obtain ⟨risk, isRisk, isOpenRisk⟩ := ok_of_bind risks
    rw [bind_of_ok isDifference, bind_of_ok isPerUnit, bind_of_ok isProfit,
      bind_of_ok isUnrealizedPnl, bind_of_ok isHeld, bind_of_ok isExposure, bind_of_ok isRisk,
      bind_of_ok isOpenRisk]
    rfl

private theorem total_cons (amount : Holding Number → Except ArithmeticError Number)
    (sum : Number) (holding : Holding Number) (holdings : List (Holding Number)) :
    total amount sum (holding :: holdings) =
      (amount holding >>= Arithmetic.add sum) >>= fun sum => total amount sum holdings :=
  List.foldlM_cons

omit [LedgerArithmetic Number] in
private theorem ok_bind_iff {Value Next : Type} {result : Except SyncError Value}
    {next : Value → Except SyncError Next} {final : Next} :
    (result >>= next) = .ok final ↔ ∃ value, result = .ok value ∧ next value = .ok final := by
  constructor
  · exact ok_of_bind
  · rintro ⟨value, isValue, isFinal⟩
    rw [bind_of_ok isValue]
    exact isFinal

/-- The loop sums what the holdings amount to, one after the other. -/
private theorem sumAt_iff {marks : Symbol → Except CallError Number}
    {snapshots : Dict String (PositionManager.PositionSnapshot Number)} {positionIds : List String}
    {totals result : Totals Number} :
    sumAt marks snapshots totals positionIds = .ok result ↔
      ∃ holdings, holdingsAt marks snapshots positionIds = .ok holdings ∧
        total Holding.unrealizedPnl totals.unrealizedPnl holdings = .ok result.unrealizedPnl ∧
        total Holding.exposure totals.exposure holdings = .ok result.exposure ∧
        total Holding.openRisk totals.openRisk holdings = .ok result.openRisk := by
  induction positionIds generalizing totals with
  | nil =>
      constructor
      · intro summed
        cases summed
        exact ⟨[], rfl, rfl, rfl, rfl⟩
      · rintro ⟨holdings, isNil, profits, exposures, risks⟩
        cases isNil
        cases totals
        cases result
        cases profits
        cases exposures
        cases risks
        rfl
  | cons positionId rest ih =>
      rw [sumAt_cons_eq, ok_bind_iff]
      simp only [holdingsAt, ok_bind_iff]
      constructor
      · rintro ⟨holding?, found, summed⟩
        cases holding? with
        | none =>
            obtain ⟨holdings, among, sums⟩ := ih.mp summed
            exact ⟨holdings, ⟨none, found, holdings, among, rfl⟩, sums⟩
        | some holding =>
            obtain ⟨next, added, summed⟩ := ok_bind_iff.mp summed
            obtain ⟨profit, exposure, risk⟩ := addPosition_iff.mp (ok_of_mapError added)
            obtain ⟨holdings, among, sums⟩ := ih.mp summed
            refine ⟨holding :: holdings, ⟨some holding, found, holdings, among, rfl⟩, ?_⟩
            rw [total_cons, total_cons, total_cons, bind_of_ok profit, bind_of_ok exposure,
              bind_of_ok risk]
            exact sums
      · rintro ⟨_, ⟨holding?, found, holdings, among, same⟩, sums⟩
        cases same
        refine ⟨holding?, found, ?_⟩
        cases holding? with
        | none => exact ih.mpr ⟨holdings, among, sums⟩
        | some holding =>
            change total _ _ (holding :: holdings) = _ ∧ total _ _ (holding :: holdings) = _ ∧
              total _ _ (holding :: holdings) = _ at sums
            rw [total_cons, total_cons, total_cons] at sums
            obtain ⟨profits, exposures, risks⟩ := sums
            obtain ⟨unrealizedPnl, profit, profits⟩ := ok_of_bind profits
            obtain ⟨exposure, held, exposures⟩ := ok_of_bind exposures
            obtain ⟨openRisk, risk, risks⟩ := ok_of_bind risks
            have added : totals.addPosition holding.position holding.avgEntryPrice holding.mark =
                .ok { unrealizedPnl, exposure, openRisk } := addPosition_iff.mpr ⟨profit, held, risk⟩
            dsimp only
            rw [added]
            exact ih.mpr ⟨holdings, among, profits, exposures, risks⟩

section

variable {marks : Symbol → Except CallError Number} {world : World Number}
  {snapshot : PortfolioManager.PortfolioSnapshot Number} {totals : Totals Number} {heat : Number}

theorem totalsAt_iff :
    totalsAt marks world snapshot = .ok (some totals) ↔
      ¬ NothingToMark world snapshot ∧
        sumAt marks world.positions.snapshots Totals.zero world.openPids = .ok totals := by
  have summed : (do
      let totals ← sumAt marks world.positions.snapshots Totals.zero world.openPids
      return some totals : Except SyncError (Option (Totals Number))) = .ok (some totals) ↔
        sumAt marks world.positions.snapshots Totals.zero world.openPids = .ok totals := by
    rw [ok_bind_iff]
    constructor
    · rintro ⟨result, isResult, same⟩
      cases same
      exact isResult
    · exact fun isTotals => ⟨totals, isTotals, rfl⟩
  unfold totalsAt NothingToMark
  by_cases noneOpen : world.openPids = []
  · rw [if_pos noneOpen]
    cases zero : unmarked snapshot with
    | error error =>
        constructor
        · intro impossible
          cases impossible
        · exact fun marked => absurd ⟨noneOpen, fun same => nomatch same⟩ marked.1
    | ok idle =>
        cases idle with
        | true =>
            constructor
            · intro impossible
              cases impossible
            · exact fun marked => absurd ⟨noneOpen, by decide⟩ marked.1
        | false =>
            refine summed.trans (iff_and_self.mpr fun _ nothing => nothing.2 rfl)
  · rw [if_neg noneOpen]
    exact summed.trans (iff_and_self.mpr fun _ nothing => noneOpen nothing.1)

theorem Hands.valuesAt (hands : Hands marks world snapshot totals heat) :
    valuesAt marks world snapshot = .ok (totals.marks heat) := by
  obtain ⟨holdings, among, profits, exposures, risks⟩ := sumAt_iff.mp (totalsAt_iff.mp hands.sums).2
  obtain ⟨equity, isEquity, isHeat⟩ := ok_of_bind hands.heated
  have profits : total Holding.unrealizedPnl Arithmetic.zero holdings = _ := profits
  have exposures : total Holding.exposure Arithmetic.zero holdings = _ := exposures
  have risks : total Holding.openRisk Arithmetic.zero holdings = _ := risks
  unfold AccountingSync.valuesAt
  rw [bind_of_ok among]
  dsimp only
  rw [profits, exposures, risks]
  change (snapshot.equity.mapError SyncError.arithmetic >>= fun equity =>
    (heatOf equity totals.openRisk).mapError SyncError.arithmetic >>= _) = _
  rw [bind_of_ok isEquity, bind_of_ok isHeat]
  rfl

theorem hands_of_valuesAt {values : PortfolioManager.Marks Number}
    (valued : valuesAt marks world snapshot = .ok values) (open? : ¬ NothingToMark world snapshot) :
    ∃ totals heat, Hands marks world snapshot totals heat ∧ totals.marks heat = values := by
  obtain ⟨holdings, among, valued⟩ := ok_of_bind valued
  obtain ⟨unrealizedPnl, profits, valued⟩ := ok_of_bind valued
  obtain ⟨exposure, exposures, valued⟩ := ok_of_bind valued
  obtain ⟨openRisk, risks, valued⟩ := ok_of_bind valued
  obtain ⟨equity, isEquity, valued⟩ := ok_of_bind valued
  obtain ⟨heat, isHeat, same⟩ := ok_of_bind valued
  cases same
  have sums : sumAt marks world.positions.snapshots Totals.zero world.openPids =
      .ok { unrealizedPnl, exposure, openRisk } :=
    sumAt_iff.mpr ⟨holdings, among, ok_of_mapError profits, ok_of_mapError exposures,
      ok_of_mapError risks⟩
  refine ⟨{ unrealizedPnl, exposure, openRisk }, heat,
    { sums := totalsAt_iff.mpr ⟨open?, sums⟩, heated := ?_ }, rfl⟩
  unfold heatAt
  rw [bind_of_ok isEquity]
  exact isHeat

end

/-! ### What the portfolio manager does with them -/

structure Shows (memory : PortfolioManager.Memory Number) (totals : Totals Number) (heat : Number) :
    Prop where
  unrealizedPnl : memory.unrealizedPnl = totals.unrealizedPnl
  exposure : memory.exposure = totals.exposure
  heat : memory.heat = heat

def MarksStored (portfolioId : String) (log : Log (Stored Number)) (requestId : String) : Prop :=
  PortfolioManager.InLog portfolioId log (.updateMarks requestId)

private theorem updateMarks_recorded {pmId : String}
    {host : Host (Stored Number) (PortfolioManager.Memory Number)}
    (ready : PortfolioManager.Ready pmId host) {requestId : String}
    (absent : ¬ MarksStored pmId host.log requestId) (unrealizedPnl exposure heat : Number) :
    Journal.Recorded (PortfolioManager.journal pmId)
      { pmId, entry := .updateMarks unrealizedPnl exposure heat }
      (PortfolioManager.MutationKey.updateMarks requestId).text host
      (PortfolioManager.updateMarks pmId unrealizedPnl exposure heat requestId host) := by
  have ran : PortfolioManager.updateMarks pmId unrealizedPnl exposure heat requestId host =
      (PortfolioManager.journal pmId).record
        { pmId, entry := .updateMarks unrealizedPnl exposure heat }
        (PortfolioManager.MutationKey.updateMarks requestId).text host :=
    PortfolioManager.mutate_of_not_inLog ready absent _ _
  rw [ran]
  exact Journal.Faithful.recorded (PortfolioManager.journal_laws pmId) ready _ _

def World.marked (world : World Number) (totals : Totals Number) (heat : Number) (now : String)
    (log : Log (Stored Number)) (eventId : Nat) : World Number :=
  { world with
    orders := { world.orders with log, clock := world.orders.clock + 1 }
    portfolio :=
      { world.portfolio with
        appliedEventIds := world.portfolio.appliedEventIds ++ [eventId]
        unrealizedPnl := totals.unrealizedPnl
        exposure := totals.exposure
        heat
        updatedAtUtc := some now } }

section

variable {setup : Setup Number} {marks : Symbol → Except CallError Number} {world : World Number}
  {totals : Totals Number} {heat : Number}

theorem Hands.unique {snapshot : PortfolioManager.PortfolioSnapshot Number} {others : Totals Number}
    {other : Number} (hands : Hands marks world snapshot totals heat)
    (also : Hands marks world snapshot others other) : totals = others ∧ heat = other := by
  have sums := hands.sums
  rw [also.sums] at sums
  cases sums
  have heated := hands.heated
  rw [also.heated] at heated
  cases heated
  exact ⟨rfl, rfl⟩

def World.now (world : World Number) : String :=
  (world.orders.environment world.orders.clock).now

private theorem updateMarks_of_hands
    (hands : Hands marks world world.portfolio.snapshot totals heat) :
    updateMarks setup marks world =
      (portfolio (PortfolioManager.updateMarks setup.portfolioId totals.unrealizedPnl
        totals.exposure heat (marksRequestId (world.lastEvent setup) (totals.marks heat))) >>=
          fun _ => pure ()) world := by
  have updated := updateMarks_updated setup marks world
  generalize updateMarks setup marks world = ran at updated
  cases updated with
  | failed error nothing => exact absurd hands (nothing totals heat)
  | skipped nothing => exact absurd hands (nothing totals heat)
  | handed others other also =>
      obtain ⟨rfl, rfl⟩ := hands.unique also
      rfl

private theorem updateMarks_of_stored (ready : PortfolioReady setup.portfolioId world)
    (hands : Hands marks world world.portfolio.snapshot totals heat)
    (stored : MarksStored setup.portfolioId world.log
      (marksRequestId (world.lastEvent setup) (totals.marks heat))) :
    updateMarks setup marks world = (.returned (), world) := by
  rw [updateMarks_of_hands hands]
  obtain ⟨snapshot, ran⟩ := PortfolioManager.mutate_of_inLog
    (show PortfolioManager.Ready setup.portfolioId world.portfolioHost from ready.sound) stored
    (.updateMarks totals.unrealizedPnl totals.exposure heat) fun _ => .ok ()
  have returned : (portfolio (PortfolioManager.updateMarks setup.portfolioId totals.unrealizedPnl
      totals.exposure heat (marksRequestId (world.lastEvent setup) (totals.marks heat))) :
        Operation Number _) world = (.returned snapshot, world) := by
    unfold portfolio focus PortfolioManager.updateMarks
    rw [ran]
    rfl
  rw [bind_returned returned]
  rfl

private theorem updateMarks_of_not_stored (ready : PortfolioReady setup.portfolioId world)
    (hands : Hands marks world world.portfolio.snapshot totals heat)
    (absent : ¬ MarksStored setup.portfolioId world.log
      (marksRequestId (world.lastEvent setup) (totals.marks heat))) {after : World Number}
    (returned : updateMarks setup marks world = (.returned (), after)) :
    ∃ (event : Event (Stored Number)) (log : Log (Stored Number)),
      log.entries = world.log.entries ++ [event] ∧
      event.idempotencyKey = some (PortfolioManager.namespacedKey setup.portfolioId
        (PortfolioManager.MutationKey.updateMarks
          (marksRequestId (world.lastEvent setup) (totals.marks heat))).text) ∧
      after = world.marked totals heat world.now log event.eventId := by
  rw [updateMarks_of_hands hands] at returned
  have recorded := updateMarks_recorded
    (show PortfolioManager.Ready setup.portfolioId world.portfolioHost from ready.sound) absent
    totals.unrealizedPnl totals.exposure heat
  change Process.bind (portfolio _) _ world = _ at returned
  unfold Process.bind portfolio focus at returned
  generalize PortfolioManager.updateMarks setup.portfolioId totals.unrealizedPnl totals.exposure
    heat (marksRequestId (world.lastEvent setup) (totals.marks heat)) world.portfolioHost = ran
    at recorded returned
  cases recorded with
  | crashed dies => cases returned
  | failed lives failure fails => cases returned
  | repeated lives appends event known =>
      exact absurd (PortfolioManager.inLog_of_getByIdempotencyKey known) absent
  | added lives appends unknown log entries =>
      let payload : PortfolioManager.Payload Number :=
        { pmId := setup.portfolioId,
          entry := .updateMarks totals.unrealizedPnl totals.exposure heat }
      let key := PortfolioManager.MutationKey.updateMarks
        (marksRequestId (world.lastEvent setup) (totals.marks heat))
      have fresh := Journal.Faithful.newEvent_fresh
        (show PortfolioManager.Ready setup.portfolioId world.portfolioHost from ready.sound) payload key.text
      have keyed : ((PortfolioManager.journal setup.portfolioId).newEvent payload key.text
          world.portfolioHost).idempotencyKey =
            some (PortfolioManager.namespacedKey setup.portfolioId key.text) := rfl
      have timed : ((PortfolioManager.journal setup.portfolioId).newEvent payload key.text
          world.portfolioHost).timestampUtc = world.now := rfl
      generalize (PortfolioManager.journal setup.portfolioId).newEvent payload key.text
        world.portfolioHost = event at fresh keyed timed entries returned
      generalize applied : (PortfolioManager.journal setup.portfolioId).apply
        world.portfolioHost.memory event payload = pair at returned
      obtain ⟨result, memory⟩ := pair
      cases result with
      | error error => cases returned
      | ok snapshot =>
          have marked := PortfolioManager.applyEvent_updateMarks fresh applied
          rw [timed] at marked
          cases returned
          refine ⟨event, log, entries, keyed, ?_⟩
          rw [marked]
          rfl

omit [LedgerArithmetic Number] in
private theorem portfolio_log {Value : Type}
    (operation : PortfolioManager.Operation (Stored Number) Number Value) (world : World Number) :
    ((portfolio operation >>= fun _ => pure () : Operation Number Unit) world).2.log =
      (operation world.portfolioHost).2.log := by
  change (Process.bind (portfolio operation) _ world).2.log = _
  unfold Process.bind portfolio focus
  rcases operation world.portfolioHost with ⟨outcome, part⟩
  cases outcome <;> rfl

private theorem updateMarks_appends (ready : PortfolioReady setup.portfolioId world)
    (quiet : Quiet world.portfolioHost.environment)
    (hands : Hands marks world world.portfolio.snapshot totals heat)
    (absent : ¬ MarksStored setup.portfolioId world.log
      (marksRequestId (world.lastEvent setup) (totals.marks heat))) :
    (updateMarks setup marks world).2.log ≠ world.log := by
  rw [updateMarks_of_hands hands, portfolio_log]
  have recorded := updateMarks_recorded
    (show PortfolioManager.Ready setup.portfolioId world.portfolioHost from ready.sound) absent
    totals.unrealizedPnl totals.exposure heat
  generalize PortfolioManager.updateMarks setup.portfolioId totals.unrealizedPnl totals.exposure
    heat (marksRequestId (world.lastEvent setup) (totals.marks heat)) world.portfolioHost = ran at recorded ⊢
  cases recorded with
  | crashed dies =>
      rw [(quiet _).1] at dies
      cases dies
  | failed lives failure fails =>
      rw [(quiet _).2] at fails
      cases fails
  | repeated lives appends event known =>
      exact absurd (PortfolioManager.inLog_of_getByIdempotencyKey known) absent
  | added lives appends unknown log entries =>
      change log ≠ world.log
      rintro rfl
      have lengths := congrArg List.length entries
      rw [List.length_append, List.length_singleton] at lengths
      exact Nat.succ_ne_self _ lengths.symm

/-! ### Repeats -/

def World.answering (world : World Number) (environment : Nat → OrderManager.Answer Number) :
    World Number :=
  { world with orders := { world.orders with environment } }

/-- A call with these marks appends nothing, whatever the store answers. -/
def AppendsNothing (setup : Setup Number) (marks : Symbol → Except CallError Number)
    (world : World Number) : Prop :=
  ∀ environment, (updateMarks setup marks (world.answering environment)).2.log = world.log

def steadyAnswer : OrderManager.Answer Number :=
  { crash := false
    now := ""
    appendFailure := none
    order := .error (.other "")
    orders := .ok []
    found := .ok none }

private theorem appendsNothing_iff (ready : PortfolioReady setup.portfolioId world) :
    AppendsNothing setup marks world ↔
      ∀ totals heat, Hands marks world world.portfolio.snapshot totals heat →
        MarksStored setup.portfolioId world.log
          (marksRequestId (world.lastEvent setup) (totals.marks heat)) := by
  constructor
  · intro nothing totals heat hands
    by_contra absent
    let answered := world.answering fun _ => steadyAnswer
    have quiet : Quiet answered.portfolioHost.environment := fun _ => ⟨rfl, rfl⟩
    have readyThere : PortfolioReady setup.portfolioId answered := ready
    have handsThere : Hands marks answered answered.portfolio.snapshot totals heat :=
      { sums := hands.sums, heated := hands.heated }
    exact updateMarks_appends readyThere quiet handsThere absent (nothing _)
  · intro stored environment
    let answered := world.answering environment
    have readyThere : PortfolioReady setup.portfolioId answered := ready
    change (updateMarks setup marks answered).2.log = answered.log
    have updated := updateMarks_updated setup marks answered
    generalize ran : updateMarks setup marks answered = ended at updated
    cases updated with
    | failed error nothing => rfl
    | skipped => rfl
    | handed totals heat hands =>
        rw [← updateMarks_of_hands hands, updateMarks_of_stored readyThere hands]
        exact stored totals heat { sums := hands.sums, heated := hands.heated }

/-- The values of the call are shown, zero ones where it was skipped. -/
structure ShowsCall (marks : Symbol → Except CallError Number) (world after : World Number) : Prop where
  handed : ∀ totals heat, Hands marks world world.portfolio.snapshot totals heat →
    Shows after.portfolio totals heat
  skipped : (∀ totals heat, ¬ Hands marks world world.portfolio.snapshot totals heat) →
    world.openPids = [] ∧ unmarked after.portfolio.snapshot = .ok true

def World.markedSnapshot (world : World Number) (values : PortfolioManager.Marks Number) :
    PortfolioManager.PortfolioSnapshot Number :=
  { world.portfolio.snapshot with
    unrealizedPnl := values.unrealizedPnl
    exposure := values.exposure
    heat := values.heat
    updatedAtUtc := some world.now }

/-- An update to these values is stored that was made when this was the time of the
portfolio's last event. -/
def UpdatedAt (portfolioId : String) (log : Log (Stored Number)) (updatedAtUtc : String)
    (values : PortfolioManager.Marks Number) : Prop :=
  MarksStored portfolioId log (marksRequestId updatedAtUtc values)

/-- Where the update was made before at this time, no update to other values followed it.
Where it is new, it leaves nothing to mark; or the clock has stood still since the
portfolio's last event and the new equity gives the same heat; or the update that a repeat
makes was made before as well. -/
structure Undisturbed (setup : Setup Number) (marks : Symbol → Except CallError Number)
    (world : World Number) (values : PortfolioManager.Marks Number) : Prop where
  made : UpdatedAt setup.portfolioId world.log (world.lastEvent setup) values →
    PortfolioManager.lastMarks setup.portfolioId world.log = values
  new : ¬ UpdatedAt setup.portfolioId world.log (world.lastEvent setup) values →
    NothingToMark world (world.markedSnapshot values) ∨
      ∀ again, valuesAt marks world (world.markedSnapshot values) = .ok again →
        (world.now = world.lastEvent setup ∧
            LedgerArithmetic.text again.heat = LedgerArithmetic.text values.heat) ∨
          UpdatedAt setup.portfolioId world.log world.now again

private theorem marksRequestId_eq (updatedAtUtc : String) (values : PortfolioManager.Marks Number) :
    marksRequestId updatedAtUtc values =
      "marks:" ++ (updatedAtUtc ++ (":" ++ LedgerArithmetic.text values.unrealizedPnl ++ ":" ++
        LedgerArithmetic.text values.exposure)) ++ ":" ++ LedgerArithmetic.text values.heat := by
  have joined : marksRequestId updatedAtUtc values =
      "marks" ++ ":" ++ updatedAtUtc ++ ":" ++ LedgerArithmetic.text values.unrealizedPnl ++ ":" ++
        LedgerArithmetic.text values.exposure ++ ":" ++ LedgerArithmetic.text values.heat := rfl
  rw [joined]
  simp only [String.append_assoc]
  rfl

private theorem marksRequestId_eq_iff [LawfulText Number] {updatedAtUtc otherUtc : String}
    {values others : PortfolioManager.Marks Number}
    (unrealizedPnl : values.unrealizedPnl = others.unrealizedPnl)
    (exposure : values.exposure = others.exposure) :
    marksRequestId updatedAtUtc values = marksRequestId otherUtc others ↔
      updatedAtUtc = otherUtc ∧
        LedgerArithmetic.text values.heat = LedgerArithmetic.text others.heat := by
  rw [marksRequestId_eq, marksRequestId_eq, unrealizedPnl, exposure]
  constructor
  · intro same
    obtain ⟨front, heats⟩ := Delimited.append_colon_injective_right
      (LawfulText.colonFree_text _) (LawfulText.colonFree_text _) same
    exact ⟨Delimited.append_right_injective (Delimited.append_left_injective front), heats⟩
  · rintro ⟨rfl, heats⟩
    rw [heats]

omit [LedgerArithmetic Number] in
private theorem marksStored_concat {portfolioId requestId other : String}
    {log after : Log (Stored Number)}
    {event : Event (Stored Number)} (entries : after.entries = log.entries ++ [event])
    (keyed : event.idempotencyKey = some (PortfolioManager.namespacedKey portfolioId
      (PortfolioManager.MutationKey.updateMarks requestId).text)) :
    MarksStored portfolioId after other ↔
      other = requestId ∨ MarksStored portfolioId log other := by
  have sameKey : event.idempotencyKey = some (PortfolioManager.namespacedKey portfolioId
      (PortfolioManager.MutationKey.updateMarks other).text) ↔ other = requestId := by
    rw [keyed]
    constructor
    · intro same
      have texts := Delimited.append_left_injective (Option.some.inj same)
      exact (Delimited.append_left_injective texts).symm
    · rintro rfl
      rfl
  unfold MarksStored PortfolioManager.InLog
  rw [entries]
  simp only [List.mem_append, List.mem_singleton, or_and_right, exists_or, exists_eq_left, sameKey]
  exact Or.comm

omit [LedgerArithmetic Number] in
private theorem shows_iff {memory : PortfolioManager.Memory Number} :
    Shows memory totals heat ↔ memory.marks = totals.marks heat := by
  constructor
  · rintro ⟨unrealizedPnl, exposure, heat⟩
    unfold PortfolioManager.Memory.marks Totals.marks
    rw [unrealizedPnl, exposure, heat]
  · intro same
    exact
      { unrealizedPnl := congrArg PortfolioManager.Marks.unrealizedPnl same
        exposure := congrArg PortfolioManager.Marks.exposure same
        heat := congrArg PortfolioManager.Marks.heat same }

/-- A repeat at these marks finds the same sums, with another heat at most. -/
private theorem valuesAt_again (hands : Hands marks world world.portfolio.snapshot totals heat)
    {snapshot : PortfolioManager.PortfolioSnapshot Number} {others : Totals Number} {other : Number}
    (also : Hands marks world snapshot others other) :
    (others.marks other).unrealizedPnl = (totals.marks heat).unrealizedPnl ∧
      (others.marks other).exposure = (totals.marks heat).exposure := by
  have sums := (totalsAt_iff.mp hands.sums).2
  rw [(totalsAt_iff.mp also.sums).2] at sums
  cases sums
  exact ⟨rfl, rfl⟩

private theorem call_undisturbed_iff [LawfulText Number]
    (ready : PortfolioReady setup.portfolioId world) {after : World Number}
    (returned : updateMarks setup marks world = (.returned (), after))
    (hands : Hands marks world world.portfolio.snapshot totals heat) :
    Shows after.portfolio totals heat ∧ AppendsNothing setup marks after ↔
      Undisturbed setup marks world (totals.marks heat) := by
  by_cases stored : MarksStored setup.portfolioId world.log
    (marksRequestId (world.lastEvent setup) (totals.marks heat))
  · rw [updateMarks_of_stored ready hands stored] at returned
    cases returned
    have nothing : AppendsNothing setup marks world := by
      rw [appendsNothing_iff ready]
      intro others other also
      obtain ⟨rfl, rfl⟩ := hands.unique also
      exact stored
    rw [and_iff_left nothing, shows_iff, ready.marks]
    constructor
    · exact fun last => { made := fun _ => last, new := fun absent => absurd stored absent }
    · exact fun undisturbed => undisturbed.made stored
  · obtain ⟨event, log, entries, keyed, rfl⟩ :=
      updateMarks_of_not_stored ready hands stored returned
    have readyAfter : PortfolioReady setup.portfolioId
        (world.marked totals heat world.now log event.eventId) := by
      have kept := keeps_updateMarks (steady_ready setup.portfolioId) marks world ready
      rw [returned] at kept
      exact kept
    have shows : Shows (world.marked totals heat world.now log event.eventId).portfolio totals heat :=
      { unrealizedPnl := rfl, exposure := rfl, heat := rfl }
    rw [and_iff_right shows, appendsNothing_iff readyAfter]
    constructor
    · intro repeated
      refine { made := fun impossible => absurd impossible stored, new := fun _ => ?_ }
      refine or_iff_not_imp_left.mpr fun marked again valued => ?_
      obtain ⟨others, other, also, rfl⟩ := hands_of_valuesAt valued marked
      obtain ⟨unrealizedPnl, exposure⟩ := valuesAt_again hands also
      rw [← marksRequestId_eq_iff unrealizedPnl exposure]
      exact (marksStored_concat entries keyed).mp
        (repeated others other { sums := also.sums, heated := also.heated })
    · intro undisturbed others other also
      have also : Hands marks world (world.markedSnapshot (totals.marks heat)) others other :=
        { sums := also.sums, heated := also.heated }
      obtain ⟨unrealizedPnl, exposure⟩ := valuesAt_again hands also
      refine (marksStored_concat entries keyed).mpr ?_
      change marksRequestId world.now (others.marks other) = _ ∨ _
      rw [marksRequestId_eq_iff unrealizedPnl exposure]
      rcases undisturbed.new stored with nothing | steady
      · exact absurd nothing (totalsAt_iff.mp also.sums).1
      · exact steady _ also.valuesAt

end

/-- In every reachable state, a call that returns shows its values and may be repeated
without an append exactly if it finds nothing to mark or earlier updates and the clock
leave it undisturbed. -/
theorem updateMarks_fresh_and_idempotent_iff [LawfulText Number] (setup : Setup Number)
    (orders : OrderManager.Memory Number) (machine : ExecutionStateMachine.Machine)
    (environment : Nat → OrderManager.Answer Number) (steps : List (Step Number))
    (marks : Symbol → Except CallError Number) {after : World Number}
    (returned : updateMarks (steps.foldl System.step (System.start setup orders machine environment)).setup
      marks (steps.foldl System.step (System.start setup orders machine environment)).world =
        (.returned (), after)) :
    let final := steps.foldl System.step (System.start setup orders machine environment)
    ShowsCall marks final.world after ∧ AppendsNothing final.setup marks after ↔
      NothingToMark final.world final.world.portfolio.snapshot ∨
        ∀ values, valuesAt marks final.world final.world.portfolio.snapshot = .ok values →
          Undisturbed final.setup marks final.world values := by
  intro final
  have ready := portfolioReady_run setup orders machine environment steps
  have updated := updateMarks_updated final.setup marks final.world
  generalize ran : updateMarks final.setup marks final.world = ended at updated
  have ends : ended = (.returned (), after) := ran.symm.trans returned
  cases updated with
  | failed error => cases ends
  | skipped nothing noneOpen zero =>
      cases ends
      have idle : NothingToMark final.world final.world.portfolio.snapshot := by
        refine ⟨noneOpen, ?_⟩
        rw [zero]
        decide
      have appendsNothing : AppendsNothing final.setup marks final.world :=
        (appendsNothing_iff ready).mpr fun totals heat hands => absurd hands (nothing totals heat)
      refine iff_of_true ⟨{ handed := ?_, skipped := fun _ => ⟨noneOpen, zero⟩ }, appendsNothing⟩
        (Or.inl idle)
      exact fun totals heat hands => absurd hands (nothing totals heat)
  | handed totals heat hands =>
      have marked := (totalsAt_iff.mp hands.sums).1
      rw [or_iff_right marked]
      have settled := call_undisturbed_iff ready returned hands
      constructor
      · rintro ⟨shows, nothing⟩ values valued
        rw [hands.valuesAt] at valued
        cases valued
        exact settled.mp ⟨shows.handed totals heat hands, nothing⟩
      · intro undisturbed
        obtain ⟨shows, nothing⟩ := settled.mpr (undisturbed _ hands.valuesAt)
        refine ⟨{ handed := ?_, skipped := fun none => absurd hands (none totals heat) }, nothing⟩
        intro others other also
        obtain ⟨rfl, rfl⟩ := hands.unique also
        exact shows

end

def acceptedAt (now : String) : OrderManager.Answer ℚ :=
  { OrderManager.acceptingAnswer
      { OrderManager.acknowledgedOrder "main" 1 with createdAtUtc := now, updatedAtUtc := now } with
    now }

def mainSetup : Setup ℚ :=
  { omId := "main"
    positionsId := "main"
    portfolioId := "main"
    portfolioSinceUtc := "2026-01-01T00:00:00+00:00"
    targetLeverage := 2 }

def onePosition : List (Step ℚ) :=
  [.portfolio (.deposit 1000 "d1"),
    .orders (.place { OrderManager.marketBuy with quantity := 1 }),
    .recordExecutionLevels
      [{ clientOrderId := OrderManager.placeId "main" 1
         levels := some { entryPrice := 100, stopPrice := 90 } }],
    .sync (.ok
      [{ OrderManager.fillOf "f1" 1 with timestampUtc := "2026-01-01T00:00:00+00:00" }])]

def markAt (price : ℚ) : Symbol → Except CallError ℚ := fun _ => .ok price

def markedSystem (clock : Nat → String) (prices : List ℚ) : System ℚ :=
  (onePosition ++ prices.map fun price => Step.updateMarks (markAt price)).foldl System.step
    (System.start mainSetup OrderManager.Memory.initial
      OrderManager.freshMachine fun tick => acceptedAt (clock tick))

def tickingClock : Nat → String := fun tick => s!"2026-01-01T00:{10 + tick}:00+00:00"

def standingClock : Nat → String := fun _ => "2026-01-01T00:00:00+00:00"

theorem updateMarks_fresh_and_idempotent_iff_onePosition :
    ∃ after, updateMarks (markedSystem tickingClock []).setup (markAt 110)
        (markedSystem tickingClock []).world = (.returned (), after) ∧
      (ShowsCall (markAt 110) (markedSystem tickingClock []).world after ∧
          AppendsNothing (markedSystem tickingClock []).setup (markAt 110) after ↔
        NothingToMark (markedSystem tickingClock []).world
            (markedSystem tickingClock []).world.portfolio.snapshot ∨
          ∀ values, valuesAt (markAt 110) (markedSystem tickingClock []).world
              (markedSystem tickingClock []).world.portfolio.snapshot = .ok values →
            Undisturbed (markedSystem tickingClock []).setup (markAt 110)
              (markedSystem tickingClock []).world values) := by
  have returns : (updateMarks (markedSystem tickingClock []).setup (markAt 110)
      (markedSystem tickingClock []).world).1.returns = true := by decide +kernel
  obtain ⟨value, returned⟩ := Outcome.returns_iff.mp returns
  have ran : updateMarks (markedSystem tickingClock []).setup (markAt 110)
      (markedSystem tickingClock []).world = (.returned (), _) := Prod.ext returned rfl
  exact ⟨_, ran, updateMarks_fresh_and_idempotent_iff mainSetup OrderManager.Memory.initial
    OrderManager.freshMachine
    (fun tick => acceptedAt (tickingClock tick)) onePosition (markAt 110) ran⟩

/-- With a clock that moves, a repeat appends; with one that stands still, the second
return to a mark is taken for the first, and the portfolio shows the other mark. -/
theorem updateMarks_appends_and_is_stale :
    (∃ after again,
      updateMarks mainSetup (markAt 110) (markedSystem tickingClock []).world =
          (.returned (), after) ∧
        updateMarks mainSetup (markAt 110) after = (.returned (), again) ∧
        again.log.entries.length = after.log.entries.length + 1) ∧
    ∃ after,
      updateMarks mainSetup (markAt 120) (markedSystem standingClock [110, 120, 110]).world =
          (.returned (), after) ∧
        (sumAt (markAt 120) (markedSystem standingClock [110, 120, 110]).world.positions.snapshots
          Totals.zero (markedSystem standingClock [110, 120, 110]).world.openPids).toOption.map
            Totals.unrealizedPnl = some 20 ∧
        after.portfolio.unrealizedPnl = 10 := by
  constructor
  · let after := (updateMarks mainSetup (markAt 110) (markedSystem tickingClock []).world).2
    have repeated : (updateMarks mainSetup (markAt 110)
          (markedSystem tickingClock []).world).1.returns = true ∧
        (updateMarks mainSetup (markAt 110) after).1.returns = true ∧
        (updateMarks mainSetup (markAt 110) after).2.log.entries.length =
          after.log.entries.length + 1 := by decide +kernel
    obtain ⟨first, second, lengths⟩ := repeated
    obtain ⟨_, firstReturned⟩ := Outcome.returns_iff.mp first
    obtain ⟨_, secondReturned⟩ := Outcome.returns_iff.mp second
    exact ⟨after, _, Prod.ext firstReturned rfl, Prod.ext secondReturned rfl, lengths⟩
  · let world := (markedSystem standingClock [110, 120, 110]).world
    have stale : (updateMarks mainSetup (markAt 120) world).1.returns = true ∧
        (sumAt (markAt 120) world.positions.snapshots Totals.zero world.openPids).toOption.map
          Totals.unrealizedPnl = some 20 ∧
        (updateMarks mainSetup (markAt 120) world).2.portfolio.unrealizedPnl = 10 := by
      decide +kernel
    obtain ⟨returns, sums, shown⟩ := stale
    obtain ⟨_, returned⟩ := Outcome.returns_iff.mp returns
    exact ⟨_, Prod.ext returned rfl, sums, shown⟩

end TurtleExecution.AccountingSync

/-
What is fetched.

A loop fetches each period that is not covered.  A file is fetched with all of its rows,
and a range of the funding history with every row of it.
-/

import TurtleExecution.Historical.Merging
import TurtleExecution.Historical.Pipeline

set_option autoImplicit false

namespace TurtleExecution.Historical

open Calendar ExchangeAdapter Process

structure IsReading {Number : Type} (symbol : Symbol) (instant : Int) (value : Number)
    (observation : Observation Number) : Prop where
  symbol : observation.symbol = symbol
  instant : observation.observedAtUtc = instant
  value : observation.value = value

private theorem mem_monthsUpTo {last month : Month} (isMonth : 1 ≤ month.month ∧ month.month ≤ 12)
    (lastMonth : 1 ≤ last.month ∧ last.month ≤ 12) (before : Month.Le month last) {fuel : Nat} {first : Month}
    (firstMonth : 1 ≤ first.month ∧ first.month ≤ 12) (after : Month.Le first month)
    (enough : 12 * (last.year - first.year) + last.month - first.month < fuel) :
    month ∈ monthsUpTo last fuel first := by
  induction fuel generalizing first with
  | zero =>
      unfold Month.Le at before after
      omega
  | succ fuel ih =>
      have inRange : Month.Le first last := by
        unfold Month.Le at *
        omega
      rw [monthsUpTo, if_pos inRange]
      by_cases same : month = first
      · rw [same]
        exact List.mem_cons_self
      · apply List.mem_cons_of_mem
        have different : first.year < month.year ∨ first.month < month.month ∧ first.year = month.year := by
          rcases after with less | ⟨sameYear, notLater⟩
          · exact Or.inl less
          · refine Or.inr ⟨Int.lt_iff_le_and_ne.mpr ⟨notLater, fun sameMonth => same ?_⟩, sameYear⟩
            cases month
            cases first
            cases sameYear
            cases sameMonth
            rfl
        apply ih
        · unfold nextMonth
          split <;> dsimp only <;> omega
        · unfold nextMonth Month.Le
          split <;> dsimp only <;> omega
        · unfold nextMonth
          split <;> dsimp only <;> omega

theorem monthOf_mem_monthRange {startDate endDate day : Int} (after : startDate ≤ day)
    (before : day ≤ endDate) : monthOf day ∈ monthRange startDate endDate := by
  unfold monthRange
  apply mem_monthsUpTo (monthOf_month day) (monthOf_month endDate) (monthOf_mono before)
    (monthOf_month startDate) (monthOf_mono after)
  omega

/-- The batches of the loop: of each period that is not covered, what was fetched. -/
structure FetchedAll {Period Batch : Type} (covered : Period → Bool)
    (fetch : Period → Except HistoricalError (Option Batch)) (periods : List Period)
    (batches : List Batch) : Prop where
  from_ : ∀ batch ∈ batches, ∃ period ∈ periods, covered period = false ∧
    fetch period = .ok (some batch)
  present : ∀ period ∈ periods, covered period = false →
    ∃ result, fetch period = .ok result ∧ ∀ batch ∈ result, batch ∈ batches

theorem gather_ok {Period Batch : Type} {covered : Period → Bool}
    {fetch : Period → Except HistoricalError (Option Batch)} {periods : List Period}
    {gathered : Gathered Batch} (computed : gather covered fetch periods = .ok gathered) :
    FetchedAll covered fetch periods gathered.batches := by
  induction periods generalizing gathered with
  | nil =>
      cases computed
      exact ⟨by simp, by simp⟩
  | cons period later ih =>
      unfold gather at computed
      split at computed
      · rename_i isCovered
        obtain ⟨rest, computedRest, same⟩ := ok_of_bind computed
        cases same
        have all := ih computedRest
        constructor
        · intro batch member
          obtain ⟨other, isLater, uncovered, fetched⟩ := all.from_ batch member
          exact ⟨other, List.mem_cons_of_mem _ isLater, uncovered, fetched⟩
        · intro other member uncovered
          rcases List.mem_cons.mp member with rfl | isLater
          · rw [isCovered] at uncovered
            cases uncovered
          · exact all.present other isLater uncovered
      · rename_i notCovered
        obtain ⟨result, fetched, afterwards⟩ := ok_of_bind computed
        obtain ⟨rest, computedRest, same⟩ := ok_of_bind afterwards
        have all := ih computedRest
        have batches : gathered.batches = result.toList ++ rest.batches := by
          cases result with
          | none =>
              cases same
              rfl
          | some batch =>
              cases same
              rfl
        rw [batches]
        constructor
        · intro batch member
          rcases List.mem_append.mp member with here | behind
          · have isResult := Option.mem_toList.mp here
            rw [isResult] at fetched
            exact ⟨period, List.mem_cons_self, Bool.eq_false_iff.mpr notCovered, fetched⟩
          · obtain ⟨other, isLater, uncovered, otherFetched⟩ := all.from_ batch behind
            exact ⟨other, List.mem_cons_of_mem _ isLater, uncovered, otherFetched⟩
        · intro other member uncovered
          rcases List.mem_cons.mp member with rfl | isLater
          · exact ⟨result, fetched, fun batch isResult =>
              List.mem_append_left _ (Option.mem_toList.mpr isResult)⟩
          · obtain ⟨found, otherFetched, isIn⟩ := all.present other isLater uncovered
            exact ⟨found, otherFetched, fun batch isResult =>
              List.mem_append_right _ (isIn batch isResult)⟩

theorem gatherDays_ok {Batch : Type} {covered : Int → Bool}
    {fetch : Int → Except HistoricalError (Option Batch)} {startDate endDate : Int}
    {gathered : Gathered Batch}
    (computed : gatherDays covered fetch startDate endDate = .ok gathered) :
    FetchedAll covered fetch (daysOf startDate endDate) gathered.batches := by
  obtain ⟨found, computedFound, rest⟩ := ok_of_bind computed
  split at rest
  · cases rest
    exact gather_ok computedFound
  · cases rest

theorem ends_bind_require {Number Value : Type} {accepted : Bool}
    {next : Unit → Collecting Number Value} {disk : Disk Number}
    {post : Post (Disk Number) HistoricalError Value} (refused : ∀ error, post.raised error disk)
    (rest : accepted = true → Ends (next ()) disk post) : Ends (require accepted >>= next) disk post := by
  cases accepted with
  | false => exact refused _
  | true => exact rest rfl

theorem readRows_ok {Row Value : Type} {download : Download Row}
    {read : Row → Except HistoricalError Value} {result : Option (List Value)}
    (computed : readRows download read = .ok result) :
    download = .notFound ∧ result = none ∨
      ∃ rows values, download = .csv rows ∧ result = some values ∧
        List.Forall₂ (fun row value => read row = .ok value) rows values := by
  cases download with
  | notFound =>
      cases computed
      exact Or.inl ⟨rfl, rfl⟩
  | fails => cases computed
  | csv rows =>
      obtain ⟨values, readAll, same⟩ := ok_of_bind computed
      cases same
      exact Or.inr ⟨rows, values, rfl, rfl, forall₂_of_mapM readAll⟩

end TurtleExecution.Historical

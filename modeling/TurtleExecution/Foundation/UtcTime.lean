/-
UTC timestamps as texts, and the days, months and years of the Gregorian calendar.

An instant is a number of microseconds.  `isoformat` writes an instant and
`fromisoformat` reads texts in several notations; it reads back what was written.
-/

import Mathlib.Data.List.Basic
import Mathlib.Data.List.Count

set_option autoImplicit false

namespace TurtleExecution

structure UtcTexts where
  isoformat : Int → String
  /-- The instant of a text without offset is in UTC; `none` stands for `ValueError`. -/
  fromisoformat : String → Option Int
  fromisoformat_isoformat : ∀ instant, fromisoformat (isoformat instant) = some instant

def secondMicros : Int := 1000000

namespace UtcTexts

def marks : UtcTexts where
  isoformat
    | .ofNat count => String.ofList ('+' :: List.replicate count '|')
    | .negSucc count => String.ofList ('-' :: List.replicate count '|')
  fromisoformat text :=
    match text.toList with
    | '+' :: rest => some (.ofNat rest.length)
    | '-' :: rest => some (.negSucc rest.length)
    | _ => none
  fromisoformat_isoformat instant := by
    cases instant <;> simp

theorem isoformat_injective (utc : UtcTexts) {left right : Int}
    (same : utc.isoformat left = utc.isoformat right) : left = right := by
  have readBack := utc.fromisoformat_isoformat left
  rw [same, fromisoformat_isoformat, Option.some.injEq] at readBack
  exact readBack.symm

end UtcTexts

end TurtleExecution

namespace TurtleExecution.Calendar

structure Month where
  year : Int
  month : Int
  deriving DecidableEq

/-- `(year, month) <= (other.year, other.month)`. -/
def Month.Le (left right : Month) : Prop :=
  left.year < right.year ∨ left.year = right.year ∧ left.month ≤ right.month

instance (left right : Month) : Decidable (Month.Le left right) :=
  inferInstanceAs (Decidable (_ ∨ _))

def isLeap (year : Int) : Bool :=
  decide (year % 4 = 0 ∧ (year % 100 ≠ 0 ∨ year % 400 = 0))

def yearStart (year : Int) : Int :=
  365 * (year - 1) + (year - 1) / 4 - (year - 1) / 100 + (year - 1) / 400 - 719162

def daysBeforeMonths (year : Int) : List Int :=
  [0, 31] ++ [59, 90, 120, 151, 181, 212, 243, 273, 304, 334].map fun days =>
    if isLeap year then days + 1 else days

/-- A mean year is 146097 / 400 days, which may miss the year by one. -/
def yearOf (day : Int) : Int :=
  let mean := day * 400 / 146097 + 1970
  if day < yearStart mean then mean - 1
  else if yearStart (mean + 1) ≤ day then mean + 1
  else mean

def monthOf (day : Int) : Month :=
  { year := yearOf day
    month := (daysBeforeMonths (yearOf day)).countP fun days =>
      decide (days ≤ day - yearStart (yearOf day)) }

theorem yearStart_lt {year later : Int} (before : year < later) :
    yearStart year < yearStart later := by
  unfold yearStart
  omega

theorem yearOf_bounds (day : Int) : yearStart (yearOf day) ≤ day ∧ day < yearStart (yearOf day + 1) := by
  unfold yearOf
  dsimp only
  split
  · rename_i early
    rw [Int.sub_add_cancel]
    refine ⟨?_, early⟩
    unfold yearStart
    omega
  · split
    · rename_i late
      refine ⟨late, ?_⟩
      unfold yearStart
      omega
    · omega

theorem yearOf_mono {day later : Int} (before : day ≤ later) : yearOf day ≤ yearOf later := by
  by_contra different
  have started := (yearOf_bounds day).1
  have ended := (yearOf_bounds later).2
  have between : yearStart (yearOf later + 1) ≤ yearStart (yearOf day) := by
    rcases Int.lt_or_eq_of_le (show yearOf later + 1 ≤ yearOf day by omega) with less | same
    · exact Int.le_of_lt (yearStart_lt less)
    · exact Int.le_of_eq (congrArg yearStart same)
  omega

theorem monthOf_mono {day later : Int} (before : day ≤ later) :
    Month.Le (monthOf day) (monthOf later) := by
  rcases Int.lt_or_eq_of_le (yearOf_mono before) with less | same
  · exact Or.inl less
  · refine Or.inr ⟨same, ?_⟩
    unfold monthOf
    rw [same]
    apply Int.ofNat_le.mpr
    apply List.countP_mono_left
    intro days _ passed
    have within := of_decide_eq_true passed
    apply decide_eq_true
    omega

theorem monthOf_month (day : Int) : 1 ≤ (monthOf day).month ∧ (monthOf day).month ≤ 12 := by
  have started := (yearOf_bounds day).1
  constructor
  · apply Int.ofNat_le.mpr
    apply List.countP_pos_iff.mpr
    refine ⟨0, List.mem_append_left _ List.mem_cons_self, decide_eq_true ?_⟩
    omega
  · apply Int.ofNat_le.mpr
    exact List.countP_le_length

example : monthOf 19782 = { year := 2024, month := 2 } ∧ monthOf 19783 = { year := 2024, month := 3 } := by
  decide

end TurtleExecution.Calendar

/-
The signals that may be acted on.

Of the signals for a symbol one is selected, if all that say long or short say the same.  It
is a least one by candidate name and version, and of several least ones that which was given
first.  The order in which the signals are given therefore matters exactly where signals
with one name and version differ.
-/

import TurtleExecution.Candidates.Models
import TurtleExecution.Foundation.Grouping

set_option autoImplicit false

namespace TurtleExecution.Portfolio

open ExchangeAdapter Candidates Features

variable {Number : Type}

def symbolValue (signal : CandidateSignal Number) : String :=
  signal.symbol.value

def sortKey (signal : CandidateSignal Number) : String × String :=
  (signal.candidateName.text, signal.candidateVersion.text)

def SignalLe (left right : CandidateSignal Number) : Prop :=
  TextPairLe (sortKey left) (sortKey right)

instance : DecidableRel (@SignalLe Number) :=
  fun left right => inferInstanceAs (Decidable (TextPairLe (sortKey left) (sortKey right)))

instance : Std.Total (@SignalLe Number) :=
  ⟨fun left right => total_of TextPairLe (sortKey left) (sortKey right)⟩

instance : IsTrans (CandidateSignal Number) SignalLe :=
  ⟨fun _ _ _ first second => trans_of TextPairLe first second⟩

def disagree (group : List (CandidateSignal Number)) : Bool :=
  1 < (group.map CandidateSignal.direction?).toFinset.card

def selectFrom (group : List (CandidateSignal Number)) : Option (CandidateSignal Number) :=
  if disagree group then none else (group.insertionSort SignalLe).head?

def selectSignals (signals : List (CandidateSignal Number)) : List (CandidateSignal Number) :=
  let bySymbol := Dict.groupBy symbolValue (signals.filter CandidateSignal.directional)
  (bySymbol.keys.insertionSort (· ≤ ·)).filterMap fun value =>
    selectFrom ((bySymbol.get? value).getD [])

def Agree (group : List (CandidateSignal Number)) : Prop :=
  ∀ first ∈ group, ∀ second ∈ group, first.direction? = second.direction?

structure Least (group : List (CandidateSignal Number)) (signal : CandidateSignal Number) : Prop where
  member : signal ∈ group
  least : ∀ other ∈ group, SignalLe signal other

variable {signal : CandidateSignal Number} {signals group : List (CandidateSignal Number)}

private theorem disagree_eq_false_iff : disagree group = false ↔ Agree group := by
  rw [disagree, decide_eq_false_iff_not, Finset.one_lt_card]
  constructor
  · intro same first isFirst second isSecond
    by_contra different
    exact same ⟨_, List.mem_toFinset.mpr (List.mem_map_of_mem isFirst),
      _, List.mem_toFinset.mpr (List.mem_map_of_mem isSecond), different⟩
  · intro agree several
    obtain ⟨one, isOne, another, isAnother, different⟩ := several
    obtain ⟨first, isFirst, rfl⟩ := List.mem_map.mp (List.mem_toFinset.mp isOne)
    obtain ⟨second, isSecond, rfl⟩ := List.mem_map.mp (List.mem_toFinset.mp isAnother)
    exact different (agree first isFirst second isSecond)

variable {group other : List (CandidateSignal Number)}

theorem Agree.of_perm (agree : Agree group) (same : other.Perm group) : Agree other := by
  intro first isFirst second isSecond
  exact agree first (same.mem_iff.mp isFirst) second (same.mem_iff.mp isSecond)

theorem Least.of_perm (least : Least group signal) (same : other.Perm group) : Least other signal :=
  { member := same.mem_iff.mpr least.member
    least := fun known isKnown => least.least known (same.mem_iff.mp isKnown) }

private theorem selectFrom_some (selected : selectFrom group = some signal) :
    Agree group ∧ Least group signal := by
  unfold selectFrom at selected
  split at selected
  · cases selected
  · rename_i agree
    obtain ⟨member, least⟩ := least_of_head?_insertionSort SignalLe selected
    exact ⟨disagree_eq_false_iff.mp (Bool.not_eq_true _ ▸ agree), { member, least }⟩

private theorem exists_selectFrom (agree : Agree group) (nonempty : group ≠ []) :
    ∃ signal, selectFrom group = some signal := by
  unfold selectFrom
  rw [disagree_eq_false_iff.mpr agree, if_neg Bool.false_ne_true]
  cases sorted : group.insertionSort SignalLe with
  | nil =>
      have lengths := List.length_insertionSort SignalLe group
      rw [sorted, List.length_nil] at lengths
      exact absurd (List.length_eq_zero_iff.mp lengths.symm) nonempty
  | cons signal rest => exact ⟨signal, rfl⟩

private theorem selectFrom_cons (agree : Agree (signal :: group))
    (least : Least (signal :: group) signal) :
    selectFrom (signal :: group) = some signal := by
  unfold selectFrom
  rw [disagree_eq_false_iff.mpr agree, if_neg Bool.false_ne_true]
  exact head?_insertionSort_of_least SignalLe fun other member =>
    least.least other (List.mem_cons_of_mem signal member)

def rivals (signals : List (CandidateSignal Number)) (value : String) :
    List (CandidateSignal Number) :=
  Dict.withKey symbolValue (signals.filter CandidateSignal.directional) value

private theorem mem_rivals {value : String} :
    signal ∈ rivals signals value ↔
      signal ∈ signals ∧ signal.directional = true ∧ symbolValue signal = value := by
  rw [rivals, Dict.mem_withKey, List.mem_filter, and_assoc]

variable {signals other : List (CandidateSignal Number)}

private theorem rivals_perm (same : other.Perm signals) (value : String) :
    (rivals other value).Perm (rivals signals value) :=
  (same.filter _).filter _

private theorem rivals_cons (directional : signal.directional = true) :
    rivals (signal :: signals) (symbolValue signal) =
      signal :: rivals signals (symbolValue signal) := by
  unfold rivals Dict.withKey
  rw [List.filter_cons_of_pos directional]
  exact List.filter_cons_of_pos (decide_eq_true rfl)

private theorem groupOf_eq_rivals (signals : List (CandidateSignal Number)) (value : String) :
    ((Dict.groupBy symbolValue (signals.filter CandidateSignal.directional)).get? value).getD [] =
      rivals signals value := by
  rw [Dict.get?_groupBy, ← rivals]
  split
  · rename_i empty
    rw [empty]
    rfl
  · rfl

private theorem mem_selectSignals :
    signal ∈ selectSignals signals ↔
      selectFrom (rivals signals (symbolValue signal)) = some signal := by
  simp only [selectSignals, List.mem_filterMap, List.mem_insertionSort, groupOf_eq_rivals]
  constructor
  · intro selected
    obtain ⟨value, _, isSelected⟩ := selected
    obtain ⟨_, _, hasValue⟩ := mem_rivals.mp (selectFrom_some isSelected).2.member
    rw [hasValue]
    exact isSelected
  · intro isSelected
    obtain ⟨given, directional, _⟩ := mem_rivals.mp (selectFrom_some isSelected).2.member
    have isKey := (Dict.mem_keys_groupBy symbolValue).mpr
      ⟨signal, List.mem_filter.mpr ⟨given, directional⟩, rfl⟩
    exact ⟨symbolValue signal, isKey, isSelected⟩

private theorem nodup_selectSignals (signals : List (CandidateSignal Number)) :
    ((selectSignals signals).map CandidateSignal.symbol).Nodup := by
  have keys : ((Dict.groupBy symbolValue (signals.filter CandidateSignal.directional)).keys.insertionSort
      (· ≤ ·)).Nodup :=
    (List.perm_insertionSort (· ≤ ·) _).nodup_iff.mpr (Dict.nodup_keys_groupBy symbolValue _)
  simp only [selectSignals, List.map_filterMap, groupOf_eq_rivals]
  refine keys.filterMap ?_
  intro value other symbol here there
  obtain ⟨signal, isSelected, rfl⟩ := Option.map_eq_some_iff.mp here
  obtain ⟨known, isKnown, sameSymbol⟩ := Option.map_eq_some_iff.mp there
  obtain ⟨_, _, hasValue⟩ := mem_rivals.mp (selectFrom_some isSelected).2.member
  obtain ⟨_, _, hasOther⟩ := mem_rivals.mp (selectFrom_some isKnown).2.member
  rw [← hasValue, ← hasOther, symbolValue, symbolValue, sameSymbol]

def Conflicted (signals : List (CandidateSignal Number)) (symbol : Symbol) : Prop :=
  (∃ signal ∈ signals, signal.symbol = symbol ∧ signal.direction? = some .long) ∧
    ∃ signal ∈ signals, signal.symbol = symbol ∧ signal.direction? = some .short

private theorem not_conflicted (selected : signal ∈ selectSignals signals) :
    ¬ Conflicted signals signal.symbol := by
  intro conflicted
  obtain ⟨⟨long, isLong, longSymbol, saysLong⟩, short, isShort, shortSymbol, saysShort⟩ := conflicted
  have agree := (selectFrom_some (mem_selectSignals.mp selected)).1
  have longRival : long ∈ rivals signals (symbolValue signal) :=
    mem_rivals.mpr ⟨isLong, by simp [CandidateSignal.directional, saysLong],
      congrArg Symbol.value longSymbol⟩
  have shortRival : short ∈ rivals signals (symbolValue signal) :=
    mem_rivals.mpr ⟨isShort, by simp [CandidateSignal.directional, saysShort],
      congrArg Symbol.value shortSymbol⟩
  have same := agree long longRival short shortRival
  rw [saysLong, saysShort] at same
  cases same

/-- Every order of the signals selects the same ones, one at most for a symbol and none for a
symbol that is disputed. -/
structure OrderIndependent (signals : List (CandidateSignal Number)) : Prop where
  anyOrder : ∀ other, other.Perm signals →
    ∀ signal, signal ∈ selectSignals other ↔ signal ∈ selectSignals signals
  onePerSymbol : ((selectSignals signals).map CandidateSignal.symbol).Nodup
  undisputed : ∀ signal ∈ selectSignals signals, ¬ Conflicted signals signal.symbol

/-- Where the signals for a symbol agree, the least of them are one signal. -/
def TiesAgree (signals : List (CandidateSignal Number)) : Prop :=
  ∀ value, Agree (rivals signals value) → ∀ first second,
    Least (rivals signals value) first → Least (rivals signals value) second → first = second

private theorem exists_order_selecting {value : String} (agree : Agree (rivals signals value))
    (least : Least (rivals signals value) signal) :
    ∃ other, other.Perm signals ∧ signal ∈ selectSignals other := by
  obtain ⟨given, directional, rfl⟩ := mem_rivals.mp least.member
  obtain ⟨before, after, rfl⟩ := List.append_of_mem given
  have reordered : (signal :: (before ++ after)).Perm (before ++ signal :: after) :=
    List.perm_middle.symm
  have sameRivals := rivals_perm reordered (symbolValue signal)
  refine ⟨_, reordered, mem_selectSignals.mpr ?_⟩
  have agreeThere := agree.of_perm sameRivals
  have leastThere := least.of_perm sameRivals
  rw [rivals_cons directional] at agreeThere leastThere ⊢
  exact selectFrom_cons agreeThere leastThere

private theorem mem_selectSignals_of_perm (ties : TiesAgree signals) (same : other.Perm signals)
    (selected : signal ∈ selectSignals other) : signal ∈ selectSignals signals := by
  obtain ⟨agree, least⟩ := selectFrom_some (mem_selectSignals.mp selected)
  have sameRivals := (rivals_perm same (symbolValue signal)).symm
  have agreeHere := agree.of_perm sameRivals
  have leastHere := least.of_perm sameRivals
  obtain ⟨chosen, isChosen⟩ := exists_selectFrom agreeHere (List.ne_nil_of_mem leastHere.member)
  have one := ties _ agreeHere chosen signal (selectFrom_some isChosen).2 leastHere
  rw [one] at isChosen
  exact mem_selectSignals.mpr isChosen

theorem TiesAgree.of_perm (ties : TiesAgree signals) (same : other.Perm signals) :
    TiesAgree other := by
  intro value agree first second isFirst isSecond
  have sameRivals := (rivals_perm same value).symm
  exact ties value (agree.of_perm sameRivals) first second (isFirst.of_perm sameRivals)
    (isSecond.of_perm sameRivals)

/-- The order does not matter exactly where the least of the signals that agree on a symbol
are the same signal. -/
theorem orderIndependent_iff (signals : List (CandidateSignal Number)) :
    OrderIndependent signals ↔ TiesAgree signals := by
  constructor
  · intro independent value agree first second isFirst isSecond
    obtain ⟨firstOrder, isOrder, selectsFirst⟩ := exists_order_selecting agree isFirst
    obtain ⟨secondOrder, isOtherOrder, selectsSecond⟩ := exists_order_selecting agree isSecond
    have firstSelected := mem_selectSignals.mp
      ((independent.anyOrder firstOrder isOrder first).mp selectsFirst)
    have secondSelected := mem_selectSignals.mp
      ((independent.anyOrder secondOrder isOtherOrder second).mp selectsSecond)
    obtain ⟨_, _, firstValue⟩ := mem_rivals.mp isFirst.member
    obtain ⟨_, _, secondValue⟩ := mem_rivals.mp isSecond.member
    rw [firstValue] at firstSelected
    rw [secondValue, firstSelected] at secondSelected
    exact Option.some.inj secondSelected
  · intro ties
    refine
      { anyOrder := ?_
        onePerSymbol := nodup_selectSignals signals
        undisputed := fun signal selected => not_conflicted selected }
    intro other same signal
    exact ⟨mem_selectSignals_of_perm ties same,
      mem_selectSignals_of_perm (ties.of_perm same) same.symm⟩

def longBtc (threshold : ℚ) : CandidateSignal ℚ :=
  { candidateName := ⟨"funding_rate_threshold_rule", by decide⟩
    candidateVersion := ⟨"v1", nonBlank_v1⟩
    symbol := btc
    evaluatedAtUtc := ⟨"2026-01-01T00:00:00+00:00", nonBlank_newYear⟩
    result := .available { direction := .long, featureValue := 3, threshold } }

/-- Two specifications of one name and version that differ in their thresholds. -/
theorem one_version_two_thresholds : ¬ OrderIndependent [longBtc 1, longBtc 2] := by
  intro independent
  have selected : longBtc 2 ∈ selectSignals [longBtc 2, longBtc 1] := by
    have isFirst : selectSignals [longBtc 2, longBtc 1] = [longBtc 2] := by decide
    rw [isFirst]
    exact List.mem_singleton_self _
  have selectedHere := (independent.anyOrder _ (List.Perm.swap _ _ _) _).mp selected
  have otherFirst : selectSignals [longBtc 1, longBtc 2] = [longBtc 1] := by decide
  rw [otherFirst, List.mem_singleton] at selectedHere
  exact absurd selectedHere (by decide)

end TurtleExecution.Portfolio

/-
Venue quantization of sizes and prices.

Sizes are rounded down to the decimals of their asset.  Prices are rounded to the
venue's grid in the direction of their side: five significant figures and a number of
decimals, with whole prices always allowed.
-/

import TurtleExecution.ExchangeAdapter.Models
import TurtleExecution.Foundation.DecimalOrder
import TurtleExecution.Foundation.DecimalQuantize

set_option autoImplicit false

namespace TurtleExecution.TradingSystem

open ExchangeAdapter

def priceSigFigs : Nat := 5

def priceMaxDecimals : Nat := 6

structure SymbolRules where
  szDecimals : Nat
  within : szDecimals ≤ priceMaxDecimals

namespace SymbolRules

/-- `SymbolRules(sz_decimals)`, which raises an `ExecutionError`. -/
def create (szDecimals : Int) : Except String SymbolRules :=
  if valid : 0 ≤ szDecimals ∧ szDecimals ≤ priceMaxDecimals then
    .ok ⟨szDecimals.toNat, by omega⟩
  else .error s!"sz_decimals must be an int in [0, {priceMaxDecimals}], got {szDecimals}"

def maxPriceDecimals (rules : SymbolRules) : Nat := priceMaxDecimals - rules.szDecimals

end SymbolRules

def quantizeSize (quantity : Decimal) (rules : SymbolRules) : Except ArithmeticError Decimal := do
  let step ← (Decimal.ofInt 1).scaleb (-rules.szDecimals)
  quantity.quantize step .down

/-- The exponent of the price grid at a price, whose coarser limit wins, but never coarser than
the whole numbers. -/
def priceExponent (rules : SymbolRules) (adjusted : Int) : Int :=
  let sigExponent := adjusted - (priceSigFigs - 1)
  let exponent := max sigExponent (-rules.maxPriceDecimals)
  if 0 < exponent then 0 else exponent

def quantizePrice (price : Decimal) (side : OrderSide) (rules : SymbolRules) :
    Except ArithmeticError Decimal := do
  let whole ← price.toIntegralValue
  let isWhole ← price.equal whole
  if isWhole then return whole
  else
    let mode : Decimal.RoundingMode := if side = .buy then .floor else .ceiling
    let step ← (Decimal.ofInt 1).scaleb (priceExponent rules price.adjusted)
    price.quantize step mode

private theorem priceExponent_eq (rules : SymbolRules) (adjusted : Int) :
    priceExponent rules adjusted =
      min (max (adjusted - (priceSigFigs - 1)) (-rules.maxPriceDecimals)) 0 := by
  unfold priceExponent
  dsimp only
  split <;> omega

def MultipleOf (exponent : Int) (value : ℚ) : Prop :=
  ∃ count : Int, value = count * 10 ^ exponent

theorem MultipleOf.mono {exponent other : Int} {value : ℚ} (multiple : MultipleOf other value)
    (finer : exponent ≤ other) : MultipleOf exponent value := by
  obtain ⟨count, rfl⟩ := multiple
  have shift : other = ((other - exponent).toNat : Int) + exponent := by omega
  refine ⟨count * 10 ^ (other - exponent).toNat, ?_⟩
  conv_lhs => rw [shift, zpow_add₀ (by norm_num), zpow_natCast]
  push_cast
  ring

def Significant (value : ℚ) : Prop :=
  ∃ (coefficient exponent : Int), |coefficient| < 10 ^ priceSigFigs ∧
    value = coefficient * 10 ^ exponent

def LegalPrice (rules : SymbolRules) (value : ℚ) : Prop :=
  MultipleOf 0 value ∨ Significant value ∧ MultipleOf (-rules.maxPriceDecimals) value

private theorem multiple_of_significant {value : ℚ} {adjusted : Int} (significant : Significant value)
    (reached : 10 ^ adjusted ≤ value) : MultipleOf (adjusted - (priceSigFigs - 1)) value := by
  obtain ⟨coefficient, exponent, few, rfl⟩ := significant
  have ten : (1 : ℚ) < 10 := by norm_num
  have unit : (0 : ℚ) < 10 ^ exponent := zpow_pos (by norm_num) _
  have small : (coefficient : ℚ) < 10 ^ priceSigFigs := by
    exact_mod_cast (le_abs_self coefficient).trans_lt few
  have powers : (10 : ℚ) ^ adjusted < 10 ^ ((priceSigFigs : Int) + exponent) := by
    rw [zpow_add₀ (by norm_num), zpow_natCast]
    exact reached.trans_lt (mul_lt_mul_of_pos_right small unit)
  have exponents := (zpow_lt_zpow_iff_right₀ ten).mp powers
  have multiple : MultipleOf exponent (coefficient * 10 ^ exponent) := ⟨coefficient, rfl⟩
  exact multiple.mono (by omega)

private theorem multiple_of_legal {rules : SymbolRules} {value : ℚ} {adjusted : Int}
    (legal : LegalPrice rules value)
    (near : priceExponent rules adjusted ≤ adjusted → 10 ^ adjusted ≤ value) :
    MultipleOf (priceExponent rules adjusted) value := by
  have grid : priceExponent rules adjusted ≤ 0 ∧
      priceExponent rules adjusted ≤
        max (adjusted - (priceSigFigs - 1)) (-rules.maxPriceDecimals) := by
    rw [priceExponent_eq]
    omega
  rcases legal with whole | ⟨significant, decimals⟩
  · exact whole.mono grid.1
  · by_cases reached : priceExponent rules adjusted ≤ adjusted
    · have digits := multiple_of_significant significant (near reached)
      rcases max_choice (adjusted - (priceSigFigs - 1 : Int)) (-rules.maxPriceDecimals) with
        isDigits | isDecimals
      · exact digits.mono (isDigits ▸ grid.2)
      · exact decimals.mono (isDecimals ▸ grid.2)
    · have figures : (1 : Int) ≤ priceSigFigs := by decide
      exact decimals.mono (by omega)

structure Positive (number : Decimal) : Prop where
  isFinite : number.IsFinite
  pos : 0 < number.exactly
  representable : Decimal.Representable number.exactly

private theorem cases_positive {number : Decimal} (isFinite : number.IsFinite)
    (pos : 0 < number.exactly) :
    ∃ coefficient exponent, number = .finite false coefficient exponent ∧ coefficient ≠ 0 ∧
      number.exactly = coefficient * 10 ^ exponent := by
  obtain ⟨negative, coefficient, exponent, rfl⟩ := Decimal.cases_finite isFinite
  rw [Decimal.exactly, Decimal.signed_mul_zpow] at pos
  have nonneg : (0 : ℚ) ≤ coefficient * 10 ^ exponent :=
    mul_nonneg (Nat.cast_nonneg _) (zpow_nonneg (by norm_num) _)
  cases negative with
  | true =>
      simp only [if_true] at pos
      linarith
  | false =>
      refine ⟨coefficient, exponent, rfl, ?_, by simp [Decimal.exactly, Decimal.signed]⟩
      rintro rfl
      simp at pos

private theorem exactly_positive (coefficient : Nat) (exponent : Int) :
    (Decimal.finite false coefficient exponent).exactly = coefficient * 10 ^ exponent := by
  simp [Decimal.exactly, Decimal.signed]

variable {target : Int} {side : OrderSide}

private theorem fits_step {kept : Nat} (low : -6 ≤ target) (high : target ≤ 0)
    (small : kept < 10 ^ Decimal.prec) : Decimal.Fits kept target := by
  have digits : Decimal.digitCount kept ≤ Decimal.prec := by
    by_cases isZero : kept = 0
    · subst isZero
      decide
    · exact Decimal.digitCount_le isZero small
  refine ⟨digits, ?_, ?_⟩
  · simp only [Decimal.eTiny, Decimal.eMin, Decimal.prec]
    omega
  · simp only [Decimal.prec] at digits
    simp only [Decimal.eMax]
    omega

/-- The size is on the grid of its asset, less than a step below what was asked for. -/
structure SizeQuantized (size : Decimal) (rules : SymbolRules) (result : Decimal) : Prop where
  returned : quantizeSize size rules = .ok result
  isFinite : result.IsFinite
  multiple : MultipleOf (-rules.szDecimals) result.exactly
  nonneg : 0 ≤ result.exactly
  le : result.exactly ≤ size.exactly
  near : size.exactly - result.exactly < 10 ^ (-rules.szDecimals : Int)
  again : quantizeSize result rules = .ok result

private theorem quantizeSize_eq (size : Decimal) (rules : SymbolRules) :
    quantizeSize size rules = size.quantize (.finite false 1 (-rules.szDecimals)) .down := by
  have within := rules.within
  have step := @Decimal.scaleb_one (-rules.szDecimals) (by simp only [priceMaxDecimals] at within; omega)
    (by omega)
  exact bind_of_ok step

private theorem sizeQuantized_iff {size : Decimal} (rules : SymbolRules) (isFinite : size.IsFinite)
    (pos : 0 < size.exactly) :
    (∃ result, SizeQuantized size rules result) ↔
      size.exactly < 10 ^ ((Decimal.prec : Int) - rules.szDecimals) := by
  obtain ⟨coefficient, exponent, rfl, nonzero, value⟩ := cases_positive isFinite pos
  have within := rules.within
  simp only [priceMaxDecimals] at within
  rw [value, ← @Decimal.adjusted_lt_iff false _ _ _ nonzero]
  constructor
  · rintro ⟨result, quantized⟩
    by_contra many
    have raised := quantized.returned
    rw [quantizeSize_eq, Decimal.quantize_of_many nonzero (by omega)] at raised
    cases raised
  · intro few
    have cut := @Decimal.cutBelow_rescaled .down (.inl rfl) coefficient exponent (-rules.szDecimals)
    have below := (Decimal.adjusted_lt_iff nonzero).mp few
    have unit : (0 : ℚ) < 10 ^ (-rules.szDecimals : Int) := zpow_pos (by norm_num) _
    generalize isKept : Decimal.rescaled .down false coefficient exponent (-rules.szDecimals) = kept
      at cut
    have small : kept < 10 ^ Decimal.prec := by
      have scaled := cut.le.trans_lt below
      rw [sub_eq_add_neg, zpow_add₀ (by norm_num), zpow_natCast] at scaled
      exact_mod_cast lt_of_mul_lt_mul_right scaled unit.le
    have fits : Decimal.Fits kept (-rules.szDecimals) := fits_step (by omega) (by omega) small
    have most : (Decimal.finite false coefficient exponent).adjusted ≤ Decimal.eMax := by
      simp only [Decimal.prec] at few
      simp only [Decimal.eMax]
      omega
    have result := @Decimal.quantize_of_fits .down false coefficient exponent (-rules.szDecimals)
      nonzero fits.least most (by omega) (isKept.symm ▸ fits)
    rw [isKept] at result
    refine ⟨.finite false kept (-rules.szDecimals), ?_, trivial, ?_, ?_, ?_, ?_, ?_⟩
    · rw [quantizeSize_eq]
      exact result
    · exact ⟨kept, by rw [exactly_positive]; rfl⟩
    · rw [exactly_positive]
      exact mul_nonneg (Nat.cast_nonneg _) unit.le
    · rw [value, exactly_positive]
      exact cut.le
    · rw [value, exactly_positive]
      linarith [cut.lt]
    · rw [quantizeSize_eq]
      exact Decimal.quantize_fixed fits

/-- The price is legal, not worse than what was asked for, and no legal price is between them. -/
structure PriceQuantized (price : Decimal) (side : OrderSide) (rules : SymbolRules)
    (result : Decimal) : Prop where
  returned : quantizePrice price side rules = .ok result
  isFinite : result.IsFinite
  legal : LegalPrice rules result.exactly
  buy : side = .buy → result.exactly ≤ price.exactly
  sell : side = .sell → price.exactly ≤ result.exactly
  nearest : ∀ other, LegalPrice rules other →
    ¬(result.exactly < other ∧ other < price.exactly) ∧
      ¬(price.exactly < other ∧ other < result.exactly)
  again : ∃ repeated, quantizePrice result side rules = .ok repeated ∧ repeated.IsFinite ∧
    repeated.exactly = result.exactly

private theorem quantizePrice_whole {price : Decimal} (side : OrderSide) (rules : SymbolRules)
    (isFinite : price.IsFinite) (isWhole : MultipleOf 0 price.exactly) :
    ∃ result, quantizePrice price side rules = .ok result ∧ result.IsFinite ∧
      result.exactly = price.exactly := by
  obtain ⟨whole, rounded, wholeFinite, _, kept⟩ := Decimal.toIntegralValue_spec isFinite
  obtain ⟨count, same⟩ := isWhole
  rw [zpow_zero, mul_one] at same
  have equal := Decimal.equal_exact isFinite wholeFinite
  rw [decide_eq_true (kept count same).symm] at equal
  refine ⟨whole, ?_, wholeFinite, kept count same⟩
  unfold quantizePrice
  rw [bind_of_ok rounded, bind_of_ok equal]
  rfl

def directedMode (side : OrderSide) : Decimal.RoundingMode :=
  if side = .buy then .floor else .ceiling

private theorem quantizePrice_fraction {price : Decimal} (side : OrderSide) (rules : SymbolRules)
    (isFinite : price.IsFinite) (fraction : ¬MultipleOf 0 price.exactly) :
    quantizePrice price side rules =
      price.quantize (.finite false 1 (priceExponent rules price.adjusted))
        (directedMode side) := by
  obtain ⟨whole, rounded, wholeFinite, ⟨count, isCount⟩, _⟩ := Decimal.toIntegralValue_spec isFinite
  have different : price.exactly ≠ whole.exactly := by
    intro same
    exact fraction ⟨count, by rw [same, isCount, zpow_zero, mul_one]⟩
  have equal := Decimal.equal_exact isFinite wholeFinite
  rw [decide_eq_false different] at equal
  have bounds : -6 ≤ priceExponent rules price.adjusted ∧
      priceExponent rules price.adjusted ≤ 0 := by
    rw [priceExponent_eq]
    simp only [SymbolRules.maxPriceDecimals, priceMaxDecimals]
    omega
  have step := Decimal.scaleb_one bounds.1 bounds.2
  unfold quantizePrice
  rw [bind_of_ok rounded, bind_of_ok equal]
  exact bind_of_ok step

def Directed (side : OrderSide) (kept : Nat) (target : Int) (value : ℚ) : Prop :=
  match side with
  | .buy => Decimal.CutBelow kept target value
  | .sell => Decimal.CutAbove kept target value

private theorem directed_rescaled (side : OrderSide) (coefficient : Nat) (exponent target : Int) :
    Directed side (Decimal.rescaled (directedMode side) false coefficient exponent target) target
      (coefficient * 10 ^ exponent) := by
  cases side with
  | buy => exact Decimal.cutBelow_rescaled (.inr rfl) coefficient exponent target
  | sell => exact Decimal.cutAbove_rescaled coefficient exponent target

theorem Directed.le_pow {kept power : Nat} {value : ℚ} (directed : Directed side kept target value)
    (below : value < 10 ^ ((power : Int) + target)) : kept ≤ 10 ^ power := by
  have unit : (0 : ℚ) < 10 ^ target := zpow_pos (by norm_num) _
  rw [zpow_add₀ (by norm_num), zpow_natCast] at below
  have less : (kept : ℚ) * 10 ^ target < (10 ^ power + 1) * 10 ^ target := by
    cases side with
    | buy => linarith [directed.le]
    | sell => linarith [directed.lt]
  have whole : kept < 10 ^ power + 1 := by
    exact_mod_cast lt_of_mul_lt_mul_right less unit.le
  exact Nat.lt_succ_iff.mp whole

theorem Directed.nearest {kept : Nat} {value other : ℚ} (directed : Directed side kept target value)
    (multiple : MultipleOf target other) :
    ¬(kept * 10 ^ target < other ∧ other < value) ∧
      ¬(value < other ∧ other < kept * 10 ^ target) := by
  have unit : (0 : ℚ) < 10 ^ target := zpow_pos (by norm_num) _
  obtain ⟨count, rfl⟩ := multiple
  constructor
  · rintro ⟨above, below⟩
    cases side with
    | buy =>
        have low : ((kept : Int) : ℚ) < count := by
          exact_mod_cast lt_of_mul_lt_mul_right above unit.le
        have high : (count : ℚ) < ((kept + 1 : Int) : ℚ) := by
          exact_mod_cast lt_of_mul_lt_mul_right (below.trans directed.lt) unit.le
        have low := Int.cast_lt.mp low
        have high := Int.cast_lt.mp high
        omega
    | sell => linarith [directed.le]
  · rintro ⟨above, below⟩
    cases side with
    | buy => linarith [directed.le]
    | sell =>
        have low : ((kept - 1 : Int) : ℚ) < count := by
          push_cast
          refine lt_of_mul_lt_mul_right ?_ unit.le
          linarith [directed.lt]
        have high : (count : ℚ) < ((kept : Int) : ℚ) := by
          exact_mod_cast lt_of_mul_lt_mul_right below unit.le
        have low := Int.cast_lt.mp low
        have high := Int.cast_lt.mp high
        omega

theorem Directed.eq_of_multiple {kept : Nat} {value : ℚ}
    (directed : Directed side kept target value) (multiple : MultipleOf target value) :
    kept * 10 ^ target = value := by
  have unit : (0 : ℚ) < 10 ^ target := zpow_pos (by norm_num) _
  obtain ⟨count, rfl⟩ := multiple
  have same : (kept : Int) = count := by
    cases side with
    | buy =>
        have low : ((kept : Int) : ℚ) ≤ count := by
          exact_mod_cast le_of_mul_le_mul_right directed.le unit
        have high : (count : ℚ) < ((kept + 1 : Int) : ℚ) := by
          exact_mod_cast lt_of_mul_lt_mul_right directed.lt unit.le
        have low := Int.cast_le.mp low
        have high := Int.cast_lt.mp high
        omega
    | sell =>
        have low : ((kept - 1 : Int) : ℚ) < count := by
          push_cast
          refine lt_of_mul_lt_mul_right ?_ unit.le
          linarith [directed.lt]
        have high : (count : ℚ) ≤ ((kept : Int) : ℚ) := by
          exact_mod_cast le_of_mul_le_mul_right directed.le unit
        have low := Int.cast_lt.mp low
        have high := Int.cast_le.mp high
        omega
  rw [← same]
  push_cast
  rfl

/-- A price between two powers of ten, and the coefficient it is rounded to on its grid. -/
structure Gridded (rules : SymbolRules) (side : OrderSide) (adjusted : Int) (kept : Nat)
    (value : ℚ) : Prop where
  directed : Directed side kept (priceExponent rules adjusted) value
  reached : 10 ^ adjusted ≤ value
  below : value < 10 ^ (adjusted + 1)

namespace Gridded

variable {rules : SymbolRules} {side : OrderSide} {adjusted : Int} {kept : Nat} {value : ℚ}

private theorem few (gridded : Gridded rules side adjusted kept value)
    (fraction : priceExponent rules adjusted ≠ 0) : kept ≤ 10 ^ priceSigFigs := by
  have isExponent := priceExponent_eq rules adjusted
  have figures : (priceSigFigs : Int) = 5 := rfl
  exact gridded.directed.le_pow
    (gridded.below.trans_le (zpow_le_zpow_right₀ (by norm_num) (by omega)))

private theorem legal (gridded : Gridded rules side adjusted kept value) :
    LegalPrice rules (kept * 10 ^ priceExponent rules adjusted) := by
  have isExponent := priceExponent_eq rules adjusted
  have figures : (priceSigFigs : Int) = 5 := rfl
  have multiple : MultipleOf (priceExponent rules adjusted)
      (kept * 10 ^ priceExponent rules adjusted) := ⟨kept, by push_cast; rfl⟩
  by_cases isWhole : priceExponent rules adjusted = 0
  · exact .inl (multiple.mono isWhole.ge)
  · refine .inr ⟨?_, multiple.mono (by omega)⟩
    rcases (gridded.few isWhole).lt_or_eq with less | carried
    · refine ⟨kept, priceExponent rules adjusted, ?_, by push_cast; rfl⟩
      rw [Nat.abs_cast]
      exact_mod_cast less
    · refine ⟨1, (priceSigFigs : Int) + priceExponent rules adjusted, by decide, ?_⟩
      rw [carried, zpow_add₀ (by norm_num), zpow_natCast]
      push_cast
      ring

private theorem reached_kept (gridded : Gridded rules side adjusted kept value)
    (within : priceExponent rules adjusted ≤ adjusted) :
    (10 : ℚ) ^ adjusted ≤ kept * 10 ^ priceExponent rules adjusted := by
  have directed := gridded.directed
  have reached := gridded.reached
  generalize priceExponent rules adjusted = target at within directed
  have unit : (0 : ℚ) < 10 ^ target := zpow_pos (by norm_num) _
  cases side with
  | buy =>
      have shift : adjusted = ((adjusted - target).toNat : Int) + target := by omega
      rw [shift, zpow_add₀ (by norm_num), zpow_natCast] at reached ⊢
      have whole : 10 ^ (adjusted - target).toNat < kept + 1 := by
        exact_mod_cast lt_of_mul_lt_mul_right (reached.trans_lt directed.lt) unit.le
      exact mul_le_mul_of_nonneg_right (by exact_mod_cast Nat.lt_succ_iff.mp whole) unit.le
  | sell => exact reached.trans directed.le

private theorem small (gridded : Gridded rules side adjusted kept value) :
    MultipleOf 0 (kept * 10 ^ priceExponent rules adjusted) ∨
      (kept : ℚ) * 10 ^ priceExponent rules adjusted < 10 ^ (27 : Int) := by
  have isExponent := priceExponent_eq rules adjusted
  have figures : (priceSigFigs : Int) = 5 := rfl
  by_cases isWhole : priceExponent rules adjusted = 0
  · rw [isWhole]
    exact .inl ⟨kept, by push_cast; rfl⟩
  · refine .inr ?_
    calc (kept : ℚ) * 10 ^ priceExponent rules adjusted
        ≤ 10 ^ priceSigFigs * 10 ^ priceExponent rules adjusted :=
          mul_le_mul_of_nonneg_right (by exact_mod_cast gridded.few isWhole)
            (zpow_nonneg (by norm_num) _)
      _ = 10 ^ ((priceSigFigs : Int) + priceExponent rules adjusted) := by
          rw [zpow_add₀ (by norm_num), zpow_natCast]
      _ < 10 ^ (27 : Int) := zpow_lt_zpow_right₀ (by norm_num) (by omega)

private theorem nearest (gridded : Gridded rules side adjusted kept value) {other : ℚ}
    (legal : LegalPrice rules other) :
    ¬(kept * 10 ^ priceExponent rules adjusted < other ∧ other < value) ∧
      ¬(value < other ∧ other < kept * 10 ^ priceExponent rules adjusted) := by
  constructor
  · rintro ⟨above, below⟩
    have multiple := multiple_of_legal legal fun within =>
      (gridded.reached_kept within).trans above.le
    exact (gridded.directed.nearest multiple).1 ⟨above, below⟩
  · rintro ⟨above, below⟩
    have multiple := multiple_of_legal legal fun _ => gridded.reached.trans above.le
    exact (gridded.directed.nearest multiple).2 ⟨above, below⟩

end Gridded

private theorem quantizePrice_gridded {price : Decimal} (side : OrderSide) (rules : SymbolRules)
    (isFinite : price.IsFinite) (pos : 0 < price.exactly) (fraction : ¬MultipleOf 0 price.exactly)
    (small : price.exactly < 10 ^ (27 : Int)) :
    ∃ kept, quantizePrice price side rules =
        .ok (.finite false kept (priceExponent rules price.adjusted)) ∧
      Gridded rules side price.adjusted kept price.exactly := by
  have isQuantized := quantizePrice_fraction side rules isFinite fraction
  obtain ⟨coefficient, exponent, rfl, nonzero, value⟩ := cases_positive isFinite pos
  have directed := directed_rescaled side coefficient exponent
    (priceExponent rules (Decimal.finite false coefficient exponent).adjusted)
  rw [value] at small ⊢
  have few := (@Decimal.adjusted_lt_iff false _ _ _ nonzero).mpr small
  have reached : (10 : ℚ) ^ (Decimal.finite false coefficient exponent).adjusted ≤
      coefficient * 10 ^ exponent :=
    not_lt.mp fun below => lt_irrefl _ ((Decimal.adjusted_lt_iff nonzero).mpr below)
  have below : (coefficient : ℚ) * 10 ^ exponent <
      10 ^ ((Decimal.finite false coefficient exponent).adjusted + 1) :=
    (Decimal.adjusted_lt_iff nonzero).mp (lt_add_one _)
  generalize isAdjusted : (Decimal.finite false coefficient exponent).adjusted = adjusted
    at directed few reached below isQuantized ⊢
  have isExponent := priceExponent_eq rules adjusted
  have figures : (priceSigFigs : Int) = 5 := rfl
  have decimals : (rules.maxPriceDecimals : Int) ≤ 6 := by
    simp only [SymbolRules.maxPriceDecimals, priceMaxDecimals]
    omega
  have gridded : Gridded rules side adjusted _ (coefficient * 10 ^ exponent) :=
    ⟨directed, reached, below⟩
  generalize priceExponent rules adjusted = target at directed isQuantized isExponent gridded ⊢
  have kept := directed.le_pow (below.trans_le
    (zpow_le_zpow_right₀ (by norm_num) (by omega : adjusted + 1 ≤ ((27 : Nat) : Int) + target)))
  have fits := fits_step (by omega : -6 ≤ target) (by omega)
    (kept.trans_lt (Nat.pow_lt_pow_right (by decide) (by decide : 27 < Decimal.prec)))
  refine ⟨_, ?_, gridded⟩
  rw [isQuantized]
  refine Decimal.quantize_of_fits nonzero fits.least ?_ ?_ fits
  · rw [isAdjusted]
    simp only [Decimal.eMax]
    omega
  · rw [isAdjusted]
    simp only [Decimal.prec]
    omega

private theorem quantizePrice_legal {price : Decimal} (side : OrderSide) (rules : SymbolRules)
    (isFinite : price.IsFinite) (nonneg : 0 ≤ price.exactly)
    (legal : LegalPrice rules price.exactly)
    (small : MultipleOf 0 price.exactly ∨ price.exactly < 10 ^ (27 : Int)) :
    ∃ result, quantizePrice price side rules = .ok result ∧ result.IsFinite ∧
      result.exactly = price.exactly := by
  by_cases isWhole : MultipleOf 0 price.exactly
  · exact quantizePrice_whole side rules isFinite isWhole
  · have pos : 0 < price.exactly := by
      refine nonneg.lt_of_ne fun zero => isWhole ⟨0, ?_⟩
      rw [← zero]
      simp
    obtain ⟨kept, quantized, gridded⟩ :=
      quantizePrice_gridded side rules isFinite pos isWhole (small.resolve_left isWhole)
    have multiple := multiple_of_legal legal fun _ => gridded.reached
    refine ⟨_, quantized, trivial, ?_⟩
    rw [exactly_positive]
    exact gridded.directed.eq_of_multiple multiple

private theorem small_of_fraction {value : ℚ} (representable : Decimal.Representable value)
    (fraction : ¬MultipleOf 0 value) : value < 10 ^ (27 : Int) := by
  obtain ⟨coefficient, exponent, few, _, _, rfl⟩ := representable
  have unit : (0 : ℚ) < 10 ^ exponent := zpow_pos (by norm_num) _
  have below : exponent < 0 := by
    by_contra nonneg
    have multiple : MultipleOf exponent (coefficient * 10 ^ exponent) := ⟨coefficient, rfl⟩
    exact fraction (multiple.mono (by omega))
  have small : (coefficient : ℚ) < 10 ^ Decimal.prec := by
    have bound : coefficient < 10 ^ Decimal.prec := by
      have size := Int.le_natAbs (a := coefficient)
      have cast : (coefficient.natAbs : Int) < 10 ^ Decimal.prec := by exact_mod_cast few
      omega
    exact_mod_cast bound
  calc (coefficient : ℚ) * 10 ^ exponent < 10 ^ Decimal.prec * 10 ^ exponent :=
        mul_lt_mul_of_pos_right small unit
    _ = 10 ^ ((Decimal.prec : Int) + exponent) := by rw [zpow_add₀ (by norm_num), zpow_natCast]
    _ ≤ 10 ^ (27 : Int) := zpow_le_zpow_right₀ (by norm_num) (by simp only [Decimal.prec]; omega)

private theorem priceQuantized_exists {price : Decimal} (side : OrderSide) (rules : SymbolRules)
    (positive : Positive price) : ∃ result, PriceQuantized price side rules result := by
  have isFinite := positive.isFinite
  by_cases isWhole : MultipleOf 0 price.exactly
  · obtain ⟨result, quantized, resultFinite, same⟩ :=
      quantizePrice_whole side rules isFinite isWhole
    refine ⟨result, quantized, resultFinite, .inl (same ▸ isWhole), fun _ => same.le,
      fun _ => same.ge, fun other _ => ?_, ?_⟩
    · rw [same]
      exact ⟨fun between => lt_asymm between.1 between.2,
        fun between => lt_asymm between.1 between.2⟩
    · exact quantizePrice_whole side rules resultFinite (same ▸ isWhole)
  · have small := small_of_fraction positive.representable isWhole
    obtain ⟨kept, quantized, gridded⟩ :=
      quantizePrice_gridded side rules isFinite positive.pos isWhole small
    have value := exactly_positive kept (priceExponent rules price.adjusted)
    have directed := gridded.directed
    refine ⟨_, quantized, trivial, ?_, ?_, ?_, fun other legal => ?_, ?_⟩
    · rw [value]
      exact gridded.legal
    · rintro rfl
      rw [value]
      exact directed.le
    · rintro rfl
      rw [value]
      exact directed.le
    · rw [value]
      exact gridded.nearest legal
    · refine quantizePrice_legal side rules trivial ?_ ?_ ?_
      · rw [value]
        exact mul_nonneg (Nat.cast_nonneg _) (zpow_nonneg (by norm_num) _)
      · rw [value]
        exact gridded.legal
      · rw [value]
        exact gridded.small

/-- A price and a size are quantized just when the size has few enough digits before its step. -/
theorem quantized_iff {price size : Decimal} (side : OrderSide) (rules : SymbolRules)
    (pricePositive : Positive price) (sizePositive : Positive size) :
    ((∃ result, PriceQuantized price side rules result) ∧
        ∃ result, SizeQuantized size rules result) ↔
      size.exactly < 10 ^ ((Decimal.prec : Int) - rules.szDecimals) := by
  rw [sizeQuantized_iff rules sizePositive.isFinite sizePositive.pos]
  exact ⟨fun both => both.2, fun few => ⟨priceQuantized_exists side rules pricePositive, few⟩⟩

private theorem positive_of_small {coefficient : Nat} {exponent : Int} (nonzero : 0 < coefficient)
    (few : coefficient < 10 ^ Decimal.prec) (least : Decimal.eTiny ≤ exponent)
    (most : exponent ≤ Decimal.eTop) : Positive (.finite false coefficient exponent) := by
  refine ⟨trivial, ?_, coefficient, exponent, few, least, most, rfl⟩
  rw [exactly_positive]
  exact mul_pos (by exact_mod_cast nonzero) (zpow_pos (by norm_num) _)

def fiveDecimals : SymbolRules := ⟨5, by decide⟩

theorem quantized_iff_order :
    (∃ result, PriceQuantized (.finite false 1234567 (-4)) .sell fiveDecimals result) ∧
      ∃ result, SizeQuantized (.finite false 194174757 (-6)) fiveDecimals result := by
  refine (quantized_iff .sell fiveDecimals
    (positive_of_small (by decide) (by decide) (by decide) (by decide))
    (positive_of_small (by decide) (by decide) (by decide) (by decide))).mpr ?_
  rw [exactly_positive]
  norm_num [fiveDecimals, Decimal.prec]

def noDecimals : SymbolRules := ⟨0, by decide⟩

def hugeSize : Decimal := .finite false 1 28

/-- The size is a positive number of the context, and raises. -/
theorem hugeSize_raises :
    Positive hugeSize ∧ quantizeSize hugeSize noDecimals = .error .invalidOperation ∧
      ¬∃ result, SizeQuantized hugeSize noDecimals result := by
  have raised : quantizeSize hugeSize noDecimals = .error .invalidOperation := by
    decide +kernel
  refine ⟨positive_of_small (by decide) (by decide) (by decide) (by decide), raised, ?_⟩
  rintro ⟨result, quantized⟩
  cases raised.symm.trans quantized.returned

end TurtleExecution.TradingSystem

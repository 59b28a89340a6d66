/-
Numbers without their zeros at the end, and their texts without an exponent.

Equal numbers have one reduced form, so that their texts are the same, up to the sign
of a zero.
-/

import TurtleExecution.Foundation.DecimalRounding

set_option autoImplicit false

namespace TurtleExecution

namespace Decimal

/-- A number without its zeros at the end, as far as the exponents allow. -/
def reduce : Decimal → Decimal
  | finite negative 0 _ => .finite negative 0 0
  | finite negative coefficient exponent =>
      let (kept, place) := dropZeros (eMax - exponent).toNat coefficient exponent
      .finite negative kept place
  | other => other

def normalize : Decimal → Except ArithmeticError Decimal
  | nan true => .error .invalidOperation
  | finite negative coefficient exponent => (fix negative coefficient exponent).map reduce
  | other => .ok other

def fixedDigits (coefficient : Nat) (exponent : Int) : List Char :=
  let digits := Nat.toDigits 10 coefficient
  let dotPlace := exponent + digits.length
  if dotPlace ≤ 0 then '0' :: '.' :: (List.replicate (-dotPlace).toNat '0' ++ digits)
  else if digits.length ≤ dotPlace then
    digits ++ List.replicate (dotPlace - digits.length).toNat '0'
  else digits.take dotPlace.toNat ++ '.' :: digits.drop dotPlace.toNat

/-- `format(number, "f")`, where a zero has no zeros before its point. -/
def fixedText : Decimal → String
  | infinity negative => if negative then "-Infinity" else "Infinity"
  | nan signaling => if signaling then "sNaN" else "NaN"
  | finite negative coefficient exponent =>
      let place := if coefficient = 0 ∧ 0 < exponent then 0 else exponent
      String.ofList ((if negative then ['-'] else []) ++ fixedDigits coefficient place)

/-- The coefficient of an unsigned numeral and the number of its decimals. -/
def readDigits (chars : List Char) : Option (Nat × Nat) :=
  let whole := chars.takeWhile Char.isDigit
  match chars.dropWhile Char.isDigit with
  | [] => if whole = [] then none else some (Nat.ofDigitChars 10 whole 0, 0)
  | '.' :: decimals =>
      if decimals.all Char.isDigit ∧ whole ++ decimals ≠ [] then
        some (Nat.ofDigitChars 10 (whole ++ decimals) 0, decimals.length)
      else none
  | _ => none

/-- `Decimal(text)`, of a numeral without an exponent. -/
def ofFixedText? (text : String) : Option Decimal :=
  match text.toList with
  | '-' :: chars => (readDigits chars).map fun (coefficient, places) =>
      .finite true coefficient (-places)
  | chars => (readDigits chars).map fun (coefficient, places) =>
      .finite false coefficient (-places)

variable {coefficient : Nat} {number : Decimal} {negative : Bool} {exponent : Int}

theorem cases_finite (isFinite : number.IsFinite) :
    ∃ negative coefficient exponent, number = .finite negative coefficient exponent := by
  cases number with
  | finite negative coefficient exponent => exact ⟨negative, coefficient, exponent, rfl⟩
  | infinity negative => exact isFinite.elim
  | nan signaling => exact isFinite.elim

def Reduced : Decimal → Prop
  | finite _ coefficient exponent =>
      if coefficient = 0 then exponent = 0
      else exponent ≤ eMax ∧ (coefficient % 10 = 0 → exponent = eMax)
  | _ => True

theorem dropZeros_reduced (drop : Nat) {coefficient : Nat} (nonzero : coefficient ≠ 0)
    {exponent : Int} :
    (dropZeros drop coefficient exponent).1 ≠ 0 ∧
      (dropZeros drop coefficient exponent).2 ≤ exponent + drop ∧
      ((dropZeros drop coefficient exponent).1 % 10 = 0 →
        (dropZeros drop coefficient exponent).2 = exponent + drop) := by
  induction drop generalizing coefficient exponent with
  | zero => simp [dropZeros, nonzero]
  | succ drop ih =>
      unfold dropZeros
      split
      · rename_i divides
        have smaller : coefficient / 10 ≠ 0 := by omega
        obtain ⟨kept, within, ends⟩ := @ih _ smaller (exponent + 1)
        refine ⟨kept, ?_, fun zero => ?_⟩
        · push_cast
          omega
        · rw [ends zero]
          push_cast
          omega
      · rename_i digit
        refine ⟨nonzero, ?_, fun zero => absurd zero digit⟩
        push_cast
        omega

structure Fits (coefficient : Nat) (exponent : Int) : Prop where
  digits : digitCount coefficient ≤ prec
  least : eTiny ≤ exponent
  most : (digitCount coefficient : Int) + exponent ≤ eMax + 1

theorem fix_fits (fixed : fix negative coefficient exponent = .ok number) :
    ∃ kept place, number = .finite negative kept place ∧ (kept ≠ 0 → Fits kept place) := by
  unfold fix at fixed
  by_cases isZero : coefficient = 0
  · rw [if_pos isZero] at fixed
    cases fixed
    exact ⟨0, _, rfl, fun nonzero => absurd rfl nonzero⟩
  rw [if_neg isZero] at fixed
  dsimp only at fixed
  generalize isLeast : (digitCount coefficient : Int) + exponent - prec = least at fixed
  have eTop_eq : eTop = eMax + 1 - prec := by unfold eTop; omega
  have tiny_le : eTiny ≤ eTop := by decide
  split at fixed
  · cases fixed
  rename_i inRange
  split at fixed
  · rename_i rounds
    have bound : roundHalfEven coefficient (max least eTiny - exponent).toNat ≤ 10 ^ prec :=
      roundHalfEven_le (by omega)
    generalize roundHalfEven coefficient (max least eTiny - exponent).toNat = rounded
      at fixed bound
    split at fixed
    · rename_i carries
      split at fixed
      · cases fixed
      rename_i below
      cases fixed
      refine ⟨_, _, rfl, fun nonzero => ?_⟩
      have digits : digitCount (rounded / 10) ≤ prec := by
        refine digitCount_le nonzero ?_
        have positive : 0 < 10 ^ prec := Nat.pow_pos (by decide)
        omega
      exact ⟨digits, by omega, by omega⟩
    · rename_i small
      cases fixed
      exact ⟨_, _, rfl, fun _ => ⟨Nat.not_lt.mp small, by omega, by omega⟩⟩
  · rename_i exact
    cases fixed
    exact ⟨_, _, rfl, fun _ => ⟨by omega, by omega, by omega⟩⟩

theorem Fits.representable (fits : Fits coefficient exponent) (negative : Bool) :
    Representable (signed negative coefficient * 10 ^ exponent) := by
  by_cases below : exponent ≤ eTop
  · refine ⟨signed negative coefficient, exponent, ?_, fits.least, below, rfl⟩
    rw [natAbs_signed]
    exact lt_pow_digitCount.trans_le (Nat.pow_le_pow_right (by decide) fits.digits)
  · -- The exponent is above the greatest one, and the coefficient takes the difference.
    have shift : exponent = ((exponent - eTop).toNat : Int) + eTop := by omega
    refine ⟨signed negative (coefficient * 10 ^ (exponent - eTop).toNat), eTop, ?_, by decide,
      le_refl _, ?_⟩
    · rw [natAbs_signed]
      have eTop_eq : eTop = eMax + 1 - prec := by unfold eTop; omega
      have most := fits.most
      calc coefficient * 10 ^ (exponent - eTop).toNat
          < 10 ^ digitCount coefficient * 10 ^ (exponent - eTop).toNat :=
            Nat.mul_lt_mul_of_pos_right lt_pow_digitCount (Nat.pow_pos (by decide))
        _ = 10 ^ (digitCount coefficient + (exponent - eTop).toNat) := (Nat.pow_add _ _ _).symm
        _ ≤ 10 ^ prec := Nat.pow_le_pow_right (by decide) (by omega)
    · rw [signed_mul]
      conv_lhs => rw [shift, zpow_add₀ (by norm_num), zpow_natCast]
      push_cast
      ring

theorem reduce_reduced (fits : coefficient ≠ 0 → Fits coefficient exponent) :
    (reduce (.finite negative coefficient exponent)).Reduced := by
  cases coefficient with
  | zero => rfl
  | succ coefficient =>
      have nonzero : coefficient + 1 ≠ 0 := Nat.succ_ne_zero _
      have most := (fits nonzero).most
      have positive : 1 ≤ digitCount (coefficient + 1) := Nat.succ_le_succ (Nat.zero_le _)
      obtain ⟨kept, within, ends⟩ :=
        @dropZeros_reduced (eMax - exponent).toNat _ nonzero exponent
      change Reduced (.finite negative _ _)
      rw [Reduced, if_neg kept]
      exact ⟨by omega, fun zero => by rw [ends zero]; omega⟩

theorem reduced_place {coefficient other : Nat} {exponent otherExponent : Int}
    (below : exponent ≤ otherExponent) (most : otherExponent ≤ eMax)
    (ends : coefficient % 10 = 0 → exponent = eMax)
    (same : (coefficient : ℚ) * 10 ^ exponent = other * 10 ^ otherExponent) :
    coefficient = other ∧ exponent = otherExponent := by
  have scaled := coefficient_eq_of_value_eq below same
  rcases below.eq_or_lt with rfl | less
  · rw [sub_self, Int.toNat_zero, Nat.pow_zero, Nat.mul_one] at scaled
    exact ⟨scaled, rfl⟩
  · obtain ⟨drop, isDrop⟩ : ∃ drop, (otherExponent - exponent).toNat = drop + 1 :=
      ⟨(otherExponent - exponent).toNat - 1, by omega⟩
    rw [isDrop, Nat.pow_succ, ← Nat.mul_assoc] at scaled
    have isLast := ends (by rw [scaled]; exact Nat.mul_mod_left _ _)
    omega

theorem reduced_unique {number other : Decimal} (isFinite : number.IsFinite)
    (otherFinite : other.IsFinite) (isReduced : number.Reduced) (otherReduced : other.Reduced)
    (same : number.exactly = other.exactly) (nonzero : number.exactly ≠ 0) : number = other := by
  obtain ⟨negative, coefficient, exponent, rfl⟩ := cases_finite isFinite
  obtain ⟨otherNegative, otherCoefficient, otherExponent, rfl⟩ := cases_finite otherFinite
  have otherNonzero := same ▸ nonzero
  simp only [exactly, signed_mul_zpow] at same nonzero otherNonzero
  have isCoefficient : coefficient ≠ 0 := by
    rintro rfl
    simp at nonzero
  have isOther : otherCoefficient ≠ 0 := by
    rintro rfl
    simp at otherNonzero
  rw [Reduced, if_neg isCoefficient] at isReduced
  rw [Reduced, if_neg isOther] at otherReduced
  have positive : (0 : ℚ) < coefficient * 10 ^ exponent :=
    mul_pos (Nat.cast_pos.mpr (Nat.pos_of_ne_zero isCoefficient)) (zpow_pos (by norm_num) _)
  have otherPositive : (0 : ℚ) < otherCoefficient * 10 ^ otherExponent :=
    mul_pos (Nat.cast_pos.mpr (Nat.pos_of_ne_zero isOther)) (zpow_pos (by norm_num) _)
  have sizes : negative = otherNegative ∧
      (coefficient : ℚ) * 10 ^ exponent = otherCoefficient * 10 ^ otherExponent := by
    cases negative <;> cases otherNegative <;>
      simp only [if_true, Bool.false_eq_true, if_false] at same
    · exact ⟨rfl, same⟩
    · linarith
    · linarith
    · exact ⟨rfl, neg_inj.mp same⟩
  obtain ⟨rfl, sizes⟩ := sizes
  rcases le_total exponent otherExponent with below | above
  · obtain ⟨rfl, rfl⟩ := reduced_place below otherReduced.1 isReduced.2 sizes
    rfl
  · obtain ⟨rfl, rfl⟩ := reduced_place above isReduced.1 otherReduced.2 sizes.symm
    rfl

theorem reduce_finite {number : Decimal} (isFinite : number.IsFinite) :
    (reduce number).IsFinite ∧ (reduce number).exactly = number.exactly := by
  obtain ⟨negative, coefficient, exponent, rfl⟩ := cases_finite isFinite
  cases coefficient with
  | zero => exact ⟨trivial, by cases negative <;> simp [reduce, exactly, signed]⟩
  | succ coefficient =>
      refine ⟨trivial, ?_⟩
      change (signed negative _ : ℚ) * _ = signed negative _ * _
      rw [signed_mul_zpow, signed_mul_zpow, dropZeros_value]

structure Normalizes (value : ℚ) (number : Decimal) : Prop where
  isFinite : number.IsFinite
  isReduced : number.Reduced
  isNearest : number.exactly = nearest value
  inRange : InRange value
  representable : Representable number.exactly

theorem normalize_cases {value : Decimal} (isFinite : value.IsFinite) :
    (∃ number, value.normalize = .ok number ∧ Normalizes value.exactly number) ∨
      value.normalize = .error .overflow ∧ ¬InRange value.exactly := by
  obtain ⟨negative, coefficient, exponent, rfl⟩ := cases_finite isFinite
  have rounds := fix_rounds negative coefficient exponent
  have isNormalized : normalize (.finite negative coefficient exponent) =
      (fix negative coefficient exponent).map reduce := rfl
  rw [isNormalized]
  cases fixed : fix negative coefficient exponent with
  | error raised =>
      rw [fixed] at rounds
      cases rounds with
      | overflow outOfRange => exact .inr ⟨rfl, not_lt.mpr outOfRange⟩
  | ok number =>
      rw [fixed] at rounds
      obtain ⟨kept, place, rfl, fits⟩ := fix_fits fixed
      have isReduced := @reduce_finite (.finite negative kept place) trivial
      cases rounds with
      | rounded isFinite isNearest inRange =>
          refine .inl ⟨_, rfl, isReduced.1, reduce_reduced fits, isReduced.2.trans isNearest,
            inRange, ?_⟩
          rw [isReduced.2]
          by_cases isZero : kept = 0
          · refine ⟨0, 0, by decide, by decide, by decide, ?_⟩
            subst isZero
            cases negative <;> simp [exactly, signed]
          · exact (fits isZero).representable negative

/-- A numeral without an exponent and without zeros at the end of its decimals. -/
structure PlainNumeral (negative : Bool) (whole decimals : List Char) (text : String) : Prop where
  spelled : text.toList = (if negative then ['-'] else []) ++
    (whole ++ if decimals = [] then [] else '.' :: decimals)
  nonempty : whole ≠ []
  digits : ∀ c ∈ whole ++ decimals, c.isDigit = true
  ends : decimals.getLast? ≠ some '0'

theorem readDigits_plain {whole decimals : List Char} (nonempty : whole ≠ [])
    (digits : ∀ c ∈ whole ++ decimals, c.isDigit = true) :
    readDigits (whole ++ if decimals = [] then [] else '.' :: decimals) =
      some (Nat.ofDigitChars 10 (whole ++ decimals) 0, decimals.length) := by
  have isWhole : ∀ c ∈ whole, c.isDigit = true :=
    fun c member => digits c (List.mem_append_left _ member)
  unfold readDigits
  rw [List.takeWhile_append_of_pos isWhole, List.dropWhile_append_of_pos isWhole]
  by_cases isEmpty : decimals = []
  · subst isEmpty
    simp [nonempty]
  · have areDigits : decimals.all Char.isDigit = true :=
      List.all_eq_true.mpr fun c member => digits c (List.mem_append_right _ member)
    have point : Char.isDigit '.' = false := by decide
    simp [isEmpty, point, areDigits, nonempty]

theorem ofFixedText?_plain {whole decimals : List Char} {text : String}
    (plain : PlainNumeral negative whole decimals text) :
    ofFixedText? text =
      some (.finite negative (Nat.ofDigitChars 10 (whole ++ decimals) 0) (-decimals.length)) := by
  have read := readDigits_plain plain.nonempty plain.digits
  unfold ofFixedText?
  rw [plain.spelled]
  cases negative with
  | true => simp only [if_true, List.singleton_append, read, Option.map_some]
  | false =>
      simp only [Bool.false_eq_true, if_false, List.nil_append]
      split
      · rename_i chars spelled
        -- A numeral without a sign starts with a digit.
        cases whole with
        | nil => exact absurd rfl plain.nonempty
        | cons c rest =>
            have digit := plain.digits c List.mem_cons_self
            have same : c = '-' := (List.cons.inj spelled).1
            rw [same] at digit
            exact absurd digit (by decide)
      · rw [read, Option.map_some]

theorem getLast?_toDigits (value : Nat) :
    (Nat.toDigits 10 value).getLast? = some (value % 10).digitChar := by
  rw [Nat.toDigits_eq_if (by decide)]
  split
  · rename_i small
    rw [Nat.mod_eq_of_lt small, List.getLast?_singleton]
  · rw [List.getLast?_append, List.getLast?_singleton]
    rfl

theorem fixedDigits_spelled (coefficient : Nat) (exponent : Int) :
    ∃ whole decimals, fixedDigits coefficient exponent =
        whole ++ (if decimals = [] then [] else '.' :: decimals) ∧ whole ≠ [] ∧
      (∀ c ∈ whole ++ decimals, c.isDigit = true) ∧
      (Nat.ofDigitChars 10 (whole ++ decimals) 0 : ℚ) * 10 ^ (-decimals.length : Int) =
        coefficient * 10 ^ exponent ∧
      (decimals = [] ∨ exponent < 0 ∧
        decimals.getLast? = some (coefficient % 10).digitChar) ∧
      (exponent ≤ 0 → Nat.ofDigitChars 10 (whole ++ decimals) 0 = coefficient ∧
        (decimals.length : Int) = -exponent) := by
  have digits : ∀ c ∈ Nat.toDigits 10 coefficient, c.isDigit = true :=
    fun c member => Nat.isDigit_of_mem_toDigits (by decide) (by decide) member
  have zeros : ∀ (count : Nat), ∀ c ∈ List.replicate count '0', c.isDigit = true := by
    intro count c member
    rw [(List.mem_replicate.mp member).2]
    decide
  have read := Nat.ofDigitChars_ten_toDigits (n := coefficient)
  have isLast := getLast?_toDigits coefficient
  have nonempty : Nat.toDigits 10 coefficient ≠ [] := Nat.toDigits_ne_nil
  unfold fixedDigits
  dsimp only
  generalize Nat.toDigits 10 coefficient = text at digits read isLast nonempty
  have positive : 0 < text.length := List.length_pos_iff.mpr nonempty
  split
  · rename_i small
    generalize isCount : (-(exponent + (text.length : Int))).toNat = count
    have some : List.replicate count '0' ++ text ≠ [] := by simp [nonempty]
    have value : Nat.ofDigitChars 10 (['0'] ++ (List.replicate count '0' ++ text)) 0 =
        coefficient := by
      rw [List.singleton_append, Nat.ofDigitChars_cons, Nat.ofDigitChars_append]
      simp [read]
    have place : (-((List.replicate count '0' ++ text).length : Nat) : Int) = exponent := by
      rw [List.length_append, List.length_replicate]
      omega
    refine ⟨['0'], List.replicate count '0' ++ text, ?_, by simp, ?_, ?_, .inr ⟨by omega, ?_⟩,
      fun _ => ⟨value, by omega⟩⟩
    · rw [if_neg some]
      rfl
    · intro c member
      rw [List.singleton_append, List.mem_cons, List.mem_append] at member
      rcases member with rfl | member | member
      · decide
      · exact zeros count c member
      · exact digits c member
    · rw [value, place]
    · rw [List.getLast?_append, isLast]
      rfl
  · rename_i large
    split
    · rename_i isWhole
      generalize isCount : (exponent + (text.length : Int) - text.length).toNat = count
      refine ⟨text ++ List.replicate count '0', [], by simp, by simp [nonempty], ?_, ?_, .inl rfl,
        fun nonpositive => ?_⟩
      · intro c member
        rw [List.append_nil, List.mem_append] at member
        exact member.elim (digits c) (zeros count c)
      · have place : exponent = (count : Int) := by omega
        rw [List.append_nil, Nat.ofDigitChars_append, read, Nat.ofDigitChars_replicate_zero, place]
        simp [mul_comm]
      · have none : count = 0 := by omega
        rw [none]
        simp only [List.replicate_zero, List.append_nil, read, true_and, List.length_nil]
        omega
    · rename_i isSplit
      generalize isPoint : (exponent + (text.length : Int)).toNat = point
      have some : text.drop point ≠ [] := by
        rw [Ne, List.drop_eq_nil_iff]
        omega
      have place : (-((text.drop point).length : Nat) : Int) = exponent := by
        rw [List.length_drop]
        omega
      refine ⟨text.take point, text.drop point, ?_, ?_, ?_, ?_, .inr ⟨by omega, ?_⟩, fun _ => ?_⟩
      · rw [if_neg some]
      · intro isEmpty
        rcases List.take_eq_nil_iff.mp isEmpty with none | none
        · omega
        · exact nonempty none
      · rw [List.take_append_drop]
        exact digits
      · rw [List.take_append_drop, read, place]
      · rw [List.getLast?_drop, if_neg (by omega), isLast]
      · rw [List.take_append_drop]
        exact ⟨read, by omega⟩

theorem fixedText_reduced (isFinite : number.IsFinite) (isReduced : number.Reduced) :
    ∃ negative whole decimals, PlainNumeral negative whole decimals number.fixedText ∧
      (Decimal.finite negative (Nat.ofDigitChars 10 (whole ++ decimals) 0)
        (-decimals.length)).exactly = number.exactly := by
  obtain ⟨negative, coefficient, exponent, rfl⟩ := cases_finite isFinite
  have place : (if coefficient = 0 ∧ 0 < exponent then 0 else exponent) = exponent := by
    rw [Reduced] at isReduced
    split
    · rename_i isZero
      rw [if_pos isZero.1] at isReduced
      omega
    · rfl
  obtain ⟨whole, decimals, spelled, nonempty, digits, value, ends, _⟩ :=
    fixedDigits_spelled coefficient exponent
  refine ⟨negative, whole, decimals, ⟨?_, nonempty, digits, ?_⟩, ?_⟩
  · unfold fixedText
    dsimp only
    rw [place, spelled, String.toList_ofList]
  · rcases ends with rfl | ⟨below, isLast⟩
    · simp
    · rw [Reduced] at isReduced
      split at isReduced
      · omega
      · rename_i nonzero
        have digit : coefficient % 10 ≠ 0 := by
          intro zero
          have isMost := isReduced.2 zero
          have large : (0 : Int) ≤ eMax := by decide
          omega
        have spells : ∀ last < 10, last ≠ 0 → last.digitChar ≠ '0' := by decide
        rw [isLast]
        exact fun same => spells _ (Nat.mod_lt _ (by decide)) digit (Option.some.inj same)
  · simp only [exactly, signed_mul_zpow, value]

end Decimal

end TurtleExecution

/-
The text of a number, read back.

`Decimal(str(number))` is the number again, with its sign, its coefficient and its
exponent.
-/

import TurtleExecution.Foundation.DecimalText

set_option autoImplicit false

namespace TurtleExecution

namespace Decimal

def readPower : List Char → Option Int
  | [] => some 0
  | _ :: '-' :: digits =>
      if digits ≠ [] ∧ digits.all Char.isDigit then some (-(Nat.ofDigitChars 10 digits 0 : Int))
      else none
  | _ :: '+' :: digits =>
      if digits ≠ [] ∧ digits.all Char.isDigit then some (Nat.ofDigitChars 10 digits 0 : Int)
      else none
  | _ :: digits =>
      if digits ≠ [] ∧ digits.all Char.isDigit then some (Nat.ofDigitChars 10 digits 0 : Int)
      else none

def isPowerMark (c : Char) : Bool := c = 'E' || c = 'e'

def readFinite (chars : List Char) : Option Decimal := do
  let (coefficient, places) ← readDigits (chars.takeWhile fun c => !isPowerMark c)
  let power ← readPower (chars.dropWhile fun c => !isPowerMark c)
  return .finite false coefficient (power - places)

def readUnsigned (chars : List Char) : Option Decimal :=
  let lowered := chars.map Char.toLower
  match readFinite chars with
  | some number => some number
  | none =>
      if lowered = "inf".toList ∨ lowered = "infinity".toList then some (.infinity false)
      else if lowered.take 3 = "nan".toList ∧ (lowered.drop 3).all Char.isDigit then
        some (.nan false)
      else if lowered.take 4 = "snan".toList ∧ (lowered.drop 4).all Char.isDigit then
        some (.nan true)
      else none

/-- `Decimal(text)`, of a text in ASCII without blanks and underscores. -/
def ofText? (text : String) : Option Decimal :=
  match text.toList with
  | '-' :: chars => (readUnsigned chars).map copyNegate
  | '+' :: chars => readUnsigned chars
  | chars => readUnsigned chars

theorem toList_pushn (text : String) (c : Char) (count : Nat) :
    (text.pushn c count).toList = text.toList ++ List.replicate count c := by
  rw [String.pushn_eq_repeat_push]
  induction count with
  | zero => simp [Nat.repeat]
  | succ count ih =>
      rw [Nat.repeat, String.toList_push, ih, List.append_assoc, List.replicate_succ']

def powerText (power : Int) : String :=
  if power = 0 then "" else "E" ++ (if 0 < power then "+" else "") ++ toString power

theorem readPower_powerText (power : Int) : readPower (powerText power).toList = some power := by
  have digits : ∀ value : Nat, (Nat.toDigits 10 value).all Char.isDigit = true := fun value =>
    List.all_eq_true.mpr fun c member =>
      Nat.isDigit_of_mem_toDigits (by decide) (by decide) member
  unfold powerText
  rcases lt_trichotomy power 0 with negative | rfl | positive
  · obtain ⟨size, rfl⟩ : ∃ size : Nat, power = -(size : Int) := ⟨power.natAbs, by omega⟩
    have written : toString (-(size : Int)) = "-" ++ size.repr := by
      rw [Int.toString_eq_repr, Int.repr_eq_if, if_neg (not_le.mpr negative), Int.neg_neg,
        Int.toNat_natCast]
    rw [if_neg negative.ne, if_neg negative.not_gt, written]
    simp [readPower, digits, Nat.toDigits_ne_nil, Nat.ofDigitChars_ten_toDigits]
  · rfl
  · obtain ⟨size, rfl⟩ := Int.eq_ofNat_of_zero_le positive.le
    have written : toString (size : Int) = size.repr := rfl
    rw [if_neg (by omega), if_pos positive, written]
    simp [readPower, digits, Nat.toDigits_ne_nil, Nat.ofDigitChars_ten_toDigits]

theorem powerText_mark (power : Int) :
    (powerText power).toList = [] ∨ ∃ rest, (powerText power).toList = 'E' :: rest := by
  unfold powerText
  split
  · exact .inl rfl
  · exact .inr ⟨_, by simp only [String.toList_append]; rfl⟩

def dotPlace (coefficient : Nat) (exponent : Int) : Int :=
  let leftDigits := exponent + (Nat.toDigits 10 coefficient).length
  if exponent ≤ 0 ∧ -6 < leftDigits then leftDigits else 1

theorem toList_text (negative : Bool) (coefficient : Nat) (exponent : Int) :
    let digits := (Nat.toDigits 10 coefficient).length
    let place := dotPlace coefficient exponent
    (text (.finite negative coefficient exponent)).toList =
      (if negative then ['-'] else []) ++ (fixedDigits coefficient (place - digits) ++
        (powerText (exponent + digits - place)).toList) := by
  have isText : (toString coefficient).toList = Nat.toDigits 10 coefficient := Nat.toList_repr
  have isLength : (toString coefficient).length = (Nat.toDigits 10 coefficient).length := by
    rw [← String.length_toList, isText]
  intro digits place
  have sign : (if negative then "-" else "" : String).toList = if negative then ['-'] else [] := by
    cases negative <;> rfl
  unfold text
  dsimp only
  rw [isLength]
  change (_ ++ _ ++ powerText (exponent + digits - place)).toList = _
  rw [String.toList_append, String.toList_append, sign, List.append_assoc]
  congr 2
  change (if place ≤ 0 then _ else if (digits : Int) ≤ place then _ else _ : String).toList = _
  unfold fixedDigits
  dsimp only
  have same : place - (digits : Int) + (Nat.toDigits 10 coefficient).length = place := by omega
  rw [same]
  split
  · rw [String.toList_append, String.toList_append, toList_pushn, isText]
    rfl
  · split
    · rw [String.toList_append, toList_pushn, isText]
      rfl
    · rw [String.toList_append, String.toList_append, String.toList_ofList, isText,
        List.append_assoc]
      change List.take place.toNat _ ++ (_ ++ (String.ofList (List.drop place.toNat _)).toList) = _
      simp only [String.toList_ofList]
      rfl

private theorem colonFree_fixedDigits (coefficient : Nat) (exponent : Int) :
    ':' ∉ fixedDigits coefficient exponent := by
  obtain ⟨whole, decimals, spelled, nonempty, isDigit, _⟩ := fixedDigits_spelled coefficient exponent
  have notDigit : ∀ digits : List Char, (∀ c ∈ digits, c ∈ whole ++ decimals) → ':' ∉ digits :=
    fun digits among member => absurd (isDigit _ (among _ member)) (by decide)
  rw [spelled, List.mem_append]
  rintro (inWhole | behind)
  · exact notDigit whole (fun c => List.mem_append_left _) inWhole
  · split at behind
    · cases behind
    · exact notDigit decimals (fun c => List.mem_append_right _)
        ((List.mem_cons.mp behind).resolve_left (by decide))

private theorem colonFree_powerText (power : Int) : Delimited.ColonFree (powerText power) := by
  unfold powerText
  split
  · decide
  · have marked : Delimited.ColonFree ("E" ++ if 0 < power then "+" else "") := by
      split <;> decide
    exact Delimited.colonFree_append marked (Delimited.colonFree_toString_int power)

theorem colonFree_text (number : Decimal) : Delimited.ColonFree number.text := by
  cases number with
  | infinity negative => cases negative <;> decide
  | nan signaling => cases signaling <;> decide
  | finite negative coefficient exponent =>
      unfold Delimited.ColonFree
      rw [toList_text, List.mem_append, List.mem_append]
      rintro (sign | digits | power)
      · cases negative <;> exact absurd sign (by decide)
      · exact colonFree_fixedDigits _ _ digits
      · exact colonFree_powerText _ power

theorem readFinite_text (coefficient : Nat) (exponent : Int) :
    let digits := (Nat.toDigits 10 coefficient).length
    let place := dotPlace coefficient exponent
    readFinite (fixedDigits coefficient (place - digits) ++
        (powerText (exponent + digits - place)).toList) = some (.finite false coefficient exponent) ∧
      ∃ c rest, fixedDigits coefficient (place - digits) = c :: rest ∧ c.isDigit = true := by
  intro digits place
  have positive : 0 < digits := List.length_pos_iff.mpr Nat.toDigits_ne_nil
  have below : place - (digits : Int) ≤ 0 := by
    change dotPlace coefficient exponent - _ ≤ 0
    unfold dotPlace
    dsimp only
    split <;> omega
  obtain ⟨whole, decimals, spelled, nonempty, isDigit, _, _, exact⟩ :=
    fixedDigits_spelled coefficient (place - digits)
  obtain ⟨value, places⟩ := exact below
  have read := readDigits_plain nonempty isDigit
  rw [← spelled, value] at read
  have unmarked : ∀ c ∈ fixedDigits coefficient (place - digits),
      (fun c => !isPowerMark c) c = true := by
    intro c member
    have digitUnmarked : ∀ c : Char, c.isDigit = true → (!isPowerMark c) = true := by
      intro c digit
      by_contra marked
      have isMark : c = 'E' ∨ c = 'e' :=
        Decidable.or_iff_not_imp_left.mpr (by simpa [isPowerMark] using marked)
      rcases isMark with rfl | rfl <;> exact absurd digit (by decide)
    rw [spelled, List.mem_append] at member
    rcases member with inWhole | behind
    · exact digitUnmarked c (isDigit c (List.mem_append_left _ inWhole))
    · split at behind
      · cases behind
      · rcases List.mem_cons.mp behind with rfl | inDecimals
        · decide
        · exact digitUnmarked c (isDigit c (List.mem_append_right _ inDecimals))
  constructor
  · have power := readPower_powerText (exponent + digits - place)
    have front : ((fixedDigits coefficient (place - digits) ++
        (powerText (exponent + digits - place)).toList).takeWhile fun c => !isPowerMark c) =
          fixedDigits coefficient (place - digits) ∧
        ((fixedDigits coefficient (place - digits) ++
        (powerText (exponent + digits - place)).toList).dropWhile fun c => !isPowerMark c) =
          (powerText (exponent + digits - place)).toList := by
      rw [List.takeWhile_append_of_pos unmarked, List.dropWhile_append_of_pos unmarked]
      rcases powerText_mark (exponent + digits - place) with none | ⟨rest, marked⟩
      · rw [none]
        simp
      · rw [marked]
        have mark : isPowerMark 'E' = true := by decide
        simp [mark]
    have sum : exponent + digits - place - (decimals.length : Int) = exponent := by omega
    unfold readFinite
    rw [front.1, front.2, read, power]
    change some (Decimal.finite false coefficient (exponent + digits - place - decimals.length)) = _
    rw [sum]
  · cases whole with
    | nil => exact absurd rfl nonempty
    | cons c rest => exact ⟨c, _, spelled, isDigit c List.mem_cons_self⟩

theorem ofText?_text (number : Decimal) : ofText? number.text = some number := by
  cases number with
  | infinity negative => cases negative <;> decide +kernel
  | nan signaling => cases signaling <;> decide +kernel
  | finite negative coefficient exponent =>
      obtain ⟨read, c, rest, starts, digit⟩ := readFinite_text coefficient exponent
      have isUnsigned : ∀ chars, readFinite chars = some (.finite false coefficient exponent) →
          readUnsigned chars = some (.finite false coefficient exponent) := by
        intro chars isRead
        unfold readUnsigned
        simp only [isRead]
      unfold ofText?
      rw [toList_text]
      cases negative with
      | true =>
          rw [if_pos rfl, List.singleton_append]
          change (readUnsigned _).map copyNegate = _
          rw [isUnsigned _ read]
          rfl
      | false =>
          simp only [Bool.false_eq_true, if_false, List.nil_append]
          split
          · rename_i chars spelled
            rw [starts] at spelled
            have same : c = '-' := (List.cons.inj spelled).1
            rw [same] at digit
            exact absurd digit (by decide)
          · rename_i chars spelled
            rw [starts] at spelled
            have same : c = '+' := (List.cons.inj spelled).1
            rw [same] at digit
            exact absurd digit (by decide)
          · exact isUnsigned _ read

end Decimal

instance : LawfulText Decimal where
  colonFree_text := Decimal.colonFree_text

end TurtleExecution

/-
Python strings, and texts that `strip` leaves something of.

A string is a sequence of code points.  Almost every one is a `String`, of Unicode scalar
values; one that holds a surrogate is not, and `json` reads two surrogates that stand
as a pair as one character.
-/

import Mathlib.Data.List.Basic
import Mathlib.Data.List.Infix

set_option autoImplicit false

namespace TurtleExecution.PyText

def isSpace (char : Char) : Bool :=
  let code := char.toNat
  (9 ≤ code && code ≤ 13) || (28 ≤ code && code ≤ 32) || code = 0x85 || code = 0xA0 ||
    code = 0x1680 || (0x2000 ≤ code && code ≤ 0x200A) || code = 0x2028 || code = 0x2029 ||
    code = 0x202F || code = 0x205F || code = 0x3000

def isBlank (text : String) : Bool :=
  text.toList.all isSpace

theorem not_blank_of_mem {text : String} {char : Char} (member : char ∈ text.toList)
    (visible : isSpace char = false) : isBlank text = false :=
  List.all_eq_false.mpr ⟨char, member, by simp [visible]⟩

/-- `sys.get_int_max_str_digits()` -/
def maxStrDigits : Nat := 4300

theorem isSpace_digitChar {digit : Nat} (small : digit < 16) :
    isSpace (Nat.digitChar digit) = false := by
  revert digit
  decide

end TurtleExecution.PyText

namespace TurtleExecution

/-- A Unicode scalar value, or a surrogate by its lower ten bits. -/
inductive CodePoint
  | scalar (char : Char)
  | high (bits : Fin 0x400)
  | low (bits : Fin 0x400)
  deriving DecidableEq, Repr

namespace CodePoint

def code : CodePoint → Nat
  | scalar char => char.toNat
  | high bits => 0xd800 + bits
  | low bits => 0xdc00 + bits

/-- `chr(code)` -/
def ofCode (code : Nat) : CodePoint :=
  if isHigh : 0xd800 ≤ code ∧ code - 0xd800 < 0x400 then high ⟨code - 0xd800, isHigh.2⟩
  else if isLow : 0xdc00 ≤ code ∧ code - 0xdc00 < 0x400 then low ⟨code - 0xdc00, isLow.2⟩
  else scalar (Char.ofNat code)

def char? : CodePoint → Option Char
  | scalar char => some char
  | _ => none

def isSurrogate : CodePoint → Bool
  | scalar _ => false
  | _ => true

theorem char_not_surrogate (c : Char) :
    c.toNat < 0xd800 ∨ 0xe000 ≤ c.toNat ∧ c.toNat < 0x110000 := by
  rcases c.valid with low | high
  · exact Or.inl low
  · exact Or.inr ⟨Nat.succ_le_of_lt high.1, high.2⟩

@[simp] theorem ofCode_code (point : CodePoint) : ofCode point.code = point := by
  cases point with
  | scalar c =>
      have valid := char_not_surrogate c
      rw [code, ofCode, dif_neg (by omega), dif_neg (by omega), Char.ofNat_toNat]
  | high bits =>
      rw [code, ofCode, dif_pos (by omega)]
      exact congrArg high (Fin.ext (Nat.add_sub_cancel_left ..))
  | low bits =>
      rw [code, ofCode, dif_neg (by omega), dif_pos (by omega)]
      exact congrArg low (Fin.ext (Nat.add_sub_cancel_left ..))

theorem code_injective : Function.Injective code :=
  Function.LeftInverse.injective ofCode_code

/-- The character that a pair of surrogates stands for. -/
def paired (first second : Fin 0x400) : CodePoint :=
  scalar (Char.ofNat (0x10000 + 0x400 * first + second))

/-- Each pair of surrogates as one character, from the left. -/
def joinPairs : List CodePoint → List CodePoint
  | high first :: low second :: points => paired first second :: joinPairs points
  | point :: points => point :: joinPairs points
  | [] => []

def unpaired : List CodePoint → Bool
  | high _ :: low _ :: _ => false
  | _ :: points => unpaired points
  | [] => true

def isHigh : CodePoint → Bool
  | high _ => true
  | _ => false

def startsLow : List CodePoint → Bool
  | low _ :: _ => true
  | _ => false

variable {points : List CodePoint}

theorem unpaired_cons (point : CodePoint) (points : List CodePoint) :
    unpaired (point :: points) = (!(point.isHigh && startsLow points) && unpaired points) := by
  cases point with
  | high bits =>
      cases points with
      | nil => rfl
      | cons next points => cases next <;> rfl
  | _ => rfl

theorem joinPairs_cons {point : CodePoint} (apart : (point.isHigh && startsLow points) = false) :
    joinPairs (point :: points) = point :: joinPairs points := by
  cases point with
  | high bits =>
      cases points with
      | nil => rfl
      | cons next points =>
          cases next with
          | low second => cases apart
          | _ => rfl
  | _ => rfl

theorem joinPairs_of_unpaired (isUnpaired : unpaired points = true) : joinPairs points = points := by
  fun_induction joinPairs points with
  | case1 first second points ih => cases isUnpaired
  | case2 point points notPair ih =>
      rw [unpaired_cons, Bool.and_eq_true] at isUnpaired
      rw [ih isUnpaired.2]
  | case3 => rfl

theorem startsLow_joinPairs (points : List CodePoint) :
    startsLow (joinPairs points) = startsLow points := by
  fun_cases joinPairs points with
  | case1 first second points => rfl
  | case2 point points notPair => cases point <;> rfl
  | case3 => rfl

theorem unpaired_joinPairs (points : List CodePoint) : unpaired (joinPairs points) = true := by
  fun_induction joinPairs points with
  | case1 first second points ih => exact ih
  | case2 point points notPair ih =>
      have apart : (point.isHigh && startsLow points) = false := by
        cases point with
        | high first =>
            cases points with
            | nil => rfl
            | cons next points =>
                cases next with
                | low second => exact (notPair first second points rfl rfl).elim
                | _ => rfl
        | _ => rfl
      rw [unpaired_cons, ih, startsLow_joinPairs, apart]
      rfl
  | case3 => rfl

end CodePoint

/-- A string that is no sequence of Unicode scalar values. -/
structure SurrogateText where
  points : List CodePoint
  holdsSurrogate : points.any CodePoint.isSurrogate = true
  deriving DecidableEq, Repr

inductive PyStr
  | scalars (text : String)
  | surrogates (text : SurrogateText)
  deriving DecidableEq, Repr

namespace PyStr

instance : Coe String PyStr := ⟨scalars⟩

def points : PyStr → List CodePoint
  | scalars text => text.toList.map CodePoint.scalar
  | surrogates text => text.points

def ofPoints (points : List CodePoint) : PyStr :=
  if holdsSurrogate : points.any CodePoint.isSurrogate = true then .surrogates ⟨points, holdsSurrogate⟩
  else .scalars (String.ofList (points.filterMap CodePoint.char?))

theorem points_ofPoints (points : List CodePoint) : (ofPoints points).points = points := by
  unfold ofPoints
  split
  · rfl
  · rename_i scalar
    rw [PyStr.points, String.toList_ofList]
    induction points with
    | nil => rfl
    | cons point points ih =>
        rw [List.any_cons, Bool.or_eq_true, not_or] at scalar
        cases point with
        | scalar char => exact congrArg _ (ih scalar.2)
        | _ => exact absurd rfl scalar.1

theorem ofPoints_points (text : PyStr) : ofPoints text.points = text := by
  cases text with
  | scalars text =>
      have scalar : ¬ (points (.scalars text)).any CodePoint.isSurrogate = true := by
        simp [points, CodePoint.isSurrogate]
      rw [ofPoints, dif_neg scalar, points, List.filterMap_map]
      exact congrArg scalars ((congrArg String.ofList List.filterMap_some).trans String.ofList_toList)
  | surrogates text => exact dif_pos text.holdsSurrogate

theorem points_injective : Function.Injective points :=
  Function.LeftInverse.injective ofPoints_points

def length : PyStr → Nat
  | scalars text => text.length
  | surrogates text => text.points.length

def scalars? : PyStr → Option String
  | scalars text => some text
  | surrogates _ => none

/-- Whether `strip` leaves nothing; a surrogate is no space. -/
def isBlank : PyStr → Bool
  | scalars text => PyText.isBlank text
  | surrogates _ => false

@[simp] theorem isBlank_scalars (text : String) : (scalars text).isBlank = PyText.isBlank text := rfl

instance : Append PyStr :=
  ⟨fun left right =>
    match left, right with
    | scalars left, scalars right => scalars (left ++ right)
    | left, right => ofPoints (left.points ++ right.points)⟩

/-- Whether no two surrogates stand as a pair. -/
def unpaired : PyStr → Bool
  | scalars _ => true
  | surrogates text => CodePoint.unpaired text.points

@[simp] theorem unpaired_scalars (text : String) : (scalars text).unpaired = true := rfl

end PyStr

/-- A string as `json` reads it. -/
@[ext] structure JsonText where
  text : PyStr
  unpaired : text.unpaired = true
  deriving DecidableEq

theorem CodePoint.unpaired_scalars (chars : List Char) :
    CodePoint.unpaired (chars.map CodePoint.scalar) = true := by
  induction chars with
  | nil => rfl
  | cons char chars ih => exact ih

theorem PyStr.unpaired_points (text : PyStr) : CodePoint.unpaired text.points = text.unpaired := by
  cases text with
  | scalars text => exact CodePoint.unpaired_scalars text.toList
  | surrogates text => rfl

theorem PyStr.unpaired_ofPoints (points : List CodePoint) :
    (ofPoints points).unpaired = CodePoint.unpaired points := by
  rw [← PyStr.unpaired_points, PyStr.points_ofPoints]

/-- The string that is read back of the escapes of this one. -/
def PyStr.joined : PyStr → JsonText
  | scalars text => ⟨scalars text, rfl⟩
  | surrogates text =>
      ⟨ofPoints (CodePoint.joinPairs text.points), by
        rw [unpaired_ofPoints, CodePoint.unpaired_joinPairs]⟩

namespace JsonText

instance : Coe String JsonText := ⟨fun text => ⟨.scalars text, rfl⟩⟩

def ofPoints (points : List CodePoint) : JsonText :=
  (PyStr.ofPoints points).joined

theorem points_joined (text : PyStr) : text.joined.text.points = CodePoint.joinPairs text.points := by
  cases text with
  | scalars text => exact (CodePoint.joinPairs_of_unpaired (CodePoint.unpaired_scalars _)).symm
  | surrogates text => exact PyStr.points_ofPoints _

theorem joined_of_unpaired {text : PyStr} (unpaired : text.unpaired = true) :
    text.joined.text = text := by
  apply PyStr.points_injective
  rw [points_joined]
  exact CodePoint.joinPairs_of_unpaired ((PyStr.unpaired_points text).trans unpaired)

@[simp] theorem joined_scalars (text : String) : (PyStr.scalars text).joined = text := rfl

@[simp] theorem exists_eq_text {text : PyStr} :
    (∃ name : JsonText, text = name.text) ↔ text.unpaired = true := by
  constructor
  · rintro ⟨name, rfl⟩
    exact name.unpaired
  · exact fun unpaired => ⟨⟨text, unpaired⟩, rfl⟩

@[simp] theorem joined_text (text : JsonText) : text.text.joined = text :=
  JsonText.ext (joined_of_unpaired text.unpaired)

end JsonText

@[ext] structure NonBlank where
  text : String
  nonBlank : PyText.isBlank text = false

theorem nonBlank_v1 : PyText.isBlank "v1" = false := by decide

theorem nonBlank_newYear : PyText.isBlank "2026-01-01T00:00:00+00:00" = false := by decide

namespace NonBlank

instance : DecidableEq NonBlank := fun left right =>
  decidable_of_iff (left.text = right.text) NonBlank.ext_iff.symm

def ofText? (text : String) : Option NonBlank :=
  if nonBlank : PyText.isBlank text = false then some ⟨text, nonBlank⟩ else none

@[simp] theorem ofText?_text (name : NonBlank) : ofText? name.text = some name := by
  unfold ofText?
  rw [dif_pos name.nonBlank]

def append (name : NonBlank) (rest : String) : NonBlank :=
  { text := name.text ++ rest
    nonBlank := by
      have nonBlank := name.nonBlank
      rw [PyText.isBlank] at nonBlank ⊢
      rw [String.toList_append, List.all_append, nonBlank, Bool.false_and] }

end NonBlank

end TurtleExecution

/-
Python values as the standard `json` module writes and reads them.

A finite float is held by the literal that `float.__repr__` prints for it, which
identifies it.  A dictionary is its items in insertion order.  `dumps` is
`json.dumps(value, sort_keys=True, separators=(",", ":"), ensure_ascii=True)`
and `loads` is `json.loads`.
-/

import TurtleExecution.Foundation.BigEndian
import TurtleExecution.Foundation.Dict
import TurtleExecution.Foundation.JsonRoundtrip
import TurtleExecution.Foundation.TextOrder
import Mathlib.Data.Rat.Defs
import Mathlib.Algebra.Order.Field.Rat
import Mathlib.Algebra.Field.Rat

set_option autoImplicit false

namespace TurtleExecution

inductive PyFloat
  | finite (literal : FloatLiteral)
  /-- `constant` says that the object is the one that `json` has for every `NaN` it reads. -/
  | nan (constant : Bool)
  | infinity (negative : Bool)
  deriving DecidableEq

/-- A dictionary key; `other` stands for a key that `json` refuses, by its `str`. -/
inductive PyKey
  | str (text : PyStr)
  | int (value : Int)
  | bool (value : Bool)
  | none
  | float (literal : FloatLiteral)
  | other (text : String)
  deriving DecidableEq

/-- `other` stands for every object that `json` cannot serialise. -/
inductive PyValue
  | none
  | bool (value : Bool)
  | int (value : Int)
  | float (value : PyFloat)
  | str (text : PyStr)
  | list (items : List PyValue)
  | tuple (items : List PyValue)
  | dict (entries : List (PyKey × PyValue))
  | other

abbrev PyDict := Dict PyKey PyValue

namespace PyValue

def digitsValue (digits : List Char) : Nat :=
  Nat.ofDigitChars 10 digits 0

def floatValue (literal : FloatLiteral) : ℚ :=
  let mantissa : ℚ := literal.integer + (digitsValue literal.fraction : ℚ) / 10 ^ literal.fraction.length
  let scaled :=
    match literal.exponent with
    | Option.none => mantissa
    | some (true, digits) => mantissa / 10 ^ digitsValue digits
    | some (false, digits) => mantissa * 10 ^ digitsValue digits
  if literal.negative then -scaled else scaled

def keyNumber? : PyKey → Option ℚ
  | .int value => some value
  | .bool value => some (if value then 1 else 0)
  | .float literal => some (floatValue literal)
  | _ => Option.none

/-- `left <= right`, or `none` where Python raises `TypeError`. -/
def keyLe? : PyKey → PyKey → Option Bool
  | .str left, .str right => some (decide (left ≤ right))
  | left, right =>
      match keyNumber? left, keyNumber? right with
      | some left, some right => some (decide (left ≤ right))
      | _, _ => Option.none

def keyLe (left right : PyKey) : Bool :=
  (keyLe? left right).getD false

/-- Sorting compares keys of every kind present: two keys of different kinds
raise `TypeError`, and a single key is never compared. -/
def sortable : List PyKey → Bool
  | [] => true
  | [_] => true
  | key :: keys => keys.all fun next => (keyLe? key next).isSome

/-- The text of a key, which an integer of too many digits does not have. -/
def keyText? : PyKey → Option JsonText
  | .str text => some text.joined
  | .int value =>
      if FewDigits value then some (String.ofList (Json.printInt value)) else Option.none
  | .bool true => some "true"
  | .bool false => some "false"
  | .none => some "null"
  | .float literal => some (String.ofList (Json.printFloat literal))
  | .other _ => Option.none

def intNumber? (value : Int) : Option JsonNumber :=
  if fewDigits : FewDigits value then some (.integer { value, fewDigits }) else Option.none

def floatNumber : PyFloat → JsonNumber
  | .finite literal => .float literal
  | .nan _ => .nan
  | .infinity negative => .infinity negative

def keyTexts : List (PyKey × Json) → Option (List (JsonText × Json))
  | [] => some []
  | (key, value) :: entries =>
      match keyText? key, keyTexts entries with
      | some name, some members => some ((name, value) :: members)
      | _, _ => Option.none

def sortedMembers (entries : List (PyKey × Json)) : Option (List (JsonText × Json)) :=
  if sortable (entries.map Prod.fst) then
    keyTexts (entries.insertionSort fun left right => keyLe left.1 right.1 = true)
  else Option.none

mutual
/-- The tree that `dumps` prints, or `none` where it raises. -/
def toJson : PyValue → Option Json
  | .none => some .null
  | .bool value => some (.bool value)
  | .int value => (intNumber? value).map Json.number
  | .float value => some (.number (floatNumber value))
  | .str text => some (.string text.joined)
  | .list items => (toJsonItems items).map Json.array
  | .tuple items => (toJsonItems items).map Json.array
  | .dict entries => ((toJsonEntries entries).bind sortedMembers).map Json.object
  | .other => Option.none

def toJsonItems : List PyValue → Option (List Json)
  | [] => some []
  | item :: items =>
      match toJson item, toJsonItems items with
      | some item, some items => some (item :: items)
      | _, _ => Option.none

def toJsonEntries : List (PyKey × PyValue) → Option (List (PyKey × Json))
  | [] => some []
  | (key, value) :: entries =>
      match toJson value, toJsonEntries entries with
      | some value, some entries => some ((key, value) :: entries)
      | _, _ => Option.none
end

def ofNumber : JsonNumber → PyValue
  | .integer value => .int value.value
  | .float literal => .float (.finite literal)
  | .nan => .float (.nan true)
  | .infinity negative => .float (.infinity negative)

mutual
/-- The value that `loads` builds; of two members of one name the later wins. -/
def ofJson : Json → PyValue
  | .null => .none
  | .bool value => .bool value
  | .number value => ofNumber value
  | .string value => .str value.text
  | .array items => .list (ofJsonItems items)
  | .object members => .dict (ofJsonMembers [] members)

def ofJsonItems : List Json → List PyValue
  | [] => []
  | item :: items => ofJson item :: ofJsonItems items

def ofJsonMembers (entries : PyDict) : List (JsonText × Json) → PyDict
  | [] => entries
  | (name, value) :: members => ofJsonMembers (Dict.set entries (.str name.text) (ofJson value)) members
end

def dumps (value : PyValue) : Option Bytes :=
  (toJson value).map fun tree => (String.ofList (Json.print tree)).toUTF8.data.toList

inductive LoadsError
  | unicodeDecode
  /-- `JSONDecodeError`, or the `ValueError` that is its base for an integer of too many
  digits. -/
  | jsonDecode
  deriving DecidableEq

def loads (data : Bytes) : Except LoadsError PyValue :=
  match String.fromUTF8? ⟨data.toArray⟩ with
  | Option.none => .error .unicodeDecode
  | some text =>
      match Json.parse text.toList with
      | Option.none => .error .jsonDecode
      | some tree => .ok (ofJson tree)

def reread (value : PyValue) : Option PyValue :=
  (toJson value).map ofJson

theorem intNumber?_value (value : JsonInt) : intNumber? value.value = some (.integer value) :=
  dif_pos value.fewDigits

theorem fewDigits_of_intNumber? {value : Int} {number : JsonNumber}
    (written : intNumber? value = some number) : FewDigits value := by
  unfold intNumber? at written
  split at written
  · assumption
  · cases written

theorem ofNumber_intNumber? {value : Int} {number : JsonNumber}
    (written : intNumber? value = some number) : ofNumber number = .int value := by
  unfold intNumber? at written
  split at written <;> cases written
  rfl

theorem fromUTF8_toUTF8 (text : String) :
    String.fromUTF8? ⟨text.toUTF8.data.toList.toArray⟩ = some text := by
  rw [Array.toArray_toList]
  unfold String.fromUTF8?
  exact dif_pos text.isValidUTF8

theorem loads_dumps {value : PyValue} {data : Bytes} (written : dumps value = some data) :
    ∃ image, reread value = some image ∧ loads data = .ok image := by
  unfold dumps at written
  cases built : toJson value with
  | none => simp [built] at written
  | some tree =>
      simp only [built, Option.map_some, Option.some.injEq] at written
      refine ⟨ofJson tree, by simp [reread, built], ?_⟩
      subst written
      simp only [loads, fromUTF8_toUTF8, String.toList_ofList, Json.parse_print]

end PyValue

end TurtleExecution

/-
JSON text: syntax trees, the printer and the parser.

The printer writes a given gap behind commas and colons, escapes every character outside
printable ASCII, and writes members in the order given.  The parser accepts the whole grammar,
with `NaN` and `Infinity`.  A number without fraction and exponent is an integer, of as many
digits as the language converts; every other number keeps its digits.  Two surrogates that
stand as a pair are read as one character.
-/

import TurtleExecution.Foundation.PyText

set_option autoImplicit false

namespace TurtleExecution

structure FloatLiteral where
  negative : Bool
  integer : Nat
  fraction : List Char
  exponent : Option (Bool × List Char)
  fractionDigits : ∀ c ∈ fraction, c.isDigit = true
  exponentDigits : ∀ e ∈ exponent, e.2 ≠ [] ∧ ∀ c ∈ e.2, c.isDigit = true
  notInteger : fraction ≠ [] ∨ exponent ≠ none
  deriving DecidableEq

/-- Whether the language converts the integer to a text and back. -/
def FewDigits (value : Int) : Prop :=
  (Nat.toDigits 10 value.natAbs).length ≤ PyText.maxStrDigits

instance (value : Int) : Decidable (FewDigits value) :=
  inferInstanceAs (Decidable (_ ≤ _))

structure JsonInt where
  value : Int
  fewDigits : FewDigits value
  deriving DecidableEq

inductive JsonNumber
  | integer (value : JsonInt)
  | float (literal : FloatLiteral)
  | nan
  | infinity (negative : Bool)
  deriving DecidableEq

inductive Json
  | null
  | bool (value : Bool)
  | number (value : JsonNumber)
  | string (value : JsonText)
  | array (items : List Json)
  | object (members : List (JsonText × Json))

namespace Json

@[elab_as_elim] theorem inductionOn {motive : Json → Prop} (value : Json)
    (null : motive .null)
    (bool : ∀ value, motive (.bool value))
    (number : ∀ value, motive (.number value))
    (string : ∀ value, motive (.string value))
    (array : ∀ items, (∀ item ∈ items, motive item) → motive (.array items))
    (object : ∀ members, (∀ member ∈ members, motive member.2) → motive (.object members)) :
    motive value :=
  @Json.rec motive (fun items => ∀ item ∈ items, motive item)
    (fun members => ∀ member ∈ members, motive member.2)
    (fun member => motive member.2)
    null bool number string array object
    (fun _ member => absurd member List.not_mem_nil)
    (fun _ _ first others => List.forall_mem_cons.mpr ⟨first, others⟩)
    (fun _ member => absurd member List.not_mem_nil)
    (fun _ _ first others => List.forall_mem_cons.mpr ⟨first, others⟩)
    (fun _ _ holds => holds) value

def unicodeEscape (code : Nat) : List Char :=
  ['\\', 'u', Nat.digitChar (code / 4096 % 16), Nat.digitChar (code / 256 % 16),
    Nat.digitChar (code / 16 % 16), Nat.digitChar (code % 16)]

/-- A character beyond the basic plane is written as a surrogate pair. -/
def escape (c : Char) : List Char :=
  if c = '"' then ['\\', '"']
  else if c = '\\' then ['\\', '\\']
  else if c = '\n' then ['\\', 'n']
  else if c = '\r' then ['\\', 'r']
  else if c = '\t' then ['\\', 't']
  else if c = '\x0c' then ['\\', 'f']
  else if c = '\x08' then ['\\', 'b']
  else if 0x20 ≤ c.toNat ∧ c.toNat ≤ 0x7e then [c]
  else if c.toNat < 0x10000 then unicodeEscape c.toNat
  else
    unicodeEscape (0xd800 + (c.toNat - 0x10000) / 0x400) ++
      unicodeEscape (0xdc00 + (c.toNat - 0x10000) % 0x400)

def escapePoint : CodePoint → List Char
  | .scalar char => escape char
  | point => unicodeEscape point.code

def printString (value : JsonText) : List Char :=
  '"' :: (value.text.points.flatMap escapePoint ++ ['"'])

def printSign (negative : Bool) : List Char :=
  if negative then ['-'] else []

def printFraction (digits : List Char) : List Char :=
  if digits = [] then [] else '.' :: digits

def printExponent : Option (Bool × List Char) → List Char
  | none => []
  | some (negative, digits) => 'e' :: (if negative then '-' else '+') :: digits

def printFloat (literal : FloatLiteral) : List Char :=
  printSign literal.negative ++ Nat.toDigits 10 literal.integer ++
    printFraction literal.fraction ++ printExponent literal.exponent

def printInt (value : Int) : List Char :=
  printSign (decide (value < 0)) ++ Nat.toDigits 10 value.natAbs

def printNumber : JsonNumber → List Char
  | .integer value => printInt value.value
  | .float literal => printFloat literal
  | .nan => ['N', 'a', 'N']
  | .infinity negative => printSign negative ++ ['I', 'n', 'f', 'i', 'n', 'i', 't', 'y']

mutual
/-- The text with `gap` behind every comma and colon. -/
def printWith (gap : List Char) : Json → List Char
  | .null => ['n', 'u', 'l', 'l']
  | .bool true => ['t', 'r', 'u', 'e']
  | .bool false => ['f', 'a', 'l', 's', 'e']
  | .number value => printNumber value
  | .string value => printString value
  | .array [] => ['[', ']']
  | .array (item :: items) => '[' :: (printWith gap item ++ printItemsWith gap items)
  | .object [] => ['{', '}']
  | .object ((name, value) :: members) =>
      '{' :: (printString name ++ ':' :: (gap ++ (printWith gap value ++
        printMembersWith gap members)))

def printItemsWith (gap : List Char) : List Json → List Char
  | [] => [']']
  | item :: items => ',' :: (gap ++ (printWith gap item ++ printItemsWith gap items))

def printMembersWith (gap : List Char) : List (JsonText × Json) → List Char
  | [] => ['}']
  | (name, value) :: members =>
      ',' :: (gap ++ (printString name ++ ':' :: (gap ++ (printWith gap value ++
        printMembersWith gap members))))
end

def print (value : Json) : List Char :=
  printWith [] value

def isSpace (c : Char) : Bool :=
  c = ' ' || c = '\t' || c = '\n' || c = '\r'

def skipSpace (input : List Char) : List Char :=
  input.dropWhile isSpace

def hexDigit? (c : Char) : Option Nat :=
  if c.isDigit then some (c.toNat - 48)
  else if 97 ≤ c.toNat ∧ c.toNat ≤ 102 then some (c.toNat - 87)
  else if 65 ≤ c.toNat ∧ c.toNat ≤ 70 then some (c.toNat - 55)
  else none

def hexCode? (a b c d : Char) : Option Nat :=
  match hexDigit? a, hexDigit? b, hexDigit? c, hexDigit? d with
  | some a, some b, some c, some d => some (4096 * a + 256 * b + 16 * c + d)
  | _, _, _, _ => none

def unescape? : Char → Option Char
  | '"' => some '"'
  | '\\' => some '\\'
  | '/' => some '/'
  | 'b' => some '\x08'
  | 'f' => some '\x0c'
  | 'n' => some '\n'
  | 'r' => some '\r'
  | 't' => some '\t'
  | _ => none

/-- The code points up to the closing quote; a pair of surrogates is still two of them. -/
def parseChars : List Char → Option (List CodePoint × List Char)
  | [] => none
  | '"' :: rest => some ([], rest)
  | '\\' :: 'u' :: a :: b :: c :: d :: rest =>
      match hexCode? a b c d with
      | none => none
      | some code => (parseChars rest).map fun (points, rest) => (CodePoint.ofCode code :: points, rest)
  | '\\' :: c :: rest =>
      match unescape? c with
      | none => none
      | some c => (parseChars rest).map fun (points, rest) => (.scalar c :: points, rest)
  | c :: rest =>
      if c = '\\' ∨ c.toNat < 0x20 then none
      else (parseChars rest).map fun (points, rest) => (.scalar c :: points, rest)

def takeDigits (input : List Char) : List Char :=
  input.takeWhile Char.isDigit

def dropDigits (input : List Char) : List Char :=
  input.dropWhile Char.isDigit

/-- The integer part: a lone zero, or digits that do not start with one. -/
def parseInteger : List Char → Option (Nat × List Char)
  | '0' :: rest => some (0, rest)
  | input =>
      if takeDigits input = [] then none
      else some (Nat.ofDigitChars 10 (takeDigits input) 0, dropDigits input)

def parseFraction : List Char → List Char × List Char
  | '.' :: rest => if takeDigits rest = [] then ([], '.' :: rest) else (takeDigits rest, dropDigits rest)
  | input => ([], input)

def parseExponentSign : List Char → Bool × List Char
  | '-' :: rest => (true, rest)
  | '+' :: rest => (false, rest)
  | input => (false, input)

def parseExponent : List Char → Option (Bool × List Char) × List Char
  | [] => (none, [])
  | c :: rest =>
      let (negative, digits) := parseExponentSign rest
      if (c = 'e' ∨ c = 'E') ∧ takeDigits digits ≠ [] then
        (some (negative, takeDigits digits), dropDigits digits)
      else (none, c :: rest)

instance (priority := 2000) (chars : List Char) : Decidable (∀ c ∈ chars, c.isDigit = true) :=
  List.decidableBAll _ chars

def buildNumber (negative : Bool) (integer : Nat) (fraction : List Char)
    (exponent : Option (Bool × List Char)) : Option JsonNumber :=
  if absent : fraction = [] ∧ exponent = none then
    let value : Int := if negative then -integer else integer
    if fewDigits : FewDigits value then some (.integer { value, fewDigits }) else none
  else if digits : (∀ c ∈ fraction, c.isDigit = true) ∧
      ∀ e ∈ exponent, e.2 ≠ [] ∧ ∀ c ∈ e.2, c.isDigit = true then
    some (.float
      { negative, integer, fraction, exponent
        fractionDigits := digits.1, exponentDigits := digits.2
        notInteger := not_and_or.mp absent })
  else none

def parseNumber (negative : Bool) (input : List Char) : Option (JsonNumber × List Char) :=
  match input with
  | 'I' :: 'n' :: 'f' :: 'i' :: 'n' :: 'i' :: 't' :: 'y' :: rest => some (.infinity negative, rest)
  | input =>
      match parseInteger input with
      | none => none
      | some (integer, rest) =>
          let (fraction, rest) := parseFraction rest
          let (exponent, rest) := parseExponent rest
          (buildNumber negative integer fraction exponent).map fun value => (value, rest)

mutual
def parseValue : Nat → List Char → Option (Json × List Char)
  | 0, _ => none
  | fuel + 1, input =>
      match input with
      | '"' :: rest => (parseChars rest).map fun (points, rest) => (.string (.ofPoints points), rest)
      | '{' :: rest =>
          match skipSpace rest with
          | '}' :: rest => some (.object [], rest)
          | rest => (parseMembers fuel rest).map fun (members, rest) => (.object members, rest)
      | '[' :: rest =>
          match skipSpace rest with
          | ']' :: rest => some (.array [], rest)
          | rest => (parseItems fuel rest).map fun (items, rest) => (.array items, rest)
      | 'n' :: 'u' :: 'l' :: 'l' :: rest => some (.null, rest)
      | 't' :: 'r' :: 'u' :: 'e' :: rest => some (.bool true, rest)
      | 'f' :: 'a' :: 'l' :: 's' :: 'e' :: rest => some (.bool false, rest)
      | 'N' :: 'a' :: 'N' :: rest => some (.number .nan, rest)
      | '-' :: rest => (parseNumber true rest).map fun (value, rest) => (.number value, rest)
      | input => (parseNumber false input).map fun (value, rest) => (.number value, rest)

def parseItems : Nat → List Char → Option (List Json × List Char)
  | 0, _ => none
  | fuel + 1, input =>
      match parseValue fuel input with
      | none => none
      | some (item, rest) =>
          match skipSpace rest with
          | ']' :: rest => some ([item], rest)
          | ',' :: rest =>
              (parseItems fuel (skipSpace rest)).map fun (items, rest) => (item :: items, rest)
          | _ => none

def parseMembers : Nat → List Char → Option (List (JsonText × Json) × List Char)
  | 0, _ => none
  | fuel + 1, input =>
      match input with
      | '"' :: rest =>
          match parseChars rest with
          | none => none
          | some (name, rest) =>
              match skipSpace rest with
              | ':' :: rest =>
                  match parseValue fuel (skipSpace rest) with
                  | none => none
                  | some (value, rest) =>
                      match skipSpace rest with
                      | '}' :: rest => some ([(.ofPoints name, value)], rest)
                      | ',' :: rest =>
                          (parseMembers fuel (skipSpace rest)).map fun (members, rest) =>
                            ((.ofPoints name, value) :: members, rest)
                      | _ => none
              | _ => none
      | _ => none
end

/-- The whole input is one value, with whitespace around it allowed. -/
def parse (input : List Char) : Option Json :=
  match parseValue (input.length + 1) (skipSpace input) with
  | some (value, rest) => if skipSpace rest = [] then some value else none
  | none => none

end Json

end TurtleExecution

/-
The parser reads back every printed JSON value.

A value's text is followed by arbitrary text in the induction; only a number
needs that text not to start with a character that would continue it.  Fuel is
counted against the length of the printed text.
-/

import TurtleExecution.Foundation.Json
import Mathlib.Tactic.Cases

set_option autoImplicit false

namespace TurtleExecution

namespace Json

theorem hexDigit_digitChar {digit : Nat} (bound : digit < 16) :
    hexDigit? (Nat.digitChar digit) = some digit := by
  have all : ∀ digit < 16, hexDigit? (Nat.digitChar digit) = some digit := by decide
  exact all digit bound

theorem hexCode_digits {code : Nat} (bound : code < 0x10000) :
    hexCode? (Nat.digitChar (code / 4096 % 16)) (Nat.digitChar (code / 256 % 16))
      (Nat.digitChar (code / 16 % 16)) (Nat.digitChar (code % 16)) = some code := by
  simp only [hexCode?, hexDigit_digitChar (Nat.mod_lt _ (by decide : 16 > 0))]
  congr 1
  omega

theorem parseChars_unicodeEscape {code : Nat} (bound : code < 0x10000) (rest : List Char) :
    parseChars (unicodeEscape code ++ rest) =
      (parseChars rest).map fun (points, rest) => (CodePoint.ofCode code :: points, rest) := by
  simp only [unicodeEscape, List.cons_append, List.nil_append, parseChars, hexCode_digits bound]

theorem pair_bounds (c : Char) :
    (c.toNat - 0x10000) / 0x400 < 0x400 ∧ (c.toNat - 0x10000) % 0x400 < 0x400 := by
  have valid := CodePoint.char_not_surrogate c
  omega

def charUnits (c : Char) : List CodePoint :=
  if c.toNat < 0x10000 then [.scalar c]
  else [.high ⟨_, (pair_bounds c).1⟩, .low ⟨_, (pair_bounds c).2⟩]

def units : CodePoint → List CodePoint
  | .scalar char => charUnits char
  | point => [point]

theorem parseChars_escape (c : Char) (rest : List Char) :
    parseChars (escape c ++ rest) =
      (parseChars rest).map fun (points, rest) => (charUnits c ++ points, rest) := by
  unfold escape
  split
  · subst c; simp [parseChars, unescape?, charUnits]
  split
  · subst c; simp [parseChars, unescape?, charUnits]
  split
  · subst c; simp [parseChars, unescape?, charUnits]
  split
  · subst c; simp [parseChars, unescape?, charUnits]
  split
  · subst c; simp [parseChars, unescape?, charUnits]
  split
  · subst c; simp [parseChars, unescape?, charUnits]
  split
  · subst c; simp [parseChars, unescape?, charUnits]
  rename_i notQuote notBackslash _ _ _ _ _
  split
  · rename_i printable
    have plain : ¬ (c = '\\' ∨ c.toNat < 0x20) := by
      rintro (backslash | control)
      · exact notBackslash backslash
      · omega
    rw [charUnits, if_pos (by omega), List.singleton_append, parseChars.eq_def]
    split
    · rename_i nothing
      cases nothing
    · rename_i quote
      exact absurd (List.cons.inj quote).1 notQuote
    · rename_i backslash
      exact absurd (List.cons.inj backslash).1 notBackslash
    · rename_i backslash
      exact absurd (List.cons.inj backslash).1 notBackslash
    · rename_i same
      cases same
      rw [if_neg plain]
      rfl
  split
  · rename_i basic
    rw [parseChars_unicodeEscape basic, charUnits, if_pos basic]
    rw [show c.toNat = (CodePoint.scalar c).code from rfl, CodePoint.ofCode_code]
    rfl
  · rename_i beyond
    obtain ⟨high, low⟩ := pair_bounds c
    rw [List.append_assoc, parseChars_unicodeEscape (by omega), parseChars_unicodeEscape (by omega),
      Option.map_map, charUnits, if_neg beyond]
    rw [show 0xd800 + (c.toNat - 0x10000) / 0x400 = (CodePoint.high ⟨_, high⟩).code from rfl,
      show 0xdc00 + (c.toNat - 0x10000) % 0x400 = (CodePoint.low ⟨_, low⟩).code from rfl,
      CodePoint.ofCode_code, CodePoint.ofCode_code]
    rfl

theorem parseChars_point (point : CodePoint) (rest : List Char) :
    parseChars (escapePoint point ++ rest) =
      (parseChars rest).map fun (points, rest) => (units point ++ points, rest) := by
  cases point with
  | scalar char => exact parseChars_escape char rest
  | high bits =>
      rw [escapePoint, parseChars_unicodeEscape (by rw [CodePoint.code]; omega), CodePoint.ofCode_code]
      · rfl
      · exact fun _ same => by cases same
  | low bits =>
      rw [escapePoint, parseChars_unicodeEscape (by rw [CodePoint.code]; omega), CodePoint.ofCode_code]
      · rfl
      · exact fun _ same => by cases same

theorem parseChars_points (points : List CodePoint) (rest : List Char) :
    parseChars (points.flatMap escapePoint ++ '"' :: rest) = some (points.flatMap units, rest) := by
  induction points with
  | nil => simp [parseChars]
  | cons point points ih =>
      rw [List.flatMap_cons, List.append_assoc, parseChars_point, ih]
      rfl

theorem startsLow_units (points : List CodePoint) :
    CodePoint.startsLow (points.flatMap units) = CodePoint.startsLow points := by
  cases points with
  | nil => rfl
  | cons point points =>
      cases point with
      | scalar char =>
          rw [List.flatMap_cons, units, charUnits]
          split <;> rfl
      | _ => rfl

theorem joinPairs_units {points : List CodePoint} (unpaired : CodePoint.unpaired points = true) :
    CodePoint.joinPairs (points.flatMap units) = points := by
  induction points with
  | nil => rfl
  | cons point points ih =>
      rw [CodePoint.unpaired_cons, Bool.and_eq_true, Bool.not_eq_true'] at unpaired
      have rest := ih unpaired.2
      rw [List.flatMap_cons]
      cases point with
      | scalar char =>
          rw [units, charUnits]
          split
          · exact congrArg _ rest
          · rename_i beyond
            have joined : 0x10000 + 0x400 * ((char.toNat - 0x10000) / 0x400) +
                (char.toNat - 0x10000) % 0x400 = char.toNat := by omega
            rw [List.cons_append, List.cons_append, List.nil_append, CodePoint.joinPairs, rest,
              CodePoint.paired, joined, Char.ofNat_toNat]
      | high bits =>
          rw [← startsLow_units] at unpaired
          exact (CodePoint.joinPairs_cons unpaired.1).trans (congrArg _ rest)
      | low bits => exact congrArg _ rest

theorem ofPoints_units (value : JsonText) :
    JsonText.ofPoints (value.text.points.flatMap units) = value := by
  apply JsonText.ext
  apply PyStr.points_injective
  rw [JsonText.ofPoints, JsonText.points_joined, PyStr.points_ofPoints]
  exact joinPairs_units ((PyStr.unpaired_points value.text).trans value.unpaired)

def Delimited (rest : List Char) : Prop :=
  ∀ c ∈ rest.head?, c.isDigit = false ∧ c ≠ '.' ∧ c ≠ 'e' ∧ c ≠ 'E'

def NoDigit (rest : List Char) : Prop :=
  ∀ c ∈ rest.head?, c.isDigit = false

theorem takeDigits_append {digits rest : List Char}
    (allDigits : ∀ c ∈ digits, c.isDigit = true) (stop : NoDigit rest) :
    takeDigits (digits ++ rest) = digits := by
  unfold takeDigits
  rw [List.takeWhile_append_of_pos allDigits]
  cases rest with
  | nil => simp
  | cons c rest => simp [stop c rfl]

theorem dropDigits_append {digits rest : List Char}
    (allDigits : ∀ c ∈ digits, c.isDigit = true) (stop : NoDigit rest) :
    dropDigits (digits ++ rest) = rest := by
  unfold dropDigits
  rw [List.dropWhile_append_of_pos allDigits]
  cases rest with
  | nil => simp
  | cons c rest => simp [stop c rfl]

theorem toDigits_isDigit (value : Nat) : ∀ c ∈ Nat.toDigits 10 value, c.isDigit = true :=
  fun _ member => Nat.isDigit_of_mem_toDigits (by decide) (by decide) member

theorem toDigits_head_ne_zero {value : Nat} (positive : 0 < value) :
    ∀ c ∈ (Nat.toDigits 10 value).head?, c ≠ '0' := by
  induction value using Nat.strongRecOn with
  | ind value ih =>
      by_cases small : value < 10
      · rw [Nat.toDigits_of_lt_base small]
        have all : ∀ digit < 10, 0 < digit → Nat.digitChar digit ≠ '0' := by decide
        intro c member
        cases member
        exact all value small positive
      · rw [Nat.toDigits_of_base_le (by decide) (by omega)]
        intro c member
        apply ih (value / 10) (by omega) (by omega) c
        rw [List.head?_append_of_ne_nil _ Nat.toDigits_ne_nil] at member
        exact member

variable {c : Char} {text rest : List Char}

theorem parseInteger_toDigits (value : Nat) (stop : NoDigit rest) :
    parseInteger (Nat.toDigits 10 value ++ rest) = some (value, rest) := by
  by_cases zero : value = 0
  · subst zero
    simp [Nat.toDigits_zero, parseInteger]
  · have digits := toDigits_isDigit value
    have taken := takeDigits_append digits stop
    have dropped := dropDigits_append digits stop
    have noZero := toDigits_head_ne_zero (Nat.pos_of_ne_zero zero)
    have nonempty : Nat.toDigits 10 value ≠ [] := Nat.toDigits_ne_nil
    have read := Nat.ofDigitChars_ten_toDigits (n := value)
    generalize Nat.toDigits 10 value = text at digits taken dropped noZero nonempty read
    cases text with
    | nil => exact absurd rfl nonempty
    | cons c text =>
        have headNe : c ≠ '0' := noZero c rfl
        rw [List.cons_append] at taken dropped ⊢
        rw [parseInteger.eq_def]
        split
        · rename_i same
          exact absurd (List.cons.inj same).1 headNe
        · rw [taken, dropped, if_neg nonempty, read]

theorem parseFraction_none (stop : ∀ c ∈ rest.head?, c ≠ '.') :
    parseFraction rest = ([], rest) := by
  rw [parseFraction.eq_def]
  split
  · exact absurd rfl (stop '.' rfl)
  · rfl

theorem parseFraction_digits {digits rest : List Char} (nonempty : digits ≠ [])
    (allDigits : ∀ c ∈ digits, c.isDigit = true) (stop : NoDigit rest) :
    parseFraction ('.' :: (digits ++ rest)) = (digits, rest) := by
  simp only [parseFraction, takeDigits_append allDigits stop, dropDigits_append allDigits stop,
    if_neg nonempty]

theorem parseExponent_none (stop : ∀ c ∈ rest.head?, c ≠ 'e' ∧ c ≠ 'E') :
    parseExponent rest = (none, rest) := by
  cases rest with
  | nil => rfl
  | cons c rest =>
      have noMark := stop c rfl
      simp [parseExponent, noMark.1, noMark.2]

theorem parseExponent_digits (negative : Bool) {digits rest : List Char} (nonempty : digits ≠ [])
    (allDigits : ∀ c ∈ digits, c.isDigit = true) (stop : NoDigit rest) :
    parseExponent ('e' :: (if negative then '-' else '+') :: (digits ++ rest)) =
      (some (negative, digits), rest) := by
  cases negative <;>
    simp [parseExponent, parseExponentSign, takeDigits_append allDigits stop,
      dropDigits_append allDigits stop, nonempty]

theorem Delimited.noDigit (delimited : Delimited rest) : NoDigit rest :=
  fun c member => (delimited c member).1

theorem parseNumber_of_digit (negative : Bool) (digit : c.isDigit = true) :
    parseNumber negative (c :: text) =
      match parseInteger (c :: text) with
      | none => none
      | some (integer, rest) =>
          (buildNumber negative integer (parseFraction rest).1
            (parseExponent (parseFraction rest).2).1).map
              fun value => (value, (parseExponent (parseFraction rest).2).2) := by
  rw [parseNumber.eq_def]
  split
  · rename_i same
    rw [(List.cons.inj same).1] at digit
    exact absurd digit (by decide)
  · rfl

theorem toDigits_cons (value : Nat) :
    ∃ c text, Nat.toDigits 10 value = c :: text ∧ c.isDigit = true := by
  cases shape : Nat.toDigits 10 value with
  | nil => exact absurd shape Nat.toDigits_ne_nil
  | cons c text =>
      refine ⟨c, text, rfl, toDigits_isDigit value c ?_⟩
      rw [shape]
      exact List.mem_cons_self

theorem parseNumber_integer (negative : Bool) {value : Nat} {number : JsonNumber}
    (built : buildNumber negative value [] none = some number) (delimited : Delimited rest) :
    parseNumber negative (Nat.toDigits 10 value ++ rest) = some (number, rest) := by
  obtain ⟨c, text, shape, digit⟩ := toDigits_cons value
  have read := parseInteger_toDigits value delimited.noDigit
  rw [shape, List.cons_append] at read ⊢
  rw [parseNumber_of_digit negative digit, read]
  simp only [parseFraction_none fun c member => (delimited c member).2.1,
    parseExponent_none fun c member => (delimited c member).2.2, built, Option.map_some]

theorem buildNumber_integer (value : JsonInt) :
    buildNumber (decide (value.value < 0)) value.value.natAbs [] none = some (.integer value) := by
  have same : (if decide (value.value < 0) = true then -(value.value.natAbs : Int)
      else value.value.natAbs) = value.value := by
    by_cases negative : value.value < 0
    · rw [if_pos (decide_eq_true negative)]
      omega
    · rw [if_neg fun decided => negative (of_decide_eq_true decided)]
      omega
  rw [buildNumber, dif_pos ⟨rfl, rfl⟩]
  simp only [same, dif_pos value.fewDigits]

theorem parseFraction_print {fraction rest : List Char}
    (allDigits : ∀ c ∈ fraction, c.isDigit = true)
    (stop : ∀ c ∈ rest.head?, c.isDigit = false ∧ c ≠ '.') :
    parseFraction (printFraction fraction ++ rest) = (fraction, rest) := by
  unfold printFraction
  split
  · subst fraction
    exact parseFraction_none fun c member => (stop c member).2
  · rename_i nonempty
    exact parseFraction_digits nonempty allDigits fun c member => (stop c member).1

theorem parseExponent_print {exponent : Option (Bool × List Char)}
    (digits : ∀ e ∈ exponent, e.2 ≠ [] ∧ ∀ c ∈ e.2, c.isDigit = true) (delimited : Delimited rest) :
    parseExponent (printExponent exponent ++ rest) = (exponent, rest) := by
  cases exponent with
  | none => exact parseExponent_none fun c member => (delimited c member).2.2
  | some pair =>
      have valid := digits pair rfl
      exact parseExponent_digits pair.1 valid.1 valid.2 delimited.noDigit

theorem printExponent_stop (exponent : Option (Bool × List Char)) (delimited : Delimited rest) :
    ∀ c ∈ (printExponent exponent ++ rest).head?, c.isDigit = false ∧ c ≠ '.' := by
  intro c member
  cases exponent with
  | none => exact ⟨(delimited c member).1, (delimited c member).2.1⟩
  | some pair =>
      cases member
      exact ⟨by decide, by decide⟩

theorem printFraction_stop (fraction : List Char)
    (stop : ∀ c ∈ rest.head?, c.isDigit = false ∧ c ≠ '.') :
    NoDigit (printFraction fraction ++ rest) := by
  intro c member
  unfold printFraction at member
  split at member
  · exact (stop c member).1
  · cases member
    decide

theorem parseNumber_float (literal : FloatLiteral) (delimited : Delimited rest) :
    parseNumber literal.negative
      (Nat.toDigits 10 literal.integer ++
        (printFraction literal.fraction ++ (printExponent literal.exponent ++ rest))) =
      some (.float literal, rest) := by
  have exponentStop := printExponent_stop literal.exponent delimited
  have fractionRead := parseFraction_print literal.fractionDigits exponentStop
  have exponentRead := parseExponent_print literal.exponentDigits delimited
  have integerRead := parseInteger_toDigits literal.integer
    (printFraction_stop literal.fraction exponentStop)
  obtain ⟨c, text, shape, digit⟩ := toDigits_cons literal.integer
  rw [shape, List.cons_append] at integerRead ⊢
  rw [parseNumber_of_digit _ digit, integerRead]
  simp only [fractionRead, exponentRead, buildNumber,
    dif_neg (not_and_or.mpr literal.notInteger),
    dif_pos (And.intro literal.fractionDigits literal.exponentDigits), Option.map_some]

def StartsValue (text : List Char) : Prop :=
  ∃ c rest, text = c :: rest ∧ isSpace c = false ∧ c ≠ ']' ∧ c ≠ '}'

theorem StartsValue.append (starts : StartsValue text) (rest : List Char) :
    StartsValue (text ++ rest) := by
  obtain ⟨c, tail, rfl, space, square, curly⟩ := starts
  exact ⟨c, tail ++ rest, rfl, space, square, curly⟩

theorem StartsValue.skipSpace (starts : StartsValue text) : skipSpace text = text := by
  obtain ⟨c, rest, rfl, space, _⟩ := starts
  simp [Json.skipSpace, space]

theorem startsValue_of_digit (digit : c.isDigit = true) (rest : List Char) :
    StartsValue (c :: rest) := by
  refine ⟨c, rest, rfl, ?_, ?_, ?_⟩
  · by_contra space
    simp only [isSpace, Bool.not_eq_false, Bool.or_eq_true, decide_eq_true_eq] at space
    rcases space with ((rfl | rfl) | rfl) | rfl <;> exact absurd digit (by decide)
  · rintro rfl
    exact absurd digit (by decide)
  · rintro rfl
    exact absurd digit (by decide)

theorem startsValue_cons {c : Char} (rest : List Char) (space : isSpace c = false)
    (square : c ≠ ']') (curly : c ≠ '}') : StartsValue (c :: rest) :=
  ⟨c, rest, rfl, space, square, curly⟩

theorem startsValue_signed (negative : Bool) (starts : StartsValue text) :
    StartsValue (printSign negative ++ text) := by
  cases negative with
  | false => exact starts
  | true => exact startsValue_cons _ (by decide) (by decide) (by decide)

theorem startsValue_toDigits (value : Nat) (rest : List Char) :
    StartsValue (Nat.toDigits 10 value ++ rest) := by
  obtain ⟨c, text, shape, digit⟩ := toDigits_cons value
  rw [shape]
  exact startsValue_of_digit digit _

theorem startsValue_number (value : JsonNumber) : StartsValue (printNumber value) := by
  cases value with
  | integer value =>
      have starts := startsValue_toDigits value.value.natAbs []
      rw [List.append_nil] at starts
      exact startsValue_signed _ starts
  | float literal =>
      simp only [printNumber, printFloat, List.append_assoc]
      exact startsValue_signed _ (startsValue_toDigits _ _)
  | nan => exact startsValue_cons _ (by decide) (by decide) (by decide)
  | infinity negative =>
      exact startsValue_signed negative (startsValue_cons _ (by decide) (by decide) (by decide))

theorem startsValue_printWith (gap : List Char) (value : Json) :
    StartsValue (printWith gap value) := by
  cases value with
  | number value =>
      rw [printWith]
      exact startsValue_number value
  | bool value => cases value <;> exact startsValue_cons _ (by decide) (by decide) (by decide)
  | array items => cases items <;> exact startsValue_cons _ (by decide) (by decide) (by decide)
  | object members => cases members <;> exact startsValue_cons _ (by decide) (by decide) (by decide)
  | null => exact startsValue_cons _ (by decide) (by decide) (by decide)
  | string value => exact startsValue_cons _ (by decide) (by decide) (by decide)

theorem parseValue_of_digit (fuel : Nat) (digit : c.isDigit = true) :
    parseValue (fuel + 1) (c :: text) =
      (parseNumber false (c :: text)).map fun (value, rest) => (.number value, rest) := by
  have different : ∀ other : Char, other.isDigit = false → c ≠ other := by
    rintro other notDigit rfl
    rw [digit] at notDigit
    cases notDigit
  rw [parseValue.eq_def]
  simp only
  split <;> first
    | rfl
    | (rename_i same; exact absurd (List.cons.inj same).1 (different _ (by decide)))

theorem parseValue_number (fuel : Nat) (value : JsonNumber) (delimited : Delimited rest) :
    parseValue (fuel + 1) (printNumber value ++ rest) = some (.number value, rest) := by
  cases value with
  | integer value =>
      have read := parseNumber_integer _ (buildNumber_integer value) delimited
      rw [printNumber, printInt]
      cases negative : decide (value.value < 0) with
      | true =>
          rw [negative] at read
          simp only [printSign, if_true, List.cons_append, List.nil_append, parseValue, read,
            Option.map_some]
      | false =>
          rw [negative] at read
          obtain ⟨c, text, shape, digit⟩ := toDigits_cons value.value.natAbs
          simp only [printSign, Bool.false_eq_true, if_false, List.nil_append]
          rw [shape, List.cons_append] at read ⊢
          rw [parseValue_of_digit fuel digit, read]
          rfl
  | float literal =>
      have read := parseNumber_float literal delimited
      simp only [printNumber, printFloat, List.append_assoc]
      cases negative : literal.negative with
      | true =>
          rw [negative] at read
          simp only [printSign, if_true, List.cons_append, List.nil_append, parseValue, read,
            Option.map_some]
      | false =>
          rw [negative] at read
          obtain ⟨c, text, shape, digit⟩ := toDigits_cons literal.integer
          simp only [printSign, Bool.false_eq_true, if_false, List.nil_append]
          rw [shape, List.cons_append] at read ⊢
          rw [parseValue_of_digit fuel digit, read]
          rfl
  | nan => rfl
  | infinity negative => cases negative <;> rfl

theorem printWith_length_pos (gap : List Char) (value : Json) :
    0 < (printWith gap value).length := by
  obtain ⟨c, rest, shape, _⟩ := startsValue_printWith gap value
  rw [shape]
  exact Nat.succ_pos _

theorem delimited_cons (stop : c.isDigit = false ∧ c ≠ '.' ∧ c ≠ 'e' ∧ c ≠ 'E') :
    Delimited (c :: rest) := by
  intro first member
  cases member
  exact stop

theorem skipSpace_cons (space : isSpace c = false) (rest : List Char) :
    skipSpace (c :: rest) = c :: rest := by
  simp [skipSpace, space]

section

variable {gap : List Char} (spaces : ∀ c ∈ gap, isSpace c = true)
include spaces

theorem skipSpace_gap {text : List Char} (starts : StartsValue text) :
    skipSpace (gap ++ text) = text := by
  have stopped := starts.skipSpace
  unfold skipSpace at stopped ⊢
  rw [List.dropWhile_append_of_pos spaces]
  exact stopped

omit spaces in
def ReadsBack (gap : List Char) (value : Json) : Prop :=
  ∀ fuel rest, (printWith gap value).length ≤ fuel → Delimited rest →
    parseValue fuel (printWith gap value ++ rest) = some (value, rest)

theorem parseItems_printWith (item : Json) (items : List Json)
    (itemReads : ReadsBack gap item) (itemsRead : ∀ other ∈ items, ReadsBack gap other) :
    ∀ fuel rest, (printWith gap item ++ printItemsWith gap items).length ≤ fuel →
      parseItems fuel (printWith gap item ++ (printItemsWith gap items ++ rest)) =
        some (item :: items, rest) := by
  induction items generalizing item with
  | nil =>
      intro fuel rest bound
      cases fuel with
      | zero => simp [printItemsWith] at bound
      | succ fuel =>
          simp only [printItemsWith, List.length_append, List.length_cons, List.length_nil] at bound
          have read := itemReads fuel (']' :: rest) (by omega)
            (delimited_cons ⟨by decide, by decide, by decide, by decide⟩)
          simp [parseItems, printItemsWith, read, skipSpace, isSpace]
  | cons next items ih =>
      intro fuel rest bound
      cases fuel with
      | zero => simp [printItemsWith] at bound
      | succ fuel =>
          simp only [printItemsWith, List.length_append, List.length_cons] at bound
          have positive := printWith_length_pos gap item
          have read := itemReads fuel
            (',' :: (gap ++ (printWith gap next ++ (printItemsWith gap items ++ rest)))) (by omega)
            (delimited_cons ⟨by decide, by decide, by decide, by decide⟩)
          have others := ih next (itemsRead next List.mem_cons_self)
            (fun other member => itemsRead other (List.mem_cons_of_mem _ member)) fuel rest
            (by rw [List.length_append]; omega)
          have skipped := skipSpace_gap spaces
            ((startsValue_printWith gap next).append (printItemsWith gap items ++ rest))
          simp only [parseItems, printItemsWith, List.cons_append, List.append_assoc, read]
          rw [skipSpace_cons (by decide)]
          simp only [skipped, others, Option.map_some]

theorem parseMembers_printWith (name : JsonText) (value : Json) (members : List (JsonText × Json))
    (valueReads : ReadsBack gap value) (membersRead : ∀ other ∈ members, ReadsBack gap other.2) :
    ∀ fuel rest,
      (printString name ++ ':' :: (gap ++ (printWith gap value ++
        printMembersWith gap members))).length ≤ fuel →
      parseMembers fuel (printString name ++ ':' :: (gap ++ (printWith gap value ++
        (printMembersWith gap members ++ rest)))) = some ((name, value) :: members, rest) := by
  induction members generalizing name value with
  | nil =>
      intro fuel rest bound
      cases fuel with
      | zero => simp [printString] at bound
      | succ fuel =>
          simp only [printString, printMembersWith, List.length_append, List.length_cons,
            List.length_nil] at bound
          have read := valueReads fuel ('}' :: rest) (by omega)
            (delimited_cons ⟨by decide, by decide, by decide, by decide⟩)
          have skipped := skipSpace_gap spaces ((startsValue_printWith gap value).append ('}' :: rest))
          have nameRead := parseChars_points name.text.points
            (':' :: (gap ++ (printWith gap value ++ '}' :: rest)))
          simp only [parseMembers, printString, printMembersWith, List.cons_append,
            List.append_assoc, List.nil_append, nameRead]
          rw [skipSpace_cons (by decide)]
          simp only [skipped, read]
          rw [skipSpace_cons (by decide)]
          simp only [ofPoints_units]
  | cons next members ih =>
      obtain ⟨nextName, nextValue⟩ := next
      intro fuel rest bound
      cases fuel with
      | zero => simp [printString] at bound
      | succ fuel =>
          simp only [printMembersWith, List.length_append, List.length_cons] at bound
          have others := ih nextName nextValue (membersRead (nextName, nextValue) List.mem_cons_self)
            (fun other member => membersRead other (List.mem_cons_of_mem _ member)) fuel rest
            (by simp only [List.length_append, List.length_cons]; omega)
          have tailSkipped := @skipSpace_gap gap spaces (printString nextName ++ ':' ::
              (gap ++ (printWith gap nextValue ++ (printMembersWith gap members ++ rest))))
            (startsValue_cons _ (by decide) (by decide) (by decide))
          generalize tailText : printString nextName ++ ':' ::
            (gap ++ (printWith gap nextValue ++ (printMembersWith gap members ++ rest))) = tail
            at others tailSkipped
          have read := valueReads fuel (',' :: (gap ++ tail))
            (by simp only [printString, List.length_cons, List.length_append] at bound; omega)
            (delimited_cons ⟨by decide, by decide, by decide, by decide⟩)
          have skipped := skipSpace_gap spaces
            ((startsValue_printWith gap value).append (',' :: (gap ++ tail)))
          have nameRead := parseChars_points name.text.points
            (':' :: (gap ++ (printWith gap value ++ ',' :: (gap ++ tail))))
          have shape : printMembersWith gap ((nextName, nextValue) :: members) ++ rest =
              ',' :: (gap ++ tail) := by
            rw [← tailText]
            simp [printMembersWith]
          rw [shape]
          simp only [parseMembers, printString, List.cons_append, List.append_assoc,
            List.nil_append, nameRead]
          rw [skipSpace_cons (by decide)]
          simp only [skipped, read]
          rw [skipSpace_cons (by decide)]
          simp [tailSkipped, others, ofPoints_units]

omit spaces in
theorem readsBack_of_succ {value : Json}
    (reads : ∀ fuel rest, (printWith gap value).length ≤ fuel + 1 → Delimited rest →
      parseValue (fuel + 1) (printWith gap value ++ rest) = some (value, rest)) :
    ReadsBack gap value := by
  intro fuel rest bound delimited
  cases fuel with
  | zero =>
      have positive := printWith_length_pos gap value
      omega
  | succ fuel => exact reads fuel rest bound delimited

theorem readsBack_array (items : List Json) (itemsRead : ∀ item ∈ items, ReadsBack gap item) :
    ReadsBack gap (.array items) := by
  apply readsBack_of_succ
  intro fuel rest bound _delimited
  cases items with
  | nil => rfl
  | cons item items =>
      have read := parseItems_printWith spaces item items (itemsRead item List.mem_cons_self)
        (fun other member => itemsRead other (List.mem_cons_of_mem _ member)) fuel rest
        (by simp only [printWith, List.length_cons] at bound; omega)
      obtain ⟨c, text, shape, space, square, _⟩ :=
        (startsValue_printWith gap item).append (printItemsWith gap items ++ rest)
      simp only [printWith, List.cons_append, List.append_assoc, parseValue]
      rw [shape] at read ⊢
      rw [skipSpace_cons space]
      split
      · rename_i same
        exact absurd (List.cons.inj same).1 square
      · rw [read]
        rfl

theorem readsBack_object (members : List (JsonText × Json))
    (membersRead : ∀ member ∈ members, ReadsBack gap member.2) :
    ReadsBack gap (.object members) := by
  apply readsBack_of_succ
  intro fuel rest bound _delimited
  cases members with
  | nil => rfl
  | cons member members =>
      obtain ⟨name, value⟩ := member
      have read := parseMembers_printWith spaces name value members
        (membersRead (name, value) List.mem_cons_self)
        (fun other member => membersRead other (List.mem_cons_of_mem _ member)) fuel rest
        (by simp only [printWith, List.length_cons] at bound; omega)
      simp only [printWith, List.cons_append, List.append_assoc, parseValue]
      simp only [printString, List.cons_append, List.append_assoc, List.nil_append] at read ⊢
      rw [skipSpace_cons (by decide)]
      change (parseMembers fuel _).map _ = _
      rw [read]
      rfl

omit spaces in
theorem readsBack_string (value : JsonText) : ReadsBack gap (.string value) := by
  apply readsBack_of_succ
  intro fuel rest _bound _delimited
  have read := parseChars_points value.text.points rest
  simp only [printWith, printString, List.cons_append, List.append_assoc, List.nil_append,
    parseValue, read, Option.map_some, ofPoints_units]

theorem readsBack (value : Json) : ReadsBack gap value := by
  induction value using inductionOn with
  | null => exact readsBack_of_succ fun _ _ _ _ => rfl
  | bool value => cases value <;> exact readsBack_of_succ fun _ _ _ _ => rfl
  | number value =>
      apply readsBack_of_succ
      intro fuel rest _bound delimited
      rw [printWith]
      exact parseValue_number fuel value delimited
  | string value => exact readsBack_string value
  | array items ih => exact readsBack_array spaces items ih
  | object members ih => exact readsBack_object spaces members ih

theorem parse_printWith (value : Json) : parse (printWith gap value) = some value := by
  have read := readsBack spaces value ((printWith gap value).length + 1) [] (Nat.le_succ _)
    (by intro c member; cases member)
  rw [List.append_nil] at read
  simp only [parse, (startsValue_printWith gap value).skipSpace, read]
  rfl

end

theorem parse_print (value : Json) : parse (print value) = some value := by
  exact parse_printWith (by intro c member; cases member) value

end Json

end TurtleExecution

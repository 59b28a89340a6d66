/-
What the JSON parser has read, it reads again in front of any further text.

A number alone goes on with the text behind it; every other value has its own end.
So no proper prefix of an object's text is a JSON value.
-/

import TurtleExecution.Foundation.JsonRoundtrip

set_option autoImplicit false

namespace TurtleExecution

namespace Json

variable {more : List Char}

theorem parseChars_append {input rest : List Char} {points : List CodePoint}
    (read : parseChars input = some (points, rest)) :
    parseChars (input ++ more) = some (points, rest ++ more) := by
  fun_induction parseChars input generalizing points rest
  case case4 a b c d rest code codeRead ih =>
      obtain ⟨⟨tail, left⟩, read, same⟩ := Option.map_eq_some_iff.mp read
      cases same
      simp only [List.cons_append, parseChars, codeRead, ih read, Option.map_some]
  case case6 c rest plain unescaped known ih =>
      obtain ⟨⟨tail, left⟩, read, same⟩ := Option.map_eq_some_iff.mp read
      cases same
      have notUnicode : c ≠ 'u' := by
        rintro rfl
        cases known
      rw [List.cons_append, List.cons_append, parseChars.eq_def]
      simp [notUnicode, known, ih read]
  case case8 c rest notQuote plain ih =>
      obtain ⟨⟨tail, left⟩, read, same⟩ := Option.map_eq_some_iff.mp read
      cases same
      simp_all [parseChars]
  all_goals simp_all [parseChars]

theorem skipSpace_append {input : List Char} (nonempty : skipSpace input ≠ []) :
    skipSpace (input ++ more) = skipSpace input ++ more := by
  unfold skipSpace at nonempty ⊢
  induction input with
  | nil => exact absurd rfl nonempty
  | cons c input ih =>
      cases space : isSpace c with
      | true =>
          simp only [List.cons_append, List.dropWhile_cons, space, if_true] at nonempty ⊢
          exact ih nonempty
      | false => simp [space]

/-! ### Numbers -/

def Stopped (rest : List Char) : Prop :=
  rest ≠ [] ∧ Delimited rest

theorem takeDigits_append_of_rest {input : List Char} (rest : dropDigits input ≠ []) :
    takeDigits (input ++ more) = takeDigits input ∧
      dropDigits (input ++ more) = dropDigits input ++ more := by
  unfold takeDigits dropDigits at *
  induction input with
  | nil => exact absurd rfl rest
  | cons c input ih =>
      cases digit : c.isDigit with
      | true =>
          simp only [List.dropWhile_cons, digit, if_true] at rest
          have kept := ih rest
          simp [digit, kept.1, kept.2]
      | false => simp [digit]

theorem parseInteger_append {input rest : List Char} {value : Nat}
    (read : parseInteger input = some (value, rest)) (begun : rest ≠ []) :
    parseInteger (input ++ more) = some (value, rest ++ more) := by
  unfold parseInteger at read
  split at read
  · cases read
    simp [parseInteger]
  · rename_i notZero
    split at read
    · cases read
    · rename_i digits
      cases read
      have kept := @takeDigits_append_of_rest more _ begun
      cases input with
      | nil => exact absurd rfl digits
      | cons c input =>
          have headNe : c ≠ '0' := fun same => notZero input (by rw [same])
          rw [List.cons_append] at kept ⊢
          rw [parseInteger.eq_def]
          split
          · rename_i same
            exact absurd (List.cons.inj same).1 headNe
          · rw [kept.1, kept.2, if_neg digits]

theorem parseExponentSign_append {input : List Char} (begun : input ≠ []) :
    parseExponentSign (input ++ more) =
      ((parseExponentSign input).1, (parseExponentSign input).2 ++ more) := by
  cases input with
  | nil => exact absurd rfl begun
  | cons c input =>
      by_cases minus : c = '-'
      · subst minus
        rfl
      · by_cases plus : c = '+'
        · subst plus
          rfl
        · simp [parseExponentSign, minus, plus]

theorem parseExponent_append {input rest : List Char} {exponent : Option (Bool × List Char)}
    (read : parseExponent input = (exponent, rest)) (stopped : Stopped rest) :
    parseExponent (input ++ more) = (exponent, rest ++ more) := by
  cases input with
  | nil =>
      cases read
      exact absurd rfl stopped.1
  | cons c input =>
      by_cases mark : c = 'e' ∨ c = 'E'
      · by_cases digits : takeDigits (parseExponentSign input).2 = []
        · simp only [parseExponent, digits, ne_eq, not_true, and_false, if_false] at read
          cases read
          have noMark := (stopped.2 c rfl).2.2
          exact absurd mark (not_or.mpr noMark)
        · have begun : input ≠ [] := by
            rintro rfl
            exact digits rfl
          simp only [parseExponent, ne_eq, digits, not_false_iff, and_true, mark, if_true] at read
          cases read
          have kept := @takeDigits_append_of_rest more _ stopped.1
          simp only [parseExponent, parseExponentSign_append begun, kept.1, kept.2, ne_eq, digits,
            not_false_iff, and_true, mark, if_true, List.cons_append]
      · simp only [parseExponent, mark, false_and, if_false] at read
        cases read
        simp only [parseExponent, mark, false_and, if_false, List.cons_append]

variable {input rest : List Char} {c : Char} {fuel : Nat}

theorem parseExponent_noPoint {exponent : Option (Bool × List Char)}
    (read : parseExponent input = (exponent, rest)) (stopped : Stopped rest) :
    input ≠ [] ∧ ∀ c ∈ input.head?, c ≠ '.' := by
  cases input with
  | nil =>
      cases read
      exact absurd rfl stopped.1
  | cons c input =>
      refine ⟨List.cons_ne_nil _ _, ?_⟩
      rintro _ same rfl
      cases same
      simp only [parseExponent, Char.reduceEq, or_self, false_and, if_false] at read
      cases read
      exact (stopped.2 '.' rfl).2.1 rfl

theorem parseFraction_append {input rest fraction : List Char}
    (read : parseFraction input = (fraction, rest)) (begun : rest ≠ [])
    (noPoint : ∀ c ∈ rest.head?, c ≠ '.') :
    parseFraction (input ++ more) = (fraction, rest ++ more) := by
  unfold parseFraction at read
  split at read
  · rename_i tail
    split at read
    · cases read
      exact absurd rfl (noPoint '.' rfl)
    · rename_i digits
      cases read
      have kept := @takeDigits_append_of_rest more _ begun
      simp only [List.cons_append, parseFraction, kept.1, kept.2, if_neg digits]
  · cases read
    exact parseFraction_none fun c member => noPoint c (by
      rwa [List.head?_append_of_ne_nil _ begun] at member)

theorem parseInteger_head {value : Nat} (read : parseInteger input = some (value, rest)) :
    ∃ c text, input = c :: text ∧ c.isDigit = true := by
  unfold parseInteger at read
  split at read
  · exact ⟨_, _, rfl, by decide⟩
  · split at read
    · cases read
    · rename_i digits
      cases input with
      | nil => exact absurd rfl digits
      | cons c text =>
          refine ⟨c, text, rfl, ?_⟩
          by_contra notDigit
          exact digits (by simp [takeDigits, notDigit])

theorem parseNumber_append {negative : Bool} {input rest : List Char} {value : JsonNumber}
    (read : parseNumber negative input = some (value, rest)) (stopped : Stopped rest) :
    parseNumber negative (input ++ more) = some (value, rest ++ more) := by
  unfold parseNumber at read
  split at read
  · cases read
    rfl
  · split at read
    · cases read
    · rename_i integer behind integerRead
      rcases fractionRead : parseFraction behind with ⟨fraction, between⟩
      rcases exponentRead : parseExponent between with ⟨exponent, final⟩
      simp only [fractionRead, exponentRead] at read
      obtain ⟨number, built, same⟩ := Option.map_eq_some_iff.mp read
      cases same
      obtain ⟨fractionBegun, noPoint⟩ := parseExponent_noPoint exponentRead stopped
      have integerBegun : behind ≠ [] := by
        rintro rfl
        cases fractionRead
        exact fractionBegun rfl
      obtain ⟨c, text, rfl, digit⟩ := parseInteger_head integerRead
      have integerKept := @parseInteger_append more _ _ _ integerRead integerBegun
      have fractionKept := @parseFraction_append more _ _ _ fractionRead fractionBegun noPoint
      have exponentKept := @parseExponent_append more _ _ _ exponentRead stopped
      rw [List.cons_append] at integerKept ⊢
      rw [parseNumber_of_digit negative digit, integerKept]
      simp only [fractionKept, exponentKept, built, Option.map_some]

theorem parseNumber_head {value : JsonNumber} (read : parseNumber false input = some (value, rest)) :
    ∃ c text, input = c :: text ∧ (c.isDigit = true ∨ c = 'I') := by
  unfold parseNumber at read
  split at read
  · exact ⟨_, _, rfl, Or.inr rfl⟩
  · split at read
    · cases read
    · rename_i integerRead
      obtain ⟨c, text, shape, digit⟩ := parseInteger_head integerRead
      exact ⟨c, text, shape, Or.inl digit⟩

/-! ### Values -/

def IsNumber : Json → Prop
  | .number _ => True
  | _ => False

def ValuesExtend (more : List Char) (fuel : Nat) : Prop :=
  ∀ input value rest, parseValue fuel input = some (value, rest) →
    (IsNumber value → Stopped rest) → ∀ enough, fuel ≤ enough →
      parseValue enough (input ++ more) = some (value, rest ++ more)

def ItemsExtend (more : List Char) (fuel : Nat) : Prop :=
  ∀ input items rest, parseItems fuel input = some (items, rest) → ∀ enough, fuel ≤ enough →
    parseItems enough (input ++ more) = some (items, rest ++ more)

def MembersExtend (more : List Char) (fuel : Nat) : Prop :=
  ∀ input members rest, parseMembers fuel input = some (members, rest) → ∀ enough, fuel ≤ enough →
    parseMembers enough (input ++ more) = some (members, rest ++ more)

theorem stopped_of_skipSpace (skipped : skipSpace input = c :: rest)
    (stop : c.isDigit = false ∧ c ≠ '.' ∧ c ≠ 'e' ∧ c ≠ 'E') : Stopped input := by
  unfold skipSpace at skipped
  cases input with
  | nil => cases skipped
  | cons first input =>
      refine ⟨List.cons_ne_nil _ _, ?_⟩
      intro head member
      cases member
      cases space : isSpace first with
      | false =>
          simp only [List.dropWhile_cons, space] at skipped
          cases skipped
          exact stop
      | true =>
          simp only [isSpace, Bool.or_eq_true, decide_eq_true_eq] at space
          rcases space with ((rfl | rfl) | rfl) | rfl <;> decide

theorem skipSpace_append_cons (skipped : skipSpace input = c :: rest) :
    skipSpace (input ++ more) = c :: (rest ++ more) := by
  rw [skipSpace_append (by rw [skipped]; exact List.cons_ne_nil _ _), skipped, List.cons_append]

theorem parseValue_nil (fuel : Nat) : parseValue fuel [] = none := by
  cases fuel <;> simp [parseValue, parseNumber, parseInteger, takeDigits]

theorem parseItems_nil (fuel : Nat) : parseItems fuel [] = none := by
  cases fuel with
  | zero => rfl
  | succ fuel => simp [parseItems, parseValue_nil]

theorem parseMembers_nil (fuel : Nat) : parseMembers fuel [] = none := by
  cases fuel <;> simp [parseMembers]

theorem itemsExtend_succ (values : ValuesExtend more fuel) (later : ItemsExtend more fuel) :
    ItemsExtend more (fuel + 1) := by
  intro input items rest read enough bound
  obtain ⟨enough, rfl⟩ : ∃ less, enough = less + 1 := ⟨enough - 1, by omega⟩
  unfold parseItems at read
  split at read
  · cases read
  · rename_i item behind itemRead
    split at read
    · rename_i skipped
      cases read
      have stopped := stopped_of_skipSpace skipped (by decide)
      have again := values _ _ _ itemRead (fun _ => stopped) enough (by omega)
      simp only [parseItems, again, skipSpace_append_cons skipped]
    · rename_i between skipped
      obtain ⟨⟨others, left⟩, read, same⟩ := Option.map_eq_some_iff.mp read
      cases same
      have stopped := stopped_of_skipSpace skipped (by decide)
      have again := values _ _ _ itemRead (fun _ => stopped) enough (by omega)
      have begun : skipSpace between ≠ [] := by
        intro nothing
        rw [nothing, parseItems_nil] at read
        cases read
      have othersAgain := later _ _ _ read enough (by omega)
      simp only [parseItems, again, skipSpace_append_cons skipped, skipSpace_append begun,
        othersAgain, Option.map_some]
    · cases read

theorem membersExtend_succ (values : ValuesExtend more fuel) (later : MembersExtend more fuel) :
    MembersExtend more (fuel + 1) := by
  intro input members rest read enough bound
  obtain ⟨enough, rfl⟩ : ∃ less, enough = less + 1 := ⟨enough - 1, by omega⟩
  unfold parseMembers at read
  split at read
  · split at read
    · cases read
    · rename_i name behindName nameRead
      have nameAgain := @parseChars_append more _ _ _ nameRead
      split at read
      · rename_i behindColon colon
        split at read
        · cases read
        · rename_i value behind valueRead
          have begun : skipSpace behindColon ≠ [] := by
            intro nothing
            rw [nothing, parseValue_nil] at valueRead
            cases valueRead
          split at read
          · rename_i skipped
            cases read
            have stopped := stopped_of_skipSpace skipped (by decide)
            have again := values _ _ _ valueRead (fun _ => stopped) enough (by omega)
            simp only [List.cons_append, parseMembers, nameAgain, skipSpace_append_cons colon,
              skipSpace_append begun, again, skipSpace_append_cons skipped]
          · rename_i between skipped
            obtain ⟨⟨others, left⟩, read, same⟩ := Option.map_eq_some_iff.mp read
            cases same
            have stopped := stopped_of_skipSpace skipped (by decide)
            have again := values _ _ _ valueRead (fun _ => stopped) enough (by omega)
            have othersBegun : skipSpace between ≠ [] := by
              intro nothing
              rw [nothing, parseMembers_nil] at read
              cases read
            have othersAgain := later _ _ _ read enough (by omega)
            simp only [List.cons_append, parseMembers, nameAgain, skipSpace_append_cons colon,
              skipSpace_append begun, again, skipSpace_append_cons skipped,
              skipSpace_append othersBegun, othersAgain, Option.map_some]
          · cases read
      · cases read
  · cases read

theorem valuesExtend_succ (items : ItemsExtend more fuel) (members : MembersExtend more fuel) :
    ValuesExtend more (fuel + 1) := by
  intro input value rest read number enough bound
  obtain ⟨enough, rfl⟩ : ∃ less, enough = less + 1 := ⟨enough - 1, by omega⟩
  unfold parseValue at read
  split at read
  · obtain ⟨⟨chars, left⟩, read, same⟩ := Option.map_eq_some_iff.mp read
    cases same
    simp only [List.cons_append, parseValue, parseChars_append read, Option.map_some]
  · split at read
    · rename_i skipped
      cases read
      simp only [List.cons_append, parseValue, skipSpace_append_cons skipped]
    · rename_i inside _between notEmpty
      obtain ⟨⟨others, left⟩, read, same⟩ := Option.map_eq_some_iff.mp read
      cases same
      cases shape : skipSpace inside with
      | nil =>
          rw [shape, parseMembers_nil] at read
          cases read
      | cons c between =>
          have again := members _ _ _ read enough (by omega)
          have different : c ≠ '}' := fun same => notEmpty between (by rw [shape, same])
          rw [shape, List.cons_append] at again
          simp [parseValue, skipSpace_append_cons shape, different, again]
  · split at read
    · rename_i skipped
      cases read
      simp only [List.cons_append, parseValue, skipSpace_append_cons skipped]
    · rename_i inside _between notEmpty
      obtain ⟨⟨others, left⟩, read, same⟩ := Option.map_eq_some_iff.mp read
      cases same
      cases shape : skipSpace inside with
      | nil =>
          rw [shape, parseItems_nil] at read
          cases read
      | cons c between =>
          have again := items _ _ _ read enough (by omega)
          have different : c ≠ ']' := fun same => notEmpty between (by rw [shape, same])
          rw [shape, List.cons_append] at again
          simp [parseValue, skipSpace_append_cons shape, different, again]
  · cases read
    rfl
  · cases read
    rfl
  · cases read
    rfl
  · cases read
    rfl
  · obtain ⟨⟨parsed, left⟩, read, same⟩ := Option.map_eq_some_iff.mp read
    cases same
    simp only [List.cons_append, parseValue, parseNumber_append read (number trivial),
      Option.map_some]
  · obtain ⟨⟨parsed, left⟩, read, same⟩ := Option.map_eq_some_iff.mp read
    cases same
    have again := @parseNumber_append more _ _ _ _ read (number trivial)
    obtain ⟨c, text, rfl, head⟩ := parseNumber_head read
    rw [List.cons_append] at again ⊢
    rcases head with digit | infinite
    · rw [parseValue_of_digit enough digit, again]
      rfl
    · subst infinite
      simp [parseValue, again]

theorem extends_all (more : List Char) (fuel : Nat) :
    ValuesExtend more fuel ∧ ItemsExtend more fuel ∧ MembersExtend more fuel := by
  induction fuel with
  | zero =>
      refine ⟨?_, ?_, ?_⟩
      · intro input value rest read
        cases read
      · intro input items rest read
        cases read
      · intro input members rest read
        cases read
  | succ fuel ih =>
      obtain ⟨values, items, members⟩ := ih
      exact ⟨valuesExtend_succ items members, itemsExtend_succ values items,
        membersExtend_succ values members⟩

theorem parseValue_brace {fuel : Nat} {input rest : List Char} {value : Json}
    (read : parseValue fuel ('{' :: input) = some (value, rest)) : ¬ IsNumber value := by
  cases fuel with
  | zero => cases read
  | succ fuel =>
      unfold parseValue at read
      simp only at read
      split at read
      · cases read
        exact id
      · obtain ⟨_, _, same⟩ := Option.map_eq_some_iff.mp read
        cases same
        exact id

theorem parse_prefix {gap start rest : List Char} (spaces : ∀ c ∈ gap, isSpace c = true)
    {members : List (JsonText × Json)} (cut : printWith gap (.object members) = start ++ rest)
    (proper : rest ≠ []) : parse start = none := by
  cases start with
  | nil => simp [parse, skipSpace, parseValue_nil]
  | cons c start =>
      have head : c = '{' := by
        cases members <;> exact ((List.cons.inj cut).1).symm
      subst head
      unfold parse
      rw [skipSpace_cons (by decide)]
      split
      · rename_i value behind read
        have again := (extends_all rest _).1 _ _ _ read (fun number =>
          absurd number (parseValue_brace read)) _
          (Nat.le_add_right _ (printWith gap (.object members)).length)
        have whole := readsBack spaces (.object members)
          (('{' :: start).length + 1 + (printWith gap (.object members)).length) []
          (by omega) (by intro c member; cases member)
        rw [List.append_nil, cut] at whole
        rw [← cut, cut, whole] at again
        have nothing := (Prod.mk.inj (Option.some.inj again)).2
        exact absurd (List.append_eq_nil_iff.mp nothing.symm).2 proper
      · rfl

/-! ### Printable text -/

def IsPlain (c : Char) : Prop :=
  0x20 ≤ c.toNat ∧ c.toNat ≤ 0x7e

instance (c : Char) : Decidable (IsPlain c) :=
  inferInstanceAs (Decidable (_ ∧ _))

theorem plain_of_all {text : List Char} (all : text.all (fun c => decide (IsPlain c)) = true) :
    ∀ c ∈ text, IsPlain c :=
  fun c member => of_decide_eq_true (List.all_eq_true.mp all c member)

theorem plain_digitChar {digit : Nat} (bound : digit < 16) : IsPlain (Nat.digitChar digit) := by
  have all : ∀ digit < 16, IsPlain (Nat.digitChar digit) := by decide
  exact all digit bound

theorem plain_unicodeEscape (code : Nat) : ∀ c ∈ unicodeEscape code, IsPlain c := by
  have digit : ∀ value, IsPlain (Nat.digitChar (value % 16)) := fun value =>
    plain_digitChar (Nat.mod_lt _ (by decide))
  simp only [unicodeEscape, List.forall_mem_cons, List.not_mem_nil, false_implies, implies_true,
    and_true]
  exact ⟨by decide, by decide, digit _, digit _, digit _, digit _⟩

theorem plain_escape (c : Char) : ∀ escaped ∈ escape c, IsPlain escaped := by
  unfold escape
  split
  · exact plain_of_all (by decide)
  split
  · exact plain_of_all (by decide)
  split
  · exact plain_of_all (by decide)
  split
  · exact plain_of_all (by decide)
  split
  · exact plain_of_all (by decide)
  split
  · exact plain_of_all (by decide)
  split
  · exact plain_of_all (by decide)
  split
  · rename_i printable
    simpa [IsPlain] using printable
  split
  · exact plain_unicodeEscape _
  · intro escaped member
    rcases List.mem_append.mp member with high | low
    · exact plain_unicodeEscape _ _ high
    · exact plain_unicodeEscape _ _ low

theorem plain_cons {text : List Char} (first : IsPlain c) (rest : ∀ c ∈ text, IsPlain c) :
    ∀ other ∈ c :: text, IsPlain other :=
  List.forall_mem_cons.mpr ⟨first, rest⟩

theorem plain_append {first second : List Char} (start : ∀ c ∈ first, IsPlain c)
    (rest : ∀ c ∈ second, IsPlain c) : ∀ c ∈ first ++ second, IsPlain c :=
  List.forall_mem_append.mpr ⟨start, rest⟩

theorem plain_printString (value : JsonText) : ∀ c ∈ printString value, IsPlain c := by
  refine plain_cons (by decide) (plain_append ?_ (plain_of_all (by decide)))
  intro c member
  obtain ⟨source, _, isEscaped⟩ := List.mem_flatMap.mp member
  cases source with
  | scalar char => exact plain_escape char c isEscaped
  | _ => exact plain_unicodeEscape _ c isEscaped

theorem plain_of_digit (digit : c.isDigit = true) : IsPlain c := by
  simp only [Char.isDigit, Bool.and_eq_true, decide_eq_true_eq] at digit
  have low : '0'.toNat ≤ c.toNat := digit.1
  have high : c.toNat ≤ '9'.toNat := digit.2
  exact ⟨Nat.le_trans (by decide) low, Nat.le_trans high (by decide)⟩

theorem plain_toDigits (value : Nat) : ∀ c ∈ Nat.toDigits 10 value, IsPlain c :=
  fun c member => plain_of_digit (toDigits_isDigit value c member)

theorem plain_printSign (negative : Bool) : ∀ c ∈ printSign negative, IsPlain c := by
  cases negative <;> exact plain_of_all (by decide)

theorem plain_printNumber (value : JsonNumber) : ∀ c ∈ printNumber value, IsPlain c := by
  cases value with
  | integer value => exact plain_append (plain_printSign _) (plain_toDigits _)
  | float literal =>
      refine plain_append (plain_append (plain_append (plain_printSign _) (plain_toDigits _)) ?_) ?_
      · unfold printFraction
        split
        · simp
        · exact plain_cons (by decide) fun c member =>
            plain_of_digit (literal.fractionDigits c member)
      · cases exponent : literal.exponent with
        | none => simp [printExponent]
        | some pair =>
            have digits := (literal.exponentDigits pair exponent).2
            refine plain_cons (by decide) (plain_cons ?_ fun c member =>
              plain_of_digit (digits c member))
            cases pair.1 <;> decide
  | nan => exact plain_of_all (by decide)
  | infinity negative => exact plain_append (plain_printSign _) (plain_of_all (by decide))

section

variable {gap : List Char} (plainGap : ∀ c ∈ gap, IsPlain c)
include plainGap

theorem plain_printItemsWith {items : List Json}
    (plain : ∀ item ∈ items, ∀ c ∈ printWith gap item, IsPlain c) :
    ∀ c ∈ printItemsWith gap items, IsPlain c := by
  induction items with
  | nil => simp [printItemsWith, IsPlain]
  | cons item items ih =>
      have rest := ih fun other member => plain other (List.mem_cons_of_mem _ member)
      exact plain_cons (by decide)
        (plain_append plainGap (plain_append (plain item List.mem_cons_self) rest))

theorem plain_printMembersWith {members : List (JsonText × Json)}
    (plain : ∀ member ∈ members, ∀ c ∈ printWith gap member.2, IsPlain c) :
    ∀ c ∈ printMembersWith gap members, IsPlain c := by
  induction members with
  | nil => simp [printMembersWith, IsPlain]
  | cons member members ih =>
      have rest := ih fun other later => plain other (List.mem_cons_of_mem _ later)
      exact plain_cons (by decide) (plain_append plainGap (plain_append (plain_printString _)
        (plain_cons (by decide)
          (plain_append plainGap (plain_append (plain member List.mem_cons_self) rest)))))

theorem plain_printWith (value : Json) : ∀ c ∈ printWith gap value, IsPlain c := by
  induction value using inductionOn with
  | null => simp [printWith, IsPlain]
  | bool value => cases value <;> simp [printWith, IsPlain]
  | number value => exact plain_printNumber value
  | string value => exact plain_printString value
  | array items ih =>
      cases items with
      | nil => simp [printWith, IsPlain]
      | cons item items =>
          exact plain_cons (by decide) (plain_append (ih item List.mem_cons_self)
            (plain_printItemsWith plainGap fun other member =>
              ih other (List.mem_cons_of_mem _ member)))
  | object members ih =>
      cases members with
      | nil => simp [printWith, IsPlain]
      | cons member members =>
          exact plain_cons (by decide) (plain_append (plain_printString _)
            (plain_cons (by decide) (plain_append plainGap (plain_append (ih member List.mem_cons_self)
              (plain_printMembersWith plainGap fun other later =>
                ih other (List.mem_cons_of_mem _ later))))))

end

end Json

end TurtleExecution

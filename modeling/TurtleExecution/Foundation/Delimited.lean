/-
Texts delimited by colons.

A field without a colon is read back from the text that starts with it, whatever
follows its delimiter; so is a field of a set in which none goes on behind another.
-/

import Mathlib.Data.List.Basic
import Mathlib.Data.Set.Defs
import Std.Data.String.ToNat

set_option autoImplicit false

namespace TurtleExecution.Delimited

def ColonFree (text : String) : Prop :=
  ':' ∉ text.toList

instance : DecidablePred ColonFree := fun text =>
  inferInstanceAs (Decidable (':' ∉ text.toList))

theorem colonFree_toString (number : Nat) : ColonFree (toString number) := by
  intro member
  rw [Nat.toString_eq_repr, Nat.toList_repr] at member
  have digit := Nat.isDigit_of_mem_toDigits (by decide) (by decide) member
  revert digit
  decide

theorem colonFree_append {text other : String} (free : ColonFree text) (otherFree : ColonFree other) :
    ColonFree (text ++ other) := by
  unfold ColonFree
  rw [String.toList_append, List.mem_append]
  exact not_or.mpr ⟨free, otherFree⟩

theorem colonFree_toString_int (number : Int) : ColonFree (toString number) := by
  cases number with
  | ofNat number => exact colonFree_toString number
  | negSucc number => exact colonFree_append (by decide) (colonFree_toString (number + 1))

theorem toString_injective {number other : Nat} (same : toString number = toString other) :
    number = other :=
  Nat.repr_injective same

theorem append_cons_injective {Item : Type} {delimiter : Item} {field other rest otherRest : List Item}
    (free : delimiter ∉ field) (otherFree : delimiter ∉ other)
    (same : field ++ delimiter :: rest = other ++ delimiter :: otherRest) :
    field = other ∧ rest = otherRest := by
  induction field generalizing other with
  | nil =>
      cases other with
      | nil =>
          cases same
          exact ⟨rfl, rfl⟩
      | cons head tail =>
          cases same
          exact (otherFree List.mem_cons_self).elim
  | cons head tail ih =>
      cases other with
      | nil =>
          cases same
          exact (free List.mem_cons_self).elim
      | cons otherHead otherTail =>
          rw [List.cons_append, List.cons_append, List.cons.injEq] at same
          obtain ⟨rfl, tails⟩ := same
          obtain ⟨rfl, rests⟩ := ih (fun inside => free (List.mem_cons_of_mem _ inside))
            (fun inside => otherFree (List.mem_cons_of_mem _ inside)) tails
          exact ⟨rfl, rests⟩

theorem append_colon_injective {field other rest otherRest : String} (free : ColonFree field)
    (otherFree : ColonFree other)
    (same : field ++ ":" ++ rest = other ++ ":" ++ otherRest) : field = other ∧ rest = otherRest := by
  have chars : field.toList ++ ':' :: rest.toList = other.toList ++ ':' :: otherRest.toList := by
    simpa using congrArg String.toList same
  obtain ⟨fields, rests⟩ := append_cons_injective free otherFree chars
  exact ⟨String.toList_injective fields, String.toList_injective rests⟩

theorem append_colon_injective_right {field other rest otherRest : String} (free : ColonFree rest)
    (otherFree : ColonFree otherRest)
    (same : field ++ ":" ++ rest = other ++ ":" ++ otherRest) : field = other ∧ rest = otherRest := by
  have reversed := congrArg (fun text : String => text.toList.reverse) same
  have colon : ":".toList = [':'] := by decide
  simp only [String.toList_append, List.reverse_append, colon, List.reverse_cons,
    List.append_assoc, List.singleton_append] at reversed
  obtain ⟨rests, fields⟩ := append_cons_injective
    (fun member => free (List.mem_reverse.mp member))
    (fun member => otherFree (List.mem_reverse.mp member)) reversed
  exact ⟨String.toList_injective (List.reverse_injective fields),
    String.toList_injective (List.reverse_injective rests)⟩

theorem ne_append_colon {field other rest : String} (free : ColonFree field) :
    field ≠ other ++ ":" ++ rest := by
  intro same
  apply free
  rw [same]
  simp

theorem append_left_injective {front rest otherRest : String}
    (same : front ++ rest = front ++ otherRest) : rest = otherRest := by
  have chars := congrArg String.toList same
  simp only [String.toList_append] at chars
  exact String.toList_injective (List.append_cancel_left chars)

theorem append_right_injective {front other rest : String} (same : front ++ rest = other ++ rest) :
    front = other := by
  have chars := congrArg String.toList same
  simp only [String.toList_append] at chars
  exact String.toList_injective (List.append_cancel_right chars)

theorem numbered_injective {front suffix otherSuffix : String} {number other : Nat}
    (same : front ++ ":" ++ toString number ++ ":" ++ suffix =
      front ++ ":" ++ toString other ++ ":" ++ otherSuffix) :
    number = other ∧ suffix = otherSuffix := by
  simp only [String.append_assoc] at same
  have numbered := append_left_injective (append_left_injective same)
  simp only [← String.append_assoc] at numbered
  obtain ⟨numbers, suffixes⟩ := append_colon_injective (colonFree_toString number)
    (colonFree_toString other) numbered
  exact ⟨toString_injective numbers, suffixes⟩

def Continues (text other : String) : Prop :=
  ∃ rest, other = text ++ ":" ++ rest

theorem Continues.ne {text other : String} (continues : Continues text other) : text ≠ other := by
  rintro rfl
  obtain ⟨rest, same⟩ := continues
  have lengths := congrArg String.length same
  simp only [String.length_append] at lengths
  have colon : ":".length = 1 := rfl
  omega

def Separated (texts : Set String) : Prop :=
  ∀ text ∈ texts, ∀ other ∈ texts, ¬ Continues text other

theorem append_cons_cases {Item : Type} {delimiter : Item} {field other rest otherRest : List Item}
    (same : field ++ delimiter :: rest = other ++ delimiter :: otherRest) :
    (field = other ∧ rest = otherRest) ∨
      (∃ middle, other = field ++ delimiter :: middle) ∨
        ∃ middle, field = other ++ delimiter :: middle := by
  have longer {short long front back : List Item} {more : List Item} (whole : long = short ++ more)
      (tails : delimiter :: front = more ++ delimiter :: back) :
      (short = long ∧ front = back) ∨ ∃ middle, long = short ++ delimiter :: middle := by
    cases more with
    | nil =>
        rw [List.append_nil] at whole
        cases tails
        exact Or.inl ⟨whole.symm, rfl⟩
    | cons head middle =>
        rw [List.cons_append, List.cons.injEq] at tails
        rw [← tails.1] at whole
        exact Or.inr ⟨middle, whole⟩
  rcases List.append_eq_append_iff.mp same with ⟨more, whole, tails⟩ | ⟨more, whole, tails⟩
  · rcases longer whole tails with both | continued
    · exact Or.inl both
    · exact Or.inr (Or.inl continued)
  · rcases longer whole tails with ⟨fields, rests⟩ | continued
    · exact Or.inl ⟨fields.symm, rests.symm⟩
    · exact Or.inr (Or.inr continued)

/-- Where neither of two fields goes on behind the other, they are read back from
the texts that start with them. -/
theorem append_colon_separated {field other rest otherRest : String}
    (apart : ¬ Continues field other) (otherApart : ¬ Continues other field)
    (same : field ++ ":" ++ rest = other ++ ":" ++ otherRest) : field = other ∧ rest = otherRest := by
  have continued {text long : String} {middle : List Char}
      (chars : long.toList = text.toList ++ ':' :: middle) : Continues text long := by
    refine ⟨String.ofList middle, String.toList_injective ?_⟩
    simpa using chars
  have chars : field.toList ++ ':' :: rest.toList = other.toList ++ ':' :: otherRest.toList := by
    simpa using congrArg String.toList same
  rcases append_cons_cases chars with ⟨fields, rests⟩ | ⟨middle, whole⟩ | ⟨middle, whole⟩
  · exact ⟨String.toList_injective fields, String.toList_injective rests⟩
  · exact (apart (continued whole)).elim
  · exact (otherApart (continued whole)).elim

inductive KeyTail
  | bare
  | word (name : String)
  | detail (name value : String)

def KeyTail.text : KeyTail → String
  | bare => ""
  | word name => ":" ++ name
  | detail name value => ":" ++ (name ++ ":" ++ value)

def KeyTail.ColonFreeName : KeyTail → Prop
  | bare => True
  | word name => ColonFree name
  | detail name _ => ColonFree name

theorem KeyTail.text_injective {tail other : KeyTail} (free : tail.ColonFreeName)
    (otherFree : other.ColonFreeName) (same : tail.text = other.text) : tail = other := by
  have colon (rest : String) : "" ≠ ":" ++ rest := by
    intro equal
    have chars := congrArg String.toList equal
    simp at chars
  cases tail with
  | bare =>
      cases other with
      | bare => rfl
      | word name => exact (colon _ same).elim
      | detail name value => exact (colon _ same).elim
  | word name =>
      cases other with
      | bare => exact (colon _ same.symm).elim
      | word otherName => exact congrArg word (append_left_injective same)
      | detail otherName otherValue =>
          exact (ne_append_colon free (append_left_injective same)).elim
  | detail name value =>
      cases other with
      | bare => exact (colon _ same.symm).elim
      | word otherName => exact (ne_append_colon otherFree (append_left_injective same).symm).elim
      | detail otherName otherValue =>
          obtain ⟨rfl, rfl⟩ := append_colon_injective free otherFree (append_left_injective same)
          rfl

theorem KeyTail.detail_text (front name value : String) :
    front ++ (detail name value).text = front ++ (":" ++ name ++ ":") ++ value := by
  simp only [text, String.append_assoc]

end TurtleExecution.Delimited

namespace TurtleExecution

variable {Value Other Symbol : Type}

def SelfDelimiting (valid : Value → Prop) (code : Value → List Symbol) : Prop :=
  ∀ value other rest otherRest, valid value → valid other →
    code value ++ rest = code other ++ otherRest → value = other ∧ rest = otherRest

namespace SelfDelimiting

variable {valid : Value → Prop} {code : Value → List Symbol}

theorem injective (delimiting : SelfDelimiting valid code) {value other : Value}
    (isValid : valid value) (otherValid : valid other) (same : code value = code other) :
    value = other := by
  have extended : code value ++ [] = code other ++ [] := by rw [same]
  exact (delimiting value other [] [] isValid otherValid extended).1

theorem append {otherValid : Other → Prop} {otherCode : Other → List Symbol}
    (first : SelfDelimiting valid code) (second : SelfDelimiting otherValid otherCode) :
    SelfDelimiting (fun pair : Value × Other => valid pair.1 ∧ otherValid pair.2)
      (fun pair => code pair.1 ++ otherCode pair.2) := by
  intro pair other rest otherRest isValid isOtherValid same
  rw [List.append_assoc, List.append_assoc] at same
  have heads := first pair.1 other.1 _ _ isValid.1 isOtherValid.1 same
  have tails := second pair.2 other.2 _ _ isValid.2 isOtherValid.2 heads.2
  exact ⟨Prod.ext heads.1 tails.1, tails.2⟩

theorem comap (delimiting : SelfDelimiting valid code) {change : Other → Value}
    (changes : Function.Injective change) :
    SelfDelimiting (fun other => valid (change other)) (fun other => code (change other)) := by
  intro value other rest otherRest isValid otherValid same
  have both := delimiting (change value) (change other) rest otherRest isValid otherValid same
  exact ⟨changes both.1, both.2⟩

variable {header : Nat → List Symbol}

theorem counted {fits : Nat → Prop} (headers : SelfDelimiting fits header) :
    SelfDelimiting (fun value : List Symbol => fits value.length)
      (fun value => header value.length ++ value) := by
  intro value other rest otherRest isFit otherFit same
  rw [List.append_assoc, List.append_assoc] at same
  obtain ⟨lengths, lists⟩ := headers value.length other.length _ _ isFit otherFit same
  exact List.append_inj lists lengths

theorem fixedWidth {width bound : Nat} (isWidth : ∀ length, (header length).length = width)
    (determines : ∀ length other, length < bound → other < bound →
      header length = header other → length = other) :
    SelfDelimiting (fun length => length < bound) header := by
  intro length other rest otherRest fits otherFits same
  have widths : (header length).length = (header other).length := by rw [isWidth, isWidth]
  have headers := List.append_inj same widths
  exact ⟨determines length other fits otherFits headers.1, headers.2⟩

theorem lengthPrefixed {width bound : Nat} (isWidth : ∀ length, (header length).length = width)
    (determines : ∀ length other, length < bound → other < bound →
      header length = header other → length = other) :
    SelfDelimiting (fun value : List Symbol => value.length < bound)
      (fun value => header value.length ++ value) :=
  counted (fixedWidth isWidth determines)

theorem delimited {delimiter : Symbol} (free : ∀ value, valid value → delimiter ∉ code value)
    (determines : ∀ value other, code value = code other → value = other) :
    SelfDelimiting valid (fun value => code value ++ [delimiter]) := by
  intro value other rest otherRest isValid otherValid same
  rw [List.append_assoc, List.append_assoc, List.singleton_append, List.singleton_append] at same
  obtain ⟨codes, rests⟩ :=
    Delimited.append_cons_injective (free value isValid) (free other otherValid) same
  exact ⟨determines value other codes, rests⟩

end SelfDelimiting

namespace Delimited

def countedText (text : String) : List Char :=
  ((toString text.length).toList ++ [':']) ++ text.toList

theorem countedText_delimits : SelfDelimiting (fun _ => True) countedText := by
  have headers : SelfDelimiting (fun _ => True)
      (fun length : Nat => (toString length).toList ++ [':']) :=
    .delimited (fun length _ => colonFree_toString length)
      (fun _ _ same => toString_injective (String.toList_injective same))
  have texts := headers.counted
  intro text other rest otherRest _ _ same
  unfold countedText at same
  rw [← String.length_toList, ← String.length_toList] at same
  obtain ⟨chars, rests⟩ := texts text.toList other.toList rest otherRest trivial trivial same
  exact ⟨String.toList_injective chars, rests⟩

end Delimited

end TurtleExecution

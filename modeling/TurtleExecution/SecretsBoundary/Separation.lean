/-
The domains of signatures are separate.

A pre-image is its fields one after the other, each behind its length, so it shows where
each of them ends.  It is built for one version, exchange, purpose and message only.
-/

import TurtleExecution.Foundation.BigEndian
import TurtleExecution.Foundation.Delimited
import TurtleExecution.SecretsBoundary.Boundary

set_option autoImplicit false

namespace TurtleExecution.SecretsBoundary

open BigEndian

/-- What `struct.pack(">I", length)` writes, where it does. -/
def header (length : Nat) : Bytes := toBigEndian 4 length

private theorem header_determines (length other : Nat) (fits : length < 2 ^ 32)
    (otherFits : other < 2 ^ 32)
    (same : header length = header other) : length = other := by
  have read := congrArg ofBigEndian same
  rw [header, header, ofBigEndian_toBigEndian fits, ofBigEndian_toBigEndian otherFits] at read
  exact read

def fieldCode (value : Bytes) : Bytes := header value.length ++ value

private theorem field_of_fits {value : Bytes} (fits : value.length < 2 ^ 32) :
    field value = .ok (fieldCode value) := by
  unfold field
  rw [if_neg (Nat.not_le.mpr fits)]
  simp [fieldCode, header, toBigEndian]

private theorem fieldCode_delimits :
    SelfDelimiting (fun value : Bytes => value.length < 2 ^ 32) fieldCode :=
  .lengthPrefixed (toBigEndian_length 4) header_determines

private theorem utf8_injective : Function.Injective utf8 := by
  intro text other same
  have arrays := Array.toList_inj.mp same
  exact String.toByteArray_inj.mp (ByteArray.ext arrays)

private theorem value_injective : Function.Injective SigningPurpose.value := by
  intro purpose other same
  cases purpose <;> cases other <;> first | rfl | exact absurd same (by decide)

structure SigningContext where
  engineVersion : String
  exchangeName : String
  purpose : SigningPurpose
  message : Bytes
  deriving DecidableEq

namespace SigningContext

def preimage (context : SigningContext) : Except SigningError Bytes :=
  buildPreimage context.engineVersion context.exchangeName context.purpose context.message

structure Fits (context : SigningContext) : Prop where
  engineVersion : (utf8 context.engineVersion).length < 2 ^ 32
  exchangeName : (utf8 context.exchangeName).length < 2 ^ 32
  message : context.message.length < 2 ^ 32

def fields (context : SigningContext) : Bytes × Bytes × Bytes × Bytes :=
  (utf8 context.engineVersion, utf8 context.exchangeName, utf8 context.purpose.value,
    context.message)

private theorem fields_injective : Function.Injective fields := by
  intro context other same
  obtain ⟨version, exchange, purpose, message⟩ := context
  obtain ⟨otherVersion, otherExchange, otherPurpose, otherMessage⟩ := other
  simp only [fields, Prod.mk.injEq] at same
  obtain ⟨versions, exchanges, purposes, messages⟩ := same
  rw [utf8_injective versions, utf8_injective exchanges, value_injective (utf8_injective purposes),
    messages]

def fieldsCode (context : SigningContext) : Bytes :=
  fieldCode (utf8 context.engineVersion) ++ (fieldCode (utf8 context.exchangeName) ++
    (fieldCode (utf8 context.purpose.value) ++ fieldCode context.message))

private theorem purpose_fits (purpose : SigningPurpose) : (utf8 purpose.value).length < 2 ^ 32 := by
  cases purpose <;> decide

private theorem fieldsCode_delimits : SelfDelimiting Fits fieldsCode := by
  have codes := fieldCode_delimits.append (fieldCode_delimits.append
    (fieldCode_delimits.append fieldCode_delimits))
  intro context other rest otherRest fits otherFits same
  have placed : ∀ {known : SigningContext}, known.Fits →
      (utf8 known.engineVersion).length < 2 ^ 32 ∧ (utf8 known.exchangeName).length < 2 ^ 32 ∧
        (utf8 known.purpose.value).length < 2 ^ 32 ∧ known.message.length < 2 ^ 32 :=
    fun {known} isFit =>
      ⟨isFit.engineVersion, isFit.exchangeName, purpose_fits known.purpose, isFit.message⟩
  exact codes.comap fields_injective context other rest otherRest (placed fits) (placed otherFits)
    same

private theorem preimage_of_fits {context : SigningContext} (fits : context.Fits) :
    context.preimage = .ok (fieldCode engineId ++ context.fieldsCode) := by
  have engineFits : engineId.length < 2 ^ 32 := by decide
  unfold preimage buildPreimage
  rw [field_of_fits engineFits, field_of_fits fits.engineVersion, field_of_fits fits.exchangeName,
    field_of_fits (purpose_fits _), field_of_fits fits.message]
  simp only [fieldsCode, bind, Except.bind, pure, Except.pure, List.append_assoc]

/-- Contexts whose lengths fit have pre-images, and two of them with one pre-image are one
context.  So a signature that is valid for one message only is valid in one context only. -/
theorem preimage_injective {context other : SigningContext} (fits : context.Fits)
    (otherFits : other.Fits) :
    ∃ preimage otherPreimage, context.preimage = .ok preimage ∧
      other.preimage = .ok otherPreimage ∧
      (preimage = otherPreimage → context = other) ∧
      ∀ valid : Bytes → Bytes → Prop,
        (∀ signature message otherMessage, valid signature message →
          valid signature otherMessage → message = otherMessage) →
        ∀ signature, valid signature preimage → valid signature otherPreimage →
          context.purpose = other.purpose ∧ context.exchangeName = other.exchangeName := by
  have determines : fieldCode engineId ++ context.fieldsCode = fieldCode engineId ++ other.fieldsCode →
      context = other := by
    intro same
    exact fieldsCode_delimits.injective fits otherFits (List.append_cancel_left same)
  refine ⟨_, _, preimage_of_fits fits, preimage_of_fits otherFits, determines, ?_⟩
  intro valid forOne signature here there
  have sameContext := determines (forOne signature _ _ here there)
  rw [sameContext]
  exact ⟨rfl, rfl⟩

theorem preimage_injective_order_cancel :
    ∃ signed otherSigned,
      preimage ⟨"1.0.0", "hyperliquid", .order, [1, 2]⟩ = .ok signed ∧
      preimage ⟨"1.0.0", "hyperliquid", .cancel, [1, 2]⟩ = .ok otherSigned ∧
      signed ≠ otherSigned := by
  have fits : ∀ purpose, Fits ⟨"1.0.0", "hyperliquid", purpose, [1, 2]⟩ := fun purpose =>
    { engineVersion := (by decide : (utf8 "1.0.0").length < 2 ^ 32)
      exchangeName := (by decide : (utf8 "hyperliquid").length < 2 ^ 32)
      message := (by decide : [1, 2].length < 2 ^ 32) }
  obtain ⟨signed, otherSigned, built, otherBuilt, determines, _⟩ :=
    preimage_injective (fits .order) (fits .cancel)
  refine ⟨signed, otherSigned, built, otherBuilt, ?_⟩
  intro same
  exact absurd (congrArg SigningContext.purpose (determines same)) (by decide)

end SigningContext

end TurtleExecution.SecretsBoundary

/-
The signing boundary: the only object that produces signatures.

Everything about a boundary is fixed at construction except which references are
revoked.  A backend holds the key material and may raise where it is called.
-/

import Mathlib.Algebra.Group.Nat.Defs
import TurtleExecution.Foundation.Dict

set_option autoImplicit false

namespace TurtleExecution.SecretsBoundary

abbrev Bytes := List UInt8

def engineId : Bytes := "TurtleExecutionEngine".toUTF8.data.toList

def maxSigningPayloadBytes : Nat := 64 * 1024

inductive SigningPurpose
  | order
  | cancel
  | amend
  | auth
  | flatten
  | query
  | notify
  deriving DecidableEq, Repr

def SigningPurpose.value : SigningPurpose → String
  | order => "ORDER"
  | cancel => "CANCEL"
  | amend => "AMEND"
  | auth => "AUTH"
  | flatten => "FLATTEN"
  | query => "QUERY"
  | notify => "NOTIFY"

inductive SigningError
  | payloadTooLarge (message : String)
  | unknownSecretReference (message : String)
  | secretRevoked (message : String)
  | struct
  | backend (message : String)
  deriving DecidableEq, Repr

def utf8 (text : String) : Bytes := text.toUTF8.data.toList

def field (value : Bytes) : Except SigningError Bytes :=
  if 2 ^ 32 ≤ value.length then .error .struct
  else .ok ([value.length / 2 ^ 24, value.length / 2 ^ 16, value.length / 2 ^ 8, value.length].map
    UInt8.ofNat ++ value)

def buildPreimage (engineVersion exchangeName : String) (purpose : SigningPurpose)
    (message : Bytes) : Except SigningError Bytes := do
  let engine ← field engineId
  let version ← field (utf8 engineVersion)
  let exchange ← field (utf8 exchangeName)
  let context ← field (utf8 purpose.value)
  let body ← field message
  return engine ++ version ++ exchange ++ context ++ body

structure Backend (Keys : Type) where
  sign : Keys → String → Bytes → Except SigningError Bytes
  discard : Keys → String → Except SigningError Unit × Keys

/-- `EnvironmentHmacBackend`, with the keys it has loaded. -/
def environmentHmac (hmac : Bytes → Bytes → Bytes) : Backend (Dict String Bytes) where
  sign keys ref message :=
    match keys.get? ref with
    | none => .error (.backend s!"no material loaded for reference '{ref}'")
    | some material => .ok (hmac material message)
  discard keys ref := (.ok (), keys.filter fun entry => entry.1 ≠ ref)

structure SigningBoundary (Keys : Type) where
  engineVersion : String
  exchangeName : String
  /-- The registered references, in the order in which they are gone through. -/
  expectedRefs : List String
  keys : Keys
  revoked : List String

namespace SigningBoundary

variable {Keys : Type} (backend : Backend Keys)

def sign (boundary : SigningBoundary Keys) (ref : String) (purpose : SigningPurpose)
    (message : Bytes) : Except SigningError Bytes :=
  if maxSigningPayloadBytes < message.length then
    .error (.payloadTooLarge
      (s!"signing payload is {message.length} bytes, exceeding the {maxSigningPayloadBytes}-byte " ++
        s!"limit (reference '{ref}', purpose {purpose.value})"))
  else if ref ∉ boundary.expectedRefs then
    .error (.unknownSecretReference s!"unknown secret reference: '{ref}'")
  else if ref ∈ boundary.revoked then
    .error (.secretRevoked s!"secret reference '{ref}' has been revoked and can no longer sign")
  else do
    let preimage ← buildPreimage boundary.engineVersion boundary.exchangeName purpose message
    backend.sign boundary.keys ref preimage

/-- `self._revoked.add(ref)`, then `self._backend.discard(ref)`. -/
def disable (boundary : SigningBoundary Keys) (ref : String) :
    Except SigningError Unit × SigningBoundary Keys :=
  match backend.discard boundary.keys ref with
  | (outcome, keys) => (outcome, { boundary with keys, revoked := ref :: boundary.revoked })

def revoke (boundary : SigningBoundary Keys) (ref : String) :
    Except SigningError Unit × SigningBoundary Keys :=
  if ref ∉ boundary.expectedRefs then
    (.error (.unknownSecretReference s!"unknown secret reference: '{ref}'"), boundary)
  else boundary.disable backend ref

def disableAll (boundary : SigningBoundary Keys) :
    List String → Except SigningError Unit × SigningBoundary Keys
  | [] => (.ok (), boundary)
  | ref :: refs =>
      match boundary.disable backend ref with
      | (.ok (), disabled) => disabled.disableAll refs
      | (.error error, disabled) => (.error error, disabled)

def revokeAll (boundary : SigningBoundary Keys) :
    Except SigningError Unit × SigningBoundary Keys :=
  boundary.disableAll backend boundary.expectedRefs

inductive Call
  | sign (ref : String) (purpose : SigningPurpose) (message : Bytes)
  | revoke (ref : String)
  | revokeAll

def after (boundary : SigningBoundary Keys) : Call → SigningBoundary Keys
  | .sign _ _ _ => boundary
  | .revoke ref => (boundary.revoke backend ref).2
  | .revokeAll => (boundary.revokeAll backend).2

def run (boundary : SigningBoundary Keys) (calls : List Call) : SigningBoundary Keys :=
  calls.foldl (after backend) boundary

variable {backend : Backend Keys}

/-- The later boundary has the references of the earlier one, and at least its revocations. -/
structure Later (boundary later : SigningBoundary Keys) : Prop where
  expectedRefs : later.expectedRefs = boundary.expectedRefs
  revoked : ∀ ref ∈ boundary.revoked, ref ∈ later.revoked

theorem Later.refl (boundary : SigningBoundary Keys) : Later boundary boundary :=
  { expectedRefs := rfl, revoked := fun _ member => member }

theorem Later.trans {first second third : SigningBoundary Keys} (one : Later first second)
    (two : Later second third) : Later first third :=
  { expectedRefs := two.expectedRefs.trans one.expectedRefs
    revoked := fun ref member => two.revoked ref (one.revoked ref member) }

private theorem disable_later (boundary : SigningBoundary Keys) (ref : String) :
    Later boundary (boundary.disable backend ref).2 :=
  { expectedRefs := rfl, revoked := fun _ member => List.mem_cons_of_mem ref member }

private theorem disableAll_later (boundary : SigningBoundary Keys) (refs : List String) :
    Later boundary (boundary.disableAll backend refs).2 := by
  induction refs generalizing boundary with
  | nil => exact Later.refl boundary
  | cons ref refs ih =>
      have once : Later boundary (boundary.disable backend ref).2 := disable_later boundary ref
      unfold disableAll
      rcases disabling : boundary.disable backend ref with ⟨_ | _, disabled⟩
      · rw [disabling] at once
        exact once
      · rw [disabling] at once
        exact once.trans (ih disabled)

private theorem after_later (boundary : SigningBoundary Keys) (call : Call) :
    Later boundary (boundary.after backend call) := by
  cases call with
  | sign ref purpose message => exact Later.refl boundary
  | revoke ref =>
      change Later boundary (boundary.revoke backend ref).2
      unfold revoke
      by_cases unknown : ref ∉ boundary.expectedRefs
      · rw [if_pos unknown]
        exact Later.refl boundary
      · rw [if_neg unknown]
        exact disable_later boundary ref
  | revokeAll => exact disableAll_later boundary boundary.expectedRefs

private theorem run_later (boundary : SigningBoundary Keys) (calls : List Call) :
    Later boundary (boundary.run backend calls) := by
  induction calls generalizing boundary with
  | nil => exact Later.refl boundary
  | cons call calls ih => exact (after_later boundary call).trans (ih _)

variable {boundary : SigningBoundary Keys}

private theorem disableAll_revokes {refs : List String}
    (ended : (boundary.disableAll backend refs).1 = .ok ()) :
    ∀ ref ∈ refs, ref ∈ (boundary.disableAll backend refs).2.revoked := by
  induction refs generalizing boundary with
  | nil =>
      intro ref member
      cases member
  | cons first refs ih =>
      have isRevoked : first ∈ (boundary.disable backend first).2.revoked := List.mem_cons_self
      unfold disableAll at ended ⊢
      rcases disabling : boundary.disable backend first with ⟨_ | _, disabled⟩
      · rw [disabling] at ended
        cases ended
      · rw [disabling] at ended isRevoked
        intro ref member
        rcases List.mem_cons.mp member with rfl | later
        · exact (disableAll_later disabled refs).revoked ref isRevoked
        · exact ih ended ref later

private theorem sign_of_revoked {ref : String} (revoked : ref ∈ boundary.revoked)
    (purpose : SigningPurpose)
    (message : Bytes) : ∃ error, boundary.sign backend ref purpose message = .error error := by
  unfold sign
  by_cases tooLarge : maxSigningPayloadBytes < message.length
  · rw [if_pos tooLarge]
    exact ⟨_, rfl⟩
  · rw [if_neg tooLarge]
    by_cases unknown : ref ∉ boundary.expectedRefs
    · rw [if_pos unknown]
      exact ⟨_, rfl⟩
    · rw [if_neg unknown, if_pos revoked]
      exact ⟨_, rfl⟩

private theorem sign_of_unknown {ref : String} (unknown : ref ∉ boundary.expectedRefs)
    (purpose : SigningPurpose) (message : Bytes) :
    ∃ error, boundary.sign backend ref purpose message = .error error := by
  unfold sign
  by_cases tooLarge : maxSigningPayloadBytes < message.length
  · rw [if_pos tooLarge]
    exact ⟨_, rfl⟩
  · rw [if_neg tooLarge, if_pos unknown]
    exact ⟨_, rfl⟩

def Silent (boundary : SigningBoundary Keys) : Prop :=
  ∀ ref ∈ boundary.expectedRefs, ref ∈ boundary.revoked

private theorem silent_of_revokeAll (returned : (boundary.revokeAll backend).1 = .ok ()) :
    (boundary.revokeAll backend).2.Silent := by
  intro ref member
  rw [revokeAll, (disableAll_later boundary _).expectedRefs] at member
  exact disableAll_revokes returned ref member

theorem Silent.later {boundary later : SigningBoundary Keys} (silent : boundary.Silent)
    (isLater : Later boundary later) : later.Silent := by
  intro ref member
  rw [isLater.expectedRefs] at member
  exact isLater.revoked ref (silent ref member)

theorem Silent.sign (silent : boundary.Silent) (ref : String) (purpose : SigningPurpose)
    (message : Bytes) : ∃ error, boundary.sign backend ref purpose message = .error error := by
  by_cases known : ref ∈ boundary.expectedRefs
  · exact sign_of_revoked (silent ref known) purpose message
  · exact sign_of_unknown known purpose message

/-- A boundary that was revoked signs for no reference, and a reference that was revoked
is signed for no more, whatever is called afterwards. -/
theorem signs_nothing (backend : Backend Keys) (boundary : SigningBoundary Keys)
    (calls : List Call) (ref : String) (purpose : SigningPurpose) (message : Bytes) :
    ((boundary.revokeAll backend).1 = .ok () →
      ∃ error, ((boundary.revokeAll backend).2.run backend calls).sign backend ref purpose message =
        .error error) ∧
    ((boundary.revoke backend ref).1 = .ok () →
      ∃ error, ((boundary.revoke backend ref).2.run backend calls).sign backend ref purpose message =
        .error error) := by
  constructor
  · intro returned
    exact ((silent_of_revokeAll returned).later (run_later _ calls)).sign ref purpose message
  · intro returned
    unfold revoke at returned ⊢
    by_cases unknown : ref ∉ boundary.expectedRefs
    · rw [if_pos unknown] at returned
      cases returned
    · rw [if_neg unknown]
      exact sign_of_revoked ((run_later _ calls).revoked ref List.mem_cons_self) purpose message

end SigningBoundary

end TurtleExecution.SecretsBoundary

/-
The numbers of the venue's actions, as the strings that are signed, and the requests that
are signed over an action and a nonce.

A number is normalized under the default context before it is written, so that one with
more than 28 digits is rounded on its way.  A nonce is taken under a lock, so that calls
take theirs one after another, and is spent also where signing fails.
-/

import TurtleExecution.Foundation.DecimalText
import TurtleExecution.HyperliquidAdapter.Mutations

set_option autoImplicit false

namespace TurtleExecution.HyperliquidAdapter

def toWire (value : Decimal) : Except ArithmeticError String := do
  let normalized ← value.normalize
  let text := normalized.fixedText
  return if text = "-0" ∨ text = "-0.0" then "0" else text

structure Spells (text : String) (value : ℚ) : Prop where
  plain : ∃ negative whole decimals, Decimal.PlainNumeral negative whole decimals text
  read : ∃ number, Decimal.ofFixedText? text = some number ∧ number.IsFinite ∧
    number.exactly = value

/-- A value is written exactly, if it is written at all, and as any equal value. -/
structure WrittenExactly (value : Decimal) : Prop where
  spelled : ∀ text, toWire value = .ok text → Spells text value.exactly
  same : ∀ other : Decimal, other.IsFinite → other.exactly = value.exactly →
    toWire other = toWire value

private theorem spells_fixedText {number : Decimal} (isFinite : number.IsFinite)
    (isReduced : number.Reduced) : Spells number.fixedText number.exactly := by
  obtain ⟨negative, whole, decimals, plain, value⟩ :=
    Decimal.fixedText_reduced isFinite isReduced
  exact ⟨⟨negative, whole, decimals, plain⟩, _, Decimal.ofFixedText?_plain plain, trivial, value⟩

theorem Spells.unique {text : String} {value other : ℚ} (spells : Spells text value)
    (spellsOther : Spells text other) : value = other := by
  obtain ⟨number, read, _, same⟩ := spells.read
  obtain ⟨number', read', _, same'⟩ := spellsOther.read
  cases read.symm.trans read'
  exact same.symm.trans same'

private theorem spells_zero : Spells "0" 0 := by
  have spelled := @spells_fixedText (.finite false 0 0) trivial rfl
  have value : (Decimal.finite false 0 0).exactly = 0 := by simp [Decimal.exactly, Decimal.signed]
  rw [value] at spelled
  exact spelled

private theorem not_guarded {text : String} {value : ℚ} (spells : Spells text value)
    (nonzero : value ≠ 0) :
    ¬(text = "-0" ∨ text = "-0.0") := by
  obtain ⟨number, read, _, same⟩ := spells.read
  have guarded : ∀ text ∈ ["-0", "-0.0"], ∃ places,
      Decimal.ofFixedText? text = some (.finite true 0 places) := by
    intro text member
    rcases List.mem_pair.mp member with rfl | rfl
    · exact ⟨0, by decide +kernel⟩
    · exact ⟨-1, by decide +kernel⟩
  intro either
  obtain ⟨places, isZero⟩ := guarded text (List.mem_pair.mpr either)
  cases read.symm.trans isZero
  exact nonzero (same.symm.trans (by simp [Decimal.exactly, Decimal.signed]))

private theorem toWire_of_normalized {value number : Decimal}
    (normalized : value.normalize = .ok number)
    (isFinite : number.IsFinite) (isReduced : number.Reduced) :
    toWire value = .ok (if number.exactly = 0 then "0" else number.fixedText) := by
  have spells := spells_fixedText isFinite isReduced
  unfold toWire
  rw [bind_of_ok normalized]
  refine congrArg Except.ok ?_
  split
  · rename_i guarded
    by_cases isZero : number.exactly = 0
    · exact (if_pos isZero).symm
    · exact absurd guarded (not_guarded spells isZero)
  · rename_i free
    split
    · rename_i isZero
      obtain ⟨negative, coefficient, exponent, rfl⟩ := Decimal.cases_finite isFinite
      -- The zeros among the reduced numbers differ by their signs only.
      have zero : coefficient = 0 := by
        rw [Decimal.exactly, Decimal.signed_mul_zpow] at isZero
        by_contra nonzero
        have positive : (0 : ℚ) < coefficient * 10 ^ exponent :=
          mul_pos (Nat.cast_pos.mpr (Nat.pos_of_ne_zero nonzero)) (zpow_pos (by norm_num) _)
        cases negative <;> simp only [if_true, Bool.false_eq_true, if_false] at isZero <;> linarith
      subst zero
      rw [Decimal.Reduced, if_pos rfl] at isReduced
      subst isReduced
      cases negative with
      | false => rfl
      | true => exact absurd (by decide +kernel) free
    · rfl

private theorem toWire_of_overflow {value : Decimal}
    (overflows : value.normalize = .error .overflow) :
    toWire value = .error .overflow := by
  unfold toWire
  rw [overflows]
  rfl

private theorem toWire_spells {value number : Decimal} (normalized : value.normalize = .ok number)
    (known : Decimal.Normalizes value.exactly number) {text : String}
    (written : toWire value = .ok text) : Spells text (Decimal.nearest value.exactly) := by
  rw [toWire_of_normalized normalized known.isFinite known.isReduced] at written
  rw [← Except.ok.inj written, ← known.isNearest]
  split
  · rename_i isZero
    rw [isZero]
    exact spells_zero
  · exact spells_fixedText known.isFinite known.isReduced

private theorem toWire_same {value other : Decimal} (isFinite : value.IsFinite)
    (otherFinite : other.IsFinite) (same : other.exactly = value.exactly) :
    toWire other = toWire value := by
  rcases Decimal.normalize_cases isFinite with ⟨number, normalized, known⟩ | ⟨overflows, large⟩
  · rcases Decimal.normalize_cases otherFinite with
      ⟨number', normalized', known'⟩ | ⟨overflows, large⟩
    · have equal : number'.exactly = number.exactly := by
        rw [known'.isNearest, known.isNearest, same]
      rw [toWire_of_normalized normalized known.isFinite known.isReduced,
        toWire_of_normalized normalized' known'.isFinite known'.isReduced, equal]
      split
      · rfl
      · rename_i nonzero
        rw [Decimal.reduced_unique known.isFinite known'.isFinite known.isReduced known'.isReduced
          equal.symm nonzero]
    · exact absurd (same ▸ known.inRange) large
  · rcases Decimal.normalize_cases otherFinite with ⟨number', _, known'⟩ | ⟨overflows', _⟩
    · exact absurd (same ▸ known'.inRange) large
    · rw [toWire_of_overflow overflows, toWire_of_overflow overflows']

/-- A finite number is written exactly just when its value has 28 digits at most, or is too
large to be written at all. -/
theorem toWire_exact_iff (negative : Bool) (coefficient : Nat) (exponent : Int) :
    let value : ℚ := Decimal.signed negative coefficient * 10 ^ exponent
    WrittenExactly (.finite negative coefficient exponent) ↔
      Decimal.Representable value ∨ ¬Decimal.InRange value := by
  intro value
  have isFinite : (Decimal.finite negative coefficient exponent).IsFinite := trivial
  have isValue : (Decimal.finite negative coefficient exponent).exactly = value := rfl
  rcases Decimal.normalize_cases isFinite with ⟨number, normalized, known⟩ | ⟨overflows, large⟩
  · have written := toWire_of_normalized normalized known.isFinite known.isReduced
    have representable := known.representable
    have inRange := known.inRange
    rw [known.isNearest] at representable
    rw [isValue] at representable inRange
    have spells := toWire_spells normalized known written
    rw [isValue] at spells
    constructor
    · intro exact
      have spelled := exact.spelled _ written
      rw [isValue] at spelled
      rw [spelled.unique spells]
      exact .inl representable
    · intro either
      have isExact : Decimal.nearest value = value :=
        Decimal.nearest_of_representable (either.resolve_right fun large => large inRange)
      refine ⟨fun text isText => ?_, fun other otherFinite same =>
        toWire_same isFinite otherFinite same⟩
      cases written.symm.trans isText
      rw [isValue, ← isExact]
      exact spells
  · refine ⟨fun _ => .inr large, fun _ => ⟨fun text written => ?_, fun other otherFinite same =>
      toWire_same isFinite otherFinite same⟩⟩
    rw [toWire_of_overflow overflows] at written
    cases written

def longValue : Decimal := .finite false (10 ^ 28 + 1) (-28)

theorem longValue_rounded :
    toWire longValue = .ok "1" ∧ ¬WrittenExactly longValue := by
  have written : toWire longValue = .ok "1" := by decide +kernel
  refine ⟨written, fun exact => ?_⟩
  obtain ⟨number, read, _, same⟩ := (exact.spelled _ written).read
  have one : Decimal.ofFixedText? "1" = some (.finite false 1 0) := by decide +kernel
  cases read.symm.trans one
  revert same
  norm_num [longValue, Decimal.exactly, Decimal.signed]

section

open BigEndian ExchangeAdapter

variable {Action : Type}

structure Packages (Action : Type) where
  packb : Action → Except CallError Bytes
  keccak : Bytes → Bytes

variable (packages : Packages Action)

/-- The bytes that `connection_id` hashes; no vault is named. -/
def connectionData (action : Action) (nonce : Int) : Except CallError Bytes :=
  if nonce ≤ 0 then .error (.exchangeAdapter "nonce must be a positive int")
  else do
    let data ← packages.packb action
    if 2 ^ 64 ≤ nonce then .error (.other "OverflowError: int too big to convert")
    else return data ++ (toBigEndian 8 nonce.toNat ++ [0])

def connectionId (action : Action) (nonce : Int) : Except CallError Bytes := do
  return packages.keccak (← connectionData packages action nonce)

structure NonceSource where
  last : Int

def NonceSource.next (source : NonceSource) (clockMs : Int) : Int × NonceSource :=
  let nonce := if clockMs > source.last then clockMs else source.last + 1
  (nonce, { last := nonce })

structure Signature where
  r : String
  s : String
  v : Int

structure ExchangeRequest (Action : Type) where
  action : Action
  nonce : Int
  signature : Signature

def buildExchangeRequest (action : Action) (nonce : Int) (signature : Signature) :
    Except CallError (ExchangeRequest Action) :=
  if nonce ≤ 0 then .error (.other "ValueError: nonce must be a positive int")
  else .ok { action, nonce, signature }

structure Posting (Action : Type) where
  action : Action
  clockMs : Int
  signConnectionId : Bytes → Except CallError Signature
  transport : ExchangeRequest Action → Except CallError Json

def signed (posting : Posting Action) (nonce : Int) : Except CallError (ExchangeRequest Action) := do
  let id ← connectionId packages posting.action nonce
  let signature ← posting.signConnectionId id
  buildExchangeRequest posting.action nonce signature

/-- `_sign_and_post`, with the request that is handed to the transport. -/
def signAndPost (posting : Posting Action) (source : NonceSource) :
    (Except CallError Json × Option (ExchangeRequest Action)) × NonceSource :=
  let (nonce, next) := source.next posting.clockMs
  (match signed packages posting nonce with
    | .error error => (.error error, none)
    | .ok request => (posting.transport request, some request), next)

def transmitted : List (Posting Action) → NonceSource → List (ExchangeRequest Action)
  | [], _ => []
  | posting :: later, source =>
      let posted := signAndPost packages posting source
      posted.1.2.toList ++ transmitted later posted.2

variable {packages} {action other : Action} {nonce otherNonce : Int} {data : Bytes}

private theorem connectionData_ends (hashed : connectionData packages action nonce = .ok data) :
    0 < nonce ∧ nonce.toNat < 256 ^ 8 ∧
      ∃ packed, data = packed ++ (toBigEndian 8 nonce.toNat ++ [0]) := by
  rw [connectionData] at hashed
  split at hashed
  · cases hashed
  obtain ⟨packed, _, hashed⟩ := ok_of_bind hashed
  split at hashed
  · cases hashed
  cases hashed
  exact ⟨by omega, by omega, packed, rfl⟩

private theorem connectionData_nonce (hashed : connectionData packages action nonce = .ok data)
    (hashedOther : connectionData packages other otherNonce = .ok data) : nonce = otherNonce := by
  obtain ⟨positive, fits, packed, isData⟩ := connectionData_ends hashed
  obtain ⟨positiveOther, fitsOther, packedOther, isDataOther⟩ := connectionData_ends hashedOther
  have ends := (List.append_inj' (isData.symm.trans isDataOther) (by simp)).2
  have same := congrArg ofBigEndian (List.append_inj' ends rfl).1
  rw [ofBigEndian_toBigEndian fits, ofBigEndian_toBigEndian fitsOther] at same
  omega

variable (packages) in
def SignedBy (posting : Posting Action) (request : ExchangeRequest Action) : Prop :=
  request.action = posting.action ∧ posting.clockMs ≤ request.nonce ∧
    ∃ data, connectionData packages request.action request.nonce = .ok data ∧
      posting.signConnectionId (packages.keccak data) = .ok request.signature

private theorem next_lt (source : NonceSource) (clockMs : Int) :
    source.last < (source.next clockMs).1 ∧ clockMs ≤ (source.next clockMs).1 := by
  rw [NonceSource.next]
  split <;> constructor <;> simp only <;> omega

private theorem signed_signedBy {posting : Posting Action} {request : ExchangeRequest Action}
    (late : posting.clockMs ≤ nonce)
    (isSigned : signed packages posting nonce = .ok request) :
    request.nonce = nonce ∧ SignedBy packages posting request := by
  obtain ⟨id, isId, isSigned⟩ := ok_of_bind isSigned
  obtain ⟨data, hashed, isId⟩ := ok_of_bind isId
  cases isId
  obtain ⟨signature, isSignature, built⟩ := ok_of_bind isSigned
  rw [buildExchangeRequest] at built
  split at built
  · cases built
  cases built
  exact ⟨rfl, rfl, late, data, hashed, isSignature⟩

variable (packages)

private theorem transmitted_signed (postings : List (Posting Action)) (source : NonceSource) :
    (transmitted packages postings source).Pairwise (fun earlier later =>
        earlier.nonce < later.nonce) ∧
      ∀ request ∈ transmitted packages postings source, source.last < request.nonce ∧
        ∃ posting ∈ postings, SignedBy packages posting request := by
  induction postings generalizing source with
  | nil => simp [transmitted]
  | cons posting later ih =>
      obtain ⟨increasing, ofLater⟩ := ih (source.next posting.clockMs).2
      obtain ⟨above, late⟩ := next_lt source posting.clockMs
      have behind : ∀ request ∈ transmitted packages later (source.next posting.clockMs).2,
          source.last < request.nonce ∧
            ∃ other ∈ posting :: later, SignedBy packages other request := by
        intro request member
        obtain ⟨larger, other, among, isSigned⟩ := ofLater request member
        exact ⟨above.trans larger, other, List.mem_cons_of_mem _ among, isSigned⟩
      rw [transmitted, signAndPost]
      cases isSigned : signed packages posting (source.next posting.clockMs).1 with
      | error error =>
          simp only [isSigned]
          exact ⟨increasing, behind⟩
      | ok request =>
          simp only [isSigned]
          obtain ⟨isNonce, signedBy⟩ := signed_signedBy late isSigned
          refine ⟨List.pairwise_cons.mpr ⟨fun other member => ?_, increasing⟩, ?_⟩
          · rw [isNonce]
            exact (ofLater other member).1
          · rintro other (_ | ⟨_, member⟩)
            · exact ⟨isNonce ▸ above, posting, List.mem_cons_self, signedBy⟩
            · exact behind other member

/-- Whatever the clock shows and whatever fails, the nonces of the requests that are sent
increase, each request is signed over its own action and nonce, and no two of them are signed
over the same bytes. -/
theorem transmitted_neverReplayed (postings : List (Posting Action)) :
    let requests := transmitted packages postings { last := 0 }
    requests.Pairwise (fun earlier later => earlier.nonce < later.nonce) ∧
      ∀ request ∈ requests, (∃ posting ∈ postings, SignedBy packages posting request) ∧
        ∀ other ∈ requests, connectionData packages other.action other.nonce =
          connectionData packages request.action request.nonce → other = request := by
  intro requests
  obtain ⟨increasing, ofRequests⟩ := transmitted_signed packages postings { last := 0 }
  refine ⟨increasing, fun request member => ?_⟩
  obtain ⟨_, posting, among, isSigned⟩ := ofRequests request member
  refine ⟨⟨posting, among, isSigned⟩, fun other memberOther same => ?_⟩
  obtain ⟨_, _, data, hashed, _⟩ := isSigned
  exact List.inj_on_of_nodup_map (List.pairwise_map.mpr (increasing.imp fun below => below.ne))
    memberOther member (connectionData_nonce (same.trans hashed) hashed)

end

end TurtleExecution.HyperliquidAdapter

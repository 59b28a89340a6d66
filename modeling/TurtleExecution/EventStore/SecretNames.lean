/-
The names of the fields that are written.

The guard of `append` walks dictionaries and lists, while the encoder also writes what is
in a tuple.  A forbidden name reaches the file exactly where a dictionary inside a tuple
has it.
-/

import TurtleExecution.Foundation.JsonNames
import TurtleExecution.EventStore.Rollback

set_option autoImplicit false

namespace TurtleExecution.EventStore

/-- Whether the search stops at the key: for its name, or because it has none. -/
def forbiddenKey (key : PyKey) : Bool := (keyStr key).elim true hasForbiddenName

mutual
private theorem scanForbiddenKeys_eq_none : ∀ (value : PyValue) (path : PyStr),
    scanForbiddenKeys path value = none ↔ PyValue.openlyKeyed forbiddenKey value = false
  | .dict entries, path => by
      rw [scanForbiddenKeys, PyValue.openlyKeyed]
      exact scanForbiddenEntries_eq_none entries path
  | .list items, path => by
      rw [scanForbiddenKeys, PyValue.openlyKeyed]
      exact scanForbiddenItems_eq_none items path 0
  | .tuple _, _ | .none, _ | .bool _, _ | .int _, _ | .float _, _ | .str _, _ | .other, _ =>
      iff_of_true rfl rfl

theorem scanForbiddenEntries_eq_none : ∀ (entries : PyDict) (path : PyStr),
    scanForbiddenEntries path entries = none ↔
      PyValue.openlyKeyedEntries forbiddenKey entries = false
  | [], _ => iff_of_true rfl rfl
  | (key, value) :: entries, path => by
      have rest := scanForbiddenEntries_eq_none entries path
      rw [scanForbiddenEntries, PyValue.openlyKeyedEntries, Bool.or_eq_false_iff,
        Bool.or_eq_false_iff, ← rest, forbiddenKey]
      cases keyStr key with
      | none => simp
      | some name =>
          dsimp only
          have inside := scanForbiddenKeys_eq_none value
            (if path = "" then name else path ++ "." ++ name)
          rw [← inside, Option.elim]
          cases hasForbiddenName name with
          | true => simp
          | false =>
              rw [if_neg (by simp)]
              cases scanForbiddenKeys (if path = "" then name else path ++ "." ++ name) value with
              | none => simp
              | some found => simp

theorem scanForbiddenItems_eq_none : ∀ (items : List PyValue) (path : PyStr) (index : Nat),
    scanForbiddenItems path index items = none ↔
      PyValue.openlyKeyedItems forbiddenKey items = false
  | [], _, _ => iff_of_true rfl rfl
  | item :: items, path, index => by
      have rest := scanForbiddenItems_eq_none items path (index + 1)
      have inside := scanForbiddenKeys_eq_none item (path ++ s!"[{index}]")
      rw [scanForbiddenItems, PyValue.openlyKeyedItems, Bool.or_eq_false_iff, ← rest, ← inside]
      cases scanForbiddenKeys (path ++ s!"[{index}]") item with
      | none => simp
      | some found => simp
end

/-- One point outside ASCII stands in the second list for two of the first, here and there. -/
inductive Aligned : List CodePoint → List CodePoint → Prop
  | nil : Aligned [] []
  | same (point : CodePoint) {left right : List CodePoint} (rest : Aligned left right) :
      Aligned (point :: left) (point :: right)
  | pair {first second joined : CodePoint} {left right : List CodePoint}
      (firstForeign : 0x80 ≤ first.code) (secondForeign : 0x80 ≤ second.code)
      (joinedForeign : 0x80 ≤ joined.code) (rest : Aligned left right) :
      Aligned (first :: second :: left) (joined :: right)

section

variable {left right bad : List CodePoint}

private theorem isPrefixOf_foreign (ascii : ∀ point ∈ bad, point.code < 0x80) (nonempty : bad ≠ [])
    {point : CodePoint} (foreign : 0x80 ≤ point.code) (points : List CodePoint) :
    bad.isPrefixOf (point :: points) = false := by
  cases bad with
  | nil => exact absurd rfl nonempty
  | cons first bad =>
      have different : first ≠ point := by
        rintro rfl
        exact absurd (ascii _ List.mem_cons_self) (by omega)
      simp [List.isPrefixOf, different]

private theorem Aligned.isPrefixOf (aligned : Aligned left right)
    (ascii : ∀ point ∈ bad, point.code < 0x80) : bad.isPrefixOf left = bad.isPrefixOf right := by
  induction aligned generalizing bad with
  | nil => rfl
  | same point rest ih =>
      cases bad with
      | nil => rfl
      | cons first bad =>
          rw [List.isPrefixOf, List.isPrefixOf,
            ih fun other member => ascii other (List.mem_cons_of_mem _ member)]
  | pair first second joined rest ih =>
      cases bad with
      | nil => rfl
      | cons character bad =>
          rw [isPrefixOf_foreign ascii (List.cons_ne_nil _ _) first,
            isPrefixOf_foreign ascii (List.cons_ne_nil _ _) joined]

private theorem Aligned.any_tails (aligned : Aligned left right)
    (ascii : ∀ point ∈ bad, point.code < 0x80) (nonempty : bad ≠ []) :
    left.tails.any bad.isPrefixOf = right.tails.any bad.isPrefixOf := by
  induction aligned with
  | nil => rfl
  | same point rest ih =>
      rw [List.tails_cons, List.tails_cons, List.any_cons, List.any_cons, ih,
        (Aligned.same point rest).isPrefixOf ascii]
  | pair first second joined rest ih =>
      rw [List.tails_cons, List.tails_cons, List.tails_cons, List.any_cons, List.any_cons,
        List.any_cons, ih, isPrefixOf_foreign ascii nonempty first,
        isPrefixOf_foreign ascii nonempty second, isPrefixOf_foreign ascii nonempty joined,
        Bool.false_or]

private theorem Aligned.append (aligned : Aligned left right) (points : List CodePoint) :
    Aligned (points ++ left) (points ++ right) := by
  induction points with
  | nil => exact aligned
  | cons point points ih => exact .same point ih

end

private theorem lowerPoint_beyond {c : Char} (beyond : 0x10000 ≤ c.toNat) :
    lowerPoint (.scalar c) = [.scalar c] := by
  have same : c.toLower = c := by
    unfold Char.toLower
    rw [dif_neg]
    rintro ⟨_, upper⟩
    have small : c.toNat ≤ 90 := upper
    omega
  rw [lowerPoint, lowerChar, if_neg (by omega), if_neg (by omega), same]
  rfl

private theorem toNat_paired (first second : Fin 0x400) :
    (Char.ofNat (0x10000 + 0x400 * first + second)).toNat = 0x10000 + 0x400 * first + second := by
  have valid : (0x10000 + 0x400 * first + second : Nat).isValidChar := Or.inr (by omega)
  rw [Char.ofNat, dif_pos valid]
  rfl

private theorem aligned_joinPairs (points : List CodePoint) :
    Aligned (points.flatMap lowerPoint) ((CodePoint.joinPairs points).flatMap lowerPoint) := by
  fun_induction CodePoint.joinPairs points with
  | case1 first second points ih =>
      have isCode := toNat_paired first second
      rw [List.flatMap_cons, List.flatMap_cons, List.flatMap_cons, CodePoint.paired,
        lowerPoint_beyond (by omega)]
      exact .pair (by rw [CodePoint.code]; omega) (by rw [CodePoint.code]; omega)
        (by rw [CodePoint.code]; omega) ih
  | case2 point points notPair ih =>
      rw [List.flatMap_cons, List.flatMap_cons]
      exact ih.append _
  | case3 => exact .nil

private theorem hasForbiddenName_joined (name : PyStr) :
    hasForbiddenName name.joined.text = hasForbiddenName name := by
  have ascii : ∀ bad ∈ forbiddenKeySubstrings, bad.toList.map CodePoint.scalar ≠ [] ∧
      ∀ point ∈ bad.toList.map CodePoint.scalar, point.code < 0x80 := by decide
  have aligned := aligned_joinPairs name.points
  unfold hasForbiddenName lower
  rw [JsonText.points_joined, Bool.eq_iff_iff, List.any_eq_true, List.any_eq_true]
  refine exists_congr fun bad => and_congr_right fun member => ?_
  obtain ⟨nonempty, isAscii⟩ := ascii bad member
  rw [aligned.any_tails isAscii nonempty]

private theorem hasForbiddenName_keyText {key : PyKey} {name : JsonText}
    (isName : PyValue.keyText? key = some name) : hasForbiddenName name.text = forbiddenKey key := by
  cases key with
  | str text =>
      cases isName
      exact hasForbiddenName_joined text
  | int value =>
      rw [PyValue.keyText?] at isName
      rw [forbiddenKey, keyStr]
      split at isName
      · rename_i fewDigits
        rw [← Option.some.inj isName, if_pos fewDigits, Option.elim]
      · cases isName
  | bool value =>
      cases value
      · cases isName
        decide +kernel
      · cases isName
        decide +kernel
  | none =>
      cases isName
      decide +kernel
  | float literal =>
      rw [PyValue.keyText?] at isName
      rw [← Option.some.inj isName, forbiddenKey, keyStr, Option.elim]
  | other text => cases isName

def writtenTree (record : Bytes) : Option Json :=
  match decodeRecord record 0 with
  | .error _ => none
  | .ok decoded =>
      (String.fromUTF8? ⟨decoded.payloadBytes.toArray⟩).bind fun text => Json.parse text.toList

def NamesNoSecret (record : Bytes) : Prop :=
  ∃ tree, writtenTree record = some tree ∧ tree.named (fun name => hasForbiddenName name.text) = false

private theorem writtenTree_encoded {eventId : Nat} {value : PyValue} {payloadBytes record : Bytes}
    (dumped : PyValue.dumps value = some payloadBytes)
    (encoded : encodeRecord eventId payloadBytes = some record) :
    ∃ tree, PyValue.toJson value = some tree ∧ writtenTree record = some tree := by
  obtain ⟨tree, written, rfl⟩ := Option.map_eq_some_iff.mp dumped
  refine ⟨tree, written, ?_⟩
  have decoded := decodeRecord_encoded encoded [] []
  rw [List.append_nil, List.nil_append, List.length_nil] at decoded
  rw [writtenTree, decoded]
  dsimp only
  rw [PyValue.fromUTF8_toUTF8, Option.bind_some, String.toList_ofList, Json.parse_print]

private theorem keyed_envelope (envelope : Envelope) :
    PyValue.keyed forbiddenKey envelope.value =
      PyValue.keyed forbiddenKey (.dict envelope.payload) := by
  have names : ∀ name ∈ ["event_type", "timestamp_utc", "schema_version", "idempotency_key",
      "payload"], forbiddenKey (.str name) = false := by
    decide +kernel
  simp only [List.forall_mem_cons] at names
  have noKey : PyValue.keyed forbiddenKey
      (optionalText envelope.idempotencyKey) = false := by
    cases envelope.idempotencyKey <;> rfl
  simp only [Envelope.value, PyValue.keyed, PyValue.keyedEntries, names, noKey, Bool.false_or,
    Bool.or_false]

private theorem recordToWrite_guarded {store : Store} {call : AppendCall} {now : String}
    {record : Bytes}
    (writes : recordToWrite store call now = some record) :
    PyValue.openlyKeyed forbiddenKey (.dict call.payload) = false ∧
      ∃ payloadBytes, PyValue.dumps (call.envelope now).value = some payloadBytes ∧
        encodeRecord store.nextEventId payloadBytes = some record := by
  unfold recordToWrite at writes
  split at writes
  · cases writes
  · rename_i passes
    obtain ⟨⟨_, valid⟩, _⟩ : (store.closed = false ∧ validateNewEvent call = none) ∧
        storedUnder store call.idempotencyKey = none := by
      simpa using passes
    refine ⟨?_, Option.bind_eq_some_iff.mp writes⟩
    rw [← scanForbiddenKeys_eq_none _ ""]
    unfold validateNewEvent at valid
    dsimp only at valid
    split at valid
    · cases valid
    · split at valid
      · cases valid
      · cases scanned : scanForbiddenKeys "" (.dict call.payload) with
        | none => rfl
        | some found => cases found <;> simp [scanned] at valid

private theorem recordToWrite_of_wrote {store : Store} {call : AppendCall} {now : String}
    {faults : Faults}
    {event : Event} {record : Bytes} (accepted : (append store call now faults).1 = .ok event)
    (wrote : (append store call now faults).2.file.content = store.file.content ++ record)
    (nonempty : record ≠ []) : recordToWrite store call now = some record := by
  cases writes : recordToWrite store call now with
  | none =>
      rw [(append_answered writes faults).1, List.self_eq_append_right] at wrote
      exact absurd wrote nonempty
  | some other =>
      cases fails : faults.fail other.length with
      | true =>
          obtain ⟨error, failed⟩ := append_failed writes fails
          rw [failed] at accepted
          cases accepted
      | false =>
          rw [append_written writes fails, Store.record, LogFile.appended_content] at wrote
          rw [List.append_cancel_left wrote]

/-- The record that an append writes names no secret exactly when no dictionary inside a
tuple of the payload has a forbidden key. -/
theorem append_namesNoSecret_iff {store : Store} {call : AppendCall} {now : String}
    {faults : Faults} {event : Event} {record : Bytes}
    (accepted : (append store call now faults).1 = .ok event)
    (wrote : (append store call now faults).2.file.content = store.file.content ++ record)
    (nonempty : record ≠ []) :
    NamesNoSecret record ↔ PyValue.tupleKeyed forbiddenKey (.dict call.payload) = false := by
  have writes := recordToWrite_of_wrote accepted wrote nonempty
  obtain ⟨guarded, payloadBytes, dumped, encoded⟩ := recordToWrite_guarded writes
  obtain ⟨tree, built, written⟩ := writtenTree_encoded dumped encoded
  have names : tree.named (fun name => hasForbiddenName name.text) =
      PyValue.tupleKeyed forbiddenKey (.dict call.payload) := by
    have same := PyValue.named_toJson (fun key name => hasForbiddenName_keyText) built
    rw [keyed_envelope, PyValue.keyed_eq] at same
    rw [show (call.envelope now).payload = call.payload from rfl, guarded, Bool.false_or] at same
    exact Bool.eq_iff_iff.mpr same
  unfold NamesNoSecret
  rw [← names]
  constructor
  · rintro ⟨other, isWritten, clean⟩
    rw [written] at isWritten
    cases isWritten
    exact clean
  · exact fun clean => ⟨tree, written, clean⟩

def tupleCall : AppendCall :=
  { eventType := .systemStarted
    payload := [(.str "accounts", .tuple [.dict [(.str "api_key", .str "k")]])]
    idempotencyKey := none
    schemaVersion := 1 }

def tupleRecord : Bytes := (recordToWrite emptyStore tupleCall "").getD []

private theorem tupleCall_writes : recordToWrite emptyStore tupleCall "" = some tupleRecord := by
  have written : (recordToWrite emptyStore tupleCall "").isSome = true := by decide +kernel
  obtain ⟨record, isRecord⟩ := Option.isSome_iff_exists.mp written
  rw [tupleRecord, isRecord]
  rfl

theorem Faults.none_fail (length : Nat) : Faults.none.fail length = false := by
  simp [Faults.fail, Faults.none, writesFail, bytesWritten]

private theorem append_tupleCall :
    append emptyStore tupleCall "" Faults.none =
      (.ok ((tupleCall.envelope "").event 1),
        emptyStore.record (emptyStore.file.appended tupleRecord) ((tupleCall.envelope "").event 1)
          none) :=
  append_written tupleCall_writes (Faults.none_fail _)

private theorem tupleRecord_length_pos : 0 < tupleRecord.length :=
  recordToWrite_length_pos tupleCall_writes

/-- A name inside a tuple passes the guard and is written. -/
theorem tupleCall_names_secret :
    (append emptyStore tupleCall "" Faults.none).2.file.content =
        emptyStore.file.content ++ tupleRecord ∧ ¬ NamesNoSecret tupleRecord := by
  refine ⟨by rw [append_tupleCall, Store.record, LogFile.appended_content], ?_⟩
  rintro ⟨tree, isWritten, clean⟩
  obtain ⟨_, payloadBytes, dumped, encoded⟩ := recordToWrite_guarded tupleCall_writes
  obtain ⟨other, built, written⟩ := writtenTree_encoded dumped encoded
  rw [written] at isWritten
  cases isWritten
  have same := PyValue.named_toJson (fun key name => hasForbiddenName_keyText) built
  rw [clean, keyed_envelope] at same
  have named : PyValue.keyed forbiddenKey (.dict tupleCall.payload) = true := by decide +kernel
  cases same.mpr named

theorem append_namesNoSecret_iff_tupleCall :
    NamesNoSecret tupleRecord ↔ PyValue.tupleKeyed forbiddenKey (.dict tupleCall.payload) = false :=
  append_namesNoSecret_iff (congrArg Prod.fst append_tupleCall)
    (by rw [append_tupleCall, Store.record, LogFile.appended_content])
    (List.ne_nil_of_length_pos tupleRecord_length_pos)

end TurtleExecution.EventStore

/-
What `decodeRecord` reports about the bytes at its offset.

A frame is a header of `headerSize` bytes followed by a body.  `decodeRecord_frame`
gives the decoder's answer for every header and body behind any bytes; the
answers for a whole record and for a record cut short follow from it.
-/

import Mathlib.Data.List.TakeDrop
import TurtleExecution.Foundation.Sha256

set_option autoImplicit false

namespace TurtleExecution.EventStore

open BigEndian

def magic : Bytes := [0x54, 0x51, 0x45, 0x56]

def formatVersion : Nat := 1

def checksumSize : Nat := 32

def headerTailSize : Nat := 13

def headerSize : Nat := magic.length + headerTailSize

def recordOverhead : Nat := headerSize + checksumSize

/-- `_HEADER_TAIL_STRUCT.pack`, which raises `struct.error` for a value that
does not fit its field. -/
def packHeaderTail (eventId payloadLength : Nat) : Option Bytes :=
  if eventId < 256 ^ 8 ∧ payloadLength < 256 ^ 4 then
    some (toBigEndian 1 formatVersion ++ toBigEndian 8 eventId ++ toBigEndian 4 payloadLength)
  else none

def encodeRecord (eventId : Nat) (payloadBytes : Bytes) : Option Bytes :=
  match packHeaderTail eventId payloadBytes.length with
  | none => none
  | some headerTail =>
      let header := magic ++ headerTail
      let checksum := sha256 (header ++ payloadBytes)
      some (header ++ payloadBytes ++ checksum)

structure DecodedRecord where
  eventId : Nat
  payloadBytes : Bytes
  consumedBytes : Nat
  deriving DecidableEq, Repr

inductive RecordDecodeError
  | incomplete (message : String)
  | badMagic (message : String)
  | unsupportedVersion (message : String)
  | checksumMismatch (message : String) (endOffset : Nat)
  deriving DecidableEq, Repr

def slice (buf : Bytes) (start stop : Nat) : Bytes :=
  (buf.drop start).take (stop - start)

/-- Decode one record starting at `buf[offset:]`. -/
def decodeRecord (buf : Bytes) (offset : Nat) : Except RecordDecodeError DecodedRecord :=
  let available := buf.length - offset
  if available < magic.length then
    .error (.incomplete "not enough bytes to read magic")
  else if slice buf offset (offset + magic.length) ≠ magic then
    .error (.badMagic s!"bad magic bytes at offset {offset}")
  else if available < headerSize then
    .error (.incomplete "not enough bytes for record header")
  else
    let tailOff := offset + magic.length
    let version := ofBigEndian (slice buf tailOff (tailOff + 1))
    let eventId := ofBigEndian (slice buf (tailOff + 1) (tailOff + 9))
    let payloadLength := ofBigEndian (slice buf (tailOff + 9) (tailOff + 13))
    if version ≠ formatVersion then
      .error (.unsupportedVersion s!"unsupported record format version {version} at offset {offset}")
    else
      let payloadStart := offset + headerSize
      let payloadEnd := payloadStart + payloadLength
      let checksumEnd := payloadEnd + checksumSize
      if buf.length < checksumEnd then
        .error (.incomplete "not enough bytes for declared payload and checksum")
      else
        let payloadBytes := slice buf payloadStart payloadEnd
        let checksum := slice buf payloadEnd checksumEnd
        let header := slice buf offset payloadStart
        let expectedChecksum := sha256 (header ++ payloadBytes)
        if checksum ≠ expectedChecksum then
          .error (.checksumMismatch s!"checksum mismatch at offset {offset}" checksumEnd)
        else
          .ok { eventId, payloadBytes, consumedBytes := checksumEnd - offset }

end TurtleExecution.EventStore

namespace TurtleExecution.EventStore

open BigEndian

private theorem slice_append_right (before rest : Bytes) (start stop : Nat) :
    slice (before ++ rest) (before.length + start) (before.length + stop) = slice rest start stop := by
  unfold slice
  rw [List.drop_append, List.drop_of_length_le (by omega)]
  simp only [List.nil_append]
  congr 1
  · omega
  · congr 1
    omega

theorem slice_append_left (front back : Bytes) {start stop : Nat} (inside : stop ≤ front.length) :
    slice (front ++ back) start stop = slice front start stop := by
  unfold slice
  by_cases ordered : start ≤ stop
  · rw [List.drop_append_of_le_length (by omega), List.take_append_of_le_length]
    rw [List.length_drop]
    omega
  · simp [show stop - start = 0 by omega]

theorem slice_full (bytes : Bytes) {stop : Nat} (whole : bytes.length = stop) :
    slice bytes 0 stop = bytes := by
  subst whole
  simp [slice]

theorem slice_length (bytes : Bytes) {start stop : Nat} (inside : stop ≤ bytes.length) :
    (slice bytes start stop).length = stop - start := by
  simp only [slice, List.length_take, List.length_drop]
  omega

theorem slice_middle (front middle back : Bytes) {start stop : Nat}
    (atStart : front.length = start) (atStop : front.length + middle.length = stop) :
    slice (front ++ middle ++ back) start stop = middle := by
  subst atStart atStop
  rw [List.append_assoc]
  have shifted := slice_append_right front (middle ++ back) 0 middle.length
  rw [Nat.add_zero] at shifted
  rw [shifted, slice_append_left _ _ (Nat.le_refl _), slice_full _ rfl]

def declaredVersion (header : Bytes) : Nat := ofBigEndian (slice header 4 5)

def declaredEventId (header : Bytes) : Nat := ofBigEndian (slice header 5 13)

def declaredLength (header : Bytes) : Nat := ofBigEndian (slice header 13 17)

@[simp] theorem magic_length : magic.length = 4 := rfl

@[simp] theorem headerSize_eq : headerSize = 17 := rfl

@[simp] theorem checksumSize_eq : checksumSize = 32 := rfl

@[simp] theorem recordOverhead_eq : recordOverhead = 49 := rfl

theorem decodeRecord_frame (before header body : Bytes) (sized : header.length = headerSize) :
    decodeRecord (before ++ (header ++ body)) before.length =
      if slice header 0 4 ≠ magic then
        .error (.badMagic s!"bad magic bytes at offset {before.length}")
      else if declaredVersion header ≠ formatVersion then
        .error (.unsupportedVersion
          s!"unsupported record format version {declaredVersion header} at offset {before.length}")
      else if body.length < declaredLength header + checksumSize then
        .error (.incomplete "not enough bytes for declared payload and checksum")
      else if slice body (declaredLength header) (declaredLength header + checksumSize) ≠
          sha256 (header ++ slice body 0 (declaredLength header)) then
        .error (.checksumMismatch s!"checksum mismatch at offset {before.length}"
          (before.length + headerSize + declaredLength header + checksumSize))
      else
        .ok
          { eventId := declaredEventId header
            payloadBytes := slice body 0 (declaredLength header)
            consumedBytes := headerSize + declaredLength header + checksumSize } := by
  simp only [headerSize_eq] at sized
  have field : ∀ start stop, stop ≤ 17 →
      slice (before ++ (header ++ body)) (before.length + start) (before.length + stop) =
        slice header start stop := by
    intro start stop inside
    rw [slice_append_right, slice_append_left _ _ (by omega)]
  have bodyField : ∀ start stop,
      slice (before ++ (header ++ body)) (before.length + 17 + start) (before.length + 17 + stop) =
        slice body start stop := by
    intro start stop
    rw [Nat.add_assoc, Nat.add_assoc, slice_append_right]
    have shifted := slice_append_right header body start stop
    rw [sized] at shifted
    exact shifted
  have magicField := field 0 4 (by omega)
  have versionField := field 4 5 (by omega)
  have idField := field 5 13 (by omega)
  have lengthField := field 13 17 (by omega)
  have headerField := field 0 17 (by omega)
  have payloadField := bodyField 0 (declaredLength header)
  have checksumField :
      slice (before ++ (header ++ body)) (before.length + 17 + declaredLength header)
          (before.length + 17 + declaredLength header + 32) =
        slice body (declaredLength header) (declaredLength header + 32) := by
    rw [Nat.add_assoc _ (declaredLength header) 32]
    exact bodyField _ _
  have whole := slice_full header sized
  simp only [Nat.add_zero] at magicField headerField payloadField
  have enough : ¬ (before ++ (header ++ body)).length - before.length < 4 := by
    simp only [List.length_append]
    omega
  have enoughHeader : ¬ (before ++ (header ++ body)).length - before.length < 17 := by
    simp only [List.length_append]
    omega
  have shortBody :
      (before ++ (header ++ body)).length < before.length + 17 + declaredLength header + 32 ↔
        body.length < declaredLength header + 32 := by
    simp only [List.length_append]
    omega
  have consumed : before.length + 17 + declaredLength header + 32 - before.length =
      17 + declaredLength header + 32 := by
    omega
  simp only [declaredLength] at payloadField checksumField shortBody consumed
  simp only [decodeRecord, magic_length, headerSize_eq, checksumSize_eq, if_neg enough,
    if_neg enoughHeader, Nat.add_assoc before.length 4, Nat.reduceAdd, magicField, versionField,
    idField, lengthField, headerField, whole, declaredVersion, declaredEventId, declaredLength,
    shortBody, payloadField, checksumField, consumed]
  rfl

def headerOf (eventId payloadLength : Nat) : Bytes :=
  magic ++ (toBigEndian 1 formatVersion ++ toBigEndian 8 eventId ++ toBigEndian 4 payloadLength)

@[simp] theorem headerOf_length (eventId payloadLength : Nat) :
    (headerOf eventId payloadLength).length = headerSize := by
  simp [headerOf]

private theorem headerOf_magic (eventId payloadLength : Nat) :
    slice (headerOf eventId payloadLength) 0 4 = magic := by
  simp [headerOf, slice, magic]

private theorem headerOf_version (eventId payloadLength : Nat) :
    declaredVersion (headerOf eventId payloadLength) = formatVersion := by
  have field := @slice_middle magic (toBigEndian 1 formatVersion)
    (toBigEndian 8 eventId ++ toBigEndian 4 payloadLength) 4 5 rfl rfl
  simp only [declaredVersion, headerOf, ← List.append_assoc] at field ⊢
  rw [field, ofBigEndian_toBigEndian (by decide)]

variable {payloadBytes record : Bytes} {eventId : Nat}

private theorem headerOf_eventId (payloadLength : Nat) (fits : eventId < 256 ^ 8) :
    declaredEventId (headerOf eventId payloadLength) = eventId := by
  have field := @slice_middle (magic ++ toBigEndian 1 formatVersion) (toBigEndian 8 eventId)
    (toBigEndian 4 payloadLength) 5 13 rfl (by simp)
  simp only [declaredEventId, headerOf, ← List.append_assoc] at field ⊢
  rw [field, ofBigEndian_toBigEndian fits]

theorem headerOf_payloadLength (eventId : Nat) {payloadLength : Nat}
    (fits : payloadLength < 256 ^ 4) :
    declaredLength (headerOf eventId payloadLength) = payloadLength := by
  have field := @slice_middle (magic ++ toBigEndian 1 formatVersion ++ toBigEndian 8 eventId)
    (toBigEndian 4 payloadLength) [] 13 17 (by simp) (by simp)
  simp only [declaredLength, headerOf, ← List.append_assoc, List.append_nil] at field ⊢
  rw [field, ofBigEndian_toBigEndian fits]

theorem encodeRecord_of_fits {payloadBytes : Bytes} (idFits : eventId < 256 ^ 8)
    (lengthFits : payloadBytes.length < 256 ^ 4) :
    encodeRecord eventId payloadBytes =
      some (headerOf eventId payloadBytes.length ++ payloadBytes ++
        sha256 (headerOf eventId payloadBytes.length ++ payloadBytes)) := by
  rw [encodeRecord, packHeaderTail, if_pos ⟨idFits, lengthFits⟩]
  rfl

theorem encodeRecord_eq_some (encoded : encodeRecord eventId payloadBytes = some record) :
    eventId < 256 ^ 8 ∧ payloadBytes.length < 256 ^ 4 ∧
      record = headerOf eventId payloadBytes.length ++
        (payloadBytes ++ sha256 (headerOf eventId payloadBytes.length ++ payloadBytes)) := by
  unfold encodeRecord packHeaderTail at encoded
  split at encoded
  · cases encoded
  · rename_i headerTail packed
    split at packed
    · rename_i fits
      cases packed
      cases encoded
      exact ⟨fits.1, fits.2, by simp only [headerOf, List.append_assoc]⟩
    · cases packed

theorem encodeRecord_length (encoded : encodeRecord eventId payloadBytes = some record) :
    record.length = payloadBytes.length + recordOverhead := by
  obtain ⟨_, _, rfl⟩ := encodeRecord_eq_some encoded
  simp only [List.length_append, headerOf_length, sha256_length, headerSize_eq, recordOverhead_eq]
  omega

theorem decodeRecord_encoded (encoded : encodeRecord eventId payloadBytes = some record)
    (before behind : Bytes) :
    decodeRecord (before ++ (record ++ behind)) before.length =
      .ok { eventId, payloadBytes, consumedBytes := record.length } := by
  have sized := encodeRecord_length encoded
  obtain ⟨idFits, lengthFits, rfl⟩ := encodeRecord_eq_some encoded
  generalize digest : sha256 (headerOf eventId payloadBytes.length ++ payloadBytes) = checksum at sized ⊢
  have checksumLength : checksum.length = 32 := by rw [← digest, sha256_length]
  have payloadField : slice (payloadBytes ++ checksum ++ behind) 0 payloadBytes.length =
      payloadBytes := by
    rw [List.append_assoc, slice_append_left _ _ (Nat.le_refl _), slice_full _ rfl]
  have checksumField :
      slice (payloadBytes ++ checksum ++ behind) payloadBytes.length (payloadBytes.length + 32) =
        checksum :=
    slice_middle payloadBytes checksum behind rfl (by rw [checksumLength])
  have enough : ¬ (payloadBytes ++ checksum ++ behind).length < payloadBytes.length + 32 := by
    simp only [List.length_append]
    omega
  rw [List.append_assoc (headerOf eventId payloadBytes.length),
    decodeRecord_frame _ _ _ (headerOf_length _ _)]
  simp only [headerOf_magic, headerOf_version, headerOf_payloadLength eventId lengthFits,
    headerOf_eventId _ idFits, checksumSize_eq, if_neg enough, payloadField, checksumField, digest,
    ne_eq, not_true_eq_false, if_false, sized]
  congr 2
  simp only [headerSize_eq, recordOverhead_eq]
  omega

theorem decodeRecord_truncated (encoded : encodeRecord eventId payloadBytes = some record)
    (before : Bytes) {kept : Nat} (cut : kept < record.length) :
    ∃ message, decodeRecord (before ++ record.take kept) before.length =
      .error (.incomplete message) := by
  have sized := encodeRecord_length encoded
  obtain ⟨_, lengthFits, rfl⟩ := encodeRecord_eq_some encoded
  generalize digest : sha256 (headerOf eventId payloadBytes.length ++ payloadBytes) = checksum at sized cut ⊢
  simp only [recordOverhead_eq] at sized
  have headerLength := headerOf_length eventId payloadBytes.length
  rw [headerSize_eq] at headerLength
  by_cases inHeader : kept < headerSize
  · rw [List.take_append_of_le_length (by rw [headerLength]; exact Nat.le_of_lt inHeader)]
    have available :
        (before ++ (headerOf eventId payloadBytes.length).take kept).length - before.length = kept := by
      simp only [List.length_append, List.length_take, headerLength]
      rw [headerSize_eq] at inHeader
      omega
    by_cases inMagic : kept < 4
    · refine ⟨"not enough bytes to read magic", ?_⟩
      simp only [decodeRecord, available, magic_length, if_pos inMagic]
    · have field : slice (before ++ (headerOf eventId payloadBytes.length).take kept)
          before.length (before.length + 4) = magic := by
        have shifted := slice_append_right before ((headerOf eventId payloadBytes.length).take kept) 0 4
        rw [Nat.add_zero] at shifted
        rw [shifted, ← headerOf_magic eventId payloadBytes.length]
        simp only [slice, List.drop_zero, List.take_take]
        congr 1
        omega
      refine ⟨"not enough bytes for record header", ?_⟩
      simp only [decodeRecord, available, magic_length, if_neg inMagic, field, ne_eq,
        not_true_eq_false, if_false, if_pos inHeader]
  · rw [List.take_append, List.take_of_length_le (by rw [headerLength]; rw [headerSize_eq] at inHeader; omega),
      headerLength, decodeRecord_frame _ _ _ (headerOf_length _ _)]
    have short : ((payloadBytes ++ checksum).take (kept - 17)).length < payloadBytes.length + 32 := by
      rw [headerSize_eq] at inHeader
      simp only [List.length_take]
      omega
    refine ⟨"not enough bytes for declared payload and checksum", ?_⟩
    simp only [headerOf_magic, headerOf_version, headerOf_payloadLength eventId lengthFits,
      checksumSize_eq, ne_eq, not_true_eq_false, if_false, if_pos short]

theorem slice_join (bytes : Bytes) {start middle stop : Nat} (first : start ≤ middle)
    (second : middle ≤ stop) :
    slice bytes start middle ++ slice bytes middle stop = slice bytes start stop := by
  unfold slice
  have lengths : stop - start = (middle - start) + (stop - middle) := by omega
  have dropped : bytes.drop middle = (bytes.drop start).drop (middle - start) := by
    rw [List.drop_drop]
    congr 1
    omega
  rw [lengths, List.take_add, dropped]

private theorem header_eq_headerOf {header : Bytes} (sized : header.length = headerSize)
    (hMagic : slice header 0 4 = magic) (hVersion : declaredVersion header = formatVersion) :
    header = headerOf (declaredEventId header) (declaredLength header) ∧
      declaredEventId header < 256 ^ 8 ∧ declaredLength header < 256 ^ 4 := by
  rw [headerSize_eq] at sized
  have field : ∀ start stop, stop ≤ 17 → toBigEndian (stop - start)
      (ofBigEndian (slice header start stop)) = slice header start stop := by
    intro start stop inside
    have written := toBigEndian_ofBigEndian (slice header start stop)
    rwa [slice_length header (by omega)] at written
  have versionField := field 4 5 (by omega)
  have idField := field 5 13 (by omega)
  have lengthField := field 13 17 (by omega)
  have idBound := ofBigEndian_lt (slice header 5 13)
  have lengthBound := ofBigEndian_lt (slice header 13 17)
  rw [slice_length header (by omega)] at idBound lengthBound
  refine ⟨?_, idBound, lengthBound⟩
  have joined : header =
      slice header 0 4 ++ (slice header 4 5 ++ slice header 5 13 ++ slice header 13 17) := by
    rw [slice_join _ (by omega) (by omega), slice_join _ (by omega) (by omega),
      slice_join _ (by omega) (by omega), slice_full header sized]
  rw [declaredVersion] at hVersion
  rw [hVersion] at versionField
  rw [headerOf, declaredEventId, declaredLength, idField, lengthField, versionField, ← hMagic]
  exact joined

theorem decodeRecord_sound {buf : Bytes} {offset : Nat} {record : DecodedRecord}
    (decoded : decodeRecord buf offset = .ok record) :
    offset + record.consumedBytes ≤ buf.length ∧
      encodeRecord record.eventId record.payloadBytes =
        some (slice buf offset (offset + record.consumedBytes)) := by
  by_cases short : buf.length - offset < headerSize
  · unfold decodeRecord at decoded
    dsimp only at decoded
    split at decoded
    · cases decoded
    split at decoded
    · cases decoded
    cases decoded
  · rw [headerSize_eq] at short
    obtain ⟨before, header, body, rfl, rfl, sized⟩ : ∃ before header body,
        buf = before ++ (header ++ body) ∧ offset = before.length ∧ header.length = headerSize := by
      refine ⟨buf.take offset, (buf.drop offset).take 17, (buf.drop offset).drop 17, ?_, ?_, ?_⟩
      · rw [List.take_append_drop, List.take_append_drop]
      · rw [List.length_take]
        omega
      · rw [List.length_take, List.length_drop, headerSize_eq]
        omega
    rw [decodeRecord_frame _ _ _ sized] at decoded
    split at decoded
    · cases decoded
    split at decoded
    · cases decoded
    split at decoded
    · cases decoded
    split at decoded
    · cases decoded
    rename_i hMagic hVersion enough hChecksum
    cases decoded
    have hMagic := not_not.mp hMagic
    have hVersion := not_not.mp hVersion
    have hChecksum := not_not.mp hChecksum
    obtain ⟨hHeader, idFits, lengthFits⟩ := header_eq_headerOf sized hMagic hVersion
    dsimp only
    rw [checksumSize_eq] at enough hChecksum ⊢
    have payloadLength : (slice body 0 (declaredLength header)).length = declaredLength header := by
      rw [slice_length body (by omega), Nat.sub_zero]
    constructor
    · rw [List.length_append, List.length_append, sized]
      omega
    · have inFile := slice_append_right before (header ++ body) 0
        (headerSize + declaredLength header + 32)
      have parts : slice (header ++ body) 0 (headerSize + declaredLength header + 32) =
          header ++ slice body 0 (declaredLength header + 32) := by
        rw [headerSize_eq] at sized ⊢
        rw [slice, slice, Nat.sub_zero, Nat.sub_zero, List.drop_zero, List.drop_zero,
          List.take_append, List.take_of_length_le (by omega), sized]
        congr 2
        omega
      rw [Nat.add_zero] at inFile
      rw [encodeRecord_of_fits idFits (by rw [payloadLength]; exact lengthFits), payloadLength,
        ← hHeader, ← hChecksum, inFile, parts, List.append_assoc,
        slice_join _ (by omega) (by omega)]

end TurtleExecution.EventStore

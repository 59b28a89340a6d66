/-
The SHA-256 digest of a byte list.

Words are 32-bit, the message is padded to 64-byte blocks, and each block is
folded into the eight-word chaining value by 64 rounds.  Everything is
structurally recursive, so a digest of a closed input can be evaluated.
-/

import TurtleExecution.Foundation.BigEndian
import TurtleExecution.Foundation.PyText

set_option autoImplicit false

namespace TurtleExecution

namespace Sha256

open BigEndian

def roundConstants : List UInt32 :=
  [0x428a2f98, 0x71374491, 0xb5c0fbcf, 0xe9b5dba5, 0x3956c25b, 0x59f111f1, 0x923f82a4, 0xab1c5ed5,
   0xd807aa98, 0x12835b01, 0x243185be, 0x550c7dc3, 0x72be5d74, 0x80deb1fe, 0x9bdc06a7, 0xc19bf174,
   0xe49b69c1, 0xefbe4786, 0x0fc19dc6, 0x240ca1cc, 0x2de92c6f, 0x4a7484aa, 0x5cb0a9dc, 0x76f988da,
   0x983e5152, 0xa831c66d, 0xb00327c8, 0xbf597fc7, 0xc6e00bf3, 0xd5a79147, 0x06ca6351, 0x14292967,
   0x27b70a85, 0x2e1b2138, 0x4d2c6dfc, 0x53380d13, 0x650a7354, 0x766a0abb, 0x81c2c92e, 0x92722c85,
   0xa2bfe8a1, 0xa81a664b, 0xc24b8b70, 0xc76c51a3, 0xd192e819, 0xd6990624, 0xf40e3585, 0x106aa070,
   0x19a4c116, 0x1e376c08, 0x2748774c, 0x34b0bcb5, 0x391c0cb3, 0x4ed8aa4a, 0x5b9cca4f, 0x682e6ff3,
   0x748f82ee, 0x78a5636f, 0x84c87814, 0x8cc70208, 0x90befffa, 0xa4506ceb, 0xbef9a3f7, 0xc67178f2]

def rotateRight (word : UInt32) (count : UInt32) : UInt32 :=
  (word >>> count) ||| (word <<< (32 - count))

/-- The chaining value, also the working variables `a` to `h` of the rounds. -/
structure State where
  a : UInt32
  b : UInt32
  c : UInt32
  d : UInt32
  e : UInt32
  f : UInt32
  g : UInt32
  h : UInt32
  deriving DecidableEq, Repr

def initialState : State :=
  { a := 0x6a09e667, b := 0xbb67ae85, c := 0x3c6ef372, d := 0xa54ff53a
    e := 0x510e527f, f := 0x9b05688c, g := 0x1f83d9ab, h := 0x5be0cd19 }

def State.round (state : State) (keyed : UInt32) : State :=
  let sum1 := rotateRight state.e 6 ^^^ rotateRight state.e 11 ^^^ rotateRight state.e 25
  let choice := (state.e &&& state.f) ^^^ (~~~ state.e &&& state.g)
  let first := state.h + sum1 + choice + keyed
  let sum0 := rotateRight state.a 2 ^^^ rotateRight state.a 13 ^^^ rotateRight state.a 22
  let majority := (state.a &&& state.b) ^^^ (state.a &&& state.c) ^^^ (state.b &&& state.c)
  { a := first + (sum0 + majority), b := state.a, c := state.b, d := state.c
    e := state.d + first, f := state.e, g := state.f, h := state.g }

def State.combine (left right : State) : State :=
  { a := left.a + right.a, b := left.b + right.b, c := left.c + right.c, d := left.d + right.d
    e := left.e + right.e, f := left.f + right.f, g := left.g + right.g, h := left.h + right.h }

/-- The rounds left to run, with the next sixteen words of the message
schedule.  Each round consumes the first word and appends the word sixteen
places later. -/
def rounds : List UInt32 → List UInt32 → State → State
  | constant :: constants, word :: window, state =>
      let word1 := window.getD 0 0
      let word14 := window.getD 13 0
      let small0 := rotateRight word1 7 ^^^ rotateRight word1 18 ^^^ (word1 >>> 3)
      let small1 := rotateRight word14 17 ^^^ rotateRight word14 19 ^^^ (word14 >>> 10)
      let next := word + small0 + window.getD 8 0 + small1
      rounds constants (window ++ [next]) (state.round (constant + word))
  | _, _, state => state

def words : Bytes → List UInt32
  | b0 :: b1 :: b2 :: b3 :: rest => UInt32.ofNat (ofBigEndian [b0, b1, b2, b3]) :: words rest
  | _ => []

def compress (state : State) (block : Bytes) : State :=
  state.combine (rounds roundConstants (words block) state)

def blocks : Nat → Bytes → State → State
  | 0, _, state => state
  | count + 1, message, state => blocks count (message.drop 64) (compress state (message.take 64))

/-- The message followed by `0x80`, zeros, and its bit length in eight bytes. -/
def pad (message : Bytes) : Bytes :=
  message ++ [0x80] ++ List.replicate ((119 - message.length % 64) % 64) 0 ++
    toBigEndian 8 (8 * message.length)

def State.digest (state : State) : Bytes :=
  [state.a, state.b, state.c, state.d, state.e, state.f, state.g, state.h].flatMap
    fun word => toBigEndian 4 word.toNat

end Sha256

open Sha256 in
def sha256 (message : Bytes) : Bytes :=
  let padded := pad message
  (blocks (padded.length / 64) padded initialState).digest

@[simp] theorem sha256_length (message : Bytes) : (sha256 message).length = 32 := by
  simp [sha256, Sha256.State.digest]

example : sha256 [0x61, 0x62, 0x63] =
    [0xba, 0x78, 0x16, 0xbf, 0x8f, 0x01, 0xcf, 0xea, 0x41, 0x41, 0x40, 0xde, 0x5d, 0xae, 0x22, 0x23,
     0xb0, 0x03, 0x61, 0xa3, 0x96, 0x17, 0x7a, 0x9c, 0xb4, 0x10, 0xff, 0x61, 0xf2, 0x00, 0x15, 0xad] := by
  decide +kernel

/-- `hashlib.sha256(text.encode()).hexdigest()` -/
def hexdigest (text : String) : List Char :=
  (sha256 text.toUTF8.data.toList).flatMap fun byte =>
    [Nat.digitChar (byte.toNat / 16), Nat.digitChar (byte.toNat % 16)]

theorem hexdigest_cons (text : String) :
    ∃ digit digits, hexdigest text = digit :: digits ∧ PyText.isSpace digit = false := by
  have size := sha256_length text.toUTF8.data.toList
  unfold hexdigest
  cases digest : sha256 text.toUTF8.data.toList with
  | nil => rw [digest] at size; cases size
  | cons byte rest =>
      refine ⟨_, _, rfl, PyText.isSpace_digitChar ?_⟩
      have bound := byte.toNat_lt
      omega

theorem hexdigest_not_blank (text : String) :
    PyText.isBlank (String.ofList (hexdigest text)) = false := by
  obtain ⟨digit, digits, isDigits, inked⟩ := hexdigest_cons text
  refine PyText.not_blank_of_mem ?_ inked
  rw [String.toList_ofList, isDigits]
  exact List.mem_cons_self

end TurtleExecution

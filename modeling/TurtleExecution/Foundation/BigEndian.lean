/-
Fixed-width big-endian integers as byte lists.

`toBigEndian width value` is the unsigned big-endian field of `width` bytes, and
`ofBigEndian` reads such a field back.  A value that does not fit its field is
reduced modulo `256 ^ width`; callers that must refuse it check the bound first.
-/

import Mathlib.Data.Nat.Basic
import Mathlib.Tactic.Ring

set_option autoImplicit false

namespace TurtleExecution

abbrev Bytes := List UInt8

namespace BigEndian

def toBigEndian : Nat → Nat → Bytes
  | 0, _ => []
  | width + 1, value => UInt8.ofNat (value / 256 ^ width) :: toBigEndian width value

def ofBigEndian : Bytes → Nat
  | [] => 0
  | byte :: rest => byte.toNat * 256 ^ rest.length + ofBigEndian rest

@[simp] theorem toBigEndian_length (width value : Nat) :
    (toBigEndian width value).length = width := by
  induction width with
  | zero => rfl
  | succ width ih => simp only [toBigEndian, List.length_cons, ih]

theorem ofBigEndian_lt (bytes : Bytes) : ofBigEndian bytes < 256 ^ bytes.length := by
  induction bytes with
  | nil => simp [ofBigEndian]
  | cons byte rest ih =>
      have digit : byte.toNat ≤ 255 := by
        have bound := byte.toNat_lt
        omega
      have scaled : byte.toNat * 256 ^ rest.length ≤ 255 * 256 ^ rest.length :=
        Nat.mul_le_mul_right _ digit
      simp only [ofBigEndian, List.length_cons, pow_succ]
      omega

theorem ofBigEndian_toBigEndian_mod (width value : Nat) :
    ofBigEndian (toBigEndian width value) = value % 256 ^ width := by
  induction width with
  | zero => simp [toBigEndian, ofBigEndian, Nat.mod_one]
  | succ width ih =>
      have digit : (UInt8.ofNat (value / 256 ^ width)).toNat = value / 256 ^ width % 256 := by
        simp
      simp only [toBigEndian, ofBigEndian, toBigEndian_length, ih, digit]
      rw [pow_succ, Nat.mod_mul, Nat.mul_comm, Nat.add_comm]

theorem ofBigEndian_toBigEndian {width value : Nat} (fits : value < 256 ^ width) :
    ofBigEndian (toBigEndian width value) = value := by
  rw [ofBigEndian_toBigEndian_mod, Nat.mod_eq_of_lt fits]

theorem toBigEndian_add_mul (width value excess : Nat) :
    toBigEndian width (value + excess * 256 ^ width) = toBigEndian width value := by
  induction width generalizing excess with
  | zero => rfl
  | succ width ih =>
      have split : value + excess * 256 ^ (width + 1) = value + excess * 256 * 256 ^ width := by
        ring
      have positive : 0 < 256 ^ width := Nat.pow_pos (by decide)
      have digit : UInt8.ofNat (value / 256 ^ width + excess * 256) =
          UInt8.ofNat (value / 256 ^ width) := by
        rw [← UInt8.toNat_inj]
        simp
      rw [toBigEndian, toBigEndian, split, ih, Nat.add_mul_div_right _ _ positive, digit]

theorem toBigEndian_ofBigEndian (bytes : Bytes) :
    toBigEndian bytes.length (ofBigEndian bytes) = bytes := by
  induction bytes with
  | nil => rfl
  | cons byte rest ih =>
      have bound := ofBigEndian_lt rest
      have positive : 0 < 256 ^ rest.length := Nat.pow_pos (by decide)
      have leading : (byte.toNat * 256 ^ rest.length + ofBigEndian rest) / 256 ^ rest.length =
          byte.toNat := by
        rw [Nat.add_comm, Nat.add_mul_div_right _ _ positive, Nat.div_eq_of_lt bound, Nat.zero_add]
      have lower : toBigEndian rest.length (byte.toNat * 256 ^ rest.length + ofBigEndian rest) =
          toBigEndian rest.length (ofBigEndian rest) := by
        rw [Nat.add_comm, toBigEndian_add_mul]
      simp only [List.length_cons, toBigEndian, ofBigEndian, leading, lower, ih, UInt8.ofNat_toNat]

end BigEndian

end TurtleExecution

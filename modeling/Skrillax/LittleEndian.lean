/-
**Little-endian words.**

A word of a fixed number of bytes, least significant byte first.  The value of a list of bytes is the
number with these digits to the base `256`, so that reading is Mathlib's `Nat.ofDigits` and only
writing a fixed number of digits is new here.

Main definitions:

* `LittleEndian.encode` — the bytes of a number, cut off at a width;
* `LittleEndian.decode` — the number with the given bytes.

Main results:

* `LittleEndian.decode_encode` — reading gives back what was written, up to the width;
* `LittleEndian.encode_decode` — writing what was read gives back the bytes.
-/

import Mathlib

set_option relaxedAutoImplicit false
set_option autoImplicit false

namespace LittleEndian

/-- The `width` low bytes of `n`, the lowest first. -/
def encode : ℕ → ℕ → List UInt8
  | 0, _ => []
  | width + 1, n => UInt8.ofNat n :: encode width (n / 256)

def decode (bytes : List UInt8) : ℕ := Nat.ofDigits 256 (bytes.map UInt8.toNat)

@[simp] theorem encode_zero (n : ℕ) : encode 0 n = [] := rfl

theorem encode_succ (width n : ℕ) :
    encode (width + 1) n = UInt8.ofNat n :: encode width (n / 256) := rfl

@[simp] theorem decode_nil : decode [] = 0 := rfl

@[simp] theorem decode_cons (b : UInt8) (bytes : List UInt8) :
    decode (b :: bytes) = b.toNat + 256 * decode bytes := by
  simp [decode, Nat.ofDigits_cons]

@[simp] theorem length_encode (width n : ℕ) : (encode width n).length = width := by
  induction width generalizing n with
  | zero => rfl
  | succ width ih => simp [encode_succ, ih]

/-- Reading gives back what was written, cut off at the width. -/
theorem decode_encode (width n : ℕ) : decode (encode width n) = n % 256 ^ width := by
  induction width generalizing n with
  | zero => simp [Nat.mod_one]
  | succ width ih =>
      have hlow : (UInt8.ofNat n).toNat = n % 256 := UInt8.toNat_ofNat'
      rw [encode_succ, decode_cons, ih, hlow, Nat.pow_succ', Nat.mod_mul]

theorem decode_encode_of_lt {width n : ℕ} (h : n < 256 ^ width) : decode (encode width n) = n := by
  rw [decode_encode, Nat.mod_eq_of_lt h]

/-- Writing what was read gives back the bytes. -/
theorem encode_decode (bytes : List UInt8) : encode bytes.length (decode bytes) = bytes := by
  induction bytes with
  | nil => rfl
  | cons b bytes ih =>
      have := b.toNat_lt
      have hlow : UInt8.ofNat (b.toNat + 256 * decode bytes) = b := by
        apply UInt8.toNat_inj.1
        rw [UInt8.toNat_ofNat']
        omega
      have hhigh : (b.toNat + 256 * decode bytes) / 256 = decode bytes := by omega
      rw [List.length_cons, encode_succ, decode_cons, hlow, hhigh, ih]

/-- What is cut off does not matter. -/
theorem encode_mod (width n : ℕ) : encode width (n % 256 ^ width) = encode width n := by
  have hbytes := encode_decode (encode width n)
  rwa [length_encode, decode_encode] at hbytes

/-- Two numbers are written alike when they are the same up to the width. -/
theorem encode_eq_iff {width n m : ℕ} :
    encode width n = encode width m ↔ n % 256 ^ width = m % 256 ^ width := by
  constructor
  · intro h
    rw [← decode_encode, h, decode_encode]
  · intro h
    rw [← encode_mod, h, encode_mod]

theorem decode_lt (bytes : List UInt8) : decode bytes < 256 ^ bytes.length := by
  induction bytes with
  | nil => decide
  | cons b bytes ih =>
      have := b.toNat_lt
      rw [decode_cons, List.length_cons, Nat.pow_succ']
      omega

end LittleEndian

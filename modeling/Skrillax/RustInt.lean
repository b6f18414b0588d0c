/-
**Fixed-width integer arithmetic under the two build profiles.**

Integer arithmetic that leaves its range panics in a debug build and wraps around in a release build.
An operation here returns `none` for a panic; where it returns, the result is the wrapped one in either
profile, so a fact that does not depend on the range holds for both profiles at once.

Main definitions:

* `Rust.Profile` — the build profile;
* `Rust.Profile.addU16`, `Rust.Profile.subU16`, `Rust.Profile.negI16`, `Rust.Profile.addU8`,
  `Rust.Profile.subU8`, `Rust.Profile.mulU16` — the arithmetic operators;
* `Rust.Profile.addI32`, `Rust.Profile.negI32`, `Rust.Profile.addI8`, `Rust.Profile.subI8` — the same
  for signed integers;
* `Rust.Profile.mulI64`, `Rust.remI64` — the product and the remainder of `i64`;
* `Rust.i64OfU32`, `Rust.u32OfI64` — the casts between `u32` and `i64`;
* `Rust.unsignedAbs` — the absolute value of a signed integer as an unsigned one;
* `Rust.saturatingSubU16`, `Rust.saturatingSubU32`, `Rust.saturatingAddU64` — arithmetic that stops at
  the ends of the range.

Main results:

* `Rust.Profile.addU16_eq_some`, `Rust.Profile.subU16_eq_some`, `Rust.Profile.negI16_eq_some` — what
  an operation returns, and when;
* `Rust.Profile.or_release_iff` — a range matters to a debug build only;
* `Rust.mulI64_isSome`, `Rust.mulI64_of_fits`, `Rust.remI64_of_pos` — the same for `i64`;
* `Rust.toInt16_neg_iff`, `Rust.sub_unsignedAbs` — the cast to a signed integer, and subtracting an
  absolute value.
-/

import Mathlib

set_option relaxedAutoImplicit false
set_option autoImplicit false

namespace Rust

/-- The build profile, which decides about arithmetic that leaves its range. -/
inductive Profile where
  | debug
  | release
  deriving DecidableEq, Repr

namespace Profile

/-- An operation whose exact result is out of range. -/
def overflow {α : Type} (p : Profile) (wrapped : α) : Option α :=
  match p with
  | debug => none
  | release => some wrapped

def addU16 (p : Profile) (x y : UInt16) : Option UInt16 :=
  if x.toNat + y.toNat < 2 ^ 16 then some (x + y) else p.overflow (x + y)

def subU16 (p : Profile) (x y : UInt16) : Option UInt16 :=
  if y ≤ x then some (x - y) else p.overflow (x - y)

def negI16 (p : Profile) (x : Int16) : Option Int16 :=
  if x = Int16.minValue then p.overflow (-x) else some (-x)

def addU8 (p : Profile) (x y : UInt8) : Option UInt8 :=
  if x.toNat + y.toNat < 2 ^ 8 then some (x + y) else p.overflow (x + y)

def subU8 (p : Profile) (x y : UInt8) : Option UInt8 :=
  if y ≤ x then some (x - y) else p.overflow (x - y)

def mulU16 (p : Profile) (x y : UInt16) : Option UInt16 :=
  if x.toNat * y.toNat < 2 ^ 16 then some (x * y) else p.overflow (x * y)

def subU64 (p : Profile) (x y : UInt64) : Option UInt64 :=
  if y ≤ x then some (x - y) else p.overflow (x - y)

def subU32 (p : Profile) (x y : UInt32) : Option UInt32 :=
  if y ≤ x then some (x - y) else p.overflow (x - y)

def addU32 (p : Profile) (x y : UInt32) : Option UInt32 :=
  if x.toNat + y.toNat < 2 ^ 32 then some (x + y) else p.overflow (x + y)

def addU64 (p : Profile) (x y : UInt64) : Option UInt64 :=
  if x.toNat + y.toNat < 2 ^ 64 then some (x + y) else p.overflow (x + y)

def negI32 (p : Profile) (x : Int32) : Option Int32 :=
  if x = Int32.minValue then p.overflow (-x) else some (-x)

/-- The range of `i32`. -/
def FitsI32 (n : ℤ) : Prop := -2 ^ 31 ≤ n ∧ n < 2 ^ 31

instance (n : ℤ) : Decidable (FitsI32 n) := inferInstanceAs (Decidable (_ ∧ _))

def addI32 (p : Profile) (x y : Int32) : Option Int32 :=
  if FitsI32 (x.toInt + y.toInt) then some (x + y) else p.overflow (x + y)

/-- The range of `i8`. -/
def FitsI8 (n : ℤ) : Prop := -2 ^ 7 ≤ n ∧ n < 2 ^ 7

instance (n : ℤ) : Decidable (FitsI8 n) := inferInstanceAs (Decidable (_ ∧ _))

def addI8 (p : Profile) (x y : Int8) : Option Int8 :=
  if FitsI8 (x.toInt + y.toInt) then some (x + y) else p.overflow (x + y)

def subI8 (p : Profile) (x y : Int8) : Option Int8 :=
  if FitsI8 (x.toInt - y.toInt) then some (x - y) else p.overflow (x - y)

/-- The range of `i64`. -/
def FitsI64 (n : ℤ) : Prop := -2 ^ 63 ≤ n ∧ n < 2 ^ 63

instance (n : ℤ) : Decidable (FitsI64 n) := inferInstanceAs (Decidable (_ ∧ _))

def mulI64 (p : Profile) (x y : Int64) : Option Int64 :=
  if FitsI64 (x.toInt * y.toInt) then some (x * y) else p.overflow (x * y)

@[simp] theorem overflow_eq_some {α : Type} {p : Profile} {w z : α} :
    p.overflow w = some z ↔ p = release ∧ z = w := by
  cases p <;> simp [overflow, eq_comm]

theorem overflow_isSome {α : Type} {p : Profile} {w : α} :
    (p.overflow w).isSome = true ↔ p = release := by
  cases p <;> simp [overflow]

/-- What is asked of a debug build only. -/
theorem or_release_iff {p : Profile} {P : Prop} : P ∨ p = release ↔ (p = debug → P) := by
  cases p <;> simp

/-- An operation that is checked in a debug build. -/
theorem checked_eq_some {α : Type} {p : Profile} {inRange : Prop} [Decidable inRange] {w z : α} :
    (if inRange then some w else p.overflow w) = some z ↔ z = w ∧ (inRange ∨ p = release) := by
  split
  · rename_i h
    simp [h, eq_comm]
  · rename_i h
    simp [h, and_comm]

theorem checked_isSome {α : Type} {p : Profile} {inRange : Prop} [Decidable inRange] {w : α} :
    (if inRange then some w else p.overflow w).isSome = true ↔ inRange ∨ p = release := by
  split
  · rename_i h
    exact ⟨fun _ => Or.inl h, fun _ => rfl⟩
  · rename_i h
    rw [overflow_isSome]
    exact ⟨Or.inr, fun hor => hor.resolve_left h⟩

theorem addU16_eq_some {p : Profile} {x y z : UInt16} :
    p.addU16 x y = some z ↔ z = x + y ∧ (x.toNat + y.toNat < 2 ^ 16 ∨ p = release) :=
  checked_eq_some

theorem subU16_eq_some {p : Profile} {x y z : UInt16} :
    p.subU16 x y = some z ↔ z = x - y ∧ (y ≤ x ∨ p = release) :=
  checked_eq_some

theorem negI16_eq_some {p : Profile} {x z : Int16} :
    p.negI16 x = some z ↔ z = -x ∧ (x ≠ Int16.minValue ∨ p = release) := by
  unfold negI16
  rw [← ite_not]
  exact checked_eq_some

theorem subU8_isSome {p : Profile} {x y : UInt8} :
    (p.subU8 x y).isSome = true ↔ y ≤ x ∨ p = release :=
  checked_isSome

theorem addU32_eq_some {p : Profile} {x y z : UInt32} :
    p.addU32 x y = some z ↔ z = x + y ∧ (x.toNat + y.toNat < 2 ^ 32 ∨ p = release) :=
  checked_eq_some

theorem addU64_isSome {p : Profile} {x y : UInt64} :
    (p.addU64 x y).isSome = true ↔ x.toNat + y.toNat < 2 ^ 64 ∨ p = release :=
  checked_isSome

theorem subU32_eq_some {p : Profile} {x y z : UInt32} :
    p.subU32 x y = some z ↔ z = x - y ∧ (y ≤ x ∨ p = release) :=
  checked_eq_some

theorem addI32_eq_some {p : Profile} {x y z : Int32} :
    p.addI32 x y = some z ↔ z = x + y ∧ (FitsI32 (x.toInt + y.toInt) ∨ p = release) :=
  checked_eq_some

theorem addI32_isSome {p : Profile} {x y : Int32} :
    (p.addI32 x y).isSome = true ↔ FitsI32 (x.toInt + y.toInt) ∨ p = release :=
  checked_isSome

theorem negI32_eq_some {p : Profile} {x z : Int32} :
    p.negI32 x = some z ↔ z = -x ∧ (x ≠ Int32.minValue ∨ p = release) := by
  unfold negI32
  rw [← ite_not]
  exact checked_eq_some

theorem addU64_eq_some {p : Profile} {x y z : UInt64} :
    p.addU64 x y = some z ↔ z = x + y ∧ (x.toNat + y.toNat < 2 ^ 64 ∨ p = release) :=
  checked_eq_some

theorem addI8_eq {p : Profile} {x y z : Int8} (h : p.addI8 x y = some z) : z = x + y :=
  (checked_eq_some.1 h).1

theorem subI8_eq {p : Profile} {x y z : Int8} (h : p.subI8 x y = some z) : z = x - y :=
  (checked_eq_some.1 h).1

theorem mulU16_isSome {p : Profile} {x y : UInt16} :
    (p.mulU16 x y).isSome = true ↔ x.toNat * y.toNat < 2 ^ 16 ∨ p = release :=
  checked_isSome

end Profile

/-- `i16::unsigned_abs`; the least value has no negative, but its wrapped negative has the right
bits. -/
def unsignedAbs (x : Int16) : UInt16 := if x < 0 then (-x).toUInt16 else x.toUInt16

def saturatingSubU16 (x y : UInt16) : UInt16 := if y ≤ x then x - y else 0

def saturatingSubU32 (x y : UInt32) : UInt32 := if y ≤ x then x - y else 0

def saturatingAddU32 (x y : UInt32) : UInt32 :=
  if x.toNat + y.toNat < 2 ^ 32 then x + y else UInt32.ofNat (2 ^ 32 - 1)

def saturatingAddU16 (x y : UInt16) : UInt16 :=
  if x.toNat + y.toNat < 2 ^ 16 then x + y else UInt16.ofNat (2 ^ 16 - 1)

def saturatingAddU8 (x y : UInt8) : UInt8 :=
  if x.toNat + y.toNat < 2 ^ 8 then x + y else UInt8.ofNat (2 ^ 8 - 1)

def saturatingSubU8 (x y : UInt8) : UInt8 := if y ≤ x then x - y else 0

def saturatingAddU64 (x y : UInt64) : UInt64 :=
  if x.toNat + y.toNat < 2 ^ 64 then x + y else UInt64.ofNat (2 ^ 64 - 1)

theorem saturatingSubU32_le (x y : UInt32) : saturatingSubU32 x y ≤ x := by
  unfold saturatingSubU32
  split
  · rename_i h
    rw [UInt32.le_iff_toNat_le, UInt32.toNat_sub_of_le _ _ h]
    omega
  · exact UInt32.zero_le

theorem toNat_saturatingSubU32 (x y : UInt32) : (saturatingSubU32 x y).toNat = x.toNat - y.toNat := by
  unfold saturatingSubU32
  split
  · rename_i h
    exact UInt32.toNat_sub_of_le _ _ h
  · rename_i h
    rw [UInt32.le_iff_toNat_le] at h
    exact (Nat.sub_eq_zero_of_le (by omega)).symm

theorem toNat_saturatingAddU32 (x y : UInt32) :
    (saturatingAddU32 x y).toNat = min (x.toNat + y.toNat) (2 ^ 32 - 1) := by
  unfold saturatingAddU32
  split
  · rename_i h
    rw [UInt32.toNat_add, Nat.mod_eq_of_lt h]
    omega
  · rename_i h
    rw [UInt32.toNat_ofNat', Nat.mod_eq_of_lt (by omega)]
    omega

theorem toNat_saturatingAddU8 (x y : UInt8) :
    (saturatingAddU8 x y).toNat = min (x.toNat + y.toNat) (2 ^ 8 - 1) := by
  unfold saturatingAddU8
  split
  · rename_i h
    rw [UInt8.toNat_add, Nat.mod_eq_of_lt h]
    omega
  · rename_i h
    rw [UInt8.toNat_ofNat', Nat.mod_eq_of_lt (by omega)]
    omega

theorem toNat_saturatingAddU64 {x y : UInt64} (h : x.toNat + y.toNat < 2 ^ 64) :
    (saturatingAddU64 x y).toNat = x.toNat + y.toNat := by
  rw [saturatingAddU64, if_pos h, UInt64.toNat_add]
  omega

/-- The cast `as i32` wraps around. -/
theorem toInt_toInt32 (x : UInt32) : x.toInt32.toInt = (x.toNat : ℤ).bmod (2 ^ 32) := by
  rw [← Int32.toInt_toBitVec, UInt32.toBitVec_toInt32, BitVec.toInt_eq_toNat_bmod]
  rfl

/-- The cast `as i16` of an unsigned integer is negative from `2 ^ 15` on. -/
theorem toInt16_neg_iff (x : UInt16) : x.toInt16 < 0 ↔ 2 ^ 15 ≤ x.toNat := by
  have hx : x.toInt16.toInt = x.toBitVec.toInt := by
    rw [← Int16.toInt_toBitVec, UInt16.toBitVec_toInt16]
  have hnat : x.toBitVec.toNat = x.toNat := rfl
  rw [Int16.lt_iff_toInt_lt, hx, BitVec.toInt_eq_toNat_cond, hnat]
  have := x.toNat_lt
  have hzero : (0 : Int16).toInt = 0 := rfl
  split <;> omega

/-- Subtracting the absolute value of a negative number is adding its bits. -/
theorem sub_unsignedAbs {d : Int16} (h : d < 0) (x : UInt16) : x - unsignedAbs d = x + d.toUInt16 := by
  rw [unsignedAbs, if_pos h, Int16.toUInt16_neg, UInt16.sub_eq_add_neg, UInt16.neg_neg]

/-- The negated cast is negative for the positive numbers up to `2 ^ 15`. -/
theorem neg_toInt16_neg {x : UInt16} (hpos : 0 < x.toNat) (hlt : x.toNat < 2 ^ 15) :
    -x.toInt16 < 0 := by
  have hsize : UInt16.size = 2 ^ 16 := rfl
  rw [← UInt16.toInt16_neg, toInt16_neg_iff, UInt16.toNat_neg, hsize]
  omega

/-- The cast of a number below `2 ^ 15` is not the least value. -/
theorem toInt16_ne_minValue {x : UInt16} (hlt : x.toNat < 2 ^ 15) : x.toInt16 ≠ Int16.minValue := by
  intro h
  have hneg : x.toInt16 < 0 := by
    rw [h]
    decide
  rw [toInt16_neg_iff] at hneg
  omega

theorem unsignedAbs_of_neg {d : Int16} (h : d < 0) : unsignedAbs d = -d.toUInt16 := by
  rw [unsignedAbs, if_pos h, Int16.toUInt16_neg]

/-! ### Signed words of 64 bits -/

/-- The operator `%` panics in either profile on a zero divisor, and on the least value and `-1`. -/
def remI64 (x y : Int64) : Option Int64 :=
  if y = 0 ∨ (x = Int64.minValue ∧ y = -1) then none else some (x % y)

def i64OfU32 (x : UInt32) : Int64 := Int64.ofNat x.toNat

/-- The cast `as u32` keeps the low bits. -/
def u32OfI64 (x : Int64) : UInt32 := UInt32.ofNat (x.toInt % 2 ^ 32).toNat

theorem toInt_i64OfU32 (x : UInt32) : (i64OfU32 x).toInt = x.toNat :=
  Int64.toInt_ofNat_of_lt (by have := x.toNat_lt; omega)

theorem u32OfI64_eq {x : Int64} {n : ℕ} (h : x.toInt = n) : u32OfI64 x = UInt32.ofNat n := by
  apply UInt32.toNat_inj.1
  rw [u32OfI64, h, UInt32.toNat_ofNat', UInt32.toNat_ofNat']
  omega

theorem mulI64_isSome {p : Profile} {x y : Int64} :
    (p.mulI64 x y).isSome = true ↔ Profile.FitsI64 (x.toInt * y.toInt) ∨ p = .release :=
  Profile.checked_isSome

theorem mulI64_of_fits {p : Profile} {x y : Int64} (h : Profile.FitsI64 (x.toInt * y.toInt)) :
    ∃ z, p.mulI64 x y = some z ∧ z.toInt = x.toInt * y.toInt := by
  refine ⟨x * y, if_pos h, ?_⟩
  obtain ⟨hle, hlt⟩ := h
  rw [Int64.toInt_mul]
  exact Int.bmod_eq_of_le (by omega) (by omega)

theorem remI64_of_pos {x y : Int64} (hx : 0 ≤ x.toInt) (hy : 0 < y.toInt) :
    ∃ z, remI64 x y = some z ∧ z.toInt = x.toInt % y.toInt := by
  have hzero : y ≠ 0 := by
    rintro rfl
    exact absurd hy (by decide)
  have hmin : x ≠ Int64.minValue := by
    rintro rfl
    exact absurd hx (by decide)
  refine ⟨x % y, ?_, ?_⟩
  · rw [remI64, if_neg]
    rintro (h | ⟨h, -⟩)
    · exact hzero h
    · exact hmin h
  · rw [Int64.toInt_mod, Int.tmod_eq_emod_of_nonneg hx]

end Rust

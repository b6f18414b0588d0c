/-
**The count byte.**

A count byte goes with a packet so that one that is dropped or sent again can be noticed: every byte is
computed from the one before, starting from a seed that both sides know.  The method that computes the next
byte takes the seed out of the state by a pattern that copies it, and stores the byte in the copy.  So the
state stays as it is, and each call returns the byte that the first one has returned.

Main definitions:

* `countSequence` — the bytes that belong to a seed;
* `SilkroadSecurity.generateCountByte` — the method;
* `SilkroadSecurity.afterCalls`, `SilkroadSecurity.nthCountByte` — calling it again and again.

Main results:

* `SilkroadSecurity.generateCountByte_established` — a call returns the first byte of the sequence, and
  changes nothing;
* `SilkroadSecurity.countBytes_iff` — **when the calls follow the sequence**.
-/

import Skrillax.KeyExchange

set_option relaxedAutoImplicit false
set_option autoImplicit false

namespace Skrillax

open Rust

/-! ### The sequence -/

/-- The low byte of a number, with the bits above its low half mixed in. -/
def fold (v : ℕ) : ℕ := (v ^^^ (v >>> 4)) % 256

/-- The byte after `r`. -/
def nextCount (s₁ s₂ : UInt8) (r : ℕ) : ℕ := fold (s₂.toNat * ((255 - r) + s₁.toNat))

/-- The sequence that starts with the first byte of the seed. -/
def countSequence (s₀ s₁ s₂ : UInt8) : ℕ → ℕ
  | 0 => s₀.toNat
  | k + 1 => nextCount s₁ s₂ (countSequence s₀ s₁ s₂ k)

section Sequence

variable {s₀ s₁ s₂ : UInt8}

theorem countSequence_succ_lt (k : ℕ) : countSequence s₀ s₁ s₂ (k + 1) < 256 :=
  Nat.mod_lt _ (by omega)

theorem toNat_countSequence (k : ℕ) :
    (UInt8.ofNat (countSequence s₀ s₁ s₂ (k + 1))).toNat = countSequence s₀ s₁ s₂ (k + 1) := by
  rw [UInt8.toNat_ofNat']
  exact Nat.mod_eq_of_lt (countSequence_succ_lt k)

/-- The bytes of the sequence are the same exactly if the numbers are. -/
theorem ofNat_countSequence_inj {i j : ℕ} :
    UInt8.ofNat (countSequence s₀ s₁ s₂ (i + 1)) = UInt8.ofNat (countSequence s₀ s₁ s₂ (j + 1)) ↔
      countSequence s₀ s₁ s₂ (i + 1) = countSequence s₀ s₁ s₂ (j + 1) := by
  rw [← UInt8.toNat_inj, toNat_countSequence, toNat_countSequence]

/-- A sequence that stays where it is for one step stays there. -/
theorem countSequence_const {i : ℕ}
    (h : countSequence s₀ s₁ s₂ (i + 1) = countSequence s₀ s₁ s₂ i) :
    ∀ n, countSequence s₀ s₁ s₂ (i + n) = countSequence s₀ s₁ s₂ i := by
  intro n
  induction n with
  | zero => rfl
  | succ n ih => rw [← Nat.add_assoc, countSequence, ih, ← countSequence, h]

end Sequence

namespace SilkroadSecurity

/-! ### The method -/

def generateCountByte (security : SilkroadSecurity) :
    Except (Failure SilkroadSecurityError) UInt8 × SilkroadSecurity :=
  match security.state with
  | .established _ countSeed _ =>
      -- `mut count_seed` binds a copy of the seed: the assignment does not reach the state
      let result := countSeed[2]!.toUInt32 *
        ((~~~countSeed[0]!).toUInt32 + countSeed[1]!.toUInt32)
      let result := (result ^^^ (result >>> 4)).toUInt8
      let _countSeed := #v[result, countSeed[1]!, countSeed[2]!]
      (.ok result, security)
  | _ => (.error (.error .securityUninitialized), security)

section Calls

variable {s₀ s₁ s₂ : UInt8}

/-- What is multiplied and added stays far below `2 ^ 32`. -/
theorem toNat_result : (s₂.toUInt32 * ((~~~s₀).toUInt32 + s₁.toUInt32)).toNat =
    s₂.toNat * ((255 - s₀.toNat) + s₁.toNat) := by
  have h₁ := s₁.toNat_lt
  have h₂ := s₂.toNat_lt
  have hnot : (~~~s₀).toUInt32.toNat = 255 - s₀.toNat := by
    rw [UInt8.toNat_toUInt32, UInt8.toNat_not]
    rfl
  have hsum : ((~~~s₀).toUInt32 + s₁.toUInt32).toNat = (255 - s₀.toNat) + s₁.toNat := by
    rw [UInt32.toNat_add, hnot, UInt8.toNat_toUInt32]
    exact Nat.mod_eq_of_lt (by omega)
  have hbound : s₂.toNat * ((255 - s₀.toNat) + s₁.toNat) ≤ 256 * 512 :=
    Nat.mul_le_mul (by omega) (by omega)
  rw [UInt32.toNat_mul, hsum, UInt8.toNat_toUInt32]
  exact Nat.mod_eq_of_lt (by omega)

theorem toNat_folded (v : UInt32) : (v ^^^ (v >>> 4)).toUInt8.toNat = fold v.toNat := by
  rw [UInt32.toNat_toUInt8, UInt32.toNat_xor, UInt32.toNat_shiftRight]
  rfl

/-- **A call returns the first byte after the seed, and leaves the state as it is.** -/
theorem generateCountByte_established (blowfish : BlowfishCompat) (crcSeed : UInt32) :
    let security : SilkroadSecurity := ⟨.established blowfish #v[s₀, s₁, s₂] crcSeed⟩
    generateCountByte security = (.ok (UInt8.ofNat (countSequence s₀ s₁ s₂ 1)), security) := by
  intro security
  have hbyte : ((s₂.toUInt32 * ((~~~s₀).toUInt32 + s₁.toUInt32)) ^^^
      ((s₂.toUInt32 * ((~~~s₀).toUInt32 + s₁.toUInt32)) >>> 4)).toUInt8 =
        UInt8.ofNat (countSequence s₀ s₁ s₂ 1) := by
    apply UInt8.toNat_inj.1
    rw [toNat_folded, toNat_result, toNat_countSequence]
    rfl
  rw [← hbyte]
  rfl

/-! ### Calls one after the other -/

/-- The state after `n` calls. -/
def afterCalls (n : ℕ) (security : SilkroadSecurity) : SilkroadSecurity :=
  (fun s => (generateCountByte s).2)^[n] security

/-- What the next call returns after `n` calls. -/
def nthCountByte (n : ℕ) (security : SilkroadSecurity) : Except (Failure SilkroadSecurityError) UInt8 :=
  (generateCountByte (afterCalls n security)).1

theorem afterCalls_eq (security : SilkroadSecurity) (n : ℕ) : afterCalls n security = security := by
  refine Function.iterate_fixed ?_ n
  unfold generateCountByte
  split <;> rfl

/-- Every call returns the same byte. -/
theorem nthCountByte_eq (blowfish : BlowfishCompat) (crcSeed : UInt32) (n : ℕ) :
    nthCountByte n ⟨.established blowfish #v[s₀, s₁, s₂] crcSeed⟩ =
      .ok (UInt8.ofNat (countSequence s₀ s₁ s₂ 1)) := by
  rw [nthCountByte, afterCalls_eq, generateCountByte_established]

end Calls

/-- **When the calls follow the sequence**: the bytes are the right ones exactly if the sequence does not
change after its first step, and the state has the last byte as well exactly if it never changes. -/
theorem countBytes_iff (blowfish : BlowfishCompat) (s₀ s₁ s₂ : UInt8) (crcSeed : UInt32) :
    let security : SilkroadSecurity := ⟨.established blowfish #v[s₀, s₁, s₂] crcSeed⟩
    let r := countSequence s₀ s₁ s₂
    ((∀ n, nthCountByte n security = .ok (UInt8.ofNat (r (n + 1)))) ↔ r 2 = r 1) ∧
      ((∀ n, nthCountByte n security = .ok (UInt8.ofNat (r (n + 1))) ∧ afterCalls (n + 1) security =
        ⟨.established blowfish #v[UInt8.ofNat (r (n + 1)), s₁, s₂] crcSeed⟩) ↔ r 1 = r 0) := by
  intro security r
  have hbytes : (∀ n, nthCountByte n security = .ok (UInt8.ofNat (r (n + 1)))) ↔ r 2 = r 1 := by
    constructor
    · intro h
      have hsecond := h 1
      rw [nthCountByte_eq] at hsecond
      exact (ofNat_countSequence_inj.1 (Except.ok.inj hsecond)).symm
    · intro h n
      rw [nthCountByte_eq]
      have hconst : r (1 + n) = r 1 := countSequence_const h n
      rw [Nat.add_comm n 1, hconst]
  refine ⟨hbytes, ?_, ?_⟩
  · intro h
    -- the state is the old one, and has to have the first byte
    have hstate := (h 0).2
    rw [afterCalls_eq] at hstate
    have hfirst : s₀ = UInt8.ofNat (r 1) := by
      simpa [security] using hstate
    change r 1 = s₀.toNat
    rw [hfirst]
    exact (toNat_countSequence 0).symm
  · intro h n
    have hconst : ∀ n, r (0 + n) = r 0 := countSequence_const h
    have hall : ∀ n, r n = r 0 := fun n => Nat.zero_add n ▸ hconst n
    have hfirst : UInt8.ofNat (r (n + 1)) = s₀ := by
      rw [hall]
      exact UInt8.ofNat_toNat
    refine ⟨hbytes.2 ((hall 2).trans (hall 1).symm) n, ?_⟩
    rw [afterCalls_eq, hfirst]

theorem cycleValue_zero : cycleValue 0 = 0 := Function.iterate_fixed (by decide) 32

/-- The seed that belongs to the number zero: the second call returns the first byte again. -/
theorem count_byte_repeats :
    let security : SilkroadSecurity := ⟨.established recordedBlowfish (generateCountSeed 0) 0⟩
    generateCountSeed 0 = #v[0, 1, 1] ∧ countSequence 0 1 1 1 = 16 ∧ countSequence 0 1 1 2 = 255 ∧
      nthCountByte 0 security = .ok 16 ∧ nthCountByte 1 security = .ok 16 := by
  intro security
  have hseed : generateCountSeed 0 = #v[0, 1, 1] := by
    simp only [generateCountSeed, cycleValue_zero]
    rfl
  have hstate : security = ⟨.established recordedBlowfish #v[0, 1, 1] 0⟩ := by
    rw [← hseed]
  refine ⟨hseed, by decide, by decide, ?_, ?_⟩
  · rw [hstate, nthCountByte_eq]
    rfl
  · rw [hstate, nthCountByte_eq]
    rfl

end SilkroadSecurity

end Skrillax

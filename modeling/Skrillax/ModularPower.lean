/-
**The rounds of a modular power.**

The power of a word modulo a number of 31 bits is computed in words of 64 bits, in one round for each bit of
the exponent.  The loop is taken apart into its rounds here, so that each product it makes can be looked at.
The key exchange and the decryptor have the same loop.

Main definitions:

* `PowState`, `PowState.round` — the variables of the loop, and its body;
* `PowState.factors` — the factors that a round multiplies;
* `PowState.Reaches` — the states that the loop comes to.

Main results:

* `PowState.gPowXModPLoop_of_reaches` — the rounds are the rounds of the loop;
* `PowState.Reaches.inRange`, `PowState.InRange.product` — the variables and the products stay in range;
* `PowState.Reaches.le_32`, `PowState.Reaches.exists_end` — the rounds come to an end;
* `gPowXModP_computes_powers` — **the power, the products and the end of the loop**.
-/

import Skrillax.KeyExchange

set_option relaxedAutoImplicit false
set_option autoImplicit false

namespace Skrillax

open Rust

/-! ### Rounds -/

structure PowState where
  x : UInt32
  current : Int64
  mult : Int64
  deriving DecidableEq

namespace PowState

variable {profile : Profile} {p : Int64} {start s s' : PowState} {k : ℕ}

/-- The body of the loop. -/
def round (profile : Profile) (p : Int64) (s : PowState) : Option PowState :=
  (if s.x &&& 1 > 0 then mulMod profile p s.mult s.current else some s.current).bind fun current =>
    (mulMod profile p s.mult s.mult).map fun mult => ⟨s.x >>> 1, current, mult⟩

/-- The factors of the products of a round, in their order. -/
def factors (s : PowState) : List (Int64 × Int64) :=
  (if s.x &&& 1 > 0 then [(s.mult, s.current)] else []) ++ [(s.mult, s.mult)]

/-- The loop goes from one state to the other in the given number of rounds. -/
inductive Reaches (profile : Profile) (p : Int64) (start : PowState) : ℕ → PowState → Prop where
  | start : Reaches profile p start 0 start
  | round {k : ℕ} {s s' : PowState} (h : Reaches profile p start k s) (hx : s.x ≠ 0)
      (hround : s.round profile p = some s') : Reaches profile p start (k + 1) s'

theorem round_eq_some_iff :
    s.round profile p = some s' ↔ s'.x = s.x >>> 1 ∧
      (if s.x &&& 1 > 0 then mulMod profile p s.mult s.current else some s.current) = some s'.current ∧
      mulMod profile p s.mult s.mult = some s'.mult := by
  rw [round]
  simp only [Option.bind_eq_some_iff, Option.map_eq_some_iff]
  constructor
  · rintro ⟨current, hcurrent, mult, hmult, rfl⟩
    exact ⟨rfl, hcurrent, hmult⟩
  · rintro ⟨hx, hcurrent, hmult⟩
    exact ⟨s'.current, hcurrent, s'.mult, hmult, by rw [← hx]⟩

/-- The rounds are the rounds of the loop. -/
theorem gPowXModPLoop_of_reaches (h : Reaches profile p start k s) :
    gPowXModPLoop profile p start.x start.current start.mult =
      gPowXModPLoop profile p s.x s.current s.mult := by
  induction h with
  | start => rfl
  | @round k s s' _ hx hround ih =>
      obtain ⟨hx', hcurrent, hmult⟩ := round_eq_some_iff.1 hround
      rw [ih, gPowXModPLoop, if_pos hx, hcurrent, Option.bind_some, hmult, Option.bind_some, hx']

/-! ### What the rounds keep -/

/-- A round takes the last bit off the exponent. -/
theorem Reaches.x_eq (h : Reaches profile p start k s) : s.x.toNat = start.x.toNat / 2 ^ k := by
  induction h with
  | start => rw [pow_zero, Nat.div_one]
  | @round k s s' _ _ hround ih =>
      have hshift : (s.x >>> 1).toNat = s.x.toNat / 2 := by
        rw [UInt32.toNat_shiftRight]
        rfl
      rw [(round_eq_some_iff.1 hround).1, hshift, ih, Nat.div_div_eq_div_mul, pow_succ]

/-- There are no more rounds than bits. -/
theorem Reaches.le_32 (h : Reaches profile p start k s) : k ≤ 32 := by
  cases h with
  | start => exact Nat.zero_le _
  | @round k s s' h hx hround =>
      have hlt := start.x.toNat_lt
      by_contra hk
      have hpow : 2 ^ 32 ≤ 2 ^ k := Nat.pow_le_pow_right (by decide) (by omega)
      have hzero : s.x.toNat = 0 := by
        rw [h.x_eq]
        exact Nat.div_eq_of_lt (hlt.trans_le hpow)
      exact hx (UInt32.toNat_inj.1 hzero)

/-- Both variables can be multiplied. -/
def InRange (s : PowState) : Prop := s.current ∈ Multipliable ∧ s.mult ∈ Multipliable

/-- No product of a round is out of range. -/
theorem InRange.product (h : s.InRange) {a b : Int64} (hab : (a, b) ∈ s.factors) :
    0 ≤ a.toInt * b.toInt ∧ a.toInt * b.toInt < 2 ^ 63 := by
  rw [factors, List.mem_append, List.mem_singleton] at hab
  obtain hcurrent | heq := hab
  · split at hcurrent
    · cases List.mem_singleton.1 hcurrent
      exact mul_multipliable h.2 h.1
    · cases hcurrent
  · cases heq
    exact mul_multipliable h.2 h.2

section Modulus

variable (hp : 0 < p.toInt) (hp' : p.toInt ≤ 2 ^ 31)
include hp hp'

theorem InRange.exists_round (profile : Profile) (h : s.InRange) :
    ∃ s', s.round profile p = some s' ∧ s'.InRange := by
  obtain ⟨hcurrent, hmult⟩ := h
  have hmul := (represents_mulMod profile hp hp').mul_ok
  obtain ⟨mult, hmult', hsquare, -⟩ := hmul s.mult hmult s.mult hmult
  have hbit : ∃ current ∈ Multipliable,
      (if s.x &&& 1 > 0 then mulMod profile p s.mult s.current else some s.current) = some current := by
    split
    · obtain ⟨current, hcurrent', hproduct, -⟩ := hmul s.mult hmult s.current hcurrent
      exact ⟨current, hcurrent', hproduct⟩
    · exact ⟨s.current, hcurrent, rfl⟩
  obtain ⟨current, hcurrent', hproduct⟩ := hbit
  exact ⟨⟨s.x >>> 1, current, mult⟩, round_eq_some_iff.2 ⟨rfl, hproduct, hsquare⟩, hcurrent', hmult'⟩

theorem Reaches.inRange (h : Reaches profile p start k s) (hstart : start.InRange) : s.InRange := by
  induction h with
  | start => exact hstart
  | round _ _ hround ih =>
      obtain ⟨s', hs', hrange⟩ := ih.exists_round hp hp' profile
      rw [hround, Option.some.injEq] at hs'
      exact hs' ▸ hrange

/-- A loop that stays in range comes to its end. -/
theorem Reaches.exists_end (h : Reaches profile p start k s) (hstart : start.InRange) :
    ∃ k' s', Reaches profile p start k' s' ∧ s'.x = 0 := by
  induction hn : s.x.toNat using Nat.strong_induction_on generalizing k s with
  | _ n ih =>
      by_cases hx : s.x = 0
      · exact ⟨k, s, h, hx⟩
      · obtain ⟨s', hround, -⟩ := (h.inRange hp hp' hstart).exists_round hp hp' profile
        have hnext := Reaches.round h hx hround
        have hpos : s.x.toNat ≠ 0 := fun hzero => hx (UInt32.toNat_inj.1 hzero)
        have hhalf : s'.x.toNat = s.x.toNat / 2 := by
          rw [hnext.x_eq, h.x_eq, Nat.div_div_eq_div_mul, pow_succ]
        exact ih s'.x.toNat (by omega) hnext rfl

end Modulus

end PowState

/-! ### The power -/

open PowState

/-- The state before the first round. -/
def powStart (x g : UInt32) : PowState := ⟨x, 1, i64OfU32 g⟩

/-- **The power, the products and the end of the loop.**  The result is the power modulo the number.  In each
state that the loop comes to, no product of the next round is out of range; there are 32 rounds at most, and
then the exponent is used up and the power is what has been computed. -/
theorem gPowXModP_computes_powers (profile : Profile) (p : Int64) (x g : UInt32) (hp : 2 ≤ p.toInt)
    (hp' : p.toInt < 2 ^ 31) (hg : g.toNat < 2 ^ 31) :
    (∃ r, gPowXModP profile p x g = some r ∧ (r.toNat : ℤ) = (g.toNat : ℤ) ^ x.toNat % p.toInt) ∧
      (∀ k s, Reaches profile p (powStart x g) k s → k ≤ 32 ∧ ∀ a b, (a, b) ∈ s.factors →
        0 ≤ a.toInt * b.toInt ∧ a.toInt * b.toInt < 2 ^ 63) ∧
      ∃ k s, Reaches profile p (powStart x g) k s ∧ s.x = 0 ∧
        s.current.toInt = (g.toNat : ℤ) ^ x.toNat % p.toInt := by
  have hpos : 0 < p.toInt := by omega
  have hstart : (powStart x g).InRange := ⟨one_multipliable, (multipliable_iff g).2 (by omega)⟩
  obtain ⟨r, hloop, hr⟩ := exists_gPowXModPLoop profile hp hp' (x := x) (g := g) (by omega)
  refine ⟨⟨u32OfI64 r, ?_, ?_⟩, ?_, ?_⟩
  · rw [gPowXModP, hloop, Option.map_some]
  · have hr0 := Int.emod_nonneg ((g.toNat : ℤ) ^ x.toNat) hpos.ne'
    have hr1 := Int.emod_lt_of_pos ((g.toNat : ℤ) ^ x.toNat) hpos
    rw [← hr] at hr0 hr1
    have hnat : r.toInt = r.toInt.toNat := (Int.toNat_of_nonneg hr0).symm
    have hlt : r.toInt.toNat < 2 ^ 32 := by omega
    rw [u32OfI64_eq hnat, UInt32.toNat_ofNat_of_lt' hlt, Int.toNat_of_nonneg hr0, hr]
  · intro k s hreach
    exact ⟨hreach.le_32, fun a b hab => (hreach.inRange hpos hp'.le hstart).product hab⟩
  · have hfirst : Reaches profile p (powStart x g) 0 (powStart x g) := .start
    obtain ⟨k, s, hreach, hx⟩ := hfirst.exists_end hpos hp'.le hstart
    have hend : gPowXModPLoop profile p s.x s.current s.mult = some r := by
      rw [← gPowXModPLoop_of_reaches hreach, ← hloop]
      rfl
    rw [gPowXModPLoop, if_neg (not_not.2 hx), Option.some.injEq] at hend
    exact ⟨k, s, hreach, hx, by rw [hend, hr]⟩

/-- The largest modulus and the largest generator. -/
theorem gPowXModP_computes_the_largest :
    (∃ r, gPowXModP .debug (Int64.ofInt 2147483647) 0xFFFFFFFF 2147483647 = some r ∧
        (r.toNat : ℤ) = ((2147483647 : UInt32).toNat : ℤ) ^ (0xFFFFFFFF : UInt32).toNat %
          (Int64.ofInt 2147483647).toInt) ∧
      (∀ k s, Reaches .debug (Int64.ofInt 2147483647) (powStart 0xFFFFFFFF 2147483647) k s → k ≤ 32 ∧
        ∀ a b, (a, b) ∈ s.factors →
          0 ≤ a.toInt * b.toInt ∧ a.toInt * b.toInt < 2 ^ 63) ∧
      ∃ k s, Reaches .debug (Int64.ofInt 2147483647) (powStart 0xFFFFFFFF 2147483647) k s ∧ s.x = 0 ∧
        s.current.toInt = ((2147483647 : UInt32).toNat : ℤ) ^ (0xFFFFFFFF : UInt32).toNat %
          (Int64.ofInt 2147483647).toInt :=
  gPowXModP_computes_powers .debug (Int64.ofInt 2147483647) 0xFFFFFFFF 2147483647 (by decide) (by decide)
    (by decide)

end Skrillax

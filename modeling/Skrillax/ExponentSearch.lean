/-
**What the search leaves out.**

The exponents below `2 ^ 31 - 1` are divided among the threads, and what the division leaves is given to
nobody.  No thread count of two or more divides this prime, so with more than one thread at least one
exponent is left out.  That matters for an exponent whose power has no other exponent among those that are
searched; a modulus with a primitive root shows that it does, unless only the last exponent is left out.

Main definitions:

* `searchedFor` — the search for the power that an initialization sends;
* `Finds` — it returns at least one exponent.

Main results:

* `finds_iff` — one search finds something exactly if an exponent below the end of the last slice gives the
  power;
* `finds_all_of_dvd`, `exists_not_finds` — which thread counts always find something;
* `exponent_search_complete_iff` — **the search is complete exactly if the thread count divides
  `2 ^ 31 - 2`**.
-/

import Skrillax.Decryptor
import Skrillax.DiscreteLog

set_option relaxedAutoImplicit false
set_option autoImplicit false

namespace Skrillax

open Rust DiscreteLog

/-- The search for the power of the secret exponent. -/
def searchedFor (profile : Profile) (threads : UInt8) (draws : RandomDraws) : Option (List UInt32) :=
  (gPowXModP profile (i64OfU32 draws.valueP) draws.valueX draws.valueG).bind
    (findX profile threads draws.valueP draws.valueG)

/-- The search returns at least one exponent. -/
def Finds (profile : Profile) (threads : UInt8) (draws : RandomDraws) : Prop :=
  ∃ candidate candidates, searchedFor profile threads draws = some (candidate :: candidates)

/-- An exponent that is searched gives the same power as the secret one. -/
def HasSearchedExponent (threads : UInt8) (draws : RandomDraws) : Prop :=
  ∃ m < threads.toNat * ((2 ^ 31 - 1) / threads.toNat),
    draws.valueG.toNat ^ m % draws.valueP.toNat = draws.valueG.toNat ^ draws.valueX.toNat % draws.valueP.toNat

section Search

variable {profile : Profile} {threads : UInt8} {draws : RandomDraws}

theorem searchedFor_eq (hp : 2 ≤ draws.valueP.toNat) : searchedFor profile threads draws =
    findX profile threads draws.valueP draws.valueG
      (UInt32.ofNat (draws.valueG.toNat ^ draws.valueX.toNat % draws.valueP.toNat)) := by
  have hg := draws.valueG_lt
  rw [searchedFor, gPowXModP_eq profile hp draws.valueP_lt (by omega), Option.bind_some]

theorem finds_iff (hthreads : threads ≠ 0) (hp : 2 ≤ draws.valueP.toNat) :
    Finds profile threads draws ↔ HasSearchedExponent threads draws := by
  obtain ⟨found, hfound⟩ := Option.isSome_iff_exists.1
    (findX_isSome profile draws.valueX.toNat hthreads hp draws.valueP_lt draws.valueG_lt)
  have hiff := (findX_spec hp draws.valueP_lt draws.valueG_lt hfound).2
  unfold Finds
  rw [searchedFor_eq hp, hfound]
  refine Iff.trans ⟨?_, ?_⟩ hiff
  · rintro ⟨candidate, candidates, heq⟩
    rw [Option.some_inj.1 heq]
    exact List.cons_ne_nil _ _
  · intro hne
    obtain ⟨candidate, candidates, rfl⟩ := List.exists_cons_of_ne_nil hne
    exact ⟨candidate, candidates, rfl⟩

/-- Powers modulo `p` are powers in `ZMod p`. -/
theorem pow_mod_eq_iff (g m x p : ℕ) : g ^ m % p = g ^ x % p ↔ (g : ZMod p) ^ m = (g : ZMod p) ^ x := by
  rw [← Nat.cast_pow, ← Nat.cast_pow, ZMod.natCast_eq_natCast_iff']

/-- Every power has an exponent below `2 ^ 31 - 2`. -/
theorem exists_exponent (hp : 2 ≤ draws.valueP.toNat) : ∃ m < 2 ^ 31 - 2,
    draws.valueG.toNat ^ m % draws.valueP.toNat =
      draws.valueG.toNat ^ draws.valueX.toNat % draws.valueP.toNat := by
  have hlt := draws.valueP_lt
  simp only [pow_mod_eq_iff]
  generalize hg : draws.valueG.toNat = g
  generalize draws.valueX.toNat = x
  generalize draws.valueP.toNat = p at hp hlt
  by_cases hprime : p = 2147483647
  · subst hprime
    have : Fact (Nat.Prime 2147483647) := ⟨mersenne_prime⟩
    obtain ⟨m, hm, heq⟩ := exists_lt_pred_pow_eq (p := 2147483647) (by omega) (g : ZMod 2147483647) x
    exact ⟨m, by omega, heq⟩
  · have : NeZero p := ⟨by omega⟩
    obtain ⟨m, hm, heq⟩ := exists_lt_card_pow_eq (g : ZMod p) x
    rw [ZMod.card] at hm
    exact ⟨m, by omega, heq⟩

/-! ### Which thread counts are enough -/

theorem le_searched_of_dvd {t : ℕ} (h : t ∣ 2 ^ 31 - 2) : 2 ^ 31 - 2 ≤ t * ((2 ^ 31 - 1) / t) := by
  have hle : (2 ^ 31 - 2) / t ≤ (2 ^ 31 - 1) / t := Nat.div_le_div_right (by omega)
  calc 2 ^ 31 - 2 = t * ((2 ^ 31 - 2) / t) := (Nat.mul_div_cancel' h).symm
    _ ≤ t * ((2 ^ 31 - 1) / t) := Nat.mul_le_mul_left t hle

/-- Any other number of threads leaves out at least two exponents. -/
theorem searched_lt_of_not_dvd {t : ℕ} (hlt : t < 256) (h : ¬ t ∣ 2 ^ 31 - 2) :
    t * ((2 ^ 31 - 1) / t) < 2 ^ 31 - 2 := by
  have hone : t ≠ 1 := fun heq => h (heq ▸ one_dvd _)
  have hndvd : ¬ t ∣ 2147483647 := fun hdvd => by
    rcases (Nat.dvd_prime mersenne_prime).1 hdvd with heq | heq <;> omega
  have hsplit := Nat.div_add_mod (2 ^ 31 - 1) t
  have hzero : (2 ^ 31 - 1) % t ≠ 0 := fun hmod => hndvd (Nat.dvd_of_mod_eq_zero hmod)
  have hnotOne : (2 ^ 31 - 1) % t ≠ 1 := fun hmod => h ⟨(2 ^ 31 - 1) / t, by omega⟩
  omega

theorem finds_all_of_dvd (hthreads : threads ≠ 0) (h : threads.toNat ∣ 2 ^ 31 - 2)
    (hp : 2 ≤ draws.valueP.toNat) : Finds profile threads draws := by
  obtain ⟨m, hm, heq⟩ := exists_exponent hp
  exact (finds_iff hthreads hp).2 ⟨m, hm.trans_le (le_searched_of_dvd h), heq⟩

/-- The modulus `2 ^ 31 - 1` with the primitive root 7, and the first exponent that is left out. -/
def leftOut (threads : UInt8) : RandomDraws where
  seed := 0
  countSeed := 0
  crcSeed := 0
  handshakeSeed := 0
  x := UInt32.ofNat (threads.toNat * ((2 ^ 31 - 1) / threads.toNat))
  g := 7
  p := 0x7FFFFFFF

theorem toNat_valueP_leftOut (threads : UInt8) : (leftOut threads).valueP.toNat = 2147483647 := by
  have hp : (leftOut threads).valueP = 0x7FFFFFFF := and_mask_of_lt (v := 0x7FFFFFFF) (by decide)
  rw [hp]
  rfl

theorem toNat_valueG_leftOut (threads : UInt8) : (leftOut threads).valueG.toNat = 7 := by
  have hg : (leftOut threads).valueG = 7 := and_mask_of_lt (v := 7) (by decide)
  rw [hg]
  rfl

theorem toNat_valueX_leftOut (threads : UInt8) :
    (leftOut threads).valueX.toNat = threads.toNat * ((2 ^ 31 - 1) / threads.toNat) := by
  have hle := Nat.mul_div_le (2 ^ 31 - 1) threads.toNat
  have hnat : (leftOut threads).x.toNat = threads.toNat * ((2 ^ 31 - 1) / threads.toNat) :=
    UInt32.toNat_ofNat_of_lt' (show threads.toNat * ((2 ^ 31 - 1) / threads.toNat) < 2 ^ 32 by omega)
  rw [RandomDraws.valueX, and_mask_of_lt (by omega), hnat]

/-- Its power is that of no exponent that is searched. -/
theorem not_finds_leftOut (profile : Profile) (hthreads : threads ≠ 0) (h : ¬ threads.toNat ∣ 2 ^ 31 - 2) :
    ¬ Finds profile threads (leftOut threads) := by
  have hp := toNat_valueP_leftOut threads
  have hg := toNat_valueG_leftOut threads
  have hlt := searched_lt_of_not_dvd threads.toNat_lt h
  rw [finds_iff hthreads (by omega)]
  rintro ⟨m, hm, heq⟩
  rw [hp, hg, toNat_valueX_leftOut, pow_mod_eq_iff] at heq
  exact pow_ne_of_lt_orderOf hm (by rw [Nat.cast_ofNat, orderOf_seven]; omega) heq

end Search

/-- **The search is complete exactly if the thread count divides `2 ^ 31 - 2`**, and otherwise finds something
exactly if one of the exponents that are searched gives the power. -/
theorem exponent_search_complete_iff (profile : Profile) (threads : UInt8) (hthreads : threads ≠ 0) :
    ((∀ draws : RandomDraws, 2 ≤ draws.valueP.toNat → Finds profile threads draws) ↔
      threads.toNat ∣ 2 ^ 31 - 2) ∧
    ∀ draws : RandomDraws, 2 ≤ draws.valueP.toNat →
      (Finds profile threads draws ↔ HasSearchedExponent threads draws) := by
  refine ⟨⟨fun hall => ?_, fun hdvd draws hp => finds_all_of_dvd hthreads hdvd hp⟩,
    fun draws hp => finds_iff hthreads hp⟩
  by_contra hndvd
  have hp : 2 ≤ (leftOut threads).valueP.toNat := by
    rw [toNat_valueP_leftOut]
    omega
  exact not_finds_leftOut profile hthreads hndvd (hall (leftOut threads) hp)

/-- Two threads are enough. -/
theorem exponent_search_complete_for_two_threads : Finds .debug 2 (leftOut 4) :=
  (exponent_search_complete_iff .debug 2 (by decide)).1.2 (by decide) (leftOut 4)
    (by rw [toNat_valueP_leftOut]; decide)

/-- Four threads are not: nobody searches the exponent `2 ^ 31 - 4`. -/
theorem exponent_is_left_out :
    (¬ Finds .debug 4
      { seed := 0, countSeed := 0, crcSeed := 0, handshakeSeed := 0, x := 2147483644, g := 7, p := 2147483647 }) ∧
    ¬ Finds .release 4
      { seed := 0, countSeed := 0, crcSeed := 0, handshakeSeed := 0, x := 2147483644, g := 7, p := 2147483647 } := by
  have hleft (profile : Profile) : ¬ Finds profile 4 (leftOut 4) :=
    not_finds_leftOut profile (by decide) (by decide)
  exact ⟨hleft .debug, hleft .release⟩

end Skrillax

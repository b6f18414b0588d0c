/-
**Which exponents are enough.**

In a finite monoid every power of an element is one with an exponent below the number of elements.  Modulo a
prime one exponent less is enough, and if the element is a primitive root, no fewer are.  The prime
`2 ^ 31 - 1` has 7 for a primitive root.

Main results:

* `DiscreteLog.exists_lt_card_pow_eq` — exponents below the number of elements are enough;
* `DiscreteLog.exists_lt_pred_pow_eq` — the same modulo a prime, with one exponent less;
* `DiscreteLog.mersenne_prime`, `DiscreteLog.orderOf_seven` — the prime `2 ^ 31 - 1` and a primitive root;
* `DiscreteLog.pow_ne_of_lt_orderOf` — below its order, an element has no power twice.
-/

import Mathlib

set_option relaxedAutoImplicit false
set_option autoImplicit false

namespace DiscreteLog

/-- **Exponents below the number of elements are enough.** -/
theorem exists_lt_card_pow_eq {M : Type*} [Monoid M] [Fintype M] (g : M) (x : ℕ) :
    ∃ m < Fintype.card M, g ^ m = g ^ x := by
  -- two of the first exponents have the same power, and their distance can be taken off a larger one
  obtain ⟨i, j, hlt, hpow⟩ : ∃ i j : Fin (Fintype.card M + 1), i < j ∧ g ^ (i : ℕ) = g ^ (j : ℕ) := by
    obtain ⟨i, j, hne, hpow⟩ := Fintype.exists_ne_map_eq_of_card_lt
      (fun i : Fin (Fintype.card M + 1) => g ^ (i : ℕ)) (by simp)
    rcases lt_or_gt_of_ne hne with hlt | hlt
    · exact ⟨i, j, hlt, hpow⟩
    · exact ⟨j, i, hlt, hpow.symm⟩
  have hj : (j : ℕ) ≤ Fintype.card M := Nat.le_of_lt_succ j.isLt
  have hij : (i : ℕ) < j := hlt
  induction x using Nat.strong_induction_on with
  | _ x ih =>
      by_cases hx : x < Fintype.card M
      · exact ⟨x, hx, rfl⟩
      · obtain ⟨m, hm, heq⟩ := ih (x - j + i) (by omega)
        refine ⟨m, hm, heq.trans ?_⟩
        rw [pow_add, hpow, ← pow_add, Nat.sub_add_cancel (by omega)]

/-- **Modulo a prime one exponent less is enough.** -/
theorem exists_lt_pred_pow_eq {p : ℕ} [Fact p.Prime] (hp : 3 ≤ p) (g : ZMod p) (x : ℕ) :
    ∃ m < p - 1, g ^ m = g ^ x := by
  by_cases hg : g = 0
  · rcases Nat.eq_zero_or_pos x with rfl | hx
    · exact ⟨0, by omega, rfl⟩
    · refine ⟨1, by omega, ?_⟩
      rw [hg, zero_pow one_ne_zero, zero_pow (Nat.pos_iff_ne_zero.1 hx)]
  · refine ⟨x % (p - 1), Nat.mod_lt _ (by omega), ?_⟩
    conv_rhs => rw [← Nat.div_add_mod x (p - 1), pow_add, pow_mul, ZMod.pow_card_sub_one_eq_one hg, one_pow,
      one_mul]

/-- Below its order, an element has no power twice. -/
theorem pow_ne_of_lt_orderOf {M : Type*} [Monoid M] {g : M} {m x : ℕ} (hlt : m < x) (hx : x < orderOf g) :
    g ^ m ≠ g ^ x :=
  fun h => hlt.ne (pow_injOn_Iio_orderOf (hlt.trans hx) hx h)

/-! ### A large prime -/

theorem seven_pow_pred : (7 : ZMod 2147483647) ^ 2147483646 = 1 := by reduce_mod_char

theorem prime_dvd_mersenne_pred {q : ℕ} (hq : q.Prime) (h : q ∣ 2147483646) :
    q ∈ [2, 3, 7, 11, 31, 151, 331] := by
  have hfactors : 2147483646 = [2, 3, 3, 7, 11, 31, 151, 331].prod := by norm_num
  have hprimes : ∀ r ∈ [2, 3, 3, 7, 11, 31, 151, 331], r.Prime := by norm_num
  rw [hfactors] at h
  obtain ⟨r, hr, hdvd⟩ := (Prime.dvd_prod_iff hq.prime).1 h
  obtain rfl := (Nat.prime_dvd_prime_iff_eq hq (hprimes r hr)).1 hdvd
  simpa using hr

theorem natCast_ne_one {c : ℕ} (hc : 1 < c) (hlt : c < 2147483647) : (c : ZMod 2147483647) ≠ 1 := by
  rw [← Nat.cast_one, Ne, ZMod.natCast_eq_natCast_iff', Nat.mod_eq_of_lt hlt]
  omega

/-- The powers of 7 whose exponents are the greatest proper divisors are not one. -/
theorem seven_pow_div_ne_one {q : ℕ} (hq : q.Prime) (h : q ∣ 2147483646) :
    (7 : ZMod 2147483647) ^ (2147483646 / q) ≠ 1 := by
  have hne {n c : ℕ} (hpow : (7 : ZMod 2147483647) ^ n = c) (hc : 1 < c) (hlt : c < 2147483647) :
      (7 : ZMod 2147483647) ^ n ≠ 1 :=
    hpow ▸ natCast_ne_one hc hlt
  have hmem := prime_dvd_mersenne_pred hq h
  simp only [List.mem_cons, List.not_mem_nil, or_false] at hmem
  rcases hmem with rfl | rfl | rfl | rfl | rfl | rfl | rfl
  · have hpow : (7 : ZMod 2147483647) ^ 1073741823 = (2147483646 : ℕ) := by reduce_mod_char
    exact hne hpow (by norm_num) (by norm_num)
  · have hpow : (7 : ZMod 2147483647) ^ 715827882 = (1513477735 : ℕ) := by reduce_mod_char
    exact hne hpow (by norm_num) (by norm_num)
  · have hpow : (7 : ZMod 2147483647) ^ 306783378 = (1205362885 : ℕ) := by reduce_mod_char
    exact hne hpow (by norm_num) (by norm_num)
  · have hpow : (7 : ZMod 2147483647) ^ 195225786 = (1969212174 : ℕ) := by reduce_mod_char
    exact hne hpow (by norm_num) (by norm_num)
  · have hpow : (7 : ZMod 2147483647) ^ 69273666 = (512 : ℕ) := by reduce_mod_char
    exact hne hpow (by norm_num) (by norm_num)
  · have hpow : (7 : ZMod 2147483647) ^ 14221746 = (535044134 : ℕ) := by reduce_mod_char
    exact hne hpow (by norm_num) (by norm_num)
  · have hpow : (7 : ZMod 2147483647) ^ 6487866 = (1761855083 : ℕ) := by reduce_mod_char
    exact hne hpow (by norm_num) (by norm_num)

theorem mersenne_prime : Nat.Prime 2147483647 :=
  lucas_primality 2147483647 7 seven_pow_pred fun _ => seven_pow_div_ne_one

/-- **7 is a primitive root.** -/
theorem orderOf_seven : orderOf (7 : ZMod 2147483647) = 2147483646 :=
  orderOf_eq_of_pow_and_pow_div_prime (by norm_num) seven_pow_pred fun _ => seven_pow_div_ne_one

end DiscreteLog

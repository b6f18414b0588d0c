/-
**Square and multiply.**

The loop that raises an element to a power by squaring it once for every bit of the exponent, for a
multiplication that may fail.  Two facts about a single product carry over to the loop: what the factors
have in common passes to the result, and an interpretation that turns products into products turns the
loop into a power.

Main definitions:

* `SquareMultiply.powLoop` — the loop, with the lowest bit of the exponent first;
* `SquareMultiply.Represents` — a set of elements on which the multiplication succeeds and is the
  multiplication of a monoid.

Main results:

* `SquareMultiply.Represents.powLoop` — **the loop computes the power**;
* `SquareMultiply.powLoop_of_mul` — what holds of every product and of the start holds of the result.
-/

import Mathlib

set_option relaxedAutoImplicit false
set_option autoImplicit false

namespace SquareMultiply

variable {M R : Type*} {mul : M → M → Option M}

/-- `while x != 0 { if x & 1 { current = mult * current }; x >>= 1; mult = mult * mult }`. -/
def powLoop (mul : M → M → Option M) (x : ℕ) (current mult : M) : Option M :=
  if x = 0 then
    some current
  else
    (if x % 2 = 1 then mul mult current else some current).bind fun current =>
      (mul mult mult).bind fun mult => powLoop mul (x / 2) current mult
termination_by x

@[simp] theorem powLoop_zero (current mult : M) : powLoop mul 0 current mult = some current := by
  rw [powLoop, if_pos rfl]

theorem powLoop_of_ne_zero {x : ℕ} (h : x ≠ 0) (current mult : M) :
    powLoop mul x current mult =
      (if x % 2 = 1 then mul mult current else some current).bind fun current =>
        (mul mult mult).bind fun mult => powLoop mul (x / 2) current mult := by
  rw [powLoop, if_neg h]

/-- The elements of a set can be multiplied, and stand for elements of a monoid. -/
structure Represents [Monoid R] (mul : M → M → Option M) (good : Set M) (val : M → R) : Prop where
  mul_ok : ∀ a ∈ good, ∀ b ∈ good, ∃ c ∈ good, mul a b = some c ∧ val c = val a * val b

/-- The power is split at the lowest bit of the exponent. -/
theorem pow_split [Monoid R] (a : R) (x : ℕ) : (a * a) ^ (x / 2) * a ^ (x % 2) = a ^ x := by
  rw [← pow_two, ← pow_mul, ← pow_add, Nat.div_add_mod]

/-- **The loop computes the power.** -/
theorem Represents.powLoop [Monoid R] {good : Set M} {val : M → R} (h : Represents mul good val)
    (x : ℕ) {current mult : M} (hcurrent : current ∈ good) (hmult : mult ∈ good) :
    ∃ r ∈ good, powLoop mul x current mult = some r ∧ val r = val mult ^ x * val current := by
  induction x using Nat.strong_induction_on generalizing current mult with
  | _ x ih =>
      rcases Nat.eq_zero_or_pos x with rfl | hx
      · exact ⟨current, hcurrent, powLoop_zero current mult, by rw [pow_zero, one_mul]⟩
      · have hbit : ∃ c ∈ good, (if x % 2 = 1 then mul mult current else some current) = some c ∧
            val c = val mult ^ (x % 2) * val current := by
          rcases Nat.mod_two_eq_zero_or_one x with heven | hodd
          · exact ⟨current, hcurrent, by rw [if_neg (by omega)], by rw [heven, pow_zero, one_mul]⟩
          · obtain ⟨c, hc, hok, hval⟩ := h.mul_ok mult hmult current hcurrent
            exact ⟨c, hc, by rw [if_pos hodd, hok], by rw [hval, hodd, pow_one]⟩
        obtain ⟨c, hc, hcok, hcval⟩ := hbit
        obtain ⟨m, hm, hmok, hmval⟩ := h.mul_ok mult hmult mult hmult
        obtain ⟨r, hr, hrok, hrval⟩ := ih (x / 2) (by omega) hc hm
        refine ⟨r, hr, ?_, ?_⟩
        · rw [powLoop_of_ne_zero (by omega), hcok, Option.bind_some, hmok, Option.bind_some, hrok]
        · rw [hrval, hcval, hmval, ← mul_assoc, pow_split]

/-- A multiplication that always succeeds makes the loop succeed. -/
theorem exists_powLoop (hmul : ∀ a b, ∃ c, mul a b = some c) (x : ℕ) (current mult : M) :
    ∃ r, powLoop mul x current mult = some r := by
  have htotal : Represents mul Set.univ (fun _ => ()) := by
    constructor
    intro a _ b _
    obtain ⟨c, hc⟩ := hmul a b
    exact ⟨c, Set.mem_univ c, hc, rfl⟩
  obtain ⟨r, -, hr, -⟩ := htotal.powLoop x (Set.mem_univ current) (Set.mem_univ mult)
  exact ⟨r, hr⟩

/-- What holds of every product and of the start holds of the result. -/
theorem powLoop_of_mul {P : M → Prop} (hmul : ∀ a b c, mul a b = some c → P c) (x : ℕ)
    {current mult r : M} (hcurrent : P current) (h : powLoop mul x current mult = some r) : P r := by
  induction x using Nat.strong_induction_on generalizing current mult with
  | _ x ih =>
      rcases Nat.eq_zero_or_pos x with rfl | hx
      · rw [powLoop_zero, Option.some_inj] at h
        exact h ▸ hcurrent
      · rw [powLoop_of_ne_zero (by omega), Option.bind_eq_some_iff] at h
        obtain ⟨c, hc, h⟩ := h
        obtain ⟨m, hm, h⟩ := Option.bind_eq_some_iff.1 h
        refine ih (x / 2) (by omega) ?_ h
        split at hc
        · exact hmul _ _ _ hc
        · exact Option.some_inj.1 hc ▸ hcurrent

/-- The loop squares once unless the exponent is zero. -/
theorem exists_square_of_powLoop {x : ℕ} (hx : x ≠ 0) {current mult r : M}
    (h : powLoop mul x current mult = some r) : ∃ m, mul mult mult = some m := by
  rw [powLoop_of_ne_zero hx, Option.bind_eq_some_iff] at h
  obtain ⟨c, -, h⟩ := h
  obtain ⟨m, hm, -⟩ := Option.bind_eq_some_iff.1 h
  exact ⟨m, hm⟩

end SquareMultiply

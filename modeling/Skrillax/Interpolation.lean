/-
**Interpolation in a tile.**

The values at the four corners of a tile are interpolated along one side and then along the other one.  What
comes out lies in every convex set with the four corners in it.  The tile of a point, and where the point is
inside of it, come from a division and its floor.

Main definitions:

* `Interpolation.bilinear` — the interpolated value.

Main results:

* `Interpolation.bilinear_mem` — it lies where the corners lie;
* `Interpolation.floor_div_lt_iff`, `Interpolation.offset_mem_Icc` — the tile of a point, and the point in it.
-/

import Mathlib

set_option relaxedAutoImplicit false
set_option autoImplicit false

namespace Interpolation

variable {𝕜 E : Type*} [Field 𝕜] [AddCommGroup E] [Module 𝕜 E]

/-- The corners `a` and `b` are at the top, and `c` and `d` below them. -/
def bilinear (a b c d : E) (s t : 𝕜) : E :=
  AffineMap.lineMap (AffineMap.lineMap a c t) (AffineMap.lineMap b d t) s

@[simp] theorem bilinear_zero_zero (a b c d : E) : bilinear a b c d (0 : 𝕜) 0 = a := by
  rw [bilinear, AffineMap.lineMap_apply_zero, AffineMap.lineMap_apply_zero]

variable [LinearOrder 𝕜] [IsStrictOrderedRing 𝕜]

theorem bilinear_mem {S : Set E} (hS : Convex 𝕜 S) {a b c d : E} (ha : a ∈ S) (hb : b ∈ S) (hc : c ∈ S)
    (hd : d ∈ S) {s t : 𝕜} (hs : s ∈ Set.Icc 0 1) (ht : t ∈ Set.Icc 0 1) : bilinear a b c d s t ∈ S :=
  hS.lineMap_mem (hS.lineMap_mem ha hc ht) (hS.lineMap_mem hb hd ht) hs

section Tiles

variable [FloorSemiring 𝕜] {x t : 𝕜}

theorem floor_div_lt_iff (hx : 0 ≤ x) (ht : 0 < t) {n : ℕ} : ⌊x / t⌋₊ < n ↔ x < n * t := by
  rw [Nat.floor_lt (div_nonneg hx ht.le), div_lt_iff₀ ht]

/-- The point is not left of its tile, and not right of it. -/
theorem offset_mem_Icc (hx : 0 ≤ x) (ht : 0 < t) : (x - ⌊x / t⌋₊ * t) / t ∈ Set.Icc (0 : 𝕜) 1 := by
  have hfloor : (⌊x / t⌋₊ : 𝕜) ≤ x / t := Nat.floor_le (div_nonneg hx ht.le)
  have hlt : x / t < ⌊x / t⌋₊ + 1 := Nat.lt_floor_add_one _
  rw [sub_div, mul_div_cancel_right₀ _ ht.ne']
  constructor
  · exact sub_nonneg.2 hfloor
  · exact (sub_lt_iff_lt_add'.2 hlt).le

/-- A corner is in its own tile. -/
theorem floor_mul_div (ht : 0 < t) (i : ℕ) : ⌊i * t / t⌋₊ = i := by
  rw [mul_div_cancel_right₀ _ ht.ne', Nat.floor_natCast]

end Tiles

end Interpolation

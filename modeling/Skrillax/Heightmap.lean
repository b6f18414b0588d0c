/-
**The heights between the points of a grid.**

A heightmap has the heights of a grid of points, one behind the other, and interpolates between the four
points around a place.  The points on the right and below are kept inside of the grid, those on the left and
above are not, although a place on the border of the map is accepted.

Heights and coordinates are exact numbers here, and not floating-point ones.  An index outside of the list is
`none`.

Main definitions:

* `Heightmap`, `Heightmap.heightOfVertex`, `Heightmap.heightAtPosition` — the map and its heights;
* `Heightmap.IsGrid` — the list has one height for each point of the grid;
* `Heightmap.Accepts` — the places that are accepted.

Main results:

* `Heightmap.exists_height_iff` — where an accepted place has a height;
* `Heightmap.height_between_corners` — **the height inside is bounded by the corners**;
* `Heightmap.accepted_place_has_height_iff` — **which places are answered as they should be**.
-/

import Skrillax.Interpolation

set_option relaxedAutoImplicit false
set_option autoImplicit false

namespace Skrillax.Navmesh

open Interpolation

/-! ### The map -/

structure Heightmap where
  map : List ℚ
  size : ℕ
  tileSize : ℕ

namespace Heightmap

def maxSize (self : Heightmap) : ℕ := self.size * self.tileSize

def heightOfVertex (self : Heightmap) (x y : ℕ) : Option ℚ := self.map[x + y * self.size]?

/-- The coordinate of the corner on the left, or above. -/
def corner (self : Heightmap) (x : ℚ) : ℕ := ⌊x / self.tileSize⌋₊

/-- The coordinate of the corner on the right, or below. -/
def nextCorner (self : Heightmap) (x : ℚ) : ℕ := min (self.corner x + 1) (self.size - 1)

/-- Where a place is in its tile. -/
def diff (self : Heightmap) (x : ℚ) : ℚ := (x - self.corner x * self.tileSize) / self.tileSize

def interpolate (topLeftHeight topRightHeight bottomLeftHeight bottomRightHeight xDiff yDiff : ℚ) : ℚ :=
  let interpolateY1 := topLeftHeight + (bottomLeftHeight - topLeftHeight) * yDiff
  let interpolateY2 := topRightHeight + (bottomRightHeight - topRightHeight) * yDiff
  interpolateY1 + (interpolateY2 - interpolateY1) * xDiff

def heightAtPosition (self : Heightmap) (x y : ℚ) : Option (Option ℚ) :=
  if x < 0 ∨ x > self.maxSize ∨ y < 0 ∨ y > self.maxSize then some none
  else do
    let topLeftHeight ← self.heightOfVertex (self.corner x) (self.corner y)
    let topRightHeight ← self.heightOfVertex (self.nextCorner x) (self.corner y)
    let bottomLeftHeight ← self.heightOfVertex (self.corner x) (self.nextCorner y)
    let bottomRightHeight ← self.heightOfVertex (self.nextCorner x) (self.nextCorner y)
    return some (interpolate topLeftHeight topRightHeight bottomLeftHeight bottomRightHeight
      (self.diff x) (self.diff y))

structure IsGrid (heightmap : Heightmap) : Prop where
  size_pos : 0 < heightmap.size
  tileSize_pos : 0 < heightmap.tileSize
  length_map : heightmap.map.length = heightmap.size * heightmap.size

/-- No coordinate is below zero or above the size of the map. -/
def Accepts (self : Heightmap) (x y : ℚ) : Prop :=
  (0 ≤ x ∧ x ≤ self.maxSize) ∧ 0 ≤ y ∧ y ≤ self.maxSize

/-! ### The four corners -/

theorem interpolate_eq_bilinear (a b c d s t : ℚ) : interpolate a b c d s t = bilinear a b c d s t := by
  simp only [interpolate, bilinear, AffineMap.lineMap_apply, vsub_eq_sub, smul_eq_mul, vadd_eq_add]
  ring

variable {self : Heightmap} {x y : ℚ}

theorem outside_iff :
    (x < 0 ∨ x > self.maxSize ∨ y < 0 ∨ y > self.maxSize) ↔ ¬ self.Accepts x y := by
  simp only [Accepts, not_and_or, not_le, gt_iff_lt, or_assoc]

theorem heightAtPosition_of_not_accepts (h : ¬ self.Accepts x y) : self.heightAtPosition x y = some none :=
  if_pos (outside_iff.2 h)

/-- A place that is accepted has a height if its corners have heights, and `None` is not the answer. -/
theorem heightAtPosition_of_accepts (h : self.Accepts x y) {answer : Option ℚ} :
    self.heightAtPosition x y = some answer ↔ ∃ topLeft topRight bottomLeft bottomRight,
      self.heightOfVertex (self.corner x) (self.corner y) = some topLeft ∧
      self.heightOfVertex (self.nextCorner x) (self.corner y) = some topRight ∧
      self.heightOfVertex (self.corner x) (self.nextCorner y) = some bottomLeft ∧
      self.heightOfVertex (self.nextCorner x) (self.nextCorner y) = some bottomRight ∧
      answer = some (bilinear topLeft topRight bottomLeft bottomRight (self.diff x) (self.diff y)) := by
  rw [heightAtPosition, if_neg (fun hout => outside_iff.1 hout h)]
  simp only [Option.bind_eq_bind, Option.bind_eq_some_iff, interpolate_eq_bilinear]
  constructor
  · rintro ⟨topLeft, htl, topRight, htr, bottomLeft, hbl, bottomRight, hbr, ⟨⟩⟩
    exact ⟨topLeft, topRight, bottomLeft, bottomRight, htl, htr, hbl, hbr, rfl⟩
  · rintro ⟨topLeft, topRight, bottomLeft, bottomRight, htl, htr, hbl, hbr, rfl⟩
    exact ⟨topLeft, htl, topRight, htr, bottomLeft, hbl, bottomRight, hbr, rfl⟩

/-- In a list of rows the index behind a row is the first one of the next row. -/
theorem index_lt_iff {n i j : ℕ} (hi : i ≤ n) : i + j * n < n * n ↔ i < n ∧ j < n ∨ j + 1 < n := by
  obtain hlt | rfl := hi.lt_or_eq
  · have hrow : i + j * n < n * n ↔ j < n := by
      rw [← Nat.div_lt_iff_lt_mul (by omega), Nat.add_mul_div_right _ _ (by omega), Nat.div_eq_of_lt hlt,
        Nat.zero_add]
    rw [hrow]
    omega
  · have hrow : i + j * i = (j + 1) * i := by ring
    rw [hrow]
    constructor
    · intro h
      exact Or.inr (lt_of_mul_lt_mul_right h (Nat.zero_le i))
    · rintro (⟨hlt, -⟩ | hlt)
      · exact absurd hlt (lt_irrefl i)
      · exact Nat.mul_lt_mul_of_pos_right hlt (by omega)

theorem exists_heightOfVertex_iff (h : self.IsGrid) {i j : ℕ} (hi : i ≤ self.size) :
    (∃ height, self.heightOfVertex i j = some height) ↔
      i < self.size ∧ j < self.size ∨ j + 1 < self.size := by
  rw [← index_lt_iff hi, ← h.length_map]
  simp only [heightOfVertex, List.getElem?_eq_some_iff]
  constructor
  · rintro ⟨height, hindex, -⟩
    exact hindex
  · intro hindex
    exact ⟨_, hindex, rfl⟩

section Grid

variable (h : self.IsGrid)
include h

theorem tileSize_pos : (0 : ℚ) < self.tileSize := Nat.cast_pos.2 h.tileSize_pos

theorem nextCorner_lt (x : ℚ) : self.nextCorner x < self.size := by
  have hsize := h.size_pos
  unfold nextCorner
  omega

theorem corner_lt_iff (hx : 0 ≤ x) (n : ℕ) : self.corner x < n ↔ x < n * self.tileSize :=
  floor_div_lt_iff hx (tileSize_pos h)

theorem corner_lt_size_iff (hx : 0 ≤ x) : self.corner x < self.size ↔ x < self.maxSize := by
  rw [corner_lt_iff h hx, maxSize, Nat.cast_mul]

/-- The place is not in the last two rows. -/
theorem corner_add_two_lt_iff (hy : 0 ≤ y) :
    self.corner y + 2 < self.size ↔ y < ((self.size : ℚ) - 2) * self.tileSize := by
  obtain hsmall | hlarge := le_or_gt self.size 2
  · have hrows : ((self.size : ℚ) - 2) * self.tileSize ≤ 0 := by
      refine mul_nonpos_of_nonpos_of_nonneg ?_ (tileSize_pos h).le
      exact sub_nonpos.2 (by exact_mod_cast hsmall)
    exact iff_of_false (by omega) (hrows.trans hy).not_gt
  · have hcast : ((self.size - 2 : ℕ) : ℚ) = (self.size : ℚ) - 2 := by
      rw [Nat.cast_sub hlarge.le, Nat.cast_ofNat]
    rw [← hcast, ← corner_lt_iff h hy]
    omega

theorem corner_le_size (hx : 0 ≤ x) (hx' : x ≤ self.maxSize) : self.corner x ≤ self.size := by
  have hlt : x < (self.size + 1 : ℕ) * self.tileSize := by
    have htile := tileSize_pos h
    rw [maxSize, Nat.cast_mul] at hx'
    push_cast
    linarith
  exact Nat.lt_succ_iff.1 ((corner_lt_iff h hx _).2 hlt)

theorem diff_mem_Icc (hx : 0 ≤ x) : self.diff x ∈ Set.Icc (0 : ℚ) 1 := offset_mem_Icc hx (tileSize_pos h)

/-- The corner on the left may be outside of the grid, if the row below it is followed by one more. -/
theorem exists_height_iff (hplace : self.Accepts x y) :
    (∃ height, self.heightAtPosition x y = some (some height)) ↔
      self.corner y < self.size ∧ (self.corner x < self.size ∨ self.corner y + 2 < self.size) := by
  obtain ⟨⟨hx, hx'⟩, hy, hy'⟩ := hplace
  have hleft := corner_le_size h hx hx'
  have hright := nextCorner_lt h x
  have hbelow := nextCorner_lt h y
  simp only [heightAtPosition_of_accepts ⟨⟨hx, hx'⟩, hy, hy'⟩, Option.some.injEq]
  have hcorners : (∃ height topLeft topRight bottomLeft bottomRight,
      self.heightOfVertex (self.corner x) (self.corner y) = some topLeft ∧
      self.heightOfVertex (self.nextCorner x) (self.corner y) = some topRight ∧
      self.heightOfVertex (self.corner x) (self.nextCorner y) = some bottomLeft ∧
      self.heightOfVertex (self.nextCorner x) (self.nextCorner y) = some bottomRight ∧
      height = bilinear topLeft topRight bottomLeft bottomRight (self.diff x) (self.diff y)) ↔
      (∃ height, self.heightOfVertex (self.corner x) (self.corner y) = some height) ∧
      (∃ height, self.heightOfVertex (self.nextCorner x) (self.corner y) = some height) ∧
      (∃ height, self.heightOfVertex (self.corner x) (self.nextCorner y) = some height) ∧
      ∃ height, self.heightOfVertex (self.nextCorner x) (self.nextCorner y) = some height := by
    constructor
    · rintro ⟨-, topLeft, topRight, bottomLeft, bottomRight, htl, htr, hbl, hbr, -⟩
      exact ⟨⟨_, htl⟩, ⟨_, htr⟩, ⟨_, hbl⟩, ⟨_, hbr⟩⟩
    · rintro ⟨⟨topLeft, htl⟩, ⟨topRight, htr⟩, ⟨bottomLeft, hbl⟩, ⟨bottomRight, hbr⟩⟩
      exact ⟨_, topLeft, topRight, bottomLeft, bottomRight, htl, htr, hbl, hbr, rfl⟩
  rw [hcorners, exists_heightOfVertex_iff h hleft, exists_heightOfVertex_iff h hright.le,
    exists_heightOfVertex_iff h hleft, exists_heightOfVertex_iff h hright.le]
  have hnext : self.nextCorner y = min (self.corner y + 1) (self.size - 1) := rfl
  omega

theorem corner_mul (i : ℕ) : self.corner (i * self.tileSize) = i := floor_mul_div (tileSize_pos h) i

theorem diff_mul (i : ℕ) : self.diff (i * self.tileSize) = 0 := by
  rw [diff, corner_mul h, sub_self, zero_div]

end Grid

/-! ### Inside of the map -/

/-- **The height is bounded by its corners.**  Every place that is not on the border has a height, which is
not below all of the four corners around it, and not above all of them.  A point of the grid has its own
height. -/
theorem height_between_corners (self : Heightmap) (h : self.IsGrid) (x y : ℚ) (hx : 0 ≤ x)
    (hx' : x < self.maxSize) (hy : 0 ≤ y) (hy' : y < self.maxSize) :
    ∃ height topLeft topRight bottomLeft bottomRight,
      self.heightAtPosition x y = some (some height) ∧
      self.heightOfVertex (self.corner x) (self.corner y) = some topLeft ∧
      self.heightOfVertex (self.nextCorner x) (self.corner y) = some topRight ∧
      self.heightOfVertex (self.corner x) (self.nextCorner y) = some bottomLeft ∧
      self.heightOfVertex (self.nextCorner x) (self.nextCorner y) = some bottomRight ∧
      min (min topLeft topRight) (min bottomLeft bottomRight) ≤ height ∧
      height ≤ max (max topLeft topRight) (max bottomLeft bottomRight) ∧
      ∀ i j : ℕ, x = i * self.tileSize → y = j * self.tileSize →
        self.heightOfVertex i j = some height := by
  have hplace : self.Accepts x y := ⟨⟨hx, hx'.le⟩, hy, hy'.le⟩
  obtain ⟨height, hheight⟩ := (exists_height_iff h hplace).2
    ⟨(corner_lt_size_iff h hy).2 hy', Or.inl ((corner_lt_size_iff h hx).2 hx')⟩
  obtain ⟨topLeft, topRight, bottomLeft, bottomRight, htl, htr, hbl, hbr, hvalue⟩ :=
    (heightAtPosition_of_accepts hplace).1 hheight
  rw [Option.some.injEq] at hvalue
  refine ⟨height, topLeft, topRight, bottomLeft, bottomRight, hheight, htl, htr, hbl, hbr, ?_⟩
  have hbounds : height ∈ Set.Icc (min (min topLeft topRight) (min bottomLeft bottomRight))
      (max (max topLeft topRight) (max bottomLeft bottomRight)) := by
    rw [hvalue]
    refine bilinear_mem (convex_Icc _ _) ?_ ?_ ?_ ?_ (diff_mem_Icc h hx) (diff_mem_Icc h hy)
    · exact ⟨(min_le_left _ _).trans (min_le_left _ _), (le_max_left _ _).trans (le_max_left _ _)⟩
    · exact ⟨(min_le_left _ _).trans (min_le_right _ _), (le_max_right _ _).trans (le_max_left _ _)⟩
    · exact ⟨(min_le_right _ _).trans (min_le_left _ _), (le_max_left _ _).trans (le_max_right _ _)⟩
    · exact ⟨(min_le_right _ _).trans (min_le_right _ _), (le_max_right _ _).trans (le_max_right _ _)⟩
  refine ⟨hbounds.1, hbounds.2, ?_⟩
  rintro i j rfl rfl
  rw [diff_mul h, diff_mul h, bilinear_zero_zero] at hvalue
  rw [corner_mul h, corner_mul h] at htl
  rw [htl, hvalue]

/-- A map of two by two points, as wide as the tiles. -/
def smallMap : Heightmap := ⟨[0, 0, 0, 10], 2, 1⟩

theorem isGrid_smallMap : smallMap.IsGrid := ⟨by decide, by decide, rfl⟩

theorem height_between_corners_of_smallMap :
    ∃ height topLeft topRight bottomLeft bottomRight,
      smallMap.heightAtPosition (1 / 2) 1 = some (some height) ∧
      smallMap.heightOfVertex (smallMap.corner (1 / 2)) (smallMap.corner 1) = some topLeft ∧
      smallMap.heightOfVertex (smallMap.nextCorner (1 / 2)) (smallMap.corner 1) = some topRight ∧
      smallMap.heightOfVertex (smallMap.corner (1 / 2)) (smallMap.nextCorner 1) = some bottomLeft ∧
      smallMap.heightOfVertex (smallMap.nextCorner (1 / 2)) (smallMap.nextCorner 1) = some bottomRight ∧
      min (min topLeft topRight) (min bottomLeft bottomRight) ≤ height ∧
      height ≤ max (max topLeft topRight) (max bottomLeft bottomRight) ∧
      ∀ i j : ℕ, (1 / 2 : ℚ) = i * smallMap.tileSize → (1 : ℚ) = j * smallMap.tileSize →
        smallMap.heightOfVertex i j = some height :=
  height_between_corners smallMap isGrid_smallMap (1 / 2) 1 (by norm_num)
    (by norm_num [maxSize, smallMap]) (by norm_num) (by norm_num [maxSize, smallMap])

/-! ### The border -/

/-- **Which places are answered.**  A place is answered with `None` if it is outside, and with a height if it
is not, unless it is on the lower border, or on the right one in the last two rows. -/
theorem accepted_place_has_height_iff (self : Heightmap) (h : self.IsGrid) (x y : ℚ) :
    ((self.heightAtPosition x y = some none ↔ ¬ self.Accepts x y) ∧
      ((∃ height, self.heightAtPosition x y = some (some height)) ↔ self.Accepts x y)) ↔
      (self.Accepts x y →
        y < self.maxSize ∧ (x < self.maxSize ∨ y < ((self.size : ℚ) - 2) * self.tileSize)) := by
  by_cases hplace : self.Accepts x y
  · have hanswer : self.heightAtPosition x y ≠ some none := by
      intro hnone
      obtain ⟨_, _, _, _, _, _, _, _, ⟨⟩⟩ := (heightAtPosition_of_accepts hplace).1 hnone
    simp only [hanswer, hplace, exists_height_iff h hplace, corner_add_two_lt_iff h hplace.2.1,
      corner_lt_size_iff h hplace.1.1, corner_lt_size_iff h hplace.2.1, not_true_eq_false,
      iff_true, true_and, true_imp_iff, iff_self]
  · have hnone := heightAtPosition_of_not_accepts hplace
    simp [hnone, hplace]

theorem accepted_place_of_smallMap_has_height :
    ((smallMap.heightAtPosition 1 0 = some none ↔ ¬ smallMap.Accepts 1 0) ∧
      ((∃ height, smallMap.heightAtPosition 1 0 = some (some height)) ↔ smallMap.Accepts 1 0)) ↔
      (smallMap.Accepts 1 0 → (0 : ℚ) < smallMap.maxSize ∧
        ((1 : ℚ) < smallMap.maxSize ∨ 0 < ((smallMap.size : ℚ) - 2) * smallMap.tileSize)) :=
  accepted_place_has_height_iff smallMap isGrid_smallMap 1 0

/-- The lower right corner is accepted. -/
theorem border_panics :
    ¬ ∀ self : Heightmap, self.IsGrid → ∀ x y : ℚ,
      (self.heightAtPosition x y = some none ↔ ¬ self.Accepts x y) ∧
        ((∃ height, self.heightAtPosition x y = some (some height)) ↔ self.Accepts x y) := by
  intro h
  have hplace : smallMap.Accepts 2 2 := by norm_num [Accepts, maxSize, smallMap]
  have hheight := (h smallMap isGrid_smallMap 2 2).2.2 hplace
  rw [exists_height_iff isGrid_smallMap hplace, corner_lt_size_iff isGrid_smallMap (by norm_num)] at hheight
  norm_num [maxSize, smallMap] at hheight

end Heightmap

end Skrillax.Navmesh

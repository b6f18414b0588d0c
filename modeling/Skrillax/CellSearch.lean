/-
**Searching the cells around a point.**

Things are kept by the cell of a grid that they are in.  A search that looks at a few cells only finds
everything that a search through all things would find, if nothing that is near is in another cell.

Main definitions:

* `CellSearch.search` — the things in some cells that are near.

Main results:

* `CellSearch.mem_search_iff` — **what a search finds**;
* `CellSearch.abs_floor_div_sub_le_one` — coordinates that differ by less than the size of a cell are in the
  same cell or in neighbouring ones;
* `CellSearch.abs_lt_of_add_sq_lt` — a coordinate differs by less than the distance.
-/

import Mathlib

set_option relaxedAutoImplicit false
set_option autoImplicit false

namespace CellSearch

/-! ### The search -/

section Search

variable {α κ : Type*} [DecidableEq κ]

/-- The things of a cell. -/
def cell (key : α → κ) (items : List α) (k : κ) : List α := items.filter fun a => decide (key a = k)

/-- The things in some cells that are near. -/
def search (key : α → κ) (items : List α) (cells : List κ) (near : α → Bool) : List α :=
  (cells.flatMap (cell key items)).filter near

theorem mem_cell {key : α → κ} {items : List α} {k : κ} {a : α} :
    a ∈ cell key items k ↔ a ∈ items ∧ key a = k := by
  rw [cell, List.mem_filter, decide_eq_true_iff]

/-- **What a search finds**: all that is near, if the cells are enough. -/
theorem mem_search_iff {key : α → κ} {items : List α} {cells : List κ} {near : α → Bool}
    (h : ∀ a ∈ items, near a = true → key a ∈ cells) {a : α} :
    a ∈ search key items cells near ↔ a ∈ items ∧ near a = true := by
  rw [search, List.mem_filter, List.mem_flatMap]
  constructor
  · rintro ⟨⟨k, -, hcell⟩, hnear⟩
    exact ⟨(mem_cell.1 hcell).1, hnear⟩
  · rintro ⟨hmem, hnear⟩
    exact ⟨⟨key a, h a hmem hnear, mem_cell.2 ⟨hmem, rfl⟩⟩, hnear⟩

end Search

/-! ### Cells of equal size -/

section Cells

variable {K : Type*} [Field K] [LinearOrder K] [IsStrictOrderedRing K]

/-- Coordinates that differ by less than the size of a cell are in the same cell or in neighbouring ones. -/
theorem abs_floor_div_sub_le_one [FloorRing K] {size a b : K} (hsize : 0 < size) (h : |a - b| < size) :
    |⌊a / size⌋ - ⌊b / size⌋| ≤ 1 := by
  have hdiv : |a / size - b / size| < 1 := by
    rw [← sub_div, abs_div, abs_of_pos hsize, div_lt_one hsize]
    exact h
  obtain ⟨hlower, hupper⟩ := abs_lt.1 hdiv
  have ha := Int.floor_le (a / size)
  have ha' := Int.lt_floor_add_one (a / size)
  have hb := Int.floor_le (b / size)
  have hb' := Int.lt_floor_add_one (b / size)
  have hleft : ((⌊b / size⌋ : ℤ) : K) < (⌊a / size⌋ + 2 : ℤ) := by
    push_cast
    linarith
  have hright : ((⌊a / size⌋ : ℤ) : K) < (⌊b / size⌋ + 2 : ℤ) := by
    push_cast
    linarith
  rw [Int.cast_lt] at hleft hright
  rw [abs_le]
  omega

/-- A coordinate differs by less than the distance. -/
theorem abs_lt_of_add_sq_lt {dx dz radius size : K} (h : dx ^ 2 + dz ^ 2 < radius ^ 2)
    (hradius : |radius| ≤ size) : |dx| < size := by
  have hsq : dx ^ 2 < radius ^ 2 := by
    have hdz := sq_nonneg dz
    linarith
  exact (sq_lt_sq.1 hsq).trans_le hradius

end Cells

end CellSearch

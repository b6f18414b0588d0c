/-
**Searching a range in slices.**

A range of numbers is cut into slices of the same width, every slice is searched from its top for a number
that passes a test, and what is found is collected.  The test may fail, and then so does the search.  If it
does not, something is found exactly if a number in one of the slices passes; what the width leaves of the
range is not searched.

Main definitions:

* `SlicedSearch.findDown` — searching a slice from its top;
* `SlicedSearch.collect`, `SlicedSearch.findSlices` — searching all slices.

Main results:

* `SlicedSearch.findDown_spec` — one slice;
* `SlicedSearch.findSlices_spec` — **what is found passes, and something is found if anything in the slices
  passes**;
* `SlicedSearch.findSlices_isSome` — the search returns if the test does.
-/

import Mathlib.Data.List.Basic

set_option relaxedAutoImplicit false
set_option autoImplicit false

namespace SlicedSearch

variable (test : ℕ → Option Bool)

/-- The greatest of `n` numbers from `start` on that passes. -/
def findDown (start : ℕ) : ℕ → Option (Option ℕ)
  | 0 => some none
  | n + 1 => (test (start + n)).bind fun passes =>
      if passes then some (some (start + n)) else findDown start n

/-- What was found, unless a search failed. -/
def collect : List (Option (Option ℕ)) → Option (List ℕ)
  | [] => some []
  | none :: _ => none
  | some found :: rest => (collect rest).map (found.toList ++ ·)

/-- The slices from zero on. -/
def findSlices (width count : ℕ) : Option (List ℕ) :=
  collect ((List.range count).map fun slice => findDown test (slice * width) width)

/-! ### One slice -/

variable {test}

/-- What is found is in the slice and passes; if nothing is found, nothing passes. -/
theorem findDown_spec {start n : ℕ} {found : Option ℕ} (h : findDown test start n = some found) :
    (∀ m ∈ found, start ≤ m ∧ m < start + n ∧ test m = some true) ∧
      (found = none → ∀ m, start ≤ m → m < start + n → test m = some false) := by
  induction n with
  | zero =>
      obtain rfl := Option.some_inj.1 h
      refine ⟨fun m hm => (by cases hm), fun _ m hle hlt => ?_⟩
      omega
  | succ n ih =>
      obtain ⟨passes, hpasses, h⟩ := Option.bind_eq_some_iff.1 h
      cases passes with
      | true =>
          obtain rfl := Option.some_inj.1 h
          refine ⟨?_, fun hnone => by cases hnone⟩
          rintro _ ⟨⟩
          exact ⟨by omega, by omega, hpasses⟩
      | false =>
          obtain ⟨hfound, hnone⟩ := ih h
          refine ⟨fun m hm => ?_, fun hnil m hle hlt => ?_⟩
          · obtain ⟨hle, hlt, hm⟩ := hfound m hm
            exact ⟨hle, by omega, hm⟩
          · by_cases htop : m = start + n
            · exact htop ▸ hpasses
            · exact hnone hnil m hle (by omega)

theorem findDown_isSome {start n : ℕ} (h : ∀ m, start ≤ m → m < start + n → (test m).isSome = true) :
    (findDown test start n).isSome = true := by
  induction n with
  | zero => rfl
  | succ n ih =>
      obtain ⟨passes, hpasses⟩ := Option.isSome_iff_exists.1 (h (start + n) (by omega) (by omega))
      rw [findDown, hpasses, Option.bind_some]
      split
      · rfl
      · exact ih fun m hle hlt => h m hle (by omega)

/-! ### All slices -/

theorem collect_eq_some {searches : List (Option (Option ℕ))} {results : List ℕ}
    (h : collect searches = some results) :
    (∀ search ∈ searches, search ≠ none) ∧ ∀ m, m ∈ results ↔ some (some m) ∈ searches := by
  induction searches generalizing results with
  | nil =>
      obtain rfl := Option.some_inj.1 h
      simp
  | cons search searches ih =>
      cases search with
      | none => cases h
      | some found =>
          obtain ⟨rest, hrest, rfl⟩ := Option.map_eq_some_iff.1 h
          obtain ⟨hdefined, hmem⟩ := ih hrest
          refine ⟨by simpa using hdefined, fun m => ?_⟩
          rw [List.mem_append, hmem, List.mem_cons, Option.some_inj, Option.mem_toList, eq_comm (a := found)]

theorem collect_isSome {searches : List (Option (Option ℕ))} (h : ∀ search ∈ searches, search.isSome = true) :
    (collect searches).isSome = true := by
  induction searches with
  | nil => rfl
  | cons search searches ih =>
      obtain ⟨found, rfl⟩ := Option.isSome_iff_exists.1 (h search List.mem_cons_self)
      rw [collect, Option.isSome_map]
      exact ih fun search hsearch => h search (List.mem_cons_of_mem _ hsearch)

theorem lt_of_mem_slice {width count slice m : ℕ} (hslice : slice < count) (hlt : m < slice * width + width) :
    m < count * width := by
  have hle : (slice + 1) * width ≤ count * width := Nat.mul_le_mul_right width hslice
  rw [Nat.succ_mul] at hle
  omega

/-- A number below the end of the last slice is in one of them. -/
theorem exists_slice {width count m : ℕ} (h : m < count * width) :
    ∃ slice < count, slice * width ≤ m ∧ m < slice * width + width := by
  have hwidth : 0 < width := Nat.pos_of_ne_zero fun hzero => by simp [hzero] at h
  refine ⟨m / width, Nat.div_lt_of_lt_mul (Nat.mul_comm count width ▸ h), Nat.div_mul_le_self m width, ?_⟩
  exact Nat.lt_div_mul_add hwidth

/-- **What is found passes, and something is found exactly if anything in the slices passes.** -/
theorem findSlices_spec {width count : ℕ} {results : List ℕ} (h : findSlices test width count = some results) :
    (∀ m ∈ results, m < count * width ∧ test m = some true) ∧
      (results ≠ [] ↔ ∃ m < count * width, test m = some true) := by
  obtain ⟨hdefined, hmem⟩ := collect_eq_some h
  have hpasses : ∀ m ∈ results, m < count * width ∧ test m = some true := by
    intro m hm
    obtain ⟨slice, hslice, hfound⟩ := List.mem_map.1 ((hmem m).1 hm)
    obtain ⟨-, hlt, htest⟩ := (findDown_spec hfound).1 m rfl
    exact ⟨lt_of_mem_slice (List.mem_range.1 hslice) hlt, htest⟩
  refine ⟨hpasses, fun hne => ?_, ?_⟩
  · obtain ⟨m, hm⟩ := List.exists_mem_of_ne_nil _ hne
    exact ⟨m, hpasses m hm⟩
  · rintro ⟨m, hlt, htest⟩
    obtain ⟨slice, hslice, hle, hlt⟩ := exists_slice hlt
    have hsearch := List.mem_map_of_mem (f := fun slice => findDown test (slice * width) width)
      (List.mem_range.2 hslice)
    obtain ⟨found, hfound⟩ := Option.ne_none_iff_exists'.1 (hdefined _ hsearch)
    cases found with
    | none =>
        have hfails := (findDown_spec hfound).2 rfl m hle hlt
        rw [htest] at hfails
        cases hfails
    | some n =>
        rw [hfound] at hsearch
        exact List.ne_nil_of_mem ((hmem n).2 hsearch)

theorem findSlices_isSome {width count : ℕ} (h : ∀ m < count * width, (test m).isSome = true) :
    (findSlices test width count).isSome = true := by
  refine collect_isSome fun search hsearch => ?_
  obtain ⟨slice, hslice, rfl⟩ := List.mem_map.1 hsearch
  exact findDown_isSome fun m _ hlt => h m (lt_of_mem_slice (List.mem_range.1 hslice) hlt)

end SlicedSearch

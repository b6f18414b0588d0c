/-
**A count that catches up with a number by one at a time.**

A number grows, by any amount at a time.  A count follows it, and is increased by one at most each time the
number has grown.  So the count falls behind if the number grows faster, and it is even with it again as soon
as there have been enough steps.

Main definitions:

* `CatchUp.count` — the count.

Main results:

* `CatchUp.exists_count_eq`, `CatchUp.count_le_add` — where the count is;
* `CatchUp.count_iff` — what holds of the count, if it holds of every larger one too;
* `CatchUp.count_eq_iff` — when the count is even with the number.
-/

import Mathlib

set_option relaxedAutoImplicit false
set_option autoImplicit false

namespace CatchUp

variable {r : ℕ → ℕ}

/-- The count after the given number of steps, where `r k` is the number that is followed. -/
def count (r : ℕ → ℕ) : ℕ → ℕ
  | 0 => r 0
  | k + 1 => min (count r k + 1) (r (k + 1))

theorem count_le (r : ℕ → ℕ) (k : ℕ) : count r k ≤ r k := by
  cases k with
  | zero => exact le_refl _
  | succ k => exact min_le_right _ _

/-- The count has been going on by one since it was even for the last time. -/
theorem exists_count_eq (r : ℕ → ℕ) (k : ℕ) : ∃ j ≤ k, count r k = r j + (k - j) := by
  induction k with
  | zero => exact ⟨0, le_refl _, rfl⟩
  | succ k ih =>
      obtain ⟨j, hj, hcount⟩ := ih
      obtain hle | hle := le_total (count r k + 1) (r (k + 1))
      · refine ⟨j, Nat.le_succ_of_le hj, ?_⟩
        rw [count, min_eq_left hle, hcount]
        omega
      · refine ⟨k + 1, le_refl _, ?_⟩
        rw [count, min_eq_right hle]
        omega

theorem count_le_add {j k : ℕ} (hj : j ≤ k) : count r k ≤ r j + (k - j) := by
  induction k, hj using Nat.le_induction with
  | base => exact (count_le r j).trans (Nat.le_add_right _ _)
  | succ k hj ih =>
      have hstep : count r (k + 1) ≤ count r k + 1 := min_le_left _ _
      omega

theorem count_iff {P : ℕ → Prop} (hP : ∀ a b, a ≤ b → P a → P b) {k : ℕ} :
    P (count r k) ↔ ∀ j ≤ k, P (r j + (k - j)) := by
  constructor
  · intro h j hj
    exact hP _ _ (count_le_add hj) h
  · intro h
    obtain ⟨j, hj, hcount⟩ := exists_count_eq r k
    rw [hcount]
    exact h j hj

/-- From any step on the number has not grown by more than there are steps. -/
theorem count_eq_iff {k : ℕ} : count r k = r k ↔ ∀ j ≤ k, r k ≤ r j + (k - j) := by
  rw [← count_iff fun a b hab hle => hle.trans hab]
  exact ⟨fun h => h.ge, fun h => le_antisymm (count_le r k) h⟩

end CatchUp

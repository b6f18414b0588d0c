/-
**The element at which a running sum reaches a bound.**

A list is read from left to right, and the weights of its elements are added up.  The sum reaches a positive
bound at one element at most, and at one exactly if the sum of the whole list does.

Main definitions:

* `RunningSum.total` — the sum of the weights;
* `RunningSum.reaching` — the element at which the sum reaches the bound;
* `RunningSum.upTo` — the list up to this element, or all of it.

Main results:

* `RunningSum.reaching_of_lt`, `RunningSum.upTo_of_lt` — a list that does not reach the bound;
* `RunningSum.reaching_of_split`, `RunningSum.upTo_of_split`, `RunningSum.exists_split` — **the bound is
  reached at the element before which the sum is below it and after which it is not**.
-/

import Mathlib

set_option relaxedAutoImplicit false
set_option autoImplicit false

namespace RunningSum

variable {α : Type*} (f : α → ℕ)

def total (xs : List α) : ℕ := (xs.map f).sum

@[simp] theorem total_nil : total f [] = 0 := rfl

@[simp] theorem total_cons (x : α) (xs : List α) : total f (x :: xs) = f x + total f xs := rfl

@[simp] theorem total_append (xs ys : List α) : total f (xs ++ ys) = total f xs + total f ys := by
  unfold total
  rw [List.map_append, List.sum_append]

/-- The element at which the sum reaches the bound. -/
def reaching : ℕ → List α → Option α
  | _, [] => none
  | bound, x :: xs => if bound ≤ f x then some x else reaching (bound - f x) xs

/-- Up to the element at which the sum reaches the bound, and all of the list if there is none. -/
def upTo : ℕ → List α → List α
  | _, [] => []
  | bound, x :: xs => if bound ≤ f x then [x] else x :: upTo (bound - f x) xs

variable {f} {bound : ℕ} {x : α} {xs pre post : List α}

theorem reaching_cons_of_le (h : bound ≤ f x) : reaching f bound (x :: xs) = some x := if_pos h

theorem upTo_cons_of_le (h : bound ≤ f x) : upTo f bound (x :: xs) = [x] := if_pos h

theorem reaching_cons_of_lt (h : f x < bound) :
    reaching f bound (x :: xs) = reaching f (bound - f x) xs := if_neg (Nat.not_le.2 h)

theorem upTo_cons_of_lt (h : f x < bound) : upTo f bound (x :: xs) = x :: upTo f (bound - f x) xs :=
  if_neg (Nat.not_le.2 h)

theorem reaching_of_lt (h : total f xs < bound) : reaching f bound xs = none := by
  induction xs generalizing bound with
  | nil => rfl
  | cons x xs ih =>
      rw [total_cons] at h
      rw [reaching_cons_of_lt (by omega), ih (by omega)]

theorem upTo_of_lt (h : total f xs < bound) : upTo f bound xs = xs := by
  induction xs generalizing bound with
  | nil => rfl
  | cons x xs ih =>
      rw [total_cons] at h
      rw [upTo_cons_of_lt (by omega), ih (by omega)]

theorem reaching_of_split (hbefore : total f pre < bound) (hafter : bound ≤ total f pre + f x) :
    reaching f bound (pre ++ x :: post) = some x := by
  induction pre generalizing bound with
  | nil => exact reaching_cons_of_le (by simpa using hafter)
  | cons y pre ih =>
      rw [total_cons] at hbefore hafter
      rw [List.cons_append, reaching_cons_of_lt (by omega), ih (by omega) (by omega)]

theorem upTo_of_split (hbefore : total f pre < bound) (hafter : bound ≤ total f pre + f x) :
    upTo f bound (pre ++ x :: post) = pre ++ [x] := by
  induction pre generalizing bound with
  | nil => exact upTo_cons_of_le (by simpa using hafter)
  | cons y pre ih =>
      rw [total_cons] at hbefore hafter
      rw [List.cons_append, upTo_cons_of_lt (by omega), ih (by omega) (by omega)]
      rfl

/-- A list that reaches a positive bound does so at one of its elements. -/
theorem exists_split (hpos : 0 < bound) (h : bound ≤ total f xs) :
    ∃ pre x post, xs = pre ++ x :: post ∧ total f pre < bound ∧ bound ≤ total f pre + f x := by
  induction xs generalizing bound with
  | nil => exact absurd h (Nat.not_le.2 hpos)
  | cons y xs ih =>
      by_cases hy : bound ≤ f y
      · exact ⟨[], y, xs, rfl, hpos, by simpa using hy⟩
      · rw [total_cons] at h
        have hrest : 0 < bound - f y := by omega
        obtain ⟨pre, x, post, rfl, hbefore, hafter⟩ := ih hrest (by omega)
        refine ⟨y :: pre, x, post, rfl, ?_, ?_⟩ <;> rw [total_cons] <;> omega

end RunningSum

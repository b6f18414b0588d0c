/-
**Adding up what is held.**

Two facts about totals.  In a store with finitely many keys, writing one key changes the total by the
new value and the old one.  And if some claimants reach for some goods, each for at most one, and every
good that is reached for is taken by exactly one of the claimants that reach for it, then what the
claimants take and what nobody reached for add up to all the goods: nothing is lost and nothing is
given away twice.

Main definitions:

* `Accounting.taken` — what a claimant takes of the good it reaches for.

Main results:

* `Accounting.sum_update` — the total of a store after a write;
* `Accounting.sum_taken` — **a fair allotment conserves the goods**.
-/

import Mathlib

set_option relaxedAutoImplicit false
set_option autoImplicit false

namespace Accounting

/-! ### Stores -/

/-- Writing one key of a store changes the total by the new value and the old one. -/
theorem sum_update {K V : Type*} [Fintype K] [DecidableEq K] (f : V → ℕ) (s : K → V) (k : K)
    (v : V) : (∑ i, f (Function.update s k v i)) + f (s k) = (∑ i, f (s i)) + f v := by
  have hrest : ∑ i ∈ Finset.univ.erase k, f (Function.update s k v i) =
      ∑ i ∈ Finset.univ.erase k, f (s i) := by
    refine Finset.sum_congr rfl fun i hi => ?_
    rw [Function.update_of_ne (Finset.ne_of_mem_erase hi)]
  rw [← Finset.add_sum_erase _ _ (Finset.mem_univ k), hrest, Function.update_self,
    ← Finset.add_sum_erase _ (fun i => f (s i)) (Finset.mem_univ k)]
  omega

/-! ### Allotments -/

section Allotment

variable {A G : Type*}

/-- Adding up by rows or by columns. -/
theorem sum_sum_comm (xs : List A) (gs : List G) (f : A → G → ℕ) :
    (xs.map fun x => (gs.map (f x)).sum).sum = (gs.map fun g => (xs.map fun x => f x g).sum).sum := by
  induction xs with
  | nil => simp
  | cons x xs ih =>
      simp only [List.map_cons, List.sum_cons, ih]
      rw [List.sum_map_add]

/-- A constant is added once for every element that is counted. -/
theorem sum_map_ite (xs : List A) (q : A → Bool) (n : ℕ) :
    (xs.map fun x => if q x then n else 0).sum = xs.countP q * n := by
  induction xs with
  | nil => simp
  | cons x xs ih =>
      rw [List.map_cons, List.sum_cons, ih, List.countP_cons]
      by_cases hq : q x = true
      · simp only [hq, if_true]
        rw [Nat.add_mul, Nat.one_mul, Nat.add_comm]
      · simp [hq]

/-- The sum over the goods that a claimant reaches for, if that is at most one. -/
theorem sum_map_find {q : G → Bool} {f : G → ℕ} :
    ∀ {gs : List G}, gs.Nodup → (∀ g ∈ gs, ∀ g' ∈ gs, q g → q g' → g = g') →
      (gs.map fun g => if q g then f g else 0).sum = ((gs.find? q).map f).getD 0 := by
  intro gs
  induction gs with
  | nil => exact fun _ _ => rfl
  | cons g gs ih =>
      intro hnodup hone
      obtain ⟨hnotin, hrest⟩ := List.nodup_cons.1 hnodup
      by_cases hq : q g = true
      · -- nothing else is reached for
        have hzero : (gs.map fun g' => if q g' then f g' else 0).sum = 0 := by
          refine List.sum_eq_zero fun n hn => ?_
          obtain ⟨g', hg', rfl⟩ := List.mem_map.1 hn
          have hq' : ¬q g' = true := fun hq' => hnotin
            (hone g List.mem_cons_self g' (List.mem_cons_of_mem _ hg') hq hq' ▸ hg')
          simp [hq']
        rw [List.map_cons, List.sum_cons, hzero, List.find?_cons_of_pos hq]
        simp [hq]
      · rw [List.map_cons, List.sum_cons, List.find?_cons_of_neg hq,
          ih hrest fun a ha b hb => hone a (List.mem_cons_of_mem _ ha) b (List.mem_cons_of_mem _ hb)]
        simp [hq]

/-- Splitting a total by a test. -/
theorem sum_map_filter (gs : List G) (q : G → Bool) (f : G → ℕ) :
    (gs.map fun g => if q g then f g else 0).sum + ((gs.filter fun g => !q g).map f).sum =
      (gs.map f).sum := by
  induction gs with
  | nil => rfl
  | cons g gs ih =>
      rw [List.map_cons, List.map_cons, List.sum_cons, List.sum_cons, ← ih]
      by_cases hq : q g = true
      · rw [List.filter_cons_of_neg (by simp [hq])]
        simp only [hq, if_true]
        omega
      · rw [List.filter_cons_of_pos (by simp [hq]), List.map_cons, List.sum_cons]
        simp only [hq, Bool.false_eq_true, if_false]
        omega

/-- What a claimant takes: the worth of the good that it reaches for, if it takes it. -/
def taken (reaches takes : A → G → Bool) (worth : G → ℕ) (gs : List G) (x : A) : ℕ :=
  ((gs.find? (reaches x)).map fun g => if takes x g then worth g else 0).getD 0

/-- **A fair allotment conserves the goods**: if every claimant reaches for at most one good, and every
good that is reached for is taken by exactly one of the claimants that reach for it, what is taken and
what is left add up to all the goods. -/
theorem sum_taken {xs : List A} {gs : List G} {reaches takes : A → G → Bool} (worth : G → ℕ)
    (hnodup : gs.Nodup)
    (hone : ∀ x ∈ xs, ∀ g ∈ gs, ∀ g' ∈ gs, reaches x g → reaches x g' → g = g')
    (hfair : ∀ g ∈ gs, (∃ x ∈ xs, reaches x g) →
      xs.countP (fun x => reaches x g && takes x g) = 1) :
    (xs.map (taken reaches takes worth gs)).sum +
      ((gs.filter fun g => !xs.any fun x => reaches x g).map worth).sum = (gs.map worth).sum := by
  -- what a claimant takes is a sum over all the goods
  have hrow : xs.map (taken reaches takes worth gs) = xs.map fun x =>
      (gs.map fun g => if reaches x g then (if takes x g then worth g else 0) else 0).sum := by
    refine List.map_congr_left fun x hx => ?_
    rw [sum_map_find hnodup (hone x hx)]
    rfl
  -- and what is taken of a good is its worth, or nothing
  have hcolumn : ∀ g ∈ gs,
      (xs.map fun x => if reaches x g then (if takes x g then worth g else 0) else 0).sum =
        if xs.any fun x => reaches x g then worth g else 0 := by
    intro g hg
    have hboth : (fun x => if reaches x g then (if takes x g then worth g else 0) else 0) =
        fun x => if reaches x g && takes x g then worth g else 0 := by
      funext x
      cases reaches x g <;> simp
    rw [hboth, sum_map_ite]
    by_cases hany : (xs.any fun x => reaches x g) = true
    · rw [if_pos hany, hfair g hg (List.any_eq_true.1 hany), Nat.one_mul]
    · have hcount : xs.countP (fun x => reaches x g && takes x g) = 0 := by
        refine List.countP_eq_zero.2 fun x hx hboth' => hany (List.any_eq_true.2 ⟨x, hx, ?_⟩)
        exact (Bool.and_eq_true _ _ ▸ hboth').1
      rw [if_neg hany, hcount, Nat.zero_mul]
  rw [hrow, sum_sum_comm, List.map_congr_left hcolumn]
  exact sum_map_filter gs _ worth

end Allotment

end Accounting

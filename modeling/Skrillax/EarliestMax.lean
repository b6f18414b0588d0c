/-
**The earliest of the highest.**

Of all members of a list with the highest key, the first one.  It is what a stable sort puts in front, if the
order is descending.

Main definitions:

* `EarliestMax.IsEarliestMax` — the members before are lower, and those behind are not higher.

Main results:

* `EarliestMax.isEarliestMax_cons_iff` — the earliest of the highest after one more member has been put in front;
* `EarliestMax.head_insertionSort_iff` — **it is the head of the sorted list**;
* `EarliestMax.IsEarliestMax.filter` — it stays what it is if those that are too low are taken out.
-/

import Mathlib

set_option relaxedAutoImplicit false
set_option autoImplicit false

namespace EarliestMax

variable {α β : Type*} [LinearOrder β] {key : α → β} {l : List α} {a x : α}

def IsEarliestMax (key : α → β) (l : List α) (a : α) : Prop :=
  ∃ before after, l = before ++ a :: after ∧ (∀ b ∈ before, key b < key a) ∧ ∀ b ∈ after, key b ≤ key a

theorem IsEarliestMax.mem (h : IsEarliestMax key l a) : a ∈ l := by
  obtain ⟨before, after, rfl, -, -⟩ := h
  exact List.mem_append_right _ List.mem_cons_self

theorem IsEarliestMax.le (h : IsEarliestMax key l a) : ∀ b ∈ l, key b ≤ key a := by
  obtain ⟨before, after, rfl, hbefore, hafter⟩ := h
  intro b hb
  obtain hb | hb := List.mem_append.1 hb
  · exact (hbefore b hb).le
  · obtain rfl | hb := List.mem_cons.1 hb
    · exact le_refl _
    · exact hafter b hb

/-- A member that is put in front is the earliest of the highest if no other one is higher. -/
theorem isEarliestMax_cons_iff :
    IsEarliestMax key (x :: l) a ↔ a = x ∧ (∀ b ∈ l, key b ≤ key x) ∨ key x < key a ∧ IsEarliestMax key l a := by
  constructor
  · rintro ⟨before, after, heq, hbefore, hafter⟩
    cases before with
    | nil =>
        cases heq
        exact Or.inl ⟨rfl, hafter⟩
    | cons y before =>
        cases heq
        obtain ⟨hx, hbefore⟩ := List.forall_mem_cons.1 hbefore
        exact Or.inr ⟨hx, before, after, rfl, hbefore, hafter⟩
  · rintro (⟨rfl, hafter⟩ | ⟨hx, before, after, rfl, hbefore, hafter⟩)
    · exact ⟨[], l, rfl, List.forall_mem_nil _, hafter⟩
    · exact ⟨x :: before, after, rfl, List.forall_mem_cons.2 ⟨hx, hbefore⟩, hafter⟩

/-- The stable sort in the descending order of the keys. -/
theorem head_insertionSort_iff :
    (l.insertionSort fun a b => key b ≤ key a).head? = some a ↔ IsEarliestMax key l a := by
  induction l generalizing a with
  | nil =>
      constructor
      · rintro ⟨⟩
      · intro h
        cases h.mem
  | cons x l ih =>
      rw [List.insertionSort_cons, isEarliestMax_cons_iff]
      cases hsorted : l.insertionSort fun a b => key b ≤ key a with
      | nil =>
          have hnil : l = [] := by
            rw [← List.length_eq_zero_iff, ← List.length_insertionSort (fun a b => key b ≤ key a), hsorted,
              List.length_nil]
          subst hnil
          rw [List.orderedInsert_nil, List.head?_cons, Option.some.injEq]
          constructor
          · rintro rfl
            exact Or.inl ⟨rfl, List.forall_mem_nil _⟩
          · rintro (⟨rfl, -⟩ | ⟨-, h⟩)
            · rfl
            · cases h.mem
      | cons y ys =>
          have hhead (a : α) : y = a ↔ IsEarliestMax key l a := by
            rw [← ih, hsorted, List.head?_cons, Option.some.injEq]
          have hy : IsEarliestMax key l y := (hhead y).1 rfl
          rw [List.orderedInsert_cons]
          split
          · rename_i hle
            -- the new member is not lower than the highest one
            rw [List.head?_cons, Option.some.injEq]
            constructor
            · rintro rfl
              exact Or.inl ⟨rfl, fun b hb => (hy.le b hb).trans hle⟩
            · rintro (⟨rfl, -⟩ | ⟨hlt, h⟩)
              · rfl
              · exact absurd ((hy.le a h.mem).trans hle) hlt.not_ge
          · rename_i hle
            rw [List.head?_cons, Option.some.injEq, hhead]
            constructor
            · intro h
              obtain rfl := (hhead a).2 h
              exact Or.inr ⟨not_le.1 hle, h⟩
            · rintro (⟨rfl, hmax⟩ | ⟨-, h⟩)
              · exact absurd (hmax y hy.mem) hle
              · exact h

theorem exists_isEarliestMax_iff : (∃ a, IsEarliestMax key l a) ↔ l ≠ [] := by
  constructor
  · rintro ⟨a, h⟩
    exact List.ne_nil_of_mem h.mem
  · intro hne
    have hsorted : l.insertionSort (fun a b => key b ≤ key a) ≠ [] := by
      rw [ne_eq, ← List.length_eq_zero_iff, List.length_insertionSort, List.length_eq_zero_iff]
      exact hne
    exact ⟨_, head_insertionSort_iff.1 (List.head?_eq_some_head hsorted)⟩

theorem IsEarliestMax.filter (h : IsEarliestMax key l a) {P : α → Bool} (ha : P a = true) :
    IsEarliestMax key (l.filter P) a := by
  obtain ⟨before, after, rfl, hbefore, hafter⟩ := h
  refine ⟨before.filter P, after.filter P, ?_, ?_, ?_⟩
  · rw [List.filter_append, List.filter_cons_of_pos ha]
  · intro b hb
    exact hbefore b (List.mem_of_mem_filter hb)
  · intro b hb
    exact hafter b (List.mem_of_mem_filter hb)

end EarliestMax

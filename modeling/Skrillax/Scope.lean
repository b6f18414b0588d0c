/-
**Scopes with shadowing.**

The variables in scope, the last declared first.  A declaration shadows the earlier ones of its name, a
variable can be changed in place, and the end of a block drops what has been declared in it.

Main definitions:

* `Scope` — names with what they stand for;
* `Scope.update` — changing the variable that a name stands for;
* `Scope.leave` — the end of a block.

Main results:

* `Scope.lookup_append_of_notMem`, `Scope.update_append_of_notMem` — what is declared later under other
  names is not in the way;
* `Scope.leave_append` — the end of a block drops what has been declared in it.
-/

import Mathlib

set_option relaxedAutoImplicit false
set_option autoImplicit false

/-- The variables in scope, the last declared first. -/
abbrev Scope (κ α : Type) := List (κ × α)

namespace Scope

variable {κ α : Type}

def names (s : Scope κ α) : List κ := s.map Prod.fst

@[simp] theorem names_nil : names ([] : Scope κ α) = [] := rfl

@[simp] theorem names_cons (x : κ) (a : α) (s : Scope κ α) : names ((x, a) :: s) = x :: names s := rfl

@[simp] theorem names_append (s t : Scope κ α) : names (s ++ t) = names s ++ names t := List.map_append

/-- What is left of the inner scope when a block that has been entered with the outer one is left. -/
def leave (outer inner : Scope κ α) : Scope κ α := inner.drop (inner.length - outer.length)

/-- The end of a block drops what has been declared in it. -/
theorem leave_append {outer kept : Scope κ α} (h : kept.length = outer.length) (new : Scope κ α) :
    leave outer (new ++ kept) = kept := by
  rw [leave, List.length_append, h, Nat.add_sub_cancel, List.drop_left]

variable [DecidableEq κ]

/-- Changes the variable that the name stands for. -/
def update (s : Scope κ α) (x : κ) (f : α → α) : Scope κ α :=
  match s with
  | [] => []
  | (y, a) :: s => if x = y then (y, f a) :: s else (y, a) :: update s x f

theorem lookup_eq_none {s : Scope κ α} {x : κ} : s.lookup x = none ↔ x ∉ names s := by
  rw [List.lookup_eq_none_iff, names, List.mem_map]
  constructor
  · rintro h ⟨e, he, rfl⟩
    simpa using h e he
  · intro h e he
    have hne : x ≠ e.1 := fun heq => h ⟨e, he, heq.symm⟩
    simpa using hne

theorem lookup_cons_of_ne {x y : κ} (h : x ≠ y) (a : α) (s : Scope κ α) :
    ((y, a) :: s).lookup x = s.lookup x := by
  rw [List.lookup_cons, beq_false_of_ne h]

/-- What is declared later under other names is not in the way. -/
theorem lookup_append_of_notMem {s : Scope κ α} {x : κ} (h : x ∉ names s) (t : Scope κ α) :
    (s ++ t).lookup x = t.lookup x := by
  rw [List.lookup_append, lookup_eq_none.2 h, Option.none_or]

/-- What is declared later under the same name is what counts. -/
theorem lookup_append_of_mem {s : Scope κ α} {x : κ} (h : x ∈ names s) (t : Scope κ α) :
    (s ++ t).lookup x = s.lookup x := by
  rw [List.lookup_append]
  cases hs : s.lookup x with
  | none => exact absurd h (lookup_eq_none.1 hs)
  | some a => rfl

/-- Where no name is declared twice, every declaration counts. -/
theorem lookup_of_mem {s : Scope κ α} (h : s.names.Nodup) {x : κ} {a : α} (hmem : (x, a) ∈ s) :
    s.lookup x = some a := by
  induction s with
  | nil => simp at hmem
  | cons e s ih =>
      obtain ⟨y, b⟩ := e
      obtain ⟨hy, hs⟩ := List.nodup_cons.1 h
      rcases List.mem_cons.1 hmem with heq | hmem
      · obtain ⟨rfl, rfl⟩ := Prod.mk.inj heq
        simp
      · have hne : x ≠ y := fun heq => hy (List.mem_map.2 ⟨(x, a), hmem, heq⟩)
        rw [lookup_cons_of_ne hne, ih hs hmem]

@[simp] theorem update_cons_self (x : κ) (a : α) (s : Scope κ α) (f : α → α) :
    update ((x, a) :: s) x f = (x, f a) :: s := by
  simp [update]

theorem update_cons_of_ne {x y : κ} (h : x ≠ y) (a : α) (s : Scope κ α) (f : α → α) :
    update ((y, a) :: s) x f = (y, a) :: update s x f := by
  simp [update, h]

theorem update_append_of_notMem {s : Scope κ α} {x : κ} (h : x ∉ names s) (t : Scope κ α) (f : α → α) :
    update (s ++ t) x f = s ++ update t x f := by
  induction s with
  | nil => rfl
  | cons e s ih =>
      obtain ⟨y, a⟩ := e
      obtain ⟨hy, hs⟩ : x ≠ y ∧ x ∉ names s := by simpa using h
      rw [List.cons_append, update_cons_of_ne hy, ih hs, List.cons_append]

/-- A block that changes an outer variable, which is not hidden by what is declared in the block. -/
theorem leave_update {new : Scope κ α} {x : κ} (h : x ∉ names new) (a : α) (s : Scope κ α) (f : α → α) :
    leave ((x, a) :: s) (update (new ++ (x, a) :: s) x f) = (x, f a) :: s := by
  rw [update_append_of_notMem h, update_cons_self]
  exact leave_append rfl new

end Scope

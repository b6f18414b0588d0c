/-
**Climbing a ladder whose rungs have a price.**

Whoever has enough for the next rung pays its price and climbs it, again and again, until the rest is not
enough or there is no next rung.  Where this ends does not depend on how the money comes in: all that is
received on the way may as well be there from the beginning.

Main definitions:

* `Ladder.Step`, `Ladder.Climbs`, `Ladder.Settled` — one rung, any number of them, and the end;
* `Ladder.cost` — the prices of some rungs together.

Main results:

* `Ladder.Climbs.add` — whoever has more can climb as far;
* `Ladder.Climbs.unique`, `Ladder.settles_or_climbs` — there is one end at most, and how far it is;
* `Ladder.climbs_iff` — **what can be climbed is what can be paid**.
-/

import Mathlib

set_option relaxedAutoImplicit false
set_option autoImplicit false

namespace Ladder

variable {M : Type*} [AddCancelCommMonoid M] {price : ℕ → Option M}

/-! ### Climbing -/

/-- The price of the next rung is paid. -/
inductive Step (price : ℕ → Option M) : ℕ × M → ℕ × M → Prop
  | climb {rung : ℕ} {paid rest : M} (h : price rung = some paid) :
      Step price (rung, paid + rest) (rung + 1, rest)

/-- Any number of rungs. -/
def Climbs (price : ℕ → Option M) : ℕ × M → ℕ × M → Prop := Relation.ReflTransGen (Step price)

/-- No rung can be climbed. -/
def Settled (price : ℕ → Option M) (state : ℕ × M) : Prop := ∀ next, ¬ Step price state next

theorem Step.deterministic {s t u : ℕ × M} (ht : Step price s t) (hu : Step price s u) : t = u := by
  obtain ⟨hpaid⟩ := ht
  generalize hs : (_, _) = s at hu
  obtain ⟨hpaid'⟩ := hu
  obtain ⟨rfl, hsum⟩ := Prod.mk.inj hs
  obtain rfl := Option.some_inj.1 (hpaid.symm.trans hpaid')
  rw [add_left_cancel hsum]

theorem Step.rung_eq {s t : ℕ × M} (h : Step price s t) : t.1 = s.1 + 1 := by
  obtain ⟨-⟩ := h
  rfl

theorem Step.paid {s t : ℕ × M} (h : Step price s t) : ∃ paid, price s.1 = some paid ∧ s.2 = paid + t.2 := by
  obtain ⟨hpaid⟩ := h
  exact ⟨_, hpaid, rfl⟩

theorem Step.add {s t : ℕ × M} (h : Step price s t) (more : M) :
    Step price (s.1, s.2 + more) (t.1, t.2 + more) := by
  obtain ⟨hpaid⟩ := h
  rw [add_assoc]
  exact .climb hpaid

/-- Whoever has more can climb as far. -/
theorem Climbs.add {s t : ℕ × M} (h : Climbs price s t) (more : M) :
    Climbs price (s.1, s.2 + more) (t.1, t.2 + more) := by
  induction h with
  | refl => exact .refl
  | tail _ hstep ih => exact ih.tail (hstep.add more)

/-- Whoever has climbed some rungs gets to the same end. -/
theorem Climbs.continues {s t u : ℕ × M} (ht : Climbs price s t) (hu : Climbs price s u)
    (hsettled : Settled price u) : Climbs price t u := by
  induction ht with
  | refl => exact hu
  | tail _ hstep ih =>
      rcases Relation.ReflTransGen.cases_head ih with rfl | ⟨next, hnext, hrest⟩
      · exact absurd hstep (hsettled _)
      · rwa [hstep.deterministic hnext]

/-- There is one end at most. -/
theorem Climbs.unique {s t u : ℕ × M} (ht : Climbs price s t) (htsettled : Settled price t)
    (hu : Climbs price s u) (husettled : Settled price u) : t = u := by
  rcases Relation.ReflTransGen.cases_head (ht.continues hu husettled) with heq | ⟨next, hnext, -⟩
  · exact heq
  · exact absurd hnext (htsettled next)

/-- One gets to the end before so many rungs, or climbs all of them. -/
theorem settles_or_climbs (price : ℕ → Option M) (s : ℕ × M) (n : ℕ) :
    (∃ t, Climbs price s t ∧ Settled price t ∧ t.1 < s.1 + n) ∨ ∃ rest, Climbs price s (s.1 + n, rest) := by
  induction n with
  | zero => exact Or.inr ⟨s.2, .refl⟩
  | succ n ih =>
      rcases ih with ⟨t, ht, hsettled, hlt⟩ | ⟨rest, hrest⟩
      · exact Or.inl ⟨t, ht, hsettled, by omega⟩
      · by_cases hsettled : Settled price (s.1 + n, rest)
        · exact Or.inl ⟨_, hrest, hsettled, by omega⟩
        · obtain ⟨next, hnext⟩ := not_forall_not.1 hsettled
          obtain ⟨top, rest'⟩ := next
          obtain rfl : top = s.1 + n + 1 := hnext.rung_eq
          exact Or.inr ⟨rest', hrest.tail hnext⟩

/-! ### Paying -/

/-- The prices of the rungs from `rung` up to `top`. -/
def cost (price : ℕ → Option M) (rung top : ℕ) : M :=
  ∑ level ∈ Finset.Ico rung top, (price level).getD 0

theorem cost_self (rung : ℕ) : cost price rung rung = 0 := by
  rw [cost, Finset.Ico_self, Finset.sum_empty]

theorem cost_succ {rung top : ℕ} (h : rung ≤ top) :
    cost price rung (top + 1) = cost price rung top + (price top).getD 0 := by
  rw [cost, cost, Finset.sum_Ico_succ_top h]

theorem cost_add {rung middle top : ℕ} (h : rung ≤ middle) (h' : middle ≤ top) :
    cost price rung middle + cost price middle top = cost price rung top :=
  Finset.sum_Ico_consecutive _ h h'

/-- **What can be climbed is what can be paid.** -/
theorem climbs_iff {rung top : ℕ} {money rest : M} :
    Climbs price (rung, money) (top, rest) ↔
      rung ≤ top ∧ (∀ level, rung ≤ level → level < top → (price level).isSome = true) ∧
        money = rest + cost price rung top := by
  constructor
  · intro h
    generalize ht : (top, rest) = t at h
    induction h generalizing top rest with
    | refl =>
        obtain ⟨rfl, rfl⟩ := Prod.mk.inj ht
        exact ⟨le_rfl, fun level h h' => absurd h' (not_lt.2 h), by rw [cost_self, add_zero]⟩
    | tail _ hstep ih =>
        obtain ⟨hpaid⟩ := hstep
        obtain ⟨rfl, rfl⟩ := Prod.mk.inj ht
        obtain ⟨hle, hsome, hmoney⟩ := ih rfl
        refine ⟨Nat.le_succ_of_le hle, fun level hlower hupper => ?_, ?_⟩
        · rcases Nat.lt_succ_iff_lt_or_eq.1 hupper with hlt | rfl
          · exact hsome level hlower hlt
          · rw [hpaid]
            rfl
        · rw [cost_succ hle, hpaid, Option.getD_some, hmoney]
          abel
  · rintro ⟨hle, hsome, hmoney⟩
    induction top, hle using Nat.le_induction generalizing rest with
    | base =>
        rw [cost_self, add_zero] at hmoney
        rw [hmoney]
        exact .refl
    | succ top hle ih =>
        obtain ⟨paid, hpaid⟩ := Option.isSome_iff_exists.1 (hsome top hle (Nat.lt_succ_self top))
        rw [cost_succ hle, hpaid, Option.getD_some] at hmoney
        have hbelow : Climbs price (rung, money) (top, paid + rest) := ih
          (fun level hlower hupper => hsome level hlower (Nat.lt_succ_of_lt hupper))
          (by rw [hmoney]; abel)
        exact hbelow.tail (.climb hpaid)

theorem Climbs.le {s t : ℕ × M} (h : Climbs price s t) : s.1 ≤ t.1 := (climbs_iff.1 h).1

end Ladder

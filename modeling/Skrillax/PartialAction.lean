/-
**Lists of partial actions, and rearranging them.**

A command `c : C` acts on states by a partial function `act c : S → Option S`: it is undefined where
its precondition fails.  A list of commands is run from left to right and is undefined as soon as one
of its commands is.  Rewriting such a list is sound when the new list is defined wherever the old
one is and has the same result there; this module is the small calculus of that preorder which the
rewriting proofs of this development use.

Main definitions:

* `PartialAction.runAll` — running a list of commands;
* `PartialAction.attempt` — running a list of commands up to the first failure;
* `PartialAction.Refines` — the second list is defined wherever the first one is, with the same
  result;
* `PartialAction.Passes` — a command may be moved from either end of a list to the other;
* `PartialAction.AllSteps` — every step of a run meets a condition on the state before it;
* `PartialAction.Reached` — a property holds in every state a run goes through;
* `PartialAction.Attempted` — a property holds whenever a command is run, also of one that is undefined there.

Main results:

* `PartialAction.Refines.append` — the preorder is a congruence for concatenation;
* `PartialAction.passes_of_swaps` — a command that commutes with every element of a list passes the
  list;
* `PartialAction.Refines.of_perm` — commands that commute with each other may be run in any order;
* `PartialAction.Refines.merge_across`, `PartialAction.Refines.cancel_across` — two commands that
  can be merged (or cancelled) when they are adjacent can be merged (or cancelled) across a list that
  splits into a part the right one passes and a part the left one passes;
* `PartialAction.reached_of_step`, `PartialAction.history_of_step`, `PartialAction.reached_of_allSteps`,
  `PartialAction.reached_iff_allSteps`, `PartialAction.attempted_and_reached_iff` — **the invariant rule**:
  what a step preserves holds throughout every run; what it preserves under a condition holds throughout
  every run whose steps meet the condition, and only there if the condition is also necessary.
-/

import Mathlib

set_option relaxedAutoImplicit false
set_option autoImplicit false

namespace PartialAction

variable {C S : Type*} {act : C → S → Option S}

/-! ### Running a list -/

/-- Run a list of commands from left to right. -/
def runAll (act : C → S → Option S) : List C → S → Option S
  | [], s => some s
  | c :: cs, s => (act c s).bind (runAll act cs)

@[simp] theorem runAll_nil (s : S) : runAll act [] s = some s := rfl

@[simp] theorem runAll_cons (c : C) (cs : List C) (s : S) :
    runAll act (c :: cs) s = (act c s).bind (runAll act cs) := rfl

theorem runAll_append (xs ys : List C) (s : S) :
    runAll act (xs ++ ys) s = (runAll act xs s).bind (runAll act ys) := by
  induction xs generalizing s with
  | nil => rfl
  | cons x xs ih =>
      rw [List.cons_append, runAll_cons, runAll_cons, Option.bind_assoc]
      congr 1
      funext t
      exact ih t

@[simp] theorem runAll_singleton (c : C) (s : S) : runAll act [c] s = act c s := by
  rw [runAll_cons]
  cases act c s <;> rfl

/-- An action that is defined wherever another one is, with the same result there, goes through the same runs. -/
theorem runAll_of_imp {act' : C → S → Option S} (h : ∀ c s t, act c s = some t → act' c s = some t)
    {cs : List C} {s t : S} (hrun : runAll act cs s = some t) : runAll act' cs s = some t := by
  induction cs generalizing s with
  | nil => exact hrun
  | cons c cs ih =>
      obtain ⟨u, hu, ht⟩ := Option.bind_eq_some_iff.1 hrun
      rw [runAll_cons, h c s u hu]
      exact ih ht

/-- A total action never gets stuck: running it is a fold. -/
theorem runAll_total (f : C → S → S) (xs : List C) (s : S) :
    runAll (fun c t => some (f c t)) xs s = some (xs.foldl (fun t c => f c t) s) := by
  induction xs generalizing s with
  | nil => rfl
  | cons x xs ih =>
      rw [runAll_cons, List.foldl_cons]
      exact ih (f x s)

/-- Run a list of commands up to the first one that is undefined, which is returned along with the
state that it found. -/
def attempt (act : C → S → Option S) : List C → S → S × Option C
  | [], s => (s, none)
  | c :: cs, s =>
      match act c s with
      | some t => attempt act cs t
      | none => (s, some c)

theorem attempt_eq_of_runAll {cs : List C} {s t : S} (h : runAll act cs s = some t) :
    attempt act cs s = (t, none) := by
  induction cs generalizing s with
  | nil =>
      rw [runAll_nil, Option.some_inj] at h
      rw [attempt, h]
  | cons c cs ih =>
      obtain ⟨u, hu, hut⟩ := Option.bind_eq_some_iff.1 h
      rw [attempt, hu]
      exact ih hut

/-! ### Refinement -/

/-- `ys` is defined wherever `xs` is, and has the same result there. -/
def Refines (act : C → S → Option S) (xs ys : List C) : Prop :=
  ∀ s t, runAll act xs s = some t → runAll act ys s = some t

namespace Refines

theorem refl (xs : List C) : Refines act xs xs := fun _ _ h => h

theorem trans {xs ys zs : List C} (h₁ : Refines act xs ys) (h₂ : Refines act ys zs) :
    Refines act xs zs := fun s t h => h₂ s t (h₁ s t h)

/-- Refinement is a congruence for concatenation. -/
theorem append {xs xs' ys ys' : List C} (h₁ : Refines act xs xs') (h₂ : Refines act ys ys') :
    Refines act (xs ++ ys) (xs' ++ ys') := by
  intro s t h
  rw [runAll_append] at h
  obtain ⟨u, hu, ht⟩ := Option.bind_eq_some_iff.1 h
  rw [runAll_append, h₁ s u hu]
  exact h₂ u t ht

theorem append_left (zs : List C) {xs ys : List C} (h : Refines act xs ys) :
    Refines act (zs ++ xs) (zs ++ ys) := (refl zs).append h

theorem append_right (zs : List C) {xs ys : List C} (h : Refines act xs ys) :
    Refines act (xs ++ zs) (ys ++ zs) := h.append (refl zs)

/-- Refining a pair, one command at a time. -/
theorem of_pair {l r : C} {ys : List C}
    (h : ∀ s u t, act l s = some u → act r u = some t → runAll act ys s = some t) :
    Refines act [l, r] ys := by
  intro s t ht
  obtain ⟨u, hu, hut⟩ := Option.bind_eq_some_iff.1 ht
  rw [runAll_singleton] at hut
  exact h s u t hu hut

end Refines

/-! ### Moving a command past a list -/

/-- A command may be moved from the front of a list to its end, and back. -/
structure Passes (act : C → S → Option S) (c : C) (xs : List C) : Prop where
  toEnd : Refines act (c :: xs) (xs ++ [c])
  toFront : Refines act (xs ++ [c]) (c :: xs)

/-- A command that may be swapped with every element of a list passes the list. -/
theorem passes_of_swaps {c : C} {xs : List C}
    (h : ∀ x ∈ xs, Refines act [c, x] [x, c] ∧ Refines act [x, c] [c, x]) : Passes act c xs := by
  induction xs with
  | nil => exact ⟨Refines.refl _, Refines.refl _⟩
  | cons x xs ih =>
      obtain ⟨hcx, hxc⟩ := h x List.mem_cons_self
      have ihxs := ih fun y hy => h y (List.mem_cons_of_mem _ hy)
      constructor
      · have h₁ : Refines act ([c, x] ++ xs) ([x, c] ++ xs) := hcx.append_right xs
        have h₂ : Refines act ([x] ++ (c :: xs)) ([x] ++ (xs ++ [c])) := ihxs.toEnd.append_left [x]
        exact h₁.trans h₂
      · have h₁ : Refines act ([x] ++ (xs ++ [c])) ([x] ++ (c :: xs)) := ihxs.toFront.append_left [x]
        have h₂ : Refines act ([x, c] ++ xs) ([c, x] ++ xs) := hxc.append_right xs
        exact h₁.trans h₂

/-- Commands that commute with each other may be run in any order. -/
theorem Refines.of_perm {xs ys : List C} (h : xs.Perm ys)
    (hswap : xs.Pairwise fun c d => Refines act [c, d] [d, c] ∧ Refines act [d, c] [c, d]) :
    Refines act xs ys := by
  induction h with
  | nil => exact Refines.refl _
  | cons c _ ih => exact (ih (List.pairwise_cons.1 hswap).2).append_left [c]
  | swap c d xs =>
      have hdc := (List.pairwise_cons.1 hswap).1 c List.mem_cons_self
      exact hdc.1.append_right xs
  | trans hxy _ ih₁ ih₂ =>
      exact (ih₁ hswap).trans (ih₂ ((hxy.pairwise_iff fun h => h.symm).1 hswap))

/-- Two commands that merge when adjacent merge across a list `back ++ front`, if the left one passes
`back` and both the right one and the merged one pass `front`; the merged command ends up last. -/
theorem Refines.merge_across {l r m : C} {back front : List C} (hm : Refines act [l, r] [m])
    (hl : Passes act l back) (hr : Passes act r front) (hmf : Passes act m front) :
    Refines act (l :: (back ++ front) ++ [r]) (back ++ front ++ [m]) := by
  have h₁ : Refines act ((l :: back) ++ (front ++ [r])) ((back ++ [l]) ++ (r :: front)) :=
    hl.toEnd.append hr.toFront
  have h₂ : Refines act (back ++ ([l, r] ++ front)) (back ++ ([m] ++ front)) :=
    (hm.append_right front).append_left back
  have h₃ : Refines act (back ++ (m :: front)) (back ++ (front ++ [m])) :=
    hmf.toEnd.append_left back
  simp only [List.cons_append, List.append_assoc] at h₁ h₂ h₃ ⊢
  exact (h₁.trans h₂).trans h₃

/-- Two commands that cancel when adjacent cancel across a list `back ++ front`, if the left one
passes `back` and the right one passes `front`. -/
theorem Refines.cancel_across {l r : C} {back front : List C} (hc : Refines act [l, r] [])
    (hl : Passes act l back) (hr : Passes act r front) :
    Refines act (l :: (back ++ front) ++ [r]) (back ++ front) := by
  have h₁ : Refines act ((l :: back) ++ (front ++ [r])) ((back ++ [l]) ++ (r :: front)) :=
    hl.toEnd.append hr.toFront
  have h₂ : Refines act (back ++ ([l, r] ++ front)) (back ++ ([] ++ front)) :=
    (hc.append_right front).append_left back
  simp only [List.cons_append, List.append_assoc, List.nil_append] at h₁ h₂ ⊢
  exact h₁.trans h₂

/-! ### Runs and invariants -/

/-- Every step of the run is taken in a state that meets the condition for it. -/
def AllSteps (act : C → S → Option S) (cond : S → C → Prop) : List C → S → Prop
  | [], _ => True
  | c :: cs, s => ∀ t, act c s = some t → cond s c ∧ AllSteps act cond cs t

instance decidableAllSteps {cond : S → C → Prop} [∀ s c, Decidable (cond s c)] :
    ∀ (cs : List C) (s : S), Decidable (AllSteps act cond cs s)
  | [], _ => .isTrue trivial
  | c :: cs, s =>
      match h : act c s with
      | none => .isTrue fun t ht => by cases h.symm.trans ht
      | some t =>
          have : Decidable (AllSteps act cond cs t) := decidableAllSteps cs t
          decidable_of_iff (cond s c ∧ AllSteps act cond cs t)
            ⟨fun hsteps u hu => Option.some_inj.1 (h.symm.trans hu) ▸ hsteps, fun hsteps => hsteps t h⟩

/-- The property holds in every state that the run goes through. -/
def Reached (act : C → S → Option S) (P : S → Prop) (cs : List C) (s : S) : Prop :=
  ∀ pre t, pre <+: cs → runAll act pre s = some t → P t

theorem Reached.head {P : S → Prop} {cs : List C} {s : S} (h : Reached act P cs s) : P s :=
  h [] s List.nil_prefix rfl

theorem Reached.last {P : S → Prop} {cs : List C} {s t : S} (h : Reached act P cs s)
    (ht : runAll act cs s = some t) : P t :=
  h cs t (List.prefix_refl cs) ht

theorem reached_cons_iff {P : S → Prop} {c : C} {cs : List C} {s : S} :
    Reached act P (c :: cs) s ↔ P s ∧ ∀ t, act c s = some t → Reached act P cs t := by
  constructor
  · intro h
    refine ⟨h.head, fun t ht pre u hpre hu => ?_⟩
    refine h (c :: pre) u (List.cons_prefix_cons.2 ⟨rfl, hpre⟩) ?_
    rw [runAll_cons, ht]
    exact hu
  · rintro ⟨hs, hrest⟩ pre u hpre hu
    cases pre with
    | nil =>
        rw [runAll_nil] at hu
        exact Option.some_inj.1 hu ▸ hs
    | cons d pre =>
        obtain ⟨rfl, hpre'⟩ := List.cons_prefix_cons.1 hpre
        obtain ⟨t, ht, htu⟩ := Option.bind_eq_some_iff.1 hu
        exact hrest t ht pre u hpre' htu

/-- **The invariant rule.** -/
theorem reached_of_allSteps {P : S → Prop} {cond : S → C → Prop} {cs : List C}
    (hstep : ∀ c ∈ cs, ∀ s t, P s → cond s c → act c s = some t → P t) :
    ∀ {s : S}, P s → AllSteps act cond cs s → Reached act P cs s := by
  induction cs with
  | nil =>
      intro s hs _ pre t hpre ht
      rw [List.prefix_nil.1 hpre, runAll_nil] at ht
      exact Option.some_inj.1 ht ▸ hs
  | cons c cs ih =>
      intro s hs hsteps
      refine reached_cons_iff.2 ⟨hs, fun t ht => ?_⟩
      obtain ⟨hc, hrest⟩ := hsteps t ht
      exact ih (fun d hd => hstep d (List.mem_cons_of_mem _ hd))
        (hstep c List.mem_cons_self s t hs hc ht) hrest

theorem allSteps_of_forall {cond : S → C → Prop} {cs : List C} (h : ∀ s, ∀ c ∈ cs, cond s c) :
    ∀ s, AllSteps act cond cs s := by
  induction cs with
  | nil => exact fun _ => trivial
  | cons c cs ih =>
      intro s t _
      exact ⟨h s c List.mem_cons_self, ih (fun s d hd => h s d (List.mem_cons_of_mem _ hd)) t⟩

/-- The invariant rule for steps that keep the property without a condition. -/
theorem reached_of_step {P : S → Prop} {cs : List C}
    (hstep : ∀ c ∈ cs, ∀ s t, P s → act c s = some t → P t) {s : S} (hs : P s) :
    Reached act P cs s :=
  reached_of_allSteps (fun c hc s t hP (_ : True) ht => hstep c hc s t hP ht) hs
    (allSteps_of_forall (fun _ _ _ => trivial) s)

/-- The invariant rule for steps into states of which another property is known. -/
theorem Reached.of_step {P Q : S → Prop} {cs : List C}
    (hstep : ∀ c ∈ cs, ∀ s t, Q t → P s → act c s = some t → P t) :
    ∀ {s : S}, P s → Reached act Q cs s → Reached act P cs s := by
  induction cs with
  | nil => exact fun hs _ => reached_of_step (fun c hc => absurd hc List.not_mem_nil) hs
  | cons c cs ih =>
      intro s hs hreached
      refine reached_cons_iff.2 ⟨hs, fun t ht => ?_⟩
      have hrest := (reached_cons_iff.1 hreached).2 t ht
      exact ih (fun d hd => hstep d (List.mem_cons_of_mem _ hd))
        (hstep c List.mem_cons_self s t hrest.head hs ht) hrest

/-- The invariant rule for properties of a state and of the run that led there. -/
theorem history_of_step {I : List C → S → Prop} {cs : List C} {s t : S} (hs : I [] s)
    (hstep : ∀ pre c u v, pre ++ [c] <+: cs → I pre u → act c u = some v → I (pre ++ [c]) v)
    (h : runAll act cs s = some t) : I cs t := by
  induction cs using List.reverseRecOn generalizing t with
  | nil => exact Option.some_inj.1 h ▸ hs
  | append_singleton cs c ih =>
      rw [runAll_append] at h
      obtain ⟨u, hu, ht⟩ := Option.bind_eq_some_iff.1 h
      rw [runAll_singleton] at ht
      refine hstep cs c u t (List.prefix_refl _) (ih (fun pre d v w hpre => ?_) hu) ht
      exact hstep pre d v w (hpre.trans (List.prefix_append cs [c]))

/-- If the condition is exactly what a step needs to keep the property, the property holds throughout
a run exactly when every step meets the condition. -/
theorem reached_iff_allSteps {P : S → Prop} {cond : S → C → Prop} {cs : List C}
    (hstep : ∀ c ∈ cs, ∀ s t, P s → act c s = some t → (P t ↔ cond s c)) :
    ∀ {s : S}, P s → (Reached act P cs s ↔ AllSteps act cond cs s) := by
  intro s hs
  constructor
  · induction cs generalizing s with
    | nil => exact fun _ => trivial
    | cons c cs ih =>
        intro hreach t ht
        have hrest := (reached_cons_iff.1 hreach).2 t ht
        refine ⟨(hstep c List.mem_cons_self s t hs ht).1 hrest.head, ?_⟩
        exact ih (fun d hd => hstep d (List.mem_cons_of_mem _ hd)) hrest.head hrest
  · exact reached_of_allSteps (fun c hc s t hs hcond ht => (hstep c hc s t hs ht).2 hcond) hs

/-- The steps of a run, each with the part of the run before it. -/
theorem allSteps_iff {cond : S → C → Prop} {cs : List C} {s : S} :
    AllSteps act cond cs s ↔
      ∀ pre c t u, pre ++ [c] <+: cs → runAll act pre s = some t → act c t = some u → cond t c := by
  induction cs generalizing s with
  | nil =>
      refine ⟨fun _ pre c t u hpre => ?_, fun _ => trivial⟩
      simp at hpre
  | cons d cs ih =>
      constructor
      · intro h pre c t u hpre ht hu
        cases pre with
        | nil =>
            obtain ⟨rfl, -⟩ := List.cons_prefix_cons.1 hpre
            rw [runAll_nil, Option.some_inj] at ht
            subst ht
            exact (h u hu).1
        | cons e pre =>
            obtain ⟨rfl, hpre'⟩ := List.cons_prefix_cons.1 hpre
            obtain ⟨s', hs', ht'⟩ := Option.bind_eq_some_iff.1 ht
            exact ih.1 (h s' hs').2 pre c t u hpre' ht' hu
      · intro h t ht
        refine ⟨h [] d s t (by simp) rfl ht, ih.2 fun pre c t' u hpre ht' hu => ?_⟩
        refine h (d :: pre) c t' u (List.cons_prefix_cons.2 ⟨rfl, hpre⟩) ?_ hu
        rw [runAll_cons, ht]
        exact ht'

/-- The steps of a run that goes on by one step. -/
theorem allSteps_concat_iff {cond : S → C → Prop} {cs : List C} {c : C} {s : S} :
    AllSteps act cond (cs ++ [c]) s ↔
      AllSteps act cond cs s ∧ ∀ t u, runAll act cs s = some t → act c t = some u → cond t c := by
  simp only [allSteps_iff]
  constructor
  · intro h
    exact ⟨fun pre d t u hpre => h pre d t u (hpre.trans (List.prefix_append cs [c])),
      fun t u => h cs c t u (List.prefix_refl _)⟩
  · rintro ⟨hcs, hc⟩ pre d t u hpre
    rcases List.prefix_concat_iff.1 hpre with heq | hpre
    · obtain ⟨rfl, hd⟩ := List.append_inj' heq rfl
      obtain rfl := List.singleton_inj.1 hd
      exact hc t u
    · exact hcs pre d t u hpre

theorem AllSteps.of_prefix {cond : S → C → Prop} {cs ds : List C} {s : S}
    (h : AllSteps act cond cs s) (hds : ds <+: cs) : AllSteps act cond ds s :=
  allSteps_iff.2 fun pre c t u hpre => allSteps_iff.1 h pre c t u (hpre.trans hds)

/-- The steps of the rest of a run. -/
theorem AllSteps.drop {cond : S → C → Prop} {pre cs : List C} {s t : S}
    (h : AllSteps act cond (pre ++ cs) s) (ht : runAll act pre s = some t) :
    AllSteps act cond cs t := by
  refine allSteps_iff.2 fun mid c u v hmid hu hv => ?_
  refine allSteps_iff.1 h (pre ++ mid) c u v ?_ ?_ hv
  · rw [List.append_assoc]
    exact (List.prefix_append_right_inj pre).2 hmid
  · rw [runAll_append, ht]
    exact hu

/-- Whenever a command of the run is attempted, this holds of the state and the command. -/
def Attempted (act : C → S → Option S) (cond : S → C → Prop) (cs : List C) (s : S) : Prop :=
  ∀ pre c t, pre ++ [c] <+: cs → runAll act pre s = some t → cond t c

theorem attempted_nil {cond : S → C → Prop} {s : S} : Attempted act cond [] s := by
  intro pre c t hpre
  simp at hpre

theorem attempted_cons_iff {cond : S → C → Prop} {c : C} {cs : List C} {s : S} :
    Attempted act cond (c :: cs) s ↔ cond s c ∧ ∀ t, act c s = some t → Attempted act cond cs t := by
  constructor
  · intro h
    refine ⟨h [] c s (by simp) rfl, fun t ht pre d u hpre hu => ?_⟩
    refine h (c :: pre) d u (List.cons_prefix_cons.2 ⟨rfl, hpre⟩) ?_
    rw [runAll_cons, ht]
    exact hu
  · rintro ⟨hs, hrest⟩ pre d u hpre hu
    cases pre with
    | nil =>
        obtain ⟨rfl, -⟩ := List.cons_prefix_cons.1 hpre
        rw [runAll_nil, Option.some_inj] at hu
        exact hu ▸ hs
    | cons e pre =>
        obtain ⟨rfl, hpre'⟩ := List.cons_prefix_cons.1 hpre
        obtain ⟨t, ht, htu⟩ := Option.bind_eq_some_iff.1 hu
        exact hrest t ht pre d u hpre' htu

/-- A run goes through exactly if every command is defined where it is attempted. -/
theorem runAll_isSome_iff {cs : List C} {s : S} :
    (runAll act cs s).isSome = true ↔ Attempted act (fun t c => (act c t).isSome = true) cs s := by
  induction cs generalizing s with
  | nil => exact ⟨fun _ => attempted_nil, fun _ => rfl⟩
  | cons c cs ih =>
      rw [attempted_cons_iff, runAll_cons, Option.isSome_bind]
      cases hact : act c s with
      | none => simp
      | some t => simp [ih]

/-- A condition that holds at every attempt holds of every step. -/
theorem AllSteps.and_attempted {cond cond' : S → C → Prop} {cs : List C} {s : S}
    (h : AllSteps act cond cs s) (h' : Attempted act cond' cs s) :
    AllSteps act (fun t c => cond t c ∧ cond' t c) cs s :=
  allSteps_iff.2 fun pre c t u hpre ht hu => ⟨allSteps_iff.1 h pre c t u hpre ht hu, h' pre c t hpre ht⟩

/-- An invariant may be used at every attempt. -/
theorem attempted_iff {P : S → Prop} {cond cond' : S → C → Prop} {cs : List C} {s : S}
    (hreached : Reached act P cs s) (h : ∀ t c, P t → (cond t c ↔ cond' t c)) :
    Attempted act cond cs s ↔ Attempted act cond' cs s := by
  have hP : ∀ pre c t, pre ++ [c] <+: cs → runAll act pre s = some t → P t := fun pre c t hpre ht =>
    hreached pre t ((List.prefix_append _ _).trans hpre) ht
  constructor
  · intro hcond pre c t hpre ht
    exact (h t c (hP pre c t hpre ht)).1 (hcond pre c t hpre ht)
  · intro hcond pre c t hpre ht
    exact (h t c (hP pre c t hpre ht)).2 (hcond pre c t hpre ht)

/-- Where an invariant holds, let a condition be exactly what is needed to attempt a command safely and to have
the property afterwards, and let it be enough to keep the invariant.  Then a run whose commands are in the
domain is safe, and has the property throughout, exactly if the condition holds at every attempt. -/
theorem attempted_and_reached_iff {I P : S → Prop} {dom safe cond : S → C → Prop} (hP : ∀ s, I s → P s)
    (hkeeps : ∀ s c, I s → dom s c → cond s c → safe s c ∧ ∀ t, act c s = some t → I t)
    (hneeds : ∀ s c, I s → dom s c → safe s c → (∀ t, act c s = some t → P t) → cond s c) {cs : List C}
    {s : S} (hs : I s) (hdom : Attempted act dom cs s) :
    Attempted act safe cs s ∧ Reached act P cs s ↔ Attempted act cond cs s := by
  induction cs generalizing s with
  | nil =>
      refine ⟨fun _ => attempted_nil, fun _ => ⟨attempted_nil, fun pre t hpre ht => ?_⟩⟩
      rw [List.prefix_nil.1 hpre, runAll_nil] at ht
      exact Option.some_inj.1 ht ▸ hP s hs
  | cons c cs ih =>
      obtain ⟨hdom, hdoms⟩ := attempted_cons_iff.1 hdom
      rw [attempted_cons_iff, attempted_cons_iff, reached_cons_iff]
      constructor
      · rintro ⟨⟨hsafe, hsafes⟩, -, hreached⟩
        have hcond := hneeds s c hs hdom hsafe fun t ht => (hreached t ht).head
        refine ⟨hcond, fun t ht => ?_⟩
        exact (ih ((hkeeps s c hs hdom hcond).2 t ht) (hdoms t ht)).1 ⟨hsafes t ht, hreached t ht⟩
      · rintro ⟨hcond, hconds⟩
        obtain ⟨hsafe, hI⟩ := hkeeps s c hs hdom hcond
        have hrest (t : S) (ht : act c s = some t) := (ih (hI t ht) (hdoms t ht)).2 (hconds t ht)
        exact ⟨⟨hsafe, fun t ht => (hrest t ht).1⟩, hP s hs, fun t ht => (hrest t ht).2⟩

end PartialAction

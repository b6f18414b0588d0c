/-
**Flags that are set by operations and cleared by a reset.**

A component keeps, next to its value, a flag (or a list) for what has to be reported.  Some of its
operations set the flag, and a reset should clear it, without touching the value.  Whether the flag is set
is then a matter of the operations after the last reset alone.

Main definitions:

* `PendingReports.Event`, `PendingReports.step` — an operation or a reset;
* `PendingReports.sinceReset` — the operations after the last reset;
* `PendingReports.Flag` — a component with a flag;
* `PendingReports.Flag.ForgetsExactly` — after a run, the flag says whether an operation that it reports has
  happened after the last reset.

Main results:

* `PendingReports.summary_eq` — whatever an operation updates and a reset restores is a fold over the
  operations after the last reset;
* `PendingReports.Flag.Lawful.forgetsExactly` — **a flag that is cleared by a reset and set by exactly the
  operations that it reports forgets exactly**;
* `PendingReports.pending_iff_of_reset_sets` — what happens if a reset sets the flag instead.
-/

import Skrillax.PartialAction

set_option relaxedAutoImplicit false
set_option autoImplicit false

namespace PendingReports

open PartialAction

variable {O S V X : Type*}

/-! ### Runs with resets -/

inductive Event (O : Type*) where
  | op (o : O)
  | reset
  deriving DecidableEq, Repr

def step (act : O → S → Option S) (reset : S → S) : Event O → S → Option S
  | .op o, s => act o s
  | .reset, s => some (reset s)

/-- The operations after the last reset. -/
def sinceReset (events : List (Event O)) : List O :=
  events.foldl
    (fun ops event => match event with
      | .op o => ops ++ [o]
      | .reset => [])
    []

@[simp] theorem sinceReset_nil : sinceReset ([] : List (Event O)) = [] := rfl

@[simp] theorem sinceReset_concat_op (events : List (Event O)) (o : O) :
    sinceReset (events ++ [.op o]) = sinceReset events ++ [o] := by
  unfold sinceReset
  rw [List.foldl_append]
  rfl

@[simp] theorem sinceReset_concat_reset (events : List (Event O)) :
    sinceReset (events ++ [.reset]) = [] := by
  unfold sinceReset
  rw [List.foldl_append]
  rfl

variable {act : O → S → Option S} {reset : S → S}

theorem runAll_concat {events : List (Event O)} {event : Event O} {s u : S}
    (h : runAll (step act reset) (events ++ [event]) s = some u) :
    ∃ t, runAll (step act reset) events s = some t ∧ step act reset event t = some u := by
  rw [runAll_append] at h
  obtain ⟨t, ht, hu⟩ := Option.bind_eq_some_iff.1 h
  rw [runAll_singleton] at hu
  exact ⟨t, ht, hu⟩

/-- What an operation updates and a reset restores. -/
theorem summary_eq {f : S → X} {g : X → O → X} {fresh : X}
    (hact : ∀ o s t, act o s = some t → f t = g (f s) o) (hreset : ∀ s, f (reset s) = fresh)
    {events : List (Event O)} {s t : S} (hs : f s = fresh)
    (h : runAll (step act reset) events s = some t) : f t = (sinceReset events).foldl g fresh := by
  -- the last event decides: a reset restores, and an operation goes on from what there was
  induction events using List.reverseRecOn generalizing t with
  | nil =>
      obtain rfl := Option.some_inj.1 h
      exact hs
  | append_singleton events event ih =>
      obtain ⟨u, hu, ht⟩ := runAll_concat h
      cases event with
      | op o =>
          rw [sinceReset_concat_op, List.foldl_append, ← ih hu]
          exact hact o u t ht
      | reset =>
          obtain rfl := Option.some_inj.1 ht
          rw [sinceReset_concat_reset]
          exact hreset u

/-! ### Flags -/

/-- A component with a flag, and the operations that the flag should report. -/
structure Flag (O S V : Type*) where
  act : O → S → Option S
  reset : S → S
  value : S → V
  pending : S → Prop
  reports : O → Prop

namespace Flag

variable (F : Flag O S V)

/-- A reset keeps the value, and the flag is set exactly if an operation that it reports happened after the
last reset. -/
def ForgetsExactly (events : List (Event O)) (s : S) : Prop :=
  ∀ t, runAll (step F.act F.reset) events s = some t →
    F.value (F.reset t) = F.value t ∧ (F.pending t ↔ ∃ o ∈ sinceReset events, F.reports o)

/-- The laws of one step. -/
structure Lawful : Prop where
  value_reset : ∀ s, F.value (F.reset s) = F.value s
  clears : ∀ s, ¬ F.pending (F.reset s)
  act : ∀ o s t, F.act o s = some t → (F.pending t ↔ F.pending s ∨ F.reports o)

variable {F}

/-- **Lawful flags forget exactly.** -/
theorem Lawful.forgetsExactly (hF : F.Lawful) {s : S} (hs : ¬ F.pending s) (events : List (Event O)) :
    F.ForgetsExactly events s := by
  intro t ht
  refine ⟨hF.value_reset t, ?_⟩
  have hsummary : F.pending t = (sinceReset events).foldl (fun set o => set ∨ F.reports o) False :=
    summary_eq (fun o s t h => propext (hF.act o s t h)) (fun s => eq_false (hF.clears s)) (eq_false hs) ht
  have hfold : ∀ (ops : List O) (set : Prop),
      ops.foldl (fun set o => set ∨ F.reports o) set ↔ set ∨ ∃ o ∈ ops, F.reports o := by
    intro ops
    induction ops with
    | nil => simp
    | cons o ops ih =>
        intro set
        rw [List.foldl_cons, ih]
        simp [or_assoc]
  rw [hsummary, hfold]
  simp

/-- If a reset sets the flag, it stays set for good. -/
theorem pending_iff_of_reset_sets (hsets : ∀ s, F.pending (F.reset s))
    (hact : ∀ o s t, F.act o s = some t → (F.pending t ↔ F.pending s ∨ F.reports o))
    {events : List (Event O)} {s t : S} (hs : ¬ F.pending s)
    (h : runAll (step F.act F.reset) events s = some t) :
    F.pending t ↔ .reset ∈ events ∨ ∃ o ∈ sinceReset events, F.reports o := by
  induction events using List.reverseRecOn generalizing t with
  | nil =>
      obtain rfl := Option.some_inj.1 h
      simp [hs]
  | append_singleton events event ih =>
      obtain ⟨u, hu, ht⟩ := runAll_concat h
      cases event with
      | op o =>
          rw [hact o u t ht, ih hu]
          simp [or_and_right, exists_or, or_assoc]
      | reset =>
          obtain rfl := Option.some_inj.1 ht
          simp [hsets u]

end Flag

end PendingReports

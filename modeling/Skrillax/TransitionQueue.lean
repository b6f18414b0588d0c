/-
**What a transition picks from the queue.**

A transition drains the queue of an agent, sorts it by priority and applies the first transition of the sorted
queue.  The sort is stable, so this is the one that has been asked for first among the most urgent ones.
Nothing is more urgent than death.

Main results:

* `chosen_eq_some_iff` — the transition that is chosen;
* `transitionToNewState_eq`, `transitionToHigherState_eq` — what the two methods do with it;
* `exists_dead_of_isEarliestMax` — it is a death, if one has been asked for;
* `transition_queue_picks_the_earliest_of_the_highest` — **what is applied from any queue**.
-/

import Skrillax.Agents
import Skrillax.EarliestMax

set_option relaxedAutoImplicit false
set_option autoImplicit false

namespace Skrillax.Agents

open EarliestMax

variable {queue : List StateTransition} {transition : StateTransition}

theorem chosen_eq_some_iff :
    chosen queue = some transition ↔ IsEarliestMax StateTransition.priority queue transition :=
  head_insertionSort_iff

theorem exists_earliest (hne : queue ≠ []) :
    ∃ transition, IsEarliestMax StateTransition.priority queue transition :=
  exists_isEarliestMax_iff.2 hne

theorem transitionToNewState_eq (kind : StateKind)
    (h : IsEarliestMax StateTransition.priority queue transition) :
    transitionToNewState kind queue = ([], transition.replace kind) := by
  rw [transitionToNewState, chosen_eq_some_iff.2 h]

theorem transitionToHigherState_eq (kind : StateKind)
    (h : IsEarliestMax StateTransition.priority queue transition) :
    transitionToHigherState kind queue =
      ([], if kind.order < transition.priority then transition.replace kind else []) := by
  unfold transitionToHigherState
  split_ifs with hhigher
  · have hfilter := h.filter (P := fun transition => decide (kind.order < transition.priority))
      (decide_eq_true hhigher)
    rw [chosen_eq_some_iff.2 hfilter]
  · have hnothing : (queue.filter fun transition => decide (kind.order < transition.priority)) = [] := by
      rw [List.filter_eq_nil_iff]
      intro b hb hlt
      exact hhigher ((of_decide_eq_true hlt).trans_le (h.le b hb))
    rw [hnothing, chosen_eq_none_iff.2 rfl]

theorem StateKind.order_le_dead (kind : StateKind) : kind.order ≤ StateKind.dead.order := by
  cases kind <;> decide

theorem StateKind.order_eq_dead_iff {kind : StateKind} : kind.order = StateKind.dead.order ↔ kind = .dead := by
  cases kind <;> decide

/-- Nothing is more urgent than death. -/
theorem exists_dead_of_isEarliestMax (h : IsEarliestMax StateTransition.priority queue transition)
    (hdead : ∃ asked ∈ queue, asked.data.kind = .dead) :
    transition.priority = StateKind.dead.order ∧ ∃ inner, transition.data = .dead inner := by
  obtain ⟨asked, hasked, hkind⟩ := hdead
  have hle := h.le asked hasked
  rw [asked.consistent, transition.consistent, hkind] at hle
  have horder := le_antisymm (StateKind.order_le_dead transition.data.kind) hle
  refine ⟨transition.consistent.trans horder, ?_⟩
  have hdata := StateKind.order_eq_dead_iff.1 horder
  cases hchange : transition.data with
  | dead inner => exact ⟨inner, rfl⟩
  | _ =>
      rw [hchange] at hdata
      cases hdata

/-- **What is applied.**  From an empty queue nothing is applied.  From any other queue one transition is
chosen, the earliest of the most urgent ones.  `transition_to_new_state` applies it, and
`transition_to_higher_state` applies it if it is more urgent than the state.  The queue is empty afterwards.
So a death that has been asked for is applied in each of the states that have a transition. -/
theorem transition_queue_picks_the_earliest_of_the_highest (queue : List StateTransition) :
    (queue = [] → ∀ kind, transitionToNewState kind queue = ([], []) ∧
      transitionToHigherState kind queue = ([], [])) ∧
    (queue ≠ [] → ∃ transition, IsEarliestMax StateTransition.priority queue transition ∧
      ∀ kind, transitionToNewState kind queue = ([], transition.replace kind) ∧
        transitionToHigherState kind queue =
          ([], if kind.order < transition.priority then transition.replace kind else [])) ∧
    ((∃ asked ∈ queue, asked.data.kind = .dead) → ∃ transition ∈ queue, ∃ inner,
      transition.data = .dead inner ∧ ∀ states : States,
        (states.has .idle → transitionFromIdle states queue =
          ([], [.remove .idle, .insert (.dead inner)])) ∧
        (states.has .moving → transitionFromMoving states queue =
          ([], [.remove .moving, .insert (.dead inner)])) ∧
        (states.has .sitting → transitionFromSitting states queue =
          ([], [.remove .sitting, .insert (.dead inner)])) ∧
        (states.has .action → transitionFromAttacking states queue =
          ([], [.remove .action, .insert (.dead inner)]))) := by
  refine ⟨?_, ?_, ?_⟩
  · rintro rfl kind
    exact ⟨rfl, rfl⟩
  · intro hne
    obtain ⟨transition, h⟩ := exists_earliest hne
    exact ⟨transition, h, fun kind => ⟨transitionToNewState_eq kind h, transitionToHigherState_eq kind h⟩⟩
  · intro hdead
    have hne : queue ≠ [] := by
      obtain ⟨asked, hasked, -⟩ := hdead
      exact List.ne_nil_of_mem hasked
    obtain ⟨transition, h⟩ := exists_earliest hne
    obtain ⟨horder, inner, hinner⟩ := exists_dead_of_isEarliestMax h hdead
    have hreplace (kind : StateKind) : transition.replace kind = [.remove kind, .insert (.dead inner)] := by
      rw [StateTransition.replace, hinner]
    refine ⟨transition, h.mem, inner, hinner, fun states => ⟨?_, ?_, ?_, ?_⟩⟩
    · intro hidle
      rw [transitionFromIdle, autoTransition, if_pos hidle, transitionToNewState_eq .idle h, hreplace]
    · intro hmoving
      rw [transitionFromMoving, autoTransition, if_pos hmoving, transitionToNewState_eq .moving h, hreplace]
    · intro hsitting
      rw [transitionFromSitting, autoTransition, if_pos hsitting, transitionToNewState_eq .sitting h,
        hreplace]
    · intro haction
      have hhigher : StateKind.action.order < transition.priority := by
        rw [horder]
        decide
      rw [transitionFromAttacking, if_pos haction, transitionToHigherState_eq .action h, if_pos hhigher,
        hreplace]

end Skrillax.Agents

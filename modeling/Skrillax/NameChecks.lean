/-
**Creating characters under free names.**

The request to create a character is refused with an error if its name is not the one that was checked last,
but the character is created all the same.  And the name that was checked last is remembered whether it was
available or not.

Main definitions:

* `latestAnswer` — the latest check of a name that was answered, and its result;
* `CreatesOnlyFreeNames` — characters are only created under a name that was just found free;
* `OnlyFreeNamesRequested` — characters are only requested under such names;
* `Paired` — every request to create a character starts its task, and nothing else does.

Main results:

* `paired_step` — the history of a selection is paired;
* `passed_guard_is_answered` — what it means that a request is not refused;
* `creates_only_free_names_iff` — **in every run, the characters of a client are only created under names just
  found free exactly when they are only requested under such names**.
-/

import Skrillax.SelectionRuns

set_option relaxedAutoImplicit false
set_option autoImplicit false

namespace Skrillax

open Rust PartialAction

/-! ### Histories -/

def SelectionEvent.answer : SelectionEvent → Option (String × Bool)
  | .answered name available => some (name, available)
  | _ => none

/-- The latest check that was answered: the name, and whether it was available. -/
def latestAnswer (history : List SelectionEvent) : Option (String × Bool) :=
  (history.filterMap SelectionEvent.answer).getLast?

theorem latestAnswer_concat (history : List SelectionEvent) (e : SelectionEvent) :
    latestAnswer (history ++ [e]) = e.answer.or (latestAnswer history) := by
  rw [latestAnswer, latestAnswer, List.filterMap_append]
  cases h : e.answer <;> simp [h]

/-- A task that creates a character under a name is only started when the latest answer is that the name is
available; a request to create one starts no task otherwise. -/
structure CreatesOnlyFreeNames (history : List SelectionEvent) : Prop where
  started : ∀ before task name, before ++ [.started task] <+: history → task.creates = some name →
    latestAnswer before = some (name, true)
  refused : ∀ before action task name, before ++ [.requested action, .started task] <+: history →
    action.creates = some name → latestAnswer before = some (name, true)

/-- When a request to create a character is handled, the latest answer is that its name is available. -/
def OnlyFreeNamesRequested (history : List SelectionEvent) : Prop :=
  ∀ before action name, before ++ [.requested action] <+: history → action.creates = some name →
    latestAnswer before = some (name, true)

/-! ### Pairs -/

/-- A request to create a character is followed by the task, and the task comes right after the request. -/
structure Paired (history : List SelectionEvent) : Prop where
  starts : ∀ before action name, before ++ [.requested action] <+: history →
    action.creates = some name →
      ∃ task, before ++ [.requested action, .started task] <+: history ∧ task.creates = some name
  asked : ∀ before task name, before ++ [.started task] <+: history → task.creates = some name →
    ∃ before' action, before = before' ++ [.requested action] ∧ action.creates = some name

/-- A point of a list that is put together is a point of one of its parts. -/
theorem concat_prefix_append {α : Type} {before l l' : List α} {a : α} (h : before ++ [a] <+: l ++ l') :
    before ++ [a] <+: l ∨ ∃ rest, before = l ++ rest ∧ rest ++ [a] <+: l' := by
  obtain ⟨after, h⟩ := h
  rcases List.append_eq_append_iff.1 h with ⟨rest, rfl, -⟩ | ⟨rest, hbefore, rfl⟩
  · exact Or.inl (List.prefix_append _ _)
  · rcases List.eq_nil_or_concat rest with rfl | ⟨rest, b, rfl⟩
    · rw [List.append_nil] at hbefore
      exact Or.inl (hbefore ▸ List.prefix_refl _)
    · rw [List.concat_eq_append, ← List.append_assoc] at hbefore
      obtain ⟨rfl, hab⟩ := List.append_inj' hbefore rfl
      cases hab
      exact Or.inr ⟨rest, rfl, by simp⟩

theorem Paired.append {history block : List SelectionEvent} (h : Paired history) (hblock : Paired block) :
    Paired (history ++ block) := by
  constructor
  · intro before action name hprefix hcreates
    rcases concat_prefix_append hprefix with hprefix | ⟨rest, rfl, hrest⟩
    · obtain ⟨task, htask, hname⟩ := h.starts before action name hprefix hcreates
      exact ⟨task, htask.trans (List.prefix_append _ _), hname⟩
    · obtain ⟨task, htask, hname⟩ := hblock.starts rest action name hrest hcreates
      refine ⟨task, ?_, hname⟩
      rw [List.append_assoc]
      exact (List.prefix_append_right_inj history).2 htask
  · intro before task name hprefix hcreates
    rcases concat_prefix_append hprefix with hprefix | ⟨rest, rfl, hrest⟩
    · exact h.asked before task name hprefix hcreates
    · obtain ⟨before', action, rfl, hname⟩ := hblock.asked rest task name hrest hcreates
      exact ⟨history ++ before', action, (List.append_assoc _ _ _).symm, hname⟩

theorem paired_nil : Paired [] :=
  ⟨fun before action name h => by simp at h, fun before task name h => by simp at h⟩

theorem concat_prefix_singleton {α : Type} {before : List α} {a b : α} (h : before ++ [a] <+: [b]) :
    before = [] ∧ a = b := by
  have hlength := h.length_le
  simp only [List.length_append, List.length_singleton] at hlength
  obtain rfl := List.eq_nil_of_length_eq_zero (by omega : before.length = 0)
  exact ⟨rfl, (List.cons_prefix_cons.1 h).1⟩

/-- A single event that is neither a task nor a request to create a character. -/
theorem paired_singleton {e : SelectionEvent} (hstarted : ∀ task, e ≠ .started task)
    (hrequested : ∀ action, e = .requested action → action.creates = none) : Paired [e] := by
  constructor
  · intro before action name hprefix hcreates
    obtain ⟨-, he⟩ := concat_prefix_singleton hprefix
    rw [hrequested action he.symm] at hcreates
    cases hcreates
  · intro before task name hprefix hcreates
    obtain ⟨-, he⟩ := concat_prefix_singleton hprefix
    exact absurd he.symm (hstarted task)

/-- A request with its task. -/
theorem paired_pair {action : CharacterListRequestAction} {task : Task} (h : task.creates = action.creates) :
    Paired ([.requested action] ++ [.started task]) := by
  constructor
  · intro before action' name hprefix hcreates
    rcases concat_prefix_append hprefix with hprefix | ⟨rest, rfl, hrest⟩
    · obtain ⟨rfl, haction⟩ := concat_prefix_singleton hprefix
      cases haction
      exact ⟨task, List.prefix_refl _, h.trans hcreates⟩
    · cases (concat_prefix_singleton hrest).2
  · intro before task' name hprefix hcreates
    rcases concat_prefix_append hprefix with hprefix | ⟨rest, rfl, hrest⟩
    · cases (concat_prefix_singleton hprefix).2
    · obtain ⟨rfl, htask⟩ := concat_prefix_singleton hrest
      cases htask
      exact ⟨[], action, rfl, h.symm.trans hcreates⟩

theorem paired_requestEvents {action : CharacterListRequestAction} {task : Option Task}
    (h : task.bind Task.creates = action.creates) : Paired (requestEvents action task) := by
  cases task with
  | none =>
      refine paired_singleton (fun task htask => by cases htask) fun action' haction' => ?_
      cases haction'
      exact h.symm
  | some task => exact paired_pair h

/-- The history of a selection is paired. -/
theorem paired_step {s t : Selection} (h : SelectionStep s t) (hs : Paired s.history) : Paired t.history := by
  cases h with
  | admitted charselect history => exact hs
  | left playing charselect history => exact hs
  | loaded charselect history characters =>
      exact hs.append (paired_singleton (fun task h => by cases h) fun action h => by cases h)
  | answered charselect history name available =>
      exact hs.append (paired_singleton (fun task h => by cases h) fun action h => by cases h)
  | requested charselect history action task htask => exact hs.append (paired_requestEvents htask)

/-- Characters are only created under free names when they are only requested under free names. -/
theorem Paired.createsOnlyFreeNames_iff {history : List SelectionEvent} (h : Paired history) :
    CreatesOnlyFreeNames history ↔ OnlyFreeNamesRequested history := by
  constructor
  · intro hfree before action name hprefix hcreates
    obtain ⟨task, htask, -⟩ := h.starts before action name hprefix hcreates
    exact hfree.refused before action task name htask hcreates
  · intro hfree
    refine ⟨fun before task name hprefix hcreates => ?_, fun before action task name hprefix hcreates => ?_⟩
    · obtain ⟨before', action, rfl, hcreates'⟩ := h.asked before task name hprefix hcreates
      rw [latestAnswer_concat]
      exact hfree before' action name ((List.prefix_append _ _).trans hprefix) hcreates'
    · refine hfree before action name (List.IsPrefix.trans ?_ hprefix) hcreates
      exact (List.prefix_append_right_inj before).2 (by simp)

/-! ### The guard -/

/-- The name that was checked last is that of the latest answer. -/
def GuardSound (s : Selection) : Prop :=
  ∀ charselect name, s.charselect = some charselect → charselect.checkedName = some name →
    ∃ available, latestAnswer s.history = some (name, available)

theorem latestAnswer_requestEvents (history : List SelectionEvent) (action : CharacterListRequestAction)
    (task : Option Task) : latestAnswer (history ++ requestEvents action task) = latestAnswer history := by
  cases task with
  | none => exact latestAnswer_concat history _
  | some task =>
      rw [requestEvents, Option.map_some, Option.toList_some, List.append_cons, latestAnswer_concat,
        latestAnswer_concat]
      rfl

theorem guardSound_step {s t : Selection} (h : SelectionStep s t) (hs : GuardSound s) : GuardSound t := by
  intro charselect' name hcharselect' hname
  cases h with
  | admitted charselect history =>
      cases hcharselect'
      cases hname
  | left playing charselect history => cases hcharselect'
  | loaded charselect history characters =>
      cases hcharselect'
      obtain ⟨available, hlatest⟩ := hs charselect name rfl hname
      exact ⟨available, (latestAnswer_concat history _).trans hlatest⟩
  | answered charselect history name' available =>
      cases hcharselect'
      cases hname
      exact ⟨available, latestAnswer_concat history _⟩
  | requested charselect history action task htask =>
      cases hcharselect'
      have hname' : charselect.checkedName = some name := by
        cases action <;> first | exact hname | cases hname
      obtain ⟨available, hlatest⟩ := hs charselect name rfl hname'
      exact ⟨available, (latestAnswer_requestEvents history action task).trans hlatest⟩

/-! ### Runs -/

section Runs

variable (profile : Profile) (data : WorldData) (iteration : Iteration) (maxLevel : UInt8)
  (settings : SelectionSettings) (max : UInt16) (reservationValidTime : UInt64) (now : Instant)
  (events : List ServerEvent)

/-- A request to create a character that is not refused has the name of the latest answer, which may be that
the name is not available. -/
theorem passed_guard_is_answered :
    Reached (LoginServer.event profile data iteration maxLevel settings max reservationValidTime)
      (fun s => ∀ client ∈ s.clients, ∀ charselect name, client.characterSelect = some charselect →
        canCreateCharacterWithName charselect name = true →
          ∃ available, latestAnswer client.history = some (name, available)) events (.start now) := by
  intro pre t hpre ht client hclient charselect name hcharselect hguard
  have hsound : GuardSound client.selection :=
    reached_selection (I := GuardSound) (fun charselect name h => by cases h)
      (fun _ _ hstep hs => guardSound_step hstep hs) now events pre t hpre ht client hclient
  rw [canCreateCharacterWithName] at hguard
  split at hguard
  · rename_i checkedName hchecked
    obtain rfl := eq_of_beq hguard
    exact hsound charselect checkedName hcharselect hchecked
  · cases hguard

/-- **In every run, the characters of a client are only created under names just found free exactly when they
are only requested under such names.** -/
theorem creates_only_free_names_iff :
    Reached (LoginServer.event profile data iteration maxLevel settings max reservationValidTime)
      (fun s => ∀ client ∈ s.clients,
        (CreatesOnlyFreeNames client.history ↔ OnlyFreeNamesRequested client.history)) events
      (.start now) := by
  intro pre t hpre ht client hclient
  have hpaired : Paired client.selection.history :=
    reached_selection (I := fun s => Paired s.history) paired_nil
      (fun _ _ hstep hs => paired_step hstep hs) now events pre t hpre ht client hclient
  exact hpaired.createsOnlyFreeNames_iff

end Runs

/-! ### A character under a name that was not checked -/

/-- The client asks for a character right after it has logged in. -/
def createUnchecked : List ServerEvent :=
  logIn ++ [.turn 0 (.receive [.characterListRequest (.create "Hero" 1907 34 0 0 0 0)]), .turn 0 .listRequest]

/-- The task is started. -/
theorem unchecked_character_is_created :
    ¬ Reached (LoginServer.event .debug emptyWorld .ascending 80 selectionSettings 2 30)
      (fun s => ∀ client ∈ s.clients, CreatesOnlyFreeNames client.history) createUnchecked (.start 0) := by
  intro h
  obtain ⟨s, hs, client, hclient, task, hhistory, htask⟩ : ∃ s,
      runAll (LoginServer.event .debug emptyWorld .ascending 80 selectionSettings 2 30) createUnchecked
        (.start 0) = some s ∧ ∃ client ∈ s.clients, ∃ task, client.history =
          [.requested (.create "Hero" 1907 34 0 0 0 0), .started task] ∧ task.creates = some "Hero" :=
    ⟨_, rfl, _, List.mem_cons_self, _, rfl, rfl⟩
  have hfree := h.last hs client hclient
  rw [hhistory] at hfree
  have hlatest := hfree.started [.requested (.create "Hero" 1907 34 0 0 0 0)] task "Hero"
    (List.prefix_refl _) htask
  cases hlatest

end Skrillax

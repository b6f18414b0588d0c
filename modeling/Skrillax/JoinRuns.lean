/-
**Joining in every run.**

The list of characters from which a client joins is the one that was loaded last, whatever else happens in
between.  So whether a request to join is safe depends on this list and on the character that is asked for.

Main definitions:

* `JoinsSafely`, `JoinsWithOwnCharacter` — joining is safe, and the condition for it, for an event.

Main results:

* `listIsLatest_step` — the list of the selection is the one that was loaded last;
* `joins_are_safe_iff` — **joining is safe throughout a run exactly when every client that joins asks for a
  character of the list that was loaded last, which can be turned into a player if it may be played**.
-/

import Skrillax.SelectionRuns

set_option relaxedAutoImplicit false
set_option autoImplicit false

namespace Skrillax

open Rust PartialAction

/-! ### The list -/

/-- The list of the selection is the one that was loaded last; nothing is loaded before the client plays. -/
structure ListIsLatest (s : Selection) : Prop where
  fresh : s.playing = false → latestLoaded s.history = none
  latest : ∀ charselect, s.charselect = some charselect → charselect.characters = latestLoaded s.history

theorem latestLoaded_concat (history : List SelectionEvent) (e : SelectionEvent) :
    latestLoaded (history ++ [e]) = e.loadedList.or (latestLoaded history) := by
  rw [latestLoaded, latestLoaded, List.filterMap_append]
  cases h : e.loadedList <;> simp [h]

theorem latestLoaded_requestEvents (history : List SelectionEvent) (action : CharacterListRequestAction)
    (task : Option Task) : latestLoaded (history ++ requestEvents action task) = latestLoaded history := by
  cases task with
  | none => exact latestLoaded_concat history _
  | some task =>
      rw [requestEvents, Option.map_some, Option.toList_some, List.append_cons, latestLoaded_concat,
        latestLoaded_concat]
      rfl

theorem listIsLatest_step {s t : Selection} (h : SelectionStep s t) (hs : ListIsLatest s) :
    ListIsLatest t := by
  cases h with
  | admitted charselect history =>
      refine ⟨fun hplaying => (by cases hplaying), fun charselect' hcharselect' => ?_⟩
      cases hcharselect'
      exact (hs.fresh rfl).symm
  | left playing charselect history =>
      exact ⟨hs.fresh, fun charselect' hcharselect' => by cases hcharselect'⟩
  | loaded charselect history characters =>
      refine ⟨fun hplaying => (by cases hplaying), fun charselect' hcharselect' => ?_⟩
      cases hcharselect'
      exact (latestLoaded_concat history (.loaded characters)).symm
  | answered charselect history name available =>
      refine ⟨fun hplaying => (by cases hplaying), fun charselect' hcharselect' => ?_⟩
      cases hcharselect'
      exact (hs.latest charselect rfl).trans
        (latestLoaded_concat history (.answered name available)).symm
  | requested charselect history action task htask =>
      refine ⟨fun hplaying => (by cases hplaying), fun charselect' hcharselect' => ?_⟩
      cases hcharselect'
      have hcharacters : (charselect.afterRequest action).characters = charselect.characters := by
        cases action <;> rfl
      rw [hcharacters, hs.latest charselect rfl]
      exact (latestLoaded_requestEvents history action task).symm

/-! ### Runs -/

section Runs

variable (profile : Profile) (data : WorldData) (iteration : Iteration) (maxLevel : UInt8)

/-- If the event is the turn of a client to join, it is safe. -/
def JoinsSafely (s : LoginServer) : ServerEvent → Prop
  | .turn i (.join newId) => ∀ client, s.clients[i]? = some client →
      JoinIsSafe profile data iteration maxLevel newId client
  | _ => True

/-- If the event is the turn of a client to join, the client asks for a character of its list. -/
def JoinsWithOwnCharacter (s : LoginServer) : ServerEvent → Prop
  | .turn i (.join newId) => ∀ client, s.clients[i]? = some client →
      AsksForOwnCharacter profile data newId client
  | _ => True

/-- **Joining is safe throughout a run exactly when every client that joins asks for a character of the list
that was loaded last, which can be turned into a player if it may be played.** -/
theorem joins_are_safe_iff (settings : SelectionSettings) (max : UInt16) (reservationValidTime : UInt64)
    (now : Instant) (events : List ServerEvent) :
    Attempted (LoginServer.event profile data iteration maxLevel settings max reservationValidTime)
        (JoinsSafely profile data iteration maxLevel) events (.start now) ↔
      Attempted (LoginServer.event profile data iteration maxLevel settings max reservationValidTime)
        (JoinsWithOwnCharacter profile data) events (.start now) := by
  have hlatest : Reached
      (LoginServer.event profile data iteration maxLevel settings max reservationValidTime)
      (fun s => ∀ client ∈ s.clients, ListIsLatest client.selection) events (.start now) :=
    reached_selection ⟨fun _ => rfl, fun charselect h => by cases h⟩
      (fun _ _ hstep hs => listIsLatest_step hstep hs) now events
  refine attempted_iff hlatest fun s e hs => ?_
  cases e with
  | login e => exact Iff.rfl
  | turn i turn =>
      cases turn with
      | join newId =>
          refine forall_congr' fun client => forall_congr' fun hclient => ?_
          exact joinIsSafe_iff (hs client (List.mem_of_getElem? hclient)).latest
      | receive | create | restore | delete | nameCheck | listReceived | listRequest | apply | reset =>
          exact Iff.rfl

end Runs

/-! ### A client that asks for a character that it does not have -/

/-- The client asks for its list, which turns out to be empty, and then asks to join. -/
def joinUnknown : List ServerEvent :=
  logIn ++ [.turn 0 (.receive [.characterListRequest .list]), .turn 0 .listRequest, .turn 0 (.apply 0),
    .turn 0 .reset, .turn 0 (.listReceived (.ok [])), .turn 0 (.apply 0), .turn 0 .reset,
    .turn 0 (.receive [.characterJoinRequest ⟨"Hero"⟩]), .turn 0 (.join (some 1))]

/-- There is no character of the name, which is a panic. -/
theorem join_with_unknown_name_panics :
    ¬ Attempted (LoginServer.event .debug emptyWorld .ascending 80 selectionSettings 2 30)
      (JoinsSafely .debug emptyWorld .ascending 80) joinUnknown (.start 0) := by
  intro h
  obtain ⟨s, hs, client, hclient, hpanic⟩ : ∃ s,
      runAll (LoginServer.event .debug emptyWorld .ascending 80 selectionSettings 2 30) joinUnknown.dropLast
        (.start 0) = some s ∧ ∃ client, s.clients[0]? = some client ∧
          handleJoin .debug emptyWorld .ascending 80 (some 1) client = none :=
    ⟨_, rfl, _, rfl, rfl⟩
  have hsafe := (h joinUnknown.dropLast (.turn 0 (.join (some 1))) s (List.prefix_refl _) hs client
    hclient).returns
  rw [hpanic] at hsafe
  cases hsafe

end Skrillax

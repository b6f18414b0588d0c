/-
**Names and deletions.**

A name is checked in one task and given to a character in another one, and a client that has been told that a
name is free may ask for it much later, or not have asked at all.  A deletion is a date: once it has passed, the
row is still there, but it is not listed any more, and cannot be restored.

Main definitions:

* `NamesDistinct`, `Lobby.GivesFreeName` — no two characters of a server have the same name, and a task only
  gives a name that is free when it runs;
* `Unlisted`, `Lobby.LeavesDeleted` — a row is not listed, and no task that runs starts its deletion anew.

Main results:

* `names_distinct_iff` — **the names stay distinct throughout a run exactly if every character is created
  while its name is free**;
* `unlisted_iff` — **a deleted character stays deleted throughout a run exactly if its deletion is not started
  once more**.
-/

import Skrillax.CharacterOwnership

set_option relaxedAutoImplicit false
set_option autoImplicit false

namespace Skrillax

open Rust PartialAction

/-! ### What a task does to the rows -/

/-- The condition and the new date of an `UPDATE`. -/
def Task.updates (now : Instant) : Task → Option ((CharacterRow → Bool) × Option Instant)
  | .startDeleteCharacter userId name serverId deletionTime =>
      some (fun row => row.isNamed userId (serverAsI16 serverId) name,
        some (now + deletionTime.toInt32.toInt * 60000000000).toNat)
  | .restoreCharacter userId name serverId =>
      some (fun row => row.isNamed userId (serverAsI16 serverId) name && row.isPending now, none)
  | _ => none

/-- The row of an `INSERT`. -/
def Task.inserts : Task → Option CharacterRow
  | .createCharacter userId serverId character =>
      some ⟨userId, serverAsI32 serverId, insertedCharacter character⟩
  | _ => none

/-- The date of the deletion of a row after a task. -/
def Task.updateRow (now : Instant) (task : Task) (row : CharacterRow) : CharacterRow :=
  match task.updates now with
  | some (cond, deletionEnd) =>
      if cond row then { row with character := { row.character with deletionEnd } } else row
  | none => row

/-- A task sets dates, and adds a row. -/
theorem Task.run_table (lower : String → String) (now : Instant) (task : Task) (table : CharacterTable) :
    (task.run lower now table).1 = table.map (task.updateRow now) ++ task.inserts.toList := by
  have hsame : task.updates now = none → table.map (task.updateRow now) = table := by
    intro hnone
    have hrow : task.updateRow now = id := funext fun row => by rw [updateRow, hnone]; rfl
    rw [hrow, List.map_id]
  cases task with
  | createCharacter =>
      rw [hsame rfl]
      rfl
  | loadCharactersSparse | checkNameAvailable =>
      rw [hsame rfl]
      exact (List.append_nil table).symm
  | startDeleteCharacter | restoreCharacter =>
      exact (List.append_nil _).symm

theorem Task.updateRow_frame (now : Instant) (task : Task) (row : CharacterRow) :
    ∃ deletionEnd, task.updateRow now row = { row with character := { row.character with deletionEnd } } := by
  rw [updateRow]
  split
  · split
    · exact ⟨_, rfl⟩
    · exact ⟨row.character.deletionEnd, rfl⟩
  · exact ⟨row.character.deletionEnd, rfl⟩

/-! ### Names -/

section Names

variable (lower : String → String)

/-- The server of a row, and its name as names are compared. -/
def CharacterRow.key (row : CharacterRow) : Int32 × String := (row.serverId, lower row.character.charname)

/-- No two characters of a server have the same name. -/
def NamesDistinct (table : CharacterTable) : Prop := (table.map (CharacterRow.key lower)).Nodup

/-- If the event creates a character, its name is free. -/
def Lobby.GivesFreeName (s : Lobby) : LobbyEvent → Prop
  | .runTask k => ∀ task ∈ s.spawned[k]?, ∀ row ∈ task.inserts, row.key lower ∉ s.table.map (CharacterRow.key lower)
  | _ => True

variable {lower}

theorem namesDistinct_run_iff (now : Instant) (task : Task) {table : CharacterTable}
    (h : NamesDistinct lower table) :
    NamesDistinct lower (task.run lower now table).1 ↔
      ∀ row ∈ task.inserts, row.key lower ∉ table.map (CharacterRow.key lower) := by
  have hkeys : (table.map (task.updateRow now)).map (CharacterRow.key lower) = table.map (CharacterRow.key lower) := by
    rw [List.map_map]
    refine List.map_congr_left fun row _ => ?_
    obtain ⟨deletionEnd, hrow⟩ := task.updateRow_frame now row
    rw [Function.comp_apply, hrow]
    rfl
  rw [NamesDistinct] at h
  rw [NamesDistinct, Task.run_table, List.map_append, hkeys]
  cases task.inserts with
  | none => simpa using h
  | some row =>
      have hrow : (∀ row' ∈ some row, row'.key lower ∉ table.map (CharacterRow.key lower)) ↔
          row.key lower ∉ table.map (CharacterRow.key lower) := by simp
      rw [hrow, Option.toList_some, List.map_singleton, ← List.concat_eq_append, List.nodup_concat]
      exact and_iff_left h

variable {profile : Profile} {data : WorldData} {iteration : Iteration} {maxLevel : UInt8}
  {settings : SelectionSettings} {max : UInt16} {reservationValidTime : UInt64} {s t : Lobby}

/-- What an event does to the rows. -/
theorem Lobby.event_table {e : LobbyEvent}
    (h : Lobby.event profile data iteration maxLevel settings max reservationValidTime lower e s = some t) :
    (∃ k task, e = .runTask k ∧ s.spawned[k]? = some task ∧ t.table = (task.run lower s.now s.table).1 ∧
      t.now = s.now) ∨
    ((∀ k, e ≠ .runTask k) ∧ t.table = s.table ∧ s.now ≤ t.now) := by
  cases e with
  | login event =>
      obtain ⟨server, -, h⟩ := Option.bind_eq_some_iff.1 h
      obtain rfl := Option.some_inj.1 h
      exact .inr ⟨fun k heq => (by cases heq), rfl, le_rfl⟩
  | turn i turn =>
      obtain ⟨client, -, h⟩ := Option.bind_eq_some_iff.1 h
      split at h
      · obtain ⟨after, -, h⟩ := Option.bind_eq_some_iff.1 h
        obtain rfl := Option.some_inj.1 h
        exact .inr ⟨fun k heq => (by cases heq), rfl, le_rfl⟩
      · cases h
  | runTask k =>
      obtain ⟨task, htask, h⟩ := Option.bind_eq_some_iff.1 h
      obtain rfl := Option.some_inj.1 h
      exact .inl ⟨k, task, rfl, htask, rfl, rfl⟩
  | later now =>
      obtain rfl := Option.some_inj.1 h
      exact .inr ⟨fun k heq => (by cases heq), rfl, Nat.le_max_left s.now now⟩

theorem namesDistinct_event_iff {e : LobbyEvent}
    (h : Lobby.event profile data iteration maxLevel settings max reservationValidTime lower e s = some t)
    (hs : NamesDistinct lower s.table) : NamesDistinct lower t.table ↔ s.GivesFreeName lower e := by
  rcases Lobby.event_table h with ⟨k, task, rfl, htask, htable, -⟩ | ⟨hother, htable, -⟩
  · rw [htable, namesDistinct_run_iff s.now task hs, Lobby.GivesFreeName, htask]
    exact ⟨fun hfree task' htask' => Option.some_inj.1 htask' ▸ hfree, fun hfree => hfree task rfl⟩
  · rw [htable]
    refine iff_of_true hs ?_
    cases e with
    | runTask k => exact absurd rfl (hother k)
    | login | turn | later => trivial

variable (lower profile data iteration maxLevel settings max reservationValidTime)

/-- **Names stay distinct exactly if every character is created while its name is free.** -/
theorem names_distinct_iff (events : List LobbyEvent) (s : Lobby) (hs : NamesDistinct lower s.table) :
    Reached (Lobby.event profile data iteration maxLevel settings max reservationValidTime lower)
        (fun t => NamesDistinct lower t.table) events s ↔
      AllSteps (Lobby.event profile data iteration maxLevel settings max reservationValidTime lower)
        (Lobby.GivesFreeName lower) events s :=
  reached_iff_allSteps (fun _ _ _ _ hs h => namesDistinct_event_iff h hs) hs

/-- Two tasks that give the same name, which was free for both of those who asked. -/
def twoHeroes : Lobby :=
  { Lobby.start 0 [] with
    spawned := [.createCharacter 1 1 (createCharacterFrom "Hero" 1907 0 0 0 0),
      .createCharacter 2 1 (createCharacterFrom "Hero" 1907 0 0 0 0)] }

theorem two_heroes_clash :
    ¬ Reached (Lobby.event .debug emptyWorld .ascending 80 selectionSettings 2 30 id)
      (fun t => NamesDistinct id t.table) [.runTask 0, .runTask 0] twoHeroes := by
  intro h
  have hall := (names_distinct_iff id .debug emptyWorld .ascending 80 selectionSettings 2 30 _ twoHeroes
    List.nodup_nil).1 h
  obtain ⟨s, hs⟩ : ∃ s, Lobby.event .debug emptyWorld .ascending 80 selectionSettings 2 30 id (.runTask 0) twoHeroes =
    some s := ⟨_, rfl⟩
  obtain ⟨-, hlast⟩ := hall s hs
  obtain rfl := Option.some_inj.1 hs
  exact (hlast _ rfl).1 _ rfl _ rfl (by decide)

end Names

/-! ### Deletions -/

section Deletions

variable {lower : String → String} {profile : Profile} {data : WorldData} {iteration : Iteration} {maxLevel : UInt8}
  {settings : SelectionSettings} {max : UInt16} {reservationValidTime : UInt64} {s t : Lobby}

/-- The row is there, and not listed any more. -/
def Unlisted (i : ℕ) (s : Lobby) : Prop := ∃ row, s.table[i]? = some row ∧ row.isListed s.now = false

/-- If the event starts the deletion of the row, it ends at once. -/
def Lobby.LeavesDeleted (i : ℕ) (s : Lobby) : LobbyEvent → Prop
  | .runTask k => ∀ userId name serverId deletionTime,
      s.spawned[k]? = some (.startDeleteCharacter userId name serverId deletionTime) →
        ∀ row ∈ s.table[i]?, row.isNamed userId (serverAsI16 serverId) name = true →
          deletionTime.toInt32.toInt ≤ 0
  | _ => True

/-- A row is not listed once its deletion has ended. -/
theorem isListed_eq_false_iff {row : CharacterRow} {now : Instant} :
    row.isListed now = false ↔ ∃ deletionEnd, row.character.deletionEnd = some deletionEnd ∧ deletionEnd ≤ now := by
  rw [CharacterRow.isListed, CharacterRow.isPending]
  cases row.character.deletionEnd with
  | none => simp
  | some deletionEnd => simp

theorem endsAtOnce_iff (now : ℕ) (deletionTime : UInt32) :
    (now + deletionTime.toInt32.toInt * 60000000000).toNat ≤ now ↔ deletionTime.toInt32.toInt ≤ 0 := by
  omega

/-- A date in the future is what a task gives to a row that has been deleted, if it gives one. -/
theorem isListed_updateRow {task : Task} {row : CharacterRow} {now : Instant} (h : row.isListed now = false) :
    (task.updateRow now row).isListed now = false ↔
      ∀ userId name serverId deletionTime, task = .startDeleteCharacter userId name serverId deletionTime →
        row.isNamed userId (serverAsI16 serverId) name = true → deletionTime.toInt32.toInt ≤ 0 := by
  cases task with
  | createCharacter | loadCharactersSparse | checkNameAvailable =>
      exact iff_of_true h fun _ _ _ _ heq => by cases heq
  | restoreCharacter userId name serverId =>
      have hpending : row.isPending now = false := (Bool.or_eq_false_iff.1 h).1
      have hrow : (Task.restoreCharacter userId name serverId).updateRow now row = row := by
        rw [Task.updateRow]
        simp [Task.updates, hpending]
      rw [hrow]
      exact iff_of_true h fun _ _ _ _ heq => by cases heq
  | startDeleteCharacter userId name serverId deletionTime =>
      have hcond : (∀ userId' name' serverId' deletionTime', Task.startDeleteCharacter userId name serverId deletionTime =
            .startDeleteCharacter userId' name' serverId' deletionTime' →
            row.isNamed userId' (serverAsI16 serverId') name' = true → deletionTime'.toInt32.toInt ≤ 0) ↔
          (row.isNamed userId (serverAsI16 serverId) name = true → deletionTime.toInt32.toInt ≤ 0) :=
        ⟨fun hall => hall _ _ _ _ rfl, fun hone _ _ _ _ heq => by cases heq; exact hone⟩
      rw [hcond, Task.updateRow]
      simp only [Task.updates]
      split
      · rename_i hnamed
        rw [isListed_eq_false_iff]
        constructor
        · rintro ⟨deletionEnd, heq, hle⟩ -
          obtain rfl := Option.some_inj.1 heq
          exact (endsAtOnce_iff now deletionTime).1 hle
        · intro hle
          exact ⟨_, rfl, (endsAtOnce_iff now deletionTime).2 (hle hnamed)⟩
      · rename_i hnamed
        exact iff_of_true h fun heq => absurd heq hnamed

theorem getElem?_run_table {task : Task} {now : Instant} {table : CharacterTable} {i : ℕ} {row : CharacterRow}
    (h : table[i]? = some row) :
    (task.run lower now table).1[i]? = some (task.updateRow now row) := by
  have hi : i < (table.map (task.updateRow now)).length := by
    rw [List.length_map]
    exact (List.getElem?_eq_some_iff.1 h).1
  rw [Task.run_table, List.getElem?_append_left hi, List.getElem?_map, h]
  rfl

theorem unlisted_event_iff {i : ℕ} {e : LobbyEvent}
    (h : Lobby.event profile data iteration maxLevel settings max reservationValidTime lower e s = some t)
    (hs : Unlisted i s) : Unlisted i t ↔ s.LeavesDeleted i e := by
  obtain ⟨row, hrow, hunlisted⟩ := hs
  rcases Lobby.event_table h with ⟨k, task, rfl, htask, htable, hnow⟩ | ⟨hother, htable, hnow⟩
  · have hafter : Unlisted i t ↔ (task.updateRow s.now row).isListed s.now = false := by
      rw [Unlisted, htable, hnow, getElem?_run_table hrow]
      exact ⟨fun ⟨row', hrow', hlisted⟩ => Option.some_inj.1 hrow' ▸ hlisted, fun hlisted => ⟨_, rfl, hlisted⟩⟩
    rw [hafter, isListed_updateRow hunlisted, Lobby.LeavesDeleted, htask, hrow]
    constructor
    · intro hall userId name serverId deletionTime heq row' hrow' hnamed
      exact hall userId name serverId deletionTime (Option.some_inj.1 heq) (Option.some_inj.1 hrow' ▸ hnamed)
    · intro hall userId name serverId deletionTime heq hnamed
      exact hall userId name serverId deletionTime (congrArg some heq) row rfl hnamed
  · have hafter : Unlisted i t := by
      obtain ⟨deletionEnd, hend, hle⟩ := isListed_eq_false_iff.1 hunlisted
      exact ⟨row, htable ▸ hrow, isListed_eq_false_iff.2 ⟨deletionEnd, hend, hle.trans hnow⟩⟩
    refine iff_of_true hafter ?_
    cases e with
    | runTask k => exact absurd rfl (hother k)
    | login | turn | later => trivial

variable (profile data iteration maxLevel settings max reservationValidTime lower)

/-- **A deleted character stays deleted exactly if its deletion is not started once more.** -/
theorem unlisted_iff (i : ℕ) (events : List LobbyEvent) (s : Lobby) (hs : Unlisted i s) :
    Reached (Lobby.event profile data iteration maxLevel settings max reservationValidTime lower) (Unlisted i)
        events s ↔
      AllSteps (Lobby.event profile data iteration maxLevel settings max reservationValidTime lower)
        (Lobby.LeavesDeleted i) events s :=
  reached_iff_allSteps (fun _ _ _ _ hs h => unlisted_event_iff h hs) hs

/-- A character whose deletion has ended, and the tasks of a client that has not noticed. -/
def deletedHero : Lobby :=
  { Lobby.start 10 [⟨1, 1, { (storedCharacter 1 "Hero").character with deletionEnd := some 5 }⟩] with
    spawned := [.restoreCharacter 1 "Hero" 1, .startDeleteCharacter 1 "Hero" 1 10080] }

/-- It cannot be restored, but it is there again when it is deleted once more. -/
theorem deleted_hero_returns :
    Reached (Lobby.event .debug emptyWorld .ascending 80 selectionSettings 2 30 id) (Unlisted 0) [.runTask 0]
        deletedHero ∧
      ¬ Reached (Lobby.event .debug emptyWorld .ascending 80 selectionSettings 2 30 id) (Unlisted 0) [.runTask 1]
        deletedHero := by
  have hs : Unlisted 0 deletedHero := ⟨_, rfl, by decide⟩
  constructor
  · refine (unlisted_iff id .debug emptyWorld .ascending 80 selectionSettings 2 30 0 _ deletedHero hs).2 ?_
    exact fun t _ => ⟨fun userId name serverId deletionTime heq => (by cases heq), trivial⟩
  · intro h
    have hall := (unlisted_iff id .debug emptyWorld .ascending 80 selectionSettings 2 30 0 _ deletedHero hs).1 h
    exact absurd ((hall _ rfl).1 1 "Hero" 1 10080 rfl _ rfl (by decide)) (by decide)

end Deletions

end Skrillax

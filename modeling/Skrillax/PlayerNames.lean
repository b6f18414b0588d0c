/-
**Players by their names.**

A private message names the player for whom it is, and `EntityLookup` finds the entity under that name.  The
map is filled at the end of a tick, with the players that are new, and players that are gone are taken out of it
at the beginning of one.  Two players of one name are two entities under one key: whoever is collected later is
found, and when that one leaves, nobody is.

Main definitions:

* `FindsPlayers` — every player that was collected is found under its name;
* `DistinctNames` — no two players have the same name when players are collected.

Main results:

* `HasHadId.step` — an entity that has had an id is never without one as long as it is there;
* `NamesSound.step` — whoever is found under a name is gone, or is the player of that name;
* `found_by_name_iff` — **throughout a run exactly the players that were collected are found under their names
  if and only if their names are distinct whenever players are collected**.
-/

import Skrillax.EntityIds

set_option relaxedAutoImplicit false
set_option autoImplicit false

namespace Skrillax

open PartialAction

namespace IdWorld

variable {Pool : Type} {ids : IdPool Pool} {w w' : IdWorld Pool}

/-- Every player that was collected is found under its name. -/
def FindsPlayers (w : IdWorld Pool) : Prop :=
  ∀ record ∈ w.entities, record.added = false → ∀ name ∈ record.player,
    w.lookup.getEntityForName name = some record.entity

/-- Whoever is found under a name has it, unless the entity is gone. -/
def OnlyFindsPlayers (w : IdWorld Pool) : Prop :=
  ∀ name entity, w.lookup.getEntityForName name = some entity →
    ∀ record ∈ w.entities, record.entity = entity → record.player = some name

/-- When players are collected, they have distinct names. -/
def DistinctNames (w : IdWorld Pool) : IdAction → Prop
  | .collectEntities => (w.entities.filterMap EntityRecord.player).Nodup
  | _ => True

instance (w : IdWorld Pool) : DecidablePred w.DistinctNames
  | .collectEntities => inferInstanceAs (Decidable (List.Nodup _))
  | .accept _ | .spawn _ _ _ | .handleJoin _ _ _ | .despawn _ | .applyCommand _ | .maintainEntities => .isTrue trivial

/-- The entity was spawned, and has an id as long as it is there. -/
def HasHadId (w : IdWorld Pool) (entity : Entity) : Prop :=
  entity ∈ w.reserved ∧ entity ∉ w.commands.filterMap EntityCommand.spawned ∧
    ∀ record ∈ w.entities, record.entity = entity → record.gameEntity.isSome = true

/-- The invariant of the names: a player has an id, one that is to be spawned is none, and an entity under a
name has had one. -/
structure NamesSound (w : IdWorld Pool) : Prop where
  only : w.OnlyFindsPlayers
  found : ∀ name entity, w.lookup.getEntityForName name = some entity → w.HasHadId entity
  players : ∀ record ∈ w.entities, record.player.isSome = true → record.gameEntity.isSome = true
  spawns : ∀ record, .spawn record ∈ w.commands → record.player = none

/-! ### What a step does -/

/-- The names are left alone, and what is new are commands that spawn new entities. -/
structure Keeps (w w' : IdWorld Pool) : Prop where
  lookup : w'.lookup = w.lookup
  reserved : ∀ entity ∈ w.reserved, entity ∈ w'.reserved
  spawns : ∀ record, .spawn record ∈ w'.commands →
    .spawn record ∈ w.commands ∨ (record.entity ∉ w.reserved ∧ record.player = none)
  records : ∀ record ∈ w'.entities, ∃ old ∈ w.entities, record.entity = old.entity ∧
    record.player = old.player ∧ record.gameEntity = old.gameEntity ∧ record.added = old.added

theorem Keeps.of_eq (hlookup : w'.lookup = w.lookup) (hreserved : w'.reserved = w.reserved)
    (hcommands : ∀ record, .spawn record ∈ w'.commands → .spawn record ∈ w.commands)
    (hentities : ∀ record ∈ w'.entities, record ∈ w.entities) : w.Keeps w' where
  lookup := hlookup
  reserved := fun _ h => hreserved ▸ h
  spawns := fun record h => .inl (hcommands record h)
  records := fun record h => ⟨record, hentities record h, rfl, rfl, rfl, rfl⟩

/-- A command that spawns an entity is queued. -/
theorem Keeps.pushSpawn (record : EntityRecord) (hnew : record.entity ∉ w.reserved) (hplayer : record.player = none)
    (hlookup : w'.lookup = w.lookup) (hreserved : w'.reserved = record.entity :: w.reserved)
    (hcommands : w'.commands = w.commands ++ [.spawn record]) (hentities : w'.entities = w.entities) :
    w.Keeps w' where
  lookup := hlookup
  reserved := fun entity h => hreserved ▸ List.mem_cons_of_mem _ h
  spawns := fun record' h => by
    rw [hcommands] at h
    rcases List.mem_append.1 h with h | h
    · exact .inl h
    · obtain rfl := EntityCommand.spawn.inj (List.mem_singleton.1 h)
      exact .inr ⟨hnew, hplayer⟩
  records := fun record' h => ⟨record', hentities ▸ h, rfl, rfl, rfl, rfl⟩

theorem getEntityForName_maintain {name : String} {entity : Entity} :
    (w.maintainEntities ids).lookup.getEntityForName name = some entity ↔
      w.lookup.getEntityForName name = some entity ∧ entity ∈ w.known := by
  have hmem : ∀ players : AList fun _ : String => Entity,
      players.lookup name = some entity ↔ Sigma.mk name entity ∈ players.entries := fun players =>
    AList.mem_lookup_iff
  unfold EntityLookup.getEntityForName
  rw [hmem, hmem]
  show Sigma.mk name entity ∈ w.lookup.playerMap.entries.filter (fun entry => w.contains entry.2) ↔ _
  rw [List.mem_filter]
  simp [contains]

/-- Everything that a step can do to the names. -/
theorem step_cases {action : IdAction} (h : IdWorld.step ids action w = some w') :
    (action ≠ .collectEntities ∧ w.Keeps w') ∨
    (action ≠ .collectEntities ∧ ∃ record, .spawn record ∈ w.commands ∧ w'.lookup = w.lookup ∧
      w'.reserved = w.reserved ∧ w'.entities = w.entities ++ [record] ∧
      ∀ command ∈ w'.commands, command ∈ w.commands) ∨
    (action ≠ .collectEntities ∧ ∃ client gameEntity name, .insertPlayer client gameEntity name ∈ w.commands ∧
      (∃ record ∈ w.entities, record.entity = client) ∧ w'.lookup = w.lookup ∧ w'.reserved = w.reserved ∧
      (∀ command ∈ w'.commands, command ∈ w.commands) ∧
      w'.entities = w.entities.map fun record =>
        if record.entity = client then
          { record with gameEntity := some gameEntity, player := some name, added := true }
        else record) ∨
    (action = .collectEntities ∧ w' = w.collectEntities) ∨
    (action ≠ .collectEntities ∧ w' = w.maintainEntities ids) := by
  cases action with
  | accept entity =>
      refine .inl ⟨by simp, ?_⟩
      simp only [IdWorld.step] at h
      split at h
      · exact Option.some_inj.1 h ▸ Keeps.of_eq rfl rfl (fun _ h => h) fun _ h => h
      · rename_i hnew
        exact Option.some_inj.1 h ▸ Keeps.pushSpawn ⟨entity, none, none, false, true⟩ hnew rfl rfl rfl rfl rfl
  | spawn system entity refId =>
      refine .inl ⟨by simp, ?_⟩
      simp only [IdWorld.step] at h
      split at h
      · exact Option.some_inj.1 h ▸ Keeps.of_eq rfl rfl (fun _ h => h) fun _ h => h
      · rename_i hnew
        obtain ⟨⟨uniqueId, pool⟩, -, h⟩ := Option.bind_eq_some_iff.1 h
        exact Option.some_inj.1 h ▸ Keeps.pushSpawn
          ⟨entity, some ⟨uniqueId, refId⟩, none, true, false⟩ hnew rfl rfl rfl rfl rfl
  | handleJoin client refId name =>
      refine .inl ⟨by simp, ?_⟩
      simp only [IdWorld.step, handleJoin] at h
      split at h
      · obtain ⟨⟨uniqueId, pool⟩, -, h⟩ := Option.bind_eq_some_iff.1 h
        obtain rfl := Option.some_inj.1 h
        refine ⟨rfl, fun entity h => h, fun record hmem => .inl ?_, fun record hmem => ?_⟩
        · exact (List.mem_append.1 hmem).resolve_right fun heq => by cases List.mem_singleton.1 heq
        · obtain ⟨old, hold, rfl⟩ := List.mem_map.1 hmem
          refine ⟨old, hold, ?_⟩
          split <;> exact ⟨rfl, rfl, rfl, rfl⟩
      · exact Option.some_inj.1 h ▸ Keeps.of_eq rfl rfl (fun _ h => h) fun _ h => h
  | despawn entity =>
      refine .inl ⟨by simp, ?_⟩
      simp only [IdWorld.step, despawn] at h
      obtain rfl := Option.some_inj.1 h
      split
      · refine Keeps.of_eq rfl rfl (fun record hmem => ?_) fun _ h => h
        exact (List.mem_append.1 hmem).resolve_right fun heq => by cases List.mem_singleton.1 heq
      · exact Keeps.of_eq rfl rfl (fun _ h => h) fun _ h => h
  | applyCommand index =>
      simp only [IdWorld.step, applyCommand] at h
      split at h
      · rename_i command hcommand
        have hmem := List.mem_of_getElem? hcommand
        have hrest : ∀ command' ∈ w.commands.eraseIdx index, command' ∈ w.commands := fun _ h =>
          List.mem_of_mem_eraseIdx h
        cases command with
        | spawn record =>
            obtain rfl := Option.some_inj.1 h
            exact .inr (.inl ⟨by simp, record, hmem, rfl, rfl, rfl, hrest⟩)
        | insertPlayer client gameEntity name =>
            simp only [apply] at h
            split at h
            · rename_i hany
              obtain rfl := Option.some_inj.1 h
              obtain ⟨record, hrecord, heq⟩ := List.any_eq_true.1 hany
              exact .inr (.inr (.inl ⟨by simp, client, gameEntity, name, hmem,
                ⟨record, hrecord, by simpa using heq⟩, rfl, rfl, hrest, rfl⟩))
            · cases h
        | despawn entity =>
            obtain rfl := Option.some_inj.1 h
            refine .inl ⟨by simp, Keeps.of_eq rfl rfl (fun record h => hrest _ h) fun record h => ?_⟩
            exact List.mem_of_mem_filter h
      · exact .inl ⟨by simp, Option.some_inj.1 h ▸ Keeps.of_eq rfl rfl (fun _ h => h) fun _ h => h⟩
  | collectEntities => exact .inr (.inr (.inr (.inl ⟨rfl, (Option.some_inj.1 h).symm⟩)))
  | maintainEntities => exact .inr (.inr (.inr (.inr ⟨by simp, (Option.some_inj.1 h).symm⟩)))

/-! ### The names stay sound -/

theorem mem_spawned {commands : List EntityCommand} {entity : Entity} :
    entity ∈ commands.filterMap EntityCommand.spawned ↔ ∃ record, .spawn record ∈ commands ∧ record.entity = entity := by
  rw [List.mem_filterMap]
  constructor
  · rintro ⟨command, hcommand, hspawned⟩
    cases command with
    | spawn record => exact ⟨record, hcommand, Option.some_inj.1 hspawned⟩
    | insertPlayer | despawn => cases hspawned
  · rintro ⟨record, hcommand, rfl⟩
    exact ⟨.spawn record, hcommand, rfl⟩

theorem HasHadId.keeps {entity : Entity} (h : w.HasHadId entity) (hkeeps : w.Keeps w') : w'.HasHadId entity := by
  obtain ⟨hreserved, hspawned, hgame⟩ := h
  refine ⟨hkeeps.reserved entity hreserved, fun hmem => ?_, fun record hrecord heq => ?_⟩
  · obtain ⟨record, hcommand, rfl⟩ := mem_spawned.1 hmem
    rcases hkeeps.spawns record hcommand with hold | ⟨hnew, -⟩
    · exact hspawned (mem_spawned.2 ⟨record, hold, rfl⟩)
    · exact hnew hreserved
  · obtain ⟨old, hold, hentity, -, hgameEntity, -⟩ := hkeeps.records record hrecord
    rw [hgameEntity]
    exact hgame old hold (hentity.symm.trans heq)

/-- Another entity is spawned. -/
theorem HasHadId.spawn {entity : Entity} (h : w.HasHadId entity) {record : EntityRecord}
    (hrecord : .spawn record ∈ w.commands) (hreserved : w'.reserved = w.reserved)
    (hentities : w'.entities = w.entities ++ [record]) (hcommands : ∀ command ∈ w'.commands, command ∈ w.commands) :
    w'.HasHadId entity := by
  obtain ⟨hmem, hspawned, hgame⟩ := h
  refine ⟨hreserved ▸ hmem, fun hnew => ?_, fun other hother heq => ?_⟩
  · obtain ⟨other, hcommand, hother⟩ := mem_spawned.1 hnew
    exact hspawned (mem_spawned.2 ⟨other, hcommands _ hcommand, hother⟩)
  · rw [hentities] at hother
    rcases List.mem_append.1 hother with hother | hother
    · exact hgame other hother heq
    · obtain rfl := List.mem_singleton.1 hother
      exact absurd (mem_spawned.2 ⟨other, hrecord, heq⟩) hspawned

/-- A client that is about to become a player has had no id. -/
theorem WellFormed.not_hasHadId (hw : w.WellFormed) {client : Entity} {gameEntity : GameEntity} {name : String}
    (hcommand : .insertPlayer client gameEntity name ∈ w.commands)
    (hclient : ∃ record ∈ w.entities, record.entity = client) : ¬ w.HasHadId client := by
  rintro ⟨-, -, hgame⟩
  obtain ⟨record, hrecord, heq⟩ := hclient
  have hsome := hgame record hrecord heq
  rw [((hw.joining client gameEntity name hcommand).2.2 record hrecord heq).1] at hsome
  cases hsome

/-- The records after a client has become a player: those of the others are the same. -/
theorem mem_insertPlayer {records : List EntityRecord} {client : Entity} {gameEntity : GameEntity} {name : String}
    {record : EntityRecord}
    (h : record ∈ records.map fun record =>
      if record.entity = client then { record with gameEntity := some gameEntity, player := some name, added := true }
      else record) :
    (record.entity = client ∧ record.gameEntity.isSome = true ∧ record.player = some name ∧ record.added = true) ∨
      (record.entity ≠ client ∧ record ∈ records) := by
  obtain ⟨old, hold, rfl⟩ := List.mem_map.1 h
  by_cases heq : old.entity = client
  · rw [if_pos heq]
    exact .inl ⟨heq, rfl, rfl, rfl⟩
  · rw [if_neg heq]
    exact .inr ⟨heq, hold⟩

/-- **Whoever has had an id is never without one.** -/
theorem HasHadId.step {entity : Entity} (h : w.HasHadId entity) (hw : w.WellFormed) {action : IdAction}
    (hstep : IdWorld.step ids action w = some w') : w'.HasHadId entity := by
  rcases step_cases hstep with ⟨-, hkeeps⟩ | ⟨-, record, hrecord, -, hreserved, hentities, hcommands⟩ |
    ⟨-, client, gameEntity, name, hcommand, hclient, -, hreserved, hcommands, hentities⟩ | ⟨-, rfl⟩ | ⟨-, rfl⟩
  · exact h.keeps hkeeps
  · exact h.spawn hrecord hreserved hentities hcommands
  · have hne : entity ≠ client := fun heq => hw.not_hasHadId hcommand hclient (heq ▸ h)
    obtain ⟨hmem, hspawned, hgame⟩ := h
    refine ⟨hreserved ▸ hmem, fun hspawn => ?_, fun record hrecord heq => ?_⟩
    · obtain ⟨record, hrecord, hentity⟩ := mem_spawned.1 hspawn
      exact hspawned (mem_spawned.2 ⟨record, hcommands _ hrecord, hentity⟩)
    · rcases mem_insertPlayer (hentities ▸ hrecord) with ⟨hclient, -⟩ | ⟨-, hold⟩
      · exact absurd (heq.symm.trans hclient) hne
      · exact hgame record hold heq
  · refine ⟨h.1, h.2.1, fun record hrecord heq => ?_⟩
    obtain ⟨old, hold, rfl⟩ := List.mem_map.1 hrecord
    exact h.2.2 old hold heq
  · exact h

/-! ### Collecting -/

/-- The record is collected under this name. -/
def CollectedAs (record : EntityRecord) (name : String) : Prop :=
  record.added = true ∧ record.gameEntity.isSome = true ∧ record.player = some name

theorem getEntityForName_collect (lookup : EntityLookup) (record : EntityRecord) (name : String) :
    (CollectedAs record name → (lookup.collect record).getEntityForName name = some record.entity) ∧
      (¬ CollectedAs record name → (lookup.collect record).getEntityForName name = lookup.getEntityForName name) := by
  unfold EntityLookup.collect CollectedAs
  cases hadded : record.added with
  | false => simp
  | true =>
      cases hgame : record.gameEntity with
      | none => simp
      | some gameEntity =>
          cases hplayer : record.player with
          | none => simp [EntityLookup.addEntity, EntityLookup.getEntityForName]
          | some other =>
              constructor
              · rintro ⟨-, -, heq⟩
                obtain rfl := Option.some_inj.1 heq
                exact AList.lookup_insert _
              · intro hne
                refine AList.lookup_insert_ne fun heq => hne ⟨rfl, rfl, ?_⟩
                rw [heq]

/-- Every entry after a collection was there before, or is that of a player who was collected. -/
theorem getEntityForName_of_foldl {records : List EntityRecord} :
    ∀ {lookup : EntityLookup} {name : String} {entity : Entity},
      (records.foldl EntityLookup.collect lookup).getEntityForName name = some entity →
      lookup.getEntityForName name = some entity ∨
        ∃ record ∈ records, CollectedAs record name ∧ record.entity = entity := by
  induction records with
  | nil => exact fun h => .inl h
  | cons record records ih =>
      intro lookup name entity h
      rcases ih h with h | ⟨other, hother, hcollected⟩
      · by_cases hrecord : CollectedAs record name
        · rw [(getEntityForName_collect lookup record name).1 hrecord] at h
          exact .inr ⟨record, List.mem_cons_self, hrecord, Option.some_inj.1 h⟩
        · rw [(getEntityForName_collect lookup record name).2 hrecord] at h
          exact .inl h
      · exact .inr ⟨other, List.mem_cons_of_mem _ hother, hcollected⟩

/-- An entry is there after a collection if it was before, or if its player is collected, and nobody else has
the name. -/
theorem foldl_getEntityForName {records : List EntityRecord} {name : String} {entity : Entity}
    (hunique : ∀ record ∈ records, record.player = some name → record.entity = entity) :
    ∀ {lookup : EntityLookup},
      (lookup.getEntityForName name = some entity ∨ ∃ record ∈ records, CollectedAs record name) →
      (records.foldl EntityLookup.collect lookup).getEntityForName name = some entity := by
  induction records with
  | nil => exact fun h => h.elim (fun h => h) fun ⟨_, hr, _⟩ => by cases hr
  | cons record records ih =>
      intro lookup h
      refine ih (fun r hr => hunique r (List.mem_cons_of_mem _ hr)) ?_
      by_cases hrecord : CollectedAs record name
      · left
        rw [(getEntityForName_collect lookup record name).1 hrecord]
        exact congrArg some (hunique record List.mem_cons_self hrecord.2.2)
      · rw [(getEntityForName_collect lookup record name).2 hrecord]
        rcases h with h | ⟨other, hother, hcollected⟩
        · exact .inl h
        · rcases List.mem_cons.1 hother with rfl | hother
          · exact absurd hcollected hrecord
          · exact .inr ⟨other, hother, hcollected⟩

theorem WellFormed.record_unique (h : w.WellFormed) {record other : EntityRecord} (hrecord : record ∈ w.entities)
    (hother : other ∈ w.entities) (heq : record.entity = other.entity) : record = other :=
  List.inj_on_of_nodup_map (List.nodup_append.1 h.nodup).1 hrecord hother heq

theorem WellFormed.not_spawned (h : w.WellFormed) {record : EntityRecord} (hrecord : record ∈ w.entities) :
    record.entity ∉ w.commands.filterMap EntityCommand.spawned :=
  fun hspawned => (List.nodup_append.1 h.nodup).2.2 _ (List.mem_map_of_mem hrecord) _ hspawned rfl

/-- A player who is collected has had an id. -/
theorem WellFormed.hasHadId (h : w.WellFormed) {record : EntityRecord} (hrecord : record ∈ w.entities)
    (hgame : record.gameEntity.isSome = true) : w.HasHadId record.entity :=
  ⟨h.reserved _ (mem_known.2 (.inl ⟨record, hrecord, rfl⟩)), h.not_spawned hrecord,
    fun _ hother heq => h.record_unique hrecord hother heq.symm ▸ hgame⟩

/-- An entry after a step was there before, or is that of a player who is collected. -/
theorem getEntityForName_step {action : IdAction} (hstep : IdWorld.step ids action w = some w') {name : String}
    {entity : Entity} (h : w'.lookup.getEntityForName name = some entity) :
    w.lookup.getEntityForName name = some entity ∨
      ∃ record ∈ w.entities, CollectedAs record name ∧ record.entity = entity := by
  rcases step_cases hstep with ⟨-, hkeeps⟩ | ⟨-, -, -, hlookup, -⟩ | ⟨-, -, -, -, -, -, hlookup, -⟩ | ⟨-, rfl⟩ |
    ⟨-, rfl⟩
  · exact .inl (hkeeps.lookup ▸ h)
  · exact .inl (hlookup ▸ h)
  · exact .inl (hlookup ▸ h)
  · exact getEntityForName_of_foldl h
  · exact .inl (getEntityForName_maintain.1 h).1

/-- Whoever is there after a step was there before, as the same player, or has had no id. -/
theorem NamesSound.record_step (h : w.NamesSound) (hw : w.WellFormed) {action : IdAction}
    (hstep : IdWorld.step ids action w = some w') {record : EntityRecord} (hrecord : record ∈ w'.entities) :
    (∃ old ∈ w.entities, old.entity = record.entity ∧ old.player = record.player ∧
        old.gameEntity = record.gameEntity) ∨
      (¬ w.HasHadId record.entity ∧ (record.player.isSome = true → record.gameEntity.isSome = true)) := by
  rcases step_cases hstep with ⟨-, hkeeps⟩ | ⟨-, new, hnew, -, -, hentities, -⟩ |
    ⟨-, client, gameEntity, name, hcommand, hclient, -, -, -, hentities⟩ | ⟨-, rfl⟩ | ⟨-, rfl⟩
  · obtain ⟨old, hold, hentity, hplayer, hgame, -⟩ := hkeeps.records record hrecord
    exact .inl ⟨old, hold, hentity.symm, hplayer.symm, hgame.symm⟩
  · rw [hentities] at hrecord
    rcases List.mem_append.1 hrecord with hrecord | hrecord
    · exact .inl ⟨record, hrecord, rfl, rfl, rfl⟩
    · obtain rfl := List.mem_singleton.1 hrecord
      refine .inr ⟨fun hid => hid.2.1 (mem_spawned.2 ⟨record, hnew, rfl⟩), fun hsome => ?_⟩
      rw [h.spawns record hnew] at hsome
      cases hsome
  · rcases mem_insertPlayer (hentities ▸ hrecord) with ⟨heq, hgame, -⟩ | ⟨-, hold⟩
    · exact .inr ⟨heq ▸ hw.not_hasHadId hcommand hclient, fun _ => hgame⟩
    · exact .inl ⟨record, hold, rfl, rfl, rfl⟩
  · obtain ⟨old, hold, rfl⟩ := List.mem_map.1 hrecord
    exact .inl ⟨old, hold, rfl, rfl, rfl⟩
  · exact .inl ⟨record, hrecord, rfl, rfl, rfl⟩

/-- **A step keeps the invariant of the names.** -/
theorem NamesSound.step (h : w.NamesSound) (hw : w.WellFormed) {action : IdAction}
    (hstep : IdWorld.step ids action w = some w') : w'.NamesSound where
  only := fun name entity hname record hrecord heq => by
    have hfound : w.HasHadId entity ∧ ∀ old ∈ w.entities, old.entity = entity → old.player = some name := by
      rcases getEntityForName_step hstep hname with hname | ⟨other, hother, hcollected, rfl⟩
      · exact ⟨h.found name entity hname, h.only name entity hname⟩
      · refine ⟨hw.hasHadId hother hcollected.2.1, fun old hold heq => ?_⟩
        rw [hw.record_unique hold hother heq]
        exact hcollected.2.2
    rcases h.record_step hw hstep hrecord with ⟨old, hold, hentity, hplayer, -⟩ | ⟨hnot, -⟩
    · exact hplayer ▸ hfound.2 old hold (hentity.trans heq)
    · exact absurd hfound.1 (heq ▸ hnot)
  found := fun name entity hname => by
    refine HasHadId.step ?_ hw hstep
    rcases getEntityForName_step hstep hname with hname | ⟨record, hrecord, hcollected, rfl⟩
    · exact h.found name entity hname
    · exact hw.hasHadId hrecord hcollected.2.1
  players := fun record hrecord hsome => by
    rcases h.record_step hw hstep hrecord with ⟨old, hold, -, hplayer, hgame⟩ | ⟨-, hgame⟩
    · exact hgame ▸ h.players old hold (hplayer ▸ hsome)
    · exact hgame hsome
  spawns := fun record hrecord => by
    rcases step_cases hstep with ⟨-, hkeeps⟩ | ⟨-, -, -, -, -, -, hcommands⟩ |
      ⟨-, -, -, -, -, -, -, -, hcommands, -⟩ | ⟨-, rfl⟩ | ⟨-, rfl⟩
    · exact (hkeeps.spawns record hrecord).elim (h.spawns record) And.right
    · exact h.spawns record (hcommands _ hrecord)
    · exact h.spawns record (hcommands _ hrecord)
    · exact h.spawns record hrecord
    · exact h.spawns record hrecord

/-! ### Whom the names find -/

/-- After a collection all players are found if their names are distinct, and only then. -/
theorem findsPlayers_collect_iff (h : w.NamesSound) (hw : w.WellFormed) (hfinds : w.FindsPlayers) :
    w.collectEntities.FindsPlayers ↔ (w.entities.filterMap EntityRecord.player).Nodup := by
  have hdistinct : w.entities.Pairwise fun a b => a.entity ≠ b.entity :=
    List.pairwise_map.1 (List.nodup_append.1 hw.nodup).1
  have hall : w.collectEntities.FindsPlayers ↔ ∀ record ∈ w.entities, ∀ name ∈ record.player,
      (w.entities.foldl EntityLookup.collect w.lookup).getEntityForName name = some record.entity := by
    constructor
    · intro hfinds record hrecord name hname
      exact hfinds _ (List.mem_map_of_mem hrecord) rfl name hname
    · intro hfound record hrecord _ name hname
      obtain ⟨old, hold, rfl⟩ := List.mem_map.1 hrecord
      exact hfound old hold name hname
  rw [hall, List.Nodup, List.pairwise_filterMap]
  constructor
  · intro hfound
    refine hdistinct.imp_of_mem fun {a b} ha hb hne name hname name' hname' heq => hne ?_
    subst heq
    exact Option.some_inj.1 ((hfound a ha name hname).symm.trans (hfound b hb name hname'))
  · intro hnames record hrecord name hname
    have hunique : ∀ other ∈ w.entities, other.player = some name → other.entity = record.entity := by
      intro other hother hsame
      by_contra hne
      have hsymm : Std.Symm fun a b : EntityRecord =>
          ∀ name, a.player = some name → ∀ name', b.player = some name' → name ≠ name' :=
        ⟨fun a b hab name hname name' hname' => (hab name' hname' name hname).symm⟩
      have hother' : other ≠ record := fun heq => hne (congrArg EntityRecord.entity heq)
      exact hnames.forall hother hrecord hother' name hsame name hname rfl
    refine foldl_getEntityForName hunique ?_
    cases hadded : record.added with
    | false => exact .inl (hfinds record hrecord hadded name hname)
    | true => exact .inr ⟨record, hrecord, hadded, h.players record hrecord (Option.isSome_of_eq_some hname), hname⟩

/-- A step keeps all players found exactly if the names are distinct in case players are collected. -/
theorem findsPlayers_step_iff (h : w.NamesSound) (hw : w.WellFormed) (hfinds : w.FindsPlayers) {action : IdAction}
    (hstep : IdWorld.step ids action w = some w') : w'.FindsPlayers ↔ w.DistinctNames action := by
  have hother : action ≠ .collectEntities → w.DistinctNames action := fun hne => by
    cases action with
    | collectEntities => exact absurd rfl hne
    | accept | spawn | handleJoin | despawn | applyCommand | maintainEntities => trivial
  rcases step_cases hstep with ⟨hne, hkeeps⟩ | ⟨hne, new, hnew, hlookup, -, hentities, -⟩ |
    ⟨hne, client, gameEntity, name, -, -, hlookup, -, -, hentities⟩ | ⟨rfl, rfl⟩ | ⟨hne, rfl⟩
  · refine iff_of_true (fun record hrecord hadded name hname => ?_) (hother hne)
    obtain ⟨old, hold, hentity, hplayer, -, hadded'⟩ := hkeeps.records record hrecord
    rw [hkeeps.lookup, hentity]
    exact hfinds old hold (hadded' ▸ hadded) name (hplayer ▸ hname)
  · refine iff_of_true (fun record hrecord hadded name hname => ?_) (hother hne)
    rw [hentities] at hrecord
    rw [hlookup]
    rcases List.mem_append.1 hrecord with hrecord | hrecord
    · exact hfinds record hrecord hadded name hname
    · obtain rfl := List.mem_singleton.1 hrecord
      rw [h.spawns record hnew] at hname
      cases hname
  · refine iff_of_true (fun record hrecord hadded name' hname => ?_) (hother hne)
    rw [hentities] at hrecord
    rw [hlookup]
    obtain ⟨old, hold, rfl⟩ := List.mem_map.1 hrecord
    by_cases heq : old.entity = client
    · rw [if_pos heq] at hadded
      cases hadded
    · rw [if_neg heq] at hadded hname ⊢
      exact hfinds old hold hadded name' hname
  · exact findsPlayers_collect_iff h hw hfinds
  · refine iff_of_true (fun record hrecord hadded name hname => ?_) (hother hne)
    exact getEntityForName_maintain.2 ⟨hfinds record hrecord hadded name hname, mem_known.2 (.inl ⟨record, hrecord, rfl⟩)⟩

/-- The names before anything happens. -/
theorem namesSound_init (pool : Pool) : (init pool).NamesSound where
  only := fun _ _ h => by cases h
  found := fun _ _ h => by cases h
  players := fun _ h => by cases h
  spawns := fun _ h => by cases h

/-! ### Runs -/

/-- Whatever happens, the ids and the names stay sound. -/
theorem reached_sound {Pool : Type} (ids : IdPool Pool) (pool : Pool) (actions : List IdAction) :
    Reached (IdWorld.step ids) (fun w => w.Sound ids ∧ w.NamesSound) actions (init pool) :=
  reached_of_step (fun _ _ _ _ h hstep => ⟨h.1.step hstep, h.2.step h.1.wellFormed hstep⟩)
    ⟨sound_init pool, namesSound_init pool⟩

/-- The players are found if their names are distinct whenever players are collected. -/
theorem finds_players {Pool : Type} (ids : IdPool Pool) (pool : Pool) {actions : List IdAction}
    (h : AllSteps (IdWorld.step ids) DistinctNames actions (init pool)) :
    Reached (IdWorld.step ids) (fun w => w.FindsPlayers ∧ w.OnlyFindsPlayers) actions (init pool) := by
  have hall : Reached (IdWorld.step ids) (fun w => (w.Sound ids ∧ w.NamesSound) ∧ w.FindsPlayers) actions
      (init pool) := by
    refine reached_of_allSteps (fun _ _ _ _ hw hnames hstep => ⟨⟨hw.1.1.step hstep,
      hw.1.2.step hw.1.1.wellFormed hstep⟩, ?_⟩) ⟨⟨sound_init pool, namesSound_init pool⟩, fun _ h => by cases h⟩ h
    exact (findsPlayers_step_iff hw.1.2 hw.1.1.wellFormed hw.2 hstep).2 hnames
  exact fun pre w hpre hw => ⟨(hall pre w hpre hw).2, (hall pre w hpre hw).1.2.only⟩

/-- **Exactly the players who were collected are found by their names if their names are distinct whenever
players are collected, and only then.** -/
theorem found_by_name_iff {Pool : Type} (ids : IdPool Pool) (pool : Pool) (actions : List IdAction) :
    Reached (IdWorld.step ids) (fun w => w.FindsPlayers ∧ w.OnlyFindsPlayers) actions (init pool) ↔
      AllSteps (IdWorld.step ids) DistinctNames actions (init pool) := by
  refine ⟨fun h => ?_, finds_players ids pool⟩
  have hstep : Reached (IdWorld.step ids) (fun w => (w.Sound ids ∧ w.NamesSound) ∧ w.FindsPlayers) actions
      (init pool) ↔ AllSteps (IdWorld.step ids) DistinctNames actions (init pool) := by
    refine reached_iff_allSteps (fun _ _ w w' h hstep => ?_) ⟨⟨sound_init pool, namesSound_init pool⟩, fun _ h => by cases h⟩
    have hnext : w'.Sound ids ∧ w'.NamesSound := ⟨h.1.1.step hstep, h.1.2.step h.1.1.wellFormed hstep⟩
    rw [and_iff_right hnext]
    exact findsPlayers_step_iff h.1.2 h.1.1.wellFormed h.2 hstep
  exact hstep.1 fun pre w hpre hw => ⟨reached_sound ids pool actions pre w hpre hw, (h pre w hpre hw).1⟩

end IdWorld

end Skrillax

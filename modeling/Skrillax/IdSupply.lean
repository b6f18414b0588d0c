/-
**The supply of unique ids.**

An id goes from the pool to an entity, into the lookup, and from there back into the pool when the entity is
gone.  It goes back only by way of the lookup: an entity that is despawned before `collect_entities` has seen it
takes its id with it, and there is one entity less that the server can ever have at a time.

Main definitions:

* `Circulates` — an id is in the pool, held by an entity or by a command, or waits in the lookup;
* `FullSupply` — the ids in circulation are those of the pool at the start;
* `DespawnsCollected` — an entity that is despawned is found under its id.

Main results:

* `circulates_step_iff` — what a step does to an id;
* `full_supply_iff` — **no id is ever lost, and none appears, if and only if no entity is despawned before it was
  collected**.
-/

import Skrillax.EntityIds

set_option relaxedAutoImplicit false
set_option autoImplicit false

namespace Skrillax

open PartialAction

namespace IdWorld

variable {Pool : Type} (ids : IdPool Pool)

/-- The id is in the pool, held by an entity or by a command, or waits in the lookup. -/
def Circulates (w : IdWorld Pool) (id : UInt32) : Prop := (w.ledger ids).Circulates id

/-- The ids in circulation are those that were in the pool. -/
def FullSupply (pool : Pool) (w : IdWorld Pool) : Prop := ∀ id, w.Circulates ids id ↔ id ∈ ids.free pool

/-- The entity that an action despawns. -/
def despawned (w : IdWorld Pool) : IdAction → Option Entity
  | .applyCommand index =>
      match w.commands[index]? with
      | some (.despawn entity) => some entity
      | _ => none
  | _ => none

/-- An entity that is despawned is found under its id. -/
def DespawnsCollected (w : IdWorld Pool) (action : IdAction) : Prop :=
  ∀ entity ∈ w.despawned action, ∀ record ∈ w.entities, record.entity = entity →
    ∀ gameEntity ∈ record.gameEntity, w.lookup.getEntityForId gameEntity.uniqueId = some entity

instance (w : IdWorld Pool) : DecidablePred w.DespawnsCollected :=
  fun _ => inferInstanceAs (Decidable (∀ _ ∈ _, _))

variable {ids} {w w' : IdWorld Pool} {id : UInt32}

/-! ### Commands -/

/-- A command that holds nothing makes no difference. -/
theorem circulates_push {command : EntityCommand} (hholds : command.holds = none) (reserved : List Entity) :
    { w with reserved, commands := w.commands ++ [command] }.Circulates ids id ↔ w.Circulates ids id := by
  refine Ledger.circulates_congr (exists_congr fun entity => ?_) rfl rfl
  refine held_push.trans (or_iff_left ?_)
  rw [hholds]
  exact fun heq => by cases heq

/-- A command that holds an id of the pool. -/
theorem circulates_request {command : EntityCommand} {e : Entity} {uniqueId : UInt32} {pool : Pool}
    (hrequest : ids.requestId w.pool = some (uniqueId, pool)) (hholds : command.holds = some (e, uniqueId))
    (reserved : List Entity) :
    { w with reserved, commands := w.commands ++ [command], pool }.Circulates ids id ↔ w.Circulates ids id := by
  obtain ⟨hfree, hpool⟩ := ids.free_requestId hrequest
  refine Ledger.circulates_take_iff (o := e) hfree (fun {owner} => ?_) rfl hpool
  refine held_push.trans (or_congr_right ?_)
  rw [hholds, Option.some_inj, Prod.mk.injEq]
  exact ⟨fun ⟨ho, hi⟩ => ⟨ho.symm, hi.symm⟩, fun ⟨ho, hi⟩ => ⟨ho.symm, hi.symm⟩⟩

/-- Who holds something, when one of the commands is put first. -/
theorem held_perm {command : EntityCommand} {commands : List EntityCommand}
    (hperm : (command :: commands).Perm w.commands) {entity : Entity} :
    w.Held entity id ↔ command.holds = some (entity, id) ∨ { w with commands }.Held entity id := by
  have hcommands : (∃ command ∈ w.commands, command.holds = some (entity, id)) ↔
      command.holds = some (entity, id) ∨ ∃ command ∈ commands, command.holds = some (entity, id) := by
    simp only [← hperm.mem_iff, List.mem_cons, or_and_right, exists_or, exists_eq_left]
  unfold Held
  rw [hcommands]
  exact or_left_comm

theorem circulates_applySpawn {commands : List EntityCommand} {record : EntityRecord}
    (hperm : (.spawn record :: commands).Perm w.commands) :
    { w with entities := w.entities ++ [record], commands }.Circulates ids id ↔ w.Circulates ids id := by
  refine Ledger.circulates_congr (exists_congr fun entity => ?_) rfl rfl
  refine Iff.trans ?_ (held_perm hperm).symm
  simp only [ledger, Held, List.mem_append, List.mem_singleton, or_and_right, exists_or, exists_eq_left,
    EntityCommand.holds]
  rw [or_comm (a := ∃ x ∈ w.entities, _), or_assoc]

/-- The client holds the id afterwards that was requested for it. -/
theorem circulates_applyInsert (h : w.WellFormed) {commands : List EntityCommand} {client : Entity}
    {gameEntity : GameEntity} {name : String}
    (hperm : (.insertPlayer client gameEntity name :: commands).Perm w.commands)
    (hclient : ∃ record ∈ w.entities, record.entity = client) :
    Circulates ids { w with
      entities := w.entities.map fun record =>
        if record.entity = client then
          { record with gameEntity := some gameEntity, player := some name, added := true }
        else record
      commands } id ↔ w.Circulates ids id := by
  refine Ledger.circulates_congr (exists_congr fun entity => ?_) rfl rfl
  refine Iff.trans (or_congr_left ?_) ((held_perm hperm).trans or_assoc.symm).symm
  have hnone : ∀ record ∈ w.entities, record.entity = client → record.gameEntity = none := fun record hrecord heq =>
    ((h.joining client gameEntity name (hperm.subset List.mem_cons_self)).2.2 record hrecord heq).1
  rw [EntityCommand.holds, Option.some_inj, Prod.mk.injEq]
  constructor
  · rintro ⟨record, hrecord, hholds⟩
    obtain ⟨old, hold, rfl⟩ := List.mem_map.1 hrecord
    by_cases heq : old.entity = client
    · rw [if_pos heq] at hholds
      obtain ⟨hentity, game, hgame, hid⟩ := holds_eq_some.1 hholds
      obtain rfl := Option.some_inj.1 hgame
      exact .inl ⟨heq.symm.trans hentity, hid⟩
    · rw [if_neg heq] at hholds
      exact .inr ⟨old, hold, hholds⟩
  · rintro (⟨rfl, rfl⟩ | ⟨record, hrecord, hholds⟩)
    · obtain ⟨record, hrecord, heq⟩ := hclient
      refine ⟨_, List.mem_map_of_mem hrecord, ?_⟩
      rw [if_pos heq]
      exact holds_eq_some.2 ⟨heq, gameEntity, rfl, rfl⟩
    · obtain ⟨-, game, hgame, -⟩ := holds_eq_some.1 hholds
      have hne : record.entity ≠ client := fun heq => by
        rw [hnone record hrecord heq] at hgame
        cases hgame
      refine ⟨_, List.mem_map_of_mem hrecord, ?_⟩
      rw [if_neg hne]
      exact hholds

/-- What a command holds is not live yet. -/
theorem Sound.not_live_of_command (h : w.Sound ids) {command : EntityCommand} (hcommand : command ∈ w.commands)
    {owner : Entity} (hholds : command.holds = some (owner, id)) (entity : Entity) : ¬ w.Live entity id := by
  rintro ⟨record, hrecord, hrecord'⟩
  obtain rfl := h.ledger.unique (.inr ⟨command, hcommand, hholds⟩) (.inl ⟨record, hrecord, hrecord'⟩)
  obtain ⟨hentity, gameEntity, hgame, -⟩ := holds_eq_some.1 hrecord'
  cases command with
  | spawn other =>
      refine (List.nodup_append.1 h.wellFormed.nodup).2.2 _ (List.mem_map_of_mem hrecord) _
        (List.mem_filterMap.2 ⟨_, hcommand, rfl⟩) ?_
      exact hentity.trans (holds_eq_some.1 hholds).1.symm
  | insertPlayer client game name =>
      obtain ⟨rfl, -⟩ := Prod.mk.inj (Option.some_inj.1 hholds)
      cases hgame.symm.trans ((h.wellFormed.joining _ _ _ hcommand).2.2 record hrecord hentity).1
  | despawn other => cases hholds

/-- **An entity is despawned**: its id is lost unless the lookup has it. -/
theorem circulates_applyDespawn (h : w.Sound ids) {commands : List EntityCommand} {entity : Entity}
    (hperm : (.despawn entity :: commands).Perm w.commands) :
    Circulates ids { w with entities := w.entities.filter fun record => record.entity ≠ entity, commands } id ↔
      w.Circulates ids id ∧ (w.Live entity id → w.lookup.getEntityForId id = some entity) := by
  refine h.ledger.circulates_drop_iff (fun {owner} => ?_) rfl rfl
  show _ ↔ w.Held owner id ∧ ¬ w.Live entity id
  rw [held_perm hperm]
  constructor
  · rintro (⟨record, hrecord, hholds⟩ | ⟨command, hcommand, hholds⟩)
    · obtain ⟨hrecord, hne⟩ := List.mem_filter.1 hrecord
      have hheld : w.Held owner id := .inl ⟨record, hrecord, hholds⟩
      refine ⟨.inr (.inl ⟨record, hrecord, hholds⟩), fun hlive => of_decide_eq_true hne ?_⟩
      exact (holds_eq_some.1 hholds).1.trans (h.ledger.unique hheld (h.ledger.held_of_live hlive))
    · refine ⟨.inr (.inr ⟨command, hcommand, hholds⟩), ?_⟩
      exact h.not_live_of_command (hperm.subset (List.mem_cons_of_mem _ hcommand)) hholds entity
  · rintro ⟨hholds | ⟨record, hrecord, hholds⟩ | hcommand, hnot⟩
    · cases hholds
    · refine .inl ⟨record, List.mem_filter.2 ⟨hrecord, decide_eq_true fun heq => ?_⟩, hholds⟩
      refine hnot ⟨record, hrecord, hholds.trans ?_⟩
      rw [← (holds_eq_some.1 hholds).1, heq]
    · exact .inr hcommand

/-- An action that despawns nothing. -/
theorem circulates_of_despawned_eq_none {action : IdAction} (hnone : w.despawned action = none)
    (hiff : w'.Circulates ids id ↔ w.Circulates ids id) :
    w'.Circulates ids id ↔ w.Circulates ids id ∧
      ∀ entity ∈ w.despawned action, w.Live entity id → w.lookup.getEntityForId id = some entity := by
  rw [hnone]
  exact hiff.trans (and_iff_left fun _ hentity => by cases hentity).symm

theorem circulates_applyCommand (h : w.Sound ids) {index : ℕ} (hstep : w.applyCommand index = some w') :
    w'.Circulates ids id ↔ w.Circulates ids id ∧
      ∀ entity ∈ w.despawned (.applyCommand index), w.Live entity id → w.lookup.getEntityForId id = some entity := by
  unfold IdWorld.applyCommand at hstep
  cases hcommand : w.commands[index]? with
  | none =>
      rw [hcommand] at hstep
      obtain rfl := Option.some_inj.1 hstep
      exact circulates_of_despawned_eq_none (by rw [despawned, hcommand]) Iff.rfl
  | some command =>
      rw [hcommand] at hstep
      have hperm := eraseIdx_perm hcommand
      cases command with
      | spawn record =>
          obtain rfl := Option.some_inj.1 hstep
          exact circulates_of_despawned_eq_none (by rw [despawned, hcommand]) (circulates_applySpawn hperm)
      | insertPlayer client gameEntity name =>
          simp only [apply] at hstep
          split at hstep
          · rename_i hany
            obtain rfl := Option.some_inj.1 hstep
            obtain ⟨record, hrecord, heq⟩ := List.any_eq_true.1 hany
            refine circulates_of_despawned_eq_none (by rw [despawned, hcommand]) ?_
            exact circulates_applyInsert h.wellFormed hperm ⟨record, hrecord, eq_of_beq heq⟩
          · cases hstep
      | despawn entity =>
          obtain rfl := Option.some_inj.1 hstep
          have hdespawned : w.despawned (.applyCommand index) = some entity := by
            rw [despawned, hcommand]
          rw [hdespawned]
          refine (circulates_applyDespawn h hperm).trans (and_congr_right fun _ => ?_)
          simp

/-! ### The lookup and the pool -/

theorem isSome_foldl_collect {records : List EntityRecord} :
    ∀ {lookup : EntityLookup}, (lookup.getEntityForId id).isSome = true →
      ((records.foldl EntityLookup.collect lookup).getEntityForId id).isSome = true := by
  induction records with
  | nil => exact fun h => h
  | cons record records ih =>
      intro lookup h
      refine ih ?_
      rw [getEntityForId_collect]
      split
      · rfl
      · exact h

theorem circulates_collectEntities : w.collectEntities.Circulates ids id ↔ w.Circulates ids id := by
  have hholds : ∀ record : EntityRecord, ({ record with added := false } : EntityRecord).holds = record.holds :=
    fun _ => rfl
  refine Ledger.circulates_collect_iff (held_map hholds) (fun {entity} hmapped => ?_) isSome_foldl_collect rfl
  rcases getEntityForId_of_foldl hmapped with hmapped | ⟨record, hrecord, hholds⟩
  · exact .inl hmapped
  · exact .inr (.inl ⟨record, hrecord, hholds⟩)

theorem circulates_maintainEntities : (w.maintainEntities ids).Circulates ids id ↔ w.Circulates ids id := by
  refine Ledger.circulates_reclaim_iff Iff.rfl getEntityForId_maintain ?_
  refine (Iff.of_eq (congrArg (id ∈ ·) (free_foldl_returnId w.removedEntities w.pool))).trans ?_
  exact or_congr_right mem_removedEntities

theorem circulates_handleJoin {client : Entity} {refId : UInt32} {name : String}
    (hstep : w.handleJoin ids client refId name = some w') : w'.Circulates ids id ↔ w.Circulates ids id := by
  unfold handleJoin at hstep
  split at hstep
  · obtain ⟨⟨uniqueId, pool⟩, hrequest, hret⟩ := Option.bind_eq_some_iff.1 hstep
    obtain rfl := Option.some_inj.1 hret
    refine (circulates_request (w := w.leaveLogin client) (e := client) hrequest rfl _).trans ?_
    refine Ledger.circulates_congr (exists_congr fun entity => held_map fun record => ?_) rfl rfl
    split <;> rfl
  · exact Option.some_inj.1 hstep ▸ Iff.rfl

/-! ### Steps -/

/-- **What a step does to an id.** -/
theorem circulates_step_iff (h : w.Sound ids) {action : IdAction} (hstep : IdWorld.step ids action w = some w') :
    w'.Circulates ids id ↔ w.Circulates ids id ∧
      ∀ entity ∈ w.despawned action, w.Live entity id → w.lookup.getEntityForId id = some entity := by
  cases action with
  | accept entity =>
      refine circulates_of_despawned_eq_none rfl ?_
      simp only [IdWorld.step] at hstep
      split at hstep
      · exact Option.some_inj.1 hstep ▸ Iff.rfl
      · obtain rfl := Option.some_inj.1 hstep
        exact circulates_push rfl _
  | spawn system entity refId =>
      refine circulates_of_despawned_eq_none rfl ?_
      simp only [IdWorld.step] at hstep
      split at hstep
      · exact Option.some_inj.1 hstep ▸ Iff.rfl
      · obtain ⟨⟨uniqueId, pool⟩, hrequest, hret⟩ := Option.bind_eq_some_iff.1 hstep
        obtain rfl := Option.some_inj.1 hret
        exact circulates_request (e := entity) hrequest rfl _
  | handleJoin client refId name => exact circulates_of_despawned_eq_none rfl (circulates_handleJoin hstep)
  | despawn entity =>
      refine circulates_of_despawned_eq_none rfl ?_
      obtain rfl := Option.some_inj.1 hstep
      unfold despawn
      split
      · exact circulates_push rfl _
      · exact Iff.rfl
  | applyCommand index => exact circulates_applyCommand h hstep
  | collectEntities =>
      obtain rfl := Option.some_inj.1 hstep
      exact circulates_of_despawned_eq_none rfl circulates_collectEntities
  | maintainEntities =>
      obtain rfl := Option.some_inj.1 hstep
      exact circulates_of_despawned_eq_none rfl circulates_maintainEntities

/-- Nothing is lost exactly if what is despawned is found under its id. -/
theorem FullSupply.step_iff {pool : Pool} (h : w.FullSupply ids pool) (hw : w.Sound ids) {action : IdAction}
    (hstep : IdWorld.step ids action w = some w') : w'.FullSupply ids pool ↔ w.DespawnsCollected action := by
  have hcirculates : ∀ {entity id}, w.Live entity id → w.Circulates ids id := fun hlive =>
    .inr (.inl ⟨_, hw.ledger.held_of_live hlive⟩)
  have hiff : w'.FullSupply ids pool ↔ ∀ id, ∀ entity ∈ w.despawned action, w.Live entity id →
      w.lookup.getEntityForId id = some entity := by
    refine forall_congr' fun id => ?_
    rw [circulates_step_iff hw hstep, ← h id]
    refine ⟨fun hkept entity hentity hlive => (hkept.2 (hcirculates hlive)).2 entity hentity hlive, fun hfound => ?_⟩
    exact and_iff_left hfound
  rw [hiff]
  constructor
  · rintro hfound entity hentity record hrecord rfl gameEntity hgame
    exact hfound _ _ hentity ⟨record, hrecord, holds_eq_some.2 ⟨rfl, gameEntity, hgame, rfl⟩⟩
  · rintro hcollected id entity hentity ⟨record, hrecord, hholds⟩
    obtain ⟨heq, gameEntity, hgame, rfl⟩ := holds_eq_some.1 hholds
    exact hcollected entity hentity record hrecord heq gameEntity hgame

theorem fullSupply_init (pool : Pool) : (init pool).FullSupply ids pool := by
  intro id
  refine or_iff_left ?_
  rintro (⟨entity, ⟨record, hrecord, -⟩ | ⟨command, hcommand, -⟩⟩ | ⟨entity, hmapped⟩)
  · cases hrecord
  · cases hcommand
  · cases hmapped

end IdWorld

/-- **No id is ever lost, and none appears, if and only if no entity is despawned before it was collected.** -/
theorem full_supply_iff {Pool : Type} (ids : IdPool Pool) (pool : Pool) (actions : List IdAction) :
    Reached (IdWorld.step ids) (IdWorld.FullSupply ids pool) actions (IdWorld.init pool) ↔
      AllSteps (IdWorld.step ids) IdWorld.DespawnsCollected actions (IdWorld.init pool) := by
  have hsound : Reached (IdWorld.step ids) (IdWorld.Sound ids) actions (IdWorld.init pool) :=
    reached_of_step (fun _ _ _ _ h hstep => h.step hstep) (IdWorld.sound_init pool)
  have hiff : Reached (IdWorld.step ids) (fun w => w.Sound ids ∧ w.FullSupply ids pool) actions (IdWorld.init pool) ↔
      AllSteps (IdWorld.step ids) IdWorld.DespawnsCollected actions (IdWorld.init pool) := by
    refine reached_iff_allSteps (fun _ _ w w' h hstep => ?_) ⟨IdWorld.sound_init pool, IdWorld.fullSupply_init pool⟩
    exact (and_iff_right (h.1.step hstep)).trans (h.2.step_iff h.1 hstep)
  rw [← hiff]
  exact ⟨fun h pre w hpre hw => ⟨hsound pre w hpre hw, h pre w hpre hw⟩, fun h pre w hpre hw => (h pre w hpre hw).2⟩

end Skrillax

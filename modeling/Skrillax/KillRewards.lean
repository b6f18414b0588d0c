/-
**Experience for a kill.**

A hit is recorded for the target under the unique id of the attacker.  When the target has died, the ids are
looked up again, and whoever is found under one of them and is near receives experience.  Until then an attacker
can disappear, and its id can be given to an entity that has never hit anything.

Main definitions:

* `RewardWorld`, `RewardAction`, `RewardWorld.step` — the entities with their ids, what is recorded for them, and
  all hits there were;
* `RewardWorld.distributeExperience` — what is sent for one death;
* `RewardWorld.Earned`, `Rewards` — who has hit the entity that died, was collected and is near;
* `RewardWorld.CollectsFresh` — nobody is collected under an id that is remembered for hits of another;
* `RewardWorld.Shows` — the entities as the systems of the combat see them.

Main results:

* `Shows.handleDamage` — handling an event of the combat is a hit, or changes nothing here;
* `Attributed.step_iff` — what one step does;
* `rewards_iff` — **throughout a run exactly the attackers are rewarded if and only if nobody is ever collected
  under an id that is remembered for another**.
-/

import Skrillax.GmCommands
import Skrillax.KillingBlow
import Skrillax.PlayerNames
import Skrillax.RegionGrid

set_option relaxedAutoImplicit false
set_option autoImplicit false

namespace Skrillax

open Agents (CombatWorld Combatant DamageReceiver recordDamage)
open Chat (ReceiveExperienceEvent)
open PartialAction
open Rust (Profile)

/-! ### The entities and what is recorded -/

/-- A query for `GameEntity`. -/
def IdWorld.gameEntityOf {Pool : Type} (w : IdWorld Pool) (entity : Entity) : Option GameEntity := do
  let record ← w.entities.find? fun record => record.entity == entity
  record.gameEntity

/-- The components `DamageReceiver` are those of the bundles of monsters and players, also while the command that
inserts them is queued; `hits` are all hits there were, as attacker and target. -/
structure RewardWorld (Pool : Type) where
  world : IdWorld Pool
  receivers : Entity → Option DamageReceiver
  hits : List (Entity × Entity)

/-- What happens to the entities and their ids, and a hit on a target that is not dead. -/
inductive RewardAction where
  | ids (action : IdAction)
  | hit (source target : Entity) (amount : UInt64)
  deriving DecidableEq, Repr

namespace RewardWorld

variable {Pool : Type}

def init (pool : Pool) : RewardWorld Pool := ⟨IdWorld.init pool, fun _ => none, []⟩

/-- The entity for which the action queues a bundle with a `DamageReceiver`. -/
def fighterOf (w : IdWorld Pool) : IdAction → Option Entity
  | .spawn .spawnMonster entity _ | .spawn .doSpawnMobs entity _ => if entity ∈ w.reserved then none else some entity
  | .handleJoin client _ _ =>
      if w.entities.any fun record => record.entity == client && record.login then some client else none
  | _ => none

/-- A query for `DamageReceiver`; it is inserted together with `GameEntity`. -/
def receiverOf (w : RewardWorld Pool) (entity : Entity) : Option DamageReceiver :=
  if (w.world.gameEntityOf entity).isSome then w.receivers entity else none

/-- One event of `handle_damage`, for a target that is not dead.  It panics if the attacker is gone. -/
def hit (p : Profile) (source target : Entity) (amount : UInt64) (w : RewardWorld Pool) : Option (RewardWorld Pool) :=
  match w.receiverOf target with
  | some receiver => do
      let attacker ← w.world.gameEntityOf source
      let receiver ← recordDamage p receiver attacker.uniqueId amount
      return { w with
        receivers := Function.update w.receivers target (some receiver)
        hits := w.hits ++ [(source, target)] }
  | none => some w

def step (ids : IdPool Pool) (p : Profile) : RewardAction → RewardWorld Pool → Option (RewardWorld Pool)
  | .ids action, w => do
      let world ← IdWorld.step ids action w.world
      return { w with
        world
        receivers := match fighterOf w.world action with
          | some fighter => Function.update w.receivers fighter (some fun _ => none)
          | none => w.receivers }
  | .hit source target amount, w => w.hit p source target amount

/-! ### The experience -/

/-- `EXP_RECEIVE_RANGE_SQUARED`. -/
def expReceiveRangeSquared : ℚ := 1000 * 1000

/-- The event for one attacker of the entity that died. -/
def rewardFor (position : Entity → GlobalPosition) (died : EntityReference) (w : RewardWorld Pool)
    (attackerId : UInt32) : Option ReceiveExperienceEvent := do
  let entity ← w.world.lookup.getEntityForId attackerId
  let gameEntity ← w.world.gameEntityOf entity
  if (position died.entity).distanceTo (position entity) ≤ expReceiveRangeSquared then
    some ⟨some died, ⟨entity, gameEntity⟩, 100, 100⟩
  else none

/-- `distribute_experience`, for one death; `allAttackers` are the keys of what is recorded. -/
def distributeExperience (position : Entity → GlobalPosition) (died : EntityReference) (allAttackers : List UInt32)
    (w : RewardWorld Pool) : List ReceiveExperienceEvent :=
  match w.receiverOf died.entity with
  | some _ => allAttackers.filterMap (w.rewardFor position died)
  | none => []

/-- `all_attackers`: the keys, in whatever order. -/
def AllAttackers (w : RewardWorld Pool) (entity : Entity) (attackers : List UInt32) : Prop :=
  attackers.Nodup ∧ ∀ id, id ∈ attackers ↔ ∃ receiver ∈ w.receiverOf entity, (receiver id).isSome = true

/-! ### What is demanded -/

/-- The target has hit the entity that died, was collected, and is near. -/
structure Earned (w : RewardWorld Pool) (position : Entity → GlobalPosition) (died target : EntityReference) :
    Prop where
  fought : (w.receiverOf died.entity).isSome = true
  hit : (target.entity, died.entity) ∈ w.hits
  collected : ∃ record ∈ w.world.entities, record.entity = target.entity ∧
    record.gameEntity = some target.gameEntity ∧ record.added = false
  near : (position died.entity).distanceTo (position target.entity) ≤ expReceiveRangeSquared

/-- Whoever died, and wherever everybody is: exactly those who earned it receive experience, and each once. -/
def Rewards (w : RewardWorld Pool) : Prop :=
  ∀ position died attackers, w.AllAttackers died.entity attackers →
    (w.distributeExperience position died attackers).Nodup ∧
      ∀ event, event ∈ w.distributeExperience position died attackers ↔
        ∃ target, event = ⟨some died, target, 100, 100⟩ ∧ w.Earned position died target

/-- When an entity is collected, its id is remembered only for its own hits. -/
def CollectsFresh (w : RewardWorld Pool) : RewardAction → Prop
  | .ids .collectEntities => ∀ record ∈ w.world.entities, record.added = true → ∀ gameEntity ∈ record.gameEntity,
      ∀ target, ∀ receiver ∈ w.receiverOf target, (receiver gameEntity.uniqueId).isSome = true →
        (record.entity, target) ∈ w.hits
  | _ => True

/-- Whoever is found under an id that is remembered has hit the target. -/
def Attributed (w : RewardWorld Pool) : Prop :=
  ∀ target, ∀ receiver ∈ w.receiverOf target, ∀ id, (receiver id).isSome = true →
    ∀ entity, w.world.lookup.getEntityForId id = some entity → w.world.Live entity id → (entity, target) ∈ w.hits

/-- The invariant of what is recorded: it is recorded for an entity that had an id, as long as an attacker is there
its hits are remembered under its id, and whoever is in the map was collected. -/
structure Recorded (w : RewardWorld Pool) : Prop where
  remembering : ∀ target, ∀ receiver ∈ w.receivers target, ∀ id, (receiver id).isSome = true →
    w.world.HasHadId target
  hitters : ∀ source target, (source, target) ∈ w.hits → w.world.HasHadId source ∧ w.world.HasHadId target
  recorded : ∀ source target, (source, target) ∈ w.hits → ∀ attacker ∈ w.world.gameEntityOf source,
    ∀ receiver ∈ w.receivers target, (receiver attacker.uniqueId).isSome = true
  settled : ∀ id entity, w.world.lookup.getEntityForId id = some entity →
    ∀ record ∈ w.world.entities, record.entity = entity → record.added = false

/-- The systems of the combat see the same ids, and what is recorded for the same entities. -/
structure Shows (w : RewardWorld Pool) (combat : CombatWorld) : Prop where
  gameEntity : ∀ entity, (combat.entities entity).map Combatant.gameEntity = w.world.gameEntityOf entity
  receiver : ∀ entity, ((combat.entities entity).bind Combatant.body).map Prod.snd = w.receiverOf entity

end RewardWorld

/-! ### The entities in one step -/

namespace IdWorld

variable {Pool : Type} {ids : IdPool Pool} {w w' : IdWorld Pool} {entity : Entity} {gameEntity : GameEntity}

theorem WellFormed.gameEntityOf_eq_some_iff (hw : w.WellFormed) :
    w.gameEntityOf entity = some gameEntity ↔
      ∃ record ∈ w.entities, record.entity = entity ∧ record.gameEntity = some gameEntity := by
  have hnodup : (w.entities.map EntityRecord.entity).Nodup := (List.nodup_append.1 hw.nodup).1
  refine Option.bind_eq_some_iff.trans ⟨?_, ?_⟩
  · rintro ⟨record, hfind, hgame⟩
    exact ⟨record, List.mem_of_find?_eq_some hfind, beq_iff_eq.1 (List.find?_some hfind :), hgame⟩
  · rintro ⟨record, hrecord, rfl, hgame⟩
    have hsome : (w.entities.find? fun other => other.entity == record.entity).isSome = true :=
      List.find?_isSome.2 ⟨record, hrecord, beq_self_eq_true record.entity⟩
    obtain ⟨found, hfound⟩ := Option.isSome_iff_exists.1 hsome
    have heq : found.entity = record.entity := beq_iff_eq.1 (List.find?_some hfound :)
    obtain rfl := List.inj_on_of_nodup_map hnodup (List.mem_of_find?_eq_some hfound) hrecord heq
    exact ⟨_, hfound, hgame⟩

theorem WellFormed.live_iff (hw : w.WellFormed) {id : UInt32} :
    w.Live entity id ↔ ∃ gameEntity ∈ w.gameEntityOf entity, gameEntity.uniqueId = id := by
  simp only [Option.mem_def, hw.gameEntityOf_eq_some_iff, Live, holds_eq_some]
  constructor
  · rintro ⟨record, hrecord, hentity, gameEntity, hgame, hid⟩
    exact ⟨gameEntity, ⟨record, hrecord, hentity, hgame⟩, hid⟩
  · rintro ⟨gameEntity, ⟨record, hrecord, hentity, hgame⟩, hid⟩
    exact ⟨record, hrecord, hentity, gameEntity, hgame, hid⟩

theorem WellFormed.hasHadId_of_gameEntityOf (hw : w.WellFormed) (h : w.gameEntityOf entity = some gameEntity) :
    w.HasHadId entity := by
  obtain ⟨record, hrecord, rfl, hgame⟩ := hw.gameEntityOf_eq_some_iff.1 h
  exact hw.hasHadId hrecord (Option.isSome_of_eq_some hgame)

/-- An entry of the map leads to an entity that has had an id. -/
theorem Sound.hasHadId_of_mapped (h : w.Sound ids) {id : UInt32}
    (hmapped : w.lookup.getEntityForId id = some entity) : w.HasHadId entity := by
  rcases h.ledger.mapped hmapped with ⟨record, hrecord, hholds⟩ | ⟨hgone, -⟩
  · obtain ⟨rfl, gameEntity, hgame, -⟩ := holds_eq_some.1 hholds
    exact h.wellFormed.hasHadId hrecord (Option.isSome_of_eq_some hgame)
  · refine ⟨h.wellFormed.mapped id entity hmapped, fun hspawned => hgone (List.mem_append_right _ hspawned),
      fun record hrecord heq => ?_⟩
    exact absurd (mem_known.2 (.inl ⟨record, hrecord, heq⟩)) hgone

/-- Under which id an entity that is there can be found. -/
theorem Sound.uniqueId_of_mapped (h : w.Sound ids) {id : UInt32} (hmapped : w.lookup.getEntityForId id = some entity)
    (hgame : w.gameEntityOf entity = some gameEntity) : gameEntity.uniqueId = id := by
  have hw := h.wellFormed
  rcases h.ledger.mapped hmapped with hlive | ⟨hgone, -⟩
  · obtain ⟨other, hother, hid⟩ := hw.live_iff.1 hlive
    obtain rfl := Option.some_inj.1 (hgame.symm.trans hother)
    exact hid
  · obtain ⟨record, hrecord, heq, -⟩ := hw.gameEntityOf_eq_some_iff.1 hgame
    exact absurd (mem_known.2 (.inl ⟨record, hrecord, heq⟩)) hgone

/-- The components of an entity that has had an id stay as they are, only that it is collected. -/
theorem HasHadId.record_step (h : w.HasHadId entity) (hw : w.WellFormed) {action : IdAction}
    (hstep : IdWorld.step ids action w = some w') {record : EntityRecord} (hrecord : record ∈ w'.entities)
    (heq : record.entity = entity) :
    ∃ old ∈ w.entities, old.entity = entity ∧ old.gameEntity = record.gameEntity ∧
      (record.added = true → old.added = true) := by
  rcases step_cases hstep with ⟨-, hkeeps⟩ | ⟨-, new, hnew, -, -, hentities, -⟩ |
    ⟨-, client, gameEntity, name, hcommand, hclient, -, -, -, hentities⟩ | ⟨-, rfl⟩ | ⟨-, rfl⟩
  · obtain ⟨old, hold, hentity, -, hgame, hadded⟩ := hkeeps.records record hrecord
    exact ⟨old, hold, hentity.symm.trans heq, hgame.symm, fun h => hadded ▸ h⟩
  · rw [hentities] at hrecord
    rcases List.mem_append.1 hrecord with hold | hlast
    · exact ⟨record, hold, heq, rfl, fun h => h⟩
    · obtain rfl := List.mem_singleton.1 hlast
      exact absurd (mem_spawned.2 ⟨record, hnew, heq⟩) h.2.1
  · rcases mem_insertPlayer (hentities ▸ hrecord) with ⟨hplayer, -⟩ | ⟨-, hold⟩
    · obtain rfl := heq.symm.trans hplayer
      exact absurd h (hw.not_hasHadId hcommand hclient)
    · exact ⟨record, hold, heq, rfl, fun h => h⟩
  · obtain ⟨old, hold, rfl⟩ := List.mem_map.1 hrecord
    exact ⟨old, hold, heq, rfl, fun h => by cases h⟩
  · exact ⟨record, hrecord, heq, rfl, fun h => h⟩

theorem HasHadId.gameEntityOf_step (h : w.HasHadId entity) (hw : w.WellFormed) (hw' : w'.WellFormed)
    {action : IdAction} (hstep : IdWorld.step ids action w = some w')
    (hgame : w'.gameEntityOf entity = some gameEntity) : w.gameEntityOf entity = some gameEntity := by
  obtain ⟨record, hrecord, heq, hgame⟩ := hw'.gameEntityOf_eq_some_iff.1 hgame
  obtain ⟨old, hold, hentity, hsame, -⟩ := h.record_step hw hstep hrecord heq
  exact hw.gameEntityOf_eq_some_iff.2 ⟨old, hold, hentity, hsame.trans hgame⟩

/-- Only a collection adds entries to the map. -/
theorem getEntityForId_of_step {action : IdAction} (hstep : IdWorld.step ids action w = some w')
    (hne : action ≠ .collectEntities) {id : UInt32} (h : w'.lookup.getEntityForId id = some entity) :
    w.lookup.getEntityForId id = some entity := by
  rcases step_cases hstep with ⟨-, hkeeps⟩ | ⟨-, record, -, hlookup, -⟩ |
    ⟨-, client, gameEntity, name, -, -, hlookup, -⟩ | ⟨heq, -⟩ | ⟨-, rfl⟩
  · exact hkeeps.lookup ▸ h
  · exact hlookup ▸ h
  · exact hlookup ▸ h
  · exact absurd heq hne
  · exact (getEntityForId_maintain.1 h).1

end IdWorld

namespace RewardWorld

open IdWorld (HasHadId)

variable {Pool : Type} {ids : IdPool Pool} {p : Profile} {w w' : RewardWorld Pool}

/-- An entity that is to get a `DamageReceiver` has had no id. -/
theorem not_hasHadId_of_fighterOf {world : IdWorld Pool} (hw : world.WellFormed) {action : IdAction} {fighter : Entity}
    (h : fighterOf world action = some fighter) : ¬ world.HasHadId fighter := by
  intro hhad
  cases action with
  | spawn system entity refId =>
      have hnew : entity ∉ world.reserved ∧ entity = fighter := by
        cases system with
        | spawnNpcs | createDrops => cases h
        | spawnMonster | doSpawnMobs => simpa [fighterOf] using h
      exact hnew.1 (hnew.2 ▸ hhad.1)
  | handleJoin client refId name =>
      simp only [fighterOf] at h
      split at h
      · rename_i hany
        obtain rfl := Option.some_inj.1 h
        obtain ⟨record, hrecord, hlogin⟩ := List.any_eq_true.1 hany
        simp only [Bool.and_eq_true, beq_iff_eq] at hlogin
        have hsome := hhad.2.2 record hrecord hlogin.1
        rw [hw.login record (.inl hrecord) hlogin.2] at hsome
        cases hsome
      · cases h
  | accept | despawn | applyCommand | collectEntities | maintainEntities => cases h

theorem mem_receiverOf {target : Entity} {receiver : DamageReceiver} :
    receiver ∈ w.receiverOf target ↔
      (w.world.gameEntityOf target).isSome = true ∧ w.receivers target = some receiver := by
  unfold receiverOf
  split
  · rename_i hsome
    exact (and_iff_right hsome).symm
  · rename_i hnone
    exact iff_of_false (fun h => by cases h) fun h => hnone h.1

theorem isSome_recordDamage {receiver receiver' : DamageReceiver} {source : UInt32} {amount : UInt64}
    (h : recordDamage p receiver source amount = some receiver') (id : UInt32) :
    (receiver' id).isSome = true ↔ id = source ∨ (receiver id).isSome = true := by
  obtain ⟨sum, rfl, -⟩ := Agents.recordDamage_eq_some h
  by_cases heq : id = source
  · subst heq
    simp
  · simp [heq]

/-- What happens to the entities: what was recorded stays, and for a new entity nothing is recorded. -/
theorem step_ids {action : IdAction} (h : step ids p (.ids action) w = some w') :
    IdWorld.step ids action w.world = some w'.world ∧ w'.hits = w.hits ∧
      ∀ target, ∀ receiver ∈ w'.receivers target,
        (fighterOf w.world action = some target ∧ ∀ id, receiver id = none) ∨
          (fighterOf w.world action ≠ some target ∧ receiver ∈ w.receivers target) := by
  obtain ⟨world, hworld, h⟩ := Option.bind_eq_some_iff.1 h
  obtain rfl := Option.some_inj.1 h
  refine ⟨hworld, rfl, fun target receiver hreceiver => ?_⟩
  cases hfighter : fighterOf w.world action with
  | none =>
      simp only [hfighter] at hreceiver
      exact .inr ⟨by simp, hreceiver⟩
  | some fighter =>
      simp only [hfighter] at hreceiver
      by_cases heq : target = fighter
      · subst heq
        rw [Function.update_self] at hreceiver
        obtain rfl := Option.some_inj.1 hreceiver
        exact .inl ⟨rfl, fun _ => rfl⟩
      · rw [Function.update_of_ne heq] at hreceiver
        exact .inr ⟨fun hsame => heq (Option.some_inj.1 hsame).symm, hreceiver⟩

/-- A hit on an entity with nothing to record it does nothing; any other is recorded for the attacker. -/
theorem hit_cases {source target : Entity} {amount : UInt64} (h : w.hit p source target amount = some w') :
    w' = w ∨ ∃ receiver receiver' attacker, receiver ∈ w.receiverOf target ∧
      w.world.gameEntityOf source = some attacker ∧
      (∀ id, (receiver' id).isSome = true ↔ id = attacker.uniqueId ∨ (receiver id).isSome = true) ∧
      w' = { w with
        receivers := Function.update w.receivers target (some receiver')
        hits := w.hits ++ [(source, target)] } := by
  unfold hit at h
  split at h
  · rename_i receiver hreceiver
    obtain ⟨attacker, hattacker, h⟩ := Option.bind_eq_some_iff.1 h
    obtain ⟨receiver', hreceiver', h⟩ := Option.bind_eq_some_iff.1 h
    exact .inr ⟨receiver, receiver', attacker, hreceiver, hattacker, isSome_recordDamage hreceiver',
      (Option.some_inj.1 h).symm⟩
  · exact .inl (Option.some_inj.1 h).symm

/-! ### The events of the combat -/

theorem Shows.of_entities {combat combat' : CombatWorld} (h : w.Shows combat)
    (heq : combat'.entities = combat.entities) : w.Shows combat' where
  gameEntity entity := heq ▸ h.gameEntity entity
  receiver entity := heq ▸ h.receiver entity

/-- An event for a target that is not dead is a hit. -/
theorem Shows.hit {combat combat' : CombatWorld} (h : w.Shows combat) {event : Agents.DamageReceiveEvent}
    {target : Combatant} {body : Health × DamageReceiver} {queue : List Agents.StateTransition}
    (htarget : combat.entities event.target.entity = some target) (hbody : target.body = some body)
    (hqueue : target.queue = some queue) (halive : body.1.isDead = false)
    (hhit : Agents.handleHit p event target body combat = some combat') :
    ∃ w', w.hit p event.source.entity event.target.entity (Agents.amountOf event target).toUInt64 = some w' ∧
      w'.Shows combat' := by
  obtain ⟨attacker, struck, damage, died, hattacker, hhit, hentities, -, -⟩ := Agents.handleHit_eq_some halive hhit
  obtain ⟨receiver, health, hreceiver, -, -, hgame, -, hstruck, -⟩ := Agents.hit_eq_some hqueue hhit
  have hthere : w.world.gameEntityOf event.target.entity = some target.gameEntity := by
    rw [← h.gameEntity, htarget, Option.map_some]
  have hsource : w.world.gameEntityOf event.source.entity = some attacker.gameEntity := by
    rw [← h.gameEntity, hattacker, Option.map_some]
  have hremembered : w.receiverOf event.target.entity = some body.2 := by
    rw [← h.receiver, htarget, Option.bind_some, hbody, Option.map_some]
  refine ⟨{ w with
    receivers := Function.update w.receivers event.target.entity (some receiver)
    hits := w.hits ++ [(event.source.entity, event.target.entity)] }, ?_, fun entity => ?_, fun entity => ?_⟩
  · simp only [RewardWorld.hit, hremembered, hsource, hreceiver, Option.bind_eq_bind, Option.bind_some, Option.pure_def]
  · rw [hentities, Agents.CombatWorld.modify_entities]
    split
    · rename_i heq
      rw [heq, htarget, Option.map_some, Option.map_some, hgame]
      exact hthere.symm
    · exact h.gameEntity entity
  · rw [hentities, Agents.CombatWorld.modify_entities]
    split
    · rename_i heq
      rw [heq, htarget, Option.map_some, Option.bind_some, hstruck, Option.map_some]
      simp [receiverOf, hthere]
    · rename_i hne
      rw [h.receiver]
      simp [receiverOf, Function.update_of_ne hne]

/-- **Whatever the combat does with an event is a hit, or nothing that matters here.** -/
theorem Shows.handleDamage {combat combat' : CombatWorld} (h : w.Shows combat)
    (hdamage : Agents.handleDamage p combat = some combat') :
    w.Shows combat' ∨
      ∃ source target amount w', step ids p (.hit source target amount) w = some w' ∧ w'.Shows combat' := by
  unfold Agents.handleDamage at hdamage
  split at hdamage
  · rename_i event events _
    split at hdamage
    · rename_i target htarget
      split at hdamage
      · rename_i body queue hbody hqueue
        have hrest : w.Shows { combat with damage := events } := h.of_entities rfl
        cases hdead : body.1.isDead with
        | true =>
            obtain ⟨attacker, hattacker, -⟩ := Option.bind_eq_some_iff.1 hdamage
            obtain ⟨skipped, hskipped, hentities, -⟩ := Agents.handleHit_dead hdead (Option.isSome_of_eq_some hattacker)
            obtain rfl := Option.some_inj.1 (hskipped.symm.trans hdamage)
            exact .inl (hrest.of_entities hentities)
        | false =>
            obtain ⟨w', hhit, hshows⟩ := hrest.hit htarget hbody hqueue hdead hdamage
            exact .inr ⟨_, _, _, w', hhit, hshows⟩
      · exact .inl (Option.some_inj.1 hdamage ▸ h.of_entities rfl)
    · exact .inl (Option.some_inj.1 hdamage ▸ h.of_entities rfl)
  · exact .inl (Option.some_inj.1 hdamage ▸ h)

/-! ### The invariant -/

theorem recorded_init (pool : Pool) : (init pool).Recorded where
  remembering := fun _ _ h => by cases h
  hitters := fun _ _ h => by cases h
  recorded := fun _ _ h => by cases h
  settled := fun _ _ h => by cases h

/-- The ids stay sound. -/
theorem sound_step (hw : w.world.Sound ids) {action : RewardAction} (hstep : step ids p action w = some w') :
    w'.world.Sound ids := by
  cases action with
  | ids action => exact hw.step (step_ids hstep).1
  | hit source target amount =>
      rcases hit_cases hstep with rfl | ⟨receiver, receiver', attacker, -, -, -, rfl⟩
      · exact hw
      · exact hw

/-- Something happens to the entities. -/
theorem Recorded.stepIds (h : w.Recorded) (hw : w.world.Sound ids) {action : IdAction}
    (hstep : step ids p (.ids action) w = some w') : w'.Recorded := by
  have hw' := sound_step hw hstep
  obtain ⟨hworld, hhits, hreceivers⟩ := step_ids hstep
  refine ⟨fun target receiver hreceiver id hid => ?_, fun source target hhit => ?_, fun source target hhit attacker
    hattacker receiver hreceiver => ?_, fun id entity hmapped record hrecord heq => ?_⟩
  · rcases hreceivers target receiver hreceiver with ⟨-, hnone⟩ | ⟨-, hold⟩
    · rw [hnone id] at hid
      cases hid
    · exact (h.remembering target receiver hold id hid).step hw.wellFormed hworld
  · obtain ⟨hsource, htarget⟩ := h.hitters source target (hhits ▸ hhit)
    exact ⟨hsource.step hw.wellFormed hworld, htarget.step hw.wellFormed hworld⟩
  · obtain ⟨hsource, htarget⟩ := h.hitters source target (hhits ▸ hhit)
    rcases hreceivers target receiver hreceiver with ⟨hfighter, -⟩ | ⟨-, hold⟩
    · exact absurd htarget (not_hasHadId_of_fighterOf hw.wellFormed hfighter)
    · exact h.recorded source target (hhits ▸ hhit) attacker
        (hsource.gameEntityOf_step hw.wellFormed hw'.wellFormed hworld hattacker) receiver hold
  · by_cases hcollect : action = .collectEntities
    · subst hcollect
      have hcollected : w.world.collectEntities = w'.world := Option.some_inj.1 hworld
      rw [← hcollected] at hrecord
      obtain ⟨old, -, rfl⟩ := List.mem_map.1 hrecord
      rfl
    · have hold := IdWorld.getEntityForId_of_step hworld hcollect hmapped
      obtain ⟨record', hrecord', heq', -, hadded⟩ :=
        (hw.hasHadId_of_mapped hold).record_step hw.wellFormed hworld hrecord heq
      have hsettled := h.settled id entity hold record' hrecord' heq'
      exact Bool.eq_false_iff.2 fun hnew => by rw [hadded hnew] at hsettled; cases hsettled

/-- A hit. -/
theorem Recorded.hit (h : w.Recorded) (hw : w.world.Sound ids) {source target : Entity} {amount : UInt64}
    (hstep : w.hit p source target amount = some w') : w'.Recorded := by
  rcases hit_cases hstep with rfl | ⟨receiver, receiver', attacker, hreceiver, hattacker, hisSome, rfl⟩
  · exact h
  · obtain ⟨htarget, hold⟩ := mem_receiverOf.1 hreceiver
    obtain ⟨struck, hstruck⟩ := Option.isSome_iff_exists.1 htarget
    have hhadTarget := hw.wellFormed.hasHadId_of_gameEntityOf hstruck
    have hother {other : Entity} {recorded : DamageReceiver} (hne : other ≠ target)
        (hrecorded : recorded ∈ Function.update w.receivers target (some receiver') other) :
        recorded ∈ w.receivers other := by
      rwa [Function.update_of_ne hne] at hrecorded
    refine ⟨fun other recorded hrecorded id hid => ?_, fun hitter other hhit => ?_, fun hitter other hhit game hgame
      recorded hrecorded => ?_, h.settled⟩
    · by_cases heq : other = target
      · exact heq ▸ hhadTarget
      · exact h.remembering other recorded (hother heq hrecorded) id hid
    · rcases List.mem_append.1 hhit with hhit | hhit
      · exact h.hitters hitter other hhit
      · obtain ⟨rfl, rfl⟩ := Prod.mk.inj (List.mem_singleton.1 hhit)
        exact ⟨hw.wellFormed.hasHadId_of_gameEntityOf hattacker, hhadTarget⟩
    · by_cases heq : other = target
      · subst heq
        obtain rfl : receiver' = recorded := by simpa using hrecorded
        refine (hisSome game.uniqueId).2 ?_
        rcases List.mem_append.1 hhit with hhit | hhit
        · exact .inr (h.recorded hitter other hhit game hgame receiver hold)
        · obtain ⟨rfl, -⟩ := Prod.mk.inj (List.mem_singleton.1 hhit)
          exact .inl (congrArg GameEntity.uniqueId (Option.some_inj.1 (hgame.symm.trans hattacker)))
      · have hhit : (hitter, other) ∈ w.hits := (List.mem_append.1 hhit).resolve_right fun hlast =>
          heq (Prod.mk.inj (List.mem_singleton.1 hlast)).2
        exact h.recorded hitter other hhit game hgame recorded (hother heq hrecorded)

theorem Recorded.step (h : w.Recorded) (hw : w.world.Sound ids) {action : RewardAction}
    (hstep : step ids p action w = some w') : w'.Recorded := by
  cases action with
  | ids action => exact h.stepIds hw hstep
  | hit source target amount => exact h.hit hw hstep

/-! ### Who is rewarded -/

theorem rewardFor_eq_some_iff {position : Entity → GlobalPosition} {died : EntityReference} {id : UInt32}
    {event : ReceiveExperienceEvent} :
    w.rewardFor position died id = some event ↔
      ∃ entity gameEntity, w.world.lookup.getEntityForId id = some entity ∧
        w.world.gameEntityOf entity = some gameEntity ∧
        (position died.entity).distanceTo (position entity) ≤ expReceiveRangeSquared ∧
        event = ⟨some died, ⟨entity, gameEntity⟩, 100, 100⟩ := by
  unfold rewardFor
  simp only [Option.bind_eq_bind, Option.bind_eq_some_iff]
  constructor
  · rintro ⟨entity, hentity, gameEntity, hgame, h⟩
    split at h
    · rename_i hnear
      exact ⟨entity, gameEntity, hentity, hgame, hnear, (Option.some_inj.1 h).symm⟩
    · cases h
  · rintro ⟨entity, gameEntity, hentity, hgame, hnear, rfl⟩
    exact ⟨entity, hentity, gameEntity, hgame, if_pos hnear⟩

theorem mem_distributeExperience {position : Entity → GlobalPosition} {died : EntityReference}
    {attackers : List UInt32} (h : w.AllAttackers died.entity attackers) {event : ReceiveExperienceEvent} :
    event ∈ w.distributeExperience position died attackers ↔
      ∃ receiver ∈ w.receiverOf died.entity, ∃ id, (receiver id).isSome = true ∧
        w.rewardFor position died id = some event := by
  unfold distributeExperience
  constructor
  · intro hevent
    split at hevent
    · obtain ⟨id, hid, hreward⟩ := List.mem_filterMap.1 hevent
      obtain ⟨receiver, hreceiver, hsome⟩ := (h.2 id).1 hid
      exact ⟨receiver, hreceiver, id, hsome, hreward⟩
    · cases hevent
  · rintro ⟨receiver, hreceiver, id, hsome, hreward⟩
    have hid := (h.2 id).2 ⟨receiver, hreceiver, hsome⟩
    rw [Option.mem_def] at hreceiver
    simp only [hreceiver]
    exact List.mem_filterMap.2 ⟨id, hid, hreward⟩

/-- No entity is found under two ids. -/
theorem nodup_distributeExperience (hw : w.world.Sound ids) {position : Entity → GlobalPosition}
    {died : EntityReference} {attackers : List UInt32} (h : attackers.Nodup) :
    (w.distributeExperience position died attackers).Nodup := by
  unfold distributeExperience
  split
  · refine List.Nodup.filterMap (fun id id' event hevent hevent' => ?_) h
    obtain ⟨entity, gameEntity, hentity, hgame, -, rfl⟩ := rewardFor_eq_some_iff.1 hevent
    obtain ⟨entity', gameEntity', hentity', hgame', -, heq⟩ := rewardFor_eq_some_iff.1 hevent'
    simp only [ReceiveExperienceEvent.mk.injEq, EntityReference.mk.injEq, and_true, true_and] at heq
    obtain ⟨rfl, rfl⟩ := heq
    rw [← hw.uniqueId_of_mapped hentity hgame, ← hw.uniqueId_of_mapped hentity' hgame']
  · exact List.nodup_nil

theorem exists_allAttackers (w : RewardWorld Pool) (entity : Entity) :
    ∃ attackers, w.AllAttackers entity attackers := by
  let remembered (id : UInt32) : Bool := (w.receiverOf entity).any fun receiver => (receiver id).isSome
  refine ⟨((List.range (2 ^ 32)).map UInt32.ofNat).filter remembered, List.Nodup.filter _ ?_, fun id => ?_⟩
  · refine List.Nodup.map_on (fun a ha b hb heq => ?_) List.nodup_range
    have htoNat := congrArg UInt32.toNat heq
    rwa [UInt32.toNat_ofNat_of_lt' (List.mem_range.1 ha), UInt32.toNat_ofNat_of_lt' (List.mem_range.1 hb)] at htoNat
  · have hid : id ∈ (List.range (2 ^ 32)).map UInt32.ofNat :=
      List.mem_map.2 ⟨id.toNat, List.mem_range.2 id.toNat_lt, UInt32.ofNat_toNat⟩
    rw [List.mem_filter, and_iff_right hid, Option.any_eq_true]
    exact Iff.rfl

/-- Exactly those are rewarded who earned it if whoever is found under an id that is remembered has hit the target;
an entity that has not is rewarded as soon as it is near. -/
theorem rewards_iff_attributed (hw : w.world.Sound ids) (h : w.Recorded) : w.Rewards ↔ w.Attributed := by
  constructor
  · intro hrewards target receiver hreceiver id hid entity hmapped hlive
    obtain ⟨gameEntity, hgame, -⟩ := hw.wellFormed.live_iff.1 hlive
    obtain ⟨attackers, hattackers⟩ := w.exists_allAttackers target
    let died : EntityReference := ⟨target, gameEntity⟩
    let together : Entity → GlobalPosition := fun _ => ⟨0, 0, 0⟩
    have hnear : (together died.entity).distanceTo (together entity) ≤ expReceiveRangeSquared := by
      norm_num [together, GlobalPosition.distanceTo, expReceiveRangeSquared]
    have hreward : w.rewardFor together died id = some ⟨some died, ⟨entity, gameEntity⟩, 100, 100⟩ :=
      rewardFor_eq_some_iff.2 ⟨entity, gameEntity, hmapped, hgame, hnear, rfl⟩
    have hevent := (mem_distributeExperience hattackers).2 ⟨receiver, hreceiver, id, hid, hreward⟩
    obtain ⟨reference, heq, hearned⟩ := ((hrewards together died attackers hattackers).2 _).1 hevent
    obtain rfl : ⟨entity, gameEntity⟩ = reference := congrArg ReceiveExperienceEvent.target heq
    exact hearned.hit
  · intro hattributed position died attackers hattackers
    refine ⟨nodup_distributeExperience hw hattackers.1, fun event =>
      (mem_distributeExperience hattackers).trans ⟨?_, ?_⟩⟩
    · rintro ⟨receiver, hreceiver, id, hid, hreward⟩
      obtain ⟨entity, gameEntity, hmapped, hgame, hnear, rfl⟩ := rewardFor_eq_some_iff.1 hreward
      have hlive : w.world.Live entity id :=
        hw.wellFormed.live_iff.2 ⟨gameEntity, hgame, hw.uniqueId_of_mapped hmapped hgame⟩
      obtain ⟨record, hrecord, heq, hrecordGame⟩ := hw.wellFormed.gameEntityOf_eq_some_iff.1 hgame
      exact ⟨⟨entity, gameEntity⟩, rfl, Option.isSome_of_mem hreceiver,
        hattributed died.entity receiver hreceiver id hid entity hmapped hlive,
        ⟨record, hrecord, heq, hrecordGame, h.settled id entity hmapped record hrecord heq⟩, hnear⟩
    · rintro ⟨target, rfl, hearned⟩
      obtain ⟨receiver, hreceiver⟩ := Option.isSome_iff_exists.1 hearned.fought
      obtain ⟨record, hrecord, heq, hgame, hadded⟩ := hearned.collected
      have hthere : w.world.gameEntityOf target.entity = some target.gameEntity :=
        hw.wellFormed.gameEntityOf_eq_some_iff.2 ⟨record, hrecord, heq, hgame⟩
      have hmapped := heq ▸ hw.wellFormed.collected record hrecord hadded target.gameEntity hgame
      exact ⟨receiver, hreceiver, target.gameEntity.uniqueId,
        h.recorded target.entity died.entity hearned.hit target.gameEntity hthere receiver (mem_receiverOf.1 hreceiver).2,
        rewardFor_eq_some_iff.2 ⟨target.entity, target.gameEntity, hmapped, hthere, hearned.near, rfl⟩⟩

/-! ### Whom a step makes an attacker -/

/-- A hit is remembered for the entity that hits. -/
theorem Attributed.hit (h : w.Attributed) (hw : w.world.Sound ids) {source target : Entity} {amount : UInt64}
    (hstep : w.hit p source target amount = some w') : w'.Attributed := by
  rcases hit_cases hstep with rfl | ⟨receiver, receiver', attacker, hreceiver, hattacker, hisSome, rfl⟩
  · exact h
  · intro other recorded hrecorded id hid entity hmapped hlive
    obtain ⟨hthere, hrecorded⟩ := mem_receiverOf.1 hrecorded
    by_cases heq : other = target
    · subst heq
      obtain rfl : receiver' = recorded := by simpa using hrecorded
      rcases (hisSome id).1 hid with rfl | hid
      · have hsource : w.world.Live source attacker.uniqueId := hw.wellFormed.live_iff.2 ⟨attacker, hattacker, rfl⟩
        obtain rfl := hw.ledger.unique (hw.ledger.held_of_live hlive) (hw.ledger.held_of_live hsource)
        exact List.mem_append_right _ (List.mem_singleton_self _)
      · exact List.mem_append_left _ (h other receiver hreceiver id hid entity hmapped hlive)
    · simp only [Function.update_of_ne heq] at hrecorded
      exact List.mem_append_left _
        (h other recorded (mem_receiverOf.2 ⟨hthere, hrecorded⟩) id hid entity hmapped hlive)

/-- Unless entities are collected, nobody is found who was not found before. -/
theorem Attributed.stepIds (h : w.Attributed) (hr : w.Recorded) (hw : w.world.Sound ids) {action : IdAction}
    (hne : action ≠ .collectEntities) (hstep : step ids p (.ids action) w = some w') : w'.Attributed := by
  have hw' := sound_step hw hstep
  obtain ⟨hworld, hhits, hreceivers⟩ := step_ids hstep
  intro target receiver hreceiver id hid entity hmapped hlive
  obtain ⟨hthere, hreceiver⟩ := mem_receiverOf.1 hreceiver
  obtain ⟨struck, hstruck⟩ := Option.isSome_iff_exists.1 hthere
  obtain ⟨gameEntity, hgame, hgameId⟩ := hw'.wellFormed.live_iff.1 hlive
  rcases hreceivers target receiver hreceiver with ⟨-, hnone⟩ | ⟨-, hold⟩
  · rw [hnone id] at hid
    cases hid
  · have hmapped := IdWorld.getEntityForId_of_step hworld hne hmapped
    have hgame := (hw.hasHadId_of_mapped hmapped).gameEntityOf_step hw.wellFormed hw'.wellFormed hworld hgame
    have hstruck := (hr.remembering target receiver hold id hid).gameEntityOf_step hw.wellFormed hw'.wellFormed
      hworld hstruck
    rw [hhits]
    exact h target receiver (mem_receiverOf.2 ⟨Option.isSome_of_eq_some hstruck, hold⟩) id hid entity hmapped
      (hw.wellFormed.live_iff.2 ⟨gameEntity, hgame, hgameId⟩)

theorem gameEntityOf_collectEntities (world : IdWorld Pool) (entity : Entity) :
    world.collectEntities.gameEntityOf entity = world.gameEntityOf entity := by
  simp [IdWorld.gameEntityOf, IdWorld.collectEntities, List.find?_map, Option.bind_map]

/-- Entities are collected: those that are new are found from now on. -/
theorem Attributed.collect_iff (h : w.Attributed) (hw : w.world.Sound ids)
    (hstep : step ids p (.ids .collectEntities) w = some w') :
    w'.Attributed ↔ w.CollectsFresh (.ids .collectEntities) := by
  obtain rfl : ({ w with world := w.world.collectEntities } : RewardWorld Pool) = w' := Option.some_inj.1 hstep
  have hholds (record : EntityRecord) : ({ record with added := false } : EntityRecord).holds = record.holds := rfl
  have hlives {entity : Entity} {id : UInt32} : w.world.collectEntities.Live entity id ↔ w.world.Live entity id :=
    IdWorld.live_map hholds
  have hreceivers (entity : Entity) :
      receiverOf { w with world := w.world.collectEntities } entity = w.receiverOf entity := by
    simp only [receiverOf, gameEntityOf_collectEntities]
  constructor
  · intro hnew record hrecord hadded gameEntity hgame target receiver hreceiver hid
    have hholds : record.holds = some (record.entity, gameEntity.uniqueId) :=
      IdWorld.holds_eq_some.2 ⟨rfl, gameEntity, hgame, rfl⟩
    have hmapped := hw.collectEntities.wellFormed.collected { record with added := false }
      (List.mem_map_of_mem hrecord) rfl gameEntity hgame
    exact hnew target receiver (hreceivers target ▸ hreceiver) gameEntity.uniqueId hid record.entity hmapped
      (hlives.2 ⟨record, hrecord, hholds⟩)
  · intro hfresh target receiver hreceiver id hid entity hmapped hlive
    rw [hreceivers] at hreceiver
    obtain ⟨record, hrecord, hholds⟩ := hlives.1 hlive
    obtain ⟨rfl, gameEntity, hgame, rfl⟩ := IdWorld.holds_eq_some.1 hholds
    cases hadded : record.added with
    | true => exact hfresh record hrecord hadded gameEntity hgame target receiver hreceiver hid
    | false =>
        have hmapped := hw.wellFormed.collected record hrecord hadded gameEntity hgame
        exact h target receiver hreceiver gameEntity.uniqueId hid record.entity hmapped ⟨record, hrecord, hholds⟩

/-- **One step.** -/
theorem Attributed.step_iff (h : w.Attributed) (hr : w.Recorded) (hw : w.world.Sound ids) {action : RewardAction}
    (hstep : step ids p action w = some w') : w'.Attributed ↔ w.CollectsFresh action := by
  cases action with
  | hit source target amount => exact iff_of_true (h.hit hw hstep) trivial
  | ids action =>
      cases action with
      | collectEntities => exact h.collect_iff hw hstep
      | accept | spawn | handleJoin | despawn | applyCommand | maintainEntities =>
          exact iff_of_true (h.stepIds hr hw (by simp) hstep) trivial

/-! ### Runs -/

/-- **Exactly the attackers are rewarded, and each once, if and only if nobody is ever collected under an id that is
remembered for the hits of another.** -/
theorem rewards_iff (ids : IdPool Pool) (p : Profile) (pool : Pool) (actions : List RewardAction) :
    Reached (step ids p) Rewards actions (init pool) ↔ AllSteps (step ids p) CollectsFresh actions (init pool) := by
  have hsound : Reached (step ids p) (fun w => w.world.Sound ids ∧ w.Recorded) actions (init pool) :=
    reached_of_step (fun _ _ _ _ h hstep => ⟨sound_step h.1 hstep, h.2.step h.1 hstep⟩)
      ⟨IdWorld.sound_init pool, recorded_init pool⟩
  have hiff : Reached (step ids p) (fun w => (w.world.Sound ids ∧ w.Recorded) ∧ w.Attributed) actions (init pool) ↔
      AllSteps (step ids p) CollectsFresh actions (init pool) := by
    refine reached_iff_allSteps (fun _ _ w w' h hstep => ?_)
      ⟨⟨IdWorld.sound_init pool, recorded_init pool⟩, fun _ _ _ _ _ _ hmapped => by cases hmapped⟩
    have hnext : w'.world.Sound ids ∧ w'.Recorded := ⟨sound_step h.1.1 hstep, h.1.2.step h.1.1 hstep⟩
    exact (and_iff_right hnext).trans (h.2.step_iff h.1.2 h.1.1 hstep)
  rw [← hiff]
  constructor
  · intro h pre w hpre hw
    have hs := hsound pre w hpre hw
    exact ⟨hs, (rewards_iff_attributed hs.1 hs.2).1 (h pre w hpre hw)⟩
  · intro h pre w hpre hw
    obtain ⟨hs, hattributed⟩ := h pre w hpre hw
    exact (rewards_iff_attributed hs.1 hs.2).2 hattributed

/-- A monster is hit by another, which is despawned; its id goes to a third one. -/
def recycledId : List RewardAction :=
  [.ids (.spawn .spawnMonster 1 0), .ids (.spawn .spawnMonster 2 0), .ids (.applyCommand 0), .ids (.applyCommand 0),
    .ids .collectEntities, .hit 2 1 5, .ids (.despawn 2), .ids (.applyCommand 0), .ids .maintainEntities,
    .ids (.spawn .spawnMonster 3 0), .ids (.applyCommand 0), .ids .collectEntities]

-- The third one is rewarded for the hit.
example : (runAll (step IdPool.ofList .release) recycledId (init [7, 8])).map (fun w =>
    (w.distributeExperience (fun _ => ⟨0, 0, 0⟩) ⟨1, ⟨7, 0⟩⟩ [8]).map fun event => event.target) =
      some [⟨3, ⟨8, 0⟩⟩] := by
  decide +kernel

end RewardWorld

end Skrillax

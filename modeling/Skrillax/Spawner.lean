/-
**Spawners.**

A spawner keeps a count of its living monsters, apart from the monsters.  It is activated and deactivated
with its region, and refilled from time to time; deaths are collected at the end of the tick.  A position
that is drawn outside of the navigation mesh is dropped, but counted all the same.

Main definitions:

* `Spawner`, `SpawnedMonster`, `SpawnWorld` — the spawners and the monsters;
* `spawnMonsters`, `doSpawnMobs`, `collectMonsterDeaths` — the systems;
* `spawnTick` — a tick, with the commands applied;
* `SpawnWorld.alive` — the monsters of a spawner that are not dead;
* `SpawnWorld.CountsMonsters` — every active spawner knows how many they are;
* `OnNavmesh` — the ticks in which every position that is drawn is on the mesh.

Main results:

* `updateSpawner_eq`, `spawnNMonsters_spec` — what a spawner does in a tick;
* `SpawnWorld.spawnTick_effect` — one tick;
* `spawners_count_iff` — **in every run the counts are right exactly if every position is on the mesh**.
-/

import Skrillax.EntityIds

set_option relaxedAutoImplicit false
set_option autoImplicit false

namespace Skrillax

open PartialAction

/-! ### Spawners -/

/-- The component; the amounts are as large as they get, since nothing exceeds the target. -/
structure Spawner where
  active : Bool
  reference : UInt32
  targetAmount : ℕ
  currentAmount : ℕ
  deriving DecidableEq, Repr

namespace Spawner

def new (reference : UInt32) (targetAmount : ℕ) : Spawner := ⟨false, reference, targetAmount, 0⟩

def deactivate (spawner : Spawner) : Spawner := { spawner with active := false, currentAmount := 0 }

def hasSpotsAvailable (spawner : Spawner) : Bool := decide (spawner.currentAmount < spawner.targetAmount)

def availableSpots (spawner : Spawner) : ℕ := spawner.targetAmount - spawner.currentAmount

/-- `justFinished` is what the timer says, and `coin` the random decision. -/
def shouldSpawn (spawner : Spawner) (justFinished coin : Bool) : Bool :=
  spawner.hasSpotsAvailable && justFinished && coin

def increaseAliveBy (spawner : Spawner) (amount : ℕ) : Spawner :=
  { spawner with currentAmount := spawner.currentAmount + amount }

def decreaseAliveBy (spawner : Spawner) (amount : ℕ) : Spawner :=
  { spawner with currentAmount := spawner.currentAmount - amount }

def decreaseAlive (spawner : Spawner) : Spawner := spawner.decreaseAliveBy 1

end Spawner

inductive SpawnedBy where
  | spawner (entity : Entity)
  | player (entity : Entity)
  | monster (entity : Entity)
  | none
  deriving DecidableEq, Repr

/-- A monster that exists.  `addedDead` says that it got the state `Dead` since the last collection. -/
structure SpawnedMonster (Position : Type) where
  entity : Entity
  gameEntity : GameEntity
  position : Position
  spawnedBy : SpawnedBy
  dead : Bool
  addedDead : Bool

/-- The mesh: whether there is one for the region of a location, and the location with its height there. -/
structure SpawnMesh (Location Position : Type) where
  meshFor : Location → Bool
  withHeight : Location → Option Position

/-- The entity of a spawner. -/
structure SpawnerEntity (Region : Type) where
  entity : Entity
  region : Region
  spawner : Spawner

structure SpawnWorld (Region Position Pool : Type) where
  spawners : List (SpawnerEntity Region)
  monsters : List (SpawnedMonster Position)
  reserved : List Entity
  pool : Pool

/-! ### A tick -/

/-- A random location, and the entity that is reserved for a monster there. -/
structure SpawnDraw (Location : Type) where
  location : Location
  entity : Entity

/-- What a spawner draws in a tick: its timer, the decisions and the locations. -/
structure SpawnerDraws (Location : Type) where
  justFinished : Bool
  coin : Bool
  roll : ℕ
  draws : ℕ → SpawnDraw Location

/-- A `SpawnMonster` event; no spawner sends one. -/
structure MobEvent (Position : Type) where
  refId : UInt32
  position : Position
  player : Option Entity
  entity : Entity

/-- What happens in a tick.  `active` are the regions near a player, `deaths` the monsters that get the state
`Dead`, and `expired` those whose timer ends; `spawnersFirst` says whether the commands of `spawn_monsters`
are applied before those of the transitions. -/
structure SpawnTick (Region Location Position : Type) where
  active : Region → Bool
  draws : Entity → SpawnerDraws Location
  events : List (MobEvent Position)
  deaths : List Entity
  expired : List Entity
  spawnersFirst : Bool

/-- The pool, the entities that are reserved, and the monsters that are to be spawned. -/
structure Spawning (Position Pool : Type) where
  pool : Pool
  reserved : List Entity
  spawned : List (SpawnedMonster Position)

section Systems

variable {Region Location Position Pool : Type} (ids : IdPool Pool) (mesh : SpawnMesh Location Position)

/-- A location without a mesh is dropped; inside of a mesh there has to be a height. -/
def toPosition (location : Location) : Option (Option Position) :=
  if mesh.meshFor location then (mesh.withHeight location).map some else some none

/-- What the spawning systems share: an id, an entity that was not reserved before, and the monster. -/
def spawnMonster (spawnedBy : SpawnedBy) (refId : UInt32) (position : Position) (entity : Entity)
    (spawning : Spawning Position Pool) : Option (Spawning Position Pool) := do
  let (uniqueId, pool) ← ids.requestId spawning.pool
  if entity ∈ spawning.reserved then none
  else
    return {
      pool
      reserved := entity :: spawning.reserved
      spawned := spawning.spawned ++ [⟨entity, ⟨uniqueId, refId⟩, position, spawnedBy, false, false⟩] }

def spawnNMonsters (spawner : SpawnerEntity Region) :
    List (SpawnDraw Location) → Spawning Position Pool → Option (Spawning Position Pool)
  | [], spawning => some spawning
  | draw :: draws, spawning => do
      match ← toPosition mesh draw.location with
      | none => spawnNMonsters spawner draws spawning
      | some position =>
          let spawning ← spawnMonster ids (.spawner spawner.entity) spawner.spawner.reference position
            draw.entity spawning
          spawnNMonsters spawner draws spawning

/-- Every monster of this spawner is despawned. -/
def despawnedBy (monsters : List (SpawnedMonster Position)) (entity : Entity) : List Entity :=
  (monsters.filter fun monster => monster.spawnedBy = .spawner entity).map SpawnedMonster.entity

variable (tick : SpawnTick Region Location Position)

/-- `gen_range(1..=max_spawn)`. -/
def refillAmount (spawner : Spawner) (roll : ℕ) : ℕ := 1 + roll % min spawner.availableSpots 3

/-- The body of the loop of `spawn_monsters`: the spawner, what is to be despawned and what is to be
spawned. -/
def updateSpawner (monsters : List (SpawnedMonster Position)) (s : SpawnerEntity Region)
    (spawning : Spawning Position Pool) :
    Option (SpawnerEntity Region × List Entity × Spawning Position Pool) :=
  let draws := tick.draws s.entity
  let shouldBeActive := tick.active s.region
  if !s.spawner.active && shouldBeActive then do
    let amount := s.spawner.targetAmount
    let spawning ← spawnNMonsters ids mesh s ((List.range amount).map draws.draws) spawning
    return ({ s with spawner := { s.spawner.increaseAliveBy amount with active := true } }, [], spawning)
  else if s.spawner.active && !shouldBeActive then
    some ({ s with spawner := s.spawner.deactivate }, despawnedBy monsters s.entity, spawning)
  else if s.spawner.active && s.spawner.shouldSpawn draws.justFinished draws.coin then do
    let toSpawn := refillAmount s.spawner draws.roll
    let spawning ← spawnNMonsters ids mesh s ((List.range toSpawn).map draws.draws) spawning
    return ({ s with spawner := s.spawner.increaseAliveBy toSpawn }, [], spawning)
  else some (s, [], spawning)

def spawnMonsters (monsters : List (SpawnedMonster Position)) :
    List (SpawnerEntity Region) → Spawning Position Pool →
      Option (List (SpawnerEntity Region) × List Entity × Spawning Position Pool)
  | [], spawning => some ([], [], spawning)
  | s :: spawners, spawning => do
      let (s, despawned, spawning) ← updateSpawner ids mesh tick monsters s spawning
      let (spawners, despawned', spawning) ← spawnMonsters monsters spawners spawning
      return (s :: spawners, despawned ++ despawned', spawning)

def doSpawnMobs : List (MobEvent Position) → Spawning Position Pool → Option (Spawning Position Pool)
  | [], spawning => some spawning
  | event :: events, spawning => do
      let spawnedBy := match event.player with
        | some player => .player player
        | none => .none
      let spawning ← spawnMonster ids spawnedBy event.refId event.position event.entity spawning
      doSpawnMobs events spawning

/-- The state `Dead` is inserted. -/
def SpawnedMonster.die (deaths : List Entity) (monster : SpawnedMonster Position) :
    SpawnedMonster Position :=
  if monster.entity ∈ deaths ∧ monster.dead = false then
    { monster with dead := true, addedDead := true }
  else monster

/-- One entity of the query of `collect_monster_deaths`. -/
def collectDeath (spawners : List (SpawnerEntity Region)) (monster : SpawnedMonster Position) :
    List (SpawnerEntity Region) :=
  match monster.addedDead, monster.spawnedBy with
  | true, .spawner entity =>
      spawners.map fun s =>
        if s.entity = entity then { s with spawner := s.spawner.decreaseAlive } else s
  | _, _ => spawners

def collectMonsterDeaths (w : SpawnWorld Region Position Pool) : SpawnWorld Region Position Pool :=
  { w with
    spawners := w.monsters.foldl collectDeath w.spawners
    monsters := w.monsters.map fun monster => { monster with addedDead := false } }

/-- A tick.  A state that is inserted into an entity that was despawned before panics; apart from that the
commands of a tick may be applied in any order. -/
def spawnTick (w : SpawnWorld Region Position Pool) : Option (SpawnWorld Region Position Pool) := do
  let (spawners, despawned, spawning) ←
    spawnMonsters ids mesh tick w.monsters w.spawners ⟨w.pool, w.reserved, []⟩
  let spawning ← doSpawnMobs ids tick.events spawning
  let dying := w.monsters.filter fun monster => monster.entity ∈ tick.deaths ∧ monster.dead = false
  let expired := w.monsters.filter fun monster => monster.entity ∈ tick.expired ∧ monster.dead = true
  if tick.spawnersFirst && dying.any (fun monster => decide (monster.entity ∈ despawned)) then none
  else
    let gone := despawned ++ expired.map SpawnedMonster.entity
    let monsters := (w.monsters.filter fun monster => monster.entity ∉ gone).map
      (SpawnedMonster.die tick.deaths)
    return collectMonsterDeaths
      ⟨spawners, monsters ++ spawning.spawned, spawning.reserved, spawning.pool⟩

end Systems

/-! ### What is demanded -/

namespace SpawnWorld

variable {Region Location Position Pool : Type}

/-- The monsters of a spawner that exist and are not dead. -/
def alive (w : SpawnWorld Region Position Pool) (entity : Entity) : ℕ :=
  w.monsters.countP fun monster => monster.spawnedBy = .spawner entity ∧ monster.dead = false

/-- Every active spawner knows how many of its monsters live, and no spawner exceeds its target. -/
def CountsMonsters (w : SpawnWorld Region Position Pool) : Prop :=
  ∀ s ∈ w.spawners, (s.spawner.active = true → s.spawner.currentAmount = w.alive s.entity) ∧
    s.spawner.currentAmount ≤ s.spawner.targetAmount

/-- Spawners that have not been activated yet. -/
def init (spawners : List (SpawnerEntity Region)) (reserved : List Entity) (pool : Pool) :
    SpawnWorld Region Position Pool where
  spawners := spawners.map fun s => { s with spawner := .new s.spawner.reference s.spawner.targetAmount }
  monsters := []
  reserved
  pool

end SpawnWorld

section Condition

variable {Region Location Position Pool : Type}

/-- How many positions a spawner draws in a tick. -/
def toSpawn (tick : SpawnTick Region Location Position) (s : SpawnerEntity Region) : ℕ :=
  let draws := tick.draws s.entity
  let shouldBeActive := tick.active s.region
  if !s.spawner.active && shouldBeActive then s.spawner.targetAmount
  else if s.spawner.active && !shouldBeActive then 0
  else if s.spawner.active && s.spawner.shouldSpawn draws.justFinished draws.coin then
    refillAmount s.spawner draws.roll
  else 0

/-- Every position that is drawn in the tick has a mesh. -/
def OnNavmesh (mesh : SpawnMesh Location Position) (w : SpawnWorld Region Position Pool)
    (tick : SpawnTick Region Location Position) : Prop :=
  ∀ s ∈ w.spawners, ∀ i < toSpawn tick s,
    mesh.meshFor ((tick.draws s.entity).draws i).location = true

end Condition

/-! ### Spawning -/

section Spawns

variable {Region Location Position Pool : Type} {ids : IdPool Pool} {mesh : SpawnMesh Location Position}

/-- These monsters are added: they are alive, and no entity is used twice. -/
structure Spawning.Adds (spawning spawning' : Spawning Position Pool)
    (new : List (SpawnedMonster Position)) : Prop where
  spawned : spawning'.spawned = spawning.spawned ++ new
  reserved : ∀ entity, entity ∈ spawning'.reserved ↔
    entity ∈ spawning.reserved ∨ entity ∈ new.map SpawnedMonster.entity
  fresh : ∀ monster ∈ new, monster.entity ∉ spawning.reserved
  nodup : (new.map SpawnedMonster.entity).Nodup
  alive : ∀ monster ∈ new, monster.dead = false ∧ monster.addedDead = false

namespace Spawning.Adds

variable {spawning spawning' spawning'' : Spawning Position Pool}
variable {new new' : List (SpawnedMonster Position)}

theorem refl (spawning : Spawning Position Pool) : spawning.Adds spawning [] where
  spawned := (List.append_nil _).symm
  reserved entity := by simp
  fresh _ h := by cases h
  nodup := List.nodup_nil
  alive _ h := by cases h

theorem trans (h : spawning.Adds spawning' new) (h' : spawning'.Adds spawning'' new') :
    spawning.Adds spawning'' (new ++ new') where
  spawned := by rw [h'.spawned, h.spawned, List.append_assoc]
  reserved entity := by rw [h'.reserved, h.reserved, List.map_append, List.mem_append, or_assoc]
  fresh monster hm := by
    rcases List.mem_append.1 hm with hm | hm
    · exact h.fresh monster hm
    · exact fun hmem => h'.fresh monster hm ((h.reserved _).2 (Or.inl hmem))
  nodup := by
    rw [List.map_append]
    refine List.nodup_append.2 ⟨h.nodup, h'.nodup, ?_⟩
    rintro entity hentity entity' hentity' rfl
    obtain ⟨monster, hmonster, rfl⟩ := List.mem_map.1 hentity'
    exact h'.fresh monster hmonster ((h.reserved _).2 (Or.inr hentity))
  alive monster hm := (List.mem_append.1 hm).elim (h.alive monster) (h'.alive monster)

end Spawning.Adds

variable {spawning spawning' : Spawning Position Pool}

theorem spawnMonster_spec {spawnedBy : SpawnedBy} {refId : UInt32} {position : Position}
    {entity : Entity} (h : spawnMonster ids spawnedBy refId position entity spawning = some spawning') :
    ∃ monster : SpawnedMonster Position, spawning.Adds spawning' [monster] ∧
      monster.spawnedBy = spawnedBy := by
  obtain ⟨⟨uniqueId, pool⟩, -, hrest⟩ := Option.bind_eq_some_iff.1 h
  simp only at hrest
  split at hrest
  · cases hrest
  · rename_i hnew
    obtain rfl := Option.some_inj.1 hrest
    refine ⟨⟨entity, ⟨uniqueId, refId⟩, position, spawnedBy, false, false⟩, ?_, rfl⟩
    refine ⟨rfl, fun other => ?_, ?_, List.nodup_singleton _, ?_⟩
    · rw [List.mem_cons, List.map_singleton, List.mem_singleton]
      exact or_comm
    · intro monster hm
      obtain rfl := List.mem_singleton.1 hm
      exact hnew
    · intro monster hm
      obtain rfl := List.mem_singleton.1 hm
      exact ⟨rfl, rfl⟩

/-- **One monster for every position on the mesh.** -/
theorem spawnNMonsters_spec {s : SpawnerEntity Region} {draws : List (SpawnDraw Location)} :
    ∀ {spawning spawning' : Spawning Position Pool},
      spawnNMonsters ids mesh s draws spawning = some spawning' →
      ∃ new, spawning.Adds spawning' new ∧ (∀ monster ∈ new, monster.spawnedBy = .spawner s.entity) ∧
        new.length = draws.countP fun draw => mesh.meshFor draw.location := by
  induction draws with
  | nil =>
      intro spawning spawning' h
      obtain rfl := Option.some_inj.1 h
      exact ⟨[], .refl _, fun _ hm => (by cases hm), rfl⟩
  | cons draw draws ih =>
      intro spawning spawning' h
      obtain ⟨found, hfound, hrest⟩ := Option.bind_eq_some_iff.1 h
      unfold toPosition at hfound
      cases hmesh : mesh.meshFor draw.location with
      | false =>
          rw [hmesh] at hfound
          obtain rfl := Option.some_inj.1 hfound
          obtain ⟨new, hadds, hby, hlength⟩ := ih hrest
          refine ⟨new, hadds, hby, ?_⟩
          rw [List.countP_cons_of_neg (by simp [hmesh]), hlength]
      | true =>
          rw [hmesh] at hfound
          obtain ⟨position, -, rfl⟩ := Option.map_eq_some_iff.1 hfound
          obtain ⟨between, hspawn, hrest⟩ := Option.bind_eq_some_iff.1 hrest
          obtain ⟨monster, hadds, hby⟩ := spawnMonster_spec hspawn
          obtain ⟨new, hadds', hby', hlength⟩ := ih hrest
          refine ⟨[monster] ++ new, hadds.trans hadds', ?_, ?_⟩
          · intro other hm
            rcases List.mem_append.1 hm with hm | hm
            · exact List.mem_singleton.1 hm ▸ hby
            · exact hby' other hm
          · rw [List.countP_cons_of_pos (by simpa using hmesh), List.length_append, hlength]
            exact Nat.add_comm _ _

theorem doSpawnMobs_spec {events : List (MobEvent Position)} :
    ∀ {spawning spawning' : Spawning Position Pool}, doSpawnMobs ids events spawning = some spawning' →
      ∃ new, spawning.Adds spawning' new ∧ ∀ monster ∈ new, ∀ e, monster.spawnedBy ≠ .spawner e := by
  induction events with
  | nil =>
      intro spawning spawning' h
      obtain rfl := Option.some_inj.1 h
      exact ⟨[], .refl _, fun _ hm => by cases hm⟩
  | cons event events ih =>
      intro spawning spawning' h
      obtain ⟨between, hspawn, hrest⟩ := Option.bind_eq_some_iff.1 h
      obtain ⟨monster, hadds, hby⟩ := spawnMonster_spec hspawn
      obtain ⟨new, hadds', hby'⟩ := ih hrest
      refine ⟨[monster] ++ new, hadds.trans hadds', fun other hm e => ?_⟩
      rcases List.mem_append.1 hm with hm | hm
      · rw [List.mem_singleton.1 hm, hby]
        cases event.player <;> simp
      · exact hby' other hm e

end Spawns

/-! ### What a spawner does in a tick -/

section Update

variable {Region Location Position Pool : Type} {ids : IdPool Pool} {mesh : SpawnMesh Location Position}
variable {tick : SpawnTick Region Location Position}

/-- The spawner is deactivated in this tick. -/
def deactivates (tick : SpawnTick Region Location Position) (s : SpawnerEntity Region) : Bool :=
  s.spawner.active && !tick.active s.region

/-- The spawner after its turn. -/
def updated (tick : SpawnTick Region Location Position) (s : SpawnerEntity Region) :
    SpawnerEntity Region :=
  { s with
    spawner :=
      if deactivates tick s then s.spawner.deactivate
      else { s.spawner.increaseAliveBy (toSpawn tick s) with
        active := s.spawner.active || tick.active s.region } }

/-- How many of the positions that a spawner draws are on the mesh. -/
def onMesh (mesh : SpawnMesh Location Position) (tick : SpawnTick Region Location Position)
    (s : SpawnerEntity Region) : ℕ :=
  ((List.range (toSpawn tick s)).map (tick.draws s.entity).draws).countP fun draw =>
    mesh.meshFor draw.location

/-- **The turn of a spawner.** -/
theorem updateSpawner_eq (monsters : List (SpawnedMonster Position)) (s : SpawnerEntity Region)
    (spawning : Spawning Position Pool) :
    updateSpawner ids mesh tick monsters s spawning =
      (spawnNMonsters ids mesh s ((List.range (toSpawn tick s)).map (tick.draws s.entity).draws)
        spawning).map fun spawning =>
          (updated tick s, if deactivates tick s then despawnedBy monsters s.entity else [], spawning) := by
  obtain ⟨entity, region, ⟨active, reference, targetAmount, currentAmount⟩⟩ := s
  cases active with
  | false =>
      cases hregion : tick.active region with
      | false =>
          simp [updateSpawner, updated, deactivates, toSpawn, hregion, spawnNMonsters,
            Spawner.increaseAliveBy]
      | true =>
          simp [updateSpawner, updated, deactivates, toSpawn, hregion, Spawner.increaseAliveBy,
            Option.map_eq_bind]
  | true =>
      cases hregion : tick.active region with
      | false =>
          simp [updateSpawner, updated, deactivates, toSpawn, hregion, spawnNMonsters]
      | true =>
          cases hspawn : Spawner.shouldSpawn ⟨true, reference, targetAmount, currentAmount⟩
              (tick.draws entity).justFinished (tick.draws entity).coin with
          | false =>
              simp [updateSpawner, updated, deactivates, toSpawn, hregion, hspawn, spawnNMonsters,
                Spawner.increaseAliveBy]
          | true =>
              simp [updateSpawner, updated, deactivates, toSpawn, hregion, hspawn,
                Spawner.increaseAliveBy, Option.map_eq_bind]

theorem mem_despawnedBy {monsters : List (SpawnedMonster Position)} {e x : Entity} :
    x ∈ despawnedBy monsters e ↔
      ∃ monster ∈ monsters, monster.spawnedBy = .spawner e ∧ monster.entity = x := by
  unfold despawnedBy
  simp only [List.mem_map, List.mem_filter, decide_eq_true_eq, and_assoc]

/-- **The turns of all spawners.** -/
theorem spawnMonsters_spec {monsters : List (SpawnedMonster Position)}
    {spawners : List (SpawnerEntity Region)} :
    ∀ {spawners' : List (SpawnerEntity Region)} {despawned : List Entity}
      {spawning spawning' : Spawning Position Pool},
      (spawners.map SpawnerEntity.entity).Nodup →
      spawnMonsters ids mesh tick monsters spawners spawning = some (spawners', despawned, spawning') →
      ∃ new, spawning.Adds spawning' new ∧ spawners' = spawners.map (updated tick) ∧
        (∀ x, x ∈ despawned ↔ ∃ s ∈ spawners, deactivates tick s = true ∧
          x ∈ despawnedBy monsters s.entity) ∧
        (∀ monster ∈ new, ∃ s ∈ spawners, monster.spawnedBy = .spawner s.entity) ∧
        ∀ s ∈ spawners, new.countP (fun monster => monster.spawnedBy = .spawner s.entity) =
          onMesh mesh tick s := by
  induction spawners with
  | nil =>
      intro spawners' despawned spawning spawning' _ h
      obtain ⟨⟩ := h
      exact ⟨[], .refl _, rfl, fun x => by simp, fun _ hm => (by cases hm), fun _ hs => (by cases hs)⟩
  | cons s spawners ih =>
      intro spawners' despawned spawning spawning' hnodup h
      obtain ⟨hnot, hnodup⟩ := List.nodup_cons.1 hnodup
      obtain ⟨⟨s', gone, between⟩, hupdate, hrest⟩ := Option.bind_eq_some_iff.1 h
      obtain ⟨⟨rest, gone', final⟩, hspawners, hret⟩ := Option.bind_eq_some_iff.1 hrest
      obtain ⟨⟩ := hret
      rw [updateSpawner_eq] at hupdate
      obtain ⟨after, hspawn, hupdated⟩ := Option.map_eq_some_iff.1 hupdate
      obtain ⟨rfl, rfl, rfl⟩ := hupdated
      obtain ⟨new, hadds, hby, hlength⟩ := spawnNMonsters_spec hspawn
      obtain ⟨new', hadds', rfl, hgone', hby', hcount'⟩ := ih hnodup hspawners
      -- the monsters of the others are not counted for this spawner, nor its own for them
      have hother : new'.countP (fun monster => monster.spawnedBy = .spawner s.entity) = 0 := by
        refine List.countP_eq_zero.2 fun monster hm hspawned => ?_
        obtain ⟨other, hmem, heq⟩ := hby' monster hm
        have hentity := SpawnedBy.spawner.inj (heq.symm.trans (of_decide_eq_true hspawned))
        exact hnot (hentity ▸ List.mem_map_of_mem hmem)
      have hown : new.countP (fun monster => monster.spawnedBy = .spawner s.entity) = new.length :=
        List.countP_eq_length.2 fun monster hm => decide_eq_true (hby monster hm)
      refine ⟨new ++ new', hadds.trans hadds', rfl, fun x => ?_, fun monster hm => ?_, fun t ht => ?_⟩
      · rw [List.mem_append, hgone' x]
        simp only [List.mem_cons, or_and_right, exists_or, exists_eq_left]
        refine or_congr_left ?_
        split
        · rename_i hdeactivates
          simp [hdeactivates]
        · rename_i hdeactivates
          simp [hdeactivates]
      · rcases List.mem_append.1 hm with hm | hm
        · exact ⟨s, List.mem_cons_self, hby monster hm⟩
        · obtain ⟨other, hmem, heq⟩ := hby' monster hm
          exact ⟨other, List.mem_cons_of_mem _ hmem, heq⟩
      · rw [List.countP_append]
        rcases List.mem_cons.1 ht with rfl | ht
        · rw [hown, hother, hlength]
          rfl
        · have hnone : new.countP (fun monster => monster.spawnedBy = .spawner t.entity) = 0 := by
            refine List.countP_eq_zero.2 fun monster hm hspawned => ?_
            have hentity := SpawnedBy.spawner.inj ((hby monster hm).symm.trans (of_decide_eq_true hspawned))
            exact hnot (hentity ▸ List.mem_map_of_mem ht)
          rw [hnone, Nat.zero_add]
          exact hcount' t ht

/-! ### Deaths -/

/-- The monsters of a spawner whose death is to be collected. -/
def died (monsters : List (SpawnedMonster Position)) (e : Entity) : ℕ :=
  monsters.countP fun monster => monster.addedDead = true ∧ monster.spawnedBy = .spawner e

/-- Every spawner is told of the deaths of its monsters. -/
theorem foldl_collectDeath (monsters : List (SpawnedMonster Position)) :
    ∀ spawners : List (SpawnerEntity Region), monsters.foldl collectDeath spawners =
      spawners.map fun s => { s with spawner := s.spawner.decreaseAliveBy (died monsters s.entity) } := by
  induction monsters with
  | nil =>
      intro spawners
      exact (List.map_id spawners).symm
  | cons monster monsters ih =>
      intro spawners
      rw [List.foldl_cons, ih]
      unfold collectDeath
      split
      · rename_i entity hadded hby
        rw [List.map_map]
        refine List.map_congr_left fun s _ => ?_
        rw [Function.comp_apply]
        by_cases heq : s.entity = entity
        · have hdied : died (monster :: monsters) s.entity = died monsters s.entity + 1 :=
            List.countP_cons_of_pos (by simp [hadded, hby, heq])
          rw [if_pos heq, hdied]
          simp only [Spawner.decreaseAlive, Spawner.decreaseAliveBy, Nat.sub_sub, Nat.add_comm]
        · have hdied : died (monster :: monsters) s.entity = died monsters s.entity :=
            List.countP_cons_of_neg (by simp [hadded, hby, Ne.symm heq])
          rw [if_neg heq, hdied]
      · rename_i hno
        refine List.map_congr_left fun s _ => ?_
        have hdied : died (monster :: monsters) s.entity = died monsters s.entity := by
          refine List.countP_cons_of_neg fun hcounted => ?_
          obtain ⟨hadded, hby⟩ := of_decide_eq_true hcounted
          exact hno s.entity hadded hby
        rw [hdied]

/-- A monster that its spawner still counts: it is alive, or its death has not been collected. -/
def Uncollected (e : Entity) (monster : SpawnedMonster Position) : Prop :=
  monster.spawnedBy = .spawner e ∧ (monster.dead = false ∨ monster.addedDead = true)

instance (e : Entity) (monster : SpawnedMonster Position) : Decidable (Uncollected e monster) :=
  inferInstanceAs (Decidable (_ ∧ _))

/-- Counting two cases that exclude each other. -/
theorem countP_split {α : Type} {p q r : α → Prop} [DecidablePred p] [DecidablePred q] [DecidablePred r]
    {l : List α} (hsplit : ∀ a ∈ l, p a ↔ q a ∨ r a) (hnot : ∀ a ∈ l, q a → ¬ r a) :
    l.countP (fun a => p a) = l.countP (fun a => q a) + l.countP (fun a => r a) := by
  induction l with
  | nil => rfl
  | cons a l ih =>
      have ih := ih (fun b hb => hsplit b (List.mem_cons_of_mem _ hb))
        fun b hb => hnot b (List.mem_cons_of_mem _ hb)
      have hp := hsplit a List.mem_cons_self
      rw [List.countP_cons, List.countP_cons, List.countP_cons, ih]
      by_cases hq : q a
      · have hr := hnot a List.mem_cons_self hq
        simp [hp.2 (Or.inl hq), hq, hr]
        omega
      · by_cases hr : r a
        · simp [hp.2 (Or.inr hr), hq, hr]
          omega
        · have hnp : ¬ p a := fun h => (hp.1 h).elim hq hr
          simp [hnp, hq, hr]

/-- The monsters that are still counted are those that live and those whose death is to be collected. -/
theorem countP_uncollected {monsters : List (SpawnedMonster Position)} (e : Entity)
    (hdead : ∀ monster ∈ monsters, monster.addedDead = true → monster.dead = true) :
    monsters.countP (fun monster => Uncollected e monster) =
      monsters.countP (fun monster => monster.spawnedBy = .spawner e ∧ monster.dead = false) +
        died monsters e := by
  refine countP_split (fun monster hm => ?_) (fun monster hm halive hdied => ?_)
  · unfold Uncollected
    rw [and_or_left]
    exact or_congr_right and_comm
  · exact Bool.false_ne_true (halive.2.symm.trans (hdead monster hm hdied.1))

end Update

/-! ### The invariant -/

namespace SpawnWorld

variable {Region Location Position Pool : Type} {ids : IdPool Pool} {mesh : SpawnMesh Location Position}
variable {tick : SpawnTick Region Location Position} {w w' : SpawnWorld Region Position Pool}

/-- What holds at the end of every tick, wherever the positions are. -/
structure Base (w : SpawnWorld Region Position Pool) : Prop where
  spawnersNodup : (w.spawners.map SpawnerEntity.entity).Nodup
  monstersNodup : (w.monsters.map SpawnedMonster.entity).Nodup
  reserved : ∀ monster ∈ w.monsters, monster.entity ∈ w.reserved
  collected : ∀ monster ∈ w.monsters, monster.addedDead = false
  bounded : ∀ s ∈ w.spawners, s.spawner.currentAmount ≤ s.spawner.targetAmount
  inactive : ∀ s ∈ w.spawners, s.spawner.active = false →
    s.spawner.currentAmount = 0 ∧ ∀ monster ∈ w.monsters, monster.spawnedBy ≠ .spawner s.entity

/-- The monsters that a tick leaves of those that were there. -/
def survivors (tick : SpawnTick Region Location Position) (w : SpawnWorld Region Position Pool)
    (gone : List Entity) : List (SpawnedMonster Position) :=
  (w.monsters.filter fun monster => monster.entity ∉ gone).map (SpawnedMonster.die tick.deaths)

/-- What a tick does, before the deaths are collected. -/
structure TickEffect (mesh : SpawnMesh Location Position) (tick : SpawnTick Region Location Position)
    (w w' : SpawnWorld Region Position Pool) (gone : List Entity)
    (new : List (SpawnedMonster Position)) (spawning : Spawning Position Pool) : Prop where
  eq : w' = collectMonsterDeaths
    ⟨w.spawners.map (updated tick), w.survivors tick gone ++ new, spawning.reserved, spawning.pool⟩
  adds : (⟨w.pool, w.reserved, []⟩ : Spawning Position Pool).Adds spawning new
  gone_iff : ∀ x, x ∈ gone ↔
    (∃ s ∈ w.spawners, deactivates tick s = true ∧ x ∈ despawnedBy w.monsters s.entity) ∨
      ∃ monster ∈ w.monsters, monster.entity ∈ tick.expired ∧ monster.dead = true ∧ monster.entity = x
  count : ∀ s ∈ w.spawners, new.countP (fun monster => monster.spawnedBy = .spawner s.entity) =
    onMesh mesh tick s

theorem spawnTick_effect (hbase : w.Base) (h : spawnTick ids mesh tick w = some w') :
    ∃ gone new spawning, TickEffect mesh tick w w' gone new spawning := by
  obtain ⟨⟨spawners, despawned, between⟩, hspawners, hrest⟩ := Option.bind_eq_some_iff.1 h
  obtain ⟨final, hmobs, hret⟩ := Option.bind_eq_some_iff.1 hrest
  obtain ⟨new, hadds, rfl, hdespawned, -, hcount⟩ := spawnMonsters_spec hbase.spawnersNodup hspawners
  obtain ⟨mobs, hadds', hby⟩ := doSpawnMobs_spec hmobs
  have hall := hadds.trans hadds'
  simp only at hret
  split at hret
  · cases hret
  · obtain rfl := Option.some_inj.1 hret
    have hspawned : final.spawned = new ++ mobs := hall.spawned
    refine ⟨despawned ++ (w.monsters.filter fun monster =>
      monster.entity ∈ tick.expired ∧ monster.dead = true).map SpawnedMonster.entity,
      new ++ mobs, final, ?_, hall, fun x => ?_, fun s hs => ?_⟩
    · rw [hspawned]
      rfl
    · rw [List.mem_append, hdespawned]
      refine or_congr_right ?_
      simp only [List.mem_map, List.mem_filter, decide_eq_true_eq, and_assoc]
    · have hnone : mobs.countP (fun monster => monster.spawnedBy = .spawner s.entity) = 0 :=
        List.countP_eq_zero.2 fun monster hm hspawned => hby monster hm _ (of_decide_eq_true hspawned)
      rw [List.countP_append, hcount s hs, hnone, Nat.add_zero]

/-- Dying does not change whether a spawner still counts a monster. -/
theorem uncollected_die {deaths : List Entity} {monster : SpawnedMonster Position} (e : Entity) :
    Uncollected e (monster.die deaths) ↔ Uncollected e monster := by
  unfold SpawnedMonster.die
  split
  · rename_i hdies
    simp [Uncollected, hdies.2]
  · exact Iff.rfl

theorem die_entity {deaths : List Entity} {monster : SpawnedMonster Position} :
    (monster.die deaths).entity = monster.entity ∧ (monster.die deaths).spawnedBy = monster.spawnedBy := by
  unfold SpawnedMonster.die
  split <;> exact ⟨rfl, rfl⟩

section Effect

variable {gone : List Entity} {new : List (SpawnedMonster Position)} {spawning : Spawning Position Pool}

theorem mem_survivors {monster : SpawnedMonster Position} (h : monster ∈ w.survivors tick gone) :
    ∃ old ∈ w.monsters, old.entity ∉ gone ∧ monster = old.die tick.deaths := by
  obtain ⟨old, hold, rfl⟩ := List.mem_map.1 h
  obtain ⟨hold, hstays⟩ := List.mem_filter.1 hold
  exact ⟨old, hold, of_decide_eq_true hstays, rfl⟩

/-- A tick that does not deactivate a spawner leaves all the monsters that it counts. -/
theorem countP_survivors (hbase : w.Base) (heffect : TickEffect mesh tick w w' gone new spawning)
    {s : SpawnerEntity Region} (hs : s ∈ w.spawners) (hstays : deactivates tick s = false) :
    (w.survivors tick gone).countP (fun monster => Uncollected s.entity monster) = w.alive s.entity := by
  unfold survivors alive
  rw [List.countP_map, List.countP_filter]
  refine List.countP_congr fun monster hm => ?_
  simp only [Function.comp_apply, Bool.and_eq_true, decide_eq_true_eq, uncollected_die]
  have hadded := hbase.collected monster hm
  constructor
  · rintro ⟨⟨hby, hdead | hcollect⟩, -⟩
    · exact ⟨hby, hdead⟩
    · exact absurd (hadded.symm.trans hcollect) (by decide)
  · rintro ⟨hby, hdead⟩
    refine ⟨⟨hby, Or.inl hdead⟩, fun hgone => ?_⟩
    rcases (heffect.gone_iff _).1 hgone with ⟨t, ht, hdeactivates, hmem⟩ | ⟨other, hother, -, hdead', heq⟩
    · obtain ⟨other, hother, hby', heq⟩ := mem_despawnedBy.1 hmem
      obtain rfl := List.inj_on_of_nodup_map hbase.monstersNodup hother hm heq
      have hentity := SpawnedBy.spawner.inj (hby'.symm.trans hby)
      obtain rfl := List.inj_on_of_nodup_map hbase.spawnersNodup ht hs hentity
      exact Bool.false_ne_true (hstays.symm.trans hdeactivates)
    · obtain rfl := List.inj_on_of_nodup_map hbase.monstersNodup hother hm heq
      exact Bool.false_ne_true (hdead.symm.trans hdead')

/-- After a tick, the living monsters and the deaths that were collected are those that were alive and those
that were spawned. -/
theorem alive_add_died (hbase : w.Base) (heffect : TickEffect mesh tick w w' gone new spawning)
    {s : SpawnerEntity Region} (hs : s ∈ w.spawners) (hstays : deactivates tick s = false) :
    w'.alive s.entity + died (w.survivors tick gone ++ new) s.entity =
      w.alive s.entity + onMesh mesh tick s := by
  have halive : w'.alive s.entity = (w.survivors tick gone ++ new).countP fun monster =>
      monster.spawnedBy = .spawner s.entity ∧ monster.dead = false := by
    rw [heffect.eq]
    unfold alive collectMonsterDeaths
    rw [List.countP_map]
    rfl
  have hdead : ∀ monster ∈ w.survivors tick gone ++ new, monster.addedDead = true → monster.dead = true := by
    intro monster hm hadded
    rcases List.mem_append.1 hm with hm | hm
    · obtain ⟨old, hold, -, rfl⟩ := mem_survivors hm
      unfold SpawnedMonster.die at hadded ⊢
      split
      · rfl
      · rename_i hnot
        rw [if_neg hnot, hbase.collected old hold] at hadded
        cases hadded
    · exact absurd (((heffect.adds.alive monster hm).2).symm.trans hadded) (by decide)
  have hnew : new.countP (fun monster => Uncollected s.entity monster) = onMesh mesh tick s := by
    rw [← heffect.count s hs]
    refine List.countP_congr fun monster hm => ?_
    simp [Uncollected, (heffect.adds.alive monster hm).1]
  rw [halive, ← countP_uncollected s.entity hdead, List.countP_append, hnew,
    countP_survivors hbase heffect hs hstays]

theorem spawners_eq (heffect : TickEffect mesh tick w w' gone new spawning) :
    w'.spawners = w.spawners.map fun s => { updated tick s with
      spawner := (updated tick s).spawner.decreaseAliveBy
        (died (w.survivors tick gone ++ new) s.entity) } := by
  rw [heffect.eq]
  unfold collectMonsterDeaths
  simp only [foldl_collectDeath, List.map_map]
  rfl

/-! ### The amounts -/

theorem toSpawn_of_deactivates {s : SpawnerEntity Region} (h : deactivates tick s = true) :
    toSpawn tick s = 0 := by
  obtain ⟨hactive, hregion⟩ := (Bool.and_eq_true _ _).mp h
  have hregion' : tick.active s.region = false := by simpa using hregion
  simp [toSpawn, hactive, hregion']

/-- A spawner that is not active after its turn has drawn nothing. -/
theorem toSpawn_of_inactive {s : SpawnerEntity Region}
    (h : (updated tick s).spawner.active = false) : toSpawn tick s = 0 := by
  cases hdeactivates : deactivates tick s with
  | true => exact toSpawn_of_deactivates hdeactivates
  | false =>
      have hor : (s.spawner.active || tick.active s.region) = false := by
        simpa [updated, hdeactivates] using h
      obtain ⟨hactive, hregion⟩ := Bool.or_eq_false_iff.1 hor
      simp [toSpawn, hactive, hregion]

/-- A spawner does not draw more positions than it has spots. -/
theorem current_add_toSpawn_le {s : SpawnerEntity Region}
    (hbounded : s.spawner.currentAmount ≤ s.spawner.targetAmount)
    (hinactive : s.spawner.active = false → s.spawner.currentAmount = 0) :
    s.spawner.currentAmount + toSpawn tick s ≤ s.spawner.targetAmount := by
  unfold toSpawn
  dsimp only
  split
  · rename_i hactivates
    have hactive : s.spawner.active = false := by
      simpa using ((Bool.and_eq_true _ _).mp hactivates).1
    rw [hinactive hactive]
    omega
  · split
    · omega
    · split
      · rename_i hspawns
        have hshould := ((Bool.and_eq_true _ _).mp hspawns).2
        have hspots : s.spawner.currentAmount < s.spawner.targetAmount := by
          simp only [Spawner.shouldSpawn, Spawner.hasSpotsAvailable, Bool.and_eq_true,
            decide_eq_true_eq] at hshould
          exact hshould.1.1
        unfold refillAmount Spawner.availableSpots
        have hroll := Nat.mod_lt (tick.draws s.entity).roll
          (show 0 < min (s.spawner.targetAmount - s.spawner.currentAmount) 3 by omega)
        omega
      · omega

/-- All positions are on the mesh exactly if as many are as were drawn. -/
theorem onMesh_eq_iff {s : SpawnerEntity Region} :
    onMesh mesh tick s = toSpawn tick s ↔
      ∀ i < toSpawn tick s, mesh.meshFor ((tick.draws s.entity).draws i).location = true := by
  have hlength : ((List.range (toSpawn tick s)).map (tick.draws s.entity).draws).length =
      toSpawn tick s := by
    rw [List.length_map, List.length_range]
  unfold onMesh
  constructor
  · intro h i hi
    have hall := List.countP_eq_length.1 (h.trans hlength.symm)
    exact hall _ (List.mem_map_of_mem (List.mem_range.2 hi))
  · intro h
    refine (List.countP_eq_length.2 fun draw hdraw => ?_).trans hlength
    obtain ⟨i, hi, rfl⟩ := List.mem_map.1 hdraw
    exact h i (List.mem_range.1 hi)

theorem onMesh_le (s : SpawnerEntity Region) : onMesh mesh tick s ≤ toSpawn tick s := by
  have hle := List.countP_le_length
    (p := fun draw : SpawnDraw Location => mesh.meshFor draw.location)
    (l := (List.range (toSpawn tick s)).map (tick.draws s.entity).draws)
  rwa [List.length_map, List.length_range] at hle

/-! ### One tick -/

/-- A tick that does not deactivate a spawner counts what it drew, less the deaths. -/
theorem updated_of_stays {s : SpawnerEntity Region} (hstays : deactivates tick s = false) :
    (updated tick s).spawner.currentAmount = s.spawner.currentAmount + toSpawn tick s := by
  simp [updated, hstays, Spawner.increaseAliveBy]

theorem Base.effect (hbase : w.Base) (heffect : TickEffect mesh tick w w' gone new spawning) : w'.Base := by
  have hspawners := spawners_eq heffect
  have hmonsters : w'.monsters = (w.survivors tick gone ++ new).map fun monster =>
      { monster with addedDead := false } := by
    rw [heffect.eq]
    rfl
  have hentities : (w'.monsters.map SpawnedMonster.entity) =
      (w.survivors tick gone).map SpawnedMonster.entity ++ new.map SpawnedMonster.entity := by
    rw [hmonsters, List.map_map, List.map_append]
    rfl
  have hsurvivors : ((w.survivors tick gone).map SpawnedMonster.entity).Sublist
      (w.monsters.map SpawnedMonster.entity) := by
    unfold survivors
    rw [List.map_map]
    have hsame : SpawnedMonster.entity ∘ (fun monster : SpawnedMonster Position => monster.die tick.deaths) =
        SpawnedMonster.entity := funext fun monster => die_entity.1
    rw [hsame]
    exact List.filter_sublist.map _
  have hreserved : ∀ entity ∈ w.monsters.map SpawnedMonster.entity, entity ∈ w.reserved := by
    intro entity hentity
    obtain ⟨monster, hm, rfl⟩ := List.mem_map.1 hentity
    exact hbase.reserved monster hm
  have hspawner : ∀ s' ∈ w'.spawners, ∃ s ∈ w.spawners, s' = { updated tick s with
      spawner := (updated tick s).spawner.decreaseAliveBy
        (died (w.survivors tick gone ++ new) s.entity) } := by
    intro s' hs'
    rw [hspawners] at hs'
    obtain ⟨s, hs, rfl⟩ := List.mem_map.1 hs'
    exact ⟨s, hs, rfl⟩
  constructor
  · rw [hspawners, List.map_map]
    exact hbase.spawnersNodup
  · rw [hentities]
    refine List.nodup_append.2 ⟨hsurvivors.nodup hbase.monstersNodup, heffect.adds.nodup, ?_⟩
    rintro entity hold entity' hnew rfl
    obtain ⟨monster, hm, rfl⟩ := List.mem_map.1 hnew
    exact heffect.adds.fresh monster hm (hreserved _ (hsurvivors.subset hold))
  · intro monster hm
    have hmem : monster.entity ∈ w'.monsters.map SpawnedMonster.entity := List.mem_map_of_mem hm
    have hworld : w'.reserved = spawning.reserved := by
      rw [heffect.eq]
      rfl
    rw [hworld, heffect.adds.reserved]
    rw [hentities] at hmem
    exact (List.mem_append.1 hmem).imp (fun hold => hreserved _ (hsurvivors.subset hold)) id
  · intro monster hm
    rw [hmonsters] at hm
    obtain ⟨old, -, rfl⟩ := List.mem_map.1 hm
    rfl
  · intro s' hs'
    obtain ⟨s, hs, rfl⟩ := hspawner s' hs'
    have hle : s.spawner.currentAmount + toSpawn tick s ≤ s.spawner.targetAmount :=
      current_add_toSpawn_le (hbase.bounded s hs) fun hinactive => (hbase.inactive s hs hinactive).1
    have htarget : (updated tick s).spawner.targetAmount = s.spawner.targetAmount := by
      unfold updated
      dsimp only
      split <;> rfl
    have hcurrent : (updated tick s).spawner.currentAmount ≤ s.spawner.targetAmount := by
      cases hdeactivates : deactivates tick s with
      | true => simp [updated, hdeactivates, Spawner.deactivate]
      | false =>
          rw [updated_of_stays hdeactivates]
          exact hle
    simp only [Spawner.decreaseAliveBy, htarget]
    omega
  · intro s' hs' hinactive
    obtain ⟨s, hs, rfl⟩ := hspawner s' hs'
    have hspawn : toSpawn tick s = 0 := toSpawn_of_inactive hinactive
    have hnone : ∀ monster ∈ new, monster.spawnedBy ≠ .spawner s.entity := by
      intro monster hm hby
      have hzero : new.countP (fun monster => monster.spawnedBy = .spawner s.entity) = 0 := by
        have hle : onMesh mesh tick s ≤ toSpawn tick s := onMesh_le s
        rw [heffect.count s hs]
        omega
      exact List.countP_eq_zero.1 hzero monster hm (decide_eq_true hby)
    have hgone : ∀ monster ∈ w.survivors tick gone, monster.spawnedBy ≠ .spawner s.entity := by
      intro monster hm hby
      obtain ⟨old, hold, hstays, rfl⟩ := mem_survivors hm
      rw [die_entity.2] at hby
      cases hdeactivates : deactivates tick s with
      | true =>
          refine hstays ((heffect.gone_iff _).2 (Or.inl ⟨s, hs, hdeactivates, ?_⟩))
          exact mem_despawnedBy.2 ⟨old, hold, hby, rfl⟩
      | false =>
          have hactive : s.spawner.active = false := by
            have hor : (s.spawner.active || tick.active s.region) = false := by
              simpa [updated, hdeactivates, Spawner.decreaseAliveBy] using hinactive
            exact (Bool.or_eq_false_iff.1 hor).1
          exact (hbase.inactive s hs hactive).2 old hold hby
    refine ⟨?_, fun monster hm hby => ?_⟩
    · have hzero : (updated tick s).spawner.currentAmount = 0 := by
        cases hdeactivates : deactivates tick s with
        | true => simp [updated, hdeactivates, Spawner.deactivate]
        | false =>
            have hor : (s.spawner.active || tick.active s.region) = false := by
              simpa [updated, hdeactivates, Spawner.decreaseAliveBy] using hinactive
            rw [updated_of_stays hdeactivates, hspawn,
              (hbase.inactive s hs (Bool.or_eq_false_iff.1 hor).1).1]
      simp [Spawner.decreaseAliveBy, hzero]
    · rw [hmonsters] at hm
      obtain ⟨old, hold, rfl⟩ := List.mem_map.1 hm
      exact (List.mem_append.1 hold).elim (fun hm => hgone old hm hby) fun hm => hnone old hm hby

/-- **One tick** from a state whose counts are right. -/
theorem counts_effect_iff (hbase : w.Base) (hcounts : w.CountsMonsters)
    (heffect : TickEffect mesh tick w w' gone new spawning) :
    w'.CountsMonsters ↔ OnNavmesh mesh w tick := by
  have hbase' := hbase.effect heffect
  -- a spawner that stays active is right exactly if everything that it drew is on the mesh
  have hone : ∀ s ∈ w.spawners, (updated tick s).spawner.active = true →
      ((updated tick s).spawner.currentAmount - died (w.survivors tick gone ++ new) s.entity =
        w'.alive s.entity ↔ onMesh mesh tick s = toSpawn tick s) := by
    intro s hs hactive
    have hstays : deactivates tick s = false := by
      by_contra hdeactivates
      rw [Bool.not_eq_false] at hdeactivates
      simp [updated, hdeactivates, Spawner.deactivate] at hactive
    have htotal := alive_add_died hbase heffect hs hstays
    have hle : onMesh mesh tick s ≤ toSpawn tick s := onMesh_le s
    have hcurrent : s.spawner.currentAmount = w.alive s.entity := by
      cases hbefore : s.spawner.active with
      | true => exact (hcounts s hs).1 hbefore
      | false =>
          obtain ⟨hzero, hnone⟩ := hbase.inactive s hs hbefore
          rw [hzero]
          refine (List.countP_eq_zero.2 fun monster hm halive => ?_).symm
          exact hnone monster hm (of_decide_eq_true halive).1
    rw [updated_of_stays hstays]
    omega
  have hspawners := spawners_eq heffect
  constructor
  · intro hafter s hs
    rw [← onMesh_eq_iff]
    cases hactive : (updated tick s).spawner.active with
    | true =>
        have hmem := List.mem_map_of_mem (f := fun s => { updated tick s with
          spawner := (updated tick s).spawner.decreaseAliveBy
            (died (w.survivors tick gone ++ new) s.entity) }) hs
        rw [← hspawners] at hmem
        exact (hone s hs hactive).1 ((hafter _ hmem).1 hactive)
    | false =>
        have hle : onMesh mesh tick s ≤ toSpawn tick s := onMesh_le s
        have hzero := toSpawn_of_inactive hactive
        omega
  · intro hmesh s' hs'
    refine ⟨fun hactive => ?_, hbase'.bounded s' hs'⟩
    rw [hspawners] at hs'
    obtain ⟨s, hs, rfl⟩ := List.mem_map.1 hs'
    exact (hone s hs hactive).2 (onMesh_eq_iff.2 (hmesh s hs))

end Effect

theorem base_init {spawners : List (SpawnerEntity Region)} {reserved : List Entity} {pool : Pool}
    (h : (spawners.map SpawnerEntity.entity).Nodup) :
    (init spawners reserved pool : SpawnWorld Region Position Pool).Base where
  spawnersNodup := by
    unfold init
    rw [List.map_map]
    exact h
  monstersNodup := List.nodup_nil
  reserved _ hm := by cases hm
  collected _ hm := by cases hm
  bounded s hs := by
    obtain ⟨old, -, rfl⟩ := List.mem_map.1 hs
    exact Nat.zero_le _
  inactive s hs _ := by
    obtain ⟨old, -, rfl⟩ := List.mem_map.1 hs
    exact ⟨rfl, fun _ hm => (by cases hm)⟩

theorem counts_init (spawners : List (SpawnerEntity Region)) (reserved : List Entity) (pool : Pool) :
    (init spawners reserved pool : SpawnWorld Region Position Pool).CountsMonsters := by
  intro s hs
  obtain ⟨old, -, rfl⟩ := List.mem_map.1 hs
  exact ⟨fun hactive => (by cases hactive), Nat.zero_le _⟩

end SpawnWorld

/-! ### Runs -/

/-- **Every active spawner knows how many of its monsters live**, in every run in which all positions that
are drawn are on the mesh, and in no other one. -/
theorem spawners_count_iff {Region Location Position Pool : Type} (ids : IdPool Pool)
    (mesh : SpawnMesh Location Position) (ticks : List (SpawnTick Region Location Position))
    (spawners : List (SpawnerEntity Region)) (reserved : List Entity) (pool : Pool)
    (hdistinct : (spawners.map SpawnerEntity.entity).Nodup) :
    Reached (spawnTick ids mesh) SpawnWorld.CountsMonsters ticks (.init spawners reserved pool) ↔
      AllSteps (spawnTick ids mesh) (OnNavmesh mesh) ticks (.init spawners reserved pool) := by
  have hbase : Reached (spawnTick ids mesh) SpawnWorld.Base ticks (.init spawners reserved pool) := by
    refine reached_of_step (fun tick _ w w' hw hw' => ?_) (SpawnWorld.base_init hdistinct)
    obtain ⟨gone, new, spawning, heffect⟩ := SpawnWorld.spawnTick_effect hw hw'
    exact hw.effect heffect
  have hboth : Reached (spawnTick ids mesh) SpawnWorld.CountsMonsters ticks (.init spawners reserved pool) ↔
      Reached (spawnTick ids mesh) (fun w => w.Base ∧ w.CountsMonsters) ticks
        (.init spawners reserved pool) :=
    ⟨fun h pre t hpre ht => ⟨hbase pre t hpre ht, h pre t hpre ht⟩, fun h pre t hpre ht => (h pre t hpre ht).2⟩
  rw [hboth]
  refine reached_iff_allSteps (fun tick _ w w' hw hw' => ?_)
    ⟨SpawnWorld.base_init hdistinct, SpawnWorld.counts_init spawners reserved pool⟩
  obtain ⟨gone, new, spawning, heffect⟩ := SpawnWorld.spawnTick_effect hw.1 hw'
  rw [← SpawnWorld.counts_effect_iff hw.1 hw.2 heffect]
  exact and_iff_right (hw.1.effect heffect)

/-- One spawner for two monsters, and the region that it is in. -/
def sampleSpawners : List (SpawnerEntity Unit) := [⟨1, (), .new 1933 2⟩]

/-- The mesh has the locations that are `true`. -/
def sampleMesh : SpawnMesh Bool Bool := ⟨id, some⟩

/-- The region is active, and both positions are drawn at this location. -/
def sampleTick (location : Bool) : SpawnTick Unit Bool Bool where
  active _ := true
  draws _ := ⟨false, false, 0, fun i => ⟨location, 10 + UInt64.ofNat i⟩⟩
  events := []
  deaths := []
  expired := []
  spawnersFirst := true

/-- Two positions on the mesh. -/
theorem spawner_counts_two : Reached (spawnTick IdPool.ofList sampleMesh) SpawnWorld.CountsMonsters
    [sampleTick true] (.init sampleSpawners [1] [5, 6, 7]) := by
  refine (spawners_count_iff IdPool.ofList sampleMesh _ sampleSpawners [1] [5, 6, 7] (by decide)).2 ?_
  exact fun t _ => ⟨fun _ _ _ _ => rfl, trivial⟩

/-- Two positions outside of the mesh are counted, but there is no monster. -/
theorem spawner_counts_nobody :
    ¬ ∀ (Region Location Position Pool : Type) (ids : IdPool Pool) (mesh : SpawnMesh Location Position)
      (ticks : List (SpawnTick Region Location Position)) (spawners : List (SpawnerEntity Region))
      (reserved : List Entity) (pool : Pool), (spawners.map SpawnerEntity.entity).Nodup →
      Reached (spawnTick ids mesh) SpawnWorld.CountsMonsters ticks (.init spawners reserved pool) := by
  intro h
  have hreached := h Unit Bool Bool (List UInt32) IdPool.ofList sampleMesh [sampleTick false]
    sampleSpawners [1] [5, 6, 7] (by decide)
  have hcount := (hreached.last rfl ⟨1, (), ⟨true, 1933, 2, 2⟩⟩ List.mem_cons_self).1 rfl
  exact absurd hcount (by decide)

end Skrillax

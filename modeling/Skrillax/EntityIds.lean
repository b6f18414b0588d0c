/-
**Unique ids of entities.**

Five systems take an id from the pool for an entity that they create, or for a client that joins.  Entities
are despawned by other systems, all of them through commands that are applied later, and an id comes back
to the pool only when `maintain_entities` finds, in the map that `collect_entities` keeps, an entity that is
gone.  An entity that is never collected keeps its id for good.

Main definitions:

* `IdPool`, `IdPool.ofList` — an id pool, by what it promises, and one that keeps its promises;
* `EntityLookup`, `collectEntities`, `maintainEntities` — the map from ids to entities;
* `IdWorld`, `IdAction`, `IdWorld.step` — the entities with the commands that are queued, and what the
  systems do to them, one id or one command at a time;
* `IdWorld.ledger` — who holds which id;
* `IdWorld.UniqueIds`, `IdWorld.Collected` — what is demanded of every state.

Main results:

* `IdWorld.Sound.step` — one step;
* `unique_ids` — **in every run the ids of the live entities are distinct and not free, and every live
  entity that was collected is found under its id**.
-/

import Mathlib.Data.List.AList
import Skrillax.IdLedger
import Skrillax.LoginClient
import Skrillax.Pickup

set_option relaxedAutoImplicit false
set_option autoImplicit false

namespace Skrillax

open PartialAction

/-! ### Entities and ids -/

structure EntityReference where
  entity : Entity
  gameEntity : GameEntity
  deriving DecidableEq, Repr

/-- An id pool hands out an id of its free ones, and takes it back. -/
structure IdPool (Pool : Type) where
  requestId : Pool → Option (UInt32 × Pool)
  returnId : Pool → UInt32 → Pool
  free : Pool → Set UInt32
  free_requestId : ∀ {pool pool' : Pool} {id : UInt32}, requestId pool = some (id, pool') →
    id ∈ free pool ∧ free pool' = free pool \ {id}
  free_returnId : ∀ (pool : Pool) (id : UInt32), free (returnId pool id) = insert id (free pool)

/-- A pool that keeps its free ids in a list. -/
def IdPool.ofList : IdPool (List UInt32) where
  requestId
    | [] => none
    | id :: rest => some (id, rest.filter (· ≠ id))
  returnId pool id := id :: pool
  free pool := { id | id ∈ pool }
  free_requestId {pool pool' id} h := by
    cases pool with
    | nil => cases h
    | cons first rest =>
        obtain ⟨rfl, rfl⟩ := Prod.mk.inj (Option.some_inj.1 h)
        refine ⟨List.mem_cons_self, ?_⟩
        ext other
        simp only [Set.mem_ofPred_eq, Set.mem_sdiff, Set.mem_singleton_iff, List.mem_filter,
          List.mem_cons, decide_eq_true_eq]
        constructor
        · exact fun ⟨hmem, hne⟩ => ⟨Or.inr hmem, hne⟩
        · exact fun ⟨hmem, hne⟩ => ⟨hmem.resolve_left hne, hne⟩
  free_returnId pool id := by
    ext other
    simp

/-! ### The lookup -/

structure EntityLookup where
  playerMap : AList fun _ : String => Entity
  idMap : AList fun _ : UInt32 => Entity

namespace EntityLookup

def addPlayer (lookup : EntityLookup) (name : String) (entity : Entity) (id : UInt32) : EntityLookup where
  playerMap := lookup.playerMap.insert name entity
  idMap := lookup.idMap.insert id entity

def addEntity (lookup : EntityLookup) (entityId : UInt32) (entity : Entity) : EntityLookup :=
  { lookup with idMap := lookup.idMap.insert entityId entity }

def getEntityForName (lookup : EntityLookup) (name : String) : Option Entity :=
  lookup.playerMap.lookup name

def getEntityForId (lookup : EntityLookup) (id : UInt32) : Option Entity := lookup.idMap.lookup id

end EntityLookup

/-! ### Entities and commands -/

/-- An entity with the components that matter for its id.  `added` says that `GameEntity` was added since the
last run of `collect_entities`; `login` stands for `LoginInput` and `CharacterSelect` of a client that
`handle_join` has not seen. -/
structure EntityRecord where
  entity : Entity
  gameEntity : Option GameEntity
  player : Option String
  added : Bool
  login : Bool
  deriving DecidableEq, Repr

inductive EntityCommand where
  | spawn (record : EntityRecord)
  | insertPlayer (client : Entity) (gameEntity : GameEntity) (name : String)
  | despawn (entity : Entity)
  deriving DecidableEq, Repr

/-- The id that an entity has, or that it will have when the command is applied. -/
def EntityRecord.holds (record : EntityRecord) : Option (Entity × UInt32) :=
  record.gameEntity.map fun gameEntity => (record.entity, gameEntity.uniqueId)

namespace EntityCommand

def holds : EntityCommand → Option (Entity × UInt32)
  | .spawn record => record.holds
  | .insertPlayer client gameEntity _ => some (client, gameEntity.uniqueId)
  | .despawn _ => none

/-- The entity that will be spawned. -/
def spawned : EntityCommand → Option Entity
  | .spawn record => some record.entity
  | _ => none

/-- The client that will be a player. -/
def joining : EntityCommand → Option Entity
  | .insertPlayer client _ _ => some client
  | _ => none

end EntityCommand

/-- The entities, the commands that are queued, and the two resources.  An entity is its index and its
generation together: none that was `reserved` is used again. -/
structure IdWorld (Pool : Type) where
  entities : List EntityRecord
  reserved : List Entity
  commands : List EntityCommand
  pool : Pool
  lookup : EntityLookup

/-- The systems that create an entity with an id. -/
inductive SpawnSystem where
  | spawnNpcs
  | spawnMonster
  | doSpawnMobs
  | createDrops
  deriving DecidableEq, Repr

/-- What can happen; `entity` is the new entity that is reserved. -/
inductive IdAction where
  | accept (entity : Entity)
  | spawn (system : SpawnSystem) (entity : Entity) (refId : UInt32)
  | handleJoin (client : Entity) (refId : UInt32) (name : String)
  | despawn (entity : Entity)
  | applyCommand (index : ℕ)
  | collectEntities
  | maintainEntities
  deriving DecidableEq, Repr

namespace IdWorld

variable {Pool : Type} (ids : IdPool Pool)

def init (pool : Pool) : IdWorld Pool := ⟨[], [], [], pool, ⟨∅, ∅⟩⟩

/-! ### What the systems do -/

/-- The entities that were spawned, or for which a spawn command is queued. -/
def known (w : IdWorld Pool) : List Entity :=
  w.entities.map EntityRecord.entity ++ w.commands.filterMap EntityCommand.spawned

/-- `Entities::contains`; a reserved entity counts. -/
def contains (w : IdWorld Pool) (entity : Entity) : Bool := w.known.contains entity

/-- A client connects: it has no id yet. -/
def accept (w : IdWorld Pool) (entity : Entity) : IdWorld Pool :=
  { w with
    reserved := entity :: w.reserved
    commands := w.commands ++ [.spawn ⟨entity, none, none, false, true⟩] }

/-- What the four systems share: an id is requested, and a command queued that spawns the entity.  Without
an id they panic. -/
def spawnWithId (w : IdWorld Pool) (entity : Entity) (refId : UInt32) : Option (IdWorld Pool) := do
  let (uniqueId, pool) ← ids.requestId w.pool
  return { w with
    reserved := entity :: w.reserved
    commands := w.commands ++ [.spawn ⟨entity, some ⟨uniqueId, refId⟩, none, true, false⟩]
    pool }

/-- The client is not found by the query of `handle_join` again. -/
def leaveLogin (w : IdWorld Pool) (client : Entity) : IdWorld Pool :=
  { w with
    entities := w.entities.map fun record =>
      if record.entity = client then { record with login := false } else record }

/-- `handle_join`, for a client that its query finds and whose character may join. -/
def handleJoin (w : IdWorld Pool) (client : Entity) (refId : UInt32) (name : String) :
    Option (IdWorld Pool) :=
  if w.entities.any fun record => record.entity == client && record.login then do
    let (uniqueId, pool) ← ids.requestId w.pool
    return { w.leaveLogin client with
      commands := w.commands ++ [.insertPlayer client ⟨uniqueId, refId⟩ name]
      pool }
  else some w

/-- The systems that despawn find the entity with a query. -/
def despawn (w : IdWorld Pool) (entity : Entity) : IdWorld Pool :=
  if w.entities.any fun record => record.entity == entity then
    { w with commands := w.commands ++ [.despawn entity] }
  else w

/-- Inserting components into an entity that is gone panics; despawning it twice does not. -/
def apply (w : IdWorld Pool) : EntityCommand → Option (IdWorld Pool)
  | .spawn record => some { w with entities := w.entities ++ [record] }
  | .insertPlayer client gameEntity name =>
      if w.entities.any fun record => record.entity == client then
        some { w with
          entities := w.entities.map fun record =>
            if record.entity = client then
              { record with gameEntity := some gameEntity, player := some name, added := true }
            else record }
      else none
  | .despawn entity =>
      some { w with entities := w.entities.filter fun record => record.entity ≠ entity }

/-- Any of the queued commands may be the next one: systems are not ordered. -/
def applyCommand (w : IdWorld Pool) (index : ℕ) : Option (IdWorld Pool) :=
  match w.commands[index]? with
  | some command => { w with commands := w.commands.eraseIdx index }.apply command
  | none => some w

end IdWorld

/-- One entity of the query of `collect_entities`. -/
def EntityLookup.collect (lookup : EntityLookup) (record : EntityRecord) : EntityLookup :=
  match record.added, record.gameEntity with
  | true, some gameEntity =>
      match record.player with
      | some name => lookup.addPlayer name record.entity gameEntity.uniqueId
      | none => lookup.addEntity gameEntity.uniqueId record.entity
  | _, _ => lookup

namespace IdWorld

variable {Pool : Type} (ids : IdPool Pool)

def collectEntities (w : IdWorld Pool) : IdWorld Pool :=
  { w with
    lookup := w.entities.foldl EntityLookup.collect w.lookup
    entities := w.entities.map fun record => { record with added := false } }

def retainPlayers (w : IdWorld Pool) : AList fun _ : String => Entity :=
  ⟨w.lookup.playerMap.entries.filter fun entry => w.contains entry.2,
    w.lookup.playerMap.nodupKeys.sublist List.filter_sublist⟩

/-- The ids in the map whose entity is gone. -/
def removedEntities (w : IdWorld Pool) : List UInt32 :=
  (w.lookup.idMap.entries.filter fun entry => !w.contains entry.2).map Sigma.fst

def maintainEntities (w : IdWorld Pool) : IdWorld Pool :=
  { w with
    lookup := ⟨w.retainPlayers, w.removedEntities.foldl (fun idMap id => idMap.erase id) w.lookup.idMap⟩
    pool := w.removedEntities.foldl ids.returnId w.pool }

/-- An entity that was reserved before is not reserved again. -/
def step : IdAction → IdWorld Pool → Option (IdWorld Pool)
  | .accept entity, w => if entity ∈ w.reserved then some w else some (w.accept entity)
  | .spawn _ entity refId, w => if entity ∈ w.reserved then some w else w.spawnWithId ids entity refId
  | .handleJoin client refId name, w => w.handleJoin ids client refId name
  | .despawn entity, w => some (w.despawn entity)
  | .applyCommand index, w => w.applyCommand index
  | .collectEntities, w => some w.collectEntities
  | .maintainEntities, w => some (w.maintainEntities ids)

/-! ### What is demanded -/

/-- The ids of the live entities. -/
def liveIds (w : IdWorld Pool) : List UInt32 :=
  w.entities.filterMap fun record => record.gameEntity.map GameEntity.uniqueId

/-- The ids of the live entities are distinct, and none of them is free. -/
structure UniqueIds (w : IdWorld Pool) : Prop where
  nodup : w.liveIds.Nodup
  notFree : ∀ id ∈ w.liveIds, id ∉ ids.free w.pool

/-- Every live entity that was collected is found under its id. -/
def Collected (w : IdWorld Pool) : Prop :=
  ∀ record ∈ w.entities, record.added = false → ∀ gameEntity, record.gameEntity = some gameEntity →
    w.lookup.getEntityForId gameEntity.uniqueId = some record.entity

/-! ### The invariant -/

/-- Somebody holds the id: an entity, or a command that is queued. -/
def Held (w : IdWorld Pool) (entity : Entity) (id : UInt32) : Prop :=
  (∃ record ∈ w.entities, record.holds = some (entity, id)) ∨
    ∃ command ∈ w.commands, command.holds = some (entity, id)

def Live (w : IdWorld Pool) (entity : Entity) (id : UInt32) : Prop :=
  ∃ record ∈ w.entities, record.holds = some (entity, id)

/-- Who holds what. -/
def ledger (w : IdWorld Pool) : Ledger Entity UInt32 where
  held := w.Held
  live := w.Live
  known entity := entity ∈ w.known
  idMap := w.lookup.getEntityForId
  free := ids.free w.pool

/-- The records, the commands and the entities that were reserved fit together. -/
structure WellFormed (w : IdWorld Pool) : Prop where
  collected : w.Collected
  nodup : w.known.Nodup
  reserved : ∀ entity ∈ w.known, entity ∈ w.reserved
  mapped : ∀ id entity, w.lookup.getEntityForId id = some entity → entity ∈ w.reserved
  added : ∀ record, .spawn record ∈ w.commands → record.gameEntity.isSome = true → record.added = true
  login : ∀ record, record ∈ w.entities ∨ .spawn record ∈ w.commands → record.login = true →
    record.gameEntity = none
  joining : ∀ client gameEntity name, .insertPlayer client gameEntity name ∈ w.commands →
    client ∈ w.reserved ∧ client ∉ w.commands.filterMap EntityCommand.spawned ∧
      ∀ record ∈ w.entities, record.entity = client → record.gameEntity = none ∧ record.login = false
  joinOnce : (w.commands.filterMap EntityCommand.joining).Nodup

structure Sound (w : IdWorld Pool) : Prop where
  ledger : (w.ledger ids).Sound
  wellFormed : w.WellFormed

variable {ids}

theorem mem_known {w : IdWorld Pool} {entity : Entity} :
    entity ∈ w.known ↔ (∃ record ∈ w.entities, record.entity = entity) ∨
      ∃ record, .spawn record ∈ w.commands ∧ record.entity = entity := by
  unfold known
  rw [List.mem_append, List.mem_map, List.mem_filterMap]
  refine or_congr_right ⟨?_, ?_⟩
  · rintro ⟨command, hcommand, hspawned⟩
    cases command with
    | spawn record => exact ⟨record, hcommand, Option.some_inj.1 hspawned⟩
    | insertPlayer client gameEntity name => cases hspawned
    | despawn entity => cases hspawned
  · rintro ⟨record, hrecord, rfl⟩
    exact ⟨.spawn record, hrecord, rfl⟩

theorem holds_eq_some {record : EntityRecord} {entity : Entity} {id : UInt32} :
    record.holds = some (entity, id) ↔
      record.entity = entity ∧ ∃ gameEntity, record.gameEntity = some gameEntity ∧
        gameEntity.uniqueId = id := by
  unfold EntityRecord.holds
  rw [Option.map_eq_some_iff]
  constructor
  · rintro ⟨gameEntity, hgame, heq⟩
    obtain ⟨hentity, hid⟩ := Prod.mk.inj heq
    exact ⟨hentity, gameEntity, hgame, hid⟩
  · rintro ⟨rfl, gameEntity, hgame, rfl⟩
    exact ⟨gameEntity, hgame, rfl⟩

theorem filterMap_concat {α β : Type} (f : α → Option β) (l : List α) (a : α) :
    (l ++ [a]).filterMap f = l.filterMap f ++ (f a).toList := by
  rw [List.filterMap_append]
  cases h : f a <;> simp [h]

theorem known_push (w : IdWorld Pool) (command : EntityCommand) :
    { w with commands := w.commands ++ [command] }.known = w.known ++ command.spawned.toList := by
  unfold known
  rw [filterMap_concat, List.append_assoc]

theorem sound_init (pool : Pool) : (init pool).Sound ids where
  ledger :=
    { held_of_live := by rintro o i ⟨r, hr, -⟩; cases hr
      known_of_live := by rintro o i ⟨r, hr, -⟩; cases hr
      unique := by rintro o o' i (⟨r, hr, -⟩ | ⟨c, hc, -⟩) <;> contradiction
      notFree_of_held := by rintro o i (⟨r, hr, -⟩ | ⟨c, hc, -⟩) <;> contradiction
      notFree_of_mapped := by rintro o i h; cases h
      mapped := by rintro o i h; cases h }
  wellFormed :=
    { collected := by intro r hr; cases hr
      nodup := List.nodup_nil
      reserved := by intro e he; cases he
      mapped := by intro i e h; cases h
      added := by intro r hr; cases hr
      login := by rintro r (hr | hr) <;> cases hr
      joining := by intro c g n h; cases h
      joinOnce := List.nodup_nil }

section Steps

variable {w : IdWorld Pool}

/-! ### Queueing a command -/

/-- A new entity is reserved, and will be spawned. -/
theorem WellFormed.pushSpawn (h : w.WellFormed) (record : EntityRecord) (pool : Pool)
    (hnew : record.entity ∉ w.reserved)
    (hadded : record.gameEntity.isSome = true → record.added = true)
    (hlogin : record.login = true → record.gameEntity = none) :
    WellFormed { w with
      reserved := record.entity :: w.reserved
      commands := w.commands ++ [.spawn record]
      pool } where
  collected := h.collected
  nodup := by
    have hknown := known_push w (.spawn record)
    refine (congrArg List.Nodup hknown).mpr ?_
    refine List.nodup_append.2 ⟨h.nodup, List.nodup_singleton _, ?_⟩
    rintro e he e' he' rfl
    obtain rfl := List.mem_singleton.1 he'
    exact hnew (h.reserved _ he)
  reserved e he := by
    have hknown := known_push w (.spawn record)
    rcases List.mem_append.1 ((congrArg (e ∈ ·) hknown).mp he) with he | he
    · exact List.mem_cons_of_mem _ (h.reserved e he)
    · exact List.mem_singleton.1 he ▸ List.mem_cons_self
  mapped i e hi := List.mem_cons_of_mem _ (h.mapped i e hi)
  added r hr := by
    rcases List.mem_append.1 hr with hr | hr
    · exact h.added r hr
    · obtain ⟨⟩ := List.mem_singleton.1 hr
      exact hadded
  login r hr := by
    rcases hr with hr | hr
    · exact h.login r (Or.inl hr)
    · rcases List.mem_append.1 hr with hr | hr
      · exact h.login r (Or.inr hr)
      · obtain ⟨⟩ := List.mem_singleton.1 hr
        exact hlogin
  joining client gameEntity name hc := by
    rcases List.mem_append.1 hc with hc | hc
    · obtain ⟨hreserved, hspawned, hrecords⟩ := h.joining client gameEntity name hc
      refine ⟨List.mem_cons_of_mem _ hreserved, ?_, hrecords⟩
      rw [filterMap_concat]
      intro hmem
      rcases List.mem_append.1 hmem with hmem | hmem
      · exact hspawned hmem
      · exact hnew (List.mem_singleton.1 hmem ▸ hreserved)
    · cases List.mem_singleton.1 hc
  joinOnce := by
    have hsame := filterMap_concat EntityCommand.joining w.commands (.spawn record)
    exact hsame.trans (List.append_nil _) ▸ h.joinOnce

/-- What `settle` and `take` need of a spawn command: only its entity is new. -/
theorem known_pushSpawn (record : EntityRecord) (h : w.WellFormed) (hnew : record.entity ∉ w.reserved)
    {entity : Entity}
    (hknown : entity ∈ { w with commands := w.commands ++ [EntityCommand.spawn record] }.known) :
    entity ∈ w.known ∨ (w.ledger ids).Unmapped entity := by
  rw [known_push] at hknown
  rcases List.mem_append.1 hknown with hold | hentity
  · exact Or.inl hold
  · obtain rfl := List.mem_singleton.1 hentity
    exact Or.inr fun i hi => hnew (h.mapped i _ hi)

theorem held_push {command : EntityCommand} {entity : Entity} {id : UInt32} :
    { w with commands := w.commands ++ [command] }.Held entity id ↔
      w.Held entity id ∨ command.holds = some (entity, id) := by
  unfold Held
  simp only [List.mem_append, List.mem_singleton, or_and_right, exists_or, exists_eq_left, or_assoc]

theorem known_of_live {entity : Entity} {id : UInt32} (h : w.Live entity id) : entity ∈ w.known := by
  obtain ⟨record, hrecord, hholds⟩ := h
  exact mem_known.2 (Or.inl ⟨record, hrecord, (holds_eq_some.1 hholds).1⟩)

theorem Sound.accept (h : w.Sound ids) {entity : Entity} (hnew : entity ∉ w.reserved) :
    (w.accept entity).Sound ids where
  ledger := by
    refine h.ledger.settle (fun hheld => ?_) (fun hl => hl) (fun hl => ⟨Or.inl hl, known_of_live hl⟩)
      (fun hknown => known_pushSpawn ⟨entity, none, none, false, true⟩ h.wellFormed hnew hknown) rfl rfl
    exact (held_push.1 hheld).elim id fun hnone => by cases hnone
  wellFormed := h.wellFormed.pushSpawn ⟨entity, none, none, false, true⟩ w.pool hnew
    (fun hid => by cases hid) (fun _ => rfl)

theorem Sound.spawnWithId (h : w.Sound ids) {entity : Entity} {refId : UInt32}
    (hnew : entity ∉ w.reserved) {w' : IdWorld Pool} (hw' : w.spawnWithId ids entity refId = some w') :
    w'.Sound ids := by
  obtain ⟨⟨uniqueId, pool⟩, hrequest, hret⟩ := Option.bind_eq_some_iff.1 hw'
  obtain rfl := Option.some_inj.1 hret
  obtain ⟨hfree, hpool⟩ := ids.free_requestId hrequest
  refine ⟨h.ledger.take (o := entity) hfree (fun {o i} => ?_) Iff.rfl (fun hknown => ?_)
    (fun hknown => known_pushSpawn ⟨entity, some ⟨uniqueId, refId⟩, none, true, false⟩ h.wellFormed hnew
      hknown) rfl hpool,
    h.wellFormed.pushSpawn ⟨entity, some ⟨uniqueId, refId⟩, none, true, false⟩ pool hnew (fun _ => rfl)
      (fun hlogin => by cases hlogin)⟩
  · refine held_push.trans (or_congr_right ?_)
    rw [EntityCommand.holds, holds_eq_some]
    constructor
    · rintro ⟨rfl, gameEntity, ⟨⟩, rfl⟩
      exact ⟨rfl, rfl⟩
    · rintro ⟨rfl, rfl⟩
      exact ⟨rfl, _, rfl, rfl⟩
  · exact (congrArg (_ ∈ ·) (known_push w _)).mpr (List.mem_append_left _ hknown)

/-- Records that are changed, but keep their entity and its id. -/
theorem held_map {f : EntityRecord → EntityRecord} (hf : ∀ record, (f record).holds = record.holds)
    {entity : Entity} {id : UInt32} :
    { w with entities := w.entities.map f }.Held entity id ↔ w.Held entity id := by
  simp [Held, hf]

theorem live_map {f : EntityRecord → EntityRecord} (hf : ∀ record, (f record).holds = record.holds)
    {entity : Entity} {id : UInt32} :
    { w with entities := w.entities.map f }.Live entity id ↔ w.Live entity id := by
  simp [Live, hf]

theorem known_map {f : EntityRecord → EntityRecord} (hf : ∀ record, (f record).entity = record.entity) :
    { w with entities := w.entities.map f }.known = w.known := by
  have hcomp : EntityRecord.entity ∘ f = EntityRecord.entity := funext hf
  simp [known, hcomp]

theorem leaveLogin_record {client : Entity} {record : EntityRecord}
    (h : record ∈ (w.leaveLogin client).entities) :
    ∃ old ∈ w.entities, record.entity = old.entity ∧ record.gameEntity = old.gameEntity ∧
      record.added = old.added ∧ (record.login = true → old.login = true ∧ old.entity ≠ client) := by
  obtain ⟨old, hold, rfl⟩ := List.mem_map.1 h
  refine ⟨old, hold, ?_⟩
  split
  · exact ⟨rfl, rfl, rfl, fun hlogin => (by cases hlogin)⟩
  · rename_i hne
    exact ⟨rfl, rfl, rfl, fun hlogin => ⟨hlogin, hne⟩⟩

theorem Sound.leaveLogin (h : w.Sound ids) (client : Entity) : (w.leaveLogin client).Sound ids := by
  have hholds : ∀ record : EntityRecord,
      (if record.entity = client then { record with login := false } else record).holds =
        record.holds := by
    intro record
    split <;> rfl
  have hknown : (w.leaveLogin client).known = w.known :=
    known_map fun record => by split <;> rfl
  have hw := h.wellFormed
  refine ⟨h.ledger.settle (held_map hholds).1 (live_map hholds).2
    (fun hl => ⟨Or.inl hl, known_of_live hl⟩) (fun ho => Or.inl ((congrArg (_ ∈ ·) hknown).mp ho)) rfl rfl, ?_⟩
  exact
    { collected := fun record hrecord hadded gameEntity hgame => by
        obtain ⟨old, hold, hentity, hgame', hadded', -⟩ := leaveLogin_record hrecord
        rw [hentity]
        exact hw.collected old hold (hadded' ▸ hadded) gameEntity (hgame' ▸ hgame)
      nodup := hknown ▸ hw.nodup
      reserved := fun e he => hw.reserved e (hknown ▸ he)
      mapped := hw.mapped
      added := hw.added
      login := fun record hrecord hlogin => by
        rcases hrecord with hrecord | hrecord
        · obtain ⟨old, hold, -, hgame, -, hlogin'⟩ := leaveLogin_record hrecord
          exact hgame.trans (hw.login old (Or.inl hold) (hlogin' hlogin).1)
        · exact hw.login record (Or.inr hrecord) hlogin
      joining := fun other gameEntity name hc => by
        obtain ⟨hreserved, hspawned, hrecords⟩ := hw.joining other gameEntity name hc
        refine ⟨hreserved, hspawned, fun record hrecord heq => ?_⟩
        obtain ⟨old, hold, hentity, hgame, -, hlogin⟩ := leaveLogin_record hrecord
        obtain ⟨hnone, hlogin'⟩ := hrecords old hold (hentity ▸ heq)
        refine ⟨hgame.trans hnone, Bool.eq_false_iff.2 fun htrue => ?_⟩
        exact Bool.false_ne_true (hlogin'.symm.trans (hlogin htrue).1)
      joinOnce := hw.joinOnce }

/-- A client that the query of `handle_join` does not find any more will be a player. -/
theorem Sound.pushInsert (h : w.Sound ids) {record : EntityRecord} (hrecord : record ∈ w.entities)
    (hgame : record.gameEntity = none)
    (hnot : record.entity ∉ w.commands.filterMap EntityCommand.joining)
    (hlogin : ∀ other ∈ w.entities, other.entity = record.entity → other.login = false)
    {refId uniqueId : UInt32} {name : String} {pool : Pool}
    (hrequest : ids.requestId w.pool = some (uniqueId, pool)) :
    Sound ids { w with
      commands := w.commands ++ [.insertPlayer record.entity ⟨uniqueId, refId⟩ name]
      pool } := by
  obtain ⟨hfree, hpool⟩ := ids.free_requestId hrequest
  have hw := h.wellFormed
  have hknown : { w with
      commands := w.commands ++ [EntityCommand.insertPlayer record.entity ⟨uniqueId, refId⟩ name] }.known =
      w.known := by
    rw [known_push]
    exact List.append_nil _
  have hspawn : ∀ other, EntityCommand.spawn other ∈
      w.commands ++ [.insertPlayer record.entity ⟨uniqueId, refId⟩ name] → .spawn other ∈ w.commands := by
    intro other hother
    exact (List.mem_append.1 hother).elim id fun hr => by cases List.mem_singleton.1 hr
  have hunique : ∀ other ∈ w.entities, other.entity = record.entity → other = record := by
    intro other hother heq
    exact List.inj_on_of_nodup_map (List.nodup_append.1 hw.nodup).1 hother hrecord heq
  refine ⟨h.ledger.take (o := record.entity) hfree (fun {o i} => ?_) Iff.rfl
    (fun hk => (congrArg (_ ∈ ·) hknown).mpr hk) (fun hk => Or.inl ((congrArg (_ ∈ ·) hknown).mp hk))
    rfl hpool, ?_⟩
  · refine held_push.trans (or_congr_right ?_)
    rw [EntityCommand.holds, Option.some_inj, Prod.mk.injEq]
    exact ⟨fun ⟨ho, hi⟩ => ⟨ho.symm, hi.symm⟩, fun ⟨ho, hi⟩ => ⟨ho.symm, hi.symm⟩⟩
  · exact
      { collected := hw.collected
        nodup := (congrArg List.Nodup hknown).mpr hw.nodup
        reserved := fun e he => hw.reserved e ((congrArg (e ∈ ·) hknown).mp he)
        mapped := hw.mapped
        added := fun r hr => hw.added r (hspawn r hr)
        login := fun r hr => hw.login r (hr.imp id (hspawn r))
        joining := fun client gameEntity name' hc => by
          rcases List.mem_append.1 hc with hc | hc
          · obtain ⟨hreserved, hspawned, hrecords⟩ := hw.joining client gameEntity name' hc
            refine ⟨hreserved, ?_, hrecords⟩
            rw [filterMap_concat]
            exact fun hmem => hspawned ((congrArg (client ∈ ·) (List.append_nil _)).mp hmem)
          · obtain ⟨⟩ := List.mem_singleton.1 hc
            refine ⟨?_, ?_, fun other hother heq => ?_⟩
            · exact hw.reserved _ (mem_known.2 (Or.inl ⟨record, hrecord, rfl⟩))
            · rw [filterMap_concat]
              intro hmem
              have hmem' := (congrArg (record.entity ∈ ·) (List.append_nil _)).mp hmem
              exact (List.nodup_append.1 hw.nodup).2.2 _ (List.mem_map_of_mem hrecord) _ hmem' rfl
            · exact ⟨hunique other hother heq ▸ hgame, hlogin other hother heq⟩
        joinOnce := by
          rw [filterMap_concat]
          refine List.nodup_append.2 ⟨hw.joinOnce, List.nodup_singleton _, ?_⟩
          rintro e he e' he' rfl
          exact hnot (List.mem_singleton.1 he' ▸ he) }

theorem Sound.handleJoin (h : w.Sound ids) {client : Entity} {refId : UInt32} {name : String}
    {w' : IdWorld Pool} (hw' : w.handleJoin ids client refId name = some w') : w'.Sound ids := by
  unfold IdWorld.handleJoin at hw'
  split at hw'
  · rename_i hany
    obtain ⟨⟨uniqueId, pool⟩, hrequest, hret⟩ := Option.bind_eq_some_iff.1 hw'
    obtain rfl := Option.some_inj.1 hret
    obtain ⟨found, hfound, hboth⟩ := List.any_eq_true.1 hany
    obtain ⟨hentity, hlogin⟩ := (Bool.and_eq_true _ _).mp hboth
    obtain rfl : found.entity = client := eq_of_beq hentity
    have hgame : found.gameEntity = none := h.wellFormed.login found (Or.inl hfound) hlogin
    have hnot : found.entity ∉ w.commands.filterMap EntityCommand.joining := by
      intro hmem
      obtain ⟨command, hcommand, hjoining⟩ := List.mem_filterMap.1 hmem
      cases command with
      | insertPlayer client gameEntity name =>
          obtain rfl := Option.some_inj.1 hjoining
          have hseen := ((h.wellFormed.joining _ _ _ hcommand).2.2 found hfound rfl).2
          exact Bool.false_ne_true (hseen.symm.trans hlogin)
      | spawn record => cases hjoining
      | despawn entity => cases hjoining
    have hmem : { found with login := false } ∈ (w.leaveLogin found.entity).entities :=
      List.mem_map.2 ⟨found, hfound, if_pos rfl⟩
    refine (h.leaveLogin found.entity).pushInsert hmem hgame hnot (fun other hother heq => ?_) hrequest
    obtain ⟨old, -, hold, -, -, hlogin'⟩ := leaveLogin_record hother
    exact Bool.eq_false_iff.2 fun htrue => (hlogin' htrue).2 (hold.symm.trans heq)
  · obtain rfl := Option.some_inj.1 hw'
    exact h

theorem Sound.despawn (h : w.Sound ids) (entity : Entity) : (w.despawn entity).Sound ids := by
  unfold IdWorld.despawn
  split
  · have hknown : { w with commands := w.commands ++ [EntityCommand.despawn entity] }.known = w.known := by
      rw [known_push]
      exact List.append_nil _
    refine ⟨h.ledger.settle (fun hheld => ?_) (fun hl => hl) (fun hl => ⟨Or.inl hl, ?_⟩)
      (fun ho => Or.inl ((congrArg (_ ∈ ·) hknown).mp ho)) rfl rfl, ?_⟩
    · exact (held_push.1 hheld).elim id fun hnone => by cases hnone
    · exact known_of_live hl
    · have hspawn : ∀ record, EntityCommand.spawn record ∈ w.commands ++ [.despawn entity] →
          .spawn record ∈ w.commands := by
        intro record hrecord
        exact (List.mem_append.1 hrecord).elim id fun hr => by cases List.mem_singleton.1 hr
      have hw := h.wellFormed
      exact
        { collected := hw.collected
          nodup := (congrArg List.Nodup hknown).mpr hw.nodup
          reserved := fun e he => hw.reserved e ((congrArg (e ∈ ·) hknown).mp he)
          mapped := hw.mapped
          added := fun r hr => hw.added r (hspawn r hr)
          login := fun r hr => hw.login r (hr.imp id (hspawn r))
          joining := fun client gameEntity name hc => by
            have hc' := (List.mem_append.1 hc).elim id fun hr => by cases List.mem_singleton.1 hr
            obtain ⟨hreserved, hspawned, hrecords⟩ := hw.joining client gameEntity name hc'
            refine ⟨hreserved, ?_, hrecords⟩
            rw [filterMap_concat]
            exact fun hmem => hspawned ((congrArg (client ∈ ·) (List.append_nil _)).mp hmem)
          joinOnce := by
            rw [filterMap_concat]
            exact (List.append_nil _).symm ▸ hw.joinOnce }
  · exact h

/-! ### Applying a command -/

theorem eraseIdx_perm {α : Type} {l : List α} {i : ℕ} {a : α} (h : l[i]? = some a) :
    (a :: l.eraseIdx i).Perm l := by
  obtain ⟨hi, rfl⟩ := List.getElem?_eq_some_iff.1 h
  exact List.getElem_cons_eraseIdx_perm hi

/-- The spawned entity has been known, and now it exists. -/
theorem Sound.applySpawn (h : w.Sound ids) {commands : List EntityCommand} {record : EntityRecord}
    (hperm : (.spawn record :: commands).Perm w.commands) :
    Sound ids { w with entities := w.entities ++ [record], commands } := by
  have hw := h.wellFormed
  have hmem : .spawn record ∈ w.commands := hperm.subset List.mem_cons_self
  have hsub : ∀ {command}, command ∈ commands → command ∈ w.commands :=
    fun hc => hperm.subset (List.mem_cons_of_mem _ hc)
  have hspawning : (record.entity :: commands.filterMap EntityCommand.spawned).Perm
      (w.commands.filterMap EntityCommand.spawned) := hperm.filterMap EntityCommand.spawned
  have hknown : ({ w with entities := w.entities ++ [record], commands } : IdWorld Pool).known.Perm
      w.known := by
    unfold known
    rw [List.map_append, List.append_assoc]
    exact List.Perm.append_left _ hspawning
  have hentity : ∀ r, r ∈ w.entities ++ [record] → r ∈ w.entities ∨ .spawn r ∈ w.commands := by
    intro r hr
    refine (List.mem_append.1 hr).imp id fun hr => ?_
    exact List.mem_singleton.1 hr ▸ hmem
  refine ⟨h.ledger.settle ?_ ?_ ?_ (fun ho => Or.inl (hknown.subset ho)) rfl rfl, ?_⟩
  · rintro o i (⟨r, hr, hholds⟩ | ⟨command, hcommand, hholds⟩)
    · exact (hentity r hr).imp (fun hr => ⟨r, hr, hholds⟩) fun hr => ⟨.spawn r, hr, hholds⟩
    · exact Or.inr ⟨command, hsub hcommand, hholds⟩
  · rintro o i ⟨r, hr, hholds⟩
    exact ⟨r, List.mem_append_left _ hr, hholds⟩
  · rintro o i ⟨r, hr, hholds⟩
    exact ⟨Or.inl ⟨r, hr, hholds⟩, known_of_live ⟨r, hr, hholds⟩⟩
  · exact
      { collected := fun r hr hadded gameEntity hgame => by
          rcases List.mem_append.1 hr with hr | hr
          · exact hw.collected r hr hadded gameEntity hgame
          · obtain rfl := List.mem_singleton.1 hr
            have htrue := hw.added r hmem (hgame ▸ rfl)
            exact absurd (htrue.symm.trans hadded) (by decide)
        nodup := hknown.nodup_iff.2 hw.nodup
        reserved := fun e he => hw.reserved e (hknown.subset he)
        mapped := hw.mapped
        added := fun r hr => hw.added r (hsub hr)
        login := fun r hr => hw.login r (hr.elim (hentity r) fun hr => Or.inr (hsub hr))
        joining := fun client gameEntity name hc => by
          obtain ⟨hreserved, hspawned, hrecords⟩ := hw.joining client gameEntity name (hsub hc)
          refine ⟨hreserved, fun hin => hspawned (hspawning.subset (List.mem_cons_of_mem _ hin)), ?_⟩
          intro r hr heq
          rcases List.mem_append.1 hr with hr | hr
          · exact hrecords r hr heq
          · obtain rfl := List.mem_singleton.1 hr
            exact absurd (hspawning.subset (heq ▸ List.mem_cons_self)) hspawned
        joinOnce := (hperm.filterMap EntityCommand.joining).nodup_iff.2 hw.joinOnce }

/-- The client gets the id that was requested for it. -/
theorem Sound.applyInsert (h : w.Sound ids) {commands : List EntityCommand} {client : Entity}
    {gameEntity : GameEntity} {name : String}
    (hperm : (.insertPlayer client gameEntity name :: commands).Perm w.commands) :
    Sound ids { w with
      entities := w.entities.map fun record =>
        if record.entity = client then
          { record with gameEntity := some gameEntity, player := some name, added := true }
        else record
      commands } := by
  have hw := h.wellFormed
  have hmem : .insertPlayer client gameEntity name ∈ w.commands := hperm.subset List.mem_cons_self
  have hsub : ∀ {command}, command ∈ commands → command ∈ w.commands :=
    fun hc => hperm.subset (List.mem_cons_of_mem _ hc)
  have hspawning : (commands.filterMap EntityCommand.spawned).Perm
      (w.commands.filterMap EntityCommand.spawned) := hperm.filterMap EntityCommand.spawned
  obtain ⟨-, -, hnone⟩ := hw.joining client gameEntity name hmem
  -- the record of the client is the only one that changes, and it had no id
  have hrecord : ∀ record ∈ w.entities.map (fun record =>
      if record.entity = client then
        { record with gameEntity := some gameEntity, player := some name, added := true }
      else record),
      (record ∈ w.entities ∧ record.entity ≠ client) ∨
        (record.entity = client ∧ record.gameEntity = some gameEntity ∧ record.added = true ∧
          record.login = false) := by
    intro record hr
    obtain ⟨old, hold, rfl⟩ := List.mem_map.1 hr
    split
    · rename_i heq
      exact Or.inr ⟨heq, rfl, rfl, (hnone old hold heq).2⟩
    · rename_i hne
      exact Or.inl ⟨hold, hne⟩
  have hknown : ({ w with
      entities := w.entities.map fun record =>
        if record.entity = client then
          { record with gameEntity := some gameEntity, player := some name, added := true }
        else record
      commands } : IdWorld Pool).known.Perm w.known := by
    have hentities : (w.entities.map fun record =>
        if record.entity = client then
          { record with gameEntity := some gameEntity, player := some name, added := true }
        else record).map EntityRecord.entity = w.entities.map EntityRecord.entity := by
      rw [List.map_map]
      refine List.map_congr_left fun record _ => ?_
      rw [Function.comp_apply]
      split <;> rfl
    unfold known
    rw [hentities]
    exact List.Perm.append_left _ hspawning
  refine ⟨h.ledger.settle ?_ ?_ ?_ (fun ho => Or.inl (hknown.subset ho)) rfl rfl, ?_⟩
  · rintro o i (⟨r, hr, hholds⟩ | ⟨command, hcommand, hholds⟩)
    · rcases hrecord r hr with ⟨hold, -⟩ | ⟨heq, hgame, -, -⟩
      · exact Or.inl ⟨r, hold, hholds⟩
      · obtain ⟨hentity, game, hgame', hid⟩ := holds_eq_some.1 hholds
        obtain rfl := Option.some_inj.1 (hgame.symm.trans hgame')
        refine Or.inr ⟨_, hmem, ?_⟩
        rw [EntityCommand.holds, ← hid, ← hentity, heq]
    · exact Or.inr ⟨command, hsub hcommand, hholds⟩
  · rintro o i ⟨r, hr, hholds⟩
    refine ⟨r, List.mem_map.2 ⟨r, hr, if_neg fun heq => ?_⟩, hholds⟩
    obtain ⟨-, game, hgame, -⟩ := holds_eq_some.1 hholds
    cases hgame.symm.trans (hnone r hr heq).1
  · rintro o i ⟨r, hr, hholds⟩
    exact ⟨Or.inl ⟨r, hr, hholds⟩, known_of_live ⟨r, hr, hholds⟩⟩
  · exact
      { collected := fun r hr hadded game hgame => by
          rcases hrecord r hr with ⟨hold, -⟩ | ⟨-, -, htrue, -⟩
          · exact hw.collected r hold hadded game hgame
          · exact absurd (htrue.symm.trans hadded) (by decide)
        nodup := hknown.nodup_iff.2 hw.nodup
        reserved := fun e he => hw.reserved e (hknown.subset he)
        mapped := hw.mapped
        added := fun r hr => hw.added r (hsub hr)
        login := fun r hr hlogin => by
          rcases hr with hr | hr
          · rcases hrecord r hr with ⟨hold, -⟩ | ⟨-, -, -, hfalse⟩
            · exact hw.login r (Or.inl hold) hlogin
            · exact absurd (hfalse.symm.trans hlogin) (by decide)
          · exact hw.login r (Or.inr (hsub hr)) hlogin
        joining := fun other game name' hc => by
          obtain ⟨hreserved, hspawned, hrecords⟩ := hw.joining other game name' (hsub hc)
          refine ⟨hreserved, fun hin => hspawned (hspawning.subset hin), fun r hr heq => ?_⟩
          rcases hrecord r hr with ⟨hold, -⟩ | ⟨hclient, -, -, -⟩
          · exact hrecords r hold heq
          · -- no second command makes the same client a player
            have honce := (hperm.filterMap EntityCommand.joining).nodup_iff.2 hw.joinOnce
            refine absurd ?_ (List.nodup_cons.1 honce).1
            exact List.mem_filterMap.2 ⟨_, hc, congrArg some (heq.symm.trans hclient)⟩
        joinOnce :=
          (List.nodup_cons.1 ((hperm.filterMap EntityCommand.joining).nodup_iff.2 hw.joinOnce)).2 }

/-- A command is dropped without any effect. -/
theorem Sound.dropCommand (h : w.Sound ids) {commands : List EntityCommand} {entity : Entity}
    (hperm : (.despawn entity :: commands).Perm w.commands) : Sound ids { w with commands } := by
  have hw := h.wellFormed
  have hsub : ∀ {command}, command ∈ commands → command ∈ w.commands :=
    fun hc => hperm.subset (List.mem_cons_of_mem _ hc)
  have hspawning : (commands.filterMap EntityCommand.spawned).Perm
      (w.commands.filterMap EntityCommand.spawned) := hperm.filterMap EntityCommand.spawned
  have hknown : ({ w with commands } : IdWorld Pool).known.Perm w.known :=
    List.Perm.append_left _ hspawning
  refine ⟨h.ledger.settle ?_ (fun hl => hl) (fun hl => ⟨Or.inl hl, known_of_live hl⟩)
    (fun ho => Or.inl (hknown.subset ho)) rfl rfl, ?_⟩
  · rintro o i (hr | ⟨command, hcommand, hholds⟩)
    · exact Or.inl hr
    · exact Or.inr ⟨command, hsub hcommand, hholds⟩
  · exact
      { collected := hw.collected
        nodup := hknown.nodup_iff.2 hw.nodup
        reserved := fun e he => hw.reserved e (hknown.subset he)
        mapped := hw.mapped
        added := fun r hr => hw.added r (hsub hr)
        login := fun r hr => hw.login r (hr.imp id hsub)
        joining := fun client game name hc => by
          obtain ⟨hreserved, hspawned, hrecords⟩ := hw.joining client game name (hsub hc)
          exact ⟨hreserved, fun hin => hspawned (hspawning.subset hin), hrecords⟩
        joinOnce := (hperm.filterMap EntityCommand.joining).nodup_iff.2 hw.joinOnce }

/-- An entity is gone, and its id stays in the map or is lost. -/
theorem Sound.remove (h : w.Sound ids) (entity : Entity)
    (hspawning : entity ∉ w.commands.filterMap EntityCommand.spawned) :
    Sound ids { w with entities := w.entities.filter fun record => record.entity ≠ entity } := by
  have hw := h.wellFormed
  have hrecord : ∀ {record}, record ∈ w.entities.filter (fun record => record.entity ≠ entity) →
      record ∈ w.entities ∧ record.entity ≠ entity := by
    intro record hr
    obtain ⟨hr, hne⟩ := List.mem_filter.1 hr
    exact ⟨hr, of_decide_eq_true hne⟩
  have hknown : ({ w with entities := w.entities.filter fun record => record.entity ≠ entity } :
      IdWorld Pool).known.Sublist w.known :=
    (List.filter_sublist.map _).append_right _
  refine ⟨h.ledger.drop (o := entity) ?_ ?_ ?_ ?_ rfl rfl, ?_⟩
  · rintro o i (⟨r, hr, hholds⟩ | ⟨command, hcommand, hholds⟩)
    · obtain ⟨hr, hne⟩ := hrecord hr
      refine ⟨Or.inl ⟨r, hr, hholds⟩, fun hlive => hne ?_⟩
      have heq := h.ledger.unique (Or.inl ⟨r, hr, hholds⟩) (h.ledger.held_of_live hlive)
      exact (holds_eq_some.1 hholds).1.trans heq
    · refine ⟨Or.inr ⟨command, hcommand, hholds⟩, fun hlive => ?_⟩
      obtain rfl := h.ledger.unique (Or.inr ⟨command, hcommand, hholds⟩) (h.ledger.held_of_live hlive)
      obtain ⟨r, hr, hr'⟩ := hlive
      obtain ⟨hentity, game, hgame, -⟩ := holds_eq_some.1 hr'
      cases command with
      | spawn record =>
          refine hspawning (List.mem_filterMap.2 ⟨_, hcommand, ?_⟩)
          exact congrArg some (holds_eq_some.1 hholds).1
      | insertPlayer client gameEntity name =>
          obtain ⟨rfl, -⟩ := Prod.mk.inj (Option.some_inj.1 hholds)
          cases hgame.symm.trans ((hw.joining _ _ _ hcommand).2.2 r hr hentity).1
      | despawn other => cases hholds
  · intro o i
    constructor
    · rintro ⟨r, hr, hholds⟩
      obtain ⟨hr, hne⟩ := hrecord hr
      exact ⟨⟨r, hr, hholds⟩, (holds_eq_some.1 hholds).1 ▸ hne⟩
    · rintro ⟨⟨r, hr, hholds⟩, hne⟩
      refine ⟨r, List.mem_filter.2 ⟨hr, decide_eq_true ?_⟩, hholds⟩
      exact (holds_eq_some.1 hholds).1 ▸ hne
  · rintro o i ⟨r, hr, hholds⟩
    exact ⟨Or.inl ⟨r, hr, hholds⟩, known_of_live ⟨r, hr, hholds⟩⟩
  · intro o ho
    refine ⟨hknown.subset ho, ?_⟩
    rintro rfl
    rcases List.mem_append.1 ho with ho | ho
    · obtain ⟨r, hr, heq⟩ := List.mem_map.1 ho
      exact (hrecord hr).2 heq
    · exact hspawning ho
  · exact
      { collected := fun r hr => hw.collected r (hrecord hr).1
        nodup := hknown.nodup hw.nodup
        reserved := fun e he => hw.reserved e (hknown.subset he)
        mapped := hw.mapped
        added := hw.added
        login := fun r hr => hw.login r (hr.imp (fun hr => (hrecord hr).1) id)
        joining := fun client game name hc => by
          obtain ⟨hreserved, hspawned, hrecords⟩ := hw.joining client game name hc
          exact ⟨hreserved, hspawned, fun r hr => hrecords r (hrecord hr).1⟩
        joinOnce := hw.joinOnce }

theorem Sound.applyCommand (h : w.Sound ids) {index : ℕ} {w' : IdWorld Pool}
    (hw' : w.applyCommand index = some w') : w'.Sound ids := by
  unfold IdWorld.applyCommand at hw'
  cases hcommand : w.commands[index]? with
  | none =>
      rw [hcommand] at hw'
      exact Option.some_inj.1 hw' ▸ h
  | some command =>
      rw [hcommand] at hw'
      have hperm := eraseIdx_perm hcommand
      cases command with
      | spawn record =>
          obtain rfl := Option.some_inj.1 hw'
          exact h.applySpawn hperm
      | insertPlayer client gameEntity name =>
          simp only [apply] at hw'
          split at hw'
          · obtain rfl := Option.some_inj.1 hw'
            exact h.applyInsert hperm
          · cases hw'
      | despawn entity =>
          obtain rfl := Option.some_inj.1 hw'
          have hdropped := h.dropCommand hperm
          by_cases hexists : entity ∈ w.entities.map EntityRecord.entity
          · refine hdropped.remove entity fun hspawning => ?_
            exact (List.nodup_append.1 hdropped.wellFormed.nodup).2.2 _ hexists _ hspawning rfl
          · have hsame : w.entities.filter (fun record => record.entity ≠ entity) = w.entities := by
              refine List.filter_eq_self.2 fun record hr => decide_eq_true fun heq => ?_
              exact hexists (List.mem_map.2 ⟨record, hr, heq⟩)
            simp only [hsame]
            exact hdropped

/-! ### The map -/

theorem getEntityForId_collect (lookup : EntityLookup) (record : EntityRecord) (id : UInt32) :
    (lookup.collect record).getEntityForId id =
      if record.added = true ∧ record.holds = some (record.entity, id) then some record.entity
      else lookup.getEntityForId id := by
  unfold EntityLookup.collect
  cases hadded : record.added with
  | false => simp
  | true =>
      cases hgame : record.gameEntity with
      | none => simp [EntityRecord.holds, hgame]
      | some gameEntity =>
          have hholds : record.holds = some (record.entity, id) ↔ id = gameEntity.uniqueId := by
            simp [EntityRecord.holds, hgame, eq_comm]
          have hinsert : (lookup.idMap.insert gameEntity.uniqueId record.entity).lookup id =
              if id = gameEntity.uniqueId then some record.entity else lookup.idMap.lookup id := by
            split
            · rename_i heq
              rw [heq, AList.lookup_insert]
            · rename_i hne
              exact AList.lookup_insert_ne hne
          simp only [true_and, hholds]
          cases record.player <;> exact hinsert

/-- Every entry after a collection was there before, or is that of an entity that was collected. -/
theorem getEntityForId_of_foldl {records : List EntityRecord} :
    ∀ {lookup : EntityLookup} {id : UInt32} {entity : Entity},
      (records.foldl EntityLookup.collect lookup).getEntityForId id = some entity →
      lookup.getEntityForId id = some entity ∨ ∃ record ∈ records, record.holds = some (entity, id) := by
  induction records with
  | nil => exact fun h => Or.inl h
  | cons record records ih =>
      intro lookup id entity h
      rcases ih h with h | ⟨other, hother, hholds⟩
      · rw [getEntityForId_collect] at h
        split at h
        · rename_i hcollected
          obtain rfl := Option.some_inj.1 h
          exact Or.inr ⟨record, List.mem_cons_self, hcollected.2⟩
        · exact Or.inl h
      · exact Or.inr ⟨other, List.mem_cons_of_mem _ hother, hholds⟩

/-- An entry is there after a collection if it was before, or if its entity is collected, and nobody else
holds the id. -/
theorem foldl_getEntityForId {records : List EntityRecord} {id : UInt32} {entity : Entity}
    (hunique : ∀ record ∈ records, ∀ other, record.holds = some (other, id) → other = entity) :
    ∀ {lookup : EntityLookup},
      (lookup.getEntityForId id = some entity ∨
        ∃ record ∈ records, record.added = true ∧ record.holds = some (entity, id)) →
      (records.foldl EntityLookup.collect lookup).getEntityForId id = some entity := by
  induction records with
  | nil => exact fun h => h.elim (fun h => h) fun ⟨_, hr, _⟩ => by cases hr
  | cons record records ih =>
      intro lookup h
      refine ih (fun r hr => hunique r (List.mem_cons_of_mem _ hr)) ?_
      rw [getEntityForId_collect]
      rcases h with h | ⟨other, hother, hadded, hholds⟩
      · left
        split
        · rename_i hcollected
          exact congrArg some (hunique record List.mem_cons_self _ hcollected.2)
        · exact h
      · rcases List.mem_cons.1 hother with rfl | hother
        · left
          have hentity := (holds_eq_some.1 hholds).1
          rw [hentity, if_pos ⟨hadded, hholds⟩]
        · exact Or.inr ⟨other, hother, hadded, hholds⟩

theorem Sound.collectEntities (h : w.Sound ids) : w.collectEntities.Sound ids := by
  have hw := h.wellFormed
  have hholds : ∀ record : EntityRecord, ({ record with added := false } : EntityRecord).holds =
      record.holds := fun _ => rfl
  have hknown : w.collectEntities.known = w.known := known_map fun _ => rfl
  refine ⟨h.ledger.collect (held_map hholds) (live_map hholds)
    (fun {o} => Iff.of_eq (congrArg (o ∈ ·) hknown)) getEntityForId_of_foldl rfl, ?_⟩
  exact
    { collected := fun record hr _ gameEntity hgame => by
        obtain ⟨old, hold, rfl⟩ := List.mem_map.1 hr
        have holdholds : old.holds = some (old.entity, gameEntity.uniqueId) :=
          holds_eq_some.2 ⟨rfl, gameEntity, hgame, rfl⟩
        refine foldl_getEntityForId (fun other hother entity hother' => ?_) ?_
        · exact h.ledger.unique (Or.inl ⟨other, hother, hother'⟩) (Or.inl ⟨old, hold, holdholds⟩)
        · cases hadded : old.added with
          | false => exact Or.inl (hw.collected old hold hadded gameEntity hgame)
          | true => exact Or.inr ⟨old, hold, hadded, holdholds⟩
      nodup := hknown ▸ hw.nodup
      reserved := fun e he => hw.reserved e (hknown ▸ he)
      mapped := fun id e hmapped => by
        rcases getEntityForId_of_foldl hmapped with hmapped | ⟨record, hr, hrecord⟩
        · exact hw.mapped id e hmapped
        · exact hw.reserved e (known_of_live ⟨record, hr, hrecord⟩)
      added := hw.added
      login := fun record hr hlogin => by
        rcases hr with hr | hr
        · obtain ⟨old, hold, rfl⟩ := List.mem_map.1 hr
          exact hw.login old (Or.inl hold) hlogin
        · exact hw.login record (Or.inr hr) hlogin
      joining := fun client game name hc => by
        obtain ⟨hreserved, hspawned, hrecords⟩ := hw.joining client game name hc
        refine ⟨hreserved, hspawned, fun record hr heq => ?_⟩
        obtain ⟨old, hold, rfl⟩ := List.mem_map.1 hr
        exact hrecords old hold heq
      joinOnce := hw.joinOnce }

theorem lookup_foldl_erase (removed : List UInt32) (idMap : AList fun _ : UInt32 => Entity)
    (id : UInt32) :
    (removed.foldl (fun idMap id => idMap.erase id) idMap).lookup id =
      if id ∈ removed then none else idMap.lookup id := by
  induction removed generalizing idMap with
  | nil => simp
  | cons first removed ih =>
      rw [List.foldl_cons, ih]
      by_cases heq : id = first
      · subst heq
        simp [AList.lookup_erase]
      · simp [heq, AList.lookup_erase_ne heq]

theorem free_foldl_returnId (removed : List UInt32) (pool : Pool) :
    ids.free (removed.foldl ids.returnId pool) = ids.free pool ∪ { id | id ∈ removed } := by
  induction removed generalizing pool with
  | nil => simp
  | cons id removed ih =>
      rw [List.foldl_cons, ih, ids.free_returnId]
      ext other
      simp [or_left_comm, or_assoc]

theorem mem_removedEntities {id : UInt32} :
    id ∈ w.removedEntities ↔ ∃ entity, w.lookup.getEntityForId id = some entity ∧ entity ∉ w.known := by
  unfold removedEntities EntityLookup.getEntityForId
  rw [List.mem_map]
  constructor
  · rintro ⟨⟨key, entity⟩, hmem, rfl⟩
    obtain ⟨hentry, hgone⟩ := List.mem_filter.1 hmem
    refine ⟨entity, AList.mem_lookup_iff.2 hentry, fun hknown => ?_⟩
    simp [contains, hknown] at hgone
  · rintro ⟨entity, hmapped, hgone⟩
    refine ⟨⟨id, entity⟩, List.mem_filter.2 ⟨AList.mem_lookup_iff.1 hmapped, ?_⟩, rfl⟩
    simp [contains, hgone]

theorem getEntityForId_maintain {id : UInt32} {entity : Entity} :
    (w.maintainEntities ids).lookup.getEntityForId id = some entity ↔
      w.lookup.getEntityForId id = some entity ∧ entity ∈ w.known := by
  have hlookup : (w.maintainEntities ids).lookup.getEntityForId id =
      if id ∈ w.removedEntities then none else w.lookup.getEntityForId id :=
    lookup_foldl_erase w.removedEntities w.lookup.idMap id
  rw [hlookup]
  split
  · rename_i hremoved
    obtain ⟨other, hmapped, hgone⟩ := mem_removedEntities.1 hremoved
    refine ⟨fun hnone => (by cases hnone), fun ⟨hentity, hknown⟩ => ?_⟩
    obtain rfl := Option.some_inj.1 (hmapped.symm.trans hentity)
    exact absurd hknown hgone
  · rename_i hkept
    refine ⟨fun hentity => ⟨hentity, ?_⟩, And.left⟩
    by_contra hgone
    exact hkept (mem_removedEntities.2 ⟨entity, hentity, hgone⟩)

theorem Sound.maintainEntities (h : w.Sound ids) : (w.maintainEntities ids).Sound ids := by
  have hw := h.wellFormed
  refine ⟨h.ledger.reclaim Iff.rfl Iff.rfl Iff.rfl getEntityForId_maintain (fun {id} hfree => ?_), ?_⟩
  · rcases (congrArg (id ∈ ·) (free_foldl_returnId w.removedEntities w.pool)).mp hfree with hfree | hremoved
    · exact Or.inl hfree
    · exact Or.inr (mem_removedEntities.1 hremoved)
  · exact
      { collected := fun record hr hadded gameEntity hgame => by
          refine getEntityForId_maintain.2 ⟨hw.collected record hr hadded gameEntity hgame, ?_⟩
          exact mem_known.2 (Or.inl ⟨record, hr, rfl⟩)
        nodup := hw.nodup
        reserved := hw.reserved
        mapped := fun id e hmapped => hw.mapped id e (getEntityForId_maintain.1 hmapped).1
        added := hw.added
        login := hw.login
        joining := hw.joining
        joinOnce := hw.joinOnce }

/-- **One step.** -/
theorem Sound.step {action : IdAction} {w' : IdWorld Pool} (h : w.Sound ids)
    (hw' : IdWorld.step ids action w = some w') : w'.Sound ids := by
  cases action with
  | accept entity =>
      simp only [IdWorld.step] at hw'
      split at hw'
      · exact Option.some_inj.1 hw' ▸ h
      · rename_i hnew
        exact Option.some_inj.1 hw' ▸ h.accept hnew
  | spawn system entity refId =>
      simp only [IdWorld.step] at hw'
      split at hw'
      · exact Option.some_inj.1 hw' ▸ h
      · rename_i hnew
        exact h.spawnWithId hnew hw'
  | handleJoin client refId name => exact h.handleJoin hw'
  | despawn entity => exact Option.some_inj.1 hw' ▸ h.despawn entity
  | applyCommand index => exact h.applyCommand hw'
  | collectEntities => exact Option.some_inj.1 hw' ▸ h.collectEntities
  | maintainEntities => exact Option.some_inj.1 hw' ▸ h.maintainEntities

theorem Sound.uniqueIds (h : w.Sound ids) : w.UniqueIds ids where
  nodup := by
    have hdistinct : w.entities.Pairwise fun a b => a.entity ≠ b.entity :=
      List.pairwise_map.1 (List.nodup_append.1 h.wellFormed.nodup).1
    unfold liveIds List.Nodup
    rw [List.pairwise_filterMap]
    refine hdistinct.imp_of_mem fun {a b} ha hb hne ida hida idb hidb heq => ?_
    obtain ⟨gameA, hgameA, rfl⟩ := Option.map_eq_some_iff.1 hida
    obtain ⟨gameB, hgameB, rfl⟩ := Option.map_eq_some_iff.1 hidb
    refine hne (h.ledger.unique (i := gameA.uniqueId) (Or.inl ⟨a, ha, ?_⟩) (Or.inl ⟨b, hb, ?_⟩))
    · exact holds_eq_some.2 ⟨rfl, gameA, hgameA, rfl⟩
    · exact holds_eq_some.2 ⟨rfl, gameB, hgameB, heq.symm⟩
  notFree id hid := by
    obtain ⟨record, hr, hmap⟩ := List.mem_filterMap.1 hid
    obtain ⟨gameEntity, hgame, rfl⟩ := Option.map_eq_some_iff.1 hmap
    exact h.ledger.notFree_of_held (Or.inl ⟨record, hr, holds_eq_some.2 ⟨rfl, gameEntity, hgame, rfl⟩⟩)

end Steps

end IdWorld

/-! ### Runs -/

/-- **Unique ids identify live entities**, whatever the systems do in whatever order; right after
`maintain_entities` as well as at any other time, every live entity that was collected is found. -/
theorem unique_ids {Pool : Type} (ids : IdPool Pool) (pool : Pool) (actions : List IdAction) :
    Reached (IdWorld.step ids) (fun w => w.UniqueIds ids ∧ w.Collected) actions (IdWorld.init pool) := by
  have hsound : Reached (IdWorld.step ids) (IdWorld.Sound ids) actions (IdWorld.init pool) :=
    reached_of_step (fun _ _ _ _ h hstep => h.step hstep) (IdWorld.sound_init pool)
  intro pre w hpre hw
  have h := hsound pre w hpre hw
  exact ⟨h.uniqueIds, h.wellFormed.collected⟩

end Skrillax

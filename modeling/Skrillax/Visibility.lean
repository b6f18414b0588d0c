/-
**What a player is shown.**

`visibility_update` finds out which entities are near a player and keeps them as references, an entity
together with its ids; what has changed is sent to the client by `player_visibility_update` at the end of
the tick, all new entities first and then the ids of those that are gone.  Between the two the commands of
the tick are applied, so that an entity may be gone before it was ever shown, and an id that is free again
may belong to another entity by the time the old one is taken away.

Everything here is about one client.  Distances are floating-point numbers and are a parameter, as is the
grid of regions; nobody is invisible.

Main definitions:

* `Visibility`, `GroupSpawn`, `replay` — what the server tracks, what it sends, and what the client makes
  of it;
* `VisibleWorld`, `VisibleAction` — the entities, and what happens to them in any order;
* `visibilityUpdate`, `playerVisibilityUpdate`, `VisibleTick` — the two systems, and a tick;
* `Shows` — the client shows what the player sees;
* `EntersInOrder` — the ticks in which nothing that comes near is gone at once, or takes the id of
  anything that leaves.

Main results:

* `mem_replay_send` — what a client makes of two groups;
* `Ready.actions` — nothing but the two systems matters to what is tracked and sent;
* `Ready.tick_iff` — one tick;
* `shows_iff` — **in every run the client shows what the player sees exactly if every tick is in order**.
-/

import Skrillax.EntityIds
import Skrillax.KeyedReplica

set_option relaxedAutoImplicit false
set_option autoImplicit false

namespace Skrillax

open PartialAction

/-! ### What is tracked -/

/-- The set of references is a list, of which only the members matter. -/
structure Visibility where
  entitiesInRadius : List EntityReference
  addedEntities : List EntityReference
  removedEntities : List EntityReference
  deriving DecidableEq, Repr

namespace Visibility

def new : Visibility := ⟨[], [], []⟩

/-- The entities that are near now, and are not tracked yet. -/
def entering (visibility : Visibility) (inRange : List EntityReference) : List EntityReference :=
  inRange.filter fun reference => decide (reference ∉ visibility.entitiesInRadius)

/-- The entities that are tracked, and are not near any more. -/
def leaving (visibility : Visibility) (inRange : List EntityReference) : List EntityReference :=
  visibility.entitiesInRadius.filter fun reference => decide (reference ∉ inRange)

def update (visibility : Visibility) (inRange : List EntityReference) : Visibility :=
  let removed := visibility.leaving inRange
  let added := visibility.entering inRange
  { entitiesInRadius := (visibility.entitiesInRadius.filter fun reference => decide (reference ∉ removed)) ++ added
    addedEntities := visibility.addedEntities ++ added
    removedEntities := visibility.removedEntities ++ removed }

/-- Afterwards exactly the entities that are near are tracked. -/
theorem mem_update {visibility : Visibility} {inRange : List EntityReference} {reference : EntityReference} :
    reference ∈ (visibility.update inRange).entitiesInRadius ↔ reference ∈ inRange := by
  simp only [update, entering, leaving, List.mem_append, List.mem_filter, decide_eq_true_eq]
  tauto

end Visibility

/-! ### What is sent -/

inductive EntityKind where
  | character
  | monster
  | item
  | npc
  deriving DecidableEq, Repr

/-- What a client needs to know to draw the entity is left out, except for what kind of entity it is. -/
inductive GroupSpawnDataContent where
  | despawn (id : UInt32)
  | spawn (objectId : UInt32) (uniqueId : UInt32) (data : EntityKind)
  deriving DecidableEq, Repr

inductive GroupSpawnType where
  | spawn
  | despawn
  deriving DecidableEq, Repr

/-- The three packets of a group. -/
structure GroupSpawn where
  kind : GroupSpawnType
  amount : UInt16
  content : List GroupSpawnDataContent
  deriving DecidableEq, Repr

def sendGroupSpawnPacket (mode : GroupSpawnType) (spawns : List GroupSpawnDataContent) : List GroupSpawn :=
  if spawns.isEmpty then [] else [⟨mode, UInt16.ofNat spawns.length, spawns⟩]

/-- A spawn adds a unique id, a despawn removes it. -/
def GroupSpawnDataContent.replay (shown : List UInt32) : GroupSpawnDataContent → List UInt32
  | .spawn _ uniqueId _ => uniqueId :: shown
  | .despawn id => shown.filter fun other => decide (other ≠ id)

def GroupSpawn.replay (shown : List UInt32) (group : GroupSpawn) : List UInt32 :=
  group.content.foldl GroupSpawnDataContent.replay shown

/-- The unique ids that a client shows, after all groups that it was sent. -/
def replay (sent : List GroupSpawn) : List UInt32 := sent.foldl GroupSpawn.replay []

/-! ### The world -/

/-- What is computed from positions: the region, the regions around a region, and whether the squared
distance is below the square of the radius. -/
structure Grid (Region Position : Type) where
  region : Position → Region
  withGridNeighbours : Region → List Region
  near : Position → Position → Bool

/-- The part of `Entity` that is used again with another generation. -/
def entityIndex (entity : Entity) : UInt32 := entity.toUInt32

/-- The component `Visibility` comes with the other components of a player, and goes with the entity.  An
entity that is gone never comes back. -/
inductive ClientState where
  | joining
  | playing (visibility : Visibility) (sent : List GroupSpawn)
  | gone
  deriving DecidableEq, Repr

structure VisibleWorld (Pool Region Position : Type) where
  world : IdWorld Pool
  position : Entity → Position
  /-- The regions of `PlayerActivity`. -/
  activity : List Region
  client : ClientState

/-- What happens apart from the two systems: everything that concerns ids, movements, and the search for
regions with players in them. -/
inductive VisibleAction (Position : Type) where
  | id (action : IdAction)
  | move (entity : Entity) (position : Position)
  | updatePlayerActivity

namespace VisibleWorld

variable {Pool Region Position : Type} [DecidableEq Region]
variable (ids : IdPool Pool) (grid : Grid Region Position) (kindOf : Entity → EntityKind) (client : Entity)

/-- No entity is there at first. -/
def init (pool : Pool) (position : Entity → Position) : VisibleWorld Pool Region Position :=
  ⟨IdWorld.init pool, position, [], .joining⟩

def isPlayer (world : IdWorld Pool) (entity : Entity) : Bool :=
  world.entities.any fun record => record.entity == entity && record.player.isSome

/-- The client after a change of the entities. -/
def sync (world : IdWorld Pool) : ClientState → ClientState
  | .joining => if isPlayer world client then .playing Visibility.new [] else .joining
  | .playing visibility sent => if isPlayer world client then .playing visibility sent else .gone
  | .gone => .gone

def act : VisibleAction Position → VisibleWorld Pool Region Position →
    Option (VisibleWorld Pool Region Position)
  | .id action, w => (IdWorld.step ids action w.world).map fun world =>
      { w with world := world, client := sync client world w.client }
  | .move entity position, w => some { w with position := Function.update w.position entity position }
  | .updatePlayerActivity, w =>
      let players := w.world.entities.filter fun record => record.player.isSome
      some { w with activity := players.map fun record => grid.region (w.position record.entity) }

/-! ### The two systems -/

/-- Everything with a `GameEntity` has a `Position`. -/
def references (w : VisibleWorld Pool Region Position) : List EntityReference :=
  w.world.entities.filterMap fun record => record.gameEntity.map (EntityReference.mk record.entity)

def grouped (w : VisibleWorld Pool Region Position) (region : Region) : List EntityReference :=
  w.references.filter fun reference => decide (grid.region (w.position reference.entity) = region)

def closeRegions (w : VisibleWorld Pool Region Position) : List Region :=
  grid.withGridNeighbours (grid.region (w.position client))

def isActive (w : VisibleWorld Pool Region Position) : Bool :=
  (w.closeRegions grid client).any fun region => w.activity.contains region

def entitiesInRange (w : VisibleWorld Pool Region Position) : List EntityReference :=
  (((w.closeRegions grid client).flatMap fun region => w.grouped grid region).filter fun reference =>
    entityIndex reference.entity != entityIndex client).filter fun reference =>
      grid.near (w.position client) (w.position reference.entity)

def visibilityUpdate (w : VisibleWorld Pool Region Position) : VisibleWorld Pool Region Position :=
  match w.client with
  | .playing visibility sent =>
      if w.isActive grid client then
        { w with client := .playing (visibility.update (w.entitiesInRange grid client)) sent }
      else w
  | _ => w

/-- The components of an entity that is still there, as far as they decide what is sent. -/
def lookupKind (w : VisibleWorld Pool Region Position) (entity : Entity) : Option EntityKind :=
  match w.world.entities.find? fun record => record.entity == entity && record.gameEntity.isSome with
  | some record => some (if record.player.isSome then .character else kindOf entity)
  | none => none

def spawnsOf (w : VisibleWorld Pool Region Position) (added : List EntityReference) :
    List GroupSpawnDataContent :=
  added.filterMap fun reference => (w.lookupKind kindOf reference.entity).map fun kind =>
    .spawn reference.gameEntity.refId reference.gameEntity.uniqueId kind

def despawnsOf (removed : List EntityReference) : List GroupSpawnDataContent :=
  removed.map fun reference => .despawn reference.gameEntity.uniqueId

def playerVisibilityUpdate (w : VisibleWorld Pool Region Position) : VisibleWorld Pool Region Position :=
  match w.client with
  | .playing visibility sent =>
      let spawns := sendGroupSpawnPacket .spawn (w.spawnsOf kindOf visibility.addedEntities)
      let despawns := sendGroupSpawnPacket .despawn (despawnsOf visibility.removedEntities)
      { w with client := .playing ⟨visibility.entitiesInRadius, [], []⟩ (sent ++ spawns ++ despawns) }
  | _ => w

end VisibleWorld

/-- The first system runs between the two lists, the second one after them.  What happens after that belongs
to the next tick. -/
structure VisibleTick (Position : Type) where
  before : List (VisibleAction Position)
  between : List (VisibleAction Position)

namespace VisibleWorld

variable {Pool Region Position : Type} [DecidableEq Region]
variable (ids : IdPool Pool) (grid : Grid Region Position) (kindOf : Entity → EntityKind) (client : Entity)

def tick (t : VisibleTick Position) (w : VisibleWorld Pool Region Position) :
    Option (VisibleWorld Pool Region Position) :=
  (runAll (act ids grid client) t.before w).bind fun u =>
    (runAll (act ids grid client) t.between (u.visibilityUpdate grid client)).map fun v =>
      v.playerVisibilityUpdate kindOf

/-! ### What is demanded -/

/-- The client shows what the player sees. -/
def Shows (w : VisibleWorld Pool Region Position) : Prop :=
  ∀ visibility sent, w.client = .playing visibility sent →
    ∀ id, id ∈ replay sent ↔ ∃ reference ∈ visibility.entitiesInRadius, reference.gameEntity.uniqueId = id

/-- The tick is in order: if the entities near a player are looked for, and the player is still there at the
end of the tick,
* what comes near is still there at the end of the tick, and
* it does not have the unique id of anything that is not near any more. -/
def EntersInOrder (w : VisibleWorld Pool Region Position) (t : VisibleTick Position) : Prop :=
  ∀ u visibility sent v, runAll (act ids grid client) t.before w = some u →
    u.client = .playing visibility sent → u.isActive grid client = true →
      runAll (act ids grid client) t.between (u.visibilityUpdate grid client) = some v → v.client ≠ .gone →
        ∀ reference ∈ visibility.entering (u.entitiesInRange grid client),
          (v.lookupKind kindOf reference.entity).isSome = true ∧
            ∀ old ∈ visibility.leaving (u.entitiesInRange grid client),
              old.gameEntity.uniqueId ≠ reference.gameEntity.uniqueId

end VisibleWorld

/-! ### What a client makes of it -/

theorem replay_append (sent groups : List GroupSpawn) :
    replay (sent ++ groups) = groups.foldl GroupSpawn.replay (replay sent) :=
  List.foldl_append

theorem foldl_send (mode : GroupSpawnType) (content : List GroupSpawnDataContent) (shown : List UInt32) :
    (sendGroupSpawnPacket mode content).foldl GroupSpawn.replay shown =
      content.foldl GroupSpawnDataContent.replay shown := by
  unfold sendGroupSpawnPacket
  cases content <;> rfl

theorem mem_foldl_spawn (references : List EntityReference) (kind : EntityReference → Option EntityKind)
    (shown : List UInt32) (id : UInt32) :
    id ∈ (references.filterMap fun reference => (kind reference).map fun kind =>
        GroupSpawnDataContent.spawn reference.gameEntity.refId reference.gameEntity.uniqueId kind).foldl
          GroupSpawnDataContent.replay shown ↔
      id ∈ shown ∨ ∃ reference ∈ references, (kind reference).isSome = true ∧
        reference.gameEntity.uniqueId = id := by
  induction references generalizing shown with
  | nil => simp
  | cons reference references ih =>
      cases hkind : kind reference with
      | none =>
          rw [List.filterMap_cons_none (by rw [hkind]; rfl), ih]
          simp [hkind]
      | some found =>
          rw [List.filterMap_cons_some (by rw [hkind]; rfl), List.foldl_cons, ih,
            GroupSpawnDataContent.replay]
          simp only [List.mem_cons, exists_eq_or_imp, hkind, Option.isSome_some, true_and]
          tauto

theorem mem_foldl_despawn (references : List EntityReference) (shown : List UInt32) (id : UInt32) :
    id ∈ (VisibleWorld.despawnsOf references).foldl GroupSpawnDataContent.replay shown ↔
      id ∈ shown ∧ ¬ ∃ reference ∈ references, reference.gameEntity.uniqueId = id := by
  unfold VisibleWorld.despawnsOf
  induction references generalizing shown with
  | nil => simp
  | cons reference references ih =>
      rw [List.map_cons, List.foldl_cons, ih, GroupSpawnDataContent.replay]
      simp only [List.mem_filter, decide_eq_true_eq, List.mem_cons, exists_eq_or_imp, not_or, and_assoc,
        ne_eq, eq_comm (a := id)]

namespace VisibleWorld

variable {Pool Region Position : Type} {kindOf : Entity → EntityKind}

/-- The ids of references. -/
def uniqueIds (references : Set EntityReference) : Set UInt32 :=
  (fun reference : EntityReference => reference.gameEntity.uniqueId) '' references

/-- **What a client makes of two groups.** -/
theorem mem_replay_send (w : VisibleWorld Pool Region Position) (sent : List GroupSpawn)
    (added removed : List EntityReference) :
    { id | id ∈ replay (sent ++ sendGroupSpawnPacket .spawn (w.spawnsOf kindOf added) ++
        sendGroupSpawnPacket .despawn (despawnsOf removed)) } =
      KeyedReplica.update { id | id ∈ replay sent }
        (uniqueIds { reference | reference ∈ added ∧ (w.lookupKind kindOf reference.entity).isSome = true })
        (uniqueIds { reference | reference ∈ removed }) := by
  ext id
  rw [Set.mem_ofPred_eq, replay_append, replay_append, foldl_send, foldl_send, mem_foldl_despawn, spawnsOf,
    mem_foldl_spawn]
  simp only [KeyedReplica.update, uniqueIds, Set.mem_sdiff, Set.mem_union, Set.mem_ofPred_eq, Set.mem_image,
    and_assoc]

theorem shows_iff_of_playing {w : VisibleWorld Pool Region Position} {visibility : Visibility}
    {sent : List GroupSpawn} (h : w.client = .playing visibility sent) :
    w.Shows ↔ { id | id ∈ replay sent } =
      uniqueIds { reference | reference ∈ visibility.entitiesInRadius } := by
  constructor
  · intro hshows
    ext id
    rw [Set.mem_ofPred_eq, hshows visibility sent h id]
    rfl
  · intro hshows visibility' sent' h' id
    obtain ⟨rfl, rfl⟩ := ClientState.playing.inj (h.symm.trans h')
    have hid := Set.ext_iff.1 hshows id
    rw [Set.mem_ofPred_eq] at hid
    rw [hid]
    rfl

/-! ### Actions -/

section Actions

variable {ids : IdPool Pool} {grid : Grid Region Position} {client : Entity}
variable {w w' u : VisibleWorld Pool Region Position}

/-- What may become of a client while neither of the two systems runs. -/
def Follows (state state' : ClientState) : Prop :=
  state' = state ∨ state' = .gone ∨ state = .joining ∧ state' = .playing Visibility.new []

theorem follows_sync (world : IdWorld Pool) (state : ClientState) :
    Follows state (sync client world state) := by
  cases hplayer : isPlayer world client with
  | true => cases state <;> simp [sync, Follows, hplayer]
  | false => cases state <;> simp [sync, Follows, hplayer]

theorem Follows.trans {a b c : ClientState} (hab : Follows a b) (hbc : Follows b c) : Follows a c := by
  rcases hab with rfl | rfl | ⟨rfl, rfl⟩
  · exact hbc
  · rcases hbc with rfl | rfl | ⟨hjoining, -⟩
    · exact Or.inr (Or.inl rfl)
    · exact Or.inr (Or.inl rfl)
    · cases hjoining
  · rcases hbc with rfl | rfl | ⟨hjoining, -⟩
    · exact Or.inr (Or.inr ⟨rfl, rfl⟩)
    · exact Or.inr (Or.inl rfl)
    · cases hjoining

theorem act_spec {action : VisibleAction Position} (hsound : w.world.Sound ids)
    (h : act ids grid client action w = some w') : Follows w.client w'.client ∧ w'.world.Sound ids := by
  cases action with
  | id action =>
      obtain ⟨world, hworld, rfl⟩ := Option.map_eq_some_iff.1 h
      exact ⟨follows_sync world w.client, hsound.step hworld⟩
  | move entity position =>
      obtain rfl := Option.some_inj.1 h
      exact ⟨Or.inl rfl, hsound⟩
  | updatePlayerActivity =>
      obtain rfl := Option.some_inj.1 h
      exact ⟨Or.inl rfl, hsound⟩

theorem actions_spec {actions : List (VisibleAction Position)} (hsound : w.world.Sound ids)
    (h : runAll (act ids grid client) actions w = some u) :
    Follows w.client u.client ∧ u.world.Sound ids := by
  induction actions generalizing w with
  | nil =>
      obtain rfl := Option.some_inj.1 h
      exact ⟨Or.inl rfl, hsound⟩
  | cons action actions ih =>
      obtain ⟨w', hw', hu⟩ := Option.bind_eq_some_iff.1 h
      obtain ⟨hfollows, hsound'⟩ := act_spec hsound hw'
      obtain ⟨hfollows', hsound''⟩ := ih hsound' hu
      exact ⟨hfollows.trans hfollows', hsound''⟩

/-- The invariant between two ticks: nothing waits to be sent, and no two tracked entities have the same
id. -/
structure Ready (ids : IdPool Pool) (w : VisibleWorld Pool Region Position) : Prop where
  sound : w.world.Sound ids
  cleared : ∀ visibility sent, w.client = .playing visibility sent →
    visibility.addedEntities = [] ∧ visibility.removedEntities = []
  distinct : ∀ visibility sent, w.client = .playing visibility sent →
    Set.InjOn (fun reference : EntityReference => reference.gameEntity.uniqueId)
      { reference | reference ∈ visibility.entitiesInRadius }

/-- What holds of a client that was there, and of one that has just joined, holds after any actions. -/
theorem of_follows {P : Visibility → List GroupSpawn → Prop} {state state' : ClientState}
    (hfollows : Follows state state') (hnew : P Visibility.new [])
    (h : ∀ visibility sent, state = .playing visibility sent → P visibility sent) :
    ∀ visibility sent, state' = .playing visibility sent → P visibility sent := by
  intro visibility sent hplaying
  rcases hfollows with rfl | rfl | ⟨-, rfl⟩
  · exact h visibility sent hplaying
  · cases hplaying
  · obtain ⟨rfl, rfl⟩ := ClientState.playing.inj hplaying
    exact hnew

/-- **Nothing but the two systems matters** to what is tracked and what is sent. -/
theorem Ready.actions (h : w.Ready ids) {actions : List (VisibleAction Position)}
    (hu : runAll (act ids grid client) actions w = some u) : u.Ready ids ∧ (w.Shows → u.Shows) := by
  obtain ⟨hfollows, hsound⟩ := actions_spec h.sound hu
  refine ⟨⟨hsound, ?_, ?_⟩, fun hshows => ?_⟩
  · exact of_follows (P := fun visibility _ => visibility.addedEntities = [] ∧
      visibility.removedEntities = []) hfollows ⟨rfl, rfl⟩ h.cleared
  · exact of_follows (P := fun visibility _ => Set.InjOn
      (fun reference : EntityReference => reference.gameEntity.uniqueId)
        { reference | reference ∈ visibility.entitiesInRadius }) hfollows
      (fun reference hreference => (by cases hreference)) h.distinct
  · exact of_follows (P := fun visibility sent => ∀ id, id ∈ replay sent ↔
      ∃ reference ∈ visibility.entitiesInRadius, reference.gameEntity.uniqueId = id) hfollows
      (fun id => by simp [replay, Visibility.new]) hshows

theorem map_references (w : VisibleWorld Pool Region Position) :
    w.references.map (fun reference => reference.gameEntity.uniqueId) = w.world.liveIds := by
  unfold references IdWorld.liveIds
  rw [List.map_filterMap]
  simp only [Option.map_map]
  rfl

end Actions

/-! ### One tick -/

section Sending

variable {ids : IdPool Pool} {v : VisibleWorld Pool Region Position}

theorem playerVisibilityUpdate_of_not_playing (h : ∀ visibility sent, v.client ≠ .playing visibility sent) :
    v.playerVisibilityUpdate kindOf = v := by
  unfold playerVisibilityUpdate
  split
  · rename_i visibility sent hplaying
    exact absurd hplaying (h visibility sent)
  · rfl

theorem playerVisibilityUpdate_client {visibility : Visibility} {sent : List GroupSpawn}
    (h : v.client = .playing visibility sent) :
    (v.playerVisibilityUpdate kindOf).client = .playing ⟨visibility.entitiesInRadius, [], []⟩
      (sent ++ sendGroupSpawnPacket .spawn (v.spawnsOf kindOf visibility.addedEntities) ++
        sendGroupSpawnPacket .despawn (despawnsOf visibility.removedEntities)) := by
  unfold playerVisibilityUpdate
  rw [h]

/-- **The two systems, for a client that is there all the time.** -/
theorem shows_update_iff {visibility : Visibility} {sent : List GroupSpawn} {inRange : List EntityReference}
    (hplaying : v.client = .playing (visibility.update inRange) sent)
    (hcleared : visibility.addedEntities = [] ∧ visibility.removedEntities = [])
    (hshows : { id | id ∈ replay sent } = uniqueIds { reference | reference ∈ visibility.entitiesInRadius })
    (hbefore : Set.InjOn (fun reference : EntityReference => reference.gameEntity.uniqueId)
      { reference | reference ∈ visibility.entitiesInRadius })
    (hafter : Set.InjOn (fun reference : EntityReference => reference.gameEntity.uniqueId)
      { reference | reference ∈ inRange }) :
    (v.playerVisibilityUpdate kindOf).Shows ↔ ∀ reference ∈ visibility.entering inRange,
      (v.lookupKind kindOf reference.entity).isSome = true ∧
        ∀ old ∈ visibility.leaving inRange,
          old.gameEntity.uniqueId ≠ reference.gameEntity.uniqueId := by
  have hentering : { reference | reference ∈ visibility.entering inRange } =
      { reference | reference ∈ inRange } \ { reference | reference ∈ visibility.entitiesInRadius } := by
    ext reference
    simp [Visibility.entering]
  have hleaving : { reference | reference ∈ visibility.leaving inRange } =
      { reference | reference ∈ visibility.entitiesInRadius } \ { reference | reference ∈ inRange } := by
    ext reference
    simp [Visibility.leaving]
  have htracked : { reference | reference ∈ (visibility.update inRange).entitiesInRadius } =
      { reference | reference ∈ inRange } := Set.ext fun reference => Visibility.mem_update
  have htold : { reference | reference ∈ visibility.entering inRange ∧
      (v.lookupKind kindOf reference.entity).isSome = true } ⊆
        { reference | reference ∈ inRange } \ { reference | reference ∈ visibility.entitiesInRadius } := by
    rw [← hentering]
    exact fun reference h => h.1
  have hadded : (visibility.update inRange).addedEntities = visibility.entering inRange := by
    rw [Visibility.update, hcleared.1, List.nil_append]
  have hremoved : (visibility.update inRange).removedEntities = visibility.leaving inRange := by
    rw [Visibility.update, hcleared.2, List.nil_append]
  rw [shows_iff_of_playing (playerVisibilityUpdate_client hplaying), mem_replay_send, hshows, hadded, hremoved,
    htracked, hleaving]
  unfold uniqueIds
  rw [KeyedReplica.update_eq_iff hbefore hafter htold, ← hentering, ← hleaving, Set.disjoint_left]
  constructor
  · rintro ⟨hall, hdisjoint⟩ reference hreference
    refine ⟨(hall hreference).2, fun old hold heq => ?_⟩
    exact hdisjoint ⟨reference, hreference, rfl⟩ ⟨old, hold, heq⟩
  · intro h
    refine ⟨fun reference hreference => ⟨hreference, (h reference hreference).1⟩, ?_⟩
    rintro id ⟨reference, hreference, rfl⟩ ⟨old, hold, heq⟩
    exact (h reference hreference).2 old hold heq

theorem ready_of_not_playing (hsound : v.world.Sound ids)
    (h : ∀ visibility sent, v.client ≠ .playing visibility sent) : v.Ready ids ∧ v.Shows :=
  ⟨⟨hsound, fun visibility sent hplaying => absurd hplaying (h visibility sent),
    fun visibility sent hplaying => absurd hplaying (h visibility sent)⟩,
    fun visibility sent hplaying => absurd hplaying (h visibility sent)⟩

theorem ready_send {visibility : Visibility} {sent : List GroupSpawn} (hsound : v.world.Sound ids)
    (hplaying : v.client = .playing visibility sent)
    (hdistinct : Set.InjOn (fun reference : EntityReference => reference.gameEntity.uniqueId)
      { reference | reference ∈ visibility.entitiesInRadius }) :
    (v.playerVisibilityUpdate kindOf).Ready ids := by
  refine ⟨?_, fun visibility' sent' h' => ?_, fun visibility' sent' h' => ?_⟩
  · unfold playerVisibilityUpdate
    rw [hplaying]
    exact hsound
  · obtain ⟨rfl, -⟩ := ClientState.playing.inj ((playerVisibilityUpdate_client hplaying).symm.trans h')
    exact ⟨rfl, rfl⟩
  · obtain ⟨rfl, -⟩ := ClientState.playing.inj ((playerVisibilityUpdate_client hplaying).symm.trans h')
    exact hdistinct

/-- A player to whom nothing has to be told. -/
theorem shows_send_nothing {visibility : Visibility} {sent : List GroupSpawn}
    (hplaying : v.client = .playing visibility sent)
    (hcleared : visibility.addedEntities = [] ∧ visibility.removedEntities = []) (hshows : v.Shows) :
    (v.playerVisibilityUpdate kindOf).Shows := by
  rw [shows_iff_of_playing (playerVisibilityUpdate_client hplaying), hcleared.1, hcleared.2]
  simpa [spawnsOf, despawnsOf, sendGroupSpawnPacket] using (shows_iff_of_playing hplaying).1 hshows

end Sending

section Tick

variable [DecidableEq Region] {ids : IdPool Pool} {grid : Grid Region Position} {client : Entity}
variable {w w' u v : VisibleWorld Pool Region Position}

theorem mem_references {reference : EntityReference} (h : reference ∈ w.entitiesInRange grid client) :
    reference ∈ w.references := by
  obtain ⟨hfilter, -⟩ := List.mem_filter.1 h
  obtain ⟨hmem, -⟩ := List.mem_filter.1 hfilter
  obtain ⟨region, -, hgrouped⟩ := List.mem_flatMap.1 hmem
  exact (List.mem_filter.1 hgrouped).1

/-- No two entities that are near have the same id. -/
theorem injOn_entitiesInRange (hsound : w.world.Sound ids) :
    Set.InjOn (fun reference : EntityReference => reference.gameEntity.uniqueId)
      { reference | reference ∈ w.entitiesInRange grid client } := by
  have hnodup : (w.references.map fun reference => reference.gameEntity.uniqueId).Nodup := by
    rw [map_references]
    exact hsound.uniqueIds.nodup
  intro a ha b hb heq
  exact List.inj_on_of_nodup_map hnodup (mem_references ha) (mem_references hb) heq

theorem visibilityUpdate_world (w : VisibleWorld Pool Region Position) :
    (w.visibilityUpdate grid client).world = w.world := by
  unfold visibilityUpdate
  split
  · split <;> rfl
  · rfl

/-- The client that has not joined, or is gone, is not touched. -/
theorem visibilityUpdate_of_not_playing (h : ∀ visibility sent, w.client ≠ .playing visibility sent) :
    w.visibilityUpdate grid client = w := by
  unfold visibilityUpdate
  split
  · rename_i visibility sent hplaying
    exact absurd hplaying (h visibility sent)
  · rfl

theorem visibilityUpdate_client {visibility : Visibility} {sent : List GroupSpawn}
    (h : w.client = .playing visibility sent) :
    (w.visibilityUpdate grid client).client =
      .playing (if w.isActive grid client = true then visibility.update (w.entitiesInRange grid client)
        else visibility) sent := by
  unfold visibilityUpdate
  rw [h]
  dsimp only
  split
  · rfl
  · exact h

/-- What the condition says of a client that is there when the entities near it are looked for. -/
theorem entersInOrder_iff {t : VisibleTick Position} {visibility : Visibility} {sent : List GroupSpawn}
    (hu : runAll (act ids grid client) t.before w = some u) (hplaying : u.client = .playing visibility sent)
    (hv : runAll (act ids grid client) t.between (u.visibilityUpdate grid client) = some v) :
    w.EntersInOrder ids grid kindOf client t ↔
      (u.isActive grid client = true → v.client ≠ .gone →
        ∀ reference ∈ visibility.entering (u.entitiesInRange grid client),
          (v.lookupKind kindOf reference.entity).isSome = true ∧
            ∀ old ∈ visibility.leaving (u.entitiesInRange grid client),
              old.gameEntity.uniqueId ≠ reference.gameEntity.uniqueId) := by
  constructor
  · exact fun h hactive hthere => h u visibility sent v hu hplaying hactive hv hthere
  · intro h u' visibility' sent' v' hu' hplaying' hactive hv' hthere
    obtain rfl := Option.some_inj.1 (hu.symm.trans hu')
    obtain ⟨rfl, rfl⟩ := ClientState.playing.inj (hplaying.symm.trans hplaying')
    obtain rfl := Option.some_inj.1 (hv.symm.trans hv')
    exact h hactive hthere

theorem EntersInOrder.of_not_playing {t : VisibleTick Position}
    (hu : runAll (act ids grid client) t.before w = some u)
    (h : ∀ visibility sent, u.client ≠ .playing visibility sent) :
    w.EntersInOrder ids grid kindOf client t := by
  intro u' visibility sent v hu' hplaying
  obtain rfl := Option.some_inj.1 (hu.symm.trans hu')
  exact absurd hplaying (h visibility sent)

/-- The rest of a tick that finds no player: one who joins now has nothing to be told yet. -/
theorem Ready.send_of_not_playing (h : u.Ready ids)
    (hnot : ∀ visibility sent, u.client ≠ .playing visibility sent) {actions : List (VisibleAction Position)}
    (hv : runAll (act ids grid client) actions (u.visibilityUpdate grid client) = some v) :
    (v.playerVisibilityUpdate kindOf).Ready ids ∧ (u.Shows → (v.playerVisibilityUpdate kindOf).Shows) := by
  rw [visibilityUpdate_of_not_playing hnot] at hv
  obtain ⟨hready, hkeeps⟩ := h.actions hv
  by_cases hplaying : ∃ visibility sent, v.client = .playing visibility sent
  · obtain ⟨visibility, sent, hplaying⟩ := hplaying
    exact ⟨ready_send hready.sound hplaying (hready.distinct visibility sent hplaying), fun hshows =>
      shows_send_nothing hplaying (hready.cleared visibility sent hplaying) (hkeeps hshows)⟩
  · have hnotv : ∀ visibility sent, v.client ≠ .playing visibility sent := fun visibility sent h =>
      hplaying ⟨visibility, sent, h⟩
    rw [playerVisibilityUpdate_of_not_playing hnotv]
    exact ⟨hready, hkeeps⟩

/-- The rest of a tick that finds the player. -/
theorem Ready.send_of_playing (h : u.Ready ids) {visibility : Visibility} {sent : List GroupSpawn}
    (hplaying : u.client = .playing visibility sent) {actions : List (VisibleAction Position)}
    (hv : runAll (act ids grid client) actions (u.visibilityUpdate grid client) = some v) :
    (v.playerVisibilityUpdate kindOf).Ready ids ∧
      (u.Shows → ((v.playerVisibilityUpdate kindOf).Shows ↔
        (u.isActive grid client = true → v.client ≠ .gone →
          ∀ reference ∈ visibility.entering (u.entitiesInRange grid client),
            (v.lookupKind kindOf reference.entity).isSome = true ∧
              ∀ old ∈ visibility.leaving (u.entitiesInRange grid client),
                old.gameEntity.uniqueId ≠ reference.gameEntity.uniqueId))) := by
  obtain ⟨hfollows, hsound⟩ := actions_spec (by rw [visibilityUpdate_world]; exact h.sound) hv
  rw [visibilityUpdate_client hplaying] at hfollows
  have hcleared := h.cleared visibility sent hplaying
  have hbefore := h.distinct visibility sent hplaying
  have hafter : Set.InjOn (fun reference : EntityReference => reference.gameEntity.uniqueId)
      { reference | reference ∈ u.entitiesInRange grid client } := injOn_entitiesInRange h.sound
  rcases hfollows with hsame | hgone | ⟨hjoining, -⟩
  · cases hactive : u.isActive grid client with
    | true =>
        rw [if_pos hactive] at hsame
        refine ⟨ready_send hsound hsame ?_, fun hshows => ?_⟩
        · intro a ha b hb heq
          exact hafter (Visibility.mem_update.1 ha) (Visibility.mem_update.1 hb) heq
        · rw [shows_update_iff hsame hcleared ((shows_iff_of_playing hplaying).1 hshows) hbefore hafter]
          exact ⟨fun hin _ _ => hin, fun hin => hin rfl (by rw [hsame]; simp)⟩
    | false =>
        rw [if_neg (by simp [hactive])] at hsame
        refine ⟨ready_send hsound hsame hbefore, fun hshows => ⟨fun _ hin => (by cases hin), fun _ => ?_⟩⟩
        refine shows_send_nothing hsame hcleared ?_
        exact (shows_iff_of_playing hsame).2 ((shows_iff_of_playing hplaying).1 hshows)
  · have hnot : ∀ visibility sent, v.client ≠ .playing visibility sent := by simp [hgone]
    rw [playerVisibilityUpdate_of_not_playing hnot]
    obtain ⟨hready, hshowsv⟩ := ready_of_not_playing hsound hnot
    exact ⟨hready, fun _ => ⟨fun _ _ hthere => absurd hgone hthere, fun _ => hshowsv⟩⟩
  · cases hjoining

/-- **One tick.** -/
theorem Ready.tick_iff (h : w.Ready ids) {t : VisibleTick Position}
    (ht : w.tick ids grid kindOf client t = some w') :
    w'.Ready ids ∧ (w.Shows → (w'.Shows ↔ w.EntersInOrder ids grid kindOf client t)) := by
  obtain ⟨u, hu, ht⟩ := Option.bind_eq_some_iff.1 ht
  obtain ⟨v, hv, rfl⟩ := Option.map_eq_some_iff.1 ht
  obtain ⟨hready, hkeeps⟩ := h.actions hu
  by_cases hplaying : ∃ visibility sent, u.client = .playing visibility sent
  · obtain ⟨visibility, sent, hplaying⟩ := hplaying
    obtain ⟨hready', hiff⟩ := hready.send_of_playing hplaying hv
    exact ⟨hready', fun hshows => (hiff (hkeeps hshows)).trans (entersInOrder_iff hu hplaying hv).symm⟩
  · have hnot : ∀ visibility sent, u.client ≠ .playing visibility sent := fun visibility sent h =>
      hplaying ⟨visibility, sent, h⟩
    obtain ⟨hready', hshows'⟩ := hready.send_of_not_playing hnot hv
    exact ⟨hready', fun hshows => ⟨fun _ => EntersInOrder.of_not_playing hu hnot,
      fun _ => hshows' (hkeeps hshows)⟩⟩

end Tick

theorem ready_init (ids : IdPool Pool) (pool : Pool) (position : Entity → Position) :
    (init pool position : VisibleWorld Pool Region Position).Ready ids ∧
      (init pool position : VisibleWorld Pool Region Position).Shows :=
  ready_of_not_playing (IdWorld.sound_init pool) fun _ _ hplaying => (by cases hplaying)

end VisibleWorld

/-- **In every run the client shows what the player sees, exactly if every tick is in order.** -/
theorem shows_iff {Pool Region Position : Type} [DecidableEq Region] (ids : IdPool Pool)
    (grid : Grid Region Position) (kindOf : Entity → EntityKind) (client : Entity) (pool : Pool)
    (position : Entity → Position) (ticks : List (VisibleTick Position)) :
    Reached (fun t w => VisibleWorld.tick ids grid kindOf client t w) VisibleWorld.Shows ticks
        (VisibleWorld.init pool position) ↔
      AllSteps (fun t w => VisibleWorld.tick ids grid kindOf client t w)
        (fun w t => w.EntersInOrder ids grid kindOf client t) ticks (VisibleWorld.init pool position) := by
  obtain ⟨hready, hshows⟩ : (VisibleWorld.init pool position : VisibleWorld Pool Region Position).Ready ids ∧
      (VisibleWorld.init pool position : VisibleWorld Pool Region Position).Shows :=
    VisibleWorld.ready_init ids pool position
  have hinvariant : Reached (fun t w => VisibleWorld.tick ids grid kindOf client t w)
      (VisibleWorld.Ready ids) ticks (VisibleWorld.init pool position) :=
    reached_of_step (fun _ _ _ _ h ht => (h.tick_iff ht).1) hready
  have hiff : Reached (fun t w => VisibleWorld.tick ids grid kindOf client t w)
      (fun w => w.Ready ids ∧ w.Shows) ticks (VisibleWorld.init pool position) ↔
        AllSteps (fun t w => VisibleWorld.tick ids grid kindOf client t w)
          (fun w t => w.EntersInOrder ids grid kindOf client t) ticks (VisibleWorld.init pool position) := by
    refine reached_iff_allSteps (fun t _ w w' hw ht => ?_) ⟨hready, hshows⟩
    obtain ⟨hready', hshows'⟩ := hw.1.tick_iff ht
    exact (and_iff_right hready').trans (hshows' hw.2)
  rw [← hiff]
  constructor
  · exact fun h pre w hpre hw => ⟨hinvariant pre w hpre hw, h pre w hpre hw⟩
  · exact fun h pre w hpre hw => (h pre w hpre hw).2

/-- One region, in which everything at the same place is near. -/
def sampleGrid : Grid Unit Bool where
  region _ := ()
  withGridNeighbours _ := [()]
  near a b := a == b

/-- In the first tick the player `1` joins, and an item `2` is dropped somewhere else.  In the second one
the player comes near the item, which is picked up by somebody else in the same tick. -/
def sampleTicks : List (VisibleTick Bool) :=
  [⟨[.id (.accept 1), .id (.applyCommand 0), .id (.handleJoin 1 1907 "Somebody"), .id (.applyCommand 0),
      .id (.spawn .createDrops 2 62), .id (.applyCommand 0), .move 1 false, .move 2 true,
      .updatePlayerActivity], []⟩,
    ⟨[.updatePlayerActivity, .move 1 true], [.id (.despawn 2), .id (.applyCommand 0)]⟩]

/-- The player sees the item, but was not told. -/
theorem item_is_not_shown :
    ¬ Reached (fun t w => VisibleWorld.tick IdPool.ofList sampleGrid (fun _ => .item) 1 t w)
      VisibleWorld.Shows sampleTicks (VisibleWorld.init [10, 11] fun _ => false) := by
  intro h
  have hshown := (h sampleTicks _ (List.prefix_refl _) rfl ⟨[⟨2, ⟨11, 62⟩⟩], [], []⟩ [] rfl 11).2
    ⟨⟨2, ⟨11, 62⟩⟩, List.mem_cons_self, rfl⟩
  exact absurd hshown (by decide)

end Skrillax

/-
**Whom an update reaches.**

What happens to a player is sent to the client of the player, and to the clients of those that are in the sight
of the player.  It should reach those who have the player in *their* sight, as they are the ones who draw it.
All players look around in the same way, and the regions around a region are those that it is around, so that
the two are the same, unless somebody is left out when everybody looks around: `visibility_update` skips whoever
is far from all regions in which there were players when `update_player_activity` looked for them.

The players share the entities, their positions and the regions; each client has what `Skrillax.Visibility`
models for one of them.  The build is one for release: at the edge of the map the regions around a region are
those on the other side, and there is no panic.

Main definitions:

* `worldGrid` — the grid of the regions of the map;
* `SharedWorld`, `SharedAction`, `SharedWorld.step` — the entities and all clients, and what happens;
* `SharedWorld.Sees` — a player has an entity in sight;
* `Update`, `synchronizeUpdates` — the updates of a tick, and what is sent for them;
* `due` — what a client should be told of an update;
* `SharedWorld.Balanced` — whoever is left out sees those who are not exactly if they are near.

Main results:

* `regular_worldGrid` — being near, and being a region around another one, are mutual;
* `view_step` — each client takes part in the steps as if it were the only one;
* `SightSound.step`, `SightSound.mutual_step_iff` — one step;
* `updates_reach_whoever_sees` — **throughout a run every client is told, once and in order, exactly of the
  updates of its own player and of the players that it sees, if and only if whoever is left out when everybody
  looks around already sees the right ones of the others**.
-/

import Skrillax.PlayerNames
import Skrillax.RegionGrid

set_option relaxedAutoImplicit false
set_option autoImplicit false

namespace Skrillax

open PartialAction

/-! ### The grid -/

/-- A grid on which being near, and being a region around another one, are mutual. -/
structure Grid.Regular {Region Position : Type} (grid : Grid Region Position) : Prop where
  neighbours : ∀ region other, other ∈ grid.withGridNeighbours region ↔ region ∈ grid.withGridNeighbours other
  near : ∀ position other, grid.near position other = grid.near other position
  nodup : ∀ region, (grid.withGridNeighbours region).Nodup

/-- The map of a release build. -/
def worldGrid (radius : ℚ) : Grid Region GlobalPosition where
  region := GlobalPosition.region
  withGridNeighbours region := (withGridNeighbours .release region).getD []
  near position other := decide (position.distanceTo other < radius ^ 2)

theorem withGridNeighbours_release (region : Region) :
    withGridNeighbours .release region =
      some [Region.fromXy (region.x - 1) region.y, region, Region.fromXy (region.x + 1) region.y,
        Region.fromXy (region.x - 1) (region.y - 1), Region.fromXy region.x (region.y - 1),
        Region.fromXy (region.x + 1) (region.y - 1), Region.fromXy (region.x - 1) (region.y + 1),
        Region.fromXy region.x (region.y + 1), Region.fromXy (region.x + 1) (region.y + 1)] := by
  have hsub : ∀ a : UInt8, Rust.Profile.release.subU8 a 1 = some (a - 1) := by
    intro a
    unfold Rust.Profile.subU8
    split <;> rfl
  have hadd : ∀ a : UInt8, Rust.Profile.release.addU8 a 1 = some (a + 1) := by
    intro a
    unfold Rust.Profile.addU8
    split <;> rfl
  rw [withGridNeighbours, hsub, hadd, hsub, hadd]
  rfl

/-- Both coordinates differ by one at most, around the edges. -/
theorem mem_neighbours_worldGrid {radius : ℚ} {region other : Region} :
    other ∈ (worldGrid radius).withGridNeighbours region ↔
      (other.x = region.x - 1 ∨ other.x = region.x ∨ other.x = region.x + 1) ∧
        (other.y = region.y - 1 ∨ other.y = region.y ∨ other.y = region.y + 1) := by
  have hself : other = region ↔ other.x = region.x ∧ other.y = region.y := by
    rw [← Region.eq_fromXy_iff, Region.fromXy_x_y]
  show other ∈ (withGridNeighbours .release region).getD [] ↔ _
  rw [withGridNeighbours_release]
  simp only [Option.getD_some, List.mem_cons, List.not_mem_nil, or_false, Region.eq_fromXy_iff, hself]
  generalize other.x = x, other.y = y, region.x = a, region.y = b
  grind

theorem nodup_neighbours_worldGrid {radius : ℚ} (region : Region) :
    ((worldGrid radius).withGridNeighbours region).Nodup := by
  have hfromXy : ∀ x y x' y' : UInt8, Region.fromXy x y = Region.fromXy x' y' ↔ x = x' ∧ y = y' := by
    intro x y x' y'
    rw [Region.eq_fromXy_iff, Region.x_fromXy, Region.y_fromXy]
  have hbelow : ∀ a : UInt8, a - 1 ≠ a := by grind
  have habove : ∀ a : UInt8, a + 1 ≠ a := by grind
  have hbetween : ∀ a : UInt8, a - 1 ≠ a + 1 := by grind
  have hneighbours : (worldGrid radius).withGridNeighbours region =
      [Region.fromXy (region.x - 1) region.y, Region.fromXy region.x region.y,
        Region.fromXy (region.x + 1) region.y, Region.fromXy (region.x - 1) (region.y - 1),
        Region.fromXy region.x (region.y - 1), Region.fromXy (region.x + 1) (region.y - 1),
        Region.fromXy (region.x - 1) (region.y + 1), Region.fromXy region.x (region.y + 1),
        Region.fromXy (region.x + 1) (region.y + 1)] := by
    show (withGridNeighbours .release region).getD [] = _
    rw [withGridNeighbours_release, Region.fromXy_x_y]
    rfl
  rw [hneighbours]
  simp only [List.nodup_cons, List.mem_cons, List.not_mem_nil, hfromXy, hbelow, habove, hbetween,
    (hbelow _).symm, (habove _).symm, (hbetween _).symm, false_and, and_false, or_self, not_false_eq_true,
    List.nodup_nil, and_self]

/-- Being near is mutual, and so is being a region around another one. -/
theorem regular_worldGrid (radius : ℚ) : (worldGrid radius).Regular where
  neighbours := fun region other => by
    have hmutual : ∀ a b : UInt8, (a = b - 1 ∨ a = b ∨ a = b + 1) ↔ (b = a - 1 ∨ b = a ∨ b = a + 1) := by
      intro a b
      grind
    rw [mem_neighbours_worldGrid, mem_neighbours_worldGrid, hmutual other.x, hmutual other.y]
  near := fun position other => by
    have hdistance : position.distanceTo other = other.distanceTo position := by
      simp only [GlobalPosition.distanceTo]
      ring
    show decide (position.distanceTo other < radius ^ 2) = decide (other.distanceTo position < radius ^ 2)
    rw [hdistance]
  nodup := nodup_neighbours_worldGrid

/-- On this map looking around is the system of a release build. -/
theorem updateVisibility_release {Pool : Type} (radius : ℚ) (client : Entity)
    (w : VisibleWorld Pool Region GlobalPosition) :
    updateVisibility .release radius client w = some (w.visibilityUpdate (worldGrid radius) client) := by
  cases hclient : w.client with
  | playing visibility sent =>
      simp only [updateVisibility, hclient, withGridNeighbours_release, Option.bind_eq_bind, Option.bind_some,
        Option.pure_def, VisibleWorld.visibilityUpdate, VisibleWorld.isActive, VisibleWorld.entitiesInRange,
        VisibleWorld.closeRegions, worldGrid, regionGrid, Option.getD_some]
      rfl
  | joining => simp only [updateVisibility, hclient, VisibleWorld.visibilityUpdate]
  | gone => simp only [updateVisibility, hclient, VisibleWorld.visibilityUpdate]

/-! ### The world of all clients -/

structure SharedWorld (Pool Region Position : Type) where
  world : IdWorld Pool
  position : Entity → Position
  activity : List Region
  clients : Entity → ClientState

/-- The two systems go through all clients. -/
inductive SharedAction (Position : Type) where
  | act (action : VisibleAction Position)
  | visibilityUpdate
  | playerVisibilityUpdate

/-- The entities that are in the sight of a player. -/
def ClientState.sight : ClientState → Option (List Entity)
  | .playing visibility _ => some (visibility.entitiesInRadius.map EntityReference.entity)
  | _ => none

/-- A change of an entity, for its own client and for others. -/
structure Update (Packet : Type) where
  source : Entity
  changeSelf : Option Packet
  changeOthers : Option Packet

namespace SharedWorld

section Model

variable {Pool Region Position Packet : Type} [DecidableEq Region]
variable (ids : IdPool Pool) (grid : Grid Region Position) (kindOf : Entity → EntityKind)

def init (pool : Pool) (position : Entity → Position) : SharedWorld Pool Region Position :=
  ⟨IdWorld.init pool, position, [], fun _ => .joining⟩

/-- What there is for one client. -/
def view (w : SharedWorld Pool Region Position) (client : Entity) : VisibleWorld Pool Region Position :=
  ⟨w.world, w.position, w.activity, w.clients client⟩

/-- The entities change, and the clients with them. -/
def withWorld (w : SharedWorld Pool Region Position) (world : IdWorld Pool) : SharedWorld Pool Region Position :=
  { w with world, clients := fun client => VisibleWorld.sync client world (w.clients client) }

def visibilityUpdate (w : SharedWorld Pool Region Position) : SharedWorld Pool Region Position :=
  { w with clients := fun client => ((w.view client).visibilityUpdate grid client).client }

def playerVisibilityUpdate (w : SharedWorld Pool Region Position) : SharedWorld Pool Region Position :=
  { w with clients := fun client => ((w.view client).playerVisibilityUpdate kindOf).client }

def step : SharedAction Position → SharedWorld Pool Region Position → Option (SharedWorld Pool Region Position)
  | .act (.id action), w => (IdWorld.step ids action w.world).map w.withWorld
  | .act (.move entity position), w => some { w with position := Function.update w.position entity position }
  | .act .updatePlayerActivity, w =>
      let players := w.world.entities.filter fun record => record.player.isSome
      some { w with activity := players.map fun record => grid.region (w.position record.entity) }
  | .visibilityUpdate, w => some (w.visibilityUpdate grid)
  | .playerVisibilityUpdate, w => some (w.playerVisibilityUpdate kindOf)

/-- There is a client, and its player. -/
def Playing (w : SharedWorld Pool Region Position) (client : Entity) : Prop := (w.clients client).sight.isSome = true

/-- The player has the entity in sight. -/
def Sees (w : SharedWorld Pool Region Position) (player entity : Entity) : Prop :=
  entity ∈ (w.clients player).sight.getD []

instance (w : SharedWorld Pool Region Position) (client : Entity) : Decidable (w.Playing client) :=
  inferInstanceAs (Decidable (_ = true))

instance (w : SharedWorld Pool Region Position) (player entity : Entity) : Decidable (w.Sees player entity) :=
  inferInstanceAs (Decidable (_ ∈ _))

/-- `synchronize_updates`: what is sent, and to which client. -/
def synchronizeUpdates (w : SharedWorld Pool Region Position) (updates : List (Update Packet)) :
    List (Entity × Packet) :=
  updates.flatMap fun update =>
    match (w.clients update.source).sight with
    | some seen =>
        let others := seen.filter (VisibleWorld.isPlayer w.world)
        (update.changeSelf.toList.map fun packet => (update.source, packet)) ++
          update.changeOthers.toList.flatMap fun packet => others.map fun client => (client, packet)
    | none => []

/-- What a client is told. -/
def received (w : SharedWorld Pool Region Position) (updates : List (Update Packet)) (reader : Entity) : List Packet :=
  (w.synchronizeUpdates updates).filterMap fun (client, packet) => if client = reader then some packet else none

/-- What a client should be told of an update. -/
def due (w : SharedWorld Pool Region Position) (reader : Entity) (update : Update Packet) : List Packet :=
  if w.Playing update.source then
    (if update.source = reader then update.changeSelf.toList else []) ++
      (if w.Sees reader update.source then update.changeOthers.toList else [])
  else []

/-- Everybody is told what it should be told. -/
def Delivers (Packet : Type) (w : SharedWorld Pool Region Position) : Prop :=
  ∀ (updates : List (Update Packet)) (reader : Entity), w.received updates reader = updates.flatMap (w.due reader)

/-- The entity would be found by a player who looks around. -/
def Nearby (w : SharedWorld Pool Region Position) (player entity : Entity) : Prop :=
  entityIndex entity ≠ entityIndex player ∧ grid.near (w.position player) (w.position entity) = true ∧
    grid.region (w.position entity) ∈ grid.withGridNeighbours (grid.region (w.position player))

/-- Somebody who is left out when everybody looks around already sees the right ones of the others. -/
def Balanced (w : SharedWorld Pool Region Position) : SharedAction Position → Prop
  | .visibilityUpdate => ∀ player other, w.Playing player → w.Playing other →
      (w.view player).isActive grid player = true → (w.view other).isActive grid other = false →
      (w.Sees other player ↔ w.Nearby grid player other)
  | _ => True

/-- What a step does for one client. -/
def viewStep (client : Entity) :
    SharedAction Position → VisibleWorld Pool Region Position → Option (VisibleWorld Pool Region Position)
  | .act action, v => VisibleWorld.act ids grid client action v
  | .visibilityUpdate, v => some (v.visibilityUpdate grid client)
  | .playerVisibilityUpdate, v => some (v.playerVisibilityUpdate kindOf)

variable {ids grid kindOf}

/-- **Each client takes part as if it were the only one.** -/
theorem view_step (client : Entity) (action : SharedAction Position) (w : SharedWorld Pool Region Position) :
    (step ids grid kindOf action w).map (·.view client) = viewStep ids grid kindOf client action (w.view client) := by
  have hlooks : ∀ v : VisibleWorld Pool Region Position, v.visibilityUpdate grid client =
      { v with client := (v.visibilityUpdate grid client).client } := by
    intro v
    unfold VisibleWorld.visibilityUpdate
    split
    · split <;> rfl
    · rfl
  have hshows : ∀ v : VisibleWorld Pool Region Position, v.playerVisibilityUpdate kindOf =
      { v with client := (v.playerVisibilityUpdate kindOf).client } := by
    intro v
    unfold VisibleWorld.playerVisibilityUpdate
    split <;> rfl
  cases action with
  | act action =>
      cases action with
      | id action =>
          show (((IdWorld.step ids action w.world).map _).map _ : Option (VisibleWorld Pool Region Position)) = _
          rw [Option.map_map]
          rfl
      | move entity position => rfl
      | updatePlayerActivity => rfl
  | visibilityUpdate => exact congrArg some (hlooks (w.view client)).symm
  | playerVisibilityUpdate => exact congrArg some (hshows (w.view client)).symm

end Model

/-! ### The invariant -/

section Sight

variable {Pool Region Position Packet : Type} {ids : IdPool Pool} {w w' : SharedWorld Pool Region Position}

/-- What is in sight has had an id, and is there once. -/
structure SightSound (ids : IdPool Pool) (w : SharedWorld Pool Region Position) : Prop where
  sound : w.world.Sound ids
  names : w.world.NamesSound
  playing : ∀ client, w.Playing client ↔ VisibleWorld.isPlayer w.world client = true
  gone : ∀ client, w.clients client = .gone → w.world.HasHadId client
  hadId : ∀ player entity, w.Sees player entity → w.world.HasHadId entity
  nodup : ∀ player, ((w.clients player).sight.getD []).Nodup

/-- Two players who are there see each other, or do not. -/
def Mutual (w : SharedWorld Pool Region Position) : Prop :=
  ∀ player other, w.Playing player → w.Playing other → (w.Sees player other ↔ w.Sees other player)

theorem isPlayer_iff {world : IdWorld Pool} {entity : Entity} :
    VisibleWorld.isPlayer world entity = true ↔
      ∃ record ∈ world.entities, record.entity = entity ∧ record.player.isSome = true := by
  simp [VisibleWorld.isPlayer]

theorem Sees.playing {player entity : Entity} (h : w.Sees player entity) : w.Playing player := by
  rw [Sees] at h
  rw [Playing]
  cases hsight : (w.clients player).sight with
  | some seen => rfl
  | none =>
      rw [hsight] at h
      cases h

/-- Whoever is a player after a step was one before, or has had no id. -/
theorem isPlayer_step {world world' : IdWorld Pool} (hnames : world.NamesSound) (hw : world.WellFormed)
    {action : IdAction} (hstep : IdWorld.step ids action world = some world') {client : Entity}
    (h : VisibleWorld.isPlayer world' client = true) :
    VisibleWorld.isPlayer world client = true ∨ ¬ world.HasHadId client := by
  obtain ⟨record, hrecord, rfl, hsome⟩ := isPlayer_iff.1 h
  rcases hnames.record_step hw hstep hrecord with ⟨old, hold, hentity, hplayer, -⟩ | ⟨hnot, -⟩
  · exact .inl (isPlayer_iff.2 ⟨old, hold, hentity, hplayer ▸ hsome⟩)
  · exact .inr hnot

/-- A player has an id. -/
theorem hasHadId_of_isPlayer {world : IdWorld Pool} (hnames : world.NamesSound) (hw : world.WellFormed)
    {client : Entity} (h : VisibleWorld.isPlayer world client = true) : world.HasHadId client := by
  obtain ⟨record, hrecord, rfl, hsome⟩ := isPlayer_iff.1 h
  exact hw.hasHadId hrecord (hnames.players record hrecord hsome)

/-- Nobody sees anybody differently. -/
theorem SightSound.of_sight (h : w.SightSound ids) (hworld : w'.world = w.world)
    (hsight : ∀ client, (w'.clients client).sight = (w.clients client).sight)
    (hgone : ∀ client, w'.clients client = .gone → w.clients client = .gone) :
    w'.SightSound ids ∧ (w'.Mutual ↔ w.Mutual) := by
  have hsees : ∀ player entity, w'.Sees player entity ↔ w.Sees player entity := fun player entity => by
    rw [Sees, Sees, hsight]
  have hplaying : ∀ client, w'.Playing client ↔ w.Playing client := fun client => by rw [Playing, Playing, hsight]
  refine ⟨⟨hworld ▸ h.sound, hworld ▸ h.names, fun client => ?_, fun client hclient => ?_, fun player entity hseen => ?_,
    fun player => ?_⟩, ?_⟩
  · rw [hworld, hplaying]
    exact h.playing client
  · rw [hworld]
    exact h.gone client (hgone client hclient)
  · rw [hworld]
    exact h.hadId player entity ((hsees player entity).1 hseen)
  · rw [hsight]
    exact h.nodup player
  · simp only [Mutual, hsees, hplaying]

/-! ### What is sent -/

theorem received_append (updates updates' : List (Update Packet)) (reader : Entity) :
    w.received (updates ++ updates') reader = w.received updates reader ++ w.received updates' reader := by
  rw [received, synchronizeUpdates, List.flatMap_append, List.filterMap_append]
  rfl

/-- One packet to each of several clients. -/
theorem filterMap_map_client {others : List Entity} (h : others.Nodup) (packet : Packet) (reader : Entity) :
    (others.map fun client => (client, packet)).filterMap
        (fun (client, packet) => if client = reader then some packet else none) =
      if reader ∈ others then [packet] else [] := by
  induction others with
  | nil => rfl
  | cons client others ih =>
      obtain ⟨hnot, hothers⟩ := List.nodup_cons.1 h
      rw [List.map_cons, List.filterMap_cons, ih hothers]
      by_cases heq : client = reader
      · subst heq
        simp [hnot]
      · have hne : reader ≠ client := Ne.symm heq
        simp [heq, hne]

/-- What a client is told of one update. -/
theorem received_singleton (h : w.SightSound ids) (update : Update Packet) (reader : Entity) :
    w.received [update] reader =
      if w.Playing update.source then
        (if update.source = reader then update.changeSelf.toList else []) ++
          (if w.Sees update.source reader ∧ w.Playing reader then update.changeOthers.toList else [])
      else [] := by
  obtain ⟨source, changeSelf, changeOthers⟩ := update
  have hnodup := h.nodup source
  rw [received, synchronizeUpdates, List.flatMap_singleton]
  cases hsight : (w.clients source).sight with
  | none =>
      have hplaying : ¬ w.Playing source := by simp [Playing, hsight]
      rw [if_neg hplaying]
      rfl
  | some seen =>
      have hplaying : w.Playing source := by simp [Playing, hsight]
      have hsees : w.Sees source reader ∧ w.Playing reader ↔ reader ∈ seen.filter (VisibleWorld.isPlayer w.world) := by
        rw [Sees, hsight, h.playing reader, List.mem_filter]
        rfl
      rw [hsight, Option.getD_some] at hnodup
      simp only [if_pos hplaying, hsees, List.filterMap_append]
      congr 1
      · cases changeSelf with
        | none => simp
        | some packet => by_cases hreader : source = reader <;> simp [hreader]
      · cases changeOthers with
        | none => simp
        | some packet =>
            rw [Option.toList_some, List.flatMap_singleton, filterMap_map_client (hnodup.filter _)]

theorem received_eq_flatMap (updates : List (Update Packet)) (reader : Entity) :
    w.received updates reader = updates.flatMap fun update => w.received [update] reader := by
  induction updates with
  | nil => rfl
  | cons update updates ih =>
      rw [← List.singleton_append, received_append, ih, List.flatMap_append, List.flatMap_singleton]

/-- Everybody is told what it should be told exactly if seeing is mutual. -/
theorem delivers_iff_mutual (h : w.SightSound ids) (packet : Packet) : w.Delivers Packet ↔ w.Mutual := by
  constructor
  · intro hdelivers source reader hsource hreader
    have heq := hdelivers [⟨source, none, some packet⟩] reader
    rw [received_singleton h, List.flatMap_singleton, due, if_pos hsource, if_pos hsource] at heq
    simp only [Option.toList_none, ite_self, List.nil_append, hreader, and_true, Option.toList_some] at heq
    constructor
    · intro hsees
      by_contra hnot
      simp [hsees, hnot] at heq
    · intro hsees
      by_contra hnot
      simp [hsees, hnot] at heq
  · intro hmutual updates reader
    rw [received_eq_flatMap]
    refine List.flatMap_congr fun update _ => ?_
    rw [received_singleton h, due]
    split
    · rename_i hplaying
      have hiff : w.Sees update.source reader ∧ w.Playing reader ↔ w.Sees reader update.source := by
        constructor
        · exact fun hsees => (hmutual update.source reader hplaying hsees.2).1 hsees.1
        · exact fun hsees => ⟨(hmutual update.source reader hplaying hsees.playing).2 hsees, hsees.playing⟩
      simp only [hiff]
    · rfl

/-! ### The entities change -/

/-- The sight of a client after a step that changes the entities. -/
theorem sight_withWorld (world : IdWorld Pool) (client : Entity) :
    ((w.withWorld world).clients client).sight =
      if VisibleWorld.isPlayer world client = true then
        match w.clients client with
        | .joining => some []
        | state => state.sight
      else none := by
  show (VisibleWorld.sync client world (w.clients client)).sight = _
  cases w.clients client with
  | joining | playing | gone =>
      simp only [VisibleWorld.sync]
      split <;> rfl

theorem sees_withWorld {world : IdWorld Pool} {player entity : Entity} :
    (w.withWorld world).Sees player entity ↔ VisibleWorld.isPlayer world player = true ∧ w.Sees player entity := by
  rw [Sees, Sees, sight_withWorld]
  cases VisibleWorld.isPlayer world player with
  | false => simp
  | true => cases w.clients player <;> simp [ClientState.sight]

/-- Who is playing now was playing before, or has just joined. -/
theorem playing_withWorld {world : IdWorld Pool} {client : Entity} :
    (w.withWorld world).Playing client ↔
      VisibleWorld.isPlayer world client = true ∧ (w.clients client = .joining ∨ w.Playing client) := by
  rw [Playing, Playing, sight_withWorld]
  cases VisibleWorld.isPlayer world client with
  | false => simp
  | true => cases w.clients client <;> simp [ClientState.sight]

theorem SightSound.not_playing_of_joining (h : w.SightSound ids) {client : Entity} (hjoins : w.clients client = .joining) :
    ¬ w.Playing client ∧ VisibleWorld.isPlayer w.world client = false := by
  have hnot : ¬ w.Playing client := by simp [Playing, hjoins, ClientState.sight]
  exact ⟨hnot, Bool.eq_false_iff.2 fun hplayer => hnot ((h.playing client).2 hplayer)⟩

/-- The entities change: whoever joins has nobody in sight, and is in nobody's sight. -/
theorem SightSound.withWorld (h : w.SightSound ids) {action : IdAction} {world : IdWorld Pool}
    (hstep : IdWorld.step ids action w.world = some world) :
    (w.withWorld world).SightSound ids ∧ (w.Mutual → (w.withWorld world).Mutual) := by
  have hw := h.sound.wellFormed
  refine ⟨⟨h.sound.step hstep, h.names.step hw hstep, fun client => ?_, fun client hgone => ?_,
    fun player entity hsees => (h.hadId player entity (sees_withWorld.1 hsees).2).step hw hstep, fun player => ?_⟩, ?_⟩
  · rw [playing_withWorld]
    refine and_iff_left_of_imp fun hplayer => ?_
    rcases isPlayer_step h.names hw hstep hplayer with hwas | hnot
    · exact .inr ((h.playing client).2 hwas)
    · -- a client that is gone has had an id, and whoever is playing has one
      cases hstate : w.clients client with
      | joining => exact .inl rfl
      | playing visibility sent => exact .inr (by simp [Playing, hstate, ClientState.sight])
      | gone => exact absurd (h.gone client hstate) hnot
  · have hsync : VisibleWorld.sync client world (w.clients client) = .gone := hgone
    refine IdWorld.HasHadId.step ?_ hw hstep
    cases hstate : w.clients client with
    | joining =>
        rw [hstate, VisibleWorld.sync] at hsync
        split at hsync <;> cases hsync
    | playing visibility sent =>
        refine hasHadId_of_isPlayer h.names hw ((h.playing client).1 ?_)
        simp [Playing, hstate, ClientState.sight]
    | gone => exact h.gone client hstate
  · rw [sight_withWorld]
    split
    · have hnodup := h.nodup player
      cases hstate : w.clients player with
      | joining => exact List.nodup_nil
      | playing | gone => rwa [hstate] at hnodup
    · exact List.nodup_nil
  · intro hmutual player other hplayer hother
    obtain ⟨hplayer, hplayer'⟩ := playing_withWorld.1 hplayer
    obtain ⟨hother, hother'⟩ := playing_withWorld.1 hother
    rw [sees_withWorld, sees_withWorld, and_iff_right hplayer, and_iff_right hother]
    have hsees : ∀ {client}, w.clients client = .joining → ∀ entity, ¬ w.Sees client entity := fun hjoins entity hsees =>
      (h.not_playing_of_joining hjoins).1 hsees.playing
    have hseen : ∀ {client}, w.clients client = .joining → VisibleWorld.isPlayer world client = true →
        ∀ entity, ¬ w.Sees entity client := by
      intro client hjoins hplayer entity hsees
      rcases isPlayer_step h.names hw hstep hplayer with hwas | hnot
      · rw [(h.not_playing_of_joining hjoins).2] at hwas
        cases hwas
      · exact hnot (h.hadId entity client hsees)
    rcases hplayer' with hjoins | hplaying
    · exact iff_of_false (hsees hjoins other) (hseen hjoins hplayer other)
    · rcases hother' with hjoins | hplaying'
      · exact iff_of_false (hseen hjoins hother player) (hsees hjoins player)
      · exact hmutual player other hplaying hplaying'

/-! ### Looking around -/

theorem sight_playerVisibilityUpdate (kindOf : Entity → EntityKind) (client : Entity) :
    ((w.playerVisibilityUpdate kindOf).clients client).sight = (w.clients client).sight := by
  show ((w.view client).playerVisibilityUpdate kindOf).client.sight = (w.view client).client.sight
  unfold VisibleWorld.playerVisibilityUpdate
  split
  · rename_i visibility sent hplaying
    rw [hplaying]
    rfl
  · rfl

theorem mem_references_iff {v : VisibleWorld Pool Region Position} {reference : EntityReference} :
    reference ∈ v.references ↔
      ∃ record ∈ v.world.entities, record.entity = reference.entity ∧ record.gameEntity = some reference.gameEntity := by
  obtain ⟨entity, gameEntity⟩ := reference
  simp only [VisibleWorld.references, List.mem_filterMap, Option.map_eq_some_iff, EntityReference.mk.injEq]
  constructor
  · rintro ⟨record, hrecord, gameEntity', hgame, rfl, rfl⟩
    exact ⟨record, hrecord, rfl, hgame⟩
  · rintro ⟨record, hrecord, rfl, hgame⟩
    exact ⟨record, hrecord, gameEntity, hgame, rfl, rfl⟩

theorem map_references {v : VisibleWorld Pool Region Position} :
    v.references.map EntityReference.entity =
      (v.world.entities.filter fun record => record.gameEntity.isSome).map EntityRecord.entity := by
  unfold VisibleWorld.references
  induction v.world.entities with
  | nil => rfl
  | cons record records ih =>
      cases hgame : record.gameEntity <;> simp [hgame, ih]

theorem SightSound.init (pool : Pool) (position : Entity → Position) :
    (SharedWorld.init pool position : SharedWorld Pool Region Position).SightSound ids where
  sound := IdWorld.sound_init pool
  names := IdWorld.namesSound_init pool
  playing := fun client => by simp [Playing, SharedWorld.init, ClientState.sight, VisibleWorld.isPlayer, IdWorld.init]
  gone := fun client hgone => by cases hgone
  hadId := fun player entity hsees => by cases hsees
  nodup := fun player => List.nodup_nil

variable {grid : Grid Region Position}

theorem nearby_comm (hgrid : grid.Regular) {player other : Entity} :
    w.Nearby grid player other ↔ w.Nearby grid other player := by
  unfold Nearby
  rw [hgrid.near, hgrid.neighbours, ne_comm]

variable [DecidableEq Region]

theorem mem_entitiesInRange {v : VisibleWorld Pool Region Position} {client : Entity} {reference : EntityReference} :
    reference ∈ v.entitiesInRange grid client ↔
      reference ∈ v.references ∧ entityIndex reference.entity ≠ entityIndex client ∧
        grid.near (v.position client) (v.position reference.entity) = true ∧
        grid.region (v.position reference.entity) ∈ grid.withGridNeighbours (grid.region (v.position client)) := by
  simp only [VisibleWorld.entitiesInRange, VisibleWorld.grouped, VisibleWorld.closeRegions, List.mem_filter,
    List.mem_flatMap, decide_eq_true_eq, bne_iff_ne]
  constructor
  · rintro ⟨⟨⟨region, hregion, hreference, rfl⟩, hindex⟩, hnear⟩
    exact ⟨hreference, hindex, hnear, hregion⟩
  · rintro ⟨hreference, hindex, hnear, hregion⟩
    exact ⟨⟨⟨_, hregion, hreference, rfl⟩, hindex⟩, hnear⟩

/-- The sight of a client after everybody has looked around. -/
theorem sight_visibilityUpdate (client : Entity) :
    ((w.visibilityUpdate grid).clients client).sight =
      match w.clients client with
      | .playing visibility _ =>
          some (((if (w.view client).isActive grid client = true then
            visibility.update ((w.view client).entitiesInRange grid client) else visibility).entitiesInRadius).map
              EntityReference.entity)
      | _ => none := by
  show ((w.view client).visibilityUpdate grid client).client.sight = _
  cases hstate : w.clients client with
  | playing visibility sent =>
      have hclient : (w.view client).client = .playing visibility sent := hstate
      rw [VisibleWorld.visibilityUpdate_client hclient]
      rfl
  | joining | gone =>
      have hclient : (w.view client).client = w.clients client := rfl
      rw [VisibleWorld.visibilityUpdate_of_not_playing, hclient, hstate]
      · rfl
      · rw [hclient, hstate]
        exact fun _ _ h => by cases h

theorem playing_visibilityUpdate {client : Entity} : (w.visibilityUpdate grid).Playing client ↔ w.Playing client := by
  rw [Playing, Playing, sight_visibilityUpdate]
  cases w.clients client <;> rfl

/-- Whoever is not left out sees the players that are near, and whoever is left out those of before. -/
theorem sees_visibilityUpdate (h : w.SightSound ids) {player other : Entity} (hplayer : w.Playing player)
    (hother : w.Playing other) :
    (w.visibilityUpdate grid).Sees player other ↔
      if (w.view player).isActive grid player = true then w.Nearby grid player other else w.Sees player other := by
  rw [Sees, Sees, sight_visibilityUpdate]
  rw [Playing] at hplayer
  cases hstate : w.clients player with
  | joining | gone =>
      rw [hstate] at hplayer
      cases hplayer
  | playing visibility sent =>
      by_cases hactive : (w.view player).isActive grid player = true
      · simp only [if_pos hactive, Option.getD_some, List.mem_map, Visibility.mem_update, mem_entitiesInRange,
          mem_references_iff]
        obtain ⟨record, hrecord, rfl, hsome⟩ := isPlayer_iff.1 ((h.playing other).1 hother)
        obtain ⟨gameEntity, hgame⟩ := Option.isSome_iff_exists.1 (h.names.players record hrecord hsome)
        constructor
        · rintro ⟨⟨entity, gameEntity'⟩, ⟨-, hnear⟩, rfl⟩
          exact hnear
        · intro hnear
          exact ⟨⟨record.entity, gameEntity⟩, ⟨⟨record, hrecord, rfl, hgame⟩, hnear⟩, rfl⟩
      · simp only [if_neg hactive]
        rfl

/-- Everything in sight afterwards is there, or was in sight before. -/
theorem mem_sight_visibilityUpdate {player entity : Entity} (h : (w.visibilityUpdate grid).Sees player entity) :
    w.Sees player entity ∨ ∃ record ∈ w.world.entities, record.entity = entity ∧ record.gameEntity.isSome = true := by
  rw [Sees, sight_visibilityUpdate] at h
  cases hstate : w.clients player with
  | joining | gone =>
      rw [hstate] at h
      cases h
  | playing visibility sent =>
      rw [hstate] at h
      obtain ⟨reference, hreference, rfl⟩ := List.mem_map.1 h
      split at hreference
      · obtain ⟨record, hrecord, hentity, hgame⟩ :=
          mem_references_iff.1 (mem_entitiesInRange.1 (Visibility.mem_update.1 hreference)).1
        exact .inr ⟨record, hrecord, hentity, by rw [hgame]; rfl⟩
      · left
        rw [Sees, hstate]
        exact List.mem_map_of_mem hreference

/-- Nothing comes into the range twice. -/
theorem nodup_entitiesInRange (hgrid : grid.Regular) {v : VisibleWorld Pool Region Position}
    (hw : v.world.WellFormed) (client : Entity) :
    (v.entitiesInRange grid client).Nodup ∧ Set.InjOn EntityReference.entity { reference | reference ∈ v.references } := by
  have hentities : (v.references.map EntityReference.entity).Nodup := by
    rw [map_references]
    exact (List.nodup_append.1 hw.nodup).1.sublist (List.filter_sublist.map _)
  have hgrouped : ((v.closeRegions grid client).flatMap fun region => v.grouped grid region).Nodup := by
    refine List.nodup_flatMap.2 ⟨fun region _ => hentities.of_map.filter _, ?_⟩
    refine (hgrid.nodup _).imp fun hne reference hfirst hsecond => hne ?_
    rw [← of_decide_eq_true (List.mem_filter.1 hfirst).2, ← of_decide_eq_true (List.mem_filter.1 hsecond).2]
  exact ⟨(hgrouped.filter _).filter _, fun _ ha _ hb heq => List.inj_on_of_nodup_map hentities ha hb heq⟩

/-- An entity that is tracked is the one that is there. -/
theorem nodup_sight_visibilityUpdate (hgrid : grid.Regular) (h : w.SightSound ids) (player : Entity) :
    (((w.visibilityUpdate grid).clients player).sight.getD []).Nodup := by
  have hnodup := h.nodup player
  rw [sight_visibilityUpdate]
  cases hstate : w.clients player with
  | joining | gone => exact List.nodup_nil
  | playing visibility sent =>
      rw [hstate] at hnodup
      by_cases hactive : (w.view player).isActive grid player = true
      · simp only [if_pos hactive, Option.getD_some]
        have hrange := nodup_entitiesInRange hgrid (v := w.view player) h.sound.wellFormed player
        refine List.Nodup.map_on (fun a ha b hb heq => hrange.2 ?_ ?_ heq) ?_
        · exact (mem_entitiesInRange.1 (Visibility.mem_update.1 ha)).1
        · exact (mem_entitiesInRange.1 (Visibility.mem_update.1 hb)).1
        · refine List.Nodup.append (hnodup.of_map.filter _) (hrange.1.filter _) ?_
          intro reference hold hnew
          exact of_decide_eq_true (List.mem_filter.1 hnew).2 (List.mem_filter.1 hold).1
      · simp only [if_neg hactive]
        exact hnodup

/-- Everybody looks around. -/
theorem SightSound.visibilityUpdate (hgrid : grid.Regular) (h : w.SightSound ids) :
    (w.visibilityUpdate grid).SightSound ids where
  sound := h.sound
  names := h.names
  playing := fun client => playing_visibilityUpdate.trans (h.playing client)
  gone := fun client hgone => by
    refine h.gone client ?_
    have hclient : ((w.view client).visibilityUpdate grid client).client = .gone := hgone
    cases hstate : w.clients client with
    | gone => rfl
    | playing visibility sent =>
        have hview : (w.view client).client = .playing visibility sent := hstate
        rw [VisibleWorld.visibilityUpdate_client hview] at hclient
        cases hclient
    | joining =>
        have hview : (w.view client).client = .joining := hstate
        rw [VisibleWorld.visibilityUpdate_of_not_playing (by simp [hview]), hview] at hclient
        cases hclient
  hadId := fun player entity hsees => by
    rcases mem_sight_visibilityUpdate hsees with hsees | ⟨record, hrecord, rfl, hgame⟩
    · exact h.hadId player entity hsees
    · exact h.sound.wellFormed.hasHadId hrecord hgame
  nodup := nodup_sight_visibilityUpdate hgrid h

/-- **Everybody looks around: it is the same for both of two players, unless one of them is left out.** -/
theorem mutual_visibilityUpdate_iff (hgrid : grid.Regular) (h : w.SightSound ids) (hmutual : w.Mutual) :
    (w.visibilityUpdate grid).Mutual ↔ w.Balanced grid .visibilityUpdate := by
  have hsees : ∀ {player other}, w.Playing player → w.Playing other →
      ((w.visibilityUpdate grid).Sees player other ↔
        if (w.view player).isActive grid player = true then w.Nearby grid player other else w.Sees player other) :=
    fun hplayer hother => sees_visibilityUpdate h hplayer hother
  constructor
  · intro hafter player other hplayer hother hactive hleft
    have hiff := hafter player other (playing_visibilityUpdate.2 hplayer) (playing_visibilityUpdate.2 hother)
    rw [hsees hplayer hother, hsees hother hplayer, if_pos hactive, if_neg (by simp [hleft])] at hiff
    exact hiff.symm
  · intro hbalanced player other hplayer hother
    have hplayer := playing_visibilityUpdate.1 hplayer
    have hother := playing_visibilityUpdate.1 hother
    rw [hsees hplayer hother, hsees hother hplayer]
    cases hactive : (w.view player).isActive grid player with
    | true =>
        cases hactive' : (w.view other).isActive grid other with
        | true => exact nearby_comm hgrid
        | false => exact (hbalanced player other hplayer hother hactive hactive').symm
    | false =>
        cases hactive' : (w.view other).isActive grid other with
        | true => exact hbalanced other player hother hplayer hactive' hactive
        | false => exact hmutual player other hplayer hother

/-! ### A run -/

/-- **One step keeps the invariant.** -/
theorem SightSound.step (hgrid : grid.Regular) {kindOf : Entity → EntityKind} {action : SharedAction Position}
    (h : w.SightSound ids) (hstep : SharedWorld.step ids grid kindOf action w = some w') :
    w'.SightSound ids ∧ (w.Mutual → (w'.Mutual ↔ w.Balanced grid action)) := by
  have hkeeps : ∀ w' : SharedWorld Pool Region Position, w'.SightSound ids ∧ (w'.Mutual ↔ w.Mutual) →
      w'.SightSound ids ∧ (w.Mutual → (w'.Mutual ↔ True)) := by
    rintro w' ⟨hsound, hiff⟩
    exact ⟨hsound, fun hmutual => iff_true_intro (hiff.2 hmutual)⟩
  cases action with
  | act action =>
      cases action with
      | id action =>
          obtain ⟨world, hworld, rfl⟩ := Option.map_eq_some_iff.1 hstep
          obtain ⟨hsound, hmutual⟩ := h.withWorld hworld
          exact ⟨hsound, fun hbefore => iff_true_intro (hmutual hbefore)⟩
      | move entity position =>
          obtain rfl := Option.some_inj.1 hstep
          exact hkeeps _ (h.of_sight rfl (fun _ => rfl) fun _ hgone => hgone)
      | updatePlayerActivity =>
          obtain rfl := Option.some_inj.1 hstep
          exact hkeeps _ (h.of_sight rfl (fun _ => rfl) fun _ hgone => hgone)
  | visibilityUpdate =>
      obtain rfl := Option.some_inj.1 hstep
      exact ⟨h.visibilityUpdate hgrid, mutual_visibilityUpdate_iff hgrid h⟩
  | playerVisibilityUpdate =>
      obtain rfl := Option.some_inj.1 hstep
      refine hkeeps _ (h.of_sight rfl (sight_playerVisibilityUpdate kindOf) fun client hgone => ?_)
      have hclient : ((w.view client).playerVisibilityUpdate kindOf).client = .gone := hgone
      unfold VisibleWorld.playerVisibilityUpdate at hclient
      split at hclient
      · cases hclient
      · exact hclient

end Sight

end SharedWorld

/-- **Whom an update reaches.**  Throughout a run every client is told, once and in order, exactly of the updates
of its own player and of those that it sees, if and only if whoever is left out when everybody looks around
already sees the right ones of the others. -/
theorem updates_reach_whoever_sees {Pool Packet : Type} (ids : IdPool Pool) (radius : ℚ)
    (kindOf : Entity → EntityKind) (pool : Pool) (position : Entity → GlobalPosition) (packet : Packet)
    (actions : List (SharedAction GlobalPosition)) :
    Reached (SharedWorld.step ids (worldGrid radius) kindOf) (SharedWorld.Delivers Packet) actions
        (SharedWorld.init pool position) ↔
      AllSteps (SharedWorld.step ids (worldGrid radius) kindOf) (SharedWorld.Balanced (worldGrid radius)) actions
        (SharedWorld.init pool position) := by
  have hgrid := regular_worldGrid radius
  have hsound : Reached (SharedWorld.step ids (worldGrid radius) kindOf) (SharedWorld.SightSound ids) actions
      (SharedWorld.init pool position) :=
    reached_of_step (fun _ _ _ _ h hstep => (h.step hgrid hstep).1) (.init pool position)
  have hmutual : Reached (SharedWorld.step ids (worldGrid radius) kindOf) (fun w => w.SightSound ids ∧ w.Mutual) actions
      (SharedWorld.init pool position) ↔
        AllSteps (SharedWorld.step ids (worldGrid radius) kindOf) (SharedWorld.Balanced (worldGrid radius)) actions
          (SharedWorld.init pool position) := by
    refine reached_iff_allSteps (fun _ _ w w' h hstep => ?_) ⟨.init pool position, fun _ _ hplaying => by cases hplaying⟩
    obtain ⟨hsound', hiff⟩ := h.1.step hgrid hstep
    exact (and_iff_right hsound').trans (hiff h.2)
  rw [← hmutual]
  constructor
  · exact fun h pre w hpre hw =>
      ⟨hsound pre w hpre hw, (SharedWorld.delivers_iff_mutual (hsound pre w hpre hw) packet).1 (h pre w hpre hw)⟩
  · exact fun h pre w hpre hw =>
      (SharedWorld.delivers_iff_mutual (h pre w hpre hw).1 packet).2 (h pre w hpre hw).2

end Skrillax

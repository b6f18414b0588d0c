/-
**Joining the game.**

A client that asks to join with one of its characters gets the components of a player, and leaves the
selection.  The character is looked up by its name in the list that was loaded last; the system panics if
there is none with that name, and if the character cannot be turned into a player.

Main definitions:

* `WorldData`, `Iteration` — the reference data, and the order of the entries of a hash map;
* `sendSpawn`, `joinWorld`, `handleJoin` — joining, for a client;
* `Eligible`, `JoinIsSafe` — the client may join with the character that it asks for, and what joining
  should do;
* `CanSpawn`, `AsksForOwnCharacter` — the character can be turned into a player, and when joining does it.

Main results:

* `loadItems_isSome_iff`, `loadItems_items` — which rows of items can be loaded, and what is in a slot then;
* `joinWorld_isSome_iff` — when a character is turned into a player;
* `joinIsSafe_iff` — **joining is safe for a client exactly when the character that it asks for is in its
  list, and can be turned into a player if it is eligible**.
-/

import Skrillax.CharacterSelection

set_option relaxedAutoImplicit false
set_option autoImplicit false

namespace Skrillax

open Rust

/-! ### The reference data -/

/-- The data of the items and of the characters, and that of the skills with their ids. -/
structure WorldData where
  items : DataMap
  characters : List RefCommon
  skills : List (UInt32 × RefSkillData)

/-- `find_id` on the data of the characters. -/
def WorldData.findCharacter (data : WorldData) (id : UInt32) : Option RefCommon :=
  data.characters.find? fun character => character.refId == id

/-- An order of the entries for each hash map of items. -/
structure Iteration where
  order : SlotMap → List Slot
  iterates : ∀ items, Inventory.IterationOrder items (order items)

/-- The slots in ascending order. -/
def Iteration.ascending : Iteration where
  order items := ((List.range 256).map UInt8.ofNat).filter fun slot => (items slot).isSome
  iterates items := by
    constructor
    · refine List.Nodup.filter _ (List.Nodup.map_on (fun a ha b hb hab => ?_) List.nodup_range)
      rw [List.mem_range] at ha hb
      rw [← UInt8.toNat_inj, UInt8.toNat_ofNat', UInt8.toNat_ofNat'] at hab
      omega
    · intro slot
      rw [List.mem_filter]
      refine and_iff_right (List.mem_map.2 ⟨slot.toNat, ?_, UInt8.ofNat_toNat⟩)
      exact List.mem_range.2 slot.toNat_lt

/-! ### Joining -/

def MACRO_POTION : UInt8 := 1

def MACRO_SKILL : UInt8 := 2

def MACRO_HUNT : UInt8 := 4

abbrev INVENTORY_SIZE : ℕ := 45

section Join

variable (profile : Profile) (data : WorldData) (iteration : Iteration) (maxLevel : UInt8)

/-- The entry of the item in a slot. -/
def spawnItem (inventory : Inventory) (slot : Slot) : Option InventoryItemData :=
  (inventory.items slot).bind (inventoryItemData slot)

/-- `send_spawn`; `none` is a panic. -/
def sendSpawn (entity : GameEntity) (user : ServerUser) (name : String) (scalars : Scalars)
    (masteries skills : List (UInt32 × UInt8)) (inventory : Inventory) (client : LoginClient) :
    Option LoginClient := do
  let items ← (iteration.order inventory.items).mapM (spawnItem inventory)
  let learned := skills.flatMap fun (group, level) =>
    (data.skills.filter fun skillRef => skillRef.2.group == group && skillRef.2.level ≤ level).map Prod.fst
  let spawn : CharacterSpawn :=
    { entity, name, userId := user.id, scalars, maxLevel, inventorySize := inventory.size.toUInt8
      items, masteries, skills := learned }
  return ((client.send .characterSpawnStart).send (.characterSpawn spawn)).send .characterSpawnEnd

/-- The part of `handle_join` after the checks; `newId` is what the allocator returns.  `none` is a panic. -/
def joinWorld (newId : Option UInt32) (user : ServerUser) (character : DbCharacter)
    (client : LoginClient) : Option LoginClient := do
  let scalars := (fromDbCharacter character.characterData).2
  let inventory ← fromDbInventory data.items.findId character.items INVENTORY_SIZE (by decide)
  let masteries := character.masteries.map fun row => (row.1.toUInt32, row.2.toUInt16.toUInt8)
  let skills := character.skills.map fun row => (row.1.toUInt32, row.2.toUInt16.toUInt8)
  let uniqueId ← newId
  let gameEntity : GameEntity := { uniqueId, refId := character.characterType.toUInt32 }
  let client := client.send (.characterJoinResponse (.ok ()))
  let client ← sendSpawn data iteration maxLevel gameEntity user character.charname scalars masteries skills
    inventory client
  let client := client.send (.macroStatus (MACRO_POTION ||| MACRO_HUNT ||| MACRO_SKILL))
  let loaded ← loadCharacter profile character.characterData character.masteries character.skills
  let bundle : PlayerBundle :=
    { user, name := character.charname, character := loaded, gameEntity, inventory }
  return ((client.queueCommand (.insertBundle bundle)).queueCommand .removeCharacterSelect).queueCommand
    .removeLoginInput

def LoginClient.sendJoinError (client : LoginClient) (error : CharacterListError) : LoginClient :=
  client.send (.characterJoinResponse (.error error))

/-- The request of a client to join, with what else the query of `handle_join` finds. -/
def LoginClient.joinRequest (client : LoginClient) :
    Option (CharacterJoinRequest × CharacterSelect × Playing) := do
  let input ← client.input
  let charselect ← client.characterSelect
  let playing ← client.playing
  let join ← input.join
  return (join, charselect, playing)

/-- `handle_join`, for a client; `none` is a panic. -/
def handleJoin (newId : Option UInt32) (client : LoginClient) : Option LoginClient :=
  match client.joinRequest with
  | none => some client
  | some (join, charselect, playing) =>
      match charselect.characters with
      | some characters => do
          -- the client may ask for any name
          let character ← characters.find? (·.charname == join.characterName)
          if (data.findCharacter character.characterType.toUInt32).isNone then
            return client.sendJoinError .failedToJoinWorld
          else if character.deletionEnd.isSome then
            return client.sendJoinError .invalidName
          else
            joinWorld profile data iteration maxLevel newId playing.user character client
      | none => some (client.sendJoinError .reachedCapacity)

/-! ### Safety -/

def SelectionEvent.loadedList : SelectionEvent → Option (List DbCharacter)
  | .loaded characters => some characters
  | _ => none

/-- The list of characters that was loaded last. -/
def latestLoaded (history : List SelectionEvent) : Option (List DbCharacter) :=
  (history.filterMap SelectionEvent.loadedList).getLast?

/-- The character of this list that is asked for. -/
def LoginClient.requested (client : LoginClient) (join : CharacterJoinRequest) : Option DbCharacter :=
  (latestLoaded client.history).bind fun characters =>
    characters.find? (·.charname == join.characterName)

/-- The type of the character is known, and no deletion is pending. -/
def DbCharacter.Playable (character : DbCharacter) : Prop :=
  (data.findCharacter character.characterType.toUInt32).isSome = true ∧ character.deletionEnd = none

/-- The client asks for a playable character of its list. -/
def LoginClient.Eligible (client : LoginClient) (join : CharacterJoinRequest) : Prop :=
  ∃ character, client.requested join = some character ∧ character.Playable data

/-- The commands that turn a client into a player. -/
def joinCommands (bundle : PlayerBundle) : List LoginCommand :=
  [.insertBundle bundle, .removeCharacterSelect, .removeLoginInput]

/-- Whoever asks for an eligible character gets the components of a player and leaves the selection, and
whoever asks for another one stays as it is, with an error as the answer. -/
structure JoinOutcome (join : CharacterJoinRequest) (playing : Playing) (client client' : LoginClient) :
    Prop where
  joins : ∀ character, client.requested join = some character → character.Playable data →
    ∃ bundle, bundle.user = playing.user ∧ bundle.name = character.charname ∧
      client'.commands = client.commands ++ joinCommands bundle
  stays : ¬ client.Eligible data join → ∃ error, client' = client.sendJoinError error

/-- No panic, and the right outcome for whoever asks. -/
structure JoinIsSafe (newId : Option UInt32) (client : LoginClient) : Prop where
  returns : (handleJoin profile data iteration maxLevel newId client).isSome = true
  outcome : ∀ join charselect playing client',
    client.joinRequest = some (join, charselect, playing) →
      handleJoin profile data iteration maxLevel newId client = some client' →
        JoinOutcome data join playing client client'

/-- The slot of the inventory into which the item of a row is put. -/
def CharacterItem.inventorySlot (item : CharacterItem) : Slot := item.slot.toUInt16.toUInt8

/-- The last one of the rows for a slot. -/
def lastInSlot (items : List CharacterItem) (slot : Slot) : Option CharacterItem :=
  items.reverse.find? (·.inventorySlot == slot)

/-- The type of an item, if it is known and a type of items. -/
def DataMap.itemKind (items : DataMap) (item : CharacterItem) : Option ObjectItem := do
  let itemDef ← items.findId item.row.itemObjId.toUInt32
  match ObjectType.fromTypeId itemDef.common.typeId with
  | some (.item kind) => some kind
  | _ => none

/-- The items are known, no pet is left in a slot, and, in a debug build, the points of the character can be
computed. -/
structure CanSpawn (character : DbCharacter) : Prop where
  known : ∀ item ∈ character.items, (data.items.itemKind item).isSome = true
  noPet : ∀ slot item, lastInSlot character.items slot = some item →
    ∀ pet, data.items.itemKind item ≠ some (.pet pet)
  computes : profile = .debug → (fromDbCharacter character.characterData).2.level ≠ 0 ∧
    (fromDbCharacter character.characterData).2.strength.toNat * 10 < 2 ^ 16 ∧
    (fromDbCharacter character.characterData).2.intelligence.toNat * 10 < 2 ^ 16

/-- The condition for a client: the character that it asks for is in its list, if there is one, and can
spawn if it is playable. -/
def AsksForOwnCharacter (newId : Option UInt32) (client : LoginClient) : Prop :=
  ∀ join charselect playing, client.joinRequest = some (join, charselect, playing) →
    (latestLoaded client.history).isSome = true →
      ∃ character, client.requested join = some character ∧
        (character.Playable data → CanSpawn profile data character ∧ newId.isSome = true)

/-! ### Loading the items -/

/-- The item of a row; `none` is a panic. -/
def loadedItem (items : DataMap) (item : CharacterItem) : Option Item := do
  let itemDef ← items.findId item.row.itemObjId.toUInt32
  let typeData ← itemTypeDataFor itemDef item
  return { reference := itemDef, variance := item.row.variance.map Int64.toUInt64, typeData }

theorem loadItems_cons (items : DataMap) (item : CharacterItem) (rows : List CharacterItem)
    (inventory : Inventory) :
    loadItems items.findId (item :: rows) inventory = (loadedItem items item).bind fun it =>
      loadItems items.findId rows (inventory.setItem item.inventorySlot it) := by
  simp only [loadItems, loadedItem, CharacterItem.inventorySlot]
  cases items.findId item.row.itemObjId.toUInt32 with
  | none => rfl
  | some itemDef =>
      cases hdata : itemTypeDataFor itemDef item with
      | none => simp [hdata]
      | some typeData => simp [hdata]

/-- An item of a known type of items has an entry in the spawn packet if it is not a pet. -/
theorem loadedItem_cases (items : DataMap) (item : CharacterItem) :
    (items.itemKind item = none ∧ loadedItem items item = none) ∨
      ∃ kind it, items.itemKind item = some kind ∧ loadedItem items item = some it ∧
        ∀ slot, (inventoryItemData slot it).isSome = true ↔ ∀ pet, kind ≠ .pet pet := by
  rw [loadedItem, DataMap.itemKind]
  cases items.findId item.row.itemObjId.toUInt32 with
  | none => exact Or.inl ⟨rfl, rfl⟩
  | some itemDef =>
      simp only [Option.bind_eq_bind, Option.bind_some, itemTypeDataFor]
      rcases ObjectType.fromTypeId itemDef.common.typeId with _ | kind | kind | _
      · exact Or.inl ⟨rfl, rfl⟩
      · exact Or.inl ⟨rfl, rfl⟩
      · refine Or.inr ⟨kind, ?_⟩
        cases kind <;> exact ⟨_, rfl, rfl, fun slot => by simp [inventoryItemData]⟩
      · exact Or.inl ⟨rfl, rfl⟩

theorem loadedItem_isSome (items : DataMap) (item : CharacterItem) :
    (loadedItem items item).isSome = (items.itemKind item).isSome := by
  rcases loadedItem_cases items item with ⟨hkind, hitem⟩ | ⟨kind, it, hkind, hitem, -⟩
  · rw [hkind, hitem]
    rfl
  · rw [hkind, hitem]
    rfl

/-- The rows can be loaded when their items are known. -/
theorem loadItems_isSome_iff {items : DataMap} {rows : List CharacterItem} (inventory : Inventory) :
    (loadItems items.findId rows inventory).isSome = true ↔
      ∀ item ∈ rows, (items.itemKind item).isSome = true := by
  induction rows generalizing inventory with
  | nil => simp [loadItems]
  | cons item rows ih =>
      rw [loadItems_cons, List.forall_mem_cons, ← loadedItem_isSome]
      cases loadedItem items item with
      | none => simp
      | some it =>
          rw [Option.bind_some, ih (inventory.setItem item.inventorySlot it)]
          simp

theorem lastInSlot_cons (item : CharacterItem) (rows : List CharacterItem) (slot : Slot) :
    lastInSlot (item :: rows) slot =
      (lastInSlot rows slot).or (if item.inventorySlot = slot then some item else none) := by
  simp [lastInSlot, List.find?_append, List.find?_singleton]

/-- What is in a slot is the item of the last row for it. -/
theorem loadItems_items {items : DataMap} {rows : List CharacterItem} {inventory inventory' : Inventory}
    (h : loadItems items.findId rows inventory = some inventory') (slot : Slot) :
    inventory'.items slot =
      ((lastInSlot rows slot).bind (loadedItem items)).or (inventory.items slot) := by
  induction rows generalizing inventory with
  | nil =>
      obtain rfl := Option.some_inj.1 h
      rfl
  | cons item rows ih =>
      have hrows : ∀ row ∈ item :: rows, (loadedItem items row).isSome = true := fun row hrow => by
        rw [loadedItem_isSome]
        exact (loadItems_isSome_iff inventory).1 (Option.isSome_of_eq_some h) row hrow
      rw [loadItems_cons] at h
      obtain ⟨it, hit, h⟩ := Option.bind_eq_some_iff.1 h
      rw [ih h, lastInSlot_cons]
      cases hlast : lastInSlot rows slot with
      | some row =>
          have hrow : row ∈ rows := List.mem_reverse.1 (List.mem_of_find?_eq_some hlast)
          obtain ⟨it', hit'⟩ := Option.isSome_iff_exists.1 (hrows row (List.mem_cons_of_mem _ hrow))
          simp [hit']
      | none =>
          by_cases heq : item.inventorySlot = slot
          · simp [heq, hit, Inventory.setItem]
          · simp [heq, Inventory.setItem, Function.update_of_ne (Ne.symm heq)]

/-! ### The spawn packet -/

theorem isSome_mapM {α β : Type} {f : α → Option β} {l : List α} :
    (l.mapM f).isSome = true ↔ ∀ a ∈ l, (f a).isSome = true := by
  induction l with
  | nil => simp
  | cons a l ih =>
      rw [List.mapM_cons, List.forall_mem_cons, ← ih]
      cases f a with
      | none => simp
      | some b => cases l.mapM f <;> simp

/-- A spawn packet can be made when every item has an entry. -/
theorem sendSpawn_isSome_iff (entity : GameEntity) (user : ServerUser) (name : String) (scalars : Scalars)
    (masteries skills : List (UInt32 × UInt8)) (inventory : Inventory) (client : LoginClient) :
    (sendSpawn data iteration maxLevel entity user name scalars masteries skills inventory
        client).isSome = true ↔
      ∀ slot item, inventory.items slot = some item → (inventoryItemData slot item).isSome = true := by
  have hsend : (sendSpawn data iteration maxLevel entity user name scalars masteries skills inventory
      client).isSome = ((iteration.order inventory.items).mapM (spawnItem inventory)).isSome := by
    rw [sendSpawn]
    cases (iteration.order inventory.items).mapM (spawnItem inventory) with
    | none => rfl
    | some items => rfl
  rw [hsend, isSome_mapM]
  constructor
  · intro h slot item hitem
    have hslot := h slot (((iteration.iterates inventory.items).2 slot).2 (by rw [hitem]; rfl))
    rwa [spawnItem, hitem] at hslot
  · intro h slot hslot
    obtain ⟨item, hitem⟩ := Option.isSome_iff_exists.1 (((iteration.iterates inventory.items).2 slot).1 hslot)
    rw [spawnItem, hitem]
    exact h slot item hitem

/-- The messages of the spawn, and nothing else. -/
theorem sendSpawn_frame {entity : GameEntity} {user : ServerUser} {name : String} {scalars : Scalars}
    {masteries skills : List (UInt32 × UInt8)} {inventory : Inventory} {client client' : LoginClient}
    (h : sendSpawn data iteration maxLevel entity user name scalars masteries skills inventory client =
      some client') : ∃ sent, client' = { client with sent } := by
  obtain ⟨items, -, h⟩ := Option.bind_eq_some_iff.1 h
  obtain rfl := Option.some_inj.1 h
  exact ⟨_, rfl⟩

/-! ### Joining the world -/

variable {profile data iteration maxLevel}

/-- The health and the mana of the character are all that is computed. -/
theorem loadCharacter_isSome_iff {row : CharacterData} (masteries skills : List (Int32 × Int16)) :
    (loadCharacter profile row masteries skills).isSome = true ↔
      (profile = .debug → (fromDbCharacter row).2.level ≠ 0 ∧
        (fromDbCharacter row).2.strength.toNat * 10 < 2 ^ 16 ∧
        (fromDbCharacter row).2.intelligence.toNat * 10 < 2 ^ 16) := by
  have hboth : (loadCharacter profile row masteries skills).isSome = true ↔
      (maxPoints profile (fromDbCharacter row).2.strength (fromDbCharacter row).2.level).isSome = true ∧
        (maxPoints profile (fromDbCharacter row).2.intelligence
          (fromDbCharacter row).2.level).isSome = true := by
    rw [loadCharacter]
    dsimp only
    cases maxPoints profile (fromDbCharacter row).2.strength (fromDbCharacter row).2.level with
    | none => simp
    | some health =>
        cases maxPoints profile (fromDbCharacter row).2.intelligence (fromDbCharacter row).2.level with
        | none => simp
        | some mana => simp
  rw [hboth, Session.maxPoints_isSome_iff, Session.maxPoints_isSome_iff]
  constructor
  · rintro ⟨hhealth, hmana⟩ hdebug
    exact ⟨(hhealth hdebug).1, (hhealth hdebug).2, (hmana hdebug).2⟩
  · intro h
    exact ⟨fun hdebug => ⟨(h hdebug).1, (h hdebug).2.1⟩, fun hdebug => ⟨(h hdebug).1, (h hdebug).2.2⟩⟩

/-- No entry is missing in the spawn packet when no pet is left in a slot. -/
theorem loaded_spawns_iff {items : DataMap} {rows : List CharacterItem} {inventory : Inventory}
    (h : fromDbInventory items.findId rows INVENTORY_SIZE (by decide) = some inventory) :
    (∀ slot item, inventory.items slot = some item → (inventoryItemData slot item).isSome = true) ↔
      ∀ slot item, lastInSlot rows slot = some item → ∀ pet, items.itemKind item ≠ some (.pet pet) := by
  have hitems : ∀ slot, inventory.items slot = (lastInSlot rows slot).bind (loadedItem items) := fun slot => by
    rw [loadItems_items h slot]
    exact Option.or_none
  have hknown := (loadItems_isSome_iff (Inventory.new INVENTORY_SIZE (by decide))).1
    (Option.isSome_of_eq_some h)
  refine forall_congr' fun slot => ?_
  rw [hitems]
  cases hlast : lastInSlot rows slot with
  | none => simp
  | some row =>
      have hrow := hknown row (List.mem_reverse.1 (List.mem_of_find?_eq_some hlast))
      rcases loadedItem_cases items row with ⟨hkind, -⟩ | ⟨kind, it, hkind, hit, hspawns⟩
      · rw [hkind] at hrow
        cases hrow
      · simp [hkind, hit, hspawns]

/-- What joining the world takes, and the commands that it leaves. -/
theorem joinWorld_eq_some {newId : Option UInt32} {user : ServerUser} {character : DbCharacter}
    {client client' : LoginClient}
    (h : joinWorld profile data iteration maxLevel newId user character client = some client') :
    (CanSpawn profile data character ∧ newId.isSome = true) ∧
      ∃ bundle sent, bundle.user = user ∧ bundle.name = character.charname ∧
        client' = { client with sent, commands := client.commands ++ joinCommands bundle } := by
  obtain ⟨inventory, hinventory, h⟩ := Option.bind_eq_some_iff.1 h
  obtain ⟨uniqueId, hid, h⟩ := Option.bind_eq_some_iff.1 h
  obtain ⟨spawned, hspawned, h⟩ := Option.bind_eq_some_iff.1 h
  obtain ⟨loaded, hloaded, h⟩ := Option.bind_eq_some_iff.1 h
  refine ⟨⟨⟨?_, ?_, ?_⟩, Option.isSome_of_eq_some hid⟩,
    { user, name := character.charname, character := loaded
      gameEntity := { uniqueId, refId := character.characterType.toUInt32 }, inventory }, client'.sent,
    rfl, rfl, ?_⟩
  · exact (loadItems_isSome_iff _).1 (Option.isSome_of_eq_some hinventory)
  · rw [← loaded_spawns_iff hinventory]
    exact (sendSpawn_isSome_iff data iteration maxLevel _ _ _ _ _ _ _ _).1 (Option.isSome_of_eq_some hspawned)
  · exact (loadCharacter_isSome_iff _ _).1 (Option.isSome_of_eq_some hloaded)
  · obtain ⟨sent, rfl⟩ := sendSpawn_frame data iteration maxLevel hspawned
    obtain rfl := Option.some_inj.1 h
    simp [LoginClient.queueCommand, LoginClient.send, joinCommands]

variable (profile data iteration maxLevel)

/-- A character is turned into a player if it can spawn and there is an id for it. -/
theorem joinWorld_isSome_iff (newId : Option UInt32) (user : ServerUser) (character : DbCharacter)
    (client : LoginClient) :
    (joinWorld profile data iteration maxLevel newId user character client).isSome = true ↔
      CanSpawn profile data character ∧ newId.isSome = true := by
  constructor
  · intro h
    obtain ⟨client', hclient'⟩ := Option.isSome_iff_exists.1 h
    exact (joinWorld_eq_some hclient').1
  · rintro ⟨hspawn, hid⟩
    obtain ⟨inventory, hinventory⟩ := Option.isSome_iff_exists.1
      ((loadItems_isSome_iff (Inventory.new INVENTORY_SIZE (by decide))).2 hspawn.known)
    obtain ⟨uniqueId, rfl⟩ := Option.isSome_iff_exists.1 hid
    obtain ⟨loaded, hloaded⟩ := Option.isSome_iff_exists.1
      ((loadCharacter_isSome_iff character.masteries character.skills).2
        hspawn.computes)
    have hspawns := (loaded_spawns_iff hinventory).2 hspawn.noPet
    rw [joinWorld, fromDbInventory, hinventory]
    simp only [Option.bind_eq_bind, Option.bind_some]
    obtain ⟨spawned, hspawned⟩ := Option.isSome_iff_exists.1
      ((sendSpawn_isSome_iff data iteration maxLevel _ user character.charname _ _ _ inventory _).2 hspawns)
    rw [hspawned, hloaded]
    rfl

/-! ### Safety of joining -/

variable {profile data iteration maxLevel}

/-- Joining sends messages and leaves commands. -/
theorem handleJoin_frame {newId : Option UInt32} {client client' : LoginClient}
    (h : handleJoin profile data iteration maxLevel newId client = some client') :
    ∃ sent commands, client' = { client with sent, commands } := by
  rw [handleJoin] at h
  split at h
  · exact ⟨_, _, (Option.some_inj.1 h).symm⟩
  · rename_i join charselect playing hrequest
    split at h
    · obtain ⟨character, -, h⟩ := Option.bind_eq_some_iff.1 h
      split at h
      · exact ⟨_, _, (Option.some_inj.1 h).symm⟩
      · split at h
        · exact ⟨_, _, (Option.some_inj.1 h).symm⟩
        · obtain ⟨-, bundle, sent, -, -, rfl⟩ := joinWorld_eq_some h
          exact ⟨_, _, rfl⟩
    · exact ⟨_, _, (Option.some_inj.1 h).symm⟩

theorem characterSelect_of_joinRequest {client : LoginClient} {join : CharacterJoinRequest}
    {charselect : CharacterSelect} {playing : Playing}
    (h : client.joinRequest = some (join, charselect, playing)) :
    client.characterSelect = some charselect := by
  obtain ⟨input, -, h⟩ := Option.bind_eq_some_iff.1 h
  obtain ⟨charselect', hcharselect, h⟩ := Option.bind_eq_some_iff.1 h
  obtain ⟨playing', -, h⟩ := Option.bind_eq_some_iff.1 h
  obtain ⟨join', -, h⟩ := Option.bind_eq_some_iff.1 h
  cases h
  exact hcharselect

variable (profile data iteration maxLevel)

/-- What happens to a request to join, when the list of the selection is the one that was loaded last. -/
theorem handleJoin_cases (newId : Option UInt32) {client : LoginClient} {join : CharacterJoinRequest}
    {charselect : CharacterSelect} {playing : Playing}
    (hrequest : client.joinRequest = some (join, charselect, playing))
    (hlist : charselect.characters = latestLoaded client.history) :
    (latestLoaded client.history = none ∧ client.requested join = none ∧
        handleJoin profile data iteration maxLevel newId client =
          some (client.sendJoinError .reachedCapacity)) ∨
      ((latestLoaded client.history).isSome = true ∧ client.requested join = none ∧
        handleJoin profile data iteration maxLevel newId client = none) ∨
      ∃ character, client.requested join = some character ∧
        ((¬ character.Playable data ∧ ∃ error, handleJoin profile data iteration maxLevel newId client =
            some (client.sendJoinError error)) ∨
          (character.Playable data ∧ handleJoin profile data iteration maxLevel newId client =
            joinWorld profile data iteration maxLevel newId playing.user character client)) := by
  rw [handleJoin, hrequest]
  dsimp only
  rw [hlist, LoginClient.requested]
  cases latestLoaded client.history with
  | none => exact Or.inl ⟨rfl, rfl, rfl⟩
  | some characters =>
      refine Or.inr ?_
      rw [Option.bind_some]
      dsimp only
      cases characters.find? (·.charname == join.characterName) with
      | none => exact Or.inl ⟨rfl, rfl, rfl⟩
      | some character =>
          refine Or.inr ⟨character, rfl, ?_⟩
          rw [Option.bind_eq_bind, Option.bind_some, DbCharacter.Playable]
          cases data.findCharacter character.characterType.toUInt32 with
          | none => exact Or.inl ⟨by simp, _, rfl⟩
          | some characterData =>
              cases character.deletionEnd with
              | some deletionEnd => exact Or.inl ⟨by simp, _, rfl⟩
              | none => exact Or.inr ⟨⟨rfl, rfl⟩, rfl⟩

variable {profile data iteration maxLevel}

section Request

variable {newId : Option UInt32} {client : LoginClient} {join : CharacterJoinRequest}
  {charselect : CharacterSelect} {playing : Playing}

theorem joinIsSafe_request_iff (hrequest : client.joinRequest = some (join, charselect, playing)) :
    JoinIsSafe profile data iteration maxLevel newId client ↔
      ∃ client', handleJoin profile data iteration maxLevel newId client = some client' ∧
        JoinOutcome data join playing client client' := by
  constructor
  · intro h
    obtain ⟨client', hclient'⟩ := Option.isSome_iff_exists.1 h.returns
    exact ⟨client', hclient', h.outcome join charselect playing client' hrequest hclient'⟩
  · rintro ⟨client', hclient', houtcome⟩
    refine ⟨Option.isSome_of_eq_some hclient',
      fun join' charselect' playing' client'' hrequest' hclient'' => ?_⟩
    rw [hrequest] at hrequest'
    rw [hclient'] at hclient''
    cases hrequest'
    cases hclient''
    exact houtcome

theorem asksForOwnCharacter_request_iff (hrequest : client.joinRequest = some (join, charselect, playing)) :
    AsksForOwnCharacter profile data newId client ↔
      ((latestLoaded client.history).isSome = true →
        ∃ character, client.requested join = some character ∧
          (character.Playable data → CanSpawn profile data character ∧ newId.isSome = true)) := by
  constructor
  · exact fun h => h join charselect playing hrequest
  · intro h join' charselect' playing' hrequest'
    rw [hrequest] at hrequest'
    cases hrequest'
    exact h

end Request

/-- A client that does not ask is left alone. -/
theorem joinIsSafe_of_none {newId : Option UInt32} {client : LoginClient} (h : client.joinRequest = none) :
    JoinIsSafe profile data iteration maxLevel newId client := by
  refine ⟨by simp [handleJoin, h], fun join charselect playing client' hrequest => ?_⟩
  rw [h] at hrequest
  cases hrequest

theorem asksForOwnCharacter_of_none {newId : Option UInt32} {client : LoginClient}
    (h : client.joinRequest = none) : AsksForOwnCharacter profile data newId client := by
  intro join charselect playing hrequest
  rw [h] at hrequest
  cases hrequest

/-- **Joining is safe for a client exactly when the character that it asks for is in its list, and can be
turned into a player if it is eligible.** -/
theorem joinIsSafe_iff {newId : Option UInt32} {client : LoginClient}
    (hlist : ∀ charselect, client.characterSelect = some charselect →
      charselect.characters = latestLoaded client.history) :
    JoinIsSafe profile data iteration maxLevel newId client ↔
      AsksForOwnCharacter profile data newId client := by
  cases hrequest : client.joinRequest with
  | none => exact iff_of_true (joinIsSafe_of_none hrequest) (asksForOwnCharacter_of_none hrequest)
  | some request =>
      obtain ⟨join, charselect, playing⟩ := request
      rw [joinIsSafe_request_iff hrequest, asksForOwnCharacter_request_iff hrequest]
      rcases handleJoin_cases profile data iteration maxLevel newId hrequest
        (hlist charselect (characterSelect_of_joinRequest hrequest)) with
        ⟨hloaded, hrequested, hjoin⟩ | ⟨hloaded, hrequested, hjoin⟩ |
          ⟨character, hrequested, ⟨hplayable, error, hjoin⟩ | ⟨hplayable, hjoin⟩⟩
      · -- there is no list
        refine iff_of_true ⟨_, hjoin, fun character hcharacter => ?_, fun _ => ⟨_, rfl⟩⟩ (by simp [hloaded])
        rw [hrequested] at hcharacter
        cases hcharacter
      · -- there is no character of this name
        exact iff_of_false (by simp [hjoin]) (by simp [hloaded, hrequested])
      · -- the character may not be played
        refine iff_of_true ⟨_, hjoin, fun character' hcharacter' hplayable' => ?_, fun _ => ⟨_, rfl⟩⟩
          fun _ => ⟨character, hrequested, fun hplayable' => absurd hplayable' hplayable⟩
        rw [hrequested] at hcharacter'
        cases hcharacter'
        exact absurd hplayable' hplayable
      · -- the character is turned into a player
        have hloaded : (latestLoaded client.history).isSome = true := by
          obtain ⟨characters, hcharacters, -⟩ := Option.bind_eq_some_iff.1 hrequested
          exact Option.isSome_of_eq_some hcharacters
        rw [hjoin]
        constructor
        · rintro ⟨client', hclient', -⟩ -
          exact ⟨character, hrequested, fun _ => (joinWorld_eq_some hclient').1⟩
        · intro hasks
          obtain ⟨character', hcharacter', hspawn⟩ := hasks hloaded
          rw [hrequested] at hcharacter'
          cases hcharacter'
          obtain ⟨client', hclient'⟩ := Option.isSome_iff_exists.1
            ((joinWorld_isSome_iff profile data iteration maxLevel newId playing.user character client).2
              (hspawn hplayable))
          obtain ⟨-, bundle, sent, huser, hname, rfl⟩ := joinWorld_eq_some hclient'
          refine ⟨_, hclient', fun character' hcharacter' _ => ?_, fun hnot => ?_⟩
          · rw [hrequested] at hcharacter'
            cases hcharacter'
            exact ⟨bundle, huser, hname, rfl⟩
          · exact absurd ⟨character, hrequested, hplayable⟩ hnot

end Join

end Skrillax

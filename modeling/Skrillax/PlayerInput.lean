/-
**Inventory requests and ticks.**

In a tick the packets of a client are received, the inventory request among them is handled, and the input
is reset.  The input has room for one inventory request, so that a request which arrives in the same tick
as a later one is lost: a tick does what its last request does.

Main definitions:

* `InventoryOperationRequest`, `PlayerInput` — the requests, and the input of a player;
* `handlePlayerDropGold`, `handleInventoryInput` — handling a request;
* `tick` — a tick, as seen by one client.

Main results:

* `runAll_tick` — a tick does what its last request does;
* `ticks_do_not_matter_iff` — **the ticks do not matter exactly when none has two requests**.
-/

import Skrillax.InventoryMovement
import Skrillax.MakeItem

set_option relaxedAutoImplicit false
set_option autoImplicit false

namespace Skrillax

open Rust PartialAction

/-! ### Requests -/

inductive InventoryOperationRequest where
  | move (source target : Slot) (amount : UInt16)
  | dropGold (amount : UInt64)
  | pickupItem (uniqueId : UInt32)
  | dropItem (slot : Slot)
  deriving DecidableEq, Repr

/-- What the server sends in reply to a request. -/
inductive InventoryReply where
  | movement (message : MovementMessage)
  | notEnoughGold
  | droppedGold (amount : UInt64)
  deriving DecidableEq, Repr

/-- What handling a request reads and writes of a player. -/
structure Owner where
  entity : UInt32
  level : UInt8
  race : Race
  inventory : Inventory
  gold : UInt64

/-- A request that has been handled: the player, the items that drop, and the replies. -/
structure Handled where
  owner : Owner
  drops : List Item
  replies : List InventoryReply

/-! ### Handling a request -/

def SMALL_GOLD_SIZE_MAX : UInt32 := 1000

def MEDIUM_GOLD_SIZE_MAX : UInt32 := 5000

/-- The reference of a heap of gold; `none` is a panic. -/
def getGoldRefId (data : DataMap) (amount : UInt32) : Option RefItemData :=
  if amount < SMALL_GOLD_SIZE_MAX then data.findId 1
  else if amount < MEDIUM_GOLD_SIZE_MAX then data.findId 2
  else data.findId 3

/-- `GoldPouch::spend`. -/
def spend (gold amount : UInt64) : UInt64 := if amount ≤ gold then gold - amount else 0

def handlePlayerDropGold (data : DataMap) (amount : UInt64) (owner : Owner) : Option Handled :=
  if owner.gold < amount then some ⟨owner, [], [.notEnoughGold]⟩
  else if amount = 0 then some ⟨owner, [], []⟩
  else do
    let itemRef ← getGoldRefId data amount.toUInt32
    return ⟨{ owner with gold := spend owner.gold amount },
      [{ reference := itemRef, variance := none, typeData := .gold amount.toUInt32 }],
      [.droppedGold amount]⟩

/-- The request is matched on; picking up and dropping an item do nothing here. -/
def handleRequest (p : Profile) (data : DataMap) (owner : Owner) :
    InventoryOperationRequest → Option Handled
  | .dropGold amount => handlePlayerDropGold data amount owner
  | .pickupItem _ => some ⟨owner, [], []⟩
  | .move source target amount => do
      let (inventory, messages) ← handleInventoryMovement p owner.race owner.entity owner.level
        owner.inventory source target amount
      return ⟨{ owner with inventory }, [], messages.map .movement⟩
  | .dropItem _ => some ⟨owner, [], []⟩

/-! ### Ticks -/

/-- The input of a player; the other kinds of packets have fields of their own. -/
structure PlayerInput where
  inventory : Option InventoryOperationRequest

/-- `PlayerInput::reset` takes the input and leaves the default. -/
def PlayerInput.reset (_input : PlayerInput) : PlayerInput := { inventory := none }

/-- The loop of `receive_game_inputs` over the packets that have arrived. -/
def receiveGameInputs (packets : List InventoryOperationRequest) (input : PlayerInput) : PlayerInput :=
  packets.foldl (fun input packet => { input with inventory := some packet }) input

def handleInventoryInput (p : Profile) (data : DataMap) (owner : Owner) (input : PlayerInput) :
    Option Handled :=
  match input.inventory with
  | some action => handleRequest p data owner action
  | none => some ⟨owner, [], []⟩

/-- A tick: the packets are received, the request is handled, the input is reset. -/
def tick (p : Profile) (data : DataMap) (packets : List InventoryOperationRequest)
    (s : Owner × PlayerInput) : Option (Owner × PlayerInput) := do
  let input := receiveGameInputs packets s.2
  let handled ← handleInventoryInput p data s.1 input
  return (handled.owner, input.reset)

/-- The inventory and the gold after the ticks. -/
def reachedHoldings (p : Profile) (data : DataMap) (ticks : List (List InventoryOperationRequest))
    (owner : Owner) : Option (Inventory × UInt64) :=
  (runAll (tick p data) ticks (owner, { inventory := none })).map fun s => (s.1.inventory, s.1.gold)

/-! ### A tick does what its last request does -/

/-- A single request, as a step of its player. -/
def requestStep (p : Profile) (data : DataMap) (request : InventoryOperationRequest)
    (owner : Owner) : Option Owner :=
  (handleRequest p data owner request).map Handled.owner

theorem receiveGameInputs_eq (packets : List InventoryOperationRequest) :
    receiveGameInputs packets { inventory := none } = { inventory := packets.getLast? } := by
  induction packets using List.reverseRecOn with
  | nil => rfl
  | append_singleton packets packet _ => simp [receiveGameInputs]

variable {p : Profile} {data : DataMap}

theorem tick_eq (packets : List InventoryOperationRequest) (owner : Owner) :
    tick p data packets (owner, { inventory := none }) =
      (runAll (requestStep p data) packets.getLast?.toList owner).map
        fun owner => (owner, { inventory := none }) := by
  simp only [tick, receiveGameInputs_eq, handleInventoryInput]
  cases packets.getLast? with
  | none => rfl
  | some request =>
      rw [Option.toList_some, runAll_singleton, requestStep, Option.map_map]
      dsimp only
      cases handleRequest p data owner request with
      | none => rfl
      | some handled => rfl

/-- A tick does what its last request does. -/
theorem runAll_tick (ticks : List (List InventoryOperationRequest)) (owner : Owner) :
    runAll (tick p data) ticks (owner, { inventory := none }) =
      (runAll (requestStep p data) (ticks.flatMap fun packets => packets.getLast?.toList) owner).map
        fun owner => (owner, { inventory := none }) := by
  induction ticks generalizing owner with
  | nil => rfl
  | cons packets ticks ih =>
      rw [runAll_cons, tick_eq, List.flatMap_cons, runAll_append]
      cases runAll (requestStep p data) packets.getLast?.toList owner with
      | none => rfl
      | some next => exact ih next

/-! ### Splitting the requests into ticks -/

/-- The same requests, with one tick for each. -/
def onePerTick (requests : List InventoryOperationRequest) : List (List InventoryOperationRequest) :=
  requests.map fun request => [request]

theorem flatMap_onePerTick (requests : List InventoryOperationRequest) :
    (onePerTick requests).flatMap (fun packets => packets.getLast?.toList) = requests := by
  rw [onePerTick, List.flatMap_map]
  exact List.flatMap_singleton' requests

theorem flatMap_of_small {ticks : List (List InventoryOperationRequest)}
    (h : ∀ packets ∈ ticks, packets.length ≤ 1) :
    ticks.flatMap (fun packets => packets.getLast?.toList) = ticks.flatten := by
  rw [← List.flatMap_id']
  refine List.flatMap_congr fun packets hpackets => ?_
  have hsmall := h packets hpackets
  rcases packets with _ | ⟨request, _ | ⟨next, rest⟩⟩
  · rfl
  · rfl
  · simp at hsmall

theorem reachedHoldings_eq (ticks : List (List InventoryOperationRequest)) (owner : Owner) :
    reachedHoldings p data ticks owner =
      (runAll (requestStep p data) (ticks.flatMap fun packets => packets.getLast?.toList) owner).map
        fun owner => (owner.inventory, owner.gold) := by
  rw [reachedHoldings, runAll_tick, Option.map_map]
  rfl

/-- A request that does nothing. -/
def idle : InventoryOperationRequest := .pickupItem 0

theorem runAll_idle {requests : List InventoryOperationRequest} (h : ∀ r ∈ requests, r = idle)
    (owner : Owner) : runAll (requestStep p data) requests owner = some owner := by
  induction requests with
  | nil => rfl
  | cons request requests ih =>
      rw [runAll_cons, h request List.mem_cons_self]
      exact ih fun r hr => h r (List.mem_cons_of_mem _ hr)

/-- A player with potions in the first slot of the bag. -/
def potionOwner : Owner where
  entity := 0
  level := 1
  race := .chinese
  inventory := potionCarrier.inventory
  gold := 0

theorem requestStep_move_potions (p : Profile) (data : DataMap) :
    ∃ owner, requestStep p data (.move 13 14 5) potionOwner = some owner ∧
      owner.inventory.items 14 = some (potion 5) := by
  cases p with
  | debug => exact ⟨_, rfl, by decide⟩
  | release => exact ⟨_, rfl, by decide⟩

/-- Ticks in which nothing happens. -/
def idleTicks (sizes : List ℕ) : List (List InventoryOperationRequest) :=
  sizes.map fun n => List.replicate n idle

theorem eq_idle_of_mem_idleTicks {sizes : List ℕ} {packets : List InventoryOperationRequest}
    (hpackets : packets ∈ idleTicks sizes) : ∀ r ∈ packets, r = idle := by
  obtain ⟨n, -, rfl⟩ := List.mem_map.1 hpackets
  exact fun r hr => List.eq_of_mem_replicate hr

theorem length_idleTicks (sizes : List ℕ) : (idleTicks sizes).map List.length = sizes := by
  simp [idleTicks, Function.comp_def]

/-- The requests that are handled in ticks in which nothing happens, however they are selected. -/
theorem eq_idle_of_mem_flatMap {sizes : List ℕ}
    {select : List InventoryOperationRequest → List InventoryOperationRequest}
    (hselect : ∀ packets, select packets ⊆ packets) :
    ∀ r ∈ (idleTicks sizes).flatMap select, r = idle := by
  intro r hr
  obtain ⟨packets, hpackets, hr⟩ := List.mem_flatMap.1 hr
  exact eq_idle_of_mem_idleTicks hpackets r (hselect packets hr)

theorem getLast?_subset (packets : List InventoryOperationRequest) :
    packets.getLast?.toList ⊆ packets := by
  intro r hr
  exact List.mem_of_getLast? (Option.mem_toList.1 hr)

variable (p data) in
/-- In a tick with two requests the first one is lost. -/
theorem lost_request {before after : List ℕ} {n : ℕ} (hn : 2 ≤ n) :
    ∃ ticks : List (List InventoryOperationRequest), ticks.map List.length = before ++ n :: after ∧
      reachedHoldings p data ticks potionOwner ≠
        reachedHoldings p data (onePerTick ticks.flatten) potionOwner := by
  let crowded : List InventoryOperationRequest := .move 13 14 5 :: List.replicate (n - 1) idle
  have hcrowded : crowded.getLast? = some idle := by
    obtain ⟨m, rfl⟩ : ∃ m, n = m + 2 := ⟨n - 2, by omega⟩
    simp [crowded, List.replicate_succ', List.getLast?_cons]
  obtain ⟨owner, hmove, howner⟩ := requestStep_move_potions p data
  refine ⟨idleTicks before ++ crowded :: idleTicks after, ?_, fun hsame => ?_⟩
  · rw [List.map_append, List.map_cons, length_idleTicks, length_idleTicks]
    simp [crowded]
    omega
  · have hlost : runAll (requestStep p data) ((idleTicks before ++ crowded :: idleTicks after).flatMap
        fun packets => packets.getLast?.toList) potionOwner = some potionOwner := by
      refine runAll_idle (fun r hr => ?_) potionOwner
      rw [List.flatMap_append, List.flatMap_cons, hcrowded, Option.toList_some] at hr
      rcases List.mem_append.1 hr with hr | hr
      · exact eq_idle_of_mem_flatMap getLast?_subset r hr
      · rcases List.mem_cons.1 hr with hr | hr
        · exact hr
        · exact eq_idle_of_mem_flatMap getLast?_subset r hr
    have hkept : runAll (requestStep p data) (idleTicks before ++ crowded :: idleTicks after).flatten
        potionOwner = some owner := by
      rw [List.flatten_append, List.flatten_cons, runAll_append, ← List.flatMap_id',
        runAll_idle (eq_idle_of_mem_flatMap List.Subset.refl), Option.bind_some]
      show (requestStep p data (.move 13 14 5) potionOwner).bind _ = _
      rw [hmove, Option.bind_some, ← List.flatMap_id']
      refine runAll_idle (fun r hr => ?_) owner
      rcases List.mem_append.1 hr with hr | hr
      · exact List.eq_of_mem_replicate hr
      · exact eq_idle_of_mem_flatMap List.Subset.refl r hr
    rw [reachedHoldings_eq, reachedHoldings_eq, flatMap_onePerTick, hlost, hkept] at hsame
    have hinventory : potionOwner.inventory = owner.inventory :=
      (Prod.mk.inj (Option.some_inj.1 hsame)).1
    rw [← hinventory] at howner
    exact absurd howner (by decide)

/-- **The ticks do not matter exactly when none has two requests.** -/
theorem ticks_do_not_matter_iff (p : Profile) (data : DataMap) (sizes : List ℕ) :
    (∀ (owner : Owner) (ticks : List (List InventoryOperationRequest)), ticks.map List.length = sizes →
      reachedHoldings p data ticks owner = reachedHoldings p data (onePerTick ticks.flatten) owner) ↔
      ∀ n ∈ sizes, n ≤ 1 := by
  constructor
  · intro h n hn
    by_contra hlarge
    obtain ⟨before, after, rfl⟩ := List.append_of_mem hn
    obtain ⟨ticks, hticks, hne⟩ := lost_request p data (show 2 ≤ n by omega)
    exact hne (h potionOwner ticks hticks)
  · rintro hsmall owner ticks rfl
    rw [reachedHoldings_eq, reachedHoldings_eq, flatMap_onePerTick, flatMap_of_small]
    intro packets hpackets
    exact hsmall _ (List.mem_map_of_mem hpackets)

/-- The item data of the smallest heap of gold. -/
def goldData : DataMap := ⟨[⟨⟨1, ⟨3, 3, 5, 0⟩⟩, 1, none⟩]⟩

/-- Gold is dropped twice in one tick: only one of the requests is handled. -/
theorem two_drops_in_one_tick :
    (reachedHoldings .debug goldData [[.dropGold 1, .dropGold 1]] { potionOwner with gold := 10 }).map
        Prod.snd ≠
      (reachedHoldings .debug goldData (onePerTick [.dropGold 1, .dropGold 1])
        { potionOwner with gold := 10 }).map Prod.snd := by
  decide

end Skrillax

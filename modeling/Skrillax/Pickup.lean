/-
**Picking up what lies on the ground.**

In every tick the pickup system looks at each player that reaches for something.  If the target is a
drop, the removal of the drop is queued, a cooldown is started, and the gold or the item is given to
the player; whether the bag takes it is only found out after that.  The queued commands are applied at
the end of the tick, so all the players of a tick see the same drops.

This duplicates and loses things: two players that reach for a drop in the same tick both get it, and
a drop that no bag takes is removed all the same.  If in every tick each drop that is reached for is
taken whole by exactly one of the players that reach for it, and the others take nothing of it
(`World.Fair`), then over whole runs every drop is either on the ground or credited to exactly one
player, and the quantity of every item and the amount of gold in the world stay the same
(`reached_conserved`).

Main definitions:

* `Player`, `World`, `pickupPlayer`, `pickupTick` — the code; the timers of the engine are a parameter
  (`Cooldown`);
* `WorldStep` — what can happen to a world;
* `World.itemTotal`, `World.goldTotal` — the quantities in the bags, the pouches and on the ground;
* `World.Fair`, `Conserved` — a tick that goes well, and what holds then.

Main results:

* `pickupPlayer_spec` — what the system does for one player;
* `pickupTick_conserves` — in a fair tick everything that can be counted is conserved;
* `reached_conserved` — **picking things up neither duplicates nor loses them, in fair ticks**.
-/

import Skrillax.InventoryQuantity

set_option relaxedAutoImplicit false
set_option autoImplicit false

namespace Skrillax

open Rust

/-! ### Players and drops -/

/-- The id of an entity of the engine. -/
abbrev Entity := UInt64

/-- The timers of the engine: a timer of one second, and how a timer advances by a duration, with
whether it has just finished. -/
structure Cooldown (τ : Type) where
  oneSecond : τ
  tick : ℕ → τ → τ × Bool

/-- A player in the state of picking something up. -/
structure Pickup (τ : Type) where
  target : Entity
  cooldown : Option τ

structure Player (τ : Type) where
  entity : Entity
  pickup : Option (Pickup τ)
  inventory : Inventory
  gold : UInt64

/-- The answers to a query for the drop of an entity. -/
inductive DropQuery where
  | found (item : Item)
  | noSuchEntity
  | doesNotMatch

/-- The messages to the client; what is the same in every message is left out. -/
inductive PickupMessage where
  | stopCompleted
  | stopInvalidTarget
  | doSuccess
  | gainEquipment (slot : Slot) (refId : UInt32) (plusLevel : UInt8) (variance : UInt64)
  | gainExpendable (slot : Slot) (refId : UInt32) (stackSize : UInt16)
  | inventoryFull
  deriving DecidableEq, Repr

/-- The commands that are applied at the end of the tick. -/
inductive Command where
  | despawn (entity : Entity)
  | removePickup (entity : Entity)
  | insertIdle (entity : Entity)
  deriving DecidableEq, Repr

/-- What the system does for one player; `credited` records the drop that the player was given. -/
structure PickupResult (τ : Type) where
  player : Player τ
  commands : List Command
  messages : List PickupMessage
  credited : Option Entity

/-- `GoldPouch::gain`. -/
def gain (gold amount : UInt64) : UInt64 := saturatingAddU64 gold amount

/-- The body of the loop of `pickup`; `none` is a panic of the addition to the bag. -/
def pickupPlayer {τ : Type} (timer : Cooldown τ) (p : Profile) (delta : ℕ)
    (query : Entity → DropQuery) (order : List Slot) (player : Player τ) :
    Option (PickupResult τ) :=
  match player.pickup with
  | none => some ⟨player, [], [], none⟩
  | some ⟨target, some cooldown⟩ =>
      let (cooldown, justFinished) := timer.tick delta cooldown
      let player := { player with pickup := some ⟨target, some cooldown⟩ }
      if justFinished then
        some ⟨player, [.removePickup player.entity, .insertIdle player.entity], [.stopCompleted], none⟩
      else some ⟨player, [], [], none⟩
  | some ⟨target, none⟩ =>
      match query target with
      | .noSuchEntity =>
          some ⟨player, [.removePickup player.entity], [.stopInvalidTarget], none⟩
      | .doesNotMatch => some ⟨player, [.removePickup player.entity], [], none⟩
      | .found item =>
          -- the drop is as good as gone, before anybody knows who takes it
          let commands := [.despawn target]
          let player := { player with pickup := some ⟨target, some timer.oneSecond⟩ }
          match item.typeData with
          | .gold amount =>
              some ⟨{ player with gold := gain player.gold amount.toUInt64 }, commands, [.doSuccess],
                some target⟩
          | .equipment upgradeLevel =>
              (player.inventory.addItem p order item).map fun added =>
                let messages := match added.2 with
                  | some slot => [.gainEquipment slot item.reference.refId upgradeLevel
                      (item.variance.getD 0)]
                  | none => []
                ⟨{ player with inventory := added.1 }, commands, messages, added.2.map fun _ => target⟩
          | _ =>
              (player.inventory.addItem p order item).map fun added =>
                let messages := match added.2 with
                  | some slot => [.gainExpendable slot item.reference.refId item.stackSize]
                  | none => [.inventoryFull]
                ⟨{ player with inventory := added.1 }, commands, messages ++ [.stopCompleted],
                  added.2.map fun _ => target⟩

/-- The loop over the players, in the order in which the query visits them. -/
def pickupAll {τ : Type} (timer : Cooldown τ) (p : Profile) (delta : ℕ) (query : Entity → DropQuery)
    (orders : Entity → List Slot) : List (Player τ) → Option (List (PickupResult τ))
  | [] => some []
  | player :: players => do
      let result ← pickupPlayer timer p delta query (orders player.entity) player
      let results ← pickupAll timer p delta query orders players
      return result :: results

/-! ### Worlds -/

/-- The players, the drops, and which other entities there are; `credits` records which drop was given
to which player. -/
structure World (τ : Type) where
  players : List (Player τ)
  drops : List (Entity × Item)
  others : Entity → Bool
  credits : List (Entity × Entity)
  distinct : (drops.map Prod.fst).Nodup

namespace World

variable {τ : Type}

/-- `Query::get` for drops. -/
def query (w : World τ) (target : Entity) : DropQuery :=
  match w.drops.find? fun drop => target == drop.1 with
  | some drop => .found drop.2
  | none => if w.others target then .doesNotMatch else .noSuchEntity

def applyCommand (w : World τ) : Command → World τ
  | .despawn entity =>
      { w with
        drops := w.drops.filter fun drop => drop.1 ≠ entity
        distinct := (List.filter_sublist.map _).nodup w.distinct }
  | .removePickup entity =>
      { w with players := w.players.map fun player =>
          if player.entity = entity then { player with pickup := none } else player }
  -- the idle state is not looked at here
  | .insertIdle _ => w

/-- A player decides to pick something up. -/
def assign (w : World τ) (entity target : Entity) : World τ :=
  { w with players := w.players.map fun player =>
      if player.entity = entity then { player with pickup := some ⟨target, none⟩ } else player }

end World

/-- A tick of the system, with its commands applied at the end. -/
def pickupTick {τ : Type} (timer : Cooldown τ) (p : Profile) (delta : ℕ)
    (orders : Entity → List Slot) (w : World τ) : Option (World τ) :=
  (pickupAll timer p delta w.query orders w.players).map fun results =>
    (results.flatMap PickupResult.commands).foldl World.applyCommand
      { w with
        players := results.map PickupResult.player
        credits := w.credits ++ results.filterMap fun result =>
          result.credited.map fun drop => (drop, result.player.entity) }

/-- What can happen to a world. -/
inductive WorldOp where
  | assign (entity target : Entity)
  | visitInOtherOrder
  | tick (delta : ℕ) (orders : Entity → List Slot)

inductive WorldStep {τ : Type} (timer : Cooldown τ) (p : Profile) :
    WorldOp → World τ → World τ → Prop
  | assign (entity target : Entity) (w : World τ) :
      WorldStep timer p (.assign entity target) w (w.assign entity target)
  /-- Queries do not visit the players in any particular order. -/
  | visitInOtherOrder (w : World τ) (players : List (Player τ)) : players.Perm w.players →
      WorldStep timer p .visitInOtherOrder w { w with players }
  | tick (delta : ℕ) (orders : Entity → List Slot) (w w' : World τ) :
      pickupTick timer p delta orders w = some w' → WorldStep timer p (.tick delta orders) w w'

/-! ### Who takes what -/

/-- How much gold a drop is. -/
def goldQuantity (item : Item) : ℕ :=
  match item.typeData with
  | .gold amount => amount.toNat
  | _ => 0

namespace Player

variable {τ : Type}

/-- The player reaches for the drop in this tick. -/
def reaches (player : Player τ) (drop : Entity × Item) : Bool :=
  match player.pickup with
  | some ⟨target, none⟩ => target == drop.1
  | _ => false

/-- The player can be given the whole drop. -/
def takes (order : List Slot) (player : Player τ) (item : Item) : Bool :=
  match item.typeData with
  | .gold amount => decide (player.gold.toNat + amount.toNat < 2 ^ 64)
  | _ => player.inventory.takesWhole order item

/-- The player can be given nothing of the drop. -/
def takesNothing (order : List Slot) (player : Player τ) (item : Item) : Bool :=
  match item.typeData with
  | .gold _ => false
  | _ => player.inventory.takesNothing order item

end Player

namespace World

variable {τ : Type}

/-- Every drop that is reached for is taken whole by exactly one of the players that reach for it, and
the others take nothing of it. -/
def Fair (orders : Entity → List Slot) (w : World τ) : Prop :=
  ∀ drop ∈ w.drops, (∃ player ∈ w.players, player.reaches drop) →
    w.players.countP (fun player =>
      player.reaches drop && player.takes (orders player.entity) drop.2) = 1 ∧
    ∀ player ∈ w.players, player.reaches drop →
      player.takes (orders player.entity) drop.2 ∨
        player.takesNothing (orders player.entity) drop.2

/-- What a player takes of the drops, counted by `worth`. -/
def taken (w : World τ) (orders : Entity → List Slot) (worth : Entity × Item → ℕ)
    (player : Player τ) : ℕ :=
  Accounting.taken Player.reaches (fun pl drop => pl.takes (orders pl.entity) drop.2) worth w.drops
    player

theorem taken_of_none {w : World τ} {orders : Entity → List Slot} {player : Player τ}
    (h : w.drops.find? player.reaches = none) (worth : Entity × Item → ℕ) :
    w.taken orders worth player = 0 := by
  simp [taken, Accounting.taken, h]

theorem taken_of_some {w : World τ} {orders : Entity → List Slot} {player : Player τ}
    {drop : Entity × Item} (h : w.drops.find? player.reaches = some drop)
    (worth : Entity × Item → ℕ) :
    w.taken orders worth player =
      if player.takes (orders player.entity) drop.2 then worth drop else 0 := by
  simp [taken, Accounting.taken, h]

end World

/-- The result for a player accounts for what the player takes, and the commands remove what the player
reaches for. -/
structure Accounted {τ : Type} (w : World τ) (orders : Entity → List Slot) (player : Player τ)
    (result : PickupResult τ) : Prop where
  items : ∀ refId, result.player.inventory.bagQuantity refId =
    player.inventory.bagQuantity refId + w.taken orders (fun drop => itemQuantity refId drop.2) player
  gold : result.player.gold.toNat =
    player.gold.toNat + w.taken orders (fun drop => goldQuantity drop.2) player
  credited : ∀ drop, (if result.credited = some drop then 1 else 0) =
    w.taken orders (fun d => if d.1 = drop then 1 else 0) player
  despawns : ∀ drop ∈ w.drops, .despawn drop.1 ∈ result.commands ↔ player.reaches drop

section Tick

variable {τ : Type} {timer : Cooldown τ} {p : Profile} {delta : ℕ} {orders : Entity → List Slot}
  {w w' : World τ}

/-- A player for whom nothing happens. -/
theorem accounted_of_none {player : Player τ} {result : PickupResult τ}
    (hnone : w.drops.find? player.reaches = none)
    (hinv : result.player.inventory = player.inventory) (hgold : result.player.gold = player.gold)
    (hcredited : result.credited = none)
    (hdespawn : ∀ drop, .despawn drop ∉ result.commands) : Accounted w orders player result where
  items refId := by rw [hinv, World.taken_of_none hnone, Nat.add_zero]
  gold := by rw [hgold, World.taken_of_none hnone, Nat.add_zero]
  credited drop := by
    rw [hcredited, World.taken_of_none hnone]
    simp
  despawns drop hdrop := by
    have hreach := List.find?_eq_none.1 hnone drop hdrop
    exact iff_of_false (hdespawn drop.1) hreach

/-- What is no gold goes to the bag. -/
theorem takes_of_not_gold {item : Item} (h : ∀ amount, item.typeData ≠ .gold amount)
    (order : List Slot) (player : Player τ) :
    goldQuantity item = 0 ∧ player.takes order item = player.inventory.takesWhole order item ∧
      player.takesNothing order item = player.inventory.takesNothing order item := by
  cases hdata : item.typeData with
  | gold amount => exact absurd hdata (h amount)
  | equipment | cos | consumable =>
      simp only [goldQuantity, Player.takes, Player.takesNothing, hdata]
      exact ⟨trivial, trivial, trivial⟩

/-- A player who is given a drop that is no gold. -/
theorem accounted_of_added {player : Player τ} {result : PickupResult τ} {drop : Entity × Item}
    {inv' : Inventory} {slot : Option Slot}
    (hsome : w.drops.find? player.reaches = some drop)
    (hkind : ∀ amount, drop.2.typeData ≠ .gold amount)
    (hfair : player.takes (orders player.entity) drop.2 ∨
      player.takesNothing (orders player.entity) drop.2)
    (hadd : player.inventory.addItem p (orders player.entity) drop.2 = some (inv', slot))
    (hinv : result.player.inventory = inv') (hgold : result.player.gold = player.gold)
    (hcredited : result.credited = slot.map fun _ => drop.1)
    (hdespawn : ∀ d ∈ w.drops, .despawn d.1 ∈ result.commands ↔ player.reaches d) :
    Accounted w orders player result := by
  obtain ⟨hzero, htakes, hnothing⟩ := takes_of_not_gold hkind (orders player.entity) player
  by_cases hwhole : player.takes (orders player.entity) drop.2 = true
  · obtain ⟨hslot, hquantity⟩ := Inventory.takesWhole_spec (htakes ▸ hwhole) hadd
    obtain ⟨n, rfl⟩ := Option.isSome_iff_exists.1 hslot
    refine ⟨fun refId => ?_, ?_, fun d => ?_, hdespawn⟩
    · rw [hinv, hquantity refId, World.taken_of_some hsome, if_pos hwhole]
    · rw [hgold, World.taken_of_some hsome, if_pos hwhole, hzero, Nat.add_zero]
    · rw [hcredited, World.taken_of_some hsome, if_pos hwhole]
      simp
  · have hno := hfair.resolve_left hwhole
    obtain ⟨rfl, rfl⟩ := Inventory.takesNothing_spec (hnothing ▸ hno) hadd
    refine ⟨fun refId => ?_, ?_, fun d => ?_, hdespawn⟩
    · rw [hinv, World.taken_of_some hsome, if_neg hwhole, Nat.add_zero]
    · rw [hgold, World.taken_of_some hsome, if_neg hwhole, Nat.add_zero]
    · rw [hcredited, World.taken_of_some hsome, if_neg hwhole]
      simp

/-- A player who is given a drop of gold. -/
theorem accounted_of_gold {player : Player τ} {result : PickupResult τ} {drop : Entity × Item}
    {amount : UInt32} (hsome : w.drops.find? player.reaches = some drop)
    (hdata : drop.2.typeData = .gold amount)
    (hfair : player.takes (orders player.entity) drop.2 ∨
      player.takesNothing (orders player.entity) drop.2)
    (hinv : result.player.inventory = player.inventory)
    (hgold : result.player.gold = gain player.gold amount.toUInt64)
    (hcredited : result.credited = some drop.1)
    (hdespawn : ∀ d ∈ w.drops, .despawn d.1 ∈ result.commands ↔ player.reaches d) :
    Accounted w orders player result := by
  have htakes : player.takes (orders player.entity) drop.2 = true := by
    simpa [Player.takesNothing, hdata] using hfair
  have hroom : player.gold.toNat + amount.toNat < 2 ^ 64 := by
    simpa [Player.takes, hdata] using htakes
  refine ⟨fun refId => ?_, ?_, fun d => ?_, hdespawn⟩
  · have hzero : itemQuantity refId drop.2 = 0 := by simp [itemQuantity, hdata]
    rw [hinv, World.taken_of_some hsome, if_pos htakes, hzero, Nat.add_zero]
  · rw [hgold, World.taken_of_some hsome, if_pos htakes, gain,
      toNat_saturatingAddU64 (by simpa using hroom)]
    simp [goldQuantity, hdata]
  · rw [hcredited, World.taken_of_some hsome, if_pos htakes]
    simp

/-- A player who reaches for a target sees the drop that the query finds. -/
theorem reaches_eq {player : Player τ} {target : Entity}
    (h : player.pickup = some ⟨target, none⟩) :
    player.reaches = fun drop => target == drop.1 := by
  funext drop
  simp [Player.reaches, h]

/-- A player who reaches for nothing in this tick finds no drop. -/
theorem find_reaches_none {player : Player τ} (h : ∀ drop, player.reaches drop = false) :
    w.drops.find? player.reaches = none :=
  List.find?_eq_none.2 fun drop _ => by simp [h drop]

/-- **What the system does for one player**: it accounts for what the player takes, if the player can
take all or nothing of the drop. -/
theorem pickupPlayer_spec {player : Player τ} {result : PickupResult τ}
    (hfair : ∀ drop ∈ w.drops, player.reaches drop →
      player.takes (orders player.entity) drop.2 ∨
        player.takesNothing (orders player.entity) drop.2)
    (h : pickupPlayer timer p delta w.query (orders player.entity) player = some result) :
    Accounted w orders player result := by
  unfold pickupPlayer at h
  split at h
  · -- not picking anything up
    rename_i hpickup
    obtain rfl := Option.some_inj.1 h
    exact accounted_of_none (find_reaches_none fun drop => by simp [Player.reaches, hpickup]) rfl rfl
      rfl (by simp)
  · -- on cooldown
    rename_i target cooldown hpickup
    have hnone : w.drops.find? player.reaches = none :=
      find_reaches_none fun drop => by simp [Player.reaches, hpickup]
    simp only at h
    split at h
    · obtain rfl := Option.some_inj.1 h
      exact accounted_of_none hnone rfl rfl rfl (by simp)
    · obtain rfl := Option.some_inj.1 h
      exact accounted_of_none hnone rfl rfl rfl (by simp)
  · rename_i target hpickup
    have hreaches := reaches_eq hpickup
    cases hfind : w.drops.find? fun drop => target == drop.1 with
    | none =>
        have hnone : w.drops.find? player.reaches = none := hreaches ▸ hfind
        simp only [World.query, hfind] at h
        split at h
        · obtain rfl := Option.some_inj.1 h
          exact accounted_of_none hnone rfl rfl rfl (by simp)
        · obtain rfl := Option.some_inj.1 h
          exact accounted_of_none hnone rfl rfl rfl (by simp)
        · rename_i heq
          split at heq <;> simp at heq
    | some drop =>
        have hsome : w.drops.find? player.reaches = some drop := hreaches ▸ hfind
        have hmem := List.mem_of_find?_eq_some hfind
        have htarget : target = drop.1 := by simpa using List.find?_some hfind
        have hreach : player.reaches drop = true := List.find?_some hsome
        have hdespawn : ∀ d ∈ w.drops, Command.despawn d.1 ∈ [Command.despawn target] ↔
            player.reaches d := by
          intro d _
          rw [hreaches, List.mem_singleton, Command.despawn.injEq, beq_iff_eq]
          exact eq_comm
        have hfair' := hfair drop hmem hreach
        simp only [World.query, hfind] at h
        split at h
        · -- gold
          rename_i amount hgold
          obtain rfl := Option.some_inj.1 h
          exact accounted_of_gold hsome hgold hfair' rfl rfl (congrArg some htarget) hdespawn
        · rename_i level hkind
          obtain ⟨⟨inv', slot⟩, hadd, rfl⟩ := Option.map_eq_some_iff.1 h
          exact accounted_of_added hsome (by simp [hkind]) hfair' hadd rfl rfl (by rw [htarget])
            hdespawn
        · rename_i hkind _
          obtain ⟨⟨inv', slot⟩, hadd, rfl⟩ := Option.map_eq_some_iff.1 h
          exact accounted_of_added hsome hkind hfair' hadd rfl rfl (by rw [htarget]) hdespawn

/-- The results are those of the players, one by one. -/
theorem pickupAll_forall₂ {query : Entity → DropQuery} :
    ∀ {players : List (Player τ)} {results : List (PickupResult τ)},
      pickupAll timer p delta query orders players = some results →
      List.Forall₂ (fun player result =>
        pickupPlayer timer p delta query (orders player.entity) player = some result) players
        results := by
  intro players
  induction players with
  | nil =>
      intro results h
      obtain rfl := Option.some_inj.1 h
      exact .nil
  | cons player players ih =>
      intro results h
      obtain ⟨result, hresult, h⟩ := Option.bind_eq_some_iff.1 h
      obtain ⟨results', hresults, h⟩ := Option.bind_eq_some_iff.1 h
      obtain rfl := Option.some_inj.1 h
      exact .cons hresult (ih hresults)

/-- In a fair tick, every result accounts for what its player takes. -/
theorem accounted_results {results : List (PickupResult τ)} (hfair : w.Fair orders)
    (h : pickupAll timer p delta w.query orders w.players = some results) :
    List.Forall₂ (Accounted w orders) w.players results := by
  have hall := pickupAll_forall₂ h
  have hmem : ∀ player ∈ w.players, ∀ drop ∈ w.drops, player.reaches drop →
      player.takes (orders player.entity) drop.2 ∨
        player.takesNothing (orders player.entity) drop.2 :=
    fun player hplayer drop hdrop hreach => (hfair drop hdrop ⟨player, hplayer, hreach⟩).2 player
      hplayer hreach
  clear h
  generalize w.players = players at hall hmem
  induction hall with
  | nil => exact .nil
  | @cons player result players results hresult _ ih =>
      exact .cons (pickupPlayer_spec (hmem player List.mem_cons_self) hresult)
        (ih fun q hq => hmem q (List.mem_cons_of_mem _ hq))

/-- Adding up over the players. -/
theorem sum_results {f : PickupResult τ → ℕ} {g k : Player τ → ℕ} {players : List (Player τ)}
    {results : List (PickupResult τ)}
    (h : List.Forall₂ (fun player result => f result = g player + k player) players results) :
    (results.map f).sum = (players.map g).sum + (players.map k).sum := by
  induction h with
  | nil => rfl
  | cons hhead _ ih =>
      simp only [List.map_cons, List.sum_cons, hhead, ih]
      omega

/-- In a fair tick, whatever is counted of the drops is what the players take and what nobody reaches
for. -/
theorem World.Fair.sum_taken (hfair : w.Fair orders) (worth : Entity × Item → ℕ) :
    (w.players.map (w.taken orders worth)).sum +
      ((w.drops.filter fun drop => !w.players.any fun player => player.reaches drop).map worth).sum =
      (w.drops.map worth).sum := by
  refine Accounting.sum_taken worth (List.Nodup.of_map _ w.distinct) ?_ fun drop hdrop hreach =>
    (hfair drop hdrop hreach).1
  intro player _ drop hdrop drop' hdrop' hreach hreach'
  refine List.inj_on_of_nodup_map w.distinct hdrop hdrop' ?_
  -- a player reaches for one entity at most
  unfold Player.reaches at hreach
  split at hreach
  · rename_i target hpickup
    rw [reaches_eq hpickup] at hreach'
    rw [← beq_iff_eq.1 hreach, ← beq_iff_eq.1 hreach']
  · simp at hreach

/-! ### The end of the tick -/

/-- What a player owns. -/
def Player.holdings (player : Player τ) : Inventory × UInt64 := (player.inventory, player.gold)

theorem applyCommand_holdings (cmd : Command) :
    (w.applyCommand cmd).players.map Player.holdings = w.players.map Player.holdings := by
  cases cmd with
  | despawn | insertIdle => rfl
  | removePickup entity =>
      simp only [World.applyCommand, List.map_map]
      refine List.map_congr_left fun player _ => ?_
      simp only [Function.comp_apply]
      split <;> rfl

theorem foldl_applyCommand (cmds : List Command) :
    ∀ w : World τ, (cmds.foldl World.applyCommand w).players.map Player.holdings =
        w.players.map Player.holdings ∧
      (cmds.foldl World.applyCommand w).credits = w.credits ∧
      (cmds.foldl World.applyCommand w).drops =
        w.drops.filter fun drop => decide (.despawn drop.1 ∉ cmds) := by
  induction cmds with
  | nil =>
      intro w
      simp
  | cons cmd cmds ih =>
      intro w
      obtain ⟨hheld, hcredits, hdrops⟩ := ih (w.applyCommand cmd)
      rw [List.foldl_cons]
      refine ⟨hheld.trans (applyCommand_holdings cmd), ?_, ?_⟩
      · rw [hcredits]
        cases cmd <;> rfl
      · rw [hdrops]
        cases cmd with
        | despawn entity =>
            simp only [World.applyCommand, List.filter_filter]
            refine List.filter_congr fun drop _ => ?_
            simp [Bool.and_comm]
        | removePickup entity => simp [World.applyCommand]
        | insertIdle entity => simp [World.applyCommand]

/-- In a fair tick, the drops that nobody reaches for are left. -/
theorem drops_left {results : List (PickupResult τ)}
    (h : List.Forall₂ (Accounted w orders) w.players results) :
    (w.drops.filter fun drop => decide (.despawn drop.1 ∉ results.flatMap PickupResult.commands)) =
      w.drops.filter fun drop => !w.players.any fun player => player.reaches drop := by
  refine List.filter_congr fun drop hdrop => ?_
  have hiff : Command.despawn drop.1 ∈ results.flatMap PickupResult.commands ↔
      (w.players.any fun player => player.reaches drop) = true := by
    generalize w.players = players at h
    induction h with
    | nil => simp
    | cons hhead _ ih =>
        rw [List.flatMap_cons, List.mem_append, ih, hhead.despawns drop hdrop, List.any_cons,
          Bool.or_eq_true]
  by_cases hany : (w.players.any fun player => player.reaches drop) = true
  · simp [hany, hiff.2 hany]
  · have hnot := hiff.not.2 hany
    simp only [hnot, not_false_eq_true, decide_true]
    simpa using hany

/-! ### Conservation -/

namespace World

/-- The quantity of a reference in all the bags and on the ground. -/
def itemTotal (refId : UInt32) (w : World τ) : ℕ :=
  (w.players.map fun player => player.inventory.bagQuantity refId).sum +
    (w.drops.map fun drop => itemQuantity refId drop.2).sum

/-- The gold in all the pouches and on the ground. -/
def goldTotal (w : World τ) : ℕ :=
  (w.players.map fun player => player.gold.toNat).sum +
    (w.drops.map fun drop => goldQuantity drop.2).sum

/-- How often a drop is on the ground or has been credited to somebody. -/
def dropTotal (drop : Entity) (w : World τ) : ℕ :=
  (w.credits.map fun credit => if credit.1 = drop then 1 else 0).sum +
    (w.drops.map fun d => if d.1 = drop then 1 else 0).sum

end World

/-- The totals are those of the start, and what is on the ground was there at the start. -/
structure Balanced (w₀ w : World τ) : Prop where
  items : ∀ refId, w.itemTotal refId = w₀.itemTotal refId
  gold : w.goldTotal = w₀.goldTotal
  dropTotal : ∀ drop, w.dropTotal drop = w₀.dropTotal drop
  left : w.drops ⊆ w₀.drops

theorem Balanced.refl (w : World τ) : Balanced w w :=
  ⟨fun _ => rfl, rfl, fun _ => rfl, fun _ h => h⟩

theorem Balanced.trans {w₀ w₁ w₂ : World τ} (h₁ : Balanced w₀ w₁) (h₂ : Balanced w₁ w₂) :
    Balanced w₀ w₂ :=
  ⟨fun r => (h₂.items r).trans (h₁.items r), h₂.gold.trans h₁.gold,
    fun d => (h₂.dropTotal d).trans (h₁.dropTotal d), fun _ h => h₁.left (h₂.left h)⟩

/-- The new credits, counted by drop. -/
theorem sum_credits (results : List (PickupResult τ)) (drop : Entity) :
    ((results.filterMap fun result => result.credited.map fun d => (d, result.player.entity)).map
      fun credit => if credit.1 = drop then 1 else 0).sum =
      (results.map fun result => if result.credited = some drop then 1 else 0).sum := by
  induction results with
  | nil => rfl
  | cons result results ih =>
      rw [List.map_cons, List.sum_cons, ← ih]
      cases hcredited : result.credited with
      | none => simp [hcredited]
      | some d => simp [hcredited]

/-- What is counted of the holdings of the players. -/
theorem map_holdings {players players' : List (Player τ)}
    (h : players.map Player.holdings = players'.map Player.holdings)
    (f : Inventory × UInt64 → ℕ) :
    (players.map fun player => f player.holdings) = players'.map fun player => f player.holdings := by
  have hmap := congrArg (List.map f) h
  rwa [List.map_map, List.map_map] at hmap

/-- In a fair tick, what the players hold and what is on the ground add up to what they were. -/
theorem World.Fair.sum_holdings {results : List (PickupResult τ)} (hfair : w.Fair orders)
    (f : Inventory × UInt64 → ℕ) (worth : Entity × Item → ℕ)
    (hresults : List.Forall₂ (fun player result =>
      f result.player.holdings = f player.holdings + w.taken orders worth player) w.players results)
    (hheld : w'.players.map Player.holdings = (results.map PickupResult.player).map Player.holdings)
    (hdrops : w'.drops =
      w.drops.filter fun drop => !w.players.any fun player => player.reaches drop) :
    (w'.players.map fun player => f player.holdings).sum + (w'.drops.map worth).sum =
      (w.players.map fun player => f player.holdings).sum + (w.drops.map worth).sum := by
  have hsum := sum_results hresults
  have htaken := hfair.sum_taken worth
  rw [map_holdings hheld f, hdrops, List.map_map]
  simp only [Function.comp_def]
  rw [hsum]
  omega

/-- **In a fair tick everything that can be counted is conserved.** -/
theorem pickupTick_conserves (hfair : w.Fair orders)
    (h : pickupTick timer p delta orders w = some w') : Balanced w w' := by
  obtain ⟨results, hresults, rfl⟩ := Option.map_eq_some_iff.1 h
  have hacc := accounted_results hfair hresults
  obtain ⟨hheld, hcredits, hdrops⟩ := foldl_applyCommand
    (results.flatMap PickupResult.commands)
    { w with
      players := results.map PickupResult.player
      credits := w.credits ++ results.filterMap fun result =>
        result.credited.map fun drop => (drop, result.player.entity) }
  rw [drops_left hacc] at hdrops
  refine ⟨fun refId => ?_, ?_, fun drop => ?_, ?_⟩
  · exact hfair.sum_holdings (fun held => held.1.bagQuantity refId) _
      (hacc.imp fun _ _ hr => hr.items refId) hheld hdrops
  · exact hfair.sum_holdings (fun held => held.2.toNat) _ (hacc.imp fun _ _ hr => hr.gold) hheld
      hdrops
  · have hnew := sum_credits results drop
    have hsum := sum_results (g := fun _ => 0) (hacc.imp fun _ _ hr =>
      (hr.credited drop).trans (Nat.zero_add _).symm)
    have htaken := hfair.sum_taken fun d => if d.1 = drop then 1 else 0
    have hzero : (w.players.map fun _ => 0).sum = 0 := by simp
    unfold World.dropTotal
    rw [hdrops, hcredits, List.map_append, List.sum_append, hnew, hsum, hzero]
    omega
  · rw [hdrops]
    exact fun _ hmem => (List.mem_filter.1 hmem).1

/-! ### Runs -/

/-- The drops are reached for fairly, if the step is a tick. -/
def FairOp (w : World τ) : WorldOp → Prop
  | .tick _ orders => w.Fair orders
  | _ => True

/-- A step of a run in which every tick is fair. -/
def FairStep (timer : Cooldown τ) (p : Profile) (w w' : World τ) : Prop :=
  ∃ op, WorldStep timer p op w w' ∧ FairOp w op

theorem FairStep.balanced (h : FairStep timer p w w') : Balanced w w' := by
  obtain ⟨op, hstep, hfair⟩ := h
  cases hstep with
  | tick delta orders w w' htick => exact pickupTick_conserves hfair htick
  | assign entity target w =>
      have hheld : (w.assign entity target).players.map Player.holdings =
          w.players.map Player.holdings := by
        rw [World.assign, List.map_map]
        refine List.map_congr_left fun player _ => ?_
        rw [Function.comp_apply]
        split <;> rfl
      refine ⟨fun refId => ?_, ?_, fun _ => rfl, fun _ h => h⟩
      · have hbags := map_holdings hheld fun held => held.1.bagQuantity refId
        exact congrArg (fun l => List.sum l + _) hbags
      · have hpouches := map_holdings hheld fun held => held.2.toNat
        exact congrArg (fun l => List.sum l + _) hpouches
  | visitInOtherOrder w players hperm =>
      refine ⟨fun refId => ?_, ?_, fun _ => rfl, fun _ h => h⟩
      · exact congrArg (· + _) (hperm.map _).sum_eq
      · exact congrArg (· + _) (hperm.map _).sum_eq

theorem Balanced.of_run {w₀ w : World τ} (h : Relation.ReflTransGen (FairStep timer p) w₀ w) :
    Balanced w₀ w := by
  induction h with
  | refl => exact Balanced.refl w₀
  | tail _ hstep ih => exact ih.trans hstep.balanced

/-- Every drop of the start is either still there or was given to exactly one player, and the items
and the gold in the world add up to what they were. -/
structure Conserved (w₀ w : World τ) : Prop where
  creditedOnce : (w.credits.map Prod.fst).Nodup
  creditedGone : ∀ credit ∈ w.credits, credit.1 ∉ w.drops.map Prod.fst
  othersStay : ∀ drop ∈ w₀.drops, drop.1 ∉ w.credits.map Prod.fst → drop ∈ w.drops
  items : ∀ refId, w.itemTotal refId = w₀.itemTotal refId
  gold : w.goldTotal = w₀.goldTotal

/-- Counting by adding up ones. -/
theorem sum_eq_count {α : Type} (f : α → Entity) (xs : List α) (drop : Entity) :
    (xs.map fun x => if f x = drop then 1 else 0).sum = (xs.map f).count drop := by
  induction xs with
  | nil => rfl
  | cons x xs ih =>
      rw [List.map_cons, List.sum_cons, ih, List.map_cons, List.count_cons]
      by_cases heq : f x = drop
      · simp [heq, Nat.add_comm]
      · simp [heq]

theorem Balanced.count_eq {w₀ w : World τ} (h : Balanced w₀ w) (hstart : w₀.credits = [])
    (drop : Entity) :
    (w.credits.map Prod.fst).count drop + (w.drops.map Prod.fst).count drop =
      (w₀.drops.map Prod.fst).count drop := by
  have hcount := h.dropTotal drop
  unfold World.dropTotal at hcount
  rw [sum_eq_count, sum_eq_count, sum_eq_count, sum_eq_count, hstart, List.map_nil,
    List.count_nil] at hcount
  omega

theorem Balanced.conserved {w₀ w : World τ} (h : Balanced w₀ w) (hstart : w₀.credits = []) :
    Conserved w₀ w := by
  have hcount := h.count_eq hstart
  have hle : ∀ drop, (w₀.drops.map Prod.fst).count drop ≤ 1 := fun drop =>
    List.nodup_iff_count_le_one.1 w₀.distinct drop
  refine ⟨?_, ?_, ?_, h.items, h.gold⟩
  · refine List.nodup_iff_count_le_one.2 fun drop => ?_
    have h₁ := hcount drop
    have h₂ := hle drop
    omega
  · intro credit hcredit hdrop
    have h₁ := hcount credit.1
    have h₂ := hle credit.1
    have hpos : 0 < (w.credits.map Prod.fst).count credit.1 :=
      List.count_pos_iff.2 (List.mem_map_of_mem hcredit)
    have hpos' : 0 < (w.drops.map Prod.fst).count credit.1 := List.count_pos_iff.2 hdrop
    omega
  · intro drop hdrop hnot
    have h₁ := hcount drop.1
    have hzero : (w.credits.map Prod.fst).count drop.1 = 0 := List.count_eq_zero.2 hnot
    have hpos : 0 < (w₀.drops.map Prod.fst).count drop.1 :=
      List.count_pos_iff.2 (List.mem_map_of_mem hdrop)
    have hleft : drop.1 ∈ w.drops.map Prod.fst := List.count_pos_iff.1 (by omega)
    -- the drop with this id is the one of the start
    obtain ⟨drop', hdrop', heq⟩ := List.mem_map.1 hleft
    rwa [← List.inj_on_of_nodup_map w₀.distinct (h.left hdrop') hdrop heq]

end Tick

/-- **Picking things up neither duplicates nor loses them, in fair ticks**: in every state of a run in
which each drop that is reached for in a tick is taken whole by exactly one of the players that reach
for it, and the others take nothing of it, every drop of the start has been given to at most one
player and is gone then, all the others are still there, and the quantity of every item and the gold
in the world are what they were. -/
theorem reached_conserved {τ : Type} (timer : Cooldown τ) (p : Profile) (w₀ w : World τ)
    (hstart : w₀.credits = []) (hrun : Relation.ReflTransGen (FairStep timer p) w₀ w) :
    Conserved w₀ w :=
  (Balanced.of_run hrun).conserved hstart

/-- A timer that counts down the nanoseconds that are left. -/
def countdown : Cooldown ℕ where
  oneSecond := 1000000000
  tick delta left := (left - delta, decide (0 < left ∧ left ≤ delta))

/-- A player with an empty bag who reaches for an entity. -/
def collector (entity target : Entity) : Player ℕ :=
  ⟨entity, some ⟨target, none⟩, default, 0⟩

/-- Two players pick up a stack of potions each, one after the other. -/
theorem reached_conserved_two_stacks :
    let w₀ : World ℕ := ⟨[collector 1 10, collector 2 11], [(10, potion 5), (11, potion 7)],
      fun _ => false, [], by decide⟩
    ∃ w, pickupTick countdown .debug 1000 (fun _ => []) w₀ = some w ∧ w.drops = [] ∧
      w.credits = [(10, 1), (11, 2)] ∧ Conserved w₀ w := by
  intro w₀
  refine ⟨_, rfl, by decide, by decide, ?_⟩
  refine reached_conserved countdown .debug w₀ _ rfl (.single ⟨.tick 1000 fun _ => [], ?_, ?_⟩)
  · exact .tick 1000 _ w₀ _ rfl
  · unfold FairOp World.Fair
    decide

/-- Two players reach for the same stack of potions in the same tick, and both get it. -/
theorem same_drop_credited_twice :
    let w₀ : World ℕ := ⟨[collector 1 10, collector 2 10], [(10, potion 5)], fun _ => false, [],
      by decide⟩
    ∃ w, pickupTick countdown .debug 1000 (fun _ => []) w₀ = some w ∧ w.drops = [] ∧
      (w.players.map fun player => player.inventory.items 13) =
        [some (potion 5), some (potion 5)] ∧
      w.credits = [(10, 1), (10, 2)] ∧ ¬Conserved w₀ w := by
  intro w₀
  refine ⟨_, rfl, by decide, by decide, by decide, fun h => ?_⟩
  exact absurd h.creditedOnce (by decide)

end Skrillax

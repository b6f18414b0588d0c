/-
**Object types.**

Every entry of the game data carries a type id of four bytes.  `ObjectType.fromTypeId` decodes it
into the tree of object kinds; the decoding fails on ids that name no kind, and code that looks at
the kind of an item treats that failure as fatal.  Only the item branch of the tree is inspected
further, but whether an id decodes at all depends on every enumeration below, so all of them are
here.

Main definitions:

* `TypeId`, `ObjectType` — the id and the tree of kinds;
* `ObjectType.fromTypeId` — the decoder, one function for each level of the tree.
-/

import Mathlib

set_option relaxedAutoImplicit false
set_option autoImplicit false

namespace Skrillax

structure TypeId where
  t0 : UInt8
  t1 : UInt8
  t2 : UInt8
  t3 : UInt8
  deriving DecidableEq, Repr

/-- The conversion of a byte into an enumeration: the variant with that discriminant, if any. -/
def tryFromPrimitive {α : Type} (discriminants : List (UInt8 × α)) (value : UInt8) : Option α :=
  discriminants.lookup value

/-! ### Entities -/

inductive ObjectMonster where
  | general | thief | hunter | quest | pandorasBox | caravan | thiefCaravan | flowerStructure

def ObjectMonster.tryFrom : UInt8 → Option ObjectMonster :=
  tryFromPrimitive [(1, .general), (2, .thief), (3, .hunter), (4, .quest), (5, .pandorasBox),
    (6, .caravan), (7, .thiefCaravan), (8, .flowerStructure)]

inductive ObjectNpc where
  | standard | gateStructure | dungeonSlave | dungeonStone

def ObjectNpc.tryFrom : UInt8 → Option ObjectNpc :=
  tryFromPrimitive [(0, .standard), (1, .gateStructure), (2, .dungeonSlave), (3, .dungeonStone)]

inductive ObjectPet where
  | vehicle | tradeVehicle | attackPet | abilityPet | guildSoldier | questCOS | questNPCCOS
  | unknown | attackVehiclePet | batteringRam | catapult

def ObjectPet.tryFrom : UInt8 → Option ObjectPet :=
  tryFromPrimitive [(1, .vehicle), (2, .tradeVehicle), (3, .attackPet), (4, .abilityPet),
    (5, .guildSoldier), (6, .questCOS), (7, .questNPCCOS), (8, .unknown), (9, .attackVehiclePet),
    (10, .batteringRam), (11, .catapult)]

inductive ObjectFortressWar where
  | guard | flag | monster | otherGuard

def ObjectFortressWar.tryFrom : UInt8 → Option ObjectFortressWar :=
  tryFromPrimitive [(1, .guard), (2, .flag), (3, .monster), (4, .otherGuard)]

inductive ObjectFortificationStructure where
  | fortStone | tower | gate | defensivePosition | headquarters | barricade

def ObjectFortificationStructure.tryFrom : UInt8 → Option ObjectFortificationStructure :=
  tryFromPrimitive [(1, .fortStone), (2, .tower), (3, .gate), (4, .defensivePosition),
    (5, .headquarters), (6, .barricade)]

inductive ObjectNonPlayer where
  | monster (kind : ObjectMonster)
  | npc (kind : ObjectNpc)
  | pet (kind : ObjectPet)
  | fortressWar (kind : ObjectFortressWar)
  | fortificationStructure (kind : ObjectFortificationStructure)
  | humanDefenseTower
  | treasureBox
  | safezone

def ObjectNonPlayer.fromTypeValue (t2 t3 : UInt8) : Option ObjectNonPlayer :=
  match t2 with
  | 1 => (ObjectMonster.tryFrom t3).map .monster
  | 2 => (ObjectNpc.tryFrom t3).map .npc
  | 3 => (ObjectPet.tryFrom t3).map .pet
  | 4 => (ObjectFortressWar.tryFrom t3).map .fortressWar
  | 5 => (ObjectFortificationStructure.tryFrom t3).map .fortificationStructure
  | 6 => some .humanDefenseTower
  | 7 => some .treasureBox
  | 8 => some .safezone
  | _ => none

inductive ObjectEntity where
  | player
  | nonPlayer (kind : ObjectNonPlayer)

def ObjectEntity.fromTypeValue (t1 t2 t3 : UInt8) : Option ObjectEntity :=
  match t1 with
  | 1 => some .player
  | 2 => (ObjectNonPlayer.fromTypeValue t2 t3).map .nonPlayer
  | _ => none

/-! ### Equipment -/

inductive ObjectClothingType where
  | garment | protector | armor | robe | lightArmor | heavyArmor

def ObjectClothingType.tryFrom : UInt8 → Option ObjectClothingType :=
  tryFromPrimitive [(1, .garment), (2, .protector), (3, .armor), (9, .robe), (10, .lightArmor),
    (11, .heavyArmor)]

inductive ObjectClothingPart where
  | any | head | shoulder | body | leg | arm | foot

def ObjectClothingPart.tryFrom : UInt8 → Option ObjectClothingPart :=
  tryFromPrimitive [(0, .any), (1, .head), (2, .shoulder), (3, .body), (4, .leg), (5, .arm),
    (6, .foot)]

inductive ObjectRace where
  | chinese | european

def ObjectRace.tryFrom : UInt8 → Option ObjectRace :=
  tryFromPrimitive [(1, .chinese), (2, .european)]

inductive ObjectJewelryType where
  | earring | necklace | ring

def ObjectJewelryType.tryFrom : UInt8 → Option ObjectJewelryType :=
  tryFromPrimitive [(1, .earring), (2, .necklace), (3, .ring)]

inductive ObjectWeaponType where
  | none | sword | blade | spear | glavie | bow | oneHandSword | twoHandSword | axe | warlockStaff
  | staff | crossbow | dagger | harp | clericRod | fortressHammer

def ObjectWeaponType.tryFrom : UInt8 → Option ObjectWeaponType :=
  tryFromPrimitive [(1, .none), (2, .sword), (3, .blade), (4, .spear), (5, .glavie), (6, .bow),
    (7, .oneHandSword), (8, .twoHandSword), (9, .axe), (10, .warlockStaff), (11, .staff),
    (12, .crossbow), (13, .dagger), (14, .harp), (15, .clericRod), (16, .fortressHammer)]

inductive ObjectFlagType where
  | oldTrader | oldThief | oldHunter | pvpSuit | newTrader | newHunter

def ObjectFlagType.tryFrom : UInt8 → Option ObjectFlagType :=
  tryFromPrimitive [(1, .oldTrader), (2, .oldThief), (3, .oldHunter), (5, .pvpSuit),
    (6, .newTrader), (7, .newHunter)]

inductive ObjectTradeGoods where
  | goods | specialBox

def ObjectTradeGoods.tryFrom : UInt8 → Option ObjectTradeGoods :=
  tryFromPrimitive [(1, .goods), (3, .specialBox)]

inductive ObjectAvatar where
  | dress | hat | attachment | etc

def ObjectAvatar.tryFrom : UInt8 → Option ObjectAvatar :=
  tryFromPrimitive [(1, .dress), (2, .hat), (3, .attachment), (4, .etc)]

inductive ObjectEquippable where
  | clothing (kind : ObjectClothingType) (part : ObjectClothingPart)
  | shield (race : ObjectRace)
  | jewelry (race : ObjectRace) (kind : ObjectJewelryType)
  | weapon (kind : ObjectWeaponType)
  | flag (kind : ObjectFlagType)
  | tradeGoods (kind : ObjectTradeGoods)
  | avatar (kind : ObjectAvatar)
  | devilSpirit

/-- The clothing kinds share the numbers up to `11` with the other kinds, which are tried first. -/
def ObjectEquippable.fromTypeValue (t2 t3 : UInt8) : Option ObjectEquippable :=
  match t2 with
  | 4 => (ObjectRace.tryFrom t3).map .shield
  | 5 => (ObjectJewelryType.tryFrom t3).map (.jewelry .chinese)
  | 6 => (ObjectWeaponType.tryFrom t3).map .weapon
  | 7 => (ObjectFlagType.tryFrom t3).map .flag
  | 8 => (ObjectTradeGoods.tryFrom t3).map .tradeGoods
  | 12 => (ObjectJewelryType.tryFrom t3).map (.jewelry .european)
  | 13 => (ObjectAvatar.tryFrom t3).map .avatar
  | 14 => some .devilSpirit
  | id =>
      if id ≤ 11 then do
        let kind ← ObjectClothingType.tryFrom id
        let part ← ObjectClothingPart.tryFrom t3
        return .clothing kind part
      else none

/-! ### Other items -/

inductive ObjectSummonScroll where
  | attack | ability | attackAbility | trade

def ObjectSummonScroll.tryFrom : UInt8 → Option ObjectSummonScroll :=
  tryFromPrimitive [(1, .attack), (2, .ability), (3, .attackAbility), (4, .trade)]

inductive ObjectSummon where
  | scroll (kind : ObjectSummonScroll)
  | transfer
  | preMall

def ObjectSummon.fromTypeValue (t2 t3 : UInt8) : Option ObjectSummon :=
  match t2 with
  | 1 => (ObjectSummonScroll.tryFrom t3).map .scroll
  | 2 => some .transfer
  | 3 => some .preMall
  | _ => none

inductive ObjectConsumableRecovery where
  | hp | mp | vigor | cosHP | cosRevive | berserk | hgp | repair | preMall | petHunger | unknown

def ObjectConsumableRecovery.tryFrom : UInt8 → Option ObjectConsumableRecovery :=
  tryFromPrimitive [(1, .hp), (2, .mp), (3, .vigor), (4, .cosHP), (6, .cosRevive), (8, .berserk),
    (9, .hgp), (10, .repair), (11, .preMall), (12, .petHunger), (13, .unknown)]

inductive ObjectConsumableCure where
  | single | full | cosFull | superset | super

def ObjectConsumableCure.tryFrom : UInt8 → Option ObjectConsumableCure :=
  tryFromPrimitive [(1, .single), (6, .full), (7, .cosFull), (8, .superset), (9, .super)]

inductive ObjectConsumableScroll where
  | returnScroll | transport | reverse | monsterSummon | globalChat | fortTablet | guardSummon
  | fortManual | fortressWarFlag | buff | fortressWarGuardian | skillPoint | serverChange
  | itemUpgrade | premiumQuest | coupon | nasrunUpgrade | expStone | unionPartyTicket
  | flowerSummon | alchemyUp | globalChat2

def ObjectConsumableScroll.tryFrom : UInt8 → Option ObjectConsumableScroll :=
  tryFromPrimitive [(1, .returnScroll), (2, .transport), (3, .reverse), (4, .monsterSummon),
    (5, .globalChat), (6, .fortTablet), (7, .guardSummon), (8, .fortManual), (9, .fortressWarFlag),
    (10, .buff), (11, .fortressWarGuardian), (12, .skillPoint), (13, .serverChange),
    (14, .itemUpgrade), (15, .premiumQuest), (16, .coupon), (17, .nasrunUpgrade), (18, .expStone),
    (19, .unionPartyTicket), (20, .flowerSummon), (21, .alchemyUp), (22, .globalChat2)]

inductive ObjectConsumableAmmo where
  | arrows | bolts

def ObjectConsumableAmmo.tryFrom : UInt8 → Option ObjectConsumableAmmo :=
  tryFromPrimitive [(1, .arrows), (2, .bolts)]

inductive ObjectConsumableCurrency where
  | gold | token

def ObjectConsumableCurrency.tryFrom : UInt8 → Option ObjectConsumableCurrency :=
  tryFromPrimitive [(0, .gold), (1, .token)]

inductive ObjectConsumableThrowable where
  | firework | shock

def ObjectConsumableThrowable.tryFrom : UInt8 → Option ObjectConsumableThrowable :=
  tryFromPrimitive [(1, .firework), (2, .shock)]

inductive ObjectConsumableTrade where
  | general | lower | higher | specialBox

def ObjectConsumableTrade.tryFrom : UInt8 → Option ObjectConsumableTrade :=
  tryFromPrimitive [(0, .general), (1, .lower), (2, .higher), (3, .specialBox)]

inductive ObjectConsumableQuest where
  | general | job

def ObjectConsumableQuest.tryFrom : UInt8 → Option ObjectConsumableQuest :=
  tryFromPrimitive [(0, .general), (1, .job)]

inductive ObjectConsumableEvent where
  | guildSoldier | guildCrest | guildRecall | battleArena | talisman | changeTicket
  | forgottenWorld | chargeGold | survival

def ObjectConsumableEvent.tryFrom : UInt8 → Option ObjectConsumableEvent :=
  tryFromPrimitive [(1, .guildSoldier), (2, .guildCrest), (3, .guildRecall), (4, .battleArena),
    (5, .talisman), (6, .changeTicket), (7, .forgottenWorld), (8, .chargeGold), (9, .survival)]

inductive ObjectConsumableItemMall where
  | skillRestore | buff | expVIP | spvip | resurrection | repair | genderChange | transmog
  | warehouse | reinforceWeapon | petTimeExtension | statPointsReset | premium | petGrowth | nasrun
  | inventoryExtension | indulgence | openMarket | freeAccess | exp | dungeon | forgottenWorld
  | safetyDevice | freeTime | survivalDetection

def ObjectConsumableItemMall.tryFrom : UInt8 → Option ObjectConsumableItemMall :=
  tryFromPrimitive [(0, .skillRestore), (1, .buff), (4, .expVIP), (5, .spvip), (6, .resurrection),
    (7, .repair), (8, .genderChange), (9, .transmog), (10, .warehouse), (11, .reinforceWeapon),
    (12, .petTimeExtension), (13, .statPointsReset), (14, .premium), (15, .petGrowth),
    (16, .nasrun), (17, .inventoryExtension), (18, .indulgence), (19, .openMarket),
    (20, .freeAccess), (21, .exp), (22, .dungeon), (23, .forgottenWorld), (24, .safetyDevice),
    (25, .freeTime), (26, .survivalDetection)]

inductive ObjectConsumableMagicPop where
  | entryCard | result | pre | pre2

def ObjectConsumableMagicPop.tryFrom : UInt8 → Option ObjectConsumableMagicPop :=
  tryFromPrimitive [(1, .entryCard), (2, .result), (3, .pre), (4, .pre2)]

inductive ObjectConsumablePet where
  | general | nameChange | level | evolution

def ObjectConsumablePet.tryFrom : UInt8 → Option ObjectConsumablePet :=
  tryFromPrimitive [(1, .general), (3, .nameChange), (4, .level), (5, .evolution)]

inductive ObjectConsumable where
  | recovery (kind : ObjectConsumableRecovery)
  | cure (kind : ObjectConsumableCure)
  | scroll (kind : ObjectConsumableScroll)
  | ammo (kind : ObjectConsumableAmmo)
  | currency (kind : ObjectConsumableCurrency)
  | throwable (kind : ObjectConsumableThrowable)
  | campfire
  | trade (kind : ObjectConsumableTrade)
  | quest (kind : ObjectConsumableQuest)
  | alchemyUpgrade
  | alchemyImprovement
  | event (kind : ObjectConsumableEvent)
  | itemMall (kind : ObjectConsumableItemMall)
  | magicPop (kind : ObjectConsumableMagicPop)
  | monsterSummon
  | pet (kind : ObjectConsumablePet)

def ObjectConsumable.fromTypeValue (t2 t3 : UInt8) : Option ObjectConsumable :=
  match t2 with
  | 1 => (ObjectConsumableRecovery.tryFrom t3).map .recovery
  | 2 => (ObjectConsumableCure.tryFrom t3).map .cure
  | 3 => (ObjectConsumableScroll.tryFrom t3).map .scroll
  | 4 => (ObjectConsumableAmmo.tryFrom t3).map .ammo
  | 5 => (ObjectConsumableCurrency.tryFrom t3).map .currency
  | 6 => (ObjectConsumableThrowable.tryFrom t3).map .throwable
  | 7 => some .campfire
  | 8 => (ObjectConsumableTrade.tryFrom t3).map .trade
  | 9 => (ObjectConsumableQuest.tryFrom t3).map .quest
  | 10 => some .alchemyUpgrade
  | 11 => some .alchemyImprovement
  | 12 => (ObjectConsumableEvent.tryFrom t3).map .event
  | 13 => (ObjectConsumableItemMall.tryFrom t3).map .itemMall
  | 14 => (ObjectConsumableMagicPop.tryFrom t3).map .magicPop
  | 15 => some .monsterSummon
  | 16 => (ObjectConsumablePet.tryFrom t3).map .pet
  | _ => none

inductive ObjectItemTradeArmor where
  | head | shoulder | chest | pants | gloves | shoes

def ObjectItemTradeArmor.tryFrom : UInt8 → Option ObjectItemTradeArmor :=
  tryFromPrimitive [(1, .head), (2, .shoulder), (3, .chest), (4, .pants), (5, .gloves), (6, .shoes)]

inductive ObjectItemTradeJewelry where
  | earring | necklace | ring

def ObjectItemTradeJewelry.tryFrom : UInt8 → Option ObjectItemTradeJewelry :=
  tryFromPrimitive [(1, .earring), (2, .necklace), (3, .ring)]

inductive ObjectItemTrade where
  | hunterArmor (kind : ObjectItemTradeArmor)
  | hunterWeapon
  | hunterJewelry (kind : ObjectItemTradeJewelry)
  | thiefArmor (kind : ObjectItemTradeArmor)
  | thiefWeapon
  | thiefJewelry (kind : ObjectItemTradeJewelry)

def ObjectItemTrade.fromTypeValue (t2 t3 : UInt8) : Option ObjectItemTrade :=
  match t2 with
  | 1 => (ObjectItemTradeArmor.tryFrom t3).map .hunterArmor
  | 2 => some .hunterWeapon
  | 3 => (ObjectItemTradeJewelry.tryFrom t3).map .hunterJewelry
  | 4 => (ObjectItemTradeArmor.tryFrom t3).map .thiefArmor
  | 5 => some .thiefWeapon
  | 6 => (ObjectItemTradeJewelry.tryFrom t3).map .thiefJewelry
  | _ => none

inductive ObjectItemPet where
  | claw | charm | saddle | scale | amulet | choker | tattoo

def ObjectItemPet.fromTypeValue (t2 _t3 : UInt8) : Option ObjectItemPet :=
  match t2 with
  | 1 => some .claw
  | 2 => some .charm
  | 3 => some .saddle
  | 4 => some .scale
  | 5 => some .amulet
  | 6 => some .choker
  | 7 => some .tattoo
  | _ => none

/-! ### The decoder -/

inductive ObjectItem where
  | equippable (kind : ObjectEquippable)
  | summon (kind : ObjectSummon)
  | consumable (kind : ObjectConsumable)
  | trade (kind : ObjectItemTrade)
  | pet (kind : ObjectItemPet)

def ObjectItem.fromTypeValue (t1 t2 t3 : UInt8) : Option ObjectItem :=
  match t1 with
  | 1 => (ObjectEquippable.fromTypeValue t2 t3).map .equippable
  | 2 => (ObjectSummon.fromTypeValue t2 t3).map .summon
  | 3 => (ObjectConsumable.fromTypeValue t2 t3).map .consumable
  | 4 => (ObjectItemTrade.fromTypeValue t2 t3).map .trade
  | 5 => (ObjectItemPet.fromTypeValue t2 t3).map .pet
  | _ => none

inductive ObjectType where
  | entity (kind : ObjectEntity)
  | item (kind : ObjectItem)
  | area

def ObjectType.fromTypeId (id : TypeId) : Option ObjectType :=
  match id.t0 with
  | 1 => (ObjectEntity.fromTypeValue id.t1 id.t2 id.t3).map .entity
  | 3 => (ObjectItem.fromTypeValue id.t1 id.t2 id.t3).map .item
  | 4 => some .area
  | _ => none

end Skrillax

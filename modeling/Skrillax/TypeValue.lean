/-
**The numbers of object types.**

The game data names an equippable or a consumable by two bytes, a group and a kind in it.
`ObjectEquippable.typeValue` and `ObjectConsumable.typeValue` give these bytes, with the discriminants of
the enumerations for the kinds, and the decoders of `Skrillax.TypeId` read every one of them back.

Main definitions:

* `ObjectEquippable.typeValue`, `ObjectConsumable.typeValue` — the bytes of an object.

Main results:

* `ObjectEquippable.fromTypeValue_typeValue`, `ObjectConsumable.fromTypeValue_typeValue` — the object is
  read back from its bytes.
-/

import Mathlib
import Skrillax.TypeId

set_option relaxedAutoImplicit false
set_option autoImplicit false

namespace Skrillax

/-! ### Equipment -/

def ObjectClothingType.into : ObjectClothingType → UInt8
  | garment => 1 | protector => 2 | armor => 3 | robe => 9 | lightArmor => 10 | heavyArmor => 11

def ObjectClothingPart.into : ObjectClothingPart → UInt8
  | any => 0 | head => 1 | shoulder => 2 | body => 3 | leg => 4 | arm => 5 | foot => 6

def ObjectRace.into : ObjectRace → UInt8
  | chinese => 1 | european => 2

def ObjectJewelryType.into : ObjectJewelryType → UInt8
  | earring => 1 | necklace => 2 | ring => 3

def ObjectWeaponType.into : ObjectWeaponType → UInt8
  | none => 1 | sword => 2 | blade => 3 | spear => 4 | glavie => 5 | bow => 6 | oneHandSword => 7
  | twoHandSword => 8 | axe => 9 | warlockStaff => 10 | staff => 11 | crossbow => 12 | dagger => 13
  | harp => 14 | clericRod => 15 | fortressHammer => 16

def ObjectFlagType.into : ObjectFlagType → UInt8
  | oldTrader => 1 | oldThief => 2 | oldHunter => 3 | pvpSuit => 5 | newTrader => 6 | newHunter => 7

def ObjectTradeGoods.into : ObjectTradeGoods → UInt8
  | goods => 1 | specialBox => 3

def ObjectAvatar.into : ObjectAvatar → UInt8
  | dress => 1 | hat => 2 | attachment => 3 | etc => 4

def ObjectEquippable.typeValue : ObjectEquippable → UInt8 × UInt8
  | clothing kind part => (kind.into, part.into)
  | shield race => (4, race.into)
  | jewelry .chinese kind => (5, kind.into)
  | jewelry .european kind => (12, kind.into)
  | weapon kind => (6, kind.into)
  | flag kind => (7, kind.into)
  | tradeGoods kind => (8, kind.into)
  | avatar kind => (13, kind.into)
  | devilSpirit => (14, 0)

theorem ObjectEquippable.fromTypeValue_typeValue (object : ObjectEquippable) :
    fromTypeValue object.typeValue.1 object.typeValue.2 = some object := by
  cases object with
  | clothing kind part =>
      -- none of the numbers of the clothing kinds is the number of another group
      cases kind <;> cases part <;> rfl
  | shield race => cases race <;> rfl
  | jewelry race kind => cases race <;> cases kind <;> rfl
  | weapon kind => cases kind <;> rfl
  | flag kind => cases kind <;> rfl
  | tradeGoods kind => cases kind <;> rfl
  | avatar kind => cases kind <;> rfl
  | devilSpirit => rfl

/-! ### Consumables -/

def ObjectConsumableRecovery.into : ObjectConsumableRecovery → UInt8
  | hp => 1 | mp => 2 | vigor => 3 | cosHP => 4 | cosRevive => 6 | berserk => 8 | hgp => 9
  | repair => 10 | preMall => 11 | petHunger => 12 | unknown => 13

def ObjectConsumableCure.into : ObjectConsumableCure → UInt8
  | single => 1 | full => 6 | cosFull => 7 | superset => 8 | super => 9

def ObjectConsumableScroll.into : ObjectConsumableScroll → UInt8
  | returnScroll => 1 | transport => 2 | reverse => 3 | monsterSummon => 4 | globalChat => 5
  | fortTablet => 6 | guardSummon => 7 | fortManual => 8 | fortressWarFlag => 9 | buff => 10
  | fortressWarGuardian => 11 | skillPoint => 12 | serverChange => 13 | itemUpgrade => 14
  | premiumQuest => 15 | coupon => 16 | nasrunUpgrade => 17 | expStone => 18
  | unionPartyTicket => 19 | flowerSummon => 20 | alchemyUp => 21 | globalChat2 => 22

def ObjectConsumableAmmo.into : ObjectConsumableAmmo → UInt8
  | arrows => 1 | bolts => 2

def ObjectConsumableCurrency.into : ObjectConsumableCurrency → UInt8
  | gold => 0 | token => 1

def ObjectConsumableThrowable.into : ObjectConsumableThrowable → UInt8
  | firework => 1 | shock => 2

def ObjectConsumableTrade.into : ObjectConsumableTrade → UInt8
  | general => 0 | lower => 1 | higher => 2 | specialBox => 3

def ObjectConsumableQuest.into : ObjectConsumableQuest → UInt8
  | general => 0 | job => 1

def ObjectConsumableEvent.into : ObjectConsumableEvent → UInt8
  | guildSoldier => 1 | guildCrest => 2 | guildRecall => 3 | battleArena => 4 | talisman => 5
  | changeTicket => 6 | forgottenWorld => 7 | chargeGold => 8 | survival => 9

def ObjectConsumableItemMall.into : ObjectConsumableItemMall → UInt8
  | skillRestore => 0 | buff => 1 | expVIP => 4 | spvip => 5 | resurrection => 6 | repair => 7
  | genderChange => 8 | transmog => 9 | warehouse => 10 | reinforceWeapon => 11
  | petTimeExtension => 12 | statPointsReset => 13 | premium => 14 | petGrowth => 15 | nasrun => 16
  | inventoryExtension => 17 | indulgence => 18 | openMarket => 19 | freeAccess => 20 | exp => 21
  | dungeon => 22 | forgottenWorld => 23 | safetyDevice => 24 | freeTime => 25
  | survivalDetection => 26

def ObjectConsumableMagicPop.into : ObjectConsumableMagicPop → UInt8
  | entryCard => 1 | result => 2 | pre => 3 | pre2 => 4

def ObjectConsumablePet.into : ObjectConsumablePet → UInt8
  | general => 1 | nameChange => 3 | level => 4 | evolution => 5

def ObjectConsumable.typeValue : ObjectConsumable → UInt8 × UInt8
  | recovery kind => (1, kind.into)
  | cure kind => (2, kind.into)
  | scroll kind => (3, kind.into)
  | ammo kind => (4, kind.into)
  | currency kind => (5, kind.into)
  | throwable kind => (6, kind.into)
  | campfire => (7, 1)
  | trade kind => (8, kind.into)
  | quest kind => (9, kind.into)
  | alchemyUpgrade => (10, 1)
  | alchemyImprovement => (11, 1)
  | event kind => (12, kind.into)
  | itemMall kind => (13, kind.into)
  | magicPop kind => (14, kind.into)
  | monsterSummon => (15, 1)
  | pet kind => (16, kind.into)

theorem ObjectConsumable.fromTypeValue_typeValue (object : ObjectConsumable) :
    fromTypeValue object.typeValue.1 object.typeValue.2 = some object := by
  cases object with
  | recovery kind => cases kind <;> rfl
  | cure kind => cases kind <;> rfl
  | scroll kind => cases kind <;> rfl
  | ammo kind => cases kind <;> rfl
  | currency kind => cases kind <;> rfl
  | throwable kind => cases kind <;> rfl
  | campfire => rfl
  | trade kind => cases kind <;> rfl
  | quest kind => cases kind <;> rfl
  | alchemyUpgrade => rfl
  | alchemyImprovement => rfl
  | event kind => cases kind <;> rfl
  | itemMall kind => cases kind <;> rfl
  | magicPop kind => cases kind <;> rfl
  | monsterSummon => rfl
  | pet kind => cases kind <;> rfl

end Skrillax

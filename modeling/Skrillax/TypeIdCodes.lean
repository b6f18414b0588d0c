/-
**Which ids are which object types.**

`ObjectType::type_id` names an object type by four bytes, and `ObjectType::from_type_id` finds the type of an
id.  The decoder does not look at all bytes: a player is recognised by two of them and an area by one, whatever
the others are, so that many ids are one type.  Code that needs the type of an item treats an id without one as
fatal; which ids these are is the other side of the same question.

Main definitions:

* `ObjectType.typeId` — the id of an object type, one function for each level of the tree;
* `ObjectType.width` — how many bytes of an id are looked at to find the type.

Main results:

* `tryFromPrimitive_eq_some_iff` — the conversion of a byte into an enumeration and back;
* `ObjectType.fromTypeId_eq_some_iff` — **an id is of a type exactly if it begins with the bytes of the type that
  are looked at**;
* `ObjectType.fromTypeId_typeId` — every type is found again by its own id.
-/

import Skrillax.TypeValue

set_option relaxedAutoImplicit false
set_option autoImplicit false

namespace Skrillax

/-! ### Enumerations -/

/-- A byte is converted into a variant exactly if it is the discriminant of the variant. -/
theorem tryFromPrimitive_eq_some_iff {α : Type} {discriminants : List (UInt8 × α)} {into : α → UInt8}
    (hinto : ∀ entry ∈ discriminants, into entry.2 = entry.1)
    (hfrom : ∀ a, tryFromPrimitive discriminants (into a) = some a) {value : UInt8} {a : α} :
    tryFromPrimitive discriminants value = some a ↔ value = into a := by
  constructor
  · intro h
    obtain ⟨before, after, hsplit, -⟩ := List.lookup_eq_some_iff.1 h
    have hmem : (value, a) ∈ discriminants := by
      rw [hsplit]
      exact List.mem_append_right _ List.mem_cons_self
    exact (hinto _ hmem).symm
  · rintro rfl
    exact hfrom a

def ObjectMonster.into : ObjectMonster → UInt8
  | general => 1 | thief => 2 | hunter => 3 | quest => 4 | pandorasBox => 5 | caravan => 6
  | thiefCaravan => 7 | flowerStructure => 8

def ObjectNpc.into : ObjectNpc → UInt8
  | standard => 0 | gateStructure => 1 | dungeonSlave => 2 | dungeonStone => 3

def ObjectPet.into : ObjectPet → UInt8
  | vehicle => 1 | tradeVehicle => 2 | attackPet => 3 | abilityPet => 4 | guildSoldier => 5 | questCOS => 6
  | questNPCCOS => 7 | unknown => 8 | attackVehiclePet => 9 | batteringRam => 10 | catapult => 11

def ObjectFortressWar.into : ObjectFortressWar → UInt8
  | guard => 1 | flag => 2 | monster => 3 | otherGuard => 4

def ObjectFortificationStructure.into : ObjectFortificationStructure → UInt8
  | fortStone => 1 | tower => 2 | gate => 3 | defensivePosition => 4 | headquarters => 5 | barricade => 6

def ObjectSummonScroll.into : ObjectSummonScroll → UInt8
  | attack => 1 | ability => 2 | attackAbility => 3 | trade => 4

def ObjectItemTradeArmor.into : ObjectItemTradeArmor → UInt8
  | head => 1 | shoulder => 2 | chest => 3 | pants => 4 | gloves => 5 | shoes => 6

def ObjectItemTradeJewelry.into : ObjectItemTradeJewelry → UInt8
  | earring => 1 | necklace => 2 | ring => 3

/-! ### The ids of the types -/

def ObjectNonPlayer.typeValue : ObjectNonPlayer → UInt8 × UInt8
  | monster kind => (1, kind.into)
  | npc kind => (2, kind.into)
  | pet kind => (3, kind.into)
  | fortressWar kind => (4, kind.into)
  | fortificationStructure kind => (5, kind.into)
  | humanDefenseTower => (6, 0)
  | treasureBox => (7, 0)
  | safezone => (8, 0)

def ObjectEntity.typeValue : ObjectEntity → UInt8 × UInt8 × UInt8
  | player => (1, 0, 0)
  | nonPlayer kind => (2, kind.typeValue)

def ObjectSummon.typeValue : ObjectSummon → UInt8 × UInt8
  | scroll kind => (1, kind.into)
  | transfer => (2, 0)
  | preMall => (3, 1)

def ObjectItemTrade.typeValue : ObjectItemTrade → UInt8 × UInt8
  | hunterArmor kind => (1, kind.into)
  | hunterWeapon => (2, 1)
  | hunterJewelry kind => (3, kind.into)
  | thiefArmor kind => (4, kind.into)
  | thiefWeapon => (5, 1)
  | thiefJewelry kind => (6, kind.into)

def ObjectItemPet.typeValue : ObjectItemPet → UInt8 × UInt8
  | claw => (1, 0)
  | charm => (2, 0)
  | saddle => (3, 0)
  | scale => (4, 0)
  | amulet => (5, 0)
  | choker => (6, 0)
  | tattoo => (7, 0)

def ObjectItem.typeValue : ObjectItem → UInt8 × UInt8 × UInt8
  | equippable kind => (1, kind.typeValue)
  | summon kind => (2, kind.typeValue)
  | consumable kind => (3, kind.typeValue)
  | trade kind => (4, kind.typeValue)
  | pet kind => (5, kind.typeValue)

def TypeId.ofValue (t0 : UInt8) (value : UInt8 × UInt8 × UInt8) : TypeId := ⟨t0, value.1, value.2.1, value.2.2⟩

def ObjectType.typeId : ObjectType → TypeId
  | entity kind => .ofValue 1 kind.typeValue
  | item kind => .ofValue 3 kind.typeValue
  | area => ⟨4, 0, 0, 0⟩

/-! ### What is looked at -/

/-- The last byte of an id is looked at. -/
def ObjectNonPlayer.hasKind : ObjectNonPlayer → Bool
  | humanDefenseTower | treasureBox | safezone => false
  | _ => true

def ObjectEquippable.hasKind : ObjectEquippable → Bool
  | devilSpirit => false
  | _ => true

def ObjectSummon.hasKind : ObjectSummon → Bool
  | scroll _ => true
  | _ => false

def ObjectConsumable.hasKind : ObjectConsumable → Bool
  | campfire | alchemyUpgrade | alchemyImprovement | monsterSummon => false
  | _ => true

def ObjectItemTrade.hasKind : ObjectItemTrade → Bool
  | hunterWeapon | thiefWeapon => false
  | _ => true

def ObjectItem.hasKind : ObjectItem → Bool
  | equippable kind => kind.hasKind
  | summon kind => kind.hasKind
  | consumable kind => kind.hasKind
  | trade kind => kind.hasKind
  | pet _ => false

def ObjectType.width : ObjectType → ℕ
  | entity .player => 2
  | entity (.nonPlayer kind) => if kind.hasKind then 4 else 3
  | item kind => if kind.hasKind then 4 else 3
  | area => 1

def TypeId.bytes (id : TypeId) : List UInt8 := [id.t0, id.t1, id.t2, id.t3]

/-! ### The decoder -/

@[simp] theorem ObjectMonster.tryFrom_eq_some_iff {value : UInt8} {kind : ObjectMonster} :
    tryFrom value = some kind ↔ value = kind.into :=
  tryFromPrimitive_eq_some_iff (by decide) (by rintro ⟨⟩ <;> rfl)

@[simp] theorem ObjectNpc.tryFrom_eq_some_iff {value : UInt8} {kind : ObjectNpc} :
    tryFrom value = some kind ↔ value = kind.into :=
  tryFromPrimitive_eq_some_iff (by decide) (by rintro ⟨⟩ <;> rfl)

@[simp] theorem ObjectPet.tryFrom_eq_some_iff {value : UInt8} {kind : ObjectPet} :
    tryFrom value = some kind ↔ value = kind.into :=
  tryFromPrimitive_eq_some_iff (by decide) (by rintro ⟨⟩ <;> rfl)

@[simp] theorem ObjectFortressWar.tryFrom_eq_some_iff {value : UInt8} {kind : ObjectFortressWar} :
    tryFrom value = some kind ↔ value = kind.into :=
  tryFromPrimitive_eq_some_iff (by decide) (by rintro ⟨⟩ <;> rfl)

@[simp] theorem ObjectFortificationStructure.tryFrom_eq_some_iff {value : UInt8} {kind : ObjectFortificationStructure} :
    tryFrom value = some kind ↔ value = kind.into :=
  tryFromPrimitive_eq_some_iff (by decide) (by rintro ⟨⟩ <;> rfl)

@[simp] theorem ObjectClothingType.tryFrom_eq_some_iff {value : UInt8} {kind : ObjectClothingType} :
    tryFrom value = some kind ↔ value = kind.into :=
  tryFromPrimitive_eq_some_iff (by decide) (by rintro ⟨⟩ <;> rfl)

@[simp] theorem ObjectClothingPart.tryFrom_eq_some_iff {value : UInt8} {kind : ObjectClothingPart} :
    tryFrom value = some kind ↔ value = kind.into :=
  tryFromPrimitive_eq_some_iff (by decide) (by rintro ⟨⟩ <;> rfl)

@[simp] theorem ObjectRace.tryFrom_eq_some_iff {value : UInt8} {kind : ObjectRace} :
    tryFrom value = some kind ↔ value = kind.into :=
  tryFromPrimitive_eq_some_iff (by decide) (by rintro ⟨⟩ <;> rfl)

@[simp] theorem ObjectJewelryType.tryFrom_eq_some_iff {value : UInt8} {kind : ObjectJewelryType} :
    tryFrom value = some kind ↔ value = kind.into :=
  tryFromPrimitive_eq_some_iff (by decide) (by rintro ⟨⟩ <;> rfl)

@[simp] theorem ObjectWeaponType.tryFrom_eq_some_iff {value : UInt8} {kind : ObjectWeaponType} :
    tryFrom value = some kind ↔ value = kind.into :=
  tryFromPrimitive_eq_some_iff (by decide) (by rintro ⟨⟩ <;> rfl)

@[simp] theorem ObjectFlagType.tryFrom_eq_some_iff {value : UInt8} {kind : ObjectFlagType} :
    tryFrom value = some kind ↔ value = kind.into :=
  tryFromPrimitive_eq_some_iff (by decide) (by rintro ⟨⟩ <;> rfl)

@[simp] theorem ObjectTradeGoods.tryFrom_eq_some_iff {value : UInt8} {kind : ObjectTradeGoods} :
    tryFrom value = some kind ↔ value = kind.into :=
  tryFromPrimitive_eq_some_iff (by decide) (by rintro ⟨⟩ <;> rfl)

@[simp] theorem ObjectAvatar.tryFrom_eq_some_iff {value : UInt8} {kind : ObjectAvatar} :
    tryFrom value = some kind ↔ value = kind.into :=
  tryFromPrimitive_eq_some_iff (by decide) (by rintro ⟨⟩ <;> rfl)

@[simp] theorem ObjectSummonScroll.tryFrom_eq_some_iff {value : UInt8} {kind : ObjectSummonScroll} :
    tryFrom value = some kind ↔ value = kind.into :=
  tryFromPrimitive_eq_some_iff (by decide) (by rintro ⟨⟩ <;> rfl)

@[simp] theorem ObjectConsumableRecovery.tryFrom_eq_some_iff {value : UInt8} {kind : ObjectConsumableRecovery} :
    tryFrom value = some kind ↔ value = kind.into :=
  tryFromPrimitive_eq_some_iff (by decide) (by rintro ⟨⟩ <;> rfl)

@[simp] theorem ObjectConsumableCure.tryFrom_eq_some_iff {value : UInt8} {kind : ObjectConsumableCure} :
    tryFrom value = some kind ↔ value = kind.into :=
  tryFromPrimitive_eq_some_iff (by decide) (by rintro ⟨⟩ <;> rfl)

@[simp] theorem ObjectConsumableScroll.tryFrom_eq_some_iff {value : UInt8} {kind : ObjectConsumableScroll} :
    tryFrom value = some kind ↔ value = kind.into :=
  tryFromPrimitive_eq_some_iff (by decide) (by rintro ⟨⟩ <;> rfl)

@[simp] theorem ObjectConsumableAmmo.tryFrom_eq_some_iff {value : UInt8} {kind : ObjectConsumableAmmo} :
    tryFrom value = some kind ↔ value = kind.into :=
  tryFromPrimitive_eq_some_iff (by decide) (by rintro ⟨⟩ <;> rfl)

@[simp] theorem ObjectConsumableCurrency.tryFrom_eq_some_iff {value : UInt8} {kind : ObjectConsumableCurrency} :
    tryFrom value = some kind ↔ value = kind.into :=
  tryFromPrimitive_eq_some_iff (by decide) (by rintro ⟨⟩ <;> rfl)

@[simp] theorem ObjectConsumableThrowable.tryFrom_eq_some_iff {value : UInt8} {kind : ObjectConsumableThrowable} :
    tryFrom value = some kind ↔ value = kind.into :=
  tryFromPrimitive_eq_some_iff (by decide) (by rintro ⟨⟩ <;> rfl)

@[simp] theorem ObjectConsumableTrade.tryFrom_eq_some_iff {value : UInt8} {kind : ObjectConsumableTrade} :
    tryFrom value = some kind ↔ value = kind.into :=
  tryFromPrimitive_eq_some_iff (by decide) (by rintro ⟨⟩ <;> rfl)

@[simp] theorem ObjectConsumableQuest.tryFrom_eq_some_iff {value : UInt8} {kind : ObjectConsumableQuest} :
    tryFrom value = some kind ↔ value = kind.into :=
  tryFromPrimitive_eq_some_iff (by decide) (by rintro ⟨⟩ <;> rfl)

@[simp] theorem ObjectConsumableEvent.tryFrom_eq_some_iff {value : UInt8} {kind : ObjectConsumableEvent} :
    tryFrom value = some kind ↔ value = kind.into :=
  tryFromPrimitive_eq_some_iff (by decide) (by rintro ⟨⟩ <;> rfl)

@[simp] theorem ObjectConsumableItemMall.tryFrom_eq_some_iff {value : UInt8} {kind : ObjectConsumableItemMall} :
    tryFrom value = some kind ↔ value = kind.into :=
  tryFromPrimitive_eq_some_iff (by decide) (by rintro ⟨⟩ <;> rfl)

@[simp] theorem ObjectConsumableMagicPop.tryFrom_eq_some_iff {value : UInt8} {kind : ObjectConsumableMagicPop} :
    tryFrom value = some kind ↔ value = kind.into :=
  tryFromPrimitive_eq_some_iff (by decide) (by rintro ⟨⟩ <;> rfl)

@[simp] theorem ObjectConsumablePet.tryFrom_eq_some_iff {value : UInt8} {kind : ObjectConsumablePet} :
    tryFrom value = some kind ↔ value = kind.into :=
  tryFromPrimitive_eq_some_iff (by decide) (by rintro ⟨⟩ <;> rfl)

@[simp] theorem ObjectItemTradeArmor.tryFrom_eq_some_iff {value : UInt8} {kind : ObjectItemTradeArmor} :
    tryFrom value = some kind ↔ value = kind.into :=
  tryFromPrimitive_eq_some_iff (by decide) (by rintro ⟨⟩ <;> rfl)

@[simp] theorem ObjectItemTradeJewelry.tryFrom_eq_some_iff {value : UInt8} {kind : ObjectItemTradeJewelry} :
    tryFrom value = some kind ↔ value = kind.into :=
  tryFromPrimitive_eq_some_iff (by decide) (by rintro ⟨⟩ <;> rfl)

theorem ObjectNonPlayer.fromTypeValue_eq_some_iff {t2 t3 : UInt8} {object : ObjectNonPlayer} :
    fromTypeValue t2 t3 = some object ↔
      t2 = object.typeValue.1 ∧ (object.hasKind = true → t3 = object.typeValue.2) := by
  constructor
  · intro h
    unfold fromTypeValue at h
    split at h <;> simp at h
    all_goals first | subst h | obtain ⟨kind, rfl, rfl⟩ := h
    all_goals simp [typeValue, hasKind]
  · rintro ⟨rfl, h⟩
    cases object <;> simp [typeValue, hasKind, fromTypeValue] at h ⊢
    all_goals exact h

theorem ObjectEquippable.fromTypeValue_eq_some_iff {t2 t3 : UInt8} {object : ObjectEquippable} :
    fromTypeValue t2 t3 = some object ↔
      t2 = object.typeValue.1 ∧ (object.hasKind = true → t3 = object.typeValue.2) := by
  constructor
  · intro h
    unfold fromTypeValue at h
    split at h
    case h_9 =>
      -- the numbers that no other group has are those of clothes
      split at h
      · obtain ⟨kind, hkind, h⟩ := Option.bind_eq_some_iff.1 h
        obtain ⟨part, hpart, h⟩ := Option.bind_eq_some_iff.1 h
        obtain rfl := Option.some_inj.1 h
        exact ⟨ObjectClothingType.tryFrom_eq_some_iff.1 hkind, fun _ => ObjectClothingPart.tryFrom_eq_some_iff.1 hpart⟩
      · cases h
    all_goals simp at h
    all_goals first | subst h | obtain ⟨kind, rfl, rfl⟩ := h
    all_goals simp [typeValue, hasKind]
  · rintro ⟨rfl, h⟩
    cases hkind : object.hasKind with
    | true =>
        rw [h hkind]
        exact fromTypeValue_typeValue object
    | false => cases object <;> first | rfl | cases hkind

theorem ObjectSummon.fromTypeValue_eq_some_iff {t2 t3 : UInt8} {object : ObjectSummon} :
    fromTypeValue t2 t3 = some object ↔
      t2 = object.typeValue.1 ∧ (object.hasKind = true → t3 = object.typeValue.2) := by
  constructor
  · intro h
    unfold fromTypeValue at h
    split at h <;> simp at h
    all_goals first | subst h | obtain ⟨kind, rfl, rfl⟩ := h
    all_goals simp [typeValue, hasKind]
  · rintro ⟨rfl, h⟩
    cases object <;> simp [typeValue, hasKind, fromTypeValue] at h ⊢
    all_goals exact h

theorem ObjectConsumable.fromTypeValue_eq_some_iff {t2 t3 : UInt8} {object : ObjectConsumable} :
    fromTypeValue t2 t3 = some object ↔
      t2 = object.typeValue.1 ∧ (object.hasKind = true → t3 = object.typeValue.2) := by
  constructor
  · intro h
    unfold fromTypeValue at h
    split at h <;> simp at h
    all_goals first | subst h | obtain ⟨kind, rfl, rfl⟩ := h
    all_goals simp [typeValue, hasKind]
  · rintro ⟨rfl, h⟩
    cases object <;> simp [typeValue, hasKind, fromTypeValue] at h ⊢
    all_goals exact h

theorem ObjectItemTrade.fromTypeValue_eq_some_iff {t2 t3 : UInt8} {object : ObjectItemTrade} :
    fromTypeValue t2 t3 = some object ↔
      t2 = object.typeValue.1 ∧ (object.hasKind = true → t3 = object.typeValue.2) := by
  constructor
  · intro h
    unfold fromTypeValue at h
    split at h <;> simp at h
    all_goals first | subst h | obtain ⟨kind, rfl, rfl⟩ := h
    all_goals simp [typeValue, hasKind]
  · rintro ⟨rfl, h⟩
    cases object <;> simp [typeValue, hasKind, fromTypeValue] at h ⊢
    all_goals exact h

theorem ObjectItemPet.fromTypeValue_eq_some_iff {t2 t3 : UInt8} {object : ObjectItemPet} :
    fromTypeValue t2 t3 = some object ↔ t2 = object.typeValue.1 := by
  constructor
  · intro h
    unfold fromTypeValue at h
    split at h <;> cases h <;> rfl
  · rintro rfl
    cases object <;> rfl

theorem ObjectItem.fromTypeValue_eq_some_iff {t1 t2 t3 : UInt8} {object : ObjectItem} :
    fromTypeValue t1 t2 t3 = some object ↔
      t1 = object.typeValue.1 ∧ t2 = object.typeValue.2.1 ∧ (object.hasKind = true → t3 = object.typeValue.2.2) := by
  constructor
  · intro h
    unfold fromTypeValue at h
    split at h
    all_goals first | cases h | obtain ⟨kind, hkind, rfl⟩ := Option.map_eq_some_iff.1 h
    · exact ⟨rfl, ObjectEquippable.fromTypeValue_eq_some_iff.1 hkind⟩
    · exact ⟨rfl, ObjectSummon.fromTypeValue_eq_some_iff.1 hkind⟩
    · exact ⟨rfl, ObjectConsumable.fromTypeValue_eq_some_iff.1 hkind⟩
    · exact ⟨rfl, ObjectItemTrade.fromTypeValue_eq_some_iff.1 hkind⟩
    · exact ⟨rfl, ObjectItemPet.fromTypeValue_eq_some_iff.1 hkind, fun h => by cases h⟩
  · rintro ⟨rfl, h⟩
    cases object with
    | equippable kind => exact Option.map_eq_some_iff.2 ⟨kind, ObjectEquippable.fromTypeValue_eq_some_iff.2 h, rfl⟩
    | summon kind => exact Option.map_eq_some_iff.2 ⟨kind, ObjectSummon.fromTypeValue_eq_some_iff.2 h, rfl⟩
    | consumable kind => exact Option.map_eq_some_iff.2 ⟨kind, ObjectConsumable.fromTypeValue_eq_some_iff.2 h, rfl⟩
    | trade kind => exact Option.map_eq_some_iff.2 ⟨kind, ObjectItemTrade.fromTypeValue_eq_some_iff.2 h, rfl⟩
    | pet kind => exact Option.map_eq_some_iff.2 ⟨kind, ObjectItemPet.fromTypeValue_eq_some_iff.2 h.1, rfl⟩

theorem ObjectEntity.fromTypeValue_eq_some_iff {t1 t2 t3 : UInt8} {object : ObjectEntity} :
    fromTypeValue t1 t2 t3 = some object ↔
      match object with
      | .player => t1 = 1
      | .nonPlayer kind => t1 = 2 ∧ t2 = kind.typeValue.1 ∧ (kind.hasKind = true → t3 = kind.typeValue.2) := by
  have hplayer : fromTypeValue t1 t2 t3 = some .player ↔ t1 = 1 := by
    unfold fromTypeValue
    split <;> simp_all
  have hnonPlayer : ∀ kind, fromTypeValue t1 t2 t3 = some (.nonPlayer kind) ↔
      t1 = 2 ∧ ObjectNonPlayer.fromTypeValue t2 t3 = some kind := by
    intro kind
    unfold fromTypeValue
    split <;> simp_all
  cases object with
  | player => exact hplayer
  | nonPlayer kind => rw [hnonPlayer, ObjectNonPlayer.fromTypeValue_eq_some_iff]

theorem ObjectType.fromTypeId_eq_some_iff_cases {id : TypeId} {object : ObjectType} :
    fromTypeId id = some object ↔
      match object with
      | .entity kind => id.t0 = 1 ∧ ObjectEntity.fromTypeValue id.t1 id.t2 id.t3 = some kind
      | .item kind => id.t0 = 3 ∧ ObjectItem.fromTypeValue id.t1 id.t2 id.t3 = some kind
      | .area => id.t0 = 4 := by
  unfold fromTypeId
  split <;> cases object <;> simp_all

/-- **Which ids are of a type**: those that begin with the bytes of the type that are looked at. -/
theorem ObjectType.fromTypeId_eq_some_iff {id : TypeId} {object : ObjectType} :
    fromTypeId id = some object ↔ id.bytes.take object.width = object.typeId.bytes.take object.width := by
  rw [fromTypeId_eq_some_iff_cases]
  cases object with
  | area => simp [width, typeId, TypeId.bytes]
  | entity kind =>
      simp only [ObjectEntity.fromTypeValue_eq_some_iff]
      cases kind with
      | player => simp [width, typeId, TypeId.ofValue, TypeId.bytes, ObjectEntity.typeValue]
      | nonPlayer kind =>
          cases hkind : kind.hasKind <;>
            simp [width, typeId, TypeId.ofValue, TypeId.bytes, ObjectEntity.typeValue, hkind]
  | item kind =>
      simp only [ObjectItem.fromTypeValue_eq_some_iff]
      cases hkind : kind.hasKind <;> simp [width, typeId, TypeId.ofValue, TypeId.bytes, hkind]

/-- A type is found again by its own id. -/
theorem ObjectType.fromTypeId_typeId (object : ObjectType) : fromTypeId object.typeId = some object :=
  fromTypeId_eq_some_iff.2 rfl

end Skrillax

/-
**Items that are made, stored and loaded again.**

The command `MakeItem` drops an item of a given reference.  Its type data, the type data that is put
together again when the item is loaded from its row, and the content of the spawn packet are decided in
three places, each of which looks at the type of the reference in its own way.  They agree on everything
but pets, which are made like a stack and loaded as a pet.

Main definitions:

* `DataMap.findId` — the item data;
* `makeItem` — the item that the command drops;
* `InventoryItemData`, `inventoryItemData` — the items of the spawn packet;
* `SurvivesReload` — the item comes back from its row and can be sent to its player.

Main results:

* `makeItem_spec` — what is made, by the type of the reference;
* `makeItem_survives_iff` — **which items survive**.
-/

import Skrillax.ItemRows

set_option relaxedAutoImplicit false
set_option autoImplicit false

namespace Skrillax

open PartialAction

/-! ### The item data -/

/-- `DataMap`: the entries in the order of the files. -/
structure DataMap where
  items : List RefItemData

/-- The first entry with the id. -/
def DataMap.findId (data : DataMap) (id : UInt32) : Option RefItemData :=
  data.items.find? fun item => item.refId == id

theorem DataMap.findId_refId {data : DataMap} {id : UInt32} {ref : RefItemData}
    (h : data.findId id = some ref) : data.findId ref.refId = some ref := by
  have hid := List.find?_some h
  rw [beq_iff_eq] at hid
  rw [hid]
  exact h

/-! ### Making an item -/

/-- `GmCommand::MakeItem`; `none` is a panic. -/
def makeItem (data : DataMap) (refId : UInt32) (upgrade : UInt8) : Option Item := do
  let item ← data.findId refId
  let objectType ← ObjectType.fromTypeId item.common.typeId
  let itemType := match objectType with
    | .item (.equippable _) => ItemTypeData.equipment upgrade
    | .item (.consumable (.currency .gold)) => ItemTypeData.gold 1
    | _ => ItemTypeData.consumable 1
  return { reference := item, variance := none, typeData := itemType }

/-! ### The items of the spawn packet -/

structure InventoryItemBindingData where
  kind : UInt8
  value : UInt8
  deriving DecidableEq, Repr

/-- The content of an item.  There never are magic options. -/
inductive InventoryItemContentData where
  | equipment (plusLevel : UInt8) (variance : UInt64) (durability : UInt32)
      (bindings1 bindings2 bindings3 bindings4 : InventoryItemBindingData)
  | expendable (stackSize : UInt16)
  deriving DecidableEq, Repr

/-- The rent data is always empty. -/
structure InventoryItemData where
  slot : Slot
  itemId : UInt32
  contentData : InventoryItemContentData
  deriving DecidableEq, Repr

/-- The entry of an item in the packet that `send_spawn` sends; `none` is a panic. -/
def inventoryItemData (slot : Slot) (item : Item) : Option InventoryItemData := do
  let contentData ← match item.typeData with
    | .equipment upgradeLevel =>
        some (.equipment upgradeLevel (item.variance.getD 0) 1 ⟨1, 0⟩ ⟨2, 0⟩ ⟨3, 0⟩ ⟨4, 0⟩)
    | .consumable amount => some (.expendable amount)
    | _ => none
  return { slot, itemId := item.reference.refId, contentData }

/-! ### Storing and loading -/

/-- The item is stored with `AddItem`, and whatever the query returns, loading gives an inventory with
the same item in the slot, and there is an entry for it in the spawn packet. -/
def SurvivesReload (data : DataMap) (slot : Slot) (item : Item) : Prop :=
  ∀ (characterId : UInt32) (rows : ItemTable) (selected : List CharacterItem) (size : ℕ)
    (h : 0xC < size),
    runAll Statement.exec ((InventoryChange.addItem slot item).statements characterId)
        (fun _ => none) = some rows →
      Selected characterId rows selected →
        ∃ inv, fromDbInventory data.findId selected size h = some inv ∧ inv.items slot = some item ∧
          (inventoryItemData slot item).isSome = true

/-- The reference is that of an item, but not of a pet. -/
def Storable (ref : RefItemData) : Prop :=
  match ObjectType.fromTypeId ref.common.typeId with
  | some (.item (.pet _)) => False
  | some (.item _) => True
  | _ => False

/-- What is made, by the type of the reference. -/
theorem makeItem_spec {data : DataMap} {refId : UInt32} {upgrade : UInt8} {item : Item}
    (h : makeItem data refId upgrade = some item) (hbag : ∀ amount, item.typeData ≠ .gold amount) :
    data.findId item.reference.refId = some item.reference ∧
      ((∃ level, item.typeData = .equipment level) ∨ item.typeData = .consumable 1) ∧
      (Storable item.reference → TypeDataFits item.reference item.typeData) := by
  obtain ⟨ref, hfind, h⟩ := Option.bind_eq_some_iff.1 h
  obtain ⟨objectType, htype, h⟩ := Option.bind_eq_some_iff.1 h
  obtain rfl := Option.some_inj.1 h
  refine ⟨DataMap.findId_refId hfind, ?_⟩
  simp only [Storable, TypeDataFits, htype]
  split
  · exact ⟨Or.inl ⟨upgrade, rfl⟩, fun _ => ⟨upgrade, rfl⟩⟩
  · exact absurd rfl (hbag 1)
  · refine ⟨Or.inr rfl, fun hstorable => ?_⟩
    rename_i hequippable _
    rcases objectType with _ | (kind | _ | _ | _ | _) | _
    all_goals first
      | exact hstorable.elim
      | exact ⟨1, rfl⟩
      | exact absurd rfl (hequippable kind)

/-- Equipment and stacks have a representation in the spawn packet. -/
theorem inventoryItemData_isSome (slot : Slot) {item : Item}
    (h : (∃ level, item.typeData = .equipment level) ∨ item.typeData = .consumable 1) :
    (inventoryItemData slot item).isSome = true := by
  rcases h with ⟨level, hlevel⟩ | hamount
  · simp [inventoryItemData, hlevel]
  · simp [inventoryItemData, hamount]

/-- The row that `AddItem` stores. -/
theorem represents_addItem (characterId : UInt32) (slot : Slot) (item : Item) :
    Represents characterId
      (Function.update (fun _ => none) (rowKey characterId slot) (some (ItemRow.ofItem item)))
      (Function.update (fun _ => none) slot (some item)) :=
  (Represents.empty characterId).update slot (some item)

theorem selected_addItem (characterId : UInt32) (slot : Slot) (item : Item) :
    Selected characterId
      (Function.update (fun _ => none) (rowKey characterId slot) (some (ItemRow.ofItem item)))
      [⟨slotColumn slot, ItemRow.ofItem item⟩] := by
  rintro ⟨column, row⟩
  rw [List.mem_singleton]
  by_cases hcolumn : column = slotColumn slot
  · subst hcolumn
    rw [← rowKey, Function.update_self]
    simp [eq_comm]
  · have hkey : (characterId.toInt32, column) ≠ rowKey characterId slot :=
      fun h => hcolumn (Prod.mk.inj h).2
    simp [hkey, hcolumn]

/-- Loading the row of the item alone. -/
theorem fromDbInventory_singleton {data : DataMap} {slot : Slot} {item : Item} {inv : Inventory}
    {size : ℕ} {h : 0xC < size} (hfind : data.findId item.reference.refId = some item.reference)
    (hload : fromDbInventory data.findId [⟨slotColumn slot, ItemRow.ofItem item⟩] size h = some inv) :
    ∃ typeData, itemTypeDataFor item.reference ⟨slotColumn slot, ItemRow.ofItem item⟩ = some typeData ∧
      (inv.items slot).map Item.typeData = some typeData := by
  have hid : (ItemRow.ofItem item).itemObjId.toUInt32 = item.reference.refId := by
    simp [ItemRow.ofItem, RefItemData.refId]
  have hslot : (slotColumn slot).toUInt16.toUInt8 = slot := by simp [slotColumn]
  simp only [fromDbInventory, loadItems, hid, hfind, hslot, Option.bind_eq_bind, Option.bind_some]
    at hload
  obtain ⟨typeData, htype, hinv⟩ := Option.bind_eq_some_iff.1 hload
  refine ⟨typeData, htype, ?_⟩
  rw [← Option.some_inj.1 hinv]
  simp

/-- **Which items survive.**  What is made and picked up into the bag comes back from its row, and can be
sent to its player, exactly if its reference is that of an item and not of a pet. -/
theorem makeItem_survives_iff (data : DataMap) (refId : UInt32) (upgrade : UInt8) (item : Item)
    (slot : Slot) (hmake : makeItem data refId upgrade = some item)
    (hbag : ∀ amount, item.typeData ≠ .gold amount) :
    SurvivesReload data slot item ↔ Storable item.reference := by
  obtain ⟨hfind, hkind, hfits⟩ := makeItem_spec hmake hbag
  constructor
  · intro hsurvives
    obtain ⟨inv, hload, hitem, -⟩ := hsurvives 0 _ _ 45 (by omega) rfl
      (selected_addItem 0 slot item)
    obtain ⟨typeData, htype, hsame⟩ := fromDbInventory_singleton hfind hload
    rw [hitem, Option.map_some, Option.some_inj] at hsame
    subst hsame
    unfold itemTypeDataFor at htype
    unfold Storable
    split at htype
    · rename_i kind hobject
      rw [hobject]
      cases kind with
      | pet pet =>
          -- a pet is loaded as one, but was made like a stack
          rcases hkind with ⟨level, hlevel⟩ | hamount
          · rw [hlevel] at htype
            cases htype
          · rw [hamount] at htype
            cases htype
      | _ => trivial
    · cases htype
  · intro hstorable characterId rows selected size h hrows hselected
    obtain rfl := Option.some_inj.1 hrows
    have hrepresents := represents_addItem characterId slot item
    refine ⟨_, fromDbInventory_represents hrepresents ?_ hselected size h, ?_,
      inventoryItemData_isSome slot hkind⟩
    · intro slot' item' hitem'
      by_cases hslot : slot' = slot
      · subst hslot
        rw [Function.update_self, Option.some_inj] at hitem'
        subst hitem'
        exact ⟨hfind, hfits hstorable⟩
      · rw [Function.update_of_ne hslot] at hitem'
        cases hitem'
    · simp

/-- The reference of a recovery potion. -/
def potionData : DataMap := ⟨[⟨⟨4, ⟨3, 3, 1, 1⟩⟩, 50, none⟩]⟩

theorem makeItem_survives_potion :
    makeItem potionData 4 0 = some ⟨⟨⟨4, ⟨3, 3, 1, 1⟩⟩, 50, none⟩, none, .consumable 1⟩ ∧
      SurvivesReload potionData 13 ⟨⟨⟨4, ⟨3, 3, 1, 1⟩⟩, 50, none⟩, none, .consumable 1⟩ :=
  ⟨rfl, (makeItem_survives_iff potionData 4 0 _ 13 rfl (by simp)).2 trivial⟩

/-- The reference of a claw, an item of pets. -/
def clawData : DataMap := ⟨[⟨⟨9, ⟨3, 5, 1, 0⟩⟩, 1, none⟩]⟩

/-- A claw is made like a stack of one, but loaded as a pet. -/
theorem claw_does_not_survive :
    makeItem clawData 9 0 = some ⟨⟨⟨9, ⟨3, 5, 1, 0⟩⟩, 1, none⟩, none, .consumable 1⟩ ∧
      ¬ SurvivesReload clawData 13 ⟨⟨⟨9, ⟨3, 5, 1, 0⟩⟩, 1, none⟩, none, .consumable 1⟩ := by
  refine ⟨rfl, fun h => ?_⟩
  obtain ⟨inv, hload, hitem, -⟩ := h 0 _ _ 45 (by omega) rfl (selected_addItem 0 13 _)
  obtain ⟨typeData, htype, hsame⟩ := fromDbInventory_singleton rfl hload
  rw [hitem] at hsame
  cases hsame
  cases htype

end Skrillax

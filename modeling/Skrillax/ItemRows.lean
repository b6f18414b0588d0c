/-
**The rows of the items of a character.**

The items of a character are stored in the table `character_items`, at most one row for each character
and slot.  Every inventory change is translated into statements on this table; a swap takes three of
them, and keeps one of its rows at the slot `-1` in between.

Applied one after the other, the statements of a list of changes simulate the changes: if the rows
represent a slot map on which the list is applicable, no statement fails, and the rows represent the
slot map that the list leads to (`applyEach_represents`).  What is stored for the items of the item
data is what is loaded again (`fromDbInventory_represents`).

Main definitions:

* `ItemRow`, `ItemTable` — the rows, by character and slot;
* `InventoryChange.statements`, `applyEach`, `applyChangesExit` — the statements of a change, and their
  execution when a client disconnects;
* `fromDbInventory`, `itemTypeDataFor` — loading the inventory;
* `Represents` — the rows of a character are those of a slot map.

Main results:

* `InventoryChange.statements_represents` — the statements of a change do what the change does;
* `applyEach_represents` — **the statements of a list of changes simulate the list**;
* `fromDbInventory_represents` — **the items stored are loaded again**.
-/

import Skrillax.Inventory
import Skrillax.Table

set_option relaxedAutoImplicit false
set_option autoImplicit false

namespace Skrillax

open PartialAction

/-! ### Rows and statements -/

/-- The columns of `character_items` that describe an item; the serial id is left out. -/
structure ItemRow where
  itemObjId : Int32
  upgradeLevel : Int16
  variance : Option Int64
  amount : Int16
  deriving DecidableEq, Repr

/-- The unique key of a row: character and slot. -/
abbrev RowKey := Int32 × Int16

abbrev ItemTable := Table RowKey ItemRow

def slotColumn (slot : Slot) : Int16 := slot.toUInt16.toInt16

def upgradeLevelColumn (data : ItemTypeData) : Int16 :=
  (data.upgradeLevel.map fun level => level.toUInt16.toInt16).getD 0

def amountColumn (data : ItemTypeData) : Int16 := data.amount.toUInt16.toInt16

def ItemRow.ofItem (item : Item) : ItemRow where
  itemObjId := item.reference.common.refId.toInt32
  upgradeLevel := upgradeLevelColumn item.typeData
  variance := item.variance.map UInt64.toInt64
  amount := amountColumn item.typeData

/-- The key of a slot of the character. -/
def rowKey (characterId : UInt32) (slot : Slot) : RowKey := (characterId.toInt32, slotColumn slot)

/-- The key at which a swap keeps one of its rows. -/
def tempKey (characterId : UInt32) : RowKey := (characterId.toInt32, -1)

/-- The statements of `ApplyToDatabase::apply` for a change, in their order. -/
def InventoryChange.statements (characterId : UInt32) :
    InventoryChange → List (Statement RowKey ItemRow)
  | addItem slot item => [.upsert (rowKey characterId slot) (ItemRow.ofItem item)]
  | changeTypeData slot _ newItem =>
      [.update (rowKey characterId slot) fun row =>
        { row with upgradeLevel := upgradeLevelColumn newItem, amount := amountColumn newItem }]
  | moveItem sourceSlot targetSlot =>
      [.rekey (rowKey characterId sourceSlot) (rowKey characterId targetSlot)]
  | removeItem slot => [.delete (rowKey characterId slot)]
  | swap firstSlot secondSlot =>
      [.rekey (rowKey characterId firstSlot) (tempKey characterId),
       .rekey (rowKey characterId secondSlot) (rowKey characterId firstSlot),
       .rekey (tempKey characterId) (rowKey characterId secondSlot)]

/-- Apply the changes one after the other.  A statement that fails ends its change, is reported, and
the next change is applied. -/
def applyEach (characterId : UInt32) :
    List InventoryChange → ItemTable → ItemTable × List (Statement RowKey ItemRow)
  | [], rows => (rows, [])
  | change :: changes, rows =>
      let (rows, error) := attempt Statement.exec (change.statements characterId) rows
      let (rows, errors) := applyEach characterId changes rows
      (rows, error.toList ++ errors)

/-- What `apply_changes_exit` does with the changes it has taken from the collection. -/
def applyChangesExit (characterId : UInt32) (changes : List InventoryChange) (rows : ItemTable) :
    ItemTable × List (Statement RowKey ItemRow) :=
  applyEach characterId (optimize changes) rows

/-! ### Keys -/

theorem slotColumn_injective : Function.Injective slotColumn := by
  intro a b h
  have h16 : a.toUInt16 = b.toUInt16 := by simpa [slotColumn] using congrArg Int16.toUInt16 h
  simpa using congrArg UInt16.toUInt8 h16

theorem slotColumn_ne_neg_one (slot : Slot) : slotColumn slot ≠ -1 := by
  intro h
  have hbits := congrArg (fun x : Int16 => x.toUInt16.toNat) h
  have hlt := slot.toNat_lt
  simp only [slotColumn, UInt16.toUInt16_toInt16, UInt8.toNat_toUInt16] at hbits
  have hneg : (-1 : Int16).toUInt16.toNat = 65535 := by decide
  omega

theorem rowKey_inj {characterId : UInt32} {slot slot' : Slot} :
    rowKey characterId slot = rowKey characterId slot' ↔ slot = slot' := by
  constructor
  · intro h
    exact slotColumn_injective (Prod.mk.inj h).2
  · rintro rfl
    rfl

theorem rowKey_ne_tempKey (characterId : UInt32) (slot : Slot) :
    rowKey characterId slot ≠ tempKey characterId :=
  fun h => slotColumn_ne_neg_one slot (Prod.mk.inj h).2

namespace InventoryChange

def isSwap : InventoryChange → Bool
  | swap _ _ => true
  | _ => false

/-- The rows that the statements of a change touch: those of its slots, and the one at `-1` for a
swap. -/
def rowKeys (characterId : UInt32) (change : InventoryChange) : Set RowKey :=
  {key | (∃ slot ∈ change.slots, key = rowKey characterId slot) ∨
    change.isSwap ∧ key = tempKey characterId}

theorem mem_rowKeys_of_mem_statements {characterId : UInt32} {change : InventoryChange}
    {stmt : Statement RowKey ItemRow} (hstmt : stmt ∈ change.statements characterId) {key : RowKey}
    (hkey : key ∈ stmt.keys) : key ∈ change.rowKeys characterId := by
  cases change with
  | addItem | changeTypeData | moveItem | removeItem | swap =>
      simp only [statements, List.mem_cons, List.not_mem_nil, or_false] at hstmt
      rcases hstmt with rfl | rfl | rfl <;>
        simp only [Statement.keys, List.mem_cons, List.not_mem_nil, or_false] at hkey <;>
        rcases hkey with rfl | rfl <;> simp [rowKeys, slots, isSwap]

theorem hasFootprint_of_mem_statements {characterId : UInt32} {change : InventoryChange}
    {stmt : Statement RowKey ItemRow} (hstmt : stmt ∈ change.statements characterId) :
    HasFootprint stmt.exec (change.rowKeys characterId) :=
  stmt.hasFootprint.mono fun _ hkey => mem_rowKeys_of_mem_statements hstmt hkey

/-- The statements of a change touch the rows of its character only. -/
theorem statements_footprint (characterId : UInt32) (change : InventoryChange) :
    HasFootprint (runAll Statement.exec (change.statements characterId))
      {key | key.1 = characterId.toInt32} := by
  refine HasFootprint.runAll fun stmt hstmt => (hasFootprint_of_mem_statements hstmt).mono ?_
  rintro key (⟨slot, -, rfl⟩ | ⟨-, rfl⟩)
  · rfl
  · rfl

end InventoryChange

/-! ### Representation -/

/-- The rows of the character are those of the items of a slot map, and there are no others. -/
structure Represents (characterId : UInt32) (rows : ItemTable) (S : SlotMap) : Prop where
  stored : ∀ slot, rows (rowKey characterId slot) = (S slot).map ItemRow.ofItem
  inRange : ∀ column, (rows (characterId.toInt32, column)).isSome →
    ∃ slot, column = slotColumn slot

namespace Represents

variable {characterId : UInt32} {rows : ItemTable} {S : SlotMap}

theorem stored_some (h : Represents characterId rows S) {slot : Slot} {item : Item}
    (hitem : S slot = some item) : rows (rowKey characterId slot) = some (ItemRow.ofItem item) := by
  rw [h.stored, hitem]
  rfl

/-- There is no row at the slot that swaps use in between. -/
theorem tempKey_free (h : Represents characterId rows S) : rows (tempKey characterId) = none := by
  cases hrow : rows (tempKey characterId) with
  | none => rfl
  | some row =>
      have hsome : (rows (characterId.toInt32, -1)).isSome := by
        rw [show (characterId.toInt32, -1) = tempKey characterId from rfl, hrow]
        rfl
      obtain ⟨slot, hslot⟩ := h.inRange (-1) hsome
      exact absurd hslot.symm (slotColumn_ne_neg_one slot)

theorem empty (characterId : UInt32) : Represents characterId (fun _ => none) fun _ => none :=
  ⟨fun _ => rfl, fun _ h => by simp at h⟩

/-- Storing or deleting the row of a slot. -/
theorem update (h : Represents characterId rows S) (slot : Slot) (item : Option Item) :
    Represents characterId
      (Function.update rows (rowKey characterId slot) (item.map ItemRow.ofItem))
      (Function.update S slot item) := by
  constructor
  · intro slot'
    by_cases heq : slot' = slot
    · rw [heq, Function.update_self, Function.update_self]
    · rw [Function.update_of_ne heq, Function.update_of_ne (rowKey_inj.not.2 heq), h.stored]
  · intro column hsome
    by_cases heq : (characterId.toInt32, column) = rowKey characterId slot
    · exact ⟨slot, (Prod.mk.inj heq).2⟩
    · rw [Function.update_of_ne heq] at hsome
      exact h.inRange column hsome

end Represents

/-! ### Simulation -/

/-- The statements of a change do what the change does. -/
theorem InventoryChange.statements_represents {characterId : UInt32} {change : InventoryChange}
    {rows : ItemTable} {S T : SlotMap} (h : Represents characterId rows S)
    (happly : change.apply S = some T) :
    ∃ rows', runAll Statement.exec (change.statements characterId) rows = some rows' ∧
      Represents characterId rows' T := by
  cases change with
  | addItem slot item =>
      obtain ⟨-, rfl⟩ := apply_addItem.1 happly
      exact ⟨_, rfl, h.update slot (some item)⟩
  | changeTypeData slot oldItem newItem =>
      obtain ⟨item, hitem, -, rfl⟩ := apply_changeTypeData.1 happly
      refine ⟨_, rfl, ?_⟩
      rw [h.stored_some hitem]
      exact h.update slot (some { item with typeData := newItem })
  | moveItem sourceSlot targetSlot =>
      obtain ⟨item, hsource, htarget, rfl⟩ := apply_moveItem.1 happly
      have hfree : rows (rowKey characterId targetSlot) = none := by
        rw [h.stored, htarget]
        rfl
      refine ⟨_, ?_, (h.update sourceSlot none).update targetSlot (some item)⟩
      rw [statements, runAll_singleton, Statement.exec_rekey (h.stored_some hsource) hfree]
      rfl
  | removeItem slot =>
      obtain ⟨item, -, rfl⟩ := apply_removeItem.1 happly
      exact ⟨_, rfl, h.update slot none⟩
  | swap firstSlot secondSlot =>
      obtain ⟨first, second, hfirst, hsecond, rfl⟩ := apply_swap.1 happly
      exact ⟨_, Statement.runAll_exchange (rowKey_ne_tempKey _ _) (rowKey_ne_tempKey _ _)
        h.tempKey_free (h.stored_some hfirst) (h.stored_some hsecond),
        (h.update firstSlot (some second)).update secondSlot (some first)⟩

/-- If the statements of every change succeed in their turn, nothing is reported. -/
theorem applyEach_eq_of_runAll {characterId : UInt32} {changes : List InventoryChange}
    {rows rows' : ItemTable}
    (h : runAll Statement.exec (changes.flatMap (InventoryChange.statements characterId)) rows =
      some rows') : applyEach characterId changes rows = (rows', []) := by
  induction changes generalizing rows with
  | nil =>
      obtain rfl := Option.some_inj.1 h
      rfl
  | cons change changes ih =>
      rw [List.flatMap_cons, runAll_append] at h
      obtain ⟨rows₁, h₁, h⟩ := Option.bind_eq_some_iff.1 h
      rw [applyEach, attempt_eq_of_runAll h₁]
      simp only [ih h]
      rfl

/-- The statements of a list of changes do what the list does, and touch no other character. -/
theorem runAll_statements_represents {characterId : UInt32} {changes : List InventoryChange}
    {rows : ItemTable} {S T : SlotMap} (h : Represents characterId rows S)
    (happly : runAll InventoryChange.apply changes S = some T) :
    ∃ rows', runAll Statement.exec (changes.flatMap (InventoryChange.statements characterId)) rows =
        some rows' ∧ Represents characterId rows' T ∧
      ∀ key : RowKey, key.1 ≠ characterId.toInt32 → rows' key = rows key := by
  induction changes generalizing rows S with
  | nil =>
      obtain rfl := Option.some_inj.1 happly
      exact ⟨rows, rfl, h, fun _ _ => rfl⟩
  | cons change changes ih =>
      obtain ⟨U, hU, hT⟩ := Option.bind_eq_some_iff.1 happly
      obtain ⟨rows₁, hrun₁, hrep₁⟩ := change.statements_represents h hU
      obtain ⟨rows₂, hrun₂, hrep₂, hframe₂⟩ := ih hrep₁ hT
      refine ⟨rows₂, ?_, hrep₂, fun key hkey => ?_⟩
      · rw [List.flatMap_cons, runAll_append, hrun₁]
        exact hrun₂
      · rw [hframe₂ key hkey, (change.statements_footprint characterId).frame hrun₁ key hkey]

/-- **The statements of a list of changes simulate the list**: run one after the other on rows that
represent a slot map on which the list is applicable, none fails, the rows represent the slot map that
the list leads to, no row is left at the slot of the swaps, and the rows of the other characters
are what they were. -/
theorem applyEach_represents (characterId : UInt32) (changes : List InventoryChange)
    (rows : ItemTable) (S T : SlotMap) (hrows : Represents characterId rows S)
    (happly : runAll InventoryChange.apply changes S = some T) :
    ∃ rows', applyEach characterId changes rows = (rows', []) ∧
      Represents characterId rows' T ∧ rows' (tempKey characterId) = none ∧
      ∀ key : RowKey, key.1 ≠ characterId.toInt32 → rows' key = rows key := by
  obtain ⟨rows', hrun, hrep, hframe⟩ := runAll_statements_represents hrows happly
  exact ⟨rows', applyEach_eq_of_runAll hrun, hrep, hrep.tempKey_free, hframe⟩

/-- Two stacks change places, and one of them is moved on and used up. -/
theorem applyEach_represents_swap :
    let rows : ItemTable := Function.update (Function.update (fun _ => none)
      (rowKey 7 13) (some (ItemRow.ofItem (potion 5))))
      (rowKey 7 14) (some (ItemRow.ofItem (potion 8)))
    ∃ rows', applyEach 7 [.swap 13 14, .moveItem 14 20, .removeItem 20] rows = (rows', []) ∧
      rows' (rowKey 7 13) = some (ItemRow.ofItem (potion 8)) ∧ rows' (rowKey 7 14) = none ∧
      rows' (rowKey 7 20) = none ∧ rows' (tempKey 7) = none := by
  intro rows
  have hrep : Represents 7 rows (Function.update (Function.update (fun _ => none) 13
      (some (potion 5))) 14 (some (potion 8))) :=
    ((Represents.empty 7).update 13 (some (potion 5))).update 14 (some (potion 8))
  obtain ⟨rows', hrun, hrep', htemp, -⟩ := applyEach_represents 7
    [.swap 13 14, .moveItem 14 20, .removeItem 20] rows _ _ hrep rfl
  refine ⟨rows', hrun, ?_, ?_, ?_, htemp⟩
  · rw [hrep'.stored]
    rfl
  · rw [hrep'.stored]
    rfl
  · rw [hrep'.stored]
    rfl

/-! ### Loading -/

/-- A row as it is selected for a character. -/
structure CharacterItem where
  slot : Int16
  row : ItemRow
  deriving DecidableEq, Repr

/-- `item_type_data_for`; `None`, which its caller unwraps, and a panic are the same here. -/
def itemTypeDataFor (refData : RefItemData) (item : CharacterItem) : Option ItemTypeData :=
  match ObjectType.fromTypeId refData.common.typeId with
  | some (.item itemType) =>
      match itemType with
      | .equippable _ => some (.equipment item.row.upgradeLevel.toUInt16.toUInt8)
      | .pet _ => some .cos
      | _ => some (.consumable item.row.amount.toUInt16)
  | _ => none

/-- The loop of `from_db_inventory`, with the item data as a function from ids; `none` is a panic. -/
def loadItems (findId : UInt32 → Option RefItemData) :
    List CharacterItem → Inventory → Option Inventory
  | [], inventory => some inventory
  | item :: items, inventory => do
      let itemDef ← findId item.row.itemObjId.toUInt32
      let typeData ← itemTypeDataFor itemDef item
      loadItems findId items (inventory.setItem item.slot.toUInt16.toUInt8
        { reference := itemDef, variance := item.row.variance.map Int64.toUInt64, typeData })

def fromDbInventory (findId : UInt32 → Option RefItemData) (items : List CharacterItem) (size : ℕ)
    (h : 0xC < size) : Option Inventory :=
  loadItems findId items (Inventory.new size h)

/-- What a query for the items of a character may return: its rows, in any order. -/
def Selected (characterId : UInt32) (rows : ItemTable) (items : List CharacterItem) : Prop :=
  ∀ item, item ∈ items ↔ rows (characterId.toInt32, item.slot) = some item.row

/-- The type data is of the kind that belongs to the type of the reference. -/
def TypeDataFits (refData : RefItemData) (data : ItemTypeData) : Prop :=
  match ObjectType.fromTypeId refData.common.typeId with
  | some (.item (.equippable _)) => ∃ level, data = .equipment level
  | some (.item (.pet _)) => data = .cos
  | some (.item _) => ∃ amount, data = .consumable amount
  | _ => False

/-- The items of a slot map come from the item data. -/
def FromItemData (findId : UInt32 → Option RefItemData) (S : SlotMap) : Prop :=
  ∀ slot item, S slot = some item →
    findId item.reference.refId = some item.reference ∧ TypeDataFits item.reference item.typeData

/-- The casts of the columns lose nothing of the type data. -/
theorem itemTypeDataFor_ofItem {item : Item} (slot : Int16)
    (h : TypeDataFits item.reference item.typeData) :
    itemTypeDataFor item.reference ⟨slot, ItemRow.ofItem item⟩ = some item.typeData := by
  unfold TypeDataFits at h
  unfold itemTypeDataFor
  split at h
  · obtain ⟨level, hlevel⟩ := h
    simp [ItemRow.ofItem, upgradeLevelColumn, ItemTypeData.upgradeLevel, *]
  · simp [*]
  · obtain ⟨amount, hamount⟩ := h
    rename_i itemType _ _ heq
    cases itemType <;>
      simp_all [ItemRow.ofItem, amountColumn, ItemTypeData.amount]
  · exact h.elim

/-- Loading rows that come from a slot map puts its items into their slots. -/
theorem loadItems_eq {findId : UInt32 → Option RefItemData} {S : SlotMap}
    (hS : FromItemData findId S) :
    ∀ (items : List CharacterItem) (inv : Inventory),
      (∀ item ∈ items, ∃ slot it, S slot = some it ∧ item = ⟨slotColumn slot, ItemRow.ofItem it⟩) →
      ∃ inv', loadItems findId items inv = some inv' ∧ inv'.size = inv.size ∧
        inv'.changes = inv.changes ∧
        ∀ slot, inv'.items slot =
          if slotColumn slot ∈ items.map CharacterItem.slot then S slot else inv.items slot := by
  intro items
  induction items with
  | nil =>
      intro inv _
      exact ⟨inv, rfl, rfl, rfl, fun slot => by simp⟩
  | cons item items ih =>
      intro inv hitems
      obtain ⟨slot₀, it, hit, rfl⟩ := hitems item List.mem_cons_self
      obtain ⟨hfind, hfits⟩ := hS slot₀ it hit
      obtain ⟨inv', hload, hsize, hchanges, hslots⟩ := ih (inv.setItem slot₀ it)
        fun other hother => hitems other (List.mem_cons_of_mem _ hother)
      refine ⟨inv', ?_, hsize, hchanges, fun slot => ?_⟩
      · have hid : (ItemRow.ofItem it).itemObjId.toUInt32 = it.reference.refId := by
          simp [ItemRow.ofItem, RefItemData.refId]
        have hslot : (slotColumn slot₀).toUInt16.toUInt8 = slot₀ := by simp [slotColumn]
        have hvar : (ItemRow.ofItem it).variance.map Int64.toUInt64 = it.variance := by
          simp [ItemRow.ofItem, Function.comp_def]
        simp only [loadItems, hid, hfind, itemTypeDataFor_ofItem _ hfits, hslot, hvar, hload,
          Option.bind_eq_bind, Option.bind_some]
      · rw [hslots slot]
        by_cases heq : slot = slot₀
        · subst heq
          simp [hit]
        · have hne : slotColumn slot ≠ slotColumn slot₀ := slotColumn_injective.ne heq
          simp [hne, heq]

/-- **The items stored are loaded again**: whatever the order in which the rows of the character are
selected, loading them gives the slot map that they represent, and an empty log. -/
theorem fromDbInventory_represents {findId : UInt32 → Option RefItemData} {characterId : UInt32}
    {rows : ItemTable} {S : SlotMap} {items : List CharacterItem}
    (hrows : Represents characterId rows S) (hS : FromItemData findId S)
    (hitems : Selected characterId rows items) (size : ℕ) (h : 0xC < size) :
    fromDbInventory findId items size h = some ⟨size, S, [], h⟩ := by
  have hsource : ∀ item ∈ items, ∃ slot it, S slot = some it ∧
      item = ⟨slotColumn slot, ItemRow.ofItem it⟩ := by
    intro item hitem
    have hrow := (hitems item).1 hitem
    obtain ⟨slot, hslot⟩ := hrows.inRange item.slot (by rw [hrow]; rfl)
    have hstored := hrows.stored slot
    rw [rowKey, ← hslot, hrow, eq_comm, Option.map_eq_some_iff] at hstored
    obtain ⟨it, hit, hit'⟩ := hstored
    refine ⟨slot, it, hit, ?_⟩
    rw [← hslot, hit']
  obtain ⟨inv', hload, hsize, hchanges, hslots⟩ := loadItems_eq hS items (Inventory.new size h) hsource
  have hitems' : inv'.items = S := by
    funext slot
    rw [hslots slot]
    split
    · rfl
    · rename_i hnot
      cases hslot : S slot with
      | none => rfl
      | some it =>
          have hmem := (hitems ⟨slotColumn slot, ItemRow.ofItem it⟩).2 (hrows.stored_some hslot)
          exact absurd (List.mem_map_of_mem hmem) hnot
  rw [fromDbInventory, hload]
  cases inv'
  simp_all [Inventory.new]

end Skrillax

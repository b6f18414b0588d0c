/-
**The inventory.**

An inventory is a bag of slots with a log of the changes made to it.  Its three operations move an
item between two slots (stacking or swapping if the target is occupied), add an item (on top of a
stack of its kind if there is room) and remove a quantity.  An operation returns `none` if the code
panics; what it returns with an error is the state as the early return leaves it.

The stacks of a kind are visited in the iteration order of a hash map, which is not specified: the
operations take the order as an argument.

For each operation there is one inductive relation that lists everything a call can do
(`MoveOutcome`, `AddOutcome`, `RemoveOutcome`), and one theorem that a call does one of these
things; the invariants of the later modules are case analyses over these relations.

Main definitions:

* `Inventory`, `Inventory.moveItem`, `Inventory.addItem`, `Inventory.removeItem` — the code;
* `Inventory.IterationOrder` — the orders a hash map may iterate in;
* `Inventory.MoveOutcome`, `Inventory.AddOutcome`, `Inventory.RemoveOutcome` — what a call can do;
* `Inventory.stackWithRoom` — the stack that an addition goes on top of.

Main results:

* `Inventory.moveItem_outcome`, `Inventory.addItem_outcome`, `Inventory.removeItem_outcome`;
* `Inventory.addItem_cases` — an addition goes on top of the first stack with room.
-/

import Skrillax.InventoryChange

set_option relaxedAutoImplicit false
set_option autoImplicit false

namespace Skrillax

open Rust

/-- A bag of at least thirteen slots, with the log of its changes. -/
structure Inventory where
  size : ℕ
  items : SlotMap
  changes : List InventoryChange
  minSize : 0xC < size

namespace Inventory

/-! ### Slots -/

/-- `Inventory::new`, for the sizes that pass its assertion. -/
def new (size : ℕ) (h : 0xC < size) : Inventory := ⟨size, fun _ => none, [], h⟩

/-- `Inventory::default`. -/
instance : Inhabited Inventory := ⟨new 45 (by decide)⟩

def getItemAt (inv : Inventory) (slot : Slot) : Option Item := inv.items slot

def isEquipmentSlot (slot : Slot) : Bool := slot ≤ 0xC

/-- The slots of the bag proper.  The size is cut to eight bits first. -/
def nonEquipmentSlots (inv : Inventory) : List Slot :=
  ((List.range (UInt8.ofNat inv.size).toNat).map UInt8.ofNat).filter fun slot =>
    !isEquipmentSlot slot

def emptySlot (inv : Inventory) : Option Slot :=
  inv.nonEquipmentSlots.find? fun slot => (inv.items slot).isNone

/-- `HashMap::insert` on the items. -/
def setItem (inv : Inventory) (slot : Slot) (item : Item) : Inventory :=
  { inv with items := Function.update inv.items slot (some item) }

/-- `HashMap::remove` on the items. -/
def clearSlot (inv : Inventory) (slot : Slot) : Inventory :=
  { inv with items := Function.update inv.items slot none }

/-- Append to the log. -/
def log (inv : Inventory) (c : InventoryChange) : Inventory :=
  { inv with changes := inv.changes ++ [c] }

@[simp] theorem setItem_items (inv : Inventory) (slot : Slot) (item : Item) :
    (inv.setItem slot item).items = Function.update inv.items slot (some item) := rfl

@[simp] theorem setItem_changes (inv : Inventory) (slot : Slot) (item : Item) :
    (inv.setItem slot item).changes = inv.changes := rfl

@[simp] theorem setItem_size (inv : Inventory) (slot : Slot) (item : Item) :
    (inv.setItem slot item).size = inv.size := rfl

@[simp] theorem clearSlot_items (inv : Inventory) (slot : Slot) :
    (inv.clearSlot slot).items = Function.update inv.items slot none := rfl

@[simp] theorem clearSlot_changes (inv : Inventory) (slot : Slot) :
    (inv.clearSlot slot).changes = inv.changes := rfl

@[simp] theorem clearSlot_size (inv : Inventory) (slot : Slot) :
    (inv.clearSlot slot).size = inv.size := rfl

@[simp] theorem log_items (inv : Inventory) (c : InventoryChange) :
    (inv.log c).items = inv.items := rfl

@[simp] theorem log_changes (inv : Inventory) (c : InventoryChange) :
    (inv.log c).changes = inv.changes ++ [c] := rfl

@[simp] theorem log_size (inv : Inventory) (c : InventoryChange) :
    (inv.log c).size = inv.size := rfl

/-- Every item, in its slot, has the property. -/
def AllItems (P : Slot → Item → Prop) (inv : Inventory) : Prop :=
  ∀ slot item, inv.items slot = some item → P slot item

theorem AllItems.setItem {P : Slot → Item → Prop} {inv : Inventory} (h : AllItems P inv)
    {slot : Slot} {item : Item} (hitem : P slot item) : AllItems P (inv.setItem slot item) := by
  intro slot' item' hitem'
  by_cases heq : slot' = slot
  · subst heq
    rw [setItem_items, Function.update_self, Option.some_inj] at hitem'
    exact hitem' ▸ hitem
  · rw [setItem_items, Function.update_of_ne heq] at hitem'
    exact h slot' item' hitem'

theorem AllItems.clearSlot {P : Slot → Item → Prop} {inv : Inventory} (h : AllItems P inv)
    (slot : Slot) : AllItems P (inv.clearSlot slot) := by
  intro slot' item' hitem'
  by_cases heq : slot' = slot
  · subst heq
    simp at hitem'
  · rw [clearSlot_items, Function.update_of_ne heq] at hitem'
    exact h slot' item' hitem'

theorem AllItems.log {P : Slot → Item → Prop} {inv : Inventory} (h : AllItems P inv)
    (c : InventoryChange) : AllItems P (inv.log c) := h

theorem AllItems.of_items_eq {P : Slot → Item → Prop} {inv inv' : Inventory} (h : AllItems P inv)
    (heq : inv'.items = inv.items) : AllItems P inv' := by
  intro slot item hitem
  rw [heq] at hitem
  exact h slot item hitem

/-- The orders in which a hash map with these entries may be iterated. -/
def IterationOrder (items : SlotMap) (order : List Slot) : Prop :=
  order.Nodup ∧ ∀ slot, slot ∈ order ↔ (items slot).isSome

/-- The slots with items of the same reference and variance, in the order of the iteration. -/
def findSlotsMatching (inv : Inventory) (order : List Slot) (item : Item) : List Slot :=
  order.filter fun slot =>
    match inv.items slot with
    | some existing => existing.reference.eq item.reference && existing.variance == item.variance
    | none => false

/-! ### Moving -/

def moveItem (p : Profile) (inv : Inventory) (source target : Slot) (amount : UInt16) :
    Option (Inventory × Except MoveError UInt16) :=
  match inv.items source with
  | none => some (inv, .error .itemDoesNotExist)
  | some sourceItem =>
      -- both items are taken out first, so an early return loses them
      let inv := inv.clearSlot source
      match inv.items target with
      | none =>
          some ((inv.log (.moveItem source target)).setItem target sourceItem, .ok amount)
      | some targetItem =>
          let inv := inv.clearSlot target
          if sourceItem.reference.refId = targetItem.reference.refId ∧
              1 < sourceItem.reference.maxStackSize then do
            let available ← p.subU16 targetItem.reference.maxStackSize targetItem.stackSize
            if available = 0 then
              return ((inv.setItem source sourceItem).setItem target targetItem, .ok 0)
            else if amount ≤ available then
              match ← targetItem.changeStackSize p amount.toInt16 with
              | .error e => return (inv, .error e)
              | .ok newTarget =>
                  return (((inv.log (.removeItem source)).log
                    (.changeTypeData target targetItem.typeData newTarget.typeData)).setItem target
                      newTarget, .ok amount)
            else
              match ← targetItem.changeStackSize p available.toInt16 with
              | .error e => return (inv, .error e)
              | .ok newTarget =>
                  let inv := inv.log
                    (.changeTypeData target targetItem.typeData newTarget.typeData)
                  let delta ← p.negI16 available.toInt16
                  match ← sourceItem.changeStackSize p delta with
                  | .error e => return (inv, .error e)
                  | .ok newSource =>
                      let inv := inv.log
                        (.changeTypeData source sourceItem.typeData newSource.typeData)
                      return ((inv.setItem source newSource).setItem target newTarget,
                        .ok available)
          else
            some (((inv.log (.swap source target)).setItem target sourceItem).setItem source
              targetItem, .ok amount)

/-! ### Adding -/

/-- Put the item into the first empty slot of the bag. -/
def addToEmptySlot (inv : Inventory) (item : Item) : Inventory × Option Slot :=
  match inv.emptySlot with
  | some freeSlot => ((inv.setItem freeSlot item).log (.addItem freeSlot item), some freeSlot)
  | none => (inv, none)

/-- Replace the type data of the item at a slot, with a log entry. -/
def setTypeData (inv : Inventory) (slot : Slot) (existing : Item) (newData : ItemTypeData) :
    Inventory :=
  (inv.setItem slot { existing with typeData := newData }).log
    (.changeTypeData slot existing.typeData newData)

/-- Put the item on top of the stack `existing` at slot `i`; what does not fit goes to an empty slot
of the bag, and is dropped if there is none. -/
def addToStack (p : Profile) (inv : Inventory) (i : Slot) (existing item : Item) :
    Option (Inventory × Option Slot) :=
  match existing.typeData, item.typeData with
  | .consumable existingAmount, .consumable addedAmount => do
      let sumAmount ← p.addU16 existingAmount addedAmount
      if sumAmount ≤ item.reference.maxStackSize then
        return (inv.setTypeData i existing (.consumable sumAmount), some i)
      else
        let inv := inv.setTypeData i existing (.consumable item.reference.maxStackSize)
        let remaining := sumAmount - item.reference.maxStackSize
        return inv.addToEmptySlot { item with typeData := .consumable remaining }
  | _, _ => some (inv, none)

/-- The loop of `addItem`: the first stack with room takes the item. -/
def addItemLoop (p : Profile) (inv : Inventory) (item : Item) :
    List Slot → Option (Inventory × Option Slot)
  | [] => some (inv.addToEmptySlot item)
  | i :: slots =>
      match inv.items i with
      | none => none
      | some existing =>
          if !existing.isMaxStacked && existing.reference.refId == item.reference.refId then
            inv.addToStack p i existing item
          else addItemLoop p inv item slots

def addItem (p : Profile) (order : List Slot) (inv : Inventory) (item : Item) :
    Option (Inventory × Option Slot) :=
  if 1 < item.reference.maxStackSize then
    inv.addItemLoop p item (inv.findSlotsMatching order item)
  else some (inv.addToEmptySlot item)

/-! ### Removing -/

/-- Take the item out of a slot, with a log entry. -/
def takeOut (inv : Inventory) (slot : Slot) : Inventory :=
  (inv.clearSlot slot).log (.removeItem slot)

/-- The loop of `removeItem`; a stack that holds more than is left to remove is only made smaller. -/
def removeItemLoop (p : Profile) :
    List Slot → Inventory → UInt16 → UInt16 → Option (Inventory × Except MoveError UInt16)
  | [], inv, _, removed => some (inv, .ok removed)
  | i :: slots, inv, toRemove, removed =>
      match inv.items i with
      | none => none
      | some existing =>
          if 1 < toRemove then
            if toRemove < existing.stackSize then do
              let delta ← p.negI16 toRemove.toInt16
              match ← existing.changeStackSize p delta with
              | .error e => return (inv, .error e)
              | .ok smaller =>
                  let removed ← p.addU16 removed toRemove
                  return (inv.setItem i smaller, .ok removed)
            else do
              let removed ← p.addU16 removed existing.stackSize
              removeItemLoop p slots (inv.takeOut i)
                (saturatingSubU16 toRemove existing.stackSize) removed
          else do
            let removed ← p.addU16 removed 1
            return (inv.takeOut i, .ok removed)

def removeItem (p : Profile) (order : List Slot) (inv : Inventory) (item : Item) :
    Option (Inventory × Except MoveError UInt16) :=
  removeItemLoop p (inv.findSlotsMatching order item) inv item.stackSize 0

/-- One call of an operation; the orders are those in which the hash map is iterated during the
call. -/
inductive Op where
  | add (item : Item) (order : List Slot)
  | remove (item : Item) (order : List Slot)
  | move (source target : Slot) (amount : UInt16)
  deriving DecidableEq, Repr

/-! ### What a move can do -/

/-- The move meets a stack of its own kind: the two items share a reference that stacks. -/
structure StackingMove (inv : Inventory) (source target : Slot) (s t : Item) : Prop where
  source_item : inv.items source = some s
  target_item : inv.items target = some t
  source_ne : source ≠ target
  same_ref : s.reference.refId = t.reference.refId
  stackable : 1 < s.reference.maxStackSize

/-- Everything that a call of `moveItem` can do, with the inventory and the result it returns. -/
inductive MoveOutcome (p : Profile) (inv : Inventory) (source target : Slot) (amount : UInt16) :
    Inventory → Except MoveError UInt16 → Prop
  /-- There is nothing to move. -/
  | missing : inv.items source = none →
      MoveOutcome p inv source target amount inv (.error .itemDoesNotExist)
  /-- The target is empty, or it is the source itself. -/
  | moved (s : Item) : inv.items source = some s → (source ≠ target → inv.items target = none) →
      MoveOutcome p inv source target amount
        (((inv.clearSlot source).log (.moveItem source target)).setItem target s) (.ok amount)
  /-- The target stack is full: nothing happens. -/
  | full (s t : Item) : StackingMove inv source target s t →
      t.reference.maxStackSize = t.stackSize →
      MoveOutcome p inv source target amount inv (.ok 0)
  /-- The target stack has room for the amount asked for: it grows by that, and the source goes. -/
  | stacked (s t t' : Item) : StackingMove inv source target s t →
      amount ≤ t.reference.maxStackSize - t.stackSize →
      (t.stackSize ≤ t.reference.maxStackSize ∨ p = .release) →
      t.changeStackSize p amount.toInt16 = some (.ok t') →
      MoveOutcome p inv source target amount
        (((((inv.clearSlot source).clearSlot target).log (.removeItem source)).log
          (.changeTypeData target t.typeData t'.typeData)).setItem target t') (.ok amount)
  /-- The target stack has less room than that: it is filled up, and the source shrinks. -/
  | filled (s t s' t' : Item) (delta : Int16) : StackingMove inv source target s t →
      t.reference.maxStackSize - t.stackSize < amount →
      t.reference.maxStackSize - t.stackSize ≠ 0 →
      (t.stackSize ≤ t.reference.maxStackSize ∨ p = .release) →
      t.changeStackSize p (t.reference.maxStackSize - t.stackSize).toInt16 = some (.ok t') →
      p.negI16 (t.reference.maxStackSize - t.stackSize).toInt16 = some delta →
      s.changeStackSize p delta = some (.ok s') →
      MoveOutcome p inv source target amount
        ((((((inv.clearSlot source).clearSlot target).log
          (.changeTypeData target t.typeData t'.typeData)).log
          (.changeTypeData source s.typeData s'.typeData)).setItem source s').setItem target t')
        (.ok (t.reference.maxStackSize - t.stackSize))
  /-- The items are of different kinds, or do not stack: they change places. -/
  | swapped (s t : Item) : inv.items source = some s → inv.items target = some t →
      source ≠ target →
      MoveOutcome p inv source target amount
        (((((inv.clearSlot source).clearSlot target).log (.swap source target)).setItem target
          s).setItem source t) (.ok amount)
  /-- A stack cannot be changed: both items are gone, whatever was logged before. -/
  | lost (s t : Item) (e : MoveError) (inv' : Inventory) : StackingMove inv source target s t →
      inv'.size = inv.size →
      inv'.items = Function.update (Function.update inv.items source none) target none →
      MoveOutcome p inv source target amount inv' (.error e)

/-- Putting two items back where they were taken from changes nothing. -/
theorem restore_items {inv : Inventory} {source target : Slot} {s t : Item}
    (hs : inv.items source = some s) (ht : inv.items target = some t) :
    (((inv.clearSlot source).clearSlot target).setItem source s).setItem target t = inv := by
  have hitems : Function.update (Function.update (Function.update (Function.update inv.items source
      none) target none) source (some s)) target (some t) = inv.items := by
    funext k
    grind [Function.update_apply]
  cases inv
  simp only [setItem, clearSlot] at hitems ⊢
  simp only [hitems]

/-- **A move does one of the things above.** -/
theorem moveItem_outcome {p : Profile} {inv inv' : Inventory} {source target : Slot}
    {amount : UInt16} {res : Except MoveError UInt16}
    (h : inv.moveItem p source target amount = some (inv', res)) :
    MoveOutcome p inv source target amount inv' res := by
  unfold moveItem at h
  cases hs : inv.items source with
  | none =>
      simp only [hs, Option.some.injEq, Prod.mk.injEq] at h
      obtain ⟨rfl, rfl⟩ := h
      exact .missing hs
  | some s =>
      simp only [hs] at h
      cases ht : (inv.clearSlot source).items target with
      | none =>
          simp only [ht, Option.some.injEq, Prod.mk.injEq] at h
          obtain ⟨rfl, rfl⟩ := h
          refine .moved s hs fun hne => ?_
          rwa [clearSlot_items, Function.update_of_ne hne.symm] at ht
      | some t =>
          simp only [ht] at h
          have hne : source ≠ target := by
            rintro rfl
            simp at ht
          rw [clearSlot_items, Function.update_of_ne hne.symm] at ht
          split at h
          · rename_i hstack
            have hsm : StackingMove inv source target s t := ⟨hs, ht, hne, hstack.1, hstack.2⟩
            obtain ⟨available, hav, h⟩ := Option.bind_eq_some_iff.1 h
            obtain ⟨rfl, hrange⟩ := Profile.subU16_eq_some.1 hav
            split at h
            · rename_i hzero
              simp only [Option.pure_def, Option.some.injEq, Prod.mk.injEq] at h
              obtain ⟨rfl, rfl⟩ := h
              rw [restore_items hs ht]
              exact .full s t hsm (by simpa using UInt16.sub_eq_iff_eq_add.1 hzero)
            · rename_i hzero
              split at h
              · rename_i hle
                obtain ⟨r, hr, h⟩ := Option.bind_eq_some_iff.1 h
                cases r with
                | error e =>
                    simp only [Option.pure_def, Option.some.injEq, Prod.mk.injEq] at h
                    obtain ⟨rfl, rfl⟩ := h
                    exact .lost s t e _ hsm rfl rfl
                | ok t' =>
                    simp only [Option.pure_def, Option.some.injEq, Prod.mk.injEq] at h
                    obtain ⟨rfl, rfl⟩ := h
                    exact .stacked s t t' hsm hle hrange hr
              · rename_i hle
                obtain ⟨r, hr, h⟩ := Option.bind_eq_some_iff.1 h
                cases r with
                | error e =>
                    simp only [Option.pure_def, Option.some.injEq, Prod.mk.injEq] at h
                    obtain ⟨rfl, rfl⟩ := h
                    exact .lost s t e _ hsm rfl rfl
                | ok t' =>
                    obtain ⟨delta, hd, h⟩ := Option.bind_eq_some_iff.1 h
                    obtain ⟨r', hr', h⟩ := Option.bind_eq_some_iff.1 h
                    cases r' with
                    | error e =>
                        simp only [Option.pure_def, Option.some.injEq, Prod.mk.injEq] at h
                        obtain ⟨rfl, rfl⟩ := h
                        exact .lost s t e _ hsm rfl rfl
                    | ok s' =>
                        simp only [Option.pure_def, Option.some.injEq, Prod.mk.injEq] at h
                        obtain ⟨rfl, rfl⟩ := h
                        exact .filled s t s' t' delta hsm (UInt16.not_le.1 hle) hzero hrange hr hd hr'
          · simp only [Option.some.injEq, Prod.mk.injEq] at h
            obtain ⟨rfl, rfl⟩ := h
            exact .swapped s t hs ht hne

/-! ### What an addition can do -/

/-- An empty slot is a free slot of the bag proper. -/
theorem emptySlot_eq_some {inv : Inventory} {slot : Slot} (h : inv.emptySlot = some slot) :
    inv.items slot = none ∧ isEquipmentSlot slot = false ∧ slot.toNat < inv.size % 2 ^ 8 := by
  have hmem := List.mem_of_find?_eq_some h
  have hfree := List.find?_some h
  simp only [nonEquipmentSlots, List.mem_filter, List.mem_map, List.mem_range] at hmem
  obtain ⟨⟨n, hn, rfl⟩, hslot⟩ := hmem
  have hsize : (UInt8.ofNat inv.size).toNat = inv.size % 2 ^ 8 := UInt8.toNat_ofNat' ..
  refine ⟨by simpa using hfree, by simpa using hslot, ?_⟩
  rw [UInt8.toNat_ofNat']
  omega

/-- Everything that a call of `addItem` can do, with the inventory and the slot it returns. -/
inductive AddOutcome (p : Profile) (inv : Inventory) (item : Item) :
    Inventory → Option Slot → Prop
  /-- The item goes to an empty slot. -/
  | placed (slot : Slot) : inv.emptySlot = some slot →
      AddOutcome p inv item ((inv.setItem slot item).log (.addItem slot item)) (some slot)
  /-- There is no empty slot, or the stack chosen is not one of consumables. -/
  | refused : AddOutcome p inv item inv none
  /-- The item fits on a stack. -/
  | stacked (i : Slot) (existing : Item) (e a : UInt16) : inv.items i = some existing →
      existing.typeData = .consumable e → item.typeData = .consumable a →
      ¬existing.isMaxStacked → existing.reference.refId = item.reference.refId →
      (e.toNat + a.toNat < 2 ^ 16 ∨ p = .release) → e + a ≤ item.reference.maxStackSize →
      AddOutcome p inv item (inv.setTypeData i existing (.consumable (e + a))) (some i)
  /-- A stack is filled up and the rest goes to an empty slot. -/
  | spilled (i : Slot) (existing : Item) (e a : UInt16) (slot : Slot) :
      inv.items i = some existing →
      existing.typeData = .consumable e → item.typeData = .consumable a →
      ¬existing.isMaxStacked → existing.reference.refId = item.reference.refId →
      (e.toNat + a.toNat < 2 ^ 16 ∨ p = .release) → item.reference.maxStackSize < e + a →
      (inv.setTypeData i existing (.consumable item.reference.maxStackSize)).emptySlot = some slot →
      AddOutcome p inv item
        (((inv.setTypeData i existing (.consumable item.reference.maxStackSize)).setItem slot
          { item with typeData := .consumable (e + a - item.reference.maxStackSize) }).log
          (.addItem slot
            { item with typeData := .consumable (e + a - item.reference.maxStackSize) }))
        (some slot)
  /-- A stack is filled up and there is no room for the rest. -/
  | dropped (i : Slot) (existing : Item) (e a : UInt16) : inv.items i = some existing →
      existing.typeData = .consumable e → item.typeData = .consumable a →
      ¬existing.isMaxStacked → existing.reference.refId = item.reference.refId →
      (e.toNat + a.toNat < 2 ^ 16 ∨ p = .release) → item.reference.maxStackSize < e + a →
      AddOutcome p inv item
        (inv.setTypeData i existing (.consumable item.reference.maxStackSize)) none

theorem addToEmptySlot_outcome (p : Profile) (inv : Inventory) (item : Item) :
    AddOutcome p inv item (inv.addToEmptySlot item).1 (inv.addToEmptySlot item).2 := by
  unfold addToEmptySlot
  cases h : inv.emptySlot with
  | none => exact .refused
  | some slot => exact .placed slot h

theorem addToStack_outcome {p : Profile} {inv inv' : Inventory} {i : Slot} {existing item : Item}
    {res : Option Slot} (hi : inv.items i = some existing) (hmax : ¬existing.isMaxStacked)
    (href : existing.reference.refId = item.reference.refId)
    (h : inv.addToStack p i existing item = some (inv', res)) :
    AddOutcome p inv item inv' res := by
  unfold addToStack at h
  split at h
  · rename_i e a he ha
    obtain ⟨sum, hsum, h⟩ := Option.bind_eq_some_iff.1 h
    obtain ⟨rfl, hrange⟩ := Profile.addU16_eq_some.1 hsum
    split at h
    · rename_i hle
      simp only [Option.pure_def, Option.some.injEq, Prod.mk.injEq] at h
      obtain ⟨rfl, rfl⟩ := h
      exact .stacked i existing e a hi he ha hmax href hrange hle
    · rename_i hgt
      simp only [addToEmptySlot] at h
      cases hfree : (inv.setTypeData i existing
          (.consumable item.reference.maxStackSize)).emptySlot with
      | none =>
          simp only [hfree, Option.pure_def, Option.some.injEq, Prod.mk.injEq] at h
          obtain ⟨rfl, rfl⟩ := h
          exact .dropped i existing e a hi he ha hmax href hrange (UInt16.not_le.1 hgt)
      | some slot =>
          simp only [hfree, Option.pure_def, Option.some.injEq, Prod.mk.injEq] at h
          obtain ⟨rfl, rfl⟩ := h
          exact .spilled i existing e a slot hi he ha hmax href hrange (UInt16.not_le.1 hgt) hfree
  · simp only [Option.some.injEq, Prod.mk.injEq] at h
    obtain ⟨rfl, rfl⟩ := h
    exact .refused

theorem addItemLoop_outcome {p : Profile} {inv inv' : Inventory} {item : Item}
    {res : Option Slot} :
    ∀ {slots : List Slot}, inv.addItemLoop p item slots = some (inv', res) →
      AddOutcome p inv item inv' res := by
  intro slots
  induction slots with
  | nil =>
      intro h
      obtain ⟨rfl, rfl⟩ := Prod.mk.inj (Option.some_inj.1 h)
      exact addToEmptySlot_outcome p inv item
  | cons i slots ih =>
      intro h
      unfold addItemLoop at h
      cases hi : inv.items i with
      | none => simp [hi] at h
      | some existing =>
          simp only [hi] at h
          split at h
          · rename_i hcond
            simp only [Bool.and_eq_true, Bool.not_eq_true', beq_iff_eq] at hcond
            exact addToStack_outcome hi (by simp [hcond.1]) hcond.2 h
          · exact ih h

/-- **An addition does one of the things above.** -/
theorem addItem_outcome {p : Profile} {order : List Slot} {inv inv' : Inventory} {item : Item}
    {res : Option Slot} (h : inv.addItem p order item = some (inv', res)) :
    AddOutcome p inv item inv' res := by
  unfold addItem at h
  split at h
  · exact addItemLoop_outcome h
  · obtain ⟨rfl, rfl⟩ := Prod.mk.inj (Option.some_inj.1 h)
    exact addToEmptySlot_outcome p inv item

/-! ### Which stack an addition chooses -/

/-- The slot holds a stack of the kind of the item that is not full. -/
def hasRoomFor (inv : Inventory) (item : Item) (i : Slot) : Bool :=
  match inv.items i with
  | some existing => !existing.isMaxStacked && existing.reference.refId == item.reference.refId
  | none => false

theorem hasRoomFor_iff {inv : Inventory} {item existing : Item} {i : Slot}
    (hi : inv.items i = some existing) : inv.hasRoomFor item i = true ↔
      ¬existing.isMaxStacked = true ∧ existing.reference.refId = item.reference.refId := by
  simp [hasRoomFor, hi]

/-- The stack that an addition chooses: the first one of the iteration with room. -/
def stackWithRoom (inv : Inventory) (order : List Slot) (item : Item) : Option Slot :=
  (inv.findSlotsMatching order item).find? (inv.hasRoomFor item)

theorem findSlotsMatching_isSome {inv : Inventory} {order : List Slot} {item : Item} {i : Slot}
    (h : i ∈ inv.findSlotsMatching order item) : ∃ existing, inv.items i = some existing := by
  have hmatch := (List.mem_filter.1 h).2
  cases hi : inv.items i with
  | none => simp [hi] at hmatch
  | some existing => exact ⟨existing, rfl⟩

/-- The loop of an addition stops at the first stack with room. -/
theorem addItemLoop_eq {p : Profile} {inv : Inventory} {item : Item} :
    ∀ {slots : List Slot}, (∀ i ∈ slots, ∃ existing, inv.items i = some existing) →
      inv.addItemLoop p item slots =
        match slots.find? (inv.hasRoomFor item) with
        | some i => (inv.items i).bind fun existing => inv.addToStack p i existing item
        | none => some (inv.addToEmptySlot item) := by
  intro slots
  induction slots with
  | nil => exact fun _ => rfl
  | cons i slots ih =>
      intro hsome
      obtain ⟨existing, hi⟩ := hsome i List.mem_cons_self
      rw [addItemLoop]
      simp only [hi]
      have htest : (!existing.isMaxStacked && existing.reference.refId == item.reference.refId) =
          inv.hasRoomFor item i := by
        simp only [hasRoomFor, hi]
      rw [htest]
      by_cases hroom : inv.hasRoomFor item i = true
      · rw [if_pos hroom, List.find?_cons_of_pos hroom]
        simp [hi]
      · rw [if_neg hroom, List.find?_cons_of_neg hroom]
        exact ih fun j hj => hsome j (List.mem_cons_of_mem _ hj)

/-- **An addition goes on top of the first stack with room**, and to an empty slot if it does not stack
or there is no such stack. -/
theorem addItem_cases {p : Profile} {inv inv' : Inventory} {item : Item} {order : List Slot}
    {res : Option Slot} (h : inv.addItem p order item = some (inv', res)) :
    (1 < item.reference.maxStackSize ∧ ∃ i existing, inv.stackWithRoom order item = some i ∧
      inv.items i = some existing ∧ inv.hasRoomFor item i = true ∧
      inv.addToStack p i existing item = some (inv', res)) ∨
    ((1 < item.reference.maxStackSize → inv.stackWithRoom order item = none) ∧
      inv.addToEmptySlot item = (inv', res)) := by
  unfold addItem at h
  split at h
  · rename_i hmax
    rw [addItemLoop_eq fun i hi => findSlotsMatching_isSome hi] at h
    cases hchosen : inv.stackWithRoom order item with
    | none =>
        rw [stackWithRoom] at hchosen
        simp only [hchosen] at h
        exact Or.inr ⟨fun _ => rfl, Option.some_inj.1 h⟩
    | some i =>
        have hroom := List.find?_some hchosen
        rw [stackWithRoom] at hchosen
        simp only [hchosen] at h
        obtain ⟨existing, hi, h⟩ := Option.bind_eq_some_iff.1 h
        exact Or.inl ⟨hmax, i, existing, rfl, hi, hroom, h⟩
  · rename_i hmax
    exact Or.inr ⟨fun hlt => absurd hlt hmax, Option.some_inj.1 h⟩

/-! ### What a removal can do -/

/-- Everything that the loop of `removeItem` can do with the listed slots and the quantity that is
still to be removed. -/
inductive RemoveOutcome : List Slot → UInt16 → Inventory → Inventory → Prop
  /-- There are no more stacks. -/
  | done (toRemove : UInt16) (inv : Inventory) : RemoveOutcome [] toRemove inv inv
  /-- A stack is taken whole, and the loop goes on. -/
  | whole {i : Slot} {slots : List Slot} {toRemove : UInt16} {inv inv' : Inventory}
      (existing : Item) : inv.items i = some existing → 1 < toRemove →
      existing.stackSize ≤ toRemove →
      RemoveOutcome slots (toRemove - existing.stackSize) (inv.takeOut i) inv' →
      RemoveOutcome (i :: slots) toRemove inv inv'
  /-- At most one is still to be removed: the stack is taken whole, and the loop ends. -/
  | last {i : Slot} {slots : List Slot} {toRemove : UInt16} {inv : Inventory} (existing : Item) :
      inv.items i = some existing → toRemove ≤ 1 →
      RemoveOutcome (i :: slots) toRemove inv (inv.takeOut i)
  /-- The stack holds more than is to be removed: it is made smaller, without a log entry. -/
  | part {i : Slot} {slots : List Slot} {toRemove : UInt16} {inv : Inventory} (existing : Item)
      (n : UInt16) : inv.items i = some existing → existing.typeData = .consumable n →
      1 < toRemove → toRemove < n →
      RemoveOutcome (i :: slots) toRemove inv
        (inv.setItem i { existing with typeData := .consumable (n - toRemove) })

/-- A stack of more than one item is one of consumables. -/
theorem consumable_of_stackSize {item : Item} {n : UInt16} (hn : 1 < n) (h : n < item.stackSize) :
    ∃ m, item.typeData = .consumable m ∧ item.stackSize = m := by
  cases hd : item.typeData with
  | consumable m => exact ⟨m, rfl, by simp [Item.stackSize, hd]⟩
  | equipment | cos | gold =>
      simp only [Item.stackSize, hd] at h
      exact absurd (UInt16.lt_trans hn h) (UInt16.lt_irrefl 1)

/-- Taking `r` from a stack of more than `r`: the cast to a signed integer and its negation may wrap
around, but where the code does not panic the difference is right. -/
theorem changeStackSize_neg {p : Profile} {item : Item} {n r : UInt16} {delta : Int16}
    {res : Except MoveError Item} (hd : item.typeData = .consumable n) (hr : r < n)
    (hdelta : p.negI16 r.toInt16 = some delta) (h : item.changeStackSize p delta = some res) :
    res = .ok { item with typeData := .consumable (n - r) } := by
  obtain ⟨rfl, -⟩ := Profile.negI16_eq_some.1 hdelta
  have hbits : (-r.toInt16).toUInt16 = -r := by simp
  cases res with
  | error e =>
      obtain ⟨hneg, hlt⟩ := Item.changeStackSize_error hd h
      rw [unsignedAbs_of_neg hneg, hbits, UInt16.neg_neg] at hlt
      exact absurd (UInt16.lt_trans hlt hr) (UInt16.lt_irrefl n)
  | ok item' =>
      obtain ⟨old, hold, rfl, -, -⟩ := Item.changeStackSize_ok h
      obtain rfl : old = n := by simpa [hd] using hold.symm
      rw [hbits, ← UInt16.sub_eq_add_neg]

theorem removeItemLoop_outcome {p : Profile} {inv' : Inventory} {res : Except MoveError UInt16} :
    ∀ {slots : List Slot} {inv : Inventory} {toRemove removed : UInt16},
      removeItemLoop p slots inv toRemove removed = some (inv', res) →
      RemoveOutcome slots toRemove inv inv' := by
  intro slots
  induction slots with
  | nil =>
      intro inv toRemove removed h
      obtain ⟨rfl, rfl⟩ := Prod.mk.inj (Option.some_inj.1 h)
      exact .done toRemove inv
  | cons i slots ih =>
      intro inv toRemove removed h
      unfold removeItemLoop at h
      cases hi : inv.items i with
      | none => simp [hi] at h
      | some existing =>
          simp only [hi] at h
          by_cases hone : 1 < toRemove
          · rw [if_pos hone] at h
            by_cases hpart : toRemove < existing.stackSize
            · rw [if_pos hpart] at h
              obtain ⟨n, hn, hsize⟩ := consumable_of_stackSize hone hpart
              rw [hsize] at hpart
              obtain ⟨delta, hdelta, h⟩ := Option.bind_eq_some_iff.1 h
              obtain ⟨r, hr, h⟩ := Option.bind_eq_some_iff.1 h
              obtain rfl := changeStackSize_neg hn hpart hdelta hr
              obtain ⟨total, -, h⟩ := Option.bind_eq_some_iff.1 h
              simp only [Option.pure_def, Option.some.injEq, Prod.mk.injEq] at h
              obtain ⟨rfl, rfl⟩ := h
              exact .part existing n hi hn hone hpart
            · rw [if_neg hpart] at h
              obtain ⟨total, -, h⟩ := Option.bind_eq_some_iff.1 h
              have hle := UInt16.not_lt.1 hpart
              rw [saturatingSubU16, if_pos hle] at h
              exact .whole existing hi hone hle (ih h)
          · rw [if_neg hone] at h
            obtain ⟨total, -, h⟩ := Option.bind_eq_some_iff.1 h
            simp only [Option.pure_def, Option.some.injEq, Prod.mk.injEq] at h
            obtain ⟨rfl, rfl⟩ := h
            exact .last existing hi (UInt16.not_lt.1 hone)

/-- **A removal does one of the things above.** -/
theorem removeItem_outcome {p : Profile} {order : List Slot} {inv inv' : Inventory} {item : Item}
    {res : Except MoveError UInt16} (h : inv.removeItem p order item = some (inv', res)) :
    RemoveOutcome (inv.findSlotsMatching order item) item.stackSize inv inv' :=
  removeItemLoop_outcome h

end Inventory

end Skrillax

/-
**How much of an item a bag holds, and how much of it an addition puts there.**

`Inventory.bagQuantity` adds up the stacks of a reference over all the slots of a bag.  An addition
either takes the whole item, or nothing of it, or a part: it fills up a stack, finds no free slot for
the rest and loses it, or loses `2 ^ 16` items to an overflow in a release build.  Which of these
happens can be told from the inventory before (`Inventory.takesWhole`, `Inventory.takesNothing`).

Main definitions:

* `itemQuantity`, `Inventory.bagQuantity` — what a stack and a bag hold of a reference;
* `Inventory.takesWhole`, `Inventory.takesNothing` — what an addition is going to take.

Main results:

* `Inventory.bagQuantity_setItem` — the quantity after writing a slot;
* `Inventory.takesWhole_spec`, `Inventory.takesNothing_spec` — **what an addition takes is what the
  bag gains**.
-/

import Skrillax.Accounting
import Skrillax.Inventory

set_option relaxedAutoImplicit false
set_option autoImplicit false

namespace Skrillax

open Rust

/-! ### Quantities -/

/-- How many items of a reference a stack is; gold is not counted among the items. -/
def itemQuantity (refId : UInt32) (item : Item) : ℕ :=
  if item.reference.refId = refId then
    match item.typeData with
    | .consumable amount => amount.toNat
    | .equipment _ => 1
    | .cos => 1
    | .gold _ => 0
  else 0

/-- How many items of a reference a slot holds. -/
def slotQuantity (refId : UInt32) : Option Item → ℕ
  | none => 0
  | some item => itemQuantity refId item

theorem itemQuantity_consumable {refId : UInt32} {item : Item} {n : UInt16}
    (h : item.typeData = .consumable n) :
    itemQuantity refId item = if item.reference.refId = refId then n.toNat else 0 := by
  simp [itemQuantity, h]

namespace Inventory

/-- How many items of a reference a bag holds. -/
def bagQuantity (refId : UInt32) (inv : Inventory) : ℕ :=
  ∑ slot, slotQuantity refId (inv.items slot)

variable {p : Profile} {refId : UInt32} {inv inv' : Inventory}

/-- Writing a slot. -/
theorem bagQuantity_setItem (refId : UInt32) (inv : Inventory) (slot : Slot) (item : Item) :
    bagQuantity refId (inv.setItem slot item) + slotQuantity refId (inv.items slot) =
      bagQuantity refId inv + itemQuantity refId item :=
  Accounting.sum_update (slotQuantity refId) inv.items slot (some item)

/-- Putting an item into a slot that is free. -/
theorem bagQuantity_setItem_free {slot : Slot} (hfree : inv.items slot = none) (item : Item) :
    bagQuantity refId (inv.setItem slot item) = bagQuantity refId inv + itemQuantity refId item := by
  have h := bagQuantity_setItem refId inv slot item
  rwa [hfree, slotQuantity, Nat.add_zero] at h

/-! ### What an addition takes -/

/-- The bag takes all of the item: there is a free slot, or a stack to put it on that does not
overflow, and a free slot for what does not fit there. -/
def takesWhole (order : List Slot) (inv : Inventory) (item : Item) : Bool :=
  if 1 < item.reference.maxStackSize then
    match inv.stackWithRoom order item with
    | none => inv.emptySlot.isSome
    | some i =>
        match (inv.items i).map Item.typeData, item.typeData with
        | some (.consumable e), .consumable a =>
            decide (e.toNat + a.toNat < 2 ^ 16) &&
              (decide (e + a ≤ item.reference.maxStackSize) || inv.emptySlot.isSome)
        | _, _ => false
  else inv.emptySlot.isSome

/-- The bag takes nothing of the item: there is no free slot and no stack to put it on, or the stack
chosen is not one of consumables. -/
def takesNothing (order : List Slot) (inv : Inventory) (item : Item) : Bool :=
  if 1 < item.reference.maxStackSize then
    match inv.stackWithRoom order item with
    | none => inv.emptySlot.isNone
    | some i =>
        match (inv.items i).map Item.typeData, item.typeData with
        | some (.consumable _), .consumable _ => false
        | _, _ => true
  else inv.emptySlot.isNone

theorem emptySlot_setTypeData {i : Slot} {existing : Item} (hi : inv.items i = some existing)
    (d : ItemTypeData) : (inv.setTypeData i existing d).emptySlot = inv.emptySlot := by
  have hfree : (fun slot => ((inv.setTypeData i existing d).items slot).isNone) =
      fun slot => (inv.items slot).isNone := by
    funext slot
    by_cases heq : slot = i
    · rw [heq, hi]
      simp [setTypeData]
    · simp [setTypeData, heq]
  rw [emptySlot, hfree]
  rfl

/-- An item that is put into an empty slot is taken whole. -/
theorem addToEmptySlot_quantity (item : Item) (h : inv.emptySlot.isSome) :
    (inv.addToEmptySlot item).2.isSome ∧
      ∀ refId, bagQuantity refId (inv.addToEmptySlot item).1 =
        bagQuantity refId inv + itemQuantity refId item := by
  obtain ⟨slot, hslot⟩ := Option.isSome_iff_exists.1 h
  unfold addToEmptySlot
  rw [hslot]
  exact ⟨rfl, fun refId => bagQuantity_setItem_free (emptySlot_eq_some hslot).1 item⟩

theorem addToEmptySlot_none {item : Item} (h : inv.emptySlot.isNone) :
    inv.addToEmptySlot item = (inv, none) := by
  unfold addToEmptySlot
  rw [Option.isNone_iff_eq_none.1 h]

/-- Changing the size of a stack. -/
theorem bagQuantity_setTypeData (refId : UInt32) {i : Slot} {existing : Item} {e : UInt16}
    (hi : inv.items i = some existing) (he : existing.typeData = .consumable e) (n : UInt16) :
    bagQuantity refId (inv.setTypeData i existing (.consumable n)) +
        (if existing.reference.refId = refId then e.toNat else 0) =
      bagQuantity refId inv + if existing.reference.refId = refId then n.toNat else 0 := by
  have h := bagQuantity_setItem refId inv i { existing with typeData := .consumable n }
  rw [hi, slotQuantity, itemQuantity_consumable he, itemQuantity_consumable rfl] at h
  exact h

/-- What goes on top of a stack without an overflow, and has a free slot for the rest, is taken
whole. -/
theorem addToStack_quantity {i : Slot} {existing item : Item} {e a : UInt16} {res : Option Slot}
    (hi : inv.items i = some existing) (he : existing.typeData = .consumable e)
    (ha : item.typeData = .consumable a)
    (hid : existing.reference.refId = item.reference.refId)
    (hsum : e.toNat + a.toNat < 2 ^ 16)
    (hroom : e + a ≤ item.reference.maxStackSize ∨ inv.emptySlot.isSome)
    (h : inv.addToStack p i existing item = some (inv', res)) :
    res.isSome ∧
      ∀ refId, bagQuantity refId inv' = bagQuantity refId inv + itemQuantity refId item := by
  have hadd : (e + a).toNat = e.toNat + a.toNat := by
    rw [UInt16.toNat_add]
    omega
  simp only [addToStack, he, ha, Profile.addU16_eq_some.2 ⟨rfl, Or.inl hsum⟩, Option.bind_eq_bind,
    Option.bind_some] at h
  split at h
  · simp only [Option.pure_def, Option.some.injEq, Prod.mk.injEq] at h
    obtain ⟨rfl, rfl⟩ := h
    refine ⟨rfl, fun refId => ?_⟩
    have hq := bagQuantity_setTypeData refId hi he (e + a)
    rw [hadd] at hq
    rw [itemQuantity_consumable ha, ← hid]
    by_cases hr : existing.reference.refId = refId
    · simp only [if_pos hr] at hq ⊢
      omega
    · simp only [if_neg hr] at hq ⊢
      omega
  · rename_i hgt
    have hfree := hroom.resolve_left hgt
    rw [← emptySlot_setTypeData hi (.consumable item.reference.maxStackSize)] at hfree
    obtain ⟨hres, hquantity⟩ := addToEmptySlot_quantity
      { item with typeData := .consumable (e + a - item.reference.maxStackSize) } hfree
    simp only [Option.pure_def, Option.some.injEq] at h
    rw [h] at hres hquantity
    refine ⟨hres, fun refId => ?_⟩
    have hq := bagQuantity_setTypeData refId hi he item.reference.maxStackSize
    rw [UInt16.not_le, UInt16.lt_iff_toNat_lt, hadd] at hgt
    have hrest : (e + a - item.reference.maxStackSize).toNat =
        e.toNat + a.toNat - item.reference.maxStackSize.toNat := by
      rw [UInt16.toNat_sub_of_le _ _ (UInt16.le_iff_toNat_le.2 (by omega)), hadd]
    rw [hquantity refId, itemQuantity_consumable ha, itemQuantity_consumable rfl, hrest, ← hid]
    by_cases hr : existing.reference.refId = refId
    · simp only [if_pos hr] at hq ⊢
      omega
    · simp only [if_neg hr] at hq ⊢
      omega

/-- **What an addition takes whole is what the bag gains.** -/
theorem takesWhole_spec {order : List Slot} {item : Item} {res : Option Slot}
    (htakes : takesWhole order inv item = true)
    (h : inv.addItem p order item = some (inv', res)) :
    res.isSome ∧
      ∀ refId, bagQuantity refId inv' = bagQuantity refId inv + itemQuantity refId item := by
  unfold takesWhole at htakes
  rcases addItem_cases h with ⟨hmax, i, existing, hchosen, hi, hroom, h⟩ | ⟨hnone, h⟩
  · rw [if_pos hmax, hchosen] at htakes
    simp only [hi, Option.map_some] at htakes
    split at htakes
    · rename_i e a he ha
      simp only [Bool.and_eq_true, Bool.or_eq_true, decide_eq_true_eq] at htakes
      exact addToStack_quantity hi (Option.some_inj.1 he) ha ((hasRoomFor_iff hi).1 hroom).2 htakes.1
        htakes.2 h
    · simp at htakes
  · have hfree : inv.emptySlot.isSome := by
      split at htakes
      · rename_i hmax
        rwa [hnone hmax] at htakes
      · exact htakes
    have hquantity := addToEmptySlot_quantity item hfree
    rwa [h] at hquantity

/-- **What an addition takes nothing of leaves the bag as it was.** -/
theorem takesNothing_spec {order : List Slot} {item : Item} {res : Option Slot}
    (htakes : takesNothing order inv item = true)
    (h : inv.addItem p order item = some (inv', res)) : inv' = inv ∧ res = none := by
  unfold takesNothing at htakes
  rcases addItem_cases h with ⟨hmax, i, existing, hchosen, hi, -, h⟩ | ⟨hnone, h⟩
  · rw [if_pos hmax, hchosen] at htakes
    simp only [hi, Option.map_some] at htakes
    split at htakes
    · simp at htakes
    · rename_i hkinds
      unfold addToStack at h
      split at h
      · rename_i e a he ha
        exact absurd ha (hkinds e a (congrArg some he))
      · simp only [Option.some.injEq, Prod.mk.injEq] at h
        exact ⟨h.1.symm, h.2.symm⟩
  · have hfull : inv.emptySlot.isNone := by
      split at htakes
      · rename_i hmax
        rwa [hnone hmax] at htakes
      · exact htakes
    rw [addToEmptySlot_none hfull, Prod.mk.injEq] at h
    exact ⟨h.1.symm, h.2.symm⟩

end Inventory

end Skrillax

/-
**An addition is all or nothing, unless it fills a stack and finds no room for the rest.**

`addItem` puts an item on top of the first stack of its kind that is not full.  If the sum is more than a
stack may hold, the stack is filled up and the rest goes to a free slot of the bag; without a free slot
the code returns `None` with the stack already filled up and logged, as its own comment fears.  And the
sum of the two amounts is a sum of `u16`s, which may overflow.

An addition is all or nothing exactly when it stays clear of both (`Inventory.addItem_allOrNothing_iff`).

Main definitions:

* `Inventory.AllOrNothing` — what a call should do;
* `Inventory.AddsCleanly` — the chosen stack does not overflow, and what it cannot hold has a free slot.

Main results:

* `Inventory.addItem_eq` — an addition is one on top of the chosen stack, or to a free slot;
* `Inventory.addItem_allOrNothing_iff` — **when an addition is all or nothing**.
-/

import Skrillax.InventoryQuantity
import Skrillax.InventoryRemoval

set_option relaxedAutoImplicit false
set_option autoImplicit false

namespace Skrillax

open Rust

namespace Inventory

variable {p : Profile} {inv inv' : Inventory} {item existing : Item} {i : Slot} {e a : UInt16}

/-! ### What an addition should do -/

/-- The slots that differ: at most one with a stack of the kind of `item`, and at most one slot of the bag
that was free. -/
def DiffersInTwo (item : Item) (inv inv' : Inventory) : Prop :=
  ∃ i j, ∀ slot, inv'.items slot ≠ inv.items slot →
    (slot = i ∧ inv.holdsKind item i = true) ∨
      (slot = j ∧ inv.items j = none ∧ isEquipmentSlot j = false ∧ j.toNat < inv.size)

/-- A call that returns does all of the addition or nothing: without a slot the items and the log are as
they were, and with a slot the bag gains just the quantity of the item, in at most two slots. -/
def AllOrNothing (inv : Inventory) (item : Item) (result : Option (Inventory × Option Slot)) : Prop :=
  ∃ inv' res, result = some (inv', res) ∧
    (res = none → inv'.items = inv.items ∧ inv'.changes = inv.changes) ∧
    (∀ slot, res = some slot → inv'.kindTotal item = inv.kindTotal item + item.stackSize.toNat ∧
      DiffersInTwo item inv inv')

/-- The addition does not choose a stack with which its sum leaves the range of sixteen bits, and if the
sum is more than a stack may hold, there is a free slot. -/
def AddsCleanly (order : List Slot) (inv : Inventory) (item : Item) : Prop :=
  1 < item.reference.maxStackSize → ∀ i existing e a, inv.stackWithRoom order item = some i →
    inv.items i = some existing → existing.typeData = .consumable e →
    item.typeData = .consumable a →
    e.toNat + a.toNat < 2 ^ 16 ∧
      (item.reference.maxStackSize < e + a → inv.emptySlot.isSome = true)

/-! ### To a free slot -/

theorem sameKind_self (item : Item) : item.sameKind item = true := by
  simp [Item.sameKind, RefItemData.eq]

/-- Putting an item of the kind into a free slot. -/
theorem kindTotal_place {j : Slot} (hfree : inv.items j = none) {placed : Item}
    (hkind : item.sameKind placed = true) :
    ((inv.setItem j placed).log (.addItem j placed)).kindTotal item =
      inv.kindTotal item + placed.stackSize.toNat := by
  have htotal := kindTotal_update item inv ((inv.setItem j placed).log (.addItem j placed)) j
    (some placed) rfl
  rwa [hfree, kindQuantity_of_sameKind hkind, kindQuantity, Nat.add_zero] at htotal

/-- Putting an item into a free slot is all or nothing. -/
theorem allOrNothing_addToEmptySlot (inv : Inventory) (item : Item) :
    AllOrNothing inv item (some (inv.addToEmptySlot item)) := by
  unfold addToEmptySlot
  cases hslot : inv.emptySlot with
  | none => exact ⟨inv, none, rfl, fun _ => ⟨rfl, rfl⟩, fun slot h => by simp at h⟩
  | some j =>
      obtain ⟨hfree, hbag, hsize⟩ := emptySlot_eq_some hslot
      refine ⟨(inv.setItem j item).log (.addItem j item), some j, rfl, fun h => by simp at h,
        fun slot _ => ⟨?_, j, j, fun k hk => ?_⟩⟩
      · exact kindTotal_place hfree (sameKind_self item)
      · have hkj : k = j := by
          by_contra hne
          exact hk (Function.update_of_ne hne ..)
        refine Or.inr ⟨hkj, hfree, hbag, ?_⟩
        exact Nat.lt_of_lt_of_le hsize (Nat.mod_le _ _)

/-! ### On top of a stack -/

/-- Changing the size of a stack of the kind. -/
theorem kindTotal_setTypeData (hi : inv.items i = some existing)
    (hkind : item.sameKind existing = true) (he : existing.typeData = .consumable e) (n : UInt16) :
    (inv.setTypeData i existing (.consumable n)).kindTotal item + e.toNat =
      inv.kindTotal item + n.toNat := by
  have htotal := kindTotal_update item inv (inv.setTypeData i existing (.consumable n)) i
    (some { existing with typeData := .consumable n }) rfl
  have hkind' : item.sameKind { existing with typeData := .consumable n } = true := hkind
  rw [hi, kindQuantity_of_sameKind hkind, kindQuantity_of_sameKind hkind',
    Item.stackSize_consumable he, Item.stackSize_consumable (n := n) rfl] at htotal
  exact htotal

/-- Only the slot of the stack differs. -/
theorem setTypeData_frame {d : ItemTypeData} {slot : Slot}
    (h : (inv.setTypeData i existing d).items slot ≠ inv.items slot) : slot = i := by
  by_contra hne
  exact h (Function.update_of_ne hne ..)

/-- **On top of a stack**: an addition that does not overflow, and has a free slot for what the stack
cannot hold, is all or nothing, and no other is. -/
theorem allOrNothing_addToStack_iff (hi : inv.items i = some existing)
    (hkind : item.sameKind existing = true) (he : existing.typeData = .consumable e)
    (ha : item.typeData = .consumable a) :
    AllOrNothing inv item (inv.addToStack p i existing item) ↔
      e.toNat + a.toNat < 2 ^ 16 ∧
        (item.reference.maxStackSize < e + a → inv.emptySlot.isSome = true) := by
  have hholds : inv.holdsKind item i = true := by
    rw [holdsKind, hi]
    exact hkind
  have hsize : item.stackSize = a := Item.stackSize_consumable ha
  have hsum : (e + a).toNat = (e.toNat + a.toNat) % 2 ^ 16 := UInt16.toNat_add ..
  have ha' := a.toNat_lt
  have he' := e.toNat_lt
  simp only [addToStack, he, ha]
  cases hadd : p.addU16 e a with
  | none =>
      -- the addition overflows in a build that checks for it
      have hover : ¬e.toNat + a.toNat < 2 ^ 16 := by
        intro hlt
        rw [Profile.addU16_eq_some.2 ⟨rfl, Or.inl hlt⟩] at hadd
        simp at hadd
      refine iff_of_false ?_ fun h => hover h.1
      rintro ⟨inv', res, h, -⟩
      simp at h
  | some sum =>
      obtain ⟨rfl, -⟩ := Profile.addU16_eq_some.1 hadd
      simp only [Option.bind_eq_bind, Option.bind_some, Option.pure_def]
      by_cases hle : e + a ≤ item.reference.maxStackSize
      · rw [if_pos hle]
        have htotal := kindTotal_setTypeData hi hkind he (e + a)
        constructor
        · rintro ⟨inv', res, h, -, hsome⟩
          obtain ⟨rfl, rfl⟩ := Prod.mk.inj (Option.some_inj.1 h)
          have hgain := (hsome i rfl).1
          rw [hsize] at hgain
          refine ⟨by omega, fun hlt => ?_⟩
          exact absurd (UInt16.lt_of_lt_of_le hlt hle) (UInt16.lt_irrefl _)
        · rintro ⟨hlt, -⟩
          refine ⟨_, _, rfl, fun h => by simp at h, fun slot _ => ⟨?_, i, i, fun k hk => ?_⟩⟩
          · rw [hsize]
            omega
          · exact Or.inl ⟨setTypeData_frame hk, hholds⟩
      · rw [if_neg hle, addToEmptySlot, emptySlot_setTypeData hi]
        have hlt := UInt16.not_le.1 hle
        have hnat := UInt16.lt_iff_toNat_lt.1 hlt
        have hfilled := kindTotal_setTypeData hi hkind he item.reference.maxStackSize
        cases hslot : inv.emptySlot with
        | none =>
            -- the stack has been filled up and logged
            refine iff_of_false ?_ fun h => by simpa using h.2 hlt
            rintro ⟨inv', res, h, hnone, -⟩
            obtain ⟨rfl, rfl⟩ := Prod.mk.inj (Option.some_inj.1 h)
            simpa [setTypeData] using (hnone rfl).2
        | some j =>
            obtain ⟨hfree, hbag, hj⟩ := emptySlot_eq_some hslot
            have hne : j ≠ i := by
              rintro rfl
              simp [hi] at hfree
            have hfree' : (inv.setTypeData i existing
                (.consumable item.reference.maxStackSize)).items j = none := by
              rw [← hfree]
              exact Function.update_of_ne hne ..
            have hrest : item.sameKind { item with
                typeData := .consumable (e + a - item.reference.maxStackSize) } = true :=
              sameKind_self item
            have htotal := kindTotal_place hfree' hrest
            rw [Item.stackSize_consumable rfl,
              UInt16.toNat_sub_of_le _ _ (UInt16.le_of_lt hlt)] at htotal
            constructor
            · rintro ⟨inv', res, h, -, hsome⟩
              obtain ⟨rfl, rfl⟩ := Prod.mk.inj (Option.some_inj.1 h)
              have hgain := (hsome j rfl).1
              rw [hsize] at hgain
              exact ⟨by omega, fun _ => rfl⟩
            · rintro ⟨hlt', -⟩
              refine ⟨_, _, rfl, fun h => by simp at h, fun slot _ => ⟨?_, i, j, fun k hk => ?_⟩⟩
              · rw [hsize]
                omega
              · by_cases hkj : k = j
                · exact Or.inr ⟨hkj, hfree, hbag, Nat.lt_of_lt_of_le hj (Nat.mod_le _ _)⟩
                · rw [log_items, setItem_items, Function.update_of_ne hkj] at hk
                  exact Or.inl ⟨setTypeData_frame hk, hholds⟩

/-! ### The whole addition -/

/-- **An addition is one on top of the chosen stack, or to a free slot.** -/
theorem addItem_eq (p : Profile) (order : List Slot) (inv : Inventory) (item : Item) :
    inv.addItem p order item =
      if 1 < item.reference.maxStackSize then
        match inv.stackWithRoom order item with
        | some i => (inv.items i).bind fun existing => inv.addToStack p i existing item
        | none => some (inv.addToEmptySlot item)
      else some (inv.addToEmptySlot item) := by
  rw [addItem, addItemLoop_eq fun i hi => findSlotsMatching_isSome hi]
  rfl

/-- What is chosen is a stack of the kind of the item. -/
theorem sameKind_of_chosen {order : List Slot} (hchosen : inv.stackWithRoom order item = some i) :
    ∃ existing, inv.items i = some existing ∧ item.sameKind existing = true := by
  have hmem := List.mem_of_find?_eq_some hchosen
  rw [findSlotsMatching_eq] at hmem
  exact (Option.any_eq_true ..).1 (List.mem_filter.1 hmem).2

/-- An addition to the chosen stack, whatever it is a stack of. -/
theorem allOrNothing_onStack_iff (hi : inv.items i = some existing)
    (hkind : item.sameKind existing = true) :
    AllOrNothing inv item (inv.addToStack p i existing item) ↔
      ∀ e a, existing.typeData = .consumable e → item.typeData = .consumable a →
        e.toNat + a.toNat < 2 ^ 16 ∧
          (item.reference.maxStackSize < e + a → inv.emptySlot.isSome = true) := by
  by_cases hboth : ∃ e a, existing.typeData = .consumable e ∧ item.typeData = .consumable a
  · obtain ⟨e, a, he, ha⟩ := hboth
    rw [allOrNothing_addToStack_iff hi hkind he ha]
    constructor
    · intro h e' a' he' ha'
      obtain rfl : e = e' := by simpa [he] using he'
      obtain rfl : a = a' := by simpa [ha] using ha'
      exact h
    · intro h
      exact h e a he ha
  · have hrefused : inv.addToStack p i existing item = some (inv, none) := by
      unfold addToStack
      split
      · rename_i e a he ha
        exact absurd ⟨e, a, he, ha⟩ hboth
      · rfl
    rw [hrefused]
    refine iff_of_true ⟨inv, none, rfl, fun _ => ⟨rfl, rfl⟩, fun slot h => by simp at h⟩ ?_
    intro e a he ha
    exact absurd ⟨e, a, he, ha⟩ hboth

/-- Whether the addition is a clean one, once the stack is chosen. -/
theorem addsCleanly_iff {order : List Slot} (hmax : 1 < item.reference.maxStackSize)
    (hchosen : inv.stackWithRoom order item = some i) (hi : inv.items i = some existing) :
    AddsCleanly order inv item ↔
      ∀ e a, existing.typeData = .consumable e → item.typeData = .consumable a →
        e.toNat + a.toNat < 2 ^ 16 ∧
          (item.reference.maxStackSize < e + a → inv.emptySlot.isSome = true) := by
  constructor
  · intro h e a he ha
    exact h hmax i existing e a hchosen hi he ha
  · intro h _ i' existing' e a hi' hitem he ha
    obtain rfl : i = i' := by simpa [hchosen] using hi'
    obtain rfl : existing = existing' := by simpa [hi] using hitem
    exact h e a he ha

/-- **When an addition is all or nothing**: exactly if its sum with the chosen stack does not overflow, and
there is a free slot for what the stack cannot hold. -/
theorem addItem_allOrNothing_iff (p : Profile) (order : List Slot) (inv : Inventory) (item : Item) :
    AllOrNothing inv item (inv.addItem p order item) ↔ AddsCleanly order inv item := by
  rw [addItem_eq]
  by_cases hmax : 1 < item.reference.maxStackSize
  · rw [if_pos hmax]
    cases hchosen : inv.stackWithRoom order item with
    | none =>
        refine iff_of_true (allOrNothing_addToEmptySlot inv item) fun _ i existing e a h => ?_
        simp [hchosen] at h
    | some i =>
        obtain ⟨existing, hi, hkind⟩ := sameKind_of_chosen hchosen
        rw [addsCleanly_iff hmax hchosen hi]
        simp only [hi, Option.bind_some]
        exact allOrNothing_onStack_iff hi hkind
  · rw [if_neg hmax]
    exact iff_of_true (allOrNothing_addToEmptySlot inv item) fun h => absurd h hmax

/-- The only slot of the bag has a stack of forty-five potions, and ten more do not all fit: `None` is
returned, and there are fifty. -/
theorem add_ten_to_full_bag_fills_stack :
    let bag := (new 14 (by decide)).setItem 13 (potion 45)
    IterationOrder bag.items [13] ∧ 1 ≤ (potion 10).stackSize ∧
      (potion 10).stackSize ≤ (potion 10).reference.maxStackSize ∧
      (∃ inv', bag.addItem .debug [13] (potion 10) = some (inv', none) ∧
        inv'.items 13 = some (potion 50)) ∧
      ¬AllOrNothing bag (potion 10) (bag.addItem .debug [13] (potion 10)) := by
  intro bag
  have horder : IterationOrder bag.items [13] := by
    refine ⟨by decide, fun slot => ?_⟩
    simp only [bag, setItem_items, new]
    grind [Function.update_apply]
  refine ⟨horder, by decide, by decide, ⟨_, rfl, by decide⟩, ?_⟩
  rintro ⟨inv', res, h, hnone, -⟩
  obtain ⟨rfl, rfl⟩ := Prod.mk.inj (Option.some_inj.1 h)
  exact absurd (congrFun (hnone rfl).1 13) (by decide)

end Inventory

end Skrillax

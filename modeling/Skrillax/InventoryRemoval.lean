/-
**A removal takes exactly what it is asked for, but at the end of the quantity.**

`removeItem` goes through the stacks of a kind in the order of a hash map, takes whole stacks while they
hold no more than is still to be removed, and makes the stack smaller that holds more.  When at most one
is left to be removed it takes the next stack whole and counts it as one, whatever the stack holds; this
also happens when nothing is left to be removed.  And where the build checks for overflows, making a
stack smaller by `2 ^ 15` or more panics.

So a removal is exact precisely when it clears these two (`Inventory.removeItem_exact_iff`): the sizes
of the stacks, in the order of the iteration, are those of `Inventory.RemovesExactly`.

Main definitions:

* `Item.sameKind`, `Inventory.kindTotal` — the quantity of items of the same reference and variance;
* `Inventory.RemovesExactly` — the sizes of stacks, in order, from which a quantity is removed exactly;
* `Inventory.ExactRemoval` — what a removal should do.

Main results:

* `Inventory.RemoveOutcome.frame` — a removal touches the listed slots only;
* `Inventory.removeItem_exact_iff` — **when a removal takes what it is asked for**.
-/

import Skrillax.InventoryMoves

set_option relaxedAutoImplicit false
set_option autoImplicit false

namespace Skrillax

open Rust

/-! ### The quantity of a kind -/

/-- Two items have the same reference and variance. -/
def Item.sameKind (item existing : Item) : Bool :=
  existing.reference.eq item.reference && existing.variance == item.variance

/-- How many items of the kind of `item` are in a slot. -/
def kindQuantity (item : Item) : Option Item → ℕ
  | none => 0
  | some existing => if item.sameKind existing then existing.stackSize.toNat else 0

namespace Inventory

/-- How many items of the kind of `item` are in all the slots. -/
def kindTotal (item : Item) (inv : Inventory) : ℕ :=
  ∑ slot, kindQuantity item (inv.items slot)

/-- The slot holds an item of the kind of `item`. -/
def holdsKind (item : Item) (inv : Inventory) (slot : Slot) : Bool :=
  (inv.items slot).any item.sameKind

/-- The size of the stack in a slot. -/
def sizeAt (inv : Inventory) (slot : Slot) : UInt16 :=
  ((inv.items slot).map Item.stackSize).getD 0

variable {p : Profile} {inv inv' : Inventory} {item existing : Item} {i : Slot}

theorem findSlotsMatching_eq (inv : Inventory) (order : List Slot) (item : Item) :
    inv.findSlotsMatching order item = order.filter (inv.holdsKind item) := by
  refine List.filter_congr fun slot _ => ?_
  cases hi : inv.items slot <;> simp [holdsKind, hi, Item.sameKind]

/-- The quantity in a slot is at most the total. -/
theorem kindQuantity_le_total (item : Item) (inv : Inventory) (slot : Slot) :
    kindQuantity item (inv.items slot) ≤ inv.kindTotal item :=
  Finset.single_le_sum (f := fun slot => kindQuantity item (inv.items slot))
    (fun _ _ => Nat.zero_le _) (Finset.mem_univ slot)

/-- Without a slot of the kind there is nothing of it. -/
theorem kindTotal_eq_zero (h : ∀ slot, inv.holdsKind item slot = false) : inv.kindTotal item = 0 := by
  refine Finset.sum_eq_zero fun slot _ => ?_
  have hslot := h slot
  unfold holdsKind at hslot
  cases hi : inv.items slot with
  | none => rfl
  | some existing =>
      rw [hi, Option.any_some] at hslot
      simp [kindQuantity, hslot]

/-- Writing a slot changes the total by what was there and what is there now. -/
theorem kindTotal_update (item : Item) (inv inv' : Inventory) (i : Slot) (x : Option Item)
    (hitems : inv'.items = Function.update inv.items i x) :
    inv'.kindTotal item + kindQuantity item (inv.items i) =
      inv.kindTotal item + kindQuantity item x := by
  rw [kindTotal, hitems]
  exact Accounting.sum_update (kindQuantity item) inv.items i x

theorem kindQuantity_of_sameKind (h : item.sameKind existing = true) :
    kindQuantity item (some existing) = existing.stackSize.toNat := by
  rw [kindQuantity, if_pos h]

/-- Taking a stack of the kind out of its slot. -/
theorem kindTotal_takeOut (hi : inv.items i = some existing) (hkind : item.sameKind existing = true) :
    (inv.takeOut i).kindTotal item + existing.stackSize.toNat = inv.kindTotal item := by
  have htotal := kindTotal_update item inv (inv.takeOut i) i none rfl
  rwa [hi, kindQuantity_of_sameKind hkind, kindQuantity, Nat.add_zero] at htotal

/-! ### What a removal touches -/

/-- A removal touches the listed slots only. -/
theorem RemoveOutcome.frame {slots : List Slot} {toRemove : UInt16}
    (h : RemoveOutcome slots toRemove inv inv') {slot : Slot} (hslot : slot ∉ slots) :
    inv'.items slot = inv.items slot := by
  induction h with
  | done _ _ => rfl
  | whole existing _ _ _ _ ih =>
      rw [ih (List.not_mem_of_not_mem_cons hslot)]
      exact Function.update_of_ne (List.ne_of_not_mem_cons hslot) ..
  | last existing _ _ => exact Function.update_of_ne (List.ne_of_not_mem_cons hslot) ..
  | part existing n _ _ _ _ => exact Function.update_of_ne (List.ne_of_not_mem_cons hslot) ..

/-! ### The loop -/

/-- The sizes of the stacks, in the order in which they are visited, from which a quantity is removed
exactly: a stack that is visited when at most one is left to be removed is the last one needed and holds
just one, and a stack is split only to take less than `2 ^ 15` from it, unless overflows wrap around. -/
def RemovesExactly (p : Profile) : List UInt16 → UInt16 → Prop
  | [], _ => True
  | size :: sizes, toRemove =>
      if 1 < toRemove then
        if toRemove < size then toRemove.toNat < 2 ^ 15 ∨ p = .release
        else RemovesExactly p sizes (toRemove - size)
      else toRemove = 1 ∧ size = 1

/-- The loop returns with exactly the quantity that is still to be removed, or all that there is, and
the bag holds so much less. -/
def ExactLoop (p : Profile) (item : Item) (slots : List Slot) (inv : Inventory)
    (toRemove removed : UInt16) : Prop :=
  ∃ inv' n, removeItemLoop p slots inv toRemove removed = some (inv', .ok n) ∧
    n.toNat = removed.toNat + min toRemove.toNat (inv.kindTotal item) ∧
    inv'.kindTotal item + min toRemove.toNat (inv.kindTotal item) = inv.kindTotal item

/-- Splitting a stack takes exactly the rest, where the casts do not overflow. -/
theorem exactLoop_split_iff {slots : List Slot} {toRemove removed : UInt16}
    (hi : inv.items i = some existing) (hkind : item.sameKind existing = true)
    (hone : 1 < toRemove) (hlt : toRemove < existing.stackSize)
    (hsum : removed.toNat + toRemove.toNat < 2 ^ 16) :
    ExactLoop p item (i :: slots) inv toRemove removed ↔ toRemove.toNat < 2 ^ 15 ∨ p = .release := by
  obtain ⟨n, hn, hsize⟩ := consumable_of_stackSize hone hlt
  have hltn : toRemove.toNat < n.toNat := by rwa [hsize, UInt16.lt_iff_toNat_lt] at hlt
  have hzero : toRemove ≠ 0 := by
    rintro rfl
    simp at hone
  constructor
  · rintro ⟨inv', m, h, -, -⟩
    simp only [removeItemLoop, hi, if_pos hone, if_pos hlt] at h
    obtain ⟨delta, hdelta, h⟩ := Option.bind_eq_some_iff.1 h
    obtain ⟨r, hr, h⟩ := Option.bind_eq_some_iff.1 h
    obtain rfl := changeStackSize_neg hn (UInt16.lt_iff_toNat_lt.2 hltn) hdelta hr
    obtain ⟨rfl, hmin⟩ := Profile.negI16_eq_some.1 hdelta
    obtain ⟨n', hn', -, -, hpos⟩ := Item.changeStackSize_ok hr
    obtain rfl : n = n' := by simpa [hn] using hn'
    -- a larger amount is the least one, or its negated cast is added out of range
    by_contra hnot
    obtain ⟨hbig, hp⟩ := not_or.1 hnot
    have hne : toRemove.toNat ≠ 2 ^ 15 := by
      intro heq
      obtain rfl : toRemove = 32768 := UInt16.toNat_inj.1 heq
      exact hmin.elim (fun h => h (by decide)) hp
    have hneg : ¬-toRemove.toInt16 < 0 := by
      rw [Item.neg_toInt16_neg_iff hzero]
      omega
    have hrange := (hpos hneg).resolve_right hp
    have hbits : (-toRemove.toInt16).toUInt16 = -toRemove := by simp
    have hsize' : UInt16.size = 2 ^ 16 := rfl
    have hlt' := n.toNat_lt
    rw [hbits, UInt16.toNat_neg, hsize'] at hrange
    omega
  · intro hsmall
    have hneg : p.negI16 toRemove.toInt16 = some (-toRemove.toInt16) :=
      Profile.negI16_eq_some.2 ⟨rfl, hsmall.imp_left toInt16_ne_minValue⟩
    have hshrink := Item.changeStackSize_of_gives (p := p) hn hzero
      (hsmall.imp_left Nat.le_of_lt) ⟨n, hn, fun _ => UInt16.le_iff_toNat_le.2 (by omega)⟩
    have hadd : p.addU16 removed toRemove = some (removed + toRemove) :=
      Profile.addU16_eq_some.2 ⟨rfl, Or.inl hsum⟩
    have htotal := kindTotal_update item inv
      (inv.setItem i { existing with typeData := .consumable (n - toRemove) }) i _ rfl
    have hle := kindQuantity_le_total item inv i
    have hsmaller : item.sameKind { existing with typeData := .consumable (n - toRemove) } = true :=
      hkind
    rw [hi, kindQuantity_of_sameKind hkind, hsize] at hle htotal
    rw [kindQuantity_of_sameKind hsmaller, Item.stackSize_consumable (n := n - toRemove) rfl,
      UInt16.toNat_sub_of_le _ _ (UInt16.le_iff_toNat_le.2 (by omega))] at htotal
    refine ⟨inv.setItem i { existing with typeData := .consumable (n - toRemove) },
      removed + toRemove, ?_, ?_, ?_⟩
    · simp only [removeItemLoop, hi, if_pos hone, if_pos hlt, hneg, hshrink, hadd,
        Option.bind_eq_bind, Option.bind_some, Option.pure_def]
    · rw [UInt16.toNat_add, Nat.mod_eq_of_lt hsum]
      omega
    · omega

/-- Taking a whole stack when more is to be removed leaves the rest to the loop. -/
theorem exactLoop_whole_iff {slots : List Slot} {toRemove removed : UInt16}
    (hi : inv.items i = some existing) (hkind : item.sameKind existing = true)
    (hone : 1 < toRemove) (hle : existing.stackSize ≤ toRemove)
    (hsum : removed.toNat + toRemove.toNat < 2 ^ 16) :
    ExactLoop p item (i :: slots) inv toRemove removed ↔
      ExactLoop p item slots (inv.takeOut i) (toRemove - existing.stackSize)
        (removed + existing.stackSize) := by
  have hnat := UInt16.le_iff_toNat_le.1 hle
  have hadd : p.addU16 removed existing.stackSize = some (removed + existing.stackSize) :=
    Profile.addU16_eq_some.2 ⟨rfl, Or.inl (by omega)⟩
  have hloop : removeItemLoop p (i :: slots) inv toRemove removed =
      removeItemLoop p slots (inv.takeOut i) (toRemove - existing.stackSize)
        (removed + existing.stackSize) := by
    simp only [removeItemLoop, hi, if_pos hone, if_neg (UInt16.not_lt.2 hle), hadd,
      saturatingSubU16, if_pos hle, Option.bind_eq_bind, Option.bind_some]
  have htotal := kindTotal_takeOut hi hkind
  have hrest : (toRemove - existing.stackSize).toNat =
      toRemove.toNat - existing.stackSize.toNat := UInt16.toNat_sub_of_le _ _ hle
  have hremoved : (removed + existing.stackSize).toNat =
      removed.toNat + existing.stackSize.toNat := by
    rw [UInt16.toNat_add, Nat.mod_eq_of_lt (by omega)]
  unfold ExactLoop
  rw [hloop, hrest, hremoved]
  refine exists_congr fun inv' => exists_congr fun n => and_congr_right fun _ => and_congr ?_ ?_
  · omega
  · omega

/-- Taking the next stack when at most one is to be removed is exact if both are one. -/
theorem exactLoop_last_iff {slots : List Slot} {toRemove removed : UInt16}
    (hi : inv.items i = some existing) (hkind : item.sameKind existing = true)
    (hone : ¬1 < toRemove) (hsum : removed.toNat + toRemove.toNat < 2 ^ 16) :
    ExactLoop p item (i :: slots) inv toRemove removed ↔
      toRemove = 1 ∧ existing.stackSize = 1 := by
  have hle : toRemove.toNat ≤ 1 := by
    rw [UInt16.not_lt, UInt16.le_iff_toNat_le] at hone
    exact hone
  have htotal := kindTotal_takeOut hi hkind
  constructor
  · rintro ⟨inv', n, h, hn, hrest⟩
    simp only [removeItemLoop, hi, if_neg hone] at h
    obtain ⟨m, hm, h⟩ := Option.bind_eq_some_iff.1 h
    obtain ⟨rfl, -⟩ := Profile.addU16_eq_some.1 hm
    simp only [Option.pure_def, Option.some.injEq, Prod.mk.injEq, Except.ok.injEq] at h
    obtain ⟨rfl, rfl⟩ := h
    rw [UInt16.toNat_add, UInt16.toNat_one] at hn
    constructor
    · rw [← UInt16.toNat_inj, UInt16.toNat_one]
      omega
    · rw [← UInt16.toNat_inj, UInt16.toNat_one]
      omega
  · rintro ⟨rfl, hsize⟩
    rw [UInt16.toNat_one] at hsum
    have hadd : p.addU16 removed 1 = some (removed + 1) :=
      Profile.addU16_eq_some.2 ⟨rfl, Or.inl hsum⟩
    rw [hsize, UInt16.toNat_one] at htotal
    refine ⟨inv.takeOut i, removed + 1, ?_, ?_, ?_⟩
    · simp only [removeItemLoop, hi, if_neg hone, hadd, Option.bind_eq_bind, Option.bind_some,
        Option.pure_def]
    · rw [UInt16.toNat_add, UInt16.toNat_one]
      omega
    · rw [UInt16.toNat_one]
      omega

/-- The slots that are still listed, after one of them has been emptied. -/
theorem holdsKind_takeOut {slots : List Slot} (hnodup : (i :: slots).Nodup)
    (hslots : ∀ slot, slot ∈ i :: slots ↔ inv.holdsKind item slot = true) (slot : Slot) :
    slot ∈ slots ↔ (inv.takeOut i).holdsKind item slot = true := by
  by_cases hslot : slot = i
  · subst hslot
    simp [(List.nodup_cons.1 hnodup).1, holdsKind, takeOut]
  · have hitems : (inv.takeOut i).items slot = inv.items slot := Function.update_of_ne hslot ..
    rw [holdsKind, hitems, ← holdsKind, ← hslots slot, List.mem_cons]
    exact ⟨Or.inr, fun h => h.resolve_left hslot⟩

/-- Emptying a slot leaves the sizes of the others. -/
theorem map_sizeAt_takeOut {slots : List Slot} (hi : i ∉ slots) :
    slots.map (inv.takeOut i).sizeAt = slots.map inv.sizeAt := by
  refine List.map_congr_left fun slot hslot => ?_
  have hne : slot ≠ i := fun h => hi (h ▸ hslot)
  have hitems : (inv.takeOut i).items slot = inv.items slot := Function.update_of_ne hne ..
  rw [sizeAt, hitems, ← sizeAt]

/-- **The loop is exact iff the sizes of the stacks allow it.** -/
theorem exactLoop_iff :
    ∀ {slots : List Slot} {inv : Inventory} {toRemove removed : UInt16}, slots.Nodup →
      (∀ slot, slot ∈ slots ↔ inv.holdsKind item slot = true) →
      removed.toNat + toRemove.toNat < 2 ^ 16 →
      (ExactLoop p item slots inv toRemove removed ↔
        RemovesExactly p (slots.map inv.sizeAt) toRemove) := by
  intro slots
  induction slots with
  | nil =>
      intro inv toRemove removed _ hslots _
      have hzero : inv.kindTotal item = 0 := by
        refine kindTotal_eq_zero fun slot => ?_
        rw [← Bool.not_eq_true, ← hslots slot]
        exact List.not_mem_nil
      refine iff_of_true ⟨inv, removed, rfl, ?_, ?_⟩ trivial
      · omega
      · omega
  | cons i slots ih =>
      intro inv toRemove removed hnodup hslots hsum
      obtain ⟨existing, hi, hkind⟩ := (Option.any_eq_true ..).1 ((hslots i).1 List.mem_cons_self)
      have hsize : inv.sizeAt i = existing.stackSize := by rw [sizeAt, hi]; rfl
      rw [List.map_cons, hsize, RemovesExactly]
      by_cases hone : 1 < toRemove
      · rw [if_pos hone]
        by_cases hlt : toRemove < existing.stackSize
        · rw [if_pos hlt]
          exact exactLoop_split_iff hi hkind hone hlt hsum
        · have hle := UInt16.not_lt.1 hlt
          have hnat := UInt16.le_iff_toNat_le.1 hle
          rw [if_neg hlt, exactLoop_whole_iff hi hkind hone hle hsum,
            ih (List.nodup_cons.1 hnodup).2 (holdsKind_takeOut hnodup hslots) ?_,
            map_sizeAt_takeOut (List.nodup_cons.1 hnodup).1]
          rw [UInt16.toNat_sub_of_le _ _ hle, UInt16.toNat_add]
          omega
      · rw [if_neg hone]
        exact exactLoop_last_iff hi hkind hone hsum

/-! ### A removal -/

/-- What a removal should do: return the smaller of what is asked for and what there is, take that much
of the kind, and leave the slots with anything else alone. -/
def ExactRemoval (p : Profile) (order : List Slot) (inv : Inventory) (item : Item) : Prop :=
  ∃ inv' n, inv.removeItem p order item = some (inv', .ok n) ∧
    n.toNat = min item.stackSize.toNat (inv.kindTotal item) ∧
    inv'.kindTotal item + n.toNat = inv.kindTotal item ∧
    ∀ slot, inv.holdsKind item slot = false → inv'.items slot = inv.items slot

/-- **When a removal takes what it is asked for**: for every order of the iteration, it does so exactly
if the sizes of the stacks, in that order, allow it. -/
theorem removeItem_exact_iff (p : Profile) (order : List Slot) (inv : Inventory) (item : Item)
    (horder : IterationOrder inv.items order) :
    ExactRemoval p order inv item ↔
      RemovesExactly p ((inv.findSlotsMatching order item).map inv.sizeAt) item.stackSize := by
  have hnodup : (inv.findSlotsMatching order item).Nodup := horder.1.filter _
  have hslots : ∀ slot, slot ∈ inv.findSlotsMatching order item ↔
      inv.holdsKind item slot = true := by
    intro slot
    rw [findSlotsMatching_eq, List.mem_filter, horder.2 slot]
    refine and_iff_right_of_imp fun h => ?_
    obtain ⟨existing, hi, -⟩ := (Option.any_eq_true ..).1 h
    rw [hi]
    rfl
  have hlt : (0 : UInt16).toNat + item.stackSize.toNat < 2 ^ 16 := by
    have := item.stackSize.toNat_lt
    rw [UInt16.toNat_zero]
    omega
  rw [← exactLoop_iff hnodup hslots hlt]
  constructor
  · rintro ⟨inv', n, h, hn, htotal, -⟩
    rw [hn] at htotal
    refine ⟨inv', n, h, ?_, htotal⟩
    rw [hn, UInt16.toNat_zero, Nat.zero_add]
  · rintro ⟨inv', n, h, hn, htotal⟩
    rw [UInt16.toNat_zero, Nat.zero_add] at hn
    rw [← hn] at htotal
    refine ⟨inv', n, h, hn, htotal, fun slot hslot => ?_⟩
    refine (removeItem_outcome h).frame fun hmem => ?_
    rw [(hslots slot).1 hmem] at hslot
    simp at hslot

/-- Twelve potions are taken from stacks of seven, eight and nine: a whole stack and a part of the
next. -/
theorem removeItem_exact_twelve :
    let bag := (((default : Inventory).setItem 13 (potion 7)).setItem 14 (potion 8)).setItem 15
      (potion 9)
    IterationOrder bag.items [15, 13, 14] ∧ ExactRemoval .debug [15, 13, 14] bag (potion 12) := by
  intro bag
  have horder : IterationOrder bag.items [15, 13, 14] := by
    refine ⟨by decide, fun slot => ?_⟩
    simp only [bag, setItem_items, default, new]
    grind [Function.update_apply]
  refine ⟨horder, (removeItem_exact_iff .debug _ bag (potion 12) horder).2 ?_⟩
  have hsizes : (bag.findSlotsMatching [15, 13, 14] (potion 12)).map bag.sizeAt = [9, 7, 8] := by
    decide
  rw [hsizes]
  -- nine are taken whole, and then three of the seven
  exact Or.inl (by decide)

/-- Five potions are asked for, a stack of four is met first, and then one of nine: it is taken whole
for the one that is left. -/
theorem removeItem_takes_nine_for_one :
    let bag := ((default : Inventory).setItem 13 (potion 4)).setItem 14 (potion 9)
    IterationOrder bag.items [13, 14] ∧
      (∃ inv', bag.removeItem .debug [13, 14] (potion 5) = some (inv', .ok 5) ∧
        inv'.items 13 = none ∧ inv'.items 14 = none) ∧
      ¬ExactRemoval .debug [13, 14] bag (potion 5) := by
  intro bag
  have horder : IterationOrder bag.items [13, 14] := by
    refine ⟨by decide, fun slot => ?_⟩
    simp only [bag, setItem_items, default, new]
    grind [Function.update_apply]
  have hloop : bag.removeItem .debug [13, 14] (potion 5) =
      some ((bag.takeOut 13).takeOut 14, .ok 5) := rfl
  refine ⟨horder, ⟨_, hloop, by decide, by decide⟩, ?_⟩
  rintro ⟨inv', n, h, hn, htotal, -⟩
  obtain ⟨rfl, rfl⟩ : (bag.takeOut 13).takeOut 14 = inv' ∧ 5 = n := by simpa [hloop] using h
  have h13 := kindTotal_takeOut (show bag.items 13 = some (potion 4) from rfl)
    (show (potion 5).sameKind (potion 4) = true from rfl)
  have h14 := kindTotal_takeOut (show (bag.takeOut 13).items 14 = some (potion 9) from rfl)
    (show (potion 5).sameKind (potion 9) = true from rfl)
  rw [show (potion 4).stackSize.toNat = 4 from rfl] at h13
  rw [show (potion 9).stackSize.toNat = 9 from rfl] at h14
  rw [show (5 : UInt16).toNat = 5 from rfl] at htotal
  omega

end Inventory

end Skrillax

/-
**The changes of an inventory, and their optimised logs.**

An inventory logs five kinds of changes.  `InventoryChange.apply` is what a change does to a slot map,
undefined where its precondition fails; `InventoryChange.merge` is the merge of two changes that the
optimiser of `Skrillax/Changes.lean` uses.

The merge is correct for adjacent changes but for two pairs: a move and the move back are merged into
a move of a slot to itself, and a swap of a slot with itself cancels every swap that follows it on that
slot.  It also calls changes unrelated that are not (a move and an addition to the slot it has just
left, for instance), so the walk of the optimiser may overtake a change it depends on.  A log whose
run stays clear of both keeps its meaning (`optimize_apply`); `optimize_move_overtaken` is a log of
three changes that does not.

Main definitions:

* `InventoryChange`, `InventoryChange.merge` — the changes and their merge;
* `SlotMap`, `InventoryChange.apply` — what a change does;
* `InventoryChange.slots`, `InventoryChange.Independent` — the slots a change touches;
* `InventoryChange.MergesCorrectly` — the pairs whose merge is right.

Main results:

* `InventoryChange.hasFootprint` — a change reads and writes its own slots only;
* `InventoryChange.merged_refines`, `InventoryChange.cancelled_refines` — the merge of adjacent
  changes;
* `InventoryChange.mergeSound`, `optimize_apply` — **a safe log of inventory changes keeps its
  meaning**.
-/

import Skrillax.Changes
import Skrillax.Footprint
import Skrillax.Item

set_option relaxedAutoImplicit false
set_option autoImplicit false

namespace Skrillax

open PartialAction

/-! ### Changes and their merge -/

/-- The number of a slot. -/
abbrev Slot := UInt8

inductive InventoryChange where
  | addItem (slot : Slot) (item : Item)
  | changeTypeData (slot : Slot) (oldItem newItem : ItemTypeData)
  | moveItem (sourceSlot targetSlot : Slot)
  | removeItem (slot : Slot)
  | swap (firstSlot secondSlot : Slot)
  deriving DecidableEq, Repr

namespace InventoryChange

/-- `Change::merge`, arm by arm. -/
def merge (self other : InventoryChange) : MergeResult InventoryChange :=
  match self with
  | addItem slot item =>
      match other with
      | addItem newSlot _ => if slot = newSlot then .merged other else .unchanged self other
      | moveItem sourceSlot targetSlot =>
          if sourceSlot = slot then .merged (addItem targetSlot item) else .unchanged self other
      | removeItem removedSlot => if slot = removedSlot then .cancelled else .unchanged self other
      | changeTypeData changedSlot oldItem newItem =>
          if slot = changedSlot ∧ item.typeData = oldItem then
            .merged (addItem slot { item with typeData := newItem })
          else .unchanged self other
      | swap firstSlot secondSlot =>
          if firstSlot = slot ∨ secondSlot = slot then .incompatible self other
          else .unchanged self other
  | removeItem slot =>
      match other with
      | addItem newSlot _ => if slot = newSlot then .incompatible self other else .unchanged self other
      | removeItem otherSlot =>
          if slot = otherSlot then .incompatible self other else .unchanged self other
      | moveItem sourceSlot _ =>
          if slot = sourceSlot then .incompatible self other else .unchanged self other
      | changeTypeData changedSlot _ _ =>
          if slot = changedSlot then .incompatible self other else .unchanged self other
      | swap firstSlot secondSlot =>
          if firstSlot = slot ∨ secondSlot = slot then .incompatible self other
          else .unchanged self other
  | moveItem sourceSlot targetSlot =>
      match other with
      | addItem slot _ => if targetSlot = slot then .incompatible self other else .unchanged self other
      | moveItem newSource newTarget =>
          if targetSlot = newSource then .merged (moveItem sourceSlot newTarget)
          else .unchanged self other
      | removeItem slot =>
          if slot = targetSlot then .merged (removeItem sourceSlot) else .unchanged self other
      | swap firstSlot secondSlot =>
          if secondSlot = targetSlot ∨ firstSlot = targetSlot ∨ secondSlot = sourceSlot ∨
              firstSlot = sourceSlot then .incompatible self other
          else .unchanged self other
      | changeTypeData _ _ _ => .unchanged self other
  | changeTypeData slot oldItem newItem =>
      match other with
      | changeTypeData otherSlot changedOld changedNew =>
          if slot = otherSlot then
            if newItem = changedOld then .merged (changeTypeData slot oldItem changedNew)
            else .incompatible self other
          else .unchanged self other
      | moveItem sourceSlot _ =>
          if sourceSlot = slot then .incompatible self other else .unchanged self other
      | removeItem removedSlot => if slot = removedSlot then .merged other else .unchanged self other
      | swap firstSlot secondSlot =>
          if firstSlot = slot ∨ secondSlot = slot then .incompatible self other
          else .unchanged self other
      | addItem _ _ => .unchanged self other
  | swap firstSlot secondSlot =>
      match other with
      | addItem slot _ | changeTypeData slot _ _ | removeItem slot =>
          if slot = firstSlot ∨ slot = secondSlot then .incompatible self other
          else .unchanged self other
      | moveItem sourceSlot targetSlot =>
          if firstSlot = sourceSlot ∨ firstSlot = targetSlot ∨ secondSlot = sourceSlot ∨
              secondSlot = targetSlot then .incompatible self other
          else .unchanged self other
      | swap otherFirstSlot otherSecondSlot =>
          -- the second comparison of the first pair names the other's first slot again
          if (firstSlot = otherFirstSlot ∧ secondSlot = otherFirstSlot) ∨
              (firstSlot = otherSecondSlot ∧ secondSlot = otherFirstSlot) then .cancelled
          else if firstSlot = otherFirstSlot ∨ firstSlot = otherSecondSlot ∨
              secondSlot = otherFirstSlot ∨ secondSlot = otherSecondSlot then
            .incompatible self other
          else .unchanged self other

instance : Change InventoryChange := ⟨merge⟩

/-- A pair that is left alone comes back as it was. -/
theorem merge_args {l r l' r' : InventoryChange}
    (h : merge l r = .unchanged l' r' ∨ merge l r = .incompatible l' r') : l' = l ∧ r' = r := by
  cases l <;> cases r <;> grind [merge]

end InventoryChange

/-! ### What a change does -/

/-- The occupied slots of an inventory, with their items. -/
abbrev SlotMap := Slot → Option Item

namespace InventoryChange

/-- The effect of a change on a slot map, undefined where its precondition fails. -/
def apply (c : InventoryChange) (S : SlotMap) : Option SlotMap :=
  match c with
  | addItem slot item =>
      match S slot with
      | none => some (Function.update S slot (some item))
      | some _ => none
  | changeTypeData slot oldItem newItem =>
      match S slot with
      | some item =>
          if item.typeData = oldItem then
            some (Function.update S slot (some { item with typeData := newItem }))
          else none
      | none => none
  | moveItem sourceSlot targetSlot =>
      match S sourceSlot, S targetSlot with
      | some item, none =>
          some (Function.update (Function.update S sourceSlot none) targetSlot (some item))
      | _, _ => none
  | removeItem slot =>
      match S slot with
      | some _ => some (Function.update S slot none)
      | none => none
  | swap firstSlot secondSlot =>
      match S firstSlot, S secondSlot with
      | some first, some second =>
          some (Function.update (Function.update S firstSlot (some second)) secondSlot (some first))
      | _, _ => none

/-- The slots that a change touches. -/
def slots : InventoryChange → List Slot
  | addItem slot _ => [slot]
  | changeTypeData slot _ _ => [slot]
  | moveItem sourceSlot targetSlot => [sourceSlot, targetSlot]
  | removeItem slot => [slot]
  | swap firstSlot secondSlot => [firstSlot, secondSlot]

theorem apply_addItem {slot : Slot} {item : Item} {S T : SlotMap} :
    (addItem slot item).apply S = some T ↔
      S slot = none ∧ T = Function.update S slot (some item) := by
  cases h : S slot <;> simp [apply, h, eq_comm]

theorem apply_changeTypeData {slot : Slot} {oldItem newItem : ItemTypeData} {S T : SlotMap} :
    (changeTypeData slot oldItem newItem).apply S = some T ↔
      ∃ item, S slot = some item ∧ item.typeData = oldItem ∧
        T = Function.update S slot (some { item with typeData := newItem }) := by
  cases h : S slot <;> simp [apply, h, eq_comm]

theorem apply_moveItem {sourceSlot targetSlot : Slot} {S T : SlotMap} :
    (moveItem sourceSlot targetSlot).apply S = some T ↔
      ∃ item, S sourceSlot = some item ∧ S targetSlot = none ∧
        T = Function.update (Function.update S sourceSlot none) targetSlot (some item) := by
  cases h : S sourceSlot <;> cases h' : S targetSlot <;> simp [apply, h, h', eq_comm]

theorem apply_removeItem {slot : Slot} {S T : SlotMap} :
    (removeItem slot).apply S = some T ↔
      ∃ item, S slot = some item ∧ T = Function.update S slot none := by
  cases h : S slot <;> simp [apply, h, eq_comm]

theorem apply_swap {firstSlot secondSlot : Slot} {S T : SlotMap} :
    (swap firstSlot secondSlot).apply S = some T ↔
      ∃ first second, S firstSlot = some first ∧ S secondSlot = some second ∧
        T = Function.update (Function.update S firstSlot (some second)) secondSlot
          (some first) := by
  cases h : S firstSlot <;> cases h' : S secondSlot <;> simp [apply, h, h', eq_comm]

/-- A change reads and writes its own slots only. -/
theorem hasFootprint (c : InventoryChange) : HasFootprint c.apply {slot | slot ∈ c.slots} := by
  cases c with
  | addItem slot item =>
      constructor
      · intro S T h k hk
        obtain ⟨-, rfl⟩ := apply_addItem.1 h
        grind [slots, Function.update_apply]
      · intro S S' T hS h
        obtain ⟨hnone, rfl⟩ := apply_addItem.1 h
        refine ⟨_, apply_addItem.2 ⟨?_, rfl⟩, ?_⟩ <;> grind [slots, Function.update_apply]
  | changeTypeData slot oldItem newItem =>
      constructor
      · intro S T h k hk
        obtain ⟨item, -, -, rfl⟩ := apply_changeTypeData.1 h
        grind [slots, Function.update_apply]
      · intro S S' T hS h
        obtain ⟨item, hitem, hold, rfl⟩ := apply_changeTypeData.1 h
        refine ⟨_, apply_changeTypeData.2 ⟨item, ?_, hold, rfl⟩, ?_⟩ <;>
          grind [slots, Function.update_apply]
  | moveItem sourceSlot targetSlot =>
      constructor
      · intro S T h k hk
        obtain ⟨item, -, -, rfl⟩ := apply_moveItem.1 h
        grind [slots, Function.update_apply]
      · intro S S' T hS h
        obtain ⟨item, hsource, htarget, rfl⟩ := apply_moveItem.1 h
        refine ⟨_, apply_moveItem.2 ⟨item, ?_, ?_, rfl⟩, ?_⟩ <;> grind [slots, Function.update_apply]
  | removeItem slot =>
      constructor
      · intro S T h k hk
        obtain ⟨item, -, rfl⟩ := apply_removeItem.1 h
        grind [slots, Function.update_apply]
      · intro S S' T hS h
        obtain ⟨item, hitem, rfl⟩ := apply_removeItem.1 h
        refine ⟨_, apply_removeItem.2 ⟨item, ?_, rfl⟩, ?_⟩ <;> grind [slots, Function.update_apply]
  | swap firstSlot secondSlot =>
      constructor
      · intro S T h k hk
        obtain ⟨first, second, -, -, rfl⟩ := apply_swap.1 h
        grind [slots, Function.update_apply]
      · intro S S' T hS h
        obtain ⟨first, second, hfirst, hsecond, rfl⟩ := apply_swap.1 h
        refine ⟨_, apply_swap.2 ⟨first, second, ?_, ?_, rfl⟩, ?_⟩ <;>
          grind [slots, Function.update_apply]

/-- The change touches no slot that one of the listed changes touches. -/
def Independent (c : InventoryChange) (xs : List InventoryChange) : Prop :=
  ∀ x ∈ xs, ∀ slot ∈ c.slots, slot ∉ x.slots

instance (c : InventoryChange) (xs : List InventoryChange) : Decidable (Independent c xs) :=
  have (x : InventoryChange) : Decidable (∀ slot ∈ c.slots, slot ∉ x.slots) :=
    List.decidableBAll _ _
  List.decidableBAll _ _

theorem Independent.passes {c : InventoryChange} {xs : List InventoryChange}
    (h : Independent c xs) : Passes apply c xs := by
  refine passes_of_swaps fun x hx => ?_
  have hdisj : Disjoint {slot | slot ∈ c.slots} {slot | slot ∈ x.slots} :=
    Set.disjoint_left.2 fun slot hc => h x hx slot hc
  exact ⟨c.hasFootprint.refines_swap x.hasFootprint hdisj,
    x.hasFootprint.refines_swap c.hasFootprint hdisj.symm⟩

/-! ### Merging adjacent changes -/

/-- The pairs that a merge may be asked about without going wrong.  The move back of a move is merged
into a move of a slot to itself, whose target is not empty; and because the test for two equal swaps
compares the wrong slots, a swap of a slot with itself cancels a swap of that slot with any other. -/
def MergesCorrectly : InventoryChange → InventoryChange → Prop
  | moveItem sourceSlot _, moveItem _ newTarget => newTarget ≠ sourceSlot
  | swap firstSlot secondSlot, swap otherFirstSlot otherSecondSlot =>
      firstSlot = secondSlot → firstSlot = otherFirstSlot → otherSecondSlot = firstSlot
  | _, _ => True

instance : ∀ l r : InventoryChange, Decidable (MergesCorrectly l r)
  | moveItem sourceSlot _, moveItem _ newTarget =>
      inferInstanceAs (Decidable (newTarget ≠ sourceSlot))
  | swap firstSlot secondSlot, swap otherFirstSlot otherSecondSlot =>
      inferInstanceAs (Decidable
        (firstSlot = secondSlot → firstSlot = otherFirstSlot → otherSecondSlot = firstSlot))
  | addItem _ _, _ => .isTrue trivial
  | changeTypeData _ _ _, _ => .isTrue trivial
  | removeItem _, _ => .isTrue trivial
  | moveItem _ _, addItem _ _ => .isTrue trivial
  | moveItem _ _, changeTypeData _ _ _ => .isTrue trivial
  | moveItem _ _, removeItem _ => .isTrue trivial
  | moveItem _ _, swap _ _ => .isTrue trivial
  | swap _ _, addItem _ _ => .isTrue trivial
  | swap _ _, changeTypeData _ _ _ => .isTrue trivial
  | swap _ _, removeItem _ => .isTrue trivial
  | swap _ _, moveItem _ _ => .isTrue trivial

/-- Every way in which two changes are merged. -/
theorem merge_eq_merged {l r m : InventoryChange} (h : merge l r = .merged m) :
    (∃ slot item newItem, l = addItem slot item ∧ r = addItem slot newItem ∧ m = r) ∨
    (∃ slot item target, l = addItem slot item ∧ r = moveItem slot target ∧
      m = addItem target item) ∨
    (∃ slot item newItem, l = addItem slot item ∧ r = changeTypeData slot item.typeData newItem ∧
      m = addItem slot { item with typeData := newItem }) ∨
    (∃ source middle target, l = moveItem source middle ∧ r = moveItem middle target ∧
      m = moveItem source target) ∨
    (∃ source target, l = moveItem source target ∧ r = removeItem target ∧
      m = removeItem source) ∨
    (∃ slot d₁ d₂ d₃, l = changeTypeData slot d₁ d₂ ∧ r = changeTypeData slot d₂ d₃ ∧
      m = changeTypeData slot d₁ d₃) ∨
    (∃ slot d₁ d₂, l = changeTypeData slot d₁ d₂ ∧ r = removeItem slot ∧ m = r) := by
  cases l <;> cases r <;> grind [merge]

/-- Every way in which two changes cancel each other. -/
theorem merge_eq_cancelled {l r : InventoryChange} (h : merge l r = .cancelled) :
    (∃ slot item, l = addItem slot item ∧ r = removeItem slot) ∨
    (∃ slot other, l = swap slot slot ∧ r = swap slot other) ∨
    (∃ first second, l = swap first second ∧ r = swap second first) := by
  cases l <;> cases r <;> grind [merge]

/-- A merged change does what the two changes do. -/
theorem merged_refines {l r m : InventoryChange} (hgood : MergesCorrectly l r)
    (h : merge l r = .merged m) : Refines apply [l, r] [m] := by
  refine Refines.of_pair fun S U T hU hT => ?_
  rw [runAll_singleton]
  rcases merge_eq_merged h with ⟨slot, item, newItem, rfl, rfl, rfl⟩ |
    ⟨slot, item, target, rfl, rfl, rfl⟩ | ⟨slot, item, newItem, rfl, rfl, rfl⟩ |
    ⟨source, middle, target, rfl, rfl, rfl⟩ | ⟨source, target, rfl, rfl, rfl⟩ |
    ⟨slot, d₁, d₂, d₃, rfl, rfl, rfl⟩ | ⟨slot, d₁, d₂, rfl, rfl, rfl⟩
  · -- the second addition finds the slot occupied
    obtain ⟨-, rfl⟩ := apply_addItem.1 hU
    have := (apply_addItem.1 hT).1
    simp at this
  · obtain ⟨hslot, rfl⟩ := apply_addItem.1 hU
    obtain ⟨item', hsource, htarget, rfl⟩ := apply_moveItem.1 hT
    refine apply_addItem.2 ⟨?_, funext fun k => ?_⟩ <;> grind [Function.update_apply]
  · obtain ⟨hslot, rfl⟩ := apply_addItem.1 hU
    obtain ⟨item', hitem, -, rfl⟩ := apply_changeTypeData.1 hT
    refine apply_addItem.2 ⟨hslot, funext fun k => ?_⟩
    grind [Function.update_apply]
  · obtain ⟨item, hsource, hmiddle, rfl⟩ := apply_moveItem.1 hU
    obtain ⟨item', hitem, htarget, rfl⟩ := apply_moveItem.1 hT
    have hne : target ≠ source := hgood
    refine apply_moveItem.2 ⟨item, hsource, ?_, funext fun k => ?_⟩ <;>
      grind [Function.update_apply]
  · obtain ⟨item, hsource, htarget, rfl⟩ := apply_moveItem.1 hU
    obtain ⟨item', -, rfl⟩ := apply_removeItem.1 hT
    refine apply_removeItem.2 ⟨item, hsource, funext fun k => ?_⟩
    grind [Function.update_apply]
  · obtain ⟨item, hitem, hd₁, rfl⟩ := apply_changeTypeData.1 hU
    obtain ⟨item', hitem', -, rfl⟩ := apply_changeTypeData.1 hT
    refine apply_changeTypeData.2 ⟨item, hitem, hd₁, funext fun k => ?_⟩
    grind [Function.update_apply]
  · obtain ⟨item, hitem, -, rfl⟩ := apply_changeTypeData.1 hU
    obtain ⟨item', -, rfl⟩ := apply_removeItem.1 hT
    refine apply_removeItem.2 ⟨item, hitem, funext fun k => ?_⟩
    grind [Function.update_apply]

/-- A cancelled pair does nothing. -/
theorem cancelled_refines {l r : InventoryChange} (hgood : MergesCorrectly l r)
    (h : merge l r = .cancelled) : Refines apply [l, r] [] := by
  refine Refines.of_pair fun S U T hU hT => ?_
  rw [runAll_nil, Option.some_inj]
  rcases merge_eq_cancelled h with ⟨slot, item, rfl, rfl⟩ | ⟨slot, other, rfl, rfl⟩ |
    ⟨first, second, rfl, rfl⟩
  · obtain ⟨hslot, rfl⟩ := apply_addItem.1 hU
    obtain ⟨item', -, rfl⟩ := apply_removeItem.1 hT
    funext k
    grind [Function.update_apply]
  · obtain rfl : other = slot := hgood rfl rfl
    obtain ⟨a, b, ha, hb, rfl⟩ := apply_swap.1 hU
    obtain ⟨a', b', ha', hb', rfl⟩ := apply_swap.1 hT
    funext k
    grind [Function.update_apply]
  · obtain ⟨a, b, ha, hb, rfl⟩ := apply_swap.1 hU
    obtain ⟨a', b', ha', hb', rfl⟩ := apply_swap.1 hT
    funext k
    grind [Function.update_apply]

/-! ### Optimised logs -/

/-- Inventory changes satisfy what the optimiser needs. -/
theorem mergeSound : MergeSound apply MergesCorrectly Independent where
  unchanged_args h := merge_args (Or.inl h)
  incompatible_args h := merge_args (Or.inr h)
  merged hgood h := merged_refines hgood h
  cancelled hgood h := cancelled_refines hgood h
  passes h := h.passes

end InventoryChange

/-- **A safe log of inventory changes keeps its meaning**: if no merge of the run of the optimiser
goes wrong and none overtakes a change on a slot of its own, the optimised log is applicable
wherever the log is, and leads to the same slot map. -/
theorem optimize_apply (changes : List InventoryChange) (S T : SlotMap)
    (happly : runAll InventoryChange.apply changes S = some T)
    (hsafe : SafeFold InventoryChange.MergesCorrectly InventoryChange.Independent [] changes) :
    runAll InventoryChange.apply (optimize changes) S = some T :=
  InventoryChange.mergeSound.optimize_refines hsafe S T happly

/-- Some item of the tests: a potion that stacks up to fifty. -/
def potion (amount : UInt16) : Item :=
  { reference := { common := { refId := 1, typeId := ⟨3, 3, 1, 1⟩ }, maxStackSize := 50,
                   requiredLevel := none }
    variance := none
    typeData := .consumable amount }

/-- Another one, of a different kind. -/
def pill (amount : UInt16) : Item :=
  { reference := { common := { refId := 2, typeId := ⟨3, 3, 2, 1⟩ }, maxStackSize := 50,
                   requiredLevel := none }
    variance := none
    typeData := .consumable amount }

/-- An addition is merged with the move of its item past an addition to another slot. -/
theorem optimize_apply_two_stacks :
    let changes := [.addItem 13 (potion 5), .addItem 14 (potion 7), .moveItem 13 15]
    optimize changes = [.addItem 14 (potion 7), .addItem 15 (potion 5)] ∧
      ∃ T, runAll InventoryChange.apply (optimize changes) (fun _ => none) = some T ∧
        T 13 = none ∧ T 14 = some (potion 7) ∧ T 15 = some (potion 5) :=
  ⟨by decide, _, optimize_apply _ _ _ rfl (by decide), by decide, by decide, by decide⟩

/-- A stack is moved away, another one is put into its slot, and the first one is moved on: the two
moves are merged behind the addition, which then finds its slot occupied. -/
theorem optimize_move_overtaken :
    let stock : SlotMap := Function.update (fun _ => none) 13 (some (potion 5))
    let changes := [.moveItem 13 14, .addItem 13 (potion 7), .moveItem 14 15]
    (runAll InventoryChange.apply changes stock).isSome ∧
      optimize changes = [.addItem 13 (potion 7), .moveItem 13 15] ∧
      runAll InventoryChange.apply (optimize changes) stock = none := by
  refine ⟨by decide, by decide, ?_⟩
  rw [show optimize [InventoryChange.moveItem 13 14, .addItem 13 (potion 7), .moveItem 14 15] =
    [.addItem 13 (potion 7), .moveItem 13 15] by decide]
  rfl

-- A later change may repair what an unsafe merge has broken, so safety is not necessary: removing
-- the second stack again cancels its addition, and the moves are left alone with the right result.
example :
    let changes := [.moveItem 13 14, .addItem 13 (potion 7), .moveItem 14 15, .removeItem 13]
    optimize changes = [InventoryChange.moveItem 13 15] ∧
      ¬SafeFold InventoryChange.MergesCorrectly InventoryChange.Independent [] changes := by
  decide

end Skrillax

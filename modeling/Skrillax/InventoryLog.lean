/-
**The log of an inventory is complete, but for partial removals.**

The log of an inventory is meant to be replayed: applied in order to the slots that the inventory
started with, it should give the slots that the inventory has now (`Inventory.Logged`).  Every branch
of the three operations appends what it did, with one exception: when `removeItem` meets a stack that
holds more than is left to remove, it makes the stack smaller and logs nothing.  So the log is complete
throughout a run exactly when no removal ends inside a stack (`Inventory.reached_logged_iff`).

Main definitions:

* `Inventory.Logged` — replaying the log gives the items;
* `Inventory.takesPart` — whether a removal ends inside a stack;
* `Inventory.logStep` — the calls of a run: additions, removals and successful moves.

Main results:

* `Inventory.MoveOutcome.logged`, `Inventory.AddOutcome.logged` — moves and additions keep the log
  complete;
* `Inventory.RemoveOutcome.logged_iff` — a removal keeps it complete iff it takes whole stacks;
* `Inventory.reached_logged_iff` — **the log of a run is complete iff its removals take whole
  stacks**.
-/

import Skrillax.Inventory

set_option relaxedAutoImplicit false
set_option autoImplicit false

namespace Skrillax

open Rust PartialAction

namespace Inventory

/-! ### Replaying the log -/

/-- Replaying the log over the initial slots gives the items. -/
def Logged (init : SlotMap) (inv : Inventory) : Prop :=
  runAll InventoryChange.apply inv.changes init = some inv.items

/-- The log stays complete if what is appended does what was done. -/
theorem Logged.append {init : SlotMap} {inv inv' : Inventory} (h : Logged init inv)
    (cs : List InventoryChange) (hlog : inv'.changes = inv.changes ++ cs)
    (hrun : runAll InventoryChange.apply cs inv.items = some inv'.items) : Logged init inv' := by
  unfold Logged at h ⊢
  rw [hlog, runAll_append, h]
  exact hrun

/-- A change of the items that is not logged makes the log incomplete. -/
theorem Logged.not_of_items_ne {init : SlotMap} {inv inv' : Inventory} (h : Logged init inv)
    (hlog : inv'.changes = inv.changes) (hne : inv'.items ≠ inv.items) : ¬Logged init inv' := by
  intro h'
  unfold Logged at h h'
  rw [hlog, h, Option.some_inj] at h'
  exact hne h'.symm

/-! ### The three operations -/

/-- A successful move between different slots logs what it does. -/
theorem MoveOutcome.logged {p : Profile} {inv inv' : Inventory} {source target : Slot}
    {amount n : UInt16} {init : SlotMap} (h : MoveOutcome p inv source target amount inv' (.ok n))
    (hne : source ≠ target) (hl : Logged init inv) : Logged init inv' := by
  cases h with
  | moved s hs ht =>
      refine hl.append [_] rfl ?_
      rw [runAll_singleton]
      exact InventoryChange.apply_moveItem.2 ⟨s, hs, ht hne, rfl⟩
  | full s t hsm hfull => exact hl
  | stacked s t t' hsm hle hrange ht' =>
      have hframe := Item.changeStackSize_frame ht'
      refine hl.append [.removeItem source, .changeTypeData target t.typeData t'.typeData]
        (by simp) ?_
      rw [runAll_cons, InventoryChange.apply_removeItem.2 ⟨s, hsm.source_item, rfl⟩,
        Option.bind_some, runAll_singleton]
      have htarget : Function.update inv.items source none target = some t := by
        rw [Function.update_of_ne hne.symm, hsm.target_item]
      refine InventoryChange.apply_changeTypeData.2 ⟨t, htarget, rfl, ?_⟩
      rw [← hframe]
      simp
  | filled s t s' t' delta hsm hlt hzero hrange ht' hdelta hs' =>
      have hframe := Item.changeStackSize_frame ht'
      have hframe' := Item.changeStackSize_frame hs'
      refine hl.append [.changeTypeData target t.typeData t'.typeData,
        .changeTypeData source s.typeData s'.typeData] (by simp) ?_
      rw [runAll_cons, InventoryChange.apply_changeTypeData.2 ⟨t, hsm.target_item, rfl, rfl⟩,
        Option.bind_some, runAll_singleton]
      have hsource : Function.update inv.items target (some { t with typeData := t'.typeData })
          source = some s := by
        rw [Function.update_of_ne hne, hsm.source_item]
      refine InventoryChange.apply_changeTypeData.2 ⟨s, hsource, rfl, funext fun k => ?_⟩
      rw [← hframe, ← hframe']
      simp only [setItem_items, log_items, clearSlot_items]
      grind [Function.update_apply]
  | swapped s t hs ht hst =>
      refine hl.append [_] rfl ?_
      rw [runAll_singleton]
      refine InventoryChange.apply_swap.2 ⟨s, t, hs, ht, funext fun k => ?_⟩
      simp only [setItem_items, log_items, clearSlot_items]
      grind [Function.update_apply]

/-- Changing the type data of an item is what its log entry says. -/
theorem Logged.setTypeData {init : SlotMap} {inv : Inventory} (hl : Logged init inv) {i : Slot}
    {existing : Item} (hi : inv.items i = some existing) (d : ItemTypeData) :
    Logged init (inv.setTypeData i existing d) := by
  refine hl.append [_] rfl ?_
  rw [runAll_singleton]
  exact InventoryChange.apply_changeTypeData.2 ⟨existing, hi, rfl, rfl⟩

/-- Putting an item into an empty slot is what its log entry says. -/
theorem Logged.placeItem {init : SlotMap} {inv : Inventory} (hl : Logged init inv) {slot : Slot}
    (hslot : inv.emptySlot = some slot) (item : Item) :
    Logged init ((inv.setItem slot item).log (.addItem slot item)) := by
  refine hl.append [_] rfl ?_
  rw [runAll_singleton]
  exact InventoryChange.apply_addItem.2 ⟨(emptySlot_eq_some hslot).1, rfl⟩

/-- An addition logs what it does, whether or not it finds room. -/
theorem AddOutcome.logged {p : Profile} {inv inv' : Inventory} {item : Item} {res : Option Slot}
    {init : SlotMap} (h : AddOutcome p inv item inv' res) (hl : Logged init inv) :
    Logged init inv' := by
  cases h with
  | placed slot hslot => exact hl.placeItem hslot item
  | refused => exact hl
  | stacked i existing e a hi => exact hl.setTypeData hi _
  | spilled i existing e a slot hi _ _ _ _ _ _ hslot =>
      exact (hl.setTypeData hi _).placeItem hslot _
  | dropped i existing e a hi => exact hl.setTypeData hi _

/-- Whether removing a quantity from the listed slots ends inside a stack: some stack that is met
while more than one is still to be removed holds more than that. -/
def takesPart : List Slot → UInt16 → SlotMap → Bool
  | [], _, _ => false
  | i :: slots, toRemove, items =>
      match items i with
      | none => false
      | some existing =>
          decide (1 < toRemove) && (decide (toRemove < existing.stackSize) ||
            takesPart slots (toRemove - existing.stackSize) (Function.update items i none))

/-- Taking a whole stack is what its log entry says. -/
theorem Logged.takeOut {init : SlotMap} {inv : Inventory} (hl : Logged init inv) {i : Slot}
    {existing : Item} (hi : inv.items i = some existing) : Logged init (inv.takeOut i) := by
  refine hl.append [_] rfl ?_
  rw [runAll_singleton]
  exact InventoryChange.apply_removeItem.2 ⟨existing, hi, rfl⟩

/-- A removal keeps the log complete exactly when it takes whole stacks. -/
theorem RemoveOutcome.logged_iff {slots : List Slot} {toRemove : UInt16} {inv inv' : Inventory}
    {init : SlotMap} (h : RemoveOutcome slots toRemove inv inv') (hl : Logged init inv) :
    Logged init inv' ↔ takesPart slots toRemove inv.items = false := by
  induction h with
  | done toRemove inv => simp [takesPart, hl]
  | @whole i slots toRemove inv inv' existing hi hone hle _ ih =>
      rw [ih (hl.takeOut hi)]
      have hnot : ¬toRemove < existing.stackSize := UInt16.not_lt.2 hle
      simp [takesPart, hi, hone, hnot, Inventory.takeOut]
  | @last i slots toRemove inv existing hi hle =>
      have hnot : ¬1 < toRemove := UInt16.not_lt.2 hle
      simp [takesPart, hi, hnot, hl.takeOut hi]
  | @part i slots toRemove inv existing n hi hn hone hlt =>
      have hsize : existing.stackSize = n := by simp [Item.stackSize, hn]
      have htakes : takesPart (i :: slots) toRemove inv.items = true := by
        simp [takesPart, hi, hone, hsize, hlt]
      rw [htakes]
      refine iff_of_false (hl.not_of_items_ne rfl fun heq => ?_) (by simp)
      -- the stack at `i` really is smaller
      have hi' := congrFun heq i
      simp only [setItem_items, Function.update_self, hi, Option.some.injEq] at hi'
      have hdata := congrArg Item.typeData hi'
      rw [hn, ItemTypeData.consumable.injEq] at hdata
      have hzero : (n - toRemove).toNat = n.toNat - toRemove.toNat :=
        UInt16.toNat_sub_of_le _ _ (UInt16.le_of_lt hlt)
      rw [hdata] at hzero
      rw [UInt16.lt_iff_toNat_lt] at hone hlt
      simp only [UInt16.toNat_one] at hone
      omega

/-! ### Runs -/

/-- One call of a run.  A move takes part if its slots differ and it succeeds. -/
def logStep (p : Profile) : Op → Inventory → Option Inventory
  | .add item order, inv => (inv.addItem p order item).map Prod.fst
  | .remove item order, inv => (inv.removeItem p order item).map Prod.fst
  | .move source target amount, inv =>
      if source = target then none
      else
        match inv.moveItem p source target amount with
        | some (inv', .ok _) => some inv'
        | _ => none

/-- A removal takes whole stacks. -/
def WholeStacks (inv : Inventory) : Op → Prop
  | .remove item order =>
      takesPart (inv.findSlotsMatching order item) item.stackSize inv.items = false
  | _ => True

theorem logStep_logged_iff {p : Profile} {init : SlotMap} {inv inv' : Inventory} {op : Op}
    (hl : Logged init inv) (h : logStep p op inv = some inv') :
    Logged init inv' ↔ WholeStacks inv op := by
  cases op with
  | add item order =>
      obtain ⟨⟨_, res⟩, hadd, rfl⟩ := Option.map_eq_some_iff.1 h
      exact iff_of_true ((addItem_outcome hadd).logged hl) trivial
  | remove item order =>
      obtain ⟨⟨_, res⟩, hrem, rfl⟩ := Option.map_eq_some_iff.1 h
      exact (removeItem_outcome hrem).logged_iff hl
  | move source target amount =>
      simp only [logStep] at h
      split at h
      · simp at h
      · rename_i hne
        split at h
        · rename_i inv'' n hmove
          obtain rfl := Option.some_inj.1 h
          exact iff_of_true ((moveItem_outcome hmove).logged hne hl) trivial
        · simp at h

/-- **The log of a run is complete iff its removals take whole stacks**: starting with an empty log,
replaying the log gives the items in every state of the run exactly when no removal of the run ends
inside a stack. -/
theorem reached_logged_iff (p : Profile) (inv : Inventory) (hempty : inv.changes = [])
    (ops : List Op) :
    Reached (logStep p) (Logged inv.items) ops inv ↔ AllSteps (logStep p) WholeStacks ops inv := by
  have hstart : Logged inv.items inv := by
    unfold Logged
    rw [hempty]
    rfl
  exact reached_iff_allSteps (fun _ _ _ _ hs hstep => logStep_logged_iff hs hstep) hstart

/-- A stack that is taken as a whole leaves a complete log. -/
theorem reached_logged_whole_stack :
    Reached (logStep .debug) (Logged fun _ => none)
      [.add (potion 5) [], .add (potion 7) [13], .remove (potion 12) [13]]
      (Inventory.new 45 (by decide)) := by
  refine (reached_logged_iff .debug (Inventory.new 45 (by decide)) rfl _).2 ?_
  intro t₁ h₁
  obtain rfl := Option.some_inj.1 h₁
  refine ⟨trivial, fun t₂ h₂ => ?_⟩
  obtain rfl := Option.some_inj.1 h₂
  refine ⟨trivial, fun t₃ h₃ => ?_⟩
  exact ⟨rfl, trivial⟩

/-- Three potions of a stack of five are used: the log still says that there are five. -/
theorem partial_removal_not_logged :
    ∃ inv, runAll (logStep .debug) [.add (potion 5) [], .remove (potion 3) [13]]
        (Inventory.new 45 (by decide)) = some inv ∧
      IterationOrder (Function.update (fun _ => none) 13 (some (potion 5))) [13] ∧
      inv.items 13 = some (potion 2) ∧ inv.changes = [.addItem 13 (potion 5)] ∧
      ¬Logged (fun _ => none) inv := by
  refine ⟨_, rfl, ⟨by decide, fun slot => ?_⟩, by decide, by decide, fun h => ?_⟩
  · grind [Function.update_apply]
  · have h13 := congrFun (Option.some_inj.1 h) 13
    revert h13
    decide

end Inventory

end Skrillax

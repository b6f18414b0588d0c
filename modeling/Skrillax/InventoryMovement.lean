/-
**Moving items on behalf of a client.**

A client asks to move an amount from one slot to another; slots and amount come from the network
unchecked.  The handler tells the equipment slots `0` to `12` from the slots of the bag: an item that
ends up in an equipment slot has to fit there (its type, the level it requires and the race), whichever
of the two items it is.

Two facts about whole runs of requests, pick-ups and removals follow from the same account of where a
move can put an item (`Inventory.MoveOutcome.preserves_placed`).  The items in the equipment slots
always fit (`reached_equipmentFits`).  The occupied slots stay inside the bag exactly as long as no
request moves an item to a slot outside of it (`reached_insideBag_iff`), because the handler never
looks at the size of the bag.

Main definitions:

* `itemFitsIntoEquipmentSlot`, `handleInventoryMovement` — the code;
* `Inventory.Placed` — every item is in a slot in which its reference may be;
* `MovementOp`, `movementStep` — the runs;
* `EquipmentFits`, `InsideBag`, `StaysInside` — what is proved about them.

Main results:

* `Inventory.MoveOutcome.preserves_placed`, `Inventory.AddOutcome.preserves_placed`,
  `Inventory.RemoveOutcome.preserves_placed` — where the three operations put items;
* `reached_equipmentFits` — **equipment slots only ever hold items that fit**;
* `reached_insideBag_iff` — **occupied slots stay inside the bag iff the targets of the moves do**.
-/

import Skrillax.Inventory

set_option relaxedAutoImplicit false
set_option autoImplicit false

namespace Skrillax

open Rust PartialAction

/-! ### Which items fit -/

inductive Race where
  | european
  | chinese
  deriving DecidableEq, Repr

def doesObjectTypeMatchRace (userRace : Race) : ObjectType → Bool
  | .item (.equippable (.clothing kind _)) =>
      match kind with
      | .garment | .protector | .armor => userRace = .chinese
      | .robe | .lightArmor | .heavyArmor => userRace = .european
  | .item (.equippable (.shield race)) | .item (.equippable (.jewelry race _)) =>
      match race with
      | .chinese => userRace = .chinese
      | .european => userRace = .european
  | .item (.equippable (.weapon kind)) =>
      match kind with
      | .sword | .blade | .spear | .glavie | .bow => userRace = .chinese
      | .oneHandSword | .twoHandSword | .axe | .warlockStaff | .staff | .crossbow | .dagger | .harp
      | .clericRod => userRace = .european
      | _ => false
  | .item (.consumable (.ammo kind)) =>
      match kind with
      | .arrows => userRace = .chinese
      | .bolts => userRace = .european
  | _ => false

def doesObjectTypeMatchSlot (slot : Slot) : ObjectType → Bool
  | .item (.equippable (.clothing _ part)) =>
      match part with
      | .head => slot = 0
      | .shoulder => slot = 1
      | .body => slot = 2
      | .leg => slot = 4
      | .arm => slot = 3
      | .foot => slot = 5
      | .any => false
  | .item (.equippable (.shield _)) => slot = 7
  | .item (.equippable (.jewelry _ kind)) =>
      match kind with
      | .earring => slot = 8
      | .necklace => slot = 9
      | .ring => slot = 11 || slot = 10
  | .item (.equippable (.weapon _)) => slot = 6
  | .item (.consumable (.ammo _)) => slot = 7
  | _ => false

/-- Whether an item with this reference may be put into an equipment slot; `none` if its type id is
not valid, where the code panics. -/
def referenceFits (ref : RefItemData) (target : Slot) (level : UInt8) (race : Race) : Option Bool :=
  (ObjectType.fromTypeId ref.common.typeId).map fun objectType =>
    doesObjectTypeMatchSlot target objectType &&
      (ref.requiredLevel.map fun val => decide (val.1 ≤ level)).getD true &&
      doesObjectTypeMatchRace race objectType

def itemFitsIntoEquipmentSlot (sourceItem : Item) (target : Slot) (level : UInt8) (race : Race) :
    Option Bool :=
  referenceFits sourceItem.reference target level race

/-- An item that fits goes on fitting when the level rises. -/
theorem referenceFits_mono {ref : RefItemData} {target : Slot} {level level' : UInt8} {race : Race}
    (hle : level ≤ level') (h : referenceFits ref target level race = some true) :
    referenceFits ref target level' race = some true := by
  obtain ⟨objectType, htype, hfits⟩ := Option.map_eq_some_iff.1 h
  refine Option.map_eq_some_iff.2 ⟨objectType, htype, ?_⟩
  simp only [Bool.and_eq_true] at hfits ⊢
  refine ⟨⟨hfits.1.1, ?_⟩, hfits.2⟩
  cases hreq : ref.requiredLevel with
  | none => rfl
  | some val =>
      have hval : val.1 ≤ level := by simpa [hreq] using hfits.1.2
      simpa using UInt8.le_trans hval hle

/-! ### The handler -/

/-- The messages that the handler sends to the client. -/
inductive MovementMessage where
  | updateSlots (sourceSlot targetSlot : Slot) (amount : UInt16)
  | indisposable
  | invalidTarget
  | characterEquipItem (entity : UInt32) (slot : Slot) (itemRef : UInt32) (optLevel : UInt8)
  | characterUnequipItem (entity : UInt32) (slot : Slot) (itemRef : UInt32)
  deriving DecidableEq, Repr

def playerUnequipItem (inventory : Inventory) (itemSlotToBeUnequipped : Slot) (entity : UInt32)
    (source : Slot) : List MovementMessage :=
  match inventory.getItemAt itemSlotToBeUnequipped with
  | some unequippedItem =>
      [.characterUnequipItem entity source unequippedItem.reference.common.refId]
  | none => []

def playerEquipItem (inventory : Inventory) (slotTheItemGetsEquippedTo : Slot) (entity : UInt32)
    (slotOfItemThatGotEquipped : Slot) : List MovementMessage :=
  match inventory.getItemAt slotOfItemThatGotEquipped with
  | some newEquipment =>
      [.characterEquipItem entity slotTheItemGetsEquippedTo newEquipment.reference.common.refId
        (newEquipment.typeData.upgradeLevel.getD 0)]
  | none => []

/-- Move an item and, if that succeeds, tell the client and announce the new equipment.  Every kind
of error is passed over in silence. -/
def moveAndAnnounce (p : Profile) (inventory : Inventory) (source target : Slot) (amount : UInt16)
    (announce : Inventory → List MovementMessage) : Option (Inventory × List MovementMessage) :=
  (inventory.moveItem p source target amount).map fun moved =>
    match moved with
    | (inventory, .error _) => (inventory, [])
    | (inventory, .ok amountMoved) =>
        (inventory, .updateSlots source target amountMoved :: announce inventory)

/-- Handle a request to move; the inventory afterwards and the messages sent, or `none` for a
panic. -/
def handleInventoryMovement (p : Profile) (race : Race) (entity : UInt32) (level : UInt8)
    (inventory : Inventory) (source target : Slot) (amount : UInt16) :
    Option (Inventory × List MovementMessage) :=
  match inventory.getItemAt source with
  | none => some (inventory, [.invalidTarget])
  | some sourceItem =>
      match Inventory.isEquipmentSlot source, Inventory.isEquipmentSlot target with
      | false, true => do
          let fits ← itemFitsIntoEquipmentSlot sourceItem target level race
          if fits then
            moveAndAnnounce p inventory source target 1 fun inventory =>
              playerEquipItem inventory source entity target
          else some (inventory, [.indisposable])
      | true, false =>
          match inventory.getItemAt target with
          | some swappedInItem => do
              let fits ← itemFitsIntoEquipmentSlot swappedInItem source level race
              if fits then
                moveAndAnnounce p inventory source target (max 1 amount) fun inventory =>
                  playerUnequipItem inventory target entity source ++
                    playerEquipItem inventory source entity source
              else some (inventory, [.indisposable])
          | none =>
              moveAndAnnounce p inventory source target (max 1 amount) fun inventory =>
                playerUnequipItem inventory target entity source
      | false, false => moveAndAnnounce p inventory source target (max 1 amount) fun _ => []
      | true, true => do
          -- an item that fits is not moved either
          let fits ← itemFitsIntoEquipmentSlot sourceItem target level race
          if fits then some (inventory, []) else some (inventory, [.indisposable])

/-! ### Where items are put -/

namespace Inventory

/-- Every item is in a slot in which its reference may be. -/
abbrev Placed (may : Slot → RefItemData → Prop) (inv : Inventory) : Prop :=
  inv.AllItems fun slot item => may slot item.reference

section Placed

variable {may : Slot → RefItemData → Prop} {p : Profile} {inv inv' : Inventory}

/-- A move puts the item of the source into the target or, if they change places, the item of the
target into the source; a stack that grows or shrinks stays where it is. -/
theorem MoveOutcome.preserves_placed {source target : Slot} {amount : UInt16}
    {res : Except MoveError UInt16} (h : MoveOutcome p inv source target amount inv' res)
    (hinv : Placed may inv)
    (htarget : ∀ s, inv.items source = some s → may target s.reference)
    (hsource : ∀ t, inv.items target = some t → may source t.reference) : Placed may inv' := by
  cases h with
  | missing _ => exact hinv
  | moved s hs _ => exact ((hinv.clearSlot source).log _).setItem (htarget s hs)
  | full _ _ _ _ => exact hinv
  | stacked s t t' hsm _ _ ht' =>
      have hframe := congrArg Item.reference (Item.changeStackSize_frame ht')
      refine ((((hinv.clearSlot source).clearSlot target).log _).log _).setItem ?_
      rw [hframe]
      exact hinv target t hsm.target_item
  | filled s t s' t' delta hsm _ _ _ ht' _ hs' =>
      have hframe := congrArg Item.reference (Item.changeStackSize_frame ht')
      have hframe' := congrArg Item.reference (Item.changeStackSize_frame hs')
      have hcleared := (((hinv.clearSlot source).clearSlot target).log
        (.changeTypeData target t.typeData t'.typeData)).log
        (.changeTypeData source s.typeData s'.typeData)
      refine (AllItems.setItem hcleared ?_).setItem ?_
      · rw [hframe']
        exact hinv source s hsm.source_item
      · rw [hframe]
        exact hinv target t hsm.target_item
  | swapped s t hs ht _ =>
      refine (AllItems.setItem (((hinv.clearSlot source).clearSlot target).log _) ?_).setItem ?_
      · exact htarget s hs
      · exact hsource t ht
  | lost s t e inv' _ _ hitems =>
      exact ((hinv.clearSlot source).clearSlot target).of_items_eq hitems

/-- An addition puts what is new into a free slot of the bag. -/
theorem AddOutcome.preserves_placed {item : Item} {res : Option Slot}
    (h : AddOutcome p inv item inv' res) (hinv : Placed may inv)
    (hfree : ∀ slot, isEquipmentSlot slot = false → slot.toNat < inv.size % 2 ^ 8 →
      may slot item.reference) : Placed may inv' := by
  have hgrow : ∀ {i existing}, inv.items i = some existing → ∀ d,
      Placed may (inv.setTypeData i existing d) := by
    intro i existing hi d
    have hmay : may i ({ existing with typeData := d } : Item).reference := hinv i existing hi
    exact (hinv.setItem hmay).log _
  cases h with
  | placed slot hslot =>
      obtain ⟨-, hbag, hsize⟩ := emptySlot_eq_some hslot
      exact (hinv.setItem (hfree slot hbag hsize)).log _
  | refused => exact hinv
  | stacked i existing e a hi => exact hgrow hi _
  | spilled i existing e a slot hi _ _ _ _ _ _ hslot =>
      obtain ⟨-, hbag, hsize⟩ := emptySlot_eq_some hslot
      refine (AllItems.setItem (hgrow hi _) ?_).log _
      exact hfree slot hbag hsize
  | dropped i existing e a hi => exact hgrow hi _

/-- A removal puts nothing anywhere. -/
theorem RemoveOutcome.preserves_placed {slots : List Slot} {toRemove : UInt16}
    (h : RemoveOutcome slots toRemove inv inv') (hinv : Placed may inv) : Placed may inv' := by
  induction h with
  | done _ _ => exact hinv
  | whole _ _ _ _ _ ih => exact ih ((hinv.clearSlot _).log _)
  | last _ _ _ => exact (hinv.clearSlot _).log _
  | part existing n hi _ _ _ => exact hinv.setItem (hinv _ existing hi)

end Placed

/-! ### The size of the bag -/

theorem MoveOutcome.size_eq {p : Profile} {inv inv' : Inventory} {source target : Slot}
    {amount : UInt16} {res : Except MoveError UInt16}
    (h : MoveOutcome p inv source target amount inv' res) : inv'.size = inv.size := by
  cases h with
  | lost _ _ _ _ _ hsize _ => exact hsize
  | _ => rfl

theorem AddOutcome.size_eq {p : Profile} {inv inv' : Inventory} {item : Item} {res : Option Slot}
    (h : AddOutcome p inv item inv' res) : inv'.size = inv.size := by
  cases h <;> rfl

theorem RemoveOutcome.size_eq {slots : List Slot} {toRemove : UInt16} {inv inv' : Inventory}
    (h : RemoveOutcome slots toRemove inv inv') : inv'.size = inv.size := by
  induction h with
  | whole _ _ _ _ _ ih => exact ih
  | _ => rfl

end Inventory

/-! ### What the handler can do -/

/-- A request leaves the inventory alone, or it is a move of an occupied slot after which the items in
equipment slots fit. -/
inductive MovementOutcome (p : Profile) (race : Race) (level : UInt8) (inv : Inventory)
    (source target : Slot) : Inventory → Prop
  | unchanged : MovementOutcome p race level inv source target inv
  | moved (s : Item) (amount : UInt16) (res : Except MoveError UInt16) (inv' : Inventory) :
      inv.items source = some s → inv.MoveOutcome p source target amount inv' res →
      (Inventory.isEquipmentSlot target = true →
        referenceFits s.reference target level race = some true) →
      (Inventory.isEquipmentSlot source = true → ∀ t, inv.items target = some t →
        referenceFits t.reference source level race = some true) →
      MovementOutcome p race level inv source target inv'

theorem moveAndAnnounce_outcome {p : Profile} {inv inv' : Inventory} {source target : Slot}
    {amount : UInt16} {announce : Inventory → List MovementMessage} {msgs : List MovementMessage}
    (h : moveAndAnnounce p inv source target amount announce = some (inv', msgs)) :
    ∃ res, inv.MoveOutcome p source target amount inv' res := by
  obtain ⟨⟨inv'', res⟩, hmove, heq⟩ := Option.map_eq_some_iff.1 h
  have hout := Inventory.moveItem_outcome hmove
  cases res with
  | error e =>
      obtain ⟨rfl, -⟩ := Prod.mk.inj heq
      exact ⟨_, hout⟩
  | ok n =>
      obtain ⟨rfl, -⟩ := Prod.mk.inj heq
      exact ⟨_, hout⟩

theorem handleInventoryMovement_outcome {p : Profile} {race : Race} {entity : UInt32}
    {level : UInt8} {inv inv' : Inventory} {source target : Slot} {amount : UInt16}
    {msgs : List MovementMessage}
    (h : handleInventoryMovement p race entity level inv source target amount = some (inv', msgs)) :
    MovementOutcome p race level inv source target inv' := by
  unfold handleInventoryMovement at h
  cases hs : inv.getItemAt source with
  | none =>
      simp only [hs, Option.some.injEq, Prod.mk.injEq] at h
      obtain ⟨rfl, -⟩ := h
      exact .unchanged
  | some s =>
      simp only [hs] at h
      cases hse : Inventory.isEquipmentSlot source with
      | false =>
          cases hte : Inventory.isEquipmentSlot target with
          | true =>
              simp only [hse, hte] at h
              obtain ⟨fits, hfits, h⟩ := Option.bind_eq_some_iff.1 h
              cases fits with
              | true =>
                  obtain ⟨res, hout⟩ := moveAndAnnounce_outcome h
                  exact .moved s _ res inv' hs hout (fun _ => hfits) (by simp [hse])
              | false =>
                  obtain ⟨rfl, -⟩ := Prod.mk.inj (Option.some_inj.1 h)
                  exact .unchanged
          | false =>
              simp only [hse, hte] at h
              obtain ⟨res, hout⟩ := moveAndAnnounce_outcome h
              exact .moved s _ res inv' hs hout (by simp [hte]) (by simp [hse])
      | true =>
          cases hte : Inventory.isEquipmentSlot target with
          | true =>
              simp only [hse, hte] at h
              obtain ⟨fits, -, h⟩ := Option.bind_eq_some_iff.1 h
              cases fits <;>
                (obtain ⟨rfl, -⟩ := Prod.mk.inj (Option.some_inj.1 h)
                 exact .unchanged)
          | false =>
              simp only [hse, hte] at h
              cases ht : inv.getItemAt target with
              | none =>
                  simp only [ht] at h
                  obtain ⟨res, hout⟩ := moveAndAnnounce_outcome h
                  refine .moved s _ res inv' hs hout (by simp [hte]) fun _ t ht' => ?_
                  rw [Inventory.getItemAt, ht'] at ht
                  simp at ht
              | some t =>
                  simp only [ht] at h
                  obtain ⟨fits, hfits, h⟩ := Option.bind_eq_some_iff.1 h
                  cases fits with
                  | true =>
                      obtain ⟨res, hout⟩ := moveAndAnnounce_outcome h
                      refine .moved s _ res inv' hs hout (by simp [hte]) fun _ t' ht' => ?_
                      rw [Inventory.getItemAt, ht', Option.some_inj] at ht
                      exact ht ▸ hfits
                  | false =>
                      obtain ⟨rfl, -⟩ := Prod.mk.inj (Option.some_inj.1 h)
                      exact .unchanged

/-! ### Runs -/

/-- A character as far as moving items is concerned. -/
structure Carrier where
  inventory : Inventory
  level : UInt8

/-- What can happen to the inventory: a request of the client, an item that is added or removed, and
a rise of the level. -/
inductive MovementOp where
  | request (source target : Slot) (amount : UInt16)
  | add (item : Item) (order : List Slot)
  | remove (item : Item) (order : List Slot)
  | levelUp (level : UInt8)
  deriving DecidableEq, Repr

def movementStep (p : Profile) (race : Race) (entity : UInt32) :
    MovementOp → Carrier → Option Carrier
  | .request source target amount, c =>
      (handleInventoryMovement p race entity c.level c.inventory source target amount).map
        fun handled => { c with inventory := handled.1 }
  | .add item order, c =>
      (c.inventory.addItem p order item).map fun added => { c with inventory := added.1 }
  | .remove item order, c =>
      (c.inventory.removeItem p order item).map fun removed => { c with inventory := removed.1 }
  | .levelUp level, c => if c.level ≤ level then some { c with level } else none

/-- The item in every equipment slot fits there. -/
def EquipmentFits (race : Race) (c : Carrier) : Prop :=
  ∀ slot item, c.inventory.items slot = some item → Inventory.isEquipmentSlot slot = true →
    itemFitsIntoEquipmentSlot item slot c.level race = some true

/-- A reference may be anywhere in the bag, and in the equipment slots that it fits into. -/
def mayEquip (race : Race) (level : UInt8) (slot : Slot) (ref : RefItemData) : Prop :=
  Inventory.isEquipmentSlot slot = true → referenceFits ref slot level race = some true

theorem movementStep_equipmentFits {p : Profile} {race : Race} {entity : UInt32} {op : MovementOp}
    {c c' : Carrier} (h : EquipmentFits race c) (hstep : movementStep p race entity op c = some c') :
    EquipmentFits race c' := by
  have hplaced : c.inventory.Placed (mayEquip race c.level) := h
  cases op with
  | request source target amount =>
      obtain ⟨⟨inv', msgs⟩, hhandled, rfl⟩ := Option.map_eq_some_iff.1 hstep
      cases handleInventoryMovement_outcome hhandled with
      | unchanged => exact h
      | moved s n res _ hs hout htarget hsource =>
          refine hout.preserves_placed hplaced (fun s' hs' => ?_) fun t ht hse => hsource hse t ht
          rw [hs, Option.some_inj] at hs'
          exact hs' ▸ htarget
  | add item order =>
      obtain ⟨⟨inv', res⟩, hadd, rfl⟩ := Option.map_eq_some_iff.1 hstep
      refine (Inventory.addItem_outcome hadd).preserves_placed hplaced fun slot hbag _ hse => ?_
      rw [hbag] at hse
      simp at hse
  | remove item order =>
      obtain ⟨⟨inv', res⟩, hremove, rfl⟩ := Option.map_eq_some_iff.1 hstep
      exact (Inventory.removeItem_outcome hremove).preserves_placed hplaced
  | levelUp level =>
      simp only [movementStep] at hstep
      split at hstep
      · rename_i hle
        obtain rfl := Option.some_inj.1 hstep
        exact fun slot item hitem hse => referenceFits_mono hle (h slot item hitem hse)
      · simp at hstep

/-- **Equipment slots only ever hold items that fit**: whatever a client asks for, whatever is added
and removed in between, and however the level rises. -/
theorem reached_equipmentFits (p : Profile) (race : Race) (entity : UInt32) (ops : List MovementOp)
    (c : Carrier) (h : EquipmentFits race c) :
    Reached (movementStep p race entity) (EquipmentFits race) ops c :=
  reached_of_step (fun _ _ _ _ hc hstep => movementStep_equipmentFits hc hstep) h

/-- Arrows, which archers carry in the slot of the shield. -/
def arrows (amount : UInt16) : Item :=
  { reference := { common := { refId := 3, typeId := ⟨3, 3, 4, 1⟩ }, maxStackSize := 250,
                   requiredLevel := none }
    variance := none
    typeData := .consumable amount }

/-- Arrows are taken off and put on again, others are picked up on top of them, and potions do not get
into their place. -/
theorem reached_equipmentFits_arrows :
    let stock : SlotMap := Function.update (fun _ => none) 7 (some (arrows 30))
    let start : Carrier := ⟨⟨45, stock, [], by decide⟩, 5⟩
    let ops : List MovementOp := [.request 7 13 30, .levelUp 6, .add (potion 4) [13],
      .request 13 7 1, .add (arrows 20) [7, 14], .request 7 14 1]
    Reached (movementStep .debug .chinese 1) (EquipmentFits .chinese) ops start ∧
      ∃ c, runAll (movementStep .debug .chinese 1) ops start = some c ∧
        c.inventory.items 7 = some (arrows 50) ∧ c.inventory.items 14 = some (potion 4) := by
  intro stock start ops
  have hstart : EquipmentFits .chinese start := by
    intro slot item hitem _
    by_cases heq : slot = 7
    · subst heq
      obtain rfl : arrows 30 = item := by simpa [start, stock] using hitem
      decide
    · simp [start, stock, heq] at hitem
  exact ⟨reached_equipmentFits .debug .chinese 1 ops start hstart, _, rfl, by decide, by decide⟩

/-- The bag has its size, and all the occupied slots are inside of it. -/
structure InsideBag (size : ℕ) (c : Carrier) : Prop where
  size_eq : c.inventory.size = size
  inside : ∀ slot item, c.inventory.items slot = some item → slot.toNat < size

/-- A request that finds something to move names a target inside the bag. -/
def StaysInside (c : Carrier) : MovementOp → Prop
  | .request source target _ =>
      (c.inventory.items source).isSome → target.toNat < c.inventory.size
  | _ => True

theorem isEquipmentSlot_iff {slot : Slot} :
    Inventory.isEquipmentSlot slot = true ↔ slot.toNat ≤ 12 := by
  rw [Inventory.isEquipmentSlot, decide_eq_true_iff, UInt8.le_iff_toNat_le]
  rfl

/-- A move to a free slot outside of the equipment is carried out without further ado. -/
theorem handleInventoryMovement_free {p : Profile} {race : Race} {entity : UInt32} {level : UInt8}
    {inv inv' : Inventory} {source target : Slot} {amount : UInt16} {msgs : List MovementMessage}
    {s : Item} (hs : inv.items source = some s) (ht : inv.items target = none)
    (hte : Inventory.isEquipmentSlot target = false)
    (h : handleInventoryMovement p race entity level inv source target amount = some (inv', msgs)) :
    inv'.items target = some s := by
  have hne : target ≠ source := by
    rintro rfl
    simp [hs] at ht
  have hmove : ∀ {n announce}, moveAndAnnounce p inv source target n announce = some (inv', msgs) →
      inv'.items target = some s := by
    intro n announce hmoved
    obtain ⟨⟨inv'', res⟩, hres, heq⟩ := Option.map_eq_some_iff.1 hmoved
    have hfree : (inv.clearSlot source).items target = none := by
      rw [Inventory.clearSlot_items, Function.update_of_ne hne, ht]
    simp only [Inventory.moveItem, hs, hfree, Option.some.injEq, Prod.mk.injEq] at hres
    obtain ⟨rfl, rfl⟩ := hres
    obtain ⟨rfl, -⟩ := Prod.mk.inj heq
    simp
  simp only [handleInventoryMovement, Inventory.getItemAt, hs, ht, hte] at h
  cases hse : Inventory.isEquipmentSlot source with
  | false =>
      simp only [hse] at h
      exact hmove h
  | true =>
      simp only [hse] at h
      exact hmove h

theorem movementStep_insideBag_iff {p : Profile} {race : Race} {entity : UInt32} {size : ℕ}
    (hmin : 13 ≤ size) (hmax : size ≤ 255) {op : MovementOp} {c c' : Carrier}
    (h : InsideBag size c) (hstep : movementStep p race entity op c = some c') :
    InsideBag size c' ↔ StaysInside c op := by
  have hplaced : c.inventory.Placed fun slot _ => slot.toNat < size := h.inside
  cases op with
  | request source target amount =>
      obtain ⟨⟨inv', msgs⟩, hhandled, rfl⟩ := Option.map_eq_some_iff.1 hstep
      simp only [StaysInside, h.size_eq]
      constructor
      · intro h' hsome
        by_contra houtside
        obtain ⟨s, hs⟩ := Option.isSome_iff_exists.1 hsome
        -- a target outside of the bag is free and no equipment slot, so the item is moved there
        have ht : c.inventory.items target = none := by
          cases ht : c.inventory.items target with
          | none => rfl
          | some t => exact absurd (h.inside target t ht) houtside
        have hte : Inventory.isEquipmentSlot target = false := by
          rw [← Bool.not_eq_true, isEquipmentSlot_iff]
          omega
        exact houtside (h'.inside target s (handleInventoryMovement_free hs ht hte hhandled))
      · intro hinside
        cases handleInventoryMovement_outcome hhandled with
        | unchanged => exact h
        | moved s n res _ hs hout _ _ =>
            refine ⟨hout.size_eq.trans h.size_eq, hout.preserves_placed hplaced ?_ ?_⟩
            · exact fun s' hs' => hinside (by rw [hs']; rfl)
            · exact fun t _ => h.inside source s hs
  | add item order =>
      obtain ⟨⟨inv', res⟩, hadd, rfl⟩ := Option.map_eq_some_iff.1 hstep
      have hout := Inventory.addItem_outcome hadd
      refine iff_of_true ⟨hout.size_eq.trans h.size_eq, hout.preserves_placed hplaced ?_⟩ trivial
      intro slot _ hslot
      have hsize := h.size_eq
      omega
  | remove item order =>
      obtain ⟨⟨inv', res⟩, hremove, rfl⟩ := Option.map_eq_some_iff.1 hstep
      have hout := Inventory.removeItem_outcome hremove
      exact iff_of_true ⟨hout.size_eq.trans h.size_eq, hout.preserves_placed hplaced⟩ trivial
  | levelUp level =>
      simp only [movementStep] at hstep
      split at hstep
      · obtain rfl := Option.some_inj.1 hstep
        exact iff_of_true ⟨h.size_eq, h.inside⟩ trivial
      · simp at hstep

/-- **Occupied slots stay inside the bag iff the targets of the moves do**: throughout a run that
starts with all the occupied slots inside the bag, they stay there exactly when every request that
finds an item in its source names a target inside the bag. -/
theorem reached_insideBag_iff (p : Profile) (race : Race) (entity : UInt32) (size : ℕ)
    (hmin : 13 ≤ size) (hmax : size ≤ 255) (ops : List MovementOp) (c : Carrier)
    (h : InsideBag size c) :
    Reached (movementStep p race entity) (InsideBag size) ops c ↔
      AllSteps (movementStep p race entity) StaysInside ops c :=
  reached_iff_allSteps (fun _ _ _ _ hc hstep => movementStep_insideBag_iff hmin hmax hc hstep) h

/-- A bag of forty-five slots with one stack of potions. -/
def potionCarrier : Carrier where
  inventory := (default : Inventory).setItem 13 (potion 5)
  level := 1

theorem potionCarrier_insideBag : InsideBag 45 potionCarrier := by
  refine ⟨rfl, fun slot item hitem => ?_⟩
  by_cases heq : slot = 13
  · subst heq
    decide
  · simp [potionCarrier, heq, default, Inventory.new] at hitem

/-- Moving the potions to the last slot of the bag, and asking for an empty slot. -/
theorem reached_insideBag_last_slot :
    Reached (movementStep .debug .european 1) (InsideBag 45) [.request 13 44 5, .request 13 200 1]
      potionCarrier := by
  refine (reached_insideBag_iff .debug .european 1 45 (by decide) (by decide) _ potionCarrier
    potionCarrier_insideBag).2 ?_
  intro c₁ h₁
  obtain rfl := Option.some_inj.1 h₁
  refine ⟨fun _ => by decide, fun c₂ h₂ => ⟨fun hsome => ?_, trivial⟩⟩
  revert hsome
  decide

/-- A client names a slot beyond the end of its bag, and the potions are put there. -/
theorem request_outside_bag :
    InsideBag 45 potionCarrier ∧
    ∃ c, runAll (movementStep .debug .european 1) [.request 13 200 5] potionCarrier = some c ∧
      c.inventory.items 200 = some (potion 5) ∧ ¬InsideBag 45 c := by
  refine ⟨potionCarrier_insideBag, _, rfl, by decide, fun h => ?_⟩
  exact absurd (h.inside 200 (potion 5) (by decide)) (by decide)

end Skrillax

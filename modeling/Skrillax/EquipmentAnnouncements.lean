/-
**What the messages of a move say about the equipment.**

A client that knows which reference is in each equipment slot follows the messages of an accepted move:
taking off clears a slot, putting on sets one.  It should end up with what is in the equipment slots.

It does, except where an item is put on from the bag (`equipment_announced_iff`): there the code calls
`playerEquipItem` with the slots the other way round from what its parameters are named, and the message
says that the item is now in the slot of the bag that it came from.  The equipment slots themselves are
then right only if the reference was there before.

Main definitions:

* `Inventory.refAt`, `equipmentView` — the references in the slots, and in the equipment slots;
* `MovementMessage.announce`, `announceAll` — what a client makes of the messages;
* `Accepted`, `PutsOn` — the accepted requests, and those that put an item on.

Main results:

* `accepted_cases` — what an accepted request does and announces;
* `equipment_announced_iff` — **when the messages match the equipment**.
-/

import Skrillax.InventoryMovement

set_option relaxedAutoImplicit false
set_option autoImplicit false

namespace Skrillax

open Rust

/-! ### What a client makes of the messages -/

/-- The reference of the item in a slot. -/
def Inventory.refAt (inv : Inventory) (slot : Slot) : Option UInt32 :=
  (inv.items slot).map fun item => item.reference.refId

/-- The references in the equipment slots. -/
def equipmentView (inv : Inventory) (slot : Slot) : Option UInt32 :=
  if Inventory.isEquipmentSlot slot then inv.refAt slot else none

/-- Taking off clears a slot, and putting on sets it. -/
def MovementMessage.announce (view : Slot → Option UInt32) : MovementMessage → Slot → Option UInt32
  | .characterEquipItem _ slot itemRef _ => Function.update view slot (some itemRef)
  | .characterUnequipItem _ slot _ => Function.update view slot none
  | _ => view

def announceAll (view : Slot → Option UInt32) (msgs : List MovementMessage) : Slot → Option UInt32 :=
  msgs.foldl MovementMessage.announce view

/-- The client is told that its request has been carried out. -/
def Accepted (msgs : List MovementMessage) : Prop :=
  ∃ source target amount, MovementMessage.updateSlots source target amount ∈ msgs

/-- The request puts an item of the bag into an equipment slot. -/
def PutsOn (source target : Slot) : Prop :=
  Inventory.isEquipmentSlot source = false ∧ Inventory.isEquipmentSlot target = true

namespace Inventory

variable {p : Profile} {inv inv' : Inventory} {source target : Slot} {amount : UInt16}

/-! ### The references after a move -/

/-- A move touches its two slots only. -/
theorem MoveOutcome.frame {res : Except MoveError UInt16}
    (h : MoveOutcome p inv source target amount inv' res) {slot : Slot} (hs : slot ≠ source)
    (ht : slot ≠ target) : inv'.items slot = inv.items slot := by
  cases h with
  | missing _ => rfl
  | moved _ _ _ => simp [hs, ht]
  | full _ _ _ _ => rfl
  | stacked _ _ _ _ _ _ _ => simp [hs, ht]
  | filled _ _ _ _ _ _ _ _ _ _ _ _ => simp [hs, ht]
  | swapped _ _ _ _ _ => simp [hs, ht]
  | lost _ _ _ _ _ _ hitems => simp [hitems, hs, ht]

/-- After a successful move the target holds the reference that the source held. -/
theorem MoveOutcome.refAt_target {n : UInt16}
    (h : MoveOutcome p inv source target amount inv' (.ok n)) :
    inv'.refAt target = inv.refAt source ∧ (inv.refAt source).isSome = true := by
  cases h with
  | moved s hs _ => simp [refAt, hs]
  | full s t hsm _ => simp [refAt, hsm.source_item, hsm.target_item, hsm.same_ref]
  | stacked s t t' hsm _ _ ht' =>
      have hframe := congrArg Item.reference (Item.changeStackSize_frame ht')
      simp [refAt, hsm.source_item, hsm.same_ref, hframe]
  | filled s t s' t' delta hsm _ _ _ ht' _ _ =>
      have hframe := congrArg Item.reference (Item.changeStackSize_frame ht')
      simp [refAt, hsm.source_item, hsm.same_ref, hframe]
  | swapped s t hs ht hne => simp [refAt, hs, hne.symm]

theorem MoveOutcome.isSome_target {n : UInt16}
    (h : MoveOutcome p inv source target amount inv' (.ok n)) : (inv'.refAt target).isSome = true := by
  rw [h.refAt_target.1]
  exact h.refAt_target.2

/-- After a successful move to a free slot the source is free. -/
theorem MoveOutcome.refAt_source {n : UInt16}
    (h : MoveOutcome p inv source target amount inv' (.ok n)) (hne : source ≠ target)
    (hfree : inv.items target = none) : inv'.refAt source = none := by
  cases h with
  | moved s hs _ => simp [refAt, hne]
  | full s t hsm _ => simp [hsm.target_item] at hfree
  | stacked s t t' hsm _ _ _ => simp [hsm.target_item] at hfree
  | filled s t s' t' delta hsm _ _ _ _ _ _ => simp [hsm.target_item] at hfree
  | swapped s t hs ht _ => simp [ht] at hfree

end Inventory

/-! ### What an accepted request does and announces -/

variable {p : Profile} {race : Race} {entity : UInt32} {level : UInt8} {inv inv' : Inventory}
  {source target : Slot} {amount : UInt16} {msgs : List MovementMessage}

theorem moveAndAnnounce_accepted {announce : Inventory → List MovementMessage}
    (h : moveAndAnnounce p inv source target amount announce = some (inv', msgs))
    (hacc : Accepted msgs) :
    ∃ n, inv.MoveOutcome p source target amount inv' (.ok n) ∧
      msgs = .updateSlots source target n :: announce inv' := by
  obtain ⟨⟨inv'', res⟩, hmove, heq⟩ := Option.map_eq_some_iff.1 h
  have hout := Inventory.moveItem_outcome hmove
  cases res with
  | error e =>
      obtain ⟨rfl, rfl⟩ := Prod.mk.inj heq
      obtain ⟨_, _, _, hmem⟩ := hacc
      simp at hmem
  | ok n =>
      obtain ⟨rfl, rfl⟩ := Prod.mk.inj heq
      exact ⟨n, hout, rfl⟩

/-- The messages of an accepted request, by the kinds of its slots. -/
def announcements (entity : UInt32) (inv inv' : Inventory) (source target : Slot) :
    List MovementMessage :=
  match Inventory.isEquipmentSlot source, Inventory.isEquipmentSlot target with
  | false, true => playerEquipItem inv' source entity target
  | true, false =>
      if (inv.items target).isSome then
        playerUnequipItem inv' target entity source ++ playerEquipItem inv' source entity source
      else playerUnequipItem inv' target entity source
  | _, _ => []

/-- **What an accepted request does and announces**: a successful move, with at least one of its slots in
the bag. -/
theorem accepted_cases
    (h : handleInventoryMovement p race entity level inv source target amount = some (inv', msgs))
    (hacc : Accepted msgs) :
    ¬(Inventory.isEquipmentSlot source = true ∧ Inventory.isEquipmentSlot target = true) ∧
      ∃ asked n, inv.MoveOutcome p source target asked inv' (.ok n) ∧
        msgs = .updateSlots source target n :: announcements entity inv inv' source target := by
  have hrefused : ∀ {m : MovementMessage}, Accepted [m] → ∃ s t n, m = .updateSlots s t n := by
    rintro m ⟨s, t, n, hmem⟩
    exact ⟨s, t, n, (List.mem_singleton.1 hmem).symm⟩
  unfold handleInventoryMovement at h
  cases hs : inv.getItemAt source with
  | none =>
      simp only [hs, Option.some.injEq, Prod.mk.injEq] at h
      obtain ⟨-, rfl⟩ := h
      obtain ⟨_, _, _, hm⟩ := hrefused hacc
      simp at hm
  | some s =>
      simp only [hs] at h
      cases hse : Inventory.isEquipmentSlot source with
      | false =>
          cases hte : Inventory.isEquipmentSlot target with
          | true =>
              simp only [hse, hte] at h
              obtain ⟨fits, -, h⟩ := Option.bind_eq_some_iff.1 h
              cases fits with
              | true =>
                  obtain ⟨n, hout, hmsgs⟩ := moveAndAnnounce_accepted h hacc
                  refine ⟨by simp, 1, n, hout, ?_⟩
                  rw [hmsgs, announcements, hse, hte]
              | false =>
                  obtain ⟨-, rfl⟩ := Prod.mk.inj (Option.some_inj.1 h)
                  obtain ⟨_, _, _, hm⟩ := hrefused hacc
                  simp at hm
          | false =>
              simp only [hse, hte] at h
              obtain ⟨n, hout, hmsgs⟩ := moveAndAnnounce_accepted h hacc
              refine ⟨by simp, _, n, hout, ?_⟩
              rw [hmsgs, announcements, hse, hte]
      | true =>
          cases hte : Inventory.isEquipmentSlot target with
          | true =>
              simp only [hse, hte] at h
              obtain ⟨fits, -, h⟩ := Option.bind_eq_some_iff.1 h
              cases fits with
              | true =>
                  obtain ⟨-, rfl⟩ := Prod.mk.inj (Option.some_inj.1 h)
                  obtain ⟨_, _, _, hmem⟩ := hacc
                  simp at hmem
              | false =>
                  obtain ⟨-, rfl⟩ := Prod.mk.inj (Option.some_inj.1 h)
                  obtain ⟨_, _, _, hm⟩ := hrefused hacc
                  simp at hm
          | false =>
              simp only [hse, hte] at h
              cases ht : inv.getItemAt target with
              | none =>
                  simp only [ht] at h
                  obtain ⟨n, hout, hmsgs⟩ := moveAndAnnounce_accepted h hacc
                  refine ⟨by simp, _, n, hout, ?_⟩
                  rw [Inventory.getItemAt] at ht
                  simp [hmsgs, announcements, hse, hte, ht]
              | some t =>
                  simp only [ht] at h
                  obtain ⟨fits, -, h⟩ := Option.bind_eq_some_iff.1 h
                  cases fits with
                  | true =>
                      obtain ⟨n, hout, hmsgs⟩ := moveAndAnnounce_accepted h hacc
                      refine ⟨by simp, _, n, hout, ?_⟩
                      rw [Inventory.getItemAt] at ht
                      simp [hmsgs, announcements, hse, hte, ht]
                  | false =>
                      obtain ⟨-, rfl⟩ := Prod.mk.inj (Option.some_inj.1 h)
                      obtain ⟨_, _, _, hm⟩ := hrefused hacc
                      simp at hm

/-! ### The view of the client -/

theorem announceAll_append (view : Slot → Option UInt32) (msgs msgs' : List MovementMessage) :
    announceAll view (msgs ++ msgs') = announceAll (announceAll view msgs) msgs' :=
  List.foldl_append

/-- What a client makes of an item that is said to be put on. -/
theorem announceAll_playerEquipItem (view : Slot → Option UInt32) (slot : Slot)
    (h : (inv'.refAt source).isSome = true) :
    announceAll view (playerEquipItem inv' slot entity source) =
      Function.update view slot (inv'.refAt source) := by
  obtain ⟨item, hitem⟩ : ∃ item, inv'.items source = some item := by
    simpa [Inventory.refAt, Option.isSome_iff_exists] using h
  simp [playerEquipItem, Inventory.getItemAt, hitem, announceAll, MovementMessage.announce,
    Inventory.refAt, RefItemData.refId]

theorem announceAll_playerUnequipItem (view : Slot → Option UInt32) (slot : Slot)
    (h : (inv'.refAt target).isSome = true) :
    announceAll view (playerUnequipItem inv' target entity slot) =
      Function.update view slot none := by
  obtain ⟨item, hitem⟩ : ∃ item, inv'.items target = some item := by
    simpa [Inventory.refAt, Option.isSome_iff_exists] using h
  simp [playerUnequipItem, Inventory.getItemAt, hitem, announceAll, MovementMessage.announce]

/-- The equipment slots apart from those of the move. -/
theorem equipmentView_frame {n : UInt16} (h : inv.MoveOutcome p source target amount inv' (.ok n))
    {slot : Slot} (hs : slot ≠ source) (ht : slot ≠ target) :
    equipmentView inv' slot = equipmentView inv slot := by
  rw [equipmentView, equipmentView, Inventory.refAt, Inventory.refAt, h.frame hs ht]

/-- **The announcements of taking off and of moving within the bag are right.** -/
theorem announced_of_not_putsOn (entity : UInt32) {n : UInt16}
    (h : inv.MoveOutcome p source target amount inv' (.ok n))
    (hboth : ¬(Inventory.isEquipmentSlot source = true ∧ Inventory.isEquipmentSlot target = true))
    (hput : ¬PutsOn source target) :
    announceAll (equipmentView inv) (announcements entity inv inv' source target) =
      equipmentView inv' := by
  have hte : Inventory.isEquipmentSlot target = false := by
    cases hte : Inventory.isEquipmentSlot target with
    | false => rfl
    | true =>
        cases hse : Inventory.isEquipmentSlot source with
        | false => exact absurd ⟨hse, hte⟩ hput
        | true => exact absurd ⟨hse, hte⟩ hboth
  have htarget : equipmentView inv' target = equipmentView inv target := by
    simp [equipmentView, hte]
  cases hse : Inventory.isEquipmentSlot source with
  | false =>
      have hsource : equipmentView inv' source = equipmentView inv source := by
        simp [equipmentView, hse]
      funext slot
      rw [announcements, hse, hte, announceAll, List.foldl_nil]
      by_cases hs : slot = source
      · rw [hs, hsource]
      · by_cases ht : slot = target
        · rw [ht, htarget]
        · exact (equipmentView_frame h hs ht).symm
  | true =>
      have hne : source ≠ target := by
        rintro rfl
        simp [hse] at hte
      have hsome := h.isSome_target
      -- in either case the source is set to what is there now
      have hview : announceAll (equipmentView inv) (announcements entity inv inv' source target) =
          Function.update (equipmentView inv) source (inv'.refAt source) := by
        simp only [announcements, hse, hte]
        split
        · rw [announceAll_append, announceAll_playerUnequipItem _ _ hsome]
          cases hitem : inv'.items source with
          | none => simp [playerEquipItem, Inventory.getItemAt, hitem, Inventory.refAt, announceAll]
          | some item =>
              have hsome' : (inv'.refAt source).isSome = true := by simp [Inventory.refAt, hitem]
              rw [announceAll_playerEquipItem _ _ hsome']
              simp
        · rename_i hfree
          have hfree' : inv.items target = none := by simpa using hfree
          rw [announceAll_playerUnequipItem _ _ hsome, h.refAt_source hne hfree']
      rw [hview]
      funext slot
      by_cases hs : slot = source
      · subst hs
        simp [equipmentView, hse]
      · rw [Function.update_of_ne hs]
        by_cases ht : slot = target
        · rw [ht, htarget]
        · exact (equipmentView_frame h hs ht).symm

/-- **When the messages match the equipment**: the messages of an accepted request describe what is in
the equipment slots exactly if it does not put an item on; and if only the equipment slots count, also
if it does and the same reference was there before. -/
theorem equipment_announced_iff (p : Profile) (race : Race) (entity : UInt32) (level : UInt8)
    (inv : Inventory) (source target : Slot) (amount : UInt16) (inv' : Inventory)
    (msgs : List MovementMessage)
    (h : handleInventoryMovement p race entity level inv source target amount = some (inv', msgs))
    (hacc : Accepted msgs) :
    (announceAll (equipmentView inv) msgs = equipmentView inv' ↔ ¬PutsOn source target) ∧
    ((∀ slot, Inventory.isEquipmentSlot slot = true →
        announceAll (equipmentView inv) msgs slot = equipmentView inv' slot) ↔
      (PutsOn source target → inv.refAt target = inv.refAt source)) := by
  obtain ⟨hboth, asked, n, hout, rfl⟩ := accepted_cases h hacc
  have hskip : announceAll (equipmentView inv)
      (.updateSlots source target n :: announcements entity inv inv' source target) =
      announceAll (equipmentView inv) (announcements entity inv inv' source target) := rfl
  rw [hskip]
  by_cases hput : PutsOn source target
  · obtain ⟨hse, hte⟩ := id hput
    have hsome := hout.isSome_target
    have hview : announceAll (equipmentView inv) (announcements entity inv inv' source target) =
        Function.update (equipmentView inv) source (inv'.refAt target) := by
      simp only [announcements, hse, hte]
      exact announceAll_playerEquipItem _ _ hsome
    rw [hview]
    constructor
    · refine iff_of_false (fun heq => ?_) fun hnot => hnot hput
      -- the bag is not part of the equipment
      have hsource := congrFun heq source
      rw [Function.update_self, equipmentView, hse] at hsource
      rw [hsource] at hsome
      simp at hsome
    · constructor
      · intro heq _
        have htarget := heq target hte
        have hne : target ≠ source := by
          rintro rfl
          simp [hse] at hte
        rw [Function.update_of_ne hne, equipmentView, equipmentView, if_pos hte, if_pos hte,
          hout.refAt_target.1] at htarget
        exact htarget
      · intro hsame slot hslot
        have hs : slot ≠ source := by
          rintro rfl
          simp [hse] at hslot
        rw [Function.update_of_ne hs]
        by_cases ht : slot = target
        · subst ht
          rw [equipmentView, equipmentView, if_pos hslot, if_pos hslot, hout.refAt_target.1,
            hsame hput]
        · exact (equipmentView_frame hout hs ht).symm
  · have hright := announced_of_not_putsOn entity hout hboth hput
    rw [hright]
    exact ⟨iff_of_true rfl hput, iff_of_true (fun _ _ => rfl) fun h => absurd h hput⟩

/-- Arrows are taken off to a free slot of the bag, and the client is told so. -/
theorem equipment_announced_arrows_off :
    let bag := (default : Inventory).setItem 7 (arrows 30)
    ∃ inv', announceAll (equipmentView bag) [.updateSlots 7 13 30, .characterUnequipItem 1 7 3] =
        equipmentView inv' ∧ inv'.items 13 = some (arrows 30) := by
  intro bag
  refine ⟨_, ((equipment_announced_iff .debug .chinese 1 5 bag 7 13 30 _ _ rfl
    ⟨7, 13, 30, List.mem_cons_self⟩).1).2 fun h => absurd h.1 (by decide), by decide⟩

/-- Arrows are put on from slot 13: the client is told that they are in slot 13 of its equipment. -/
theorem arrows_on_announced_in_bag :
    let bag := (default : Inventory).setItem 13 (arrows 30)
    ∃ inv' msgs, handleInventoryMovement .debug .chinese 1 5 bag 13 7 30 = some (inv', msgs) ∧
      msgs = [.updateSlots 13 7 1, .characterEquipItem 1 13 3 0] ∧ Accepted msgs ∧
      inv'.items 7 = some (arrows 30) ∧
      announceAll (equipmentView bag) msgs ≠ equipmentView inv' ∧
      announceAll (equipmentView bag) msgs 7 ≠ equipmentView inv' 7 := by
  intro bag
  refine ⟨_, _, rfl, rfl, ⟨13, 7, 1, List.mem_cons_self⟩, by decide, fun heq => ?_, by decide⟩
  exact absurd (congrFun heq 7) (by decide)

end Skrillax

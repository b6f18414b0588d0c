/-
**Dropping gold and picking it up again.**

The amount that a player drops is a number of 64 bits, and so is what is in the pouch, but a drop of gold has
32 bits.  What is dropped is cut off without a check, while the pouch is charged with the whole amount.

Main definitions:

* `GivesBack` — whoever picks up an item with so much gold in the pouch has that much gold then;
* `GoldIsConserved` — a drop can be undone by picking it up, and a refused drop has changed nothing.

Main results:

* `handlePlayerDropGold_eq` — what the system does;
* `givesBack_iff` — picking up gold;
* `gold_is_conserved_iff` — **gold is conserved exactly if the amount fits a drop, or the drop is refused**.
-/

import Skrillax.Pickup
import Skrillax.PlayerInput

set_option relaxedAutoImplicit false
set_option autoImplicit false

namespace Skrillax

open Rust

/-- Whoever has `spent` in the pouch and picks up the item has `gold` in the pouch then. -/
def GivesBack (item : Item) (spent gold : UInt64) : Prop :=
  ∀ (τ : Type) (timer : Cooldown τ) (p : Profile) (delta : ℕ) (query : Entity → DropQuery)
    (order : List Slot) (player : Player τ) (target : Entity), player.pickup = some ⟨target, none⟩ →
    player.gold = spent → query target = .found item →
      ∃ result, pickupPlayer timer p delta query order player = some result ∧ result.player.gold = gold

/-- If the drop is handled, it is either confirmed, and the item that drops gives back what was in the pouch,
or it is refused, and nothing has changed. -/
def GoldIsConserved (data : DataMap) (amount : UInt64) (owner : Owner) : Prop :=
  ∀ handled, handlePlayerDropGold data amount owner = some handled →
    (.droppedGold amount ∈ handled.replies →
      ∃ item, handled.drops = [item] ∧ GivesBack item handled.owner.gold owner.gold) ∧
    (.droppedGold amount ∉ handled.replies → handled.owner = owner ∧ handled.drops = [])

/-! ### The two systems -/

section Gold

variable {data : DataMap} {amount : UInt64} {owner : Owner}

/-- A drop is refused if there is not enough gold, or nothing to drop. -/
def DropRefused (amount : UInt64) (owner : Owner) : Prop := owner.gold < amount ∨ amount = 0

instance : Decidable (DropRefused amount owner) := inferInstanceAs (Decidable (_ ∨ _))

/-- The heap of gold that drops. -/
def goldHeap (itemRef : RefItemData) (amount : UInt64) : Item where
  reference := itemRef
  variance := none
  typeData := .gold amount.toUInt32

theorem handlePlayerDropGold_eq (h : ¬ DropRefused amount owner) :
    handlePlayerDropGold data amount owner = (getGoldRefId data amount.toUInt32).map fun itemRef =>
      ⟨{ owner with gold := owner.gold - amount }, [goldHeap itemRef amount], [.droppedGold amount]⟩ := by
  obtain ⟨hless, hzero⟩ := not_or.1 h
  rw [handlePlayerDropGold, if_neg hless, if_neg hzero, spend, if_pos (UInt64.not_lt.1 hless)]
  cases getGoldRefId data amount.toUInt32 <;> rfl

theorem handlePlayerDropGold_refused (data : DataMap) (h : DropRefused amount owner) :
    ∃ replies, handlePlayerDropGold data amount owner = some ⟨owner, [], replies⟩ ∧
      .droppedGold amount ∉ replies := by
  unfold handlePlayerDropGold
  split
  · exact ⟨_, rfl, by simp⟩
  · rename_i hless
    exact ⟨[], if_pos (h.resolve_left hless), List.not_mem_nil⟩

/-- What is left with what was dropped, if that was not cut off. -/
theorem gain_sub_eq_iff (h : amount ≤ owner.gold) :
    gain (owner.gold - amount) amount.toUInt32.toUInt64 = owner.gold ↔ amount.toNat < 2 ^ 32 := by
  have hgold := owner.gold.toNat_lt
  have hle := UInt64.le_iff_toNat_le.1 h
  have hcut : amount.toUInt32.toUInt64.toNat = amount.toNat % 2 ^ 32 := by
    rw [UInt32.toNat_toUInt64, UInt64.toNat_toUInt32]
  have hrest := UInt64.toNat_sub_of_le _ _ h
  rw [← UInt64.toNat_inj, gain, toNat_saturatingAddU64 (by omega), hrest, hcut]
  omega

/-- **Picking up gold.** -/
theorem givesBack_iff (inventory : Inventory) {item : Item} {heap : UInt32}
    (hitem : item.typeData = .gold heap) {spent gold : UInt64} : GivesBack item spent gold ↔ gain spent heap.toUInt64 = gold := by
  have hpickup {τ : Type} (timer : Cooldown τ) (p : Profile) (delta : ℕ) (query : Entity → DropQuery)
      (order : List Slot) (player : Player τ) (target : Entity) (hpickup : player.pickup = some ⟨target, none⟩)
      (hquery : query target = .found item) :
      ∃ result, pickupPlayer timer p delta query order player = some result ∧
        result.player.gold = gain player.gold heap.toUInt64 := by
    unfold pickupPlayer
    rw [hpickup]
    dsimp only
    rw [hquery]
    dsimp only
    rw [hitem]
    exact ⟨_, rfl, rfl⟩
  constructor
  · intro h
    -- the timer does not matter, since it has not been started
    obtain ⟨result, hresult, hgold⟩ := h Unit ⟨(), fun _ timer => (timer, false)⟩ .release 0
      (fun _ => .found item) [] ⟨0, some ⟨1, none⟩, inventory, spent⟩ 1 rfl rfl rfl
    obtain ⟨result', hresult', hgold'⟩ := hpickup ⟨(), fun _ timer => (timer, false)⟩ .release 0
      (fun _ => .found item) [] ⟨0, some ⟨1, none⟩, inventory, spent⟩ 1 rfl rfl
    obtain rfl := Option.some_inj.1 (hresult.symm.trans hresult')
    exact hgold'.symm.trans hgold
  · rintro rfl τ timer p delta query order player target hplayer rfl hquery
    exact hpickup timer p delta query order player target hplayer hquery

end Gold

/-- **Gold is conserved exactly if the amount fits a drop, or the drop is refused.**  Without the item data of
gold the server panics. -/
theorem gold_is_conserved_iff (data : DataMap) (amount : UInt64) (owner : Owner) :
    GoldIsConserved data amount owner ↔
      owner.gold < amount ∨ amount.toNat < 2 ^ 32 ∨ getGoldRefId data amount.toUInt32 = none := by
  by_cases hrefused : DropRefused amount owner
  · obtain ⟨replies, hdrop, hreplies⟩ := handlePlayerDropGold_refused data hrefused
    refine iff_of_true (fun handled hhandled => ?_) (hrefused.imp_right fun hzero => Or.inl ?_)
    · obtain rfl := Option.some_inj.1 (hdrop.symm.trans hhandled)
      exact ⟨fun hconfirmed => absurd hconfirmed hreplies, fun _ => ⟨rfl, rfl⟩⟩
    · rw [hzero]
      decide
  · have hless : ¬ owner.gold < amount := fun hless => hrefused (Or.inl hless)
    rw [or_iff_right hless, GoldIsConserved, handlePlayerDropGold_eq hrefused]
    cases hitem : getGoldRefId data amount.toUInt32 with
    | none => simp
    | some itemRef =>
        have hgives : GivesBack (goldHeap itemRef amount) (owner.gold - amount) owner.gold ↔
            amount.toNat < 2 ^ 32 :=
          (givesBack_iff owner.inventory rfl).trans (gain_sub_eq_iff (UInt64.not_lt.1 hless))
        rw [or_iff_left (by simp), ← hgives]
        constructor
        · intro h
          obtain ⟨item, hdrops, hback⟩ := (h _ rfl).1 List.mem_cons_self
          obtain rfl := List.singleton_inj.1 hdrops
          exact hback
        · rintro hback handled hhandled
          obtain rfl := Option.some_inj.1 hhandled
          exact ⟨fun _ => ⟨_, rfl, hback⟩, fun hnot => absurd List.mem_cons_self hnot⟩

/-- A drop of 4294967296 is a heap of nothing. -/
theorem dropped_gold_is_lost :
    ¬ GoldIsConserved goldData 4294967296 { potionOwner with gold := 4294967296 } := by
  intro h
  have hdrop : ¬ DropRefused 4294967296 { potionOwner with gold := 4294967296 } := by decide
  obtain ⟨item, hdrops, hback⟩ := (h _ (handlePlayerDropGold_eq hdrop)).1 List.mem_cons_self
  obtain rfl := List.singleton_inj.1 hdrops
  have hgold := (givesBack_iff potionOwner.inventory rfl).1 hback
  exact absurd hgold (by decide)

end Skrillax

/-
**What a move conserves, and what a failed move loses.**

A move on top of a stack of the same kind is carried out with the amount that the client asks for, and
with casts to signed integers.  Either the target takes the amount and the source gives what it has to
(`Inventory.moveItem_of_stacks`), or the move fails and both items are gone
(`Inventory.moveItem_of_not_stacks`).

A move conserves the items exactly when the stack that grows does not leave the range of sixteen bits,
and the amount is the whole source stack whenever the source goes (`Inventory.moveItem_conserves_iff`):
where the target has room for the amount, the code removes the source whole and adds the amount.  And a
failed move leaves the inventory alone exactly when it is not one of those that lose the two items
(`Inventory.moveItem_failed_unchanged_iff`).

Main definitions:

* `Item.room`, `Item.Takes`, `Item.Gives` — the room on a stack, and the changes of a stack that
  succeed;
* `Inventory.stackTotal`, `Inventory.MoveConserves` — what is to be conserved;
* `Inventory.StacksExactly`, `Inventory.StacksSafely` — the moves that do.

Main results:

* `Inventory.moveItem_of_stacks`, `Inventory.moveItem_of_not_stacks`, `Inventory.moveItem_of_full` — what a
  move on top of a stack does;
* `Inventory.moveItem_conserves_iff` — **when a move conserves the items**;
* `Inventory.moveItem_failed_unchanged_iff` — **when a failed move changes nothing**.
-/

import Skrillax.Accounting
import Skrillax.Inventory

set_option relaxedAutoImplicit false
set_option autoImplicit false

namespace Skrillax

open Rust

/-! ### Changes of a stack by a cast amount -/

namespace Item

/-- The room on a stack, as the code computes it. -/
def room (item : Item) : UInt16 := item.reference.maxStackSize - item.stackSize

/-- A stack can be changed by the amount, cast to a signed integer: from `2 ^ 15` on the cast makes the
amount negative, and the stack has to hold enough. -/
def Takes (item : Item) (amount : UInt16) : Prop :=
  ∃ n, item.typeData = .consumable n ∧
    (amount.toNat < 2 ^ 15 ∨ 2 ^ 16 ≤ n.toNat + amount.toNat)

/-- A stack can be changed by the negated cast of the amount: beyond `2 ^ 15` the negated cast is
positive, and nothing is taken. -/
def Gives (item : Item) (amount : UInt16) : Prop :=
  ∃ n, item.typeData = .consumable n ∧ (amount.toNat ≤ 2 ^ 15 → amount ≤ n)

variable {p : Profile} {item : Item} {n amount : UInt16}

theorem stackSize_consumable (h : item.typeData = .consumable n) : item.stackSize = n := by
  rw [stackSize, h]

/-- A stack of consumables that takes an amount grows by it, modulo `2 ^ 16`. -/
theorem changeStackSize_of_takes (hn : item.typeData = .consumable n)
    (hrange : n.toNat + amount.toNat < 2 ^ 16 ∨ p = .release) (h : item.Takes amount) :
    item.changeStackSize p amount.toInt16 =
      some (.ok { item with typeData := .consumable (n + amount) }) := by
  obtain ⟨n', hn', h⟩ := h
  obtain rfl : n = n' := by simpa [hn] using hn'
  have hlt := n.toNat_lt
  have hsize : UInt16.size = 2 ^ 16 := rfl
  by_cases hneg : amount.toInt16 < 0
  · have hbig := (toInt16_neg_iff amount).1 hneg
    have hle : ¬n < unsignedAbs amount.toInt16 := by
      rw [unsignedAbs_of_neg hneg, UInt16.toUInt16_toInt16, UInt16.lt_iff_toNat_lt,
        UInt16.toNat_neg, hsize]
      have := amount.toNat_lt
      omega
    simp only [changeStackSize, hn, if_pos hneg, if_neg hle]
    rw [sub_unsignedAbs hneg, UInt16.toUInt16_toInt16]
  · simp only [changeStackSize, hn, if_neg hneg, UInt16.toUInt16_toInt16]
    rw [Profile.addU16_eq_some.2 ⟨rfl, hrange⟩]
    rfl

/-- A stack that does not take an amount cannot be changed by it. -/
theorem changeStackSize_of_not_takes (h : ¬item.Takes amount) :
    ∃ e, item.changeStackSize p amount.toInt16 = some (.error e) := by
  cases hd : item.typeData with
  | consumable n =>
      have hnot : ¬(amount.toNat < 2 ^ 15 ∨ 2 ^ 16 ≤ n.toNat + amount.toNat) :=
        fun hor => h ⟨n, hd, hor⟩
      have hneg : amount.toInt16 < 0 := (toInt16_neg_iff amount).2 (by omega)
      have hsize : UInt16.size = 2 ^ 16 := rfl
      have hlt : n < unsignedAbs amount.toInt16 := by
        rw [unsignedAbs_of_neg hneg, UInt16.toUInt16_toInt16, UInt16.lt_iff_toNat_lt,
          UInt16.toNat_neg, hsize]
        omega
      exact ⟨.impossible, by simp only [changeStackSize, hd, if_pos hneg, if_pos hlt]⟩
  | equipment | cos | gold => exact ⟨.notStackable, by simp only [changeStackSize, hd]⟩

/-- The negated cast of a positive amount is negative up to `2 ^ 15`. -/
theorem neg_toInt16_neg_iff (hzero : amount ≠ 0) : -amount.toInt16 < 0 ↔ amount.toNat ≤ 2 ^ 15 := by
  have hsize : UInt16.size = 2 ^ 16 := rfl
  have hlt := amount.toNat_lt
  have hpos : 0 < amount.toNat := Nat.pos_of_ne_zero fun h => hzero (UInt16.toNat_inj.1 h)
  rw [← UInt16.toInt16_neg, toInt16_neg_iff, UInt16.toNat_neg, hsize]
  omega

/-- A stack of consumables that gives an amount shrinks by it, modulo `2 ^ 16`. -/
theorem changeStackSize_of_gives (hn : item.typeData = .consumable n) (hzero : amount ≠ 0)
    (hrange : amount.toNat ≤ 2 ^ 15 ∨ p = .release) (h : item.Gives amount) :
    item.changeStackSize p (-amount.toInt16) =
      some (.ok { item with typeData := .consumable (n - amount) }) := by
  obtain ⟨n', hn', h⟩ := h
  obtain rfl : n = n' := by simpa [hn] using hn'
  have hbits : (-amount.toInt16).toUInt16 = -amount := by simp
  by_cases hneg : -amount.toInt16 < 0
  · have hle : ¬n < unsignedAbs (-amount.toInt16) := by
      rw [unsignedAbs_of_neg hneg, hbits, UInt16.neg_neg, UInt16.not_lt]
      exact h ((neg_toInt16_neg_iff hzero).1 hneg)
    simp only [changeStackSize, hn, if_pos hneg, if_neg hle]
    rw [sub_unsignedAbs hneg, hbits, ← UInt16.sub_eq_add_neg]
  · have hrelease := hrange.resolve_left fun hle => hneg ((neg_toInt16_neg_iff hzero).2 hle)
    simp only [changeStackSize, hn, if_neg hneg, hbits]
    rw [Profile.addU16_eq_some.2 ⟨rfl, Or.inr hrelease⟩, ← UInt16.sub_eq_add_neg]
    rfl

/-- A stack that does not give an amount cannot be changed by its negated cast. -/
theorem changeStackSize_of_not_gives (hzero : amount ≠ 0) (h : ¬item.Gives amount) :
    ∃ e, item.changeStackSize p (-amount.toInt16) = some (.error e) := by
  cases hd : item.typeData with
  | consumable n =>
      have hnot : ¬(amount.toNat ≤ 2 ^ 15 → amount ≤ n) := fun himp => h ⟨n, hd, himp⟩
      obtain ⟨hsmall, hlt⟩ := Classical.not_imp.1 hnot
      have hneg := (neg_toInt16_neg_iff hzero).2 hsmall
      have hbits : (-amount.toInt16).toUInt16 = -amount := by simp
      have hlt' : n < unsignedAbs (-amount.toInt16) := by
        rw [unsignedAbs_of_neg hneg, hbits, UInt16.neg_neg]
        exact UInt16.not_le.1 hlt
      exact ⟨.impossible, by simp only [changeStackSize, hd, if_pos hneg, if_pos hlt']⟩
  | equipment | cos | gold => exact ⟨.notStackable, by simp only [changeStackSize, hd]⟩

end Item

namespace Inventory

variable {p : Profile} {inv inv' : Inventory} {source target : Slot} {amount n : UInt16} {s t : Item}

/-! ### A move on top of a stack -/

/-- What a move puts on top of the stack `t`: the amount asked for, or as much as there is room. -/
def portion (t : Item) (amount : UInt16) : UInt16 := if amount ≤ t.room then amount else t.room

/-- What stays of the source stack `s`: nothing if the target `t` has room for the amount, however much
the source holds. -/
def leftOver (s t : Item) (amount : UInt16) : Option Item :=
  if amount ≤ t.room then none
  else some { s with typeData := .consumable (s.stackSize - t.room) }

/-- The two stacks can be changed as the move wants it. -/
def Stacks (s t : Item) (amount : UInt16) : Prop :=
  t.Takes (portion t amount) ∧ (t.room < amount → s.Gives t.room)

/-- The source is taken out of its slot before the target is looked at. -/
theorem StackingMove.cleared (hsm : StackingMove inv source target s t) :
    (inv.clearSlot source).items target = some t := by
  rw [clearSlot_items, Function.update_of_ne hsm.source_ne.symm, hsm.target_item]

theorem subU16_room (hrange : t.stackSize ≤ t.reference.maxStackSize ∨ p = .release) :
    p.subU16 t.reference.maxStackSize t.stackSize = some t.room :=
  Profile.subU16_eq_some.2 ⟨rfl, hrange⟩

theorem room_of_range (hn : t.typeData = .consumable n) (hle : n ≤ t.reference.maxStackSize) :
    t.room.toNat = t.reference.maxStackSize.toNat - n.toNat := by
  rw [Item.room, Item.stackSize_consumable hn, UInt16.toNat_sub_of_le _ _ hle]

/-- On a stack that is not over-full, the portion stays in range. -/
theorem portion_range (amount : UInt16) (hn : t.typeData = .consumable n)
    (hrange : t.stackSize ≤ t.reference.maxStackSize ∨ p = .release) :
    n.toNat + (portion t amount).toNat < 2 ^ 16 ∨ p = .release := by
  refine hrange.imp_left fun hle => ?_
  rw [Item.stackSize_consumable hn] at hle
  have hroom := room_of_range hn hle
  rw [UInt16.le_iff_toNat_le] at hle
  have hM := t.reference.maxStackSize.toNat_lt
  unfold portion
  split
  · rename_i hsmall
    rw [UInt16.le_iff_toNat_le] at hsmall
    omega
  · omega

/-- Where the build checks for overflows, room that is taken is small enough to be negated. -/
theorem room_small (hrange : t.stackSize ≤ t.reference.maxStackSize ∨ p = .release)
    (h : t.Takes t.room) : t.room.toNat < 2 ^ 15 ∨ p = .release := by
  refine hrange.imp_left fun hle => ?_
  obtain ⟨n, hn, hor⟩ := h
  rw [Item.stackSize_consumable hn] at hle
  have hroom := room_of_range hn hle
  have hM := t.reference.maxStackSize.toNat_lt
  rw [UInt16.le_iff_toNat_le] at hle
  omega

/-- **A move on top of a stack that takes it** puts the portion there, and leaves what is left over. -/
theorem moveItem_of_stacks (hsm : StackingMove inv source target s t)
    (hn : t.typeData = .consumable n)
    (hrange : t.stackSize ≤ t.reference.maxStackSize ∨ p = .release) (hroom : t.room ≠ 0)
    (h : Stacks s t amount) :
    ∃ inv', inv.moveItem p source target amount = some (inv', .ok (portion t amount)) ∧
      inv'.items = Function.update (Function.update inv.items source (leftOver s t amount)) target
        (some { t with typeData := .consumable (n + portion t amount) }) := by
  obtain ⟨htakes, hgives⟩ := h
  have hsub := subU16_room hrange
  have hgrow := Item.changeStackSize_of_takes hn (portion_range amount hn hrange) htakes
  by_cases hle : amount ≤ t.room
  · have hportion : portion t amount = amount := if_pos hle
    have hleft : leftOver s t amount = none := if_pos hle
    rw [hportion] at hgrow ⊢
    rw [hleft]
    refine ⟨((((inv.clearSlot source).clearSlot target).log (.removeItem source)).log
      (.changeTypeData target t.typeData (.consumable (n + amount)))).setItem target
        { t with typeData := .consumable (n + amount) }, ?_, ?_⟩
    · simp only [moveItem, hsm.source_item, hsm.cleared,
        if_pos (And.intro hsm.same_ref hsm.stackable), hsub, Option.bind_eq_bind, Option.bind_some,
        if_neg hroom, if_pos hle, hgrow, Option.pure_def]
    · funext slot
      simp only [setItem_items, log_items, clearSlot_items]
      grind [Function.update_apply]
  · have hlt : t.room < amount := UInt16.not_le.1 hle
    have hportion : portion t amount = t.room := if_neg hle
    obtain ⟨k, hk, -⟩ := hgives hlt
    have hleft : leftOver s t amount =
        some { s with typeData := .consumable (k - t.room) } := by
      rw [leftOver, if_neg hle, Item.stackSize_consumable hk]
    rw [hportion] at hgrow htakes ⊢
    rw [hleft]
    have hsmall := room_small hrange htakes
    have hneg : p.negI16 t.room.toInt16 = some (-t.room.toInt16) :=
      Profile.negI16_eq_some.2 ⟨rfl, hsmall.imp_left toInt16_ne_minValue⟩
    have hshrink := Item.changeStackSize_of_gives (p := p) hk hroom
      (hsmall.imp_left Nat.le_of_lt) (hgives hlt)
    refine ⟨(((((inv.clearSlot source).clearSlot target).log
      (.changeTypeData target t.typeData (.consumable (n + t.room)))).log
      (.changeTypeData source s.typeData (.consumable (k - t.room)))).setItem source
        { s with typeData := .consumable (k - t.room) }).setItem target
        { t with typeData := .consumable (n + t.room) }, ?_, ?_⟩
    · simp only [moveItem, hsm.source_item, hsm.cleared,
        if_pos (And.intro hsm.same_ref hsm.stackable), hsub, Option.bind_eq_bind, Option.bind_some,
        if_neg hroom, if_neg hle, hgrow, hneg, hshrink, Option.pure_def]
    · funext slot
      simp only [setItem_items, log_items, clearSlot_items]
      grind [Function.update_apply]

/-- **A move on top of a stack that cannot be carried out** fails, and the source is gone. -/
theorem moveItem_of_not_stacks (hsm : StackingMove inv source target s t)
    (hrange : t.stackSize ≤ t.reference.maxStackSize ∨ p = .release) (hroom : t.room ≠ 0)
    (h : ¬Stacks s t amount) :
    ∃ inv' e, inv.moveItem p source target amount = some (inv', .error e) ∧
      inv'.items source = none := by
  have hsub := subU16_room hrange
  have hgone : ((inv.clearSlot source).clearSlot target).items source = none := by
    rw [clearSlot_items, Function.update_of_ne hsm.source_ne, clearSlot_items, Function.update_self]
  by_cases htakes : t.Takes (portion t amount)
  · -- the target can be changed, so it is the source that cannot
    obtain ⟨hlt, hgives⟩ := Classical.not_imp.1 fun himp => h ⟨htakes, himp⟩
    have hle : ¬amount ≤ t.room := UInt16.not_le.2 hlt
    rw [portion, if_neg hle] at htakes
    obtain ⟨n, hn, -⟩ := id htakes
    have hportion := portion_range amount hn hrange
    rw [portion, if_neg hle] at hportion
    have hgrow := Item.changeStackSize_of_takes hn hportion htakes
    have hneg : p.negI16 t.room.toInt16 = some (-t.room.toInt16) :=
      Profile.negI16_eq_some.2 ⟨rfl, (room_small hrange htakes).imp_left toInt16_ne_minValue⟩
    obtain ⟨e, hshrink⟩ := Item.changeStackSize_of_not_gives (p := p) hroom hgives
    refine ⟨((inv.clearSlot source).clearSlot target).log
      (.changeTypeData target t.typeData (.consumable (n + t.room))), e, ?_, hgone⟩
    simp only [moveItem, hsm.source_item, hsm.cleared, if_pos (And.intro hsm.same_ref hsm.stackable),
      hsub, Option.bind_eq_bind, Option.bind_some, if_neg hroom, if_neg hle, hgrow, hneg, hshrink,
      Option.pure_def]
  · obtain ⟨e, hgrow⟩ := Item.changeStackSize_of_not_takes (p := p) htakes
    refine ⟨(inv.clearSlot source).clearSlot target, e, ?_, hgone⟩
    unfold portion at hgrow
    split at hgrow
    · rename_i hle
      simp only [moveItem, hsm.source_item, hsm.cleared, if_pos (And.intro hsm.same_ref hsm.stackable),
        hsub, Option.bind_eq_bind, Option.bind_some, if_neg hroom, if_pos hle, hgrow, Option.pure_def]
    · rename_i hle
      simp only [moveItem, hsm.source_item, hsm.cleared, if_pos (And.intro hsm.same_ref hsm.stackable),
        hsub, Option.bind_eq_bind, Option.bind_some, if_neg hroom, if_neg hle, hgrow, Option.pure_def]

/-! ### What a move conserves -/

/-- How many items of a reference a slot holds. -/
def slotStack (refId : UInt32) : Option Item → ℕ
  | none => 0
  | some item => if item.reference.refId = refId then item.stackSize.toNat else 0

/-- How many items of a reference there are in all the slots. -/
def stackTotal (refId : UInt32) (inv : Inventory) : ℕ :=
  ∑ slot, slotStack refId (inv.items slot)

/-- The size of the stack in a slot. -/
def stackAt (inv : Inventory) (slot : Slot) : ℕ :=
  ((inv.items slot).map fun item => item.stackSize.toNat).getD 0

/-- What a move that has returned the amount `n` is to conserve. -/
structure MoveConserves (inv inv' : Inventory) (source target : Slot) (n : UInt16) : Prop where
  total : ∀ refId, inv'.stackTotal refId = inv.stackTotal refId
  frame : ∀ slot, slot ≠ source → slot ≠ target → inv'.items slot = inv.items slot
  stacked : ∀ s t, inv.StackingMove source target s t →
    inv'.stackAt target = inv.stackAt target + n.toNat ∧
      inv'.stackAt source + n.toNat = inv.stackAt source

/-- Writing two slots changes the totals by what was there and what is there now. -/
theorem stackTotal_update (refId : UInt32) (hne : source ≠ target) (x y : Option Item)
    (hitems : inv'.items = Function.update (Function.update inv.items source x) target y) :
    inv'.stackTotal refId +
        (slotStack refId (inv.items source) + slotStack refId (inv.items target)) =
      inv.stackTotal refId + (slotStack refId x + slotStack refId y) := by
  have hfirst := Accounting.sum_update (slotStack refId) inv.items source x
  have hsecond :=
    Accounting.sum_update (slotStack refId) (Function.update inv.items source x) target y
  rw [Function.update_of_ne hne.symm] at hsecond
  rw [stackTotal, stackTotal, hitems]
  omega

/-- What a slot holds of the reference of its item. -/
theorem slotStack_eq_stackAt (refId : UInt32) (inv : Inventory) (slot : Slot) {r : UInt32}
    (href : ∀ item, inv.items slot = some item → item.reference.refId = r) :
    slotStack refId (inv.items slot) = if r = refId then inv.stackAt slot else 0 := by
  cases hi : inv.items slot with
  | none => simp [slotStack, stackAt, hi]
  | some item => simp [slotStack, stackAt, hi, href item hi]

/-- Two slots with items of one reference hold as much of it as the sizes of their stacks. -/
theorem slotStack_add (refId : UInt32) (inv : Inventory) (source target : Slot) {r : UInt32}
    (hs : ∀ item, inv.items source = some item → item.reference.refId = r)
    (ht : ∀ item, inv.items target = some item → item.reference.refId = r) :
    slotStack refId (inv.items source) + slotStack refId (inv.items target) =
      if r = refId then inv.stackAt source + inv.stackAt target else 0 := by
  rw [slotStack_eq_stackAt refId inv source hs, slotStack_eq_stackAt refId inv target ht]
  split <;> rfl

theorem leftOver_reference {item : Item} (h : leftOver s t amount = some item) :
    item.reference = s.reference := by
  unfold leftOver at h
  split at h
  · simp at h
  · rw [← Option.some_inj.1 h]

/-- A move whose stacks can be changed conserves the items exactly if the target stays in range and the
source, where it goes, is what the target gains. -/
theorem conserves_of_stacks_iff (hsm : StackingMove inv source target s t)
    (hn : t.typeData = .consumable n) (h : Stacks s t amount)
    (hitems : inv'.items = Function.update (Function.update inv.items source (leftOver s t amount))
      target (some { t with typeData := .consumable (n + portion t amount) })) :
    MoveConserves inv inv' source target (portion t amount) ↔
      n.toNat + (portion t amount).toNat < 2 ^ 16 ∧ (amount ≤ t.room → amount = s.stackSize) := by
  have hsource : inv'.items source = leftOver s t amount := by
    rw [hitems, Function.update_of_ne hsm.source_ne, Function.update_self]
  have htarget : inv'.items target = some { t with typeData := .consumable (n + portion t amount) } := by
    rw [hitems, Function.update_self]
  have hsum : (n + portion t amount).toNat = (n.toNat + (portion t amount).toNat) % 2 ^ 16 :=
    UInt16.toNat_add ..
  have hsize : t.stackSize = n := Item.stackSize_consumable hn
  -- what the two slots hold before and after, in numbers
  have hafter : inv'.stackAt target = (n + portion t amount).toNat := by
    simp [stackAt, htarget, Item.stackSize]
  have hbefore : inv.stackAt target = n.toNat := by simp [stackAt, hsm.target_item, hsize]
  have hbefore' : inv.stackAt source = s.stackSize.toNat := by simp [stackAt, hsm.source_item]
  have hafter' : inv'.stackAt source =
      if amount ≤ t.room then 0 else (s.stackSize - t.room).toNat := by
    rw [stackAt, hsource, leftOver]
    split
    · rfl
    · simp [Item.stackSize]
  constructor
  · intro hc
    obtain ⟨hgrown, hshrunk⟩ := hc.stacked s t hsm
    rw [hafter, hbefore, hsum] at hgrown
    refine ⟨by have := Nat.mod_lt (n.toNat + (portion t amount).toNat) (show 0 < 2 ^ 16 by decide); omega,
      fun hle => ?_⟩
    rw [hafter', hbefore', if_pos hle, portion, if_pos hle, Nat.zero_add] at hshrunk
    exact UInt16.toNat_inj.1 hshrunk
  · rintro ⟨hrange, hwhole⟩
    have hgrown : (n + portion t amount).toNat = n.toNat + (portion t amount).toNat := by
      rw [hsum, Nat.mod_eq_of_lt hrange]
    have hshrunk : inv'.stackAt source + (portion t amount).toNat = s.stackSize.toNat := by
      rw [hafter']
      split
      · rename_i hle
        rw [portion, if_pos hle, hwhole hle, Nat.zero_add]
      · rename_i hle
        obtain ⟨htakes, hgives⟩ := h
        obtain ⟨k, hk, hgives⟩ := hgives (UInt16.not_le.1 hle)
        obtain ⟨n', hn', htakes⟩ := htakes
        obtain rfl : n = n' := by simpa [hn] using hn'
        rw [portion, if_neg hle] at htakes hrange ⊢
        have hle' := hgives (by omega)
        rw [Item.stackSize_consumable hk, UInt16.toNat_sub_of_le _ _ hle']
        rw [UInt16.le_iff_toNat_le] at hle'
        omega
    refine ⟨fun refId => ?_, fun slot hs ht => ?_, fun s' t' _ => ⟨?_, ?_⟩⟩
    · have htotal := stackTotal_update refId hsm.source_ne _ _ hitems
      rw [← hsource, ← htarget] at htotal
      -- both stacks are of the reference of the source, before and after
      have hold := slotStack_add (r := s.reference.refId) refId inv source target
        (fun i hi => by rw [hsm.source_item, Option.some_inj] at hi; rw [hi])
        (fun i hi => by rw [hsm.target_item, Option.some_inj] at hi; rw [← hi, hsm.same_ref])
      have hnew := slotStack_add (r := s.reference.refId) refId inv' source target
        (fun i hi => by rw [hsource] at hi; rw [leftOver_reference hi])
        (fun i hi => by rw [htarget, Option.some_inj] at hi; rw [← hi, hsm.same_ref])
      rw [hold, hnew] at htotal
      split at htotal <;> omega
    · rw [hitems, Function.update_of_ne ht, Function.update_of_ne hs]
    · rw [hafter, hbefore, hgrown]
    · rw [hshrunk, hbefore']

/-- A move onto a full stack does nothing. -/
theorem moveItem_of_full (hsm : StackingMove inv source target s t) (hroom : t.room = 0) :
    inv.moveItem p source target amount = some (inv, .ok 0) := by
  have hsize : t.reference.maxStackSize = t.stackSize := by
    simpa using UInt16.sub_eq_iff_eq_add.1 hroom
  have hsub : p.subU16 t.reference.maxStackSize t.stackSize = some 0 :=
    Profile.subU16_eq_some.2 ⟨hroom.symm, Or.inl (by rw [hsize]; exact UInt16.le_refl _)⟩
  simp only [moveItem, hsm.source_item, hsm.cleared, if_pos (And.intro hsm.same_ref hsm.stackable), hsub,
    Option.bind_eq_bind, Option.bind_some, if_true, Option.pure_def,
    restore_items hsm.source_item hsm.target_item]

/-- A move that returns has computed the room in range, or wrapped it around. -/
theorem moveItem_range {res : Inventory × Except MoveError UInt16}
    (hsm : StackingMove inv source target s t) (h : inv.moveItem p source target amount = some res) :
    t.stackSize ≤ t.reference.maxStackSize ∨ p = .release := by
  simp only [moveItem, hsm.source_item, hsm.cleared, if_pos (And.intro hsm.same_ref hsm.stackable)] at h
  obtain ⟨available, hav, -⟩ := Option.bind_eq_some_iff.1 h
  exact (Profile.subU16_eq_some.1 hav).2

/-- Every move between two slots that does not stack conserves the items. -/
theorem MoveOutcome.conserves_of_not_stacking
    (h : MoveOutcome p inv source target amount inv' (.ok n))
    (hst : ∀ s t, ¬StackingMove inv source target s t) : MoveConserves inv inv' source target n := by
  have hnone : ∀ s t, inv.StackingMove source target s t →
      inv'.stackAt target = inv.stackAt target + n.toNat ∧
        inv'.stackAt source + n.toNat = inv.stackAt source :=
    fun s t hsm => absurd hsm (hst s t)
  cases h with
  | moved s hs htarget =>
      by_cases hne : source = target
      · subst hne
        have hitems : (((inv.clearSlot source).log (.moveItem source source)).setItem source s).items =
            inv.items := by
          simp [← hs]
        refine ⟨fun refId => ?_, fun slot _ _ => by rw [hitems], hnone⟩
        rw [stackTotal, hitems, stackTotal]
      · refine ⟨fun refId => ?_, fun slot hs' ht' => ?_, hnone⟩
        · have hitems : (((inv.clearSlot source).log (.moveItem source target)).setItem target
              s).items = Function.update (Function.update inv.items source none) target (some s) := rfl
          have htotal := stackTotal_update refId hne none (some s) hitems
          rw [hs, htarget hne] at htotal
          simp only [slotStack] at htotal ⊢
          omega
        · simp [ht', hs']
  | full s t hsm => exact absurd hsm (hst s t)
  | stacked s t t' hsm => exact absurd hsm (hst s t)
  | filled s t s' t' delta hsm => exact absurd hsm (hst s t)
  | swapped s t hs ht hne =>
      have hitems : (((((inv.clearSlot source).clearSlot target).log (.swap source target)).setItem
          target s).setItem source t).items =
          Function.update (Function.update inv.items source (some t)) target (some s) := by
        funext slot
        simp only [setItem_items, log_items, clearSlot_items]
        grind [Function.update_apply]
      refine ⟨fun refId => ?_, fun slot hs' ht' => ?_, hnone⟩
      · have htotal := stackTotal_update refId hne _ _ hitems
        rw [hs, ht] at htotal
        omega
      · rw [hitems, Function.update_of_ne ht', Function.update_of_ne hs']

/-- The move does not destroy or duplicate anything: if it is one on top of a stack that can be carried
out, the target stack stays in the range of sixteen bits, and where the target has room for the amount,
the amount is the whole source stack. -/
def StacksExactly (p : Profile) (inv : Inventory) (source target : Slot) (amount : UInt16) : Prop :=
  ∀ s t n, inv.StackingMove source target s t → t.typeData = .consumable n →
    t.stackSize ≤ t.reference.maxStackSize ∨ p = .release → t.room ≠ 0 → Stacks s t amount →
    n.toNat + (portion t amount).toNat < 2 ^ 16 ∧ (amount ≤ t.room → amount = s.stackSize)

/-- **When a move conserves the items**: a successful move keeps the total quantity of every item,
touches no slot but its two, and returns by how much the target stack has grown and the source stack
has shrunk, exactly if it is not one that destroys or duplicates items. -/
theorem moveItem_conserves_iff (p : Profile) (inv : Inventory) (source target : Slot)
    (amount : UInt16) :
    (∀ inv' n, inv.moveItem p source target amount = some (inv', .ok n) →
      MoveConserves inv inv' source target n) ↔ StacksExactly p inv source target amount := by
  constructor
  · intro h s t n hsm hn hrange hroom hstacks
    obtain ⟨inv', hmove, hitems⟩ := moveItem_of_stacks hsm hn hrange hroom hstacks
    exact (conserves_of_stacks_iff hsm hn hstacks hitems).1 (h inv' _ hmove)
  · intro h inv' n hmove
    by_cases hst : ∃ s t, StackingMove inv source target s t
    · obtain ⟨s, t, hsm⟩ := hst
      by_cases hroom : t.room = 0
      · obtain ⟨rfl, rfl⟩ : inv = inv' ∧ 0 = n := by
          simpa [moveItem_of_full hsm hroom] using hmove
        exact ⟨fun _ => rfl, fun _ _ _ => rfl, fun _ _ _ => ⟨rfl, rfl⟩⟩
      · have hrange := moveItem_range hsm hmove
        by_cases hstacks : Stacks s t amount
        · obtain ⟨m, hm, -⟩ := id hstacks.1
          obtain ⟨inv'', hmove', hitems⟩ := moveItem_of_stacks hsm hm hrange hroom hstacks
          obtain ⟨rfl, rfl⟩ : inv'' = inv' ∧ portion t amount = n := by simpa [hmove'] using hmove
          exact (conserves_of_stacks_iff hsm hm hstacks hitems).2 (h s t m hsm hm hrange hroom hstacks)
        · obtain ⟨inv'', e, hmove', -⟩ := moveItem_of_not_stacks hsm hrange hroom hstacks
          simp [hmove'] at hmove
    · exact (moveItem_outcome hmove).conserves_of_not_stacking fun s t hsm => hst ⟨s, t, hsm⟩

/-- A stack of ten is moved on top of one of twenty, and a single one is asked for: nine are gone. -/
theorem move_one_of_ten_destroys_nine :
    let bag := ((default : Inventory).setItem 13 (potion 10)).setItem 14 (potion 20)
    ∃ inv', bag.moveItem .debug 13 14 1 = some (inv', .ok 1) ∧
      inv'.items 13 = none ∧ inv'.items 14 = some (potion 21) ∧
      ¬MoveConserves bag inv' 13 14 1 := by
  intro bag
  refine ⟨_, rfl, by decide, by decide, fun h => ?_⟩
  have hsm : bag.StackingMove 13 14 (potion 10) (potion 20) := ⟨by decide, by decide, by decide, rfl,
    by decide⟩
  exact absurd (h.stacked _ _ hsm).2 (by decide)

/-! ### What a failed move loses -/

/-- If the move is one on top of a stack, it can be carried out. -/
def StacksSafely (p : Profile) (inv : Inventory) (source target : Slot) (amount : UInt16) : Prop :=
  ∀ s t, inv.StackingMove source target s t →
    t.stackSize ≤ t.reference.maxStackSize ∨ p = .release → t.room ≠ 0 → Stacks s t amount

/-- **When a failed move changes nothing**: a failed move leaves the items and the log as they were
exactly if it is not one on top of a stack that has room but cannot be changed. -/
theorem moveItem_failed_unchanged_iff (p : Profile) (inv : Inventory) (source target : Slot)
    (amount : UInt16) :
    (∀ inv' e, inv.moveItem p source target amount = some (inv', .error e) →
      inv'.items = inv.items ∧ inv'.changes = inv.changes) ↔
        StacksSafely p inv source target amount := by
  constructor
  · intro h s t hsm hrange hroom
    by_contra hnot
    obtain ⟨inv', e, hmove, hgone⟩ := moveItem_of_not_stacks hsm hrange hroom hnot
    rw [(h inv' e hmove).1, hsm.source_item] at hgone
    simp at hgone
  · intro h inv' e hmove
    cases moveItem_outcome hmove with
    | missing _ => exact ⟨rfl, rfl⟩
    | lost s t e inv' hsm _ _ =>
        by_cases hroom : t.room = 0
        · simp [moveItem_of_full hsm hroom] at hmove
        · have hrange := moveItem_range hsm hmove
          have hstacks := h s t hsm hrange hroom
          obtain ⟨m, hm, -⟩ := id hstacks.1
          obtain ⟨inv'', hmove', -⟩ := moveItem_of_stacks hsm hm hrange hroom hstacks
          simp [hmove'] at hmove

/-- Ten are asked for, the target has room for five, and the source holds three: the move fails, and
both stacks are gone. -/
theorem move_ten_of_three_loses_both :
    let bag := ((default : Inventory).setItem 13 (potion 3)).setItem 14 (potion 45)
    ∃ inv', bag.moveItem .debug 13 14 10 = some (inv', .error .impossible) ∧
      inv'.items 13 = none ∧ inv'.items 14 = none ∧ inv'.changes ≠ bag.changes ∧
      ¬(inv'.items = bag.items ∧ inv'.changes = bag.changes) := by
  intro bag
  refine ⟨_, rfl, by decide, by decide, by decide, fun h => ?_⟩
  exact absurd (congrFun h.1 13) (by decide)

end Inventory

end Skrillax

/-
**The sizes of stacks.**

Every stack should hold between one and the largest number of items that its reference allows.  The
items of a game come from one table of references, those that are added have a legal size, and moves
are between different slots.

Two branches break this.  A move that fills up the target stack takes the room that was left there from
the source, and keeps the source even if nothing remains of it (`StackVanishes`): the code compares
the room with the amount asked for, not with the amount present.  And an addition whose sum with the
stack it is put on is exactly `2 ^ 16` wraps around to an empty stack in a release build
(`SumVanishes`).  Throughout a run the stacks are legal exactly when it stays clear of both
(`Inventory.reached_stacksLegal_iff`).

Main definitions:

* `Item.HasLegalStack`, `Inventory.StacksLegal`, `Inventory.NoUnderflow` — what is to hold;
* `Inventory.callStep`, `Inventory.Allowed` — the calls of a run;
* `Inventory.StackVanishes`, `Inventory.SumVanishes`, `Inventory.KeepsStacks` — the calls that go
  wrong, and those that do not.

Main results:

* `Inventory.MoveOutcome.stacksLegal`, `Inventory.AddOutcome.stacksLegal`,
  `Inventory.RemoveOutcome.stacksLegal` — the operations keep the stacks legal otherwise;
* `Inventory.reached_stacksLegal_iff` — **the stacks of a run are legal iff none of its calls goes
  wrong**.
-/

import Skrillax.Inventory

set_option relaxedAutoImplicit false
set_option autoImplicit false

namespace Skrillax

open Rust PartialAction

/-- A stack of consumables holds at least one and at most as many as its reference allows. -/
def Item.HasLegalStack (item : Item) : Prop :=
  ∀ n, item.typeData = .consumable n → 1 ≤ n ∧ n ≤ item.reference.maxStackSize

theorem Item.hasLegalStack_consumable {ref : RefItemData} {v : Option UInt64} {n : UInt16} :
    HasLegalStack ⟨ref, v, .consumable n⟩ ↔ 1 ≤ n.toNat ∧ n.toNat ≤ ref.maxStackSize.toNat := by
  simp [HasLegalStack, UInt16.le_iff_toNat_le]

namespace Inventory

/-! ### Legal stacks -/

/-- The reference of every item is the one in the table, and every stack is legal. -/
abbrev StacksLegal (table : UInt32 → RefItemData) (inv : Inventory) : Prop :=
  inv.AllItems fun _ item => item.reference = table item.reference.refId ∧ item.HasLegalStack

/-- In every move on top of a stack, `max_stack_size - stack_size()` is in range. -/
def NoUnderflow (inv : Inventory) : Prop :=
  ∀ source target s t, inv.StackingMove source target s t →
    t.stackSize ≤ t.reference.maxStackSize

variable {table : UInt32 → RefItemData} {p : Profile} {inv inv' : Inventory}

/-- Two items of a table with the same id have the same reference. -/
theorem StackingMove.reference_eq {source target : Slot} {s t : Item}
    (hsm : StackingMove inv source target s t) (h : StacksLegal table inv) :
    s.reference = t.reference := by
  rw [(h source s hsm.source_item).1, (h target t hsm.target_item).1, hsm.same_ref]

theorem StacksLegal.noUnderflow (h : StacksLegal table inv) : inv.NoUnderflow := by
  intro source target s t hsm
  have hmax := hsm.stackable
  rw [hsm.reference_eq h] at hmax
  cases hd : t.typeData with
  | consumable n =>
      have hlegal := (h target t hsm.target_item).2 n hd
      simpa [Item.stackSize, hd] using hlegal.2
  | equipment | cos | gold => simpa [Item.stackSize, hd] using UInt16.le_of_lt hmax

/-! ### Removals and additions -/

/-- A removal keeps the stacks legal. -/
theorem RemoveOutcome.stacksLegal {slots : List Slot} {toRemove : UInt16}
    (h : RemoveOutcome slots toRemove inv inv') (hinv : StacksLegal table inv) :
    StacksLegal table inv' := by
  induction h with
  | done _ _ => exact hinv
  | whole _ _ _ _ _ ih => exact ih ((hinv.clearSlot _).log _)
  | last _ _ _ => exact (hinv.clearSlot _).log _
  | @part i slots toRemove inv existing n hi hn hone hlt =>
      obtain ⟨htable, hlegal⟩ := hinv i existing hi
      refine hinv.setItem ⟨htable, Item.hasLegalStack_consumable.2 ?_⟩
      obtain ⟨-, hmax⟩ := hlegal n hn
      rw [UInt16.le_iff_toNat_le] at hmax
      rw [UInt16.lt_iff_toNat_lt] at hlt
      rw [UInt16.toNat_sub_of_le _ _ (UInt16.le_iff_toNat_le.2 (Nat.le_of_lt hlt))]
      omega

/-- The addition is put on a stack with which its sum is exactly `2 ^ 16`. -/
def SumVanishes (inv : Inventory) (item : Item) (order : List Slot) : Prop :=
  1 < item.reference.maxStackSize ∧ ∃ i existing e a, inv.stackWithRoom order item = some i ∧
    inv.items i = some existing ∧ existing.typeData = .consumable e ∧
    item.typeData = .consumable a ∧ e.toNat + a.toNat = 2 ^ 16

/-- Changing the type data of an item keeps the stacks legal iff the new data is legal. -/
theorem StacksLegal.setTypeData_iff (hinv : StacksLegal table inv) {i : Slot} {existing : Item}
    (hi : inv.items i = some existing) (d : ItemTypeData) :
    StacksLegal table (inv.setTypeData i existing d) ↔
      ({ existing with typeData := d } : Item).HasLegalStack := by
  constructor
  · intro h
    exact (h i { existing with typeData := d } (by simp [Inventory.setTypeData])).2
  · intro h
    refine (AllItems.setItem hinv ?_).log _
    exact ⟨(hinv i existing hi).1, h⟩

/-- An item of the table with a legal stack may be put into an empty slot. -/
theorem StacksLegal.addToEmptySlot (hinv : StacksLegal table inv) {item : Item}
    (hlegal : item.HasLegalStack) (htable : item.reference = table item.reference.refId) :
    StacksLegal table (inv.addToEmptySlot item).1 := by
  unfold Inventory.addToEmptySlot
  split
  · exact (hinv.setItem ⟨htable, hlegal⟩).log _
  · exact hinv

/-- What goes on top of a stack keeps the stacks legal, unless the sum wraps around to zero. -/
theorem addToStack_stacksLegal_iff {i : Slot} {existing item : Item} {res : Option Slot}
    (hinv : StacksLegal table inv) (hi : inv.items i = some existing)
    (hroom : inv.hasRoomFor item i = true) (htable : item.reference = table item.reference.refId)
    (hlegal : item.HasLegalStack) (h : inv.addToStack p i existing item = some (inv', res)) :
    StacksLegal table inv' ↔ ∀ e a, existing.typeData = .consumable e →
      item.typeData = .consumable a → e.toNat + a.toNat ≠ 2 ^ 16 := by
  obtain ⟨hnotmax, hid⟩ := (hasRoomFor_iff hi).1 hroom
  have href : existing.reference = item.reference := by
    rw [(hinv i existing hi).1, hid, ← htable]
  unfold addToStack at h
  split at h
  · rename_i e a he ha
    obtain ⟨hone, hmax⟩ := hlegal a ha
    have hlt : e < item.reference.maxStackSize := by
      rwa [Item.isMaxStacked_iff, UInt16.not_le, Item.stackSize, he, href] at hnotmax
    rw [UInt16.le_iff_toNat_le] at hone hmax
    rw [UInt16.lt_iff_toNat_lt] at hlt
    have hM := item.reference.maxStackSize.toNat_lt
    have hsum : (e + a).toNat = (e.toNat + a.toNat) % 2 ^ 16 := UInt16.toNat_add e a
    have hRHS : (∀ e' a', existing.typeData = .consumable e' → item.typeData = .consumable a' →
        e'.toNat + a'.toNat ≠ 2 ^ 16) ↔ e.toNat + a.toNat ≠ 2 ^ 16 := by
      simp [he, ha]
    rw [hRHS]
    obtain ⟨sum, hadd, h⟩ := Option.bind_eq_some_iff.1 h
    obtain ⟨rfl, -⟩ := Profile.addU16_eq_some.1 hadd
    split at h
    · rename_i hle
      rw [UInt16.le_iff_toNat_le] at hle
      simp only [Option.pure_def, Option.some.injEq, Prod.mk.injEq] at h
      obtain ⟨rfl, -⟩ := h
      rw [hinv.setTypeData_iff hi, Item.hasLegalStack_consumable, href]
      simp only [UInt16.toNat_one] at hone
      omega
    · rename_i hgt
      rw [UInt16.le_iff_toNat_le] at hgt
      simp only [UInt16.toNat_one] at hone
      -- beyond the largest stack, so the sum has not wrapped around
      refine iff_of_true ?_ (by omega)
      have hfull : StacksLegal table
          (inv.setTypeData i existing (.consumable item.reference.maxStackSize)) := by
        rw [hinv.setTypeData_iff hi, Item.hasLegalStack_consumable, href]
        omega
      have hrest : Item.HasLegalStack
          { item with typeData := .consumable (e + a - item.reference.maxStackSize) } := by
        rw [Item.hasLegalStack_consumable,
          UInt16.toNat_sub_of_le _ _ (UInt16.le_iff_toNat_le.2 (by omega))]
        omega
      have hadded := hfull.addToEmptySlot hrest htable
      rw [Option.pure_def, Option.some_inj] at h
      rwa [h] at hadded
  · rename_i hkinds
    simp only [Option.some.injEq, Prod.mk.injEq] at h
    obtain ⟨rfl, -⟩ := h
    exact iff_of_true hinv fun e a he ha => absurd ha (hkinds e a he)

/-- An addition keeps the stacks legal, unless its sum with the chosen stack wraps around to zero. -/
theorem addItem_stacksLegal_iff {item : Item} {order : List Slot} {res : Option Slot}
    (hinv : StacksLegal table inv) (htable : item.reference = table item.reference.refId)
    (hlegal : item.HasLegalStack) (h : inv.addItem p order item = some (inv', res)) :
    StacksLegal table inv' ↔ ¬SumVanishes inv item order := by
  rcases addItem_cases h with ⟨hmax, i, existing, hchosen, hi, hroom, h⟩ | ⟨hnone, h⟩
  · rw [addToStack_stacksLegal_iff hinv hi hroom htable hlegal h]
    constructor
    · rintro hsum ⟨-, i', existing', e, a, hi', hitem', he, ha, heq⟩
      obtain rfl : i = i' := by simpa [hchosen] using hi'
      obtain rfl : existing = existing' := by simpa [hi] using hitem'
      exact hsum e a he ha heq
    · intro hv e a he ha heq
      exact hv ⟨hmax, i, existing, e, a, hchosen, hi, he, ha, heq⟩
  · refine iff_of_true ?_ fun hv => ?_
    · have hadded := hinv.addToEmptySlot hlegal htable
      rwa [h] at hadded
    · obtain ⟨hmax, i, existing, e, a, hi, -⟩ := hv
      simp [hnone hmax] at hi

/-! ### Moves -/

/-- The move fills up the target stack with all that the source holds, because more was asked for than
is there, and keeps an empty stack.  From `2 ^ 15` on the amount becomes negative, and the move fails
instead. -/
def StackVanishes (inv : Inventory) (source target : Slot) (amount : UInt16) : Prop :=
  ∃ s t n m, inv.StackingMove source target s t ∧ s.typeData = .consumable n ∧
    t.typeData = .consumable m ∧ m.toNat + n.toNat = t.reference.maxStackSize.toNat ∧
    n < amount ∧ n.toNat < 2 ^ 15

/-- Filling up a stack of `m` by `room` from a stack of `n`: it only succeeds if the casts to signed
integers do no harm and the source holds enough. -/
theorem fill_sizes {s t s' t' : Item} {m n room : UInt16} {delta : Int16}
    (hm : t.typeData = .consumable m) (hn : s.typeData = .consumable n)
    (hfits : m.toNat + room.toNat < 2 ^ 16) (hroom : room ≠ 0)
    (ht' : t.changeStackSize p room.toInt16 = some (.ok t'))
    (hdelta : p.negI16 room.toInt16 = some delta)
    (hs' : s.changeStackSize p delta = some (.ok s')) :
    t' = { t with typeData := .consumable (m + room) } ∧
      s' = { s with typeData := .consumable (n - room) } ∧
      room.toNat < 2 ^ 15 ∧ room.toNat ≤ n.toNat := by
  obtain ⟨old, hold, rfl, hneg, -⟩ := Item.changeStackSize_ok ht'
  obtain rfl : m = old := by simpa [hm] using hold
  obtain ⟨old', hold', rfl, hneg', -⟩ := Item.changeStackSize_ok hs'
  obtain rfl : n = old' := by simpa [hn] using hold'
  obtain ⟨rfl, -⟩ := Profile.negI16_eq_some.1 hdelta
  have hpos : 0 < room.toNat := Nat.pos_of_ne_zero fun h => hroom (UInt16.toNat_inj.1 h)
  have hsize : UInt16.size = 2 ^ 16 := rfl
  have hsmall : room.toNat < 2 ^ 15 := by
    by_contra hbig
    -- the amount would be negative, and larger than what the target holds
    have hneg₁ : room.toInt16 < 0 := (toInt16_neg_iff room).2 (by omega)
    have hle := hneg hneg₁
    rw [unsignedAbs_of_neg hneg₁, UInt16.toUInt16_toInt16, UInt16.le_iff_toNat_le,
      UInt16.toNat_neg, hsize] at hle
    omega
  have hbits : (-room.toInt16).toUInt16 = -room := by simp
  have hneg₂ := neg_toInt16_neg hpos hsmall
  have hle := hneg' hneg₂
  rw [unsignedAbs_of_neg hneg₂, hbits, UInt16.neg_neg, UInt16.le_iff_toNat_le] at hle
  refine ⟨by rw [UInt16.toUInt16_toInt16], ?_, hsmall, hle⟩
  rw [hbits, ← UInt16.sub_eq_add_neg]

/-- Both stacks are legal after the target has been filled up, unless the source vanishes. -/
theorem fill_legal {source target : Slot} {amount : UInt16} {s t s' t' : Item} {delta : Int16}
    (hinv : StacksLegal table inv) (hsm : StackingMove inv source target s t)
    (hlt : t.reference.maxStackSize - t.stackSize < amount)
    (hzero : t.reference.maxStackSize - t.stackSize ≠ 0)
    (ht' : t.changeStackSize p (t.reference.maxStackSize - t.stackSize).toInt16 = some (.ok t'))
    (hdelta : p.negI16 (t.reference.maxStackSize - t.stackSize).toInt16 = some delta)
    (hs' : s.changeStackSize p delta = some (.ok s'))
    (hv : ¬StackVanishes inv source target amount) : t'.HasLegalStack ∧ s'.HasLegalStack := by
  obtain ⟨m, hm, -⟩ := Item.changeStackSize_ok ht'
  obtain ⟨n, hn, -⟩ := Item.changeStackSize_ok hs'
  obtain ⟨hone, hmax⟩ := (hinv target t hsm.target_item).2 m hm
  obtain ⟨-, hmax'⟩ := (hinv source s hsm.source_item).2 n hn
  have hsize : t.stackSize = m := by rw [Item.stackSize, hm]
  have hroom : (t.reference.maxStackSize - m).toNat =
      t.reference.maxStackSize.toNat - m.toNat := UInt16.toNat_sub_of_le _ _ hmax
  rw [hsize] at hlt hzero ht' hdelta
  rw [UInt16.le_iff_toNat_le] at hone hmax hmax'
  simp only [UInt16.toNat_one] at hone
  have hM := t.reference.maxStackSize.toNat_lt
  obtain ⟨rfl, rfl, hsmall, hle⟩ := fill_sizes hm hn (by omega) hzero ht' hdelta hs'
  -- the source is not used up, or else it would have vanished
  have hne : (t.reference.maxStackSize - m).toNat ≠ n.toNat := by
    intro heq
    refine hv ⟨s, t, n, m, hsm, hn, hm, by omega, ?_, by omega⟩
    rwa [UInt16.toNat_inj.1 heq] at hlt
  constructor
  · rw [Item.hasLegalStack_consumable, UInt16.toNat_add]
    omega
  · rw [Item.hasLegalStack_consumable, UInt16.toNat_sub_of_le _ _ (UInt16.le_iff_toNat_le.2 hle)]
    omega

/-- A move between different slots keeps the stacks legal, unless the source stack vanishes. -/
theorem MoveOutcome.stacksLegal {source target : Slot} {amount : UInt16}
    {res : Except MoveError UInt16} (h : MoveOutcome p inv source target amount inv' res)
    (hinv : StacksLegal table inv) (hpos : 1 ≤ amount)
    (hv : ¬StackVanishes inv source target amount) : StacksLegal table inv' := by
  cases h with
  | missing _ => exact hinv
  | moved s hs _ => exact ((hinv.clearSlot source).log _).setItem (hinv source s hs)
  | full _ _ _ _ => exact hinv
  | stacked s t t' hsm hle _ ht' =>
      obtain ⟨m, hm, rfl, -, -⟩ := Item.changeStackSize_ok ht'
      obtain ⟨htable, hlegal⟩ := hinv target t hsm.target_item
      obtain ⟨hone, hmax⟩ := hlegal m hm
      refine ((((hinv.clearSlot source).clearSlot target).log _).log _).setItem ⟨htable, ?_⟩
      rw [Item.hasLegalStack_consumable, UInt16.toUInt16_toInt16, UInt16.toNat_add]
      rw [Item.stackSize, hm, UInt16.le_iff_toNat_le, UInt16.toNat_sub_of_le _ _ hmax] at hle
      rw [UInt16.le_iff_toNat_le] at hone hmax hpos
      have hM := t.reference.maxStackSize.toNat_lt
      simp only [UInt16.toNat_one] at hone hpos
      omega
  | filled s t s' t' delta hsm hlt hzero _ ht' hdelta hs' =>
      obtain ⟨htable, -⟩ := hinv target t hsm.target_item
      obtain ⟨htable', -⟩ := hinv source s hsm.source_item
      obtain ⟨hlegal, hlegal'⟩ := fill_legal hinv hsm hlt hzero ht' hdelta hs' hv
      have hframe := congrArg Item.reference (Item.changeStackSize_frame ht')
      have hframe' := congrArg Item.reference (Item.changeStackSize_frame hs')
      have hcleared := (((hinv.clearSlot source).clearSlot target).log
        (.changeTypeData target t.typeData t'.typeData)).log
        (.changeTypeData source s.typeData s'.typeData)
      refine (AllItems.setItem hcleared ?_).setItem ?_
      · rw [hframe']
        exact ⟨htable', hlegal'⟩
      · rw [hframe]
        exact ⟨htable, hlegal⟩
  | swapped s t hs ht _ =>
      exact (AllItems.setItem (((hinv.clearSlot source).clearSlot target).log _)
        (hinv source s hs)).setItem (hinv target t ht)
  | lost s t e inv' _ _ hitems =>
      exact ((hinv.clearSlot source).clearSlot target).of_items_eq hitems

/-- A stack that vanishes leaves an empty one behind. -/
theorem moveItem_vanishes (p : Profile) {source target : Slot} {amount : UInt16}
    (hinv : StacksLegal table inv) (hv : StackVanishes inv source target amount) :
    ∃ inv' s n, inv.moveItem p source target amount = some (inv', .ok n) ∧
      inv'.items source = some s ∧ s.typeData = .consumable 0 := by
  obtain ⟨s, t, n, m, hsm, hn, hm, hsum, hlt, hsmall⟩ := hv
  obtain ⟨-, hmax⟩ := (hinv target t hsm.target_item).2 m hm
  obtain ⟨hone, -⟩ := (hinv source s hsm.source_item).2 n hn
  rw [UInt16.le_iff_toNat_le, UInt16.toNat_one] at hone
  have hM := t.reference.maxStackSize.toNat_lt
  have hroom : t.reference.maxStackSize - m = n := by
    rw [← UInt16.toNat_inj, UInt16.toNat_sub_of_le _ _ hmax]
    omega
  have hnzero : n ≠ 0 := by
    rintro rfl
    simp at hone
  have htarget : (inv.clearSlot source).items target = some t := by
    rw [clearSlot_items, Function.update_of_ne hsm.source_ne.symm, hsm.target_item]
  have hsub : p.subU16 t.reference.maxStackSize t.stackSize = some n := by
    rw [Profile.subU16_eq_some, Item.stackSize, hm]
    exact ⟨hroom.symm, Or.inl hmax⟩
  have hgrow : t.changeStackSize p n.toInt16 =
      some (.ok { t with typeData := .consumable (m + n) }) := by
    have hpos : ¬n.toInt16 < 0 := by
      rw [toInt16_neg_iff]
      omega
    simp only [Item.changeStackSize, hm, if_neg hpos, UInt16.toUInt16_toInt16]
    rw [Profile.addU16_eq_some.2 ⟨rfl, Or.inl (by omega)⟩]
    rfl
  have hneg : p.negI16 n.toInt16 = some (-n.toInt16) :=
    Profile.negI16_eq_some.2 ⟨rfl, Or.inl (toInt16_ne_minValue hsmall)⟩
  have hshrink : s.changeStackSize p (-n.toInt16) =
      some (.ok { s with typeData := .consumable 0 }) := by
    have hlt₀ := neg_toInt16_neg (by omega) hsmall
    have habs : unsignedAbs (-n.toInt16) = n := by
      rw [unsignedAbs_of_neg hlt₀]
      simp
    simp [Item.changeStackSize, hn, hlt₀, habs]
  refine ⟨(((((inv.clearSlot source).clearSlot target).log
      (.changeTypeData target t.typeData (.consumable (m + n)))).log
      (.changeTypeData source s.typeData (.consumable 0))).setItem source
        { s with typeData := .consumable 0 }).setItem target
        { t with typeData := .consumable (m + n) },
    { s with typeData := .consumable 0 }, n, ?_, ?_, rfl⟩
  · simp only [moveItem, hsm.source_item, htarget, if_pos (And.intro hsm.same_ref hsm.stackable),
      hsub, Option.bind_eq_bind, Option.bind_some, if_neg hnzero, if_neg (UInt16.not_le.2 hlt),
      hgrow, hneg, hshrink, Option.pure_def]
  · rw [setItem_items, Function.update_of_ne hsm.source_ne, setItem_items, Function.update_self]

/-! ### Runs -/

/-- One call of a run, whatever it returns. -/
def callStep (p : Profile) : Op → Inventory → Option Inventory
  | .add item order, inv => (inv.addItem p order item).map Prod.fst
  | .remove item order, inv => (inv.removeItem p order item).map Prod.fst
  | .move source target amount, inv => (inv.moveItem p source target amount).map Prod.fst

/-- The calls of a run: what is added is an item of the table with a legal stack, and a move is between
different slots, of at least one. -/
def Allowed (table : UInt32 → RefItemData) : Op → Prop
  | .add item _ => item.reference = table item.reference.refId ∧ item.HasLegalStack
  | .remove _ _ => True
  | .move source target amount => source ≠ target ∧ 1 ≤ amount

/-- The call does not go wrong. -/
def KeepsStacks (inv : Inventory) : Op → Prop
  | .add item order => ¬SumVanishes inv item order
  | .remove _ _ => True
  | .move source target amount => ¬StackVanishes inv source target amount

theorem callStep_stacksLegal_iff {op : Op} (hinv : StacksLegal table inv) (hop : Allowed table op)
    (h : callStep p op inv = some inv') : StacksLegal table inv' ↔ KeepsStacks inv op := by
  cases op with
  | add item order =>
      obtain ⟨⟨_, res⟩, hadd, rfl⟩ := Option.map_eq_some_iff.1 h
      exact addItem_stacksLegal_iff hinv hop.1 hop.2 hadd
  | remove item order =>
      obtain ⟨⟨_, res⟩, hremove, rfl⟩ := Option.map_eq_some_iff.1 h
      exact iff_of_true ((removeItem_outcome hremove).stacksLegal hinv) trivial
  | move source target amount =>
      obtain ⟨⟨inv'', res⟩, hmove, rfl⟩ := Option.map_eq_some_iff.1 h
      refine ⟨fun hlegal hv => ?_, (moveItem_outcome hmove).stacksLegal hinv hop.2⟩
      obtain ⟨inv₀, s, n, hmove', hs, hempty⟩ := moveItem_vanishes p hinv hv
      obtain ⟨rfl, -⟩ : inv₀ = inv'' ∧ .ok n = res := by simpa [hmove] using hmove'.symm
      have hone := ((hlegal source s hs).2 0 hempty).1
      simp at hone

/-- **The stacks of a run are legal iff none of its calls goes wrong**: throughout a run of additions,
removals and moves that starts with an empty inventory, every stack holds between one and as many as its
reference allows, and the room in a stack is never computed out of range, exactly when no move makes
its source vanish and no addition its sum. -/
theorem reached_stacksLegal_iff (p : Profile) (table : UInt32 → RefItemData) (size : ℕ)
    (hsize : 0xC < size) (ops : List Op) (hops : ∀ op ∈ ops, Allowed table op) :
    Reached (callStep p) (fun inv => StacksLegal table inv ∧ inv.NoUnderflow) ops
        (Inventory.new size hsize) ↔
      AllSteps (callStep p) KeepsStacks ops (Inventory.new size hsize) := by
  have hstart : StacksLegal table (Inventory.new size hsize) := fun _ _ h => by simp [new] at h
  refine reached_iff_allSteps (fun op hop s t hs hstep => ?_) ⟨hstart, hstart.noUnderflow⟩
  rw [← callStep_stacksLegal_iff hs.1 (hops op hop) hstep]
  exact ⟨fun h => h.1, fun h => ⟨h, h.noUnderflow⟩⟩

theorem hasLegalStack_potion {n : UInt16} (hpos : 1 ≤ n.toNat) (hle : n.toNat ≤ 50) :
    (potion n).HasLegalStack :=
  Item.hasLegalStack_consumable.2 ⟨hpos, hle⟩

/-- Potions are picked up on top of a stack, some are used, and the stack is moved. -/
theorem reached_stacksLegal_potions :
    Reached (callStep .release)
      (fun inv => StacksLegal (fun _ => (potion 1).reference) inv ∧ inv.NoUnderflow)
      [.add (potion 20) [], .add (potion 10) [13], .remove (potion 5) [13], .move 13 20 25]
      (Inventory.new 45 (by decide)) := by
  refine (reached_stacksLegal_iff .release (fun _ => (potion 1).reference) 45 (by decide) _ ?_).2 ?_
  · intro op hop
    simp only [List.mem_cons, List.not_mem_nil, or_false] at hop
    rcases hop with rfl | rfl | rfl | rfl
    · exact ⟨rfl, hasLegalStack_potion (by decide) (by decide)⟩
    · exact ⟨rfl, hasLegalStack_potion (by decide) (by decide)⟩
    · trivial
    · exact ⟨by decide, by decide⟩
  · intro t₁ h₁
    obtain rfl := Option.some_inj.1 h₁
    refine ⟨fun hv => ?_, fun t₂ h₂ => ?_⟩
    · obtain ⟨-, i, existing, e, a, hi, -⟩ := hv
      simp [stackWithRoom, findSlotsMatching] at hi
    obtain rfl := Option.some_inj.1 h₂
    refine ⟨fun hv => ?_, fun t₃ h₃ => ⟨trivial, fun t₄ h₄ => ⟨fun hv => ?_, trivial⟩⟩⟩
    · obtain ⟨-, i, existing, e, a, hi, hitem, he, ha, hsum⟩ := hv
      obtain rfl : 13 = i := Option.some_inj.1 hi
      obtain rfl : potion 20 = existing := Option.some_inj.1 hitem
      obtain rfl : 20 = e := by simpa [potion] using he
      obtain rfl : 10 = a := by simpa [potion] using ha
      simp at hsum
    · obtain rfl := Option.some_inj.1 h₃
      obtain ⟨s, t, n, m, hsm, -⟩ := hv
      have htarget : none = some t := hsm.target_item
      simp at htarget

/-- A stack of five is moved on top of one with room for five, and six are asked for: a stack of none
is left. -/
theorem filled_leaves_empty_stack :
    let ops : List Op := [.add (potion 45) [], .add (potion 10) [13], .remove (potion 5) [13, 14],
      .move 14 13 6]
    (∀ op ∈ ops, Allowed (fun _ => (potion 1).reference) op) ∧
    ∃ inv, runAll (callStep .debug) ops (Inventory.new 45 (by decide)) = some inv ∧
      inv.items 13 = some (potion 50) ∧ inv.items 14 = some (potion 0) ∧
      ¬StacksLegal (fun _ => (potion 1).reference) inv := by
  refine ⟨fun op hop => ?_, _, rfl, by decide, by decide, fun h => ?_⟩
  · simp only [List.mem_cons, List.not_mem_nil, or_false] at hop
    rcases hop with rfl | rfl | rfl | rfl
    · exact ⟨rfl, hasLegalStack_potion (by decide) (by decide)⟩
    · exact ⟨rfl, hasLegalStack_potion (by decide) (by decide)⟩
    · trivial
    · exact ⟨by decide, by decide⟩
  · have hone := ((h 14 (potion 0) (by decide)).2 0 rfl).1
    simp at hone

end Inventory

end Skrillax

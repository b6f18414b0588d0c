/-
**Items.**

An item is a reference into the item data together with its variance and the data that depends on its
kind: an upgrade level, a stack of consumables, an amount of gold.  References are compared by their
id only, as the source does.

Main definitions:

* `RefItemData`, `ItemTypeData`, `Item` — the data model;
* `Item.stackSize`, `Item.isMaxStacked`, `Item.changeStackSize` — stacks and their arithmetic.

Main results:

* `Item.changeStackSize_ok`, `Item.changeStackSize_error` — what a change of a stack does, and when
  it fails;
* `Item.changeStackSize_frame` — a change of the stack changes the type data only.
-/

import Skrillax.RustInt
import Skrillax.TypeId

set_option relaxedAutoImplicit false
set_option autoImplicit false

namespace Skrillax

open Rust

/-! ### The data model -/

/-- The columns shared by all the reference data; the text id, the origin and the despawn time are
not read by anything modelled here. -/
structure RefCommon where
  refId : UInt32
  typeId : TypeId
  deriving DecidableEq, Repr

/-- The reference data of an item; the prices and the combat values are not read by anything modelled
here. -/
structure RefItemData where
  common : RefCommon
  maxStackSize : UInt16
  requiredLevel : Option { level : UInt8 // level ≠ 0 }
  deriving DecidableEq, Repr

namespace RefItemData

def refId (ref : RefItemData) : UInt32 := ref.common.refId

/-- `PartialEq` for the reference data looks at the id only. -/
def eq (ref other : RefItemData) : Bool := ref.refId == other.refId

end RefItemData

inductive ItemTypeData where
  | equipment (upgradeLevel : UInt8)
  | cos
  | consumable (amount : UInt16)
  | gold (amount : UInt32)
  deriving DecidableEq, Repr

namespace ItemTypeData

def upgradeLevel : ItemTypeData → Option UInt8
  | equipment level => some level
  | _ => none

def amount : ItemTypeData → UInt32
  | consumable amount => amount.toUInt32
  | gold amount => amount
  | _ => 1

end ItemTypeData

structure Item where
  reference : RefItemData
  variance : Option UInt64
  typeData : ItemTypeData
  deriving DecidableEq, Repr

inductive MoveError where
  | itemDoesNotExist
  | notStackable
  | impossible
  deriving DecidableEq, Repr

/-! ### Stacks -/

namespace Item

def stackSize (item : Item) : UInt16 :=
  match item.typeData with
  | .consumable amount => amount
  | _ => 1

def isMaxStacked (item : Item) : Bool := item.reference.maxStackSize ≤ item.stackSize

/-- Change the size of a stack by a signed amount.  The outer `none` is a panic of the addition. -/
def changeStackSize (p : Profile) (item : Item) (amount : Int16) : Option (Except MoveError Item) :=
  match item.typeData with
  | .consumable oldAmount =>
      if amount < 0 then
        let toSubtract := unsignedAbs amount
        if oldAmount < toSubtract then some (.error .impossible)
        else some (.ok { item with typeData := .consumable (oldAmount - toSubtract) })
      else
        (p.addU16 oldAmount amount.toUInt16).map fun newAmount =>
          .ok { item with typeData := .consumable newAmount }
  | _ => some (.error .notStackable)

theorem isMaxStacked_iff {item : Item} :
    item.isMaxStacked = true ↔ item.reference.maxStackSize ≤ item.stackSize := by
  simp [isMaxStacked]

/-- A successful change of a stack adds the bits of the amount to a stack of consumables, keeps the
rest, and stays in range: it takes at most what the stack holds, and an addition does not overflow
in a debug build. -/
theorem changeStackSize_ok {p : Profile} {item item' : Item} {amount : Int16}
    (h : item.changeStackSize p amount = some (.ok item')) :
    ∃ old, item.typeData = .consumable old ∧
      item' = { item with typeData := .consumable (old + amount.toUInt16) } ∧
      (amount < 0 → unsignedAbs amount ≤ old) ∧
      (¬amount < 0 → old.toNat + amount.toUInt16.toNat < 2 ^ 16 ∨ p = .release) := by
  unfold changeStackSize at h
  cases hd : item.typeData with
  | consumable old =>
      simp only [hd] at h
      refine ⟨old, rfl, ?_⟩
      by_cases hneg : amount < 0
      · rw [if_pos hneg] at h
        by_cases hle : old < unsignedAbs amount
        · rw [if_pos hle] at h
          simp at h
        · rw [if_neg hle, sub_unsignedAbs hneg] at h
          simp only [Option.some.injEq, Except.ok.injEq] at h
          exact ⟨h.symm, fun _ => UInt16.not_lt.1 hle, fun hpos => absurd hneg hpos⟩
      · rw [if_neg hneg] at h
        obtain ⟨n, hn, h⟩ := Option.map_eq_some_iff.1 h
        obtain ⟨rfl, hrange⟩ := Profile.addU16_eq_some.1 hn
        simp only [Except.ok.injEq] at h
        exact ⟨h.symm, fun hn => absurd hn hneg, fun _ => hrange⟩
  | equipment | cos | gold => simp [hd] at h

/-- A change of a stack of consumables only fails when it would take more than the stack holds. -/
theorem changeStackSize_error {p : Profile} {item : Item} {amount : Int16} {e : MoveError}
    {old : UInt16} (hd : item.typeData = .consumable old)
    (h : item.changeStackSize p amount = some (.error e)) : amount < 0 ∧ old < unsignedAbs amount := by
  unfold changeStackSize at h
  simp only [hd] at h
  by_cases hneg : amount < 0
  · rw [if_pos hneg] at h
    by_cases hle : old < unsignedAbs amount
    · exact ⟨hneg, hle⟩
    · rw [if_neg hle] at h
      simp at h
  · rw [if_neg hneg] at h
    obtain ⟨n, -, h⟩ := Option.map_eq_some_iff.1 h
    simp at h

/-- A change of the stack changes the type data only. -/
theorem changeStackSize_frame {p : Profile} {item item' : Item} {amount : Int16}
    (h : item.changeStackSize p amount = some (.ok item')) :
    item' = { item with typeData := item'.typeData } := by
  obtain ⟨old, -, rfl, -, -⟩ := changeStackSize_ok h
  rfl

end Item

end Skrillax

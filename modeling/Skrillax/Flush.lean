/-
**Flushing the changes of an inventory while the client is connected.**

When a client disconnects, the optimised changes are applied one after the other; the periodic flush
of a connected client starts all of them at once and lets their statements run in any order.  The
statements of a change stay in order, and a statement that fails ends its change.

If no two changes of the batch share a slot and there is at most one swap among them (all the swaps
use the slot `-1` in between), the schedule does not matter: no statement fails, and the rows are those
of applying the changes one after the other (`flush_agrees`).  Two swaps are enough to break this
(`flush_two_swaps`): both may want the slot `-1` at the same time.

Main definitions:

* `applyChanges` — the threads of statements that a flush starts;
* `InventoryChange.NoConflict` — two changes that share no slot and are not both swaps;
* `InventoryChange.FindsRoom` — what a change wants to fill is not taken.

Main results:

* `InventoryChange.NoConflict.disjoint` — the statements of such changes touch different rows;
* `flush_agrees` — **a batch without conflicts may be flushed in any order**.
-/

import Skrillax.InventoryLog
import Skrillax.ItemRows

set_option relaxedAutoImplicit false
set_option autoImplicit false

namespace Skrillax

open PartialAction Relation

/-! ### The flush -/

/-- What `apply_changes` starts: one thread of statements for each of the optimised changes. -/
def applyChanges (characterId : UInt32) (changes : List InventoryChange) (rows : ItemTable) :
    Pool (Statement RowKey ItemRow) ItemTable where
  state := rows
  threads := (optimize changes).map (InventoryChange.statements characterId)
  failed := []

namespace InventoryChange

/-- Two changes that share no slot and do not both need the slot of the swaps. -/
def NoConflict (l r : InventoryChange) : Prop :=
  (∀ slot ∈ l.slots, slot ∉ r.slots) ∧ ¬(l.isSwap ∧ r.isSwap)

instance (l r : InventoryChange) : Decidable (NoConflict l r) :=
  have : Decidable (∀ slot ∈ l.slots, slot ∉ r.slots) := List.decidableBAll _ _
  inferInstanceAs (Decidable ((∀ slot ∈ l.slots, slot ∉ r.slots) ∧ ¬(l.isSwap ∧ r.isSwap)))

/-- A move finds no row at its target, and a swap none at the slot `-1`, unless there is nothing to
be put there. -/
def FindsRoom (characterId : UInt32) (rows : ItemTable) : InventoryChange → Prop
  | moveItem sourceSlot targetSlot =>
      sourceSlot = targetSlot ∨ rows (rowKey characterId sourceSlot) = none ∨
        rows (rowKey characterId targetSlot) = none
  | swap firstSlot _ =>
      rows (rowKey characterId firstSlot) = none ∨ rows (tempKey characterId) = none
  | _ => True

/-! ### Changes without a conflict -/

/-- The statements of changes without a conflict touch different rows. -/
theorem NoConflict.disjoint {l r : InventoryChange} (h : NoConflict l r) (characterId : UInt32) :
    Disjoint (l.rowKeys characterId) (r.rowKeys characterId) := by
  refine Set.disjoint_left.2 fun key hl hr => ?_
  rcases hl with ⟨slot, hslot, rfl⟩ | ⟨hswap, rfl⟩
  · rcases hr with ⟨slot', hslot', heq⟩ | ⟨-, heq⟩
    · obtain rfl := rowKey_inj.1 heq
      exact h.1 slot hslot hslot'
    · exact rowKey_ne_tempKey _ _ heq
  · rcases hr with ⟨slot', -, heq⟩ | ⟨hswap', -⟩
    · exact rowKey_ne_tempKey _ _ heq.symm
    · exact h.2 ⟨hswap, hswap'⟩

/-- On its own, a change succeeds if it finds room. -/
theorem FindsRoom.isSome {characterId : UInt32} {rows : ItemTable} {change : InventoryChange}
    (h : change.FindsRoom characterId rows) :
    (runAll Statement.exec (change.statements characterId) rows).isSome := by
  cases change with
  | addItem | changeTypeData | removeItem => rfl
  | moveItem sourceSlot targetSlot =>
      rw [statements, runAll_singleton]
      rcases h with rfl | hsource | htarget
      · cases hrow : rows (rowKey characterId sourceSlot) <;> simp [Statement.exec, hrow]
      · rw [Statement.exec_rekey_missing hsource]
        rfl
      · obtain ⟨rows', hexec, -⟩ :=
          Statement.exec_rekey_free (rowKey characterId sourceSlot) htarget
        rw [hexec]
        rfl
  | swap firstSlot secondSlot =>
      obtain ⟨rows₁, h₁, hfree₁⟩ : ∃ rows₁, Statement.exec
          (.rekey (rowKey characterId firstSlot) (tempKey characterId)) rows = some rows₁ ∧
          rows₁ (rowKey characterId firstSlot) = none := by
        rcases h with hfirst | htemp
        · exact ⟨rows, Statement.exec_rekey_missing hfirst, hfirst⟩
        · exact Statement.exec_rekey_free (rowKey characterId firstSlot) htemp
      -- from here on, each statement moves a row to the key that the one before has left
      obtain ⟨rows₂, h₂, hfree₂⟩ :=
        Statement.exec_rekey_free (rowKey characterId secondSlot) hfree₁
      obtain ⟨rows₃, h₃, -⟩ := Statement.exec_rekey_free (tempKey characterId) hfree₂
      rw [statements, runAll_cons, h₁, Option.bind_some, runAll_cons, h₂, Option.bind_some,
        runAll_singleton, h₃]
      rfl

end InventoryChange

/-! ### Flushing in any order -/

/-- The threads of a batch without conflicts commute. -/
theorem commuting_statements {characterId : UInt32} {changes : List InventoryChange}
    (h : changes.Pairwise InventoryChange.NoConflict) :
    Pool.Commuting Statement.exec (changes.map (InventoryChange.statements characterId)) := by
  refine List.pairwise_map.2 (h.imp fun {l r} hlr c hc d hd => ?_)
  have hdisj := hlr.disjoint characterId
  have hfc := InventoryChange.hasFootprint_of_mem_statements hc
  have hfd := InventoryChange.hasFootprint_of_mem_statements hd
  exact ⟨hfc.refines_swap hfd hdisj, hfd.refines_swap hfc hdisj.symm⟩

/-- A batch without conflicts succeeds if it is applied one change after the other. -/
theorem isSome_statements {characterId : UInt32} {changes : List InventoryChange}
    {rows : ItemTable} (h : changes.Pairwise InventoryChange.NoConflict)
    (hroom : ∀ change ∈ changes, change.FindsRoom characterId rows) :
    (runAll Statement.exec (changes.flatMap (InventoryChange.statements characterId))
      rows).isSome := by
  have hfoot : ∀ change ∈ changes, HasFootprint
      (runAll Statement.exec (change.statements characterId)) (change.rowKeys characterId) :=
    fun _ _ => HasFootprint.runAll fun _ hstmt =>
      InventoryChange.hasFootprint_of_mem_statements hstmt
  exact HasFootprint.isSome_flatMap hfoot (h.imp fun hlr => hlr.disjoint characterId)
    fun change hchange => (hroom change hchange).isSome

/-- **A batch without conflicts may be flushed in any order**: if the optimised changes pairwise share
no slot, at most one of them is a swap, and each finds room in the rows that the flush starts with,
then in every schedule no statement fails, the rows at its end are those of applying the changes one
after the other, and every schedule comes to its end. -/
theorem flush_agrees (characterId : UInt32) (changes : List InventoryChange) (rows : ItemTable)
    (hconflict : (optimize changes).Pairwise InventoryChange.NoConflict)
    (hroom : ∀ change ∈ optimize changes, change.FindsRoom characterId rows) :
    ∃ rows', applyChangesExit characterId changes rows = (rows', []) ∧
      ∀ pool, ReflTransGen (Pool.Step Statement.exec) (applyChanges characterId changes rows) pool →
        pool.failed = [] ∧ (pool.Finished → pool.state = rows') ∧
        ∃ last, ReflTransGen (Pool.Step Statement.exec) pool last ∧ last.Finished := by
  obtain ⟨rows', hrows'⟩ := Option.isSome_iff_exists.1 (isSome_statements hconflict hroom)
  refine ⟨rows', applyEach_eq_of_runAll hrows', fun pool hpool => ?_⟩
  have hstart : Pool.LeadsTo Statement.exec rows' (applyChanges characterId changes rows) :=
    ⟨rfl, commuting_statements hconflict, by rwa [List.flatMap_def] at hrows'⟩
  have hend := hstart.reached hpool
  exact ⟨hend.noFailure, hend.state_eq, hend.exists_finished⟩

/-- The rows of four stacks in the first slots of the bag, every other one of another kind. -/
def fourStacks : ItemTable :=
  Function.update (Function.update (Function.update (Function.update (fun _ => none)
    (rowKey 7 13) (some (ItemRow.ofItem (potion 5))))
    (rowKey 7 14) (some (ItemRow.ofItem (pill 6))))
    (rowKey 7 15) (some (ItemRow.ofItem (potion 7))))
    (rowKey 7 16) (some (ItemRow.ofItem (pill 8)))

/-- One swap, an addition and a removal may be flushed in any order. -/
theorem flush_agrees_one_swap :
    let batch : List InventoryChange := [.swap 13 14, .addItem 20 (potion 3), .removeItem 16]
    ∃ rows', applyChangesExit 7 batch fourStacks = (rows', []) ∧
      ∀ pool, ReflTransGen (Pool.Step Statement.exec) (applyChanges 7 batch fourStacks) pool →
        pool.failed = [] ∧ (pool.Finished → pool.state = rows') ∧
        ∃ last, ReflTransGen (Pool.Step Statement.exec) pool last ∧ last.Finished := by
  intro batch
  have hopt : optimize batch = batch := by decide
  refine flush_agrees 7 batch fourStacks ?_ ?_
  · rw [hopt]
    decide
  · rw [hopt]
    intro change hchange
    simp only [batch, List.mem_cons, List.not_mem_nil, or_false] at hchange
    rcases hchange with rfl | rfl | rfl
    · exact Or.inr rfl
    · trivial
    · trivial

/-- The player exchanges two pairs of stacks between two flushes.  Both exchanges want the slot `-1`,
and the second one to get there fails. -/
theorem flush_two_swaps :
    let stock : SlotMap := Function.update (Function.update (Function.update (Function.update
      (fun _ => none) 13 (some (potion 5))) 14 (some (pill 6))) 15 (some (potion 7))) 16
      (some (pill 8))
    Represents 7 fourStacks stock ∧
    ∃ inv, runAll (Inventory.logStep .debug) [.move 13 14 1, .move 15 16 1]
        ⟨45, stock, [], by decide⟩ = some inv ∧
      inv.changes = [.swap 13 14, .swap 15 16] ∧ optimize inv.changes = inv.changes ∧
      ∃ pool, ReflTransGen (Pool.Step Statement.exec) (applyChanges 7 inv.changes fourStacks) pool ∧
        pool.failed = [.rekey (rowKey 7 15) (tempKey 7)] := by
  intro stock
  refine ⟨((((Represents.empty 7).update 13 (some (potion 5))).update 14 (some (pill 6))).update 15
    (some (potion 7))).update 16 (some (pill 8)), _, rfl, by decide, by decide, ?_⟩
  exact ⟨_, .tail (.single (.run [] _ rfl)) (.fail [_] [] rfl), rfl⟩

end Skrillax

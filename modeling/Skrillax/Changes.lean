/-
**The change-log optimiser, and when it preserves the meaning of a log.**

A component that is persisted keeps a log of its changes.  Before the log is written to the database
it is shortened: `optimize` folds the changes one by one into an accumulator, and `mergeRecursive`
walks each new change backwards over the accumulator, asking `Change.merge` about every pair it
meets.  A pair is either left alone (`unchanged`, the walk goes on), left alone with a stop
(`incompatible`), replaced by one change (`merged`) or dropped (`cancelled`).

The walk moves changes past each other, and the merged change is put *behind* everything it has
skipped, so the changes it has skipped must commute with the change they are overtaken by.
`SafeFold` says that they do, at every merge of the whole run of the optimiser; under it the
optimised log has the meaning of the log (`MergeSound.optimize_refines`).  The contract that is
documented for `Change.merge` does not imply it: `Contract` speaks of adjacent pairs only, and
`optimize_diverges` is a change type that keeps the contract and whose optimised log means something
else.

Main definitions:

* `MergeResult`, `Change`, `mergeLoop`, `mergeRecursive`, `optimize` — the optimiser;
* `SafeLoop`, `SafeMerge`, `SafeFold` — no merge of the walk, of a step, of the run overtakes a
  change that it may not overtake;
* `MergeSound` — what a change type has to provide for the optimiser to be sound on safe logs;
* `Contract` — the documented contract of `Change.merge` for a total action.

Main results:

* `MergeSound.mergeLoop_refines`, `MergeSound.mergeRecursive_refines`,
  `MergeSound.optimize_refines` — **a safe log keeps its meaning**: for one walk, for one step and
  for the whole fold;
* `optimize_applyAll` — the same for a change type that keeps the documented contract.
-/

import Skrillax.PartialAction

set_option relaxedAutoImplicit false
set_option autoImplicit false

namespace Skrillax

open PartialAction

/-! ### The optimiser -/

/-- A result for trying to merge two changes together. -/
inductive MergeResult (T : Type*) where
  | unchanged (left right : T)
  | incompatible (left right : T)
  | merged (res : T)
  | cancelled
  deriving DecidableEq, Repr

/-- A single, atomic change. -/
class Change (T : Type*) where
  merge : T → T → MergeResult T

section Optimiser

variable {T : Type*} [Change T]

/-- The loop of `mergeRecursive`.  The first list is the to-do stack with its top first, the second
one the list of changes already looked at, front first: the candidate, then the changes that were
skipped, the latest first. -/
def mergeLoop : List T → List T → List T × List T
  | [], unchanged => ([], unchanged)
  -- only a cancellation leaves the second list empty: the item goes back and the walk ends
  | item :: toDo, [] => (toDo, [item])
  | item :: toDo, next :: unchanged =>
      match Change.merge item next with
      | .unchanged left right => mergeLoop toDo (right :: (unchanged ++ [left]))
      | .incompatible left right => (toDo, right :: (unchanged ++ [left]))
      | .merged res => mergeLoop toDo (res :: unchanged)
      | .cancelled => mergeLoop toDo unchanged

/-- Walk `new` backwards over `items`, merging as much as possible. -/
def mergeRecursive (items : List T) (new : T) : List T :=
  let (toDo, unchanged) := mergeLoop items.reverse [new]
  toDo.reverse ++ unchanged.reverse

/-- `Vec::optimize`: merge the changes into each other, one after the other. -/
def optimize (changes : List T) : List T :=
  if changes.length ≤ 1 then changes else changes.foldl mergeRecursive []

/-! ### Safe runs -/

variable (good : T → T → Prop) (indep : T → List T → Prop)

/-- No merge of the loop goes wrong.  Whenever `item` is merged with (or cancelled against) `next`,
the pair is one that `Change.merge` treats correctly, and the changes skipped between the two split
into a later part that `next` (and the result) may pass and an earlier part that `item` may pass. -/
def SafeLoop : List T → List T → Prop
  | [], _ => True
  | _ :: _, [] => True
  | item :: toDo, next :: unchanged =>
      match Change.merge item next with
      | .unchanged left right => SafeLoop toDo (right :: (unchanged ++ [left]))
      | .incompatible _ _ => True
      | .merged res =>
          good item next ∧
            (∃ k ≤ unchanged.length, indep item (unchanged.drop k).reverse ∧
              indep next (unchanged.take k).reverse ∧ indep res (unchanged.take k).reverse) ∧
            SafeLoop toDo (res :: unchanged)
      | .cancelled =>
          good item next ∧
            (∃ k ≤ unchanged.length, indep item (unchanged.drop k).reverse ∧
              indep next (unchanged.take k).reverse) ∧
            SafeLoop toDo unchanged

/-- Walking `new` over `items` is safe. -/
def SafeMerge (items : List T) (new : T) : Prop := SafeLoop good indep items.reverse [new]

/-- Folding the remaining changes into the accumulator is safe at every step. -/
def SafeFold : List T → List T → Prop
  | _, [] => True
  | acc, c :: cs => SafeMerge good indep acc c ∧ SafeFold (mergeRecursive acc c) cs

/-- Whether a walk is safe can be computed, by walking along. -/
instance decidableSafeLoop [∀ l r, Decidable (good l r)] [∀ c xs, Decidable (indep c xs)] :
    ∀ toDo unchanged : List T, Decidable (SafeLoop good indep toDo unchanged)
  | [], _ => .isTrue trivial
  | _ :: _, [] => .isTrue trivial
  | item :: toDo, next :: unchanged =>
      match h : Change.merge item next with
      | .unchanged left right =>
          have := decidableSafeLoop toDo (right :: (unchanged ++ [left]))
          decidable_of_iff (SafeLoop good indep toDo (right :: (unchanged ++ [left])))
            (by simp only [SafeLoop, h])
      | .incompatible _ _ => .isTrue (by simp only [SafeLoop, h])
      | .merged res =>
          have := decidableSafeLoop toDo (res :: unchanged)
          decidable_of_iff (good item next ∧
            (∃ k ≤ unchanged.length, indep item (unchanged.drop k).reverse ∧
              indep next (unchanged.take k).reverse ∧ indep res (unchanged.take k).reverse) ∧
            SafeLoop good indep toDo (res :: unchanged)) (by simp only [SafeLoop, h])
      | .cancelled =>
          have := decidableSafeLoop toDo unchanged
          decidable_of_iff (good item next ∧
            (∃ k ≤ unchanged.length, indep item (unchanged.drop k).reverse ∧
              indep next (unchanged.take k).reverse) ∧
            SafeLoop good indep toDo unchanged) (by simp only [SafeLoop, h])

instance [∀ l r, Decidable (good l r)] [∀ c xs, Decidable (indep c xs)] (items : List T) (new : T) :
    Decidable (SafeMerge good indep items new) :=
  decidableSafeLoop good indep items.reverse [new]

instance decidableSafeFold [∀ l r, Decidable (good l r)] [∀ c xs, Decidable (indep c xs)] :
    ∀ acc changes : List T, Decidable (SafeFold good indep acc changes)
  | _, [] => .isTrue trivial
  | acc, c :: cs =>
      have := decidableSafeFold (mergeRecursive acc c) cs
      inferInstanceAs (Decidable (SafeMerge good indep acc c ∧
        SafeFold good indep (mergeRecursive acc c) cs))

end Optimiser

/-! ### A safe log keeps its meaning -/

/-- What a change type has to provide for the optimiser to be sound on safe logs: pairs that are left
alone come back as they were, good pairs are merged and cancelled correctly, and a change passes the
lists it is independent of. -/
structure MergeSound {T S : Type*} [Change T] (act : T → S → Option S) (good : T → T → Prop)
    (indep : T → List T → Prop) : Prop where
  unchanged_args : ∀ {l r l' r' : T}, Change.merge l r = .unchanged l' r' → l' = l ∧ r' = r
  incompatible_args : ∀ {l r l' r' : T}, Change.merge l r = .incompatible l' r' → l' = l ∧ r' = r
  merged : ∀ {l r m : T}, good l r → Change.merge l r = .merged m → Refines act [l, r] [m]
  cancelled : ∀ {l r : T}, good l r → Change.merge l r = .cancelled → Refines act [l, r] []
  passes : ∀ {c : T} {xs : List T}, indep c xs → Passes act c xs

namespace MergeSound

variable {T S : Type*} [Change T] {act : T → S → Option S} {good : T → T → Prop}
  {indep : T → List T → Prop}

/-- One walk: what the two stacks of the loop stand for is refined by what the loop leaves. -/
theorem mergeLoop_refines (hs : MergeSound act good indep) :
    ∀ (toDo unchanged : List T), SafeLoop good indep toDo unchanged →
      Refines act (toDo.reverse ++ unchanged.reverse)
        ((mergeLoop toDo unchanged).1.reverse ++ (mergeLoop toDo unchanged).2.reverse) := by
  intro toDo
  induction toDo with
  | nil => intro unchanged _; exact Refines.refl _
  | cons item toDo ih =>
      intro unchanged hsafe
      match unchanged with
      | [] =>
          simp only [mergeLoop, List.reverse_cons, List.reverse_nil, List.nil_append,
            List.append_nil]
          exact Refines.refl _
      | next :: unchanged =>
          -- the log that the two stacks stand for, with the skipped changes in the middle
          have hlog : (item :: toDo).reverse ++ (next :: unchanged).reverse =
              toDo.reverse ++ (item :: unchanged.reverse ++ [next]) := by simp
          rw [hlog]
          cases hm : Change.merge item next with
          | unchanged left right =>
              obtain ⟨rfl, rfl⟩ := hs.unchanged_args hm
              simp only [SafeLoop, mergeLoop, hm] at hsafe ⊢
              simpa using ih _ hsafe
          | incompatible left right =>
              obtain ⟨rfl, rfl⟩ := hs.incompatible_args hm
              simp only [mergeLoop, hm, List.reverse_cons, List.reverse_append]
              exact Refines.refl _
          | merged res =>
              simp only [SafeLoop, mergeLoop, hm] at hsafe ⊢
              obtain ⟨hgood, ⟨k, -, hitem, hnext, hres⟩, hrest⟩ := hsafe
              have hsplit : unchanged.reverse =
                  (unchanged.drop k).reverse ++ (unchanged.take k).reverse := by
                rw [← List.reverse_append, List.take_append_drop]
              have hstep := Refines.merge_across (hs.merged hgood hm) (hs.passes hitem)
                (hs.passes hnext) (hs.passes hres)
              rw [← hsplit] at hstep
              refine (hstep.append_left toDo.reverse).trans ?_
              simpa using ih _ hrest
          | cancelled =>
              simp only [SafeLoop, mergeLoop, hm] at hsafe ⊢
              obtain ⟨hgood, ⟨k, -, hitem, hnext⟩, hrest⟩ := hsafe
              have hsplit : unchanged.reverse =
                  (unchanged.drop k).reverse ++ (unchanged.take k).reverse := by
                rw [← List.reverse_append, List.take_append_drop]
              have hstep := Refines.cancel_across (hs.cancelled hgood hm) (hs.passes hitem)
                (hs.passes hnext)
              rw [← hsplit] at hstep
              exact (hstep.append_left toDo.reverse).trans (ih _ hrest)

/-- One step of the fold: the new accumulator refines the old one followed by the new change. -/
theorem mergeRecursive_refines (hs : MergeSound act good indep) {items : List T} {new : T}
    (hsafe : SafeMerge good indep items new) :
    Refines act (items ++ [new]) (mergeRecursive items new) := by
  have h := hs.mergeLoop_refines items.reverse [new] hsafe
  rwa [List.reverse_reverse, List.reverse_singleton] at h

theorem foldl_mergeRecursive_refines (hs : MergeSound act good indep) :
    ∀ (changes acc : List T), SafeFold good indep acc changes →
      Refines act (acc ++ changes) (changes.foldl mergeRecursive acc) := by
  intro changes
  induction changes with
  | nil => intro acc _; rw [List.append_nil]; exact Refines.refl _
  | cons c cs ih =>
      rintro acc ⟨hstep, hrest⟩
      have h₁ : Refines act (acc ++ [c] ++ cs) (mergeRecursive acc c ++ cs) :=
        (hs.mergeRecursive_refines hstep).append_right cs
      rw [List.append_assoc, List.singleton_append] at h₁
      exact h₁.trans (ih _ hrest)

/-- **A safe log keeps its meaning**: the optimised log is defined wherever the log is, and has the
same result there. -/
theorem optimize_refines (hs : MergeSound act good indep) {changes : List T}
    (hsafe : SafeFold good indep [] changes) : Refines act changes (optimize changes) := by
  unfold optimize
  split
  · exact Refines.refl _
  · exact hs.foldl_mergeRecursive_refines changes [] hsafe

end MergeSound

/-! ### The documented contract -/

section Contract

variable {T S : Type*}

/-- Apply a list of changes, from left to right. -/
def applyAll (act : T → S → S) (changes : List T) (s : S) : S :=
  changes.foldl (fun t c => act c t) s

/-- The documented contract of `Change.merge`: an unchanged pair commutes, a merged change has the
effect of the pair, and a cancelled pair has none. -/
structure Contract [Change T] (act : T → S → S) : Prop where
  unchanged : ∀ {l r l' r' : T}, Change.merge l r = .unchanged l' r' →
    l' = l ∧ r' = r ∧ ∀ s, act r (act l s) = act l (act r s)
  incompatible : ∀ {l r l' r' : T}, Change.merge l r = .incompatible l' r' → l' = l ∧ r' = r
  merged : ∀ {l r m : T}, Change.merge l r = .merged m → ∀ s, act m s = act r (act l s)
  cancelled : ∀ {l r : T}, Change.merge l r = .cancelled → ∀ s, act r (act l s) = s

/-- The change commutes with what the list does as a whole. -/
def CommutesWith (act : T → S → S) (c : T) (xs : List T) : Prop :=
  ∀ s, applyAll act xs (act c s) = act c (applyAll act xs s)

/-- For a total action, refinement is equality of the effects. -/
theorem refines_total {act : T → S → S} {xs ys : List T} :
    Refines (fun c s => some (act c s)) xs ys ↔ ∀ s, applyAll act ys s = applyAll act xs s := by
  constructor
  · intro h s
    have := h s _ (runAll_total act xs s)
    rw [runAll_total] at this
    exact Option.some_inj.1 this
  · intro h s t ht
    rw [runAll_total] at ht ⊢
    rw [← ht]
    exact congrArg some (h s)

/-- A change type that keeps the contract is sound with every pair good, and independence being
commutation. -/
theorem Contract.mergeSound [Change T] {act : T → S → S} (h : Contract act) :
    MergeSound (fun c s => some (act c s)) (fun _ _ => True) (CommutesWith act) where
  unchanged_args hm := ⟨(h.unchanged hm).1, (h.unchanged hm).2.1⟩
  incompatible_args hm := h.incompatible hm
  merged _ hm := refines_total.2 fun s => h.merged hm s
  cancelled _ hm := refines_total.2 fun s => (h.cancelled hm s).symm
  passes {c xs} hc := by
    have hfront : ∀ s, applyAll act (c :: xs) s = applyAll act xs (act c s) := fun _ => rfl
    have hend : ∀ s, applyAll act (xs ++ [c]) s = act c (applyAll act xs s) := by
      intro s
      simp [applyAll, List.foldl_append]
    constructor
    · refine refines_total.2 fun s => ?_
      rw [hend, hfront, hc s]
    · refine refines_total.2 fun s => ?_
      rw [hend, hfront, hc s]

/-- **The optimiser is sound on safe logs**: for every change type that keeps the documented
contract, if at every merge of the run the changes skipped between the two merged ones commute with
the one that overtakes them, then the optimised log has the effect of the log. -/
theorem optimize_applyAll [Change T] (act : T → S → S) (hc : Contract act) (changes : List T)
    (hsafe : SafeFold (fun _ _ => True) (CommutesWith act) [] changes) (s : S) :
    applyAll act (optimize changes) s = applyAll act changes s :=
  refines_total.1 (hc.mergeSound.optimize_refines hsafe) s

end Contract

/-! ### The contract alone is not enough -/

/-- A counter that can be reset to zero, incremented, and touched without effect. -/
inductive CounterChange where
  | reset
  | increment
  | touch
  deriving DecidableEq, Repr

namespace CounterChange

/-- The effect on the counter. -/
def act : CounterChange → ℕ → ℕ
  | reset, _ => 0
  | increment, n => n + 1
  | touch, n => n

instance : Change CounterChange where
  merge
    | touch, r => .unchanged touch r
    | increment, touch => .unchanged increment touch
    | reset, touch => .merged reset
    | l, r => .incompatible l r

theorem contract : Contract act where
  unchanged {l r l' r'} h := by
    cases l <;> cases r <;>
      simp only [Change.merge, reduceCtorEq, MergeResult.unchanged.injEq] at h <;>
      obtain ⟨rfl, rfl⟩ := h <;> exact ⟨rfl, rfl, fun _ => rfl⟩
  incompatible {l r l' r'} h := by
    cases l <;> cases r <;>
      simp only [Change.merge, reduceCtorEq, MergeResult.incompatible.injEq] at h <;>
      obtain ⟨rfl, rfl⟩ := h <;> exact ⟨rfl, rfl⟩
  merged {l r m} h := by
    cases l <;> cases r <;> simp only [Change.merge, reduceCtorEq, MergeResult.merged.injEq] at h
    subst h
    intro s
    rfl
  cancelled {l r} h := by cases l <;> cases r <;> simp [Change.merge] at h

end CounterChange

/-- A log in which the touch follows its reset directly is safe. -/
theorem optimize_applyAll_counter :
    SafeFold (fun _ _ => True) (CommutesWith CounterChange.act) [] [.increment, .reset, .touch] ∧
      applyAll CounterChange.act (optimize [CounterChange.increment, .reset, .touch]) 4 =
        applyAll CounterChange.act [.increment, .reset, .touch] 4 := by
  have hsafe : SafeFold (fun _ _ => True) (CommutesWith CounterChange.act) []
      [.increment, .reset, .touch] := by
    refine ⟨trivial, trivial, ⟨trivial, ⟨0, Nat.le_refl _, fun _ => rfl, fun _ => rfl, fun _ => rfl⟩,
      trivial⟩, trivial⟩
  exact ⟨hsafe, optimize_applyAll CounterChange.act CounterChange.contract _ hsafe 4⟩

/-- The touch is merged into the reset past the increment, and the reset lands behind the increment:
the contract holds, yet the optimised log leaves `0` where the log leaves `1`. -/
theorem optimize_diverges :
    Contract CounterChange.act ∧
      applyAll CounterChange.act [.reset, .increment, .touch] 0 = 1 ∧
      optimize [CounterChange.reset, .increment, .touch] = [.increment, .reset] ∧
      applyAll CounterChange.act (optimize [CounterChange.reset, .increment, .touch]) 0 = 0 :=
  ⟨CounterChange.contract, by decide, by decide, by decide⟩

end Skrillax

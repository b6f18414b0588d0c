/-
**Identifiers that are handed out, mapped to their owners, and reclaimed.**

Owners get identifiers from a set of free ones.  A map, which lags behind, leads from an identifier to its
owner.  Owners disappear without giving anything back; their identifiers are reclaimed later, through the
entries of the map that lead to an owner that is gone.  What makes this sound is that an entry of a gone
owner keeps its identifier from being handed out again.

Main definitions:

* `Ledger` — who holds which identifier, which owners are live and known, the map and the free identifiers;
* `Ledger.Sound` — an identifier has one holder, is not free while it is held or mapped, and is mapped to its
  holder or to an owner that is gone;
* `Ledger.Circulates` — an identifier is free, held, or waits in the map to be reclaimed.

Main results, one for each thing that can happen:

* `Ledger.Sound.take` — a free identifier is handed out;
* `Ledger.Sound.settle` — holders become live;
* `Ledger.Sound.drop` — an owner disappears;
* `Ledger.Sound.collect` — live owners are entered into the map;
* `Ledger.Sound.reclaim` — entries of owners that are gone are removed, and their identifiers freed;
* `Ledger.Sound.circulates_drop_iff` — the identifiers of an owner that disappears are lost unless they are
  mapped to it; nothing else changes what is in circulation (`Ledger.circulates_take_iff` and others).
-/

import Mathlib.Data.Set.Insert

set_option relaxedAutoImplicit false
set_option autoImplicit false

/-- Who holds what.  A holder need not be live yet, nor does an owner that is known need to hold anything. -/
structure Ledger (Owner Id : Type*) where
  held : Owner → Id → Prop
  live : Owner → Id → Prop
  known : Owner → Prop
  idMap : Id → Option Owner
  free : Set Id

namespace Ledger

variable {Owner Id : Type*} {L L' : Ledger Owner Id}

structure Sound (L : Ledger Owner Id) : Prop where
  held_of_live : ∀ {o i}, L.live o i → L.held o i
  known_of_live : ∀ {o i}, L.live o i → L.known o
  unique : ∀ {o o' i}, L.held o i → L.held o' i → o = o'
  notFree_of_held : ∀ {o i}, L.held o i → i ∉ L.free
  notFree_of_mapped : ∀ {o i}, L.idMap i = some o → i ∉ L.free
  mapped : ∀ {o i}, L.idMap i = some o → L.live o i ∨ (¬ L.known o ∧ ∀ o', ¬ L.held o' i)

/-- No entry of the map leads to this owner. -/
def Unmapped (L : Ledger Owner Id) (o : Owner) : Prop := ∀ i, L.idMap i ≠ some o

namespace Sound

/-- A free identifier is handed out, to an owner that may be new. -/
theorem take (h : L.Sound) {o : Owner} {i : Id} (hi : i ∈ L.free)
    (hheld : ∀ {o' i'}, L'.held o' i' ↔ L.held o' i' ∨ (o' = o ∧ i' = i))
    (hlive : ∀ {o' i'}, L'.live o' i' ↔ L.live o' i')
    (hknown : ∀ {o'}, L.known o' → L'.known o')
    (hnew : ∀ {o'}, L'.known o' → L.known o' ∨ L.Unmapped o')
    (hmap : L'.idMap = L.idMap) (hfree : L'.free = L.free \ {i}) : L'.Sound where
  held_of_live hl := hheld.2 (Or.inl (h.held_of_live (hlive.1 hl)))
  known_of_live hl := hknown (h.known_of_live (hlive.1 hl))
  unique {a b j} ha hb := by
    rcases hheld.1 ha with ha | ⟨rfl, rfl⟩ <;> rcases hheld.1 hb with hb | ⟨rfl, hj⟩
    · exact h.unique ha hb
    · exact absurd hi (hj ▸ h.notFree_of_held ha)
    · exact absurd hi (h.notFree_of_held hb)
    · rfl
  notFree_of_held {a j} ha := by
    rw [hfree]
    rcases hheld.1 ha with ha | ⟨-, rfl⟩
    · exact fun hj => h.notFree_of_held ha hj.1
    · exact fun hj => hj.2 rfl
  notFree_of_mapped {a j} ha := by
    rw [hfree]
    exact fun hj => h.notFree_of_mapped (hmap ▸ ha) hj.1
  mapped {a j} ha := by
    rw [hmap] at ha
    rcases h.mapped ha with hl | ⟨hgone, hnone⟩
    · exact Or.inl (hlive.2 hl)
    · refine Or.inr ⟨fun hk => (hnew hk).elim hgone fun hun => hun j ha, fun b hb => ?_⟩
      rcases hheld.1 hb with hb | ⟨-, rfl⟩
      · exact hnone b hb
      · exact h.notFree_of_mapped ha hi

/-- Holders become live, and may be forgotten; the identifiers stay with whom they are. -/
theorem settle (h : L.Sound) (hheld : ∀ {o i}, L'.held o i → L.held o i)
    (hlive : ∀ {o i}, L.live o i → L'.live o i) (hlive' : ∀ {o i}, L'.live o i → L'.held o i ∧ L'.known o)
    (hnew : ∀ {o}, L'.known o → L.known o ∨ L.Unmapped o)
    (hmap : L'.idMap = L.idMap) (hfree : L'.free = L.free) : L'.Sound where
  held_of_live hl := (hlive' hl).1
  known_of_live hl := (hlive' hl).2
  unique ha hb := h.unique (hheld ha) (hheld hb)
  notFree_of_held ha := hfree ▸ h.notFree_of_held (hheld ha)
  notFree_of_mapped ha := hfree ▸ h.notFree_of_mapped (hmap ▸ ha)
  mapped {a j} ha := by
    rw [hmap] at ha
    rcases h.mapped ha with hl | ⟨hgone, hnone⟩
    · exact Or.inl (hlive hl)
    · exact Or.inr ⟨fun hk => (hnew hk).elim hgone fun hun => hun j ha, fun b hb => hnone b (hheld hb)⟩

/-- An owner disappears, with the identifiers for which it was live. -/
theorem drop (h : L.Sound) {o : Owner} (hheld : ∀ {o' i}, L'.held o' i → L.held o' i ∧ ¬ L.live o i)
    (hlive : ∀ {o' i}, L'.live o' i ↔ L.live o' i ∧ o' ≠ o)
    (hlive' : ∀ {o' i}, L'.live o' i → L'.held o' i ∧ L'.known o')
    (hknown : ∀ {o'}, L'.known o' → L.known o' ∧ o' ≠ o)
    (hmap : L'.idMap = L.idMap) (hfree : L'.free = L.free) : L'.Sound where
  held_of_live hl := (hlive' hl).1
  known_of_live hl := (hlive' hl).2
  unique ha hb := h.unique (hheld ha).1 (hheld hb).1
  notFree_of_held ha := hfree ▸ h.notFree_of_held (hheld ha).1
  notFree_of_mapped ha := hfree ▸ h.notFree_of_mapped (hmap ▸ ha)
  mapped {a j} ha := by
    rw [hmap] at ha
    rcases h.mapped ha with hl | ⟨hgone, hnone⟩
    · by_cases heq : a = o
      · subst heq
        exact Or.inr ⟨fun hk => (hknown hk).2 rfl, fun b hb => (hheld hb).2 hl⟩
      · exact Or.inl (hlive.2 ⟨hl, heq⟩)
    · exact Or.inr ⟨fun hk => hgone (hknown hk).1, fun b hb => hnone b (hheld hb).1⟩

/-- Live owners are entered into the map. -/
theorem collect (h : L.Sound) (hheld : ∀ {o i}, L'.held o i ↔ L.held o i)
    (hlive : ∀ {o i}, L'.live o i ↔ L.live o i) (hknown : ∀ {o}, L'.known o ↔ L.known o)
    (hmap : ∀ {o i}, L'.idMap i = some o → L.idMap i = some o ∨ L.live o i)
    (hfree : L'.free = L.free) : L'.Sound where
  held_of_live hl := hheld.2 (h.held_of_live (hlive.1 hl))
  known_of_live hl := hknown.2 (h.known_of_live (hlive.1 hl))
  unique ha hb := h.unique (hheld.1 ha) (hheld.1 hb)
  notFree_of_held ha := hfree ▸ h.notFree_of_held (hheld.1 ha)
  notFree_of_mapped ha := by
    rw [hfree]
    exact (hmap ha).elim h.notFree_of_mapped fun hl => h.notFree_of_held (h.held_of_live hl)
  mapped ha := by
    rcases hmap ha with ha | hl
    · rcases h.mapped ha with hl | ⟨hgone, hnone⟩
      · exact Or.inl (hlive.2 hl)
      · exact Or.inr ⟨fun hk => hgone (hknown.1 hk), fun b hb => hnone b (hheld.1 hb)⟩
    · exact Or.inl (hlive.2 hl)

/-- The entries of owners that are gone are removed, and their identifiers are free again. -/
theorem reclaim (h : L.Sound) (hheld : ∀ {o i}, L'.held o i ↔ L.held o i)
    (hlive : ∀ {o i}, L'.live o i ↔ L.live o i) (hknown : ∀ {o}, L'.known o ↔ L.known o)
    (hmap : ∀ {o i}, L'.idMap i = some o ↔ L.idMap i = some o ∧ L.known o)
    (hfree : ∀ {i}, i ∈ L'.free → i ∈ L.free ∨ ∃ o, L.idMap i = some o ∧ ¬ L.known o) : L'.Sound where
  held_of_live hl := hheld.2 (h.held_of_live (hlive.1 hl))
  known_of_live hl := hknown.2 (h.known_of_live (hlive.1 hl))
  unique ha hb := h.unique (hheld.1 ha) (hheld.1 hb)
  notFree_of_held {a i} ha hi := by
    rcases hfree hi with hi | ⟨o, hmapped, hgone⟩
    · exact h.notFree_of_held (hheld.1 ha) hi
    · rcases h.mapped hmapped with hl | ⟨-, hnone⟩
      · exact hgone (h.known_of_live hl)
      · exact hnone a (hheld.1 ha)
  notFree_of_mapped {a i} ha hi := by
    obtain ⟨hmapped, hknown'⟩ := hmap.1 ha
    rcases hfree hi with hi | ⟨o, hother, hgone⟩
    · exact h.notFree_of_mapped hmapped hi
    · exact hgone (Option.some_inj.1 (hmapped.symm.trans hother) ▸ hknown')
  mapped ha := by
    obtain ⟨hmapped, hknown'⟩ := hmap.1 ha
    rcases h.mapped hmapped with hl | ⟨hgone, -⟩
    · exact Or.inl (hlive.2 hl)
    · exact absurd hknown' hgone

end Sound

/-! ### What is in circulation -/

def Circulates (L : Ledger Owner Id) (i : Id) : Prop := i ∈ L.free ∨ (∃ o, L.held o i) ∨ ∃ o, L.idMap i = some o

theorem circulates_take_iff {o : Owner} {i j : Id} (hi : i ∈ L.free)
    (hheld : ∀ {o'}, L'.held o' j ↔ L.held o' j ∨ (o' = o ∧ j = i)) (hmap : L'.idMap = L.idMap)
    (hfree : L'.free = L.free \ {i}) : L'.Circulates j ↔ L.Circulates j := by
  unfold Circulates
  rw [hmap, hfree]
  by_cases heq : j = i
  · subst heq
    exact iff_of_true (.inr (.inl ⟨o, hheld.2 (.inr ⟨rfl, rfl⟩)⟩)) (.inl hi)
  · simp [hheld, heq]

/-- The identifiers stay with whom they are, or change hands. -/
theorem circulates_congr {i : Id} (hheld : (∃ o, L'.held o i) ↔ ∃ o, L.held o i) (hmap : L'.idMap = L.idMap)
    (hfree : L'.free = L.free) : L'.Circulates i ↔ L.Circulates i := by
  rw [Circulates, Circulates, hheld, hmap, hfree]

theorem circulates_collect_iff {i : Id} (hheld : ∀ {o}, L'.held o i ↔ L.held o i)
    (hmap : ∀ {o}, L'.idMap i = some o → L.idMap i = some o ∨ L.held o i)
    (hkeeps : (L.idMap i).isSome = true → (L'.idMap i).isSome = true) (hfree : L'.free = L.free) :
    L'.Circulates i ↔ L.Circulates i := by
  unfold Circulates
  simp only [hfree, hheld]
  constructor
  · rintro (hi | hi | ⟨o, ho⟩)
    · exact .inl hi
    · exact .inr (.inl hi)
    · exact (hmap ho).elim (fun ho => .inr (.inr ⟨o, ho⟩)) fun ho => .inr (.inl ⟨o, ho⟩)
  · rintro (hi | hi | ⟨o, ho⟩)
    · exact .inl hi
    · exact .inr (.inl hi)
    · exact .inr (.inr (Option.isSome_iff_exists.1 (hkeeps (Option.isSome_of_eq_some ho))))

theorem circulates_reclaim_iff {i : Id} (hheld : ∀ {o}, L'.held o i ↔ L.held o i)
    (hmap : ∀ {o}, L'.idMap i = some o ↔ L.idMap i = some o ∧ L.known o)
    (hfree : i ∈ L'.free ↔ i ∈ L.free ∨ ∃ o, L.idMap i = some o ∧ ¬ L.known o) :
    L'.Circulates i ↔ L.Circulates i := by
  unfold Circulates
  simp only [hfree, hheld, hmap]
  constructor
  · rintro ((hi | ⟨o, ho, -⟩) | hi | ⟨o, ho, -⟩)
    · exact .inl hi
    · exact .inr (.inr ⟨o, ho⟩)
    · exact .inr (.inl hi)
    · exact .inr (.inr ⟨o, ho⟩)
  · rintro (hi | hi | ⟨o, ho⟩)
    · exact .inl (.inl hi)
    · exact .inr (.inl hi)
    · by_cases hknown : L.known o
      · exact .inr (.inr ⟨o, ho, hknown⟩)
      · exact .inl (.inr ⟨o, ho, hknown⟩)

/-- **What an owner that disappears takes with it**: the identifiers for which the map does not lead to it. -/
theorem Sound.circulates_drop_iff (h : L.Sound) {o : Owner} {i : Id}
    (hheld : ∀ {o'}, L'.held o' i ↔ L.held o' i ∧ ¬ L.live o i) (hmap : L'.idMap = L.idMap) (hfree : L'.free = L.free) :
    L'.Circulates i ↔ L.Circulates i ∧ (L.live o i → L.idMap i = some o) := by
  unfold Circulates
  simp only [hmap, hfree, hheld]
  constructor
  · rintro (hi | ⟨o', ho', hnot⟩ | ⟨o', ho'⟩)
    · exact ⟨.inl hi, fun hlive => absurd hi (h.notFree_of_held (h.held_of_live hlive))⟩
    · exact ⟨.inr (.inl ⟨o', ho'⟩), fun hlive => absurd hlive hnot⟩
    · refine ⟨.inr (.inr ⟨o', ho'⟩), fun hlive => ?_⟩
      rcases h.mapped ho' with hlive' | ⟨-, hnone⟩
      · rw [ho', h.unique (h.held_of_live hlive') (h.held_of_live hlive)]
      · exact absurd (h.held_of_live hlive) (hnone o)
  · rintro ⟨hi | ⟨o', ho'⟩ | hi, hmapped⟩
    · exact .inl hi
    · by_cases hlive : L.live o i
      · exact .inr (.inr ⟨o, hmapped hlive⟩)
      · exact .inr (.inl ⟨o', ho', hlive⟩)
    · exact .inr (.inr hi)

end Ledger

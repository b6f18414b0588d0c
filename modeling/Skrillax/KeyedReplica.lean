/-
**Replicas that know keys only.**

A primary keeps a set of items and a replica the set of their keys.  When the set of items changes, the
replica is told keys to add, and then keys to drop.  Keys may be used again, for another item, so that the
replica cannot tell an item that is gone from one that has come: with the additions first, a key that is
added and dropped at once is lost.

Main definitions:

* `KeyedReplica.update` — what a replica makes of an update.

Main results:

* `KeyedReplica.update_subset` — a replica never has keys of which there is no item;
* `KeyedReplica.update_eq_iff` — **the replica has the keys of the items after an update exactly if it
  was told all that came, and nothing that came has the key of anything that went**.
-/

import Mathlib

set_option relaxedAutoImplicit false
set_option autoImplicit false

namespace KeyedReplica

variable {α κ : Type*} {key : α → κ} {before after told : Set α}

/-- The keys are added first, and then dropped. -/
def update (keys added dropped : Set κ) : Set κ := (keys ∪ added) \ dropped

/-- The replica never has a key of which there is no item. -/
theorem update_subset (htold : told ⊆ after) :
    update (key '' before) (key '' told) (key '' (before \ after)) ⊆ key '' after := by
  rintro k ⟨⟨a, ha, rfl⟩ | ⟨a, ha, rfl⟩, hdropped⟩
  · by_contra hafter
    exact hdropped ⟨a, ⟨ha, fun h => hafter ⟨a, h, rfl⟩⟩, rfl⟩
  · exact ⟨a, htold ha, rfl⟩

/-- An update by difference is right exactly if all that came was told, and with keys of its own. -/
theorem update_eq_iff (hbefore : Set.InjOn key before) (hafter : Set.InjOn key after)
    (htold : told ⊆ after \ before) :
    update (key '' before) (key '' told) (key '' (before \ after)) = key '' after ↔
      after \ before ⊆ told ∧ Disjoint (key '' (after \ before)) (key '' (before \ after)) := by
  constructor
  · intro h
    have hmem (a : α) (ha : a ∈ after) : key a ∈ update (key '' before) (key '' told)
        (key '' (before \ after)) := h ▸ Set.mem_image_of_mem key ha
    have hdisjoint : Disjoint (key '' (after \ before)) (key '' (before \ after)) := by
      rw [Set.disjoint_left]
      rintro k ⟨a, ⟨ha, -⟩, rfl⟩
      exact (hmem a ha).2
    refine ⟨fun a ha => ?_, hdisjoint⟩
    rcases (hmem a ha.1).1 with ⟨b, hb, hkey⟩ | ⟨b, hb, hkey⟩
    · -- the key was there for another item, which is still there
      have hb' : b ∈ after := by
        by_contra hgone
        exact Set.disjoint_left.1 hdisjoint ⟨a, ha, hkey.symm⟩ ⟨b, ⟨hb, hgone⟩, rfl⟩
      rw [hafter hb' ha.1 hkey] at hb
      exact absurd hb ha.2
    · rw [hafter (htold hb).1 ha.1 hkey] at hb
      exact hb
  · rintro ⟨hall, hdisjoint⟩
    refine (update_subset fun a ha => (htold ha).1).antisymm ?_
    rintro k ⟨a, ha, rfl⟩
    by_cases hold : a ∈ before
    · refine ⟨Or.inl ⟨a, hold, rfl⟩, ?_⟩
      rintro ⟨b, ⟨hb, hgone⟩, hkey⟩
      rw [hbefore hb hold hkey] at hgone
      exact hgone ha
    · exact ⟨Or.inr ⟨a, hall ⟨ha, hold⟩, rfl⟩, Set.disjoint_left.1 hdisjoint ⟨a, ⟨ha, hold⟩, rfl⟩⟩

end KeyedReplica

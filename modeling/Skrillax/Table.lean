/-
**Tables with a unique key.**

A table stores at most one row under each key.  Four kinds of statements work on it: an insertion that
replaces the row it conflicts with, an update of the columns outside the key, an update of the key
itself, and a deletion.  Each statement is atomic; an update of the key fails, and changes nothing,
if another row is stored under the new key.  As in SQL, a statement that finds no row under its key
succeeds without doing anything.

Main definitions:

* `Table`, `Statement`, `Statement.exec` — tables and the effect of a statement, `none` standing for a
  violation of the unique key;
* `Statement.keys` — the keys that a statement touches.

Main results:

* `Statement.exec_rekey`, `Statement.exec_rekey_missing` — what an update of the key does;
* `Statement.runAll_exchange` — exchanging two rows over a free key;
* `Statement.hasFootprint` — a statement reads and writes its own keys only.
-/

import Skrillax.Footprint

set_option relaxedAutoImplicit false
set_option autoImplicit false

/-- The row that is stored under each key. -/
abbrev Table (K V : Type*) := K → Option V

inductive Statement (K V : Type*) where
  /-- `INSERT … ON CONFLICT (key) DO UPDATE` of all the other columns. -/
  | upsert (key : K) (row : V)
  /-- `UPDATE … WHERE key` of columns outside the key. -/
  | update (key : K) (change : V → V)
  /-- `UPDATE … WHERE key` of the key. -/
  | rekey (key newKey : K)
  /-- `DELETE … WHERE key`. -/
  | delete (key : K)

namespace Statement

open PartialAction

variable {K V : Type*} [DecidableEq K]

def exec : Statement K V → Table K V → Option (Table K V)
  | upsert key row, table => some (Function.update table key (some row))
  | update key change, table => some (Function.update table key ((table key).map change))
  | rekey key newKey, table =>
      match table key with
      | none => some table
      | some row =>
          if key ≠ newKey ∧ (table newKey).isSome then none
          else some (Function.update (Function.update table key none) newKey (some row))
  | delete key, table => some (Function.update table key none)

def keys : Statement K V → List K
  | upsert key _ => [key]
  | update key _ => [key]
  | rekey key newKey => [key, newKey]
  | delete key => [key]

/-- A row moves to a free key. -/
theorem exec_rekey {table : Table K V} {key newKey : K} {row : V} (hrow : table key = some row)
    (hfree : table newKey = none) :
    exec (rekey key newKey) table =
      some (Function.update (Function.update table key none) newKey (some row)) := by
  simp [exec, hrow, hfree]

theorem exec_rekey_missing {table : Table K V} {key newKey : K} (hrow : table key = none) :
    exec (rekey key newKey) table = some table := by
  simp [exec, hrow]

/-- An update to a free key succeeds and leaves the old key free. -/
theorem exec_rekey_free {table : Table K V} (key : K) {newKey : K} (hfree : table newKey = none) :
    ∃ table', exec (rekey key newKey) table = some table' ∧ table' key = none := by
  cases hrow : table key with
  | none => exact ⟨table, exec_rekey_missing hrow, hrow⟩
  | some row =>
      have hne : key ≠ newKey := by
        rintro rfl
        simp [hfree] at hrow
      refine ⟨_, exec_rekey hrow hfree, ?_⟩
      rw [Function.update_of_ne hne, Function.update_self]

/-- Everything that a successful update of the key can do. -/
theorem exec_rekey_eq_some {table table' : Table K V} {key newKey : K}
    (h : exec (rekey key newKey) table = some table') :
    (table key = none ∧ table' = table) ∨
    (∃ row, table key = some row ∧ (key = newKey ∨ table newKey = none) ∧
      table' = Function.update (Function.update table key none) newKey (some row)) := by
  cases hrow : table key with
  | none =>
      rw [exec_rekey_missing hrow, Option.some_inj] at h
      exact Or.inl ⟨rfl, h.symm⟩
  | some row =>
      simp only [exec, hrow] at h
      split at h
      · simp at h
      · rename_i hfree
        rw [Option.some_inj] at h
        refine Or.inr ⟨row, rfl, ?_, h.symm⟩
        by_cases hkey : key = newKey
        · exact Or.inl hkey
        · right
          simpa [hkey] using hfree

/-- Three updates of the key, over a key that is free, exchange two rows. -/
theorem runAll_exchange {table : Table K V} {fst snd temp : K} {a b : V} (hfst : fst ≠ temp)
    (hsnd : snd ≠ temp) (htemp : table temp = none) (ha : table fst = some a)
    (hb : table snd = some b) :
    runAll exec [rekey fst temp, rekey snd fst, rekey temp snd] table =
      some (Function.update (Function.update table fst (some b)) snd (some a)) := by
  rw [runAll_cons, exec_rekey ha htemp, Option.bind_some, runAll_cons]
  by_cases heq : fst = snd
  · -- the second statement finds no row
    subst heq
    obtain rfl : a = b := by simpa [ha] using hb
    have hgone : Function.update (Function.update table fst none) temp (some a) fst = none := by
      rw [Function.update_of_ne hfst, Function.update_self]
    have hheld : Function.update (Function.update table fst none) temp (some a) temp = some a :=
      Function.update_self ..
    rw [exec_rekey_missing hgone, Option.bind_some, runAll_singleton, exec_rekey hheld hgone]
    congr 1
    funext k
    grind [Function.update_apply]
  · have hother : Function.update (Function.update table fst none) temp (some a) snd = some b := by
      rw [Function.update_of_ne hsnd, Function.update_of_ne (Ne.symm heq), hb]
    have hgone : Function.update (Function.update table fst none) temp (some a) fst = none := by
      rw [Function.update_of_ne hfst, Function.update_self]
    rw [exec_rekey hother hgone, Option.bind_some, runAll_singleton]
    have hheld : Function.update (Function.update (Function.update (Function.update table fst none)
        temp (some a)) snd none) fst (some b) temp = some a := by
      rw [Function.update_of_ne hfst.symm, Function.update_of_ne hsnd.symm, Function.update_self]
    have hfree : Function.update (Function.update (Function.update (Function.update table fst none)
        temp (some a)) snd none) fst (some b) snd = none := by
      rw [Function.update_of_ne (Ne.symm heq), Function.update_self]
    rw [exec_rekey hheld hfree]
    congr 1
    funext k
    grind [Function.update_apply]

/-- Replacing the row of a key by something computed from it touches that key only. -/
theorem hasFootprint_write (key : K) (f : Option V → Option V) :
    HasFootprint (fun table : Table K V => some (Function.update table key (f (table key))))
      {k | k ∈ [key]} := by
  constructor
  · intro t u h k hk
    obtain rfl := Option.some_inj.1 h
    exact Function.update_of_ne (by simpa using hk) _ _
  · intro t t' u ht h
    obtain rfl := Option.some_inj.1 h
    refine ⟨_, rfl, fun k hk => ?_⟩
    obtain rfl : k = key := by simpa using hk
    rw [Function.update_self, Function.update_self, ht k hk]

/-- A statement reads and writes its own keys only. -/
theorem hasFootprint (stmt : Statement K V) : HasFootprint stmt.exec {key | key ∈ stmt.keys} := by
  cases stmt with
  | upsert key row => exact hasFootprint_write key fun _ => some row
  | update key change => exact hasFootprint_write key (Option.map change)
  | delete key => exact hasFootprint_write key fun _ => none
  | rekey key newKey =>
      constructor
      · intro t u h k hk
        obtain ⟨hne, hne'⟩ : k ≠ key ∧ k ≠ newKey := by simpa [keys] using hk
        rcases exec_rekey_eq_some h with ⟨-, rfl⟩ | ⟨row, -, -, rfl⟩
        · rfl
        · rw [Function.update_of_ne hne', Function.update_of_ne hne]
      · intro t t' u ht h
        have hkey : t key = t' key := ht key (by simp [keys])
        have hnew : t newKey = t' newKey := ht newKey (by simp [keys])
        rcases exec_rekey_eq_some h with ⟨hrow, rfl⟩ | ⟨row, hrow, hfree, rfl⟩
        · exact ⟨t', exec_rekey_missing (hkey ▸ hrow), fun k hk => (ht k hk).symm⟩
        · refine ⟨Function.update (Function.update t' key none) newKey (some row), ?_, ?_⟩
          · rcases hfree with rfl | hfree
            · simp [exec, ← hkey, hrow]
            · exact exec_rekey (hkey ▸ hrow) (hnew ▸ hfree)
          · intro k hk
            by_cases hk' : k = newKey
            · rw [hk', Function.update_self, Function.update_self]
            · obtain rfl : k = key := by simpa [keys, hk'] using hk
              rw [Function.update_of_ne hk', Function.update_of_ne hk', Function.update_self,
                Function.update_self]

end Statement

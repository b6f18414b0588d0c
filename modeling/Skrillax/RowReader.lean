/-
**Readers of rows of columns.**

A row is a list of columns of one type, and the entries in it take as many columns as their kind has
fields.  A reader of one kind takes a fixed number of columns, or decides on the columns themselves how
many it takes; it may fail.  The entries of a row are read one after the other, until what is left of the
row does not begin with an entry.

Main definitions:

* `RowReader` — the readers of one entry, which never give more columns back than they were given;
* `RowReader.fields`, `RowReader.fieldsOrFail`, `RowReader.nothing` — a fixed number of columns;
* `RowReader.Reads` — a reader takes exactly the given columns, and returns the given entry;
* `EntryReader` — one entry of a row, or the end of the entries;
* `EntryReader.all` — the entries of a row.

Main results:

* `RowReader.reads_fields`, `RowReader.reads_fieldsOrFail` — a row of the right width is read by its fields;
* `EntryReader.all_flatMap` — the entries that are written one after the other are read in that order.
-/

import Mathlib

set_option relaxedAutoImplicit false
set_option autoImplicit false

variable {α β : Type}

/-- What is left of the row, and the entry; `none` where the reader fails. -/
structure RowReader (α β : Type) where
  run : List α → Option (List α × β)
  length_le : ∀ {row rest : List α} {b : β}, run row = some (rest, b) → rest.length ≤ row.length

namespace RowReader

/-- The reader takes the columns, and returns the entry. -/
def Reads (r : RowReader α β) (columns : List α) (b : β) : Prop :=
  ∀ rest, r.run (columns ++ rest) = some (rest, b)

/-! ### A fixed number of columns -/

/-- The first `n` columns, and the rest; a row that is too short cannot be split. -/
def splitAt (n : ℕ) (row : List α) : Option (Vector α n × List α) :=
  if h : n ≤ row.length then some (⟨(row.take n).toArray, by simpa using h⟩, row.drop n) else none

theorem splitAt_append {n : ℕ} {columns : List α} (h : columns.length = n) (rest : List α) :
    splitAt n (columns ++ rest) = some (⟨columns.toArray, by simpa using h⟩, rest) := by
  have hle : n ≤ (columns ++ rest).length := by simp [h]
  rw [splitAt, dif_pos hle]
  subst h
  simp

theorem length_of_splitAt {n : ℕ} {row rest : List α} {v : Vector α n}
    (h : splitAt n row = some (v, rest)) : row.length = n + rest.length := by
  unfold splitAt at h
  split at h
  · next hle =>
    cases h
    simp only [List.length_drop]
    omega
  · cases h

theorem splitAt_eq_some_iff {n : ℕ} {row rest : List α} {v : Vector α n} :
    splitAt n row = some (v, rest) ↔ row = v.toList ++ rest := by
  constructor
  · intro h
    unfold splitAt at h
    split at h
    · cases h
      exact (List.take_append_drop n row).symm
    · cases h
  · rintro rfl
    rw [splitAt_append v.length_toList]
    rfl

/-- The entry without fields. -/
def nothing (b : β) : RowReader α β where
  run row := some (row, b)
  length_le h := by
    cases h
    exact le_rfl

/-- The entry that is made of the first `n` columns, unless they make none. -/
def fieldsOrFail (n : ℕ) (make : Vector α n → Option β) : RowReader α β where
  run row := (splitAt n row).bind fun split => (make split.1).map fun b => (split.2, b)
  length_le {row rest b} h := by
    obtain ⟨⟨v, left⟩, hsplit, hmake⟩ := Option.bind_eq_some_iff.mp h
    obtain ⟨b', -, hb⟩ := Option.map_eq_some_iff.mp hmake
    obtain rfl : left = rest := congrArg Prod.fst hb
    rw [length_of_splitAt hsplit]
    exact Nat.le_add_left _ _

/-- The entry that is made of the first `n` columns. -/
def fields (n : ℕ) (make : Vector α n → β) : RowReader α β :=
  fieldsOrFail n fun v => some (make v)

theorem fieldsOrFail_run_eq_some_iff {n : ℕ} {make : Vector α n → Option β} {row rest : List α} {b : β} :
    (fieldsOrFail n make).run row = some (rest, b) ↔ ∃ v, row = v.toList ++ rest ∧ make v = some b := by
  constructor
  · intro h
    obtain ⟨⟨v, left⟩, hsplit, hmake⟩ := Option.bind_eq_some_iff.mp h
    obtain ⟨b', hb', heq⟩ := Option.map_eq_some_iff.mp hmake
    obtain ⟨rfl, rfl⟩ := Prod.mk.inj heq
    exact ⟨v, splitAt_eq_some_iff.mp hsplit, hb'⟩
  · rintro ⟨v, hrow, hmake⟩
    have hsplit := splitAt_eq_some_iff.mpr hrow
    simp only [fieldsOrFail, hsplit, Option.bind_some, hmake, Option.map_some]

/-- An entry without fields is one of no columns. -/
theorem nothing_eq_fieldsOrFail (b : β) :
    (nothing b : RowReader α β) = fieldsOrFail 0 fun _ => some b := by
  unfold nothing fieldsOrFail
  congr 1

theorem reads_nothing (b : β) : (nothing b : RowReader α β).Reads [] b := fun _ => rfl

theorem reads_fieldsOrFail {n : ℕ} {make : Vector α n → Option β} {columns : List α} {b : β}
    (hlen : columns.length = n) (h : make ⟨columns.toArray, by simpa using hlen⟩ = some b) :
    (fieldsOrFail n make).Reads columns b := by
  intro rest
  simp only [fieldsOrFail, splitAt_append hlen, Option.bind_some, h, Option.map_some]

theorem reads_fields {n : ℕ} {make : Vector α n → β} {columns : List α} {b : β}
    (hlen : columns.length = n) (h : make ⟨columns.toArray, by simpa using hlen⟩ = b) :
    (fields n make).Reads columns b :=
  reads_fieldsOrFail hlen (congrArg some h)

end RowReader

/-! ### The entries of a row -/

/-- What is left of the row, and its first entry, or `none` where the row does not begin with one; the outer
`none` where reading it fails.  An entry takes a column at least. -/
structure EntryReader (α β : Type) where
  next : List α → Option (Option (List α × β))
  length_lt : ∀ {row rest : List α} {b : β},
    next row = some (some (rest, b)) → rest.length < row.length

namespace EntryReader

variable {r : EntryReader α β}

/-- The entries of the row, up to the end of them. -/
def all (r : EntryReader α β) (row : List α) : Option (List β) :=
  match h : r.next row with
  | none => none
  | some none => some []
  | some (some (rest, b)) =>
      have : rest.length < row.length := r.length_lt h
      (r.all rest).map (b :: ·)
termination_by row.length

theorem all_eq (row : List α) : r.all row =
    match r.next row with
    | none => none
    | some none => some []
    | some (some (rest, b)) => (r.all rest).map (b :: ·) := by
  rw [all]
  split <;> simp_all

theorem all_of_end {row : List α} (h : r.next row = some none) : r.all row = some [] := by
  rw [all_eq, h]

theorem all_of_next {row rest : List α} {b : β} (h : r.next row = some (some (rest, b))) :
    r.all row = (r.all rest).map (b :: ·) := by
  rw [all_eq, h]

theorem all_eq_nil_iff {row : List α} : r.all row = some [] ↔ r.next row = some none := by
  refine ⟨fun hall => ?_, all_of_end⟩
  rcases h : r.next row with _ | _ | ⟨rest, b⟩
  · rw [all_eq, h] at hall
    cases hall
  · rfl
  · rw [all_of_next h] at hall
    simp at hall

/-- Some entries can only be told from what follows them where that is `Separate`; the columns of an entry
are, and `image` is the entry that is read in the place of the one that was written. -/
theorem all_flatMap {Separate : List α → Prop} {columns : β → List α} {image : β → β}
    (entries : List β) {tail : List α} (htail : Separate tail)
    (hsep : ∀ b ∈ entries, ∀ rest, Separate (columns b ++ rest))
    (hnext : ∀ b ∈ entries, ∀ rest, Separate rest →
      r.next (columns b ++ rest) = some (some (rest, image b))) :
    r.all (entries.flatMap columns ++ tail) = (r.all tail).map (entries.map image ++ ·) := by
  have key : Separate (entries.flatMap columns ++ tail) ∧
      r.all (entries.flatMap columns ++ tail) = (r.all tail).map (entries.map image ++ ·) := by
    induction entries with
    | nil => simp [htail]
    | cons b entries ih =>
        obtain ⟨hrest, hall⟩ := ih (fun b hb => hsep b (List.mem_cons_of_mem _ hb))
          (fun b hb => hnext b (List.mem_cons_of_mem _ hb))
        rw [List.flatMap_cons, List.append_assoc]
        refine ⟨hsep b List.mem_cons_self _, ?_⟩
        rw [all_of_next (hnext b List.mem_cons_self _ hrest), hall, Option.map_map]
        rfl
  exact key.2

end EntryReader

/-
**Learned skills, and their rows.**

The skill book of a player maps skill groups to levels and logs every skill that is learned.  The log
is collected, optimised and written to the table `character_skills` from time to time, the entries of
a batch in any order.  A batch has at most one entry for a group, because the walk of the optimiser
merges an entry into every earlier one of its group, and so the order does not matter: what is stored
and what is still to be stored always add up to the skill book (`SkillPersistence.Consistent`).

Main definitions:

* `SkillBook`, `LearnedSkill` — the skill book and its changes;
* `SkillTable`, `LearnedSkill.apply` — the rows, by group and character, and the statement of a
  change;
* `SkillPersistence`, `skillStep` — a skill book with what is collected and what is stored, and what
  can happen to it.

Main results:

* `LearnedSkill.nodup_optimize` — a batch has at most one entry for a group;
* `LearnedSkill.optimize_refines`, `LearnedSkill.refines_of_perm` — a batch does what the log does, in
  any order;
* `skills_persisted` — **after a final flush, the rows are those of the skill book**.
-/

import Skrillax.Changes
import Skrillax.Table

set_option relaxedAutoImplicit false
set_option autoImplicit false

namespace Skrillax

open PartialAction

/-! ### The skill book -/

/-- The reference data of a skill; only what is learned of it is kept here. -/
structure RefSkillData where
  group : UInt32
  level : UInt8
  deriving DecidableEq, Repr

structure LearnedSkill where
  group : UInt32
  level : UInt8
  deriving DecidableEq, Repr

/-- A later level of the same group replaces the earlier one. -/
def LearnedSkill.merge (self other : LearnedSkill) : MergeResult LearnedSkill :=
  if other.group = self.group then .merged other else .unchanged self other

instance : Change LearnedSkill := ⟨LearnedSkill.merge⟩

abbrev SkillMap := UInt32 → Option UInt8

/-- `HashMap::insert`. -/
def SkillMap.insert (skills : SkillMap) (entry : UInt32 × UInt8) : SkillMap :=
  Function.update skills entry.1 (some entry.2)

structure SkillBook where
  skills : SkillMap
  newSkills : List (UInt32 × UInt8)

namespace SkillBook

/-- `SkillBook::new`: the entries are collected into a hash map. -/
def new (skills : List (UInt32 × UInt8)) : SkillBook where
  skills := skills.foldl SkillMap.insert fun _ => none
  newSkills := []

def learnSkill (book : SkillBook) (skill : RefSkillData) : SkillBook where
  skills := book.skills.insert (skill.group, skill.level)
  newSkills := book.newSkills ++ [(skill.group, skill.level)]

/-- `ChangeTracked::changes`: the log, which is emptied. -/
def changes (book : SkillBook) : List LearnedSkill × SkillBook :=
  (book.newSkills.map fun s => ⟨s.1, s.2⟩, { book with newSkills := [] })

end SkillBook

/-! ### Rows -/

/-- The levels in `character_skills`, by skill group and character. -/
abbrev SkillTable := Table (Int32 × Int32) Int16

def levelColumn (level : UInt8) : Int16 := level.toUInt16.toInt16

/-- The statement of `ApplyToDatabase::apply`. -/
def LearnedSkill.statement (characterId : UInt32) (skill : LearnedSkill) :
    Statement (Int32 × Int32) Int16 :=
  .upsert (skill.group.toInt32, characterId.toInt32) (levelColumn skill.level)

def LearnedSkill.apply (characterId : UInt32) (skill : LearnedSkill) :
    SkillTable → Option SkillTable :=
  (skill.statement characterId).exec

/-- The rows of the character are those of the skill map. -/
def StoredSkills (characterId : UInt32) (rows : SkillTable) (skills : SkillMap) : Prop :=
  ∀ group : UInt32, rows (group.toInt32, characterId.toInt32) = (skills group).map levelColumn

/-- What a query for the skills of a character may return: its rows, in any order. -/
def SelectedSkills (characterId : UInt32) (rows : SkillTable) (selected : List (Int32 × Int16)) :
    Prop :=
  ∀ group level, (group, level) ∈ selected ↔ rows (group, characterId.toInt32) = some level

/-- The skill book that is built from the selected rows. -/
def loadSkills (selected : List (Int32 × Int16)) : SkillBook :=
  SkillBook.new (selected.map fun row => (row.1.toUInt32, row.2.toUInt16.toUInt8))

theorem toInt32_injective : Function.Injective UInt32.toInt32 := by
  intro a b h
  simpa using congrArg Int32.toUInt32 h

/-- Storing a skill. -/
theorem StoredSkills.apply {characterId : UInt32} {rows rows' : SkillTable} {skills : SkillMap}
    (h : StoredSkills characterId rows skills) {skill : LearnedSkill}
    (happly : skill.apply characterId rows = some rows') :
    StoredSkills characterId rows' (skills.insert (skill.group, skill.level)) := by
  intro group
  obtain rfl := Option.some_inj.1 happly
  unfold SkillMap.insert
  by_cases heq : group = skill.group
  · rw [heq, Function.update_self, Function.update_self]
    rfl
  · have hne : (group.toInt32, characterId.toInt32) ≠
        (skill.group.toInt32, characterId.toInt32) :=
      fun hkey => heq (toInt32_injective (Prod.mk.inj hkey).1)
    rw [Function.update_of_ne heq, Function.update_of_ne hne, h group]

/-- Collecting entries of a map into a hash map, on top of what is there already. -/
theorem SkillMap.foldl_insert {skills : SkillMap} :
    ∀ (entries : List (UInt32 × UInt8)) (book : SkillMap),
      (∀ entry ∈ entries, skills entry.1 = some entry.2) → ∀ group : UInt32,
      entries.foldl SkillMap.insert book group =
        if group ∈ entries.map Prod.fst then skills group else book group := by
  intro entries
  induction entries with
  | nil =>
      intro book _ group
      simp
  | cons entry entries ih =>
      intro book h group
      rw [List.foldl_cons, ih _ (fun e he => h e (List.mem_cons_of_mem _ he))]
      by_cases heq : group = entry.1
      · subst heq
        simp [SkillMap.insert, h entry List.mem_cons_self]
      · have hmem : group ∈ (entry :: entries).map Prod.fst ↔ group ∈ entries.map Prod.fst := by
          simp [heq]
        simp only [hmem, SkillMap.insert, Function.update_of_ne heq]

/-- The skills stored are loaded again. -/
theorem loadSkills_stored {characterId : UInt32} {rows : SkillTable} {skills : SkillMap}
    {selected : List (Int32 × Int16)} (hrows : StoredSkills characterId rows skills)
    (hsel : SelectedSkills characterId rows selected) :
    loadSkills selected = ⟨skills, []⟩ := by
  have hlevel : ∀ level : UInt8, (levelColumn level).toUInt16.toUInt8 = level := fun level => by
    simp [levelColumn]
  have hentries : ∀ entry ∈ selected.map fun row => (row.1.toUInt32, row.2.toUInt16.toUInt8),
      skills entry.1 = some entry.2 := by
    intro entry hentry
    obtain ⟨row, hrow, rfl⟩ := List.mem_map.1 hentry
    have hstored := hrows row.1.toUInt32
    rw [Int32.toInt32_toUInt32, (hsel row.1 row.2).1 hrow, eq_comm,
      Option.map_eq_some_iff] at hstored
    obtain ⟨level, hskill, hcol⟩ := hstored
    rw [← hcol, hlevel]
    exact hskill
  have hskills : (loadSkills selected).skills = skills := by
    funext group
    refine (SkillMap.foldl_insert _ _ hentries group).trans ?_
    split
    · rfl
    · rename_i hnot
      cases hskill : skills group with
      | none => rfl
      | some level =>
          have hstored := hrows group
          rw [hskill] at hstored
          have hmem := (hsel _ _).2 hstored
          refine absurd ?_ hnot
          rw [List.map_map]
          exact List.mem_map.2 ⟨_, hmem, by simp⟩
  rw [← hskills]
  rfl

/-! ### Batches -/

namespace LearnedSkill

theorem merge_same {l r : LearnedSkill} (h : r.group = l.group) : Change.merge l r = .merged r :=
  if_pos h

theorem merge_other {l r : LearnedSkill} (h : r.group ≠ l.group) :
    Change.merge l r = .unchanged l r :=
  if_neg h

/-- The walk merges the candidate into every entry of its group and skips all the others. -/
theorem mergeLoop_eq (new : LearnedSkill) :
    ∀ toDo unchanged : List LearnedSkill,
      mergeLoop toDo (new :: unchanged) =
        ([], new :: (unchanged ++ toDo.filter fun item => new.group ≠ item.group)) := by
  intro toDo
  induction toDo with
  | nil =>
      intro unchanged
      simp [mergeLoop]
  | cons item toDo ih =>
      intro unchanged
      by_cases heq : new.group = item.group
      · rw [mergeLoop, merge_same heq]
        simp only [ih]
        simp [heq]
      · rw [mergeLoop, merge_other heq]
        simp only [ih]
        simp [heq]

theorem mergeRecursive_eq (items : List LearnedSkill) (new : LearnedSkill) :
    mergeRecursive items new = (items.filter fun item => new.group ≠ item.group) ++ [new] := by
  rw [mergeRecursive, mergeLoop_eq]
  simp [List.filter_reverse]

/-- The groups of the accumulator stay distinct. -/
theorem nodup_mergeRecursive {items : List LearnedSkill} (h : (items.map group).Nodup)
    (new : LearnedSkill) : ((mergeRecursive items new).map group).Nodup := by
  rw [mergeRecursive_eq, List.map_append, List.nodup_append]
  refine ⟨(List.filter_sublist.map _).nodup h, by simp, ?_⟩
  intro g hg g' hg'
  obtain ⟨item, hitem, rfl⟩ := List.mem_map.1 hg
  have hne : new.group ≠ item.group := by simpa using (List.mem_filter.1 hitem).2
  obtain rfl : g' = new.group := by simpa using hg'
  exact hne.symm

/-- A batch has at most one entry for a group. -/
theorem nodup_optimize (changes : List LearnedSkill) : ((optimize changes).map group).Nodup := by
  unfold optimize
  split
  · rename_i hlen
    match changes, hlen with
    | [], _ => exact List.nodup_nil
    | [c], _ => exact by simp
  · have hfold : ∀ (cs acc : List LearnedSkill), (acc.map group).Nodup →
        ((cs.foldl mergeRecursive acc).map group).Nodup := by
      intro cs
      induction cs with
      | nil => exact fun _ hacc => hacc
      | cons c cs ih => exact fun _ hacc => ih _ (nodup_mergeRecursive hacc c)
    exact hfold changes [] List.nodup_nil

/-- Entries of different groups touch different rows. -/
theorem refines_swap {characterId : UInt32} {l r : LearnedSkill} (h : l.group ≠ r.group) :
    Refines (apply characterId) [l, r] [r, l] := by
  have hfoot : ∀ skill : LearnedSkill, HasFootprint (apply characterId skill)
      {key | key ∈ (skill.statement characterId).keys} :=
    fun skill => (skill.statement characterId).hasFootprint
  refine (hfoot l).refines_swap (hfoot r) (Set.disjoint_left.2 fun key hl hr => ?_)
  have hkey : (l.group.toInt32, characterId.toInt32) = (r.group.toInt32, characterId.toInt32) := by
    rw [← List.mem_singleton.1 hl, ← List.mem_singleton.1 hr]
  exact h (toInt32_injective (Prod.mk.inj hkey).1)

/-- The entries of a batch may be applied in any order. -/
theorem refines_of_perm {characterId : UInt32} {batch order : List LearnedSkill}
    (h : batch.Perm order) (hnodup : (batch.map group).Nodup) :
    Refines (apply characterId) batch order := by
  refine Refines.of_perm h ((List.pairwise_map.1 hnodup).imp fun {l r} hlr => ?_)
  exact ⟨refines_swap hlr, refines_swap hlr.symm⟩

/-- Skills of other groups. -/
def OtherGroup (c : LearnedSkill) (xs : List LearnedSkill) : Prop := ∀ x ∈ xs, c.group ≠ x.group

theorem mergeSound (characterId : UInt32) :
    MergeSound (apply characterId) (fun _ _ => True) OtherGroup where
  unchanged_args {l r l' r'} h := by
    by_cases heq : r.group = l.group
    · simp [merge_same heq] at h
    · rw [merge_other heq] at h
      simpa [eq_comm] using h
  incompatible_args {l r l' r'} h := by
    by_cases heq : r.group = l.group
    · simp [merge_same heq] at h
    · simp [merge_other heq] at h
  merged {l r m} _ h := by
    by_cases heq : r.group = l.group
    · rw [merge_same heq, MergeResult.merged.injEq] at h
      subst h
      refine Refines.of_pair fun s u t hu ht => ?_
      -- the second upsert writes the row of the first one again
      obtain rfl := Option.some_inj.1 hu
      obtain rfl := Option.some_inj.1 ht
      rw [runAll_singleton, apply, statement, ← heq, Function.update_idem]
      rfl
    · simp [merge_other heq] at h
  cancelled {l r} _ h := by
    by_cases heq : r.group = l.group
    · simp [merge_same heq] at h
    · simp [merge_other heq] at h
  passes h := passes_of_swaps fun x hx => ⟨refines_swap (h x hx), refines_swap (h x hx).symm⟩

/-- Every walk is safe: an entry is only overtaken by entries of other groups. -/
theorem safeLoop (new : LearnedSkill) :
    ∀ toDo unchanged : List LearnedSkill, OtherGroup new unchanged →
      SafeLoop (fun _ _ => True) OtherGroup toDo (new :: unchanged) := by
  intro toDo
  induction toDo with
  | nil => exact fun _ _ => trivial
  | cons item toDo ih =>
      intro unchanged hother
      by_cases heq : new.group = item.group
      · simp only [SafeLoop, merge_same heq]
        refine ⟨trivial, ⟨0, Nat.zero_le _, ?_, ?_, ?_⟩, ih unchanged hother⟩
        · intro x hx
          rw [← heq]
          exact hother x (by simpa using hx)
        · intro x hx
          simp at hx
        · intro x hx
          simp at hx
      · simp only [SafeLoop, merge_other heq]
        refine ih _ fun x hx => ?_
        rcases List.mem_append.1 hx with hx | hx
        · exact hother x hx
        · rw [List.mem_singleton.1 hx]
          exact heq

theorem safeFold : ∀ changes acc : List LearnedSkill,
    SafeFold (fun _ _ => True) OtherGroup acc changes := by
  intro changes
  induction changes with
  | nil => exact fun _ => trivial
  | cons c cs ih => exact fun acc => ⟨safeLoop c acc.reverse [] (by simp [OtherGroup]), ih _⟩

/-- A batch does what the log does. -/
theorem optimize_refines (characterId : UInt32) (changes : List LearnedSkill) :
    Refines (apply characterId) changes (optimize changes) :=
  (mergeSound characterId).optimize_refines (safeFold changes [])

end LearnedSkill

/-! ### Runs -/

/-- The skill book of a player, the changes collected for the next flush, and the rows. -/
structure SkillPersistence where
  book : SkillBook
  collection : List LearnedSkill
  rows : SkillTable

/-- What can happen: a skill is learned, the log is collected, or what is collected is written, in
some order. -/
inductive SkillOp where
  | learn (skill : RefSkillData)
  | collect
  | flush (order : List LearnedSkill)
  deriving DecidableEq, Repr

def skillStep (characterId : UInt32) : SkillOp → SkillPersistence → Option SkillPersistence
  | .learn skill, s => some { s with book := s.book.learnSkill skill }
  | .collect, s =>
      let (changes, book) := s.book.changes
      some { s with book, collection := s.collection ++ changes }
  | .flush order, s =>
      if order.Perm (optimize s.collection) then
        (runAll (LearnedSkill.apply characterId) order s.rows).map fun rows =>
          { s with collection := [], rows }
      else none

/-- What is still to be written, on top of what is stored, is the skill book. -/
def SkillPersistence.Consistent (characterId : UInt32) (s : SkillPersistence) : Prop :=
  ∃ rows, runAll (LearnedSkill.apply characterId) (s.collection ++ s.book.changes.1) s.rows =
    some rows ∧ StoredSkills characterId rows s.book.skills

theorem skillStep_consistent {characterId : UInt32} {op : SkillOp} {s s' : SkillPersistence}
    (h : s.Consistent characterId) (hstep : skillStep characterId op s = some s') :
    s'.Consistent characterId := by
  obtain ⟨rows, hrun, hstored⟩ := h
  cases op with
  | learn skill =>
      obtain rfl := Option.some_inj.1 hstep
      obtain ⟨rows', hrows'⟩ : ∃ rows', LearnedSkill.apply characterId ⟨skill.group, skill.level⟩ rows =
          some rows' := ⟨_, rfl⟩
      refine ⟨rows', ?_, hstored.apply hrows'⟩
      have hpending : (s.book.learnSkill skill).changes.1 =
          s.book.changes.1 ++ [⟨skill.group, skill.level⟩] := by
        simp [SkillBook.learnSkill, SkillBook.changes]
      rw [hpending, ← List.append_assoc, runAll_append, hrun, Option.bind_some, runAll_singleton,
        hrows']
  | collect =>
      obtain rfl := Option.some_inj.1 hstep
      refine ⟨rows, ?_, hstored⟩
      -- nothing is left in the log
      change runAll _ ((s.collection ++ s.book.changes.1) ++ []) s.rows = some rows
      rw [List.append_nil]
      exact hrun
  | flush order =>
      simp only [skillStep] at hstep
      split at hstep
      · rename_i hperm
        obtain ⟨rows₁, hrows₁, rfl⟩ := Option.map_eq_some_iff.1 hstep
        rw [runAll_append] at hrun
        obtain ⟨rows₂, hcollected, hrest⟩ := Option.bind_eq_some_iff.1 hrun
        -- the batch leads where the collected changes lead
        have hbatch := LearnedSkill.optimize_refines characterId s.collection _ _ hcollected
        have horder := LearnedSkill.refines_of_perm hperm.symm
          (LearnedSkill.nodup_optimize s.collection) _ _ hbatch
        obtain rfl : rows₁ = rows₂ := by simpa [hrows₁] using horder
        exact ⟨rows, hrest, hstored⟩
      · simp at hstep

/-- Writing everything that is still to be written, its entries in any order. -/
theorem SkillPersistence.Consistent.flush {characterId : UInt32} {s : SkillPersistence}
    (h : s.Consistent characterId) {order : List LearnedSkill}
    (hperm : order.Perm (optimize (s.collection ++ s.book.changes.1))) :
    ∃ s', runAll (skillStep characterId) [.collect, .flush order] s = some s' ∧
      s'.book.skills = s.book.skills ∧ StoredSkills characterId s'.rows s.book.skills := by
  obtain ⟨rows', hpending, hstored⟩ := h
  have hbatch := LearnedSkill.optimize_refines characterId _ _ _ hpending
  have horder := LearnedSkill.refines_of_perm hperm.symm (LearnedSkill.nodup_optimize _) _ _ hbatch
  refine ⟨⟨s.book.changes.2, [], rows'⟩, ?_, rfl, hstored⟩
  rw [runAll_cons, skillStep, Option.bind_some, runAll_singleton]
  simp only [skillStep, if_pos hperm, horder, Option.map_some]

/-- **After a final flush, the rows are those of the skill book**: a player logs in with the skills
that are stored, learns skills, and the log is collected and flushed at any points in between.  Every
batch of the run has at most one entry for a group, and after a final flush, its entries in any order
too, the rows are those of the skill book. -/
theorem skills_persisted (characterId : UInt32) (skills : SkillMap) (rows : SkillTable)
    (selected : List (Int32 × Int16)) (hrows : StoredSkills characterId rows skills)
    (hselected : SelectedSkills characterId rows selected) (ops : List SkillOp) :
    Reached (skillStep characterId) (fun s => ((optimize s.collection).map LearnedSkill.group).Nodup)
      ops ⟨loadSkills selected, [], rows⟩ ∧
    ∀ s, runAll (skillStep characterId) ops ⟨loadSkills selected, [], rows⟩ = some s →
      ∀ order : List LearnedSkill, order.Perm (optimize (s.collection ++ s.book.changes.1)) →
        ∃ s', runAll (skillStep characterId) [.collect, .flush order] s = some s' ∧
          s'.book.skills = s.book.skills ∧ StoredSkills characterId s'.rows s.book.skills := by
  constructor
  · exact fun _ s _ _ => LearnedSkill.nodup_optimize s.collection
  · intro s hrun order hperm
    have hstart : SkillPersistence.Consistent characterId ⟨loadSkills selected, [], rows⟩ := by
      rw [loadSkills_stored hrows hselected]
      exact ⟨rows, rfl, hrows⟩
    have hs := (reached_of_step (fun _ _ _ _ h hstep => skillStep_consistent h hstep) hstart).last hrun
    exact hs.flush hperm

/-- A known skill is raised twice and another one is learned, all in one batch. -/
theorem skills_persisted_raised :
    let rows : SkillTable := Function.update (fun _ => none) (3, 7) (some 1)
    ∃ s', runAll (skillStep 7)
        [.learn ⟨3, 2⟩, .learn ⟨5, 1⟩, .learn ⟨3, 3⟩, .collect, .flush [⟨3, 3⟩, ⟨5, 1⟩]]
        ⟨loadSkills [(3, 1)], [], rows⟩ = some s' ∧
      StoredSkills 7 s'.rows s'.book.skills ∧ s'.rows (3, 7) = some 3 ∧ s'.rows (5, 7) = some 1 := by
  intro rows
  have hstored : StoredSkills 7 rows (Function.update (fun _ => none) 3 (some 1)) := by
    intro group
    by_cases heq : group = 3
    · rw [heq]
      rfl
    · have hne : (group.toInt32, (7 : UInt32).toInt32) ≠ (3, 7) := fun hkey =>
        heq (toInt32_injective (Prod.mk.inj hkey).1)
      have hrow : rows (group.toInt32, (7 : UInt32).toInt32) = none := Function.update_of_ne hne _ _
      rw [Function.update_of_ne heq, hrow]
      rfl
  have hselected : SelectedSkills 7 rows [(3, 1)] := by
    intro group level
    by_cases heq : group = 3
    · subst heq
      have hrow : rows (3, (7 : UInt32).toInt32) = some 1 := rfl
      rw [hrow]
      simp [eq_comm]
    · have hne : (group, (7 : UInt32).toInt32) ≠ (3, 7) := fun hkey => heq (Prod.mk.inj hkey).1
      have hrow : rows (group, (7 : UInt32).toInt32) = none := Function.update_of_ne hne _ _
      rw [hrow]
      simp [heq]
  obtain ⟨-, hfinal⟩ := skills_persisted 7 _ rows [(3, 1)] hstored hselected
    [.learn ⟨3, 2⟩, .learn ⟨5, 1⟩, .learn ⟨3, 3⟩]
  obtain ⟨s', hrun, hskills, hrows⟩ := hfinal _ rfl [⟨3, 3⟩, ⟨5, 1⟩] (by decide)
  refine ⟨s', hrun, hskills ▸ hrows, ?_, ?_⟩
  · exact hrows 3
  · exact hrows 5

end Skrillax

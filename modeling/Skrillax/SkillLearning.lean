/-
**Learning skills.**

A skill may require that other groups have been learned up to some level.  The requirements are checked
when the skill is learned, and the level of its group is then overwritten, by a lower one as well.

Main definitions:

* `RefSkill` — the reference data of a skill, as far as learning goes;
* `learnSkill` — the handler of a request;
* `Student`, `studyStep` — a player, with the skill that was learned last of every group, and what a
  request does;
* `Student.Closed` — the requirements of all those skills are satisfied;
* `RaisesLevel` — the requests that do not lower a level.

Main results:

* `learnSkill_eq_some` — what a request does;
* `SkillBook.hasRequiredSkillsFor_mono` — requirements stay satisfied when levels grow;
* `skillBook_consistent_iff` — **in every sequence of requests the levels never decrease and the book stays
  closed, exactly if no request that is let through lowers a level**.
-/

import Skrillax.Masteries

set_option relaxedAutoImplicit false
set_option autoImplicit false

namespace Skrillax

open Rust PartialAction

/-! ### Skills -/

/-- The reference data of a skill, with its requirements. -/
structure RefSkill extends RefSkillData where
  refId : UInt32
  race : UInt8
  sp : UInt32
  mastery : Option { id : UInt16 // id ≠ 0 }
  masteryLevel : Option { level : UInt8 // level ≠ 0 }
  requiredSkills : List LearnedSkill

def Race.asSkillOrigin : Race → UInt8
  | .european => 1
  | .chinese => 0

/-- `DataMap::find_id`. -/
def findSkill (skills : List RefSkill) (refId : UInt32) : Option RefSkill :=
  skills.find? fun skill => skill.refId == refId

/-- A requirement of the group zero does not count. -/
def SkillBook.hasRequiredSkillsFor (book : SkillBook) (skill : RefSkill) : Bool :=
  (skill.requiredSkills.filter fun required => required.group ≠ 0).all fun required =>
    decide (required.level ≤ (book.skills required.group).getD 0)

/-! ### The handler -/

inductive LearnSkillResponse where
  | success (refId : UInt32)
  | error (error : LevelUpMasteryError)
  deriving DecidableEq, Repr

/-- The mastery of the skill is known, at the level that the skill asks for. -/
def hasRequiredMastery (learner : Learner) (skill : RefSkill) : Bool :=
  match skill.mastery with
  | none => true
  | some masteryId =>
      match learner.knowledge.levelOf masteryId.val.toUInt32 with
      | none => false
      | some masteryLevel =>
          match skill.masteryLevel with
          | none => true
          | some requiredLevel => decide (requiredLevel.val ≤ masteryLevel)

/-- `learn_skill`, for one player; every refusal is answered with the same error. -/
def learnSkill (p : Profile) (skills : List RefSkill) (learner : Learner) (refId : UInt32) :
    Option (Learner × LearnSkillResponse) :=
  match findSkill skills refId with
  | none => some (learner, .error .insufficientSP)
  | some skill =>
      if skill.race ≠ 3 ∧ skill.race ≠ learner.race.asSkillOrigin then
        some (learner, .error .insufficientSP)
      else if learner.sp < skill.sp then some (learner, .error .insufficientSP)
      else if hasRequiredMastery learner skill = false then some (learner, .error .insufficientSP)
      else if learner.skillBook.hasRequiredSkillsFor skill = false then
        some (learner, .error .insufficientSP)
      else do
        let sp ← p.subU32 learner.sp skill.sp
        let skillBook := learner.skillBook.learnSkill skill.toRefSkillData
        return ({ learner with sp, skillBook }, .success refId)

/-- The checks of the handler. -/
structure MayLearn (learner : Learner) (skill : RefSkill) : Prop where
  race : skill.race = 3 ∨ skill.race = learner.race.asSkillOrigin
  sp : skill.sp ≤ learner.sp
  mastery : hasRequiredMastery learner skill = true
  skills : learner.skillBook.hasRequiredSkillsFor skill = true

/-- **What a request does**: the skill is learned and paid, or nothing happens. -/
theorem learnSkill_eq_some {p : Profile} {skills : List RefSkill} {learner learner' : Learner}
    {refId : UInt32} {response : LearnSkillResponse}
    (h : learnSkill p skills learner refId = some (learner', response)) :
    (∃ skill, findSkill skills refId = some skill ∧ MayLearn learner skill ∧
      response = .success refId ∧
      learner' = { learner with
        sp := learner.sp - skill.sp
        skillBook := learner.skillBook.learnSkill skill.toRefSkillData }) ∨
    ((∀ skill, findSkill skills refId = some skill → ¬ MayLearn learner skill) ∧
      response = .error .insufficientSP ∧ learner' = learner) := by
  have hrefused : ∀ (skill : RefSkill), findSkill skills refId = some skill →
      ¬ MayLearn learner skill →
      some (learner, LearnSkillResponse.error .insufficientSP) = some (learner', response) →
      (∀ skill, findSkill skills refId = some skill → ¬ MayLearn learner skill) ∧
        response = .error .insufficientSP ∧ learner' = learner := by
    rintro skill hskill hnot ⟨⟩
    refine ⟨fun other hother => ?_, rfl, rfl⟩
    obtain rfl := Option.some_inj.1 (hskill.symm.trans hother)
    exact hnot
  unfold learnSkill at h
  cases hskill : findSkill skills refId with
  | none =>
      rw [hskill] at h
      obtain ⟨⟩ := h
      exact Or.inr ⟨fun _ hother => (by cases hother), rfl, rfl⟩
  | some skill =>
      rw [hskill] at h hrefused
      simp only at h
      split at h
      · rename_i hrace
        refine Or.inr (hrefused skill rfl (fun hmay => ?_) h)
        exact hmay.race.elim hrace.1 hrace.2
      · rename_i hrace
        split at h
        · rename_i hsp
          exact Or.inr (hrefused skill rfl (fun hmay => UInt32.not_le.2 hsp hmay.sp) h)
        · rename_i hsp
          split at h
          · rename_i hmastery
            refine Or.inr (hrefused skill rfl (fun hmay => ?_) h)
            exact Bool.false_ne_true (hmastery.symm.trans hmay.mastery)
          · rename_i hmastery
            split at h
            · rename_i hrequired
              refine Or.inr (hrefused skill rfl (fun hmay => ?_) h)
              exact Bool.false_ne_true (hrequired.symm.trans hmay.skills)
            · rename_i hrequired
              have hle : skill.sp ≤ learner.sp := UInt32.not_lt.1 hsp
              have hpay : p.subU32 learner.sp skill.sp = some (learner.sp - skill.sp) := if_pos hle
              rw [hpay] at h
              obtain ⟨⟩ := h
              refine Or.inl ⟨skill, rfl, ⟨?_, hle, ?_, ?_⟩, rfl, rfl⟩
              · by_contra hnot
                exact hrace (not_or.1 hnot)
              · exact Bool.not_eq_false _ ▸ hmastery
              · exact Bool.not_eq_false _ ▸ hrequired

/-! ### Levels that grow -/

/-- Every level of the first book is also in the second one, or a higher one. -/
def SkillBook.LevelsGrow (book book' : SkillBook) : Prop :=
  ∀ group level, book.skills group = some level →
    ∃ level', book'.skills group = some level' ∧ level ≤ level'

namespace SkillBook

theorem LevelsGrow.refl (book : SkillBook) : book.LevelsGrow book :=
  fun _ level h => ⟨level, h, UInt8.le_refl level⟩

/-- Requirements stay satisfied when levels grow. -/
theorem hasRequiredSkillsFor_mono {book book' : SkillBook} (hgrow : book.LevelsGrow book')
    {skill : RefSkill} (h : book.hasRequiredSkillsFor skill = true) :
    book'.hasRequiredSkillsFor skill = true := by
  unfold hasRequiredSkillsFor at h ⊢
  rw [List.all_eq_true] at h ⊢
  intro required hmem
  have hle := of_decide_eq_true (h required hmem)
  refine decide_eq_true ?_
  cases hlevel : book.skills required.group with
  | none =>
      rw [hlevel, Option.getD_none] at hle
      exact UInt8.le_trans hle UInt8.zero_le
  | some level =>
      obtain ⟨level', hlevel', hgrows⟩ := hgrow required.group level hlevel
      rw [hlevel, Option.getD_some] at hle
      rw [hlevel', Option.getD_some]
      exact UInt8.le_trans hle hgrows

/-- Learning lets the levels grow exactly if it does not lower that of its group. -/
theorem levelsGrow_learnSkill_iff (book : SkillBook) (skill : RefSkillData) :
    book.LevelsGrow (book.learnSkill skill) ↔
      ∀ level, book.skills skill.group = some level → level ≤ skill.level := by
  have hself : (book.learnSkill skill).skills skill.group = some skill.level :=
    Function.update_self _ _ _
  constructor
  · intro hgrow level hlevel
    obtain ⟨level', hlevel', hle⟩ := hgrow skill.group level hlevel
    obtain rfl := Option.some_inj.1 (hself.symm.trans hlevel')
    exact hle
  · intro h group level hlevel
    by_cases heq : group = skill.group
    · subst heq
      exact ⟨skill.level, hself, h level hlevel⟩
    · refine ⟨level, ?_, UInt8.le_refl level⟩
      rw [← hlevel]
      exact Function.update_of_ne heq _ _

end SkillBook

/-! ### Sequences of requests -/

inductive StudyRequest where
  | learnSkill (refId : UInt32)
  | levelUpMastery (request : LevelUpMastery)
  deriving DecidableEq, Repr

/-- A player, and the skill that was learned last of every group. -/
structure Student where
  learner : Learner
  lastLearned : UInt32 → Option RefSkill

section Study

variable (p : Profile) (data : MasteryData) (config : MasteryConfig) (skills : List RefSkill)

/-- A request of either kind; what is sent is not kept. -/
def studyStep : StudyRequest → Student → Option Student
  | .learnSkill refId, student => do
      let (learner, response) ← learnSkill p skills student.learner refId
      match response, findSkill skills refId with
      | .success _, some skill =>
          return ⟨learner, Function.update student.lastLearned skill.group (some skill)⟩
      | _, _ => return { student with learner }
  | .levelUpMastery request, student => do
      let learner ← masteryStep p data config request student.learner
      return { student with learner }

/-- A request that is let through is for a level that is not below the one of its group. -/
def RaisesLevel (student : Student) : StudyRequest → Prop
  | .learnSkill refId => ∀ skill, findSkill skills refId = some skill → MayLearn student.learner skill →
      ∀ level, student.learner.skillBook.skills skill.group = some level → level ≤ skill.level
  | .levelUpMastery _ => True

/-- No level decreases in this step. -/
def KeepsLevels (student : Student) (request : StudyRequest) : Prop :=
  ∀ student', studyStep p data config skills request student = some student' →
    student.learner.skillBook.LevelsGrow student'.learner.skillBook

end Study

namespace Student

/-- A new player. -/
def new (learner : Learner) : Student where
  learner := { learner with skillBook := SkillBook.new [] }
  lastLearned := fun _ => none

/-- Every group that is stored at some level was learned last by a skill of that group and level, and the
requirements of that skill are satisfied. -/
def Closed (skills : List RefSkill) (student : Student) : Prop :=
  ∀ group level, student.learner.skillBook.skills group = some level →
    ∃ skill ∈ skills, student.lastLearned group = some skill ∧ skill.group = group ∧
      skill.level = level ∧ student.learner.skillBook.hasRequiredSkillsFor skill = true

theorem closed_new (skills : List RefSkill) (learner : Learner) : (new learner).Closed skills := by
  intro group level h
  cases h

/-- If group and level determine the skill, the requirements of that skill are satisfied. -/
theorem Closed.of_unique {skills : List RefSkill} {student : Student} (h : student.Closed skills)
    (hunique : ∀ a ∈ skills, ∀ b ∈ skills, a.group = b.group → a.level = b.level → a = b)
    {skill : RefSkill} (hskill : skill ∈ skills)
    (hlevel : student.learner.skillBook.skills skill.group = some skill.level) :
    student.learner.skillBook.hasRequiredSkillsFor skill = true := by
  obtain ⟨learned, hlearned, -, hgroup, hlevel', hrequired⟩ := h skill.group skill.level hlevel
  obtain rfl := hunique learned hlearned skill hskill hgroup hlevel'
  exact hrequired

end Student

section Study

variable {p : Profile} {data : MasteryData} {config : MasteryConfig} {skills : List RefSkill}
variable {student student' : Student}

/-- A request for a skill that is let through, or one that changes nothing. -/
theorem studyStep_learnSkill {refId : UInt32}
    (h : studyStep p data config skills (.learnSkill refId) student = some student') :
    (∃ skill, findSkill skills refId = some skill ∧ MayLearn student.learner skill ∧
      student'.learner.skillBook = student.learner.skillBook.learnSkill skill.toRefSkillData ∧
      student'.lastLearned = Function.update student.lastLearned skill.group (some skill)) ∨
    ((∀ skill, findSkill skills refId = some skill → ¬ MayLearn student.learner skill) ∧
      student' = student) := by
  obtain ⟨⟨learner, response⟩, hlearn, hret⟩ := Option.bind_eq_some_iff.1 h
  rcases learnSkill_eq_some hlearn with ⟨skill, hskill, hmay, rfl, rfl⟩ | ⟨hnot, rfl, rfl⟩
  · simp only [hskill] at hret
    obtain rfl := Option.some_inj.1 hret
    exact Or.inl ⟨skill, hskill, hmay, rfl, rfl⟩
  · obtain rfl := Option.some_inj.1 hret
    exact Or.inr ⟨hnot, rfl⟩

/-- Raising a mastery does not touch the skills. -/
theorem studyStep_levelUpMastery {request : LevelUpMastery}
    (h : studyStep p data config skills (.levelUpMastery request) student = some student') :
    student'.learner.skillBook = student.learner.skillBook ∧
      student'.lastLearned = student.lastLearned := by
  obtain ⟨learner, hstep, hret⟩ := Option.bind_eq_some_iff.1 h
  obtain rfl := Option.some_inj.1 hret
  obtain ⟨⟨learner', outcome⟩, hhandle, rfl⟩ := Option.map_eq_some_iff.1 hstep
  cases outcome with
  | none =>
      obtain ⟨-, knowledge, -, rfl⟩ := handleMasteryLevelup_accepted hhandle
      exact ⟨rfl, rfl⟩
  | some error =>
      obtain rfl := handleMasteryLevelup_refused hhandle
      exact ⟨rfl, rfl⟩

/-- **One request** keeps the levels exactly if it does not lower one. -/
theorem levelsGrow_studyStep_iff {request : StudyRequest}
    (h : studyStep p data config skills request student = some student') :
    student.learner.skillBook.LevelsGrow student'.learner.skillBook ↔
      RaisesLevel skills student request := by
  cases request with
  | learnSkill refId =>
      rcases studyStep_learnSkill h with ⟨skill, hskill, hmay, hbook, -⟩ | ⟨hnot, rfl⟩
      · rw [hbook, SkillBook.levelsGrow_learnSkill_iff]
        constructor
        · intro hlevels other hother _ level hlevel
          obtain rfl := Option.some_inj.1 (hskill.symm.trans hother)
          exact hlevels level hlevel
        · exact fun hraises => hraises skill hskill hmay
      · refine ⟨fun _ skill hskill hmay => absurd hmay (hnot skill hskill), fun _ => ?_⟩
        exact SkillBook.LevelsGrow.refl _
  | levelUpMastery request =>
      rw [(studyStep_levelUpMastery h).1]
      exact ⟨fun _ => trivial, fun _ => SkillBook.LevelsGrow.refl _⟩

/-- A request that lets the levels grow keeps the book closed. -/
theorem Student.Closed.step {request : StudyRequest} (hclosed : student.Closed skills)
    (h : studyStep p data config skills request student = some student')
    (hgrow : student.learner.skillBook.LevelsGrow student'.learner.skillBook) :
    student'.Closed skills := by
  cases request with
  | learnSkill refId =>
      rcases studyStep_learnSkill h with ⟨skill, hskill, hmay, hbook, hlast⟩ | ⟨-, rfl⟩
      · intro group level hlevel
        by_cases heq : group = skill.group
        · subst heq
          have hself : (student.learner.skillBook.learnSkill skill.toRefSkillData).skills skill.group =
              some skill.level := Function.update_self _ _ _
          rw [hbook, hself, Option.some_inj] at hlevel
          refine ⟨skill, List.mem_of_find?_eq_some hskill, ?_, rfl, hlevel, ?_⟩
          · rw [hlast, Function.update_self]
          · exact SkillBook.hasRequiredSkillsFor_mono hgrow hmay.skills
        · have hother : (student.learner.skillBook.learnSkill skill.toRefSkillData).skills group =
              student.learner.skillBook.skills group := Function.update_of_ne heq _ _
          rw [hbook, hother] at hlevel
          obtain ⟨learned, hmem, hlearned, hgroup, hlevel', hrequired⟩ := hclosed group level hlevel
          refine ⟨learned, hmem, ?_, hgroup, hlevel', ?_⟩
          · rw [hlast, Function.update_of_ne heq]
            exact hlearned
          · exact SkillBook.hasRequiredSkillsFor_mono hgrow hrequired
      · exact hclosed
  | levelUpMastery request =>
      obtain ⟨hbook, hlast⟩ := studyStep_levelUpMastery h
      unfold Student.Closed
      rw [hbook, hlast]
      exact hclosed

end Study

/-- **The skill book stays consistent**, under every order of requests that do not lower a level. -/
theorem skillBook_consistent_iff (p : Profile) (data : MasteryData) (config : MasteryConfig)
    (skills : List RefSkill) (requests : List StudyRequest) (learner : Learner) :
    AllSteps (studyStep p data config skills) (KeepsLevels p data config skills) requests
          (Student.new learner) ∧
        Reached (studyStep p data config skills) (Student.Closed skills) requests (Student.new learner) ↔
      AllSteps (studyStep p data config skills) (RaisesLevel skills) requests (Student.new learner) := by
  have hstep : ∀ {s t : Student} {c : StudyRequest}, studyStep p data config skills c s = some t →
      (KeepsLevels p data config skills s c ↔ RaisesLevel skills s c) := by
    intro s t c ht
    rw [← levelsGrow_studyStep_iff ht]
    refine ⟨fun hkeeps => hkeeps t ht, fun hgrow u hu => ?_⟩
    exact Option.some_inj.1 (ht.symm.trans hu) ▸ hgrow
  constructor
  · rintro ⟨hkeeps, -⟩
    exact allSteps_iff.2 fun pre c t u hpre ht hu =>
      (hstep hu).1 (allSteps_iff.1 hkeeps pre c t u hpre ht hu)
  · intro hraises
    have hkeeps : AllSteps (studyStep p data config skills) (KeepsLevels p data config skills) requests
        (Student.new learner) :=
      allSteps_iff.2 fun pre c t u hpre ht hu =>
        (hstep hu).2 (allSteps_iff.1 hraises pre c t u hpre ht hu)
    refine ⟨hkeeps, reached_of_allSteps (fun c _ s t hclosed hkeep ht => ?_)
      (Student.closed_new skills learner) hkeeps⟩
    exact hclosed.step ht (hkeep t ht)

/-- Two levels of one group, which require nothing. -/
def sampleSkills : List RefSkill :=
  [{ group := 1, level := 1, refId := 3, race := 3, sp := 0, mastery := none, masteryLevel := none
     requiredSkills := [] },
   { group := 1, level := 2, refId := 4, race := 3, sp := 0, mastery := none, masteryLevel := none
     requiredSkills := [] }]

/-- The second level is learned, and then the first one. -/
theorem lower_level_is_learned :
    ¬ ∀ (p : Profile) (data : MasteryData) (config : MasteryConfig) (skills : List RefSkill)
      (requests : List StudyRequest) (learner : Learner),
      AllSteps (studyStep p data config skills) (KeepsLevels p data config skills) requests
          (Student.new learner) ∧
        Reached (studyStep p data config skills) (Student.Closed skills) requests
          (Student.new learner) := by
  intro h
  obtain ⟨hkeeps, -⟩ := h .debug sampleMasteries ⟨2, 2⟩ sampleSkills [.learnSkill 4, .learnSkill 3]
    sampleLearner
  have hlowered := ((hkeeps _ rfl).2 _ rfl).1 _ rfl
  obtain ⟨level, hlevel, hle⟩ := hlowered 1 2 rfl
  obtain rfl : 1 = level := Option.some_inj.1 hlevel
  exact absurd hle (by decide)

end Skrillax

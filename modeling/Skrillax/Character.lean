/-
**Storing and reloading a character.**

The components of a player are written to the row of the character, each with a statement of its own, and
are read again at the next login.  Every column is narrower or wider than the component it holds.  Gold
goes through a signed integer of four bytes although its column has eight, and the race of the row is not
read at all.

Main definitions:

* `Scalars`, `CharacterData` — the components that are stored in the row of a character, and the row;
* `storeScalars`, `MasteryChange.apply` — writing the components;
* `loadCharacter` — a login, as far as the stored components are concerned;
* `Session`, `sessionStep` — a player between login and logout;
* `Session.Reloads` — what is stored is loaded again.

Main results:

* `goldColumn_lossless_iff` — the casts of the gold;
* `Session.Sound.reached` — along every session, what is stored and what is still to be stored belong to
  the player;
* `reloads_iff` — **when a character is stored without loss**.
-/

import Skrillax.InventoryMovement
import Skrillax.SkillBook

set_option relaxedAutoImplicit false
set_option autoImplicit false

namespace Skrillax

open Rust PartialAction

/-! ### Components and columns -/

/-- The components that are stored in the row of the character: `Leveled`, `Experienced`, `SP`,
`StatPoints` and `GoldPouch`. -/
structure Scalars where
  level : UInt8
  maxLevel : UInt8
  experience : UInt64
  spExp : UInt64
  sp : UInt32
  strength : UInt16
  intelligence : UInt16
  remainingPoints : UInt16
  gold : UInt64
  deriving DecidableEq, Repr

/-- The row of a character, as far as these components and the race are concerned. -/
structure CharacterData where
  race : Race
  level : Int16
  maxLevel : Int16
  exp : Int64
  sp : Int32
  spExp : Int32
  strength : Int16
  intelligence : Int16
  statPoints : Int16
  gold : Int64
  deriving DecidableEq, Repr

/-- A value that is assigned to a column of type `integer` has to be in its range. -/
def integerColumn (value : Int64) : Option Int32 :=
  if -2 ^ 31 ≤ value.toInt ∧ value.toInt < 2 ^ 31 then some value.toInt32 else none

/-- The column has eight bytes, the value that is bound to it has four. -/
def goldColumn (gold : UInt64) : Int64 := gold.toUInt32.toInt32.toInt64

/-! ### Changes -/

structure LevelChange where
  level : UInt16
  maxLevel : UInt16

structure StatsChange where
  strength : UInt16
  intelligence : UInt16
  remainingPoints : UInt16

structure ExperienceChange where
  experience : UInt64
  spExp : UInt64

structure SpChange where
  sp : UInt32

structure GoldChange where
  gold : UInt64

def LevelChange.apply (change : LevelChange) (row : CharacterData) : Option CharacterData :=
  some { row with level := change.level.toInt16, maxLevel := change.maxLevel.toInt16 }

def StatsChange.apply (change : StatsChange) (row : CharacterData) : Option CharacterData :=
  some { row with
    strength := change.strength.toInt16
    intelligence := change.intelligence.toInt16
    statPoints := change.remainingPoints.toInt16 }

/-- The statement fails if the second value does not fit its column. -/
def ExperienceChange.apply (change : ExperienceChange) (row : CharacterData) :
    Option CharacterData := do
  let spExp ← integerColumn change.spExp.toInt64
  return { row with exp := change.experience.toInt64, spExp }

def SpChange.apply (change : SpChange) (row : CharacterData) : Option CharacterData :=
  some { row with sp := change.sp.toInt32 }

def GoldChange.apply (change : GoldChange) (row : CharacterData) : Option CharacterData :=
  some { row with gold := goldColumn change.gold }

namespace Scalars

/-! `ChangeProvided::as_change` of the components. -/

def levelChange (s : Scalars) : LevelChange := ⟨s.level.toUInt16, s.maxLevel.toUInt16⟩

def statsChange (s : Scalars) : StatsChange := ⟨s.strength, s.intelligence, s.remainingPoints⟩

def experienceChange (s : Scalars) : ExperienceChange := ⟨s.experience, s.spExp⟩

def spChange (s : Scalars) : SpChange := ⟨s.sp⟩

def goldChange (s : Scalars) : GoldChange := ⟨s.gold⟩

end Scalars

/-- The changes of the components are applied one after the other; one that fails is reported, and leaves
the row as it is. -/
def storeScalars (scalars : Scalars) (row : CharacterData) : CharacterData :=
  let row := (scalars.levelChange.apply row).getD row
  let row := (scalars.statsChange.apply row).getD row
  let row := (scalars.experienceChange.apply row).getD row
  let row := (scalars.spChange.apply row).getD row
  (scalars.goldChange.apply row).getD row

/-! ### Masteries -/

/-- `MasteryKnowledge`; the list of the masteries to report to the client is not stored. -/
structure MasteryKnowledge where
  masteries : SkillMap

namespace MasteryKnowledge

/-- The entries are collected into a hash map. -/
def new (values : List (UInt32 × UInt8)) : MasteryKnowledge where
  masteries := values.foldl SkillMap.insert fun _ => none

def levelMasteryBy (p : Profile) (knowledge : MasteryKnowledge) (refId : UInt32) (amount : UInt8) :
    Option MasteryKnowledge :=
  match knowledge.masteries refId with
  | some level => do
      let level ← p.addU8 level amount
      return ⟨knowledge.masteries.insert (refId, level)⟩
  | none => some ⟨knowledge.masteries.insert (refId, amount)⟩

end MasteryKnowledge

/-- The levels in `character_masteries`, by mastery and character. -/
abbrev MasteryTable := Table (Int32 × Int32) Int16

/-- One statement inserts every entry of the map, or updates the level where there is a row.  Without any
entry there is no statement. -/
def MasteryChange.apply (characterId : UInt32) (masteries : SkillMap) (rows : MasteryTable) :
    MasteryTable := fun key =>
  if key.2 = characterId.toInt32 then ((masteries key.1.toUInt32).map levelColumn).or (rows key)
  else rows key

/-! ### Login -/

/-- The stored components of a player. -/
structure LoadedPlayer where
  race : Race
  scalars : Scalars
  masteries : SkillMap
  skills : SkillMap

/-- `Player::from_db_character`.  The race is fixed, whatever the row says. -/
def fromDbCharacter (data : CharacterData) : Race × Scalars :=
  (.chinese,
    { level := data.level.toUInt16.toUInt8
      maxLevel := data.maxLevel.toUInt16.toUInt8
      experience := data.exp.toUInt64
      spExp := data.spExp.toUInt32.toUInt64
      sp := data.sp.toUInt32
      strength := data.strength.toUInt16
      intelligence := data.intelligence.toUInt16
      remainingPoints := data.statPoints.toUInt16
      gold := data.gold.toUInt64 })

/-- The integer arithmetic of `Stats::max_health` and `Stats::max_mana`, which may panic. -/
def maxPoints (p : Profile) (stat : UInt16) (level : UInt8) : Option (UInt8 × UInt16) := do
  let exponent ← p.subU8 level 1
  let factor ← p.mulU16 stat 10
  return (exponent, factor)

/-- `handle_join` and `PlayerBundle::new`: the selected rows of the masteries and of the skills are
collected, and the bundle is built. -/
def loadCharacter (p : Profile) (data : CharacterData) (masteries skills : List (Int32 × Int16)) :
    Option LoadedPlayer := do
  let (race, scalars) := fromDbCharacter data
  let _ ← maxPoints p scalars.strength scalars.level
  let _ ← maxPoints p scalars.intelligence scalars.level
  let knowledge := MasteryKnowledge.new
    (masteries.map fun row => (row.1.toUInt32, row.2.toUInt16.toUInt8))
  return { race, scalars, masteries := knowledge.masteries, skills := (loadSkills skills).skills }

/-! ### Casts -/

/-- What is loaded of the gold that is stored: the low four bytes, extended by their sign. -/
theorem toNat_goldColumn (gold : UInt64) :
    (goldColumn gold).toUInt64.toNat =
      gold.toNat % 2 ^ 32 + if gold.toNat % 2 ^ 32 < 2 ^ 31 then 0 else 2 ^ 64 - 2 ^ 32 := by
  have hbits : (goldColumn gold).toUInt64.toNat =
      (gold.toUInt32.toBitVec.signExtend 64).toNat := rfl
  have hlow : gold.toUInt32.toBitVec.toNat = gold.toNat % 2 ^ 32 := rfl
  rw [hbits, BitVec.toNat_signExtend, BitVec.toNat_setWidth, BitVec.msb_eq_decide, hlow]
  have hlt : gold.toNat % 2 ^ 32 < 2 ^ 32 := Nat.mod_lt _ (by omega)
  split <;> split <;> simp_all <;> omega

/-- The casts of the gold are lossless up to `2 ^ 31`, and again at the very end of the range. -/
theorem goldColumn_lossless_iff (gold : UInt64) :
    (goldColumn gold).toUInt64 = gold ↔ gold.toNat < 2 ^ 31 ∨ 2 ^ 64 - 2 ^ 31 ≤ gold.toNat := by
  have hlt := gold.toNat_lt
  rw [← UInt64.toNat_inj, toNat_goldColumn]
  split <;> omega

/-- A value below `2 ^ 31` fits a column of type `integer`, and comes back. -/
theorem integerColumn_small {value : UInt64} (h : value.toNat < 2 ^ 31) :
    ∃ column, integerColumn value.toInt64 = some column ∧ column.toUInt32.toUInt64 = value := by
  have hint : value.toInt64.toInt = value.toNat := by
    have hnat : value.toBitVec.toNat = value.toNat := rfl
    rw [← Int64.toInt_toBitVec, UInt64.toBitVec_toInt64, BitVec.toInt_eq_toNat_cond, hnat]
    split <;> omega
  refine ⟨value.toInt64.toInt32, ?_, ?_⟩
  · rw [integerColumn, if_pos (by omega)]
  · apply UInt64.toNat_inj.1
    have hbits : value.toInt64.toInt32.toUInt32.toUInt64.toNat =
        (value.toBitVec.signExtend 32).toNat := rfl
    rw [hbits]
    simp [BitVec.toNat_signExtend]
    omega

/-- What is loaded of the row that is stored: everything but the gold comes back for sure, and the race
is not that of the row. -/
theorem fromDbCharacter_storeScalars {scalars : Scalars} (h : scalars.spExp.toNat < 2 ^ 31)
    (row : CharacterData) :
    fromDbCharacter (storeScalars scalars row) =
      (.chinese, { scalars with gold := (goldColumn scalars.gold).toUInt64 }) := by
  obtain ⟨column, hcolumn, hback⟩ := integerColumn_small h
  simp only [storeScalars, Scalars.experienceChange, ExperienceChange.apply, hcolumn,
    Option.bind_eq_bind, Option.bind_some]
  simp only [fromDbCharacter, Scalars.levelChange, LevelChange.apply, Scalars.statsChange,
    StatsChange.apply, Scalars.spChange, SpChange.apply, Scalars.goldChange, GoldChange.apply]
  simp
  exact hback

/-! ### Sessions -/

def EXP_PER_SP : UInt64 := 400

/-- `Experienced::convert_sp`: the points, and the experience that is left. -/
def convertSp (spExp : UInt64) : UInt32 × UInt64 := ((spExp / EXP_PER_SP).toUInt32, spExp % EXP_PER_SP)

/-- A player, with what is stored. -/
structure Session where
  row : CharacterData
  masteryRows : MasteryTable
  scalars : Scalars
  knowledge : MasteryKnowledge
  skills : SkillPersistence

/-- What can happen to a player.  The components of the row may change in any way, but experience is
converted to points right after it has been received. -/
inductive SessionOp where
  | change (scalars : Scalars)
  | receive (experience spExp : UInt64)
  | levelMastery (refId : UInt32) (amount : UInt8)
  | skill (op : SkillOp)
  | persist

def sessionStep (p : Profile) (characterId : UInt32) : SessionOp → Session → Option Session
  | .change scalars, s => some { s with scalars := { scalars with spExp := s.scalars.spExp } }
  | .receive experience spExp, s =>
      some { s with scalars := { s.scalars with experience, spExp := (convertSp spExp).2 } }
  | .levelMastery refId amount, s =>
      (s.knowledge.levelMasteryBy p refId amount).map fun knowledge => { s with knowledge }
  | .skill op, s => (skillStep characterId op s.skills).map fun skills => { s with skills }
  | .persist, s =>
      some { s with
        row := storeScalars s.scalars s.row
        masteryRows := MasteryChange.apply characterId s.knowledge.masteries s.masteryRows }

/-- Every mastery that has a row is known. -/
def Covered (characterId : UInt32) (rows : MasteryTable) (masteries : SkillMap) : Prop :=
  ∀ mastery : UInt32, (rows (mastery.toInt32, characterId.toInt32)).isSome = true →
    (masteries mastery).isSome = true

namespace Session

/-- What is stored and what is still to be stored belong to the player. -/
structure Sound (characterId : UInt32) (s : Session) : Prop where
  converted : s.scalars.spExp.toNat < 400
  covered : Covered characterId s.masteryRows s.knowledge.masteries
  consistent : s.skills.Consistent characterId

/-- The state right after a login. -/
structure LoggedIn (characterId : UInt32) (s : Session) : Prop where
  converted : s.scalars.spExp.toNat < 400
  masteries : StoredSkills characterId s.masteryRows s.knowledge.masteries
  skills : ∃ stored selected, StoredSkills characterId s.skills.rows stored ∧
    SelectedSkills characterId s.skills.rows selected ∧ s.skills.book = loadSkills selected ∧
    s.skills.collection = []

/-- Whatever the queries return, what is stored is loaded again. -/
def Reloads (p : Profile) (characterId : UInt32) (s : Session) : Prop :=
  ∀ (order : List LearnedSkill) (flushed : SkillPersistence) (masteries skills : List (Int32 × Int16)),
    order.Perm (optimize (s.skills.collection ++ s.skills.book.changes.1)) →
    runAll (skillStep characterId) [.collect, .flush order] s.skills = some flushed →
    SelectedSkills characterId (MasteryChange.apply characterId s.knowledge.masteries s.masteryRows)
      masteries →
    SelectedSkills characterId flushed.rows skills →
      loadCharacter p (storeScalars s.scalars s.row) masteries skills =
        some ⟨s.row.race, s.scalars, s.knowledge.masteries, s.skills.book.skills⟩

/-- The race is the one that is loaded, the gold fits four bytes, and, in a debug build, the level and
the stats can be computed with. -/
def StoresWell (p : Profile) (s : Session) : Prop :=
  s.row.race = .chinese ∧
    (s.scalars.gold.toNat < 2 ^ 31 ∨ 2 ^ 64 - 2 ^ 31 ≤ s.scalars.gold.toNat) ∧
    (p = .debug → s.scalars.level ≠ 0 ∧ s.scalars.strength.toNat * 10 < 2 ^ 16 ∧
      s.scalars.intelligence.toNat * 10 < 2 ^ 16)

end Session

/-! ### Masteries and their rows -/

/-- A mastery that is known stays known. -/
theorem MasteryKnowledge.levelMasteryBy_isSome {p : Profile} {knowledge knowledge' : MasteryKnowledge}
    {refId : UInt32} {amount : UInt8}
    (h : knowledge.levelMasteryBy p refId amount = some knowledge') {mastery : UInt32}
    (hknown : (knowledge.masteries mastery).isSome = true) :
    (knowledge'.masteries mastery).isSome = true := by
  have hinsert : ∀ level : UInt8,
      (knowledge.masteries.insert (refId, level) mastery).isSome = true := by
    intro level
    by_cases heq : mastery = refId
    · rw [heq, SkillMap.insert, Function.update_self]
      rfl
    · rw [SkillMap.insert, Function.update_of_ne heq]
      exact hknown
  unfold levelMasteryBy at h
  split at h
  · obtain ⟨level, -, hlevel⟩ := Option.bind_eq_some_iff.1 h
    obtain rfl := Option.some_inj.1 hlevel
    exact hinsert level
  · obtain rfl := Option.some_inj.1 h
    exact hinsert amount

/-- The statement leaves the rows of the masteries that are known. -/
theorem MasteryChange.stored {characterId : UInt32} {rows : MasteryTable} {masteries : SkillMap}
    (h : Covered characterId rows masteries) :
    StoredSkills characterId (MasteryChange.apply characterId masteries rows) masteries := by
  intro mastery
  rw [MasteryChange.apply, if_pos rfl, UInt32.toUInt32_toInt32]
  cases hlevel : masteries mastery with
  | some level => rfl
  | none =>
      -- no row is left over
      cases hrow : rows (mastery.toInt32, characterId.toInt32) with
      | none => rfl
      | some column =>
          have hknown := h mastery (by rw [hrow]; rfl)
          rw [hlevel] at hknown
          simp at hknown

theorem StoredSkills.covered {characterId : UInt32} {rows : MasteryTable} {masteries : SkillMap}
    (h : StoredSkills characterId rows masteries) : Covered characterId rows masteries := by
  intro mastery hrow
  rw [h mastery, Option.isSome_map] at hrow
  exact hrow

/-- There is always something a query may return. -/
theorem exists_selectedSkills (characterId : UInt32) (rows : SkillTable) :
    ∃ selected, SelectedSkills characterId rows selected := by
  refine ⟨(Finset.univ : Finset Int32).toList.filterMap fun group =>
    (rows (group, characterId.toInt32)).map fun level => (group, level), fun group level => ?_⟩
  simp [List.mem_filterMap]

/-! ### Soundness along a session -/

namespace Session

theorem LoggedIn.sound {characterId : UInt32} {s : Session} (h : s.LoggedIn characterId) :
    s.Sound characterId := by
  obtain ⟨stored, selected, hstored, hselected, hbook, hcollection⟩ := h.skills
  refine ⟨h.converted, h.masteries.covered, s.skills.rows, ?_, ?_⟩
  · rw [hcollection, hbook]
    rfl
  · rw [hbook, loadSkills_stored hstored hselected]
    exact hstored

theorem Sound.step {p : Profile} {characterId : UInt32} {op : SessionOp} {s s' : Session}
    (h : s.Sound characterId) (hstep : sessionStep p characterId op s = some s') :
    s'.Sound characterId := by
  cases op with
  | change scalars =>
      obtain rfl := Option.some_inj.1 hstep
      exact ⟨h.converted, h.covered, h.consistent⟩
  | receive experience spExp =>
      obtain rfl := Option.some_inj.1 hstep
      refine ⟨?_, h.covered, h.consistent⟩
      -- what is left of the experience is less than a point
      have hrest : (spExp % EXP_PER_SP).toNat = spExp.toNat % 400 := UInt64.toNat_mod _ _
      have hlt := Nat.mod_lt spExp.toNat (by omega : 400 > 0)
      exact hrest ▸ hlt
  | levelMastery refId amount =>
      obtain ⟨knowledge, hknowledge, rfl⟩ := Option.map_eq_some_iff.1 hstep
      exact ⟨h.converted, fun mastery hrow =>
        MasteryKnowledge.levelMasteryBy_isSome hknowledge (h.covered mastery hrow), h.consistent⟩
  | skill op =>
      obtain ⟨skills, hskills, rfl⟩ := Option.map_eq_some_iff.1 hstep
      exact ⟨h.converted, h.covered, skillStep_consistent h.consistent hskills⟩
  | persist =>
      obtain rfl := Option.some_inj.1 hstep
      exact ⟨h.converted, (MasteryChange.stored h.covered).covered, h.consistent⟩

/-- Along every session, what is stored and what is still to be stored belong to the player. -/
theorem Sound.reached {p : Profile} {characterId : UInt32} {s : Session} (h : s.Sound characterId)
    (ops : List SessionOp) : Reached (sessionStep p characterId) (Sound characterId) ops s :=
  reached_of_step (fun _ _ _ _ hs hstep => hs.step hstep) h

/-! ### Logging in again -/

/-- In a release build the arithmetic wraps. -/
theorem maxPoints_isSome_iff {p : Profile} {stat : UInt16} {level : UInt8} :
    (maxPoints p stat level).isSome = true ↔
      (p = .debug → level ≠ 0 ∧ stat.toNat * 10 < 2 ^ 16) := by
  have hone : 1 ≤ level ↔ level ≠ 0 := by
    rw [UInt8.le_iff_toNat_le, Ne, ← UInt8.toNat_inj]
    change 1 ≤ level.toNat ↔ ¬ level.toNat = 0
    omega
  have hboth : (maxPoints p stat level).isSome = true ↔
      (p.subU8 level 1).isSome = true ∧ (p.mulU16 stat 10).isSome = true := by
    unfold maxPoints
    cases p.subU8 level 1 <;> cases p.mulU16 stat 10 <;> simp
  rw [hboth, Profile.subU8_isSome, Profile.mulU16_isSome, hone]
  cases p with
  | debug => simp
  | release => simp

/-- What a login finds, once everything is stored. -/
theorem Sound.loadCharacter_eq {p : Profile} {characterId : UInt32} {s : Session}
    (h : s.Sound characterId) {skillRows : SkillTable} {masteries skills : List (Int32 × Int16)}
    (hstored : StoredSkills characterId skillRows s.skills.book.skills)
    (hmasteries : SelectedSkills characterId
      (MasteryChange.apply characterId s.knowledge.masteries s.masteryRows) masteries)
    (hskills : SelectedSkills characterId skillRows skills) :
    loadCharacter p (storeScalars s.scalars s.row) masteries skills =
      if (maxPoints p s.scalars.strength s.scalars.level).isSome = true ∧
          (maxPoints p s.scalars.intelligence s.scalars.level).isSome = true then
        some ⟨.chinese, { s.scalars with gold := (goldColumn s.scalars.gold).toUInt64 },
          s.knowledge.masteries, s.skills.book.skills⟩
      else none := by
  have hconverted := h.converted
  have hknowledge : (MasteryKnowledge.new
      (masteries.map fun row => (row.1.toUInt32, row.2.toUInt16.toUInt8))).masteries =
        s.knowledge.masteries :=
    congrArg SkillBook.skills (loadSkills_stored (MasteryChange.stored h.covered) hmasteries)
  have hbook := loadSkills_stored hstored hskills
  unfold loadCharacter
  simp only [fromDbCharacter_storeScalars (by omega : s.scalars.spExp.toNat < 2 ^ 31), hknowledge,
    hbook]
  cases maxPoints p s.scalars.strength s.scalars.level with
  | none => simp
  | some health =>
      cases maxPoints p s.scalars.intelligence s.scalars.level with
      | none => simp
      | some mana => simp

/-- The login of a character that has neither masteries nor skills. -/
def ofRow (row : CharacterData) : Session where
  row := row
  masteryRows := fun _ => none
  scalars := (fromDbCharacter row).2
  knowledge := .new []
  skills := ⟨loadSkills [], [], fun _ => none⟩

theorem LoggedIn.ofRow {row : CharacterData} (h : (fromDbCharacter row).2.spExp.toNat < 400)
    (characterId : UInt32) : (ofRow row).LoggedIn characterId where
  converted := h
  masteries := fun _ => rfl
  skills := ⟨fun _ => none, [], fun _ => rfl, fun _ _ => by simp [Session.ofRow], rfl, rfl⟩

end Session

/-- The row of a reloaded player is that of the player stored, race and gold apart. -/
theorem reloaded_eq_iff {s : Session} :
    (⟨.chinese, { s.scalars with gold := (goldColumn s.scalars.gold).toUInt64 },
        s.knowledge.masteries, s.skills.book.skills⟩ : LoadedPlayer) =
      ⟨s.row.race, s.scalars, s.knowledge.masteries, s.skills.book.skills⟩ ↔
    s.row.race = .chinese ∧
      (s.scalars.gold.toNat < 2 ^ 31 ∨ 2 ^ 64 - 2 ^ 31 ≤ s.scalars.gold.toNat) := by
  rw [← goldColumn_lossless_iff, LoadedPlayer.mk.injEq]
  constructor
  · rintro ⟨hrace, hscalars, -⟩
    exact ⟨hrace.symm, congrArg Scalars.gold hscalars⟩
  · rintro ⟨hrace, hgold⟩
    refine ⟨hrace.symm, ?_, rfl, rfl⟩
    rw [hgold]

/-- **When a character is stored without loss**: a player logs in, plays, and is stored any number of
times.  At any point, storing everything and logging in again yields the same race, the same components,
the same masteries and the same skills, if and only if the character is Chinese, the gold fits four signed
bytes, and, in a debug build, the points of health and mana can be computed at login. -/
theorem reloads_iff (p : Profile) (characterId : UInt32) (start s : Session) (ops : List SessionOp)
    (hstart : start.LoggedIn characterId)
    (hrun : runAll (sessionStep p characterId) ops start = some s) :
    s.Reloads p characterId ↔ s.StoresWell p := by
  have hsound : s.Sound characterId := (hstart.sound.reached ops).last hrun
  have hpoints : (maxPoints p s.scalars.strength s.scalars.level).isSome = true ∧
      (maxPoints p s.scalars.intelligence s.scalars.level).isSome = true ↔
      (p = .debug → s.scalars.level ≠ 0 ∧ s.scalars.strength.toNat * 10 < 2 ^ 16 ∧
        s.scalars.intelligence.toNat * 10 < 2 ^ 16) := by
    rw [Session.maxPoints_isSome_iff, Session.maxPoints_isSome_iff]
    constructor
    · rintro ⟨hhealth, hmana⟩ hdebug
      exact ⟨(hhealth hdebug).1, (hhealth hdebug).2, (hmana hdebug).2⟩
    · intro hall
      exact ⟨fun hdebug => ⟨(hall hdebug).1, (hall hdebug).2.1⟩,
        fun hdebug => ⟨(hall hdebug).1, (hall hdebug).2.2⟩⟩
  constructor
  · intro hreloads
    -- some order of the batch and some answers of the queries
    obtain ⟨flushed, hflush, -, hstored⟩ := hsound.consistent.flush (List.Perm.refl _)
    obtain ⟨masteries, hmasteries⟩ := exists_selectedSkills characterId
      (MasteryChange.apply characterId s.knowledge.masteries s.masteryRows)
    obtain ⟨skills, hskills⟩ := exists_selectedSkills characterId flushed.rows
    have hload := hreloads _ flushed masteries skills (List.Perm.refl _) hflush hmasteries hskills
    rw [hsound.loadCharacter_eq hstored hmasteries hskills] at hload
    split at hload
    · rename_i hok
      obtain ⟨hrace, hgold⟩ := reloaded_eq_iff.1 (Option.some_inj.1 hload)
      exact ⟨hrace, hgold, hpoints.1 hok⟩
    · simp at hload
  · rintro ⟨hrace, hgold, hok⟩ order flushed masteries skills hperm hflush hmasteries hskills
    obtain ⟨flushed', hflush', -, hstored⟩ := hsound.consistent.flush hperm
    obtain rfl : flushed' = flushed := Option.some_inj.1 (hflush'.symm.trans hflush)
    rw [hsound.loadCharacter_eq hstored hmasteries hskills, if_pos (hpoints.2 hok),
      reloaded_eq_iff.2 ⟨hrace, hgold⟩]

/-- A Chinese character takes up a mastery, is stored, and receives gold. -/
theorem reloads_after_gold :
    ∃ s, runAll (sessionStep .debug 7)
        [.levelMastery 257 1, .persist, .change ⟨1, 1, 0, 0, 0, 20, 20, 0, 1000⟩]
        (Session.ofRow ⟨.chinese, 1, 1, 0, 0, 0, 20, 20, 0, 0⟩) = some s ∧
      s.scalars.gold = 1000 ∧ s.knowledge.masteries 257 = some 1 ∧ s.Reloads .debug 7 :=
  ⟨_, rfl, rfl, rfl, (reloads_iff .debug 7 _ _
    [.levelMastery 257 1, .persist, .change ⟨1, 1, 0, 0, 0, 20, 20, 0, 1000⟩]
    (.ofRow (by decide) 7) rfl).2 ⟨rfl, by decide, fun _ => by decide⟩⟩

/-- The gold of a European character reaches `2 ^ 31`, and the next login finds a Chinese one with
`2 ^ 64 - 2 ^ 31`. -/
theorem european_with_gold_not_reloaded :
    let ops : List SessionOp := [.change ⟨1, 1, 0, 0, 0, 20, 20, 0, 2147483648⟩]
    let start := Session.ofRow ⟨.european, 1, 1, 0, 0, 0, 20, 20, 0, 0⟩
    start.LoggedIn 7 ∧ ∃ s, runAll (sessionStep .debug 7) ops start = some s ∧
      loadCharacter .debug (storeScalars s.scalars s.row) [] [] =
        some ⟨.chinese, ⟨1, 1, 0, 0, 0, 20, 20, 0, 18446744071562067968⟩, s.knowledge.masteries,
          s.skills.book.skills⟩ ∧
      ¬ s.Reloads .debug 7 := by
  intro ops start
  have hrow : fromDbCharacter (storeScalars ⟨1, 1, 0, 0, 0, 20, 20, 0, 2147483648⟩
      ⟨.european, 1, 1, 0, 0, 0, 20, 20, 0, 0⟩) =
        (.chinese, ⟨1, 1, 0, 0, 0, 20, 20, 0, 18446744071562067968⟩) := by decide
  have hpoints : maxPoints .debug 20 1 = some (0, 200) := by decide
  have hload : loadCharacter .debug (storeScalars ⟨1, 1, 0, 0, 0, 20, 20, 0, 2147483648⟩
      ⟨.european, 1, 1, 0, 0, 0, 20, 20, 0, 0⟩) [] [] =
        some ⟨.chinese, ⟨1, 1, 0, 0, 0, 20, 20, 0, 18446744071562067968⟩,
          start.knowledge.masteries, start.skills.book.skills⟩ := by
    simp only [loadCharacter, hrow, hpoints]
    rfl
  refine ⟨.ofRow (by decide) 7, _, rfl, hload, ?_⟩
  intro hreloads
  have hempty : MasteryChange.apply 7 start.knowledge.masteries start.masteryRows = fun _ => none := by
    funext key
    simp [MasteryChange.apply, start, Session.ofRow, MasteryKnowledge.new]
  have h := hreloads [] start.skills [] [] (List.Perm.refl _) rfl
    (fun group level => by simpa using congrArg (· = some level) (congrFun hempty (group, 7)))
    (fun group level => by simp [start, Session.ofRow])
  have hrace := congrArg LoadedPlayer.race (Option.some_inj.1 (hload.symm.trans h))
  simp [start, Session.ofRow] at hrace

end Skrillax

/-
**A line of the skill data.**

A line of the skill data is a row of columns separated by tabs.  Every column is looked up and parsed on its
own, and a column that is missing or is not a number of its type is an error.  The columns from the 69th on
are the parameters: these are sliced off, turned into numbers and read without a check.

Main definitions:

* `ParseError`, `RefSkillData` — the errors, and what a line is parsed into;
* `leadingColumns`, `paramColumns`, `RefSkillData.fromStr` — the columns before the parameters, the
  parameters, and the line;
* `LeadingParse` — the columns that are looked at before the parameters are numbers of their types.

Main results:

* `not_panics_leadingColumns`, `exists_leadingColumns_iff` — the columns before the parameters;
* `panics_fromStr_iff` — a line panics in its parameters, if it comes to them.
-/

import Skrillax.RustParse
import Skrillax.RustSlice
import Skrillax.SkillColumns

set_option relaxedAutoImplicit false
set_option autoImplicit false

namespace Skrillax.SkillData

open Rust

/-! ### Errors and fields -/

inductive ParseError where
  | missingColumn (column : UInt8)
  | numberParseError (kind : IntErrorKind)
  | unknownVariant (number : UInt8) (name : String)
  deriving DecidableEq, Repr

inductive SkillType where
  | passive | imbue | action
  deriving DecidableEq, Repr

inductive AutoAttack where
  | no | yes | range
  deriving DecidableEq, Repr

structure LearnedSkill where
  group : UInt32
  level : UInt8
  deriving DecidableEq, Repr

structure SkillTimings where
  preparationTime : UInt32
  castTime : UInt32
  duration : Int32
  cooldown : UInt32
  nextDelay : UInt32

namespace TargetOption

def self : UInt8 := 0b00000001

def ally : UInt8 := 0b00000010

def party : UInt8 := 0b00000100

def enemyMonster : UInt8 := 0b00001000

def enemyPlayer : UInt8 := 0b00010000

def netral : UInt8 := 0b00100000

def any : UInt8 := 0b01000000

def dead : UInt8 := 0b10000000

end TargetOption

abbrev NonZeroU16 := { value : UInt16 // value ≠ 0 }

def NonZeroU16.new (value : UInt16) : Option NonZeroU16 :=
  if h : value ≠ 0 then some ⟨value, h⟩ else none

abbrev NonZeroU8 := { value : UInt8 // value ≠ 0 }

def NonZeroU8.new (value : UInt8) : Option NonZeroU8 :=
  if h : value ≠ 0 then some ⟨value, h⟩ else none

structure RefSkillData where
  refId : UInt32
  group : UInt32
  id : String
  original : Option NonZeroU32
  level : UInt8
  type : SkillType
  nextInChain : Option NonZeroU32
  timings : SkillTimings
  projectileSpeed : UInt32
  buffInterference : UInt32
  autoAttack : AutoAttack
  range : UInt16
  requiresTarget : Bool
  target : UInt8
  mastery : Option NonZeroU16
  masteryLevel : Option NonZeroU8
  requiredSkills : List LearnedSkill
  sp : UInt32
  race : UInt8
  weaponRequirements : Option ObjectWeaponType × Option ObjectWeaponType
  consumedHp : UInt32
  consumedMp : UInt32
  usageChance : UInt8
  usageType : UInt8
  params : List SkillParam

/-! ### Columns -/

/-- `s.split('\t')`. -/
def elementsOf (s : String) : List String := (s.toList.splitOn '\t').map String.ofList

def column (elements : List String) (i : UInt8) : Except (Failure ParseError) String :=
  match elements[i.toNat]? with
  | some text => .ok text
  | none => .error (.error (.missingColumn i))

/-- `text.parse()?` for a number. -/
def parseNumber {α : Type} (parse : String → Except IntErrorKind α) (text : String) :
    Except (Failure ParseError) α :=
  (parse text).mapError fun kind => .error (.numberParseError kind)

def parseColumn {α : Type} (parse : String → Except IntErrorKind α) (elements : List String) (i : UInt8) :
    Except (Failure ParseError) α :=
  column elements i >>= parseNumber parse

def SkillType.tryFrom : UInt8 → Option SkillType :=
  tryFromPrimitive [(0, .passive), (1, .imbue), (2, .action)]

def AutoAttack.tryFrom : UInt8 → Option AutoAttack :=
  tryFromPrimitive [(0, .no), (1, .yes), (2, .range)]

/-- `from_str` of an enumeration whose variants are numbered. -/
def parseVariant {α : Type} (tryFrom : UInt8 → Option α) (name : String) (text : String) :
    Except (Failure ParseError) α := do
  let value ← parseNumber parseU8 text
  match tryFrom value with
  | some variant => return variant
  | none => throw (.error (.unknownVariant value name))

/-! ### Lines -/

/-- What is known of a skill before its parameters are read. -/
structure LeadingColumns where
  next : UInt32
  original : UInt32
  requiredTarget : UInt8
  targetOptions : UInt8
  mastery : UInt16
  masteryLevel : UInt8
  skills : List LearnedSkill

def targetOption (column option : UInt8) : UInt8 := if column ≠ 0 then option else 0

def leadingColumns (elements : List String) : Except (Failure ParseError) LeadingColumns := do
  let next ← parseColumn parseU32 elements 9
  let original ← parseColumn parseU32 elements 6
  let requiredTarget ← parseColumn parseU8 elements 22
  let targetSelf ← parseColumn parseU8 elements 26
  let targetAlly ← parseColumn parseU8 elements 27
  let targetParty ← parseColumn parseU8 elements 28
  let targetEnemyMonster ← parseColumn parseU8 elements 29
  let targetEnemyPlayer ← parseColumn parseU8 elements 30
  let targetNeutral ← parseColumn parseU8 elements 31
  let targetAny ← parseColumn parseU8 elements 32
  let targetDead ← parseColumn parseU8 elements 33
  let targetOptions := targetOption targetSelf TargetOption.self |||
    targetOption targetAlly TargetOption.ally ||| targetOption targetParty TargetOption.party |||
    targetOption targetEnemyMonster TargetOption.enemyMonster |||
    targetOption targetEnemyPlayer TargetOption.enemyPlayer |||
    targetOption targetNeutral TargetOption.netral ||| targetOption targetAny TargetOption.any |||
    targetOption targetDead TargetOption.dead
  let mastery ← parseColumn parseU16 elements 34
  let masteryLevel ← parseColumn parseU8 elements 36
  let group₁ ← parseColumn parseU32 elements 40
  let level₁ ← parseColumn parseU8 elements 43
  let group₂ ← parseColumn parseU32 elements 41
  let level₂ ← parseColumn parseU8 elements 44
  let group₃ ← parseColumn parseU32 elements 42
  let level₃ ← parseColumn parseU8 elements 45
  let skills : List LearnedSkill := [⟨group₁, level₁⟩, ⟨group₂, level₂⟩, ⟨group₃, level₃⟩]
  return ⟨next, original, requiredTarget, targetOptions, mastery, masteryLevel,
    skills.filter fun skill => skill.group ≠ 0⟩

/-- `elements[69..]` as numbers: the slice and each `unwrap` may panic. -/
def numberColumn (elements : List String) : Except (Failure ParseError) (List UInt32) :=
  if 69 ≤ elements.length then
    (elements.drop 69).mapM fun col =>
      match parseI32 col with
      | .ok val => .ok val.toUInt32
      | .error _ => .error .panic
  else .error .panic

def paramColumns (elements : List String) : Except (Failure ParseError) (List SkillParam) := do
  let columns ← numberColumn elements
  match readParams columns with
  | some params => return params
  | none => throw .panic

/-- The columns that are looked at after the parameters. -/
def trailingColumns (elements : List String) (leading : LeadingColumns) (params : List SkillParam) :
    Except (Failure ParseError) RefSkillData := do
  let firstWeaponRequirement ← parseColumn parseU8 elements 50
  let secondWeaponRequirement ← parseColumn parseU8 elements 51
  let buffInference ← parseColumn parseI32 elements 18
  let refId ← parseColumn parseU32 elements 1
  let group ← parseColumn parseU32 elements 2
  let id ← column elements 3
  let level ← parseColumn parseU8 elements 7
  let type ← column elements 8 >>= parseVariant SkillType.tryFrom "SkillType"
  let preparationTime ← parseColumn parseU32 elements 11
  let castTime ← parseColumn parseU32 elements 12
  let duration ← parseColumn parseI32 elements 13
  let cooldown ← parseColumn parseU32 elements 14
  let nextDelay ← parseColumn parseU32 elements 15
  let projectileSpeed ← parseColumn parseU32 elements 16
  let autoAttack ← column elements 19 >>= parseVariant AutoAttack.tryFrom "AutoAttack"
  let range ← parseColumn parseU16 elements 21
  let sp ← parseColumn parseU32 elements 46
  let race ← parseColumn parseU8 elements 47
  let consumedHp ← parseColumn parseU32 elements 52
  let consumedMp ← parseColumn parseU32 elements 53
  let usageChance ← parseColumn parseU8 elements 66
  let usageType ← parseColumn parseU8 elements 67
  return {
    refId, group, id, level, type, projectileSpeed, autoAttack, range, sp, race, consumedHp, consumedMp,
    usageChance, usageType, params
    original := NonZeroU32.new leading.original
    nextInChain := NonZeroU32.new leading.next
    timings := ⟨preparationTime, castTime, duration, cooldown, nextDelay⟩
    buffInterference := buffInference.toUInt32
    requiresTarget := leading.requiredTarget ≠ 0
    target := leading.targetOptions
    mastery := NonZeroU16.new leading.mastery
    masteryLevel := NonZeroU8.new leading.masteryLevel
    requiredSkills := leading.skills
    weaponRequirements := (ObjectWeaponType.tryFrom firstWeaponRequirement,
      ObjectWeaponType.tryFrom secondWeaponRequirement) }

def RefSkillData.fromStr (s : String) : Except (Failure ParseError) RefSkillData := do
  let elements := elementsOf s
  let leading ← leadingColumns elements
  let params ← paramColumns elements
  trailingColumns elements leading params

/-! ### Columns do not panic -/

section Columns

variable {α : Type} {elements : List String}

theorem not_panics_column (i : UInt8) : ¬ Panics (column elements i) := by
  intro h
  unfold column at h
  split at h
  · exact not_panics_ok _ h
  · exact not_panics_error _ h

theorem not_panics_parseNumber (parse : String → Except IntErrorKind α) (text : String) :
    ¬ Panics (parseNumber parse text) := by
  intro h
  unfold parseNumber at h
  cases hparse : parse text with
  | ok value =>
      rw [hparse] at h
      exact not_panics_ok _ h
  | error kind =>
      rw [hparse] at h
      exact not_panics_error _ h

@[simp] theorem not_panics_parseColumn (parse : String → Except IntErrorKind α) (i : UInt8) :
    ¬ Panics (parseColumn parse elements i) :=
  not_panics_bind (not_panics_column i) fun text => not_panics_parseNumber parse text

@[simp] theorem not_panics_parseVariant (tryFrom : UInt8 → Option α) (name : String) (i : UInt8) :
    ¬ Panics (column elements i >>= parseVariant tryFrom name) := by
  refine not_panics_bind (not_panics_column i) fun text => ?_
  refine not_panics_bind (not_panics_parseNumber parseU8 text) fun value => ?_
  split
  · exact not_panics_ok _
  · exact not_panics_error _

/-- The column is there, and is a number of the type. -/
def Parses (parse : String → Except IntErrorKind α) (elements : List String) (i : UInt8) : Prop :=
  ∃ text value, elements[i.toNat]? = some text ∧ parse text = .ok value

theorem exists_parseColumn_iff {parse : String → Except IntErrorKind α} {i : UInt8} :
    (∃ value, parseColumn parse elements i = .ok value) ↔ Parses parse elements i := by
  unfold parseColumn Parses column
  cases elements[i.toNat]? with
  | none => simp
  | some text =>
      unfold parseNumber
      cases hparse : parse text with
      | error kind => simp [hparse, Except.mapError]
      | ok value => simp [hparse, Except.mapError]

end Columns

/-! ### The parts of a line -/

section Lines

variable {elements : List String}

/-- The columns that are looked at before the parameters are there, and are numbers of their types. -/
def LeadingParse (elements : List String) : Prop :=
  (∀ i ∈ [9, 6, 40, 41, 42], Parses parseU32 elements i) ∧ Parses parseU16 elements 34 ∧
    ∀ i ∈ [22, 26, 27, 28, 29, 30, 31, 32, 33, 36, 43, 44, 45], Parses parseU8 elements i

theorem not_panics_leadingColumns (elements : List String) : ¬ Panics (leadingColumns elements) := by
  unfold leadingColumns
  repeat refine not_panics_bind (not_panics_parseColumn _ _) fun _ => ?_
  exact not_panics_ok _

theorem not_panics_trailingColumns (elements : List String) (leading : LeadingColumns)
    (params : List SkillParam) : ¬ Panics (trailingColumns elements leading params) := by
  unfold trailingColumns
  repeat
    first
    | refine not_panics_bind (not_panics_parseColumn _ _) fun _ => ?_
    | refine not_panics_bind (not_panics_parseVariant _ _ _) fun _ => ?_
    | refine not_panics_bind (not_panics_column _) fun _ => ?_
  exact not_panics_ok _

theorem exists_leadingColumns_iff :
    (∃ leading, leadingColumns elements = .ok leading) ↔ LeadingParse elements := by
  have hreturns (leading : LeadingColumns) : (∃ result : LeadingColumns,
      (pure leading : Except (Failure ParseError) LeadingColumns) = .ok result) ↔ True :=
    ⟨fun _ => trivial, fun _ => ⟨leading, rfl⟩⟩
  simp only [leadingColumns, exists_bind_eq_ok_iff, hreturns, and_true, exists_and_right,
    exists_parseColumn_iff]
  simp only [LeadingParse, List.forall_mem_cons, List.not_mem_nil, false_imp_iff, implies_true, and_true]
  tauto

theorem unwrapped_numberColumn (elements : List String) : Unwrapped (numberColumn elements) := by
  unfold numberColumn
  split
  · refine unwrapped_mapM (fun col e => ?_) _
    split <;> simp
  · intro e heq
    cases heq

theorem unwrapped_paramColumns (elements : List String) : Unwrapped (paramColumns elements) := by
  refine (unwrapped_numberColumn elements).bind fun columns e => ?_
  split
  · intro heq
    cases heq
  · intro heq
    cases heq

theorem numberColumn_eq_ok_iff {values : List Int32} :
    numberColumn elements = .ok (values.map Int32.toUInt32) ↔ 69 ≤ elements.length ∧
      List.Forall₂ (fun column value => parseI32 column = .ok value) (elements.drop 69) values := by
  have hcolumn (col : String) (value : Int32) :
      (match parseI32 col with
        | .ok val => .ok val.toUInt32
        | .error _ => .error .panic : Except (Failure ParseError) UInt32) = .ok value.toUInt32 ↔
      parseI32 col = .ok value := by
    cases parseI32 col with
    | error kind => simp
    | ok val =>
        simp only [Except.ok.injEq]
        exact ⟨fun h => congrArg UInt32.toInt32 h, fun h => congrArg Int32.toUInt32 h⟩
  unfold numberColumn
  split
  · rename_i hlen
    simp only [mapM_eq_ok_iff, List.forall₂_map_right_iff, hcolumn, hlen, true_and]
  · rename_i hlen
    simp [hlen]

/-- The columns of the parameters are there, are numbers, and can be read. -/
theorem not_panics_paramColumns_iff :
    ¬ Panics (paramColumns elements) ↔
      69 ≤ elements.length ∧ ∃ values : List Int32,
        List.Forall₂ (fun column value => parseI32 column = .ok value) (elements.drop 69) values ∧
          (readParams (values.map Int32.toUInt32)).isSome := by
  have hread (columns : List UInt32) : (∃ params, (match readParams columns with
      | some params => pure params
      | none => throw .panic : Except (Failure ParseError) (List SkillParam)) = .ok params) ↔
      (readParams columns).isSome := by
    cases readParams columns with
    | none =>
        constructor
        · rintro ⟨params, ⟨⟩⟩
        · rintro ⟨⟩
    | some params => exact ⟨fun _ => rfl, fun _ => ⟨params, rfl⟩⟩
  rw [(unwrapped_paramColumns elements).not_panics_iff, paramColumns, exists_bind_eq_ok_iff]
  simp only [hread]
  constructor
  · rintro ⟨columns, hcolumns, hsome⟩
    -- every word is the cast of a number
    have hcast : (columns.map UInt32.toInt32).map Int32.toUInt32 = columns := by
      rw [List.map_map]
      exact List.map_id columns
    rw [← hcast] at hcolumns hsome
    obtain ⟨hlen, hvalues⟩ := numberColumn_eq_ok_iff.1 hcolumns
    exact ⟨hlen, _, hvalues, hsome⟩
  · rintro ⟨hlen, values, hvalues, hsome⟩
    exact ⟨_, numberColumn_eq_ok_iff.2 ⟨hlen, hvalues⟩, hsome⟩

theorem panics_fromStr_iff (s : String) :
    Panics (RefSkillData.fromStr s) ↔ LeadingParse (elementsOf s) ∧ Panics (paramColumns (elementsOf s)) := by
  unfold RefSkillData.fromStr
  simp only [panics_bind_iff, not_panics_leadingColumns, not_panics_trailingColumns, false_or, and_false,
    exists_false, or_false, exists_and_right, exists_leadingColumns_iff]

end Lines

/-- **Which lines are safe.**  A line is parsed or is an error exactly if a column before the parameters is at
fault, or the columns from the 69th on are there, are numbers, and can be read as parameters. -/
theorem skill_line_is_safe_iff (s : String) :
    ((∃ data, RefSkillData.fromStr s = .ok data) ∨ ∃ e, RefSkillData.fromStr s = .error (.error e)) ↔
      ¬ LeadingParse (elementsOf s) ∨ 69 ≤ (elementsOf s).length ∧ ∃ values : List Int32,
        List.Forall₂ (fun column value => parseI32 column = .ok value) ((elementsOf s).drop 69) values ∧
          ReadableParams (values.map Int32.toUInt32) := by
  have hends : ((∃ data, RefSkillData.fromStr s = .ok data) ∨
      ∃ e, RefSkillData.fromStr s = .error (.error e)) ↔ ¬ Panics (RefSkillData.fromStr s) := by
    cases RefSkillData.fromStr s with
    | ok data => simp [Panics]
    | error failure => cases failure <;> simp [Panics]
  rw [hends, panics_fromStr_iff, not_and_or, not_panics_paramColumns_iff]
  simp only [readParams_isSome_iff]

/-- As many columns of zeros as are looked at before the parameters. -/
def shortLine : String := String.ofList (List.intercalate ['\t'] (List.replicate 46 ['0']))

theorem elementsOf_shortLine : elementsOf shortLine = List.replicate 46 "0" := by
  rw [elementsOf, shortLine, String.toList_ofList, List.splitOn_intercalate]
  · rfl
  · simp
  · simp

theorem short_line_panics :
    ¬ ∀ s, (∃ data, RefSkillData.fromStr s = .ok data) ∨
      ∃ e, RefSkillData.fromStr s = .error (.error e) := by
  intro h
  have hzero {α : Type} {parse : String → Except IntErrorKind α} {value : α} (hparse : parse "0" = .ok value)
      {i : UInt8} (hi : i.toNat < 46) : Parses parse (elementsOf shortLine) i := by
    refine ⟨"0", value, ?_, hparse⟩
    rw [elementsOf_shortLine, List.getElem?_replicate_of_lt hi]
  have hleading : LeadingParse (elementsOf shortLine) := by
    have hu32 : ∀ i ∈ ([9, 6, 40, 41, 42] : List UInt8), i.toNat < 46 := by simp
    have hu8 : ∀ i ∈ ([22, 26, 27, 28, 29, 30, 31, 32, 33, 36, 43, 44, 45] : List UInt8),
        i.toNat < 46 := by simp
    exact ⟨fun i hi => hzero (show parseU32 "0" = .ok 0 by decide) (hu32 i hi),
      hzero (show parseU16 "0" = .ok 0 by decide) (by decide),
      fun i hi => hzero (show parseU8 "0" = .ok 0 by decide) (hu8 i hi)⟩
  -- the slice from the 69th column on
  have hparams : Panics (paramColumns (elementsOf shortLine)) := by
    rw [elementsOf_shortLine]
    rfl
  have hpanics : Panics (RefSkillData.fromStr shortLine) :=
    (panics_fromStr_iff shortLine).2 ⟨hleading, hparams⟩
  obtain ⟨data, hdata⟩ | ⟨e, he⟩ := h shortLine
  · rw [hdata] at hpanics
    exact not_panics_ok _ hpanics
  · rw [he] at hpanics
    exact not_panics_error _ hpanics

end Skrillax.SkillData

/-
**The columns of a parameter.**

A parameter is written as the packed name of its kind, and its fields in their order, one column each.
`parseParam` reads it back and leaves the columns after it, for every kind but one: of the six columns of a
panic, the fourth is read for each of the last three fields.

Main definitions:

* `code`, `operands`, `layout` — the columns of a parameter;
* `Fits` — the names of a parameter can be packed, and its list of monsters can be closed by a zero;
* `readBack`, `IsReadBack` — what is read from the columns of a parameter, and the parameters for which
  this is the parameter itself.

Main results:

* `exists_reader` — the columns of each kind are read as `readBack`;
* `parseParam_layout`, `readParams_layouts_of_not_endsInSetValue` — so are those of a parameter, and those
  of a list of parameters that is closed by a zero;
* `param_is_read_back_iff` — exactly the parameters in `IsReadBack` are read back.
-/

import Mathlib
import Skrillax.SkillParams
import Skrillax.TypeValue

set_option relaxedAutoImplicit false
set_option autoImplicit false

namespace Skrillax.SkillData

open PackedName RowReader

/-! ### Writing parameters -/

def MonsterSummon.columns (summon : MonsterSummon) : List UInt32 :=
  [summon.refId, summon.rarity.toUInt32, summon.min.toUInt32, summon.max.toUInt32]

/-- The column of a distance, zero for none. -/
def distanceColumn : Option NonZeroU32 → UInt32
  | none => 0
  | some distance => distance.val

/-- The name of the kind. -/
def code : SkillParam → String
  | .attack .. => "att"
  | .chain .. => "mc"
  | .getValue .. => "getv"
  | .setValue .. => "setv"
  | .duration .. => "dura"
  | .requiredItem .. => "reqi"
  | .increaseDefense .. => "defp"
  | .blockRatio .. => "br"
  | .knockdown .. => "ko"
  | .aoe .. => "efr"
  | .downAttack .. => "da"
  | .requiredState .. => "reqc"
  | .stun .. => "st"
  | .knockback .. => "kb"
  | .increaseHP .. => "hpi"
  | .increaseMP .. => "mpi"
  | .consumeItem .. => "cnsm"
  | .increaseCrit .. => "cr"
  | .increaseHitRate .. => "hr"
  | .summonBird .. => "summ"
  | .increaseRange .. => "ru"
  | .freeze .. => "fz"
  | .frostbite .. => "fb"
  | .tantUnkn .. => "tant"
  | .consumeMana .. => "onff"
  | .createWall .. => "pw"
  | .effectLightning .. => "es"
  | .increaseDamage .. => "dru"
  | .increaseSpeed .. => "hste"
  | .teleport .. => "tele"
  | .increaseEvasion .. => "er"
  | .burn .. => "bu"
  | .reduceNegativeEffects .. => "bgra"
  | .real .. => "real"
  | .heal .. => "heal"
  | .invisible .. => "hide"
  | .increaseExperience .. => "expu"
  | .itemBuff => "cbuf"
  | .interval .. => "puls"
  | .resurrect .. => "resu"
  | .psog .. => "psog"
  | .nbuf => "nbuf"
  | .debuff => "bbuf"
  | .increaseTaunt .. => "tnt2"
  | .summonMonster .. => "ssou"
  | .dullDebuff .. => "sl"
  | .fearDebuff .. => "fe"
  | .bleedDebuff .. => "bl"
  | .restrain .. => "rt"
  | .increaseBerserk .. => "hwdu"
  | .shortSight .. => "my"
  | .poison .. => "ps"
  | .linked .. => "lnks"
  | .atca .. => "atca"
  | .maxLinks => "lks2"
  | .petBuff .. => "pet2"
  | .impotent .. => "cssr"
  | .darkness .. => "dn"
  | .decreaseMagicalDefense .. => "csmd"
  | .decreasePhysicalDefense .. => "cspd"
  | .absorbDamage .. => "odar"
  | .disease .. => "ds"
  | .division .. => "csit"
  | .panic .. => "cshp"
  | .mwhh .. => "mwhh"
  | .increaseAttackPower .. => "apau"
  | .increaseInt .. => "inti"
  | .increaseStr .. => "stri"
  | .defaultAttack .. => "ck"
  | .vipBuff => "vbuf"
  | .sleep .. => "se"

/-- The columns after the one of the kind. -/
def operands : SkillParam → List UInt32
  | .attack kind phys min max mag => [kind, phys, min, max, mag]
  | .chain count unknown => [count, unknown]
  | .getValue var => [pack var]
  | .setValue var value value2 => [pack var, value, value2]
  | .duration duration => [duration]
  | .requiredItem item => [item.typeValue.1.toUInt32, item.typeValue.2.toUInt32]
  | .increaseDefense phys mag unknown => [phys, mag, unknown]
  | .blockRatio unknown percent => [unknown.toUInt32, percent.toUInt32]
  | .knockdown unknown chance => [unknown.toUInt32, chance.toUInt32]
  | .aoe origin areaType areaSize unknownType val1 val2 =>
      [origin.toUInt32, areaType.toUInt32, areaSize.toUInt32, unknownType.toUInt32, val1, val2]
  | .downAttack amount => [amount.toUInt32]
  | .requiredState state => [state.toUInt32]
  | .stun duration chance level => [duration, chance.toUInt32, level.toUInt32]
  | .knockback chance distance => [chance.toUInt32, distance.toUInt32]
  | .increaseHP absolute percent => [absolute, percent.toUInt32]
  | .increaseMP absolute percent => [absolute, percent.toUInt32]
  | .consumeItem kind amount => [kind.typeValue.1.toUInt32, kind.typeValue.2.toUInt32, amount.toUInt32]
  | .increaseCrit amount unknown => [amount.toUInt32, unknown.toUInt32]
  | .increaseHitRate attackRate hitRate => [attackRate.toUInt32, hitRate.toUInt32]
  | .summonBird refId unknown unknown2 duration =>
      [refId, unknown.toUInt32, unknown2.toUInt32, duration.toUInt32]
  | .increaseRange amount => [amount.toUInt32]
  | .freeze unknown chance => [unknown.toUInt32, chance.toUInt32]
  | .frostbite unknown chance => [unknown.toUInt32, chance.toUInt32]
  | .tantUnkn unknown unknown2 => [unknown, unknown2]
  | .consumeMana duration amount => [duration, amount]
  | .createWall unknown unknown2 empty level =>
      [unknown.toUInt32, unknown2, empty.toUInt32, level.toUInt32]
  | .effectLightning unknown unknown2 unknown3 => [unknown.toUInt32, unknown2.toUInt32, unknown3.toUInt32]
  | .increaseDamage phys mag => [phys.toUInt32, mag.toUInt32]
  | .increaseSpeed percent => [percent.toUInt32]
  | .teleport duration distance => [duration, distance.toUInt32]
  | .increaseEvasion evasion parry => [evasion.toUInt32, parry.toUInt32]
  | .burn max chance min => [max, chance.toUInt32, min]
  | .reduceNegativeEffects kind amount empty => [kind.toUInt32, amount.toUInt32, empty.toUInt32]
  | .real buffInterference chance level => [buffInterference, chance.toUInt32, level.toUInt32]
  | .heal hpAbs hpPercentage mpAbs mpPercentage =>
      [hpAbs, hpPercentage.toUInt32, mpAbs, mpPercentage.toUInt32]
  | .invisible kind level unknown => [kind.toUInt32, level.toUInt32, unknown.toUInt32]
  | .increaseExperience expPercentage spPercentage => [expPercentage.toUInt32, spPercentage.toUInt32]
  | .itemBuff => []
  | .interval interval => [interval]
  | .resurrect maxLevel experienceRestore => [maxLevel.toUInt32, experienceRestore.toUInt32]
  | .psog value => [value.toUInt32]
  | .nbuf => []
  | .debuff => []
  | .increaseTaunt tauntValue aggroPercent => [tauntValue, aggroPercent.toUInt32]
  | .summonMonster summons => summons.flatMap MonsterSummon.columns ++ [0]
  | .dullDebuff duration chance level => [duration, chance.toUInt32, level.toUInt32]
  | .fearDebuff duration chance level => [duration, chance.toUInt32, level.toUInt32]
  | .bleedDebuff duration chance level damage unknown =>
      [duration, chance.toUInt32, level.toUInt32, damage, unknown.toUInt32]
  | .restrain duration chance level => [duration, chance.toUInt32, level.toUInt32]
  | .increaseBerserk amount => [amount.toUInt32]
  | .shortSight duration chance level distance =>
      [duration, chance.toUInt32, level.toUInt32, distance.toUInt32]
  | .poison unknown chance damage => [unknown.toUInt32, chance.toUInt32, damage]
  | .linked level distance maxLinks damageShare =>
      [level.toUInt32, distanceColumn distance, maxLinks.toUInt32, if damageShare then 1 else 0]
  | .atca unknown unknown2 => [unknown.toUInt32, unknown2.toUInt32]
  | .maxLinks => []
  | .petBuff attributeName unknown unknown2 unknown3 =>
      [pack attributeName, unknown.toUInt32, unknown2.toUInt32, unknown3.toUInt32]
  | .impotent duration chance level unknown =>
      [duration, chance.toUInt32, level.toUInt32, unknown.toUInt32]
  | .darkness duration chance level unknown =>
      [duration, chance.toUInt32, level.toUInt32, unknown.toUInt32]
  | .decreaseMagicalDefense duration chance level value =>
      [duration, chance.toUInt32, level.toUInt32, value.toUInt32]
  | .decreasePhysicalDefense duration chance level value =>
      [duration, chance.toUInt32, level.toUInt32, value.toUInt32]
  | .absorbDamage level percent => [level.toUInt32, percent.toUInt32]
  | .disease duration chance level unknown => [duration, chance.toUInt32, level.toUInt32, unknown.toUInt32]
  | .division duration chance level unknown =>
      [duration, chance.toUInt32, level.toUInt32, unknown.toUInt32]
  | .panic duration chance level min max unknown =>
      [duration, chance.toUInt32, level.toUInt32, min.toUInt32, max.toUInt32, unknown.toUInt32]
  | .mwhh value => [value.toUInt32]
  | .increaseAttackPower physical magical => [physical.toUInt32, magical.toUInt32]
  | .increaseInt amount unknown => [amount.toUInt32, unknown.toUInt32]
  | .increaseStr amount unknown => [amount.toUInt32, unknown.toUInt32]
  | .defaultAttack value => [value.toUInt32]
  | .vipBuff => []
  | .sleep duration chance level => [duration, chance.toUInt32, level.toUInt32]

/-- The columns of a parameter. -/
def layout (param : SkillParam) : List UInt32 := pack (code param) :: operands param

/-- The names are one to four ASCII characters, and a list of monsters is not empty and has no zero that
would close it. -/
def Fits : SkillParam → Prop
  | .getValue var => Packable var
  | .setValue var .. => Packable var
  | .petBuff attributeName .. => Packable attributeName
  | .summonMonster summons => summons ≠ [] ∧ ∀ summon ∈ summons, summon.refId ≠ 0
  | _ => True

def isSetValue : SkillParam → Bool
  | .setValue .. => true
  | _ => false

/-- What the columns of the parameter are read as. -/
def readBack : SkillParam → SkillParam
  | .panic duration chance level min .. => .panic duration chance level min min min
  | param => param

/-- The fields of a panic that are read from one column have the same value. -/
def IsReadBack : SkillParam → Prop
  | .panic _ _ _ min max unknown => max = min ∧ unknown = min
  | _ => True

theorem readBack_eq_self_iff (param : SkillParam) : readBack param = param ↔ IsReadBack param := by
  cases param with
  | panic duration chance level min max unknown => simp [readBack, IsReadBack, eq_comm]
  | _ => simp [readBack, IsReadBack]

/-! ### The columns of one kind -/

theorem packable_code (param : SkillParam) : Packable (code param) := by
  cases param <;> exact ⟨by simp [code, ← String.length_toList],
    by simp [code, ← String.length_toList], by simp [code]⟩

theorem new_distanceColumn (distance : Option NonZeroU32) :
    NonZeroU32.new (distanceColumn distance) = distance := by
  cases distance with
  | none => rfl
  | some distance => exact dif_pos distance.property

def MonsterSummon.vector (summon : MonsterSummon) : Vector UInt32 4 := ⟨summon.columns.toArray, rfl⟩

theorem MonsterSummon.ofColumns_vector (summon : MonsterSummon) : ofColumns summon.vector = summon := by
  simp [ofColumns, vector, columns]

/-- A list of monsters is read back from its columns. -/
theorem readSummons_columns {written : List MonsterSummon} (hne : written ≠ [])
    (hids : ∀ summon ∈ written, summon.refId ≠ 0) (rest : List UInt32) :
    readSummons [] (written.flatMap MonsterSummon.columns ++ 0 :: rest) = some (0 :: rest, written) := by
  have hids' : ∀ monster ∈ written.map MonsterSummon.vector, monster[0]! ≠ 0 := by
    intro monster hmonster
    obtain ⟨summon, hsummon, rfl⟩ := List.mem_map.mp hmonster
    exact hids summon hsummon
  have hread := readSummons_flatMap [] (written.map MonsterSummon.vector) (Or.inr (by simpa using hne)) hids' rest
  rw [List.flatMap_map, List.map_map, List.nil_append] at hread
  have hmap : written.map (MonsterSummon.ofColumns ∘ MonsterSummon.vector) = written :=
    (List.map_congr_left fun summon _ => summon.ofColumns_vector).trans (List.map_id written)
  rw [hmap] at hread
  exact hread

theorem droppingZero_run {r : RowReader UInt32 SkillParam} {columns rest : List UInt32}
    {param : SkillParam} (h : r.Reads columns param) (hrest : rest.head? ≠ some 0) :
    (droppingZero r).run (columns ++ rest) = some (rest, param) := by
  simp only [droppingZero, h rest, Option.map_some, if_neg hrest]

theorem droppingZero_run_zero {r : RowReader UInt32 SkillParam} {columns : List UInt32}
    {param : SkillParam} (h : r.Reads columns param) (rest : List UInt32) :
    (droppingZero r).run (columns ++ 0 :: rest) = some (rest, param) := by
  simp [droppingZero, h (0 :: rest)]

theorem reads_setValue {var : String} (hvar : Packable var) (value value2 : UInt32) :
    (fieldsOrFail 3 fun d : Vector UInt32 3 =>
      (unpack d[0]!).map fun var => SkillParam.setValue var d[1]! d[2]!).Reads
        (operands (.setValue var value value2)) (.setValue var value value2) :=
  reads_fieldsOrFail rfl (by simp [operands, unpack_pack hvar])

/-- The reader of the kind takes the columns of the parameter.  After an assignment, no zero may follow. -/
theorem exists_reader {param : SkillParam} (hfits : Fits param) :
    ∃ reader, paramReader (code param) = some reader ∧
      ∀ rest : List UInt32, (isSetValue param → rest.head? ≠ some 0) →
        reader.run (operands param ++ rest) = some (rest, readBack param) := by
  cases param with
  | getValue var =>
      refine ⟨_, rfl, fun rest _ => reads_fieldsOrFail ?_ ?_ rest⟩
      · rfl
      · simp [operands, readBack, unpack_pack hfits]
  | setValue var value value2 =>
      exact ⟨_, rfl, fun rest hrest => droppingZero_run (reads_setValue hfits value value2) (hrest rfl)⟩
  | requiredItem item =>
      refine ⟨_, rfl, fun rest _ => reads_fieldsOrFail ?_ ?_ rest⟩
      · rfl
      · simp [operands, readBack, ObjectEquippable.fromTypeValue_typeValue]
  | consumeItem kind amount =>
      refine ⟨_, rfl, fun rest _ => reads_fieldsOrFail ?_ ?_ rest⟩
      · rfl
      · simp [operands, readBack, ObjectConsumable.fromTypeValue_typeValue]
  | linked level distance maxLinks damageShare =>
      refine ⟨_, rfl, fun rest _ => reads_fields ?_ ?_ rest⟩
      · rfl
      · cases damageShare <;> simp [operands, readBack, new_distanceColumn]
  | petBuff attributeName unknown unknown2 unknown3 =>
      refine ⟨_, rfl, fun rest _ => reads_fieldsOrFail ?_ ?_ rest⟩
      · rfl
      · simp [operands, readBack, unpack_pack hfits]
  | summonMonster summons =>
      refine ⟨_, rfl, fun rest _ => ?_⟩
      have hread := readSummons_columns hfits.1 hfits.2 rest
      simp [operands, readBack, summonReader, hread]
  | itemBuff => exact ⟨_, rfl, fun rest _ => reads_nothing _ rest⟩
  | nbuf => exact ⟨_, rfl, fun rest _ => reads_nothing _ rest⟩
  | debuff => exact ⟨_, rfl, fun rest _ => reads_nothing _ rest⟩
  | maxLinks => exact ⟨_, rfl, fun rest _ => reads_nothing _ rest⟩
  | vipBuff => exact ⟨_, rfl, fun rest _ => reads_nothing _ rest⟩
  | _ =>
      -- the remaining kinds have fields only, and a widened field is narrowed to itself again
      refine ⟨_, rfl, fun rest _ => reads_fields ?_ ?_ rest⟩
      · rfl
      · simp [operands, readBack]

/-! ### Reading what was written -/

theorem head_layout_ne_zero (param : SkillParam) (rest : List UInt32) :
    (layout param ++ rest).head? ≠ some 0 :=
  fun h => pack_ne_zero (packable_code param) (Option.some.inj h)

/-- Whatever follows it, a parameter takes its own columns only, unless a zero follows an assignment. -/
theorem parseParam_layout {param : SkillParam} {rest : List UInt32} (hfits : Fits param)
    (hrest : isSetValue param → rest.head? ≠ some 0) :
    parseParam (layout param ++ rest) = some (some (rest, readBack param)) := by
  obtain ⟨reader, hreader, hrun⟩ := exists_reader hfits
  have hcode := packable_code param
  rw [layout, List.cons_append, parseParam_of_kind (pack_ne_zero hcode) (unpack_pack hcode) hreader,
    hrun rest hrest]
  rfl

/-- An assignment takes the zero after it too. -/
theorem parseParam_layout_zero {param : SkillParam} (rest : List UInt32) (hfits : Fits param)
    (hset : isSetValue param) :
    parseParam (layout param ++ 0 :: rest) = some (some (rest, readBack param)) := by
  cases param with
  | setValue var value value2 =>
      have hcode := packable_code (.setValue var value value2)
      rw [layout, List.cons_append, parseParam_of_kind (pack_ne_zero hcode) (unpack_pack hcode) rfl,
        droppingZero_run_zero (reads_setValue hfits value value2)]
      rfl
  | _ => cases hset

theorem readParams_layout_append {params : List SkillParam} {tail : List UInt32}
    (hfits : ∀ param ∈ params, Fits param) (htail : tail.head? ≠ some 0) :
    readParams (params.flatMap layout ++ tail) = (readParams tail).map (params.map readBack ++ ·) :=
  EntryReader.all_flatMap params htail (fun param _ rest => head_layout_ne_zero param rest)
    fun param hparam _ hrest => parseParam_layout (hfits param hparam) fun _ => hrest

/-- The last parameter is an assignment. -/
def EndsInSetValue (params : List SkillParam) : Prop :=
  ∃ param, params.getLast? = some param ∧ isSetValue param

theorem readParams_zero (rest : List UInt32) : readParams (0 :: rest) = some [] :=
  EntryReader.all_of_end rfl

/-- The zero after a list of parameters ends it. -/
theorem readParams_layouts_of_not_endsInSetValue {params : List SkillParam} (rest : List UInt32)
    (hfits : ∀ param ∈ params, Fits param) (hlast : ¬ EndsInSetValue params) :
    readParams (params.flatMap layout ++ 0 :: rest) = some (params.map readBack) := by
  rcases List.eq_nil_or_concat params with rfl | ⟨before, last, rfl⟩
  · exact readParams_zero rest
  · have hnext : parseParam (layout last ++ 0 :: rest) = some (some (0 :: rest, readBack last)) :=
      parseParam_layout (hfits last (by simp)) fun hset => absurd ⟨last, by simp, hset⟩ hlast
    have htail : readParams (layout last ++ 0 :: rest) = some [readBack last] := by
      rw [readParams, EntryReader.all_of_next hnext]
      exact congrArg _ (readParams_zero rest)
    rw [List.concat_eq_append, List.flatMap_append, List.append_assoc, List.flatMap_singleton,
      readParams_layout_append (fun param hparam => hfits param (by simp [hparam]))
        (head_layout_ne_zero last _), htail]
    simp

/-- After an assignment, the zero belongs to it, and the columns behind the zero are read as well. -/
theorem readParams_layouts_of_endsInSetValue {params : List SkillParam} (rest : List UInt32)
    (hfits : ∀ param ∈ params, Fits param) (hlast : EndsInSetValue params) :
    readParams (params.flatMap layout ++ 0 :: rest) =
      (readParams rest).map (params.map readBack ++ ·) := by
  obtain ⟨last, hgetLast, hset⟩ := hlast
  obtain ⟨before, rfl⟩ := List.getLast?_eq_some_iff.mp hgetLast
  have hnext : parseParam (layout last ++ 0 :: rest) = some (some (rest, readBack last)) :=
    parseParam_layout_zero rest (hfits last (by simp)) hset
  have htail : readParams (layout last ++ 0 :: rest) = (readParams rest).map (readBack last :: ·) :=
    EntryReader.all_of_next hnext
  rw [List.flatMap_append, List.append_assoc, List.flatMap_singleton,
    readParams_layout_append (fun param hparam => hfits param (by simp [hparam]))
      (head_layout_ne_zero last _), htail, Option.map_map]
  simp [Function.comp_def]

theorem map_readBack_eq_self_iff (params : List SkillParam) :
    params.map readBack = params ↔ ∀ param ∈ params, IsReadBack param := by
  simp only [← readBack_eq_self_iff]
  calc params.map readBack = params
    _ ↔ params.map readBack = params.map id := by rw [List.map_id]
    _ ↔ ∀ param ∈ params, readBack param = param := List.map_inj_left

/-- Some parameters and more are as many as the parameters only if there are no more. -/
theorem map_append_eq_self_iff (read : Option (List SkillParam)) (params : List SkillParam) :
    read.map (params.map readBack ++ ·) = some params ↔
      (∀ param ∈ params, IsReadBack param) ∧ read = some [] := by
  rw [← map_readBack_eq_self_iff]
  constructor
  · intro h
    obtain ⟨more, hread, hparams⟩ := Option.map_eq_some_iff.mp h
    have hlen := congrArg List.length hparams
    rw [List.length_append, List.length_map, Nat.add_eq_left, List.length_eq_zero_iff] at hlen
    subst hlen
    exact ⟨by simpa using hparams, hread⟩
  · rintro ⟨hparams, hread⟩
    simp [hread, hparams]

/-- A parameter is read back from its columns, and leaves the columns after it, unless it is a panic whose
last three fields differ.  A list of parameters with a zero after it is read back unless there is such a
panic in it, or it ends in an assignment, which takes the zero, and more parameters follow. -/
theorem param_is_read_back_iff (rest : List UInt32) :
    (∀ param : SkillParam, Fits param → (isSetValue param → rest.head? ≠ some 0) →
      (parseParam (layout param ++ rest) = some (some (rest, param)) ↔ IsReadBack param)) ∧
    ∀ params : List SkillParam, (∀ param ∈ params, Fits param) →
      (readParams (params.flatMap layout ++ 0 :: rest) = some params ↔
        (∀ param ∈ params, IsReadBack param) ∧ (EndsInSetValue params → NamesNoParam rest)) := by
  constructor
  · intro param hfits hrest
    rw [parseParam_layout hfits hrest, ← readBack_eq_self_iff]
    simp
  · intro params hfits
    by_cases hlast : EndsInSetValue params
    · have hend : readParams rest = some [] ↔ NamesNoParam rest :=
        EntryReader.all_eq_nil_iff.trans (parseParam_eq_none_iff rest)
      rw [readParams_layouts_of_endsInSetValue rest hfits hlast, map_append_eq_self_iff, hend]
      simp [hlast]
    · rw [readParams_layouts_of_not_endsInSetValue rest hfits hlast, Option.some.injEq,
        map_readBack_eq_self_iff]
      simp [hlast]

theorem param_is_read_back_for_a_stun :
    parseParam (layout (.stun 5000 30 2) ++ [0]) = some (some ([0], .stun 5000 30 2)) ∧
    readParams ([.summonMonster [⟨1907, 0, 1, 3⟩], .stun 5000 30 2].flatMap layout ++ [0]) =
      some [.summonMonster [⟨1907, 0, 1, 3⟩], .stun 5000 30 2] := by
  constructor
  · exact ((param_is_read_back_iff [0]).1 (.stun 5000 30 2) trivial (by simp [isSetValue])).mpr trivial
  · refine ((param_is_read_back_iff []).2 _ ?_).mpr ⟨?_, ?_⟩
    · simp [Fits]
    · simp [IsReadBack]
    · simp [EndsInSetValue, isSetValue]

/-- A panic with the levels `1` to `2` is read as one with the levels `1` to `1`. -/
theorem panic_is_not_read_back :
    ¬ ∀ (param : SkillParam) (rest : List UInt32), Fits param →
      (isSetValue param → rest.head? ≠ some 0) →
        parseParam (layout param ++ rest) = some (some (rest, param)) := by
  intro h
  have hread := h (.panic 5000 50 3 1 2 4) [] trivial (by simp [isSetValue])
  have hback : parseParam (layout (.panic 5000 50 3 1 2 4) ++ []) =
      some (some ([], .panic 5000 50 3 1 1 1)) :=
    parseParam_layout trivial (by simp [isSetValue])
  have heq := hback.symm.trans hread
  simp at heq

end Skrillax.SkillData

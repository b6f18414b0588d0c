/-
**The parameters of a skill.**

The last columns of a line of the skill data are a list of parameters.  A parameter begins with the column
of its kind, a name of up to four characters packed into the number, and each kind has its own columns after
that.  Almost all kinds have a fixed number of them; the summoned monsters are a list closed by a zero, and
a zero after an assignment is dropped.  `parseParam` reads one parameter, or finds that the columns do not
begin with one, and the parameters of a skill are what it reads from the columns over and over.

Main definitions:

* `SkillParam` — the kinds of parameters, with their fields;
* `paramReader` — how the columns of each kind are read;
* `parseParam`, `readParams` — one parameter, and all parameters of a skill.

Main results:

* `parseParam_of_kind`, `parseParam_eq_some`, `parseParam_eq_none_iff` — where a parameter is read, and
  where there is none;
* `readSummons_flatMap` — the loop over the summoned monsters reads them up to a zero.
-/

import Mathlib
import Skrillax.PackedName
import Skrillax.RowReader
import Skrillax.TypeId

set_option relaxedAutoImplicit false
set_option autoImplicit false

namespace Skrillax.SkillData

open PackedName RowReader

/-! ### Parameters -/

abbrev NonZeroU32 := { value : UInt32 // value ≠ 0 }

def NonZeroU32.new (value : UInt32) : Option NonZeroU32 :=
  if h : value ≠ 0 then some ⟨value, h⟩ else none

structure MonsterSummon where
  refId : UInt32
  rarity : UInt8
  min : UInt8
  max : UInt8

inductive SkillParam where
  | attack (kind phys min max mag : UInt32)
  | chain (count unknown : UInt32)
  | getValue (var : String)
  | setValue (var : String) (value value2 : UInt32)
  | duration (duration : UInt32)
  | requiredItem (item : ObjectEquippable)
  | increaseDefense (phys mag unknown : UInt32)
  | blockRatio (unknown percent : UInt8)
  | knockdown (unknown chance : UInt8)
  | aoe (origin areaType : UInt8) (areaSize : UInt16) (unknownType : UInt8) (val1 val2 : UInt32)
  | downAttack (amount : UInt16)
  | requiredState (state : UInt8)
  | stun (duration : UInt32) (chance level : UInt8)
  | knockback (chance : UInt8) (distance : UInt16)
  | increaseHP (absolute : UInt32) (percent : UInt8)
  | increaseMP (absolute : UInt32) (percent : UInt8)
  | consumeItem (kind : ObjectConsumable) (amount : UInt8)
  | increaseCrit (amount unknown : UInt8)
  | increaseHitRate (attackRate hitRate : UInt8)
  | summonBird (refId : UInt32) (unknown : UInt8) (unknown2 duration : UInt16)
  | increaseRange (amount : UInt16)
  | freeze (unknown : UInt16) (chance : UInt8)
  | frostbite (unknown : UInt16) (chance : UInt8)
  | tantUnkn (unknown unknown2 : UInt32)
  | consumeMana (duration amount : UInt32)
  | createWall (unknown : UInt8) (unknown2 : UInt32) (empty level : UInt8)
  | effectLightning (unknown : UInt16) (unknown2 unknown3 : UInt8)
  | increaseDamage (phys mag : UInt8)
  | increaseSpeed (percent : UInt8)
  | teleport (duration : UInt32) (distance : UInt16)
  | increaseEvasion (evasion parry : UInt8)
  | burn (max : UInt32) (chance : UInt8) (min : UInt32)
  | reduceNegativeEffects (kind amount empty : UInt8)
  | real (buffInterference : UInt32) (chance level : UInt8)
  | heal (hpAbs : UInt32) (hpPercentage : UInt8) (mpAbs : UInt32) (mpPercentage : UInt8)
  | invisible (kind level unknown : UInt8)
  | increaseExperience (expPercentage spPercentage : UInt16)
  | itemBuff
  | interval (interval : UInt32)
  | resurrect (maxLevel experienceRestore : UInt8)
  | psog (value : UInt8)
  | nbuf
  | debuff
  | increaseTaunt (tauntValue : UInt32) (aggroPercent : UInt8)
  | summonMonster (summons : List MonsterSummon)
  | dullDebuff (duration : UInt32) (chance level : UInt8)
  | fearDebuff (duration : UInt32) (chance level : UInt8)
  | bleedDebuff (duration : UInt32) (chance level : UInt8) (damage : UInt32) (unknown : UInt8)
  | restrain (duration : UInt32) (chance level : UInt8)
  | increaseBerserk (amount : UInt8)
  | shortSight (duration : UInt32) (chance level : UInt8) (distance : UInt16)
  | poison (unknown : UInt16) (chance : UInt8) (damage : UInt32)
  | linked (level : UInt8) (distance : Option NonZeroU32) (maxLinks : UInt8) (damageShare : Bool)
  | atca (unknown : UInt16) (unknown2 : UInt8)
  | maxLinks
  | petBuff (attributeName : String) (unknown unknown2 unknown3 : UInt8)
  | impotent (duration : UInt32) (chance level unknown : UInt8)
  | darkness (duration : UInt32) (chance level unknown : UInt8)
  | decreaseMagicalDefense (duration : UInt32) (chance level : UInt8) (value : UInt16)
  | decreasePhysicalDefense (duration : UInt32) (chance level : UInt8) (value : UInt16)
  | absorbDamage (level percent : UInt8)
  | disease (duration : UInt32) (chance level unknown : UInt8)
  | division (duration : UInt32) (chance level unknown : UInt8)
  | panic (duration : UInt32) (chance level min max unknown : UInt8)
  | mwhh (value : UInt16)
  | increaseAttackPower (physical magical : UInt16)
  | increaseInt (amount unknown : UInt8)
  | increaseStr (amount unknown : UInt8)
  | defaultAttack (value : UInt8)
  | vipBuff
  | sleep (duration : UInt32) (chance level : UInt8)

/-! ### The columns of each kind -/

/-- `summons` are the ones read so far.  The first one is read even if its id is zero, and a list that is not
closed runs out of the columns. -/
def readSummons (summons : List MonsterSummon) (remaining : List UInt32) :
    Option (List UInt32 × List MonsterSummon) :=
  match remaining.head? with
  | none => none
  | some first =>
      if first ≠ 0 ∨ summons.isEmpty then
        match h : splitAt 4 remaining with
        | none => none
        | some (current, next) =>
            have : next.length < remaining.length := by
              rw [length_of_splitAt h]
              omega
            readSummons (summons ++ [⟨current[0]!, current[1]!.toUInt8, current[2]!.toUInt8,
              current[3]!.toUInt8⟩]) next
      else some (remaining, summons)
termination_by remaining.length

/-- The loop is left at a zero, once there is a monster. -/
theorem readSummons_of_zero {summons : List MonsterSummon} (hne : summons ≠ []) (rest : List UInt32) :
    readSummons summons (0 :: rest) = some (0 :: rest, summons) := by
  rw [readSummons]
  simp [hne]

/-- The monster in four columns. -/
def MonsterSummon.ofColumns (current : Vector UInt32 4) : MonsterSummon :=
  ⟨current[0]!, current[1]!.toUInt8, current[2]!.toUInt8, current[3]!.toUInt8⟩

/-- The loop takes the four columns of a monster whose id is not zero, or which is the first one. -/
theorem readSummons_of_more {summons : List MonsterSummon} {current : Vector UInt32 4}
    (hmore : current[0]! ≠ 0 ∨ summons.isEmpty) (next : List UInt32) :
    readSummons summons (current.toList ++ next) =
      readSummons (summons ++ [.ofColumns current]) next := by
  have hsplit : splitAt 4 (current.toList ++ next) = some (current, next) :=
    splitAt_eq_some_iff.mpr rfl
  have hhead : (current.toList ++ next).head? = some current[0]! := by
    rw [List.head?_eq_getElem?, List.getElem?_append_left (by simp)]
    simp
  rw [readSummons]
  simp only [hhead, if_pos hmore]
  split
  · simp_all
  · next current' next' h =>
      cases hsplit.symm.trans h
      rfl

/-- The loop reads the monsters up to the zero that closes their list. -/
theorem readSummons_flatMap (summons : List MonsterSummon) (monsters : List (Vector UInt32 4))
    (hne : summons ≠ [] ∨ monsters ≠ []) (hids : ∀ monster ∈ monsters, monster[0]! ≠ 0)
    (rest : List UInt32) :
    readSummons summons (monsters.flatMap Vector.toList ++ 0 :: rest) =
      some (0 :: rest, summons ++ monsters.map .ofColumns) := by
  induction monsters generalizing summons with
  | nil =>
      rw [List.map_nil, List.append_nil]
      exact readSummons_of_zero (hne.resolve_right fun h => h rfl) rest
  | cons monster monsters ih =>
      rw [List.flatMap_cons, List.append_assoc,
        readSummons_of_more (Or.inl (hids monster List.mem_cons_self)),
        ih _ (Or.inl (by simp)) fun monster hm => hids monster (List.mem_cons_of_mem _ hm)]
      simp

theorem length_le_of_readSummons {summons summons' : List MonsterSummon} {remaining rest : List UInt32}
    (h : readSummons summons remaining = some (rest, summons')) : rest.length ≤ remaining.length := by
  fun_induction readSummons summons remaining with
  | case1 summons remaining hhead => cases h
  | case2 summons remaining first hhead hmore hsplit => cases h
  | case3 summons remaining first hhead hmore current next hsplit hlt ih =>
      exact (ih h).trans hlt.le
  | case4 summons remaining first hhead hdone =>
      cases h
      exact le_rfl

/-- The zero that closes the list is dropped. -/
def summonReader : RowReader UInt32 SkillParam where
  run data := (readSummons [] data).map fun read => (read.1.tail, .summonMonster read.2)
  length_le {row rest b} h := by
    obtain ⟨⟨left, summons⟩, hread, hrest⟩ := Option.map_eq_some_iff.mp h
    obtain rfl : left.tail = rest := congrArg Prod.fst hrest
    have hle := length_le_of_readSummons hread
    rw [List.length_tail]
    omega

/-- A zero after the columns of the reader is dropped too. -/
def droppingZero (r : RowReader UInt32 SkillParam) : RowReader UInt32 SkillParam where
  run data := (r.run data).map fun read => (if read.1.head? = some 0 then read.1.tail else read.1, read.2)
  length_le {row rest b} h := by
    obtain ⟨⟨left, param⟩, hread, hrest⟩ := Option.map_eq_some_iff.mp h
    have hle := r.length_le hread
    obtain rfl : (if left.head? = some 0 then left.tail else left) = rest := congrArg Prod.fst hrest
    split
    · rw [List.length_tail]
      omega
    · exact hle

/-- How the columns after the kind are read, for the kinds there are. -/
def paramReader (kind : String) : Option (RowReader UInt32 SkillParam) :=
  match kind with
  | "att" => some <| fields 5 fun d => .attack d[0]! d[1]! d[2]! d[3]! d[4]!
  | "mc" => some <| fields 2 fun d => .chain d[0]! d[1]!
  | "getv" => some <| fieldsOrFail 1 fun d => (unpack d[0]!).map .getValue
  | "setv" => some <| droppingZero <|
      fieldsOrFail 3 fun d => (unpack d[0]!).map fun var => .setValue var d[1]! d[2]!
  | "dura" => some <| fields 1 fun d => .duration d[0]!
  | "reqi" => some <| fieldsOrFail 2 fun d =>
      (ObjectEquippable.fromTypeValue d[0]!.toUInt8 d[1]!.toUInt8).map .requiredItem
  | "defp" => some <| fields 3 fun d => .increaseDefense d[0]! d[1]! d[2]!
  | "br" => some <| fields 2 fun d => .blockRatio d[0]!.toUInt8 d[1]!.toUInt8
  | "ko" => some <| fields 2 fun d => .knockdown d[0]!.toUInt8 d[1]!.toUInt8
  | "efr" => some <| fields 6 fun d =>
      .aoe d[0]!.toUInt8 d[1]!.toUInt8 d[2]!.toUInt16 d[3]!.toUInt8 d[4]! d[5]!
  | "da" => some <| fields 1 fun d => .downAttack d[0]!.toUInt16
  | "reqc" => some <| fields 1 fun d => .requiredState d[0]!.toUInt8
  | "st" => some <| fields 3 fun d => .stun d[0]! d[1]!.toUInt8 d[2]!.toUInt8
  | "kb" => some <| fields 2 fun d => .knockback d[0]!.toUInt8 d[1]!.toUInt16
  | "hpi" => some <| fields 2 fun d => .increaseHP d[0]! d[1]!.toUInt8
  | "mpi" => some <| fields 2 fun d => .increaseMP d[0]! d[1]!.toUInt8
  | "cnsm" => some <| fieldsOrFail 3 fun d =>
      (ObjectConsumable.fromTypeValue d[0]!.toUInt8 d[1]!.toUInt8).map fun kind =>
        .consumeItem kind d[2]!.toUInt8
  | "cr" => some <| fields 2 fun d => .increaseCrit d[0]!.toUInt8 d[1]!.toUInt8
  | "hr" => some <| fields 2 fun d => .increaseHitRate d[0]!.toUInt8 d[1]!.toUInt8
  | "summ" => some <| fields 4 fun d => .summonBird d[0]! d[1]!.toUInt8 d[2]!.toUInt16 d[3]!.toUInt16
  | "ru" => some <| fields 1 fun d => .increaseRange d[0]!.toUInt16
  | "fz" => some <| fields 2 fun d => .freeze d[0]!.toUInt16 d[1]!.toUInt8
  | "fb" => some <| fields 2 fun d => .frostbite d[0]!.toUInt16 d[1]!.toUInt8
  | "tant" => some <| fields 2 fun d => .tantUnkn d[0]! d[1]!
  | "onff" => some <| fields 2 fun d => .consumeMana d[0]! d[1]!
  | "pw" => some <| fields 4 fun d => .createWall d[0]!.toUInt8 d[1]! d[2]!.toUInt8 d[3]!.toUInt8
  | "es" => some <| fields 3 fun d => .effectLightning d[0]!.toUInt16 d[1]!.toUInt8 d[2]!.toUInt8
  | "dru" => some <| fields 2 fun d => .increaseDamage d[0]!.toUInt8 d[1]!.toUInt8
  | "hste" => some <| fields 1 fun d => .increaseSpeed d[0]!.toUInt8
  | "tele" => some <| fields 2 fun d => .teleport d[0]! d[1]!.toUInt16
  | "er" => some <| fields 2 fun d => .increaseEvasion d[0]!.toUInt8 d[1]!.toUInt8
  | "bu" => some <| fields 3 fun d => .burn d[0]! d[1]!.toUInt8 d[2]!
  | "bgra" => some <| fields 3 fun d =>
      .reduceNegativeEffects d[0]!.toUInt8 d[1]!.toUInt8 d[2]!.toUInt8
  | "real" => some <| fields 3 fun d => .real d[0]! d[1]!.toUInt8 d[2]!.toUInt8
  | "heal" => some <| fields 4 fun d => .heal d[0]! d[1]!.toUInt8 d[2]! d[3]!.toUInt8
  | "hide" => some <| fields 3 fun d => .invisible d[0]!.toUInt8 d[1]!.toUInt8 d[2]!.toUInt8
  | "expu" => some <| fields 2 fun d => .increaseExperience d[0]!.toUInt16 d[1]!.toUInt16
  | "cbuf" => some <| nothing .itemBuff
  | "nbuf" => some <| nothing .nbuf
  | "bbuf" => some <| nothing .debuff
  | "lks2" => some <| nothing .maxLinks
  | "puls" => some <| fields 1 fun d => .interval d[0]!
  | "resu" => some <| fields 2 fun d => .resurrect d[0]!.toUInt8 d[1]!.toUInt8
  | "psog" => some <| fields 1 fun d => .psog d[0]!.toUInt8
  | "tnt2" => some <| fields 2 fun d => .increaseTaunt d[0]! d[1]!.toUInt8
  | "ssou" => some summonReader
  | "sl" => some <| fields 3 fun d => .dullDebuff d[0]! d[1]!.toUInt8 d[2]!.toUInt8
  | "bl" => some <| fields 5 fun d =>
      .bleedDebuff d[0]! d[1]!.toUInt8 d[2]!.toUInt8 d[3]! d[4]!.toUInt8
  | "rt" => some <| fields 3 fun d => .restrain d[0]! d[1]!.toUInt8 d[2]!.toUInt8
  | "hwdu" => some <| fields 1 fun d => .increaseBerserk d[0]!.toUInt8
  | "my" => some <| fields 4 fun d => .shortSight d[0]! d[1]!.toUInt8 d[2]!.toUInt8 d[3]!.toUInt16
  | "ps" => some <| fields 3 fun d => .poison d[0]!.toUInt16 d[1]!.toUInt8 d[2]!
  | "lnks" => some <| fields 4 fun d =>
      .linked d[0]!.toUInt8 (NonZeroU32.new d[1]!) d[2]!.toUInt8 (d[3]! == 1)
  | "atca" => some <| fields 2 fun d => .atca d[0]!.toUInt16 d[1]!.toUInt8
  | "pet2" => some <| fieldsOrFail 4 fun d => (unpack d[0]!).map fun var =>
      .petBuff var d[1]!.toUInt8 d[2]!.toUInt8 d[3]!.toUInt8
  | "cssr" => some <| fields 4 fun d => .impotent d[0]! d[1]!.toUInt8 d[2]!.toUInt8 d[3]!.toUInt8
  | "dn" => some <| fields 4 fun d => .darkness d[0]! d[1]!.toUInt8 d[2]!.toUInt8 d[3]!.toUInt8
  | "fe" => some <| fields 3 fun d => .fearDebuff d[0]! d[1]!.toUInt8 d[2]!.toUInt8
  | "csmd" => some <| fields 4 fun d =>
      .decreaseMagicalDefense d[0]! d[1]!.toUInt8 d[2]!.toUInt8 d[3]!.toUInt16
  | "cspd" => some <| fields 4 fun d =>
      .decreasePhysicalDefense d[0]! d[1]!.toUInt8 d[2]!.toUInt8 d[3]!.toUInt16
  | "odar" => some <| fields 2 fun d => .absorbDamage d[0]!.toUInt8 d[1]!.toUInt8
  | "ds" => some <| fields 4 fun d => .disease d[0]! d[1]!.toUInt8 d[2]!.toUInt8 d[3]!.toUInt8
  | "cshp" => some <| fields 6 fun d =>
      -- the last three fields are all taken from the fourth column
      .panic d[0]! d[1]!.toUInt8 d[2]!.toUInt8 d[3]!.toUInt8 d[3]!.toUInt8 d[3]!.toUInt8
  | "mwhh" => some <| fields 1 fun d => .mwhh d[0]!.toUInt16
  | "apau" => some <| fields 2 fun d => .increaseAttackPower d[0]!.toUInt16 d[1]!.toUInt16
  | "csit" => some <| fields 4 fun d => .division d[0]! d[1]!.toUInt8 d[2]!.toUInt8 d[3]!.toUInt8
  | "inti" => some <| fields 2 fun d => .increaseInt d[0]!.toUInt8 d[1]!.toUInt8
  | "stri" => some <| fields 2 fun d => .increaseStr d[0]!.toUInt8 d[1]!.toUInt8
  | "ck" => some <| fields 1 fun d => .defaultAttack d[0]!.toUInt8
  | "vbuf" => some <| nothing .vipBuff
  | "se" => some <| fields 3 fun d => .sleep d[0]! d[1]!.toUInt8 d[2]!.toUInt8
  | _ => none

/-! ### Reading parameters -/

/-- The next parameter and the columns after it, or `none` if the columns do not begin with one; the outer
`none` where the text of the kind, of a name or the number of an object has no meaning, or columns are
missing. -/
def parseParam (params : List UInt32) : Option (Option (List UInt32 × SkillParam)) :=
  match params with
  | [] => some none
  | first :: data =>
      if first = 0 then some none
      else
        match unpack first with
        | none => none
        | some kind =>
            match paramReader kind with
            | none => some none
            | some reader => (reader.run data).map some

/-- The columns are at their end, or begin with a zero or the name of something else. -/
def NamesNoParam (columns : List UInt32) : Prop :=
  ∀ first, columns.head? = some first → first ≠ 0 →
    ∃ kind, unpack first = some kind ∧ paramReader kind = none

theorem parseParam_of_kind {first : UInt32} {kind : String} {reader : RowReader UInt32 SkillParam}
    (hfirst : first ≠ 0) (hkind : unpack first = some kind) (hreader : paramReader kind = some reader)
    (data : List UInt32) : parseParam (first :: data) = (reader.run data).map some := by
  simp only [parseParam, if_neg hfirst, hkind, hreader]

theorem parseParam_eq_none_iff (columns : List UInt32) :
    parseParam columns = some none ↔ NamesNoParam columns := by
  unfold parseParam NamesNoParam
  cases columns with
  | nil => simp
  | cons first data =>
      rcases eq_or_ne first 0 with rfl | hfirst
      · simp
      · cases hkind : unpack first with
        | none => simp [hfirst, hkind]
        | some kind =>
            cases hreader : paramReader kind with
            | none => simp [hfirst, hkind, hreader]
            | some reader => simp [hfirst, hkind, hreader]

/-- A parameter that is read has a kind, and the columns that the reader of its kind takes. -/
theorem parseParam_eq_some {row rest : List UInt32} {param : SkillParam}
    (h : parseParam row = some (some (rest, param))) :
    ∃ first data kind reader, row = first :: data ∧ unpack first = some kind ∧
      paramReader kind = some reader ∧ reader.run data = some (rest, param) := by
  unfold parseParam at h
  split at h
  · cases h
  · next first data =>
      split at h
      · cases h
      · split at h
        · cases h
        · next kind hkind =>
            split at h
            · cases h
            · next reader hreader =>
                obtain ⟨read, hread, hsome⟩ := Option.map_eq_some_iff.mp h
                obtain rfl := Option.some.inj hsome
                exact ⟨first, data, kind, reader, rfl, hkind, hreader, hread⟩

/-- A parameter takes the column of its kind at least. -/
theorem length_lt_of_parseParam {row rest : List UInt32} {param : SkillParam}
    (h : parseParam row = some (some (rest, param))) : rest.length < row.length := by
  obtain ⟨first, data, kind, reader, rfl, -, -, hread⟩ := parseParam_eq_some h
  exact Nat.lt_succ_of_le (reader.length_le hread)

def paramEntries : EntryReader UInt32 SkillParam where
  next := parseParam
  length_lt := length_lt_of_parseParam

/-- The parameters of a skill: what is read from the columns until there is nothing more to read. -/
def readParams (columns : List UInt32) : Option (List SkillParam) := paramEntries.all columns

end Skrillax.SkillData

/-
**The objects of the object string file.**

The file names the objects of the world, one a line, with an id of 32 bits whose upper half is the region of
the object.  The parser drops the upper half, and an object is looked up with it.

The decoder of the character set is a parameter.  A floating-point number is given by its bits.

Main definitions:

* `ObjectStringInfo`, `ObjectStringInfo.fromStr` — an object, and how it is parsed;
* `ObjectStringsInfo.ofData`, `ObjectStringsInfo.byLocalId` — the file, and the look-up;
* `Describes`, `WellFormed` — a line and a file with given objects.

Main results:

* `fromStr_of_describes`, `ofData_of_wellFormed` — what a well-formed line and file are parsed into;
* `objects_are_found_iff` — **all objects are found again exactly if none has a region**.
-/

import Skrillax.RustParse
import Skrillax.RustSlice

set_option relaxedAutoImplicit false
set_option autoImplicit false

namespace Skrillax.Navmesh

open Rust

/-! ### Lines -/

structure ObjectStringInfo where
  uniqueId : UInt32
  flag : UInt32
  regionX : UInt8
  regionY : UInt8
  xOffset : UInt32
  yOffset : UInt32
  zOffset : UInt32
  rotation : UInt32
  name : String
  deriving DecidableEq, Repr

/-- `split[i]`. -/
def columnAt (split : List (List Char)) (i : ℕ) : Except (Failure IntErrorKind) (List Char) :=
  match split[i]? with
  | some column => .ok column
  | none => .error .panic

def parseInt (type : IntType) (radix : ℕ) (column : List Char) : Except (Failure IntErrorKind) ℕ :=
  match fromStrRadix type radix column with
  | .ok n => .ok n.toNat
  | .error kind => .error (.error kind)

/-- `u32::from_str_radix(split[i].trim_start_matches("0x"), 16)?`. -/
def hexColumn (split : List (List Char)) (i : ℕ) : Except (Failure IntErrorKind) UInt32 := do
  let column ← columnAt split i
  let n ← parseInt ⟨false, 32⟩ 16 (trimHexPrefix column)
  return UInt32.ofNat n

/-- `split[i].parse()?`. -/
def byteColumn (split : List (List Char)) (i : ℕ) : Except (Failure IntErrorKind) UInt8 := do
  let column ← columnAt split i
  let n ← parseInt ⟨false, 8⟩ 10 column
  return UInt8.ofNat n

def ObjectStringInfo.fromStr (line : List Char) : Except (Failure IntErrorKind) ObjectStringInfo := do
  let split := splitn ' ' 9 line
  let uniqueId ← hexColumn split 0
  let flag ← hexColumn split 1
  let regionX ← byteColumn split 2
  let regionY ← byteColumn split 3
  let xOffset ← hexColumn split 4
  let yOffset ← hexColumn split 5
  let zOffset ← hexColumn split 6
  let rotation ← hexColumn split 7
  let name ← columnAt split 8
  let uniqueId := if uniqueId &&& 0xFFFF0000 ≠ 0 then uniqueId &&& 0xFFFF else uniqueId
  return {
    uniqueId, flag, regionX, regionY, xOffset, yOffset, zOffset, rotation
    name := String.ofList name }

/-! ### The file -/

inductive ObjectInfoError where
  | invalidMagic
  | parseError (kind : IntErrorKind)
  | missingCount
  | notEnoughLines
  deriving DecidableEq, Repr

def objMagic : String := "JMXVOBJI1000"

structure ObjectStringsInfo where
  objects : Std.HashMap UInt32 ObjectStringInfo

namespace ObjectStringsInfo

/-- The loop over the lines of the objects. -/
def readObjects : ℕ → List (List Char) → Except (Failure ObjectInfoError) (List ObjectStringInfo)
  | 0, _ => .ok []
  | _ + 1, [] => .error (.error .notEnoughLines)
  | count + 1, line :: lines => do
      let object ← (ObjectStringInfo.fromStr line).mapError (Failure.map .parseError)
      let objects ← readObjects count lines
      return object :: objects

/-- Of two objects with one id the later one is kept. -/
def ofObjects (objects : List ObjectStringInfo) : ObjectStringsInfo :=
  ⟨.ofList (objects.map fun obj => (obj.uniqueId, obj))⟩

/-- `from`.  There is a first line in every text. -/
def ofData (decode : List UInt8 → String) (data : List UInt8) :
    Except (Failure ObjectInfoError) ObjectStringsInfo :=
  match (decode data).toList.splitOn '\n' with
  | [] => .error .panic
  | magic :: lines =>
      if magic ≠ objMagic.toList then .error (.error .invalidMagic)
      else match lines with
        | [] => .error (.error .missingCount)
        | countStr :: lines => do
            let count ← (parseInt ⟨false, 64⟩ 10 countStr).mapError (Failure.map .parseError)
            let objects ← readObjects count lines
            return ofObjects objects

def byId (self : ObjectStringsInfo) (globalId : UInt32) : Option ObjectStringInfo :=
  self.objects[globalId]?

def byLocalId (self : ObjectStringsInfo) (region localId : UInt16) : Option ObjectStringInfo :=
  self.byId ((region.toUInt32 <<< 16) ||| localId.toUInt32)

/-- `objects()`. -/
def values (self : ObjectStringsInfo) : List ObjectStringInfo := self.objects.toList.map Prod.snd

end ObjectStringsInfo

/-! ### Files with given objects -/

def IsHex (column : List Char) (value : UInt32) : Prop :=
  fromStrRadix ⟨false, 32⟩ 16 (trimHexPrefix column) = .ok value.toNat

def IsByte (column : List Char) (value : UInt8) : Prop :=
  fromStrRadix ⟨false, 8⟩ 10 column = .ok value.toNat

instance (column : List Char) (value : UInt32) : Decidable (IsHex column value) :=
  inferInstanceAs (Decidable (_ = _))

instance (column : List Char) (value : UInt8) : Decidable (IsByte column value) :=
  inferInstanceAs (Decidable (_ = _))

/-- The line has the fields of the object in its columns, and the id as a whole. -/
def Describes (line : List Char) (object : ObjectStringInfo) : Prop :=
  ∃ id flag regionX regionY xOffset yOffset zOffset rotation : List Char,
    (∀ column ∈ [id, flag, regionX, regionY, xOffset, yOffset, zOffset, rotation], ' ' ∉ column) ∧
    line = [' '].intercalate
      [id, flag, regionX, regionY, xOffset, yOffset, zOffset, rotation, object.name.toList] ∧
    IsHex id object.uniqueId ∧ IsHex flag object.flag ∧
    IsByte regionX object.regionX ∧ IsByte regionY object.regionY ∧
    IsHex xOffset object.xOffset ∧ IsHex yOffset object.yOffset ∧
    IsHex zOffset object.zOffset ∧ IsHex rotation object.rotation

/-- The text has the objects, one a line, and no two of them have one id. -/
structure WellFormed (text : String) (objects : List ObjectStringInfo) : Prop where
  lines : ∃ count lines rest, text.toList.splitOn '\n' = objMagic.toList :: count :: (lines ++ rest) ∧
    fromStrRadix ⟨false, 64⟩ 10 count = .ok objects.length ∧ List.Forall₂ Describes lines objects
  distinct : (objects.map ObjectStringInfo.uniqueId).Nodup

/-! ### What is parsed -/

/-- The object as the parser keeps it. -/
def withoutRegion (object : ObjectStringInfo) : ObjectStringInfo :=
  { object with uniqueId := object.uniqueId &&& 0xFFFF }

/-- The test of the parser makes no difference. -/
theorem ite_region_part (id : UInt32) :
    (if id &&& 0xFFFF0000 ≠ 0 then id &&& 0xFFFF else id) = id &&& 0xFFFF := by
  split
  · rfl
  · rename_i hzero
    rw [not_not] at hzero
    have hparts : (id.toBitVec &&& 0xFFFF0000) ||| (id.toBitVec &&& 0xFFFF) = id.toBitVec := by
      rw [← BitVec.and_or_distrib_left]
      exact BitVec.and_allOnes
    have hzero' : id.toBitVec &&& 0xFFFF0000 = 0#32 := congrArg UInt32.toBitVec hzero
    rw [hzero', BitVec.zero_or] at hparts
    exact (UInt32.toBitVec_inj.1 hparts).symm

theorem toNat_and_0xFFFF (id : UInt32) : (id &&& 0xFFFF).toNat = id.toNat % 2 ^ 16 := by
  rw [UInt32.toNat_and]
  exact Nat.and_two_pow_sub_one_eq_mod id.toNat 16

/-- The id is put together again. -/
theorem globalId_eq (id : UInt32) :
    ((id >>> 16).toUInt16.toUInt32 <<< 16) ||| id.toUInt16.toUInt32 = id := by
  have hid := id.toNat_lt
  have hlow : id.toNat % 2 ^ 16 < 2 ^ 16 := Nat.mod_lt _ (by decide)
  have hregion : ((id >>> 16).toUInt16.toUInt32 <<< 16).toNat = 2 ^ 16 * (id.toNat / 2 ^ 16) := by
    rw [UInt32.toNat_shiftLeft, UInt16.toNat_toUInt32, UInt32.toNat_toUInt16, UInt32.toNat_shiftRight,
      Nat.shiftLeft_eq, Nat.shiftRight_eq_div_pow]
    change id.toNat / 2 ^ 16 % 2 ^ 16 * 2 ^ 16 % 2 ^ 32 = _
    omega
  rw [← UInt32.toNat_inj, UInt32.toNat_or, hregion, UInt16.toNat_toUInt32, UInt32.toNat_toUInt16,
    ← Nat.two_pow_add_eq_or_of_lt hlow]
  exact Nat.div_add_mod id.toNat (2 ^ 16)

theorem hexColumn_of_isHex {split : List (List Char)} {i : ℕ} {column : List Char} {value : UInt32}
    (hi : split[i]? = some column) (h : IsHex column value) : hexColumn split i = .ok value := by
  have hparse : parseInt ⟨false, 32⟩ 16 (trimHexPrefix column) = .ok value.toNat := by
    rw [parseInt, h]
    rfl
  rw [hexColumn, columnAt, hi, ok_bind, hparse, ok_bind, UInt32.ofNat_toNat]
  rfl

theorem byteColumn_of_isByte {split : List (List Char)} {i : ℕ} {column : List Char} {value : UInt8}
    (hi : split[i]? = some column) (h : IsByte column value) : byteColumn split i = .ok value := by
  have hparse : parseInt ⟨false, 8⟩ 10 column = .ok value.toNat := by
    rw [parseInt, h]
    rfl
  rw [byteColumn, columnAt, hi, ok_bind, hparse, ok_bind, UInt8.ofNat_toNat]
  rfl

theorem fromStr_of_describes {line : List Char} {object : ObjectStringInfo} (h : Describes line object) :
    ObjectStringInfo.fromStr line = .ok (withoutRegion object) := by
  obtain ⟨id, flag, regionX, regionY, xOffset, yOffset, zOffset, rotation, hspace, rfl,
    hid, hflag, hx, hy, hxo, hyo, hzo, hrot⟩ := h
  have hsplit := splitn_intercalate hspace object.name.toList
  simp only [ObjectStringInfo.fromStr, List.length_cons, List.length_nil, List.cons_append,
    List.nil_append] at hsplit ⊢
  rw [hsplit, hexColumn_of_isHex rfl hid, ok_bind, hexColumn_of_isHex rfl hflag, ok_bind,
    byteColumn_of_isByte rfl hx, ok_bind, byteColumn_of_isByte rfl hy, ok_bind,
    hexColumn_of_isHex rfl hxo, ok_bind, hexColumn_of_isHex rfl hyo, ok_bind,
    hexColumn_of_isHex rfl hzo, ok_bind, hexColumn_of_isHex rfl hrot, ok_bind, ite_region_part]
  simp [columnAt, withoutRegion, pure, Except.pure]

theorem readObjects_of_describes {lines : List (List Char)} {objects : List ObjectStringInfo}
    (h : List.Forall₂ Describes lines objects) (rest : List (List Char)) :
    ObjectStringsInfo.readObjects objects.length (lines ++ rest) = .ok (objects.map withoutRegion) := by
  induction h with
  | nil => rfl
  | cons hline _ ih =>
      rw [List.length_cons, List.cons_append, ObjectStringsInfo.readObjects, fromStr_of_describes hline,
        ih]
      rfl

theorem ofData_of_wellFormed {decode : List UInt8 → String} {data : List UInt8}
    {objects : List ObjectStringInfo} (h : WellFormed (decode data) objects) :
    ObjectStringsInfo.ofData decode data = .ok (.ofObjects (objects.map withoutRegion)) := by
  obtain ⟨count, lines, rest, hsplit, hcount, hlines⟩ := h.lines
  have hparse : parseInt ⟨false, 64⟩ 10 count = .ok objects.length := by
    rw [parseInt, hcount]
    rfl
  rw [ObjectStringsInfo.ofData, hsplit]
  simp only [ne_eq, not_true_eq_false, if_false, hparse, Except.mapError, ok_bind,
    readObjects_of_describes hlines]
  rfl

/-! ### The look-up -/

theorem byLocalId_globalId (info : ObjectStringsInfo) (id : UInt32) :
    info.byLocalId (id >>> 16).toUInt16 id.toUInt16 = info.byId id := by
  rw [ObjectStringsInfo.byLocalId, globalId_eq]

theorem exists_of_byId_eq_some {objects : List ObjectStringInfo} {id : UInt32} {object : ObjectStringInfo}
    (h : (ObjectStringsInfo.ofObjects objects).byId id = some object) :
    ∃ stored ∈ objects, stored.uniqueId = id := by
  have hmem : id ∈ Std.HashMap.ofList (objects.map fun obj => (obj.uniqueId, obj)) := by
    rw [Std.HashMap.mem_iff_isSome_getElem?]
    exact Option.isSome_of_eq_some h
  rw [Std.HashMap.mem_ofList, List.contains_iff_mem, List.map_map] at hmem
  obtain ⟨stored, hstored, hid⟩ := List.mem_map.1 hmem
  exact ⟨stored, hstored, hid⟩

section Distinct

variable {objects : List ObjectStringInfo} (h : (objects.map ObjectStringInfo.uniqueId).Nodup)
include h

theorem pairwise_keys :
    (objects.map fun obj => (obj.uniqueId, obj)).Pairwise fun a b => (a.1 == b.1) = false := by
  rw [List.pairwise_map]
  refine (List.pairwise_map.1 h).imp fun {a b} hne => ?_
  rw [beq_eq_false_iff_ne]
  exact hne

theorem length_values_ofObjects : (ObjectStringsInfo.ofObjects objects).values.length = objects.length := by
  rw [ObjectStringsInfo.values, List.length_map, Std.HashMap.length_toList, ObjectStringsInfo.ofObjects,
    Std.HashMap.size_ofList (pairwise_keys h), List.length_map]

theorem byId_ofObjects {object : ObjectStringInfo} (hmem : object ∈ objects) :
    (ObjectStringsInfo.ofObjects objects).byId object.uniqueId = some object :=
  Std.HashMap.getElem?_ofList_of_mem (beq_self_eq_true _) (pairwise_keys h) (List.mem_map_of_mem hmem)

end Distinct

/-- **When all objects are found again.**  All objects of a well-formed file are kept, and each is found
with the two halves of its id, exactly if the upper half is zero for all of them. -/
theorem objects_are_found_iff (decode : List UInt8 → String) (data : List UInt8)
    (objects : List ObjectStringInfo) (h : WellFormed (decode data) objects) :
    (∃ info, ObjectStringsInfo.ofData decode data = .ok info ∧ info.values.length = objects.length ∧
      ∀ object ∈ objects,
        info.byLocalId (object.uniqueId >>> 16).toUInt16 object.uniqueId.toUInt16 = some object) ↔
      ∀ object ∈ objects, object.uniqueId.toNat < 2 ^ 16 := by
  simp only [ofData_of_wellFormed h, Except.ok.injEq, exists_eq_left', byLocalId_globalId]
  constructor
  · rintro ⟨-, hfound⟩ object hobject
    obtain ⟨stored, hstored, hid⟩ := exists_of_byId_eq_some (hfound object hobject)
    obtain ⟨original, -, rfl⟩ := List.mem_map.1 hstored
    rw [← hid, withoutRegion, toNat_and_0xFFFF]
    exact Nat.mod_lt _ (by decide)
  · intro hlocal
    -- nothing is dropped
    have hsame : objects.map withoutRegion = objects := by
      refine (List.map_congr_left fun object hobject => ?_).trans (List.map_id objects)
      have hid : object.uniqueId &&& 0xFFFF = object.uniqueId := by
        rw [← UInt32.toNat_inj, toNat_and_0xFFFF, Nat.mod_eq_of_lt (hlocal object hobject)]
      rw [withoutRegion, hid]
      rfl
    rw [hsame]
    exact ⟨length_values_ofObjects h.distinct, fun object hobject => byId_ofObjects h.distinct hobject⟩

/-! ### A file with one object -/

/-- A text in a character set that agrees with the one of the file on ASCII. -/
def decodeAscii (data : List UInt8) : String := String.ofList (data.map fun byte => Char.ofNat byte.toNat)

def encodeAscii (text : List Char) : List UInt8 := text.map fun c => UInt8.ofNat c.toNat

theorem decodeAscii_encodeAscii {text : List Char} (h : ∀ c ∈ text, c.toNat < 2 ^ 7) :
    decodeAscii (encodeAscii text) = String.ofList text := by
  rw [decodeAscii, encodeAscii, List.map_map]
  refine congrArg String.ofList ((List.map_congr_left fun c hc => ?_).trans (List.map_id text))
  have hbyte : c.toNat < 2 ^ 8 := (h c hc).trans (by decide)
  rw [Function.comp_apply, UInt8.toNat_ofNat_of_lt' hbyte, Char.ofNat_toNat, id]

def sampleObject (id : UInt32) : ObjectStringInfo := ⟨id, 0, 0, 0, 0, 0, 0, 0, "a"⟩

def sampleLine (id : List Char) : List Char :=
  [' '].intercalate ([id, "0x0".toList, "0".toList, "0".toList, "0x0".toList, "0x0".toList, "0x0".toList,
    "0x0".toList, "a".toList])

def sampleFile (id : List Char) : List Char :=
  ['\n'].intercalate [objMagic.toList, ['1'], sampleLine id]

theorem wellFormed_sampleFile {id : List Char} {value : UInt32} (hid : IsHex id value) (hspace : ' ' ∉ id)
    (hascii : ∀ c ∈ sampleFile id, c.toNat < 2 ^ 7) (hline : '\n' ∉ sampleLine id) :
    WellFormed (decodeAscii (encodeAscii (sampleFile id))) [sampleObject value] := by
  have hhex : IsHex "0x0".toList 0 := by decide
  have hbyte : IsByte "0".toList 0 := by decide
  have hcount : fromStrRadix ⟨false, 64⟩ 10 ['1'] = .ok 1 := by decide
  refine ⟨⟨['1'], [sampleLine id], [], ?_, hcount, .cons ?_ .nil⟩, List.nodup_singleton _⟩
  · rw [decodeAscii_encodeAscii hascii, String.toList_ofList, sampleFile, List.splitOn_intercalate]
    · rfl
    · simp [hline, objMagic]
    · simp
  · refine ⟨id, "0x0".toList, "0".toList, "0".toList, "0x0".toList, "0x0".toList, "0x0".toList,
      "0x0".toList, ?_, rfl, hid, hhex, hbyte, hbyte, hhex, hhex, hhex, hhex⟩
    simp [hspace]

theorem objects_are_found_without_a_region :
    WellFormed (decodeAscii (encodeAscii (sampleFile "0x1".toList))) [sampleObject 1] ∧
      ((∃ info, ObjectStringsInfo.ofData decodeAscii (encodeAscii (sampleFile "0x1".toList)) = .ok info ∧
        info.values.length = [sampleObject 1].length ∧ ∀ object ∈ [sampleObject 1],
          info.byLocalId (object.uniqueId >>> 16).toUInt16 object.uniqueId.toUInt16 = some object) ↔
        ∀ object ∈ [sampleObject 1], object.uniqueId.toNat < 2 ^ 16) := by
  have hfile : WellFormed (decodeAscii (encodeAscii (sampleFile "0x1".toList))) [sampleObject 1] :=
    wellFormed_sampleFile (by decide) (by decide) (by simp [sampleFile, sampleLine, objMagic])
      (by decide)
  exact ⟨hfile, objects_are_found_iff decodeAscii _ _ hfile⟩

theorem object_with_a_region_is_lost :
    ¬ ∀ data objects, WellFormed (decodeAscii data) objects →
      ∃ info, ObjectStringsInfo.ofData decodeAscii data = .ok info ∧ info.values.length = objects.length ∧
        ∀ object ∈ objects,
          info.byLocalId (object.uniqueId >>> 16).toUInt16 object.uniqueId.toUInt16 = some object := by
  intro h
  have hfile : WellFormed (decodeAscii (encodeAscii (sampleFile "0x10001".toList))) [sampleObject 0x10001] :=
    wellFormed_sampleFile (by decide) (by decide) (by simp [sampleFile, sampleLine, objMagic])
      (by decide)
  obtain ⟨info, hinfo, -, hfound⟩ := h _ _ hfile
  rw [ofData_of_wellFormed hfile, Except.ok.injEq] at hinfo
  subst hinfo
  have hfound' := hfound _ List.mem_cons_self
  rw [byLocalId_globalId] at hfound'
  obtain ⟨stored, hstored, hid⟩ := exists_of_byId_eq_some hfound'
  rw [List.map_cons, List.map_nil, List.mem_singleton] at hstored
  subst hstored
  exact absurd hid (by decide)

end Skrillax.Navmesh

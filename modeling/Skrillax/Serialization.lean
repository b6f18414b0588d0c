/-
**Serialization of primitive values.**

The traits `Serialize` and `Deserialize`, their implementations for the primitive types, and the strings,
which have no implementation of their own but are read and written by the code that is derived.

Main definitions:

* `SerializationError` — what can go wrong when data is deserialized;
* `Value` — the values that are serialized;
* `SerdeType` — a type with its implementations of the two traits;
* `Primitive` — the types these are implemented for in the library;
* `stringFromUtf8`, `stringFromUtf16` — what the bytes or the units of a string are turned into.

Main results:

* `Primitive.reads_write` — a primitive value that is written is read back;
* `stringFromUtf8_bytes` — so are the bytes of a string.
-/

import Skrillax.ByteReader
import Skrillax.RustSlice

set_option relaxedAutoImplicit false
set_option autoImplicit false

namespace Skrillax

open Rust

inductive SerializationError where
  | ioError
  | unknownVariation (value : ℕ) (name : String)
  | stringParsingFailed
  | utf16ParsingFailed
  deriving DecidableEq, Repr

/-! ### Values and types -/

/-- The values of all types.  An integer or a float is given by its bits, a struct and a variant of an enum
by the values of its fields. -/
inductive Value where
  | word (width : ℕ) (bits : BitVec (8 * width))
  | bool (b : Bool)
  | string (s : String)
  | array (bytes : List UInt8)
  | vec (items : List Value)
  | none
  | some (value : Value)
  | tuple (values : List Value)
  | struct (fields : List Value)
  | variant (index : ℕ) (fields : List Value)

namespace Value

/-- An integer that is used as a number. -/
def toNat : Value → ℕ
  | word _ bits => bits.toNat
  | _ => 0

def toByte (v : Value) : UInt8 := UInt8.ofNat v.toNat

/-- The elements of a `Vec`. -/
def items : Value → List Value
  | vec items => items
  | _ => []

def byte (b : UInt8) : Value := word 1 (BitVec.ofNat _ b.toNat)

@[simp] theorem toNat_word (width : ℕ) (bits : BitVec (8 * width)) :
    (word width bits).toNat = bits.toNat := rfl

@[simp] theorem items_vec (vs : List Value) : (vec vs).items = vs := rfl

@[simp] theorem toByte_byte (b : UInt8) : (byte b).toByte = b := by
  apply UInt8.toNat_inj.1
  simp [toByte, byte]

end Value

/-- The implementations of `Serialize` and `Deserialize` for a type.  A reader takes its bytes from a
stream and cannot look at what it leaves there, and there is something that it accepts. -/
structure SerdeType where
  /-- The type is `Copy`. -/
  copy : Bool
  read : ByteReader SerializationError Value
  write : Value → List UInt8
  /-- The values of the type, within the limits of the format. -/
  Valid : Value → Prop
  regular : read.Regular
  readable : ∃ chunk v, read.Reads chunk v

/-! ### Primitive types -/

inductive Primitive where
  | u8
  | u16
  | u32
  | u64
  | i16
  | i32
  | i64
  | f32
  | f64
  | bool
  deriving DecidableEq, Repr

namespace Primitive

/-- `std::mem::size_of`. -/
def size : Primitive → ℕ
  | u8 | bool => 1
  | u16 | i16 => 2
  | u32 | i32 | f32 => 4
  | u64 | i64 | f64 => 8

/-- The bytes of a word, the lowest first. -/
def readWord (width : ℕ) : ByteReader SerializationError (BitVec (8 * width)) := do
  let bytes ← ByteReader.exactly .ioError width
  return BitVec.ofNat _ (LittleEndian.decode bytes)

/-- The value with the given bits.  A byte other than `1` is read as `false`. -/
def ofBits : (p : Primitive) → BitVec (8 * p.size) → Value
  | .bool, bits => .bool (bits.toNat == 1)
  | p, bits => .word p.size bits

/-- `Deserialize::read_from`. -/
def read (p : Primitive) : ByteReader SerializationError Value := do
  let bits ← readWord p.size
  return p.ofBits bits

/-- `Serialize::write_to`. -/
def write (p : Primitive) : Value → List UInt8
  | .word _ bits => LittleEndian.encode p.size bits.toNat
  | .bool b => LittleEndian.encode p.size b.toNat
  | _ => []

def Valid : Primitive → Value → Prop
  | .bool, v => ∃ b, v = .bool b
  | p, v => ∃ bits : BitVec (8 * p.size), v = .word p.size bits

theorem reads_readWord (width : ℕ) (bits : BitVec (8 * width)) :
    (readWord width).Reads (LittleEndian.encode width bits.toNat) bits := by
  have hlen := LittleEndian.length_encode width bits.toNat
  have hread := ByteReader.Reads.exactly SerializationError.ioError (LittleEndian.encode width bits.toNat)
  rw [hlen] at hread
  have hlt : bits.toNat < 256 ^ width := by
    rw [show (256 : ℕ) = 2 ^ 8 by rfl, ← Nat.pow_mul]
    exact bits.isLt
  have hmap := hread.map fun bytes => BitVec.ofNat (8 * width) (LittleEndian.decode bytes)
  rw [LittleEndian.decode_encode_of_lt hlt, BitVec.ofNat_toNat, BitVec.setWidth_eq] at hmap
  exact hmap

theorem regular_readWord (width : ℕ) : (readWord width).Regular :=
  (ByteReader.Regular.exactly _ _).bind fun _ => .pure _

theorem regular_read (p : Primitive) : p.read.Regular :=
  (regular_readWord _).bind fun _ => .pure _

theorem reads_read (p : Primitive) (bits : BitVec (8 * p.size)) :
    p.read.Reads (LittleEndian.encode p.size bits.toNat) (p.ofBits bits) :=
  (reads_readWord p.size bits).map p.ofBits

theorem valid_ofBits (p : Primitive) (bits : BitVec (8 * p.size)) : p.Valid (p.ofBits bits) := by
  cases p <;> exact ⟨_, rfl⟩

/-- Only valid values are read. -/
theorem valid_of_read {p : Primitive} {input : List UInt8} {v : Value} {rest : List UInt8}
    (h : p.read input = .ok (v, rest)) : p.Valid v := by
  obtain ⟨bits, middle, -, hpure⟩ := ByteReader.bind_eq_ok h
  obtain ⟨rfl, -⟩ := ByteReader.pure_eq_ok hpure
  exact p.valid_ofBits bits

/-- A primitive value that is written is read back. -/
theorem reads_write {p : Primitive} {v : Value} (h : p.Valid v) : p.read.Reads (p.write v) v := by
  cases p with
  | bool =>
      obtain ⟨b, rfl⟩ := h
      have hread := reads_read .bool (BitVec.ofNat 8 b.toNat)
      cases b <;> exact hread
  | _ =>
      obtain ⟨bits, rfl⟩ := h
      exact reads_read _ bits

/-- The primitive types are `Copy`. -/
def serdeType (p : Primitive) : SerdeType where
  copy := true
  read := p.read
  write := p.write
  Valid := p.Valid
  regular := p.regular_read
  readable := ⟨_, _, p.reads_read 0⟩

/-- There are different values of every primitive type. -/
theorem exists_reads_ne (p : Primitive) (v : Value) : ∃ chunk w, p.read.Reads chunk w ∧ w ≠ v := by
  have hne : p.ofBits 0 ≠ p.ofBits 1 := by
    cases p <;> simp [ofBits, size]
  by_cases hzero : p.ofBits 0 = v
  · exact ⟨_, _, p.reads_read 1, hzero ▸ hne.symm⟩
  · exact ⟨_, _, p.reads_read 0, hzero⟩

end Primitive

/-! ### Strings -/

/-- `String::from_utf8`. -/
def stringFromUtf8 (bytes : List UInt8) : ByteReader SerializationError Value :=
  match String.fromUTF8? ⟨bytes.toArray⟩ with
  | some s => pure (.string s)
  | none => .fail .stringParsingFailed

/-- The scalar values of a sequence of UTF-16 units; a surrogate has to be one of a pair. -/
def decodeUtf16 : List ℕ → Option (List Char)
  | [] => some []
  | high :: units =>
      if high < 0xD800 ∨ 0xE000 ≤ high then (Char.ofNat high :: ·) <$> decodeUtf16 units
      else if high < 0xDC00 then
        match units with
        | [] => none
        | low :: units =>
            if 0xDC00 ≤ low ∧ low < 0xE000 then
              (Char.ofNat (0x10000 + (high - 0xD800) * 0x400 + (low - 0xDC00)) :: ·) <$> decodeUtf16 units
            else none
      else none

/-- `String::from_utf16`. -/
def stringFromUtf16 (units : List ℕ) : ByteReader SerializationError Value :=
  match decodeUtf16 units with
  | some s => pure (.string (String.ofList s))
  | none => .fail .utf16ParsingFailed

/-- `String::as_bytes`. -/
def stringBytes (s : String) : List UInt8 := s.toUTF8.data.toList

theorem length_stringBytes (s : String) : (stringBytes s).length = s.utf8ByteSize := rfl

theorem stringFromUtf8_bytes (s : String) : stringFromUtf8 (stringBytes s) = pure (.string s) := by
  have hsome : String.fromUTF8? ⟨(stringBytes s).toArray⟩ = some s := by
    have hbytes : (⟨(stringBytes s).toArray⟩ : ByteArray) = s.toByteArray := rfl
    rw [hbytes, String.fromUTF8?, dif_pos s.isValidUTF8]
    rfl
  rw [stringFromUtf8, hsome]

theorem regular_stringFromUtf8 (bytes : List UInt8) : (stringFromUtf8 bytes).Regular := by
  unfold stringFromUtf8
  split
  · exact .pure _
  · exact .fail _

theorem regular_stringFromUtf16 (units : List ℕ) : (stringFromUtf16 units).Regular := by
  unfold stringFromUtf16
  split
  · exact .pure _
  · exact .fail _

/-- A string that comes from bytes has these bytes, and nothing else is read. -/
theorem eq_of_stringFromUtf8 {bytes input : List UInt8} {v : Value} {rest : List UInt8}
    (h : stringFromUtf8 bytes input = .ok (v, rest)) :
    ∃ s, v = .string s ∧ bytes = stringBytes s ∧ input = rest := by
  unfold stringFromUtf8 at h
  cases hs : String.fromUTF8? ⟨bytes.toArray⟩ with
  | none =>
      rw [hs] at h
      simp at h
  | some s =>
      rw [hs] at h
      obtain ⟨rfl, rfl⟩ := ByteReader.pure_eq_ok h
      refine ⟨s, rfl, ?_, rfl⟩
      unfold String.fromUTF8? at hs
      split at hs
      · obtain rfl := Option.some_inj.1 hs
        rfl
      · simp at hs

theorem eq_of_stringFromUtf16 {units : List ℕ} {input : List UInt8} {v : Value} {rest : List UInt8}
    (h : stringFromUtf16 units input = .ok (v, rest)) :
    ∃ s, v = .string (String.ofList s) ∧ decodeUtf16 units = some s ∧ input = rest := by
  unfold stringFromUtf16 at h
  cases hs : decodeUtf16 units with
  | none =>
      rw [hs] at h
      simp at h
  | some s =>
      rw [hs] at h
      obtain ⟨rfl, rfl⟩ := ByteReader.pure_eq_ok h
      exact ⟨s, rfl, rfl, rfl⟩

end Skrillax

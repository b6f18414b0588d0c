/-
**Short names packed into a word.**

A name of up to four characters fits into a word of four bytes, with its last character in the lowest
byte and zeros above the first one.  Reading it back drops the zero bytes, wherever they are, and decodes
what is left as UTF-8.

Main definitions:

* `PackedName.toBeBytes`, `PackedName.ofBeBytes` — the bytes of a word, the highest one first, and the
  word whose lowest bytes are the given ones;
* `PackedName.pack`, `PackedName.unpack` — the word of a name, and the name in a word;
* `PackedName.Packable` — the names of one to four ASCII characters without the zero character.

Main results:

* `PackedName.filter_toBeBytes_ofBeBytes` — up to four bytes other than zero are read back;
* `PackedName.unpack_pack` — so is a name that can be packed;
* `PackedName.pack_ne_zero` — the word of such a name is not zero.
-/

import Mathlib
import Skrillax.LittleEndian

set_option relaxedAutoImplicit false
set_option autoImplicit false

namespace PackedName

/-! ### Bytes -/

/-- The bytes of the word, the highest one first. -/
def toBeBytes (word : UInt32) : List UInt8 := (LittleEndian.encode 4 word.toNat).reverse

/-- The word whose lowest bytes are the given ones, the last one lowest. -/
def ofBeBytes (bytes : List UInt8) : UInt32 := UInt32.ofNat (LittleEndian.decode bytes.reverse)

theorem encode_zero_eq_replicate (width : ℕ) :
    LittleEndian.encode width 0 = List.replicate width 0 := by
  induction width with
  | zero => rfl
  | succ width ih => rw [LittleEndian.encode_succ, Nat.zero_div, ih, List.replicate_succ]; rfl

/-- A wide encoding is a narrow one, followed by the encoding of what did not fit. -/
theorem encode_add (width more n : ℕ) : LittleEndian.encode (width + more) n =
    LittleEndian.encode width n ++ LittleEndian.encode more (n / 256 ^ width) := by
  induction width generalizing n with
  | zero => simp
  | succ width ih =>
      rw [Nat.add_right_comm, LittleEndian.encode_succ, LittleEndian.encode_succ, ih,
        Nat.div_div_eq_div_mul, ← Nat.pow_succ', List.cons_append]

theorem toBeBytes_ofBeBytes {bytes : List UInt8} (hlen : bytes.length ≤ 4) :
    toBeBytes (ofBeBytes bytes) = List.replicate (4 - bytes.length) 0 ++ bytes := by
  have hlt : LittleEndian.decode bytes.reverse < 256 ^ bytes.length := by
    simpa using LittleEndian.decode_lt bytes.reverse
  have hword : LittleEndian.decode bytes.reverse < 2 ^ 32 :=
    hlt.trans_le (Nat.pow_le_pow_right (by norm_num) hlen)
  have hencode : LittleEndian.encode bytes.length (LittleEndian.decode bytes.reverse) =
      bytes.reverse := by
    simpa using LittleEndian.encode_decode bytes.reverse
  obtain ⟨more, hmore⟩ := Nat.exists_eq_add_of_le hlen
  rw [toBeBytes, ofBeBytes, UInt32.toNat_ofNat_of_lt' hword]
  rw [hmore, encode_add, hencode, Nat.div_eq_of_lt hlt, encode_zero_eq_replicate,
    Nat.add_sub_cancel_left]
  simp

/-- Up to four bytes other than zero are the bytes of their word other than zero. -/
theorem filter_toBeBytes_ofBeBytes {bytes : List UInt8} (hlen : bytes.length ≤ 4)
    (hne : ∀ byte ∈ bytes, byte ≠ 0) : (toBeBytes (ofBeBytes bytes)).filter (· ≠ 0) = bytes := by
  rw [toBeBytes_ofBeBytes hlen, List.filter_append, List.filter_replicate_of_neg (by simp),
    List.nil_append, List.filter_eq_self]
  simpa using hne

/-! ### Names -/

def pack (name : String) : UInt32 := ofBeBytes name.toUTF8.data.toList

/-- The bytes other than zero as a string, if they are one. -/
def unpack (word : UInt32) : Option String :=
  String.fromUTF8? ((toBeBytes word).filter (· ≠ 0)).toByteArray

/-- One to four ASCII characters other than the zero character. -/
structure Packable (name : String) : Prop where
  pos : 0 < name.length
  le_four : name.length ≤ 4
  ascii : ∀ c ∈ name.toList, 0 < c.toNat ∧ c.toNat < 128

/-- The encoding of ASCII characters is one byte for each of them. -/
theorem toUTF8_of_ascii {name : String} (h : ∀ c ∈ name.toList, c.toNat < 128) :
    name.toUTF8.data.toList = name.toList.map fun c => UInt8.ofNat c.toNat := by
  have hencode : name.toUTF8 = (name.toList.flatMap String.utf8EncodeChar).toByteArray :=
    String.utf8Encode_toList.symm
  rw [hencode, List.data_toByteArray, List.toList_toArray]
  generalize name.toList = chars at h
  induction chars with
  | nil => rfl
  | cons c chars ih =>
      have hc : c.toNat ≤ 127 := Nat.le_of_lt_succ (h c List.mem_cons_self)
      have hone : String.utf8EncodeChar c = [UInt8.ofNat c.toNat] := if_pos hc
      rw [List.flatMap_cons, hone, ih fun c hc => h c (List.mem_cons_of_mem _ hc)]
      rfl

/-- Decoding the encoding of a string gives back the string. -/
theorem fromUTF8_toUTF8 (name : String) : String.fromUTF8? name.toUTF8 = some name :=
  dif_pos name.isValidUTF8

theorem Packable.length_toUTF8 {name : String} (h : Packable name) :
    name.toUTF8.data.toList.length = name.length := by
  rw [toUTF8_of_ascii fun c hc => (h.ascii c hc).2, List.length_map, String.length_toList]

theorem Packable.ne_zero {name : String} (h : Packable name) :
    ∀ byte ∈ name.toUTF8.data.toList, byte ≠ 0 := by
  rw [toUTF8_of_ascii fun c hc => (h.ascii c hc).2]
  intro byte hbyte hzero
  obtain ⟨c, hc, rfl⟩ := List.mem_map.mp hbyte
  obtain ⟨hpos, hlt⟩ := h.ascii c hc
  have hnat : c.toNat % 256 = 0 := by simpa using congrArg UInt8.toNat hzero
  omega

/-- A name that can be packed is read back. -/
theorem unpack_pack {name : String} (h : Packable name) : unpack (pack name) = some name := by
  have hlen : name.toUTF8.data.toList.length ≤ 4 := h.length_toUTF8.trans_le h.le_four
  have hbytes : name.toUTF8.data.toList.toByteArray = name.toUTF8 :=
    ByteArray.ext (by rw [List.data_toByteArray, Array.toArray_toList])
  rw [unpack, pack, filter_toBeBytes_ofBeBytes hlen h.ne_zero, hbytes, fromUTF8_toUTF8]

theorem pack_ne_zero {name : String} (h : Packable name) : pack name ≠ 0 := by
  intro hzero
  have hempty : unpack 0 = some "" := by decide
  have hname : name = "" := Option.some.inj ((unpack_pack h).symm.trans (hzero ▸ hempty))
  exact absurd h.pos (by simp [hname])

end PackedName

/-
**Reading a field back.**

The derived readers and writers, one field at a time: whether a value that is written for a field is read
back from it, and the bytes behind it are left alone.  Two kinds of fields have attributes that the
generators treat in different ways.

A wide string is written behind the number of its bytes in UTF-8, and read behind the number of its units in
UTF-16.  These are the same for the characters that take one byte only.  A list is read behind its length in
one byte, whatever its attributes say, while the writer marks the elements as the attributes ask for.

Main definitions:

* `ReadsBack` — a value that is written for a field is read back.

Main results:

* `readsBack_iff` — in terms of the value that is read;
* `decodeUtf16_flatMap`, `utf8ByteSize_eq_iff` — the units of characters, and their number;
* `wideString_readsBack_iff` — **which wide strings are read back**, with their size;
* `list_readsBack_iff` — **which lists are read back**.
-/

import Skrillax.FieldNames
import Skrillax.DeriveSize

set_option relaxedAutoImplicit false
set_option autoImplicit false

namespace Skrillax

open ByteReader

/-! ### A single field -/

/-- The code that is generated for a field, on what is written for a value of it: the variable of the field
gets the value, and what follows is left. -/
def ReadsBack (env : TypeEnv) (field : Field) (v : Value) : Prop :=
  ∀ scope rest, ∃ scope', (generateReaderFor field).run env scope (field.shape.write env v ++ rest) =
    .ok (scope', rest) ∧ valueOf scope' field.name = v

theorem readsBack_iff {env : TypeEnv} {field : Field} (hp : field.Plausible) (v : Value) :
    ReadsBack env field v ↔ ∀ scope, (field.shape.read env scope).Reads (field.shape.write env v) v := by
  constructor
  · intro h scope rest
    obtain ⟨scope', hrun, hv⟩ := h scope rest
    rw [run_generateReaderFor env hp] at hrun
    obtain ⟨p, hlocals, rfl⟩ := map_eq_ok hrun
    have hp : p.1 = v := by simpa using hv
    rw [FieldShape.read_eq, map_eq_pure_bind, bind_ok hlocals, hp]
    rfl
  · intro h scope rest
    have hread := h scope rest
    rw [FieldShape.read_eq] at hread
    obtain ⟨p, hlocals, rfl⟩ := map_eq_ok hread
    refine ⟨(field.name, p.1) :: p.2 ++ scope, ?_, ?_⟩
    · rw [run_generateReaderFor env hp, map_eq_pure_bind, bind_ok hlocals]
      rfl
    · simp

/-! ### The units of characters -/

theorem utf16Units_of_lt {c : Char} (h : c.toNat < 0x10000) : utf16Units c = [c.toNat] := if_pos h

theorem utf16Units_of_le {c : Char} (h : 0x10000 ≤ c.toNat) : utf16Units c =
    [0xD800 + (c.toNat - 0x10000) / 0x400, 0xDC00 + (c.toNat - 0x10000) % 0x400] :=
  if_neg (Nat.not_lt.2 h)

/-- A character is no surrogate, and not too large. -/
theorem toNat_ranges (c : Char) :
    (c.toNat < 0xD800 ∨ 0xDFFF < c.toNat) ∧ c.toNat < 0x110000 := by
  rcases c.valid with h | ⟨h, h'⟩
  · have h : c.toNat < 0xD800 := h
    omega
  · have h : 0xDFFF < c.toNat := h
    have h' : c.toNat < 0x110000 := h'
    omega

theorem decodeUtf16_units (c : Char) (units : List ℕ) :
    decodeUtf16 (utf16Units c ++ units) = (c :: ·) <$> decodeUtf16 units := by
  obtain ⟨hsurrogate, hmax⟩ := toNat_ranges c
  by_cases h : c.toNat < 0x10000
  · rw [utf16Units_of_lt h, List.singleton_append, decodeUtf16.eq_def]
    have hsingle : c.toNat < 0xD800 ∨ 0xE000 ≤ c.toNat := by omega
    simp only [if_pos hsingle, Char.ofNat_toNat]
  · rw [utf16Units_of_le (by omega), decodeUtf16.eq_def]
    -- the two halves of the code point, below the first one that needs two units
    have hhigh : ¬ (0xD800 + (c.toNat - 0x10000) / 0x400 < 0xD800 ∨
        0xE000 ≤ 0xD800 + (c.toNat - 0x10000) / 0x400) := by omega
    have hhigh' : 0xD800 + (c.toNat - 0x10000) / 0x400 < 0xDC00 := by omega
    have hlow : 0xDC00 ≤ 0xDC00 + (c.toNat - 0x10000) % 0x400 ∧
        0xDC00 + (c.toNat - 0x10000) % 0x400 < 0xE000 := by omega
    have hcode : 0x10000 + (0xD800 + (c.toNat - 0x10000) / 0x400 - 0xD800) * 0x400 +
        (0xDC00 + (c.toNat - 0x10000) % 0x400 - 0xDC00) = c.toNat := by omega
    simp only [List.cons_append, List.nil_append, if_neg hhigh, if_pos hhigh', if_pos hlow, hcode,
      Char.ofNat_toNat]

/-- **The units of characters are decoded as these characters.** -/
theorem decodeUtf16_flatMap (cs : List Char) : decodeUtf16 (cs.flatMap utf16Units) = some cs := by
  induction cs with
  | nil => rfl
  | cons c cs ih =>
      rw [List.flatMap_cons, decodeUtf16_units, ih]
      rfl

theorem lt_of_mem_utf16Units {c : Char} {u : ℕ} (h : u ∈ utf16Units c) : u < 65536 := by
  have hmax := (toNat_ranges c).2
  by_cases hc : c.toNat < 0x10000
  · rw [utf16Units_of_lt hc, List.mem_singleton] at h
    omega
  · rw [utf16Units_of_le (by omega), List.mem_cons, List.mem_singleton] at h
    omega

/-- A character has at most as many units as bytes; only those of one byte have as many. -/
theorem length_utf16Units (c : Char) : (utf16Units c).length ≤ c.utf8Size ∧
    (c.utf8Size = (utf16Units c).length ↔ c.toNat < 128) := by
  have hone : c.utf8Size = 1 ↔ c.toNat < 128 := by
    rw [Char.utf8Size_eq_one_iff, UInt32.le_iff_toNat_le, Nat.lt_succ_iff]
    rfl
  have hfour : c.utf8Size = 4 ↔ 0x10000 ≤ c.toNat := by
    rw [Char.utf8Size_eq_four_iff, UInt32.lt_iff_toNat_lt]
    rfl
  by_cases h : c.toNat < 0x10000
  · rw [utf16Units_of_lt h, List.length_singleton]
    exact ⟨c.utf8Size_pos, hone⟩
  · have h := hfour.2 (by omega)
    rw [utf16Units_of_le (by omega), h]
    simp only [List.length_cons, List.length_nil]
    omega

theorem length_flatMap_utf16Units (cs : List Char) :
    (cs.flatMap utf16Units).length ≤ String.utf8Len cs ∧
      (String.utf8Len cs = (cs.flatMap utf16Units).length ↔ ∀ c ∈ cs, c.toNat < 128) := by
  induction cs with
  | nil => simp
  | cons c cs ih =>
      obtain ⟨hle, hiff⟩ := length_utf16Units c
      obtain ⟨hles, hiffs⟩ := ih
      rw [List.flatMap_cons, List.length_append, String.utf8Len_cons, List.forall_mem_cons, ← hiff,
        ← hiffs]
      omega

/-- **A string has as many bytes in UTF-8 as units in UTF-16 exactly if each of its characters takes one
byte.** -/
theorem utf8ByteSize_eq_iff (s : String) :
    s.utf8ByteSize = (s.toList.flatMap utf16Units).length ↔ ∀ c ∈ s.toList, c.toNat < 128 := by
  have hsize := String.utf8ByteSize_ofList s.toList
  rw [String.ofList_toList] at hsize
  rw [hsize]
  exact (length_flatMap_utf16Units s.toList).2

/-! ### Wide strings -/

theorem Primitive.takes_read (p : Primitive) : p.read.Takes fun _ => p.size := by
  intro input v rest h
  obtain ⟨bits, middle, hword, hpure⟩ := bind_eq_ok h
  obtain ⟨rfl, rfl⟩ := pure_eq_ok hpure
  obtain ⟨bytes, middle', hbytes, hpure⟩ := bind_eq_ok hword
  obtain ⟨rfl, rfl⟩ := pure_eq_ok hpure
  exact Takes.exactly _ _ _ _ _ hbytes

/-- A unit, as the reader returns it. -/
def unitValue (u : ℕ) : Value := .word 2 (BitVec.ofNat 16 u)

theorem toNat_unitValue {u : ℕ} (h : u < 65536) : (unitValue u).toNat = u := by
  rw [unitValue, Value.toNat_word, BitVec.toNat_ofNat]
  exact Nat.mod_eq_of_lt h

theorem toNat_unitValues {units : List ℕ} (h : ∀ u ∈ units, u < 65536) :
    (units.map unitValue).map Value.toNat = units := by
  induction units with
  | nil => rfl
  | cons u units ih =>
      obtain ⟨hu, hunits⟩ := List.forall_mem_cons.1 h
      rw [List.map_cons, List.map_cons, toNat_unitValue hu, ih hunits]

/-- The units of a string, each as two bytes. -/
theorem reads_units {units : List ℕ} (h : ∀ u ∈ units, u < 65536) :
    (Primitive.u16.read.many units.length).Reads (units.flatMap (LittleEndian.encode 2))
      (units.map unitValue) := by
  have hmany := Reads.many (fun v => LittleEndian.encode 2 v.toNat) (units.map unitValue) fun v hv => by
    obtain ⟨u, hu, rfl⟩ := List.mem_map.1 hv
    rw [toNat_unitValue (h u hu)]
    exact reads_u16 u (h u hu)
  have hbytes : (units.map unitValue).flatMap (fun v => LittleEndian.encode 2 v.toNat) =
      units.flatMap (LittleEndian.encode 2) := by
    rw [← List.flatMap_map, toNat_unitValues h]
  rwa [List.length_map, hbytes] at hmany

/-- The number that is written is that of the bytes, in two bytes. -/
theorem reads_wideLength (s : String) :
    Primitive.u16.read.Reads (LittleEndian.encode 2 s.utf8ByteSize) (unitValue (s.utf8ByteSize % 65536)) := by
  rw [← LittleEndian.encode_mod]
  exact reads_u16 _ (Nat.mod_lt _ (by omega))

theorem toNat_wideLength (s : String) :
    (unitValue (s.utf8ByteSize % 65536)).toNat = s.utf8ByteSize % 65536 :=
  toNat_unitValue (Nat.mod_lt _ (by omega))

theorem stringFromUtf16_units (s : String) :
    stringFromUtf16 (s.toList.flatMap utf16Units) = pure (.string s) := by
  rw [stringFromUtf16, decodeUtf16_flatMap]
  change pure (Value.string (String.ofList s.toList)) = _
  rw [String.ofList_toList]

theorem sum_map_const {α : Type} (n : ℕ) (as : List α) : (as.map fun _ => n).sum = as.length * n := by
  rw [List.map_const', List.sum_replicate, smul_eq_mul]

/-- A wide string is read back exactly if the number that is written is that of its units. -/
theorem reads_writeWideString_iff (s : String) :
    readWideString.Reads (writeWideString s) (.string s) ↔
      s.utf8ByteSize % 65536 = (s.toList.flatMap utf16Units).length := by
  constructor
  · intro h
    obtain ⟨len, middle, hlen, hread⟩ := bind_eq_ok (h [])
    rw [List.append_nil, writeWideString, reads_wideLength s] at hlen
    obtain ⟨rfl, rfl⟩ := Prod.mk.inj (Except.ok.inj hlen)
    obtain ⟨units, middle', hunits, hstring⟩ := bind_eq_ok hread
    -- as many units are taken as are announced, and nothing is left of those that are written
    have hcount := length_of_many hunits
    have htaken := Primitive.u16.takes_read.many _ _ _ _ hunits
    obtain ⟨-, -, -, rfl⟩ := eq_of_stringFromUtf16 hstring
    have hwritten := length_writeWideString s
    rw [writeWideString, List.length_append, LittleEndian.length_encode] at hwritten
    rw [toNat_wideLength] at hcount
    simp only [sum_map_const, Primitive.size, List.length_nil] at htaken
    omega
  · intro h
    have hmem : ∀ u ∈ s.toList.flatMap utf16Units, u < 65536 := by
      intro u hu
      obtain ⟨c, -, hc⟩ := List.mem_flatMap.1 hu
      exact lt_of_mem_utf16Units hc
    have hrest := (reads_units hmem).bind (f := fun units => stringFromUtf16 (units.map Value.toNat))
      (by rw [toNat_unitValues hmem, stringFromUtf16_units]; exact Reads.pure _)
    rw [List.append_nil, ← h, ← toNat_wideLength] at hrest
    exact (reads_wideLength s).bind hrest

/-- **Wide strings**: a string of at most `65535` units is read back, and its size is exact, precisely if
each of its characters takes one byte. -/
theorem wideString_readsBack_iff (env : TypeEnv) (sizes : SizeEnv) (name s : String)
    (h : (s.toList.flatMap utf16Units).length ≤ 65535) :
    ReadsBack env ⟨name, .string .wide⟩ (.string s) ∧
        FieldShape.byteSize sizes (.string .wide) (.string s) =
          (FieldShape.write env (.string .wide) (.string s)).length ↔
      ∀ c ∈ s.toList, c.toNat < 128 := by
  have hreads : ReadsBack env ⟨name, .string .wide⟩ (.string s) ↔
      s.utf8ByteSize % 65536 = (s.toList.flatMap utf16Units).length := by
    rw [readsBack_iff (show Field.Plausible ⟨name, .string .wide⟩ from trivial),
      ← reads_writeWideString_iff]
    exact ⟨fun h => h [], fun h _ => h⟩
  have hsize : FieldShape.byteSize sizes (.string .wide) (.string s) = 2 + s.utf8ByteSize * 2 := rfl
  have hlength : (FieldShape.write env (.string .wide) (.string s)).length = _ := length_writeWideString s
  rw [hreads, hsize, hlength, ← utf8ByteSize_eq_iff]
  omega

/-- Four characters of one byte. -/
theorem wideString_readsBack_four :
    let env : TypeEnv := fun _ => Primitive.u8.serdeType
    let sizes : SizeEnv := fun _ => Primitive.u8.sizedType
    ReadsBack env ⟨"message", .string .wide⟩ (.string "test") ∧
      FieldShape.byteSize sizes (.string .wide) (.string "test") =
        (FieldShape.write env (.string .wide) (.string "test")).length := by
  intro env sizes
  have hunits : ("test".toList.flatMap utf16Units).length = 4 := by decide
  have hbytes : "test".utf8ByteSize = 4 := by decide
  exact (wideString_readsBack_iff env sizes "message" "test" (by omega)).2
    ((utf8ByteSize_eq_iff "test").1 (hbytes.trans hunits.symm))

/-- One character of two bytes: two units are announced where there is one, so the reader takes two bytes of
what follows, or fails; and the size counts two units. -/
theorem two_bytes_announced_as_units :
    let env : TypeEnv := fun _ => Primitive.u8.serdeType
    let sizes : SizeEnv := fun _ => Primitive.u8.sizedType
    ("é".toList.flatMap utf16Units).length = 1 ∧
      ¬ ReadsBack env ⟨"message", .string .wide⟩ (.string "é") ∧
      FieldShape.byteSize sizes (.string .wide) (.string "é") = 6 ∧
      (FieldShape.write env (.string .wide) (.string "é")).length = 4 := by
  intro env sizes
  have hunits : ("é".toList.flatMap utf16Units).length = 1 := by decide
  have hbytes : "é".utf8ByteSize = 2 := by decide
  refine ⟨hunits, fun h => ?_, ?_, ?_⟩
  · have hreads := (readsBack_iff (show Field.Plausible ⟨"message", .string .wide⟩ from trivial) _).1 h []
    have hannounced := (reads_writeWideString_iff "é").1 hreads
    rw [hunits, hbytes] at hannounced
    omega
  · exact congrArg (2 + · * 2) hbytes
  · exact (length_writeWideString "é").trans (congrArg (2 + 2 * ·) hunits)

/-! ### Lists -/

/-- What a list is made of, where it is not made of values of other types. -/
inductive Element where
  | primitive (p : Primitive)
  | string

namespace Element

def inner : Element → Inner
  | primitive p => .plain (.primitive p)
  | string => .string

def Has : Element → Value → Prop
  | primitive p, v => p.Valid v
  | string, v => ∃ s : String, v = .string s

theorem roundTrips (env : TypeEnv) (e : Element) : ∀ ty ∈ e.inner.tys, RoundTrips (env.serde ty) := by
  intro ty hty
  cases e with
  | primitive p =>
      obtain rfl := List.mem_singleton.1 hty
      exact p.roundTrips
  | string => exact absurd hty List.not_mem_nil

theorem readsValid (env : TypeEnv) (e : Element) : ∀ ty ∈ e.inner.tys, ReadsValid (env.serde ty) := by
  intro ty hty
  cases e with
  | primitive p =>
      obtain rfl := List.mem_singleton.1 hty
      exact p.readsValid
  | string => exact absurd hty List.not_mem_nil

/-- An element is valid if it is not a string that is too long. -/
theorem valid (env : TypeEnv) {e : Element} {v : Value} (hv : e.Has v)
    (hshort : ∀ s : String, v = .string s → s.utf8ByteSize ≤ 65535) : e.inner.Valid env v := by
  cases e with
  | primitive p => exact hv
  | string =>
      obtain ⟨s, rfl⟩ := hv
      exact ⟨s, rfl, hshort s rfl⟩

end Element

/-- The reader of an element takes as many bytes as are written for it. -/
theorem Element.takes_read (env : TypeEnv) (e : Element) :
    (e.inner.read env).Takes fun v => (e.inner.write env v).length := by
  intro input v rest h
  cases e with
  | primitive p =>
      have hlen : (p.write v).length = p.size := Primitive.length_write (p.valid_of_read h)
      change input.length = (p.write v).length + rest.length
      rw [hlen]
      exact p.takes_read _ _ _ h
  | string =>
      obtain ⟨len, middle, hlen, hread⟩ := bind_eq_ok h
      obtain ⟨bytes, middle', hbytes, hstring⟩ := bind_eq_ok hread
      obtain ⟨s, rfl, hs, rfl⟩ := eq_of_stringFromUtf8 hstring
      have htwo : input.length = 2 + middle.length := Primitive.u16.takes_read _ _ _ hlen
      have hmany := Primitive.u8.takes_read.many _ _ _ _ hbytes
      have hsize : bytes.length = s.utf8ByteSize := by
        rw [← length_stringBytes, ← hs, List.length_map]
      simp only [sum_map_const, Primitive.size] at hmany
      change input.length = (writeString s).length + middle'.length
      rw [length_writeString]
      omega

theorem toNat_byte (b : UInt8) : (Value.byte b).toNat = b.toNat := by
  rw [Value.byte, Value.toNat_word, BitVec.toNat_ofNat]
  exact Nat.mod_eq_of_lt b.toNat_lt

/-- What the reader of a list does, whatever the attributes are: the first byte is the number of elements. -/
theorem list_of_read {env : TypeEnv} {scope : Scope String Value} {e : Element} {repr : ListRepr}
    {input rest : List UInt8} {items : List Value}
    (h : FieldShape.read env scope (.collection e.inner repr) input = .ok (.vec items, rest)) :
    (∃ b tail, input = b :: tail ∧ items.length = b.toNat) ∧
      input.length = 1 + (items.flatMap (e.inner.write env)).length + rest.length ∧
      ∀ x ∈ items, e.inner.Valid env x := by
  obtain ⟨size, middle, hsize, hread⟩ := bind_eq_ok h
  obtain ⟨items', hmany, hvec⟩ := map_eq_ok hread
  obtain rfl : items' = items := Value.vec.inj hvec
  have htaken : middle.length = (items'.map fun v => (e.inner.write env v).length).sum + rest.length :=
    (e.takes_read env).many _ _ _ _ hmany
  have hone : input.length = 1 + middle.length := Primitive.u8.takes_read _ _ _ hsize
  have hvalid := (forall_of_many (fun _ _ _ hx => Inner.valid_of_read (e.readsValid env) hx) _ _ _ _ hmany).2
  refine ⟨?_, ?_, hvalid⟩
  · cases input with
    | nil =>
        rw [List.length_nil] at hone
        omega
    | cons b tail =>
        rw [show b :: tail = [b] ++ tail from rfl, reads_byte b tail] at hsize
        obtain ⟨rfl, -⟩ := Prod.mk.inj (Except.ok.inj hsize)
        exact ⟨b, tail, rfl, (length_of_many hmany).trans (toNat_byte b)⟩
  · rw [List.length_flatMap]
    omega

/-- A string that is valid as an element is not too long. -/
theorem Element.length_le (env : TypeEnv) {e : Element} {s : String}
    (h : e.inner.Valid env (.string s)) : s.utf8ByteSize ≤ 65535 := by
  cases e with
  | primitive p =>
      have h : p.Valid (.string s) := h
      cases p <;>
        (obtain ⟨_, h⟩ := h
         cases h)
  | string =>
      obtain ⟨s', hs, hle⟩ := h
      obtain rfl := Value.string.inj hs
      exact hle

theorem eq_one_of_mul_eq {width : Width} {n : ℕ} (h : width.bytes * (n + 1) = 1) :
    width = .one ∧ n = 0 := by
  have hwidth := Nat.eq_one_of_mul_eq_one_right h
  have hn := Nat.eq_one_of_mul_eq_one_left h
  refine ⟨?_, by omega⟩
  cases width with
  | one => rfl
  | _ => simp [Width.bytes] at hwidth

/-- The length of a list fits where it is written. -/
def ListRepr.Fits (repr : ListRepr) (count : ℕ) : Prop :=
  match repr with
  | .length width => count < 256 ^ width.bytes
  | _ => True

/-- **Lists**: a list is read back precisely if its length is written in one byte, or if it is empty and the
end of it is written as a zero in one byte; and if none of its strings is too long. -/
theorem list_readsBack_iff (env : TypeEnv) (name : String) (e : Element) (repr : ListRepr)
    (hacc : accepted env [⟨name, .collection e.inner repr⟩] = true) (items : List Value)
    (hitems : ∀ x ∈ items, e.Has x) (hfits : repr.Fits items.length) :
    ReadsBack env ⟨name, .collection e.inner repr⟩ (.vec items) ↔
      (repr = .length .one ∨ repr = .hasMore .one ∧ items = []) ∧
        ∀ s : String, .string s ∈ items → s.utf8ByteSize ≤ 65535 := by
  have hp : Field.Plausible ⟨name, .collection e.inner repr⟩ :=
    plausible_of_accepted (by simp) hacc _ List.mem_cons_self
  rw [readsBack_iff hp]
  constructor
  · intro h
    obtain ⟨⟨b, tail, hinput, hcount⟩, hlength, hvalid⟩ := list_of_read (h [] [])
    rw [List.append_nil] at hinput hlength
    have hmarks : repr.marks items.length = 1 := by
      have hwritten := repr.length_write (e.inner.write env) items
      rw [show FieldShape.write env (.collection e.inner repr) (.vec items) = repr.write _ items from rfl,
        hwritten] at hlength
      rw [List.length_nil] at hlength
      omega
    refine ⟨?_, fun s hs => Element.length_le env (hvalid _ hs)⟩
    cases repr with
    | length width =>
        have hwidth : width.bytes * (0 + 1) = 1 := by rw [Nat.zero_add, Nat.mul_one]; exact hmarks
        rw [(eq_one_of_mul_eq hwidth).1]
        exact .inl rfl
    | break_ width =>
        -- the byte that ends the list is taken for its length
        obtain ⟨rfl, hnil⟩ := eq_one_of_mul_eq hmarks
        obtain rfl := List.length_eq_zero_iff.1 hnil
        obtain ⟨rfl, -⟩ : 2 = b ∧ [] = tail := List.cons.inj hinput
        exact absurd hcount (by decide)
    | hasMore width =>
        obtain ⟨rfl, hnil⟩ := eq_one_of_mul_eq hmarks
        exact .inr ⟨rfl, List.length_eq_zero_iff.1 hnil⟩
    | unmarked => exact absurd hmarks Nat.zero_ne_one
  · rintro ⟨hrepr, hshort⟩ scope
    have hvalid : ∀ x ∈ items, e.inner.Valid env x := fun x hx =>
      e.valid env (hitems x hx) fun s hs => hshort s (hs ▸ hx)
    rcases hrepr with rfl | ⟨rfl, rfl⟩
    · have hlt : items.length < 256 := hfits
      have hstd : (FieldShape.collection e.inner (.length .one)).standard = true := rfl
      exact FieldShape.reads_write hstd (e.roundTrips env) ⟨items, rfl, by omega, hvalid⟩
    · exact reads_collection_nil env e.inner _ scope

/-- Three numbers behind their count in one byte. -/
theorem list_readsBack_three :
    let env : TypeEnv := fun _ => Primitive.u8.serdeType
    ReadsBack env ⟨"numbers", .collection (.plain (.primitive .u16)) (.length .one)⟩
      (.vec [.word 2 1, .word 2 2, .word 2 3]) := by
  intro env
  have hacc : accepted env
      [⟨"numbers", .collection (Element.primitive .u16).inner (.length .one)⟩] = true := rfl
  refine (list_readsBack_iff env "numbers" (.primitive .u16) (.length .one) hacc _ ?_ ?_).2 ⟨.inl rfl, ?_⟩
  · intro x hx
    fin_cases hx
    · exact ⟨1, rfl⟩
    · exact ⟨2, rfl⟩
    · exact ⟨3, rfl⟩
  · exact (by decide : 3 < 256 ^ 1)
  · intro s hs
    simp at hs

/-- One number behind its count in two bytes: the reader takes the low byte of the count for all of it, and the
number is read one byte too early. -/
theorem count_of_two_bytes_not_read :
    let env : TypeEnv := fun _ => Primitive.u8.serdeType
    let field : Field := ⟨"numbers", .collection (.plain (.primitive .u16)) (.length .two)⟩
    accepted env [field] = true ∧ ¬ ReadsBack env field (.vec [.word 2 1]) := by
  intro env field
  have hp : field.Plausible := show "numbers" ≠ "items" by decide
  refine ⟨rfl, fun h => ?_⟩
  -- four bytes are written, and three are read
  have hreads : FieldShape.read env [] (.collection (Element.primitive .u16).inner (.length .two))
      [1, 0, 1, 0] = .ok (.vec [.word 2 1], []) := (readsBack_iff hp _).1 h [] []
  obtain ⟨-, hlength, -⟩ := list_of_read hreads
  exact absurd hlength (by decide)

end Skrillax

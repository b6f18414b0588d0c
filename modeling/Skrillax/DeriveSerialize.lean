/-
**The derived serializer.**

The fields of a struct are written one after the other, each from its place in the struct.  The fields of a
variant are bound to variables of their names first, after the tag of the variant; there, the components of a
tuple are bound in the same scope, and a field of the name `writer` hides the argument everything is written
to.

Main definitions:

* `FieldShape.write` — what is written for a field;
* `writeFields`, `writeBound` — what is written for the fields of a struct, and of a variant;
* `Decl.write`, `Decl.writeAccepted` — the derived `write_to`, and whether it compiles;
* `FieldShape.Valid`, `FieldsValid`, `Decl.Valid` — the values that the format has room for;
* `RoundTrips`, `ReadsValid` — what is written of a type is read again, and what is read is valid.

Main results:

* `FieldShape.reads_write`, `readFields_writeFields` — **what is written for the fields is read for them
  again**;
* `fieldsValid_of_readFields` — what is read for the fields is valid.
-/

import Skrillax.FieldNames

set_option relaxedAutoImplicit false
set_option autoImplicit false

namespace Skrillax

open ByteReader

/-! ### Fields -/

/-- The length in bytes, as two of them, and the bytes. -/
def writeString (s : String) : List UInt8 := LittleEndian.encode 2 s.utf8ByteSize ++ stringBytes s

/-- The units of `str::encode_utf16`. -/
def utf16Units (c : Char) : List ℕ :=
  if c.toNat < 0x10000 then [c.toNat]
  else [0xD800 + (c.toNat - 0x10000) / 0x400, 0xDC00 + (c.toNat - 0x10000) % 0x400]

/-- The length is that of the string in bytes here, too. -/
def writeWideString (s : String) : List UInt8 :=
  LittleEndian.encode 2 s.utf8ByteSize ++ (s.toList.flatMap utf16Units).flatMap (LittleEndian.encode 2)

def Inner.write (env : TypeEnv) : Inner → Value → List UInt8
  | .plain ty, v => (env.serde ty).write v
  | .string, .string s => writeString s
  | .string, _ => []

/-- The elements of a list, with what marks their number. -/
def ListRepr.write (repr : ListRepr) (write : Value → List UInt8) (items : List Value) : List UInt8 :=
  match repr with
  | .length width => LittleEndian.encode width.bytes items.length ++ items.flatMap write
  | .break_ width =>
      items.flatMap (fun v => LittleEndian.encode width.bytes 1 ++ write v) ++
        LittleEndian.encode width.bytes 2
  | .hasMore width =>
      items.flatMap (fun v => LittleEndian.encode width.bytes 1 ++ write v) ++
        LittleEndian.encode width.bytes 0
  | .unmarked => items.flatMap write

/-- `generate_for_field`, at the type of the field. -/
def FieldShape.write (env : TypeEnv) : FieldShape → Value → List UInt8
  | .primitive ty, v => (env.serde ty).write v
  | .string .narrow, .string s => writeString s
  | .string .wide, .string s => writeWideString s
  | .array _, .array bytes => bytes
  | .collection inner repr, .vec items => repr.write (inner.write env) items
  | .option inner .flag, .some v => 1 :: inner.write env v
  | .option _ .flag, .none => [0]
  | .option inner _, .some v => inner.write env v
  | .tuple tys, .tuple vs => (List.zipWith (fun ty v => (env.serde ty).write v) tys vs).flatten
  | _, _ => []

/-- The fields of a struct, each from its place. -/
def writeFields (env : TypeEnv) (fields : List Field) (vs : List Value) : List UInt8 :=
  (List.zipWith (fun field v => field.shape.write env v) fields vs).flatten

/-! ### The fields of a variant -/

/-- What is written for a field from a variable of the given type: the implementation of `write_to` is that of
the variable. -/
def writeFrom (env : TypeEnv) (shape : FieldShape) (ty : UsedType) (v : Value) : List UInt8 :=
  match shape, ty with
  | .primitive _, .primitive ty => (env.serde ty).write v
  | shape, _ => shape.write env v

/-- The variables that the components of a tuple are bound to. -/
def boundComponents : FieldShape → Value → Scope String (UsedType × Value)
  | .tuple tys, .tuple vs => components 0 ((tys.map UsedType.primitive).zip vs)
  | _, _ => []

/-- The fields of a variant, each from the variable of its name. -/
def writeBound (env : TypeEnv) : List Field → Scope String (UsedType × Value) → List UInt8
  | [], _ => []
  | field :: fields, scope =>
      match scope.lookup field.name with
      | some (ty, v) =>
          writeFrom env field.shape ty v ++ writeBound env fields (boundComponents field.shape v ++ scope)
      | none => []

/-- The pattern binds every field. -/
def boundFields (fields : List Field) (vs : List Value) : Scope String (UsedType × Value) :=
  (fields.zip vs).map fun p => (p.1.name, (p.1.shape.usedType, p.2))

theorem names_boundFields_sublist (fields : List Field) (vs : List Value) :
    (boundFields fields vs).names.Sublist (fields.map Field.name) := by
  induction fields generalizing vs with
  | nil => exact List.Sublist.slnil
  | cons field fields ih =>
      cases vs with
      | nil => exact List.nil_sublist _
      | cons v vs => exact (ih vs).cons_cons field.name

/-- The variables of a variant are bound to its fields. -/
theorem lookup_boundFields {fields : List Field} (h : (fields.map Field.name).Nodup) (vs : List Value) :
    ∀ p ∈ fields.zip vs, (boundFields fields vs).lookup p.1.name = some (p.1.shape.usedType, p.2) :=
  fun p hp => Scope.lookup_of_mem (h.sublist (names_boundFields_sublist fields vs))
    (List.mem_map.2 ⟨p, hp, rfl⟩)

def NoTuples (fields : List Field) : Prop := ∀ field ∈ fields, ∀ tys, field.shape ≠ .tuple tys

theorem boundComponents_eq_nil {shape : FieldShape} (h : ∀ tys, shape ≠ .tuple tys) (v : Value) :
    boundComponents shape v = [] := by
  unfold boundComponents
  split
  · exact absurd rfl (h _)
  · rfl

/-- A value of the type can be written as a field of the shape; a pair of parentheses is not a tuple. -/
def FieldShape.writesFrom : FieldShape → UsedType → Bool
  | .primitive _, .primitive _ => true
  | .primitive _, _ => false
  | .tuple tys, ty => tys.length ≠ 1 && ty = .tuple tys
  | shape, ty => ty = shape.usedType

/-- The types of the variables that the components of a tuple are bound to. -/
def boundTypes : FieldShape → Scope String UsedType
  | .tuple tys => components 0 (tys.map UsedType.primitive)
  | _ => []

/-- The types of the variables are known to the compiler. -/
def boundAccepted : List Field → Scope String UsedType → Bool
  | [], _ => true
  | field :: fields, scope =>
      (match scope.lookup field.name with
        | some ty => field.shape.writesFrom ty
        | none => false) &&
      boundAccepted fields (boundTypes field.shape ++ scope)

/-- The code for a variant compiles; the name `writer` has to stand for the argument. -/
def variantAccepted (fields : List Field) : Bool :=
  boundAccepted fields (fields.map fun field => (field.name, field.shape.usedType)) &&
    !(fields.map Field.name).contains "writer"

/-! ### Declarations -/

/-- The derived `write_to`. -/
def Decl.write (env : TypeEnv) (decl : Decl) (value : Value) : List UInt8 :=
  match decl.data, value with
  | .struct fields, .struct vs => writeFields env fields.toList vs
  | .enum size variants, .variant index vs =>
      match variants[index]? with
      | some variant => LittleEndian.encode size.bytes variant.value ++
          writeBound env variant.fields.toList (boundFields variant.fields.toList vs)
      | none => []
  | _, _ => []

def Decl.writeAccepted (decl : Decl) : Bool :=
  match decl.data with
  | .struct fields => fields.toList.all fun field => field.shape.writesFrom field.shape.usedType
  | .enum size variants =>
      !variants.isEmpty && variants.all fun variant =>
        variant.value < 256 ^ size.bytes && variantAccepted variant.fields.toList

/-- Both derives are accepted. -/
def Decl.compiles (env : TypeEnv) (decl : Decl) : Bool := decl.accepted env && decl.writeAccepted

/-! ### Valid values -/

def Inner.Valid (env : TypeEnv) : Inner → Value → Prop
  | .plain ty, v => (env.serde ty).Valid v
  | .string, v => ∃ s : String, v = .string s ∧ s.utf8ByteSize ≤ 65535

/-- The values of a field, given the values of the fields before it: strings of at most `65535` bytes,
lists of at most `255` elements, and an `Option` with a condition is there exactly if the condition
holds. -/
def FieldShape.Valid (env : TypeEnv) (scope : Scope String Value) : FieldShape → Value → Prop
  | .primitive ty, v => (env.serde ty).Valid v
  | .string .narrow, v => ∃ s : String, v = .string s ∧ s.utf8ByteSize ≤ 65535
  | .string .wide, v =>
      ∃ s : String, v = .string s ∧ (s.toList.flatMap utf16Units).length ≤ 65535
  | .array len, v => ∃ bytes : List UInt8, v = .array bytes ∧ bytes.length = len
  | .collection inner _, v => ∃ items, v = .vec items ∧ items.length ≤ 255 ∧ ∀ x ∈ items, inner.Valid env x
  | .option inner (.when condition), v =>
      if condition.eval scope then ∃ x, v = .some x ∧ inner.Valid env x else v = .none
  | .option inner _, v => v = .none ∨ ∃ x, v = .some x ∧ inner.Valid env x
  | .tuple tys, v => ∃ vs, v = .tuple vs ∧ List.Forall₂ (fun ty x => (env.serde ty).Valid x) tys vs

def FieldsValid (env : TypeEnv) : List Field → List Value → Scope String Value → Prop
  | [], [], _ => True
  | field :: fields, v :: vs, scope =>
      field.shape.Valid env scope v ∧ FieldsValid env fields vs ((field.name, v) :: scope)
  | _, _, _ => False

def Decl.Valid (env : TypeEnv) (decl : Decl) (value : Value) : Prop :=
  match decl.data, value with
  | .struct fields, .struct vs => FieldsValid env fields.toList vs []
  | .enum _ variants, .variant index vs =>
      ∃ variant, variants[index]? = some variant ∧ FieldsValid env variant.fields.toList vs []
  | _, _ => False

/-! ### What is written is read again -/

/-- Whatever is written of a type is read again. -/
def RoundTrips (t : SerdeType) : Prop := ∀ v, t.Valid v → t.read.Reads (t.write v) v

/-- Whatever is read of a type is valid. -/
def ReadsValid (t : SerdeType) : Prop :=
  ∀ input v rest, t.read input = .ok (v, rest) → t.Valid v

theorem Primitive.roundTrips (p : Primitive) : RoundTrips p.serdeType := fun _ hv => p.reads_write hv

theorem Primitive.readsValid (p : Primitive) : ReadsValid p.serdeType := fun _ _ _ h => p.valid_of_read h

/-- The types that are named in the type of a field. -/
def Inner.tys : Inner → List Ty
  | .plain ty => [ty]
  | .string => []

@[inherit_doc Inner.tys]
def FieldShape.tys : FieldShape → List Ty
  | .primitive ty => [ty]
  | .string _ => []
  | .array _ => []
  | .collection inner _ => inner.tys
  | .option inner _ => inner.tys
  | .tuple tys => tys

/-- No attribute but `when`: strings of bytes, lists after their length in one byte, and flags. -/
def FieldShape.standard : FieldShape → Bool
  | .string .wide => false
  | .collection _ repr => repr = .length .one
  | .option _ .bare => false
  | _ => true

theorem reads_u8 (n : ℕ) (h : n < 256) :
    Primitive.u8.read.Reads (LittleEndian.encode 1 n) (.word 1 (BitVec.ofNat 8 n)) := by
  have hreads : Primitive.u8.read.Reads (LittleEndian.encode 1 (BitVec.ofNat 8 n).toNat)
      (.word 1 (BitVec.ofNat 8 n)) := Primitive.reads_read .u8 _
  have htoNat : (BitVec.ofNat 8 n).toNat = n := by
    rw [BitVec.toNat_ofNat]
    exact Nat.mod_eq_of_lt h
  rwa [htoNat] at hreads

theorem reads_u16 (n : ℕ) (h : n < 65536) :
    Primitive.u16.read.Reads (LittleEndian.encode 2 n) (.word 2 (BitVec.ofNat 16 n)) := by
  have hreads : Primitive.u16.read.Reads (LittleEndian.encode 2 (BitVec.ofNat 16 n).toNat)
      (.word 2 (BitVec.ofNat 16 n)) := Primitive.reads_read .u16 _
  have htoNat : (BitVec.ofNat 16 n).toNat = n := by
    rw [BitVec.toNat_ofNat]
    exact Nat.mod_eq_of_lt h
  rwa [htoNat] at hreads

theorem reads_byte (b : UInt8) : Primitive.u8.read.Reads [b] (.byte b) := by
  have hreads := reads_u8 b.toNat b.toNat_lt
  rw [LittleEndian.encode_succ, LittleEndian.encode_zero, UInt8.ofNat_toNat] at hreads
  exact hreads

/-- The bytes of a string. -/
theorem reads_bytes (bytes : List UInt8) :
    (Primitive.u8.read.many bytes.length).Reads bytes (bytes.map Value.byte) := by
  have hmany := Reads.many (fun v => [v.toByte]) (bytes.map Value.byte) fun v hv => by
    obtain ⟨b, -, rfl⟩ := List.mem_map.1 hv
    rw [Value.toByte_byte]
    exact reads_byte b
  have hbytes : (bytes.map Value.byte).flatMap (fun v => [v.toByte]) = bytes := by
    rw [List.flatMap_map]
    simp
  rwa [List.length_map, hbytes] at hmany

theorem reads_writeString {s : String} (h : s.utf8ByteSize ≤ 65535) :
    readString.Reads (writeString s) (.string s) := by
  have htoNat : (Value.word 2 (BitVec.ofNat 16 s.utf8ByteSize)).toNat = (stringBytes s).length := by
    rw [Value.toNat_word, BitVec.toNat_ofNat, length_stringBytes]
    exact Nat.mod_eq_of_lt (by omega)
  have hbytes : ((stringBytes s).map Value.byte).map Value.toByte = stringBytes s := by
    rw [List.map_map]
    exact List.map_id'' Value.toByte_byte _
  have hstring : (stringFromUtf8 (((stringBytes s).map Value.byte).map Value.toByte)).Reads [] (.string s) := by
    rw [hbytes, stringFromUtf8_bytes]
    exact Reads.pure _
  have hrest := (reads_bytes (stringBytes s)).bind
    (f := fun bytes => stringFromUtf8 (bytes.map Value.toByte)) hstring
  rw [List.append_nil, ← htoNat] at hrest
  exact (reads_u16 s.utf8ByteSize (by omega)).bind hrest

theorem Inner.reads_write {env : TypeEnv} {inner : Inner}
    (htys : ∀ ty ∈ inner.tys, RoundTrips (env.serde ty)) {v : Value} (hv : inner.Valid env v) :
    (inner.read env).Reads (inner.write env v) v := by
  cases inner with
  | plain ty => exact htys ty (by simp [Inner.tys]) v hv
  | string =>
      obtain ⟨s, rfl, hs⟩ := hv
      exact reads_writeString hs

theorem reads_writeAll {env : TypeEnv} :
    ∀ {tys : List Ty} (_ : ∀ ty ∈ tys, RoundTrips (env.serde ty)) {vs : List Value}
      (_ : List.Forall₂ (fun ty x => (env.serde ty).Valid x) tys vs),
      (readAll env tys).Reads (List.zipWith (fun ty v => (env.serde ty).write v) tys vs).flatten vs := by
  intro tys
  induction tys with
  | nil =>
      rintro _ vs ⟨⟩
      exact Reads.pure []
  | cons ty tys ih =>
      rintro htys _ (_ | ⟨hv, hvs⟩)
      rename_i v vs
      have htail := ih (fun t ht => htys t (List.mem_cons_of_mem _ ht)) hvs
      exact (htys ty List.mem_cons_self v hv).bind (htail.map (v :: ·))

/-- What is written for a field is read for it again. -/
theorem FieldShape.reads_write {env : TypeEnv} {shape : FieldShape} (hstd : shape.standard = true)
    (htys : ∀ ty ∈ shape.tys, RoundTrips (env.serde ty)) {scope : Scope String Value} {v : Value}
    (hv : shape.Valid env scope v) : (shape.read env scope).Reads (shape.write env v) v := by
  cases shape with
  | primitive ty => exact htys ty (by simp [FieldShape.tys]) v hv
  | string size =>
      cases size with
      | narrow =>
          obtain ⟨s, rfl, hs⟩ := hv
          exact reads_writeString hs
      | wide => simp [FieldShape.standard] at hstd
  | array len =>
      obtain ⟨bytes, rfl, rfl⟩ := hv
      exact reads_array env scope bytes
  | collection inner repr =>
      obtain rfl : repr = .length .one := by simpa [FieldShape.standard] using hstd
      obtain ⟨items, rfl, hlen, hitems⟩ := hv
      have htoNat : (Value.word 1 (BitVec.ofNat 8 items.length)).toNat = items.length := by
        rw [Value.toNat_word, BitVec.toNat_ofNat]
        exact Nat.mod_eq_of_lt (by omega)
      have hmany := Reads.many (inner.write env) items fun x hx => Inner.reads_write htys (hitems x hx)
      refine (reads_u8 items.length (by omega)).bind ?_
      rw [htoNat]
      exact hmany.map Value.vec
  | option inner repr =>
      cases repr with
      | flag =>
          rcases hv with rfl | ⟨x, rfl, hx⟩
          · exact (reads_u8 0 (by omega)).bind (Reads.pure _)
          · exact (reads_u8 1 (by omega)).bind ((Inner.reads_write htys hx).map Value.some)
      | bare => simp [FieldShape.standard] at hstd
      | when condition =>
          rw [FieldShape.Valid] at hv
          rw [FieldShape.read]
          split at hv
          · obtain ⟨x, rfl, hx⟩ := hv
            rename_i hcond
            rw [if_pos hcond]
            exact (Inner.reads_write htys hx).map Value.some
          · rename_i hcond
            rw [if_neg hcond, hv]
            exact Reads.pure _
  | tuple tys =>
      obtain ⟨vs, rfl, hvs⟩ := hv
      exact (reads_writeAll htys hvs).map Value.tuple

/-- **What is written for the fields is read for them again.** -/
theorem readFields_writeFields {env : TypeEnv} :
    ∀ {fields : List Field} (_ : ∀ field ∈ fields, field.shape.standard = true)
      (_ : ∀ field ∈ fields, ∀ ty ∈ field.shape.tys, RoundTrips (env.serde ty)) {vs : List Value}
      {scope : Scope String Value} (_ : FieldsValid env fields vs scope),
      (readFields env fields scope).Reads (writeFields env fields vs) vs := by
  intro fields
  induction fields with
  | nil =>
      intro _ _ vs scope hvs
      cases vs with
      | nil => exact Reads.pure []
      | cons v vs => exact hvs.elim
  | cons field fields ih =>
      intro hstd htys vs scope hvs
      cases vs with
      | nil => exact hvs.elim
      | cons v vs =>
          obtain ⟨hv, hvs⟩ := hvs
          have hhead := FieldShape.reads_write (hstd field List.mem_cons_self)
            (htys field List.mem_cons_self) hv
          have htail := ih (fun f hf => hstd f (List.mem_cons_of_mem _ hf))
            (fun f hf => htys f (List.mem_cons_of_mem _ hf)) hvs
          exact hhead.bind (htail.map (v :: ·))

/-! ### What is read is valid -/

theorem toNat_lt_of_read {p : Primitive} {input : List UInt8} {v : Value} {rest : List UInt8}
    (h : p.read input = .ok (v, rest)) : v.toNat < 2 ^ (8 * p.size) := by
  obtain ⟨bits, _, -, h⟩ := bind_eq_ok h
  obtain ⟨rfl, -⟩ := pure_eq_ok h
  cases p with
  | bool => exact Nat.pow_pos (by omega)
  | _ => exact bits.isLt

theorem valid_of_readString {input : List UInt8} {v : Value} {rest : List UInt8}
    (h : readString input = .ok (v, rest)) : ∃ s : String, v = .string s ∧ s.utf8ByteSize ≤ 65535 := by
  obtain ⟨len, _, hlen, h⟩ := bind_eq_ok h
  obtain ⟨bytes, _, hbytes, h⟩ := bind_eq_ok h
  obtain ⟨s, rfl, hs, -⟩ := eq_of_stringFromUtf8 h
  have hlt : len.toNat < 2 ^ 16 := toNat_lt_of_read hlen
  have hsize : s.utf8ByteSize = len.toNat := by
    rw [← length_stringBytes, ← hs, List.length_map, length_of_many hbytes]
  exact ⟨s, rfl, by omega⟩

theorem Inner.valid_of_read {env : TypeEnv} {inner : Inner}
    (htys : ∀ ty ∈ inner.tys, ReadsValid (env.serde ty)) {input : List UInt8} {v : Value}
    {rest : List UInt8} (h : inner.read env input = .ok (v, rest)) : inner.Valid env v := by
  cases inner with
  | plain ty => exact htys ty (by simp [Inner.tys]) _ _ _ h
  | string => exact valid_of_readString h

theorem valid_of_readAll {env : TypeEnv} :
    ∀ {tys : List Ty} (_ : ∀ ty ∈ tys, ReadsValid (env.serde ty)) {input : List UInt8} {vs : List Value}
      {rest : List UInt8}, readAll env tys input = .ok (vs, rest) →
        List.Forall₂ (fun ty x => (env.serde ty).Valid x) tys vs := by
  intro tys
  induction tys with
  | nil =>
      intro _ input vs rest h
      obtain ⟨rfl, -⟩ := pure_eq_ok h
      exact .nil
  | cons ty tys ih =>
      intro htys input vs rest h
      obtain ⟨v, _, hv, h⟩ := bind_eq_ok h
      obtain ⟨vs', _, hvs, h⟩ := bind_eq_ok h
      obtain ⟨rfl, -⟩ := pure_eq_ok h
      exact .cons (htys ty List.mem_cons_self _ _ _ hv)
        (ih (fun t ht => htys t (List.mem_cons_of_mem _ ht)) hvs)

theorem FieldShape.valid_of_read {env : TypeEnv} {shape : FieldShape} (hstd : shape.standard = true)
    (htys : ∀ ty ∈ shape.tys, ReadsValid (env.serde ty)) {scope : Scope String Value}
    {input : List UInt8} {v : Value} {rest : List UInt8}
    (h : shape.read env scope input = .ok (v, rest)) : shape.Valid env scope v := by
  cases shape with
  | primitive ty => exact htys ty (by simp [FieldShape.tys]) _ _ _ h
  | string size =>
      cases size with
      | narrow => exact valid_of_readString h
      | wide => simp [FieldShape.standard] at hstd
  | array len =>
      obtain ⟨bytes, hbytes, rfl⟩ := map_eq_ok h
      exact ⟨bytes, rfl, length_of_exactly hbytes⟩
  | collection inner repr =>
      obtain ⟨size, _, hsize, h⟩ := bind_eq_ok h
      obtain ⟨items, hitems, rfl⟩ := map_eq_ok h
      have hlt : size.toNat < 2 ^ 8 := toNat_lt_of_read hsize
      obtain ⟨hlen, hall⟩ := forall_of_many (fun _ _ _ h => Inner.valid_of_read htys h) _ _ _ _ hitems
      exact ⟨items, rfl, by omega, hall⟩
  | option inner repr =>
      cases repr with
      | flag =>
          obtain ⟨flag, _, -, h⟩ := bind_eq_ok h
          split at h
          · obtain ⟨x, hx, rfl⟩ := map_eq_ok h
            exact Or.inr ⟨x, rfl, Inner.valid_of_read htys hx⟩
          · obtain ⟨rfl, -⟩ := pure_eq_ok h
            exact Or.inl rfl
      | bare => simp [FieldShape.standard] at hstd
      | when condition =>
          rw [FieldShape.read] at h
          rw [FieldShape.Valid]
          split at h
          · rename_i hcond
            rw [if_pos hcond]
            obtain ⟨x, hx, rfl⟩ := map_eq_ok h
            exact ⟨x, rfl, Inner.valid_of_read htys hx⟩
          · rename_i hcond
            rw [if_neg hcond]
            exact (pure_eq_ok h).1.symm
  | tuple tys =>
      obtain ⟨vs, hvs, rfl⟩ := map_eq_ok h
      exact ⟨vs, rfl, valid_of_readAll htys hvs⟩

/-- What is read for the fields is valid. -/
theorem fieldsValid_of_readFields {env : TypeEnv} :
    ∀ {fields : List Field} (_ : ∀ field ∈ fields, field.shape.standard = true)
      (_ : ∀ field ∈ fields, ∀ ty ∈ field.shape.tys, ReadsValid (env.serde ty))
      {scope : Scope String Value} {input : List UInt8} {vs : List Value} {rest : List UInt8},
      readFields env fields scope input = .ok (vs, rest) → FieldsValid env fields vs scope := by
  intro fields
  induction fields with
  | nil =>
      intro _ _ scope input vs rest h
      obtain ⟨rfl, -⟩ := pure_eq_ok h
      trivial
  | cons field fields ih =>
      intro hstd htys scope input vs rest h
      obtain ⟨v, _, hv, h⟩ := bind_eq_ok h
      obtain ⟨vs', _, hvs, h⟩ := bind_eq_ok h
      obtain ⟨rfl, -⟩ := pure_eq_ok h
      exact ⟨FieldShape.valid_of_read (hstd field List.mem_cons_self) (htys field List.mem_cons_self) hv,
        ih (fun f hf => hstd f (List.mem_cons_of_mem _ hf))
          (fun f hf => htys f (List.mem_cons_of_mem _ hf)) hvs⟩

end Skrillax

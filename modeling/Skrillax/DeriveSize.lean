/-
**The derived size.**

`ByteSize` is derived by a generator of its own, next to the one for `Serialize`.  The buffer that a value is
written to is allocated with its size.  The two generators do not agree on every declaration: the size of a
list counts one byte for what marks its number, whatever is written there; the size of a wide string
counts two bytes for each byte of it, not for each unit; and where the components of a tuple take the
place of later fields of a variant, the size is that of the fields.

The difference can be told from the declaration and the lengths of the lists, as a sum over the fields
(`SizedDecl.surplus`).  The size is exact precisely for the values for which this sum is zero
(`byteSize_exact_iff`).

Main definitions:

* `SizedType`, `SizeEnv` — types with their implementations of the two traits;
* `FieldShape.byteSize`, `SizedDecl.byteSize` — what the generator for the size makes of a declaration;
* `FieldShape.surplus`, `SizedDecl.surplus` — by how much the size is too large;
* `Implements` — declarations whose types are implemented by what is derived, in terms of each other;
* `SizedDecl.sizeExact` — declarations that have no surplus, whatever the value.

Main results:

* `FieldShape.counted`, `SizedDecl.counted` — the size is the length of what is written, and the surplus;
* `byteSize_exact_iff` — **when the size is exact**;
* `byteSize_of_sizeExact` — for which declarations it always is.
-/

import Skrillax.DeriveSerialize

set_option relaxedAutoImplicit false
set_option autoImplicit false

namespace Skrillax

open ByteReader

/-! ### Types with a size -/

/-- A type with its implementations of `Serialize` and `ByteSize`. -/
structure SizedType where
  /-- The values of the type. -/
  Has : Value → Prop
  write : Value → List UInt8
  byteSize : Value → ℕ

def Primitive.sizedType (p : Primitive) : SizedType where
  Has := p.Valid
  write := p.write
  byteSize := fun _ => p.size

/-- The implementations for the types that are not primitive. -/
abbrev SizeEnv := ℕ → SizedType

def SizeEnv.sized (env : SizeEnv) : Ty → SizedType
  | .primitive p => p.sizedType
  | .named index => env index

/-- The type as one that is only written: what is read of it does not matter here. -/
def SizedType.serdeType (t : SizedType) : SerdeType where
  copy := false
  read := pure .none
  write := t.write
  Valid := t.Has
  regular := Regular.pure _
  readable := ⟨[], .none, Reads.pure _⟩

def SizeEnv.writers (env : SizeEnv) : TypeEnv := fun index => (env index).serdeType

@[simp] theorem SizeEnv.serde_write (env : SizeEnv) (ty : Ty) :
    (env.writers.serde ty).write = (env.sized ty).write := by
  cases ty <;> rfl

/-! ### The size of a field -/

/-- `generate_size_for_inner`. -/
def Inner.byteSize (env : SizeEnv) : Inner → Value → ℕ
  | .plain ty, v => (env.sized ty).byteSize v
  | .string, .string s => 2 + s.utf8ByteSize
  | .string, _ => 0

/-- The elements of a list; only the lists with marks between their elements are told apart. -/
def ListRepr.byteSize (repr : ListRepr) (size : Value → ℕ) (items : List Value) : ℕ :=
  match repr with
  | .break_ _ | .hasMore _ => 1 + (items.map fun elem => size elem + 1).sum
  | .length _ | .unmarked => 1 + (items.map size).sum

/-- `generate_size_for`, at the type of the field. -/
def FieldShape.byteSize (env : SizeEnv) : FieldShape → Value → ℕ
  | .primitive ty, v => (env.sized ty).byteSize v
  | .string .narrow, .string s => 2 + s.utf8ByteSize * 1
  | .string .wide, .string s => 2 + s.utf8ByteSize * 2
  | .array _, .array bytes => bytes.length
  | .collection inner repr, .vec items => repr.byteSize (inner.byteSize env) items
  | .option inner .flag, .some v => 1 + inner.byteSize env v
  | .option _ .flag, .none => 1 + 0
  | .option inner _, .some v => 0 + inner.byteSize env v
  | .tuple tys, .tuple vs => (List.zipWith (fun ty v => (env.sized ty).byteSize v) tys vs).sum
  | _, _ => 0

/-- The sizes of the fields are added up; the sum of none is no expression. -/
def fieldsByteSize (env : SizeEnv) (fields : List Field) (vs : List Value) : ℕ :=
  (List.zipWith (fun field v => field.shape.byteSize env v) fields vs).sum

/-! ### Declarations -/

/-- A struct, or an enum with a tag of the given size; with the size zero no tag is written. -/
inductive SizedData where
  | struct (fields : Fields)
  | enum (size : Option Width) (variants : List Variant)

structure SizedDecl where
  data : SizedData

def tagBytes : Option Width → ℕ
  | some width => width.bytes
  | none => 0

namespace SizedDecl

/-- The derived `byte_size`. -/
def byteSize (env : SizeEnv) (decl : SizedDecl) (value : Value) : ℕ :=
  match decl.data, value with
  | .struct fields, .struct vs => fieldsByteSize env fields.toList vs
  | .enum size variants, .variant index vs =>
      match variants[index]? with
      | some variant => tagBytes size + fieldsByteSize env variant.fields.toList vs
      | none => 0
  | _, _ => 0

/-- The derived `write_to`. -/
def write (env : TypeEnv) (decl : SizedDecl) (value : Value) : List UInt8 :=
  match decl.data, value with
  | .struct fields, .struct vs => writeFields env fields.toList vs
  | .enum size variants, .variant index vs =>
      match variants[index]? with
      | some variant => LittleEndian.encode (tagBytes size) variant.value ++
          writeBound env variant.fields.toList (boundFields variant.fields.toList vs)
      | none => []
  | _, _ => []

end SizedDecl

/-- There is a sum to be written down: fields in braces or parentheses, and none of them a pair of
parentheses itself. -/
def Fields.sizeAccepted : Fields → Bool
  | .named fields => !fields.isEmpty && fields.all fun field => field.shape.usedType != .tuple []
  | .unnamed shapes => !shapes.isEmpty && shapes.all fun shape => shape.usedType != .tuple []
  | .unit => true

/-- Both derives are accepted; the compiler refuses two fields of one name. -/
def SizedDecl.accepted (decl : SizedDecl) : Bool :=
  match decl.data with
  | .struct fields => fields.sizeAccepted &&
      fields.toList.all fun field => field.shape.writesFrom field.shape.usedType
  | .enum size variants => !variants.isEmpty && variants.all fun variant =>
      variant.fields.sizeAccepted && variantAccepted variant.fields.toList &&
        (variant.fields.toList.map Field.name).Nodup &&
        (size.all fun width => variant.value < 256 ^ width.bytes)

/-- A declaration for which all three traits are derived. -/
def Decl.sized (decl : Decl) : SizedDecl where
  data := match decl.data with
    | .struct fields => .struct fields
    | .enum size variants => .enum (some size) variants

/-- It is written in the same way. -/
theorem Decl.write_sized (env : TypeEnv) (decl : Decl) (value : Value) :
    decl.sized.write env value = decl.write env value := by
  unfold Decl.sized SizedDecl.write Decl.write
  cases decl.data <;> cases value <;> rfl

/-! ### The values of a declaration -/

def Inner.Has (env : SizeEnv) : Inner → Value → Prop
  | .plain ty, v => (env.sized ty).Has v
  | .string, v => ∃ s : String, v = .string s

/-- The values of a field, whatever its attributes and the other fields are. -/
def UsedType.Has (env : SizeEnv) : UsedType → Value → Prop
  | .primitive ty, v => (env.sized ty).Has v
  | .string, v => ∃ s : String, v = .string s
  | .array len, v => ∃ bytes : List UInt8, v = .array bytes ∧ bytes.length = len
  | .collection inner, v => ∃ items, v = .vec items ∧ ∀ x ∈ items, inner.Has env x
  | .option inner, v => v = .none ∨ ∃ x, v = .some x ∧ inner.Has env x
  | .tuple tys, v => ∃ vs, v = .tuple vs ∧ List.Forall₂ (fun ty x => (env.sized ty).Has x) tys vs

def FieldsHave (env : SizeEnv) (fields : List Field) (vs : List Value) : Prop :=
  List.Forall₂ (fun field v => field.shape.usedType.Has env v) fields vs

def SizedDecl.Has (env : SizeEnv) (decl : SizedDecl) (value : Value) : Prop :=
  match decl.data, value with
  | .struct fields, .struct vs => FieldsHave env fields.toList vs
  | .enum _ variants, .variant index vs =>
      ∃ variant, variants[index]? = some variant ∧ FieldsHave env variant.fields.toList vs
  | _, _ => False

/-! ### The surplus -/

/-- By how much the sizes of the values of a type are too large. -/
abbrev Account := Value → ℤ

/-- The accounts of the types that are not primitive. -/
abbrev Accounts := ℕ → Account

def Accounts.of (accounts : Accounts) : Ty → Account
  | .primitive _, _ => 0
  | .named index, v => accounts index v

def Inner.surplus (accounts : Accounts) : Inner → Account
  | .plain ty, v => accounts.of ty v
  | .string, _ => 0

/-- One byte is counted for the length of a list, and one for each mark. -/
def ListRepr.surplus (repr : ListRepr) (count : ℕ) : ℤ :=
  match repr with
  | .length width => 1 - width.bytes
  | .break_ width | .hasMore width => (1 - width.bytes) * (count + 1)
  | .unmarked => 1

/-- The units of a wide string are counted as if each byte of it was one. -/
def wideSurplus (s : String) : ℤ :=
  2 * (s.utf8ByteSize - (s.toList.flatMap utf16Units).length)

def FieldShape.surplus (accounts : Accounts) : FieldShape → Account
  | .primitive ty, v => accounts.of ty v
  | .string .wide, .string s => wideSurplus s
  | .collection inner repr, .vec items =>
      repr.surplus items.length + (items.map (inner.surplus accounts)).sum
  | .option inner _, .some v => inner.surplus accounts v
  | .tuple tys, .tuple vs => (List.zipWith accounts.of tys vs).sum
  | _, _ => 0

def fieldsSurplus (accounts : Accounts) (fields : List Field) (vs : List Value) : ℤ :=
  (List.zipWith (fun field v => field.shape.surplus accounts v) fields vs).sum

/-- A field that is written from a variable of another type counts with its own size for that of the
variable; what is no primitive is written from its own variable. -/
def surplusFrom (env : SizeEnv) (accounts : Accounts) (shape : FieldShape) (v : Value) (ty : UsedType)
    (written : Value) : ℤ :=
  match shape, ty with
  | .primitive own, .primitive ty =>
      (env.sized own).byteSize v - (env.sized ty).byteSize written + accounts.of ty written
  | shape, _ => shape.surplus accounts written

/-- The fields of a variant, each written from the variable of its name, which may be a component of an
earlier tuple. -/
def boundSurplus (env : SizeEnv) (accounts : Accounts) :
    List Field → List Value → Scope String (UsedType × Value) → ℤ
  | field :: fields, v :: vs, scope =>
      match scope.lookup field.name with
      | some (ty, written) => surplusFrom env accounts field.shape v ty written +
          boundSurplus env accounts fields vs (boundComponents field.shape written ++ scope)
      | none => 0
  | _, _, _ => 0

namespace SizedDecl

/-- By how much the derived size is too large: a tag is counted as it is written. -/
def surplus (env : SizeEnv) (accounts : Accounts) (decl : SizedDecl) : Account := fun value =>
  match decl.data, value with
  | .struct fields, .struct vs => fieldsSurplus accounts fields.toList vs
  | .enum _ variants, .variant index vs =>
      match variants[index]? with
      | some variant => boundSurplus env accounts variant.fields.toList vs
          (boundFields variant.fields.toList vs)
      | none => 0
  | _, _ => 0

end SizedDecl

/-! ### Sizes and lengths -/

/-- The size of a value is the length of what is written, and the surplus. -/
def Counts (t : SizedType) (account : Account) (v : Value) : Prop :=
  t.Has v → (t.byteSize v : ℤ) = (t.write v).length + account v

theorem Primitive.length_write {p : Primitive} {v : Value} (hv : p.Valid v) :
    (p.write v).length = p.size := by
  cases p with
  | bool =>
      obtain ⟨b, rfl⟩ := hv
      exact LittleEndian.length_encode _ _
  | _ =>
      obtain ⟨bits, rfl⟩ := hv
      exact LittleEndian.length_encode _ _

theorem Primitive.counts (p : Primitive) (v : Value) : Counts p.sizedType (fun _ => 0) v := by
  intro hv
  have hlen := p.length_write hv
  change ((p.size : ℕ) : ℤ) = ((p.write v).length : ℤ) + 0
  omega

/-- The bytes that mark how many elements a list has. -/
def ListRepr.marks (repr : ListRepr) (count : ℕ) : ℕ :=
  match repr with
  | .length width => width.bytes
  | .break_ width | .hasMore width => width.bytes * (count + 1)
  | .unmarked => 0

theorem ListRepr.length_write (repr : ListRepr) (write : Value → List UInt8) (items : List Value) :
    (repr.write write items).length = repr.marks items.length + (items.flatMap write).length := by
  have hmarked : ∀ width mark : ℕ,
      (items.flatMap fun v => LittleEndian.encode width mark ++ write v).length =
        width * items.length + (items.flatMap write).length := by
    intro width mark
    induction items with
    | nil => simp
    | cons x items ih =>
        simp only [List.flatMap_cons, List.length_append, LittleEndian.length_encode, ih,
          List.length_cons, Nat.mul_succ]
        omega
  cases repr with
  | length width => simp [ListRepr.write, ListRepr.marks]
  | break_ width | hasMore width =>
      simp only [ListRepr.write, ListRepr.marks, List.length_append, LittleEndian.length_encode,
        hmarked, Nat.mul_succ]
      omega
  | unmarked => simp [ListRepr.write, ListRepr.marks]

section Counted

variable {env : SizeEnv} {accounts : Accounts} {n : ℕ}

/-- The values of the types are counted right, up to a size. -/
def CountsBelow (env : SizeEnv) (accounts : Accounts) (n : ℕ) : Prop :=
  ∀ index v, sizeOf v < n → Counts (env index) (accounts index) v

theorem CountsBelow.of_ty (h : CountsBelow env accounts n) (ty : Ty) {v : Value} (hlt : sizeOf v < n) :
    Counts (env.sized ty) (accounts.of ty) v := by
  cases ty with
  | primitive p => exact p.counts v
  | named index => exact h index v hlt

theorem length_writeString (s : String) : (writeString s).length = 2 + s.utf8ByteSize := by
  rw [writeString, List.length_append, LittleEndian.length_encode, length_stringBytes]

theorem length_writeWideString (s : String) :
    (writeWideString s).length = 2 + 2 * (s.toList.flatMap utf16Units).length := by
  have hunits : ∀ units : List ℕ,
      (units.flatMap (LittleEndian.encode 2)).length = 2 * units.length := by
    intro units
    induction units with
    | nil => rfl
    | cons u units ih =>
        rw [List.flatMap_cons, List.length_append, LittleEndian.length_encode, ih, List.length_cons]
        omega
  rw [writeWideString, List.length_append, LittleEndian.length_encode, hunits]

theorem sizeOf_lt_of_mem_vec {items : List Value} {x : Value} (hx : x ∈ items)
    (hlt : sizeOf (Value.vec items) < n) : sizeOf x < n := by
  have hmem := List.sizeOf_lt_of_mem hx
  rw [Value.vec.sizeOf_spec] at hlt
  omega

theorem sizeOf_lt_some {x : Value} (hlt : sizeOf (Value.some x) < n) : sizeOf x < n := by
  rw [Value.some.sizeOf_spec] at hlt
  omega

theorem sizeOf_lt_of_mem_tuple {vs : List Value} {x : Value} (hx : x ∈ vs)
    (hlt : sizeOf (Value.tuple vs) < n) : sizeOf x < n := by
  have hmem := List.sizeOf_lt_of_mem hx
  rw [Value.tuple.sizeOf_spec] at hlt
  omega

variable (h : CountsBelow env accounts n)

include h

theorem Inner.counted {inner : Inner} {v : Value} (hlt : sizeOf v < n) (hv : inner.Has env v) :
    (inner.byteSize env v : ℤ) = (inner.write env.writers v).length + inner.surplus accounts v := by
  cases inner with
  | plain ty =>
      rw [Inner.byteSize, Inner.write, SizeEnv.serde_write, Inner.surplus]
      exact h.of_ty ty hlt hv
  | string =>
      obtain ⟨s, rfl⟩ := hv
      rw [Inner.byteSize, Inner.write, Inner.surplus, length_writeString]
      omega

/-- The elements of a list. -/
theorem counted_map {inner : Inner} {items : List Value} (hlt : ∀ x ∈ items, sizeOf x < n)
    (hitems : ∀ x ∈ items, inner.Has env x) :
    ((items.map (inner.byteSize env)).sum : ℤ) =
      (items.flatMap (inner.write env.writers)).length + (items.map (inner.surplus accounts)).sum := by
  induction items with
  | nil => rfl
  | cons x items ih =>
      have hx := Inner.counted h (hlt x List.mem_cons_self) (hitems x List.mem_cons_self)
      have hrest := ih (fun y hy => hlt y (List.mem_cons_of_mem _ hy))
        fun y hy => hitems y (List.mem_cons_of_mem _ hy)
      simp only [List.map_cons, List.sum_cons, List.flatMap_cons, List.length_append] at hrest ⊢
      push_cast at hrest ⊢
      omega

/-- A list, with what marks the number of its elements. -/
theorem ListRepr.counted {inner : Inner} (repr : ListRepr) {items : List Value}
    (hlt : ∀ x ∈ items, sizeOf x < n) (hitems : ∀ x ∈ items, inner.Has env x) :
    (repr.byteSize (inner.byteSize env) items : ℤ) =
      (repr.write (inner.write env.writers) items).length +
        (repr.surplus items.length + (items.map (inner.surplus accounts)).sum) := by
  have hsum := counted_map h hlt hitems
  have hplus : (items.map fun elem => inner.byteSize env elem + 1).sum =
      (items.map (inner.byteSize env)).sum + items.length := by
    clear hsum hlt hitems
    induction items with
    | nil => rfl
    | cons x items ih =>
        simp only [List.map_cons, List.sum_cons, List.length_cons, ih]
        omega
  rw [ListRepr.length_write]
  cases repr with
  | length width =>
      simp only [ListRepr.byteSize, ListRepr.marks, ListRepr.surplus]
      omega
  | break_ width | hasMore width =>
      simp only [ListRepr.byteSize, ListRepr.marks, ListRepr.surplus, hplus]
      cases width <;>
        (simp only [Width.bytes]
         omega)
  | unmarked =>
      simp only [ListRepr.byteSize, ListRepr.marks, ListRepr.surplus]
      omega

/-- The components of a tuple. -/
theorem counted_components {tys : List Ty} {vs : List Value} (hlt : ∀ x ∈ vs, sizeOf x < n)
    (hvs : List.Forall₂ (fun ty x => (env.sized ty).Has x) tys vs) :
    ((List.zipWith (fun ty v => (env.sized ty).byteSize v) tys vs).sum : ℤ) =
      (List.zipWith (fun ty v => (env.writers.serde ty).write v) tys vs).flatten.length +
        (List.zipWith accounts.of tys vs).sum := by
  induction hvs with
  | nil => rfl
  | @cons ty v tys vs hv _ ih =>
      have hv := h.of_ty ty (hlt v List.mem_cons_self) hv
      have ih := ih fun x hx => hlt x (List.mem_cons_of_mem _ hx)
      simp only [List.zipWith_cons_cons, List.sum_cons, List.flatten_cons, List.length_append,
        SizeEnv.serde_write] at ih ⊢
      push_cast at ih ⊢
      omega

/-- **The size of a field is the length of what is written for it, and the surplus.** -/
theorem FieldShape.counted {shape : FieldShape} {v : Value} (hlt : sizeOf v < n)
    (hv : shape.usedType.Has env v) :
    (shape.byteSize env v : ℤ) = (shape.write env.writers v).length + shape.surplus accounts v := by
  cases shape with
  | primitive ty =>
      rw [FieldShape.byteSize, FieldShape.write, SizeEnv.serde_write, FieldShape.surplus]
      exact h.of_ty ty hlt hv
  | string size =>
      obtain ⟨s, rfl⟩ := hv
      cases size with
      | narrow =>
          simp only [FieldShape.byteSize, FieldShape.write, FieldShape.surplus, length_writeString]
          omega
      | wide =>
          simp only [FieldShape.byteSize, FieldShape.write, FieldShape.surplus, wideSurplus,
            length_writeWideString]
          omega
  | array len =>
      obtain ⟨bytes, rfl, -⟩ := hv
      simp [FieldShape.byteSize, FieldShape.write, FieldShape.surplus]
  | collection inner repr =>
      obtain ⟨items, rfl, hitems⟩ := hv
      exact ListRepr.counted h repr (fun x hx => sizeOf_lt_of_mem_vec hx hlt) hitems
  | option inner repr =>
      rcases hv with rfl | ⟨x, rfl, hx⟩
      · cases repr <;> rfl
      · have hx := Inner.counted h (sizeOf_lt_some hlt) hx
        cases repr <;>
          (simp only [FieldShape.byteSize, FieldShape.write, FieldShape.surplus, List.length_cons]
           omega)
  | tuple tys =>
      obtain ⟨vs, rfl, hvs⟩ := hv
      exact counted_components h (fun x hx => sizeOf_lt_of_mem_tuple hx hlt) hvs

/-- The fields of a struct. -/
theorem counted_fields {fields : List Field} {vs : List Value} (hlt : ∀ x ∈ vs, sizeOf x < n)
    (hvs : FieldsHave env fields vs) :
    (fieldsByteSize env fields vs : ℤ) =
      (writeFields env.writers fields vs).length + fieldsSurplus accounts fields vs := by
  unfold FieldsHave at hvs
  induction hvs with
  | nil => rfl
  | @cons field v fields vs hv _ ih =>
      have hv := FieldShape.counted h (hlt v List.mem_cons_self) hv
      have ih := ih fun x hx => hlt x (List.mem_cons_of_mem _ hx)
      simp only [fieldsByteSize, writeFields, fieldsSurplus, List.zipWith_cons_cons, List.sum_cons,
        List.flatten_cons, List.length_append] at ih ⊢
      push_cast at ih ⊢
      omega

/-- A field that is written from a variable: only a primitive one can get that of another field. -/
theorem counted_from {shape : FieldShape} {ty : UsedType} (hfrom : shape.writesFrom ty = true)
    {v written : Value} (hown : (∃ own, ty = .primitive own) ∨ written = v) (hlt : sizeOf written < n)
    (hw : ty.Has env written) :
    (shape.byteSize env v : ℤ) = (writeFrom env.writers shape ty written).length +
      surplusFrom env accounts shape v ty written := by
  cases shape with
  | primitive own =>
      cases ty with
      | primitive ty =>
          have hw := h.of_ty ty hlt hw
          rw [writeFrom, surplusFrom, SizeEnv.serde_write, FieldShape.byteSize]
          omega
      | _ => simp [FieldShape.writesFrom] at hfrom
  | tuple tys =>
      obtain ⟨-, rfl⟩ : tys.length ≠ 1 ∧ ty = .tuple tys := by
        simpa [FieldShape.writesFrom] using hfrom
      obtain rfl : written = v := by simpa using hown
      exact FieldShape.counted h hlt (show (FieldShape.tuple tys).usedType.Has env written from hw)
  | _ =>
      obtain rfl := of_decide_eq_true hfrom
      obtain rfl : written = v := by simpa [FieldShape.usedType] using hown
      exact FieldShape.counted h hlt hw

end Counted

/-! ### Variants -/

/-- The variables have the names and the types that the compiler knows, and values up to a size. -/
def BoundTyped (env : SizeEnv) (n : ℕ) (types : Scope String UsedType)
    (scope : Scope String (UsedType × Value)) : Prop :=
  List.Forall₂ (fun t p => t = (p.1, p.2.1) ∧ sizeOf p.2.2 < n ∧ p.2.1.Has env p.2.2) types scope

theorem BoundTyped.lookup {env : SizeEnv} {n : ℕ} {types : Scope String UsedType}
    {scope : Scope String (UsedType × Value)} (h : BoundTyped env n types scope) {x : String}
    {ty : UsedType} (hx : types.lookup x = some ty) :
    ∃ v, scope.lookup x = some (ty, v) ∧ sizeOf v < n ∧ ty.Has env v := by
  induction h with
  | nil => simp at hx
  | @cons t p types scope hhead _ ih =>
      obtain ⟨rfl, hv⟩ := hhead
      obtain ⟨y, ty', v⟩ := p
      by_cases hxy : x = y
      · subst hxy
        obtain rfl : ty' = ty := by simpa using hx
        exact ⟨v, by simp, hv⟩
      · rw [Scope.lookup_cons_of_ne hxy] at hx ⊢
        exact ih hx

/-- The components of a tuple have their types. -/
theorem boundTyped_components {env : SizeEnv} {n : ℕ} {tys : List Ty} {vs : List Value}
    (h : List.Forall₂ (fun ty x => (env.sized ty).Has x) tys vs) (hlt : ∀ x ∈ vs, sizeOf x < n) :
    ∀ i, BoundTyped env n (components i (tys.map UsedType.primitive))
      (components i ((tys.map UsedType.primitive).zip vs)) := by
  induction h with
  | nil => exact fun _ => .nil
  | cons hv _ ih =>
      intro i
      have hrest := ih (fun x hx => hlt x (List.mem_cons_of_mem _ hx)) (i + 1)
      exact List.rel_append hrest (.cons ⟨rfl, hlt _ List.mem_cons_self, hv⟩ .nil)

theorem boundTyped_bound {env : SizeEnv} {n : ℕ} {shape : FieldShape} {ty : UsedType}
    (hfrom : shape.writesFrom ty = true) {v : Value} (hlt : sizeOf v < n) (hv : ty.Has env v) :
    BoundTyped env n (boundTypes shape) (boundComponents shape v) := by
  cases shape with
  | tuple tys =>
      obtain ⟨-, rfl⟩ : tys.length ≠ 1 ∧ ty = .tuple tys := by
        simpa [FieldShape.writesFrom] using hfrom
      obtain ⟨vs, rfl, hvs⟩ := hv
      exact boundTyped_components hvs (fun x hx => sizeOf_lt_of_mem_tuple hx hlt) 0
  | _ => exact .nil

/-- The pattern of a variant binds every field to its value. -/
theorem boundTyped_fields {env : SizeEnv} {n : ℕ} {fields : List Field} {vs : List Value}
    (h : FieldsHave env fields vs) (hlt : ∀ x ∈ vs, sizeOf x < n) :
    BoundTyped env n (fields.map fun field => (field.name, field.shape.usedType))
      (boundFields fields vs) := by
  unfold FieldsHave at h
  induction h with
  | nil => exact .nil
  | cons hv _ ih =>
      exact .cons ⟨rfl, hlt _ List.mem_cons_self, hv⟩
        (ih fun x hx => hlt x (List.mem_cons_of_mem _ hx))

/-- The variables that are not of a primitive type stand for the fields of their names: what the
components of a tuple are bound to is of a primitive type. -/
def OwnVariables (fields : List Field) (vs : List Value) (scope : Scope String (UsedType × Value)) : Prop :=
  ∀ p ∈ fields.zip vs, ∀ ty written, scope.lookup p.1.name = some (ty, written) →
    (∃ own, ty = .primitive own) ∨ written = p.2

theorem ownVariables_fields {fields : List Field} (h : (fields.map Field.name).Nodup) (vs : List Value) :
    OwnVariables fields vs (boundFields fields vs) := by
  intro p hp ty written hscope
  have hown := lookup_boundFields h vs p hp
  rw [hown] at hscope
  exact .inr (Prod.mk.inj (Option.some.inj hscope)).2.symm

theorem primitive_of_mem_boundComponents {shape : FieldShape} {v : Value} {x : String} {ty : UsedType}
    {written : Value} (h : (x, (ty, written)) ∈ boundComponents shape v) : ∃ own, ty = .primitive own := by
  have hcomponents : ∀ (ps : List (UsedType × Value)) (i : ℕ), (x, (ty, written)) ∈ components i ps →
      (ty, written) ∈ ps := by
    intro ps
    induction ps with
    | nil => simp [components]
    | cons p ps ih =>
        intro i hmem
        rcases List.mem_append.1 hmem with hmem | hmem
        · exact List.mem_cons_of_mem _ (ih _ hmem)
        · obtain ⟨-, rfl⟩ := Prod.mk.inj (List.mem_singleton.1 hmem)
          exact List.mem_cons_self
  cases shape with
  | tuple tys =>
      cases v with
      | tuple vs =>
          have hzip := (List.of_mem_zip (hcomponents _ 0 h)).1
          obtain ⟨own, -, heq⟩ := List.mem_map.1 hzip
          exact ⟨own, heq.symm⟩
      | _ => simp [boundComponents] at h
  | _ => simp [boundComponents] at h

theorem OwnVariables.next {field : Field} {fields : List Field} {v : Value} {vs : List Value}
    {scope : Scope String (UsedType × Value)} (h : OwnVariables (field :: fields) (v :: vs) scope)
    (shape : FieldShape) (written : Value) :
    OwnVariables fields vs (boundComponents shape written ++ scope) := by
  intro p hp ty w hscope
  rw [List.lookup_append] at hscope
  cases hcomponent : (boundComponents shape written).lookup p.1.name with
  | none =>
      rw [hcomponent, Option.none_or] at hscope
      exact h p (List.mem_cons_of_mem _ hp) ty w hscope
  | some c =>
      rw [hcomponent, Option.some_or] at hscope
      obtain rfl := Option.some.inj hscope
      obtain ⟨later, earlier, hmem, -⟩ := List.lookup_eq_some_iff.1 hcomponent
      exact .inl (primitive_of_mem_boundComponents (hmem ▸ List.mem_append_right later List.mem_cons_self))

/-- The fields of a variant. -/
theorem counted_bound {env : SizeEnv} {accounts : Accounts} {n : ℕ}
    (h : CountsBelow env accounts n) :
    ∀ {fields : List Field} {vs : List Value} {types : Scope String UsedType}
      {scope : Scope String (UsedType × Value)}, fields.length = vs.length →
      boundAccepted fields types = true → BoundTyped env n types scope → OwnVariables fields vs scope →
      (fieldsByteSize env fields vs : ℤ) = (writeBound env.writers fields scope).length +
        boundSurplus env accounts fields vs scope := by
  intro fields
  induction fields with
  | nil =>
      intro vs types scope _ _ _ _
      rfl
  | cons field fields ih =>
      intro vs types scope hlen hacc htyped hown
      cases vs with
      | nil => simp at hlen
      | cons v vs =>
          rw [boundAccepted, Bool.and_eq_true] at hacc
          obtain ⟨hhead, hrest⟩ := hacc
          cases hx : types.lookup field.name with
          | none => simp [hx] at hhead
          | some ty =>
              rw [hx] at hhead
              obtain ⟨written, hscope, hlt, hw⟩ := htyped.lookup hx
              have hvariable : (∃ own, ty = .primitive own) ∨ written = v :=
                hown (field, v) List.mem_cons_self ty written hscope
              have hfield := counted_from h hhead hvariable hlt hw
              have hnext := List.rel_append (boundTyped_bound hhead hlt hw) htyped
              have htail := ih (by simpa using hlen) hrest hnext (hown.next field.shape written)
              simp only [fieldsByteSize, List.zipWith_cons_cons, List.sum_cons, writeBound, hscope,
                boundSurplus, List.length_append] at htail ⊢
              push_cast at htail ⊢
              omega

/-! ### Declarations -/

/-- **The derived size is the length of what is written, and the surplus**, if the sizes of smaller values
are. -/
theorem SizedDecl.counted {env : SizeEnv} {accounts : Accounts} {decl : SizedDecl} {v : Value}
    (h : CountsBelow env accounts (sizeOf v)) (hacc : decl.accepted = true) (hv : decl.Has env v) :
    (decl.byteSize env v : ℤ) = (decl.write env.writers v).length + decl.surplus env accounts v := by
  obtain ⟨data⟩ := decl
  cases data with
  | struct fields =>
      cases v with
      | struct vs =>
          refine counted_fields h (fun x hx => ?_) hv
          have hmem := List.sizeOf_lt_of_mem hx
          rw [Value.struct.sizeOf_spec]
          omega
      | _ => exact hv.elim
  | enum size variants =>
      cases v with
      | variant index vs =>
          obtain ⟨variant, hget, hvs⟩ := hv
          have hlt : ∀ x ∈ vs, sizeOf x < sizeOf (Value.variant index vs) := by
            intro x hx
            have hmem := List.sizeOf_lt_of_mem hx
            rw [Value.variant.sizeOf_spec]
            omega
          simp only [SizedDecl.accepted, Bool.and_eq_true, List.all_eq_true] at hacc
          obtain ⟨⟨⟨-, hbound⟩, hnodup⟩, -⟩ := hacc.2 variant (List.mem_of_getElem? hget)
          rw [variantAccepted, Bool.and_eq_true] at hbound
          have hfields := counted_bound h hvs.length_eq hbound.1 (boundTyped_fields hvs hlt)
            (ownVariables_fields (of_decide_eq_true hnodup) vs)
          simp only [SizedDecl.byteSize, SizedDecl.write, SizedDecl.surplus, hget,
            List.length_append, LittleEndian.length_encode]
          push_cast
          omega
      | _ => exact hv.elim

/-- What the derives implement. -/
def SizedDecl.sizedType (env : SizeEnv) (decl : SizedDecl) : SizedType where
  Has := decl.Has env
  write := decl.write env.writers
  byteSize := decl.byteSize env

/-- The types that are declared implement what is derived for them, in terms of each other; the types behind
them are implemented by hand, and their accounts are right. -/
structure Implements (decls : List SizedDecl) (env : SizeEnv) (accounts : Accounts) : Prop where
  accepted : ∀ decl ∈ decls, decl.accepted = true
  derived : ∀ index decl, decls[index]? = some decl → env index = decl.sizedType env
  accounted : ∀ index decl, decls[index]? = some decl → accounts index = decl.surplus env accounts
  given : ∀ index, decls.length ≤ index → ∀ v, Counts (env index) (accounts index) v

/-- **The surplus of a value is the one computed from its declaration**, by induction on the value: what a
value is written with are smaller ones. -/
theorem Implements.counts {decls : List SizedDecl} {env : SizeEnv} {accounts : Accounts}
    (h : Implements decls env accounts) (v : Value) (index : ℕ) :
    Counts (env index) (accounts index) v := by
  induction hsize : sizeOf v using Nat.strong_induction_on generalizing v index with
  | _ n ih =>
      subst hsize
      cases hget : decls[index]? with
      | none => exact h.given index (List.getElem?_eq_none_iff.1 hget) v
      | some decl =>
          intro hv
          have hbelow : CountsBelow env accounts (sizeOf v) := fun i w hw => ih _ hw w i rfl
          have hderived := h.derived index decl hget
          rw [hderived] at hv
          rw [hderived, h.accounted index decl hget]
          exact SizedDecl.counted hbelow (h.accepted decl (List.mem_of_getElem? hget)) hv

/-- **When the size is exact**: for types that are declared in terms of each other, the derived size of a
value is the number of bytes that are written of it exactly if its surplus is zero. -/
theorem byteSize_exact_iff (decls : List SizedDecl) (env : SizeEnv) (accounts : Accounts)
    (h : Implements decls env accounts) (index : ℕ) (decl : SizedDecl)
    (hdecl : decls[index]? = some decl) (v : Value) (hv : decl.Has env v) :
    decl.byteSize env v = (decl.write env.writers v).length ↔ decl.surplus env accounts v = 0 := by
  have hcounts := h.counts v index
  rw [h.derived index decl hdecl, h.accounted index decl hdecl] at hcounts
  have hcounted : (decl.byteSize env v : ℤ) = (decl.write env.writers v).length +
      decl.surplus env accounts v := hcounts hv
  omega

/-- A list of numbers and nothing else. -/
def numberList (repr : ListRepr) : SizedDecl where
  data := .struct (.named [⟨"numbers", .collection (.plain (.primitive .u16)) repr⟩])

theorem numberList_has (repr : ListRepr) (env : SizeEnv) (v : Value) :
    (numberList repr).Has env v ↔
      ∃ items, v = .struct [.vec items] ∧ ∀ x ∈ items, Primitive.Valid .u16 x := by
  constructor
  · intro h
    cases v with
    | struct vs =>
        obtain ⟨_, _, ⟨items, rfl, hitems⟩, hnil, rfl⟩ := List.forall₂_cons_left_iff.1 h
        obtain rfl := List.forall₂_nil_left_iff.1 hnil
        exact ⟨items, rfl, hitems⟩
    | _ => exact h.elim
  · rintro ⟨items, rfl, hitems⟩
    exact .cons ⟨items, rfl, hitems⟩ .nil

/-- The declaration is implemented in the same way whatever else there is. -/
theorem numberList_sizedType (repr : ListRepr) (env env' : SizeEnv) :
    (numberList repr).sizedType env = (numberList repr).sizedType env' := by
  have hhas : (numberList repr).Has env = (numberList repr).Has env' := by
    funext v
    rw [numberList_has, numberList_has]
  have hwrite : (numberList repr).write env.writers = (numberList repr).write env'.writers := by
    funext v
    cases v with
    | struct vs =>
        cases vs with
        | nil => rfl
        | cons a vs => cases a <;> rfl
    | _ => rfl
  have hsize : (numberList repr).byteSize env = (numberList repr).byteSize env' := by
    funext v
    cases v with
    | struct vs =>
        cases vs with
        | nil => rfl
        | cons a vs => cases a <;> rfl
    | _ => rfl
  simp only [SizedDecl.sizedType, hhas, hwrite, hsize]

theorem implements_numberList (repr : ListRepr) (env : SizeEnv) :
    Implements [numberList repr]
      (fun
        | 0 => (numberList repr).sizedType env
        | _ => Primitive.u8.sizedType)
      (fun
        | 0 => (numberList repr).surplus env fun _ _ => 0
        | _ => fun _ => 0) where
  accepted := by
    intro decl hdecl
    obtain rfl := List.mem_singleton.1 hdecl
    cases repr <;> rfl
  derived := by
    rintro (_ | index) decl hdecl
    · obtain rfl := Option.some.inj hdecl
      exact numberList_sizedType repr _ _
    · simp at hdecl
  accounted := by
    rintro (_ | index) decl hdecl
    · obtain rfl := Option.some.inj hdecl
      funext v
      cases v with
      | struct vs =>
          cases vs with
          | nil => rfl
          | cons a vs => cases a <;> rfl
      | _ => rfl
    · simp at hdecl
  given := by
    rintro (_ | index) hindex v
    · simp at hindex
    · exact Primitive.u8.counts v

/-- Three numbers behind their count in one byte. -/
theorem byteSize_exact_three_numbers :
    let decl := numberList (.length .one)
    let env : SizeEnv := fun
      | 0 => decl.sizedType fun _ => Primitive.u8.sizedType
      | _ => Primitive.u8.sizedType
    let v := Value.struct [.vec [.word 2 1, .word 2 2, .word 2 3]]
    decl.byteSize env v = (decl.write env.writers v).length := by
  intro decl env v
  have hv : decl.Has env v := by
    refine (numberList_has _ _ _).2 ⟨[.word 2 1, .word 2 2, .word 2 3], rfl, ?_⟩
    intro x hx
    fin_cases hx
    · exact ⟨1, rfl⟩
    · exact ⟨2, rfl⟩
    · exact ⟨3, rfl⟩
  refine (byteSize_exact_iff [decl] env _ (implements_numberList _ _) 0 decl rfl v hv).2 ?_
  rfl

/-- A list behind its count in two bytes, as the attribute `size` asks for: there is one byte more than the
size says. -/
theorem count_of_two_bytes_is_not_counted :
    let decl := numberList (.length .two)
    let env : SizeEnv := fun _ => Primitive.u8.sizedType
    let v := Value.struct [.vec [.word 2 1]]
    decl.accepted = true ∧ decl.Has env v ∧ decl.byteSize env v = 3 ∧
      (decl.write env.writers v).length = 4 := by
  intro decl env v
  have hv : decl.Has env v := by
    refine (numberList_has _ _ _).2 ⟨[.word 2 1], rfl, ?_⟩
    intro x hx
    obtain rfl := List.mem_singleton.1 hx
    exact ⟨1, rfl⟩
  exact ⟨rfl, hv, rfl, rfl⟩

/-! ### Declarations without a surplus -/

/-- What marks the number of a list takes one byte. -/
def ListRepr.oneByteMarks : ListRepr → Prop
  | .length width | .break_ width | .hasMore width => width = .one
  | .unmarked => False

theorem ListRepr.surplus_eq_zero_iff (repr : ListRepr) (count : ℕ) :
    repr.surplus count = 0 ↔ repr.oneByteMarks := by
  cases repr with
  | length width => cases width <;> simp [ListRepr.surplus, ListRepr.oneByteMarks, Width.bytes]
  | break_ width | hasMore width =>
      cases width <;> simp [ListRepr.surplus, ListRepr.oneByteMarks, Width.bytes] <;> omega
  | unmarked => simp [ListRepr.surplus, ListRepr.oneByteMarks]

/-- The size of the field is exact whenever the sizes of what is in it are. -/
def FieldShape.sizeExact : FieldShape → Prop
  | .string .wide => False
  | .collection _ repr => repr.oneByteMarks
  | _ => True

/-- The size of each field is exact, and no component of a tuple takes the name of a field of a variant. -/
def SizedDecl.sizeExact (decl : SizedDecl) : Prop :=
  match decl.data with
  | .struct fields => ∀ field ∈ fields.toList, field.shape.sizeExact
  | .enum _ variants => ∀ variant ∈ variants,
      NoTuples variant.fields.toList ∧ ∀ field ∈ variant.fields.toList, field.shape.sizeExact

section Exact

variable {env : SizeEnv} {accounts : Accounts} {n : ℕ}

theorem sum_zipWith_eq_zero {α β : Type} {f : α → β → ℤ} {l : List α} {l' : List β}
    (h : ∀ p ∈ l.zip l', f p.1 p.2 = 0) : (List.zipWith f l l').sum = 0 := by
  rw [← List.map_uncurry_zip_eq_zipWith]
  refine List.sum_eq_zero fun x hx => ?_
  obtain ⟨p, hp, rfl⟩ := List.mem_map.1 hx
  exact h p hp

theorem Accounts.of_eq_zero (h : ∀ index v, sizeOf v < n → accounts index v = 0) (ty : Ty) {v : Value}
    (hlt : sizeOf v < n) : accounts.of ty v = 0 := by
  cases ty with
  | primitive p => rfl
  | named index => exact h index v hlt

theorem Inner.surplus_eq_zero (h : ∀ index v, sizeOf v < n → accounts index v = 0) (inner : Inner)
    {v : Value} (hlt : sizeOf v < n) : inner.surplus accounts v = 0 := by
  cases inner with
  | plain ty => exact Accounts.of_eq_zero h ty hlt
  | string => rfl

/-- What is in a field is smaller than the field. -/
theorem FieldShape.surplus_eq_zero (h : ∀ index v, sizeOf v < n → accounts index v = 0)
    {shape : FieldShape} (hexact : shape.sizeExact) {v : Value} (hlt : sizeOf v < n) :
    shape.surplus accounts v = 0 := by
  cases shape with
  | primitive ty => exact Accounts.of_eq_zero h ty hlt
  | string repr =>
      cases repr with
      | narrow => rfl
      | wide => exact hexact.elim
  | array len => rfl
  | collection inner repr =>
      cases v with
      | vec items =>
          have hmarks : repr.surplus items.length = 0 := (repr.surplus_eq_zero_iff _).2 hexact
          have hitems : (items.map (inner.surplus accounts)).sum = 0 := by
            refine List.sum_eq_zero fun x hx => ?_
            obtain ⟨item, hitem, rfl⟩ := List.mem_map.1 hx
            exact inner.surplus_eq_zero h (sizeOf_lt_of_mem_vec hitem hlt)
          rw [FieldShape.surplus, hmarks, hitems, add_zero]
      | _ => rfl
  | option inner presence =>
      cases v with
      | some x => exact inner.surplus_eq_zero h (sizeOf_lt_some hlt)
      | _ => rfl
  | tuple tys =>
      cases v with
      | tuple vs =>
          exact sum_zipWith_eq_zero fun p hp =>
            Accounts.of_eq_zero h p.1 (sizeOf_lt_of_mem_tuple (List.of_mem_zip hp).2 hlt)
      | _ => rfl

theorem fieldsSurplus_eq_zero (h : ∀ index v, sizeOf v < n → accounts index v = 0) {fields : List Field}
    (hexact : ∀ field ∈ fields, field.shape.sizeExact) {vs : List Value} (hlt : ∀ x ∈ vs, sizeOf x < n) :
    fieldsSurplus accounts fields vs = 0 :=
  sum_zipWith_eq_zero fun p hp =>
    FieldShape.surplus_eq_zero h (hexact p.1 (List.of_mem_zip hp).1) (hlt p.2 (List.of_mem_zip hp).2)

theorem surplusFrom_own (env : SizeEnv) (accounts : Accounts) (shape : FieldShape) (v : Value) :
    surplusFrom env accounts shape v shape.usedType v = shape.surplus accounts v := by
  cases shape with
  | primitive ty =>
      change ((env.sized ty).byteSize v : ℤ) - (env.sized ty).byteSize v + accounts.of ty v = accounts.of ty v
      omega
  | _ => rfl

/-- Without tuples, the fields of a variant count as those of a struct. -/
theorem boundSurplus_eq_fieldsSurplus {scope : Scope String (UsedType × Value)} :
    ∀ {fields : List Field} {vs : List Value} (_ : NoTuples fields)
      (_ : ∀ p ∈ fields.zip vs, scope.lookup p.1.name = some (p.1.shape.usedType, p.2)),
      boundSurplus env accounts fields vs scope = fieldsSurplus accounts fields vs := by
  intro fields
  induction fields with
  | nil => intros; rfl
  | cons field fields ih =>
      intro vs htuples hlookup
      cases vs with
      | nil => rfl
      | cons v vs =>
          have hhead := hlookup (field, v) (by simp)
          have hbound : boundComponents field.shape v = [] :=
            boundComponents_eq_nil (htuples field List.mem_cons_self) v
          have htail : boundSurplus env accounts fields vs scope = fieldsSurplus accounts fields vs :=
            ih (fun f hf => htuples f (List.mem_cons_of_mem _ hf))
              (fun p hp => hlookup p (by rw [List.zip_cons_cons]; exact List.mem_cons_of_mem _ hp))
          rw [boundSurplus, hhead]
          simp only [surplusFrom_own, hbound, List.nil_append, htail]
          rfl

theorem SizedDecl.surplus_eq_zero {decl : SizedDecl} (hacc : decl.accepted = true)
    (hexact : decl.sizeExact) {v : Value} (h : ∀ index w, sizeOf w < sizeOf v → accounts index w = 0) :
    decl.surplus env accounts v = 0 := by
  obtain ⟨data⟩ := decl
  cases data with
  | struct fields =>
      cases v with
      | struct vs =>
          refine fieldsSurplus_eq_zero h hexact fun x hx => ?_
          have hmem := List.sizeOf_lt_of_mem hx
          rw [Value.struct.sizeOf_spec]
          omega
      | _ => rfl
  | enum size variants =>
      cases v with
      | variant index vs =>
          cases hget : variants[index]? with
          | none => simp [SizedDecl.surplus, hget]
          | some variant =>
              have hmem := List.mem_of_getElem? hget
              simp only [SizedDecl.accepted, Bool.and_eq_true, List.all_eq_true] at hacc
              obtain ⟨⟨-, hnodup⟩, -⟩ := hacc.2 variant hmem
              obtain ⟨htuples, hfields⟩ := hexact variant hmem
              have hlookup := lookup_boundFields (of_decide_eq_true hnodup) vs
              simp only [SizedDecl.surplus, hget]
              rw [boundSurplus_eq_fieldsSurplus htuples hlookup]
              refine fieldsSurplus_eq_zero h hfields fun x hx => ?_
              have hlt := List.sizeOf_lt_of_mem hx
              rw [Value.variant.sizeOf_spec]
              omega
      | _ => rfl

end Exact

/-- Where every declaration is exact and the types behind them are, no value has a surplus. -/
theorem Implements.surplus_eq_zero {decls : List SizedDecl} {env : SizeEnv} {accounts : Accounts}
    (h : Implements decls env accounts) (hexact : ∀ decl ∈ decls, decl.sizeExact)
    (hgiven : ∀ index, decls.length ≤ index → ∀ v, accounts index v = 0) (v : Value) (index : ℕ) :
    accounts index v = 0 := by
  induction hsize : sizeOf v using Nat.strong_induction_on generalizing v index with
  | _ n ih =>
      subst hsize
      cases hget : decls[index]? with
      | none => exact hgiven index (List.getElem?_eq_none_iff.1 hget) v
      | some decl =>
          have hmem := List.mem_of_getElem? hget
          rw [h.accounted index decl hget]
          exact SizedDecl.surplus_eq_zero (h.accepted decl hmem) (hexact decl hmem)
            fun i w hw => ih _ hw w i rfl

/-- **Marks of one byte, narrow strings and no tuples in variants**: the derived size of every value is the
number of bytes that are written. -/
theorem byteSize_of_sizeExact {decls : List SizedDecl} {env : SizeEnv} {accounts : Accounts}
    (h : Implements decls env accounts) (hexact : ∀ decl ∈ decls, decl.sizeExact)
    (hgiven : ∀ index, decls.length ≤ index → ∀ v, accounts index v = 0) {index : ℕ} {decl : SizedDecl}
    (hdecl : decls[index]? = some decl) {v : Value} (hv : decl.Has env v) :
    decl.byteSize env v = (decl.write env.writers v).length := by
  have hcounts := h.counts v index
  rw [h.derived index decl hdecl] at hcounts
  have hcounted : (decl.byteSize env v : ℤ) = (decl.write env.writers v).length + accounts index v :=
    hcounts hv
  have hzero := h.surplus_eq_zero hexact hgiven v index
  omega

end Skrillax

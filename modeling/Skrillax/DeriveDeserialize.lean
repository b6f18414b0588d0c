/-
**The derived deserializer.**

A description of a type is what the macro reads of its declaration: the fields with their names, types and
attributes.  The macro turns the fields of a struct or of a variant into code that reads one after the
other, each into a variable of the name of the field.  The helper variables of a field, such as the length
of a string, are declared in the same block.

Main definitions:

* `FieldShape`, `Field`, `Fields`, `Data`, `Decl` — descriptions;
* `generateReaderFor`, `generateReaderForInner` — the code for a field;
* `fieldsCode`, `accepted`, `derivedRead` — the code for all fields, whether it compiles, and what it
  returns;
* `FieldShape.read`, `readFields` — what is read for a field and for all fields, without any variables;
* `Decl.read` — the derived `read_from`.

Main results:

* `run_generateReaderFor` — **what the code for a field does**: it declares the helper variables, and then
  the variable of the field;
* `FieldShape.read_eq` — the value of the field is the one that is read for it.
-/

import Skrillax.GeneratedCode

set_option relaxedAutoImplicit false
set_option autoImplicit false

namespace Skrillax

open ByteReader

/-! ### Descriptions -/

/-- The attribute `size` of a string: bytes, or units of two bytes. -/
inductive StringSize where
  | narrow
  | wide
  deriving DecidableEq, Repr

/-- The attribute `size` of an enum, and of the marks of a list. -/
inductive Width where
  | one
  | two
  | four
  | eight
  deriving DecidableEq, Repr

def Width.bytes : Width → ℕ
  | one => 1
  | two => 2
  | four => 4
  | eight => 8

/-- The attributes `list_type` and `size` of a `Vec`. -/
inductive ListRepr where
  | length (width : Width)
  | break_ (width : Width)
  | hasMore (width : Width)
  | unmarked
  deriving DecidableEq, Repr

/-- The attributes `when` and `size` of an `Option`: a flag, no flag, or a condition. -/
inductive OptionRepr where
  | flag
  | bare
  | when (condition : Condition)

/-- The type of a field, with the attributes that the generators look at. -/
inductive FieldShape where
  | primitive (ty : Ty)
  | string (size : StringSize)
  | array (len : ℕ)
  | collection (inner : Inner) (repr : ListRepr)
  | option (inner : Inner) (repr : OptionRepr)
  | tuple (inner : List Ty)

def FieldShape.usedType : FieldShape → UsedType
  | primitive ty => .primitive ty
  | string _ => .string
  | array len => .array len
  | collection inner _ => .collection inner
  | option inner _ => .option inner
  | tuple inner => .tuple inner

structure Field where
  name : String
  shape : FieldShape

/-- `format_ident!("t{}", i)`. -/
def tupleName (i : ℕ) : String := "t" ++ Nat.repr i

inductive Fields where
  | named (fields : List Field)
  | unnamed (shapes : List FieldShape)
  | unit

/-- The fields with the variables they are read into. -/
def Fields.toList : Fields → List Field
  | named fields => fields
  | unnamed shapes => shapes.mapIdx fun i shape => ⟨tupleName i, shape⟩
  | unit => []

structure Variant where
  value : ℕ
  fields : Fields

inductive Data where
  | struct (fields : Fields)
  | enum (size : Width) (variants : List Variant)

structure Decl where
  name : String
  /-- The type derives `Copy` too. -/
  copy : Bool
  data : Data

/-! ### Code -/

def generateReaderForInner (ident : String) : Inner → Code
  | .plain ty => .bind ident (.readFrom ty) .done
  | .string =>
      .bind "len" (.readFrom (.primitive .u16)) <|
      .bind "bytes" (.withCapacity "len") <|
      .forRange "len" (.push "bytes" (.readFrom (.primitive .u8)) .done) <|
      .bind ident (.fromUtf8 "bytes") .done

/-- The condition `some == 1`. -/
def someIsOne : Condition where
  operands := [("some", .u8)]
  holds := fun values => values.map Value.toNat = [1]

/-- The components of a tuple, each read into a variable. -/
def readComponents : ℕ → List Ty → Code → Code
  | _, [], after => after
  | i, ty :: tys, after => .bind (tupleName i) (.readFrom ty) (readComponents (i + 1) tys after)

def generateReaderFor (field : Field) : Code :=
  let ident := field.name
  match field.shape with
  | .primitive ty => .bind ident (.readFrom ty) .done
  | .string .narrow =>
      .bind "len" (.readFrom (.primitive .u16)) <|
      .bind "bytes" (.withCapacity "len") <|
      .forRange "len" (.push "bytes" (.readFrom (.primitive .u8)) .done) <|
      .bind ident (.fromUtf8 "bytes") .done
  | .string .wide =>
      .bind "len" (.readFrom (.primitive .u16)) <|
      .bind "bytes" (.withCapacity "len") <|
      .forRange "len" (.push "bytes" (.readFrom (.primitive .u16)) .done) <|
      .bind ident (.fromUtf16 "bytes") .done
  | .array len =>
      .bind "bytes" (.zeros len) <|
      .readExact "bytes" <|
      .bind ident (.var "bytes") .done
  | .collection inner _ =>
      .bind "size" (.readFrom (.primitive .u8)) <|
      .bind "items" (.withCapacity "size") <|
      .forRange "size" ((generateReaderForInner ident inner).append (.push "items" (.var ident) .done)) <|
      .bind ident (.var "items") .done
  | .option inner (.when condition) =>
      .bindIf ident condition (generateReaderForInner ident inner) ident .done
  | .option inner _ =>
      .bind "some" (.readFrom (.primitive .u8)) <|
      .bindIf ident someIsOne (generateReaderForInner ident inner) ident .done
  | .tuple inner =>
      readComponents 0 inner <|
      .bind ident (.tuple ((List.range inner.length).map tupleName)) .done

/-- The code for all fields. -/
def fieldsCode : List Field → Code
  | [] => .done
  | field :: fields => (generateReaderFor field).append (fieldsCode fields)

/-- The compiler accepts the code, and the value that is built at the end of it. -/
def accepted (env : TypeEnv) (fields : List Field) : Bool :=
  match (fieldsCode fields).check env [] with
  | some locals => checkFields env (fields.map fun field => (field.name, field.shape.usedType)) locals
  | none => false

/-- The values of the fields, in order. -/
def runFields (env : TypeEnv) (fields : List Field) : ByteReader SerializationError (List Value) := do
  let scope ← (fieldsCode fields).run env []
  return fields.map fun field => valueOf scope field.name

/-- The reader that is derived for fields, if it compiles. -/
def derivedRead (env : TypeEnv) (fields : List Field) :
    Option (ByteReader SerializationError (List Value)) :=
  if accepted env fields then some (runFields env fields) else none

/-! ### Declarations -/

def Decl.accepted (env : TypeEnv) (decl : Decl) : Bool :=
  match decl.data with
  | .struct fields => Skrillax.accepted env fields.toList
  | .enum size variants =>
      !variants.isEmpty && variants.all fun variant =>
        variant.value < 256 ^ size.bytes && Skrillax.accepted env variant.fields.toList

/-- The arms of the `match` on the tag; the first one with its value is taken. -/
def findVariant (tag : ℕ) : List Variant → ℕ → Option (ℕ × Fields)
  | [], _ => none
  | variant :: variants, index =>
      if variant.value = tag then some (index, variant.fields) else findVariant tag variants (index + 1)

/-- The derived `read_from`. -/
def Decl.read (env : TypeEnv) (decl : Decl) : ByteReader SerializationError Value :=
  match decl.data with
  | .struct fields => .struct <$> runFields env fields.toList
  | .enum size variants => do
      let tag ← Primitive.readWord size.bytes
      match findVariant tag.toNat variants 0 with
      | some (index, fields) => .variant index <$> runFields env fields.toList
      | none => fail (.unknownVariation tag.toNat decl.name)

/-! ### What is read for a field -/

/-- A string of bytes, after their number. -/
def readString : ByteReader SerializationError Value := do
  let len ← Primitive.u16.read
  let bytes ← Primitive.u8.read.many len.toNat
  stringFromUtf8 (bytes.map Value.toByte)

def readWideString : ByteReader SerializationError Value := do
  let len ← Primitive.u16.read
  let units ← Primitive.u16.read.many len.toNat
  stringFromUtf16 (units.map Value.toNat)

def Inner.read (env : TypeEnv) : Inner → ByteReader SerializationError Value
  | .plain ty => (env.serde ty).read
  | .string => readString

def readAll (env : TypeEnv) : List Ty → ByteReader SerializationError (List Value)
  | [] => pure []
  | ty :: tys => do
      let v ← (env.serde ty).read
      let vs ← readAll env tys
      return v :: vs

/-- The value that is read for a field, given the values of the fields before it. -/
def FieldShape.read (env : TypeEnv) (scope : Scope String Value) :
    FieldShape → ByteReader SerializationError Value
  | .primitive ty => (env.serde ty).read
  | .string .narrow => readString
  | .string .wide => readWideString
  | .array len => .array <$> exactly .ioError len
  | .collection inner _ => do
      let size ← Primitive.u8.read
      .vec <$> (inner.read env).many size.toNat
  | .option inner (.when condition) =>
      if condition.eval scope then .some <$> inner.read env else pure .none
  | .option inner _ => do
      let flag ← Primitive.u8.read
      if flag.toNat = 1 then .some <$> inner.read env else pure .none
  | .tuple tys => .tuple <$> readAll env tys

/-- The values that are read for all fields, one after the other. -/
def readFields (env : TypeEnv) :
    List Field → Scope String Value → ByteReader SerializationError (List Value)
  | [], _ => pure []
  | field :: fields, scope => do
      let v ← field.shape.read env scope
      let vs ← readFields env fields ((field.name, v) :: scope)
      return v :: vs

/-! ### The helper variables -/

/-- The variables of the components of a tuple, from the given index on. -/
def components {α : Type} : ℕ → List α → Scope String α
  | _, [] => []
  | i, a :: as => components (i + 1) as ++ [(tupleName i, a)]

/-- The value that is read, and the helper variables that are declared on the way. -/
def Inner.readLocals (env : TypeEnv) :
    Inner → ByteReader SerializationError (Value × Scope String Value)
  | .plain ty => do
      let v ← (env.serde ty).read
      return (v, [])
  | .string => do
      let len ← Primitive.u16.read
      let bytes ← Primitive.u8.read.many len.toNat
      let v ← stringFromUtf8 (bytes.map Value.toByte)
      return (v, [("bytes", .vec bytes), ("len", len)])

@[inherit_doc Inner.readLocals]
def FieldShape.readLocals (env : TypeEnv) (scope : Scope String Value) :
    FieldShape → ByteReader SerializationError (Value × Scope String Value)
  | .primitive ty => do
      let v ← (env.serde ty).read
      return (v, [])
  | .string .narrow => Inner.readLocals env .string
  | .string .wide => do
      let len ← Primitive.u16.read
      let units ← Primitive.u16.read.many len.toNat
      let v ← stringFromUtf16 (units.map Value.toNat)
      return (v, [("bytes", .vec units), ("len", len)])
  | .array len => do
      let bytes ← exactly .ioError len
      return (.array bytes, [("bytes", .array bytes)])
  | .collection inner _ => do
      let size ← Primitive.u8.read
      let items ← (inner.read env).many size.toNat
      return (.vec items, [("items", .vec items), ("size", size)])
  | .option inner (.when condition) => do
      let v ← if condition.eval scope then .some <$> inner.read env else pure .none
      return (v, [])
  | .option inner _ => do
      let flag ← Primitive.u8.read
      let v ← if flag.toNat = 1 then .some <$> inner.read env else pure .none
      return (v, [("some", flag)])
  | .tuple tys => do
      let vs ← readAll env tys
      return (.tuple vs, components 0 vs)

theorem Inner.read_eq (env : TypeEnv) (inner : Inner) :
    inner.read env = Prod.fst <$> inner.readLocals env := by
  cases inner with
  | plain ty => simp [Inner.read, Inner.readLocals]
  | string => simp [Inner.read, Inner.readLocals, readString]

/-- The value of a field is the one that is read for it. -/
theorem FieldShape.read_eq (env : TypeEnv) (scope : Scope String Value) (shape : FieldShape) :
    shape.read env scope = Prod.fst <$> shape.readLocals env scope := by
  cases shape with
  | primitive ty => simp [FieldShape.read, FieldShape.readLocals]
  | string size =>
      cases size with
      | narrow => simp [FieldShape.read, FieldShape.readLocals, Inner.readLocals, readString]
      | wide => simp [FieldShape.read, FieldShape.readLocals, readWideString]
  | array len => simp [FieldShape.read, FieldShape.readLocals]
  | collection inner repr => simp [FieldShape.read, FieldShape.readLocals]
  | option inner repr =>
      cases repr with
      | flag | bare =>
          simp only [FieldShape.read, FieldShape.readLocals, map_bind]
          refine bind_congr fun flag => ?_
          split <;> simp
      | when condition =>
          simp only [FieldShape.read, FieldShape.readLocals]
          split <;> simp
  | tuple tys => simp [FieldShape.read, FieldShape.readLocals]

/-! ### What the code for a field does -/

@[simp] theorem valueOf_cons_self (x : String) (v : Value) (scope : Scope String Value) :
    valueOf ((x, v) :: scope) x = v := by
  simp [valueOf]

theorem valueOf_cons_of_ne {x y : String} (h : x ≠ y) (v : Value) (scope : Scope String Value) :
    valueOf ((y, v) :: scope) x = valueOf scope x := by
  rw [valueOf, Scope.lookup_cons_of_ne h, valueOf]

/-- The loop that reads the bytes, or the units, of a string. -/
theorem iterate_push (r : ByteReader SerializationError Value) (scope : Scope String Value) (n : ℕ) :
    ByteReader.iterate
        (fun outer : Scope String Value => do
          let v ← r
          pure (outer.leave (outer.update "bytes" fun items => .vec (items.items ++ [v]))))
        n (("bytes", .vec []) :: scope) =
      (fun bytes => ("bytes", .vec bytes) :: scope) <$> r.many n := by
  refine iterate_eq_many (fun acc => ("bytes", Value.vec acc) :: scope) (fun acc => ?_) n []
  rw [map_eq_pure_bind]
  refine bind_congr fun v => ?_
  rw [Scope.update_cons_self, Value.items_vec]
  exact congrArg pure (Scope.leave_append rfl [])

theorem run_generateReaderForInner (env : TypeEnv) (ident : String) (inner : Inner)
    (scope : Scope String Value) :
    (generateReaderForInner ident inner).run env scope =
      (fun p => (ident, p.1) :: p.2 ++ scope) <$> inner.readLocals env := by
  cases inner with
  | plain ty => simp [generateReaderForInner, Code.run, Expr.eval, Inner.readLocals]
  | string =>
      simp only [generateReaderForInner, Code.run, Expr.eval, Inner.readLocals, pure_bind,
        map_eq_pure_bind, bind_assoc]
      refine bind_congr fun len => ?_
      rw [valueOf_cons_of_ne (by decide), valueOf_cons_self, iterate_push]
      simp [TypeEnv.serde, Primitive.serdeType]

/-- The loop that reads the elements of a `Vec`.  The variable of the field is declared anew in each
round, so it must not hide the vector. -/
theorem iterate_items (env : TypeEnv) {ident : String} (hident : ident ≠ "items") (inner : Inner)
    (scope : Scope String Value) (n : ℕ) :
    ByteReader.iterate
        (fun outer => do
          let inner ← ((generateReaderForInner ident inner).append
            (.push "items" (.var ident) .done)).run env outer
          pure (Scope.leave outer inner))
        n (("items", .vec []) :: scope) =
      (fun items => ("items", .vec items) :: scope) <$> (inner.read env).many n := by
  refine iterate_eq_many (fun acc => ("items", Value.vec acc) :: scope) (fun acc => ?_) n []
  rw [Code.run_append, run_generateReaderForInner, Inner.read_eq]
  simp only [map_eq_pure_bind, bind_assoc, pure_bind, Code.run, Expr.eval, List.cons_append,
    valueOf_cons_self]
  cases inner with
  | plain ty =>
      simp only [Inner.readLocals, bind_assoc, pure_bind]
      refine bind_congr fun v => congrArg pure ?_
      have hnew : "items" ∉ Scope.names [(ident, v)] := by simpa using hident.symm
      exact Scope.leave_update hnew _ _ _
  | string =>
      simp only [Inner.readLocals, bind_assoc, pure_bind]
      refine bind_congr fun len => bind_congr fun bytes => bind_congr fun v => congrArg pure ?_
      have hnew : "items" ∉ Scope.names [(ident, v), ("bytes", .vec bytes), ("len", len)] := by
        simpa using hident.symm
      exact Scope.leave_update hnew _ _ _

/-! Tuples. -/

theorem tupleName_inj {i j : ℕ} : tupleName i = tupleName j ↔ i = j := by
  rw [tupleName, tupleName, String.append_right_inj, Nat.repr_inj]

theorem tupleName_ne {i : ℕ} {x : String} (h : x.toList.head? ≠ some 't') : tupleName i ≠ x := by
  rintro rfl
  simp [tupleName] at h

theorem mem_names_components {α : Type} {x : String} :
    ∀ (as : List α) (i : ℕ), x ∈ (components i as).names ↔ ∃ k < as.length, x = tupleName (i + k) := by
  intro as
  induction as with
  | nil => simp [components]
  | cons a as ih =>
      intro i
      rw [components, Scope.names_append, List.mem_append, ih]
      constructor
      · rintro (⟨k, hk, rfl⟩ | hx)
        · exact ⟨k + 1, by simpa using hk, by rw [Nat.add_right_comm, Nat.add_assoc]⟩
        · exact ⟨0, by simp, by simpa using hx⟩
      · rintro ⟨k, hk, rfl⟩
        cases k with
        | zero => exact Or.inr (by simp)
        | succ k => exact Or.inl ⟨k, by simpa using hk, by rw [Nat.add_right_comm, Nat.add_assoc]⟩

theorem mem_of_mem_components {α : Type} {x : String} {a : α} :
    ∀ {as : List α} {i : ℕ}, (x, a) ∈ components i as → a ∈ as := by
  intro as
  induction as with
  | nil => simp [components]
  | cons b as ih =>
      intro i hmem
      rw [components, List.mem_append] at hmem
      rcases hmem with hmem | hmem
      · exact List.mem_cons_of_mem _ (ih hmem)
      · obtain ⟨-, rfl⟩ := Prod.mk.inj (List.mem_singleton.1 hmem)
        exact List.mem_cons_self

theorem lookup_components {α : Type} :
    ∀ (as : List α) (i k : ℕ), (components i as).lookup (tupleName (i + k)) = as[k]? := by
  intro as
  induction as with
  | nil => simp [components]
  | cons a as ih =>
      intro i k
      rw [components]
      cases k with
      | zero =>
          rw [Scope.lookup_append_of_notMem]
          · simp
          · rw [mem_names_components]
            rintro ⟨k, -, heq⟩
            have := tupleName_inj.1 heq
            omega
      | succ k =>
          have hk : i + (k + 1) = i + 1 + k := by omega
          rw [List.lookup_append, hk, ih (i + 1) k, List.getElem?_cons_succ]
          have hne : tupleName (i + 1 + k) ≠ tupleName i := fun heq => by
            have := tupleName_inj.1 heq
            omega
          rw [Scope.lookup_cons_of_ne hne]
          simp

theorem run_readComponents (env : TypeEnv) (after : Code) :
    ∀ (tys : List Ty) (i : ℕ) (scope : Scope String Value),
      (readComponents i tys after).run env scope =
        readAll env tys >>= fun vs => after.run env (components i vs ++ scope) := by
  intro tys
  induction tys with
  | nil => intro i scope; simp [readComponents, readAll, components]
  | cons ty tys ih =>
      intro i scope
      simp only [readComponents, Code.run, Expr.eval, readAll, bind_assoc, pure_bind, ih]
      refine bind_congr fun v => bind_congr fun vs => ?_
      rw [components, List.append_assoc, List.singleton_append]

theorem length_of_readAll {env : TypeEnv} :
    ∀ {tys : List Ty} {input : List UInt8} {vs : List Value} {rest : List UInt8},
      readAll env tys input = .ok (vs, rest) → vs.length = tys.length := by
  intro tys
  induction tys with
  | nil =>
      intro input vs rest h
      obtain ⟨rfl, -⟩ := pure_eq_ok h
      rfl
  | cons ty tys ih =>
      intro input vs rest h
      obtain ⟨v, middle, -, hrest⟩ := bind_eq_ok h
      obtain ⟨vs', middle', hvs, hpure⟩ := bind_eq_ok hrest
      obtain ⟨rfl, -⟩ := pure_eq_ok hpure
      rw [List.length_cons, List.length_cons, ih hvs]

theorem eval_tuple (env : TypeEnv) (scope : Scope String Value) {xs : List String} (h : xs.length ≠ 1) :
    (Expr.tuple xs).eval env scope = pure (.tuple (xs.map (valueOf scope))) := by
  match xs, h with
  | [], _ => rfl
  | _ :: _ :: _, _ => rfl

/-- The components are the ones that have been read. -/
theorem map_valueOf_components (scope : Scope String Value) (vs : List Value) :
    ((List.range vs.length).map tupleName).map (valueOf (components 0 vs ++ scope)) = vs := by
  apply List.ext_getElem?
  intro k
  by_cases hk : k < vs.length
  · have hmem : tupleName k ∈ (components 0 vs).names :=
      (mem_names_components vs 0).2 ⟨k, hk, by rw [Nat.zero_add]⟩
    have hlookup := lookup_components vs 0 k
    rw [Nat.zero_add] at hlookup
    simp [hk, valueOf, Scope.lookup_append_of_mem hmem, hlookup]
  · simp [hk]

/-- The branch of an `Option` that is there; its helper variables end with the branch. -/
theorem run_some (env : TypeEnv) (ident : String) (inner : Inner) (scope : Scope String Value) :
    (do
        let s ← (generateReaderForInner ident inner).run env scope
        pure ((ident, Value.some (valueOf s ident)) :: scope.leave s)) =
      (fun v => (ident, Value.some v) :: scope) <$> inner.read env := by
  rw [run_generateReaderForInner, Inner.read_eq]
  simp only [map_eq_pure_bind, bind_assoc, pure_bind]
  refine bind_congr fun p => ?_
  rw [Scope.leave_append rfl, List.cons_append, valueOf_cons_self]

/-- The variable of a `Vec` must not hide the vector that is filled, and a pair of parentheses is not a
tuple. -/
def Field.Plausible (field : Field) : Prop :=
  match field.shape with
  | .collection _ _ => field.name ≠ "items"
  | .tuple tys => tys.length ≠ 1
  | _ => True

/-- **What the code for a field does**: it declares the helper variables, and then the variable of the
field. -/
theorem run_generateReaderFor (env : TypeEnv) {field : Field} (h : field.Plausible)
    (scope : Scope String Value) :
    (generateReaderFor field).run env scope =
      (fun p => (field.name, p.1) :: p.2 ++ scope) <$> field.shape.readLocals env scope := by
  obtain ⟨ident, shape⟩ := field
  cases shape with
  | primitive ty => simp [generateReaderFor, Code.run, Expr.eval, FieldShape.readLocals]
  | string size =>
      cases size with
      | narrow => exact run_generateReaderForInner env ident .string scope
      | wide =>
          simp only [generateReaderFor, Code.run, Expr.eval, FieldShape.readLocals, pure_bind,
            map_eq_pure_bind, bind_assoc]
          refine bind_congr fun len => ?_
          rw [valueOf_cons_of_ne (by decide), valueOf_cons_self, iterate_push]
          simp [TypeEnv.serde, Primitive.serdeType]
  | array len =>
      simp only [generateReaderFor, Code.run, Expr.eval, FieldShape.readLocals, pure_bind,
        map_eq_pure_bind, bind_assoc, valueOf_cons_self, Value.arrayLen, List.length_replicate,
        Scope.update_cons_self]
      rfl
  | collection inner repr =>
      simp only [generateReaderFor, Code.run, Expr.eval, FieldShape.readLocals, pure_bind,
        map_eq_pure_bind, bind_assoc]
      refine bind_congr fun size => ?_
      rw [valueOf_cons_of_ne (by decide), valueOf_cons_self]
      have hloop := iterate_items env h inner (("size", size) :: scope) size.toNat
      rw [map_eq_pure_bind] at hloop
      rw [hloop, bind_assoc]
      refine bind_congr fun items => ?_
      rw [pure_bind, valueOf_cons_self]
      rfl
  | option inner repr =>
      cases repr with
      | flag | bare =>
          simp only [generateReaderFor, Code.run, Expr.eval, FieldShape.readLocals, map_bind]
          refine bind_congr fun flag => ?_
          have hflag : someIsOne.eval (("some", flag) :: scope) = true ↔ flag.toNat = 1 := by
            simp [Condition.eval, someIsOne]
          by_cases hone : flag.toNat = 1
          · rw [if_pos (hflag.2 hone), if_pos hone, run_some]
            simp
          · rw [if_neg (mt hflag.1 hone), if_neg hone]
            rfl
      | when condition =>
          simp only [generateReaderFor, Code.run, FieldShape.readLocals]
          split
          · rw [run_some]
            simp
          · rfl
  | tuple tys =>
      simp only [generateReaderFor, FieldShape.readLocals, run_readComponents, Code.run, map_bind]
      refine bind_congr_of_ok fun input vs rest hvs => ?_
      have hlen := length_of_readAll hvs
      have hone : tys.length ≠ 1 := h
      have htuple : ((List.range tys.length).map tupleName).length ≠ 1 := by simpa using hone
      rw [eval_tuple env _ htuple, ← hlen, map_valueOf_components]
      rfl

end Skrillax

/-
**Which derived readers compile.**

The variables that the code for a field leaves in scope, with their types, and what the code needs in turn:
the argument `reader` has to be visible to whatever is read, and the variables of a condition have to have
the types of the fields they stand for.  What the compiler knows about the variables is true of the values
they have when the code runs.

Main definitions:

* `FieldShape.helpers`, `FieldShape.locals` — the helper variables of a field;
* `fieldOk`, `fieldsOk` — what the code for a field, and for all fields, needs;
* `contextOf` — the variables after the code for all fields;
* `HasType`, `Typed` — the values of a type, and scopes that are as the compiler knows them.

Main results:

* `check_fieldsCode` — **the compiler accepts the code if and only if its needs are met**;
* `accepted_iff` — so for the value that is returned;
* `typed_readLocals` — what the compiler knows about the variables of a field is true.
-/

import Skrillax.DeriveDeserialize

set_option relaxedAutoImplicit false
set_option autoImplicit false

namespace Skrillax

open ByteReader Code

/-! ### The helper variables -/

/-- The names of the helper variables. -/
def FieldShape.helpers : FieldShape → List String
  | .primitive _ => []
  | .string _ => ["bytes", "len"]
  | .array _ => ["bytes"]
  | .collection _ _ => ["items", "size"]
  | .option _ (.when _) => []
  | .option _ _ => ["some"]
  | .tuple tys => (components 0 tys).names

def Inner.usedType : Inner → UsedType
  | .plain ty => .primitive ty
  | .string => .string

def Inner.locals : Inner → Scope String Local
  | .plain _ => []
  | .string => [("bytes", ⟨.used (.collection (.plain (.primitive .u8))), true⟩), ("len", .of .u16)]

/-- The variable of a component, which is moved into the tuple. -/
def componentLocal (env : TypeEnv) (ty : Ty) : Local := ⟨.used (.primitive ty), !(env.serde ty).copy⟩

/-- The helper variables as the code for the field leaves them. -/
def FieldShape.locals (env : TypeEnv) : FieldShape → Scope String Local
  | .primitive _ => []
  | .string .narrow => Inner.string.locals
  | .string .wide => [("bytes", .of (.collection (.plain (.primitive .u16)))), ("len", .of .u16)]
  | .array len => [("bytes", .of (.array len))]
  | .collection inner _ => [("items", ⟨.used (.collection inner), true⟩), ("size", .of .u8)]
  | .option _ (.when _) => []
  | .option _ _ => [("some", .of .u8)]
  | .tuple tys => components 0 (tys.map (componentLocal env))

theorem names_components {α β : Type} (f : α → β) :
    ∀ (as : List α) (i : ℕ), (components i (as.map f)).names = (components i as).names := by
  intro as
  induction as with
  | nil => exact fun _ => rfl
  | cons a as ih =>
      intro i
      rw [List.map_cons, components, components, Scope.names_append, Scope.names_append, ih]
      rfl

theorem FieldShape.names_locals (env : TypeEnv) (shape : FieldShape) :
    (shape.locals env).names = shape.helpers := by
  cases shape with
  | primitive ty => rfl
  | string size => cases size <;> rfl
  | array len => rfl
  | collection inner repr => rfl
  | option inner repr => cases repr <;> rfl
  | tuple tys => exact names_components _ tys 0

/-! ### The needs of the code for a field -/

/-- Something is read for the field. -/
def FieldShape.mentionsReader : FieldShape → Bool
  | .tuple tys => !tys.isEmpty
  | _ => true

/-- The variables of the condition have the types of the fields they stand for. -/
def FieldShape.conditionOk (shape : FieldShape) (locals : Scope String Local) : Bool :=
  match shape with
  | .option _ (.when condition) => condition.operands.all fun c => usable locals c.1 = some (.used c.2)
  | _ => true

/-- The needs of the code for a field are met. -/
def fieldOk (field : Field) (locals : Scope String Local) : Bool :=
  (!field.shape.mentionsReader || readerInScope locals) && field.shape.conditionOk locals

/-- The variables after the code for a field. -/
def declare (env : TypeEnv) (field : Field) (locals : Scope String Local) : Scope String Local :=
  (field.name, .of field.shape.usedType) :: field.shape.locals env ++ locals

theorem check_generateReaderForInner (env : TypeEnv) (ident : String) (inner : Inner)
    (locals : Scope String Local) :
    (generateReaderForInner ident inner).check env locals =
      if readerInScope locals then some ((ident, .of inner.usedType) :: inner.locals ++ locals)
      else none := by
  cases inner with
  | plain ty =>
      simp only [generateReaderForInner, check, checkExpr]
      split <;> rfl
  | string =>
      by_cases h : readerInScope locals = true
      · have hread : ∀ l l' : Local, readerInScope (("bytes", l') :: ("len", l) :: locals) = true := by
          intro l l'
          simpa [readerInScope, List.lookup_cons] using h
        simp [generateReaderForInner, check, checkExpr, h, hread, isCount, usable, List.lookup_cons,
          pushType, innerOf, Scope.leave, markMoved, Inner.usedType, Inner.locals]
      · simp [generateReaderForInner, check, checkExpr, h]

theorem innerOf_usedType (inner : Inner) : innerOf (.used inner.usedType) = some inner := by
  cases inner <;> rfl

theorem usable_cons_self (x : String) (type : LocalType) (locals : Scope String Local) :
    usable ((x, ⟨type, false⟩) :: locals) x = some type := by
  simp [usable]

theorem consumeVar_cons_self (env : TypeEnv) (x : String) (ty : UsedType) (locals : Scope String Local) :
    consumeVar env ((x, .of ty) :: locals) x =
      some (.used ty, (x, ⟨.used ty, !ty.copy env⟩) :: locals) := by
  rw [consumeVar, usable_cons_self]
  simp only [consume, markMoved, Scope.update_cons_self]
  split <;> simp_all

theorem readerInScope_cons {x : String} (h : x ≠ "reader") (l : Local) (locals : Scope String Local) :
    readerInScope ((x, l) :: locals) = readerInScope locals := by
  rw [readerInScope, Scope.lookup_cons_of_ne h.symm, readerInScope]

theorem tupleName_ne_reader (i : ℕ) : tupleName i ≠ "reader" := tupleName_ne (by decide)

theorem check_readComponents (env : TypeEnv) (after : Code) :
    ∀ (tys : List Ty) (i : ℕ) (locals : Scope String Local),
      (readComponents i tys after).check env locals =
        if tys.isEmpty = false → readerInScope locals = true then
          after.check env (components i (tys.map fun ty => .of (.primitive ty)) ++ locals)
        else none := by
  intro tys
  induction tys with
  | nil => simp [readComponents, components]
  | cons ty tys ih =>
      intro i locals
      by_cases h : readerInScope locals = true
      · have hnext : readerInScope ((tupleName i, .of (.primitive ty)) :: locals) = true := by
          rw [readerInScope_cons (tupleName_ne_reader i), h]
        simp only [readComponents, check, checkExpr, h, if_true, Option.bind_eq_bind, Option.bind_some]
        rw [ih, if_pos fun _ => hnext, if_pos fun _ => trivial, List.map_cons, components,
          List.append_assoc, List.singleton_append]
      · simp [readComponents, check, checkExpr, h]

/-- The components are moved into the tuple, one after the other. -/
theorem consumeAll_components (env : TypeEnv) :
    ∀ (tys : List Ty) (i : ℕ) (locals : Scope String Local),
      consumeAll env ((List.range' i tys.length).map tupleName)
          (components i (tys.map fun ty => .of (.primitive ty)) ++ locals) =
        some (tys, components i (tys.map (componentLocal env)) ++ locals) := by
  intro tys
  induction tys with
  | nil => exact fun _ _ => rfl
  | cons ty tys ih =>
      intro i locals
      have hnot : tupleName i ∉ (components (i + 1) (tys.map fun ty => Local.of (.primitive ty))).names := by
        rw [mem_names_components]
        rintro ⟨k, -, heq⟩
        have := tupleName_inj.1 heq
        omega
      have huse : usable (components i ((ty :: tys).map fun ty => .of (.primitive ty)) ++ locals)
          (tupleName i) = some (.used (.primitive ty)) := by
        rw [List.map_cons, components, List.append_assoc, usable, Scope.lookup_append_of_notMem hnot]
        simp
      have hconsume : consume env (components i ((ty :: tys).map fun ty => .of (.primitive ty)) ++ locals)
          (tupleName i) (.primitive ty) =
            components (i + 1) (tys.map fun ty => .of (.primitive ty)) ++
              (tupleName i, componentLocal env ty) :: locals := by
        rw [List.map_cons, components, List.append_assoc, List.singleton_append, consume, componentLocal]
        cases hcopy : (env.serde ty).copy with
        | true => simp [UsedType.copy, hcopy]
        | false =>
            rw [UsedType.copy, hcopy, markMoved, Scope.update_append_of_notMem hnot,
              Scope.update_cons_self]
            simp
      rw [List.length_cons, List.range'_succ, List.map_cons, consumeAll, huse]
      simp only [hconsume, ih, Option.bind_eq_bind, Option.bind_some]
      rw [List.map_cons, components, List.append_assoc, List.singleton_append]
      rfl

theorem checkExpr_tuple (env : TypeEnv) (locals : Scope String Local) {xs : List String}
    (h : xs.length ≠ 1) :
    checkExpr env locals (.tuple xs) =
      (consumeAll env xs locals).map fun (tys, locals) => (.used (.tuple tys), locals) := by
  match xs, h with
  | [], _ => rfl
  | _ :: _ :: _, _ => rfl

/-- The body of the loop that fills a `Vec`, which fixes the type of the vector. -/
theorem check_items (env : TypeEnv) {ident : String} (hident : ident ≠ "items") (inner : Inner)
    {locals : Scope String Local} (h : readerInScope locals = true) :
    ∃ after, ((generateReaderForInner ident inner).append (.push "items" (.var ident) .done)).check env
        (("items", ⟨.emptyVec, false⟩) :: locals) = some after ∧
      Scope.leave (("items", ⟨.emptyVec, false⟩) :: locals) after =
        ("items", .of (.collection inner)) :: locals := by
  have hread : readerInScope (("items", ⟨.emptyVec, false⟩) :: locals) = true := by
    rw [readerInScope_cons (by decide), h]
  have hnew : "items" ∉ Scope.names
      ((ident, (⟨.used inner.usedType, !inner.usedType.copy env⟩ : Local)) :: inner.locals) := by
    cases inner <;> simpa [Inner.locals] using hident.symm
  have huse : usable ((ident, ⟨.used inner.usedType, !inner.usedType.copy env⟩) ::
      (inner.locals ++ ("items", ⟨.emptyVec, false⟩) :: locals)) "items" = some .emptyVec := by
    rw [usable, ← List.cons_append, Scope.lookup_append_of_notMem hnew]
    simp
  have hleave := Scope.leave_update hnew ⟨.emptyVec, false⟩ locals fun _ => .of (.collection inner)
  refine ⟨_, ?_, hleave⟩
  rw [check_append, check_generateReaderForInner, if_pos hread, Option.bind_some, check, checkExpr,
    List.cons_append, consumeVar_cons_self]
  simp [huse, pushType, innerOf_usedType, check]

/-- The two branches of an `Option`. -/
theorem check_bindIf (env : TypeEnv) (ident : String) (condition : Condition) (inner : Inner)
    (locals : Scope String Local) :
    (Code.bindIf ident condition (generateReaderForInner ident inner) ident .done).check env locals =
      if (condition.operands.all fun c => usable locals c.1 = some (.used c.2)) && readerInScope locals then
        some ((ident, .of (.option inner)) :: locals)
      else none := by
  have hleave : ∀ l : Local, Scope.leave locals ((ident, l) :: inner.locals ++ locals) = locals :=
    fun l => Scope.leave_append rfl _
  cases hcond : condition.operands.all fun c => decide (usable locals c.1 = some (.used c.2)) with
  | false => simp only [check, hcond, Bool.false_and, Bool.false_eq_true, if_false]
  | true =>
      cases h : readerInScope locals with
      | false =>
          simp only [check, hcond, check_generateReaderForInner, h]
          rfl
      | true =>
          simp only [check, hcond, check_generateReaderForInner, h, if_true, Option.bind_eq_bind,
            Option.bind_some, List.cons_append, consumeVar_cons_self, innerOf_usedType]
          rw [← List.cons_append, hleave]
          rfl

theorem check_generateReaderFor (env : TypeEnv) {field : Field} (hp : field.Plausible)
    (locals : Scope String Local) :
    (generateReaderFor field).check env locals =
      if fieldOk field locals then some (declare env field locals) else none := by
  obtain ⟨ident, shape⟩ := field
  -- whatever is declared by the code on the way, the argument stays visible
  have hread : ∀ {x : String} {l : Local} {s : Scope String Local}, x ≠ "reader" →
      readerInScope s = true → readerInScope ((x, l) :: s) = true := by
    intro x l s hx hs
    rw [readerInScope_cons hx, hs]
  cases shape with
  | primitive ty =>
      cases h : readerInScope locals <;> simp [generateReaderFor, check, checkExpr, h, fieldOk,
        FieldShape.mentionsReader, FieldShape.conditionOk, declare, FieldShape.locals,
        FieldShape.usedType]
  | string size =>
      cases size with
      | narrow =>
          refine (check_generateReaderForInner env ident .string locals).trans ?_
          cases h : readerInScope locals <;> simp [fieldOk, FieldShape.mentionsReader, h,
            FieldShape.conditionOk, declare, FieldShape.locals, FieldShape.usedType, Inner.usedType]
      | wide =>
          cases h : readerInScope locals with
          | false =>
              simp [generateReaderFor, check, checkExpr, h, fieldOk, FieldShape.mentionsReader]
          | true =>
              have hloop : ∀ l l' : Local,
                  readerInScope (("bytes", l') :: ("len", l) :: locals) = true :=
                fun l l' => hread (by decide) (hread (by decide) h)
              simp [generateReaderFor, check, checkExpr, h, hloop, isCount, usable, List.lookup_cons,
                pushType, innerOf, Scope.leave, fieldOk, FieldShape.mentionsReader,
                FieldShape.conditionOk, declare, FieldShape.locals, FieldShape.usedType]
  | array len =>
      have hbytes : readerInScope (("bytes", .of (.array len)) :: locals) = readerInScope locals :=
        readerInScope_cons (by decide) _ _
      cases h : readerInScope locals with
      | false =>
          rw [h] at hbytes
          simp [generateReaderFor, check, checkExpr, usable_cons_self, hbytes, fieldOk,
            FieldShape.mentionsReader, h]
      | true =>
          rw [h] at hbytes
          simp [generateReaderFor, check, checkExpr, usable_cons_self, hbytes, fieldOk,
            FieldShape.mentionsReader, h, consumeVar_cons_self, UsedType.copy, FieldShape.conditionOk,
            declare, FieldShape.locals, FieldShape.usedType]
  | collection inner repr =>
      cases h : readerInScope locals with
      | false => simp [generateReaderFor, check, checkExpr, h, fieldOk, FieldShape.mentionsReader]
      | true =>
          have hsize : readerInScope (("size", .of .u8) :: locals) = true := hread (by decide) h
          obtain ⟨after, hbody, hleave⟩ := check_items env hp inner hsize
          simp [generateReaderFor, check, checkExpr, h, isCount, usable, List.lookup_cons, hbody, hleave,
            consumeVar_cons_self, UsedType.copy, fieldOk, FieldShape.mentionsReader,
            FieldShape.conditionOk, declare, FieldShape.locals, FieldShape.usedType]
  | option inner repr =>
      cases repr with
      | flag | bare =>
          cases h : readerInScope locals with
          | false => simp [generateReaderFor, check, checkExpr, h, fieldOk, FieldShape.mentionsReader]
          | true =>
              have hsome : readerInScope (("some", .of .u8) :: locals) = true := hread (by decide) h
              have hif := check_bindIf env ident someIsOne inner (("some", .of .u8) :: locals)
              rw [hsome, someIsOne, List.all_cons, usable_cons_self] at hif
              rw [generateReaderFor, check, checkExpr, if_pos h]
              refine hif.trans ?_
              simp [fieldOk, FieldShape.mentionsReader, h, FieldShape.conditionOk, declare,
                FieldShape.locals, FieldShape.usedType]
      | when condition =>
          simp only [generateReaderFor, check_bindIf, fieldOk, FieldShape.mentionsReader,
            FieldShape.conditionOk, Bool.not_true, Bool.false_or, Bool.and_comm]
          rfl
  | tuple tys =>
      have hone : tys.length ≠ 1 := hp
      have htuple : ((List.range tys.length).map tupleName).length ≠ 1 := by simpa using hone
      have hconsume := consumeAll_components env tys 0 locals
      rw [← List.range_eq_range'] at hconsume
      simp only [generateReaderFor, check_readComponents, check, checkExpr_tuple env _ htuple, hconsume]
      simp [fieldOk, FieldShape.mentionsReader, FieldShape.conditionOk, declare, FieldShape.locals,
        FieldShape.usedType]
      have hiff : (¬ tys = [] → readerInScope locals = true) ↔
          (tys = [] ∨ readerInScope locals = true) := by tauto
      simp only [hiff]

/-- A `Vec` of the name `items` hides the vector that is filled, and nothing can be pushed to what hides
it. -/
theorem check_items_hidden (env : TypeEnv) {field : Field} {inner : Inner} {repr : ListRepr}
    (hname : field.name = "items") (hshape : field.shape = .collection inner repr)
    (locals : Scope String Local) : (generateReaderFor field).check env locals = none := by
  obtain ⟨ident, shape⟩ := field
  obtain rfl : ident = "items" := hname
  obtain rfl : shape = .collection inner repr := hshape
  cases h : readerInScope locals with
  | false => simp [generateReaderFor, check, checkExpr, h]
  | true =>
      have hread : readerInScope (("items", ⟨.emptyVec, false⟩) :: ("size", .of .u8) :: locals) = true := by
        rw [readerInScope_cons (by decide), readerInScope_cons (by decide), h]
      have hbody : ((generateReaderForInner "items" inner).append
          (.push "items" (.var "items") .done)).check env
            (("items", ⟨.emptyVec, false⟩) :: ("size", .of .u8) :: locals) = none := by
        rw [check_append, check_generateReaderForInner, if_pos hread, Option.bind_some, check, checkExpr,
          List.cons_append, consumeVar_cons_self]
        cases inner with
        | plain ty =>
            cases hcopy : (env.serde ty).copy <;> simp [usable, Inner.usedType, UsedType.copy, hcopy,
              pushType]
        | string => simp [usable, Inner.usedType, UsedType.copy]
      simp [generateReaderFor, check, checkExpr, h, isCount, usable, List.lookup_cons, hbody]

/-! ### All fields -/

/-- The variables after the code for the fields. -/
def contextOf (env : TypeEnv) : List Field → Scope String Local → Scope String Local
  | [], locals => locals
  | field :: fields, locals => contextOf env fields (declare env field locals)

/-- The needs of the code for the fields are met. -/
def fieldsOk (env : TypeEnv) : List Field → Scope String Local → Bool
  | [], _ => true
  | field :: fields, locals => fieldOk field locals && fieldsOk env fields (declare env field locals)

theorem check_fieldsCode (env : TypeEnv) :
    ∀ {fields : List Field} (_ : ∀ field ∈ fields, field.Plausible) (locals : Scope String Local),
      (fieldsCode fields).check env locals =
        if fieldsOk env fields locals then some (contextOf env fields locals) else none := by
  intro fields
  induction fields with
  | nil => exact fun _ _ => rfl
  | cons field fields ih =>
      intro hp locals
      rw [fieldsCode, check_append, check_generateReaderFor env (hp field List.mem_cons_self)]
      cases hok : fieldOk field locals with
      | false => simp [fieldsOk, hok]
      | true =>
          rw [if_pos rfl, Option.bind_some, ih fun f hf => hp f (List.mem_cons_of_mem _ hf)]
          simp [fieldsOk, hok, contextOf]

/-- A variable that is used by value does not affect the others. -/
theorem usable_consume (env : TypeEnv) (locals : Scope String Local) {x y : String} (h : y ≠ x)
    (ty : UsedType) : usable (consume env locals x ty) y = usable locals y := by
  have hlookup : (markMoved locals x).lookup y = locals.lookup y := by
    unfold markMoved
    induction locals with
    | nil => rfl
    | cons e locals ih =>
        obtain ⟨z, l⟩ := e
        by_cases hz : x = z
        · subst hz
          rw [Scope.update_cons_self, Scope.lookup_cons_of_ne h, Scope.lookup_cons_of_ne h]
        · rw [Scope.update_cons_of_ne hz]
          by_cases hy : y = z
          · subst hy
            simp
          · rw [Scope.lookup_cons_of_ne hy, Scope.lookup_cons_of_ne hy, ih]
  unfold consume
  split
  · rfl
  · rw [usable, hlookup, usable]

theorem checkFields_iff (env : TypeEnv) :
    ∀ {fields : List (String × UsedType)} (_ : (fields.map Prod.fst).Nodup) (locals : Scope String Local),
      checkFields env fields locals = true ↔
        ∀ field ∈ fields, usable locals field.1 = some (.used field.2) := by
  intro fields
  induction fields with
  | nil => simp [checkFields]
  | cons field fields ih =>
      intro hnodup locals
      obtain ⟨x, ty⟩ := field
      obtain ⟨hx, hrest⟩ := List.nodup_cons.1 hnodup
      rw [checkFields, Bool.and_eq_true, decide_eq_true_iff, ih hrest]
      have huse : ∀ field ∈ fields, usable (consume env locals x ty) field.1 = usable locals field.1 :=
        fun field hfield => usable_consume env locals
          (fun heq => hx (List.mem_map.2 ⟨field, hfield, heq⟩)) ty
      rw [List.forall_mem_cons]
      exact and_congr_right fun _ => forall₂_congr fun field hfield => by rw [huse field hfield]

/-- **The compiler accepts the derived reader if and only if** the needs of the code are met, and at the
end of it every field has a variable of its type. -/
theorem accepted_iff (env : TypeEnv) {fields : List Field} (hp : ∀ field ∈ fields, field.Plausible)
    (hnodup : (fields.map Field.name).Nodup) :
    accepted env fields = true ↔ fieldsOk env fields [] = true ∧
      ∀ field ∈ fields, usable (contextOf env fields []) field.name = some (.used field.shape.usedType) := by
  rw [accepted, check_fieldsCode env hp]
  cases fieldsOk env fields [] with
  | false => simp
  | true =>
      have hnames : ((fields.map fun field => (field.name, field.shape.usedType)).map Prod.fst).Nodup := by
        rw [List.map_map]
        exact hnodup
      simp only [if_true, checkFields_iff env hnames, List.forall_mem_map, true_and]

/-! ### Types and values -/

/-- A value that can be read. -/
def Ty.HasType (env : TypeEnv) (ty : Ty) (v : Value) : Prop := ∃ chunk, (env.serde ty).read.Reads chunk v

def Inner.HasType (env : TypeEnv) : Inner → Value → Prop
  | .plain ty, v => ty.HasType env v
  | .string, v => ∃ s, v = .string s

/-- The values of a type. -/
def HasType (env : TypeEnv) : UsedType → Value → Prop
  | .primitive ty, v => ty.HasType env v
  | .string, v => ∃ s, v = .string s
  | .array len, v => ∃ bytes : List UInt8, bytes.length = len ∧ v = .array bytes
  | .collection inner, v => ∃ vs, v = .vec vs ∧ ∀ x ∈ vs, inner.HasType env x
  | .option inner, v => v = .none ∨ ∃ x, v = .some x ∧ inner.HasType env x
  | .tuple tys, v => ∃ vs, v = .tuple vs ∧ List.Forall₂ (Ty.HasType env) tys vs

def Local.HasType (env : TypeEnv) (l : Local) (v : Value) : Prop :=
  match l.type with
  | .used ty => Skrillax.HasType env ty v
  | .emptyVec => True

/-- The variables have the names and the types that the compiler knows. -/
def Typed (env : TypeEnv) (locals : Scope String Local) (scope : Scope String Value) : Prop :=
  List.Forall₂ (fun l v => l.1 = v.1 ∧ l.2.HasType env v.2) locals scope

theorem Typed.append {env : TypeEnv} {locals locals' : Scope String Local} {scope scope' : Scope String Value}
    (h : Typed env locals scope) (h' : Typed env locals' scope') :
    Typed env (locals ++ locals') (scope ++ scope') :=
  List.rel_append h h'

theorem Typed.declare {env : TypeEnv} {locals : Scope String Local} {scope : Scope String Value}
    (h : Typed env locals scope) {field : Field} {v : Value} {new : Scope String Value}
    (hv : HasType env field.shape.usedType v) (hnew : Typed env (field.shape.locals env) new) :
    Typed env (Skrillax.declare env field locals) ((field.name, v) :: new ++ scope) :=
  List.Forall₂.cons ⟨rfl, hv⟩ (hnew.append h)

theorem Typed.names_eq {env : TypeEnv} {locals : Scope String Local} {scope : Scope String Value}
    (h : Typed env locals scope) : locals.names = scope.names := by
  induction h with
  | nil => rfl
  | cons hhead _ ih => simp only [Scope.names, List.map_cons, hhead.1] at ih ⊢; rw [ih]

/-- A variable that the compiler knows has a value of its type. -/
theorem Typed.lookup {env : TypeEnv} {locals : Scope String Local} {scope : Scope String Value}
    (h : Typed env locals scope) {x : String} {l : Local} (hl : locals.lookup x = some l) :
    ∃ v, scope.lookup x = some v ∧ l.HasType env v := by
  induction h with
  | nil => simp at hl
  | @cons l' v' locals scope hhead _ ih =>
      obtain ⟨y, l'⟩ := l'
      obtain ⟨y', v'⟩ := v'
      obtain ⟨rfl, hv⟩ : y = y' ∧ l'.HasType env v' := hhead
      by_cases hxy : x = y
      · subst hxy
        obtain rfl : l' = l := by simpa using hl
        exact ⟨v', by simp, hv⟩
      · rw [Scope.lookup_cons_of_ne hxy] at hl ⊢
        exact ih hl

theorem Typed.usable {env : TypeEnv} {locals : Scope String Local} {scope : Scope String Value}
    (h : Typed env locals scope) {x : String} {ty : UsedType}
    (huse : Code.usable locals x = some (.used ty)) :
    ∃ v, scope.lookup x = some v ∧ HasType env ty v := by
  unfold Code.usable at huse
  split at huse
  · rename_i type hl
    obtain rfl : type = .used ty := by simpa using huse
    exact h.lookup hl
  · simp at huse

theorem hasType_of_read {env : TypeEnv} {ty : Ty} {input : List UInt8} {v : Value} {rest : List UInt8}
    (h : (env.serde ty).read input = .ok (v, rest)) : ty.HasType env v := by
  obtain ⟨chunk, -, hreads⟩ := (env.serde ty).regular _ _ _ h
  exact ⟨chunk, hreads⟩

theorem Inner.hasType_of_read {env : TypeEnv} {inner : Inner} {input : List UInt8} {v : Value}
    {rest : List UInt8} (h : inner.read env input = .ok (v, rest)) : inner.HasType env v := by
  cases inner with
  | plain ty => exact Skrillax.hasType_of_read h
  | string =>
      obtain ⟨len, _, -, h⟩ := bind_eq_ok h
      obtain ⟨bytes, _, -, h⟩ := bind_eq_ok h
      obtain ⟨s, hs, -⟩ := eq_of_stringFromUtf8 h
      exact ⟨s, hs⟩

theorem forall₂_of_readAll {env : TypeEnv} :
    ∀ {tys : List Ty} {input : List UInt8} {vs : List Value} {rest : List UInt8},
      readAll env tys input = .ok (vs, rest) → List.Forall₂ (Ty.HasType env) tys vs := by
  intro tys
  induction tys with
  | nil =>
      intro input vs rest h
      obtain ⟨rfl, -⟩ := pure_eq_ok h
      exact .nil
  | cons ty tys ih =>
      intro input vs rest h
      obtain ⟨v, _, hv, h⟩ := bind_eq_ok h
      obtain ⟨vs', _, hvs, h⟩ := bind_eq_ok h
      obtain ⟨rfl, -⟩ := pure_eq_ok h
      exact .cons (Skrillax.hasType_of_read hv) (ih hvs)

theorem typed_components {env : TypeEnv} {tys : List Ty} {vs : List Value}
    (h : List.Forall₂ (Ty.HasType env) tys vs) :
    ∀ i, Typed env (components i (tys.map (componentLocal env))) (components i vs) := by
  induction h with
  | nil => exact fun _ => .nil
  | cons hv _ ih => exact fun i => (ih (i + 1)).append (.cons ⟨rfl, hv⟩ .nil)

/-- The value and the helper variables of a field have their types. -/
theorem typed_readLocals {env : TypeEnv} {shape : FieldShape} {scope : Scope String Value}
    {input : List UInt8} {v : Value} {locals : Scope String Value} {rest : List UInt8}
    (h : shape.readLocals env scope input = .ok ((v, locals), rest)) :
    HasType env shape.usedType v ∧ Typed env (shape.locals env) locals := by
  have hword : ∀ {p : Primitive} {input : List UInt8} {v : Value} {rest : List UInt8},
      p.read input = .ok (v, rest) → HasType env (.primitive (.primitive p)) v :=
    fun {p} _ _ _ h => (hasType_of_read h : (Ty.primitive p).HasType env _)
  cases shape with
  | primitive ty =>
      obtain ⟨w, _, hw, h⟩ := bind_eq_ok h
      obtain ⟨h, -⟩ := pure_eq_ok h
      obtain ⟨rfl, rfl⟩ := Prod.mk.inj h
      exact ⟨hasType_of_read hw, .nil⟩
  | string size =>
      cases size with
      | narrow =>
          obtain ⟨len, _, hlen, h⟩ := bind_eq_ok h
          obtain ⟨bytes, _, hbytes, h⟩ := bind_eq_ok h
          obtain ⟨s, _, hs, h⟩ := bind_eq_ok h
          obtain ⟨h, -⟩ := pure_eq_ok h
          obtain ⟨rfl, rfl⟩ := Prod.mk.inj h
          obtain ⟨t, rfl, -⟩ := eq_of_stringFromUtf8 hs
          have hall := forall_of_many (fun _ _ _ h => hword h) _ _ _ _ hbytes
          exact ⟨⟨t, rfl⟩, .cons ⟨rfl, bytes, rfl, hall.2⟩ (.cons ⟨rfl, hword hlen⟩ .nil)⟩
      | wide =>
          obtain ⟨len, _, hlen, h⟩ := bind_eq_ok h
          obtain ⟨units, _, hunits, h⟩ := bind_eq_ok h
          obtain ⟨s, _, hs, h⟩ := bind_eq_ok h
          obtain ⟨h, -⟩ := pure_eq_ok h
          obtain ⟨rfl, rfl⟩ := Prod.mk.inj h
          obtain ⟨t, rfl, -⟩ := eq_of_stringFromUtf16 hs
          have hall := forall_of_many (fun _ _ _ h => hword h) _ _ _ _ hunits
          exact ⟨⟨_, rfl⟩,
            .cons ⟨rfl, units, rfl, hall.2⟩ (.cons ⟨rfl, hword hlen⟩ .nil)⟩
  | array len =>
      obtain ⟨bytes, _, hbytes, h⟩ := bind_eq_ok h
      obtain ⟨h, -⟩ := pure_eq_ok h
      obtain ⟨rfl, rfl⟩ := Prod.mk.inj h
      have hlen := length_of_exactly hbytes
      exact ⟨⟨bytes, hlen, rfl⟩, .cons ⟨rfl, bytes, hlen, rfl⟩ .nil⟩
  | collection inner repr =>
      obtain ⟨size, _, hsize, h⟩ := bind_eq_ok h
      obtain ⟨items, _, hitems, h⟩ := bind_eq_ok h
      obtain ⟨h, -⟩ := pure_eq_ok h
      obtain ⟨rfl, rfl⟩ := Prod.mk.inj h
      have hall := forall_of_many (fun _ _ _ h => Inner.hasType_of_read h) _ _ _ _ hitems
      exact ⟨⟨items, rfl, hall.2⟩, .cons ⟨rfl, items, rfl, hall.2⟩ (.cons ⟨rfl, hword hsize⟩ .nil)⟩
  | option inner repr =>
      have hoption : ∀ {c : Prop} [Decidable c] {s : Scope String Value} {input : List UInt8},
          (if c then do let v ← Value.some <$> inner.read env; return (v, s)
            else return (.none, s) : ByteReader SerializationError (Value × Scope String Value)) input =
              .ok ((v, locals), rest) → HasType env (.option inner) v ∧ locals = s := by
        intro c _ s input h
        split at h
        · obtain ⟨w, _, hw, h⟩ := bind_eq_ok h
          obtain ⟨x, hx, rfl⟩ := map_eq_ok hw
          obtain ⟨h, -⟩ := pure_eq_ok h
          obtain ⟨rfl, rfl⟩ := Prod.mk.inj h
          exact ⟨Or.inr ⟨x, rfl, Inner.hasType_of_read hx⟩, rfl⟩
        · obtain ⟨h, -⟩ := pure_eq_ok h
          obtain ⟨rfl, rfl⟩ := Prod.mk.inj h
          exact ⟨Or.inl rfl, rfl⟩
      cases repr with
      | flag | bare =>
          obtain ⟨flag, _, hflag, h⟩ := bind_eq_ok h
          obtain ⟨hv, rfl⟩ := hoption h
          exact ⟨hv, .cons ⟨rfl, hword hflag⟩ .nil⟩
      | when condition =>
          obtain ⟨hv, rfl⟩ := hoption h
          exact ⟨hv, .nil⟩
  | tuple tys =>
      obtain ⟨vs, _, hvs, h⟩ := bind_eq_ok h
      obtain ⟨h, -⟩ := pure_eq_ok h
      obtain ⟨rfl, rfl⟩ := Prod.mk.inj h
      have hall := forall₂_of_readAll hvs
      exact ⟨⟨vs, rfl, hall⟩, typed_components hall 0⟩

end Skrillax

/-
**The language of the derived readers.**

The code that is derived for `Deserialize::read_from` is a sequence of `let` statements, loops and
conditionals.  This module says what such code does, and which code the compiler accepts.  Variables are
resolved by name, the innermost declaration first; a variable that is moved out of must not be used again;
and a variable of the name `reader` hides the argument of that name, from which everything is read.

Main definitions:

* `Ty`, `UsedType` — the types that are named in a declaration, as the macro sees them;
* `Expr`, `Code` — the expressions and the statements;
* `Code.run` — what the code does;
* `Code.check`, `checkFields` — name resolution, types and moves.

Main results:

* `Code.run_append`, `Code.check_append` — code that is put together;
* `Code.regular_run` — the code depends on what it has read only.
-/

import Skrillax.Scope
import Skrillax.Serialization

set_option relaxedAutoImplicit false
set_option autoImplicit false

namespace Skrillax

/-! ### Types -/

/-- A type that implements `Serialize` and `Deserialize`. -/
inductive Ty where
  | primitive (p : Primitive)
  | named (index : ℕ)
  deriving DecidableEq, Repr

/-- The implementations for the types that are not primitive. -/
abbrev TypeEnv := ℕ → SerdeType

def TypeEnv.serde (env : TypeEnv) : Ty → SerdeType
  | .primitive p => p.serdeType
  | .named index => env index

/-- What a `Vec` or an `Option` may hold; the generators refuse the rest. -/
inductive Inner where
  | plain (ty : Ty)
  | string
  deriving DecidableEq, Repr

/-- The type of a field, as `get_type_of` sees it. -/
inductive UsedType where
  | primitive (ty : Ty)
  | string
  | array (len : ℕ)
  | collection (inner : Inner)
  | option (inner : Inner)
  | tuple (inner : List Ty)
  deriving DecidableEq, Repr

abbrev UsedType.u8 : UsedType := .primitive (.primitive .u8)

abbrev UsedType.u16 : UsedType := .primitive (.primitive .u16)

def Inner.copy (env : TypeEnv) : Inner → Bool
  | .plain ty => (env.serde ty).copy
  | .string => false

def UsedType.copy (env : TypeEnv) : UsedType → Bool
  | .primitive ty => (env.serde ty).copy
  | .string => false
  | .array _ => true
  | .collection _ => false
  | .option inner => inner.copy env
  | .tuple inner => inner.all fun ty => (env.serde ty).copy

/-! ### Syntax -/

/-- The condition of an `if`: an expression over variables of the given types. -/
structure Condition where
  operands : List (String × UsedType)
  holds : List Value → Bool

/-- The expressions; `read_from` and `from_utf8` return early with the error of the call. -/
inductive Expr where
  /-- `T::read_from(reader)?` -/
  | readFrom (ty : Ty)
  /-- `Vec::with_capacity(x.into())` -/
  | withCapacity (x : String)
  /-- `[0u8; len]` -/
  | zeros (len : ℕ)
  /-- `String::from_utf8(x)?` -/
  | fromUtf8 (x : String)
  /-- `String::from_utf16(&x)?` -/
  | fromUtf16 (x : String)
  | var (x : String)
  /-- `(x, y, ..)`, which is not a tuple if there is only one. -/
  | tuple (xs : List String)

/-- The statements of a block, one after the other. -/
inductive Code where
  | done
  /-- `let x = e;` -/
  | bind (x : String) (e : Expr) (rest : Code)
  /-- `x.push(e);` -/
  | push (x : String) (e : Expr) (rest : Code)
  /-- `reader.read_exact(&mut x)?;` -/
  | readExact (x : String) (rest : Code)
  /-- `for _ in 0..x { body }` -/
  | forRange (x : String) (body : Code) (rest : Code)
  /-- `let x = if condition { body Some(y) } else { None };` -/
  | bindIf (x : String) (condition : Condition) (body : Code) (y : String) (rest : Code)

/-- Statements, and the statements after them. -/
def Code.append : Code → Code → Code
  | .done, after => after
  | .bind x e rest, after => .bind x e (rest.append after)
  | .push x e rest, after => .push x e (rest.append after)
  | .readExact x rest, after => .readExact x (rest.append after)
  | .forRange x body rest, after => .forRange x body (rest.append after)
  | .bindIf x condition body y rest, after => .bindIf x condition body y (rest.append after)

/-! ### Execution -/

/-- The value of a variable. -/
def valueOf (scope : Scope String Value) (x : String) : Value := (scope.lookup x).getD .none

def Condition.eval (condition : Condition) (scope : Scope String Value) : Bool :=
  condition.holds (condition.operands.map fun x => valueOf scope x.1)

def Expr.eval (env : TypeEnv) (scope : Scope String Value) : Expr → ByteReader SerializationError Value
  | .readFrom ty => (env.serde ty).read
  | .withCapacity _ => pure (.vec [])
  | .zeros len => pure (.array (List.replicate len 0))
  | .fromUtf8 x => stringFromUtf8 ((valueOf scope x).items.map Value.toByte)
  | .fromUtf16 x => stringFromUtf16 ((valueOf scope x).items.map Value.toNat)
  | .var x => pure (valueOf scope x)
  | .tuple [x] => pure (valueOf scope x)
  | .tuple xs => pure (.tuple (xs.map (valueOf scope)))

/-- The length of the array that is read into. -/
def Value.arrayLen : Value → ℕ
  | .array bytes => bytes.length
  | _ => 0

/-- Runs the statements in a scope, and returns the scope at their end. -/
def Code.run (env : TypeEnv) :
    Code → Scope String Value → ByteReader SerializationError (Scope String Value)
  | .done, scope => pure scope
  | .bind x e rest, scope => do
      let v ← e.eval env scope
      rest.run env ((x, v) :: scope)
  | .push x e rest, scope => do
      let v ← e.eval env scope
      rest.run env (scope.update x fun items => .vec (items.items ++ [v]))
  | .readExact x rest, scope => do
      let bytes ← ByteReader.exactly .ioError (valueOf scope x).arrayLen
      rest.run env (scope.update x fun _ => .array bytes)
  | .forRange x body rest, scope => do
      let scope ← ByteReader.iterate
        (fun outer => do
          let inner ← body.run env outer
          return outer.leave inner)
        (valueOf scope x).toNat scope
      rest.run env scope
  | .bindIf x condition body y rest, scope =>
      if condition.eval scope then do
        let inner ← body.run env scope
        rest.run env ((x, .some (valueOf inner y)) :: scope.leave inner)
      else rest.run env ((x, .none) :: scope)

/-! ### Checking -/

/-- The type of a local variable; nothing has been pushed to the vector yet if its type is not known. -/
inductive LocalType where
  | used (ty : UsedType)
  | emptyVec
  deriving DecidableEq, Repr

structure Local where
  type : LocalType
  moved : Bool
  deriving DecidableEq, Repr

abbrev Local.of (ty : UsedType) : Local := ⟨.used ty, false⟩

namespace Code

/-- The type of a variable that has not been moved out of. -/
def usable (locals : Scope String Local) (x : String) : Option LocalType :=
  match locals.lookup x with
  | some ⟨type, false⟩ => some type
  | _ => none

/-- The name `reader` stands for the argument of the function. -/
def readerInScope (locals : Scope String Local) : Bool := (locals.lookup "reader").isNone

def markMoved (locals : Scope String Local) (x : String) : Scope String Local :=
  locals.update x fun l => { l with moved := true }

/-- A variable that is used by value is moved, unless its type is `Copy`. -/
def consume (env : TypeEnv) (locals : Scope String Local) (x : String) (ty : UsedType) :
    Scope String Local :=
  if ty.copy env then locals else markMoved locals x

/-- The variables of a tuple, one after the other. -/
def consumeAll (env : TypeEnv) : List String → Scope String Local → Option (List Ty × Scope String Local)
  | [], locals => some ([], locals)
  | x :: xs, locals =>
      match usable locals x with
      | some (.used (.primitive ty)) => do
          let (tys, locals) ← consumeAll env xs (consume env locals x (.primitive ty))
          return (ty :: tys, locals)
      | _ => none

def consumeVar (env : TypeEnv) (locals : Scope String Local) (x : String) :
    Option (LocalType × Scope String Local) :=
  match usable locals x with
  | some (.used ty) => some (.used ty, consume env locals x ty)
  | _ => none

/-- The integers that are used as a capacity or the end of a range. -/
def isCount (locals : Scope String Local) (x : String) : Bool :=
  usable locals x = some (.used .u8) || usable locals x = some (.used .u16)

/-- What a `Vec` or an `Option` holds if it holds values of the given type. -/
def innerOf : LocalType → Option Inner
  | .used (.primitive ty) => some (.plain ty)
  | .used .string => some .string
  | _ => none

/-- The type of the expression, and the variables after its evaluation. -/
def checkExpr (env : TypeEnv) (locals : Scope String Local) :
    Expr → Option (LocalType × Scope String Local)
  | .readFrom ty => if readerInScope locals then some (.used (.primitive ty), locals) else none
  | .withCapacity x => if isCount locals x then some (.emptyVec, locals) else none
  | .zeros len => some (.used (.array len), locals)
  | .fromUtf8 x =>
      if usable locals x = some (.used (.collection (.plain (.primitive .u8)))) then
        some (.used .string, markMoved locals x)
      else none
  | .fromUtf16 x =>
      if usable locals x = some (.used (.collection (.plain (.primitive .u16)))) then
        some (.used .string, locals)
      else none
  | .var x => consumeVar env locals x
  | .tuple [x] => consumeVar env locals x
  | .tuple xs => (consumeAll env xs locals).map fun (tys, locals) => (.used (.tuple tys), locals)

/-- The type of a vector after something of the given type has been pushed to it. -/
def pushType : LocalType → LocalType → Option LocalType
  | .emptyVec, type => (innerOf type).map fun inner => .used (.collection inner)
  | .used (.collection inner), type =>
      if innerOf type = some inner then some (.used (.collection inner)) else none
  | _, _ => none

/-- The variables in scope after the statements, if the compiler accepts them. -/
def check (env : TypeEnv) : Code → Scope String Local → Option (Scope String Local)
  | .done, locals => some locals
  | .bind x e rest, locals => do
      let (type, locals) ← checkExpr env locals e
      rest.check env ((x, ⟨type, false⟩) :: locals)
  | .push x e rest, locals => do
      let (type, locals) ← checkExpr env locals e
      let vec ← usable locals x
      let vec ← pushType vec type
      rest.check env (locals.update x fun _ => ⟨vec, false⟩)
  | .readExact x rest, locals =>
      match usable locals x with
      | some (.used (.array _)) => if readerInScope locals then rest.check env locals else none
      | _ => none
  | .forRange x body rest, locals =>
      if isCount locals x then do
        let inner ← body.check env locals
        rest.check env (locals.leave inner)
      else none
  | .bindIf x condition body y rest, locals =>
      if condition.operands.all fun c => usable locals c.1 = some (.used c.2) then do
        let inner ← body.check env locals
        let (type, inner) ← consumeVar env inner y
        let content ← innerOf type
        rest.check env ((x, .of (.option content)) :: locals.leave inner)
      else none

end Code

/-- The fields of the value that is returned: `Ok(T { x, y, .. })`. -/
def checkFields (env : TypeEnv) : List (String × UsedType) → Scope String Local → Bool
  | [], _ => true
  | (x, ty) :: fields, locals =>
      Code.usable locals x = some (.used ty) && checkFields env fields (Code.consume env locals x ty)

/-! ### Code that is put together -/

namespace Code

theorem run_append (env : TypeEnv) (code after : Code) :
    ∀ scope, (code.append after).run env scope = code.run env scope >>= after.run env := by
  induction code with
  | done => exact fun scope => (pure_bind scope _).symm
  | bind x e rest ih =>
      intro scope
      simp only [append, run, ih, bind_assoc]
  | push x e rest ih =>
      intro scope
      simp only [append, run, ih, bind_assoc]
  | readExact x rest ih =>
      intro scope
      simp only [append, run, ih, bind_assoc]
  | forRange x body rest _ ih =>
      intro scope
      simp only [append, run, ih, bind_assoc]
  | bindIf x condition body y rest _ ih =>
      intro scope
      simp only [append, run, ih]
      split
      · rw [bind_assoc]
      · rfl

theorem check_append (env : TypeEnv) (code after : Code) :
    ∀ locals, (code.append after).check env locals = (code.check env locals).bind (after.check env) := by
  induction code with
  | done => exact fun _ => rfl
  | bind x e rest ih =>
      intro locals
      simp only [append, check, ih, Option.bind_eq_bind, Option.bind_assoc]
  | push x e rest ih =>
      intro locals
      simp only [append, check, ih, Option.bind_eq_bind, Option.bind_assoc]
  | readExact x rest ih =>
      intro locals
      simp only [append, check, ih]
      split
      · split <;> rfl
      · rfl
  | forRange x body rest _ ih =>
      intro locals
      simp only [append, check, ih, Option.bind_eq_bind]
      split
      · rw [Option.bind_assoc]
      · rfl
  | bindIf x condition body y rest _ ih =>
      intro locals
      simp only [append, check, ih, Option.bind_eq_bind]
      split
      · simp only [Option.bind_assoc]
      · rfl

/-! ### Regularity -/

theorem regular_eval (env : TypeEnv) (scope : Scope String Value) (e : Expr) :
    (e.eval env scope).Regular := by
  unfold Expr.eval
  split
  · exact (env.serde _).regular
  · exact .pure _
  · exact .pure _
  · exact regular_stringFromUtf8 _
  · exact regular_stringFromUtf16 _
  · exact .pure _
  · exact .pure _
  · exact .pure _

/-- The code depends on what it has read only. -/
theorem regular_run (env : TypeEnv) (code : Code) : ∀ scope, (code.run env scope).Regular := by
  induction code with
  | done => exact fun scope => .pure scope
  | bind x e rest ih => exact fun scope => (regular_eval env scope e).bind fun v => ih _
  | push x e rest ih => exact fun scope => (regular_eval env scope e).bind fun v => ih _
  | readExact x rest ih => exact fun scope => (ByteReader.Regular.exactly _ _).bind fun bytes => ih _
  | forRange x body rest ihbody ih =>
      intro scope
      refine (ByteReader.Regular.iterate (fun outer => ?_) _ _).bind fun _ => ih _
      exact (ihbody outer).bind fun inner => .pure _
  | bindIf x condition body y rest ihbody ih =>
      intro scope
      unfold run
      split
      · exact (ihbody scope).bind fun inner => ih _
      · exact ih _

end Code

end Skrillax

/-
**Derived deserialization undoes derived serialization.**

Types are declared one after the other, each over the primitive types and the types declared before it.
Both derives are applied to each, and what they implement is available to the declarations after it.  This
module says for which declarations everything that is written is read back.

Main definitions:

* `Decl.serdeType`, `implementAll` — the implementations for one declaration, and for all of them;
* `Decl.InClass` — default attributes, names that differ from the helper variables of strings, arrays,
  lists and options, and tuples in structs with named fields only;
* `CleanFields`, `Decl.Clean` — no field is captured, and the names `reader` and `writer` are not in the way.

Main results:

* `Decl.roundTrips_of_clean` — a clean declaration is read back;
* `Decl.clean_of_roundTrips` — a declaration that is read back is clean;
* `roundTrips_iff` — **when derived deserialization undoes derived serialization**.
-/

import Skrillax.DeriveSerialize

set_option relaxedAutoImplicit false
set_option autoImplicit false

namespace Skrillax

open ByteReader Code

/-! ### The readers are regular, and accept something -/

theorem regular_runFields (env : TypeEnv) (fields : List Field) : (runFields env fields).Regular :=
  (regular_run env _ _).bind fun _ => .pure _

theorem Decl.regular_read (env : TypeEnv) (decl : Decl) : (decl.read env).Regular := by
  unfold Decl.read
  split
  · exact (regular_runFields env _).map _
  · refine (Primitive.regular_readWord _).bind fun tag => ?_
    split
    · exact (regular_runFields env _).map _
    · exact .fail _

theorem Inner.regular_read (env : TypeEnv) (inner : Inner) : (inner.read env).Regular := by
  cases inner with
  | plain ty => exact (env.serde ty).regular
  | string =>
      exact (Primitive.regular_read _).bind fun len =>
        ((Primitive.regular_read _).many _).bind fun bytes => regular_stringFromUtf8 _

theorem regular_readAll (env : TypeEnv) (tys : List Ty) : (readAll env tys).Regular := by
  induction tys with
  | nil => exact .pure []
  | cons ty tys ih => exact (env.serde ty).regular.bind fun v => ih.bind fun vs => .pure _

theorem FieldShape.regular_readLocals (env : TypeEnv) (scope : Scope String Value) (shape : FieldShape) :
    (shape.readLocals env scope).Regular := by
  cases shape with
  | primitive ty => exact (env.serde ty).regular.bind fun v => .pure _
  | string size =>
      cases size with
      | narrow =>
          exact (Primitive.regular_read _).bind fun len =>
            ((Primitive.regular_read _).many _).bind fun bytes =>
              (regular_stringFromUtf8 _).bind fun v => .pure _
      | wide =>
          exact (Primitive.regular_read _).bind fun len =>
            ((Primitive.regular_read _).many _).bind fun units =>
              (regular_stringFromUtf16 _).bind fun v => .pure _
  | array len => exact (Regular.exactly _ _).bind fun bytes => .pure _
  | collection inner repr =>
      exact (Primitive.regular_read _).bind fun size =>
        ((inner.regular_read env).many _).bind fun items => .pure _
  | option inner repr =>
      have hsome := (inner.regular_read env).map Value.some
      cases repr with
      | flag | bare =>
          refine (Primitive.regular_read _).bind fun flag => ?_
          split
          · exact hsome.bind fun v => .pure _
          · exact .pure _
      | when condition =>
          simp only [FieldShape.readLocals]
          split
          · exact hsome.bind fun v => .pure _
          · exact .pure _
  | tuple tys => exact (regular_readAll env tys).bind fun vs => .pure _

/-- Whether fields are captured or not, there is something to read. -/
theorem exists_reads_fieldsCode {env : TypeEnv} :
    ∀ {fields : List Field} (_ : ∀ field ∈ fields, field.Plausible) (scope : Scope String Value),
      ∃ chunk scope', ((fieldsCode fields).run env scope).Reads chunk scope' := by
  intro fields
  induction fields with
  | nil => exact fun _ scope => ⟨[], scope, Reads.pure scope⟩
  | cons field fields ih =>
      intro hp scope
      obtain ⟨chunk, v, hv⟩ := field.shape.exists_reads env scope
      rw [FieldShape.read_eq] at hv
      obtain ⟨p, hlocals, -⟩ := (field.shape.regular_readLocals env scope).reads_of_map hv
      obtain ⟨chunk', scope', hrest⟩ := ih (fun f hf => hp f (List.mem_cons_of_mem _ hf))
        ((field.name, p.1) :: p.2 ++ scope)
      refine ⟨chunk ++ chunk', scope', ?_⟩
      rw [fieldsCode, run_append, run_generateReaderFor env (hp field List.mem_cons_self)]
      exact (hlocals.map _).bind hrest

theorem exists_reads_runFields {env : TypeEnv} {fields : List Field}
    (htuples : ∀ field ∈ fields, ∀ tys, field.shape = .tuple tys → tys.length ≠ 1)
    (h : accepted env fields = true) : ∃ chunk vs, (runFields env fields).Reads chunk vs := by
  obtain ⟨chunk, scope, hreads⟩ := exists_reads_fieldsCode (plausible_of_accepted htuples h) []
  exact ⟨_, _, hreads.bind (Reads.pure _)⟩

/-! ### Implementations -/

/-- Parentheses in place of a tuple cannot be written. -/
theorem tuples_of_all_writesFrom {fields : List Field}
    (h : fields.all (fun field => field.shape.writesFrom field.shape.usedType) = true) :
    ∀ field ∈ fields, ∀ tys, field.shape = .tuple tys → tys.length ≠ 1 := by
  intro field hfield tys hshape
  have hwrites := List.all_eq_true.1 h field hfield
  rw [hshape] at hwrites
  simp [FieldShape.writesFrom] at hwrites
  exact hwrites.1

theorem tuples_of_boundAccepted :
    ∀ {fields : List Field} {scope : Scope String UsedType}, boundAccepted fields scope = true →
      ∀ field ∈ fields, ∀ tys, field.shape = .tuple tys → tys.length ≠ 1 := by
  intro fields
  induction fields with
  | nil => simp
  | cons f fields ih =>
      intro scope h field hfield tys hshape
      obtain ⟨hhead, htail⟩ := Bool.and_eq_true_iff.1 h
      rcases List.mem_cons.1 hfield with rfl | hfield
      · split at hhead
        · rw [hshape] at hhead
          simp [FieldShape.writesFrom] at hhead
          exact hhead.1
        · simp at hhead
      · exact ih htail field hfield tys hshape

/-- The tag of a variant, and its fields. -/
theorem reads_enum {env : TypeEnv} {decl : Decl} {size : Width} {variants : List Variant}
    (hdata : decl.data = .enum size variants) {value index : ℕ} {fields : Fields}
    (hvalue : value < 256 ^ size.bytes) (hfind : findVariant value variants 0 = some (index, fields))
    {chunk : List UInt8} {vs : List Value} (h : (runFields env fields.toList).Reads chunk vs) :
    (decl.read env).Reads (LittleEndian.encode size.bytes value ++ chunk) (.variant index vs) := by
  have htoNat : (BitVec.ofNat (8 * size.bytes) value).toNat = value := by
    rw [BitVec.toNat_ofNat, Nat.pow_mul]
    exact Nat.mod_eq_of_lt hvalue
  have htag := Primitive.reads_readWord size.bytes (BitVec.ofNat (8 * size.bytes) value)
  rw [htoNat] at htag
  unfold Decl.read
  rw [hdata]
  refine htag.bind ?_
  rw [htoNat, hfind]
  exact h.map (Value.variant index)

theorem Decl.readable_of_compiles {env : TypeEnv} {decl : Decl} (h : decl.compiles env = true) :
    ∃ chunk v, (decl.read env).Reads chunk v := by
  obtain ⟨hread, hwrite⟩ := Bool.and_eq_true_iff.1 h
  obtain ⟨name, copy, data⟩ := decl
  cases data with
  | struct fields =>
      obtain ⟨chunk, vs, hreads⟩ := exists_reads_runFields (tuples_of_all_writesFrom hwrite) hread
      exact ⟨chunk, _, hreads.map Value.struct⟩
  | enum size variants =>
      cases variants with
      | nil => simp [Decl.accepted] at hread
      | cons variant variants =>
          -- the first variant
          simp only [Decl.accepted, List.isEmpty_cons, Bool.not_false, Bool.true_and, List.all_cons,
            Bool.and_eq_true, decide_eq_true_eq] at hread
          simp only [Decl.writeAccepted, List.isEmpty_cons, Bool.not_false, Bool.true_and, List.all_cons,
            Bool.and_eq_true, decide_eq_true_eq, variantAccepted] at hwrite
          obtain ⟨⟨hvalue, hacc⟩, -⟩ := hread
          obtain ⟨⟨-, hbound, -⟩, -⟩ := hwrite
          obtain ⟨chunk, vs, hreads⟩ := exists_reads_runFields (tuples_of_boundAccepted hbound) hacc
          have hfind : findVariant variant.value (variant :: variants) 0 = some (0, variant.fields) :=
            if_pos rfl
          exact ⟨_, _, reads_enum rfl hvalue hfind hreads⟩

/-- What the derives implement. -/
def Decl.serdeType (env : TypeEnv) (decl : Decl) (h : decl.compiles env = true) : SerdeType where
  copy := decl.copy
  read := decl.read env
  write := decl.write env
  Valid := decl.Valid env
  regular := decl.regular_read env
  readable := decl.readable_of_compiles h

/-- The types that are declared, by their index.  Only declared types are ever asked for. -/
def TypeEnv.ofList (types : List SerdeType) : TypeEnv := fun index =>
  types.getD index Primitive.u8.serdeType

/-- The declarations one after the other; a single one that does not compile is enough for none to. -/
def implementAll : List SerdeType → List Decl → Option (List SerdeType)
  | types, [] => some types
  | types, decl :: decls =>
      if h : decl.compiles (.ofList types) = true then
        implementAll (types ++ [decl.serdeType (.ofList types) h]) decls
      else none

/-! ### The class of declarations -/

/-- A type that has been declared before. -/
def Ty.below (count : ℕ) : Ty → Prop
  | .primitive _ => True
  | .named index => index < count

/-- The names of the helper variables of strings, arrays, lists and options. -/
def helperNames : List String := ["len", "bytes", "size", "items", "some"]

/-- Fields with default attributes, over the first types, and with names that differ from those of the
helper variables. -/
structure FieldsInClass (count : ℕ) (fields : List Field) : Prop where
  nodup : (fields.map Field.name).Nodup
  names : ∀ field ∈ fields, field.name ∉ helperNames
  standard : ∀ field ∈ fields, field.shape.standard = true
  below : ∀ field ∈ fields, ∀ ty ∈ field.shape.tys, ty.below count
  tuples : ∀ field ∈ fields, ∀ tys, field.shape = .tuple tys → ∀ ty ∈ tys, ∃ p, ty = .primitive p
  conditions : ∀ before field later, fields = before ++ field :: later →
    ∀ inner condition, field.shape = .option inner (.when condition) →
      ∀ c ∈ condition.operands, ∃ g ∈ before, g.name = c.1 ∧ g.shape.usedType = c.2

/-- Tuples are in structs with named fields only, and the tags of an enum are different and in range. -/
def Decl.InClass (count : ℕ) (decl : Decl) : Prop :=
  match decl.data with
  | .struct (.named fields) => FieldsInClass count fields
  | .struct fields => FieldsInClass count fields.toList ∧ NoTuples fields.toList
  | .enum size variants => (variants.map Variant.value).Nodup ∧
      ∀ variant ∈ variants, variant.value < 256 ^ size.bytes ∧
        FieldsInClass count variant.fields.toList ∧ NoTuples variant.fields.toList

/-- Every declaration is over the ones before it. -/
def AllInClass : ℕ → List Decl → Prop
  | _, [] => True
  | count, decl :: decls => decl.InClass count ∧ AllInClass (count + 1) decls

/-! ### Clean declarations -/

/-- No field is captured, nothing is read after a field of the name `reader`, and there are no parentheses in
place of a tuple. -/
structure CleanFields (fields : List Field) : Prop where
  captured : ∀ before field later, fields = before ++ field :: later → ¬ Captured field later
  reader : ∀ before field later, fields = before ++ field :: later → field.name = "reader" →
    ∀ g ∈ later, g.shape.mentionsReader = false
  tuples : ∀ field ∈ fields, ∀ tys, field.shape = .tuple tys → tys.length ≠ 1

/-- The variants of an enum have no field of the name `writer`. -/
def Decl.Clean (decl : Decl) : Prop :=
  match decl.data with
  | .struct fields => CleanFields fields.toList
  | .enum _ variants => variants ≠ [] ∧ ∀ variant ∈ variants,
      CleanFields variant.fields.toList ∧ ∀ field ∈ variant.fields.toList, field.name ≠ "writer"

/-- Fields whose names are those of no helper variables, and of none of the parameters, are clean. -/
theorem cleanFields_of_names {fields : List Field}
    (h : ∀ field ∈ fields, ∀ g ∈ fields, field.name ∉ g.shape.helpers)
    (hreader : ∀ field ∈ fields, field.name ≠ "reader")
    (htuples : ∀ field ∈ fields, ∀ tys, field.shape = .tuple tys → tys.length ≠ 1) :
    CleanFields fields where
  captured := by
    rintro before field later rfl ⟨g, hg, hhelper⟩
    exact h field (by simp) g (by simp [hg]) hhelper
  reader := by
    rintro before field later rfl hname
    exact absurd hname (hreader field (by simp))
  tuples := htuples

/-! ### Clean fields compile -/

/-- A field that is not captured keeps its variable. -/
theorem lookup_contextOf (env : TypeEnv) {before later : List Field} {field : Field}
    (hnodup : ((before ++ field :: later).map Field.name).Nodup) (h : ¬ Captured field later)
    (locals : Scope String Local) :
    (contextOf env (before ++ field :: later) locals).lookup field.name =
      some (.of field.shape.usedType) := by
  have hsplit : before ++ field :: later = (before ++ [field]) ++ later := by simp
  obtain ⟨new, hnew, hnames⟩ := exists_contextOf_eq env later (declare env field (contextOf env before locals))
  have hnot : field.name ∉ new.names := fun hx =>
    not_declares (hsplit ▸ hnodup) (by simp) h (hnames _ hx)
  rw [contextOf_append, contextOf, hnew, Scope.lookup_append_of_notMem hnot, declare]
  simp

theorem usable_of_lookup {locals : Scope String Local} {x : String} {ty : UsedType}
    (h : locals.lookup x = some (.of ty)) : usable locals x = some (.used ty) := by
  rw [usable, h]

theorem helpers_subset (shape : FieldShape) (htuple : ∀ tys, shape ≠ .tuple tys) :
    ∀ x ∈ shape.helpers, x ∈ helperNames := by
  cases shape with
  | option inner repr => cases repr <;> simp [FieldShape.helpers, helperNames]
  | tuple tys => exact absurd rfl (htuple tys)
  | _ => simp [FieldShape.helpers, helperNames]

theorem reader_notMem_helpers (shape : FieldShape) : "reader" ∉ shape.helpers := by
  intro h
  cases shape with
  | tuple tys =>
      obtain ⟨k, -, heq⟩ := (mem_names_components tys 0).1 h
      exact tupleName_ne_reader _ heq.symm
  | option inner repr => cases repr <;> simp [FieldShape.helpers] at h
  | _ => simp [FieldShape.helpers] at h

/-- The argument is visible as long as no field has its name. -/
theorem readerInScope_contextOf {env : TypeEnv} {fields : List Field}
    (h : ∀ field ∈ fields, field.name ≠ "reader") : readerInScope (contextOf env fields []) = true := by
  obtain ⟨new, hnew, hnames⟩ := exists_contextOf_eq env fields []
  have hnot : "reader" ∉ new.names := by
    intro hx
    obtain ⟨field, hfield, hname | hhelper⟩ := hnames _ hx
    · exact h field hfield hname.symm
    · exact reader_notMem_helpers _ hhelper
  rw [hnew, List.append_nil, readerInScope, Scope.lookup_eq_none.2 hnot]
  rfl

theorem CleanFields.fieldsOk {env : TypeEnv} {fields : List Field} (h : CleanFields fields)
    (hwf : WellFormed fields) :
    ∀ later before, fields = before ++ later →
      Skrillax.fieldsOk env later (contextOf env before []) = true := by
  intro later
  induction later with
  | nil => exact fun _ _ => rfl
  | cons field later ih =>
      intro before hfields
      have hnext : contextOf env (before ++ [field]) [] = declare env field (contextOf env before []) := by
        rw [contextOf_append]
        rfl
      have hrest := ih (before ++ [field]) (by rw [hfields]; simp)
      rw [hnext] at hrest
      -- the argument is visible where something is read
      have hreader : (!field.shape.mentionsReader || readerInScope (contextOf env before [])) = true := by
        cases hmentions : field.shape.mentionsReader with
        | false => rfl
        | true =>
            have hnames : ∀ g ∈ before, g.name ≠ "reader" := by
              intro g hg hname
              obtain ⟨front, back, rfl⟩ := List.append_of_mem hg
              have hquiet := h.reader front g (back ++ field :: later) (by rw [hfields]; simp) hname
                field (by simp)
              rw [hmentions] at hquiet
              simp at hquiet
            rw [readerInScope_contextOf hnames]
            rfl
      -- the fields of a condition have their own variables
      have hcondition : field.shape.conditionOk (contextOf env before []) = true := by
        unfold FieldShape.conditionOk
        split
        · rename_i inner condition hshape
          rw [List.all_eq_true]
          intro c hc
          obtain ⟨g, hg, hname, htype⟩ := hwf.conditions before field later hfields inner condition hshape c hc
          obtain ⟨front, back, rfl⟩ := List.append_of_mem hg
          have hnodup := hwf.nodup
          rw [hfields, List.map_append, List.nodup_append] at hnodup
          have hcaptured : ¬ Captured g back := by
            rintro ⟨f, hf, hhelper⟩
            exact h.captured front g (back ++ field :: later) (by rw [hfields]; simp)
              ⟨f, by simp [hf], hhelper⟩
          have huse := usable_of_lookup (lookup_contextOf env hnodup.1 hcaptured [])
          rw [hname, htype] at huse
          exact decide_eq_true huse
        · rfl
      rw [Skrillax.fieldsOk, fieldOk, hreader, hcondition, hrest]
      rfl

theorem CleanFields.noCapture (env : TypeEnv) {fields : List Field} (h : CleanFields fields)
    (hwf : WellFormed fields) (hp : ∀ field ∈ fields, field.Plausible) : NoCapture env fields where
  accepted := by
    refine (accepted_iff env hp hwf.nodup).2 ⟨h.fieldsOk hwf fields [] rfl, fun field hfield => ?_⟩
    obtain ⟨before, later, rfl⟩ := List.append_of_mem hfield
    exact usable_of_lookup (lookup_contextOf env hwf.nodup (h.captured before field later rfl) [])
  single := fun before field later hfields hcaptured =>
    absurd hcaptured (h.captured before field later hfields)

/-! ### Clean declarations are read back -/

namespace FieldsInClass

variable {count : ℕ} {fields : List Field}

theorem wellFormed (h : FieldsInClass count fields) (hclean : CleanFields fields) : WellFormed fields :=
  ⟨h.nodup, hclean.tuples, h.conditions⟩

theorem plausible_fields (h : FieldsInClass count fields) (hclean : CleanFields fields) :
    ∀ field ∈ fields, field.Plausible := by
  intro field hfield
  unfold Field.Plausible
  split
  · rintro hname
    exact h.names field hfield (by simp [hname, helperNames])
  · rename_i hshape
    exact hclean.tuples field hfield _ hshape
  · trivial

theorem accepted (h : FieldsInClass count fields) (hclean : CleanFields fields) (env : TypeEnv) :
    accepted env fields = true :=
  (hclean.noCapture env (h.wellFormed hclean) (h.plausible_fields hclean)).accepted

theorem runFields_eq (h : FieldsInClass count fields) (hclean : CleanFields fields) (env : TypeEnv) :
    runFields env fields = readFields env fields [] := by
  have hread := derivedRead_eq (h.wellFormed hclean)
    (hclean.noCapture env (h.wellFormed hclean) (h.plausible_fields hclean))
  rw [derivedRead, if_pos (h.accepted hclean env)] at hread
  exact Option.some_inj.1 hread

/-- The types of the fields, where every type that has been declared has a property. -/
theorem forall_tys (h : FieldsInClass count fields) {types : List SerdeType} (hlen : types.length = count)
    {P : SerdeType → Prop} (hprimitive : ∀ p : Primitive, P p.serdeType) (htypes : ∀ t ∈ types, P t) :
    ∀ field ∈ fields, ∀ ty ∈ field.shape.tys, P ((TypeEnv.ofList types).serde ty) := by
  intro field hfield ty hty
  cases ty with
  | primitive p => exact hprimitive p
  | named index =>
      have hindex : index < types.length := hlen ▸ h.below field hfield _ hty
      have hget : (TypeEnv.ofList types).serde (.named index) = types[index] := by
        simp [TypeEnv.serde, TypeEnv.ofList, hindex]
      rw [hget]
      exact htypes _ (List.getElem_mem hindex)

end FieldsInClass

/-- Without tuples, the fields of a variant are written as those of a struct. -/
theorem writeBound_eq {env : TypeEnv} {scope : Scope String (UsedType × Value)} :
    ∀ {fields : List Field} {vs : List Value} (_ : fields.length = vs.length) (_ : NoTuples fields)
      (_ : ∀ p ∈ fields.zip vs, scope.lookup p.1.name = some (p.1.shape.usedType, p.2)),
      writeBound env fields scope = writeFields env fields vs := by
  intro fields
  induction fields with
  | nil => intros; rfl
  | cons field fields ih =>
      intro vs hlen htuples hlookup
      cases vs with
      | nil => simp at hlen
      | cons v vs =>
          have hhead := hlookup (field, v) (by simp)
          have hbound : boundComponents field.shape v = [] :=
            boundComponents_eq_nil (htuples field List.mem_cons_self) v
          have hwrite : writeFrom env field.shape field.shape.usedType v = field.shape.write env v := by
            cases hshape : field.shape <;> rfl
          have htail : writeBound env fields scope = writeFields env fields vs := ih (by simpa using hlen)
            (fun f hf => htuples f (List.mem_cons_of_mem _ hf))
            (fun p hp => hlookup p (by rw [List.zip_cons_cons]; exact List.mem_cons_of_mem _ hp))
          rw [writeBound, hhead]
          simp only [hbound, List.nil_append, hwrite, htail]
          rfl

theorem FieldsValid.length_eq {env : TypeEnv} :
    ∀ {fields : List Field} {vs : List Value} {scope : Scope String Value},
      FieldsValid env fields vs scope → fields.length = vs.length := by
  intro fields
  induction fields with
  | nil =>
      intro vs scope h
      cases vs with
      | nil => rfl
      | cons v vs => exact h.elim
  | cons field fields ih =>
      intro vs scope h
      cases vs with
      | nil => exact h.elim
      | cons v vs => rw [List.length_cons, List.length_cons, ih h.2]

theorem writesFrom_usedType {shape : FieldShape} (h : ∀ tys, shape ≠ .tuple tys) :
    shape.writesFrom shape.usedType = true := by
  cases shape with
  | tuple tys => exact absurd rfl (h tys)
  | _ => simp [FieldShape.writesFrom, FieldShape.usedType]

theorem boundAccepted_of_noTuples {scope : Scope String UsedType} :
    ∀ {fields : List Field} (_ : NoTuples fields)
      (_ : ∀ field ∈ fields, scope.lookup field.name = some field.shape.usedType),
      boundAccepted fields scope = true := by
  intro fields
  induction fields with
  | nil => intros; rfl
  | cons field fields ih =>
      intro htuples hlookup
      have htail := ih (fun f hf => htuples f (List.mem_cons_of_mem _ hf))
        (fun f hf => hlookup f (List.mem_cons_of_mem _ hf))
      have hbound : boundTypes field.shape = [] := by
        unfold boundTypes
        split
        · rename_i hshape
          exact absurd hshape (htuples field List.mem_cons_self _)
        · rfl
      rw [boundAccepted, hlookup field List.mem_cons_self, hbound, List.nil_append, htail, Bool.and_true]
      exact writesFrom_usedType (htuples field List.mem_cons_self)

/-- A variant without tuples and without the name `writer` can be written. -/
theorem variantAccepted_of_noTuples {fields : List Field} (hnodup : (fields.map Field.name).Nodup)
    (htuples : NoTuples fields) (hwriter : ∀ field ∈ fields, field.name ≠ "writer") :
    variantAccepted fields = true := by
  have hnames : Scope.names (fields.map fun field => (field.name, field.shape.usedType)) =
      fields.map Field.name := by
    rw [Scope.names, List.map_map]
    rfl
  have hbound := boundAccepted_of_noTuples htuples fun field hfield =>
    Scope.lookup_of_mem (hnames ▸ hnodup) (List.mem_map.2 ⟨field, hfield, rfl⟩)
  have hnot : (fields.map Field.name).contains "writer" = false := by
    simpa using hwriter
  rw [variantAccepted, hbound, hnot]
  rfl

/-- With different tags, the arm of a variant is taken for its tag. -/
theorem findVariant_value :
    ∀ {variants : List Variant} (_ : (variants.map Variant.value).Nodup) {index : ℕ} {variant : Variant}
      (_ : variants[index]? = some variant) (start : ℕ),
      findVariant variant.value variants start = some (start + index, variant.fields) := by
  intro variants
  induction variants with
  | nil => simp
  | cons first variants ih =>
      intro hnodup index variant hget start
      obtain ⟨hfirst, hrest⟩ := List.nodup_cons.1 hnodup
      cases index with
      | zero =>
          obtain rfl : first = variant := by simpa using hget
          exact if_pos rfl
      | succ index =>
          rw [List.getElem?_cons_succ] at hget
          have hne : first.value ≠ variant.value := fun heq =>
            hfirst (heq ▸ List.mem_map_of_mem (List.mem_of_getElem? hget))
          rw [findVariant, if_neg hne, ih hrest hget, Nat.add_right_comm, Nat.add_assoc]

/-- The arm that is taken is that of a variant. -/
theorem exists_of_findVariant :
    ∀ {variants : List Variant} {tag start index : ℕ} {fields : Fields},
      findVariant tag variants start = some (index, fields) →
        ∃ i variant, index = start + i ∧ variants[i]? = some variant ∧ variant.fields = fields := by
  intro variants
  induction variants with
  | nil => simp [findVariant]
  | cons first variants ih =>
      intro tag start index fields h
      rw [findVariant] at h
      split at h
      · obtain ⟨rfl, rfl⟩ : start = index ∧ first.fields = fields := by simpa using h
        exact ⟨0, first, rfl, rfl, rfl⟩
      · obtain ⟨i, variant, rfl, hget, hfields⟩ := ih h
        exact ⟨i + 1, variant, by omega, by simpa using hget, hfields⟩

namespace Decl

variable {count : ℕ} {decl : Decl}

/-- The fields of a struct are in the class, with tuples or without. -/
theorem InClass.struct {fields : Fields} (h : decl.InClass count) (hdata : decl.data = .struct fields) :
    FieldsInClass count fields.toList := by
  unfold InClass at h
  rw [hdata] at h
  cases fields with
  | named fields => exact h
  | unnamed shapes => exact h.1
  | unit => exact h.1

theorem InClass.enum {size : Width} {variants : List Variant} (h : decl.InClass count)
    (hdata : decl.data = .enum size variants) : (variants.map Variant.value).Nodup ∧
      ∀ variant ∈ variants, variant.value < 256 ^ size.bytes ∧
        FieldsInClass count variant.fields.toList ∧ NoTuples variant.fields.toList := by
  unfold InClass at h
  rw [hdata] at h
  exact h

theorem Clean.struct {fields : Fields} (h : decl.Clean) (hdata : decl.data = .struct fields) :
    CleanFields fields.toList := by
  unfold Clean at h
  rw [hdata] at h
  exact h

theorem Clean.enum {size : Width} {variants : List Variant} (h : decl.Clean)
    (hdata : decl.data = .enum size variants) : variants ≠ [] ∧ ∀ variant ∈ variants,
      CleanFields variant.fields.toList ∧ ∀ field ∈ variant.fields.toList, field.name ≠ "writer" := by
  unfold Clean at h
  rw [hdata] at h
  exact h

/-- A clean declaration compiles. -/
theorem compiles_of_clean (hclass : decl.InClass count) (hclean : decl.Clean) (env : TypeEnv) :
    decl.compiles env = true := by
  rw [compiles, Bool.and_eq_true]
  cases hdata : decl.data with
  | struct fields =>
      have hfields := hclass.struct hdata
      have hcleanFields := hclean.struct hdata
      unfold Decl.accepted Decl.writeAccepted
      rw [hdata]
      refine ⟨hfields.accepted hcleanFields env, List.all_eq_true.2 fun field hfield => ?_⟩
      cases hshape : field.shape with
      | tuple tys =>
          have hone := hcleanFields.tuples field hfield tys hshape
          simp [FieldShape.writesFrom, FieldShape.usedType, hone]
      | _ => simp [FieldShape.writesFrom, FieldShape.usedType]
  | enum size variants =>
      obtain ⟨-, hvariants⟩ := hclass.enum hdata
      obtain ⟨hne, hcleanVariants⟩ := hclean.enum hdata
      have hempty : (!variants.isEmpty) = true := by simpa using hne
      unfold Decl.accepted Decl.writeAccepted
      rw [hdata]
      simp only [hempty, Bool.true_and, List.all_eq_true, Bool.and_eq_true, decide_eq_true_eq]
      constructor
      · intro variant hvariant
        obtain ⟨hvalue, hfields, -⟩ := hvariants variant hvariant
        exact ⟨hvalue, hfields.accepted (hcleanVariants variant hvariant).1 env⟩
      · intro variant hvariant
        obtain ⟨hvalue, hfields, htuples⟩ := hvariants variant hvariant
        exact ⟨hvalue, variantAccepted_of_noTuples hfields.nodup htuples
          (hcleanVariants variant hvariant).2⟩

/-- **A clean declaration is read back.** -/
theorem roundTrips_of_clean (hclass : decl.InClass count) (hclean : decl.Clean) {types : List SerdeType}
    (hlen : types.length = count) (htypes : ∀ t ∈ types, RoundTrips t)
    (hcompiles : decl.compiles (.ofList types) = true) :
    RoundTrips (decl.serdeType (.ofList types) hcompiles) := by
  intro value hvalue
  change (decl.read (.ofList types)).Reads (decl.write (.ofList types) value) value
  replace hvalue : decl.Valid (.ofList types) value := hvalue
  cases hdata : decl.data with
  | struct fields =>
      have hfields := hclass.struct hdata
      unfold Decl.Valid at hvalue
      rw [hdata] at hvalue
      cases value with
      | struct vs =>
          have hreads := readFields_writeFields hfields.standard
            (hfields.forall_tys hlen Primitive.roundTrips htypes) hvalue
          rw [← hfields.runFields_eq (hclean.struct hdata)] at hreads
          unfold Decl.read Decl.write
          rw [hdata]
          exact hreads.map Value.struct
      | _ => exact hvalue.elim
  | enum size variants =>
      obtain ⟨hnodup, hvariants⟩ := hclass.enum hdata
      unfold Decl.Valid at hvalue
      rw [hdata] at hvalue
      cases value with
      | variant index vs =>
          obtain ⟨variant, hget, hvs⟩ := hvalue
          have hmem := List.mem_of_getElem? hget
          obtain ⟨htag, hfields, htuples⟩ := hvariants variant hmem
          have hreads := readFields_writeFields hfields.standard
            (hfields.forall_tys hlen Primitive.roundTrips htypes) hvs
          rw [← hfields.runFields_eq ((hclean.enum hdata).2 variant hmem).1] at hreads
          have hwrite : writeBound (.ofList types) variant.fields.toList
              (boundFields variant.fields.toList vs) =
                writeFields (.ofList types) variant.fields.toList vs :=
            writeBound_eq hvs.length_eq htuples (lookup_boundFields hfields.nodup vs)
          have hfind := findVariant_value hnodup hget 0
          rw [Nat.zero_add] at hfind
          have henum := reads_enum hdata htag hfind hreads
          unfold Decl.write
          rw [hdata]
          simp only [hget, hwrite]
          exact henum
      | _ => exact hvalue.elim

/-- What is read of a clean declaration is valid. -/
theorem readsValid_of_clean (hclass : decl.InClass count) (hclean : decl.Clean) {types : List SerdeType}
    (hlen : types.length = count) (htypes : ∀ t ∈ types, ReadsValid t)
    (hcompiles : decl.compiles (.ofList types) = true) :
    ReadsValid (decl.serdeType (.ofList types) hcompiles) := by
  intro input value rest hread
  change decl.Valid (.ofList types) value
  replace hread : decl.read (.ofList types) input = .ok (value, rest) := hread
  cases hdata : decl.data with
  | struct fields =>
      have hfields := hclass.struct hdata
      unfold Decl.read at hread
      rw [hdata] at hread
      obtain ⟨vs, hvs, rfl⟩ := map_eq_ok hread
      rw [hfields.runFields_eq (hclean.struct hdata)] at hvs
      unfold Decl.Valid
      rw [hdata]
      exact fieldsValid_of_readFields hfields.standard
        (hfields.forall_tys hlen Primitive.readsValid htypes) hvs
  | enum size variants =>
      obtain ⟨-, hvariants⟩ := hclass.enum hdata
      unfold Decl.read at hread
      rw [hdata] at hread
      obtain ⟨tag, middle, -, hread⟩ := bind_eq_ok hread
      cases hfind : findVariant tag.toNat variants 0 with
      | none =>
          rw [hfind] at hread
          simp at hread
      | some found =>
          obtain ⟨index, fields⟩ := found
          rw [hfind] at hread
          obtain ⟨i, variant, rfl, hget, rfl⟩ := exists_of_findVariant hfind
          obtain ⟨vs, hvs, rfl⟩ := map_eq_ok hread
          have hmem := List.mem_of_getElem? hget
          obtain ⟨-, hfields, -⟩ := hvariants variant hmem
          rw [hfields.runFields_eq ((hclean.enum hdata).2 variant hmem).1] at hvs
          unfold Decl.Valid
          rw [hdata]
          refine ⟨variant, by rw [Nat.zero_add]; exact hget, ?_⟩
          exact fieldsValid_of_readFields hfields.standard
            (hfields.forall_tys hlen Primitive.readsValid htypes) hvs

end Decl

/-! ### Declarations that are read back are clean -/

theorem fieldsOk_append (env : TypeEnv) (fields later : List Field) :
    ∀ locals, fieldsOk env (fields ++ later) locals =
      (fieldsOk env fields locals && fieldsOk env later (contextOf env fields locals)) := by
  induction fields with
  | nil => exact fun _ => rfl
  | cons field fields ih =>
      intro locals
      simp only [List.cons_append, fieldsOk, ih, contextOf, Bool.and_assoc]

theorem mem_names_contextOf {env : TypeEnv} {x : String} :
    ∀ {fields : List Field} {locals : Scope String Local},
      x ∈ fields.map Field.name ∨ x ∈ locals.names → x ∈ (contextOf env fields locals).names := by
  intro fields
  induction fields with
  | nil =>
      intro locals h
      simpa [contextOf] using h
  | cons field fields ih =>
      intro locals h
      refine ih ?_
      rw [List.map_cons, List.mem_cons] at h
      rcases h with (rfl | h) | h
      · exact Or.inr (by simp [declare])
      · exact Or.inl h
      · exact Or.inr (by simp [declare, h])

/-- After a field of the name `reader`, nothing can be read. -/
theorem reader_of_accepted {env : TypeEnv} {fields : List Field}
    (hp : ∀ field ∈ fields, field.Plausible) (hnodup : (fields.map Field.name).Nodup)
    (h : accepted env fields = true) {before later : List Field} {field : Field}
    (hfields : fields = before ++ field :: later) (hname : field.name = "reader") :
    ∀ g ∈ later, g.shape.mentionsReader = false := by
  intro g hg
  obtain ⟨middle, tail, rfl⟩ := List.append_of_mem hg
  obtain ⟨hok, -⟩ := (accepted_iff env hp hnodup).1 h
  have hsplit : fields = (before ++ field :: middle) ++ g :: tail := by rw [hfields]; simp
  rw [hsplit, fieldsOk_append, Bool.and_eq_true, fieldsOk, Bool.and_eq_true] at hok
  obtain ⟨-, hfieldOk, -⟩ := hok
  have hhidden : readerInScope (contextOf env (before ++ field :: middle) []) = false := by
    have hmem : "reader" ∈ (contextOf env (before ++ field :: middle) []).names :=
      mem_names_contextOf (Or.inl (by simp [hname]))
    cases hlookup : (contextOf env (before ++ field :: middle) []).lookup "reader" with
    | none => exact absurd hmem (Scope.lookup_eq_none.1 hlookup)
    | some l =>
        rw [readerInScope, hlookup]
        rfl
  rw [fieldOk, hhidden, Bool.or_false, Bool.and_eq_true] at hfieldOk
  simpa using hfieldOk.1

/-- In the class, only the components of a tuple can capture a field. -/
theorem FieldsInClass.tuple_of_helper {count : ℕ} {fields : List Field} (h : FieldsInClass count fields)
    {field g : Field} (hfield : field ∈ fields) (hhelper : field.name ∈ g.shape.helpers) :
    ∃ tys, g.shape = .tuple tys := by
  by_contra hnot
  exact h.names field hfield
    (helpers_subset g.shape (fun tys heq => hnot ⟨tys, heq⟩) _ hhelper)

theorem FieldsInClass.clean_of_noTuples {count : ℕ} {fields : List Field} (h : FieldsInClass count fields)
    (htuples : NoTuples fields) {env : TypeEnv} (hacc : Skrillax.accepted env fields = true) :
    CleanFields fields := by
  have hone : ∀ field ∈ fields, ∀ tys, field.shape = .tuple tys → tys.length ≠ 1 :=
    fun field hfield tys hshape => absurd hshape (htuples field hfield tys)
  refine ⟨?_, ?_, hone⟩
  · rintro before field later hfields ⟨g, hg, hhelper⟩
    obtain ⟨tys, hshape⟩ := h.tuple_of_helper (by simp [hfields]) hhelper
    exact htuples g (by simp [hfields, hg]) tys hshape
  · intro before field later hfields hname
    exact reader_of_accepted (plausible_of_accepted hone hacc) h.nodup hacc hfields hname

/-- Primitive types have different values. -/
theorem not_single_primitive (env : TypeEnv) (p : Primitive) :
    ¬ Single env (.primitive (.primitive p)) := by
  intro hsingle
  obtain ⟨chunk, v, hv⟩ := p.serdeType.readable
  obtain ⟨chunk', w, hw, hne⟩ := p.exists_reads_ne v
  exact hne (hsingle w v ⟨chunk', hw⟩ ⟨chunk, hv⟩)

/-- Fields with everything that can be read for them returned for some input are clean. -/
theorem FieldsInClass.clean_of_returns {count : ℕ} {fields : List Field} (h : FieldsInClass count fields)
    (hone : ∀ field ∈ fields, ∀ tys, field.shape = .tuple tys → tys.length ≠ 1) {env : TypeEnv}
    (hacc : Skrillax.accepted env fields = true)
    (hreturns : ∀ chunk vs, (readFields env fields []).Reads chunk vs →
      ∃ input rest, runFields env fields input = .ok (vs, rest)) : CleanFields fields := by
  have hp := plausible_of_accepted hone hacc
  have hwf : WellFormed fields := ⟨h.nodup, hone, h.conditions⟩
  refine ⟨?_, fun before field later hfields hname =>
    reader_of_accepted hp h.nodup hacc hfields hname, hone⟩
  intro before field later hfields hcaptured
  have hsingle := single_of_returns hwf hacc hreturns _ before field later rfl hfields hcaptured
  -- the field has the type of a component
  obtain ⟨middle, g, tail, rfl, hhelper, htail⟩ := hcaptured.last
  have hmem : field ∈ fields := by simp [hfields]
  obtain ⟨tys, hshape⟩ := h.tuple_of_helper hmem hhelper
  have hsplit : fields = (before ++ field :: middle) ++ g :: tail := by rw [hfields]; simp
  have hlocal := local_captured hsplit h.nodup (by simp) hhelper htail
    (((accepted_iff env hp h.nodup).1 hacc).2 field hmem)
  rw [hshape] at hlocal
  obtain ⟨t, ht, htype⟩ := exists_component (mem_of_lookup hlocal)
  obtain ⟨p, rfl⟩ := h.tuples g (by simp [hsplit]) tys hshape t ht
  rw [htype] at hsingle
  exact not_single_primitive env p hsingle

/-- **A declaration that is read back is clean.** -/
theorem Decl.clean_of_roundTrips {count : ℕ} {decl : Decl} (hclass : decl.InClass count)
    {types : List SerdeType} (hlen : types.length = count) (htypes : ∀ t ∈ types, ReadsValid t)
    (hcompiles : decl.compiles (.ofList types) = true)
    (h : RoundTrips (decl.serdeType (.ofList types) hcompiles)) : decl.Clean := by
  obtain ⟨hread, hwrite⟩ := Bool.and_eq_true_iff.1 hcompiles
  replace h : ∀ v, decl.Valid (.ofList types) v →
      (decl.read (.ofList types)).Reads (decl.write (.ofList types) v) v := h
  unfold Decl.accepted at hread
  unfold Decl.writeAccepted at hwrite
  unfold Decl.Clean
  cases hdata : decl.data with
  | struct fields =>
      have hfields := hclass.struct hdata
      rw [hdata] at hread hwrite
      refine hfields.clean_of_returns (tuples_of_all_writesFrom hwrite) hread fun chunk vs hreads => ?_
      -- what can be read is valid, so it is written and read back
      have hvalid := fieldsValid_of_readFields hfields.standard
        (hfields.forall_tys hlen Primitive.readsValid htypes) (hreads [])
      have hback := h (.struct vs) (by unfold Decl.Valid; rw [hdata]; exact hvalid)
      unfold Decl.read at hback
      rw [hdata] at hback
      obtain ⟨ws, hws, heq⟩ := map_eq_ok (hback [])
      obtain rfl : ws = vs := by simpa using heq
      exact ⟨_, _, hws⟩
  | enum size variants =>
      obtain ⟨-, hvariants⟩ := hclass.enum hdata
      rw [hdata] at hread hwrite
      rw [Bool.and_eq_true, List.all_eq_true] at hread hwrite
      refine ⟨by simpa using hread.1, fun variant hvariant => ?_⟩
      obtain ⟨-, hfields, htuples⟩ := hvariants variant hvariant
      have hacc := (Bool.and_eq_true_iff.1 (hread.2 variant hvariant)).2
      have hwriter := (Bool.and_eq_true_iff.1 (Bool.and_eq_true_iff.1 (hwrite.2 variant hvariant)).2).2
      refine ⟨hfields.clean_of_noTuples htuples hacc, ?_⟩
      simpa using hwriter

/-! ### All declarations -/

/-- Later declarations do not change the implementations of the earlier ones. -/
theorem prefix_of_implementAll :
    ∀ {decls : List Decl} {types types' : List SerdeType}, implementAll types decls = some types' →
      types <+: types' := by
  intro decls
  induction decls with
  | nil =>
      intro types types' h
      obtain rfl : types = types' := by simpa [implementAll] using h
      exact List.prefix_rfl
  | cons decl decls ih =>
      intro types types' h
      rw [implementAll] at h
      split at h
      · exact (List.prefix_append _ _).trans (ih h)
      · simp at h

theorem roundTrips_iff_from :
    ∀ {decls : List Decl} {types : List SerdeType} (_ : AllInClass types.length decls)
      (_ : ∀ t ∈ types, RoundTrips t) (_ : ∀ t ∈ types, ReadsValid t),
      (∃ types', implementAll types decls = some types' ∧ ∀ t ∈ types', RoundTrips t) ↔
        ∀ decl ∈ decls, decl.Clean := by
  intro decls
  induction decls with
  | nil =>
      intro types _ htrips _
      simp [implementAll]
      exact htrips
  | cons decl decls ih =>
      intro types hclass htrips hvalid
      obtain ⟨hdecl, hdecls⟩ := hclass
      have hnext : ∀ (hcompiles : decl.compiles (.ofList types) = true) (hclean : decl.Clean),
          (∃ types', implementAll (types ++ [decl.serdeType (.ofList types) hcompiles]) decls =
            some types' ∧ ∀ t ∈ types', RoundTrips t) ↔ ∀ decl ∈ decls, decl.Clean := by
        intro hcompiles hclean
        have hback := decl.roundTrips_of_clean hdecl hclean rfl htrips hcompiles
        have hread := decl.readsValid_of_clean hdecl hclean rfl hvalid hcompiles
        refine ih (by simpa using hdecls) (fun t ht => ?_) (fun t ht => ?_)
        · rcases List.mem_append.1 ht with ht | ht
          · exact htrips t ht
          · exact List.mem_singleton.1 ht ▸ hback
        · rcases List.mem_append.1 ht with ht | ht
          · exact hvalid t ht
          · exact List.mem_singleton.1 ht ▸ hread
      rw [List.forall_mem_cons]
      constructor
      · rintro ⟨types', himplement, hall⟩
        rw [implementAll] at himplement
        split at himplement
        · rename_i hcompiles
          have hmem : decl.serdeType (.ofList types) hcompiles ∈ types' :=
            (prefix_of_implementAll himplement).subset (by simp)
          have hclean := decl.clean_of_roundTrips hdecl rfl hvalid hcompiles (hall _ hmem)
          exact ⟨hclean, (hnext hcompiles hclean).1 ⟨types', himplement, hall⟩⟩
        · simp at himplement
      · rintro ⟨hclean, hcleans⟩
        have hcompiles := decl.compiles_of_clean hdecl hclean (.ofList types)
        rw [implementAll]
        simp only [dif_pos hcompiles]
        exact (hnext hcompiles hclean).2 hcleans

/-- **When derived deserialization undoes derived serialization**: types of the class are declared one after
the other.  They compile, and every valid value of each of them is read back from what has been written of
it, with exactly the bytes behind it left over, if and only if no field has the name of a component of a
later tuple, nothing is read after a field of the name `reader`, no variant has a field of the name `writer`,
no tuple has a single component, and no enum is empty. -/
theorem roundTrips_iff (decls : List Decl) (hclass : AllInClass 0 decls) :
    (∃ types, implementAll [] decls = some types ∧ ∀ t ∈ types, ∀ v, t.Valid v → ∀ rest,
      t.read (t.write v ++ rest) = .ok (v, rest)) ↔ ∀ decl ∈ decls, decl.Clean := by
  have hnone : ∀ {P : SerdeType → Prop}, ∀ t ∈ ([] : List SerdeType), P t := by simp
  exact roundTrips_iff_from hclass hnone hnone

/-- A flag, a text, and a number behind them if the flag is one. -/
def testCond : Decl where
  name := "TestCond"
  copy := false
  data := .struct (.named
    [⟨"cond", .primitive (.primitive .u8)⟩, ⟨"unrelated", .string .narrow⟩,
      ⟨"value", .option (.plain (.primitive .u8))
        (.when ⟨[("cond", .u8)], fun values => values.map Value.toNat = [1]⟩)⟩])

theorem inClass_testCond : testCond.InClass 0 := by
  refine ⟨by decide, by decide, by decide, ?_, ?_, ?_⟩
  · simp [FieldShape.tys, Inner.tys, Ty.below]
  · simp
  · intro before field later hsplit inner condition hshape c hc
    -- the condition is that of the last field, and `cond` is the first one
    simp only [List.cons_eq_append_iff, List.cons.injEq, List.nil_eq, List.append_eq_nil_iff] at hsplit
    rcases hsplit with ⟨rfl, rfl, -⟩ | ⟨before, rfl, ⟨rfl, rfl, -⟩ | ⟨before, rfl, ⟨rfl, rfl, -⟩ |
      ⟨before, rfl, h⟩⟩⟩
    · simp at hshape
    · simp at hshape
    · obtain ⟨-, rfl⟩ : .plain (.primitive .u8) = inner ∧ _ = condition := by simpa using hshape
      simp at hc
      subst hc
      exact ⟨_, List.mem_cons_self, rfl, rfl⟩
    · simp at h

theorem clean_testCond : testCond.Clean := by
  refine cleanFields_of_names ?_ ?_ ?_
  · simp [Fields.toList, FieldShape.helpers]
  · simp [Fields.toList]
  · simp [Fields.toList]

/-- The flag, the text and the number are read back, whatever is behind them. -/
theorem roundTrips_testCond :
    ∃ types, implementAll [] [testCond] = some types ∧ ∀ t ∈ types, ∀ v, t.Valid v → ∀ rest,
      t.read (t.write v ++ rest) = .ok (v, rest) := by
  refine (roundTrips_iff [testCond] ⟨inClass_testCond, trivial⟩).2 fun decl hdecl => ?_
  obtain rfl := List.mem_singleton.1 hdecl
  exact clean_testCond

/-- A pair behind a field with the name of its first component. -/
def namedLikeComponent : Decl where
  name := "NamedLikeComponent"
  copy := false
  data := .struct (.named
    [⟨"t0", .primitive (.primitive .u16)⟩, ⟨"pair", .tuple [.primitive .u16, .primitive .u16]⟩])

theorem inClass_namedLikeComponent : namedLikeComponent.InClass 0 := by
  refine ⟨by decide, by decide, by decide, ?_, ?_, ?_⟩
  · simp [FieldShape.tys, Ty.below]
  · intro field hfield tys hshape ty hty
    simp at hfield
    rcases hfield with rfl | rfl
    · simp at hshape
    · obtain rfl : _ = tys := by simpa using hshape
      exact ⟨.u16, by simpa using hty⟩
  · intro before field later hsplit inner condition hshape
    have hmem : field ∈ before ++ field :: later := by simp
    rw [← hsplit] at hmem
    simp only [List.mem_cons, List.not_mem_nil, or_false] at hmem
    rcases hmem with rfl | rfl <;> simp at hshape

/-- A field `t0` of `7` before the pair of `1` and `2` is read as `1`, the first component of the pair: the
two have a variable of the same name in the code that is generated. -/
theorem named_like_component_not_read_back :
    let v : Value := .struct [.word 2 7, .tuple [.word 2 1, .word 2 2]]
    AllInClass 0 [namedLikeComponent] ∧ ∃ hcompiles,
      implementAll [] [namedLikeComponent] = some [namedLikeComponent.serdeType (.ofList []) hcompiles] ∧
      namedLikeComponent.Valid (.ofList []) v ∧
      namedLikeComponent.write (.ofList []) v = [7, 0, 1, 0, 2, 0] ∧
      namedLikeComponent.read (.ofList []) [7, 0, 1, 0, 2, 0] =
        .ok (.struct [.word 2 1, .tuple [.word 2 1, .word 2 2]], []) ∧
      ¬ ∃ types, implementAll [] [namedLikeComponent] = some types ∧ ∀ t ∈ types, ∀ v, t.Valid v →
        ∀ rest, t.read (t.write v ++ rest) = .ok (v, rest) := by
  intro v
  have hcompiles : namedLikeComponent.compiles (.ofList []) = true := rfl
  have himplement : implementAll [] [namedLikeComponent] =
      some [namedLikeComponent.serdeType (.ofList []) hcompiles] := by
    rw [implementAll, dif_pos hcompiles]
    rfl
  have hvalid : namedLikeComponent.Valid (.ofList []) v := by
    exact ⟨⟨7, rfl⟩, ⟨_, rfl, .cons ⟨1, rfl⟩ (.cons ⟨2, rfl⟩ .nil)⟩, trivial⟩
  have hwrite : namedLikeComponent.write (.ofList []) v = [7, 0, 1, 0, 2, 0] := rfl
  have hread : namedLikeComponent.read (.ofList []) [7, 0, 1, 0, 2, 0] =
      .ok (.struct [.word 2 1, .tuple [.word 2 1, .word 2 2]], []) := rfl
  refine ⟨⟨inClass_namedLikeComponent, trivial⟩, hcompiles, himplement, hvalid, hwrite, hread, ?_⟩
  rintro ⟨types, h, hall⟩
  obtain rfl := Option.some.inj (himplement.symm.trans h)
  have hback : namedLikeComponent.read (.ofList [])
      (namedLikeComponent.write (.ofList []) v ++ []) = .ok (v, []) :=
    hall _ (List.mem_singleton_self _) v hvalid []
  rw [List.append_nil, hwrite, hread] at hback
  simp [v] at hback

end Skrillax

/-
**Do the names of fields matter?**

The derived reader keeps the fields and its helper variables in one scope.  A field whose name is that of a
helper variable of a later field is overwritten: if the types differ, or the helper variable has been moved
out of, the code does not compile, and otherwise the field silently gets the value of the helper.  This
module says exactly when this does not happen.

Main definitions:

* `Captured` — the name of a field is that of a helper variable of a later field;
* `NoCapture` — the code compiles, and what is captured has a single value anyway;
* `Field.rename` — a field under another name;
* `NamesDoNotMatter` — each field gets the value that is read for it, before and after a renaming.

Main results:

* `derivedRead_eq` — **without capture, the derived reader reads each field into its own variable**;
* `captured_value` — a captured field has the value of the helper variable;
* `namesDoNotMatter_iff` — **when names do not matter**.
-/

import Skrillax.ReadableFields

set_option relaxedAutoImplicit false
set_option autoImplicit false

namespace Skrillax

open ByteReader Code

/-! ### Capture -/

/-- The name of the field is that of a helper variable of one of the later fields. -/
def Captured (field : Field) (later : List Field) : Prop :=
  ∃ g ∈ later, field.name ∈ g.shape.helpers

/-- There is one value of the type only. -/
def Single (env : TypeEnv) (ty : UsedType) : Prop :=
  ∀ v w, HasType env ty v → HasType env ty w → v = w

/-- The code compiles, and a field that is captured has a single value anyway. -/
structure NoCapture (env : TypeEnv) (fields : List Field) : Prop where
  accepted : Skrillax.accepted env fields = true
  single : ∀ before field later, fields = before ++ field :: later → Captured field later →
    Single env field.shape.usedType

/-- Fields of the shapes that both derives accept: different names, no parentheses in place of a tuple, and
conditions over earlier fields. -/
structure WellFormed (fields : List Field) : Prop where
  nodup : (fields.map Field.name).Nodup
  tuples : ∀ field ∈ fields, ∀ tys, field.shape = .tuple tys → tys.length ≠ 1
  conditions : ∀ before field later, fields = before ++ field :: later →
    ∀ inner condition, field.shape = .option inner (.when condition) →
      ∀ c ∈ condition.operands, ∃ g ∈ before, g.name = c.1 ∧ g.shape.usedType = c.2

/-- Different fields have different names. -/
theorem name_ne {before later : List Field} (hnodup : ((before ++ later).map Field.name).Nodup)
    {f g : Field} (hf : f ∈ before) (hg : g ∈ later) : f.name ≠ g.name := by
  rw [List.map_append, List.nodup_append] at hnodup
  exact hnodup.2.2 _ (List.mem_map_of_mem hf) _ (List.mem_map_of_mem hg)

/-- A collection that hides its own vector does not compile. -/
theorem plausible_of_accepted {env : TypeEnv} {fields : List Field}
    (htuples : ∀ field ∈ fields, ∀ tys, field.shape = .tuple tys → tys.length ≠ 1)
    (h : accepted env fields = true) : ∀ field ∈ fields, field.Plausible := by
  have hcheck : ∀ (fields : List Field) (locals : Scope String Local),
      ((fieldsCode fields).check env locals).isSome = true → ∀ field ∈ fields,
        ∀ inner repr, field.shape = .collection inner repr → field.name ≠ "items" := by
    intro fields
    induction fields with
    | nil => simp
    | cons f fields ih =>
        intro locals hsome field hfield inner repr hshape hname
        rw [fieldsCode, check_append] at hsome
        cases hf : (generateReaderFor f).check env locals with
        | none =>
            rw [hf] at hsome
            simp at hsome
        | some locals' =>
            rw [hf, Option.bind_some] at hsome
            rcases List.mem_cons.1 hfield with rfl | hfield
            · rw [check_items_hidden env hname hshape] at hf
              simp at hf
            · exact ih locals' hsome field hfield inner repr hshape hname
  have hsome : ((fieldsCode fields).check env []).isSome = true := by
    rw [accepted] at h
    split at h
    · rename_i hcheck
      rw [hcheck]
      rfl
    · simp at h
  intro field hfield
  unfold Field.Plausible
  split
  · rename_i hshape
    exact hcheck fields [] hsome field hfield _ _ hshape
  · rename_i hshape
    exact htuples field hfield _ hshape
  · trivial

/-! ### Without capture -/

/-- The scope of the running code has the values of the fields before, as far as it matters. -/
structure Follows (env : TypeEnv) (before : List Field) (locals : Scope String Local)
    (scope ideal : Scope String Value) : Prop where
  typed : Typed env locals scope
  agrees : ∀ field ∈ before, ∃ v, ideal.lookup field.name = some v ∧
    HasType env field.shape.usedType v ∧
      (scope.lookup field.name = some v ∨ Single env field.shape.usedType)

/-- A field that the compiler lets be used has its value. -/
theorem Follows.valueOf_eq {env : TypeEnv} {before : List Field} {locals : Scope String Local}
    {scope ideal : Scope String Value} (h : Follows env before locals scope ideal) {field : Field}
    (hfield : field ∈ before) (huse : usable locals field.name = some (.used field.shape.usedType)) :
    valueOf scope field.name = valueOf ideal field.name := by
  obtain ⟨v, hideal, hv, hagree⟩ := h.agrees field hfield
  obtain ⟨w, hscope, hw⟩ := h.typed.usable huse
  have hwv : w = v := by
    rcases hagree with hlookup | hsingle
    · exact Option.some_inj.1 (hscope.symm.trans hlookup)
    · exact hsingle w v hw hv
  rw [valueOf, valueOf, hscope, hideal, hwv]

/-- So what is read for the next field is what should be read for it. -/
theorem Follows.readLocals_eq {env : TypeEnv} {before : List Field} {locals : Scope String Local}
    {scope ideal : Scope String Value} (h : Follows env before locals scope ideal) {field : Field}
    (hok : fieldOk field locals = true)
    (hcond : ∀ inner condition, field.shape = .option inner (.when condition) →
      ∀ c ∈ condition.operands, ∃ g ∈ before, g.name = c.1 ∧ g.shape.usedType = c.2) :
    field.shape.readLocals env scope = field.shape.readLocals env ideal := by
  obtain ⟨ident, shape⟩ := field
  cases shape with
  | option inner repr =>
      cases repr with
      | when condition =>
          have heval : condition.eval scope = condition.eval ideal := by
            unfold Condition.eval
            congr 1
            refine List.map_congr_left fun c hc => ?_
            obtain ⟨g, hg, hname, htype⟩ := hcond inner condition rfl c hc
            have hall : condition.operands.all
                (fun c => decide (usable locals c.1 = some (.used c.2))) = true :=
              (Bool.and_eq_true_iff.1 hok).2
            have huse := of_decide_eq_true (List.all_eq_true.1 hall c hc)
            rw [← hname, ← htype] at huse
            rw [← hname]
            exact h.valueOf_eq hg huse
          simp only [FieldShape.readLocals, heval]
      | _ => rfl
  | string size => cases size <;> rfl
  | _ => rfl

theorem names_readLocals {env : TypeEnv} {shape : FieldShape} {scope : Scope String Value}
    {input : List UInt8} {v : Value} {locals : Scope String Value} {rest : List UInt8}
    (h : shape.readLocals env scope input = .ok ((v, locals), rest)) : locals.names = shape.helpers := by
  rw [← (typed_readLocals h).2.names_eq, shape.names_locals]

/-- The code for the next field. -/
theorem Follows.step {env : TypeEnv} {before : List Field} {locals : Scope String Local}
    {scope ideal : Scope String Value} (h : Follows env before locals scope ideal) {field : Field}
    (hname : ∀ g ∈ before, g.name ≠ field.name)
    (hsingle : ∀ g ∈ before, g.name ∈ field.shape.helpers → Single env g.shape.usedType)
    {input : List UInt8} {v : Value} {new : Scope String Value} {rest : List UInt8}
    (hread : field.shape.readLocals env scope input = .ok ((v, new), rest)) :
    Follows env (before ++ [field]) (declare env field locals) ((field.name, v) :: new ++ scope)
      ((field.name, v) :: ideal) := by
  obtain ⟨hv, hnew⟩ := typed_readLocals hread
  refine ⟨h.typed.declare hv hnew, fun g hg => ?_⟩
  rcases List.mem_append.1 hg with hg | hg
  · obtain ⟨w, hideal, hw, hagree⟩ := h.agrees g hg
    refine ⟨w, ?_, hw, ?_⟩
    · rw [Scope.lookup_cons_of_ne (hname g hg), hideal]
    · by_cases hmem : g.name ∈ field.shape.helpers
      · exact Or.inr (hsingle g hg hmem)
      · refine hagree.imp_left fun hlookup => ?_
        rw [List.cons_append, Scope.lookup_cons_of_ne (hname g hg), Scope.lookup_append_of_notMem, hlookup]
        rw [names_readLocals hread]
        exact hmem
  · obtain rfl := List.mem_singleton.1 hg
    exact ⟨v, by simp, hv, Or.inl (by simp)⟩

/-- The code for the fields that are left reads what should be read for them, and then every field has its
value. -/
theorem run_fieldsCode_eq {env : TypeEnv} {fields : List Field} (hwf : WellFormed fields)
    (hp : ∀ field ∈ fields, field.Plausible)
    (hsingle : ∀ before field later, fields = before ++ field :: later → Captured field later →
      Single env field.shape.usedType) :
    ∀ (later before : List Field) (locals : Scope String Local) (scope ideal : Scope String Value),
      fields = before ++ later → Follows env before locals scope ideal →
      fieldsOk env later locals = true →
      (∀ field ∈ fields, usable (contextOf env later locals) field.name =
        some (.used field.shape.usedType)) →
      (fun s => fields.map fun field => valueOf s field.name) <$> (fieldsCode later).run env scope =
        (fun vs => before.map (fun field => valueOf ideal field.name) ++ vs) <$>
          readFields env later ideal := by
  intro later
  induction later with
  | nil =>
      intro before locals scope ideal hfields hfollows _ hend
      rw [List.append_nil] at hfields
      subst hfields
      have hvalues : fields.map (fun field => valueOf scope field.name) =
          fields.map fun field => valueOf ideal field.name :=
        List.map_congr_left fun field hfield => hfollows.valueOf_eq hfield (hend field hfield)
      simp [fieldsCode, Code.run, readFields, hvalues]
  | cons field later ih =>
      intro before locals scope ideal hfields hfollows hok hend
      obtain ⟨hfield, hlater⟩ := Bool.and_eq_true_iff.1 hok
      have hmem : field ∈ fields := by simp [hfields]
      have hnames : ∀ g ∈ before, g.name ≠ field.name := fun g hg =>
        name_ne (hfields ▸ hwf.nodup) hg List.mem_cons_self
      rw [fieldsCode, run_append, run_generateReaderFor env (hp field hmem),
        hfollows.readLocals_eq hfield (hwf.conditions before field later hfields), readFields,
        FieldShape.read_eq]
      simp only [map_eq_pure_bind, bind_assoc, pure_bind]
      refine bind_congr_of_ok fun input p rest hread => ?_
      obtain ⟨v, new⟩ := p
      have hcapture : ∀ g ∈ before, g.name ∈ field.shape.helpers → Single env g.shape.usedType := by
        intro g hg hhelper
        obtain ⟨front, back, rfl⟩ := List.append_of_mem hg
        exact hsingle front g (back ++ field :: later) (by rw [hfields]; simp) ⟨field, by simp, hhelper⟩
      rw [← hfollows.readLocals_eq hfield (hwf.conditions before field later hfields)] at hread
      have hnext := ih (before ++ [field]) _ _ _ (by rw [hfields]; simp)
        (hfollows.step hnames hcapture hread) hlater hend
      simp only [map_eq_pure_bind] at hnext
      rw [hnext]
      refine bind_congr fun vs => congrArg pure ?_
      have hbefore : before.map (fun g => valueOf ((field.name, v) :: ideal) g.name) =
          before.map fun g => valueOf ideal g.name :=
        List.map_congr_left fun g hg => valueOf_cons_of_ne (hnames g hg) v ideal
      rw [List.map_append, hbefore]
      simp

/-- **Without capture, the derived reader reads each field into its own variable.** -/
theorem derivedRead_eq {env : TypeEnv} {fields : List Field} (hwf : WellFormed fields)
    (h : NoCapture env fields) : derivedRead env fields = some (readFields env fields []) := by
  have hp := plausible_of_accepted hwf.tuples h.accepted
  obtain ⟨hok, hend⟩ := (accepted_iff env hp hwf.nodup).1 h.accepted
  have hrun := run_fieldsCode_eq hwf hp h.single fields [] [] [] [] rfl
    ⟨List.Forall₂.nil, fun field hfield => by simp at hfield⟩ hok hend
  rw [derivedRead, if_pos h.accepted, runFields, ← map_eq_pure_bind, hrun]
  simp

/-! ### What the code declares -/

/-- A name that the code for the fields declares. -/
def Declares (fields : List Field) (x : String) : Prop :=
  ∃ field ∈ fields, x = field.name ∨ x ∈ field.shape.helpers

theorem run_fieldsCode_append (env : TypeEnv) (fields later : List Field) :
    ∀ scope, (fieldsCode (fields ++ later)).run env scope =
      (fieldsCode fields).run env scope >>= (fieldsCode later).run env := by
  induction fields with
  | nil => exact fun scope => (pure_bind scope _).symm
  | cons field fields ih =>
      intro scope
      simp only [List.cons_append, fieldsCode, run_append, bind_assoc]
      exact bind_congr ih

theorem contextOf_append (env : TypeEnv) (fields later : List Field) :
    ∀ locals, contextOf env (fields ++ later) locals = contextOf env later (contextOf env fields locals) := by
  induction fields with
  | nil => exact fun _ => rfl
  | cons field fields ih => exact fun locals => ih _

/-- The names that the code for the first field declares, and those of the code after it. -/
theorem declares_cons {α : Type} {field : Field} {fields : List Field} {new : Scope String α}
    (hnew : ∀ x ∈ new.names, Declares fields x) {locals : Scope String α}
    (hlocals : locals.names = field.shape.helpers) (a : α) :
    ∀ x ∈ (new ++ (field.name, a) :: locals).names, Declares (field :: fields) x := by
  intro x hx
  rw [Scope.names_append, Scope.names_cons, hlocals, List.mem_append, List.mem_cons] at hx
  rcases hx with hx | hx
  · obtain ⟨g, hg, hxg⟩ := hnew x hx
    exact ⟨g, List.mem_cons_of_mem _ hg, hxg⟩
  · exact ⟨field, List.mem_cons_self, hx⟩

theorem exists_contextOf_eq (env : TypeEnv) (fields : List Field) :
    ∀ locals, ∃ new : Scope String Local, contextOf env fields locals = new ++ locals ∧
      ∀ x ∈ new.names, Declares fields x := by
  induction fields with
  | nil => exact fun locals => ⟨[], rfl, by simp⟩
  | cons field fields ih =>
      intro locals
      obtain ⟨new, hnew, hnames⟩ := ih (declare env field locals)
      refine ⟨new ++ (field.name, .of field.shape.usedType) :: field.shape.locals env, ?_, ?_⟩
      · rw [contextOf, hnew, declare, List.append_assoc]
      · exact declares_cons hnames (field.shape.names_locals env) _

/-- What the code declares when it runs. -/
theorem exists_scope_eq {env : TypeEnv} :
    ∀ {fields : List Field} (_ : ∀ field ∈ fields, field.Plausible) {scope : Scope String Value}
      {input : List UInt8} {scope' : Scope String Value} {rest : List UInt8},
      (fieldsCode fields).run env scope input = .ok (scope', rest) →
        ∃ new : Scope String Value, scope' = new ++ scope ∧ ∀ x ∈ new.names, Declares fields x := by
  intro fields
  induction fields with
  | nil =>
      intro _ scope input scope' rest hrun
      obtain ⟨rfl, -⟩ := pure_eq_ok hrun
      exact ⟨[], rfl, by simp⟩
  | cons field fields ih =>
      intro hp scope input scope' rest hrun
      rw [fieldsCode, run_append] at hrun
      obtain ⟨middle, input', hfield, hrest⟩ := bind_eq_ok hrun
      rw [run_generateReaderFor env (hp field List.mem_cons_self)] at hfield
      obtain ⟨⟨v, new⟩, hread, rfl⟩ := map_eq_ok hfield
      obtain ⟨new', hscope', hnames⟩ := ih (fun f hf => hp f (List.mem_cons_of_mem _ hf)) hrest
      refine ⟨new' ++ (field.name, v) :: new, ?_, ?_⟩
      · rw [hscope', List.append_assoc]
      · exact declares_cons hnames (names_readLocals hread) v

/-- What the compiler knows about the variables after the code is true. -/
theorem typed_fieldsCode {env : TypeEnv} :
    ∀ {fields : List Field} (_ : ∀ field ∈ fields, field.Plausible) {locals : Scope String Local}
      {scope : Scope String Value} (_ : Typed env locals scope) {input : List UInt8}
      {scope' : Scope String Value} {rest : List UInt8},
      (fieldsCode fields).run env scope input = .ok (scope', rest) →
        Typed env (contextOf env fields locals) scope' := by
  intro fields
  induction fields with
  | nil =>
      intro _ locals scope htyped input scope' rest hrun
      obtain ⟨rfl, -⟩ := pure_eq_ok hrun
      exact htyped
  | cons field fields ih =>
      intro hp locals scope htyped input scope' rest hrun
      rw [fieldsCode, run_append] at hrun
      obtain ⟨middle, input', hfield, hrest⟩ := bind_eq_ok hrun
      rw [run_generateReaderFor env (hp field List.mem_cons_self)] at hfield
      obtain ⟨⟨v, new⟩, hread, rfl⟩ := map_eq_ok hfield
      obtain ⟨hv, hnew⟩ := typed_readLocals hread
      exact ih (fun f hf => hp f (List.mem_cons_of_mem _ hf)) (htyped.declare hv hnew) hrest

/-! ### With capture -/

theorem Captured.last {field : Field} {later : List Field} (h : Captured field later) :
    ∃ middle g tail, later = middle ++ g :: tail ∧ field.name ∈ g.shape.helpers ∧ ¬ Captured field tail := by
  induction later with
  | nil =>
      obtain ⟨g, hg, -⟩ := h
      simp at hg
  | cons f later ih =>
      by_cases hlater : Captured field later
      · obtain ⟨middle, g, tail, rfl, hg, htail⟩ := ih hlater
        exact ⟨f :: middle, g, tail, rfl, hg, htail⟩
      · obtain ⟨g, hg, hhelper⟩ := h
        rcases List.mem_cons.1 hg with rfl | hg
        · exact ⟨[], g, later, rfl, hhelper, hlater⟩
        · exact absurd ⟨g, hg, hhelper⟩ hlater

/-- A name that no later field declares. -/
theorem not_declares {field : Field} {before tail : List Field}
    (hnodup : ((before ++ tail).map Field.name).Nodup) (hfield : field ∈ before)
    (hcaptured : ¬ Captured field tail) : ¬ Declares tail field.name := by
  rintro ⟨g, hg, hname | hhelper⟩
  · exact name_ne hnodup hfield hg hname
  · exact hcaptured ⟨g, hg, hhelper⟩

/-- The compiler takes a captured field for the helper variable that captures it. -/
theorem usable_captured {env : TypeEnv} {fields before tail : List Field} {g field : Field}
    (hfields : fields = before ++ g :: tail) (hnodup : (fields.map Field.name).Nodup)
    (hfield : field ∈ before) (hhelper : field.name ∈ g.shape.helpers)
    (htail : ¬ Captured field tail) :
    (contextOf env fields []).lookup field.name = (g.shape.locals env).lookup field.name := by
  have hsplit : fields = (before ++ [g]) ++ tail := by rw [hfields]; simp
  obtain ⟨new, hnew, hnames⟩ := exists_contextOf_eq env tail
    (declare env g (contextOf env before []))
  have hcontext : contextOf env fields [] = new ++ declare env g (contextOf env before []) := by
    rw [hsplit, contextOf_append, contextOf_append, ← hnew]
    rfl
  have hnot : field.name ∉ new.names := fun hx =>
    not_declares (hsplit ▸ hnodup) (List.mem_append_left _ hfield) htail (hnames _ hx)
  have hne : field.name ≠ g.name := name_ne (hfields ▸ hnodup) hfield List.mem_cons_self
  rw [hcontext, Scope.lookup_append_of_notMem hnot, declare, List.cons_append,
    Scope.lookup_cons_of_ne hne, Scope.lookup_append_of_mem]
  rw [FieldShape.names_locals]
  exact hhelper

/-- So the helper variable has the type of the field, and has not been moved. -/
theorem local_captured {env : TypeEnv} {fields before tail : List Field} {g field : Field}
    (hfields : fields = before ++ g :: tail) (hnodup : (fields.map Field.name).Nodup)
    (hfield : field ∈ before) (hhelper : field.name ∈ g.shape.helpers) (htail : ¬ Captured field tail)
    (huse : usable (contextOf env fields []) field.name = some (.used field.shape.usedType)) :
    (g.shape.locals env).lookup field.name = some ⟨.used field.shape.usedType, false⟩ := by
  rw [← usable_captured hfields hnodup hfield hhelper htail]
  unfold usable at huse
  split at huse
  · rename_i type hlookup
    rw [hlookup, Option.some_inj.1 huse]
  · simp at huse

/-- **A captured field has the value of the helper variable that captures it.** -/
theorem captured_value {env : TypeEnv} {fields before tail : List Field} {g field : Field}
    (hfields : fields = before ++ g :: tail) (hnodup : (fields.map Field.name).Nodup)
    (hp : ∀ field ∈ fields, field.Plausible)
    (huse : usable (contextOf env fields []) g.name = some (.used g.shape.usedType))
    (hfield : field ∈ before) (hhelper : field.name ∈ g.shape.helpers)
    (htail : ¬ Captured field tail) (hg : Captured g tail → Single env g.shape.usedType)
    {input : List UInt8} {scope : Scope String Value} {rest : List UInt8}
    (hrun : (fieldsCode fields).run env [] input = .ok (scope, rest)) :
    ∃ scope₁ input₁ locals rest₁,
      g.shape.readLocals env scope₁ input₁ = .ok ((valueOf scope g.name, locals), rest₁) ∧
        locals.lookup field.name = some (valueOf scope field.name) := by
  have hgmem : g ∈ fields := by simp [hfields]
  have hsplit : fields = (before ++ [g]) ++ tail := by rw [hfields]; simp
  have htyped := typed_fieldsCode hp List.Forall₂.nil hrun
  -- the code of the field that captures, and the code after it
  rw [hfields, run_fieldsCode_append] at hrun
  obtain ⟨scope₁, input₁, -, hrest⟩ := bind_eq_ok hrun
  rw [fieldsCode, run_append] at hrest
  obtain ⟨scope₂, input₂, hcode, hrest⟩ := bind_eq_ok hrest
  rw [run_generateReaderFor env (hp g hgmem)] at hcode
  obtain ⟨⟨w, locals⟩, hread, rfl⟩ := map_eq_ok hcode
  obtain ⟨new, rfl, hnames⟩ := exists_scope_eq (fun f hf => hp f (by simp [hfields, hf])) hrest
  have hnew : ∀ {f : Field}, f ∈ before ++ [g] → ¬ Captured f tail → f.name ∉ new.names :=
    fun hf hcaptured hx => not_declares (hsplit ▸ hnodup) hf hcaptured (hnames _ hx)
  -- the field that captures has kept its value, or has a single one anyway
  have hw : valueOf (new ++ ((g.name, w) :: locals ++ scope₁)) g.name = w := by
    by_cases hcaptured : Captured g tail
    · obtain ⟨w', hlookup, hw'⟩ := htyped.usable huse
      rw [valueOf, hlookup]
      exact hg hcaptured w' w hw' (typed_readLocals hread).1
    · rw [valueOf, Scope.lookup_append_of_notMem (hnew (by simp) hcaptured)]
      simp
  have hne : field.name ≠ g.name := name_ne (hfields ▸ hnodup) hfield List.mem_cons_self
  have hmem : field.name ∈ locals.names := by
    rw [names_readLocals hread]
    exact hhelper
  have hvalue : (new ++ ((g.name, w) :: locals ++ scope₁)).lookup field.name = locals.lookup field.name := by
    rw [Scope.lookup_append_of_notMem (hnew (List.mem_append_left _ hfield) htail), List.cons_append,
      Scope.lookup_cons_of_ne hne, Scope.lookup_append_of_mem hmem]
  refine ⟨scope₁, input₁, locals, input₂, hw.symm ▸ hread, ?_⟩
  rw [valueOf, hvalue]
  cases hlookup : locals.lookup field.name with
  | none => exact absurd hmem (Scope.lookup_eq_none.1 hlookup)
  | some v => rfl

/-- If everything that can be read for the fields is returned for some input, a field that is captured has
a single value. -/
theorem single_of_returns {env : TypeEnv} {fields : List Field} (hwf : WellFormed fields)
    (hacc : accepted env fields = true)
    (hreturns : ∀ chunk vs, (readFields env fields []).Reads chunk vs →
      ∃ input rest, runFields env fields input = .ok (vs, rest)) :
    ∀ (n : ℕ) (before : List Field) (field : Field) (later : List Field), later.length = n →
      fields = before ++ field :: later → Captured field later → Single env field.shape.usedType := by
  have hp := plausible_of_accepted hwf.tuples hacc
  obtain ⟨-, hend⟩ := (accepted_iff env hp hwf.nodup).1 hacc
  intro n
  -- the last captured field first: the fields after it have kept their values
  induction n using Nat.strong_induction_on with
  | _ n ih =>
      intro before field later hn hfields hcaptured
      obtain ⟨middle, g, tail, rfl, hhelper, htail⟩ := hcaptured.last
      have hsplit : fields = (before ++ field :: middle) ++ g :: tail := by rw [hfields]; simp
      have hg : Captured g tail → Single env g.shape.usedType := fun hg =>
        ih tail.length (by rw [← hn, List.length_append, List.length_cons]; omega) _ g tail rfl hsplit hg
      have hmem : field ∈ before ++ field :: middle := by simp
      -- the compiler has accepted the helper variable in place of the field
      have hlocal := local_captured hsplit hwf.nodup hmem hhelper htail (hend field (by simp [hfields]))
      intro v₁ v₂ h₁ h₂
      by_contra hne
      obtain ⟨chunkg, w, locals, hw, hdetermined⟩ := exists_determined env (List.ne_nil_of_mem hhelper)
      obtain ⟨chunkf, v, hv, hvne⟩ := exists_reads_ne (usedType_of_locals hlocal) h₁ h₂ hne
        (valueOf locals field.name)
      -- bytes from which everything is read, and these two fields with values that differ
      obtain ⟨chunkb, vsb, hb⟩ := exists_reads_readFields env before []
      obtain ⟨chunkm, vsm, hm⟩ := exists_reads_readFields env middle
        ((field.name, v) :: bindAll before vsb [])
      have hfront := reads_readFields_append hb (hv _) hm
      obtain ⟨chunkt, vst, ht⟩ := exists_reads_readFields env tail
        ((g.name, w) :: bindAll (before ++ field :: middle) (vsb ++ v :: vsm) [])
      have hall := reads_readFields_append hfront (hw _) ht
      rw [← hsplit] at hall
      obtain ⟨input, rest, hrun⟩ := hreturns _ _ hall
      obtain ⟨scope, _, hscope, hpure⟩ := bind_eq_ok hrun
      obtain ⟨hvalues, -⟩ := pure_eq_ok hpure
      obtain ⟨scope₁, input₁, locals', rest₁, hread, hlookup⟩ := captured_value hsplit hwf.nodup hp
        (hend g (by simp [hsplit])) hmem hhelper htail hg hscope
      -- the values of the two fields
      have hlenb : vsb.length = before.length := length_of_readFields (hb [])
      have hlenm : vsm.length = middle.length := length_of_readFields (hm [])
      rw [hsplit, List.map_append, List.map_append, List.map_cons, List.map_cons] at hvalues
      obtain ⟨hfirst, hsecond⟩ := List.append_inj hvalues (by simp [hlenb, hlenm])
      obtain ⟨-, hfirst⟩ := List.append_inj hfirst (by simp [hlenb])
      have hvalueg : valueOf scope g.name = w := (List.cons.inj hsecond).1
      have hvaluef : valueOf scope field.name = v := (List.cons.inj hfirst).1
      rw [hvalueg] at hread
      obtain rfl := hdetermined _ _ _ _ hread
      rw [hvaluef] at hlookup
      exact hvne (by rw [valueOf, hlookup]; rfl)

/-! ### Renaming -/

def Condition.rename (ρ : String → String) (condition : Condition) : Condition where
  operands := condition.operands.map fun c => (ρ c.1, c.2)
  holds := condition.holds

/-- The condition of a field names other fields. -/
def FieldShape.rename (ρ : String → String) : FieldShape → FieldShape
  | .option inner (.when condition) => .option inner (.when (condition.rename ρ))
  | shape => shape

def Field.rename (ρ : String → String) (field : Field) : Field where
  name := ρ field.name
  shape := field.shape.rename ρ

/-- On every input, the derived reader returns for each field the value that is read for it, before and
after the renaming. -/
def NamesDoNotMatter (env : TypeEnv) (fields : List Field) (ρ : String → String) : Prop :=
  ∀ input,
    (derivedRead env fields).map (fun read => read input) = some (readFields env fields [] input) ∧
      (derivedRead env (fields.map (Field.rename ρ))).map (fun read => read input) =
        some (readFields env fields [] input)

theorem FieldShape.usedType_rename (ρ : String → String) (shape : FieldShape) :
    (shape.rename ρ).usedType = shape.usedType := by
  cases shape with
  | option inner repr => cases repr <;> rfl
  | _ => rfl

/-- A scope with the names changed. -/
def renameScope (ρ : String → String) (scope : Scope String Value) : Scope String Value :=
  scope.map fun e => (ρ e.1, e.2)

theorem lookup_renameScope {ρ : String → String} {names : Set String} (hρ : Set.InjOn ρ names)
    {scope : Scope String Value} (hscope : ∀ x ∈ scope.names, x ∈ names) {x : String} (hx : x ∈ names) :
    (renameScope ρ scope).lookup (ρ x) = scope.lookup x := by
  induction scope with
  | nil => rfl
  | cons e scope ih =>
      obtain ⟨y, v⟩ := e
      have hrest := ih fun z hz => hscope z (List.mem_cons_of_mem _ hz)
      by_cases hxy : x = y
      · subst hxy
        simp [renameScope]
      · have hne : ρ x ≠ ρ y := fun heq => hxy (hρ hx (hscope y List.mem_cons_self) heq)
        rw [Scope.lookup_cons_of_ne hxy, ← hrest]
        exact Scope.lookup_cons_of_ne hne v _

/-- What is read for the fields does not depend on their names. -/
theorem readFields_rename (env : TypeEnv) {ρ : String → String} {names : Set String}
    (hρ : Set.InjOn ρ names) :
    ∀ {fields : List Field} (_ : ∀ field ∈ fields, field.name ∈ names)
      (_ : ∀ field ∈ fields, ∀ inner condition, field.shape = .option inner (.when condition) →
        ∀ c ∈ condition.operands, c.1 ∈ names)
      (scope : Scope String Value) (_ : ∀ x ∈ scope.names, x ∈ names),
      readFields env (fields.map (Field.rename ρ)) (renameScope ρ scope) =
        readFields env fields scope := by
  intro fields
  induction fields with
  | nil => intros; rfl
  | cons field fields ih =>
      intro hfields hconditions scope hscope
      have hread : (field.rename ρ).shape.read env (renameScope ρ scope) = field.shape.read env scope := by
        obtain ⟨ident, shape⟩ := field
        cases shape with
        | option inner repr =>
            cases repr with
            | when condition =>
                have heval : (condition.rename ρ).eval (renameScope ρ scope) = condition.eval scope := by
                  refine congrArg condition.holds ?_
                  rw [Condition.rename, List.map_map]
                  refine List.map_congr_left fun c hc => ?_
                  have hx := hconditions _ List.mem_cons_self inner condition rfl c hc
                  simp only [Function.comp_apply, valueOf, lookup_renameScope hρ hscope hx]
                simp only [Field.rename, FieldShape.rename, FieldShape.read, heval]
            | _ => rfl
        | string size => cases size <;> rfl
        | _ => rfl
      have hnext : ∀ v, renameScope ρ ((field.name, v) :: scope) =
          ((field.rename ρ).name, v) :: renameScope ρ scope := fun _ => rfl
      rw [List.map_cons, readFields, readFields, hread]
      refine bind_congr fun v => ?_
      rw [← hnext, ih (fun f hf => hfields f (List.mem_cons_of_mem _ hf))
        (fun f hf => hconditions f (List.mem_cons_of_mem _ hf))]
      intro x hx
      rcases List.mem_cons.1 hx with rfl | hx
      · exact hfields field List.mem_cons_self
      · exact hscope x hx

theorem WellFormed.operands_mem {fields : List Field} (h : WellFormed fields) :
    ∀ field ∈ fields, ∀ inner condition, field.shape = .option inner (.when condition) →
      ∀ c ∈ condition.operands, c.1 ∈ fields.map Field.name := by
  intro field hfield inner condition hshape c hc
  obtain ⟨before, later, rfl⟩ := List.append_of_mem hfield
  obtain ⟨g, hg, hname, -⟩ := h.conditions before field later rfl inner condition hshape c hc
  rw [← hname]
  exact List.mem_map_of_mem (List.mem_append_left _ hg)

theorem WellFormed.rename {fields : List Field} (h : WellFormed fields) {ρ : String → String}
    (hρ : Set.InjOn ρ {x | x ∈ fields.map Field.name}) : WellFormed (fields.map (Field.rename ρ)) where
  nodup := by
    have hnames : (fields.map (Field.rename ρ)).map Field.name = (fields.map Field.name).map ρ := by
      rw [List.map_map, List.map_map]
      rfl
    rw [hnames]
    exact h.nodup.map_on fun x hx y hy heq => hρ hx hy heq
  tuples := by
    intro field hfield tys hshape
    obtain ⟨f, hf, rfl⟩ := List.mem_map.1 hfield
    refine h.tuples f hf tys ?_
    revert hshape
    unfold Field.rename FieldShape.rename
    split <;> simp
  conditions := by
    intro before field later hsplit inner condition hshape c hc
    obtain ⟨before', rest, rfl, rfl, hrest⟩ := List.map_eq_append_iff.1 hsplit
    obtain ⟨field', later', rfl, rfl, rfl⟩ := List.map_eq_cons_iff.1 hrest
    revert hshape
    unfold Field.rename FieldShape.rename
    split
    · rename_i inner' condition' hshape'
      intro hshape
      obtain ⟨rfl, rfl⟩ : inner' = inner ∧ condition'.rename ρ = condition := by simpa using hshape
      obtain ⟨c', hc', rfl⟩ := List.mem_map.1 hc
      obtain ⟨g, hg, hname, htype⟩ := h.conditions before' field' later' rfl _ _ hshape' c' hc'
      refine ⟨g.rename ρ, List.mem_map_of_mem hg, ?_, ?_⟩
      · exact congrArg ρ hname
      · rw [← htype]
        exact FieldShape.usedType_rename ρ g.shape
    · rename_i hnot
      intro hshape
      exact absurd hshape (hnot _ _)

/-- A description is read as it should be if and only if there is no capture. -/
theorem noCapture_iff {env : TypeEnv} {fields : List Field} (hwf : WellFormed fields) :
    NoCapture env fields ↔ ∀ input, (derivedRead env fields).map (fun read => read input) =
      some (readFields env fields [] input) := by
  constructor
  · intro h input
    rw [derivedRead_eq hwf h]
    rfl
  · intro h
    have hacc : accepted env fields = true := by
      by_contra hnot
      have hnone := h []
      rw [derivedRead, if_neg hnot] at hnone
      simp at hnone
    refine ⟨hacc, fun before field later hfields hcaptured => ?_⟩
    refine single_of_returns hwf hacc (fun chunk vs hreads => ?_) _ before field later rfl hfields hcaptured
    have hrun := h chunk
    rw [derivedRead, if_pos hacc] at hrun
    have hchunk := hreads []
    rw [List.append_nil] at hchunk
    exact ⟨chunk, [], (Option.some_inj.1 hrun).trans hchunk⟩

/-- **When names do not matter**: for fields of the shapes that both derives accept and an injective
renaming of them, each field gets on every input the value that is read for it, before and after the
renaming, if and only if the code compiles both times, and each field whose name is that of a helper
variable of a later field has a single value anyway. -/
theorem namesDoNotMatter_iff (env : TypeEnv) (fields : List Field) (hwf : WellFormed fields)
    (ρ : String → String) (hρ : Set.InjOn ρ {x | x ∈ fields.map Field.name}) :
    NamesDoNotMatter env fields ρ ↔
      NoCapture env fields ∧ NoCapture env (fields.map (Field.rename ρ)) := by
  have hread : readFields env (fields.map (Field.rename ρ)) [] = readFields env fields [] :=
    readFields_rename env hρ (fun field hfield => List.mem_map_of_mem hfield) hwf.operands_mem [] (by simp)
  rw [noCapture_iff hwf, noCapture_iff (hwf.rename hρ), hread]
  exact forall_and

/-- Names that are not those of helper variables do no harm. -/
theorem noCapture_of_names {env : TypeEnv} {fields : List Field} (hacc : accepted env fields = true)
    (h : ∀ field ∈ fields, ∀ g ∈ fields, field.name ∉ g.shape.helpers) : NoCapture env fields where
  accepted := hacc
  single := by
    rintro before field later rfl ⟨g, hg, hhelper⟩
    exact absurd hhelper (h field (by simp) g (by simp [hg]))

/-- A level and a name. -/
def levelAndName : List Field := [⟨"level", .primitive (.primitive .u16)⟩, ⟨"name", .string .narrow⟩]

theorem wellFormed_levelAndName : WellFormed levelAndName where
  nodup := by decide
  tuples := by simp [levelAndName]
  conditions := by
    intro before field later hsplit inner condition hshape
    have hmem : field ∈ levelAndName := by
      rw [hsplit]
      simp
    simp only [levelAndName, List.mem_cons, List.not_mem_nil, or_false] at hmem
    rcases hmem with rfl | rfl <;> simp at hshape

theorem injOn_renameLevel {y : String} (hy : y ≠ "name") :
    Set.InjOn (fun x => if x = "level" then y else x) {x | x ∈ levelAndName.map Field.name} := by
  intro x hx z hz heq
  replace hx : x = "level" ∨ x = "name" := by simpa [levelAndName] using hx
  replace hz : z = "level" ∨ z = "name" := by simpa [levelAndName] using hz
  rcases hx with rfl | rfl <;> rcases hz with rfl | rfl <;> simp_all

/-- The level under another name. -/
theorem namesDoNotMatter_level :
    NamesDoNotMatter (fun _ => Primitive.u8.serdeType) levelAndName
      (fun x => if x = "level" then "rank" else x) := by
  refine (namesDoNotMatter_iff _ _ wellFormed_levelAndName _ (injOn_renameLevel (by decide))).2
    ⟨noCapture_of_names (by decide) ?_, noCapture_of_names (by decide) ?_⟩
  · simp [levelAndName, FieldShape.helpers]
  · simp [levelAndName, Field.rename, FieldShape.rename, FieldShape.helpers]

/-- The level of `[5, 0, 1, 0, 65]` is five; under the name `len` it is one, the length of the string
behind it. -/
theorem level_named_len_is_captured :
    let ρ : String → String := fun x => if x = "level" then "len" else x
    let env : TypeEnv := fun _ => Primitive.u8.serdeType
    WellFormed levelAndName ∧ Set.InjOn ρ {x | x ∈ levelAndName.map Field.name} ∧
      (derivedRead env levelAndName).map (fun read => read [5, 0, 1, 0, 65]) =
        some (.ok ([.word 2 5, .string "A"], [])) ∧
      (derivedRead env (levelAndName.map (Field.rename ρ))).map (fun read => read [5, 0, 1, 0, 65]) =
        some (.ok ([.word 2 1, .string "A"], [])) ∧
      ¬ NamesDoNotMatter env levelAndName ρ := by
  intro ρ env
  have hrename : levelAndName.map (Field.rename ρ) =
      [⟨"len", .primitive (.primitive .u16)⟩, ⟨"name", .string .narrow⟩] := by
    simp [levelAndName, Field.rename, FieldShape.rename, ρ]
  have hbefore : (derivedRead env levelAndName).map (fun read => read [5, 0, 1, 0, 65]) =
      some (.ok ([.word 2 5, .string "A"], [])) := rfl
  have hafter : (derivedRead env (levelAndName.map (Field.rename ρ))).map
      (fun read => read [5, 0, 1, 0, 65]) = some (.ok ([.word 2 1, .string "A"], [])) := by
    rw [hrename]
    rfl
  refine ⟨wellFormed_levelAndName, injOn_renameLevel (by decide), hbefore, hafter, fun h => ?_⟩
  obtain ⟨hread, hread'⟩ := h [5, 0, 1, 0, 65]
  have heq := hbefore.symm.trans (hread.trans (hread'.symm.trans hafter))
  simp at heq

end Skrillax

/-
**Bytes that fields are read from.**

Whatever the fields of a type are, there are bytes from which they are read.  Where the value of a field
gives away a helper variable of its code, there are bytes for which it does, and a field of the type of the
helper variable can be read from other bytes with any other value.

Main results:

* `FieldShape.exists_reads`, `exists_reads_readFields` — there is something to read;
* `readFields_append` — reading the fields up to a point, and the rest;
* `exists_determined` — a helper variable that is determined by the value of the field;
* `exists_reads_ne` — a value that is different from the given one.
-/

import Skrillax.DeriveCheck

set_option relaxedAutoImplicit false
set_option autoImplicit false

namespace Skrillax

open ByteReader Code

/-! ### There is something to read -/

theorem stringFromUtf8_nil : stringFromUtf8 [] = pure (.string "") := stringFromUtf8_bytes ""

theorem reads_readString_nil : readString.Reads [0, 0] (.string "") := by
  have hnil : (stringFromUtf8 []).Reads [] (.string "") := by
    rw [stringFromUtf8_nil]
    exact Reads.pure _
  exact (Primitive.reads_read .u16 0).bind hnil

theorem reads_readWideString_nil : readWideString.Reads [0, 0] (.string "") :=
  (Primitive.reads_read .u16 0).bind (Reads.pure _)

theorem Inner.exists_reads (env : TypeEnv) (inner : Inner) :
    ∃ chunk v, (inner.read env).Reads chunk v := by
  cases inner with
  | plain ty => exact (env.serde ty).readable
  | string => exact ⟨_, _, reads_readString_nil⟩

theorem exists_reads_readAll (env : TypeEnv) (tys : List Ty) :
    ∃ chunk vs, (readAll env tys).Reads chunk vs := by
  induction tys with
  | nil => exact ⟨[], [], Reads.pure []⟩
  | cons ty tys ih =>
      obtain ⟨chunk, v, hv⟩ := (env.serde ty).readable
      obtain ⟨chunk', vs, hvs⟩ := ih
      exact ⟨_, _, hv.bind (hvs.map _)⟩

theorem reads_collection_nil (env : TypeEnv) (inner : Inner) (repr : ListRepr)
    (scope : Scope String Value) :
    (FieldShape.read env scope (.collection inner repr)).Reads [0] (.vec []) :=
  (Primitive.reads_read .u8 0).bind ((Reads.pure []).map Value.vec)

theorem reads_collection_singleton {env : TypeEnv} {inner : Inner} {chunk : List UInt8} {v : Value}
    (h : (inner.read env).Reads chunk v) (repr : ListRepr) (scope : Scope String Value) :
    (FieldShape.read env scope (.collection inner repr)).Reads (1 :: chunk) (.vec [v]) := by
  have hone : (inner.read env |>.many 1).Reads (chunk ++ []) [v] := h.bind (Reads.pure [v])
  rw [List.append_nil] at hone
  exact (Primitive.reads_read .u8 1).bind (hone.map Value.vec)

theorem reads_option_some {env : TypeEnv} {inner : Inner} {chunk : List UInt8} {v : Value}
    (h : (inner.read env).Reads chunk v) {repr : OptionRepr} (hrepr : ∀ c, repr ≠ .when c)
    (scope : Scope String Value) :
    (FieldShape.read env scope (.option inner repr)).Reads (1 :: chunk) (.some v) := by
  cases repr with
  | when c => exact absurd rfl (hrepr c)
  | _ => exact (Primitive.reads_read .u8 1).bind (h.map Value.some)

theorem reads_array (env : TypeEnv) (scope : Scope String Value) (bytes : List UInt8) :
    (FieldShape.read env scope (.array bytes.length)).Reads bytes (.array bytes) :=
  (Reads.exactly _ bytes).map Value.array

theorem FieldShape.exists_reads (env : TypeEnv) (scope : Scope String Value) (shape : FieldShape) :
    ∃ chunk v, (shape.read env scope).Reads chunk v := by
  cases shape with
  | primitive ty => exact (env.serde ty).readable
  | string size =>
      cases size with
      | narrow => exact ⟨_, _, reads_readString_nil⟩
      | wide => exact ⟨_, _, reads_readWideString_nil⟩
  | array len =>
      have hreads := reads_array env scope (List.replicate len 0)
      rw [List.length_replicate] at hreads
      exact ⟨_, _, hreads⟩
  | collection inner repr => exact ⟨_, _, reads_collection_nil env inner repr scope⟩
  | option inner repr =>
      obtain ⟨chunk, v, hv⟩ := inner.exists_reads env
      cases repr with
      | when condition =>
          by_cases hcond : condition.eval scope = true
          · refine ⟨chunk, .some v, ?_⟩
            rw [FieldShape.read, if_pos hcond]
            exact hv.map Value.some
          · refine ⟨[], .none, ?_⟩
            rw [FieldShape.read, if_neg hcond]
            exact Reads.pure _
      | flag | bare => exact ⟨_, _, reads_option_some hv (by simp) scope⟩
  | tuple tys =>
      obtain ⟨chunk, vs, hvs⟩ := exists_reads_readAll env tys
      exact ⟨chunk, _, hvs.map Value.tuple⟩

theorem exists_reads_readFields (env : TypeEnv) (fields : List Field) :
    ∀ scope, ∃ chunk vs, (readFields env fields scope).Reads chunk vs := by
  induction fields with
  | nil => exact fun _ => ⟨[], [], Reads.pure []⟩
  | cons field fields ih =>
      intro scope
      obtain ⟨chunk, v, hv⟩ := field.shape.exists_reads env scope
      obtain ⟨chunk', vs, hvs⟩ := ih ((field.name, v) :: scope)
      exact ⟨_, _, hv.bind (hvs.map _)⟩

/-! ### Fields one after the other -/

/-- The scope after fields with the given values. -/
def bindAll : List Field → List Value → Scope String Value → Scope String Value
  | field :: fields, v :: vs, scope => bindAll fields vs ((field.name, v) :: scope)
  | _, _, scope => scope

theorem readFields_append (env : TypeEnv) (fields later : List Field) :
    ∀ scope, readFields env (fields ++ later) scope = do
      let vs ← readFields env fields scope
      let ws ← readFields env later (bindAll fields vs scope)
      return vs ++ ws := by
  induction fields with
  | nil => intro scope; simp [readFields, bindAll]
  | cons field fields ih =>
      intro scope
      simp only [List.cons_append, readFields, ih, bind_assoc, pure_bind, bindAll]

theorem length_of_readFields {env : TypeEnv} :
    ∀ {fields : List Field} {scope : Scope String Value} {input : List UInt8} {vs : List Value}
      {rest : List UInt8}, readFields env fields scope input = .ok (vs, rest) →
        vs.length = fields.length := by
  intro fields
  induction fields with
  | nil =>
      intro scope input vs rest h
      obtain ⟨rfl, -⟩ := pure_eq_ok h
      rfl
  | cons field fields ih =>
      intro scope input vs rest h
      obtain ⟨v, _, -, h⟩ := bind_eq_ok h
      obtain ⟨vs', _, hvs, h⟩ := bind_eq_ok h
      obtain ⟨rfl, -⟩ := pure_eq_ok h
      rw [List.length_cons, List.length_cons, ih hvs]

/-- Fields before a field, and fields after it. -/
theorem reads_readFields_append {env : TypeEnv} {before later : List Field} {field : Field}
    {chunk chunk' chunk'' : List UInt8} {vs ws : List Value} {v : Value}
    (hbefore : (readFields env before []).Reads chunk vs)
    (hfield : (field.shape.read env (bindAll before vs [])).Reads chunk' v)
    (hlater : (readFields env later ((field.name, v) :: bindAll before vs [])).Reads chunk'' ws) :
    (readFields env (before ++ field :: later) []).Reads (chunk ++ (chunk' ++ chunk'')) (vs ++ v :: ws) := by
  rw [readFields_append]
  refine hbefore.bind ?_
  have hrest : (readFields env (field :: later) (bindAll before vs [])).Reads (chunk' ++ chunk'')
      (v :: ws) := hfield.bind (hlater.map (v :: ·))
  exact hrest.map (vs ++ ·)

/-! ### Helper variables that are determined -/

/-- A word is determined by its number. -/
theorem eq_word_of_toNat {width : ℕ} {v : Value} (h : ∃ bits : BitVec (8 * width), v = .word width bits)
    {n : ℕ} (hn : v.toNat = n) : v = .word width (BitVec.ofNat _ n) := by
  obtain ⟨bits, rfl⟩ := h
  rw [← hn, Value.toNat_word, BitVec.ofNat_toNat, BitVec.setWidth_eq]

theorem decodeUtf16_eq_nil {units : List ℕ} (h : decodeUtf16 units = some []) : units = [] := by
  cases units with
  | nil => rfl
  | cons high units =>
      unfold decodeUtf16 at h
      split at h
      · simp at h
      · split at h
        · split at h
          · simp at h
          · split at h <;> simp at h
        · simp at h

/-- The helper variables of an empty string. -/
theorem locals_of_readString (env : TypeEnv) {input : List UInt8} {locals : Scope String Value}
    {rest : List UInt8} (h : Inner.readLocals env .string input = .ok ((.string "", locals), rest)) :
    locals = [("bytes", .vec []), ("len", .word 2 0)] := by
  obtain ⟨len, _, hlen, h⟩ := bind_eq_ok h
  obtain ⟨bytes, _, hbytes, h⟩ := bind_eq_ok h
  obtain ⟨s, _, hs, h⟩ := bind_eq_ok h
  obtain ⟨h, -⟩ := pure_eq_ok h
  obtain ⟨rfl, rfl⟩ := Prod.mk.inj h
  obtain ⟨t, ht, hnil, -⟩ := eq_of_stringFromUtf8 hs
  obtain rfl : "" = t := by simpa using ht
  obtain rfl : bytes = [] := List.map_eq_nil_iff.1 hnil
  have hcount := length_of_many hbytes
  rw [eq_word_of_toNat (Primitive.valid_of_read hlen) hcount.symm]
  rfl

theorem locals_of_readWideString {env : TypeEnv} {scope : Scope String Value} {input : List UInt8}
    {locals : Scope String Value} {rest : List UInt8}
    (h : FieldShape.readLocals env scope (.string .wide) input = .ok ((.string "", locals), rest)) :
    locals = [("bytes", .vec []), ("len", .word 2 0)] := by
  obtain ⟨len, _, hlen, h⟩ := bind_eq_ok h
  obtain ⟨units, _, hunits, h⟩ := bind_eq_ok h
  obtain ⟨s, _, hs, h⟩ := bind_eq_ok h
  obtain ⟨h, -⟩ := pure_eq_ok h
  obtain ⟨rfl, rfl⟩ := Prod.mk.inj h
  obtain ⟨t, ht, hdecode, -⟩ := eq_of_stringFromUtf16 hs
  obtain rfl : t = [] := by simpa using ht.symm
  obtain rfl : units = [] := List.map_eq_nil_iff.1 (decodeUtf16_eq_nil hdecode)
  have hcount := length_of_many hunits
  rw [eq_word_of_toNat (Primitive.valid_of_read hlen) hcount.symm]
  rfl

theorem locals_of_collection {env : TypeEnv} {scope : Scope String Value} {inner : Inner}
    {repr : ListRepr} {input : List UInt8} {locals : Scope String Value} {rest : List UInt8}
    (h : FieldShape.readLocals env scope (.collection inner repr) input = .ok ((.vec [], locals), rest)) :
    locals = [("items", .vec []), ("size", .word 1 0)] := by
  obtain ⟨size, _, hsize, h⟩ := bind_eq_ok h
  obtain ⟨items, _, hitems, h⟩ := bind_eq_ok h
  obtain ⟨h, -⟩ := pure_eq_ok h
  obtain ⟨hvec, rfl⟩ := Prod.mk.inj h
  obtain rfl : items = [] := by simpa using hvec
  have hcount := length_of_many hitems
  rw [eq_word_of_toNat (Primitive.valid_of_read hsize) hcount.symm]
  rfl

theorem locals_of_option {env : TypeEnv} {scope : Scope String Value} {inner : Inner}
    {repr : OptionRepr} (hrepr : ∀ c, repr ≠ .when c) {input : List UInt8} {v : Value}
    {locals : Scope String Value} {rest : List UInt8}
    (h : FieldShape.readLocals env scope (.option inner repr) input = .ok ((.some v, locals), rest)) :
    locals = [("some", .word 1 1)] := by
  cases repr with
  | when c => exact absurd rfl (hrepr c)
  | _ =>
      obtain ⟨flag, _, hflag, h⟩ := bind_eq_ok h
      split at h
      · rename_i hone
        obtain ⟨w, _, -, h⟩ := bind_eq_ok h
        obtain ⟨h, -⟩ := pure_eq_ok h
        obtain ⟨-, rfl⟩ := Prod.mk.inj h
        rw [eq_word_of_toNat (Primitive.valid_of_read hflag) hone]
        rfl
      · obtain ⟨h, -⟩ := pure_eq_ok h
        simp at h

theorem locals_of_array {env : TypeEnv} {scope : Scope String Value} {len : ℕ} {input : List UInt8}
    {v : Value} {locals : Scope String Value} {rest : List UInt8}
    (h : FieldShape.readLocals env scope (.array len) input = .ok ((v, locals), rest)) :
    locals = [("bytes", v)] := by
  obtain ⟨bytes, _, -, h⟩ := bind_eq_ok h
  obtain ⟨h, -⟩ := pure_eq_ok h
  obtain ⟨rfl, rfl⟩ := Prod.mk.inj h
  rfl

theorem locals_of_tuple {env : TypeEnv} {scope : Scope String Value} {tys : List Ty} {input : List UInt8}
    {vs : List Value} {locals : Scope String Value} {rest : List UInt8}
    (h : FieldShape.readLocals env scope (.tuple tys) input = .ok ((.tuple vs, locals), rest)) :
    locals = components 0 vs := by
  obtain ⟨ws, _, -, h⟩ := bind_eq_ok h
  obtain ⟨h, -⟩ := pure_eq_ok h
  obtain ⟨htuple, rfl⟩ := Prod.mk.inj h
  obtain rfl : ws = vs := by simpa using htuple
  rfl

/-- A field with helper variables is read from some bytes with a value that determines them. -/
theorem exists_determined (env : TypeEnv) {shape : FieldShape} (hhelpers : shape.helpers ≠ []) :
    ∃ chunk w locals, (∀ scope, (shape.read env scope).Reads chunk w) ∧
      ∀ scope input locals' rest, shape.readLocals env scope input = .ok ((w, locals'), rest) →
        locals' = locals := by
  cases shape with
  | primitive ty => exact absurd rfl hhelpers
  | string size =>
      cases size with
      | narrow =>
          exact ⟨_, _, _, fun _ => reads_readString_nil, fun _ _ _ _ h => locals_of_readString env h⟩
      | wide =>
          exact ⟨_, _, _, fun _ => reads_readWideString_nil, fun _ _ _ _ h => locals_of_readWideString h⟩
  | array len =>
      have hreads : ∀ scope, (FieldShape.read env scope (.array len)).Reads (List.replicate len 0)
          (.array (List.replicate len 0)) := by
        intro scope
        have hreads := reads_array env scope (List.replicate len 0)
        rwa [List.length_replicate] at hreads
      exact ⟨_, _, _, hreads, fun _ _ _ _ h => locals_of_array h⟩
  | collection inner repr =>
      exact ⟨_, _, _, reads_collection_nil env inner repr, fun _ _ _ _ h => locals_of_collection h⟩
  | option inner repr =>
      obtain ⟨chunk, v, hv⟩ := inner.exists_reads env
      cases repr with
      | when condition => exact absurd rfl hhelpers
      | flag | bare =>
          exact ⟨_, _, _, reads_option_some hv (by simp), fun _ _ _ _ h => locals_of_option (by simp) h⟩
  | tuple tys =>
      obtain ⟨chunk, vs, hvs⟩ := exists_reads_readAll env tys
      exact ⟨chunk, _, _, fun _ => hvs.map Value.tuple, fun _ _ _ _ h => locals_of_tuple h⟩

theorem mem_of_lookup {locals : Scope String Local} {x : String} {l : Local}
    (h : locals.lookup x = some l) : (x, l) ∈ locals := by
  obtain ⟨front, back, rfl, -⟩ := List.lookup_eq_some_iff.1 h
  simp

/-- The variable of a component has the type of a component. -/
theorem exists_component {env : TypeEnv} {tys : List Ty} {x : String} {ty : UsedType} {moved : Bool}
    (h : (x, (⟨.used ty, moved⟩ : Local)) ∈ components 0 (tys.map (componentLocal env))) :
    ∃ t ∈ tys, ty = .primitive t := by
  obtain ⟨t, ht, heq⟩ := List.mem_map.1 (mem_of_mem_components h)
  obtain ⟨htype, -⟩ := Local.mk.inj heq
  exact ⟨t, ht, (LocalType.used.inj htype).symm⟩

/-- The types of the helper variables that can still be used. -/
theorem usedType_of_locals {env : TypeEnv} {shape : FieldShape} {x : String} {ty : UsedType}
    (h : (shape.locals env).lookup x = some ⟨.used ty, false⟩) :
    (∃ t, ty = .primitive t) ∨ (∃ len, ty = .array len) ∨ ∃ inner, ty = .collection inner := by
  have hmem := mem_of_lookup h
  cases shape with
  | primitive t => simp [FieldShape.locals] at hmem
  | string size =>
      cases size with
      | narrow =>
          obtain ⟨-, rfl⟩ : x = "len" ∧ ty = .u16 := by simpa [FieldShape.locals, Inner.locals] using hmem
          exact Or.inl ⟨_, rfl⟩
      | wide =>
          obtain ⟨-, rfl⟩ | ⟨-, rfl⟩ :
              x = "bytes" ∧ ty = .collection (.plain (.primitive .u16)) ∨ x = "len" ∧ ty = .u16 := by
            simpa [FieldShape.locals] using hmem
          · exact Or.inr (Or.inr ⟨_, rfl⟩)
          · exact Or.inl ⟨_, rfl⟩
  | array len =>
      obtain ⟨-, rfl⟩ : x = "bytes" ∧ ty = .array len := by simpa [FieldShape.locals] using hmem
      exact Or.inr (Or.inl ⟨_, rfl⟩)
  | collection inner repr =>
      obtain ⟨-, rfl⟩ : x = "size" ∧ ty = .u8 := by simpa [FieldShape.locals] using hmem
      exact Or.inl ⟨_, rfl⟩
  | option inner repr =>
      cases repr with
      | when condition => simp [FieldShape.locals] at hmem
      | flag | bare =>
          obtain ⟨-, rfl⟩ : x = "some" ∧ ty = .u8 := by simpa [FieldShape.locals] using hmem
          exact Or.inl ⟨_, rfl⟩
  | tuple tys =>
      obtain ⟨t, -, rfl⟩ := exists_component hmem
      exact Or.inl ⟨t, rfl⟩

/-- Where a field of such a type can have different values, it can be read with a value other than the
given one. -/
theorem exists_reads_ne {env : TypeEnv} {shape : FieldShape}
    (htype : (∃ t, shape.usedType = .primitive t) ∨ (∃ len, shape.usedType = .array len) ∨
      ∃ inner, shape.usedType = .collection inner)
    {v₁ v₂ : Value} (h₁ : HasType env shape.usedType v₁) (h₂ : HasType env shape.usedType v₂)
    (hne : v₁ ≠ v₂) (h : Value) : ∃ chunk v, (∀ scope, (shape.read env scope).Reads chunk v) ∧ v ≠ h := by
  -- one of the two values is a different one
  have hcases : ∀ {P : Value → Prop}, P v₁ → P v₂ → ∃ v, P v ∧ v ≠ h := by
    intro P hp₁ hp₂
    by_cases heq : v₁ = h
    · exact ⟨v₂, hp₂, heq ▸ hne.symm⟩
    · exact ⟨v₁, hp₁, heq⟩
  cases shape with
  | primitive t =>
      obtain ⟨v, ⟨chunk, hv⟩, hvh⟩ := hcases h₁ h₂
      exact ⟨chunk, v, fun _ => hv, hvh⟩
  | array len =>
      obtain ⟨v, ⟨bytes, rfl, rfl⟩, hvh⟩ := hcases h₁ h₂
      exact ⟨bytes, _, fun scope => reads_array env scope bytes, hvh⟩
  | collection inner repr =>
      by_cases hnil : Value.vec [] = h
      · obtain ⟨chunk, v, hv⟩ := inner.exists_reads env
        exact ⟨_, _, reads_collection_singleton hv repr, by simp [← hnil]⟩
      · exact ⟨_, _, reads_collection_nil env inner repr, hnil⟩
  | string size => simp [FieldShape.usedType] at htype
  | option inner repr => simp [FieldShape.usedType] at htype
  | tuple tys => simp [FieldShape.usedType] at htype

end Skrillax

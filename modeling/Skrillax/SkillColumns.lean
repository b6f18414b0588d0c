/-
**The columns that can be read as parameters.**

What the columns of a skill have to be, so that its parameters are read without a panic: every parameter has
all its columns, names are text, objects have a number, and a list of monsters is closed by a zero.  The end
of the parameters is the end of the columns, a zero, or the name of something else.

Main definitions:

* `width`, `HasMeaning` — how many columns a kind has, and what they must be;
* `ReadableParams` — the columns that can be read.

Main results:

* `readerOf_of_some`, `exists_reader_of_width` — every kind has a width and a reader of that many columns, but
  the list of monsters;
* `readParams_isSome_iff` — **exactly these columns are read without a panic**.
-/

import Skrillax.SkillParams

set_option relaxedAutoImplicit false
set_option autoImplicit false

namespace Skrillax.SkillData

open PackedName RowReader

/-! ### The shape of the columns -/

/-- The number of columns of a kind; a list of monsters has any number of them. -/
def width (kind : String) : Option ℕ :=
  match kind with
  | "cbuf" | "nbuf" | "bbuf" | "lks2" | "vbuf" => some 0
  | "getv" | "dura" | "da" | "reqc" | "ru" | "hste" | "puls" | "psog" | "hwdu" | "mwhh" | "ck" => some 1
  | "mc" | "reqi" | "br" | "ko" | "kb" | "hpi" | "mpi" | "cr" | "hr" | "fz" | "fb" | "tant" | "onff"
  | "dru" | "tele" | "er" | "expu" | "resu" | "tnt2" | "atca" | "odar" | "apau" | "inti" | "stri" => some 2
  | "setv" | "defp" | "st" | "cnsm" | "es" | "bu" | "bgra" | "real" | "hide" | "sl" | "rt" | "ps" | "fe"
  | "se" => some 3
  | "summ" | "pw" | "heal" | "my" | "lnks" | "pet2" | "cssr" | "dn" | "csmd" | "cspd" | "ds"
  | "csit" => some 4
  | "att" | "bl" => some 5
  | "efr" | "cshp" => some 6
  | _ => none

/-- A name is text, and the numbers of an object are those of one. -/
def HasMeaning (kind : String) (columns : List UInt32) : Prop :=
  match kind with
  | "getv" | "setv" | "pet2" => ∃ name others, columns = name :: others ∧ (unpack name).isSome
  | "reqi" => ∃ t2 t3, columns = [t2, t3] ∧
      (ObjectEquippable.fromTypeValue t2.toUInt8 t3.toUInt8).isSome
  | "cnsm" => ∃ t2 t3 amount, columns = [t2, t3, amount] ∧
      (ObjectConsumable.fromTypeValue t2.toUInt8 t3.toUInt8).isSome
  | _ => True

/-- The columns that can be read as parameters. -/
inductive ReadableParams : List UInt32 → Prop
  | nothing {columns : List UInt32} (h : NamesNoParam columns) : ReadableParams columns
  | fields {first : UInt32} {kind : String} {columns rest : List UInt32} (hkind : unpack first = some kind)
      (hwidth : width kind = some columns.length) (hmeaning : HasMeaning kind columns)
      (hzero : kind = "setv" → rest.head? ≠ some 0) (hrest : ReadableParams rest) :
      ReadableParams (first :: (columns ++ rest))
  /-- The zero after an assignment belongs to it. -/
  | assignment {first : UInt32} {columns rest : List UInt32} (hkind : unpack first = some "setv")
      (hwidth : width "setv" = some columns.length) (hmeaning : HasMeaning "setv" columns)
      (hrest : ReadableParams rest) : ReadableParams (first :: (columns ++ 0 :: rest))
  /-- A first monster may have the id zero, where another one would close the list. -/
  | summons {first : UInt32} {monster : Vector UInt32 4} {monsters : List (Vector UInt32 4)}
      {rest : List UInt32} (hkind : unpack first = some "ssou")
      (hids : ∀ monster ∈ monsters, monster[0]! ≠ 0) (hrest : ReadableParams rest) :
      ReadableParams (first :: ((monster :: monsters).flatMap Vector.toList ++ 0 :: rest))

/-! ### The readers -/

/-- What the reader of a kind does. -/
inductive ReaderOf (kind : String) (reader : RowReader UInt32 SkillParam) : Prop
  | fields {n : ℕ} {make : Vector UInt32 n → Option SkillParam} (hwidth : width kind = some n)
      (hmake : ∀ v, (make v).isSome ↔ HasMeaning kind v.toList) (hset : kind ≠ "setv")
      (hreader : reader = fieldsOrFail n make) : ReaderOf kind reader
  | assignment {make : Vector UInt32 3 → Option SkillParam}
      (hmake : ∀ v, (make v).isSome ↔ HasMeaning kind v.toList) (hset : kind = "setv")
      (hreader : reader = droppingZero (fieldsOrFail 3 make)) : ReaderOf kind reader
  | summons (hkind : kind = "ssou") (hreader : reader = summonReader) : ReaderOf kind reader

/-- The first column of a vector of columns. -/
theorem exists_toList_eq_cons {n : ℕ} (v : Vector UInt32 (n + 1)) : ∃ others, v.toList = v[0]! :: others := by
  obtain ⟨⟨columns⟩, hlen⟩ := v
  cases columns with
  | nil => cases hlen
  | cons column others => exact ⟨others, rfl⟩

theorem exists_name_iff {n : ℕ} (v : Vector UInt32 (n + 1)) :
    (unpack v[0]!).isSome ↔ ∃ name others, v.toList = name :: others ∧ (unpack name).isSome := by
  obtain ⟨others, hv⟩ := exists_toList_eq_cons v
  rw [hv]
  simp

theorem toList_two (v : Vector UInt32 2) : v.toList = [v[0]!, v[1]!] := by
  obtain ⟨⟨columns⟩, hlen⟩ := v
  obtain ⟨a, b, rfl⟩ := List.length_eq_two.mp hlen
  rfl

theorem toList_three (v : Vector UInt32 3) : v.toList = [v[0]!, v[1]!, v[2]!] := by
  obtain ⟨⟨columns⟩, hlen⟩ := v
  obtain ⟨a, b, c, rfl⟩ := List.length_eq_three.mp hlen
  rfl

theorem readerOf_of_some {kind : String} {reader : RowReader UInt32 SkillParam}
    (h : paramReader kind = some reader) : ReaderOf kind reader := by
  unfold paramReader at h
  split at h
  all_goals
    try cases h
  -- most kinds have fields that may be anything
  all_goals
    first
    | exact .fields rfl (fun v => ⟨fun _ => trivial, fun _ => rfl⟩) (by decide) rfl
    | exact .fields rfl (fun v => ⟨fun _ => trivial, fun _ => rfl⟩) (by decide) (nothing_eq_fieldsOrFail _)
    | skip
  case h_3 =>
    refine .fields rfl (fun v => ?_) (by decide) rfl
    rw [Option.isSome_map]
    exact exists_name_iff v
  case h_4 =>
    refine .assignment (fun v => ?_) rfl rfl
    rw [Option.isSome_map]
    exact exists_name_iff v
  case h_6 =>
    refine .fields rfl (fun v => ?_) (by decide) rfl
    rw [Option.isSome_map, toList_two]
    simp [HasMeaning]
  case h_17 =>
    refine .fields rfl (fun v => ?_) (by decide) rfl
    rw [Option.isSome_map, toList_three]
    simp [HasMeaning]
  case h_46 => exact .summons rfl rfl
  case h_55 =>
    refine .fields rfl (fun v => ?_) (by decide) rfl
    rw [Option.isSome_map]
    exact exists_name_iff v

theorem exists_reader_of_width {kind : String} {n : ℕ} (h : width kind = some n) :
    ∃ reader, paramReader kind = some reader := by
  unfold width at h
  split at h
  all_goals
    first
    | exact ⟨_, rfl⟩
    | cases h

/-- The zero is dropped where there is one. -/
theorem droppingZero_run_eq_some_iff {r : RowReader UInt32 SkillParam} {row rest : List UInt32}
    {param : SkillParam} :
    (droppingZero r).run row = some (rest, param) ↔
      r.run row = some (0 :: rest, param) ∨ rest.head? ≠ some 0 ∧ r.run row = some (rest, param) := by
  simp only [droppingZero, Option.map_eq_some_iff, Prod.mk.injEq]
  constructor
  · rintro ⟨⟨left, read⟩, hread, hleft, rfl⟩
    dsimp only at hleft
    split at hleft
    · rename_i hhead
      obtain ⟨more, rfl⟩ := List.head?_eq_some_iff.mp hhead
      cases hleft
      exact Or.inl hread
    · rename_i hhead
      subst hleft
      exact Or.inr ⟨hhead, hread⟩
  · rintro (hread | ⟨hhead, hread⟩)
    · exact ⟨_, hread, by simp, rfl⟩
    · exact ⟨_, hread, if_neg hhead, rfl⟩

/-! ### The list of monsters -/

/-- What the loop has taken, where `summons` have been read before: the id of a first monster may be zero. -/
theorem exists_flatMap_of_readSummons {summons summons' : List MonsterSummon} {row left : List UInt32}
    (h : readSummons summons row = some (left, summons')) :
    (∃ rest, left = 0 :: rest) ∧ ∃ monsters : List (Vector UInt32 4),
      row = monsters.flatMap Vector.toList ++ left ∧
        if summons.isEmpty then ∃ monster others, monsters = monster :: others ∧ ∀ m ∈ others, m[0]! ≠ 0
        else ∀ m ∈ monsters, m[0]! ≠ 0 := by
  fun_induction readSummons summons row with
  | case1 summons row hhead => cases h
  | case2 summons row first hhead hmore hsplit => cases h
  | case3 summons row first hhead hmore current next hsplit hlt ih =>
      obtain ⟨hleft, monsters, hnext, hids⟩ := ih h
      rw [if_neg (by simp)] at hids
      have hrow : row = current.toList ++ next := splitAt_eq_some_iff.mp hsplit
      refine ⟨hleft, current :: monsters, by rw [List.flatMap_cons, List.append_assoc, ← hnext, hrow], ?_⟩
      split
      · exact ⟨current, monsters, rfl, hids⟩
      · rename_i hsome
        have hfirst : current[0]! = first := by
          obtain ⟨others, hcurrent⟩ := exists_toList_eq_cons current
          rw [hrow, hcurrent] at hhead
          exact Option.some.inj hhead
        intro m hm
        rcases List.mem_cons.mp hm with rfl | hm
        · rw [hfirst]
          exact hmore.resolve_right hsome
        · exact hids m hm
  | case4 summons row first hhead hdone =>
      cases h
      rw [not_or, not_not] at hdone
      obtain ⟨rfl, hsome⟩ := hdone
      obtain ⟨rest, hrow⟩ := List.head?_eq_some_iff.mp hhead
      refine ⟨⟨rest, hrow⟩, [], rfl, ?_⟩
      rw [if_neg hsome]
      simp

theorem exists_summonReader_run_iff {row rest : List UInt32} :
    (∃ param, summonReader.run row = some (rest, param)) ↔
      ∃ (monster : Vector UInt32 4) (others : List (Vector UInt32 4)),
        row = (monster :: others).flatMap Vector.toList ++ 0 :: rest ∧ ∀ m ∈ others, m[0]! ≠ 0 := by
  constructor
  · rintro ⟨param, hrun⟩
    obtain ⟨⟨left, summons⟩, hread, heq⟩ := Option.map_eq_some_iff.mp hrun
    obtain ⟨⟨rest', rfl⟩, monsters, hrow, hids⟩ := exists_flatMap_of_readSummons hread
    obtain rfl : rest' = rest := congrArg Prod.fst heq
    obtain ⟨monster, others, rfl, hids⟩ := hids
    exact ⟨monster, others, hrow, hids⟩
  · rintro ⟨monster, others, rfl, hids⟩
    have hread : readSummons [] ((monster :: others).flatMap Vector.toList ++ 0 :: rest) =
        some (0 :: rest, [.ofColumns monster] ++ others.map .ofColumns) := by
      rw [List.flatMap_cons, List.append_assoc, readSummons_of_more (Or.inr rfl)]
      exact readSummons_flatMap _ others (Or.inl (by simp)) hids rest
    refine ⟨.summonMonster ([.ofColumns monster] ++ others.map .ofColumns), ?_⟩
    simp only [summonReader, hread, Option.map_some, List.tail_cons]

/-! ### The parameters -/

theorem readable_of_parseParam {row rest : List UInt32} {param : SkillParam}
    (h : parseParam row = some (some (rest, param))) (hrest : ReadableParams rest) : ReadableParams row := by
  obtain ⟨first, data, kind, reader, rfl, hkind, hreader, hrun⟩ := parseParam_eq_some h
  cases readerOf_of_some hreader with
  | @fields n make hwidth hmake hset heq =>
      rw [heq] at hrun
      obtain ⟨v, rfl, hv⟩ := fieldsOrFail_run_eq_some_iff.mp hrun
      refine .fields hkind (by rw [hwidth, v.length_toList]) ((hmake v).mp (by rw [hv]; rfl))
        (fun h => absurd h hset) hrest
  | @assignment make hmake hset heq =>
      subst hset
      rw [heq] at hrun
      rcases droppingZero_run_eq_some_iff.mp hrun with hrun | ⟨hhead, hrun⟩
      · obtain ⟨v, rfl, hv⟩ := fieldsOrFail_run_eq_some_iff.mp hrun
        exact .assignment hkind (by rw [v.length_toList]; rfl) ((hmake v).mp (by rw [hv]; rfl)) hrest
      · obtain ⟨v, rfl, hv⟩ := fieldsOrFail_run_eq_some_iff.mp hrun
        exact .fields hkind (by rw [v.length_toList]; rfl) ((hmake v).mp (by rw [hv]; rfl)) (fun _ => hhead)
          hrest
  | summons hset heq =>
      subst hset
      rw [heq] at hrun
      obtain ⟨monster, others, rfl, hids⟩ := exists_summonReader_run_iff.mp ⟨param, hrun⟩
      exact .summons hkind hids hrest

/-- A column that names a kind is not zero. -/
theorem first_ne_zero {first : UInt32} {kind : String} {reader : RowReader UInt32 SkillParam}
    (hkind : unpack first = some kind) (hreader : paramReader kind = some reader) : first ≠ 0 := by
  rintro rfl
  have hempty : unpack 0 = some "" := by decide
  cases hempty.symm.trans hkind
  cases hreader

/-- Where the columns of a kind are there, a parameter is read from them. -/
theorem exists_parseParam_of_run {first : UInt32} {kind : String} {reader : RowReader UInt32 SkillParam}
    {data rest : List UInt32} (hkind : unpack first = some kind) (hreader : paramReader kind = some reader)
    (hrun : ∃ param, reader.run data = some (rest, param)) :
    ∃ param, parseParam (first :: data) = some (some (rest, param)) := by
  obtain ⟨param, hrun⟩ := hrun
  refine ⟨param, ?_⟩
  rw [parseParam_of_kind (first_ne_zero hkind hreader) hkind hreader, hrun]
  rfl

theorem exists_fieldsOrFail_run {n : ℕ} {kind : String} {make : Vector UInt32 n → Option SkillParam}
    {columns : List UInt32} (hlen : columns.length = n) (hmake : ∀ v, (make v).isSome ↔ HasMeaning kind v.toList)
    (hmeaning : HasMeaning kind columns) : ∃ param, (fieldsOrFail n make).Reads columns param := by
  have hsome : (make ⟨columns.toArray, by simpa using hlen⟩).isSome := (hmake _).mpr hmeaning
  obtain ⟨param, hparam⟩ := Option.isSome_iff_exists.mp hsome
  exact ⟨param, reads_fieldsOrFail hlen hparam⟩

/-- The columns of a kind that has a width. -/
theorem exists_parseParam_of_width {first : UInt32} {kind : String} {columns rest : List UInt32}
    (hkind : unpack first = some kind) (hwidth : width kind = some columns.length)
    (hmeaning : HasMeaning kind columns) (hzero : kind = "setv" → rest.head? ≠ some 0) :
    ∃ param, parseParam (first :: (columns ++ rest)) = some (some (rest, param)) := by
  obtain ⟨reader, hreader⟩ := exists_reader_of_width hwidth
  refine exists_parseParam_of_run hkind hreader ?_
  cases readerOf_of_some hreader with
  | fields hwidth' hmake hset heq =>
      obtain rfl := Option.some.inj (hwidth.symm.trans hwidth')
      obtain ⟨param, hreads⟩ := exists_fieldsOrFail_run rfl hmake hmeaning
      exact ⟨param, heq ▸ hreads rest⟩
  | assignment hmake hset heq =>
      subst hset
      obtain ⟨param, hreads⟩ := exists_fieldsOrFail_run (Option.some.inj hwidth).symm hmake hmeaning
      exact ⟨param, heq ▸ droppingZero_run_eq_some_iff.mpr (Or.inr ⟨hzero rfl, hreads rest⟩)⟩
  | summons hkind heq =>
      subst hkind
      cases hwidth

theorem exists_parseParam_of_assignment {first : UInt32} {columns : List UInt32} (rest : List UInt32)
    (hkind : unpack first = some "setv") (hwidth : width "setv" = some columns.length)
    (hmeaning : HasMeaning "setv" columns) :
    ∃ param, parseParam (first :: (columns ++ 0 :: rest)) = some (some (rest, param)) := by
  obtain ⟨reader, hreader⟩ := exists_reader_of_width hwidth
  refine exists_parseParam_of_run hkind hreader ?_
  cases readerOf_of_some hreader with
  | fields hwidth' hmake hset heq => exact absurd rfl hset
  | assignment hmake hset heq =>
      obtain ⟨param, hreads⟩ := exists_fieldsOrFail_run (Option.some.inj hwidth).symm hmake hmeaning
      exact ⟨param, heq ▸ droppingZero_run_eq_some_iff.mpr (Or.inl (hreads _))⟩
  | summons hkind heq => exact absurd hkind (by decide)

theorem readParams_isSome_of_next {row rest : List UInt32}
    (h : ∃ param, parseParam row = some (some (rest, param))) :
    (readParams row).isSome = (readParams rest).isSome := by
  obtain ⟨param, hparam⟩ := h
  have hall : readParams row = (readParams rest).map (param :: ·) := EntryReader.all_of_next hparam
  rw [hall, Option.isSome_map]

/-- **The parameters are read without a panic exactly from these columns.** -/
theorem readParams_isSome_iff (columns : List UInt32) :
    (readParams columns).isSome ↔ ReadableParams columns := by
  constructor
  · intro h
    induction hlen : columns.length using Nat.strong_induction_on generalizing columns with
    | _ n ih =>
        subst hlen
        rcases hnext : parseParam columns with _ | _ | ⟨rest, param⟩
        · rw [readParams, EntryReader.all_eq, show paramEntries.next columns = none from hnext] at h
          cases h
        · exact .nothing ((parseParam_eq_none_iff columns).mp hnext)
        · rw [readParams_isSome_of_next ⟨param, hnext⟩] at h
          exact readable_of_parseParam hnext (ih _ (length_lt_of_parseParam hnext) rest h rfl)
  · intro h
    induction h with
    | nothing h =>
        rw [readParams, EntryReader.all_of_end ((parseParam_eq_none_iff _).mpr h)]
        rfl
    | fields hkind hwidth hmeaning hzero hrest ih =>
        rwa [readParams_isSome_of_next (exists_parseParam_of_width hkind hwidth hmeaning hzero)]
    | @assignment first columns rest hkind hwidth hmeaning hrest ih =>
        rwa [readParams_isSome_of_next (exists_parseParam_of_assignment rest hkind hwidth hmeaning)]
    | summons hkind hids hrest ih =>
        rwa [readParams_isSome_of_next (exists_parseParam_of_run hkind rfl
          (exists_summonReader_run_iff.mpr ⟨_, _, rfl, hids⟩))]

end Skrillax.SkillData

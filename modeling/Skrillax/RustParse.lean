/-
**Text that is split into columns, and integers that are read from it.**

`splitn` cuts a text at the first few separators and keeps the rest as its last column.  `from_str_radix`
reads an integer of a machine type: an optional sign, which may be a minus for the signed types only, and
digits one after the other.  The first thing that is wrong, from the left, is the error.  `parse` is the same
in the decimal system.

Main definitions:

* `Rust.splitn`, `Rust.trimHexPrefix` — a text in columns, and a column without its marks for hexadecimals;
* `Rust.IntErrorKind` — what is wrong with the text;
* `Rust.IntType` — the machine types;
* `Rust.toDigit`, `Rust.pushDigit`, `Rust.fromStrRadix` — a digit, one more digit, and an integer;
* `Rust.parseU8`, `Rust.parseU16`, `Rust.parseU32`, `Rust.parseI32` — `str::parse` for the types in use;
* `Rust.decimal`, `Rust.trimPlus` — the value of decimal digits, and what is left without a plus.

Main results:

* `Rust.splitn_intercalate` — the columns that have been joined are the ones that come out;
* `Rust.fromStrRadix_ten` — the decimal numbers of the unsigned types are the digits with a value that fits.
-/

import Mathlib

set_option relaxedAutoImplicit false
set_option autoImplicit false

namespace Rust

/-! ### Columns -/

/-- `src.splitn(n, sep)`. -/
def splitn (sep : Char) : ℕ → List Char → List (List Char)
  | 0, _ => []
  | 1, src => [src]
  | n + 2, src =>
      match src.span (· ≠ sep) with
      | (column, []) => [column]
      | (column, _ :: rest) => column :: splitn sep (n + 1) rest

/-- `src.trim_start_matches("0x")`. -/
def trimHexPrefix : List Char → List Char
  | '0' :: 'x' :: rest => trimHexPrefix rest
  | src => src

theorem splitn_append {sep : Char} {n : ℕ} {column rest : List Char} (h : sep ∉ column) :
    splitn sep (n + 2) (column ++ sep :: rest) = column :: splitn sep (n + 1) rest := by
  have hcolumn : ∀ c ∈ column, decide (c ≠ sep) = true := by
    intro c hc
    exact decide_eq_true fun heq => h (heq ▸ hc)
  have hspan : (column ++ sep :: rest).span (· ≠ sep) = (column, sep :: rest) := by
    rw [List.span_eq_takeWhile_dropWhile, List.takeWhile_append_of_pos hcolumn,
      List.dropWhile_append_of_pos hcolumn]
    simp
  rw [splitn, hspan]

/-- The last column may contain the separator. -/
theorem splitn_intercalate {sep : Char} {columns : List (List Char)} (h : ∀ column ∈ columns, sep ∉ column)
    (last : List Char) :
    splitn sep (columns.length + 1) ([sep].intercalate (columns ++ [last])) = columns ++ [last] := by
  induction columns with
  | nil => simp [splitn, List.intercalate]
  | cons column columns ih =>
      obtain ⟨hcolumn, hcolumns⟩ := List.forall_mem_cons.1 h
      have hjoin : [sep].intercalate (column :: columns ++ [last]) =
          column ++ sep :: [sep].intercalate (columns ++ [last]) := by
        cases columns with
        | nil => simp [List.intercalate]
        | cons column' columns => simp [List.intercalate]
      rw [hjoin, List.length_cons, splitn_append hcolumn, ih hcolumns, List.cons_append]

/-! ### Integers -/

inductive IntErrorKind where
  | empty
  | invalidDigit
  | posOverflow
  | negOverflow
  deriving DecidableEq, Repr

structure IntType where
  signed : Bool
  bits : ℕ

namespace IntType

def min (type : IntType) : ℤ := if type.signed then -2 ^ (type.bits - 1) else 0

def max (type : IntType) : ℤ := if type.signed then 2 ^ (type.bits - 1) - 1 else 2 ^ type.bits - 1

end IntType

/-- `char::to_digit`. -/
def toDigit (radix : ℕ) (c : Char) : Option ℕ :=
  let digit : Option ℕ :=
    if '0' ≤ c ∧ c ≤ '9' then some (c.toNat - 48)
    else if 'a' ≤ c ∧ c ≤ 'z' then some (c.toNat - 87)
    else if 'A' ≤ c ∧ c ≤ 'Z' then some (c.toNat - 55)
    else none
  digit.filter (· < radix)

/-- One more digit.  The digit is looked at before the overflow. -/
def pushDigit (type : IntType) (negative : Bool) (radix : ℕ) (n : ℤ) (c : Char) :
    Except IntErrorKind ℤ :=
  match toDigit radix c with
  | none => .error .invalidDigit
  | some digit =>
      if negative then
        if type.min ≤ n * radix - digit then .ok (n * radix - digit) else .error .negOverflow
      else
        if n * radix + digit ≤ type.max then .ok (n * radix + digit) else .error .posOverflow

/-- A sign alone is no number, and a minus is no digit of an unsigned one. -/
def fromStrRadix (type : IntType) (radix : ℕ) (src : List Char) : Except IntErrorKind ℤ :=
  match src with
  | [] => .error .empty
  | ['+'] => .error .invalidDigit
  | ['-'] => .error .invalidDigit
  | '+' :: digits => digits.foldlM (pushDigit type false radix) 0
  | '-' :: digits =>
      if type.signed then digits.foldlM (pushDigit type true radix) 0
      else ('-' :: digits).foldlM (pushDigit type false radix) 0
  | digits => digits.foldlM (pushDigit type false radix) 0

def parseU8 (src : String) : Except IntErrorKind UInt8 :=
  (fromStrRadix ⟨false, 8⟩ 10 src.toList).map fun n => UInt8.ofNat n.toNat

def parseU16 (src : String) : Except IntErrorKind UInt16 :=
  (fromStrRadix ⟨false, 16⟩ 10 src.toList).map fun n => UInt16.ofNat n.toNat

def parseU32 (src : String) : Except IntErrorKind UInt32 :=
  (fromStrRadix ⟨false, 32⟩ 10 src.toList).map fun n => UInt32.ofNat n.toNat

def parseI32 (src : String) : Except IntErrorKind Int32 :=
  (fromStrRadix ⟨true, 32⟩ 10 src.toList).map Int32.ofInt

example : parseU8 "+255" = .ok 255 := by decide
example : parseU8 "256x" = .error .posOverflow := by decide
example : parseI32 "-2147483648" = .ok Int32.minValue := by decide

/-! ### Decimal numbers -/

/-- The number that the digits give behind another one. -/
def decimal (n : ℕ) (digits : List Char) : ℕ :=
  digits.foldl (fun n c => 10 * n + (c.toNat - 48)) n

theorem le_decimal (n : ℕ) (digits : List Char) : n ≤ decimal n digits := by
  induction digits generalizing n with
  | nil => exact le_refl n
  | cons c digits ih =>
      have hnext : n ≤ 10 * n + (c.toNat - 48) := by omega
      exact hnext.trans (ih _)

theorem toDigit_ten (c : Char) : toDigit 10 c = if c.isDigit then some (c.toNat - 48) else none := by
  have hdigit : c.isDigit = true ↔ '0' ≤ c ∧ c ≤ '9' := by
    simp [Char.isDigit, Char.le_def]
  unfold toDigit
  simp only [hdigit]
  split_ifs with h0 ha hA
  · have hle : c.toNat ≤ 57 := Char.le_def.1 h0.2
    have hlt : c.toNat - 48 < 10 := by omega
    simp [Option.filter, hlt]
  · have hge : 97 ≤ c.toNat := Char.le_def.1 ha.1
    have hlarge : ¬ c.toNat - 87 < 10 := by omega
    simp [Option.filter, hlarge]
  · have hge : 65 ≤ c.toNat := Char.le_def.1 hA.1
    have hlarge : ¬ c.toNat - 55 < 10 := by omega
    simp [Option.filter, hlarge]
  · rfl

/-- One more decimal digit of an unsigned number. -/
theorem pushDigit_ten (bits n : ℕ) (c : Char) :
    pushDigit ⟨false, bits⟩ false 10 n c =
      if c.isDigit then
        if 10 * n + (c.toNat - 48) < 2 ^ bits then .ok ((10 * n + (c.toNat - 48) : ℕ) : ℤ)
        else .error .posOverflow
      else .error .invalidDigit := by
  have hmax : (⟨false, bits⟩ : IntType).max = 2 ^ bits - 1 := rfl
  have hcast : (n : ℤ) * (10 : ℕ) + (c.toNat - 48 : ℕ) = (10 * n + (c.toNat - 48) : ℕ) := by
    push_cast
    ring
  have hfits : ((10 * n + (c.toNat - 48) : ℕ) : ℤ) ≤ 2 ^ bits - 1 ↔ 10 * n + (c.toNat - 48) < 2 ^ bits := by
    rw [Int.le_sub_one_iff]
    exact_mod_cast Iff.rfl
  rw [pushDigit, toDigit_ten]
  by_cases hc : c.isDigit
  · simp only [hc, if_true, Bool.false_eq_true, if_false, hcast, hmax, hfits]
  · simp only [hc, Bool.false_eq_true, if_false]

theorem foldlM_pushDigit {bits n : ℕ} (hn : n < 2 ^ bits) (digits : List Char) :
    (digits.foldlM (pushDigit ⟨false, bits⟩ false 10) (n : ℤ)).toOption =
      if digits.all Char.isDigit ∧ decimal n digits < 2 ^ bits then some (decimal n digits : ℤ) else none := by
  induction digits generalizing n with
  | nil => simp [decimal, hn, Except.toOption, pure, Except.pure]
  | cons c digits ih =>
      have hcons : decimal n (c :: digits) = decimal (10 * n + (c.toNat - 48)) digits := rfl
      rw [List.foldlM_cons, List.all_cons, hcons, pushDigit_ten]
      by_cases hc : c.isDigit
      · by_cases hnext : 10 * n + (c.toNat - 48) < 2 ^ bits
        · rw [if_pos hc, if_pos hnext]
          simp only [hc, Bool.true_and]
          exact ih hnext
        · -- The digits that follow cannot make it smaller.
          have hlarge : ¬ decimal (10 * n + (c.toNat - 48)) digits < 2 ^ bits :=
            fun hlt => hnext ((le_decimal _ digits).trans_lt hlt)
          rw [if_pos hc, if_neg hnext, if_neg fun h => hlarge h.2]
          rfl
      · rw [if_neg hc, if_neg fun h => hc (Bool.and_eq_true_iff.1 h.1).1]
        rfl

/-- The plus is not one of the digits. -/
def trimPlus : List Char → List Char
  | '+' :: digits => digits
  | digits => digits

/-- Decimal numbers of an unsigned type: digits, at least one, and a value that fits. -/
theorem fromStrRadix_ten (bits : ℕ) (src : List Char) :
    (fromStrRadix ⟨false, bits⟩ 10 src).toOption =
      if trimPlus src ≠ [] ∧ (trimPlus src).all Char.isDigit ∧ decimal 0 (trimPlus src) < 2 ^ bits then
        some (decimal 0 (trimPlus src) : ℤ)
      else none := by
  have hfold (digits : List Char) := foldlM_pushDigit (Nat.two_pow_pos bits) digits
  rw [Nat.cast_zero] at hfold
  unfold fromStrRadix
  split
  · rfl
  · rfl
  · rfl
  · rename_i digits hplus
    have hne : digits ≠ [] := fun h => hplus h
    simp only [trimPlus, hfold, hne, ne_eq, not_false_eq_true, true_and]
  · rename_i digits hminus
    have htrim : trimPlus ('-' :: digits) = '-' :: digits := rfl
    have hne : '-' :: digits ≠ [] := List.cons_ne_nil _ _
    simp only [htrim, hfold, hne, Bool.false_eq_true, if_false, ne_eq, not_false_eq_true, true_and]
  · rename_i hnil _ _ hplus _
    have hne : src ≠ [] := fun h => hnil h
    have htrim : trimPlus src = src := trimPlus.eq_2 src hplus
    simp only [htrim, hfold, hne, ne_eq, not_false_eq_true, true_and]

end Rust

/-
**Byte slices that are indexed, and functions that fail or panic.**

An index or a range outside of a slice panics.  A function of the source that returns a `Result` and
indexes slices on the way ends in one of three ways; here it returns an `Except` whose failures are
the errors of the function and the panic.

Main definitions:

* `Rust.Failure` — an error, or a panic;
* `Rust.Panics`, `Rust.Unwrapped` — a call that ends in a panic, and one that has no errors of its own;
* `Rust.index`, `Rust.slice`, `Rust.sliceFrom` — the index expressions;
* `Rust.readU16`, `Rust.putU16` — the little-endian words of two bytes.

Main results:

* `Rust.panics_bind_iff`, `Rust.Unwrapped.not_panics_iff` — where a sequence panics, and where it returns;
* `Rust.index_ok`, `Rust.slice_ok`, `Rust.sliceFrom_ok`, `Rust.readU16_ok` — what an index expression
  returns within the bounds;
* `Rust.decode_putU16` — the bytes of a word.
-/

import Mathlib
import Skrillax.LittleEndian

set_option relaxedAutoImplicit false
set_option autoImplicit false

namespace Rust

/-- How a call ends that does not return a value: with an error of the function, or in a panic. -/
inductive Failure (ε : Type) where
  | error (e : ε)
  | panic
  deriving DecidableEq, Repr

variable {ε : Type}

/-- The conversion of errors by the operator `?`; a panic stays a panic. -/
def Failure.map {ε' : Type} (f : ε → ε') : Failure ε → Failure ε'
  | error e => error (f e)
  | panic => panic

/-- A call that returned goes on. -/
@[simp] theorem ok_bind {α β : Type} (a : α) (f : α → Except ε β) : (Except.ok a >>= f) = f a := rfl

/-- A call that failed ends the caller. -/
@[simp] theorem error_bind {α β : Type} (e : ε) (f : α → Except ε β) :
    (Except.error e >>= f) = .error e := rfl

/-! ### Panics -/

def Panics {α : Type} (x : Except (Failure ε) α) : Prop := x = .error .panic

theorem not_panics_ok {α : Type} (a : α) : ¬ Panics (.ok a : Except (Failure ε) α) := by
  intro h
  cases h

theorem not_panics_error {α : Type} (e : ε) : ¬ Panics (.error (.error e) : Except (Failure ε) α) := by
  intro h
  cases h

/-- A sequence panics in its first part, or in the second one after the first has returned. -/
theorem panics_bind_iff {α β : Type} {x : Except (Failure ε) α} {f : α → Except (Failure ε) β} :
    Panics (x >>= f) ↔ Panics x ∨ ∃ a, x = .ok a ∧ Panics (f a) := by
  cases x with
  | error e => simp [Panics]
  | ok a => simp [Panics]

theorem not_panics_bind {α β : Type} {x : Except (Failure ε) α} {f : α → Except (Failure ε) β}
    (h : ¬ Panics x) (h' : ∀ a, ¬ Panics (f a)) : ¬ Panics (x >>= f) := by
  rw [panics_bind_iff]
  rintro (hx | ⟨a, -, hf⟩)
  · exact h hx
  · exact h' a hf

theorem bind_eq_ok_iff {α β : Type} {x : Except ε α} {f : α → Except ε β} {b : β} :
    (x >>= f) = .ok b ↔ ∃ a, x = .ok a ∧ f a = .ok b := by
  cases x with
  | error e => simp
  | ok a => simp

/-- A sequence returns if its parts return. -/
theorem exists_bind_eq_ok_iff {α β : Type} {x : Except ε α} {f : α → Except ε β} :
    (∃ b, (x >>= f) = .ok b) ↔ ∃ a, x = .ok a ∧ ∃ b, f a = .ok b := by
  simp only [bind_eq_ok_iff]
  constructor
  · rintro ⟨b, a, ha, hb⟩
    exact ⟨a, ha, b, hb⟩
  · rintro ⟨a, ha, b, hb⟩
    exact ⟨b, a, ha, hb⟩

/-- A call that has no errors of its own returns or panics. -/
def Unwrapped {α : Type} (x : Except (Failure ε) α) : Prop := ∀ e, x ≠ .error (.error e)

theorem Unwrapped.not_panics_iff {α : Type} {x : Except (Failure ε) α} (h : Unwrapped x) :
    ¬ Panics x ↔ ∃ a, x = .ok a := by
  cases x with
  | ok a => simp [Panics]
  | error failure =>
      cases failure with
      | error e => exact absurd rfl (h e)
      | panic => simp [Panics]

theorem Unwrapped.bind {α β : Type} {x : Except (Failure ε) α} {f : α → Except (Failure ε) β}
    (h : Unwrapped x) (h' : ∀ a, Unwrapped (f a)) : Unwrapped (x >>= f) := by
  intro e
  cases x with
  | ok a => exact h' a e
  | error failure => exact fun heq => h e (by cases heq; rfl)

theorem unwrapped_mapM {α β : Type} {f : α → Except (Failure ε) β} (h : ∀ a, Unwrapped (f a))
    (l : List α) : Unwrapped (l.mapM f) := by
  induction l with
  | nil =>
      intro e heq
      cases heq
  | cons a l ih =>
      rw [List.mapM_cons]
      refine (h a).bind fun b => ih.bind fun bs => ?_
      intro e heq
      cases heq

/-- All calls return, in the order of the list. -/
theorem mapM_eq_ok_iff {α β : Type} {f : α → Except ε β} {l : List α} {bs : List β} :
    l.mapM f = .ok bs ↔ List.Forall₂ (fun a b => f a = .ok b) l bs := by
  induction l generalizing bs with
  | nil =>
      rw [List.mapM_nil, List.forall₂_nil_left_iff]
      constructor
      · rintro ⟨⟩
        rfl
      · rintro rfl
        rfl
  | cons a l ih =>
      simp only [List.mapM_cons, bind_eq_ok_iff, ih, List.forall₂_cons_left_iff]
      constructor
      · rintro ⟨b, hb, bs', hbs', heq⟩
        cases heq
        exact ⟨b, bs', hb, hbs', rfl⟩
      · rintro ⟨b, bs', hb, hbs', rfl⟩
        exact ⟨b, hb, bs', hbs', rfl⟩

/-! ### Index expressions -/

/-- `data[i]`. -/
def index (data : List UInt8) (i : ℕ) : Except (Failure ε) UInt8 :=
  if h : i < data.length then .ok data[i] else .error .panic

/-- `&data[start..stop]`. -/
def slice (data : List UInt8) (start stop : ℕ) : Except (Failure ε) (List UInt8) :=
  if start ≤ stop ∧ stop ≤ data.length then .ok ((data.take stop).drop start) else .error .panic

/-- `&data[start..]`. -/
def sliceFrom (data : List UInt8) (start : ℕ) : Except (Failure ε) (List UInt8) :=
  if start ≤ data.length then .ok (data.drop start) else .error .panic

theorem index_ok {data : List UInt8} {i : ℕ} (h : i < data.length) :
    index data i = (.ok data[i] : Except (Failure ε) UInt8) := by
  rw [index, dif_pos h]

theorem slice_ok {data : List UInt8} {start stop : ℕ} (h : start ≤ stop ∧ stop ≤ data.length) :
    slice data start stop = (.ok ((data.take stop).drop start) : Except (Failure ε) (List UInt8)) := by
  rw [slice, if_pos h]

theorem sliceFrom_ok {data : List UInt8} {start : ℕ} (h : start ≤ data.length) :
    sliceFrom data start = (.ok (data.drop start) : Except (Failure ε) (List UInt8)) := by
  rw [sliceFrom, if_pos h]

theorem index_panic {data : List UInt8} {i : ℕ} (h : data.length ≤ i) :
    index data i = (.error .panic : Except (Failure ε) UInt8) := by
  rw [index, dif_neg (by omega)]

/-! ### Words of two bytes -/

/-- `BufMut::put_u16_le`. -/
def putU16 (x : UInt16) : List UInt8 := LittleEndian.encode 2 x.toNat

/-- `LittleEndian::read_u16`, which panics on fewer than two bytes. -/
def readU16 (data : List UInt8) : Except (Failure ε) UInt16 :=
  if 2 ≤ data.length then .ok (UInt16.ofNat (LittleEndian.decode (data.take 2))) else .error .panic

@[simp] theorem length_putU16 (x : UInt16) : (putU16 x).length = 2 := by simp [putU16]

theorem readU16_ok {data : List UInt8} (h : 2 ≤ data.length) :
    readU16 data =
      (.ok (UInt16.ofNat (LittleEndian.decode (data.take 2))) : Except (Failure ε) UInt16) := by
  rw [readU16, if_pos h]

theorem decode_putU16 (x : UInt16) : LittleEndian.decode (putU16 x) = x.toNat :=
  LittleEndian.decode_encode_of_lt x.toNat_lt

end Rust

/-
**Points in time on the wire.**

A `SilkroadTime` is sent as a word of 32 bits with a field for each part of the date and of the time of day,
the years since 2000 lowest.

Main definitions:

* `BitFields.pack`, `BitFields.unpack` — fields of given widths in a number, the first one lowest;
* `DateTime` — a date and a time of day, with the ranges that they keep to;
* `SilkroadTime.data`, `SilkroadTime.writeTo` — what is sent.

Main results:

* `BitFields.unpack_pack` — the fields are read back, each cut off at its width;
* `SilkroadTime.data_toNat` — the fields of the word do not overlap;
* `SilkroadTime.writeTo_eq_iff` — **two times are sent alike exactly when they are the same in all parts, up
  to a multiple of 64 years**.
-/

import Skrillax.LittleEndian

set_option relaxedAutoImplicit false
set_option autoImplicit false

namespace BitFields

/-! ### Fields of a number -/

/-- The fields, given by their widths and values, in one number. -/
def pack : List (ℕ × ℕ) → ℕ
  | [] => 0
  | (width, value) :: fields => value % 2 ^ width + 2 ^ width * pack fields

/-- The values of the fields of the given widths. -/
def unpack : List ℕ → ℕ → List ℕ
  | [], _ => []
  | width :: widths, n => n % 2 ^ width :: unpack widths (n / 2 ^ width)

@[simp] theorem pack_nil : pack [] = 0 := rfl

@[simp] theorem pack_cons (width value : ℕ) (fields : List (ℕ × ℕ)) :
    pack ((width, value) :: fields) = value % 2 ^ width + 2 ^ width * pack fields := rfl

theorem unpack_pack (fields : List (ℕ × ℕ)) :
    unpack (fields.map Prod.fst) (pack fields) = fields.map fun field => field.2 % 2 ^ field.1 := by
  induction fields with
  | nil => rfl
  | cons field fields ih =>
      obtain ⟨width, value⟩ := field
      have hlt : value % 2 ^ width < 2 ^ width := Nat.mod_lt _ (Nat.two_pow_pos width)
      rw [List.map_cons, List.map_cons, unpack, pack_cons, Nat.add_mul_mod_self_left, Nat.mod_mod,
        Nat.add_mul_div_left _ _ (Nat.two_pow_pos width), Nat.div_eq_of_lt hlt, Nat.zero_add, ih]

/-- Fields of the same widths are packed alike exactly when their values are the same up to the widths. -/
theorem pack_eq_iff {fields fields' : List (ℕ × ℕ)} (h : fields.map Prod.fst = fields'.map Prod.fst) :
    pack fields = pack fields' ↔
      (fields.map fun field => field.2 % 2 ^ field.1) = fields'.map fun field => field.2 % 2 ^ field.1 := by
  constructor
  · intro heq
    rw [← unpack_pack, ← unpack_pack, h, heq]
  · induction fields generalizing fields' with
    | nil =>
        rw [List.map_nil, eq_comm, List.map_eq_nil_iff] at h
        intro _
        rw [h]
    | cons field fields ih =>
        obtain _ | ⟨field', fields'⟩ := fields'
        · cases h
        · obtain ⟨width, value⟩ := field
          obtain ⟨width', value'⟩ := field'
          obtain ⟨hwidth, hwidths⟩ := List.cons_eq_cons.1 h
          obtain rfl : width = width' := hwidth
          rw [List.map_cons, List.map_cons, List.cons_eq_cons]
          rintro ⟨hvalue, hvalues⟩
          obtain hvalue : value % 2 ^ width = value' % 2 ^ width := hvalue
          rw [pack_cons, pack_cons, hvalue, ih hwidths hvalues]

/-- A field above a lower part is added to it. -/
theorem or_shiftLeft_toNat (shift : ℕ) (low high : UInt32) (hshift : shift < 32)
    (hlow : low.toNat < 2 ^ shift) (hhigh : high.toNat < 2 ^ (32 - shift)) :
    (low ||| high <<< UInt32.ofNat shift).toNat = low.toNat + 2 ^ shift * high.toNat := by
  have hwidth : (UInt32.ofNat shift).toNat % 32 = shift := by
    rw [UInt32.toNat_ofNat']
    omega
  have hfits : high.toNat * 2 ^ shift < 2 ^ 32 := by
    have hmul := Nat.mul_lt_mul_of_pos_right hhigh (Nat.two_pow_pos shift)
    rwa [← Nat.pow_add, Nat.sub_add_cancel hshift.le] at hmul
  rw [UInt32.toNat_or, UInt32.toNat_shiftLeft, hwidth, Nat.shiftLeft_eq, Nat.mod_eq_of_lt hfits,
    Nat.or_comm, Nat.mul_comm, ← Nat.two_pow_add_eq_or_of_lt hlow, Nat.add_comm]

end BitFields

namespace Skrillax

open BitFields

/-! ### Dates -/

/-- A date and a time of day in UTC.  The seconds are counted to 59 in leap seconds, too. -/
structure DateTime where
  year : Int32
  month : UInt32
  day : UInt32
  hour : UInt32
  minute : UInt32
  second : UInt32
  years : -262143 ≤ year.toInt ∧ year.toInt ≤ 262142
  months : 1 ≤ month.toNat ∧ month.toNat ≤ 12
  days : 1 ≤ day.toNat ∧ day.toNat ≤ 31
  hours : hour.toNat < 24
  minutes : minute.toNat < 60
  seconds : second.toNat < 60
  deriving DecidableEq

/-! ### The packed word -/

namespace SilkroadTime

/-- The word that `write_to` puts together.  The subtraction of years does not overflow in the range of the
years, nor do those of months and days. -/
def data (t : DateTime) : UInt32 :=
  (t.year - 2000).toUInt32 &&& 63
    ||| ((t.month - 1) &&& 15) <<< (6 : UInt32)
    ||| ((t.day - 1) &&& 31) <<< (10 : UInt32)
    ||| (t.hour &&& 31) <<< (15 : UInt32)
    ||| (t.minute &&& 63) <<< (20 : UInt32)
    ||| (t.second &&& 63) <<< (26 : UInt32)

/-- `write_to`, for a `SilkroadTime`. -/
def writeTo (t : DateTime) : List UInt8 := LittleEndian.encode 4 (data t).toNat

/-- The fields of the word with their widths, the lowest one first. -/
def fields (t : DateTime) : List (ℕ × ℕ) :=
  [(6, (t.year - 2000).toUInt32.toNat), (4, (t.month - 1).toNat), (5, (t.day - 1).toNat), (5, t.hour.toNat),
    (6, t.minute.toNat), (6, t.second.toNat)]

/-- A value that is masked with as many ones as the width of its field. -/
theorem mask_toNat (value mask : UInt32) (width : ℕ) (hmask : mask.toNat = 2 ^ width - 1) :
    (value &&& mask).toNat = value.toNat % 2 ^ width := by
  rw [UInt32.toNat_and, hmask, Nat.and_two_pow_sub_one_eq_mod]

/-- The fields of the word do not overlap. -/
theorem data_toNat (t : DateTime) : (data t).toNat = pack (fields t) := by
  have hyear := mask_toNat (t.year - 2000).toUInt32 63 6 rfl
  have hmonth := mask_toNat (t.month - 1) 15 4 rfl
  have hday := mask_toNat (t.day - 1) 31 5 rfl
  have hhour := mask_toNat t.hour 31 5 rfl
  have hminute := mask_toNat t.minute 63 6 rfl
  have hsecond := mask_toNat t.second 63 6 rfl
  rw [data]
  generalize (t.year - 2000).toUInt32 &&& 63 = year at hyear ⊢
  generalize (t.month - 1) &&& 15 = month at hmonth ⊢
  generalize (t.day - 1) &&& 31 = day at hday ⊢
  generalize t.hour &&& 31 = hour at hhour ⊢
  generalize t.minute &&& 63 = minute at hminute ⊢
  generalize t.second &&& 63 = second at hsecond ⊢
  -- each field lies above what has been put together before it
  have h₁ := or_shiftLeft_toNat 6 year month (by decide) (by omega) (by omega)
  have h₂ := or_shiftLeft_toNat 10 _ day (by decide) (by rw [h₁]; omega) (by omega)
  have h₃ := or_shiftLeft_toNat 15 _ hour (by decide) (by rw [h₂]; omega) (by omega)
  have h₄ := or_shiftLeft_toNat 20 _ minute (by decide) (by rw [h₃]; omega) (by omega)
  have h₅ := or_shiftLeft_toNat 26 _ second (by decide) (by rw [h₄]; omega) (by omega)
  simp only [fields, pack_cons, pack_nil]
  refine h₅.trans ?_
  omega

/-! ### What is told apart -/

/-- The low bits of a difference to a multiple of their number are those of the minuend. -/
theorem year_mod (year : Int32) :
    ((year - 2000).toUInt32.toNat % 2 ^ 6 : ℕ) = (year.toInt - 2000) % 64 := by
  have hsub : (year - 2000).toUInt32.toNat = (2 ^ 32 - 2000 + year.toUInt32.toNat) % 2 ^ 32 := by
    rw [Int32.toUInt32_sub, UInt32.toNat_sub]
    rfl
  have hint : year.toInt = if 2 * year.toUInt32.toNat < 2 ^ 32 then (year.toUInt32.toNat : ℤ)
      else year.toUInt32.toNat - (2 ^ 32 : ℕ) := BitVec.toInt_eq_toNat_cond year.toBitVec
  rw [hsub, hint]
  split <;> omega

/-- **Times are sent alike exactly when they are the same up to a multiple of 64 years.** -/
theorem writeTo_eq_iff (t t' : DateTime) :
    writeTo t = writeTo t' ↔
      t.year.toInt % 64 = t'.year.toInt % 64 ∧ t.month = t'.month ∧ t.day = t'.day ∧ t.hour = t'.hour ∧
        t.minute = t'.minute ∧ t.second = t'.second := by
  have hmonths (t : DateTime) : (t.month - 1).toNat % 2 ^ 4 + 1 = t.month.toNat := by
    have := t.months
    rw [UInt32.toNat_sub_of_le _ _ (show (1 : UInt32) ≤ t.month from t.months.1)]
    show (t.month.toNat - 1) % 2 ^ 4 + 1 = t.month.toNat
    omega
  have hdays (t : DateTime) : (t.day - 1).toNat % 2 ^ 5 + 1 = t.day.toNat := by
    have := t.days
    rw [UInt32.toNat_sub_of_le _ _ (show (1 : UInt32) ≤ t.day from t.days.1)]
    show (t.day.toNat - 1) % 2 ^ 5 + 1 = t.day.toNat
    omega
  have hhours (t : DateTime) : t.hour.toNat % 2 ^ 5 = t.hour.toNat := by have := t.hours; omega
  have hminutes (t : DateTime) : t.minute.toNat % 2 ^ 6 = t.minute.toNat := by have := t.minutes; omega
  have hseconds (t : DateTime) : t.second.toNat % 2 ^ 6 = t.second.toNat := by have := t.seconds; omega
  have hbytes : writeTo t = writeTo t' ↔ pack (fields t) = pack (fields t') := by
    have hlt (t : DateTime) : (data t).toNat % 256 ^ 4 = (data t).toNat := Nat.mod_eq_of_lt (data t).toNat_lt
    rw [writeTo, writeTo, LittleEndian.encode_eq_iff, hlt, hlt, data_toNat, data_toNat]
  rw [hbytes, pack_eq_iff (show (fields t).map Prod.fst = (fields t').map Prod.fst from rfl)]
  simp only [fields, List.map_cons, List.map_nil, List.cons.injEq, and_true, hhours, hminutes, hseconds]
  have hyear := year_mod t.year
  have hyear' := year_mod t'.year
  simp only [← UInt32.toNat_inj]
  refine and_congr (by omega) (and_congr ?_ (and_congr ?_ Iff.rfl))
  · have := hmonths t
    have := hmonths t'
    omega
  · have := hdays t
    have := hdays t'
    omega

end SilkroadTime

end Skrillax

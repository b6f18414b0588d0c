/-
**The cycle of the days.**

The time of the day is advanced by what has passed since the tick before.  When it has come to the end of the
day, one day is taken off and the moon goes on by one.  A step over the ends of several days leaves the rest
of them in the time of the day, and the following steps take off one of them each.

A duration is given by its nanoseconds.  The sum of two durations that is too large is a panic.

Main definitions:

* `Duration`, `DaylightCycle`, `DaylightCycle.advance` — the cycle;
* `DaylightCycle.run` — a sequence of steps;
* `total`, `wholeDays` — what has passed, and the number of days in it;
* `KeepsTime` — the time and the moon are what they should be;
* `InRange`, `Settled` — which sequences stay in range, and which ones leave no day to be taken off.

Main results:

* `AfterDays.advance`, `exists_run_take` — a step, and a sequence: the days that are taken off catch up with
  the days that have passed;
* `keepsTime_take_of_short_steps` — steps over the end of one day at most keep the time all along;
* `keeps_time_iff` — **which sequences keep the time**.
-/

import Skrillax.CatchUp

set_option relaxedAutoImplicit false
set_option autoImplicit false

namespace Skrillax.Daylight

open CatchUp

/-! ### Durations -/

/-- Seconds of 64 bits, and the nanoseconds of a second. -/
def nanosLimit : ℕ := 2 ^ 64 * 10 ^ 9

structure Duration where
  nanos : ℕ
  lt_limit : nanos < nanosLimit
  deriving DecidableEq

namespace Duration

/-- `Duration::default`. -/
def zero : Duration := ⟨0, by decide⟩

/-- The operator `+=`. -/
def add (a b : Duration) : Option Duration :=
  if h : a.nanos + b.nanos < nanosLimit then some ⟨a.nanos + b.nanos, h⟩ else none

/-- The operator `-=`. -/
def sub (a b : Duration) : Option Duration :=
  if b.nanos ≤ a.nanos then some ⟨a.nanos - b.nanos, (Nat.sub_le _ _).trans_lt a.lt_limit⟩ else none

end Duration

/-! ### The cycle -/

structure DaylightCycle where
  moon : UInt16
  fullDay : Duration
  time : Duration
  deriving DecidableEq

namespace DaylightCycle

/-- The moon is drawn at random. -/
def new (moon : UInt16) (oneDay : Duration) : DaylightCycle := ⟨moon, oneDay, .zero⟩

def advance (self : DaylightCycle) (amount : Duration) : Option DaylightCycle := do
  let time ← self.time.add amount
  if self.fullDay.nanos ≤ time.nanos then
    let time ← time.sub self.fullDay
    return { self with moon := self.moon + 1, time }
  else return { self with time }

def run (self : DaylightCycle) (amounts : List Duration) : Option DaylightCycle :=
  amounts.foldlM advance self

theorem run_concat (self : DaylightCycle) (amounts : List Duration) (amount : Duration) :
    self.run (amounts ++ [amount]) = self.run amounts >>= fun cycle => cycle.advance amount := by
  simp [run, List.foldlM_append]

/-- The time of the day after a total time, with some of its days taken off. -/
structure AfterDays (moon : UInt16) (oneDay : Duration) (s days : ℕ) (cycle : DaylightCycle) : Prop where
  moon : cycle.moon = moon + UInt16.ofNat days
  fullDay : cycle.fullDay = oneDay
  time : cycle.time.nanos + days * oneDay.nanos = s

variable {moon : UInt16} {oneDay : Duration}

/-- A step takes off one day, if a day is there to be taken off. -/
theorem AfterDays.advance {s days : ℕ} {self : DaylightCycle} (h : AfterDays moon oneDay s days self)
    (hday : 0 < oneDay.nanos) {amount : Duration}
    (hfits : s + amount.nanos < nanosLimit + days * oneDay.nanos) :
    ∃ after, self.advance amount = some after ∧
      AfterDays moon oneDay (s + amount.nanos) (min (days + 1) ((s + amount.nanos) / oneDay.nanos)) after := by
  obtain ⟨hmoon, rfl, htime⟩ := h
  have hsum : self.time.nanos + amount.nanos < nanosLimit := by omega
  have hadd : self.time.add amount = some ⟨self.time.nanos + amount.nanos, hsum⟩ := dif_pos hsum
  have htotal : s + amount.nanos = self.time.nanos + amount.nanos + days * self.fullDay.nanos := by omega
  unfold DaylightCycle.advance
  rw [hadd, Option.bind_eq_bind, Option.bind_some]
  by_cases hend : self.fullDay.nanos ≤ self.time.nanos + amount.nanos
  · have hdays : min (days + 1) ((s + amount.nanos) / self.fullDay.nanos) = days + 1 := by
      refine min_eq_left ((Nat.le_div_iff_mul_le hday).2 ?_)
      rw [htotal, Nat.succ_mul]
      omega
    rw [if_pos hend, Duration.sub, if_pos hend, hdays]
    refine ⟨_, rfl, ⟨?_, rfl, ?_⟩⟩
    · rw [hmoon, UInt16.ofNat_add, UInt16.add_assoc]
      rfl
    · rw [htotal, Nat.succ_mul]
      change self.time.nanos + amount.nanos - self.fullDay.nanos + _ = _
      omega
  · have hdays : min (days + 1) ((s + amount.nanos) / self.fullDay.nanos) = days := by
      rw [htotal, Nat.add_mul_div_right _ _ hday, Nat.div_eq_of_lt (by omega), Nat.zero_add]
      exact min_eq_right (Nat.le_succ days)
    rw [if_neg hend, hdays]
    exact ⟨_, rfl, ⟨hmoon, rfl, htotal.symm⟩⟩

theorem AfterDays.advance_eq_none {s days : ℕ} {self : DaylightCycle} (h : AfterDays moon oneDay s days self)
    {amount : Duration} (hfits : ¬ s + amount.nanos < nanosLimit + days * oneDay.nanos) :
    self.advance amount = none := by
  obtain ⟨hmoon, rfl, htime⟩ := h
  have hsum : ¬ self.time.nanos + amount.nanos < nanosLimit := by omega
  have hadd : self.time.add amount = none := dif_neg hsum
  unfold DaylightCycle.advance
  rw [hadd]
  rfl

/-! ### Sequences of steps -/

def total (amounts : List Duration) : ℕ := (amounts.map Duration.nanos).sum

/-- The days that have passed after the first `k` steps. -/
def wholeDays (oneDay : Duration) (amounts : List Duration) (k : ℕ) : ℕ :=
  total (amounts.take k) / oneDay.nanos

theorem total_concat (amounts : List Duration) (amount : Duration) :
    total (amounts ++ [amount]) = total amounts + amount.nanos := by
  simp [total]

theorem run_take_succ (self : DaylightCycle) {amounts : List Duration} {k : ℕ} (hk : k < amounts.length) :
    self.run (amounts.take (k + 1)) = self.run (amounts.take k) >>= fun cycle => cycle.advance amounts[k] := by
  rw [List.take_succ_eq_append_getElem hk, run_concat]

theorem total_take_succ {amounts : List Duration} {k : ℕ} (hk : k < amounts.length) :
    total (amounts.take (k + 1)) = total (amounts.take k) + amounts[k].nanos := by
  rw [List.take_succ_eq_append_getElem hk, total_concat]

/-- The time does not run out of range in the step, with the days that have been taken off before. -/
def Fits (oneDay : Duration) (amounts : List Duration) (k : ℕ) : Prop :=
  total (amounts.take (k + 1)) < nanosLimit + count (wholeDays oneDay amounts) k * oneDay.nanos

/-- After the first `k` steps as many days have been taken off as could be. -/
theorem exists_run_take (moon : UInt16) (hday : 0 < oneDay.nanos) {amounts : List Duration} {k : ℕ}
    (hk : k ≤ amounts.length) (hfits : ∀ i < k, Fits oneDay amounts i) :
    ∃ cycle, (new moon oneDay).run (amounts.take k) = some cycle ∧
      AfterDays moon oneDay (total (amounts.take k)) (count (wholeDays oneDay amounts) k) cycle := by
  induction k with
  | zero =>
      have hcount : count (wholeDays oneDay amounts) 0 = 0 := Nat.zero_div _
      rw [hcount]
      exact ⟨_, rfl, (UInt16.add_zero _).symm, rfl, by simp [new, Duration.zero, total]⟩
  | succ k ih =>
      obtain ⟨before, hrun, hbefore⟩ := ih (Nat.le_of_succ_le hk) fun i hi => hfits i (Nat.lt_succ_of_lt hi)
      have hnext := hfits k (Nat.lt_succ_self k)
      rw [Fits, total_take_succ hk] at hnext
      obtain ⟨after, hadvance, hafter⟩ := hbefore.advance hday hnext
      rw [run_take_succ _ hk, hrun, total_take_succ hk, count, wholeDays, total_take_succ hk]
      exact ⟨after, hadvance, hafter⟩

theorem fits_of_run_take (hday : 0 < oneDay.nanos) {amounts : List Duration} {k : ℕ}
    (hk : k ≤ amounts.length) {cycle : DaylightCycle}
    (h : (new moon oneDay).run (amounts.take k) = some cycle) : ∀ i < k, Fits oneDay amounts i := by
  induction k generalizing cycle with
  | zero => exact fun i hi => absurd hi (Nat.not_lt_zero i)
  | succ k ih =>
      rw [run_take_succ _ hk] at h
      obtain ⟨before, hrun, hadvance⟩ := Option.bind_eq_some_iff.1 h
      have hfits := ih (Nat.le_of_succ_le hk) hrun
      refine Nat.forall_lt_succ_right.2 ⟨hfits, ?_⟩
      obtain ⟨before', hrun', hbefore⟩ := exists_run_take moon hday (Nat.le_of_succ_le hk) hfits
      rw [hrun, Option.some.injEq] at hrun'
      subst hrun'
      by_contra hnext
      rw [Fits, total_take_succ hk] at hnext
      rw [hbefore.advance_eq_none hnext] at hadvance
      cases hadvance

/-! ### Which sequences keep the time -/

/-- The time of the day is what is left of the total time, and the moon has gone on by the whole days. -/
def KeepsTime (moon : UInt16) (oneDay : Duration) (amounts : List Duration) : Prop :=
  ∃ cycle, (new moon oneDay).run amounts = some cycle ∧
    cycle.time.nanos = total amounts % oneDay.nanos ∧
    cycle.moon = moon + UInt16.ofNat (total amounts / oneDay.nanos)

/-- No addition is out of range.  From any step on, one day is taken off in each of the following steps at
most. -/
def InRange (oneDay : Duration) (amounts : List Duration) : Prop :=
  ∀ k < amounts.length, ∀ j ≤ k,
    total (amounts.take (k + 1)) < nanosLimit + (wholeDays oneDay amounts j + (k - j)) * oneDay.nanos

/-- From any step on, no more days end than there are steps. -/
def Settled (oneDay : Duration) (amounts : List Duration) : Prop :=
  ∀ j ≤ amounts.length,
    total amounts / oneDay.nanos ≤ wholeDays oneDay amounts j + (amounts.length - j)

theorem inRange_iff {amounts : List Duration} :
    InRange oneDay amounts ↔ ∀ k < amounts.length, Fits oneDay amounts k := by
  refine forall₂_congr fun k hk => ?_
  have hmono (a b : ℕ) (hab : a ≤ b)
      (hlt : total (amounts.take (k + 1)) < nanosLimit + a * oneDay.nanos) :
      total (amounts.take (k + 1)) < nanosLimit + b * oneDay.nanos :=
    hlt.trans_le (Nat.add_le_add_left (Nat.mul_le_mul_right _ hab) _)
  exact (count_iff hmono).symm

theorem settled_iff {amounts : List Duration} :
    Settled oneDay amounts ↔
      count (wholeDays oneDay amounts) amounts.length = total amounts / oneDay.nanos := by
  have hall : wholeDays oneDay amounts amounts.length = total amounts / oneDay.nanos := by
    rw [wholeDays, List.take_length]
  rw [Settled, ← hall, count_eq_iff]

/-- No step goes over the ends of two days, and none is out of range: then the time is kept all along. -/
theorem keepsTime_take_of_short_steps (moon : UInt16) (hday : 0 < oneDay.nanos) {amounts : List Duration}
    (h : ∀ k, (hk : k < amounts.length) →
      total (amounts.take k) % oneDay.nanos + amounts[k].nanos < min (2 * oneDay.nanos) nanosLimit)
    {k : ℕ} (hk : k ≤ amounts.length) : KeepsTime moon oneDay (amounts.take k) := by
  have hsplit (k : ℕ) := Nat.mod_add_div' (total (amounts.take k)) oneDay.nanos
  have hcount : ∀ i ≤ amounts.length, count (wholeDays oneDay amounts) i = wholeDays oneDay amounts i := by
    intro i hi
    induction i with
    | zero => rfl
    | succ i ih =>
        rw [count, ih (Nat.le_of_succ_le hi)]
        refine min_eq_right (Nat.lt_succ_iff.1 ((Nat.div_lt_iff_lt_mul hday).2 ?_))
        rw [total_take_succ hi, Nat.succ_mul, Nat.succ_mul, wholeDays]
        have hstep := lt_min_iff.1 (h i hi)
        have hi' := hsplit i
        omega
  obtain ⟨cycle, hrun, hdays⟩ := exists_run_take moon hday hk fun i hi => by
    rw [Fits, total_take_succ (hi.trans_le hk), hcount i (hi.le.trans hk), wholeDays]
    have hstep := lt_min_iff.1 (h i (hi.trans_le hk))
    have hi' := hsplit i
    omega
  rw [hcount k hk, wholeDays] at hdays
  have htime := hdays.time
  have hk' := hsplit k
  exact ⟨cycle, hrun, by omega, hdays.moon⟩

/-- **Which sequences keep the time.**  A sequence of steps leaves the time of the day and the moon where they
should be exactly if no addition is out of range, and from no step on more days end than there are steps. -/
theorem keeps_time_iff (moon : UInt16) (oneDay : Duration) (hday : 0 < oneDay.nanos)
    (amounts : List Duration) :
    KeepsTime moon oneDay amounts ↔ InRange oneDay amounts ∧ Settled oneDay amounts := by
  have hlength : amounts.take amounts.length = amounts := List.take_length
  rw [inRange_iff, settled_iff]
  constructor
  · rintro ⟨cycle, hrun, htime, -⟩
    have hrun' : (new moon oneDay).run (amounts.take amounts.length) = some cycle := by rw [hlength, hrun]
    have hfits := fits_of_run_take hday (le_refl _) hrun'
    obtain ⟨cycle', hcycle', hdays⟩ := exists_run_take moon hday (le_refl _) hfits
    rw [hrun', Option.some.injEq] at hcycle'
    subst hcycle'
    have hall := hdays.time
    rw [hlength, htime] at hall
    refine ⟨hfits, Nat.eq_of_mul_eq_mul_right hday ?_⟩
    have hsplit := Nat.mod_add_div' (total amounts) oneDay.nanos
    omega
  · rintro ⟨hfits, hcount⟩
    obtain ⟨cycle, hrun, hdays⟩ := exists_run_take moon hday (le_refl _) hfits
    rw [hlength, hcount] at hdays
    rw [hlength] at hrun
    have hsplit := Nat.mod_add_div' (total amounts) oneDay.nanos
    have htime := hdays.time
    exact ⟨cycle, hrun, by omega, hdays.moon⟩

/-- Days of five seconds. -/
def shortDay : Duration := ⟨5 * 10 ^ 9, by decide⟩

theorem keeps_time_of_one_day :
    KeepsTime 0 shortDay [shortDay] ↔ InRange shortDay [shortDay] ∧ Settled shortDay [shortDay] :=
  keeps_time_iff 0 shortDay (by decide) [shortDay]

/-- One day of two stays in the time. -/
theorem two_days_are_not_kept :
    ¬ ∀ (moon : UInt16) (oneDay : Duration), 0 < oneDay.nanos → ∀ amounts, KeepsTime moon oneDay amounts := by
  intro h
  obtain ⟨cycle, hrun, htime, -⟩ := h 0 shortDay (by decide) [⟨10 * 10 ^ 9, by decide⟩]
  have hcycle : (new 0 shortDay).run [⟨10 * 10 ^ 9, by decide⟩] = some ⟨1, shortDay, shortDay⟩ := by
    decide
  rw [hcycle, Option.some.injEq] at hrun
  subst hrun
  exact absurd htime (by decide)

end DaylightCycle

end Skrillax.Daylight

/-
**The regions that are enabled in the map.**

The map has one bit for each region, the highest bit of a byte first.  `EnabledRegions` walks over all numbers
of 16 bits and returns the regions whose bit is set.  The number cannot go beyond the last region, so a flag
of its own says that this one has been looked at.

Main definitions:

* `EnabledRegions`, `isEnabled`, `step`, `next`, `collect` — the iterator;
* `pending` — the regions that are still to be looked at;
* `BitSet` — the bit of a region is there and is set.

Main results:

* `pending_step` — a step looks at one region;
* `next_spec` — the next region, and what has been skipped for it;
* `enabled_regions_exact` — **the iterator returns the enabled regions, from the lowest to the highest**.
-/

import Skrillax.RegionGrid

set_option relaxedAutoImplicit false
set_option autoImplicit false

namespace Skrillax.Navmesh

/-! ### The iterator -/

structure EnabledRegions where
  regionData : List UInt8
  currentRegion : UInt16
  ended : Bool

namespace EnabledRegions

def new (regionData : List UInt8) : EnabledRegions := ⟨regionData, 0, regionData.isEmpty⟩

def isEnabled (self : EnabledRegions) (region : Region) : Bool :=
  let region := region.id.toNat
  let index := region >>> 3
  match self.regionData[index]? with
  | none => false
  | some byte => byte &&& (128 >>> UInt8.ofNat (region % 8)) ≠ 0

/-- `checked_add(1)`. -/
def checkedSucc (region : UInt16) : Option UInt16 :=
  if region.toNat + 1 < 2 ^ 16 then some (region + 1) else none

def step (self : EnabledRegions) : UInt16 × EnabledRegions :=
  let index := self.currentRegion
  match checkedSucc index with
  | some nextRegion => (index, { self with currentRegion := nextRegion })
  | none => (index, { self with ended := true, currentRegion := index })

/-- The numbers of the regions that are still to be looked at. -/
def pending (self : EnabledRegions) : List ℕ :=
  if self.ended then [] else List.range' self.currentRegion.toNat (2 ^ 16 - self.currentRegion.toNat)

theorem pending_of_ended {self : EnabledRegions} (h : self.ended = true) : self.pending = [] := if_pos h

theorem step_of_lt {self : EnabledRegions} (h : self.currentRegion.toNat + 1 < 2 ^ 16) :
    self.step = (self.currentRegion, { self with currentRegion := self.currentRegion + 1 }) := by
  have hnext : checkedSucc self.currentRegion = some (self.currentRegion + 1) := if_pos h
  rw [step, hnext]

theorem step_of_last {self : EnabledRegions} (h : ¬ self.currentRegion.toNat + 1 < 2 ^ 16) :
    self.step = (self.currentRegion, { self with ended := true }) := by
  have hnext : checkedSucc self.currentRegion = none := if_neg h
  rw [step, hnext]

theorem pending_step {self : EnabledRegions} (h : ¬ self.ended = true) :
    self.pending = self.step.1.toNat :: self.step.2.pending := by
  have hlt := self.currentRegion.toNat_lt
  by_cases hnext : self.currentRegion.toNat + 1 < 2 ^ 16
  · have hsucc : (self.currentRegion + 1).toNat = self.currentRegion.toNat + 1 := by
      rw [UInt16.toNat_add]
      exact Nat.mod_eq_of_lt hnext
    have hcount : 2 ^ 16 - self.currentRegion.toNat = 2 ^ 16 - (self.currentRegion.toNat + 1) + 1 := by
      omega
    rw [step_of_lt hnext, pending, if_neg h, hcount, List.range'_succ, pending, if_neg h, hsucc]
  · have hcount : 2 ^ 16 - self.currentRegion.toNat = 1 := by omega
    rw [step_of_last hnext, pending, if_neg h, hcount, pending_of_ended rfl, List.range'_one]

theorem length_pending_step {self : EnabledRegions} (h : ¬ self.ended = true) :
    self.step.2.pending.length < self.pending.length := by
  rw [pending_step h, List.length_cons]
  exact Nat.lt_succ_self _

@[simp] theorem regionData_step (self : EnabledRegions) : self.step.2.regionData = self.regionData := by
  by_cases h : self.currentRegion.toNat + 1 < 2 ^ 16
  · rw [step_of_lt h]
  · rw [step_of_last h]

/-- `Iterator::next`. -/
def next (self : EnabledRegions) : Option Region × EnabledRegions :=
  if _h : self.ended = true then (none, self)
  else
    let region : Region := ⟨self.step.1⟩
    if self.step.2.isEnabled region then (some region, self.step.2) else self.step.2.next
termination_by self.pending.length
decreasing_by exact length_pending_step _h

/-! ### What is returned -/

/-- The bit of the region is there, and is set. -/
def BitSet (regionData : List UInt8) (r : ℕ) : Prop :=
  ∃ byte, regionData[r / 8]? = some byte ∧ byte.toNat.testBit (7 - r % 8) = true

instance (regionData : List UInt8) (r : ℕ) : Decidable (BitSet regionData r) :=
  decidable_of_iff ((regionData[r / 8]?).any fun byte => byte.toNat.testBit (7 - r % 8))
    (by simp [BitSet, Option.any_eq_true])

theorem and_shifted_ne_zero_iff (byte : UInt8) {i : ℕ} (hi : i < 8) :
    byte &&& (128 >>> UInt8.ofNat i) ≠ 0 ↔ byte.toNat.testBit (7 - i) = true := by
  have hbit : ((128 : UInt8) >>> UInt8.ofNat i).toNat = 2 ^ (7 - i) := by
    interval_cases i <;> rfl
  rw [ne_eq, ← UInt8.toNat_inj, UInt8.toNat_and, hbit, Nat.and_two_pow]
  cases byte.toNat.testBit (7 - i) with
  | false => simp
  | true => simp

theorem isEnabled_iff (self : EnabledRegions) (region : Region) :
    self.isEnabled region = true ↔ BitSet self.regionData region.id.toNat := by
  have hindex : region.id.toNat >>> 3 = region.id.toNat / 8 := Nat.shiftRight_eq_div_pow _ 3
  unfold isEnabled BitSet
  simp only [hindex]
  cases self.regionData[region.id.toNat / 8]? with
  | none => simp
  | some byte =>
      simp only [decide_eq_true_eq, Option.some.injEq, exists_eq_left']
      exact and_shifted_ne_zero_iff byte (Nat.mod_lt _ (by decide))

/-- The next region is the first one that is pending and enabled. -/
theorem next_spec (self : EnabledRegions) :
    (self.next.1 = none ∧ ∀ r ∈ self.pending, ¬ BitSet self.regionData r) ∨
      ∃ skipped region, self.next.1 = some region ∧ self.next.2.regionData = self.regionData ∧
        self.pending = skipped ++ region.id.toNat :: self.next.2.pending ∧
          (∀ r ∈ skipped, ¬ BitSet self.regionData r) ∧ BitSet self.regionData region.id.toNat := by
  fun_induction next self with
  | case1 self h =>
      left
      rw [pending_of_ended h]
      exact ⟨rfl, List.forall_mem_nil _⟩
  | case2 self h region henabled =>
      right
      rw [isEnabled_iff, regionData_step] at henabled
      exact ⟨[], region, rfl, regionData_step self, pending_step h, List.forall_mem_nil _, henabled⟩
  | case3 self h region henabled ih =>
      rw [isEnabled_iff, regionData_step] at henabled
      rw [regionData_step] at ih
      obtain ⟨hnone, hrest⟩ | ⟨skipped, found, hfound, hdata, hpending, hskipped, hset⟩ := ih
      · left
        refine ⟨hnone, ?_⟩
        rw [pending_step h]
        exact List.forall_mem_cons.2 ⟨henabled, hrest⟩
      · right
        refine ⟨region.id.toNat :: skipped, found, hfound, hdata, ?_,
          List.forall_mem_cons.2 ⟨henabled, hskipped⟩, hset⟩
        rw [pending_step h, hpending]
        rfl

theorem length_pending_next {self : EnabledRegions} {region : Region} (h : self.next.1 = some region) :
    self.next.2.pending.length < self.pending.length := by
  obtain ⟨hnone, -⟩ | ⟨skipped, found, -, -, hpending, -⟩ := self.next_spec
  · rw [hnone] at h
    cases h
  · rw [hpending, List.length_append, List.length_cons]
    omega

/-- `Iterator::collect`. -/
def collect (self : EnabledRegions) : List Region :=
  match _h : self.next.1 with
  | none => []
  | some region => region :: self.next.2.collect
termination_by self.pending.length
decreasing_by exact length_pending_next _h

theorem map_collect (self : EnabledRegions) :
    self.collect.map (fun region => region.id.toNat) =
      self.pending.filter fun r => BitSet self.regionData r := by
  fun_induction collect self with
  | case1 self h =>
      obtain ⟨-, hrest⟩ | ⟨skipped, region, hsome, -⟩ := self.next_spec
      · symm
        rw [List.map_nil, List.filter_eq_nil_iff]
        simpa using hrest
      · rw [h] at hsome
        cases hsome
  | case2 self region h ih =>
      obtain ⟨hnone, -⟩ | ⟨skipped, found, hsome, hdata, hpending, hskipped, hset⟩ := self.next_spec
      · rw [h] at hnone
        cases hnone
      · rw [h, Option.some.injEq] at hsome
        subst hsome
        have hnothing : (skipped.filter fun r => BitSet self.regionData r) = [] := by
          rw [List.filter_eq_nil_iff]
          simpa using hskipped
        rw [List.map_cons, ih, hdata, hpending, List.filter_append, hnothing, List.nil_append,
          List.filter_cons_of_pos (by simpa using hset)]

/-! ### All regions -/

/-- Without data there is nothing to look at, and no bit that is set. -/
theorem filter_pending_new (regionData : List UInt8) :
    ((new regionData).pending.filter fun r => BitSet regionData r) =
      (List.range (2 ^ 16)).filter fun r => BitSet regionData r := by
  cases regionData with
  | nil =>
      symm
      rw [pending_of_ended rfl, List.filter_nil, List.filter_eq_nil_iff]
      simp [BitSet]
  | cons byte regionData => rw [List.range_eq_range']; rfl

/-- **What the iterator returns.**  The regions come in ascending order, each once, and they are the ones
whose bit is there and is set, whatever the length of the data is. -/
theorem enabled_regions_exact (regionData : List UInt8) :
    (new regionData).collect.Pairwise (fun a b => a.id < b.id) ∧
      ∀ region, region ∈ (new regionData).collect ↔ BitSet regionData region.id.toNat := by
  have hcollect : (new regionData).collect.map (fun region => region.id.toNat) =
      (List.range (2 ^ 16)).filter fun r => BitSet regionData r :=
    (map_collect _).trans (filter_pending_new regionData)
  constructor
  · have hsorted : ((new regionData).collect.map fun region => region.id.toNat).Pairwise (· < ·) := by
      rw [hcollect]
      exact List.pairwise_lt_range.filter _
    exact (List.pairwise_map.1 hsorted).imp fun hlt => UInt16.lt_iff_toNat_lt.2 hlt
  · intro region
    have hinj : Function.Injective fun region : Region => region.id.toNat := by
      rintro ⟨a⟩ ⟨b⟩ heq
      exact congrArg Region.mk (UInt16.toNat_inj.1 heq)
    rw [← List.mem_map_of_injective hinj, hcollect, List.mem_filter, List.mem_range, decide_eq_true_eq]
    exact and_iff_right region.id.toNat_lt

end EnabledRegions

end Skrillax.Navmesh

/-
**Health and mana.**

A bar is a current value and a maximum.  The health and the mana of a player have the same interface, but
not the same code: a level-up moves the maximum of the health and leaves the current value where it is, and
a change of the stats moves the current mana instead of its maximum.

Main definitions:

* `Health`, `Mana` — the components, with the change that the client is told of;
* `Bars.call` — what the systems call on the two bars of an entity;
* `Bars.WithinMax` — no bar exceeds its maximum;
* `MaximaGrow` — the maxima that the calls pass never decrease;
* `KeepsBars` — the calls after which the bars are as they should be.

Main results:

* `Bars.call_keeps_iff`, `Bars.levelUp_full_iff` — one call;
* `bars_within_max_iff` — **in every run with growing maxima the bars stay within their maximum and are
  full after a level-up, exactly if every call is one of those**.
-/

import Skrillax.PartialAction
import Skrillax.RustInt

set_option relaxedAutoImplicit false
set_option autoImplicit false

namespace Skrillax

open Rust PartialAction

/-! ### The components -/

/-- Adding to a pending change. -/
def sumChange (p : Profile) (change : Option Int32) (amount : Int32) : Option (Option Int32) :=
  match change with
  | some previousChange => do
      let sum ← p.addI32 previousChange amount
      return some sum
  | none => some (some amount)

structure Health where
  currentHealth : UInt32
  maxHealth : UInt32
  change : Option Int32
  deriving DecidableEq, Repr

namespace Health

def new (maxHealth : UInt32) : Health := ⟨maxHealth, maxHealth, none⟩

def addChange (p : Profile) (health : Health) (amount : Int32) : Option Health := do
  let change ← sumChange p health.change amount
  return { health with change }

def reduce (p : Profile) (health : Health) (amount : UInt32) : Option Health := do
  let before := health.currentHealth
  let health := { health with currentHealth := saturatingSubU32 health.currentHealth amount }
  let amount ← p.negI32 before.toInt32
  health.addChange p amount

def regenerate (p : Profile) (health : Health) (amount : UInt32) : Option Health :=
  let before := health.currentHealth
  let health := { health with currentHealth := saturatingAddU32 health.currentHealth amount }
  health.addChange p before.toInt32

def isDead (health : Health) : Bool := health.currentHealth == 0

def increaseMax (health : Health) (newMax : UInt32) : Health := { health with maxHealth := newMax }

/-- The difference is reported, but the current value stays. -/
def upgrade (p : Profile) (health : Health) (newMax : UInt32) : Option Health := do
  let diff ← p.subU32 newMax health.currentHealth
  let health := { health with maxHealth := newMax }
  let health := health.increaseMax newMax
  health.addChange p diff.toInt32

def collectChange (health : Health) : Option Int32 := health.change

def reset (health : Health) : Health := { health with change := none }

end Health

structure Mana where
  currentMana : UInt32
  maxMana : UInt32
  change : Option Int32
  deriving DecidableEq, Repr

namespace Mana

def withMax (max : UInt32) : Mana := ⟨max, max, none⟩

def addChange (p : Profile) (mana : Mana) (amount : Int32) : Option Mana := do
  let change ← sumChange p mana.change amount
  return { mana with change }

/-- It is the current value that is set. -/
def increaseMax (mana : Mana) (newMax : UInt32) : Mana := { mana with currentMana := newMax }

def upgrade (p : Profile) (mana : Mana) (newMax : UInt32) : Option Mana := do
  let diff ← p.subU32 newMax mana.currentMana
  let mana := { mana with maxMana := newMax }
  let mana := mana.increaseMax newMax
  mana.addChange p diff.toInt32

def collectChange (mana : Mana) : Option Int32 := mana.change

def reset (mana : Mana) : Mana := { mana with change := none }

end Mana

/-! ### What an operation returns -/

theorem sumChange_isSome {p : Profile} {change change' : Option Int32} {amount : Int32}
    (h : sumChange p change amount = some change') : change'.isSome = true := by
  cases change with
  | none =>
      obtain rfl := Option.some_inj.1 h
      rfl
  | some previousChange =>
      obtain ⟨sum, -, hsum⟩ := Option.bind_eq_some_iff.1 h
      obtain rfl := Option.some_inj.1 hsum
      rfl

theorem Health.addChange_eq_some {p : Profile} {health health' : Health} {amount : Int32}
    (h : health.addChange p amount = some health') :
    health'.currentHealth = health.currentHealth ∧ health'.maxHealth = health.maxHealth ∧
      health'.change.isSome = true := by
  obtain ⟨change, hchange, hret⟩ := Option.bind_eq_some_iff.1 h
  obtain rfl := Option.some_inj.1 hret
  exact ⟨rfl, rfl, sumChange_isSome hchange⟩

theorem Mana.addChange_eq_some {p : Profile} {mana mana' : Mana} {amount : Int32}
    (h : mana.addChange p amount = some mana') :
    mana'.currentMana = mana.currentMana ∧ mana'.maxMana = mana.maxMana ∧
      mana'.change.isSome = true := by
  obtain ⟨change, hchange, hret⟩ := Option.bind_eq_some_iff.1 h
  obtain rfl := Option.some_inj.1 hret
  exact ⟨rfl, rfl, sumChange_isSome hchange⟩

theorem Health.reduce_eq_some {p : Profile} {health health' : Health} {amount : UInt32}
    (h : health.reduce p amount = some health') :
    health'.currentHealth = saturatingSubU32 health.currentHealth amount ∧
      health'.maxHealth = health.maxHealth ∧ health'.change.isSome = true := by
  obtain ⟨change, -, hadd⟩ := Option.bind_eq_some_iff.1 h
  exact Health.addChange_eq_some hadd

theorem sumChange_defined {p : Profile} {change : Option Int32} {amount : Int32} :
    (sumChange p change amount).isSome = true ↔
      ∀ previous ∈ change, Profile.FitsI32 (previous.toInt + amount.toInt) ∨ p = .release := by
  cases change with
  | none => simp [sumChange]
  | some previousChange =>
      have hsum : (sumChange p (some previousChange) amount).isSome =
          (p.addI32 previousChange amount).isSome := by
        cases h : p.addI32 previousChange amount <;> simp [sumChange, h]
      rw [hsum, Profile.addI32_isSome]
      simp

theorem Health.addChange_isSome {p : Profile} {health : Health} {amount : Int32} :
    (health.addChange p amount).isSome = true ↔
      ∀ previous ∈ health.change, Profile.FitsI32 (previous.toInt + amount.toInt) ∨ p = .release := by
  rw [Health.addChange, ← sumChange_defined]
  cases sumChange p health.change amount <;> simp

/-- It is the health before the hit that is reported as the change. -/
theorem Health.reduce_isSome {p : Profile} {health : Health} {amount : UInt32} :
    (health.reduce p amount).isSome = true ↔
      (health.currentHealth.toInt32 ≠ Int32.minValue ∨ p = .release) ∧ ∀ previous ∈ health.change,
        Profile.FitsI32 (previous.toInt + (-health.currentHealth.toInt32).toInt) ∨ p = .release := by
  simp only [Health.reduce]
  cases hneg : p.negI32 health.currentHealth.toInt32 with
  | none =>
      have hpanic : ¬(health.currentHealth.toInt32 ≠ Int32.minValue ∨ p = .release) := fun h => by
        rw [Profile.negI32_eq_some.2 ⟨rfl, h⟩] at hneg
        cases hneg
      exact ⟨fun h => (by cases h), fun h => absurd h.1 hpanic⟩
  | some amount =>
      obtain ⟨rfl, hdefined⟩ := Profile.negI32_eq_some.1 hneg
      exact Health.addChange_isSome.trans (and_iff_right hdefined).symm

theorem Health.regenerate_eq_some {p : Profile} {health health' : Health} {amount : UInt32}
    (h : health.regenerate p amount = some health') :
    health'.currentHealth = saturatingAddU32 health.currentHealth amount ∧
      health'.maxHealth = health.maxHealth ∧ health'.change.isSome = true :=
  Health.addChange_eq_some h

theorem Health.upgrade_eq_some {p : Profile} {health health' : Health} {newMax : UInt32}
    (h : health.upgrade p newMax = some health') :
    health'.currentHealth = health.currentHealth ∧ health'.maxHealth = newMax ∧
      health'.change.isSome = true := by
  obtain ⟨diff, -, hadd⟩ := Option.bind_eq_some_iff.1 h
  exact Health.addChange_eq_some hadd

theorem Mana.upgrade_eq_some {p : Profile} {mana mana' : Mana} {newMax : UInt32}
    (h : mana.upgrade p newMax = some mana') :
    mana'.currentMana = newMax ∧ mana'.maxMana = newMax ∧ mana'.change.isSome = true := by
  obtain ⟨diff, -, hadd⟩ := Option.bind_eq_some_iff.1 h
  exact Mana.addChange_eq_some hadd

/-! ### What the systems call -/

/-- The two bars of an entity. -/
structure Bars where
  health : Health
  mana : Mana
  deriving DecidableEq, Repr

/-- `reset_health_mana_on_level`, for an entity that did level. -/
def resetHealthManaOnLevel (p : Profile) (bars : Bars) (maxHealth maxMana : UInt32) : Option Bars := do
  let health ← bars.health.upgrade p maxHealth
  let mana ← bars.mana.upgrade p maxMana
  return ⟨health, mana⟩

/-- `update_max_hp_mp_on_stat_change`, for an entity that has spent points. -/
def updateMaxHpMpOnStatChange (bars : Bars) (maxHealth maxMana : UInt32) : Bars :=
  ⟨bars.health.increaseMax maxHealth, bars.mana.increaseMax maxMana⟩

/-- What happens to the bars.  The maxima are those that the stats give at the level of the entity. -/
inductive BarCall where
  | reduce (amount : UInt32)
  | regenerate (amount : UInt32)
  | levelUp (maxHealth maxMana : UInt32)
  | statChange (maxHealth maxMana : UInt32)
  | reset
  deriving DecidableEq, Repr

namespace Bars

/-- `none` is a panic. -/
def call (p : Profile) : BarCall → Bars → Option Bars
  | .reduce amount, bars => do
      let health ← bars.health.reduce p amount
      return { bars with health }
  | .regenerate amount, bars => do
      let health ← bars.health.regenerate p amount
      return { bars with health }
  | .levelUp maxHealth maxMana, bars => resetHealthManaOnLevel p bars maxHealth maxMana
  | .statChange maxHealth maxMana, bars => some (updateMaxHpMpOnStatChange bars maxHealth maxMana)
  | .reset, bars => some ⟨bars.health.reset, bars.mana.reset⟩

structure WithinMax (bars : Bars) : Prop where
  health : bars.health.currentHealth ≤ bars.health.maxHealth
  mana : bars.mana.currentMana ≤ bars.mana.maxMana

/-- Both bars are full, with these maxima. -/
structure Full (bars : Bars) (maxHealth maxMana : UInt32) : Prop where
  health : bars.health.currentHealth = maxHealth
  maxHealth : bars.health.maxHealth = maxHealth
  mana : bars.mana.currentMana = maxMana
  maxMana : bars.mana.maxMana = maxMana

/-- The subtractions of a level-up stay in range. -/
def UpgradeFits (bars : Bars) : BarCall → Prop
  | .levelUp maxHealth maxMana =>
      bars.health.currentHealth ≤ maxHealth ∧ bars.mana.currentMana ≤ maxMana
  | _ => True

/-- The maxima that are passed are not below those of the bars. -/
def AtLeastMax (bars : Bars) : BarCall → Prop
  | .levelUp maxHealth maxMana => bars.health.maxHealth ≤ maxHealth ∧ bars.mana.maxMana ≤ maxMana
  | .statChange maxHealth maxMana => bars.health.maxHealth ≤ maxHealth ∧ bars.mana.maxMana ≤ maxMana
  | _ => True

end Bars

/-- After a level-up, both bars are full. -/
def Bars.FullAfter (bars : Bars) : BarCall → Prop
  | .levelUp maxHealth maxMana => bars.Full maxHealth maxMana
  | _ => True

/-- The maxima that the calls pass never decrease, and start from these. -/
def MaximaGrow : UInt32 → UInt32 → List BarCall → Prop
  | _, _, [] => True
  | maxHealth, maxMana, .levelUp maxHealth' maxMana' :: calls =>
      maxHealth ≤ maxHealth' ∧ maxMana ≤ maxMana' ∧ MaximaGrow maxHealth' maxMana' calls
  | maxHealth, maxMana, .statChange maxHealth' maxMana' :: calls =>
      maxHealth ≤ maxHealth' ∧ maxMana ≤ maxMana' ∧ MaximaGrow maxHealth' maxMana' calls
  | maxHealth, maxMana, _ :: calls => MaximaGrow maxHealth maxMana calls

/-- The calls that do what they should: a regeneration that stays within the maximum, a level-up of an
entity whose health already has the new maximum, and a change of the stats that does not raise the mana. -/
def KeepsBars (bars : Bars) : BarCall → Prop
  | .reduce _ => True
  | .regenerate amount =>
      min (bars.health.currentHealth.toNat + amount.toNat) (2 ^ 32 - 1) ≤ bars.health.maxHealth.toNat
  | .levelUp maxHealth _ => bars.health.currentHealth = maxHealth
  | .statChange _ maxMana => maxMana ≤ bars.mana.maxMana
  | .reset => True

instance (bars : Bars) : (c : BarCall) → Decidable (KeepsBars bars c)
  | .reduce _ => inferInstanceAs (Decidable True)
  | .regenerate _ => inferInstanceAs (Decidable (_ ≤ _))
  | .levelUp _ _ => inferInstanceAs (Decidable (_ = _))
  | .statChange _ _ => inferInstanceAs (Decidable (_ ≤ _))
  | .reset => inferInstanceAs (Decidable True)

/-! ### One call -/

/-- What a level-up leaves. -/
theorem resetHealthManaOnLevel_eq_some {p : Profile} {bars bars' : Bars} {maxHealth maxMana : UInt32}
    (h : resetHealthManaOnLevel p bars maxHealth maxMana = some bars') :
    bars'.health.currentHealth = bars.health.currentHealth ∧ bars'.health.maxHealth = maxHealth ∧
      bars'.mana.currentMana = maxMana ∧ bars'.mana.maxMana = maxMana := by
  obtain ⟨health, hhealth, hrest⟩ := Option.bind_eq_some_iff.1 h
  obtain ⟨mana, hmana, hret⟩ := Option.bind_eq_some_iff.1 hrest
  obtain rfl := Option.some_inj.1 hret
  obtain ⟨hcurrent, hmax, -⟩ := Health.upgrade_eq_some hhealth
  obtain ⟨hcurrentMana, hmaxMana, -⟩ := Mana.upgrade_eq_some hmana
  exact ⟨hcurrent, hmax, hcurrentMana, hmaxMana⟩

namespace Bars

/-- A level-up fills the mana, and the health only if there was nothing to fill. -/
theorem levelUp_full_iff {p : Profile} {bars bars' : Bars} {maxHealth maxMana : UInt32}
    (h : call p (.levelUp maxHealth maxMana) bars = some bars') :
    bars'.Full maxHealth maxMana ↔ bars.health.currentHealth = maxHealth := by
  obtain ⟨hcurrent, hmax, hmana, hmaxMana⟩ := resetHealthManaOnLevel_eq_some h
  constructor
  · intro hfull
    rw [← hcurrent]
    exact hfull.health
  · intro heq
    exact ⟨hcurrent.trans heq, hmax, hmana, hmaxMana⟩

/-- **One call**, of a maximum that is not below the present one. -/
theorem call_keeps_iff {p : Profile} {bars bars' : Bars} {c : BarCall} (hwithin : bars.WithinMax)
    (hmax : bars.AtLeastMax c) (h : call p c bars = some bars') :
    bars'.WithinMax ∧ bars'.FullAfter c ↔ KeepsBars bars c := by
  obtain ⟨hhealth, hmana⟩ := hwithin
  cases c with
  | reduce amount =>
      obtain ⟨health, hreduce, hret⟩ := Option.bind_eq_some_iff.1 h
      obtain rfl := Option.some_inj.1 hret
      obtain ⟨hcurrent, hmaximum, -⟩ := Health.reduce_eq_some hreduce
      refine ⟨fun _ => trivial, fun _ => ⟨⟨?_, hmana⟩, trivial⟩⟩
      rw [hcurrent, hmaximum]
      exact UInt32.le_trans (saturatingSubU32_le _ _) hhealth
  | regenerate amount =>
      obtain ⟨health, hregenerate, hret⟩ := Option.bind_eq_some_iff.1 h
      obtain rfl := Option.some_inj.1 hret
      obtain ⟨hcurrent, hmaximum, -⟩ := Health.regenerate_eq_some hregenerate
      have hle : health.currentHealth ≤ health.maxHealth ↔ KeepsBars bars (.regenerate amount) := by
        rw [hcurrent, hmaximum, UInt32.le_iff_toNat_le, toNat_saturatingAddU32]
        rfl
      exact ⟨fun hafter => hle.1 hafter.1.health, fun hkeeps => ⟨⟨hle.2 hkeeps, hmana⟩, trivial⟩⟩
  | levelUp maxHealth maxMana =>
      have hfull := levelUp_full_iff h
      obtain ⟨hcurrent, hmaximum, hcurrentMana, hmaxMana⟩ := resetHealthManaOnLevel_eq_some h
      refine ⟨fun hafter => hfull.1 hafter.2, fun hkeeps => ⟨⟨?_, ?_⟩, hfull.2 hkeeps⟩⟩
      · rw [hcurrent, hmaximum]
        exact UInt32.le_trans hhealth hmax.1
      · rw [hcurrentMana, hmaxMana]
        exact UInt32.le_refl _
  | statChange maxHealth maxMana =>
      obtain rfl := Option.some_inj.1 h
      refine ⟨fun hafter => hafter.1.mana, fun hkeeps => ⟨⟨?_, hkeeps⟩, trivial⟩⟩
      exact UInt32.le_trans hhealth hmax.1
  | reset =>
      obtain rfl := Option.some_inj.1 h
      exact ⟨fun _ => trivial, fun _ => ⟨⟨hhealth, hmana⟩, trivial⟩⟩

/-- What is left of the maxima: those that were passed last, or earlier ones. -/
theorem attempted_atLeastMax {p : Profile} :
    ∀ {calls : List BarCall} {bars : Bars} {maxHealth maxMana : UInt32},
      bars.health.maxHealth ≤ maxHealth → bars.mana.maxMana ≤ maxMana →
      MaximaGrow maxHealth maxMana calls → Attempted (call p) AtLeastMax calls bars := by
  intro calls
  induction calls with
  | nil => exact fun _ _ _ => attempted_nil
  | cons c calls ih =>
      intro bars maxHealth maxMana hhealth hmana hgrow
      refine attempted_cons_iff.2 ?_
      cases c with
      | reduce amount =>
          refine ⟨trivial, fun t ht => ?_⟩
          obtain ⟨health, hreduce, hret⟩ := Option.bind_eq_some_iff.1 ht
          obtain rfl := Option.some_inj.1 hret
          refine ih ?_ hmana hgrow
          rw [(Health.reduce_eq_some hreduce).2.1]
          exact hhealth
      | regenerate amount =>
          refine ⟨trivial, fun t ht => ?_⟩
          obtain ⟨health, hregenerate, hret⟩ := Option.bind_eq_some_iff.1 ht
          obtain rfl := Option.some_inj.1 hret
          refine ih ?_ hmana hgrow
          rw [(Health.regenerate_eq_some hregenerate).2.1]
          exact hhealth
      | levelUp maxHealth' maxMana' =>
          obtain ⟨hhealth', hmana', hgrow'⟩ := hgrow
          refine ⟨⟨UInt32.le_trans hhealth hhealth', UInt32.le_trans hmana hmana'⟩, fun t ht => ?_⟩
          obtain ⟨-, hmaximum, -, hmaxMana⟩ := resetHealthManaOnLevel_eq_some ht
          exact ih (UInt32.le_of_eq hmaximum) (UInt32.le_of_eq hmaxMana) hgrow'
      | statChange maxHealth' maxMana' =>
          obtain ⟨hhealth', hmana', hgrow'⟩ := hgrow
          refine ⟨⟨UInt32.le_trans hhealth hhealth', UInt32.le_trans hmana hmana'⟩, fun t ht => ?_⟩
          obtain rfl := Option.some_inj.1 ht
          exact ih (UInt32.le_refl _) (UInt32.le_trans hmana hmana') hgrow'
      | reset =>
          refine ⟨trivial, fun t ht => ?_⟩
          obtain rfl := Option.some_inj.1 ht
          exact ih hhealth hmana hgrow

/-- A bar within its maximum can be upgraded to a maximum that is not below it. -/
theorem WithinMax.upgradeFits {bars : Bars} (h : bars.WithinMax) {c : BarCall}
    (hmax : bars.AtLeastMax c) : bars.UpgradeFits c := by
  cases c with
  | levelUp maxHealth maxMana =>
      exact ⟨UInt32.le_trans h.health hmax.1, UInt32.le_trans h.mana hmax.2⟩
  | _ => trivial

/-- The bars stay within their maximum, no level-up underflows, and after a level-up both are full. -/
structure Sound (p : Profile) (calls : List BarCall) (bars : Bars) : Prop where
  within : Reached (call p) WithinMax calls bars
  fits : Attempted (call p) UpgradeFits calls bars
  full : ∀ pre c t u, pre ++ [c] <+: calls → runAll (call p) pre bars = some t → call p c t = some u →
    u.FullAfter c

end Bars

/-! ### Runs -/

/-- **Bars under growing maxima.** -/
theorem bars_within_max_iff (p : Profile) (calls : List BarCall) (bars : Bars)
    (hstart : bars.WithinMax)
    (hgrow : MaximaGrow bars.health.maxHealth bars.mana.maxMana calls) :
    bars.Sound p calls ↔ AllSteps (Bars.call p) KeepsBars calls bars := by
  have hmax : Attempted (Bars.call p) Bars.AtLeastMax calls bars :=
    Bars.attempted_atLeastMax (UInt32.le_refl _) (UInt32.le_refl _) hgrow
  constructor
  · intro hsound
    refine allSteps_iff.2 fun pre c t u hpre ht hu => ?_
    have hbefore : t.WithinMax := hsound.within pre t ((List.prefix_append _ _).trans hpre) ht
    have hafter : u.WithinMax := hsound.within (pre ++ [c]) u hpre (by
      rw [runAll_append, ht]
      exact hu ▸ runAll_singleton c t)
    exact (Bars.call_keeps_iff hbefore (hmax pre c t hpre ht) hu).1
      ⟨hafter, hsound.full pre c t u hpre ht hu⟩
  · intro hkeeps
    have hwithin : Reached (Bars.call p) Bars.WithinMax calls bars :=
      reached_of_allSteps
        (fun c _ s t hs hc ht => ((Bars.call_keeps_iff hs hc.2 ht).2 hc.1).1)
        hstart (hkeeps.and_attempted hmax)
    have hbefore : ∀ pre c t, pre ++ [c] <+: calls → runAll (Bars.call p) pre bars = some t →
        t.WithinMax :=
      fun pre c t hpre ht => hwithin pre t ((List.prefix_append _ _).trans hpre) ht
    refine ⟨hwithin, fun pre c t hpre ht => ?_, fun pre c t u hpre ht hu => ?_⟩
    · exact (hbefore pre c t hpre ht).upgradeFits (hmax pre c t hpre ht)
    · exact ((Bars.call_keeps_iff (hbefore pre c t hpre ht) (hmax pre c t hpre ht) hu).2
        (allSteps_iff.1 hkeeps pre c t u hpre ht hu)).2

/-- Damage, a reset, a regeneration of what was lost and a change of the stats that keeps the maximum. -/
theorem bars_within_max_of_small_calls :
    (⟨Health.new 200, Mana.withMax 200⟩ : Bars).Sound .debug
      [.reduce 50, .reset, .regenerate 50, .statChange 210 200] := by
  have hgrow : MaximaGrow 200 200 [.reduce 50, .reset, .regenerate 50, .statChange 210 200] :=
    ⟨by decide, by decide, trivial⟩
  refine (bars_within_max_iff .debug _ _ ⟨by decide, by decide⟩ hgrow).2 ?_
  rintro t ⟨⟩
  refine ⟨trivial, ?_⟩
  rintro t ⟨⟩
  refine ⟨trivial, ?_⟩
  rintro t ⟨⟩
  refine ⟨by decide, ?_⟩
  rintro t ⟨⟩
  exact ⟨by decide, trivial⟩

/-- A level-up with full bars: the health keeps its value. -/
theorem level_up_is_not_full :
    ¬ ∀ (p : Profile) (calls : List BarCall) (bars : Bars), bars.WithinMax →
      MaximaGrow bars.health.maxHealth bars.mana.maxMana calls → bars.Sound p calls := by
  intro h
  have hsound := h .release [.levelUp 220 220] ⟨Health.new 200, Mana.withMax 200⟩
    ⟨by decide, by decide⟩ ⟨by decide, by decide, trivial⟩
  have hfull := hsound.full [] (.levelUp 220 220) _ ⟨⟨200, 220, some 20⟩, ⟨220, 220, some 20⟩⟩
    (by simp) rfl (by decide)
  exact absurd hfull.health (by decide)

end Skrillax

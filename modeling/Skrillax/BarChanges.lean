/-
**What the client is told of a bar.**

A bar adds up what every operation changes, so that at the end of a tick the client can be told whether it
took damage or regenerated.  A hit and a regeneration do not add what they changed but the whole value that
there was before, a level-up adds the missing health without giving it, and a new maximum is not added at
all although it moves the mana.

Main definitions:

* `Effect` — what an operation adds to the change, and where it moves the value;
* `Bar` — a component with such a change, and `healthBar`, `manaBar`;
* `Tracked` — a bar with its value at the last reset;
* `RightChange` — the change is there after an operation, and is what the value has changed by;
* `HealthOp.AddsItsChange`, `ManaOp.AddsItsChange` — the operations that add what they change;
* `systemCollectBarsUpdate` — the updates, and `SaysWhatHappened`.

Main results:

* `Bar.rightChange_iff` — in every run the change is right exactly if every operation adds what it changes;
* `collectBars_saysWhatHappened` — right changes give updates that say what happened;
* `bar_change_is_real_iff` — **the changes of health and mana are right under these conditions only**.
-/

import Skrillax.LoginClient
import Skrillax.Pickup
import Skrillax.Reports

set_option relaxedAutoImplicit false
set_option autoImplicit false

namespace Skrillax

open Rust PartialAction PendingReports

/-! ### Adding to a change -/

/-- What was added so far. -/
def pendingChange (change : Option Int32) : ℤ := (change.map Int32.toInt).getD 0

theorem sumChange_eq_some {p : Profile} {change change' : Option Int32} {amount : Int32}
    (h : sumChange p change amount = some change') :
    ∃ sum, change' = some sum ∧ sum.toInt = (pendingChange change + amount.toInt).bmod (2 ^ 32) := by
  cases change with
  | none =>
      obtain rfl := Option.some_inj.1 h
      refine ⟨amount, rfl, ?_⟩
      change amount.toInt = (0 + amount.toInt).bmod (2 ^ 32)
      rw [Int.zero_add]
      exact (Int32.toInt_bmod amount).symm
  | some previousChange =>
      obtain ⟨sum, hsum, hret⟩ := Option.bind_eq_some_iff.1 h
      obtain rfl := Option.some_inj.1 hret
      obtain ⟨rfl, -⟩ := Profile.addI32_eq_some.1 hsum
      exact ⟨_, rfl, Int32.toInt_add _ _⟩

/-- The change is there if there was an operation, and is what the value has changed by. -/
structure RightChange (change : Option Int32) (value atReset : UInt32) (operated : Bool) : Prop where
  none_iff : change = none ↔ operated = false
  eq : ∀ amount ∈ change, amount.toInt = value.toNat - atReset.toNat

/-- The change is right, and the values are in the range of `i32`. -/
structure CountedChange (change : Option Int32) (value atReset : UInt32) (operated : Bool) : Prop extends
    RightChange change value atReset operated where
  unchanged : operated = false → value = atReset
  value_lt : value.toNat < 2 ^ 31
  atReset_lt : atReset.toNat < 2 ^ 31

section Recording

variable {p : Profile} {change change' : Option Int32} {value value' atReset : UInt32} {operated : Bool}
  {amount : Int32}

theorem CountedChange.pendingChange_eq (h : CountedChange change value atReset operated) :
    pendingChange change = value.toNat - atReset.toNat := by
  cases hchange : change with
  | none =>
      rw [h.unchanged (h.none_iff.1 hchange), sub_self]
      rfl
  | some sum => exact h.eq sum hchange

/-- The change stays right exactly if what the value changes by is added. -/
theorem CountedChange.right_iff (h : CountedChange change value atReset operated)
    (hvalue' : value'.toNat < 2 ^ 31) (hsum : sumChange p change amount = some change') :
    RightChange change' value' atReset true ↔ amount.toInt = value'.toNat - value.toNat := by
  obtain ⟨sum, rfl, htotal⟩ := sumChange_eq_some hsum
  rw [h.pendingChange_eq] at htotal
  have hvalue := h.value_lt
  have hatReset := h.atReset_lt
  constructor
  · intro hright
    have heq := hright.eq sum rfl
    have hle := amount.le_toInt
    have hlt := amount.toInt_lt
    rw [heq, Int.bmod_def] at htotal
    split at htotal <;> omega
  · intro hamount
    refine ⟨by simp, ?_⟩
    rintro _ ⟨⟩
    rw [htotal, hamount, Int.bmod_eq_of_le_mul_two] <;> push_cast <;> omega

theorem CountedChange.sumChange_isSome (h : CountedChange change value atReset operated)
    (hvalue' : value'.toNat < 2 ^ 31) (hamount : amount.toInt = value'.toNat - value.toNat) :
    (sumChange p change amount).isSome = true := by
  refine sumChange_defined.2 fun previous hprevious => Or.inl ?_
  have hvalue := h.value_lt
  have hatReset := h.atReset_lt
  rw [h.eq previous hprevious, hamount]
  constructor <;> omega

end Recording

/-! ### Bars -/

/-- What an operation does to a bar. -/
inductive Effect where
  /-- The amount is added to the change, and the value moves. -/
  | adds (amount : ℤ) (value : UInt32)
  /-- The value moves, and the change stays. -/
  | silent (value : UInt32)
  /-- A subtraction of unsigned numbers underflows, and the operation panics. -/
  | underflows

/-- What is left of value and change. -/
def Effect.Describes (p : Profile) (change : Option Int32) (after : Option (UInt32 × Option Int32)) :
    Effect → Prop
  | .adds amount value => ∃ m : Int32, m.toInt = amount ∧ after = (sumChange p change m).map fun c => (value, c)
  | .silent value => after = some (value, change)
  | .underflows => after = none

/-- The change is still right afterwards. -/
def Effect.IsRight (value : UInt32) (operated : Bool) : Effect → Prop
  | .adds amount value' => amount = value'.toNat - value.toNat
  | .silent value' => operated = true ∧ value' = value
  | .underflows => True

/-- The values stay in the range of `i32`. -/
def Effect.InRange : Effect → Prop
  | .adds _ value => value.toNat < 2 ^ 31
  | .silent value => value.toNat < 2 ^ 31
  | .underflows => True

/-- A component with a value and a change that is collected, and the effect of its operations. -/
structure Bar (O S : Type) where
  flag : Flag O S UInt32
  change : S → Option Int32
  effect : O → UInt32 → Effect
  inRange : O → UInt32 → Prop

/-- A bar, its value at the last reset, and whether an operation happened since. -/
structure Tracked (S : Type) where
  bar : S
  atReset : UInt32
  operated : Bool

namespace Bar

variable {O S : Type} (B : Bar O S)

def view (bar : S) : UInt32 × Option Int32 := (B.flag.value bar, B.change bar)

/-- The laws of one operation, and of the reset. -/
structure Lawful (p : Profile) : Prop where
  effect : ∀ o bar, (B.flag.value bar).toNat < 2 ^ 31 → B.inRange o (B.flag.value bar) →
    (B.effect o (B.flag.value bar)).InRange ∧
      (B.effect o (B.flag.value bar)).Describes p (B.change bar) ((B.flag.act o bar).map B.view)
  reset : ∀ bar, B.view (B.flag.reset bar) = (B.flag.value bar, none)

def step : Event O → Tracked S → Option (Tracked S)
  | .op o, t => (B.flag.act o t.bar).map fun bar => ⟨bar, t.atReset, true⟩
  | .reset, t => some ⟨B.flag.reset t.bar, B.flag.value t.bar, false⟩

/-- A bar that was just reset. -/
def fresh (bar : S) : Tracked S := ⟨bar, B.flag.value bar, false⟩

def Right (t : Tracked S) : Prop := RightChange (B.change t.bar) (B.flag.value t.bar) t.atReset t.operated

def Counted (t : Tracked S) : Prop :=
  CountedChange (B.change t.bar) (B.flag.value t.bar) t.atReset t.operated

/-- Of every operation of the run, on the bar as it is then. -/
def OnOps (cond : O → Tracked S → Prop) (t : Tracked S) (event : Event O) : Prop :=
  ∀ o, event = .op o → cond o t

def InRange (o : O) (t : Tracked S) : Prop := B.inRange o (B.flag.value t.bar)

/-- If there is a panic, it is not one of the arithmetic of the change. -/
def ChangeFits (o : O) (t : Tracked S) : Prop :=
  B.flag.act o t.bar = none → B.effect o (B.flag.value t.bar) = .underflows

section Runs

variable {B} {p : Profile} {o : O} {t t' : Tracked S}

theorem step_op_eq_some (h : B.step (.op o) t = some t') :
    ∃ bar, B.flag.act o t.bar = some bar ∧ t' = ⟨bar, t.atReset, true⟩ := by
  obtain ⟨bar, hact, rfl⟩ := Option.map_eq_some_iff.1 h
  exact ⟨bar, hact, rfl⟩

theorem Lawful.counted_reset (hB : B.Lawful p) (h : (B.flag.value t.bar).toNat < 2 ^ 31) :
    B.Counted ⟨B.flag.reset t.bar, B.flag.value t.bar, false⟩ := by
  obtain ⟨hvalue, hchange⟩ := Prod.mk.inj (hB.reset t.bar)
  unfold Counted
  rw [hvalue, hchange]
  refine ⟨⟨by simp, ?_⟩, fun _ => rfl, h, h⟩
  rintro _ ⟨⟩

/-- What adding its change is enough for. -/
theorem Lawful.keeps (hB : B.Lawful p) (h : B.Counted t) (hrange : B.InRange o t)
    (hright : (B.effect o (B.flag.value t.bar)).IsRight (B.flag.value t.bar) t.operated) :
    B.ChangeFits o t ∧ ∀ t', B.step (.op o) t = some t' → B.Counted t' := by
  obtain ⟨hin, hdescribes⟩ := hB.effect o t.bar h.value_lt hrange
  unfold ChangeFits
  cases heffect : B.effect o (B.flag.value t.bar) with
  | adds amount value =>
      rw [heffect] at hin hdescribes hright
      obtain ⟨m, rfl, hafter⟩ := hdescribes
      constructor
      · intro hpanic
        obtain ⟨change, hsum⟩ := Option.isSome_iff_exists.1 (CountedChange.sumChange_isSome (p := p) h hin hright)
        rw [hpanic, hsum] at hafter
        cases hafter
      · intro t' ht'
        obtain ⟨bar, hact, rfl⟩ := step_op_eq_some ht'
        rw [hact] at hafter
        obtain ⟨change, hsum, hview⟩ := Option.map_eq_some_iff.1 hafter.symm
        obtain ⟨hvalue, hchange⟩ := Prod.mk.inj hview
        refine ⟨?_, fun hfalse => (by cases hfalse), ?_, h.atReset_lt⟩
        · rw [← hvalue, ← hchange]
          exact (h.right_iff hin hsum).2 hright
        · rw [← hvalue]
          exact hin
  | silent value =>
      rw [heffect] at hin hdescribes hright
      obtain ⟨hoperated, rfl⟩ := hright
      constructor
      · intro hpanic
        rw [hpanic] at hdescribes
        cases hdescribes
      · intro t' ht'
        obtain ⟨bar, hact, rfl⟩ := step_op_eq_some ht'
        rw [hact] at hdescribes
        obtain ⟨hvalue, hchange⟩ := Prod.mk.inj (Option.some_inj.1 hdescribes)
        unfold Counted
        rw [hvalue, hchange, ← hoperated]
        exact h
  | underflows =>
      rw [heffect] at hdescribes
      refine ⟨fun _ => rfl, fun t' ht' => ?_⟩
      obtain ⟨bar, hact, -⟩ := step_op_eq_some ht'
      rw [hact] at hdescribes
      cases hdescribes

/-- What it is needed for. -/
theorem Lawful.needs (hB : B.Lawful p) (h : B.Counted t) (hrange : B.InRange o t) (hfits : B.ChangeFits o t)
    (hright : ∀ t', B.step (.op o) t = some t' → B.Right t') :
    (B.effect o (B.flag.value t.bar)).IsRight (B.flag.value t.bar) t.operated := by
  obtain ⟨hin, hdescribes⟩ := hB.effect o t.bar h.value_lt hrange
  unfold ChangeFits at hfits
  cases hact : B.flag.act o t.bar with
  | none =>
      rw [hfits hact]
      trivial
  | some bar =>
      have hafter := hright ⟨bar, t.atReset, true⟩ (by rw [step, hact]; rfl)
      rw [hact] at hdescribes
      cases heffect : B.effect o (B.flag.value t.bar) with
      | adds amount value =>
          rw [heffect] at hin hdescribes
          obtain ⟨m, rfl, hview⟩ := hdescribes
          obtain ⟨change, hsum, hview⟩ := Option.map_eq_some_iff.1 hview.symm
          obtain ⟨hvalue, hchange⟩ := Prod.mk.inj hview
          refine (h.right_iff hin hsum).1 ?_
          rw [hvalue, hchange]
          exact hafter
      | silent value =>
          rw [heffect] at hdescribes
          obtain ⟨hvalue, hchange⟩ := Prod.mk.inj (Option.some_inj.1 hdescribes)
          have hsome : B.change t.bar ≠ none := fun hnone => by
            cases hafter.none_iff.1 (hchange.trans hnone)
          obtain ⟨amount, hamount⟩ := Option.ne_none_iff_exists'.1 hsome
          refine ⟨Bool.eq_true_of_not_eq_false fun hfalse => hsome (h.none_iff.2 hfalse), ?_⟩
          have hbefore := h.eq amount hamount
          have hnow := hafter.eq amount (hchange.trans hamount)
          rw [hvalue] at hnow
          refine UInt32.toNat_inj.1 ?_
          simp only at hnow
          omega
      | underflows =>
          rw [heffect] at hdescribes
          cases hdescribes

/-- **In every run the change is right, and its arithmetic fits, exactly if every operation adds what it
changes.** -/
theorem rightChange_iff (hB : B.Lawful p) {adds : O → Tracked S → Prop}
    (hadds : ∀ o t, (B.flag.value t.bar).toNat < 2 ^ 31 → B.InRange o t → (adds o t ↔
      (B.effect o (B.flag.value t.bar)).IsRight (B.flag.value t.bar) t.operated))
    {events : List (Event O)} {bar : S} (hchange : B.change bar = none)
    (hvalue : (B.flag.value bar).toNat < 2 ^ 31)
    (hrange : Attempted B.step (OnOps B.InRange) events (B.fresh bar)) :
    Attempted B.step (OnOps B.ChangeFits) events (B.fresh bar) ∧
        Reached B.step B.Right events (B.fresh bar) ↔
      Attempted B.step (OnOps adds) events (B.fresh bar) := by
  have hstart : B.Counted (B.fresh bar) := by
    refine ⟨⟨⟨fun _ => rfl, fun _ => hchange⟩, fun amount hamount => ?_⟩, fun _ => rfl, hvalue, hvalue⟩
    cases hchange.symm.trans hamount
  refine attempted_and_reached_iff (fun t ht => ht.toRightChange) (fun t event ht hdom hcond => ?_)
    (fun t event ht hdom hfits hright => ?_) hstart hrange
  · cases event with
    | op o =>
        obtain ⟨hfits, hcounted⟩ := hB.keeps ht (hdom o rfl) ((hadds o t ht.value_lt (hdom o rfl)).1 (hcond o rfl))
        refine ⟨?_, hcounted⟩
        rintro _ ⟨⟩
        exact hfits
    | reset =>
        refine ⟨fun o ho => (by cases ho), ?_⟩
        rintro _ ⟨⟩
        exact hB.counted_reset ht.value_lt
  · rintro o rfl
    exact (hadds o t ht.value_lt (hdom o rfl)).2 (hB.needs ht (hdom o rfl) (hfits o rfl) hright)

end Runs

end Bar

/-! ### Health and mana -/

section Casts

variable {x y : UInt32}

theorem toInt_toInt32_of_lt (h : x.toNat < 2 ^ 31) : x.toInt32.toInt = x.toNat := by
  rw [toInt_toInt32, Int.bmod_eq_of_le_mul_two] <;> push_cast <;> omega

/-- The difference of two small numbers wraps around into that of the signed numbers. -/
theorem toInt_sub (hx : x.toNat < 2 ^ 31) (hy : y.toNat < 2 ^ 31) :
    (x - y).toInt32.toInt = x.toNat - y.toNat := by
  have hsub : ((x - y).toNat : ℤ) = (x.toNat - y.toNat : ℤ).bmod (2 ^ 32) ∨
      ((x - y).toNat : ℤ) = (x.toNat - y.toNat : ℤ).bmod (2 ^ 32) + 2 ^ 32 := by
    rw [UInt32.toNat_sub, Int.bmod_eq_of_le_mul_two] <;> push_cast <;> omega
  rw [toInt_toInt32]
  rw [Int.bmod_eq_of_le_mul_two] at hsub
  · rcases hsub with hsub | hsub
    · rw [hsub, Int.bmod_eq_of_le_mul_two] <;> push_cast <;> omega
    · rw [hsub, Int.bmod_def]
      split <;> omega
  all_goals push_cast; omega

end Casts

/-- A hit and a regeneration add all that there was, and an upgrade adds what is missing and leaves it missing. -/
def HealthOp.effect (p : Profile) : HealthOp → UInt32 → Effect
  | .reduce amount, health => .adds (-health.toNat) (saturatingSubU32 health amount)
  | .regenerate amount, health => .adds health.toNat (saturatingAddU32 health amount)
  | .upgrade newMax, health =>
      if p = .debug ∧ newMax < health then .underflows else .adds (newMax.toNat - health.toNat) health
  | .increaseMax _, health => .silent health

/-- The values stay in the range of `i32`. -/
def HealthOp.InRange : HealthOp → UInt32 → Prop
  | .reduce _, _ => True
  | .regenerate amount, health => health.toNat + amount.toNat < 2 ^ 31
  | .upgrade newMax, _ => newMax.toNat < 2 ^ 31
  | .increaseMax newMax, _ => newMax.toNat < 2 ^ 31

def ManaOp.effect (p : Profile) : ManaOp → UInt32 → Effect
  | .upgrade newMax, mana =>
      if p = .debug ∧ newMax < mana then .underflows else .adds (newMax.toNat - mana.toNat) newMax
  | .increaseMax newMax, _ => .silent newMax

def ManaOp.InRange : ManaOp → UInt32 → Prop
  | .upgrade newMax, _ => newMax.toNat < 2 ^ 31
  | .increaseMax newMax, _ => newMax.toNat < 2 ^ 31

def healthBar (p : Profile) : Bar HealthOp Health where
  flag := healthFlag p
  change := Health.collectChange
  effect := HealthOp.effect p
  inRange := HealthOp.InRange

def manaBar (p : Profile) : Bar ManaOp Mana where
  flag := manaFlag p
  change := Mana.collectChange
  effect := ManaOp.effect p
  inRange := ManaOp.InRange

section Effects

variable {p : Profile}

theorem Health.addChange_view {health : Health} {amount : Int32} :
    (health.addChange p amount).map (healthBar p).view =
      (sumChange p health.change amount).map fun change => (health.currentHealth, change) := by
  unfold Health.addChange
  cases sumChange p health.change amount <;> rfl

theorem Mana.addChange_view {mana : Mana} {amount : Int32} :
    (mana.addChange p amount).map (manaBar p).view =
      (sumChange p mana.change amount).map fun change => (mana.currentMana, change) := by
  unfold Mana.addChange
  cases sumChange p mana.change amount <;> rfl

theorem negI32_of_lt {value : UInt32} (h : value.toNat < 2 ^ 31) :
    ∃ m, p.negI32 value.toInt32 = some m ∧ m.toInt = -value.toNat := by
  have hcast := toInt_toInt32_of_lt h
  refine ⟨_, Profile.negI32_eq_some.2 ⟨rfl, Or.inl fun hmin => ?_⟩, ?_⟩
  · rw [hmin] at hcast
    have hneg : Int32.minValue.toInt = -2 ^ 31 := by decide
    omega
  · rw [Int32.toInt_neg, hcast, Int.bmod_eq_of_le_mul_two] <;> push_cast <;> omega

/-- The subtraction of an upgrade that goes through. -/
theorem subU32_of_not_underflows {newMax value : UInt32} (h : ¬ (p = .debug ∧ newMax < value)) :
    p.subU32 newMax value = some (newMax - value) := by
  refine Profile.subU32_eq_some.2 ⟨rfl, Profile.or_release_iff.2 fun hdebug => ?_⟩
  exact UInt32.not_lt.1 fun hlt => h ⟨hdebug, hlt⟩

theorem subU32_of_underflows {newMax value : UInt32} (h : p = .debug ∧ newMax < value) :
    p.subU32 newMax value = none := by
  obtain ⟨rfl, hlt⟩ := h
  exact if_neg (UInt32.not_le.2 hlt)

theorem healthBar_lawful : (healthBar p).Lawful p where
  reset _ := rfl
  effect o health hvalue hrange := by
    change health.currentHealth.toNat < 2 ^ 31 at hvalue
    cases o with
    | reduce amount =>
        obtain ⟨m, hneg, hm⟩ := negI32_of_lt (p := p) hvalue
        refine ⟨?_, m, hm, ?_⟩
        · change (saturatingSubU32 health.currentHealth amount).toNat < 2 ^ 31
          rw [toNat_saturatingSubU32]
          omega
        · have hact : health.reduce p amount =
              { health with currentHealth := saturatingSubU32 health.currentHealth amount }.addChange p m := by
            simp only [Health.reduce, hneg]
            rfl
          exact (congrArg (Option.map _) hact).trans Health.addChange_view
    | regenerate amount =>
        refine ⟨?_, _, toInt_toInt32_of_lt hvalue, Health.addChange_view⟩
        change health.currentHealth.toNat + amount.toNat < 2 ^ 31 at hrange
        change (saturatingAddU32 health.currentHealth amount).toNat < 2 ^ 31
        rw [toNat_saturatingAddU32]
        omega
    | upgrade newMax =>
        change newMax.toNat < 2 ^ 31 at hrange
        change (HealthOp.effect p (.upgrade newMax) health.currentHealth).InRange ∧
          (HealthOp.effect p (.upgrade newMax) health.currentHealth).Describes p health.change
            ((health.upgrade p newMax).map (healthBar p).view)
        by_cases hunder : p = .debug ∧ newMax < health.currentHealth
        · rw [HealthOp.effect, if_pos hunder, Health.upgrade, subU32_of_underflows hunder]
          exact ⟨trivial, rfl⟩
        · rw [HealthOp.effect, if_neg hunder, Health.upgrade, subU32_of_not_underflows hunder]
          exact ⟨hvalue, _, toInt_sub hrange hvalue, Health.addChange_view⟩
    | increaseMax newMax => exact ⟨hvalue, rfl⟩

theorem manaBar_lawful : (manaBar p).Lawful p where
  reset _ := rfl
  effect o mana hvalue hrange := by
    change mana.currentMana.toNat < 2 ^ 31 at hvalue
    cases o with
    | upgrade newMax =>
        change newMax.toNat < 2 ^ 31 at hrange
        change (ManaOp.effect p (.upgrade newMax) mana.currentMana).InRange ∧
          (ManaOp.effect p (.upgrade newMax) mana.currentMana).Describes p mana.change
            ((mana.upgrade p newMax).map (manaBar p).view)
        by_cases hunder : p = .debug ∧ newMax < mana.currentMana
        · rw [ManaOp.effect, if_pos hunder, Mana.upgrade, subU32_of_underflows hunder]
          exact ⟨trivial, rfl⟩
        · rw [ManaOp.effect, if_neg hunder, Mana.upgrade, subU32_of_not_underflows hunder]
          exact ⟨hrange, _, toInt_sub hrange hvalue, Mana.addChange_view⟩
    | increaseMax newMax => exact ⟨hrange, rfl⟩

end Effects

/-- A hit that leaves nothing, a regeneration by as much as there was, an upgrade to the present health, which in
a debug build may also be one that panics, and a new maximum after another operation. -/
def HealthOp.AddsItsChange (p : Profile) : HealthOp → Tracked Health → Prop
  | .reduce amount, t => t.bar.currentHealth ≤ amount
  | .regenerate amount, t => amount = t.bar.currentHealth
  | .upgrade newMax, t => newMax = t.bar.currentHealth ∨ p = .debug ∧ newMax < t.bar.currentHealth
  | .increaseMax _, t => t.operated = true

/-- Every upgrade, and a new maximum that is the present mana, after another operation. -/
def ManaOp.AddsItsChange : ManaOp → Tracked Mana → Prop
  | .upgrade _, _ => True
  | .increaseMax newMax, t => t.operated = true ∧ newMax = t.bar.currentMana

theorem HealthOp.addsItsChange_iff {p : Profile} (o : HealthOp) (t : Tracked Health)
    (hrange : (healthBar p).InRange o t) : o.AddsItsChange p t ↔
      (o.effect p t.bar.currentHealth).IsRight t.bar.currentHealth t.operated := by
  cases o with
  | reduce amount =>
      change t.bar.currentHealth ≤ amount ↔ -(t.bar.currentHealth.toNat : ℤ) =
        (saturatingSubU32 t.bar.currentHealth amount).toNat - t.bar.currentHealth.toNat
      rw [toNat_saturatingSubU32, UInt32.le_iff_toNat_le]
      omega
  | regenerate amount =>
      change t.bar.currentHealth.toNat + amount.toNat < 2 ^ 31 at hrange
      change amount = t.bar.currentHealth ↔ (t.bar.currentHealth.toNat : ℤ) =
        (saturatingAddU32 t.bar.currentHealth amount).toNat - t.bar.currentHealth.toNat
      rw [toNat_saturatingAddU32, ← UInt32.toNat_inj]
      omega
  | upgrade newMax =>
      rw [AddsItsChange, effect, ← UInt32.toNat_inj]
      split
      · rename_i hunder
        exact iff_of_true (Or.inr hunder) trivial
      · rename_i hunder
        rw [or_iff_left hunder]
        change _ ↔ (newMax.toNat - t.bar.currentHealth.toNat : ℤ) =
          t.bar.currentHealth.toNat - t.bar.currentHealth.toNat
        omega
  | increaseMax newMax => exact (and_iff_left rfl).symm

theorem ManaOp.addsItsChange_iff {p : Profile} (o : ManaOp) (t : Tracked Mana) : o.AddsItsChange t ↔
    (o.effect p t.bar.currentMana).IsRight t.bar.currentMana t.operated := by
  cases o with
  | upgrade newMax =>
      rw [effect]
      split
      · exact Iff.rfl
      · exact iff_of_true trivial rfl
  | increaseMax newMax => exact Iff.rfl

/-! ### The updates -/

inductive EntityBarUpdateSource where
  | damage
  | regen
  | levelUp
  deriving DecidableEq, Repr

inductive EntityBarUpdates where
  | hp (amount : UInt32)
  | mp (amount : UInt32)
  | both (hp mp : UInt32)
  deriving DecidableEq, Repr

structure EntityBarsUpdate where
  uniqueId : UInt32
  source : EntityBarUpdateSource
  updates : EntityBarUpdates
  deriving DecidableEq, Repr

/-- What is sent to the client of the entity, and to those around it. -/
structure BarsUpdate where
  source : Entity
  changeSelf : Option EntityBarsUpdate
  changeOthers : Option EntityBarsUpdate
  deriving DecidableEq

def sendToAll (source : Entity) (update : EntityBarsUpdate) : BarsUpdate := ⟨source, some update, some update⟩

def sourceOf (change : Int32) : EntityBarUpdateSource := if change < 0 then .damage else .regen

/-- The body of the loop. -/
def collectBars (entity : Entity) (gameEntity : GameEntity) (health : Health) (mana : Mana) : List BarsUpdate :=
  let separate (changeHp changeMp : Option Int32) :=
    (changeHp.map fun change =>
        sendToAll entity ⟨gameEntity.uniqueId, sourceOf change, .hp health.currentHealth⟩).toList ++
      (changeMp.map fun change =>
        sendToAll entity ⟨gameEntity.uniqueId, sourceOf change, .mp mana.currentMana⟩).toList
  match health.collectChange, mana.collectChange with
  | some changeHp, some changeMp =>
      if 0 < changeHp ∧ 0 < changeMp then
        [sendToAll entity ⟨gameEntity.uniqueId, .regen, .both health.currentHealth mana.currentMana⟩]
      else separate (some changeHp) (some changeMp)
  | changeHp, changeMp => separate changeHp changeMp

/-- The entities are those whose health or mana was changed. -/
def systemCollectBarsUpdate (changed : List (Entity × GameEntity × Health × Mana)) : List BarsUpdate :=
  changed.flatMap fun (entity, gameEntity, health, mana) => collectBars entity gameEntity health mana

/-- The source of the update is that of what happened to the bar it carries: damage, if the value is lower than
at the last reset. -/
def SaysWhatHappened (health : Tracked Health) (mana : Tracked Mana) (update : EntityBarsUpdate) : Prop :=
  match update.updates with
  | .hp amount => health.operated = true ∧ amount = health.bar.currentHealth ∧
      update.source = if amount < health.atReset then .damage else .regen
  | .mp amount => mana.operated = true ∧ amount = mana.bar.currentMana ∧
      update.source = if amount < mana.atReset then .damage else .regen
  | .both hp mp => hp = health.bar.currentHealth ∧ mp = mana.bar.currentMana ∧ health.atReset < hp ∧
      mana.atReset < mp ∧ update.source = .regen

section Sources

variable {change : Option Int32} {amount : Int32} {value atReset : UInt32} {operated : Bool}

theorem RightChange.operated_eq (h : RightChange change value atReset operated) (hamount : amount ∈ change) :
    operated = true :=
  Bool.eq_true_of_not_eq_false fun hfalse => by cases (h.none_iff.2 hfalse).symm.trans hamount

theorem RightChange.sourceOf_eq (h : RightChange change value atReset operated) (hamount : amount ∈ change) :
    sourceOf amount = if value < atReset then .damage else .regen := by
  have heq := h.eq amount hamount
  have hneg : amount < 0 ↔ value < atReset := by
    rw [Int32.lt_iff_toInt_lt, heq, UInt32.lt_iff_toNat_lt, Int32.toInt_zero]
    omega
  unfold sourceOf
  rw [if_congr hneg rfl rfl]

theorem RightChange.lt_of_pos (h : RightChange change value atReset operated) (hamount : amount ∈ change)
    (hpos : 0 < amount) : atReset < value := by
  have heq := h.eq amount hamount
  rw [Int32.lt_iff_toInt_lt, heq, Int32.toInt_zero] at hpos
  rw [UInt32.lt_iff_toNat_lt]
  omega

end Sources

/-- **Right changes give updates that say what happened**, and there is one for every bar with an operation. -/
theorem collectBars_saysWhatHappened {health : Tracked Health} {mana : Tracked Mana} (p : Profile)
    (hhealth : (healthBar p).Right health) (hmana : (manaBar p).Right mana) (entity : Entity)
    (gameEntity : GameEntity) :
    (∀ update ∈ collectBars entity gameEntity health.bar mana.bar, ∃ content,
      update = sendToAll entity content ∧ content.uniqueId = gameEntity.uniqueId ∧
        SaysWhatHappened health mana content) ∧
    (collectBars entity gameEntity health.bar mana.bar = [] ↔
      health.operated = false ∧ mana.operated = false) := by
  have hhp {change : Int32} (h : health.bar.collectChange = some change) :
      SaysWhatHappened health mana ⟨gameEntity.uniqueId, sourceOf change, .hp health.bar.currentHealth⟩ :=
    ⟨hhealth.operated_eq h, rfl, hhealth.sourceOf_eq h⟩
  have hmp {change : Int32} (h : mana.bar.collectChange = some change) :
      SaysWhatHappened health mana ⟨gameEntity.uniqueId, sourceOf change, .mp mana.bar.currentMana⟩ :=
    ⟨hmana.operated_eq h, rfl, hmana.sourceOf_eq h⟩
  rw [← hhealth.none_iff, ← hmana.none_iff]
  change _ ∧ (_ ↔ health.bar.collectChange = none ∧ mana.bar.collectChange = none)
  unfold collectBars
  cases hchangeHp : health.bar.collectChange with
  | none =>
      cases hchangeMp : mana.bar.collectChange with
      | none => simp
      | some changeMp => simpa using ⟨_, rfl, rfl, hmp hchangeMp⟩
  | some changeHp =>
      cases hchangeMp : mana.bar.collectChange with
      | none => simpa using ⟨_, rfl, rfl, hhp hchangeHp⟩
      | some changeMp =>
          simp only []
          split
          · rename_i hpos
            refine ⟨fun update hupdate => ?_, by simp⟩
            obtain rfl := List.mem_singleton.1 hupdate
            exact ⟨_, rfl, rfl, rfl, rfl, hhealth.lt_of_pos hchangeHp hpos.1, hmana.lt_of_pos hchangeMp hpos.2, rfl⟩
          · simpa using ⟨⟨_, rfl, rfl, hhp hchangeHp⟩, ⟨_, rfl, rfl, hmp hchangeMp⟩⟩

/-- An entity whose bars are tracked. -/
structure TrackedEntity where
  entity : Entity
  gameEntity : GameEntity
  health : Tracked Health
  mana : Tracked Mana

/-- What the query finds. -/
def TrackedEntity.components (e : TrackedEntity) : Entity × GameEntity × Health × Mana :=
  (e.entity, e.gameEntity, e.health.bar, e.mana.bar)

/-- Every entity with an operation gets an update, and every update says what happened. -/
def ToldWhatHappened (tracked : List TrackedEntity) (updates : List BarsUpdate) : Prop :=
  (∀ update ∈ updates, ∃ e ∈ tracked, ∃ content, update = sendToAll e.entity content ∧
    content.uniqueId = e.gameEntity.uniqueId ∧ SaysWhatHappened e.health e.mana content) ∧
  ∀ e ∈ tracked, e.health.operated = true ∨ e.mana.operated = true → ∃ update ∈ updates, update.source = e.entity

theorem systemCollectBarsUpdate_toldWhatHappened (p : Profile) {tracked : List TrackedEntity}
    (hright : ∀ e ∈ tracked, (healthBar p).Right e.health ∧ (manaBar p).Right e.mana) :
    ToldWhatHappened tracked (systemCollectBarsUpdate (tracked.map TrackedEntity.components)) := by
  have hone (e : TrackedEntity) (he : e ∈ tracked) :=
    collectBars_saysWhatHappened p (hright e he).1 (hright e he).2 e.entity e.gameEntity
  constructor
  · intro update hupdate
    obtain ⟨_, hcomponents, hupdate⟩ := List.mem_flatMap.1 hupdate
    obtain ⟨e, he, rfl⟩ := List.mem_map.1 hcomponents
    exact ⟨e, he, (hone e he).1 update hupdate⟩
  · intro e he hoperated
    have hsent : collectBars e.entity e.gameEntity e.health.bar e.mana.bar ≠ [] := fun hnil => by
      obtain ⟨hhealth, hmana⟩ := (hone e he).2.1 hnil
      simp [hhealth, hmana] at hoperated
    obtain ⟨update, hupdate⟩ := List.exists_mem_of_ne_nil _ hsent
    obtain ⟨content, rfl, -⟩ := (hone e he).1 update hupdate
    exact ⟨_, List.mem_flatMap.2 ⟨_, List.mem_map.2 ⟨e, he, rfl⟩, hupdate⟩, rfl⟩

/-- **The change of health and mana is the real one exactly if every operation adds what it changes.**  The
numbers are below `2 ^ 31`; only an upgrade to less than there is may panic. -/
theorem bar_change_is_real_iff (p : Profile) :
    (∀ (health : Health) (events : List (Event HealthOp)), health.change = none →
      health.currentHealth.toNat < 2 ^ 31 →
      Attempted (healthBar p).step (Bar.OnOps (healthBar p).InRange) events ((healthBar p).fresh health) →
      (Attempted (healthBar p).step (Bar.OnOps (healthBar p).ChangeFits) events ((healthBar p).fresh health) ∧
          Reached (healthBar p).step (healthBar p).Right events ((healthBar p).fresh health) ↔
        Attempted (healthBar p).step (Bar.OnOps (HealthOp.AddsItsChange p)) events
          ((healthBar p).fresh health))) ∧
    (∀ (mana : Mana) (events : List (Event ManaOp)), mana.change = none → mana.currentMana.toNat < 2 ^ 31 →
      Attempted (manaBar p).step (Bar.OnOps (manaBar p).InRange) events ((manaBar p).fresh mana) →
      (Attempted (manaBar p).step (Bar.OnOps (manaBar p).ChangeFits) events ((manaBar p).fresh mana) ∧
          Reached (manaBar p).step (manaBar p).Right events ((manaBar p).fresh mana) ↔
        Attempted (manaBar p).step (Bar.OnOps ManaOp.AddsItsChange) events ((manaBar p).fresh mana))) ∧
    (∀ tracked : List TrackedEntity,
      (∀ e ∈ tracked, (healthBar p).Right e.health ∧ (manaBar p).Right e.mana) →
      ToldWhatHappened tracked (systemCollectBarsUpdate (tracked.map TrackedEntity.components))) := by
  refine ⟨fun health events hchange hvalue hrange => ?_, fun mana events hchange hvalue hrange => ?_,
    fun tracked => systemCollectBarsUpdate_toldWhatHappened p⟩
  · exact Bar.rightChange_iff healthBar_lawful (fun o t _ hrange => o.addsItsChange_iff t hrange) hchange hvalue hrange
  · exact Bar.rightChange_iff manaBar_lawful (fun o t _ _ => o.addsItsChange_iff t) hchange hvalue hrange

/-- A killing blow is reported as it is, and a level-up fills the mana. -/
theorem bar_change_is_real_for_a_kill :
    Reached (healthBar .debug).step (healthBar .debug).Right [.op (.reduce 130)]
        ((healthBar .debug).fresh (Health.new 100)) ∧
      Reached (manaBar .debug).step (manaBar .debug).Right [.op (.upgrade 120)]
        ((manaBar .debug).fresh (Mana.withMax 100)) := by
  obtain ⟨hhealth, hmana, -⟩ := bar_change_is_real_iff .debug
  constructor
  · refine ((hhealth (Health.new 100) [.op (.reduce 130)] rfl (by decide) ?_).2 ?_).2
    · exact attempted_cons_iff.2 ⟨fun o ho => by cases ho; trivial, fun t _ => attempted_nil⟩
    · have hkills : (100 : UInt32) ≤ 130 := by decide
      exact attempted_cons_iff.2 ⟨fun o ho => by cases ho; exact hkills, fun t _ => attempted_nil⟩
  · refine ((hmana (Mana.withMax 100) [.op (.upgrade 120)] rfl (by decide) ?_).2 ?_).2
    · have hsmall : (120 : UInt32).toNat < 2 ^ 31 := by decide
      exact attempted_cons_iff.2 ⟨fun o ho => by cases ho; exact hsmall, fun t _ => attempted_nil⟩
    · exact attempted_cons_iff.2 ⟨fun o ho => by cases ho; trivial, fun t _ => attempted_nil⟩

/-- A hit of 30 on a health of 100 is reported as one of 100. -/
theorem hit_is_reported_as_the_health_before (p : Profile) : ∃ t : Tracked Health,
    runAll (healthBar p).step [.op (.reduce 30)] ((healthBar p).fresh (Health.new 100)) = some t ∧
      t.bar.currentHealth = 70 ∧ t.atReset = 100 ∧ t.bar.collectChange = some (-100) ∧
      ¬ (healthBar p).Right t := by
  refine ⟨⟨⟨70, 100, some (-100)⟩, 100, true⟩, by cases p <;> rfl, rfl, rfl, rfl, fun hright => ?_⟩
  have hreal : (-100 : Int32).toInt = (70 : UInt32).toNat - (100 : UInt32).toNat := hright.eq (-100) rfl
  exact absurd hreal (by decide)

theorem hit_is_not_the_change :
    (∃ t : Tracked Health,
      runAll (healthBar .debug).step [.op (.reduce 30)] ((healthBar .debug).fresh (Health.new 100)) = some t ∧
        t.bar.currentHealth = 70 ∧ t.atReset = 100 ∧ t.bar.collectChange = some (-100) ∧
        ¬ (healthBar .debug).Right t) ∧
    ∃ t : Tracked Health,
      runAll (healthBar .release).step [.op (.reduce 30)] ((healthBar .release).fresh (Health.new 100)) =
          some t ∧
        t.bar.currentHealth = 70 ∧ t.atReset = 100 ∧ t.bar.collectChange = some (-100) ∧
        ¬ (healthBar .release).Right t :=
  ⟨hit_is_reported_as_the_health_before .debug, hit_is_reported_as_the_health_before .release⟩

end Skrillax

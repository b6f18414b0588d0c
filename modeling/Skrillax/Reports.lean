/-
**What the components report.**

Six components of a player keep what the client or another system has to be told of, next to what is
stored, and are reset at the end of every tick.  Four of them forget exactly.  A reset of `StatPoints` sets
the flag for spent points instead of clearing it, and `Leveled` counts level-ups against de-levels, so that
they cancel.

Main definitions:

* `Experienced`, `Leveled`, `StatPoints` — the components, along with `Health`, `Mana` and `KnownMasteries`;
* `healthFlag`, `manaFlag`, `experienceFlag`, `levelFlag`, `gainedFlag`, `spentFlag`, `masteryFlag` — their
  operations, and which of them each flag reports;
* `netLevels` — level-ups less de-levels;
* `ResetForgetsExactly` — every component forgets exactly.

Main results:

* `healthFlag_lawful`, `manaFlag_lawful`, `experienceFlag_lawful`, `gainedFlag_lawful`, `masteryFlag_lawful`
  — the components that forget exactly;
* `spentFlag_pending_iff`, `levelFlag_pending_iff` — what the other two flags say;
* `reset_forgets_exactly_iff` — **each component forgets exactly, the last two under a condition**.
-/

import Mathlib.Data.List.ModifyLast
import Skrillax.Bars
import Skrillax.Masteries
import Skrillax.PendingReports

set_option relaxedAutoImplicit false
set_option autoImplicit false

namespace Skrillax

open Rust PartialAction PendingReports

/-! ### Experience -/

/-- What was received from a source, which is an entity of the game. -/
structure ExperienceGained (Source : Type) where
  exp : UInt64
  spExp : UInt64
  triggedLevelUp : Bool
  source : Option Source

structure Experienced (Source : Type) where
  experience : UInt64
  spExp : UInt64
  experienceReceived : List (ExperienceGained Source)

namespace Experienced

variable {Source : Type}

def expPerSp : UInt64 := 400

def new (experience spExp : UInt64) : Experienced Source := ⟨experience, spExp, []⟩

def receive (p : Profile) (self : Experienced Source) (exp spExp : UInt64) (source : Option Source) :
    Option (Experienced Source) := do
  let experience ← p.addU64 self.experience exp
  let total ← p.addU64 self.spExp spExp
  return ⟨experience, total, self.experienceReceived ++ [⟨exp, spExp, false, source⟩]⟩

def tryLevelUp (self : Experienced Source) (required : UInt64) : Experienced Source × Bool :=
  if required ≤ self.experience then
    ({ self with
        experience := self.experience - required
        experienceReceived :=
          self.experienceReceived.modifyLast fun last => { last with triggedLevelUp := true } },
      true)
  else (self, false)

def convertSp (self : Experienced Source) : Experienced Source × UInt32 :=
  ({ self with spExp := self.spExp % expPerSp }, (self.spExp / expPerSp).toUInt32)

def experienceGains (self : Experienced Source) : List (ExperienceGained Source) :=
  self.experienceReceived

def asChange (self : Experienced Source) : ExperienceChange := ⟨self.experience, self.spExp⟩

def reset (self : Experienced Source) : Experienced Source := { self with experienceReceived := [] }

end Experienced

/-! ### Levels -/

structure Leveled where
  level : UInt8
  maxLevel : UInt8
  leveledUp : Int8
  deriving DecidableEq, Repr

namespace Leveled

def new (level maxLevel : UInt8) : Leveled := ⟨level, maxLevel, 0⟩

def levelUp (p : Profile) (self : Leveled) : Option Leveled := do
  let level := saturatingAddU8 self.level 1
  let leveledUp ← p.addI8 self.leveledUp 1
  return ⟨level, max level self.maxLevel, leveledUp⟩

def delevel (p : Profile) (self : Leveled) : Option Leveled := do
  let leveledUp ← p.subI8 self.leveledUp 1
  return ⟨saturatingSubU8 self.level 1, self.maxLevel, leveledUp⟩

def didLevel (self : Leveled) : Bool := decide (0 < self.leveledUp)

def asChange (self : Leveled) : LevelChange := ⟨self.level.toUInt16, self.maxLevel.toUInt16⟩

def reset (self : Leveled) : Leveled := { self with leveledUp := 0 }

end Leveled

/-! ### Points -/

structure Stats where
  strength : UInt16
  intelligence : UInt16
  deriving DecidableEq, Repr

structure StatPoints where
  stats : Stats
  remainingPoints : UInt16
  hasGainedPoints : Bool
  hasSpentPoints : Bool
  deriving DecidableEq, Repr

namespace StatPoints

def new (stats : Stats) (remainingPoints : UInt16) : StatPoints := ⟨stats, remainingPoints, false, false⟩

def spendStr (p : Profile) (self : StatPoints) : Option StatPoints := do
  let strength ← p.addU16 self.stats.strength 1
  let remainingPoints ← p.subU16 self.remainingPoints 1
  return { self with stats := { self.stats with strength }, remainingPoints, hasSpentPoints := true }

def spendInt (p : Profile) (self : StatPoints) : Option StatPoints := do
  let intelligence ← p.addU16 self.stats.intelligence 1
  let remainingPoints ← p.subU16 self.remainingPoints 1
  return { self with stats := { self.stats with intelligence }, remainingPoints, hasSpentPoints := true }

def gainPoints (self : StatPoints) (amount : UInt16) : StatPoints :=
  { self with
    remainingPoints := saturatingAddU16 self.remainingPoints amount
    hasGainedPoints := true }

def asChange (self : StatPoints) : StatsChange :=
  ⟨self.stats.strength, self.stats.intelligence, self.remainingPoints⟩

/-- The flag for spent points is set. -/
def reset (self : StatPoints) : StatPoints :=
  { self with hasGainedPoints := false, hasSpentPoints := true }

end StatPoints

namespace KnownMasteries

/-- The whole map is stored. -/
def asChange (self : KnownMasteries) : AList fun _ : UInt32 => UInt8 := self.masteries

def reset (self : KnownMasteries) : KnownMasteries := { self with leveledMasteries := [] }

end KnownMasteries

/-! ### The flags, and the operations they report -/

inductive HealthOp where
  | reduce (amount : UInt32)
  | regenerate (amount : UInt32)
  | upgrade (newMax : UInt32)
  | increaseMax (newMax : UInt32)
  deriving DecidableEq, Repr

inductive ManaOp where
  | upgrade (newMax : UInt32)
  | increaseMax (newMax : UInt32)
  deriving DecidableEq, Repr

inductive ExperienceOp (Source : Type) where
  | receive (exp spExp : UInt64) (source : Option Source)
  | tryLevelUp (required : UInt64)
  | convertSp

inductive LevelOp where
  | levelUp
  | delevel
  deriving DecidableEq, Repr

inductive PointsOp where
  | spendStr
  | spendInt
  | gainPoints (amount : UInt16)
  deriving DecidableEq, Repr

structure MasteryOp where
  refId : UInt32
  amount : UInt8
  deriving DecidableEq, Repr

section Flags

variable (p : Profile)

/-- The change of the health is that of the current value; a new maximum is not part of it. -/
def healthFlag : Flag HealthOp Health UInt32 where
  act
    | .reduce amount, health => health.reduce p amount
    | .regenerate amount, health => health.regenerate p amount
    | .upgrade newMax, health => health.upgrade p newMax
    | .increaseMax newMax, health => some (health.increaseMax newMax)
  reset := Health.reset
  value := Health.currentHealth
  pending health := health.collectChange.isSome = true
  reports
    | .increaseMax _ => False
    | _ => True

def manaFlag : Flag ManaOp Mana UInt32 where
  act
    | .upgrade newMax, mana => mana.upgrade p newMax
    | .increaseMax newMax, mana => some (mana.increaseMax newMax)
  reset := Mana.reset
  value := Mana.currentMana
  pending mana := mana.collectChange.isSome = true
  reports
    | .increaseMax _ => False
    | .upgrade _ => True

def experienceFlag (Source : Type) :
    Flag (ExperienceOp Source) (Experienced Source) ExperienceChange where
  act
    | .receive exp spExp source, experienced => experienced.receive p exp spExp source
    | .tryLevelUp required, experienced => some (experienced.tryLevelUp required).1
    | .convertSp, experienced => some experienced.convertSp.1
  reset := Experienced.reset
  value := Experienced.asChange
  pending experienced := experienced.experienceGains ≠ []
  reports
    | .receive _ _ _ => True
    | _ => False

def levelFlag : Flag LevelOp Leveled LevelChange where
  act
    | .levelUp, leveled => leveled.levelUp p
    | .delevel, leveled => leveled.delevel p
  reset := Leveled.reset
  value := Leveled.asChange
  pending leveled := leveled.didLevel = true
  reports op := op = .levelUp

/-- The operations of `StatPoints`. -/
def pointsAct : PointsOp → StatPoints → Option StatPoints
  | .spendStr, points => points.spendStr p
  | .spendInt, points => points.spendInt p
  | .gainPoints amount, points => some (points.gainPoints amount)

def gainedFlag : Flag PointsOp StatPoints StatsChange where
  act := pointsAct p
  reset := StatPoints.reset
  value := StatPoints.asChange
  pending points := points.hasGainedPoints = true
  reports op := ∃ amount, op = .gainPoints amount

def spentFlag : Flag PointsOp StatPoints StatsChange where
  act := pointsAct p
  reset := StatPoints.reset
  value := StatPoints.asChange
  pending points := points.hasSpentPoints = true
  reports op := op = .spendStr ∨ op = .spendInt

def masteryFlag : Flag MasteryOp KnownMasteries (AList fun _ : UInt32 => UInt8) where
  act op known := known.levelMasteryBy p op.refId op.amount
  reset := KnownMasteries.reset
  value := KnownMasteries.asChange
  pending known := known.updated ≠ []
  reports _ := True

end Flags

/-! ### Components that forget exactly -/

section Lawful

variable (p : Profile)

theorem healthFlag_lawful : (healthFlag p).Lawful where
  value_reset _ := rfl
  clears _ h := by cases h
  act op health health' h := by
    cases op with
    | reduce amount =>
        have hset := (Health.reduce_eq_some h).2.2
        exact ⟨fun _ => Or.inr trivial, fun _ => hset⟩
    | regenerate amount =>
        have hset := (Health.regenerate_eq_some h).2.2
        exact ⟨fun _ => Or.inr trivial, fun _ => hset⟩
    | upgrade newMax =>
        have hset := (Health.upgrade_eq_some h).2.2
        exact ⟨fun _ => Or.inr trivial, fun _ => hset⟩
    | increaseMax newMax =>
        obtain rfl := Option.some_inj.1 h
        exact ⟨Or.inl, fun hor => hor.elim id False.elim⟩

theorem manaFlag_lawful : (manaFlag p).Lawful where
  value_reset _ := rfl
  clears _ h := by cases h
  act op mana mana' h := by
    cases op with
    | upgrade newMax =>
        have hset := (Mana.upgrade_eq_some h).2.2
        exact ⟨fun _ => Or.inr trivial, fun _ => hset⟩
    | increaseMax newMax =>
        obtain rfl := Option.some_inj.1 h
        exact ⟨Or.inl, fun hor => hor.elim id False.elim⟩

theorem modifyLast_eq_nil {α : Type} (f : α → α) (l : List α) : l.modifyLast f = [] ↔ l = [] := by
  induction l using List.reverseRecOn with
  | nil => exact ⟨fun _ => rfl, fun _ => rfl⟩
  | append_singleton l a _ => simp [List.modifyLast_concat]

theorem experienceFlag_lawful (Source : Type) : (experienceFlag p Source).Lawful where
  value_reset _ := rfl
  clears _ h := h rfl
  act op experienced experienced' h := by
    cases op with
    | receive exp spExp source =>
        obtain ⟨experience, -, hrest⟩ := Option.bind_eq_some_iff.1 h
        obtain ⟨total, -, hret⟩ := Option.bind_eq_some_iff.1 hrest
        obtain rfl := Option.some_inj.1 hret
        exact ⟨fun _ => Or.inr trivial, fun _ => List.append_ne_nil_of_right_ne_nil _ (List.cons_ne_nil _ _)⟩
    | tryLevelUp required =>
        obtain rfl := Option.some_inj.1 h
        have hgains : (experienced.tryLevelUp required).1.experienceGains = [] ↔
            experienced.experienceGains = [] := by
          unfold Experienced.tryLevelUp
          split
          · exact modifyLast_eq_nil _ _
          · exact Iff.rfl
        refine ⟨fun hpending => Or.inl fun hnil => hpending (hgains.2 hnil), ?_⟩
        exact fun hor => hor.elim (fun hpending hnil => hpending (hgains.1 hnil)) False.elim
    | convertSp =>
        obtain rfl := Option.some_inj.1 h
        exact ⟨Or.inl, fun hor => hor.elim id False.elim⟩

theorem masteryFlag_lawful : (masteryFlag p).Lawful where
  value_reset _ := rfl
  clears _ h := h rfl
  act op known known' h := by
    refine ⟨fun _ => Or.inr trivial, fun _ => ?_⟩
    have hupdated : known'.leveledMasteries = known.leveledMasteries ++ [op.refId] := by
      change known.levelMasteryBy p op.refId op.amount = some known' at h
      unfold KnownMasteries.levelMasteryBy at h
      cases hlookup : known.masteries.lookup op.refId with
      | none =>
          rw [hlookup] at h
          obtain rfl := Option.some_inj.1 h
          rfl
      | some level =>
          rw [hlookup] at h
          obtain ⟨sum, -, hret⟩ := Option.bind_eq_some_iff.1 h
          obtain rfl := Option.some_inj.1 hret
          rfl
    change known'.leveledMasteries ≠ []
    rw [hupdated]
    exact List.append_ne_nil_of_right_ne_nil _ (List.cons_ne_nil _ _)

/-- What an operation does to the two flags of `StatPoints`. -/
theorem pointsAct_flags {op : PointsOp} {points points' : StatPoints}
    (h : pointsAct p op points = some points') :
    (points'.hasGainedPoints = true ↔ points.hasGainedPoints = true ∨ ∃ amount, op = .gainPoints amount) ∧
      (points'.hasSpentPoints = true ↔
        points.hasSpentPoints = true ∨ op = .spendStr ∨ op = .spendInt) := by
  cases op with
  | spendStr =>
      obtain ⟨strength, -, hrest⟩ := Option.bind_eq_some_iff.1 h
      obtain ⟨remainingPoints, -, hret⟩ := Option.bind_eq_some_iff.1 hrest
      obtain rfl := Option.some_inj.1 hret
      simp
  | spendInt =>
      obtain ⟨intelligence, -, hrest⟩ := Option.bind_eq_some_iff.1 h
      obtain ⟨remainingPoints, -, hret⟩ := Option.bind_eq_some_iff.1 hrest
      obtain rfl := Option.some_inj.1 hret
      simp
  | gainPoints amount =>
      obtain rfl := Option.some_inj.1 h
      simp [StatPoints.gainPoints]

theorem gainedFlag_lawful : (gainedFlag p).Lawful where
  value_reset _ := rfl
  clears _ h := by cases h
  act _ _ _ h := (pointsAct_flags p h).1

end Lawful

/-! ### The other two flags -/

section Unlawful

variable {p : Profile}

/-- The flag for spent points is set for good by the first reset. -/
theorem spentFlag_pending_iff {events : List (Event PointsOp)} {stats : Stats}
    {remainingPoints : UInt16} {points : StatPoints}
    (h : runAll (step (spentFlag p).act (spentFlag p).reset) events (StatPoints.new stats remainingPoints) =
      some points) :
    (spentFlag p).pending points ↔
      .reset ∈ events ∨ ∃ op ∈ sinceReset events, (spentFlag p).reports op :=
  Flag.pending_iff_of_reset_sets (fun _ => rfl) (fun _ _ _ hact => (pointsAct_flags p hact).2)
    (fun hpending => by cases hpending) h

/-- Level-ups less de-levels. -/
def netLevels (ops : List LevelOp) : ℤ := ops.count .levelUp - ops.count .delevel

/-- What an operation does to the counter. -/
def countLevel (leveledUp : Int8) : LevelOp → Int8
  | .levelUp => leveledUp + 1
  | .delevel => leveledUp - 1

theorem leveledUp_act (op : LevelOp) (leveled leveled' : Leveled)
    (h : (levelFlag p).act op leveled = some leveled') :
    leveled'.leveledUp = countLevel leveled.leveledUp op := by
  cases op with
  | levelUp =>
      obtain ⟨leveledUp, hadd, hret⟩ := Option.bind_eq_some_iff.1 h
      obtain rfl := Option.some_inj.1 hret
      exact Profile.addI8_eq hadd
  | delevel =>
      obtain ⟨leveledUp, hsub, hret⟩ := Option.bind_eq_some_iff.1 h
      obtain rfl := Option.some_inj.1 hret
      exact Profile.subI8_eq hsub

/-- The counter wraps around, so it is the net number of level-ups in one byte. -/
theorem foldl_countLevel (ops : List LevelOp) (leveledUp : Int8) :
    ops.foldl countLevel leveledUp = leveledUp + Int8.ofInt (netLevels ops) := by
  induction ops generalizing leveledUp with
  | nil => simp [netLevels]
  | cons op ops ih =>
      rw [List.foldl_cons, ih]
      cases op with
      | levelUp =>
          have hnet : netLevels (.levelUp :: ops) = 1 + netLevels ops := by
            simp [netLevels]
            omega
          rw [hnet, Int8.ofInt_add, ← Int8.add_assoc]
          rfl
      | delevel =>
          have hnet : netLevels (.delevel :: ops) = -1 + netLevels ops := by
            simp [netLevels]
            omega
          rw [hnet, Int8.ofInt_add, ← Int8.add_assoc, countLevel, Int8.sub_eq_add_neg]
          rfl

/-- The flag is set if the level-ups outnumber the de-levels, as far as the counter of one byte can tell. -/
theorem levelFlag_pending_iff {events : List (Event LevelOp)} {level maxLevel : UInt8}
    {leveled : Leveled}
    (h : runAll (step (levelFlag p).act (levelFlag p).reset) events (Leveled.new level maxLevel) =
      some leveled) :
    (levelFlag p).pending leveled ↔ 0 < (netLevels (sinceReset events)).bmod 256 := by
  have hreset : ∀ leveled, ((levelFlag p).reset leveled).leveledUp = 0 := fun _ => rfl
  have hsummary : leveled.leveledUp = (sinceReset events).foldl countLevel 0 :=
    summary_eq leveledUp_act hreset rfl h
  change leveled.didLevel = true ↔ _
  rw [Leveled.didLevel, decide_eq_true_iff, hsummary, foldl_countLevel, Int8.zero_add,
    Int8.lt_iff_toInt_lt, Int8.toInt_ofInt]
  exact Iff.rfl

/-- After a run that returns, the flag of the level-ups says whether there was one, exactly if the counter
says so. -/
theorem levelFlag_forgetsExactly_iff {events : List (Event LevelOp)} {level maxLevel : UInt8} :
    (levelFlag p).ForgetsExactly events (Leveled.new level maxLevel) ↔
      runAll (step (levelFlag p).act (levelFlag p).reset) events (Leveled.new level maxLevel) = none ∨
        (0 < (netLevels (sinceReset events)).bmod 256 ↔ .levelUp ∈ sinceReset events) := by
  have hreports : (∃ op ∈ sinceReset events, (levelFlag p).reports op) ↔
      .levelUp ∈ sinceReset events := by
    constructor
    · rintro ⟨op, hop, rfl⟩
      exact hop
    · exact fun hmem => ⟨.levelUp, hmem, rfl⟩
  cases hrun : runAll (step (levelFlag p).act (levelFlag p).reset) events (Leveled.new level maxLevel) with
  | none =>
      refine ⟨fun _ => Or.inl rfl, fun _ leveled hleveled => ?_⟩
      cases hrun.symm.trans hleveled
  | some leveled =>
      have hpending := levelFlag_pending_iff hrun
      rw [or_iff_right (by simp), ← hpending, ← hreports]
      constructor
      · exact fun hforgets => (hforgets leveled hrun).2
      · intro heq leveled' hleveled'
        obtain rfl := Option.some_inj.1 (hrun.symm.trans hleveled')
        exact ⟨rfl, heq⟩

/-- After a run that returns, the flag of the spent points says whether one was spent, unless there was a
reset and nothing was spent since. -/
theorem spentFlag_forgetsExactly_iff {events : List (Event PointsOp)} {stats : Stats}
    {remainingPoints : UInt16} :
    (spentFlag p).ForgetsExactly events (StatPoints.new stats remainingPoints) ↔
      runAll (step (spentFlag p).act (spentFlag p).reset) events (StatPoints.new stats remainingPoints) =
          none ∨
        (.reset ∈ events → .spendStr ∈ sinceReset events ∨ .spendInt ∈ sinceReset events) := by
  have hreports : (∃ op ∈ sinceReset events, (spentFlag p).reports op) ↔
      .spendStr ∈ sinceReset events ∨ .spendInt ∈ sinceReset events := by
    constructor
    · rintro ⟨op, hop, rfl | rfl⟩
      · exact Or.inl hop
      · exact Or.inr hop
    · rintro (hmem | hmem)
      · exact ⟨_, hmem, Or.inl rfl⟩
      · exact ⟨_, hmem, Or.inr rfl⟩
  cases hrun : runAll (step (spentFlag p).act (spentFlag p).reset) events
      (StatPoints.new stats remainingPoints) with
  | none =>
      refine ⟨fun _ => Or.inl rfl, fun _ points hpoints => ?_⟩
      cases hrun.symm.trans hpoints
  | some points =>
      have hpending := spentFlag_pending_iff hrun
      rw [or_iff_right (by simp), ← hreports]
      constructor
      · exact fun hforgets hreset => (hforgets points hrun).2.1 (hpending.2 (Or.inl hreset))
      · intro hspent points' hpoints'
        obtain rfl := Option.some_inj.1 (hrun.symm.trans hpoints')
        refine ⟨rfl, hpending.trans ⟨fun hor => hor.elim hspent id, Or.inr⟩⟩

end Unlawful

/-! ### All components -/

/-- Every component forgets exactly in every run from a new one. -/
def ResetForgetsExactly (p : Profile) (Source : Type) : Prop :=
  (∀ events maxHealth, (healthFlag p).ForgetsExactly events (Health.new maxHealth)) ∧
  (∀ events maxMana, (manaFlag p).ForgetsExactly events (Mana.withMax maxMana)) ∧
  (∀ events experience spExp,
    (experienceFlag p Source).ForgetsExactly events (Experienced.new experience spExp)) ∧
  (∀ events values, (masteryFlag p).ForgetsExactly events (KnownMasteries.new values)) ∧
  (∀ events stats points, (gainedFlag p).ForgetsExactly events (StatPoints.new stats points)) ∧
  (∀ events stats points, (spentFlag p).ForgetsExactly events (StatPoints.new stats points)) ∧
  (∀ events level maxLevel, (levelFlag p).ForgetsExactly events (Leveled.new level maxLevel))

/-- **Every component forgets exactly**, the last two under a condition on the run. -/
theorem reset_forgets_exactly_iff (p : Profile) (Source : Type) :
    (∀ events maxHealth, (healthFlag p).ForgetsExactly events (Health.new maxHealth)) ∧
    (∀ events maxMana, (manaFlag p).ForgetsExactly events (Mana.withMax maxMana)) ∧
    (∀ events experience spExp,
      (experienceFlag p Source).ForgetsExactly events (Experienced.new experience spExp)) ∧
    (∀ events values, (masteryFlag p).ForgetsExactly events (KnownMasteries.new values)) ∧
    (∀ events stats points, (gainedFlag p).ForgetsExactly events (StatPoints.new stats points)) ∧
    (∀ events stats points, (spentFlag p).ForgetsExactly events (StatPoints.new stats points) ↔
      runAll (step (spentFlag p).act (spentFlag p).reset) events (StatPoints.new stats points) = none ∨
        (.reset ∈ events → .spendStr ∈ sinceReset events ∨ .spendInt ∈ sinceReset events)) ∧
    (∀ events level maxLevel, (levelFlag p).ForgetsExactly events (Leveled.new level maxLevel) ↔
      runAll (step (levelFlag p).act (levelFlag p).reset) events (Leveled.new level maxLevel) = none ∨
        (0 < (netLevels (sinceReset events)).bmod 256 ↔ .levelUp ∈ sinceReset events)) := by
  refine ⟨fun events maxHealth => ?_, fun events maxMana => ?_, fun events experience spExp => ?_,
    fun events values => ?_, fun events stats points => ?_, fun _ _ _ => spentFlag_forgetsExactly_iff,
    fun _ _ _ => levelFlag_forgetsExactly_iff⟩
  · exact (healthFlag_lawful p).forgetsExactly (fun h => by cases h) events
  · exact (manaFlag_lawful p).forgetsExactly (fun h => by cases h) events
  · exact (experienceFlag_lawful p Source).forgetsExactly (fun h => h rfl) events
  · exact (masteryFlag_lawful p).forgetsExactly (fun h => h rfl) events
  · exact (gainedFlag_lawful p).forgetsExactly (fun h => by cases h) events

/-- A reset of new points makes them look spent. -/
theorem reset_looks_spent : ¬ ∀ (p : Profile) (Source : Type), ResetForgetsExactly p Source := by
  intro h
  obtain ⟨-, -, -, -, -, hspent, -⟩ := h .debug Unit
  obtain ⟨-, hpending⟩ := hspent [.reset] ⟨20, 20⟩ 0 _ rfl
  obtain ⟨op, hop, -⟩ := hpending.1 rfl
  simp [sinceReset] at hop

end Skrillax

/-
**Runs of the fighting systems.**

A run panics at its first step that takes something for granted which is not so: a player uses a skill that
is not an attack, or the target has despawned before the execution, or the attacker before the damage is
handled.  An action that nothing takes away comes nearer to its teardown with every tick of its timer, so
after enough of them it gets there.

Main definitions:

* `Action.remaining` — how far an action is from its teardown;
* `Cancelled`, `ReachesTeardown`, `ActionsFinish` — what becomes of an action.

Main results:

* `Action.remaining_advance` — a tick brings the teardown nearer;
* `cancelled_or_teardown` — an action is cancelled or reaches its teardown;
* `goes_through_iff` — **a run goes through exactly if every step is allowed where it is attempted, and
  then every action is cancelled or reaches its teardown**.
-/

import Skrillax.CombatSteps
import Skrillax.PartialAction

set_option relaxedAutoImplicit false
set_option autoImplicit false

namespace Skrillax.Agents

open Rust (Profile)
open PartialAction

/-! ### How far it is to the teardown -/

/-- The rest of this phase and the phases up to the teardown, with a tick for each. -/
def Action.remaining (action : Action) : ℕ :=
  let phase := action.progress.duration - action.progress.elapsed + 1
  match action.state with
  | .preparation =>
      phase + (phaseTime .casting action.skill + 1) + (phaseTime .execution action.skill + 1)
  | .casting => phase + (phaseTime .execution action.skill + 1)
  | .execution => phase
  | .teardown => 0

/-- A tick does not take the action away before its teardown, and brings it nearer if any time passes. -/
theorem Action.remaining_advance {action : Action} (h : action.UnderWay) (delta : ℕ)
    (hstate : action.state ≠ .teardown) : ∃ advanced, action.after delta = some advanced ∧
      advanced.remaining + (if 0 < delta then 1 else 0) ≤ action.remaining := by
  obtain ⟨hdue, heq⟩ | ⟨next, hdue, hnext, heq⟩ | ⟨-, hteardown, -⟩ := advance_cases h delta
  · refine ⟨_, by rw [after, heq]; rfl, ?_⟩
    unfold isDue at hdue
    simp only [remaining]
    cases hphase : action.state with
    | teardown => exact absurd hphase hstate
    | _ =>
        simp only
        split <;> omega
  · refine ⟨_, by rw [after, heq]; rfl, ?_⟩
    simp only [remaining]
    cases hphase : action.state <;> rw [hphase] at hnext <;> cases hnext <;> simp only [Timer.once]
    all_goals split <;> omega
  · exact absurd hteardown hstate

theorem Action.teardown_of_remaining {action : Action} (h : action.remaining = 0) :
    action.state = .teardown := by
  cases hstate : action.state with
  | teardown => rfl
  | _ => simp [remaining, hstate] at h

/-! ### The action of an entity -/

def CombatWorld.actionAt (w : CombatWorld) (entity : Entity) : Option Action :=
  (w.entities entity).bind fun combatant => combatant.states.action

/-- An iteration of the system `action` for the entity. -/
def advances (entity : Entity) : CombatStep → Bool
  | .action e _ _ => decide (e = entity)
  | _ => false

/-- An iteration before which time has passed. -/
def ticks (entity : Entity) : CombatStep → Bool
  | .action e delta _ => decide (e = entity) && decide (0 < delta)
  | _ => false

variable {p : Profile} {data : CombatData} {entity : Entity}

/-- Some other step takes the action of the entity away, or gives it another one. -/
def Cancels (p : Profile) (data : CombatData) (entity : Entity) (w : CombatWorld) (step : CombatStep) : Prop :=
  advances entity step = false ∧
    ∃ w', CombatWorld.step p data step w = some w' ∧ w'.actionAt entity ≠ w.actionAt entity

def Cancelled (p : Profile) (data : CombatData) (entity : Entity) (run : List CombatStep) (w : CombatWorld) :
    Prop :=
  ∃ pre step w', pre ++ [step] <+: run ∧ runAll (CombatWorld.step p data) pre w = some w' ∧
    Cancels p data entity w' step

def ReachesTeardown (p : Profile) (data : CombatData) (entity : Entity) (run : List CombatStep)
    (w : CombatWorld) : Prop :=
  ∃ pre w', pre <+: run ∧ runAll (CombatWorld.step p data) pre w = some w' ∧
    ∃ action ∈ w'.actionAt entity, action.state = .teardown

theorem Cancelled.cons {step : CombatStep} {run : List CombatStep} {w w' : CombatWorld}
    (h : Cancelled p data entity run w') (hstep : CombatWorld.step p data step w = some w') :
    Cancelled p data entity (step :: run) w := by
  obtain ⟨pre, last, w'', hpre, hrun, hcancels⟩ := h
  refine ⟨step :: pre, last, w'', List.cons_prefix_cons.2 ⟨rfl, hpre⟩, ?_, hcancels⟩
  rw [runAll_cons, hstep]
  exact hrun

theorem ReachesTeardown.cons {step : CombatStep} {run : List CombatStep} {w w' : CombatWorld}
    (h : ReachesTeardown p data entity run w') (hstep : CombatWorld.step p data step w = some w') :
    ReachesTeardown p data entity (step :: run) w := by
  obtain ⟨pre, w'', hpre, hrun, hteardown⟩ := h
  refine ⟨step :: pre, w'', List.cons_prefix_cons.2 ⟨rfl, hpre⟩, ?_, hteardown⟩
  rw [runAll_cons, hstep]
  exact hrun

theorem actionAt_action {delta roll : ℕ} {w w' : CombatWorld} {action : Action}
    (haction : w.actionAt entity = some action)
    (hstep : CombatWorld.step p data (.action entity delta roll) w = some w') :
    w'.actionAt entity = action.after delta := by
  obtain ⟨combatant, hcombatant, hcurrent⟩ := Option.bind_eq_some_iff.1 haction
  rw [CombatWorld.actionAt, actionOf_entities hcombatant hcurrent hstep]
  simp [hcombatant, Combatant.setAction]

theorem underWay_actionAt {w : CombatWorld} {action : Action} (h : w.UnderWay)
    (haction : w.actionAt entity = some action) : action.UnderWay := by
  obtain ⟨combatant, hcombatant, hcurrent⟩ := Option.bind_eq_some_iff.1 haction
  exact (h entity combatant hcombatant).current action hcurrent

theorem eq_action_of_advances {step : CombatStep} (h : advances entity step = true) :
    ∃ delta roll, step = .action entity delta roll := by
  cases step with
  | action e delta roll =>
      obtain rfl := of_decide_eq_true h
      exact ⟨delta, roll, rfl⟩
  | _ => cases h

theorem not_ticks_of_not_advances {step : CombatStep} (h : advances entity step = false) :
    ¬ticks entity step = true := by
  cases step with
  | action e delta roll =>
      intro hticks
      exact of_decide_eq_false h (of_decide_eq_true (Bool.and_eq_true_iff.1 hticks).1)
  | _ => exact Bool.false_ne_true

/-- **An action is cancelled or reaches its teardown**, in every run that is long enough. -/
theorem cancelled_or_teardown {run : List CombatStep} {w : CombatWorld} {action : Action} (h : w.UnderWay)
    (haction : w.actionAt entity = some action)
    (hrun : (runAll (CombatWorld.step p data) run w).isSome = true)
    (henough : action.remaining ≤ run.countP (ticks entity)) :
    Cancelled p data entity run w ∨ ReachesTeardown p data entity run w := by
  induction run generalizing w action with
  | nil =>
      have hteardown := Action.teardown_of_remaining (Nat.le_zero.1 henough)
      exact Or.inr ⟨[], w, List.nil_prefix, rfl, action, haction, hteardown⟩
  | cons step run ih =>
      obtain ⟨last, hlast⟩ := Option.isSome_iff_exists.1 hrun
      obtain ⟨w', hstep, hrest⟩ := Option.bind_eq_some_iff.1 hlast
      have hgoes : (runAll (CombatWorld.step p data) run w').isSome = true := Option.isSome_of_eq_some hrest
      have hafter := step_underWay h hstep
      rw [List.countP_cons] at henough
      by_cases hstate : action.state = .teardown
      · exact Or.inr ⟨[], w, List.nil_prefix, rfl, action, haction, hstate⟩
      cases hadvances : advances entity step with
      | true =>
          obtain ⟨delta, roll, rfl⟩ := eq_action_of_advances hadvances
          obtain ⟨advanced, hadvanced, hless⟩ :=
            Action.remaining_advance (underWay_actionAt h haction) delta hstate
          have haction' := (actionAt_action haction hstep).trans hadvanced
          have henough' : advanced.remaining ≤ run.countP (ticks entity) := by
            simp only [ticks, decide_true, Bool.true_and, decide_eq_true_eq] at henough
            omega
          exact (ih hafter haction' hgoes henough').imp (fun h => h.cons hstep) fun h => h.cons hstep
      | false =>
          by_cases hsame : w'.actionAt entity = w.actionAt entity
          · rw [if_neg (not_ticks_of_not_advances hadvances)] at henough
            exact (ih hafter (hsame.trans haction) hgoes henough).imp (fun h => h.cons hstep)
              fun h => h.cons hstep
          · exact Or.inl ⟨[], step, w, by simp, rfl, hadvances, w', hstep, hsame⟩

/-- In every run from the start, what becomes of an action that anyone has at some time. -/
def ActionsFinish (p : Profile) (data : CombatData) (run : List CombatStep) : Prop :=
  ∀ pre rest w entity action, pre ++ rest = run →
    runAll (CombatWorld.step p data) pre CombatWorld.init = some w → w.actionAt entity = some action →
    action.remaining ≤ rest.countP (ticks entity) →
    Cancelled p data entity rest w ∨ ReachesTeardown p data entity rest w

theorem underWay_init : CombatWorld.init.UnderWay := fun _ _ h => (by cases h)

theorem reached_underWay (run : List CombatStep) :
    Reached (CombatWorld.step p data) CombatWorld.UnderWay run CombatWorld.init :=
  reached_of_step (fun _ _ _ _ h hstep => step_underWay h hstep) underWay_init

theorem actionsFinish {run : List CombatStep}
    (h : (runAll (CombatWorld.step p data) run CombatWorld.init).isSome = true) :
    ActionsFinish p data run := by
  rintro pre rest w entity action rfl hw haction henough
  have hunder : w.UnderWay := reached_underWay pre pre w (List.prefix_refl _) hw
  rw [runAll_append, hw] at h
  exact cancelled_or_teardown hunder haction h henough

/-- **A run goes through exactly if every step is allowed where it is attempted**, and then every action is
cancelled or reaches its teardown. -/
theorem goes_through_iff (p : Profile) (data : CombatData) (run : List CombatStep) :
    ((runAll (CombatWorld.step p data) run CombatWorld.init).isSome = true ∧ ActionsFinish p data run) ↔
      Attempted (CombatWorld.step p data) (fun w step => w.Allows p data step) run CombatWorld.init := by
  have hiff : (runAll (CombatWorld.step p data) run CombatWorld.init).isSome = true ↔
      Attempted (CombatWorld.step p data) (fun w step => w.Allows p data step) run CombatWorld.init :=
    runAll_isSome_iff.trans
      (attempted_iff (reached_underWay run) fun w step hunder => step_isSome_iff hunder step)
  exact ⟨fun h => hiff.1 h.1, fun h => ⟨hiff.2 h, actionsFinish (hiff.2 h)⟩⟩

/-! ### A skill that is not an attack -/

/-- A skill with a parameter, but not one for an attack; it takes no time. -/
def healingSkill : RefSkillData := ⟨5, ⟨0, 0, 0, 0⟩, [.other]⟩

def healingData : CombatData where
  skills id := if id = 5 then some healingSkill else none
  characters _ := none
  attackPower _ _ := (1, 1)

def unarmedPlayer : Combatant where
  gameEntity := ⟨1, 1907⟩
  client := true
  drop := false
  strength := some 20
  weapon := some none
  mind := some none
  queue := some []
  states := States.fresh
  body := some (Health.new 100, fun _ => none)
  invincible := false

def idleMonster : Combatant where
  gameEntity := ⟨2, 1933⟩
  client := false
  drop := false
  strength := none
  weapon := none
  mind := some none
  queue := some []
  states := States.fresh
  body := some (Health.new 50, fun _ => none)
  invincible := false

/-- The player uses the skill on a monster next to it. -/
def healingRun : List CombatStep :=
  [.spawn 1 unarmedPlayer, .spawn 2 idleMonster, .collect fun id => if id = 2 then some 2 else none,
    .command 1 [.insert .idle], .handleAction 1 (.perform (.useSkill 5 (.entity 2))),
    .enqueueAction 1 true, .transition 1, .action 1 10 0]

/-- The goal is accepted and the action is cast, but its execution panics. -/
theorem healing_panics :
    (runAll (CombatWorld.step .release healingData) healingRun CombatWorld.init).isSome = true ∧
      runAll (CombatWorld.step .release healingData) (healingRun ++ [.action 1 10 0])
        CombatWorld.init = none :=
  ⟨rfl, rfl⟩

end Skrillax.Agents

/-
**Actions under way.**

An action comes from a goal, so it has an entity as its target, and it stays in the queue and in the
component `Action` for as long as its timer runs.  Whatever else happens, no entity ever has or asks for an
action of another kind.

Main definitions:

* `Action.isDue`, `Action.after` — what a tick does to an action;
* `Action.UnderWay`, `Combatant.UnderWay`, `CombatWorld.UnderWay` — the invariant.

Main results:

* `Action.advance_cases` — the timer goes on, or the next phase begins, or the teardown is over;
* `actionOf_entities` — the system `action` changes nothing but the action;
* `step_underWay` — **every step keeps the invariant**.
-/

import Skrillax.Combat

set_option relaxedAutoImplicit false
set_option autoImplicit false

namespace Skrillax.Agents

open Rust (Profile)

/-! ### The timer of an action -/

theorem Timer.tick_of_due {timer : Timer} {delta : ℕ} (h : timer.finished = false)
    (hdue : timer.duration ≤ timer.elapsed + delta) :
    timer.tick delta = ⟨timer.duration, timer.duration, true, true⟩ := by
  unfold tick
  rw [h, if_pos hdue]
  rfl

theorem Timer.tick_of_not_due {timer : Timer} {delta : ℕ} (h : timer.finished = false)
    (hdue : ¬timer.duration ≤ timer.elapsed + delta) :
    timer.tick delta = ⟨timer.elapsed + delta, timer.duration, false, false⟩ := by
  unfold tick
  rw [h, if_neg hdue]
  rfl

/-- The time of a phase, as the timer measures it. -/
def phaseTime (state : ActionProgressState) (skill : RefSkillData) : ℕ :=
  fromMillis ((state.getTimeFor skill).getD 0).toInt.toNat

namespace Action

def isDue (action : Action) (delta : ℕ) : Prop :=
  action.progress.duration ≤ action.progress.elapsed + delta

/-- The target is an entity, and the timer has not finished. -/
structure UnderWay (action : Action) : Prop where
  target : ∃ entity, action.target = .entity entity
  running : action.progress.finished = false

theorem underWay_ofDescription (skill : RefSkillData) (entity : Entity) :
    (ofDescription ⟨skill, .entity entity⟩).UnderWay :=
  ⟨⟨entity, rfl⟩, rfl⟩

/-- The timer goes on, or the next phase begins, or the teardown is over. -/
theorem advance_cases {action : Action} (h : action.UnderWay) (delta : ℕ) :
    (¬action.isDue delta ∧ action.advance delta = ({ action with
      progress := ⟨action.progress.elapsed + delta, action.progress.duration, false, false⟩ }, .waiting)) ∨
    (∃ next, action.isDue delta ∧ action.state.next = some next ∧ action.advance delta = ({ action with
      state := next, progress := Timer.once (phaseTime next action.skill) }, .entered next)) ∨
    (action.isDue delta ∧ action.state = .teardown ∧ (action.advance delta).2 = .finished) := by
  by_cases hdue : action.isDue delta
  · have hfinished : (action.progress.tick delta).justFinished = true := by
      rw [Timer.tick_of_due h.running hdue]
    cases hnext : action.state.next with
    | some next =>
        refine Or.inr (Or.inl ⟨next, hdue, rfl, ?_⟩)
        simp only [advance, hfinished, hnext, if_true]
        rfl
    | none =>
        refine Or.inr (Or.inr ⟨hdue, ?_, ?_⟩)
        · cases hstate : action.state <;> rw [hstate] at hnext <;> first | rfl | cases hnext
        · simp only [advance, hfinished, hnext, if_true]
  · refine Or.inl ⟨hdue, ?_⟩
    have htick := Timer.tick_of_not_due h.running hdue
    simp [advance, htick]

/-- The action that is left. -/
def after (delta : ℕ) (action : Action) : Option Action :=
  if (action.advance delta).2 = .finished then none else some (action.advance delta).1

theorem underWay_after {action : Action} {delta : ℕ} (h : action.UnderWay) :
    ∀ inner ∈ action.after delta, inner.UnderWay := by
  intro inner hinner
  obtain ⟨-, heq⟩ | ⟨next, -, -, heq⟩ | ⟨-, -, heq⟩ := advance_cases h delta
  · rw [after, heq] at hinner
    obtain rfl := Option.some_inj.1 hinner
    exact ⟨h.target, rfl⟩
  · rw [after, heq] at hinner
    obtain rfl := Option.some_inj.1 hinner
    exact ⟨h.target, rfl⟩
  · rw [after, if_pos heq] at hinner
    cases hinner

end Action

/-! ### The invariant -/

def StateChange.UnderWay : StateChange → Prop
  | action inner => inner.UnderWay
  | _ => True

def StateCommand.UnderWay : StateCommand → Prop
  | insert change => change.UnderWay
  | _ => True

def States.UnderWay (states : States) : Prop := ∀ action ∈ states.action, action.UnderWay

def QueueUnderWay (queue : List StateTransition) : Prop := ∀ transition ∈ queue, transition.data.UnderWay

structure Combatant.UnderWay (combatant : Combatant) : Prop where
  current : combatant.states.UnderWay
  queued : ∀ queue ∈ combatant.queue, QueueUnderWay queue

def CombatWorld.UnderWay (w : CombatWorld) : Prop :=
  ∀ entity, ∀ combatant ∈ w.entities entity, combatant.UnderWay

theorem StateChange.underWay_of_kind {change : StateChange} (h : change.kind ≠ .action) :
    change.UnderWay := by
  cases change with
  | action inner => exact absurd rfl h
  | _ => trivial

theorem States.underWay_fresh : States.fresh.UnderWay := fun action h => (by cases h)

theorem States.underWay_insert {states : States} {change : StateChange} (h : states.UnderWay)
    (hchange : change.UnderWay) : (states.insert change).UnderWay := by
  cases change with
  | action inner =>
      intro action haction
      obtain rfl := Option.some_inj.1 haction
      exact hchange
  | _ => exact h

theorem States.underWay_remove {states : States} (h : states.UnderWay) (kind : StateKind) :
    (states.remove kind).UnderWay := by
  cases kind with
  | action => exact fun action haction => (by cases haction)
  | _ => exact h

theorem underWay_applyAll {commands : List StateCommand} {states states' : States}
    (h : states.UnderWay) (hcommands : ∀ command ∈ commands, command.UnderWay)
    (happly : applyAll commands states = some states') : states'.UnderWay := by
  induction commands generalizing states with
  | nil =>
      obtain rfl := Option.some_inj.1 happly
      exact h
  | cons command commands ih =>
      obtain ⟨hcommand, hrest⟩ := List.forall_mem_cons.1 hcommands
      cases command with
      | insert change => exact ih (States.underWay_insert h hcommand) hrest happly
      | remove kind => exact ih (States.underWay_remove h kind) hrest happly
      | despawn => cases happly

theorem queueUnderWay_append {queue queue' : List StateTransition} (h : QueueUnderWay queue)
    (h' : QueueUnderWay queue') : QueueUnderWay (queue ++ queue') := fun transition hmem =>
  (List.mem_append.1 hmem).elim (h transition) (h' transition)

theorem queueUnderWay_new {change : StateChange} (h : change.UnderWay) :
    QueueUnderWay [StateTransition.new change] := fun transition hmem => by
  obtain rfl := List.mem_singleton.1 hmem
  exact h

/-- A transition makes commands of nothing but the queue. -/
structure KeepsUnderWay (transitioned : List StateTransition × List StateCommand) : Prop where
  queue : QueueUnderWay transitioned.1
  commands : ∀ command ∈ transitioned.2, command.UnderWay

theorem keepsUnderWay_replace {transition : StateTransition} (kind : StateKind)
    (h : transition.data.UnderWay) : KeepsUnderWay ([], transition.replace kind) := by
  refine ⟨fun _ hmem => (by cases hmem), fun command hmem => ?_⟩
  rcases List.mem_cons.1 hmem with rfl | hmem
  · trivial
  · obtain rfl := List.mem_singleton.1 hmem
    exact h

theorem keepsUnderWay_nil {queue : List StateTransition} (h : QueueUnderWay queue) :
    KeepsUnderWay (queue, []) :=
  ⟨h, fun _ hmem => (by cases hmem)⟩

theorem keepsUnderWay_autoTransition {queue : List StateTransition} (h : QueueUnderWay queue)
    (kind : StateKind) (states : States) : KeepsUnderWay (autoTransition kind states queue) := by
  unfold autoTransition transitionToNewState
  split
  · cases hchosen : chosen queue with
    | some transition => exact keepsUnderWay_replace kind (h transition (mem_of_chosen hchosen))
    | none => exact keepsUnderWay_nil h
  · exact keepsUnderWay_nil h

theorem keepsUnderWay_fromAttacking {queue : List StateTransition} (h : QueueUnderWay queue)
    (states : States) : KeepsUnderWay (transitionFromAttacking states queue) := by
  unfold transitionFromAttacking transitionToHigherState
  split
  · cases hchosen : chosen (queue.filter fun transition =>
        decide (StateKind.action.order < transition.priority)) with
    | some transition =>
        exact keepsUnderWay_replace _ (h transition (List.mem_of_mem_filter (mem_of_chosen hchosen)))
    | none => exact keepsUnderWay_nil fun _ hmem => (by cases hmem)
  · exact keepsUnderWay_nil h

theorem keepsUnderWay_transitions {queue : List StateTransition} (h : QueueUnderWay queue)
    (agent : Agent) : KeepsUnderWay (agent.transitions queue) := by
  have hidle := keepsUnderWay_autoTransition h .idle agent.states
  have hmoving := keepsUnderWay_autoTransition hidle.queue .moving agent.states
  have hsitting := keepsUnderWay_autoTransition hmoving.queue .sitting agent.states
  have hattacking := keepsUnderWay_fromAttacking hsitting.queue agent.states
  refine ⟨hattacking.queue, fun command hmem => ?_⟩
  simp only [Agent.transitions, List.mem_append] at hmem
  rcases hmem with ((hmem | hmem) | hmem) | hmem
  · exact hidle.commands command hmem
  · exact hmoving.commands command hmem
  · exact hsitting.commands command hmem
  · exact hattacking.commands command hmem

/-! ### Every step keeps the invariant -/

@[simp] theorem CombatWorld.modify_entities (w : CombatWorld) (entity : Entity)
    (change : Combatant → Combatant) (e : Entity) : (w.modify entity change).entities e =
      if e = entity then (w.entities e).map change else w.entities e := rfl

@[simp] theorem CombatWorld.send_entities (w : CombatWorld) (entity : Entity) (packet : CombatPacket) :
    (w.send entity packet).entities = w.entities := rfl

namespace Combatant.UnderWay

/-- The rest of the components does not matter. -/
theorem congr {combatant combatant' : Combatant} (h : combatant.UnderWay)
    (hstates : combatant'.states = combatant.states) (hqueue : combatant'.queue = combatant.queue) :
    combatant'.UnderWay :=
  ⟨hstates ▸ h.current, hqueue ▸ h.queued⟩

theorem setAction {combatant : Combatant} {action : Option Action} (h : combatant.UnderWay)
    (haction : ∀ inner ∈ action, inner.UnderWay) : (combatant.setAction action).UnderWay :=
  ⟨haction, h.queued⟩

theorem queued_append {combatant : Combatant} {requests : List StateTransition} (h : combatant.UnderWay)
    (hrequests : QueueUnderWay requests) :
    ∀ queue ∈ combatant.queue.map (fun queue => queue ++ requests), QueueUnderWay queue := by
  intro queue' hqueue'
  obtain ⟨queue, hqueue, rfl⟩ := Option.mem_map.1 hqueue'
  exact queueUnderWay_append (h.queued queue hqueue) hrequests

theorem transition {combatant : Combatant} (h : combatant.UnderWay) : combatant.transition.UnderWay := by
  unfold Combatant.transition
  cases hqueue : combatant.queue with
  | none => exact h
  | some queue =>
      have hkeeps := keepsUnderWay_transitions (h.queued queue hqueue)
        ⟨combatant.states, queue, combatant.client⟩
      refine ⟨?_, fun queue' hqueue' => Option.some_inj.1 hqueue' ▸ hkeeps.queue⟩
      cases happly : applyAll (Agent.transitions ⟨combatant.states, queue, combatant.client⟩ queue).2
          combatant.states with
      | none => simpa only [happly, Option.getD_none] using h.current
      | some states =>
          simpa only [happly, Option.getD_some] using underWay_applyAll h.current hkeeps.commands happly

end Combatant.UnderWay

namespace CombatWorld.UnderWay

theorem of_entities {w w' : CombatWorld} (h : w.UnderWay) (heq : w'.entities = w.entities) :
    w'.UnderWay := fun entity combatant hmem => h entity combatant (heq ▸ hmem)

/-- What was not there before is under way. -/
theorem of_either {w w' : CombatWorld} (h : w.UnderWay)
    (heither : ∀ entity, ∀ combatant ∈ w'.entities entity,
      combatant ∈ w.entities entity ∨ combatant.UnderWay) : w'.UnderWay :=
  fun entity combatant hmem => (heither entity combatant hmem).elim (h entity combatant) id

theorem modify {w : CombatWorld} {entity : Entity} {change : Combatant → Combatant} (h : w.UnderWay)
    (hchange : ∀ combatant ∈ w.entities entity, combatant.UnderWay → (change combatant).UnderWay) :
    (w.modify entity change).UnderWay := by
  refine h.of_either fun e combatant' hmem => ?_
  rw [CombatWorld.modify_entities] at hmem
  split at hmem
  · rename_i he
    obtain ⟨combatant, hcombatant, rfl⟩ := Option.map_eq_some_iff.1 hmem
    exact Or.inr (hchange combatant (he ▸ hcombatant) (h e combatant hcombatant))
  · exact Or.inl hmem

/-- A change that concerns neither the states nor the queue. -/
theorem modify_frame {w : CombatWorld} {entity : Entity} {change : Combatant → Combatant} (h : w.UnderWay)
    (hstates : ∀ combatant, (change combatant).states = combatant.states)
    (hqueue : ∀ combatant, (change combatant).queue = combatant.queue) :
    (w.modify entity change).UnderWay :=
  h.modify fun combatant _ hcombatant => hcombatant.congr (hstates combatant) (hqueue combatant)

theorem handleAction {w : CombatWorld} (h : w.UnderWay) (data : CombatData) (entity : Entity)
    (packet : PerformAction) : (Agents.handleAction data entity packet w).UnderWay := by
  unfold Agents.handleAction
  split
  · split
    · split
      · exact h.modify_frame (fun _ => rfl) fun _ => rfl
      · exact h
      · exact h.of_entities rfl
    · exact h
  · exact h

end CombatWorld.UnderWay

/-- What a pursuit asks for. -/
def Pursuit.UnderWay (pursuit : Pursuit) : Prop := ∀ change ∈ pursuit.request, change.UnderWay

theorem underWay_pursue (w : CombatWorld) (near : Bool) (skill : RefSkillData) (target : EntityReference)
    {onMissing : Option StateChange} (h : ∀ change ∈ onMissing, change.UnderWay) :
    (pursue w near skill target onMissing).UnderWay := by
  unfold pursue tryAttack
  cases w.targetable target.entity with
  | false => exact h
  | true =>
      cases near with
      | true =>
          intro change hchange
          obtain rfl := Option.some_inj.1 hchange
          exact Action.underWay_ofDescription skill target.entity
      | false =>
          intro change hchange
          obtain rfl := Option.some_inj.1 hchange
          trivial

theorem Pursuit.underWay_of_kind {pursuit : Pursuit}
    (h : ∀ change ∈ pursuit.request, change.kind ≠ .action) : pursuit.UnderWay :=
  fun change hchange => StateChange.underWay_of_kind (h change hchange)

theorem underWay_enqueueGoal {data : CombatData} {w : CombatWorld} {near : Bool} {combatant : Combatant}
    {goal : Goal} {pursuit : Pursuit} (h : enqueueGoal data w near combatant goal = some pursuit) :
    pursuit.UnderWay := by
  cases goal with
  | pickUp target =>
      refine Pursuit.underWay_of_kind ?_
      rw [enqueueGoal] at h
      split at h
      · split at h
        · split at h <;> cases h <;> simp [StateChange.kind]
        · cases h
          simp
      · cases h
        simp
  | attack target =>
      obtain ⟨skill, -, hpursuit⟩ := Option.bind_eq_some_iff.1 h
      obtain rfl := Option.some_inj.1 hpursuit
      exact underWay_pursue w near skill target fun _ hmem => (by cases hmem)
  | executeSkill target skill =>
      obtain rfl := Option.some_inj.1 h
      exact underWay_pursue w near skill target fun _ hmem => (by cases hmem)

theorem underWay_some_idle : ∀ change ∈ some StateChange.idle, change.UnderWay := fun change hchange => by
  obtain rfl := Option.some_inj.1 hchange
  trivial

theorem underWay_updateGoal {data : CombatData} {w : CombatWorld} {near : Bool} {combatant : Combatant}
    {moving : MovementGoal} {goal : Goal} {pursuit : Pursuit}
    (h : updateGoal data w near combatant moving goal = some pursuit) : pursuit.UnderWay := by
  cases goal with
  | pickUp target =>
      refine Pursuit.underWay_of_kind ?_
      rw [updateGoal] at h
      split at h <;> cases h <;> simp
  | attack target =>
      obtain ⟨skill, -, hpursuit⟩ := Option.bind_eq_some_iff.1 h
      split at hpursuit
      · obtain rfl := Option.some_inj.1 hpursuit
        exact fun _ hmem => (by cases hmem)
      · obtain rfl := Option.some_inj.1 hpursuit
        exact underWay_pursue w near skill target underWay_some_idle
  | executeSkill target skill =>
      rw [updateGoal] at h
      split at h
      · obtain rfl := Option.some_inj.1 h
        exact fun _ hmem => (by cases hmem)
      · obtain rfl := Option.some_inj.1 h
        exact underWay_pursue w near skill target underWay_some_idle

/-- An action that enters its execution leaves the entities as they are. -/
theorem execute_entities {p : Profile} {data : CombatData} {entity : Entity} {combatant : Combatant}
    {action : Action} {roll : ℕ} {w w' : CombatWorld}
    (h : execute p data entity combatant action roll w = some w') : w'.entities = w.entities := by
  obtain ⟨attack, -, h⟩ := Option.bind_eq_some_iff.1 h
  split at h
  · obtain ⟨found, -, h⟩ := Option.bind_eq_some_iff.1 h
    obtain ⟨amount, -, h⟩ := Option.bind_eq_some_iff.1 h
    split at h <;> obtain rfl := Option.some_inj.1 h <;> rfl
  · cases h

theorem actionOf_entities {p : Profile} {data : CombatData} {entity : Entity} {delta roll : ℕ}
    {w w' : CombatWorld} {combatant : Combatant} {action : Action}
    (hcombatant : w.entities entity = some combatant) (haction : combatant.states.action = some action)
    (h : actionOf p data entity delta roll w = some w') :
    w'.entities = (w.modify entity (Combatant.setAction (action.after delta))).entities := by
  simp only [actionOf, hcombatant, haction] at h
  unfold Action.after
  split at h
  · rename_i hprogress
    obtain rfl := Option.some_inj.1 h
    simp [hprogress]
  · rename_i hprogress
    rw [execute_entities h]
    simp [hprogress]
  · rename_i hprogress
    obtain rfl := Option.some_inj.1 h
    simp [hprogress]
  · rename_i hprogress
    obtain rfl := Option.some_inj.1 h
    simp [hprogress]

namespace CombatWorld.UnderWay

variable {w w' : CombatWorld} {p : Profile} {data : CombatData} {entity : Entity}

theorem apply {pursuit : Pursuit} (h : w.UnderWay) (hpursuit : pursuit.UnderWay) (combatant : Combatant) :
    (pursuit.apply entity combatant w).UnderWay := by
  have hrequests : QueueUnderWay (pursuit.request.map StateTransition.new).toList := by
    intro transition hmem
    obtain ⟨change, hchange, rfl⟩ := Option.map_eq_some_iff.1 (Option.mem_toList.1 hmem)
    exact hpursuit change hchange
  have hchanged : (w.modify entity fun combatant =>
      { combatant with
        mind := if pursuit.cancel then some none else combatant.mind
        queue := combatant.queue.map fun queue =>
          queue ++ (pursuit.request.map StateTransition.new).toList }).UnderWay :=
    h.modify fun combatant _ hcombatant => ⟨hcombatant.current, hcombatant.queued_append hrequests⟩
  refine hchanged.of_entities ?_
  unfold Pursuit.apply
  cases pursuit.reply with
  | none => rfl
  | some packet => cases combatant.client <;> rfl

theorem enqueueAction {near : Bool} (h : w.UnderWay)
    (hstep : Agents.enqueueAction data entity near w = some w') : w'.UnderWay := by
  unfold Agents.enqueueAction at hstep
  split at hstep
  · split at hstep
    · split at hstep
      · obtain ⟨pursuit, hpursuit, rfl⟩ := Option.map_eq_some_iff.1 hstep
        exact h.apply (underWay_enqueueGoal hpursuit) _
      · exact Option.some_inj.1 hstep ▸ h
    · exact Option.some_inj.1 hstep ▸ h
  · exact Option.some_inj.1 hstep ▸ h

theorem updateAction {near : Bool} (h : w.UnderWay)
    (hstep : Agents.updateAction data entity near w = some w') : w'.UnderWay := by
  unfold Agents.updateAction at hstep
  split at hstep
  · split at hstep
    · split at hstep
      · exact Option.some_inj.1 hstep ▸ h
      · obtain ⟨pursuit, hpursuit, rfl⟩ := Option.map_eq_some_iff.1 hstep
        exact h.apply (underWay_updateGoal hpursuit) _
    · exact Option.some_inj.1 hstep ▸ h
  · exact Option.some_inj.1 hstep ▸ h

theorem actionOf {delta roll : ℕ} (h : w.UnderWay)
    (hstep : Agents.actionOf p data entity delta roll w = some w') : w'.UnderWay := by
  cases hcombatant : w.entities entity with
  | none =>
      simp only [Agents.actionOf, hcombatant, Option.some_inj] at hstep
      exact hstep ▸ h
  | some combatant =>
      cases haction : combatant.states.action with
      | none =>
          simp only [Agents.actionOf, hcombatant, haction, Option.some_inj] at hstep
          exact hstep ▸ h
      | some action =>
          refine of_entities (h.modify fun combatant' hcombatant' h' => h'.setAction ?_)
            (actionOf_entities hcombatant haction hstep)
          exact Action.underWay_after ((h entity combatant hcombatant).current action haction)

end CombatWorld.UnderWay

/-- A hit asks for nothing but death. -/
theorem underWay_hit {p : Profile} {event : DamageReceiveEvent} {attacker : GameEntity}
    {combatant struck : Combatant} {body : Health × DamageReceiver} {damage : SkillPartDamage} {died : Bool}
    (h : combatant.UnderWay) (hhit : hit p event attacker combatant body = some (struck, damage, died)) :
    struck.UnderWay := by
  obtain ⟨receiver, -, hhit⟩ := Option.bind_eq_some_iff.1 hhit
  obtain ⟨health, -, hhit⟩ := Option.bind_eq_some_iff.1 hhit
  split at hhit
  · cases hhit
    exact ⟨h.current, h.queued_append (queueUnderWay_new trivial)⟩
  · cases hhit
    exact h.congr rfl rfl

namespace CombatWorld.UnderWay

variable {w w' : CombatWorld} {p : Profile}

theorem handleHit {event : DamageReceiveEvent} {target : Combatant} {body : Health × DamageReceiver}
    (h : w.UnderWay) (htarget : target.UnderWay)
    (hstep : Agents.handleHit p event target body w = some w') : w'.UnderWay := by
  obtain ⟨attacker, -, hstep⟩ := Option.bind_eq_some_iff.1 hstep
  split at hstep
  · split at hstep <;> obtain rfl := Option.some_inj.1 hstep
    · exact h.of_entities rfl
    · exact h
  · obtain ⟨⟨struck, damage, died⟩, hhit, hstep⟩ := Option.bind_eq_some_iff.1 hstep
    have hstruck : (w.modify event.target.entity fun _ => struck).UnderWay :=
      h.modify fun _ _ _ => underWay_hit htarget hhit
    refine hstruck.of_entities ?_
    cases hinformed : informed event attacker target <;> simp only [hinformed] at hstep <;>
      obtain rfl := Option.some_inj.1 hstep <;> cases died <;> rfl

theorem handleDamage (h : w.UnderWay) (hstep : Agents.handleDamage p w = some w') : w'.UnderWay := by
  unfold Agents.handleDamage at hstep
  split at hstep
  · rename_i event events hdamage
    have hrest : ({ w with damage := events } : CombatWorld).UnderWay := h.of_entities rfl
    split at hstep
    · rename_i target htarget
      split at hstep
      · exact hrest.handleHit (h _ target htarget) hstep
      · exact Option.some_inj.1 hstep ▸ hrest
    · exact Option.some_inj.1 hstep ▸ hrest
  · exact Option.some_inj.1 hstep ▸ h

theorem spawn (h : w.UnderWay) (entity : Entity) (combatant : Combatant) :
    (w.spawn entity combatant).UnderWay := by
  unfold CombatWorld.spawn
  split
  · exact h
  · refine h.of_either fun e combatant' hmem => ?_
    simp only [Function.update_apply] at hmem
    split at hmem
    · obtain rfl := Option.some_inj.1 hmem
      refine Or.inr ⟨States.underWay_fresh, fun queue hqueue => ?_⟩
      obtain ⟨-, -, rfl⟩ := Option.map_eq_some_iff.1 hqueue
      exact fun _ hmem => (by cases hmem)
    · exact Or.inl hmem

theorem despawn (h : w.UnderWay) (entity : Entity) : (w.despawn entity).UnderWay := by
  refine h.of_either fun e combatant hmem => Or.inl ?_
  simp only [CombatWorld.despawn, Function.update_apply] at hmem
  split at hmem
  · cases hmem
  · exact hmem

theorem command (h : w.UnderWay) (entity : Entity) (commands : List StateCommand) :
    (w.command entity commands).UnderWay := by
  refine h.of_either fun e combatant' hmem => ?_
  simp only [CombatWorld.command] at hmem
  split at hmem
  · obtain ⟨combatant, hcombatant, hmem⟩ := Option.bind_eq_some_iff.1 hmem
    obtain ⟨states, happly, rfl⟩ := Option.map_eq_some_iff.1 hmem
    have hunder := h e combatant hcombatant
    refine Or.inr ⟨underWay_applyAll hunder.current (fun command hcommand => ?_) happly, hunder.queued⟩
    have hstarts := (List.mem_filter.1 hcommand).2
    cases command with
    | insert change =>
        cases change with
        | action inner => cases hstarts
        | _ => trivial
    | _ => trivial
  · exact Or.inl hmem

theorem request (h : w.UnderWay) (entity : Entity) (change : StateChange) :
    (w.request entity change).UnderWay := by
  unfold CombatWorld.request
  split
  · exact h
  · rename_i hkind
    exact h.modify fun combatant _ hcombatant =>
      ⟨hcombatant.current, hcombatant.queued_append (queueUnderWay_new (StateChange.underWay_of_kind hkind))⟩

end CombatWorld.UnderWay

/-- Every step keeps the invariant. -/
theorem step_underWay {p : Profile} {data : CombatData} {step : CombatStep} {w w' : CombatWorld}
    (h : w.UnderWay) (hstep : CombatWorld.step p data step w = some w') : w'.UnderWay := by
  cases step with
  | enqueueAction entity near => exact h.enqueueAction hstep
  | updateAction entity near => exact h.updateAction hstep
  | action entity delta roll => exact h.actionOf hstep
  | handleDamage => exact h.handleDamage hstep
  | handleAction entity packet => exact Option.some_inj.1 hstep ▸ h.handleAction data entity packet
  | transition entity => exact Option.some_inj.1 hstep ▸ h.modify fun _ _ => Combatant.UnderWay.transition
  | attackPlayer entity source =>
      exact Option.some_inj.1 hstep ▸ h.modify_frame (fun _ => rfl) fun _ => rfl
  | spawn entity combatant => exact Option.some_inj.1 hstep ▸ h.spawn entity combatant
  | despawn entity => exact Option.some_inj.1 hstep ▸ h.despawn entity
  | equip entity weapon => exact Option.some_inj.1 hstep ▸ h.modify_frame (fun _ => rfl) fun _ => rfl
  | heal entity health invincible =>
      exact Option.some_inj.1 hstep ▸ h.modify_frame (fun _ => rfl) fun _ => rfl
  | command entity commands => exact Option.some_inj.1 hstep ▸ h.command entity commands
  | request entity change => exact Option.some_inj.1 hstep ▸ h.request entity change
  | collect lookup => exact Option.some_inj.1 hstep ▸ h.of_entities rfl

end Skrillax.Agents

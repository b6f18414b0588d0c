/-
**One state at a time.**

The systems of a tick read the components as they were at its beginning, and their commands are applied
one after the other at its end.  A transition replaces the state that it knows of, a movement that stops
replaces `Moving` by `Idle`, and an agent without any state becomes idle.  This goes wrong where two
systems replace the same state, where an action ends without a new state, and where an agent is in one of
the two states that the search for agents without a state does not look for.

Main definitions:

* `AgentInput`, `Agent.tick` — what a tick brings for an agent, and what it does;
* `AgentWorld`, `AgentWorld.tick` — the agents of the server;
* `States.Only`, `States.OneState`, `AgentWorld.KeepsStates` — exactly one state, and what a tick should
  keep;
* `Agent.Clean` — the ticks that keep it.

Main results:

* `Agent.tick_of_idle` … `Agent.tick_of_dead` — what a tick makes of each state;
* `Agent.keeps_iff` — one agent and one tick;
* `one_state_iff` — **in every run the agents keep exactly one state exactly if every tick is clean**.
-/

import Skrillax.Agents
import Skrillax.PartialAction

set_option relaxedAutoImplicit false
set_option autoImplicit false

namespace Skrillax.Agents

open PartialAction

/-! ### A tick -/

/-- What a tick brings for one agent.  Other systems may despawn it, at the end of the tick. -/
structure AgentInput where
  requests : List StateChange
  followed : TargetQuery
  arrived : Bool
  drop : TargetQuery
  despawned : Bool

namespace Agent

variable (delta : ℕ) (input : AgentInput) (agent : Agent)

/-- The queue when the transitions look at it. -/
def requested : List StateTransition := agent.queue ++ input.requests.map StateTransition.new

/-- The four transitions work on the queue one after the other. -/
def transitions (queue : List StateTransition) : List StateTransition × List StateCommand :=
  let fromIdle := transitionFromIdle agent.states queue
  let fromMoving := transitionFromMoving agent.states fromIdle.1
  let fromSitting := transitionFromSitting agent.states fromMoving.1
  let fromAttacking := transitionFromAttacking agent.states fromSitting.1
  (fromAttacking.1, fromIdle.2 ++ fromMoving.2 ++ fromSitting.2 ++ fromAttacking.2)

/-- The systems that carry the states out. -/
def execute : States × List StateCommand :=
  let stopped := updateTargetLocation input.followed agent.states ++ movement input.arrived agent.states
  let picked := pickup delta input.drop agent.isPlayer agent.states.pickup
  let acted := action delta agent.states.action
  let decayed := dead delta agent.states.dead
  ({ agent.states with pickup := picked.1, action := acted.1, dead := decayed.1 },
    stopped ++ picked.2 ++ acted.2 ++ decayed.2)

def tick : Option Agent :=
  let transitioned := agent.transitions (agent.requested input)
  let executed := agent.execute delta input
  if input.despawned then none
  else
    (applyAll (transitionToIdle agent.states ++ transitioned.2 ++ executed.2) executed.1).map fun states =>
      { agent with states := states, queue := transitioned.1 }

end Agent

/-- The agents of the server. -/
abbrev AgentWorld := Entity → Option Agent

/-- An agent that is spawned has no state yet.  A client that joins was there before as an entity, and
idle as every entity is. -/
structure SpawnedAgent where
  isPlayer : Bool
  idle : Bool

def SpawnedAgent.agent (spawned : SpawnedAgent) : Agent :=
  ⟨{ States.fresh with idle := spawned.idle }, [], spawned.isPlayer⟩

structure TickInput where
  delta : ℕ
  agents : Entity → AgentInput
  spawned : Entity → Option SpawnedAgent

namespace AgentWorld

def init : AgentWorld := fun _ => none

def tick (input : TickInput) (w : AgentWorld) : AgentWorld := fun entity =>
  match w entity with
  | some agent => agent.tick input.delta (input.agents entity)
  | none => (input.spawned entity).map SpawnedAgent.agent

end AgentWorld

/-! ### Exactly one state -/

namespace States

/-- The agent is in this state, and in no other one. -/
def Only (states : States) (kind : StateKind) : Prop := ∀ k, states.has k = decide (k = kind)

def OneState (states : States) : Prop := ∃ kind, states.Only kind

def NoState (states : States) : Prop := ∀ k, states.has k = false

def AtMostOne (states : States) : Prop := states.NoState ∨ states.OneState

end States

/-- One agent before and after a tick: exactly one state stays exactly one, and a dead agent does not get
another state. -/
structure Agent.Keeps (agent agent' : Agent) : Prop where
  one : agent.states.OneState → agent'.states.OneState
  dead : agent.states.has .dead = true → agent'.states.has .dead = true →
    ∀ kind, kind ≠ .dead → agent'.states.has kind = true → agent.states.has kind = true

def AgentWorld.KeepsStates (w : AgentWorld) (input : TickInput) : Prop :=
  ∀ entity agent agent', w entity = some agent → w.tick input entity = some agent' → agent.Keeps agent'

namespace Agent

/-- The agent is told to stop moving, since it arrived or lost what it followed. -/
def stops (input : AgentInput) (agent : Agent) : Bool :=
  !(updateTargetLocation input.followed agent.states).isEmpty ||
    !(movement input.arrived agent.states).isEmpty

def actionEnds (delta : ℕ) (agent : Agent) : Bool := !(action delta agent.states.action).2.isEmpty

def pickupEnds (delta : ℕ) (input : AgentInput) (agent : Agent) : Bool :=
  !(pickup delta input.drop agent.isPlayer agent.states.pickup).2.isEmpty

def decays (delta : ℕ) (agent : Agent) : Bool := !(dead delta agent.states.dead).2.isEmpty

/-- A tick is clean for an agent if the agent is despawned, or else
* it does not stop in the tick in which a transition takes it from `Moving` to some other state;
* its action does not end, or it dies in the same tick;
* what it picks up is done with in this tick;
* if it is dead, it decays in this tick. -/
structure CleanStates (delta : ℕ) (input : AgentInput) (agent : Agent) : Prop where
  moving : agent.states.has .moving = true → agent.stops input = true →
    ∀ transition, chosen (agent.requested input) = some transition →
      transition.data.kind = .idle ∨ transition.data.kind = .moving
  action : agent.states.has .action = true → agent.actionEnds delta = true →
    ∃ transition ∈ agent.requested input, transition.data.kind = .dead
  pickup : agent.states.has .pickup = true → agent.pickupEnds delta input = true
  dead : agent.states.has .dead = true → agent.decays delta = true

def Clean (delta : ℕ) (input : AgentInput) (agent : Agent) : Prop :=
  input.despawned = true ∨ agent.CleanStates delta input

end Agent

def AgentWorld.Clean (w : AgentWorld) (input : TickInput) : Prop :=
  ∀ entity agent, w entity = some agent → agent.Clean input.delta (input.agents entity)

/-! ### States -/

namespace States

theorem Only.oneState {states : States} {kind : StateKind} (h : states.Only kind) : states.OneState :=
  ⟨kind, h⟩

/-- With two states there is no single one. -/
theorem not_oneState_of_two {states : States} {a b : StateKind} (hne : a ≠ b) (ha : states.has a = true)
    (hb : states.has b = true) : ¬ states.OneState := by
  rintro ⟨kind, h⟩
  rw [h a, decide_eq_true_iff] at ha
  rw [h b, decide_eq_true_iff] at hb
  exact hne (ha.trans hb.symm)

theorem NoState.not_oneState {states : States} (h : states.NoState) : ¬ states.OneState := by
  rintro ⟨kind, hkind⟩
  have hhas := hkind kind
  rw [h kind, decide_eq_true rfl] at hhas
  cases hhas

end States

/-! ### What the systems leave -/

section Systems

variable {delta : ℕ} {input : AgentInput} {agent agent' : Agent}

/-- The one transition that looks at an agent in this state. -/
def transitionFrom : StateKind → List StateTransition → List StateTransition × List StateCommand
  | .idle => transitionToNewState .idle
  | .moving => transitionToNewState .moving
  | .sitting => transitionToNewState .sitting
  | .action => transitionToHigherState .action
  | .pickup => fun queue => (queue, [])
  | .dead => fun queue => (queue, [])

theorem transitions_of_only {kind : StateKind} (h : agent.states.Only kind) (queue : List StateTransition) :
    agent.transitions queue = transitionFrom kind queue := by
  unfold Agent.transitions transitionFromIdle transitionFromMoving transitionFromSitting
    transitionFromAttacking autoTransition
  simp only [h _]
  cases kind <;> simp [transitionFrom]

theorem transitionToIdle_of_only {states : States} {kind : StateKind} (h : states.Only kind) :
    transitionToIdle states = if kind = .pickup ∨ kind = .dead then [.insert .idle] else [] := by
  unfold transitionToIdle
  simp only [h _]
  cases kind <;> simp

theorem transitionToIdle_of_noState {states : States} (h : states.NoState) :
    transitionToIdle states = [.insert .idle] := by
  simp [transitionToIdle, h _]

theorem updateTargetLocation_eq (target : TargetQuery) (states : States) :
    updateTargetLocation target states = [] ∨
      states.has .moving = true ∧ updateTargetLocation target states = stopMoving := by
  unfold updateTargetLocation
  split
  · rename_i hmoving
    have hhas : states.has .moving = true := by simp [States.has, hmoving]
    split
    · split
      · exact Or.inr ⟨hhas, rfl⟩
      · exact Or.inl rfl
    · exact Or.inr ⟨hhas, rfl⟩
    · exact Or.inl rfl
  · exact Or.inl rfl

theorem movement_eq (arrived : Bool) (states : States) :
    movement arrived states = [] ∨ states.has .moving = true ∧ movement arrived states = stopMoving := by
  cases hmoving : states.moving with
  | none => simp [movement, hmoving]
  | some goal => cases goal <;> cases arrived <;> simp [movement, hmoving, States.has]

theorem pickup_eq (delta : ℕ) (target : TargetQuery) (isPlayer : Bool) (inner : Option Pickup) :
    (pickup delta target isPlayer inner).1.isSome = inner.isSome ∧
      ((pickup delta target isPlayer inner).2 = [] ∨ inner.isSome = true ∧
        ((pickup delta target isPlayer inner).2 = [.remove .pickup, .insert .idle] ∨
          (pickup delta target isPlayer inner).2 = [.remove .pickup])) := by
  unfold pickup
  split
  · split
    · split
      · refine ⟨rfl, ?_⟩
        dsimp only
        split
        · exact Or.inr ⟨rfl, Or.inl rfl⟩
        · exact Or.inl rfl
      · split
        · exact ⟨rfl, Or.inl rfl⟩
        · exact ⟨rfl, Or.inr ⟨rfl, Or.inr rfl⟩⟩
        · exact ⟨rfl, Or.inr ⟨rfl, Or.inr rfl⟩⟩
    · exact ⟨rfl, Or.inl rfl⟩
  · exact ⟨rfl, Or.inl rfl⟩

theorem action_eq (delta : ℕ) (inner : Option Action) :
    (action delta inner).1.isSome = inner.isSome ∧
      ((action delta inner).2 = [] ∨ inner.isSome = true ∧ (action delta inner).2 = [.remove .action]) := by
  unfold action
  split
  · refine ⟨rfl, ?_⟩
    dsimp only
    split
    · exact Or.inr ⟨rfl, rfl⟩
    · exact Or.inl rfl
  · exact ⟨rfl, Or.inl rfl⟩

theorem dead_eq (delta : ℕ) (inner : Option Dead) :
    (dead delta inner).1.isSome = inner.isSome ∧
      ((dead delta inner).2 = [] ∨ inner.isSome = true ∧ (dead delta inner).2 = [.despawn]) := by
  unfold dead
  split
  · refine ⟨rfl, ?_⟩
    dsimp only
    split
    · exact Or.inr ⟨rfl, rfl⟩
    · exact Or.inl rfl
  · exact ⟨rfl, Or.inl rfl⟩

/-- The systems change the components that they read, but neither add nor remove one. -/
theorem has_execute (kind : StateKind) :
    (agent.execute delta input).1.has kind = agent.states.has kind := by
  cases kind with
  | pickup => exact (pickup_eq delta input.drop agent.isPlayer agent.states.pickup).1
  | action => exact (action_eq delta agent.states.action).1
  | dead => exact (dead_eq delta agent.states.dead).1
  | idle | moving | sitting => rfl

/-- All the commands of a tick. -/
def commands (delta : ℕ) (input : AgentInput) (agent : Agent) : List StateCommand :=
  transitionToIdle agent.states ++ (agent.transitions (agent.requested input)).2 ++
    (agent.execute delta input).2

theorem tick_eq_some (h : agent.tick delta input = some agent') :
    input.despawned = false ∧
      ∀ kind, agent'.states.has kind =
        leaves kind (commands delta input agent) (agent.states.has kind) := by
  unfold Agent.tick at h
  dsimp only at h
  split at h
  · cases h
  · rename_i hdespawned
    obtain ⟨states, hstates, rfl⟩ := Option.map_eq_some_iff.1 h
    refine ⟨by simpa using hdespawned, fun kind => ?_⟩
    rw [has_applyAll hstates kind, has_execute]
    rfl

/-- What stops the movement of an agent. -/
theorem stopped_eq :
    updateTargetLocation input.followed agent.states ++ movement input.arrived agent.states = [] ∧
        agent.stops input = false ∨
      (updateTargetLocation input.followed agent.states ++ movement input.arrived agent.states = stopMoving ∨
        updateTargetLocation input.followed agent.states ++ movement input.arrived agent.states =
          stopMoving ++ stopMoving) ∧ agent.stops input = true := by
  unfold Agent.stops
  rcases updateTargetLocation_eq input.followed agent.states with hu | ⟨-, hu⟩ <;>
    rcases movement_eq input.arrived agent.states with hm | ⟨-, hm⟩ <;>
    simp [hu, hm, stopMoving]

/-- What carries out a state, while there is no other one. -/
def executedIn (delta : ℕ) (input : AgentInput) (agent : Agent) : StateKind → List StateCommand
  | .moving => updateTargetLocation input.followed agent.states ++ movement input.arrived agent.states
  | .pickup => (pickup delta input.drop agent.isPlayer agent.states.pickup).2
  | .action => (action delta agent.states.action).2
  | .dead => (dead delta agent.states.dead).2
  | .idle => []
  | .sitting => []

theorem executed_of_not_moving {states : States} (h : states.has .moving = false) (target : TargetQuery)
    (arrived : Bool) : updateTargetLocation target states ++ movement arrived states = [] := by
  rw [(updateTargetLocation_eq target states).resolve_right (by simp [h]),
    (movement_eq arrived states).resolve_right (by simp [h]), List.append_nil]

theorem executed_of_not_pickup {states : States} (h : states.has .pickup = false) (target : TargetQuery)
    (isPlayer : Bool) : (pickup delta target isPlayer states.pickup).2 = [] := by
  have hnone : states.pickup.isSome = false := h
  exact (pickup_eq delta target isPlayer states.pickup).2.resolve_right (by simp [hnone])

theorem executed_of_not_action {states : States} (h : states.has .action = false) :
    (action delta states.action).2 = [] := by
  have hnone : states.action.isSome = false := h
  exact (action_eq delta states.action).2.resolve_right (by simp [hnone])

theorem executed_of_not_dead {states : States} (h : states.has .dead = false) :
    (dead delta states.dead).2 = [] := by
  have hnone : states.dead.isSome = false := h
  exact (dead_eq delta states.dead).2.resolve_right (by simp [hnone])

theorem execute_of_only {kind : StateKind} (h : agent.states.Only kind) :
    (agent.execute delta input).2 = executedIn delta input agent kind := by
  have hnot (k : StateKind) (hne : k ≠ kind) : agent.states.has k = false := by
    rw [h k, decide_eq_false hne]
  unfold Agent.execute
  dsimp only
  cases kind <;>
    simp (disch := simp [hnot]) [executedIn, executed_of_not_moving, executed_of_not_pickup,
      executed_of_not_action, executed_of_not_dead]

theorem execute_of_noState (h : agent.states.NoState) : (agent.execute delta input).2 = [] := by
  unfold Agent.execute
  dsimp only
  rw [executed_of_not_moving (h .moving), executed_of_not_pickup (h .pickup),
    executed_of_not_action (h .action), executed_of_not_dead (h .dead)]
  rfl

theorem commands_of_only {kind : StateKind} (h : agent.states.Only kind) :
    commands delta input agent = (if kind = .pickup ∨ kind = .dead then [.insert .idle] else []) ++
      (transitionFrom kind (agent.requested input)).2 ++ executedIn delta input agent kind := by
  unfold commands
  rw [transitionToIdle_of_only h, transitions_of_only h, execute_of_only h]

/-! ### What a tick makes of each state -/

/-- The states that the tick leaves an agent with, which had just one. -/
theorem has_tick {kind : StateKind} (h : agent.states.Only kind) (ht : agent.tick delta input = some agent')
    (k : StateKind) :
    agent'.states.has k = leaves k ((if kind = .pickup ∨ kind = .dead then [.insert .idle] else []) ++
      (transitionFrom kind (agent.requested input)).2 ++ executedIn delta input agent kind)
      (decide (k = kind)) := by
  rw [(tick_eq_some ht).2 k, commands_of_only h, h k]

/-- A transition replaces the state that it was made for, if nothing else is done. -/
theorem one_of_transition {kind : StateKind} {queue : List StateTransition} {states : States}
    (h : ∀ k, states.has k = leaves k (transitionToNewState kind queue).2 (decide (k = kind))) :
    states.OneState := by
  unfold transitionToNewState at h
  cases hchosen : chosen queue with
  | none =>
      rw [hchosen] at h
      exact ⟨kind, fun k => h k⟩
  | some transition =>
      rw [hchosen] at h
      refine ⟨transition.data.kind, fun k => ?_⟩
      rw [h k]
      cases kind <;> cases k <;> simp [StateTransition.replace, leaves, eq_comm]

theorem tick_of_idle (h : agent.states.Only .idle) (ht : agent.tick delta input = some agent') :
    agent'.states.OneState :=
  one_of_transition fun k => by simpa [transitionFrom, executedIn] using has_tick h ht k

theorem tick_of_sitting (h : agent.states.Only .sitting) (ht : agent.tick delta input = some agent') :
    agent'.states.OneState :=
  one_of_transition fun k => by simpa [transitionFrom, executedIn] using has_tick h ht k

theorem tick_of_moving (h : agent.states.Only .moving) (ht : agent.tick delta input = some agent') :
    agent'.states.OneState ↔ (agent.stops input = true →
      ∀ transition, chosen (agent.requested input) = some transition →
        transition.data.kind = .idle ∨ transition.data.kind = .moving) := by
  have hhas := has_tick h ht
  simp only [transitionFrom, executedIn, reduceCtorEq, or_self, if_false, List.nil_append] at hhas
  rcases stopped_eq with ⟨hnone, hstops⟩ | ⟨hstopped, hstops⟩
  · rw [hnone] at hhas
    simp only [List.append_nil] at hhas
    exact ⟨fun _ hstop => by simp [hstops] at hstop, fun _ => one_of_transition hhas⟩
  · -- an agent that was stopped is idle, next to what the transition made of it
    cases hchosen : chosen (agent.requested input) with
    | none =>
        refine ⟨fun _ _ _ hsome => (by cases hsome), fun _ => ⟨.idle, fun k => ?_⟩⟩
        rw [hhas k]
        rcases hstopped with hstopped | hstopped <;> rw [hstopped] <;>
          cases k <;> simp [transitionToNewState, hchosen, stopMoving, leaves]
    | some transition =>
        have hstates : ∀ k, agent'.states.has k =
            (decide (k = .idle) || decide (k ≠ .moving) && decide (k = transition.data.kind)) := by
          intro k
          rw [hhas k]
          rcases hstopped with hstopped | hstopped <;> rw [hstopped] <;>
            cases k <;>
              simp [transitionToNewState, hchosen, StateTransition.replace, stopMoving, leaves, eq_comm]
        constructor
        · intro hone _ t ht
          obtain rfl := Option.some_inj.1 ht
          by_contra hne
          obtain ⟨hidle, hmoving⟩ := not_or.1 hne
          refine States.not_oneState_of_two (Ne.symm hidle) ?_ ?_ hone
          · rw [hstates]
            rfl
          · rw [hstates, decide_eq_true hmoving, decide_eq_true rfl]
            simp
        · intro hclean
          refine ⟨.idle, fun k => ?_⟩
          rw [hstates]
          rcases hclean hstops transition rfl with hkind | hkind <;> rw [hkind] <;> cases k <;> rfl

theorem tick_of_action (h : agent.states.Only .action) (ht : agent.tick delta input = some agent') :
    agent'.states.OneState ↔ (agent.actionEnds delta = true →
      ∃ transition ∈ agent.requested input, transition.data.kind = .dead) := by
  have hhas := has_tick h ht
  simp only [transitionFrom, executedIn, reduceCtorEq, or_self, if_false, List.nil_append] at hhas
  have hurgent (transition : StateTransition) :
      StateKind.order .action < transition.priority ↔ transition.data.kind = .dead := by
    rw [transition.consistent]
    cases transition.data.kind <;> simp [StateKind.order]
  cases hchosen : chosen ((agent.requested input).filter fun transition =>
      decide (StateKind.order .action < transition.priority)) with
  | none =>
      have hnone : ¬ ∃ transition ∈ agent.requested input, transition.data.kind = .dead := by
        rintro ⟨transition, hmem, hdead⟩
        have hnil := List.filter_eq_nil_iff.1 (chosen_eq_none_iff.1 hchosen) transition hmem
        exact hnil (decide_eq_true ((hurgent transition).2 hdead))
      rcases (action_eq delta agent.states.action).2 with hacted | ⟨-, hacted⟩
      · refine ⟨fun _ hends => (by simp [Agent.actionEnds, hacted] at hends), fun _ => ⟨.action, fun k => ?_⟩⟩
        rw [hhas k, hacted]
        simp [transitionToHigherState, hchosen, leaves]
      · refine ⟨fun hone => absurd hone (States.NoState.not_oneState fun k => ?_), fun hclean => ?_⟩
        · rw [hhas k, hacted]
          cases k <;> simp [transitionToHigherState, hchosen, leaves]
        · exact absurd (hclean (by simp [Agent.actionEnds, hacted])) hnone
  | some transition =>
      obtain ⟨hmem, horder⟩ := List.mem_filter.1 (mem_of_chosen hchosen)
      have hdead : transition.data.kind = .dead := (hurgent transition).1 (of_decide_eq_true horder)
      refine ⟨fun _ _ => ⟨transition, hmem, hdead⟩, fun _ => ⟨.dead, fun k => ?_⟩⟩
      rw [hhas k]
      rcases (action_eq delta agent.states.action).2 with hacted | ⟨-, hacted⟩ <;> rw [hacted] <;>
        cases k <;> simp [transitionToHigherState, hchosen, StateTransition.replace, hdead, leaves]

theorem tick_of_pickup (h : agent.states.Only .pickup) (ht : agent.tick delta input = some agent') :
    agent'.states.OneState ↔ agent.pickupEnds delta input = true := by
  have hhas := has_tick h ht
  simp only [transitionFrom, executedIn, true_or, if_true, List.append_nil, List.cons_append,
    List.nil_append] at hhas
  rcases (pickup_eq delta input.drop agent.isPlayer agent.states.pickup).2 with hnone | ⟨-, hpicked⟩
  · refine ⟨fun hone => absurd hone ?_, fun hends => (by simp [Agent.pickupEnds, hnone] at hends)⟩
    refine States.not_oneState_of_two (a := .idle) (b := .pickup) (by simp) ?_ ?_ <;>
      rw [hhas, hnone] <;> simp [leaves]
  · refine ⟨fun _ => ?_, fun _ => ⟨.idle, fun k => ?_⟩⟩
    · rcases hpicked with hpicked | hpicked <;> simp [Agent.pickupEnds, hpicked]
    · rw [hhas k]
      rcases hpicked with hpicked | hpicked <;> rw [hpicked] <;> cases k <;> simp [leaves]

/-- A dead agent that is still there after a tick has become idle as well. -/
theorem tick_of_dead (h : agent.states.Only .dead) (ht : agent.tick delta input = some agent') :
    agent'.states.has .idle = true ∧ agent'.states.has .dead = true ∧ agent.decays delta = false := by
  have hhas := has_tick h ht
  simp only [transitionFrom, executedIn, or_true, if_true, List.append_nil, List.cons_append,
    List.nil_append] at hhas
  rcases (dead_eq delta agent.states.dead).2 with hnone | ⟨hdead, hdecayed⟩
  · rw [hhas, hhas, hnone]
    exact ⟨rfl, rfl, by simp [Agent.decays, hnone]⟩
  · -- the command despawns it
    exfalso
    unfold Agent.tick at ht
    dsimp only at ht
    split at ht
    · cases ht
    · rw [transitionToIdle_of_only h, transitions_of_only h, execute_of_only h] at ht
      simp [transitionFrom, executedIn, hdecayed, applyAll] at ht

theorem tick_of_noState (h : agent.states.NoState) (ht : agent.tick delta input = some agent') :
    agent'.states.OneState := by
  have htransitions (queue : List StateTransition) : (agent.transitions queue).2 = [] := by
    simp [Agent.transitions, transitionFromIdle, transitionFromMoving, transitionFromSitting,
      transitionFromAttacking, autoTransition, h _]
  refine ⟨.idle, fun k => ?_⟩
  rw [(tick_eq_some ht).2 k, commands, transitionToIdle_of_noState h, htransitions,
    execute_of_noState h, h k]
  cases k <;> rfl

/-! ### One tick -/

theorem cleanStates_of_noState (h : agent.states.NoState) : agent.CleanStates delta input where
  moving hhas := by simp [h _] at hhas
  action hhas := by simp [h _] at hhas
  pickup hhas := by simp [h _] at hhas
  dead hhas := by simp [h _] at hhas

/-- What it means to be clean for an agent in a single state. -/
def cleanIn (delta : ℕ) (input : AgentInput) (agent : Agent) : StateKind → Prop
  | .moving => agent.stops input = true →
      ∀ transition, chosen (agent.requested input) = some transition →
        transition.data.kind = .idle ∨ transition.data.kind = .moving
  | .action => agent.actionEnds delta = true →
      ∃ transition ∈ agent.requested input, transition.data.kind = .dead
  | .pickup => agent.pickupEnds delta input = true
  | .dead => agent.decays delta = true
  | .idle => True
  | .sitting => True

theorem cleanStates_iff {kind : StateKind} (h : agent.states.Only kind) :
    agent.CleanStates delta input ↔ cleanIn delta input agent kind := by
  have hhas : agent.states.has kind = true := by rw [h kind, decide_eq_true rfl]
  constructor
  · intro hclean
    cases kind with
    | idle => trivial
    | sitting => trivial
    | moving => exact hclean.moving hhas
    | action => exact hclean.action hhas
    | pickup => exact hclean.pickup hhas
    | dead => exact hclean.dead hhas
  · intro hclean
    have honly (k : StateKind) (hk : agent.states.has k = true) : cleanIn delta input agent k := by
      rw [h k, decide_eq_true_iff] at hk
      rwa [hk]
    exact ⟨honly .moving, honly .action, honly .pickup, honly .dead⟩

theorem keeps_of_not_dead (h : agent.states.has .dead = false) :
    agent.Keeps agent' ↔ (agent.states.OneState → agent'.states.OneState) :=
  ⟨Agent.Keeps.one, fun hone => ⟨hone, fun hdead => (by rw [h] at hdead; cases hdead)⟩⟩

/-- **One agent and one tick.** -/
theorem Agent.keeps_iff (h : agent.states.AtMostOne) (ht : agent.tick delta input = some agent') :
    agent.Keeps agent' ↔ agent.Clean delta input := by
  have hdespawned : ¬ input.despawned = true := by simp [(tick_eq_some ht).1]
  unfold Agent.Clean
  rw [or_iff_right hdespawned]
  rcases h with hnone | ⟨kind, hkind⟩
  · rw [keeps_of_not_dead (hnone .dead)]
    exact ⟨fun _ => cleanStates_of_noState hnone, fun _ hone => absurd hone hnone.not_oneState⟩
  · rw [cleanStates_iff hkind]
    have hkeeps (hne : kind ≠ .dead) : agent.Keeps agent' ↔ agent'.states.OneState := by
      rw [keeps_of_not_dead (by rw [hkind .dead, decide_eq_false (Ne.symm hne)])]
      exact ⟨fun hone => hone hkind.oneState, fun hone _ => hone⟩
    cases kind with
    | idle => exact (hkeeps (by simp)).trans ⟨fun _ => trivial, fun _ => tick_of_idle hkind ht⟩
    | sitting => exact (hkeeps (by simp)).trans ⟨fun _ => trivial, fun _ => tick_of_sitting hkind ht⟩
    | moving => exact (hkeeps (by simp)).trans (tick_of_moving hkind ht)
    | action => exact (hkeeps (by simp)).trans (tick_of_action hkind ht)
    | pickup => exact (hkeeps (by simp)).trans (tick_of_pickup hkind ht)
    | dead =>
        obtain ⟨hidle, hdead, hdecays⟩ := tick_of_dead hkind ht
        constructor
        · intro hkeeps
          have hbefore := hkeeps.dead (hkind .dead) hdead .idle (by simp) hidle
          rw [hkind .idle] at hbefore
          cases hbefore
        · intro hclean
          exact absurd (hdecays.symm.trans hclean) (by simp)

theorem despawn_notMem_transitionFrom (kind : StateKind) (queue : List StateTransition) :
    StateCommand.despawn ∉ (transitionFrom kind queue).2 := by
  cases kind <;> simp only [transitionFrom, transitionToNewState, transitionToHigherState] <;>
    first
    | exact List.not_mem_nil
    | split <;> simp [StateTransition.replace]

/-- An agent that is despawned in a tick was clean in it. -/
theorem clean_of_tick_none (h : agent.states.AtMostOne) (ht : agent.tick delta input = none) :
    agent.Clean delta input := by
  by_cases hdespawned : input.despawned = true
  · exact Or.inl hdespawned
  · refine Or.inr ?_
    rcases h with hnone | ⟨kind, hkind⟩
    · exact cleanStates_of_noState hnone
    · have hmem : StateCommand.despawn ∈ commands delta input agent := by
        unfold Agent.tick at ht
        dsimp only at ht
        rw [if_neg hdespawned, Option.map_eq_none_iff, applyAll_eq_none_iff] at ht
        exact ht
      rw [commands_of_only hkind, List.append_assoc, List.mem_append, List.mem_append] at hmem
      have hexecuted : StateCommand.despawn ∈ executedIn delta input agent kind := by
        rcases hmem with hmem | hmem | hmem
        · split at hmem <;> simp at hmem
        · exact absurd hmem (despawn_notMem_transitionFrom kind _)
        · exact hmem
      rw [cleanStates_iff hkind]
      cases kind with
      | idle | sitting => trivial
      | moving =>
          rcases updateTargetLocation_eq input.followed agent.states with hu | ⟨-, hu⟩ <;>
            rcases movement_eq input.arrived agent.states with hm | ⟨-, hm⟩ <;>
            simp [executedIn, hu, hm, stopMoving] at hexecuted
      | action =>
          rcases (action_eq delta agent.states.action).2 with hacted | ⟨-, hacted⟩ <;>
            simp [executedIn, hacted] at hexecuted
      | pickup =>
          rcases (pickup_eq delta input.drop agent.isPlayer agent.states.pickup).2 with
            hpicked | ⟨-, hpicked | hpicked⟩ <;> simp [executedIn, hpicked] at hexecuted
      | dead =>
          have hne : (dead delta agent.states.dead).2 ≠ [] := List.ne_nil_of_mem hexecuted
          simpa [cleanIn, Agent.decays] using hne

end Systems

/-! ### Runs -/

theorem SpawnedAgent.atMostOne (spawned : SpawnedAgent) : spawned.agent.states.AtMostOne := by
  obtain ⟨isPlayer, idle⟩ := spawned
  cases idle with
  | false => exact Or.inl States.has_fresh
  | true => exact Or.inr ⟨.idle, fun kind => by cases kind <;> rfl⟩

namespace AgentWorld

/-- No agent has two states. -/
def Exclusive (w : AgentWorld) : Prop := ∀ entity agent, w entity = some agent → agent.states.AtMostOne

/-- The step relation of the run: a tick never fails. -/
def step (input : TickInput) (w : AgentWorld) : Option AgentWorld := some (w.tick input)

theorem tick_of_some {w : AgentWorld} {input : TickInput} {entity : Entity} {agent : Agent}
    (h : w entity = some agent) :
    w.tick input entity = agent.tick input.delta (input.agents entity) := by
  unfold tick
  rw [h]

/-- **One tick of the server.** -/
theorem keepsStates_iff {w : AgentWorld} (h : w.Exclusive) (input : TickInput) :
    w.KeepsStates input ↔ w.Clean input := by
  constructor
  · intro hkeeps entity agent hagent
    have hone := h entity agent hagent
    cases htick : agent.tick input.delta (input.agents entity) with
    | none => exact clean_of_tick_none hone htick
    | some agent' =>
        exact (Agent.keeps_iff hone htick).1
          (hkeeps entity agent agent' hagent ((tick_of_some hagent).trans htick))
  · intro hclean entity agent agent' hagent htick
    rw [tick_of_some hagent] at htick
    exact (Agent.keeps_iff (h entity agent hagent) htick).2 (hclean entity agent hagent)

theorem Exclusive.tick {w : AgentWorld} (h : w.Exclusive) {input : TickInput} (hkeeps : w.KeepsStates input) :
    (w.tick input).Exclusive := by
  intro entity agent' hagent'
  cases hagent : w entity with
  | none =>
      unfold AgentWorld.tick at hagent'
      rw [hagent] at hagent'
      obtain ⟨spawned, -, rfl⟩ := Option.map_eq_some_iff.1 hagent'
      exact spawned.atMostOne
  | some agent =>
      refine Or.inr ?_
      rcases h entity agent hagent with hnone | hone
      · rw [tick_of_some hagent] at hagent'
        exact tick_of_noState hnone hagent'
      · exact (hkeeps entity agent agent' hagent hagent').one hone

/-- Along a run that starts without two states anywhere, every tick keeps the states exactly if every
tick is clean. -/
theorem keeps_run_iff (inputs : List TickInput) : ∀ {w : AgentWorld}, w.Exclusive →
    (AllSteps step KeepsStates inputs w ↔ AllSteps step Clean inputs w) := by
  induction inputs with
  | nil => exact fun _ => Iff.rfl
  | cons input inputs ih =>
      intro w h
      constructor
      · intro hkeeps t ht
        obtain ⟨hinput, hrest⟩ := hkeeps t ht
        obtain rfl := Option.some_inj.1 ht
        exact ⟨(keepsStates_iff h input).1 hinput, (ih (h.tick hinput)).1 hrest⟩
      · intro hclean t ht
        obtain ⟨hinput, hrest⟩ := hclean t ht
        obtain rfl := Option.some_inj.1 ht
        have hkeeps := (keepsStates_iff h input).2 hinput
        exact ⟨hkeeps, (ih (h.tick hkeeps)).2 hrest⟩

end AgentWorld

/-- **In every run of the server the agents keep exactly one state, and the dead stay dead, exactly if
every tick is clean.** -/
theorem one_state_iff (inputs : List TickInput) :
    AllSteps AgentWorld.step AgentWorld.KeepsStates inputs AgentWorld.init ↔
      AllSteps AgentWorld.step AgentWorld.Clean inputs AgentWorld.init :=
  AgentWorld.keeps_run_iff inputs fun _ _ h => (by cases h)

/-- A tick that lasts a tenth of a second and asks nothing of anyone but `requests` of the agent `1`. -/
def sampleTick (requests : List StateChange) : TickInput where
  delta := fromMillis 100
  agents entity := ⟨if entity = 1 then requests else [], .noSuchEntity, false, .noSuchEntity, false⟩
  spawned entity := if entity = 1 then some ⟨false, false⟩ else none

/-- A monster is spawned, becomes idle, dies, and is idle again in the tick after. -/
theorem dead_monster_idles : ¬ AllSteps AgentWorld.step AgentWorld.KeepsStates
    [sampleTick [], sampleTick [], sampleTick [.dead Dead.newMonster], sampleTick []] AgentWorld.init := by
  intro h
  obtain ⟨-, h⟩ := h _ rfl
  obtain ⟨-, h⟩ := h _ rfl
  obtain ⟨-, h⟩ := h _ rfl
  obtain ⟨hkeeps, -⟩ := h _ rfl
  have hidle := (hkeeps 1 _ _ rfl rfl).dead rfl rfl .idle (by decide) rfl
  exact absurd hidle (by decide)

end Skrillax.Agents

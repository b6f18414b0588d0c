/-
**Agents and their states.**

Monsters, players and the other agents are in states: idle, moving, acting, sitting, picking something up
or dead.  Every state is a component of its own, and nothing but the systems keeps an agent from having
two of them.  The systems do not add and remove components themselves: they leave commands, which are
applied when all systems of the schedule have run.  What asks for a change of state puts it in a queue,
from which a transition picks the most urgent one.

Everything here is about a single agent: its components, and what one iteration of each system does for
it.  Positions are floating-point numbers and are left out, so that what is computed from them (whether
a movement has arrived, whether a target is too far away) is given.

Main definitions:

* `Timer`, `RefSkillData`, `Action`, `Dead`, `Agents.Pickup`, `MovementGoal` — what the states carry;
* `Action.advance` — the progress of an action;
* `States`, `StateChange`, `StateCommand`, `applyAll` — the components of an agent and the commands;
* `StateTransition`, `transitionToNewState`, `transitionToHigherState` — the queue;
* `transitionToIdle` … `transitionFromAttacking`, `updateTargetLocation`, `movement`, `pickup`, `dead` —
  the systems.

Main results:

* `has_applyAll`, `applyAll_eq_none_iff` — the states after a list of commands;
* `chosen_eq_none_iff`, `mem_of_chosen` — what a transition picks.
-/

import Skrillax.Pickup

set_option relaxedAutoImplicit false
set_option autoImplicit false

namespace Skrillax.Agents

/-! ### Timers -/

/-- A timer in the mode `Once`; times are in nanoseconds. -/
structure Timer where
  elapsed : ℕ
  duration : ℕ
  finished : Bool
  justFinished : Bool
  deriving DecidableEq, Repr

def fromMillis (ms : ℕ) : ℕ := ms * 1000000

def fromSecs (secs : ℕ) : ℕ := secs * 1000000000

namespace Timer

def once (duration : ℕ) : Timer := ⟨0, duration, false, false⟩

def tick (delta : ℕ) (timer : Timer) : Timer :=
  if timer.finished then { timer with justFinished := false }
  else if timer.duration ≤ timer.elapsed + delta then
    { timer with elapsed := timer.duration, finished := true, justFinished := true }
  else { timer with elapsed := timer.elapsed + delta, justFinished := false }

end Timer

/-! ### Skills and actions -/

structure SkillTimings where
  preparationTime : UInt32
  castTime : UInt32
  duration : Int32
  nextDelay : UInt32
  deriving DecidableEq, Repr

/-- The parameters of a skill; all that anyone looks for are attacks. -/
inductive SkillParam where
  | attack (kind phys min max mag : UInt32)
  | other
  deriving DecidableEq, Repr

def SkillParam.isAttack : SkillParam → Bool
  | attack .. => true
  | other => false

structure RefSkillData where
  refId : UInt32
  timings : SkillTimings
  params : List SkillParam
  deriving DecidableEq, Repr

inductive ActionTarget where
  | none
  | own
  | entity (entity : Entity)
  | location
  deriving DecidableEq, Repr

inductive ActionProgressState where
  | preparation
  | casting
  | execution
  | teardown
  deriving DecidableEq, Repr

namespace ActionProgressState

def next : ActionProgressState → Option ActionProgressState
  | preparation => some casting
  | casting => some execution
  | execution => some teardown
  | teardown => none

def getTimeFor (state : ActionProgressState) (skill : RefSkillData) : Option Int32 :=
  let value := match state with
    | preparation => skill.timings.preparationTime.toInt32
    | casting => skill.timings.castTime.toInt32
    | execution => skill.timings.duration
    | teardown => skill.timings.nextDelay.toInt32
  if 0 < value then some value else none

end ActionProgressState

structure Action where
  skill : RefSkillData
  target : ActionTarget
  state : ActionProgressState
  progress : Timer
  deriving DecidableEq, Repr

structure ActionDescription where
  skill : RefSkillData
  target : ActionTarget
  deriving DecidableEq, Repr

/-- What the timer of an action did. -/
inductive Progress where
  | waiting
  | entered (state : ActionProgressState)
  | finished
  deriving DecidableEq, Repr

namespace Action

def ofDescription (value : ActionDescription) : Action where
  skill := value.skill
  target := value.target
  state := .preparation
  progress := Timer.once (fromMillis value.skill.timings.preparationTime.toNat)

def advance (delta : ℕ) (action : Action) : Action × Progress :=
  let progress := action.progress.tick delta
  if progress.justFinished then
    match action.state.next with
    | some next =>
        let time := (next.getTimeFor action.skill).getD 0
        ({ action with state := next, progress := Timer.once (fromMillis time.toInt.toNat) }, .entered next)
    | none => ({ action with progress := progress }, .finished)
  else ({ action with progress := progress }, .waiting)

end Action

/-! ### States -/

inductive MovementGoal where
  | location
  | direction
  | entity (target : Entity)
  deriving DecidableEq, Repr

structure Pickup where
  target : Entity
  cooldown : Option Timer
  deriving DecidableEq, Repr

structure Dead where
  despawn : Option Timer
  deriving DecidableEq, Repr

namespace Dead

def newPlayer : Dead := ⟨none⟩

def newMonster : Dead := ⟨some (Timer.once (fromSecs 5))⟩

def shouldDespawn (delta : ℕ) (dead : Dead) : Dead × Bool :=
  match dead.despawn with
  | some timer => (⟨some (timer.tick delta)⟩, (timer.tick delta).justFinished)
  | none => (dead, false)

end Dead

inductive StateKind where
  | idle
  | moving
  | action
  | sitting
  | pickup
  | dead
  deriving DecidableEq, Repr

inductive StateChange where
  | idle
  | sitting (duration : ℕ)
  | moving (goal : MovementGoal)
  | action (inner : Action)
  | pickup (inner : Pickup)
  | dead (inner : Dead)
  deriving DecidableEq, Repr

def StateChange.kind : StateChange → StateKind
  | idle => .idle
  | sitting _ => .sitting
  | moving _ => .moving
  | action _ => .action
  | pickup _ => .pickup
  | dead _ => .dead

@[simp] theorem StateChange.kind_idle : StateChange.idle.kind = .idle := rfl

/-- The state components of an entity. -/
structure States where
  idle : Bool
  moving : Option MovementGoal
  action : Option Action
  sitting : Option ℕ
  pickup : Option Pickup
  dead : Option Dead
  deriving DecidableEq, Repr

namespace States

/-- An entity that was just spawned. -/
def fresh : States := ⟨false, none, none, none, none, none⟩

def has (states : States) : StateKind → Bool
  | .idle => states.idle
  | .moving => states.moving.isSome
  | .action => states.action.isSome
  | .sitting => states.sitting.isSome
  | .pickup => states.pickup.isSome
  | .dead => states.dead.isSome

def insert (states : States) : StateChange → States
  | .idle => { states with idle := true }
  | .sitting duration => { states with sitting := some duration }
  | .moving goal => { states with moving := some goal }
  | .action inner => { states with action := some inner }
  | .pickup inner => { states with pickup := some inner }
  | .dead inner => { states with dead := some inner }

def remove (states : States) : StateKind → States
  | .idle => { states with idle := false }
  | .sitting => { states with sitting := none }
  | .moving => { states with moving := none }
  | .action => { states with action := none }
  | .pickup => { states with pickup := none }
  | .dead => { states with dead := none }

@[simp] theorem has_fresh (kind : StateKind) : fresh.has kind = false := by
  cases kind <;> rfl

@[simp] theorem has_insert (states : States) (change : StateChange) (kind : StateKind) :
    (states.insert change).has kind = (decide (change.kind = kind) || states.has kind) := by
  cases change <;> cases kind <;> simp [insert, has, StateChange.kind]

@[simp] theorem has_remove (states : States) (removed kind : StateKind) :
    (states.remove removed).has kind = (decide (removed ≠ kind) && states.has kind) := by
  cases removed <;> cases kind <;> simp [remove, has]

end States

/-! ### Commands -/

/-- The commands that the systems leave for an entity. -/
inductive StateCommand where
  | insert (change : StateChange)
  | remove (kind : StateKind)
  | despawn
  deriving DecidableEq, Repr

/-- An entity that is despawned has no components any more. -/
def applyAll : List StateCommand → States → Option States
  | [], states => some states
  | .insert change :: commands, states => applyAll commands (states.insert change)
  | .remove kind :: commands, states => applyAll commands (states.remove kind)
  | .despawn :: _, _ => none

/-- Whether the commands leave the state behind, if the entity had it before or had not. -/
def leaves (kind : StateKind) : List StateCommand → Bool → Bool
  | [], before => before
  | .insert change :: commands, before => leaves kind commands (decide (change.kind = kind) || before)
  | .remove removed :: commands, before => leaves kind commands (decide (removed ≠ kind) && before)
  | .despawn :: _, _ => false

theorem has_applyAll {commands : List StateCommand} {states states' : States}
    (h : applyAll commands states = some states') (kind : StateKind) :
    states'.has kind = leaves kind commands (states.has kind) := by
  induction commands generalizing states with
  | nil =>
      rw [applyAll, Option.some_inj] at h
      rw [leaves, h]
  | cons command commands ih =>
      cases command with
      | insert change =>
          rw [leaves, ih h, States.has_insert]
      | remove removed =>
          rw [leaves, ih h, States.has_remove]
      | despawn => cases h

theorem applyAll_eq_none_iff {commands : List StateCommand} {states : States} :
    applyAll commands states = none ↔ .despawn ∈ commands := by
  induction commands generalizing states with
  | nil => simp [applyAll]
  | cons command commands ih =>
      cases command with
      | insert change => simp [applyAll, ih]
      | remove removed => simp [applyAll, ih]
      | despawn => simp [applyAll]

/-! ### Transitions -/

def StateKind.order : StateKind → ℕ
  | idle => 0
  | moving => 1
  | action => 2
  | sitting => 1
  | pickup => 2
  | dead => 3

/-- Nothing but `new` makes a transition. -/
structure StateTransition where
  data : StateChange
  priority : ℕ
  consistent : priority = data.kind.order
  deriving DecidableEq

namespace StateTransition

def new (component : StateChange) : StateTransition := ⟨component, component.kind.order, rfl⟩

def replace (transition : StateTransition) (kind : StateKind) : List StateCommand :=
  [.remove kind, .insert transition.data]

end StateTransition

/-- The first of the most urgent transitions: the sort is stable. -/
def chosen (queue : List StateTransition) : Option StateTransition :=
  (queue.insertionSort fun a b => b.priority ≤ a.priority).head?

theorem chosen_eq_none_iff {queue : List StateTransition} : chosen queue = none ↔ queue = [] := by
  rw [chosen, List.head?_eq_none_iff, ← List.length_eq_zero_iff, List.length_insertionSort,
    List.length_eq_zero_iff]

theorem mem_of_chosen {queue : List StateTransition} {transition : StateTransition}
    (h : chosen queue = some transition) : transition ∈ queue :=
  (List.mem_insertionSort _).1 (List.mem_of_head? h)

/-- The transition drains the queue, whatever it picks. -/
def transitionToNewState (kind : StateKind) (queue : List StateTransition) :
    List StateTransition × List StateCommand :=
  match chosen queue with
  | some transition => ([], transition.replace kind)
  | none => (queue, [])

def transitionToHigherState (kind : StateKind) (queue : List StateTransition) :
    List StateTransition × List StateCommand :=
  match chosen (queue.filter fun transition => decide (kind.order < transition.priority)) with
  | some transition => ([], transition.replace kind)
  | none => ([], [])

/-! ### The systems -/

structure Agent where
  states : States
  queue : List StateTransition
  /-- It has a client, an inventory and a gold pouch. -/
  isPlayer : Bool
  deriving DecidableEq

/-- How the look-up of the entity that is followed, or of the item that is picked up, ends. -/
inductive TargetQuery where
  | found (tooFar : Bool)
  | noSuchEntity
  | otherError
  deriving DecidableEq, Repr

def transitionToIdle (states : States) : List StateCommand :=
  if !states.has .idle && !states.has .moving && !states.has .action && !states.has .sitting then
    [.insert .idle]
  else []

/-- The transitions from `Idle`, `Sitting` and `Moving` are generated by one macro. -/
def autoTransition (kind : StateKind) (states : States) (queue : List StateTransition) :
    List StateTransition × List StateCommand :=
  if states.has kind then transitionToNewState kind queue else (queue, [])

def transitionFromIdle : States → List StateTransition → List StateTransition × List StateCommand :=
  autoTransition .idle

def transitionFromSitting : States → List StateTransition → List StateTransition × List StateCommand :=
  autoTransition .sitting

def transitionFromMoving : States → List StateTransition → List StateTransition × List StateCommand :=
  autoTransition .moving

def transitionFromAttacking (states : States) (queue : List StateTransition) :
    List StateTransition × List StateCommand :=
  if states.has .action then transitionToHigherState .action queue else (queue, [])

def stopMoving : List StateCommand := [.remove .moving, .insert .idle]

def updateTargetLocation (target : TargetQuery) (states : States) : List StateCommand :=
  match states.moving with
  | some (.entity _) =>
      match target with
      | .found tooFar => if tooFar then stopMoving else []
      | .noSuchEntity => stopMoving
      | .otherError => []
  | _ => []

/-- `arrived` is what `get_next_step` finds out about a target location. -/
def movement (arrived : Bool) (states : States) : List StateCommand :=
  match states.moving with
  | some .location => if arrived then stopMoving else []
  | some .direction => []
  | some (.entity _) => if arrived then stopMoving else []
  | none => []

/-- What is found is put in the inventory, which has nothing to do with the state. -/
def pickup (delta : ℕ) (target : TargetQuery) (isPlayer : Bool) :
    Option Pickup → Option Pickup × List StateCommand
  | some inner =>
      if isPlayer then
        match inner.cooldown with
        | some timer =>
            (some { inner with cooldown := some (timer.tick delta) },
              if (timer.tick delta).justFinished then [.remove .pickup, .insert .idle] else [])
        | none =>
            match target with
            | .found _ => (some { inner with cooldown := some (Timer.once (fromSecs 1)) }, [])
            | .noSuchEntity => (some inner, [.remove .pickup])
            | .otherError => (some inner, [.remove .pickup])
      else (some inner, [])
  | none => (none, [])

/-- The part of the system that concerns the state; what happens on execution is left out. -/
def action (delta : ℕ) : Option Action → Option Action × List StateCommand
  | some inner =>
      (some (inner.advance delta).1, if (inner.advance delta).2 = .finished then [.remove .action] else [])
  | none => (none, [])

def dead (delta : ℕ) : Option Dead → Option Dead × List StateCommand
  | some inner =>
      (some (inner.shouldDespawn delta).1, if (inner.shouldDespawn delta).2 then [.despawn] else [])
  | none => (none, [])

end Skrillax.Agents

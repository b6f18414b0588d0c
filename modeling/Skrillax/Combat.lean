/-
**Actions.**

A client asks for an attack or a skill; the request becomes a goal of its player.  As long as the player is
idle or walks to its target, the goal is looked at again and again, until the target is near enough and an
action is put in the queue of transitions.  The action goes through its phases with a timer, and on
execution it sends a damage event, which is handled by yet another system.  Each of these looks up the
skill, the weapon and the entities anew, and some of them take for granted that they find something.

A step of the model is one iteration of one system, or anything else that happens to an entity; they may
come in any order.  What a system leaves to be done by commands is done by its step.  Distances and the
attack power of weapons are computed with floating-point numbers, so they are parameters.

Main definitions:

* `PerformAction`, `handleAction` — the packet and the goal;
* `getAttackSkill`, `findAttackForPlayer`, `findAttackForMonster` — the basic attacks;
* `tryAttack`, `enqueueAction`, `updateAction` — from the goal to the queue;
* `transition` — from the queue to the state;
* `actionOf` — an iteration of the system `action`;
* `handleDamage` — an iteration of the system of that name;
* `CombatStep`, `CombatWorld.step` — what can happen; `none` is a panic.
-/

import Skrillax.AgentStates
import Skrillax.Bars
import Skrillax.EntityIds

set_option relaxedAutoImplicit false
set_option autoImplicit false

namespace Skrillax.Agents

open Rust (Profile)

/-! ### Packets -/

/-- The target of a packet; areas have coordinates, which nobody looks at. -/
inductive PacketTarget where
  | none
  | entity (uniqueId : UInt32)
  | area
  deriving DecidableEq, Repr

inductive DoActionType where
  | attack (target : PacketTarget)
  | pickupItem (target : PacketTarget)
  | useSkill (refId : UInt32) (target : PacketTarget)
  | cancelBuff (refId : UInt32) (target : PacketTarget)
  deriving DecidableEq, Repr

inductive PerformAction where
  | perform (action : DoActionType)
  | stop
  deriving DecidableEq, Repr

inductive PerformActionError where
  | completed
  | notLearned
  | invalidTarget
  | invalidWeapon
  deriving DecidableEq, Repr

inductive SkillPartDamage where
  | killingBlow (amount : UInt32)
  | default (amount : UInt32)
  deriving DecidableEq, Repr

inductive CombatPacket where
  /-- `PerformActionResponse`. -/
  | success
  | stop (error : PerformActionError)
  /-- `PerformActionUpdate`. -/
  | updateError (error : PerformActionError)
  | updateSuccess (skillId source target instanceId : UInt32) (damage : SkillPartDamage)
  deriving DecidableEq, Repr

/-! ### The data -/

structure RefCharacterData where
  refId : UInt32
  pickupRange : Option { range : UInt16 // range ≠ 0 }
  skills : List UInt32
  deriving DecidableEq, Repr

/-- The data files, by id, and the bounds of the damage of a weapon in the hand of a player. -/
structure CombatData where
  skills : UInt32 → Option RefSkillData
  characters : UInt32 → Option RefCharacterData
  attackPower : UInt16 → RefItemData → UInt32 × UInt32

/-! ### The world -/

inductive Goal where
  | attack (target : EntityReference)
  | executeSkill (target : EntityReference) (skill : RefSkillData)
  | pickUp (target : EntityReference)
  deriving DecidableEq

/-- The damage by every attacker. -/
abbrev DamageReceiver := UInt32 → Option UInt64

/-- The components of an entity, as far as the systems here look for them.  `strength` stands for the
component `Player`, `weapon` for the inventory, of which only this slot is looked at, and `body` for
`Health` and `DamageReceiver`. -/
structure Combatant where
  gameEntity : GameEntity
  client : Bool
  drop : Bool
  strength : Option UInt16
  weapon : Option (Option Item)
  mind : Option (Option Goal)
  queue : Option (List StateTransition)
  states : States
  body : Option (Health × DamageReceiver)
  invincible : Bool

/-- The instance is the number of the attack. -/
structure DamageReceiveEvent where
  source : EntityReference
  target : EntityReference
  skill : RefSkillData
  instanceId : UInt32
  amount : UInt32

structure EntityDeath where
  died : EntityReference
  killer : Option EntityReference

structure CombatWorld where
  entities : Entity → Option Combatant
  /-- `EntityLookup::get_entity_for_id`; the entity may be gone. -/
  lookup : UInt32 → Option Entity
  damage : List DamageReceiveEvent
  actionIdCounter : UInt32
  deaths : List EntityDeath
  sent : List (Entity × CombatPacket)

namespace CombatWorld

def init : CombatWorld := ⟨fun _ => none, fun _ => none, [], 0, [], []⟩

def modify (entity : Entity) (change : Combatant → Combatant) (w : CombatWorld) : CombatWorld :=
  { w with entities := fun e => if e = entity then (w.entities e).map change else w.entities e }

def send (entity : Entity) (packet : CombatPacket) (w : CombatWorld) : CombatWorld :=
  { w with sent := w.sent ++ [(entity, packet)] }

/-- The entity has a position and is not dead. -/
def targetable (w : CombatWorld) (entity : Entity) : Bool :=
  match w.entities entity with
  | some combatant => !combatant.states.has .dead
  | none => false

end CombatWorld

/-! ### From the packet to the goal -/

/-- The reference of a target that is looked up by its unique id. -/
def findTarget (w : CombatWorld) (uniqueId : UInt32) (onlyDrops : Bool) : Option EntityReference := do
  let entity ← w.lookup uniqueId
  let combatant ← w.entities entity
  if onlyDrops && !combatant.drop then none else some ⟨entity, combatant.gameEntity⟩

/-- What becomes of the goal; `none` if it is left as it is. -/
def goalOf (data : CombatData) (w : CombatWorld) :
    PerformAction → Except PerformActionError (Option (Option Goal))
  | .perform (.attack (.entity uniqueId)) =>
      match findTarget w uniqueId false with
      | some target => .ok (some (some (.attack target)))
      | none => .error .invalidTarget
  | .perform (.pickupItem (.entity uniqueId)) =>
      match findTarget w uniqueId true with
      | some target => .ok (some (some (.pickUp target)))
      | none => .error .invalidTarget
  | .perform (.useSkill refId (.entity uniqueId)) =>
      match findTarget w uniqueId false with
      | some target =>
          match data.skills refId with
          | some skill => .ok (some (some (.executeSkill target skill)))
          | none => .error .notLearned
      | none => .error .invalidTarget
  | .perform _ => .ok none
  | .stop => .ok (some none)

/-- The packet of a client. -/
def handleAction (data : CombatData) (entity : Entity) (packet : PerformAction) (w : CombatWorld) :
    CombatWorld :=
  match w.entities entity with
  | some combatant =>
      if combatant.client && combatant.mind.isSome then
        match goalOf data w packet with
        | .ok (some goal) => w.modify entity fun combatant => { combatant with mind := some goal }
        | .ok none => w
        | .error error => w.send entity (.stop error)
      else w
  | none => w

/-! ### Basic attacks -/

inductive AttackSkillError where
  | notAWeapon
  | skillNotFound
  | unknownWeapon
  deriving DecidableEq, Repr

def PUNCH_SKILL_ID : UInt32 := 1

/-- The basic attack with a kind of weapon. -/
def weaponSkillId : ObjectWeaponType → Option UInt32
  | .sword => some 2
  | .blade => some 2
  | .spear => some 40
  | .glavie => some 40
  | .bow => some 70
  | .oneHandSword => some 7127
  | .twoHandSword => some 7128
  | .axe => some 7129
  | .warlockStaff => some 9069
  | .staff => some 8454
  | .crossbow => some 7909
  | .dagger => some 7910
  | .harp => some 9606
  | .clericRod => some 9970
  | .none => none
  | .fortressHammer => none

def findSkill (data : CombatData) (id : UInt32) : Except AttackSkillError RefSkillData :=
  match data.skills id with
  | some skill => .ok skill
  | none => .error .skillNotFound

def getAttackSkill (data : CombatData) : Option Item → Except AttackSkillError RefSkillData
  | some weapon =>
      match ObjectType.fromTypeId weapon.reference.common.typeId with
      | some (.item (.equippable (.weapon weaponType))) =>
          match weaponSkillId weaponType with
          | some id => findSkill data id
          | none => .error .unknownWeapon
      | _ => .error .notAWeapon
  | none => findSkill data PUNCH_SKILL_ID

def findAttackForPlayer (data : CombatData) (weapon : Option Item) : Except AttackSkillError RefSkillData :=
  getAttackSkill data weapon

def findAttackForMonster (data : CombatData) (monster : GameEntity) : Option RefSkillData := do
  let character ← data.characters monster.refId
  let skill ← character.skills.head?
  data.skills skill

/-- The skill of a goal to attack; `none` is a panic. -/
def attackSkill (data : CombatData) (combatant : Combatant) : Option RefSkillData :=
  match combatant.weapon with
  | some weapon => (findAttackForPlayer data weapon).toOption
  | none => findAttackForMonster data combatant.gameEntity

/-! ### From the goal to the queue -/

/-- `near` says that the target is in the range of the attack.  There never is an error. -/
def tryAttack (near : Bool) (skill : RefSkillData) (target : EntityReference) :
    Except AttackSkillError StateChange :=
  if near then .ok (.action (Action.ofDescription ⟨skill, .entity target.entity⟩))
  else .ok (.moving .location)

def errorOf : AttackSkillError → PerformActionError
  | .notAWeapon => .invalidWeapon
  | .unknownWeapon => .invalidWeapon
  | .skillNotFound => .notLearned

/-- What comes of looking at a goal. -/
structure Pursuit where
  cancel : Bool
  request : Option StateChange
  reply : Option CombatPacket

/-- What both systems do about a target once they know the skill. -/
def pursue (w : CombatWorld) (near : Bool) (skill : RefSkillData) (target : EntityReference)
    (onMissing : Option StateChange) : Pursuit :=
  if w.targetable target.entity then
    match tryAttack near skill target with
    | .ok change => ⟨false, some change, some .success⟩
    | .error error => ⟨true, none, some (.stop (errorOf error))⟩
  else ⟨true, onMissing, none⟩

/-- An idle entity looks at its goal.  Picking up asks for the character data of the entity itself. -/
def enqueueGoal (data : CombatData) (w : CombatWorld) (near : Bool) (combatant : Combatant) :
    Goal → Option Pursuit
  | .pickUp target =>
      if w.targetable target.entity then
        match (data.characters combatant.gameEntity.refId).bind RefCharacterData.pickupRange with
        | some _ =>
            if near then some ⟨false, some (.pickup ⟨target.entity, none⟩), none⟩
            else some ⟨false, some (.moving .location), none⟩
        | none => some ⟨true, some .idle, none⟩
      else some ⟨true, some .idle, none⟩
  | .attack target => do
      let skill ← attackSkill data combatant
      return pursue w near skill target none
  | .executeSkill target skill => some (pursue w near skill target none)

/-- An entity that moves looks at its goal. -/
def updateGoal (data : CombatData) (w : CombatWorld) (near : Bool) (combatant : Combatant)
    (moving : MovementGoal) : Goal → Option Pursuit
  | .pickUp target =>
      if w.targetable target.entity then some ⟨decide (moving ≠ .location), none, none⟩
      else some ⟨true, some .idle, none⟩
  | .attack target => do
      let skill ← attackSkill data combatant
      if moving ≠ .location then return ⟨true, none, none⟩
      return pursue w near skill target (some .idle)
  | .executeSkill target skill =>
      if moving ≠ .location then some ⟨true, none, none⟩
      else some (pursue w near skill target (some .idle))

/-- Only clients are answered. -/
def Pursuit.apply (pursuit : Pursuit) (entity : Entity) (combatant : Combatant) (w : CombatWorld) :
    CombatWorld :=
  let changed := w.modify entity fun combatant =>
    { combatant with
      mind := if pursuit.cancel then some none else combatant.mind
      queue := combatant.queue.map fun queue =>
        queue ++ (pursuit.request.map StateTransition.new).toList }
  match pursuit.reply with
  | some packet => if combatant.client then changed.send entity packet else changed
  | none => changed

/-- The goal that an entity of the query has. -/
def goalIn (combatant : Combatant) : Option Goal :=
  if combatant.queue.isSome then combatant.mind.bind id else none

def enqueueAction (data : CombatData) (entity : Entity) (near : Bool) (w : CombatWorld) : Option CombatWorld :=
  match w.entities entity with
  | some combatant =>
      if combatant.states.has .idle then
        match goalIn combatant with
        | some goal => (enqueueGoal data w near combatant goal).map fun pursuit =>
            pursuit.apply entity combatant w
        | none => some w
      else some w
  | none => some w

def updateAction (data : CombatData) (entity : Entity) (near : Bool) (w : CombatWorld) : Option CombatWorld :=
  match w.entities entity with
  | some combatant =>
      match combatant.states.moving, goalIn combatant with
      | some moving, some goal =>
          if combatant.states.has .idle then some w
          else (updateGoal data w near combatant moving goal).map fun pursuit =>
            pursuit.apply entity combatant w
      | _, _ => some w
  | none => some w

/-! ### From the queue to the state -/

/-- The transitions of an entity, with their commands. -/
def Combatant.transition (combatant : Combatant) : Combatant :=
  match combatant.queue with
  | some queue =>
      let transitioned := Agent.transitions ⟨combatant.states, queue, combatant.client⟩ queue
      { combatant with
        queue := some transitioned.1
        states := (applyAll transitioned.2 combatant.states).getD combatant.states }
  | none => combatant

/-! ### Execution -/

/-- The damage: a random number between the bounds, for a player with a weapon.  `roll` is the random
number; `none` is a panic, since the range is empty. -/
def rollDamage (p : Profile) (bounds : UInt32 × UInt32) (roll : ℕ) : Option UInt32 := do
  let above ← p.addU32 bounds.2 1
  if bounds.1 < above then
    return bounds.1 + UInt32.ofNat (roll % (above.toNat - bounds.1.toNat))
  else none

/-- The amount, if an event is sent at all. -/
def damageOf (p : Profile) (data : CombatData) (combatant : Combatant) (roll : ℕ) : Option (Option UInt32) :=
  match combatant.weapon with
  | some weapon =>
      match combatant.strength with
      | some strength =>
          match weapon with
          | some item => (rollDamage p (data.attackPower strength item.reference) roll).map some
          | none => some (some 1)
      | none => some none
  | none => some (some 10)

/-- An action that enters its execution. -/
def execute (p : Profile) (data : CombatData) (entity : Entity) (combatant : Combatant) (action : Action)
    (roll : ℕ) (w : CombatWorld) : Option CombatWorld := do
  let _attack ← action.skill.params.find? SkillParam.isAttack
  match action.target with
  | .entity target => do
      let found ← w.entities target
      let amount ← damageOf p data combatant roll
      match amount with
      | some amount =>
          return { w with
            damage := w.damage ++ [⟨⟨entity, combatant.gameEntity⟩, ⟨target, found.gameEntity⟩, action.skill,
              w.actionIdCounter, amount⟩]
            actionIdCounter := w.actionIdCounter + 1 }
      | none => return w
  | _ => none

def Combatant.setAction (action : Option Action) (combatant : Combatant) : Combatant :=
  { combatant with states := { combatant.states with action } }

/-- An iteration of the system `action`. -/
def actionOf (p : Profile) (data : CombatData) (entity : Entity) (delta roll : ℕ) (w : CombatWorld) :
    Option CombatWorld :=
  match w.entities entity with
  | some combatant =>
      match combatant.states.action with
      | some action =>
          let advanced := w.modify entity (Combatant.setAction (some (action.advance delta).1))
          match (action.advance delta).2 with
          | .waiting => some advanced
          | .entered .execution => execute p data entity combatant action roll advanced
          | .entered _ => some advanced
          | .finished => some (w.modify entity (Combatant.setAction none))
      | none => some w
  | none => some w

/-! ### Damage -/

def recordDamage (p : Profile) (receiver : DamageReceiver) (source : UInt32) (amount : UInt64) :
    Option DamageReceiver := do
  let total ← match receiver source with
    | some previous => p.addU64 previous amount
    | none => some amount
  return Function.update receiver source (some total)

/-- What a hit does to an entity, and the damage that is reported. -/
def hit (p : Profile) (event : DamageReceiveEvent) (attacker : GameEntity) (combatant : Combatant)
    (body : Health × DamageReceiver) : Option (Combatant × SkillPartDamage × Bool) := do
  let amount := if combatant.invincible then 0 else event.amount
  let receiver ← recordDamage p body.2 attacker.uniqueId amount.toUInt64
  let health ← body.1.reduce p amount
  if health.isDead then
    let deadState := if combatant.strength.isSome then Dead.newPlayer else Dead.newMonster
    return ({ combatant with
      body := some (health, receiver)
      queue := combatant.queue.map fun queue => queue ++ [StateTransition.new (.dead deadState)] },
      .killingBlow amount, true)
  else return ({ combatant with body := some (health, receiver) }, .default amount, false)

/-- Who is told: the attacker, or else the target. -/
def informed (event : DamageReceiveEvent) (attacker target : Combatant) : Option Entity :=
  if attacker.client then some event.source.entity
  else if target.client then some event.target.entity
  else none

/-- The next event, with the components of the target. -/
def handleHit (p : Profile) (event : DamageReceiveEvent) (target : Combatant) (body : Health × DamageReceiver)
    (w : CombatWorld) : Option CombatWorld := do
  let attacker ← w.entities event.source.entity
  if body.1.isDead then
    if attacker.client then return w.send event.source.entity (.updateError .completed)
    return w
  let (struck, damage, died) ← hit p event attacker.gameEntity target body
  let w := w.modify event.target.entity fun _ => struck
  let w := if died then { w with deaths := w.deaths ++ [⟨event.target, some event.source⟩] } else w
  match informed event attacker target with
  | some entity => return w.send entity (.updateSuccess event.skill.refId event.source.gameEntity.uniqueId
      event.target.gameEntity.uniqueId event.instanceId damage)
  | none => return w

def handleDamage (p : Profile) (w : CombatWorld) : Option CombatWorld :=
  match w.damage with
  | event :: events =>
      let rest := { w with damage := events }
      match w.entities event.target.entity with
      | some target =>
          match target.body, target.queue with
          | some body, some _ => handleHit p event target body rest
          | _, _ => some rest
      | none => some rest
  | [] => some w

/-! ### What can happen -/

/-- The iterations of the systems, and what else may happen to an entity: it is spawned or despawned, its
weapon, its health or its states change, it is asked to change its state, or a monster hits back. -/
inductive CombatStep where
  | handleAction (entity : Entity) (packet : PerformAction)
  | enqueueAction (entity : Entity) (near : Bool)
  | updateAction (entity : Entity) (near : Bool)
  | transition (entity : Entity)
  | action (entity : Entity) (delta roll : ℕ)
  | handleDamage
  | attackPlayer (entity : Entity) (source : EntityReference)
  | spawn (entity : Entity) (combatant : Combatant)
  | despawn (entity : Entity)
  | equip (entity : Entity) (weapon : Option Item)
  | heal (entity : Entity) (health : Health) (invincible : Bool)
  | command (entity : Entity) (commands : List StateCommand)
  | request (entity : Entity) (change : StateChange)
  | collect (lookup : UInt32 → Option Entity)

/-- No other system starts an action. -/
def startsAction : StateCommand → Bool
  | .insert (.action _) => true
  | _ => false

namespace CombatWorld

/-- What is spawned has no state, no goal and no requests. -/
def spawn (entity : Entity) (combatant : Combatant) (w : CombatWorld) : CombatWorld :=
  match w.entities entity with
  | some _ => w
  | none =>
      { w with entities := Function.update w.entities entity (some { combatant with
          mind := combatant.mind.map fun _ => none
          queue := combatant.queue.map fun _ => []
          states := States.fresh }) }

def despawn (entity : Entity) (w : CombatWorld) : CombatWorld :=
  { w with entities := Function.update w.entities entity none }

/-- `attack_player`, for a monster that has a mind of its own. -/
def attackPlayer (entity : Entity) (source : EntityReference) (w : CombatWorld) : CombatWorld :=
  w.modify entity fun combatant =>
    { combatant with mind := combatant.mind.map fun goal => some (goal.getD (.attack source)) }

def command (entity : Entity) (commands : List StateCommand) (w : CombatWorld) : CombatWorld :=
  { w with entities := fun e =>
      if e = entity then (w.entities e).bind fun combatant =>
        (applyAll (commands.filter fun command => !startsAction command) combatant.states).map fun states =>
          { combatant with states := states }
      else w.entities e }

def request (entity : Entity) (change : StateChange) (w : CombatWorld) : CombatWorld :=
  if change.kind = .action then w
  else w.modify entity fun combatant =>
    { combatant with queue := combatant.queue.map fun queue => queue ++ [StateTransition.new change] }

def step (p : Profile) (data : CombatData) : CombatStep → CombatWorld → Option CombatWorld
  | .handleAction entity packet, w => some (Agents.handleAction data entity packet w)
  | .enqueueAction entity near, w => Agents.enqueueAction data entity near w
  | .updateAction entity near, w => Agents.updateAction data entity near w
  | .transition entity, w => some (w.modify entity Combatant.transition)
  | .action entity delta roll, w => actionOf p data entity delta roll w
  | .handleDamage, w => Agents.handleDamage p w
  | .attackPlayer entity source, w => some (w.attackPlayer entity source)
  | .spawn entity combatant, w => some (w.spawn entity combatant)
  | .despawn entity, w => some (w.despawn entity)
  | .equip entity weapon, w => some (w.modify entity fun combatant =>
      { combatant with weapon := combatant.weapon.map fun _ => weapon })
  | .heal entity health invincible, w => some (w.modify entity fun combatant =>
      { combatant with body := combatant.body.map fun body => (health, body.2), invincible })
  | .command entity commands, w => some (w.command entity commands)
  | .request entity change, w => some (w.request entity change)
  | .collect lookup, w => some { w with lookup }

end CombatWorld

end Skrillax.Agents

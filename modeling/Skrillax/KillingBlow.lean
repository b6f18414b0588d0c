/-
**The blow that kills.**

Damage events are handled one after the other.  Every event is recorded for its attacker and reduces the
health of the target, until the health is gone: then the death is sent, the target is asked to die, and the
events that are left are skipped.  So the target dies once, by the event at which the sum of the damage
reaches its health.  What can go wrong is the arithmetic around it, above all that of the change that is
reported, to which every hit adds the health there was before.

Main definitions:

* `Blow` — an event, and whether the target is invincible by then;
* `strike` — one event is handled;
* `Facing` — a target, and the events that are left for it;
* `DiesOnce` — the target dies by the blow at which the damage reaches its health, or not at all;
* `BlowFits` — the arithmetic of the next event is in range.

Main results:

* `strike_isSome`, `strike_dead`, `strike_alive` — one event;
* `run_dead`, `run_of_fits`, `fits_of_run` — the events that are left;
* `target_dies_once_iff` — **the target dies once, by the blow that kills it, exactly if the arithmetic of
  every event is in range**.
-/

import Skrillax.CombatSteps
import Skrillax.PartialAction
import Skrillax.RunningSum

set_option relaxedAutoImplicit false
set_option autoImplicit false

namespace Skrillax.Agents

open Rust (Profile)
open PartialAction RunningSum

/-! ### Blows -/

/-- An event, and whether the target is invincible when it is handled. -/
structure Blow where
  event : DamageReceiveEvent
  invincible : Bool

/-- The amount that takes effect. -/
def Blow.amount (blow : Blow) : ℕ := if blow.invincible then 0 else blow.event.amount.toNat

/-- The target, as far as it is invincible by then. -/
def Blow.on (blow : Blow) (combatant : Combatant) : Combatant := { combatant with invincible := blow.invincible }

def setInvincible (target : Entity) (invincible : Bool) (w : CombatWorld) : CombatWorld :=
  w.modify target fun combatant => { combatant with invincible }

/-- The next event is handled. -/
def strike (p : Profile) (target : Entity) (invincible : Bool) (w : CombatWorld) : Option CombatWorld :=
  handleDamage p (setInvincible target invincible w)

/-- `total_damage_of`. -/
def totalDamageOf (receiver : DamageReceiver) (source : UInt32) : UInt64 := (receiver source).getD 0

/-- The blows by the attackers with this id. -/
def isBy (w : CombatWorld) (uniqueId : UInt32) (blow : Blow) : Bool :=
  (w.entities blow.event.source.entity).any fun attacker => attacker.gameEntity.uniqueId == uniqueId

/-- The damage by the attackers with this id. -/
def dealtBy (w : CombatWorld) (uniqueId : UInt32) (blows : List Blow) : ℕ :=
  total Blow.amount (blows.filter (isBy w uniqueId))

/-- The deaths that were sent, the requests of the target, and what was recorded. -/
structure Fate where
  deaths : List EntityDeath
  queue : List StateTransition
  receiver : DamageReceiver

def fateOf (target : Entity) (w : CombatWorld) : Option Fate := do
  let combatant ← w.entities target
  let body ← combatant.body
  let queue ← combatant.queue
  return ⟨w.deaths, queue, body.2⟩

/-- The target is there with health and requests, the events are for it, and their attackers are there. -/
structure Facing (target : Entity) (w : CombatWorld) (blows : List Blow) (combatant : Combatant)
    (health : Health) (receiver : DamageReceiver) (queue : List StateTransition) : Prop where
  here : w.entities target = some combatant
  body : combatant.body = some (health, receiver)
  requests : combatant.queue = some queue
  damage : w.damage = blows.map Blow.event
  targets : ∀ blow ∈ blows, blow.event.target.entity = target
  attackers : ∀ blow ∈ blows, (w.entities blow.event.source.entity).isSome = true

/-- What is recorded is what was recorded before and what these blows add. -/
def Recorded (w : CombatWorld) (blows : List Blow) (receiver receiver' : DamageReceiver) : Prop :=
  ∀ uniqueId, (totalDamageOf receiver' uniqueId).toNat =
    (totalDamageOf receiver uniqueId).toNat + dealtBy w uniqueId blows

/-- The request to die. -/
def deadRequest (combatant : Combatant) : StateTransition :=
  StateTransition.new (.dead (if combatant.strength.isSome then Dead.newPlayer else Dead.newMonster))

def deathBy (blow : Blow) : EntityDeath := ⟨blow.event.target, some blow.event.source⟩

/-- Where the damage stays below the health nothing but the damage is recorded; otherwise there is one death, by
the blow at which it reaches the health, one request to die, and what is recorded is the damage up to this blow. -/
structure DiesOnce (w : CombatWorld) (combatant : Combatant) (health : ℕ) (blows : List Blow) (start fate : Fate) :
    Prop where
  survives : total Blow.amount blows < health → fate.deaths = start.deaths ∧ fate.queue = start.queue ∧
    Recorded w blows start.receiver fate.receiver
  dies : ∀ pre blow post, blows = pre ++ blow :: post → total Blow.amount pre < health →
    health ≤ total Blow.amount pre + blow.amount →
      fate.deaths = start.deaths ++ [deathBy blow] ∧ fate.queue = start.queue ++ [deadRequest combatant] ∧
        Recorded w (pre ++ [blow]) start.receiver fate.receiver
  dies_iff : fate.deaths ≠ start.deaths ↔ health ≤ total Blow.amount blows

/-- The arithmetic for the next event stays in range, if the target is alive. -/
def BlowFits (p : Profile) (target : Entity) (w : CombatWorld) (invincible : Bool) : Prop :=
  ∀ event ∈ w.damage.head?, ∀ combatant ∈ w.entities target, ∀ body ∈ combatant.body,
    ∀ attacker ∈ w.entities event.source.entity, body.1.isDead = false →
      (totalDamageOf body.2 attacker.gameEntity.uniqueId).toNat +
        (amountOf event { combatant with invincible }).toNat < 2 ^ 64 ∧
      (p = .debug → body.1.currentHealth.toInt32 ≠ Int32.minValue ∧ ∀ previous ∈ body.1.change,
        Profile.FitsI32 (previous.toInt + (-body.1.currentHealth.toInt32).toInt))

/-! ### One event -/

/-- The ids of the entities stay the same. -/
def SameIds (w w' : CombatWorld) : Prop :=
  ∀ entity, (w'.entities entity).map Combatant.gameEntity = (w.entities entity).map Combatant.gameEntity

theorem SameIds.trans {w w' w'' : CombatWorld} (h : SameIds w w') (h' : SameIds w' w'') : SameIds w w'' :=
  fun entity => (h' entity).trans (h entity)

theorem SameIds.isSome {w w' : CombatWorld} (h : SameIds w w') (entity : Entity) :
    (w'.entities entity).isSome = (w.entities entity).isSome := by
  rw [← Option.isSome_map (f := Combatant.gameEntity), h entity, Option.isSome_map]

theorem SameIds.isBy_eq {w w' : CombatWorld} (h : SameIds w w') : isBy w' = isBy w := by
  funext uniqueId blow
  have hany (v : CombatWorld) : isBy v uniqueId blow = ((v.entities blow.event.source.entity).map
      Combatant.gameEntity).any fun gameEntity => gameEntity.uniqueId == uniqueId := by
    rw [Option.any_map]
    rfl
  rw [hany, hany, h]

theorem SameIds.recorded_iff {w w' : CombatWorld} (h : SameIds w w') {blows : List Blow}
    {receiver receiver' : DamageReceiver} :
    Recorded w' blows receiver receiver' ↔ Recorded w blows receiver receiver' := by
  unfold Recorded dealtBy
  rw [h.isBy_eq]

/-- Nothing about an entity changes that says who it is. -/
theorem SameIds.modify (target : Entity) (change : Combatant → Combatant) {w w' : CombatWorld}
    (hchange : ∀ combatant, (change combatant).gameEntity = combatant.gameEntity)
    (h : w'.entities = (w.modify target change).entities) : SameIds w w' := by
  intro entity
  rw [h, CombatWorld.modify_entities]
  split
  · rw [Option.map_map]
    exact Option.map_congr fun combatant _ => hchange combatant
  · rfl

section OneEvent

variable {p : Profile} {target : Entity} {w w' : CombatWorld} {blow : Blow} {blows : List Blow}
  {combatant : Combatant} {health : Health} {receiver : DamageReceiver} {queue : List StateTransition}

/-- The event is read. -/
def readied (target : Entity) (blow : Blow) (blows : List Blow) (w : CombatWorld) : CombatWorld :=
  { setInvincible target blow.invincible w with damage := blows.map Blow.event }

theorem sameIds_readied (target : Entity) (blow : Blow) (blows : List Blow) (w : CombatWorld) :
    SameIds w (readied target blow blows w) :=
  SameIds.modify target blow.on (fun _ => rfl) rfl

theorem readied_here (h : w.entities target = some combatant) :
    (readied target blow blows w).entities target = some (blow.on combatant) := by
  change (w.modify target blow.on).entities target = _
  rw [CombatWorld.modify_entities, if_pos rfl, h]
  rfl

theorem toNat_amountOf : (amountOf blow.event (blow.on combatant)).toNat = blow.amount := by
  unfold amountOf Blow.amount Blow.on
  split <;> rfl

theorem strike_eq (h : Facing target w (blow :: blows) combatant health receiver queue) :
    strike p target blow.invincible w =
      handleHit p blow.event (blow.on combatant) (health, receiver) (readied target blow blows w) := by
  have hdamage : (setInvincible target blow.invincible w).damage = blow.event :: blows.map Blow.event := h.damage
  have hhere : (setInvincible target blow.invincible w).entities blow.event.target.entity =
      some (blow.on combatant) := by
    have hready : (readied target blow blows w).entities target = some (blow.on combatant) :=
      readied_here h.here
    rw [h.targets blow List.mem_cons_self]
    exact hready
  have hbody : (blow.on combatant).body = some (health, receiver) := h.body
  have hrequests : (blow.on combatant).queue = some queue := h.requests
  unfold strike handleDamage
  simp only [hdamage, hhere, hbody, hrequests]
  rfl

/-- What is left for the target after the first event. -/
theorem Facing.tail (h : Facing target w (blow :: blows) combatant health receiver queue) {combatant' : Combatant}
    {health' : Health} {receiver' : DamageReceiver} {queue' : List StateTransition} (hsame : SameIds w w')
    (hhere : w'.entities target = some combatant') (hbody : combatant'.body = some (health', receiver'))
    (hrequests : combatant'.queue = some queue') (hdamage : w'.damage = blows.map Blow.event) :
    Facing target w' blows combatant' health' receiver' queue' where
  here := hhere
  body := hbody
  requests := hrequests
  damage := hdamage
  targets b hb := h.targets b (List.mem_cons_of_mem _ hb)
  attackers b hb := (hsame.isSome _).trans (h.attackers b (List.mem_cons_of_mem _ hb))

theorem Facing.event_mem (h : Facing target w (blow :: blows) combatant health receiver queue) :
    blow.event ∈ w.damage.head? := by
  rw [h.damage]
  rfl

theorem handleHit_dead {event : DamageReceiveEvent} {body : Health × DamageReceiver} {v : CombatWorld}
    (hdead : body.1.isDead = true) (hattacker : (v.entities event.source.entity).isSome = true) :
    ∃ w', handleHit p event combatant body v = some w' ∧ w'.entities = v.entities ∧ w'.damage = v.damage ∧
      w'.deaths = v.deaths := by
  obtain ⟨attacker, hattacker⟩ := Option.isSome_iff_exists.1 hattacker
  unfold handleHit
  rw [hattacker, Option.bind_eq_bind, Option.bind_some, if_pos hdead]
  cases attacker.client with
  | true => exact ⟨_, rfl, rfl, rfl, rfl⟩
  | false => exact ⟨_, rfl, rfl, rfl, rfl⟩

/-- An event for a dead target is skipped. -/
theorem strike_dead (h : Facing target w (blow :: blows) combatant health receiver queue)
    (hdead : health.isDead = true) : ∃ w', strike p target blow.invincible w = some w' ∧
      Facing target w' blows (blow.on combatant) health receiver queue ∧ w'.deaths = w.deaths := by
  have hsame := sameIds_readied target blow blows w
  have hattacker := (hsame.isSome _).trans (h.attackers blow List.mem_cons_self)
  have hbody : ((health, receiver) : Health × DamageReceiver).1.isDead = true := hdead
  rw [strike_eq h]
  obtain ⟨w', hw', hentities, hdamage, hdeaths⟩ := handleHit_dead (p := p) hbody hattacker
  refine ⟨w', hw', ?_, hdeaths⟩
  refine h.tail (fun entity => ?_) (hentities ▸ readied_here h.here) h.body h.requests hdamage
  rw [hentities]
  exact hsame entity

/-- What a hit returns. -/
theorem hit_eq_some {event : DamageReceiveEvent} {attacker : GameEntity} {struck : Combatant}
    {damage : SkillPartDamage} {died : Bool} (hqueue : combatant.queue = some queue)
    (h : hit p event attacker combatant (health, receiver) = some (struck, damage, died)) :
    ∃ receiver' health', recordDamage p receiver attacker.uniqueId (amountOf event combatant).toUInt64 =
        some receiver' ∧ health.reduce p (amountOf event combatant) = some health' ∧ died = health'.isDead ∧
      struck.gameEntity = combatant.gameEntity ∧ struck.strength = combatant.strength ∧
      struck.body = some (health', receiver') ∧
      struck.queue = some (if health'.isDead then queue ++ [deadRequest combatant] else queue) := by
  obtain ⟨receiver', hreceiver', h⟩ := Option.bind_eq_some_iff.1 h
  obtain ⟨health', hhealth', h⟩ := Option.bind_eq_some_iff.1 h
  refine ⟨receiver', health', hreceiver', hhealth', ?_⟩
  split at h
  · rename_i hdead
    obtain ⟨rfl, -, rfl⟩ := Prod.mk.inj (Option.some_inj.1 h) |>.imp_right Prod.mk.inj
    refine ⟨hdead.symm, rfl, rfl, rfl, ?_⟩
    rw [if_pos hdead, hqueue]
    rfl
  · rename_i hdead
    obtain ⟨rfl, -, rfl⟩ := Prod.mk.inj (Option.some_inj.1 h) |>.imp_right Prod.mk.inj
    refine ⟨(Bool.eq_false_of_not_eq_true hdead).symm, rfl, rfl, rfl, ?_⟩
    rw [if_neg hdead, hqueue]

theorem handleHit_eq_some {event : DamageReceiveEvent} {body : Health × DamageReceiver} {v : CombatWorld}
    (halive : body.1.isDead = false) (h : handleHit p event combatant body v = some w') :
    ∃ attacker struck damage died, v.entities event.source.entity = some attacker ∧
      hit p event attacker.gameEntity combatant body = some (struck, damage, died) ∧
      w'.entities = (v.modify event.target.entity fun _ => struck).entities ∧ w'.damage = v.damage ∧
      w'.deaths = if died then v.deaths ++ [⟨event.target, some event.source⟩] else v.deaths := by
  obtain ⟨attacker, hattacker, h⟩ := Option.bind_eq_some_iff.1 h
  rw [if_neg (Bool.eq_false_iff.1 halive)] at h
  obtain ⟨⟨struck, damage, died⟩, hhit, h⟩ := Option.bind_eq_some_iff.1 h
  refine ⟨attacker, struck, damage, died, hattacker, hhit, ?_⟩
  cases hinformed : informed event attacker combatant <;> simp only [hinformed] at h <;>
    obtain rfl := Option.some_inj.1 h <;> cases died <;> exact ⟨rfl, rfl, rfl⟩

/-- An event for a target that is alive. -/
theorem strike_alive (h : Facing target w (blow :: blows) combatant health receiver queue)
    (halive : health.isDead = false) (hstrike : strike p target blow.invincible w = some w') :
    ∃ attacker receiver' health' combatant', w.entities blow.event.source.entity = some attacker ∧
      recordDamage p receiver attacker.gameEntity.uniqueId
        (amountOf blow.event (blow.on combatant)).toUInt64 = some receiver' ∧
      health'.currentHealth.toNat = health.currentHealth.toNat - blow.amount ∧
      SameIds w w' ∧ combatant'.strength = combatant.strength ∧
      Facing target w' blows combatant' health' receiver'
        (if health'.isDead then queue ++ [deadRequest combatant] else queue) ∧
      w'.deaths = if health'.isDead then w.deaths ++ [deathBy blow] else w.deaths := by
  have hbody : ((health, receiver) : Health × DamageReceiver).1.isDead = false := halive
  have hrequests : (blow.on combatant).queue = some queue := h.requests
  have hhere : (readied target blow blows w).entities target = some (blow.on combatant) := readied_here h.here
  have hready := sameIds_readied target blow blows w
  rw [strike_eq h] at hstrike
  obtain ⟨attacker', struck, damage, died, hattacker', hhit, hentities, hdamage, hdeaths⟩ :=
    handleHit_eq_some hbody hstrike
  obtain ⟨receiver', health', hrecord, hreduce, rfl, hid, hstrength, hstruck, hqueue⟩ :=
    hit_eq_some hrequests hhit
  rw [h.targets blow List.mem_cons_self] at hentities
  -- the attacker is who it was before the target became invincible or not
  have hattacker := (hready blow.event.source.entity).symm
  rw [hattacker'] at hattacker
  obtain ⟨attacker, hattacker, hsameId⟩ := Option.map_eq_some_iff.1 hattacker
  have hstruckHere : w'.entities target = some struck := by
    rw [hentities, CombatWorld.modify_entities, if_pos rfl, hhere]
    rfl
  have hsame : SameIds (readied target blow blows w) w' := by
    intro entity
    by_cases heq : entity = target
    · rw [heq, hstruckHere, hhere, Option.map_some, Option.map_some, hid]
    · rw [hentities, CombatWorld.modify_entities, if_neg heq]
  refine ⟨attacker, receiver', health', struck, hattacker, hsameId ▸ hrecord, ?_, hready.trans hsame, hstrength,
    h.tail (hready.trans hsame) hstruckHere hstruck hqueue hdamage, hdeaths⟩
  rw [(Health.reduce_eq_some hreduce).1, Rust.toNat_saturatingSubU32, toNat_amountOf]

/-- An event goes through if its arithmetic is in range. -/
theorem strike_isSome (h : Facing target w (blow :: blows) combatant health receiver queue)
    (hfits : BlowFits p target w blow.invincible) : (strike p target blow.invincible w).isSome = true := by
  have hready := sameIds_readied target blow blows w
  obtain ⟨attacker', hattacker'⟩ := Option.isSome_iff_exists.1
    ((hready.isSome blow.event.source.entity).trans (h.attackers blow List.mem_cons_self))
  have hattacker := (hready blow.event.source.entity).symm
  rw [hattacker'] at hattacker
  obtain ⟨attacker, hattacker, hsameId⟩ := Option.map_eq_some_iff.1 hattacker
  rw [strike_eq h, handleHit_isSome]
  refine ⟨attacker', hattacker', ?_⟩
  cases halive : health.isDead with
  | true => exact Or.inl rfl
  | false =>
      obtain ⟨hrecord, hreport⟩ := hfits blow.event h.event_mem combatant h.here _ h.body attacker hattacker halive
      cases p with
      | release => exact Or.inr (Or.inl rfl)
      | debug =>
          obtain ⟨hnegate, hreport⟩ := hreport rfl
          refine Or.inr (Or.inr ⟨fun previous hprevious => ?_, hnegate, hreport⟩)
          have hreceiver : receiver attacker'.gameEntity.uniqueId = some previous := hprevious
          have htotal : totalDamageOf receiver attacker.gameEntity.uniqueId = previous := by
            rw [hsameId, totalDamageOf, hreceiver]
            rfl
          exact htotal ▸ hrecord

/-- In a debug build an event goes through only then. -/
theorem fits_of_strike_isSome (h : Facing target w (blow :: blows) combatant health receiver queue)
    (hstrike : (strike p target blow.invincible w).isSome = true) (halive : health.isDead = false) :
    p = .debug → health.currentHealth.toInt32 ≠ Int32.minValue ∧ ∀ previous ∈ health.change,
      Profile.FitsI32 (previous.toInt + (-health.currentHealth.toInt32).toInt) := by
  rintro rfl
  rw [strike_eq h, handleHit_isSome] at hstrike
  obtain ⟨attacker, -, hdead | hrelease | hcan⟩ := hstrike
  · rw [halive] at hdead
    cases hdead
  · cases hrelease
  · exact ⟨hcan.negate, hcan.report⟩

end OneEvent

/-! ### What is recorded -/

section Records

variable {p : Profile} {w : CombatWorld} {blow : Blow} {blows : List Blow}
  {receiver receiver' receiver'' : DamageReceiver} {source : UInt32} {amount : UInt64}

theorem recorded_nil : Recorded w [] receiver receiver := fun _ => rfl

theorem dealtBy_cons (uniqueId : UInt32) :
    dealtBy w uniqueId (blow :: blows) = dealtBy w uniqueId [blow] + dealtBy w uniqueId blows := by
  unfold dealtBy
  rw [← List.singleton_append, List.filter_append, total_append]

theorem Recorded.cons_iff (h : Recorded w [blow] receiver receiver') :
    Recorded w (blow :: blows) receiver receiver'' ↔ Recorded w blows receiver' receiver'' := by
  refine forall_congr' fun uniqueId => ?_
  rw [h uniqueId, dealtBy_cons, Nat.add_assoc]

theorem recordDamage_eq_some (h : recordDamage p receiver source amount = some receiver') :
    ∃ sum, receiver' = Function.update receiver source (some sum) ∧ sum = totalDamageOf receiver source + amount := by
  unfold recordDamage at h
  unfold totalDamageOf
  cases hprevious : receiver source with
  | none =>
      simp only [hprevious] at h
      obtain rfl := Option.some_inj.1 h
      exact ⟨amount, rfl, (UInt64.zero_add amount).symm⟩
  | some previous =>
      simp only [hprevious] at h
      obtain ⟨sum, hsum, hret⟩ := Option.bind_eq_some_iff.1 h
      obtain rfl := Option.some_inj.1 hret
      exact ⟨sum, rfl, (Profile.addU64_eq_some.1 hsum).1⟩

theorem totalDamageOf_recordDamage (h : recordDamage p receiver source amount = some receiver')
    (hfits : (totalDamageOf receiver source).toNat + amount.toNat < 2 ^ 64) (uniqueId : UInt32) :
    (totalDamageOf receiver' uniqueId).toNat =
      (totalDamageOf receiver uniqueId).toNat + if source = uniqueId then amount.toNat else 0 := by
  obtain ⟨sum, rfl, hsum⟩ := recordDamage_eq_some h
  split
  · rename_i heq
    subst heq
    have hupdated : totalDamageOf (Function.update receiver source (some sum)) source = sum := by
      rw [totalDamageOf, Function.update_self]
      rfl
    rw [hupdated, hsum, UInt64.toNat_add]
    exact Nat.mod_eq_of_lt hfits
  · rename_i hne
    rw [totalDamageOf, Function.update_of_ne (Ne.symm hne), Nat.add_zero]
    rfl

theorem isBy_eq {attacker : Combatant} (h : w.entities blow.event.source.entity = some attacker)
    (uniqueId : UInt32) : isBy w uniqueId blow = true ↔ attacker.gameEntity.uniqueId = uniqueId := by
  unfold isBy
  rw [h, Option.any_some, beq_iff_eq]

theorem dealtBy_singleton {attacker : Combatant} (h : w.entities blow.event.source.entity = some attacker)
    (uniqueId : UInt32) :
    dealtBy w uniqueId [blow] = if attacker.gameEntity.uniqueId = uniqueId then blow.amount else 0 := by
  unfold dealtBy
  rw [List.filter_singleton]
  split
  · rename_i heq
    rw [(isBy_eq h uniqueId).2 heq]
    rfl
  · rename_i hne
    rw [Bool.eq_false_iff.2 fun hby => hne ((isBy_eq h uniqueId).1 hby)]
    rfl

/-- A blow whose sum fits is recorded. -/
theorem recorded_singleton {attacker combatant : Combatant}
    (hattacker : w.entities blow.event.source.entity = some attacker)
    (h : recordDamage p receiver attacker.gameEntity.uniqueId
      (amountOf blow.event (blow.on combatant)).toUInt64 = some receiver')
    (hfits : (totalDamageOf receiver attacker.gameEntity.uniqueId).toNat + blow.amount < 2 ^ 64) :
    Recorded w [blow] receiver receiver' := by
  have hamount : (amountOf blow.event (blow.on combatant)).toUInt64.toNat = blow.amount :=
    (UInt32.toNat_toUInt64 _).trans toNat_amountOf
  intro uniqueId
  rw [dealtBy_singleton hattacker, totalDamageOf_recordDamage h (hamount ▸ hfits), hamount]

/-- The sum of the first blow is part of what is recorded in the end. -/
theorem Recorded.fits {attacker : Combatant} (h : Recorded w (blow :: blows) receiver receiver')
    (hattacker : w.entities blow.event.source.entity = some attacker) :
    (totalDamageOf receiver attacker.gameEntity.uniqueId).toNat + blow.amount < 2 ^ 64 := by
  have hrecorded := h attacker.gameEntity.uniqueId
  rw [dealtBy_cons, dealtBy_singleton hattacker, if_pos rfl] at hrecorded
  have hlt := (totalDamageOf receiver' attacker.gameEntity.uniqueId).toNat_lt
  omega

end Records

/-! ### The events that are left -/

section Runs

variable {p : Profile} {target : Entity}

/-- What becomes of the target: the blow that reaches its health is the death of it. -/
structure Becomes (w : CombatWorld) (combatant : Combatant) (health : ℕ) (blows : List Blow) (start fate : Fate) :
    Prop where
  deaths : fate.deaths = start.deaths ++ ((reaching Blow.amount health blows).map deathBy).toList
  queue : fate.queue =
    start.queue ++ ((reaching Blow.amount health blows).map fun _ => deadRequest combatant).toList
  recorded : Recorded w (upTo Blow.amount health blows) start.receiver fate.receiver

theorem Facing.fateOf_eq {w : CombatWorld} {blows : List Blow} {combatant : Combatant} {health : Health}
    {receiver : DamageReceiver} {queue : List StateTransition}
    (h : Facing target w blows combatant health receiver queue) :
    fateOf target w = some ⟨w.deaths, queue, receiver⟩ := by
  rw [fateOf, h.here, Option.bind_eq_bind, Option.bind_some, h.body, Option.bind_eq_bind, Option.bind_some,
    h.requests]
  rfl

/-- The events that are left for a dead target are skipped. -/
theorem run_dead {blows : List Blow} : ∀ {w : CombatWorld} {combatant : Combatant} {health : Health}
    {receiver : DamageReceiver} {queue : List StateTransition},
    Facing target w blows combatant health receiver queue → health.isDead = true →
      ∃ w', runAll (strike p target) (blows.map Blow.invincible) w = some w' ∧
        fateOf target w' = some ⟨w.deaths, queue, receiver⟩ := by
  induction blows with
  | nil => exact fun h _ => ⟨_, rfl, h.fateOf_eq⟩
  | cons blow blows ih =>
      intro w combatant health receiver queue h hdead
      obtain ⟨w', hw', hfacing, hdeaths⟩ := strike_dead (p := p) h hdead
      obtain ⟨w'', hw'', hfate⟩ := ih hfacing hdead
      refine ⟨w'', ?_, hdeaths ▸ hfate⟩
      rw [List.map_cons, runAll_cons, hw']
      exact hw''

/-- They need no arithmetic. -/
theorem attempted_dead {blows : List Blow} : ∀ {w : CombatWorld} {combatant : Combatant} {health : Health}
    {receiver : DamageReceiver} {queue : List StateTransition},
    Facing target w blows combatant health receiver queue → health.isDead = true →
      Attempted (strike p target) (BlowFits p target) (blows.map Blow.invincible) w := by
  induction blows with
  | nil => exact fun _ _ => attempted_nil
  | cons blow blows ih =>
      intro w combatant health receiver queue h hdead
      obtain ⟨w', hw', hfacing, -⟩ := strike_dead (p := p) h hdead
      refine attempted_cons_iff.2 ⟨?_, fun t ht => ?_⟩
      · intro event _ combatant' hcombatant' body hbody attacker _ halive
        obtain rfl := Option.some_inj.1 (h.here.symm.trans hcombatant')
        obtain rfl := Option.some_inj.1 (h.body.symm.trans hbody)
        rw [hdead] at halive
        cases halive
      · obtain rfl := Option.some_inj.1 (hw'.symm.trans ht)
        exact ih hfacing hdead

theorem isDead_iff {health : Health} : health.isDead = true ↔ health.currentHealth.toNat = 0 := by
  rw [Health.isDead, beq_iff_eq, ← UInt32.toNat_inj]
  rfl

theorem isDead_eq_false_iff {health : Health} : health.isDead = false ↔ 0 < health.currentHealth.toNat := by
  rw [← Bool.not_eq_true, isDead_iff, Nat.pos_iff_ne_zero]

theorem deadRequest_eq {combatant combatant' : Combatant} (h : combatant'.strength = combatant.strength) :
    deadRequest combatant' = deadRequest combatant := by
  rw [deadRequest, deadRequest, h]

/-- **If the arithmetic of every event is in range**, the damage takes its course. -/
theorem run_of_fits {blows : List Blow} : ∀ {w : CombatWorld} {combatant : Combatant} {health : Health}
    {receiver : DamageReceiver} {queue : List StateTransition},
    Facing target w blows combatant health receiver queue → health.isDead = false →
    Attempted (strike p target) (BlowFits p target) (blows.map Blow.invincible) w →
      ∃ w' fate, runAll (strike p target) (blows.map Blow.invincible) w = some w' ∧
        fateOf target w' = some fate ∧
        Becomes w combatant health.currentHealth.toNat blows ⟨w.deaths, queue, receiver⟩ fate := by
  -- after a blow that does not reach the health the target faces the others with what is left of it
  induction blows with
  | nil =>
      intro w combatant health receiver queue h _ _
      exact ⟨w, _, rfl, h.fateOf_eq, (List.append_nil _).symm, (List.append_nil _).symm, recorded_nil⟩
  | cons blow blows ih =>
      intro w combatant health receiver queue h halive hfits
      obtain ⟨hfit, hfits⟩ := attempted_cons_iff.1 hfits
      obtain ⟨t, ht⟩ := Option.isSome_iff_exists.1 (strike_isSome h hfit)
      obtain ⟨attacker, receiver', health', combatant', hattacker, hrecord, hleft, hsame, hstrength, hfacing,
        hdeaths⟩ := strike_alive h halive ht
      have hrecorded : Recorded w [blow] receiver receiver' :=
        recorded_singleton hattacker hrecord (toNat_amountOf ▸
          (hfit blow.event (h.event_mem) combatant h.here _ h.body attacker hattacker halive).1)
      have hrun : runAll (strike p target) ((blow :: blows).map Blow.invincible) w =
          runAll (strike p target) (blows.map Blow.invincible) t := by
        rw [List.map_cons, runAll_cons, ht, Option.bind_some]
      rw [hrun]
      by_cases hkills : health.currentHealth.toNat ≤ blow.amount
      · have hdead : health'.isDead = true := isDead_iff.2 (by omega)
        obtain ⟨w', hw', hfate⟩ := run_dead (p := p) hfacing hdead
        refine ⟨w', _, hw', hfate, ?_, ?_, ?_⟩
        · rw [reaching_cons_of_le hkills, hdeaths, if_pos hdead]
          rfl
        · rw [reaching_cons_of_le hkills, if_pos hdead]
          rfl
        · rw [upTo_cons_of_le hkills]
          exact hrecorded
      · have halive' : health'.isDead = false := isDead_eq_false_iff.2 (by omega)
        rw [if_neg (Bool.eq_false_iff.1 halive')] at hfacing hdeaths
        obtain ⟨w', fate, hw', hfate, hbecomes⟩ := ih hfacing halive' (hfits t ht)
        rw [hleft, hdeaths] at hbecomes
        refine ⟨w', fate, hw', hfate, ?_, ?_, ?_⟩
        · rw [reaching_cons_of_lt (by omega)]
          exact hbecomes.deaths
        · rw [reaching_cons_of_lt (by omega), ← deadRequest_eq hstrength]
          exact hbecomes.queue
        · rw [upTo_cons_of_lt (by omega), hrecorded.cons_iff, ← hsame.recorded_iff]
          exact hbecomes.recorded

/-- **If the run goes through and records what it should**, the arithmetic of every event is in range. -/
theorem fits_of_run {blows : List Blow} : ∀ {w w' : CombatWorld} {combatant : Combatant} {health : Health}
    {receiver : DamageReceiver} {queue : List StateTransition} {fate : Fate},
    Facing target w blows combatant health receiver queue → health.isDead = false →
    runAll (strike p target) (blows.map Blow.invincible) w = some w' → fateOf target w' = some fate →
    Recorded w (upTo Blow.amount health.currentHealth.toNat blows) receiver fate.receiver →
      Attempted (strike p target) (BlowFits p target) (blows.map Blow.invincible) w := by
  induction blows with
  | nil => exact fun _ _ _ _ _ => attempted_nil
  | cons blow blows ih =>
      intro w w' combatant health receiver queue fate h halive hrun hfate hrecords
      obtain ⟨t, ht, hrun⟩ := Option.bind_eq_some_iff.1 hrun
      obtain ⟨attacker, receiver', health', combatant', hattacker, hrecord, hleft, hsame, -, hfacing, -⟩ :=
        strike_alive h halive ht
      have hfits : (totalDamageOf receiver attacker.gameEntity.uniqueId).toNat + blow.amount < 2 ^ 64 := by
        unfold upTo at hrecords
        split at hrecords <;> exact hrecords.fits hattacker
      refine attempted_cons_iff.2 ⟨?_, fun t' ht' => ?_⟩
      · intro event hevent combatant' hcombatant' body hbody attacker' hattacker' _
        obtain rfl := Option.some_inj.1 (h.event_mem.symm.trans hevent)
        obtain rfl := Option.some_inj.1 (h.here.symm.trans hcombatant')
        obtain rfl := Option.some_inj.1 (h.body.symm.trans hbody)
        obtain rfl := Option.some_inj.1 (hattacker.symm.trans hattacker')
        refine ⟨?_, fits_of_strike_isSome h (Option.isSome_of_eq_some ht) halive⟩
        have hamount : (amountOf blow.event (blow.on combatant)).toNat = blow.amount := toNat_amountOf
        exact hamount ▸ hfits
      · obtain rfl := Option.some_inj.1 (ht.symm.trans ht')
        by_cases hkills : health.currentHealth.toNat ≤ blow.amount
        · exact attempted_dead hfacing (isDead_iff.2 (by omega))
        · have hrecorded : Recorded w [blow] receiver receiver' := recorded_singleton hattacker hrecord hfits
          rw [upTo_cons_of_lt (by omega), hrecorded.cons_iff, ← hsame.recorded_iff, ← hleft] at hrecords
          exact ih hfacing (isDead_eq_false_iff.2 (by omega)) hrun hfate hrecords

/-- What becomes of the target in terms of the sums of the blows. -/
theorem diesOnce_of_becomes {w : CombatWorld} {combatant : Combatant} {health : ℕ} {blows : List Blow}
    {start fate : Fate} (hpos : 0 < health) (h : Becomes w combatant health blows start fate) :
    DiesOnce w combatant health blows start fate where
  survives hlt := by
    obtain ⟨hdeaths, hqueue, hrecorded⟩ := h
    rw [reaching_of_lt hlt] at hdeaths hqueue
    rw [upTo_of_lt hlt] at hrecorded
    exact ⟨hdeaths.trans (List.append_nil _), hqueue.trans (List.append_nil _), hrecorded⟩
  dies pre blow post hblows hbefore hafter := by
    obtain ⟨hdeaths, hqueue, hrecorded⟩ := h
    rw [hblows, reaching_of_split hbefore hafter] at hdeaths hqueue
    rw [hblows, upTo_of_split hbefore hafter] at hrecorded
    exact ⟨hdeaths, hqueue, hrecorded⟩
  dies_iff := by
    constructor
    · intro hdies
      refine Nat.le_of_not_lt fun hlt => hdies ?_
      rw [h.deaths, reaching_of_lt hlt]
      exact List.append_nil _
    · intro hle
      obtain ⟨pre, blow, post, hblows, hbefore, hafter⟩ := exists_split hpos hle
      rw [h.deaths, hblows, reaching_of_split hbefore hafter]
      exact fun heq => by simp at heq

/-- What is recorded ends with the blow that kills. -/
theorem DiesOnce.recorded {w : CombatWorld} {combatant : Combatant} {health : ℕ} {blows : List Blow}
    {start fate : Fate} (hpos : 0 < health) (h : DiesOnce w combatant health blows start fate) :
    Recorded w (upTo Blow.amount health blows) start.receiver fate.receiver := by
  by_cases hlt : total Blow.amount blows < health
  · rw [upTo_of_lt hlt]
    exact (h.survives hlt).2.2
  · obtain ⟨pre, blow, post, hblows, hbefore, hafter⟩ := exists_split hpos (Nat.le_of_not_lt hlt)
    rw [hblows, upTo_of_split hbefore hafter]
    exact (h.dies pre blow post hblows hbefore hafter).2.2

end Runs

/-- **The target dies once, by the blow that kills it, exactly if the arithmetic of every event is in range.** -/
theorem target_dies_once_iff (p : Profile) (target : Entity) (w : CombatWorld) (blows : List Blow)
    (combatant : Combatant) (health : Health) (receiver : DamageReceiver) (queue : List StateTransition)
    (hfacing : Facing target w blows combatant health receiver queue) (hpos : 0 < health.currentHealth.toNat) :
    (∃ w' fate, runAll (strike p target) (blows.map Blow.invincible) w = some w' ∧
        fateOf target w' = some fate ∧
        DiesOnce w combatant health.currentHealth.toNat blows ⟨w.deaths, queue, receiver⟩ fate) ↔
      Attempted (strike p target) (BlowFits p target) (blows.map Blow.invincible) w := by
  have halive := isDead_eq_false_iff.2 hpos
  constructor
  · rintro ⟨w', fate, hrun, hfate, honce⟩
    exact fits_of_run hfacing halive hrun hfate (honce.recorded hpos)
  · intro hfits
    obtain ⟨w', fate, hrun, hfate, hbecomes⟩ := run_of_fits hfacing halive hfits
    exact ⟨w', fate, hrun, hfate, diesOnce_of_becomes hpos hbecomes⟩

/-! ### Too much health -/

def boss (health : UInt32) : Combatant where
  gameEntity := ⟨7, 1954⟩
  client := false
  drop := false
  strength := none
  weapon := none
  mind := none
  queue := some []
  states := States.fresh
  body := some (Health.new health, fun _ => none)
  invincible := false

def brawler : Combatant where
  gameEntity := ⟨1, 1907⟩
  client := true
  drop := false
  strength := some 20
  weapon := some none
  mind := none
  queue := some []
  states := States.fresh
  body := none
  invincible := false

def punch (amount : UInt32) : Blow :=
  ⟨⟨⟨2, ⟨1, 1907⟩⟩, ⟨1, ⟨7, 1954⟩⟩, ⟨1, ⟨0, 0, 0, 0⟩, []⟩, 0, amount⟩, false⟩

/-- The target is entity 1, the attacker entity 2. -/
def duel (health : UInt32) (amounts : List UInt32) : CombatWorld where
  entities e := if e = 1 then some (boss health) else if e = 2 then some brawler else none
  lookup _ := none
  damage := (amounts.map punch).map Blow.event
  actionIdCounter := 0
  deaths := []
  sent := []

theorem facing_duel (health : UInt32) (amounts : List UInt32) :
    Facing 1 (duel health amounts) (amounts.map punch) (boss health) (Health.new health) (fun _ => none) [] where
  here := rfl
  body := rfl
  requests := rfl
  damage := rfl
  targets blow hblow := by
    obtain ⟨amount, -, rfl⟩ := List.mem_map.1 hblow
    rfl
  attackers blow hblow := by
    obtain ⟨amount, -, rfl⟩ := List.mem_map.1 hblow
    rfl

theorem target_dies_once_by_the_second_punch :
    (∃ w' fate, runAll (strike .debug 1) [false, false, false] (duel 10 [4, 8, 5]) = some w' ∧
        fateOf 1 w' = some fate ∧
        DiesOnce (duel 10 [4, 8, 5]) (boss 10) 10 [punch 4, punch 8, punch 5] ⟨[], [], fun _ => none⟩ fate) ↔
      Attempted (strike .debug 1) (BlowFits .debug 1) [false, false, false] (duel 10 [4, 8, 5]) :=
  target_dies_once_iff .debug 1 _ _ _ _ _ _ (facing_duel 10 [4, 8, 5]) (by decide)

/-- In a debug build the second hit panics, although both together leave almost all of the health. -/
theorem second_punch_panics :
    Facing 1 (duel 1500000000 [1, 1]) [punch 1, punch 1] (boss 1500000000) (Health.new 1500000000)
        (fun _ => none) [] ∧
      runAll (strike .debug 1) [false, false] (duel 1500000000 [1, 1]) = none ∧
      ¬ ∃ w' fate, runAll (strike .debug 1) [false, false] (duel 1500000000 [1, 1]) = some w' ∧
        fateOf 1 w' = some fate ∧ DiesOnce (duel 1500000000 [1, 1]) (boss 1500000000) 1500000000
          [punch 1, punch 1] ⟨[], [], fun _ => none⟩ fate := by
  have hpanics : runAll (strike .debug 1) [false, false] (duel 1500000000 [1, 1]) = none :=
    Option.isNone_iff_eq_none.1 (by decide)
  refine ⟨facing_duel 1500000000 [1, 1], hpanics, ?_⟩
  rintro ⟨w', fate, hrun, -, -⟩
  cases hpanics.symm.trans hrun

end Skrillax.Agents

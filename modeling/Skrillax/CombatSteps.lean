/-
**Steps that go through.**

The systems take a lot for granted: that there is a basic attack for the weapon, that the skill is an
attack, that the target and the attacker are still there, that the damage of a weapon is a range, and that
no number overflows.  Where something else is taken for granted it follows from the invariant.

Main definitions:

* `HasAttack`, `CanRoll`, `CanExecute`, `CanHit`, `CanHandle` — what the systems take for granted;
* `CombatWorld.Allows` — the condition for a step.

Main results:

* `enqueueAction_isSome`, `updateAction_isSome`, `actionOf_isSome`, `handleDamage_isSome` — one system;
* `step_isSome_iff` — **a step goes through exactly if the state allows it**.
-/

import Skrillax.CombatActions

set_option relaxedAutoImplicit false
set_option autoImplicit false

namespace Skrillax.Agents

open Rust (Profile)

/-! ### What the systems take for granted -/

/-- The weapon has a basic attack that is a skill, and so has the empty hand; or the monster has a skill. -/
def HasAttack (data : CombatData) (combatant : Combatant) : Prop :=
  match combatant.weapon with
  | some (some item) => ∃ weaponType id,
      ObjectType.fromTypeId item.reference.common.typeId = some (.item (.equippable (.weapon weaponType))) ∧
        weaponSkillId weaponType = some id ∧ (data.skills id).isSome = true
  | some none => (data.skills PUNCH_SKILL_ID).isSome = true
  | none => ∃ character id, data.characters combatant.gameEntity.refId = some character ∧
      character.skills.head? = some id ∧ (data.skills id).isSome = true

/-- The basic attack is needed for the goal to attack, and for no other goal. -/
def CanPursue (data : CombatData) (combatant : Combatant) : Prop :=
  ∀ target, goalIn combatant = some (.attack target) → HasAttack data combatant

/-- The damage of a weapon in the hand of a player is a range. -/
def CanRoll (data : CombatData) (combatant : Combatant) : Prop :=
  ∀ item strength, combatant.weapon = some (some item) → combatant.strength = some strength →
    (data.attackPower strength item.reference).1 ≤ (data.attackPower strength item.reference).2 ∧
      (data.attackPower strength item.reference).2.toNat + 1 < 2 ^ 32

structure CanExecute (data : CombatData) (w : CombatWorld) (combatant : Combatant) (action : Action) :
    Prop where
  attack : ∃ param ∈ action.skill.params, param.isAttack = true
  target : ∀ target, action.target = .entity target → (w.entities target).isSome = true
  damage : CanRoll data combatant

/-- The amount of damage that is done. -/
def amountOf (event : DamageReceiveEvent) (combatant : Combatant) : UInt32 :=
  if combatant.invincible then 0 else event.amount

/-- No number overflows in a hit.  It is the health before the hit that is reported. -/
structure CanHit (event : DamageReceiveEvent) (attacker : GameEntity) (combatant : Combatant)
    (body : Health × DamageReceiver) : Prop where
  record : ∀ previous ∈ body.2 attacker.uniqueId,
    previous.toNat + (amountOf event combatant).toUInt64.toNat < 2 ^ 64
  negate : body.1.currentHealth.toInt32 ≠ Int32.minValue
  report : ∀ previous ∈ body.1.change,
    Profile.FitsI32 (previous.toInt + (-body.1.currentHealth.toInt32).toInt)

/-- The attacker of the next event is still there; a target that is dead is not hit any more. -/
def CanHandle (p : Profile) (w : CombatWorld) : Prop :=
  ∀ event ∈ w.damage.head?, ∀ target ∈ w.entities event.target.entity, ∀ body ∈ target.body,
    target.queue.isSome = true → ∃ attacker ∈ w.entities event.source.entity,
      body.1.isDead = true ∨ p = .release ∨ CanHit event attacker.gameEntity target body

/-- What a step takes for granted. -/
def CombatWorld.Allows (p : Profile) (data : CombatData) (w : CombatWorld) : CombatStep → Prop
  | .enqueueAction entity _ => ∀ combatant ∈ w.entities entity,
      combatant.states.has .idle = true → CanPursue data combatant
  | .updateAction entity _ => ∀ combatant ∈ w.entities entity,
      combatant.states.has .moving = true → combatant.states.has .idle = false → CanPursue data combatant
  | .action entity delta _ => ∀ combatant ∈ w.entities entity, ∀ action ∈ combatant.states.action,
      action.state = .casting → action.isDue delta → CanExecute data w combatant action
  | .handleDamage => CanHandle p w
  | _ => True

/-! ### When a step goes through -/

theorem findSkill_defined {data : CombatData} {id : UInt32} :
    (findSkill data id).toOption.isSome = true ↔ (data.skills id).isSome = true := by
  unfold findSkill
  cases data.skills id <;> simp [Except.toOption]

theorem getAttackSkill_weapon {data : CombatData} {item : Item} :
    (getAttackSkill data (some item)).toOption.isSome = true ↔ ∃ weaponType id,
      ObjectType.fromTypeId item.reference.common.typeId = some (.item (.equippable (.weapon weaponType))) ∧
        weaponSkillId weaponType = some id ∧ (data.skills id).isSome = true := by
  rw [getAttackSkill]
  split
  · rename_i weaponType hkind
    cases hid : weaponSkillId weaponType with
    | none =>
        refine ⟨fun h => (by cases h), ?_⟩
        rintro ⟨weaponType', id, hkind', hid', -⟩
        rw [hkind] at hkind'
        cases hkind'
        rw [hid] at hid'
        cases hid'
    | some id =>
        refine findSkill_defined.trans ⟨fun h => ⟨weaponType, id, hkind, hid, h⟩, ?_⟩
        rintro ⟨weaponType', id', hkind', hid', h⟩
        rw [hkind] at hkind'
        cases hkind'
        rw [hid] at hid'
        cases hid'
        exact h
  · rename_i hkind
    refine ⟨fun h => (by cases h), ?_⟩
    rintro ⟨weaponType, id, hkind', -⟩
    exact absurd hkind' (hkind weaponType)

theorem findAttackForMonster_isSome {data : CombatData} {monster : GameEntity} :
    (findAttackForMonster data monster).isSome = true ↔ ∃ character id,
      data.characters monster.refId = some character ∧ character.skills.head? = some id ∧
        (data.skills id).isSome = true := by
  constructor
  · intro h
    obtain ⟨skill, hskill⟩ := Option.isSome_iff_exists.1 h
    obtain ⟨character, hcharacter, hskill⟩ := Option.bind_eq_some_iff.1 hskill
    obtain ⟨id, hid, hskill⟩ := Option.bind_eq_some_iff.1 hskill
    exact ⟨character, id, hcharacter, hid, Option.isSome_of_eq_some hskill⟩
  · rintro ⟨character, id, hcharacter, hid, h⟩
    simpa [findAttackForMonster, hcharacter, hid] using h

theorem attackSkill_isSome {data : CombatData} {combatant : Combatant} :
    (attackSkill data combatant).isSome = true ↔ HasAttack data combatant := by
  unfold attackSkill HasAttack findAttackForPlayer
  cases combatant.weapon with
  | none => exact findAttackForMonster_isSome
  | some weapon =>
      cases weapon with
      | none => exact findSkill_defined
      | some item => exact getAttackSkill_weapon

/-- Whatever else is done about a goal to attack, the skill comes first. -/
theorem attack_isSome {data : CombatData} {combatant : Combatant} {pursuit : RefSkillData → Pursuit}
    {target : EntityReference} : ((attackSkill data combatant).map pursuit).isSome = true ↔
      ∀ target', Goal.attack target = .attack target' → HasAttack data combatant := by
  rw [Option.isSome_map, attackSkill_isSome]
  exact ⟨fun h _ _ => h, fun h => h target rfl⟩

theorem enqueueGoal_isSome {data : CombatData} {w : CombatWorld} {near : Bool} {combatant : Combatant}
    {goal : Goal} : (enqueueGoal data w near combatant goal).isSome = true ↔
      ∀ target, goal = .attack target → HasAttack data combatant := by
  cases goal with
  | attack target =>
      have hmap : enqueueGoal data w near combatant (.attack target) =
          (attackSkill data combatant).map fun skill => pursue w near skill target none :=
        (Option.map_eq_bind ..).symm
      rw [hmap]
      exact attack_isSome
  | pickUp target =>
      refine ⟨fun _ _ h => (by cases h), fun _ => ?_⟩
      rw [enqueueGoal]
      split
      · split
        · split <;> rfl
        · rfl
      · rfl
  | executeSkill target skill => exact ⟨fun _ _ h => (by cases h), fun _ => rfl⟩

theorem updateGoal_isSome {data : CombatData} {w : CombatWorld} {near : Bool} {combatant : Combatant}
    {moving : MovementGoal} {goal : Goal} : (updateGoal data w near combatant moving goal).isSome = true ↔
      ∀ target, goal = .attack target → HasAttack data combatant := by
  cases goal with
  | attack target =>
      have hmap : updateGoal data w near combatant moving (.attack target) =
          (attackSkill data combatant).map fun skill =>
            if moving ≠ .location then ⟨true, none, none⟩
            else pursue w near skill target (some .idle) := by
        rw [updateGoal]
        cases attackSkill data combatant with
        | none => rfl
        | some skill => exact (apply_ite some _ _ _).symm
      rw [hmap]
      exact attack_isSome
  | pickUp target =>
      refine ⟨fun _ _ h => (by cases h), fun _ => ?_⟩
      rw [updateGoal]
      split <;> rfl
  | executeSkill target skill =>
      refine ⟨fun _ _ h => (by cases h), fun _ => ?_⟩
      rw [updateGoal]
      split <;> rfl

theorem enqueueAction_isSome {data : CombatData} {w : CombatWorld} {near : Bool} {entity : Entity} :
    (enqueueAction data entity near w).isSome = true ↔ ∀ combatant ∈ w.entities entity,
      combatant.states.has .idle = true → CanPursue data combatant := by
  unfold enqueueAction CanPursue
  cases w.entities entity with
  | none => simp
  | some combatant =>
      cases hidle : combatant.states.has .idle with
      | false => simp [hidle]
      | true =>
          cases hgoal : goalIn combatant with
          | none => simp [hgoal]
          | some goal => simp [hidle, hgoal, enqueueGoal_isSome]

theorem updateAction_isSome {data : CombatData} {w : CombatWorld} {near : Bool} {entity : Entity} :
    (updateAction data entity near w).isSome = true ↔ ∀ combatant ∈ w.entities entity,
      combatant.states.has .moving = true → combatant.states.has .idle = false →
        CanPursue data combatant := by
  unfold updateAction CanPursue
  cases w.entities entity with
  | none => simp
  | some combatant =>
      cases hmoving : combatant.states.moving with
      | none => simp [States.has, hmoving]
      | some moving =>
          cases hgoal : goalIn combatant with
          | none => simp [hmoving, hgoal]
          | some goal =>
              cases hidle : combatant.states.has .idle with
              | true => simp [hmoving, hgoal, hidle]
              | false =>
                  have hhas : combatant.states.has .moving = true := by simp [States.has, hmoving]
                  simp [hmoving, hgoal, hidle, hhas, updateGoal_isSome]

theorem rollDamage_isSome {p : Profile} {bounds : UInt32 × UInt32} {roll : ℕ} :
    (rollDamage p bounds roll).isSome = true ↔ bounds.1 ≤ bounds.2 ∧ bounds.2.toNat + 1 < 2 ^ 32 := by
  by_cases hlt : bounds.2.toNat + 1 < 2 ^ 32
  · have habove : p.addU32 bounds.2 1 = some (bounds.2 + 1) :=
      Profile.addU32_eq_some.2 ⟨rfl, Or.inl hlt⟩
    have hnat : (bounds.2 + 1).toNat = bounds.2.toNat + 1 := by
      rw [UInt32.toNat_add]
      exact Nat.mod_eq_of_lt hlt
    have hiff : bounds.1 < bounds.2 + 1 ↔ bounds.1 ≤ bounds.2 := by
      rw [UInt32.lt_iff_toNat_lt, UInt32.le_iff_toNat_le, hnat, Nat.lt_succ_iff]
    by_cases hle : bounds.1 ≤ bounds.2
    · refine iff_of_true ?_ ⟨hle, hlt⟩
      simp [rollDamage, habove, hiff, hle]
    · simp [rollDamage, habove, hiff, hle]
  · -- either the sum panics or it is zero, and then the range is empty
    have hmax : bounds.2.toNat = 2 ^ 32 - 1 := by
      have := bounds.2.toNat_lt
      omega
    refine ⟨fun h => ?_, fun h => absurd h.2 hlt⟩
    obtain ⟨amount, hroll⟩ := Option.isSome_iff_exists.1 h
    obtain ⟨above, habove, hroll⟩ := Option.bind_eq_some_iff.1 hroll
    obtain ⟨rfl, -⟩ := Profile.addU32_eq_some.1 habove
    have hzero : (bounds.2 + 1).toNat = 0 := by
      rw [UInt32.toNat_add, hmax]
      rfl
    split at hroll
    · rename_i hbelow
      rw [UInt32.lt_iff_toNat_lt, hzero] at hbelow
      exact absurd hbelow (Nat.not_lt_zero _)
    · cases hroll

theorem damageOf_isSome {p : Profile} {data : CombatData} {combatant : Combatant} {roll : ℕ} :
    (damageOf p data combatant roll).isSome = true ↔ CanRoll data combatant := by
  unfold damageOf CanRoll
  cases combatant.weapon with
  | none => simp
  | some weapon =>
      cases combatant.strength with
      | none => simp
      | some strength =>
          cases weapon with
          | none => simp
          | some item => simp [rollDamage_isSome]

theorem execute_isSome {p : Profile} {data : CombatData} {entity : Entity} {combatant : Combatant}
    {action : Action} {roll : ℕ} {w : CombatWorld} (h : action.UnderWay) :
    (execute p data entity combatant action roll w).isSome = true ↔ CanExecute data w combatant action := by
  obtain ⟨target, htarget⟩ := h.target
  constructor
  · intro hsome
    obtain ⟨w', hstep⟩ := Option.isSome_iff_exists.1 hsome
    obtain ⟨attack, hattack, hstep⟩ := Option.bind_eq_some_iff.1 hstep
    simp only [htarget] at hstep
    obtain ⟨found, hfound, hstep⟩ := Option.bind_eq_some_iff.1 hstep
    obtain ⟨amount, hamount, -⟩ := Option.bind_eq_some_iff.1 hstep
    refine ⟨⟨attack, List.mem_of_find?_eq_some hattack, List.find?_some hattack⟩, ?_,
      damageOf_isSome.1 (Option.isSome_of_eq_some hamount)⟩
    intro target' htarget'
    rw [htarget] at htarget'
    cases htarget'
    exact Option.isSome_of_eq_some hfound
  · rintro ⟨hparam, hentity, hdamage⟩
    obtain ⟨attack, hattack⟩ := Option.isSome_iff_exists.1 (List.find?_isSome.2 hparam)
    obtain ⟨found, hfound⟩ := Option.isSome_iff_exists.1 (hentity target htarget)
    have hamount : (damageOf p data combatant roll).isSome = true := damageOf_isSome.2 hdamage
    obtain ⟨amount, hamount⟩ := Option.isSome_iff_exists.1 hamount
    cases amount <;> simp [execute, hattack, htarget, hfound, hamount]

theorem canExecute_modify {data : CombatData} {w : CombatWorld} {entity : Entity}
    {change : Combatant → Combatant} {combatant : Combatant} {action : Action} :
    CanExecute data (w.modify entity change) combatant action ↔ CanExecute data w combatant action := by
  have hsame : ∀ target, ((w.modify entity change).entities target).isSome = (w.entities target).isSome := by
    intro target
    rw [CombatWorld.modify_entities]
    split
    · exact Option.isSome_map
    · rfl
  constructor
  · rintro ⟨hattack, htarget, hdamage⟩
    exact ⟨hattack, fun target h => hsame target ▸ htarget target h, hdamage⟩
  · rintro ⟨hattack, htarget, hdamage⟩
    exact ⟨hattack, fun target h => (hsame target).symm ▸ htarget target h, hdamage⟩

theorem actionOf_isSome {p : Profile} {data : CombatData} {entity : Entity} {delta roll : ℕ}
    {w : CombatWorld} (h : w.UnderWay) : (actionOf p data entity delta roll w).isSome = true ↔
      ∀ combatant ∈ w.entities entity, ∀ action ∈ combatant.states.action,
        action.state = .casting → action.isDue delta → CanExecute data w combatant action := by
  unfold actionOf
  cases hcombatant : w.entities entity with
  | none => simp
  | some combatant =>
      cases haction : combatant.states.action with
      | none => simp [haction]
      | some action =>
          have hunder := (h entity combatant hcombatant).current action haction
          simp only [Option.mem_def, Option.some_inj, forall_eq', haction]
          obtain ⟨hdue, heq⟩ | ⟨next, hdue, hnext, heq⟩ | ⟨-, hstate, heq⟩ :=
            Action.advance_cases hunder delta
          · simp [heq, hdue]
          · simp only [heq]
            cases hstate : action.state with
            | casting =>
                rw [hstate] at hnext
                cases hnext
                rw [execute_isSome hunder, canExecute_modify]
                exact ⟨fun h _ _ => h, fun h => h rfl hdue⟩
            | preparation =>
                rw [hstate] at hnext
                cases hnext
                simp
            | execution =>
                rw [hstate] at hnext
                cases hnext
                simp
            | teardown =>
                rw [hstate] at hnext
                cases hnext
          · simp [heq, hstate]

theorem recordDamage_isSome {p : Profile} {receiver : DamageReceiver} {source : UInt32} {amount : UInt64} :
    (recordDamage p receiver source amount).isSome = true ↔
      ∀ previous ∈ receiver source, previous.toNat + amount.toNat < 2 ^ 64 ∨ p = .release := by
  unfold recordDamage
  cases hprevious : receiver source with
  | none => simp
  | some previous =>
      have hsum : (p.addU64 previous amount).isSome = true ↔ _ := Profile.addU64_isSome
      cases hadd : p.addU64 previous amount <;> rw [hadd] at hsum <;> simp_all

theorem hit_isSome {p : Profile} {event : DamageReceiveEvent} {attacker : GameEntity}
    {combatant : Combatant} {body : Health × DamageReceiver} :
    (hit p event attacker combatant body).isSome = true ↔
      p = .release ∨ CanHit event attacker combatant body := by
  have hhit : (hit p event attacker combatant body).isSome =
      ((recordDamage p body.2 attacker.uniqueId (amountOf event combatant).toUInt64).isSome &&
        (body.1.reduce p (amountOf event combatant)).isSome) := by
    simp only [hit, amountOf]
    cases recordDamage p body.2 attacker.uniqueId
        (if combatant.invincible then 0 else event.amount).toUInt64 with
    | none => rfl
    | some receiver =>
        cases body.1.reduce p (if combatant.invincible then 0 else event.amount) with
        | none => rfl
        | some health => cases hdead : health.isDead <;> simp [hdead]
  rw [hhit, Bool.and_eq_true, recordDamage_isSome, Health.reduce_isSome]
  by_cases hp : p = .release
  · simp [hp]
  · simp only [hp, or_false, false_or]
    exact ⟨fun ⟨hrecord, hnegate, hreport⟩ => ⟨hrecord, hnegate, hreport⟩,
      fun h => ⟨h.record, h.negate, h.report⟩⟩

theorem handleHit_isSome {p : Profile} {event : DamageReceiveEvent} {target : Combatant}
    {body : Health × DamageReceiver} {w : CombatWorld} :
    (handleHit p event target body w).isSome = true ↔ ∃ attacker ∈ w.entities event.source.entity,
      body.1.isDead = true ∨ p = .release ∨ CanHit event attacker.gameEntity target body := by
  simp only [handleHit]
  cases w.entities event.source.entity with
  | none => simp
  | some attacker =>
      simp only [Option.bind_eq_bind, Option.bind_some]
      cases hdead : body.1.isDead with
      | true => cases attacker.client <;> simp
      | false =>
          have hiff : (hit p event attacker.gameEntity target body).isSome = true ↔ _ := hit_isSome
          cases hhit : hit p event attacker.gameEntity target body with
          | none =>
              rw [hhit] at hiff
              simpa using hiff
          | some result =>
              rw [hhit] at hiff
              cases hinformed : informed event attacker target <;> simpa [hinformed] using hiff

theorem handleDamage_isSome {p : Profile} {w : CombatWorld} :
    (handleDamage p w).isSome = true ↔ CanHandle p w := by
  unfold handleDamage CanHandle
  cases hdamage : w.damage with
  | nil => simp
  | cons event events =>
      cases htarget : w.entities event.target.entity with
      | none => simp [htarget]
      | some target =>
          cases hbody : target.body with
          | none => simp [htarget, hbody]
          | some body =>
              obtain ⟨health, receiver⟩ := body
              cases hqueue : target.queue with
              | none => simp [htarget, hbody, hqueue]
              | some queue => simp [htarget, hbody, hqueue, handleHit_isSome]

/-- **A step goes through exactly if the state allows it.** -/
theorem step_isSome_iff {p : Profile} {data : CombatData} {w : CombatWorld} (h : w.UnderWay)
    (step : CombatStep) : (CombatWorld.step p data step w).isSome = true ↔ w.Allows p data step := by
  cases step with
  | enqueueAction entity near => exact enqueueAction_isSome
  | updateAction entity near => exact updateAction_isSome
  | action entity delta roll => exact actionOf_isSome h
  | handleDamage => exact handleDamage_isSome
  | _ => exact ⟨fun _ => trivial, fun _ => rfl⟩

end Skrillax.Agents

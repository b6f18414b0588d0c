/-
**Receiving experience.**

`receive_experience` adds what an event brings, converts what is enough of it to skill points, and lets the
player level up as long as the experience covers the requirement of the level.  The loop need not end: at
level 255 the level stays the same, and an entry for it that requires nothing is covered again and again.
The counter of level-ups has eight bits, so that a debug build panics at the 128th one since the last reset.

Main definitions:

* `LevelMap`, `SP`, `Progress` — the table of requirements, and the components of a player;
* `Progress.gain`, `levelUps`, `Progress.receive` — an event;
* `receiveExperience`, `runTicks` — the events of one tick, and ticks with a reset after each;
* `LevelMap.ladder` — the table as a ladder, on which every level-up is another rung.

Main results:

* `levelUps_enough` — more steps of the loop than it is given here make no difference;
* `levelUps_spec`, `levelUps_isSome` — the loop climbs the ladder to the end;
* `receiveExperience_conserves` — **where a player gets to depends on the sums only, and nothing is lost**.
-/

import Skrillax.GmCommands
import Skrillax.Ladder
import Skrillax.Reports

set_option relaxedAutoImplicit false
set_option autoImplicit false

namespace Skrillax

open Rust PartialAction
open Chat (ReceiveExperienceEvent)

/-! ### Components -/

/-- The required experience by level; there is one entry for a level at most. -/
structure LevelMap where
  entries : List (UInt8 × UInt64)
  nodup : (entries.map Prod.fst).Nodup

def LevelMap.getExpForLevel (map : LevelMap) (level : UInt8) : Option UInt64 := map.entries.lookup level

structure SP where
  sp : UInt32
  deriving DecidableEq, Repr

def SP.gain (p : Profile) (self : SP) (amount : UInt32) : Option SP := (p.addU32 self.sp amount).map SP.mk

/-- The components of a player that `receive_experience` asks for. -/
structure Progress where
  leveled : Leveled
  experienced : Experienced EntityReference
  sp : SP

def Progress.reset (progress : Progress) : Progress :=
  { progress with leveled := progress.leveled.reset, experienced := progress.experienced.reset }

/-! ### An event -/

/-- What an event brings, before the loop. -/
def Progress.gain (p : Profile) (event : ReceiveExperienceEvent) (progress : Progress) : Option Progress := do
  let received ← progress.experienced.receive p event.exp event.sp event.source
  let (experienced, receivedSp) := received.convertSp
  (if 0 < receivedSp then progress.sp.gain p receivedSp else some progress.sp).map fun sp =>
    ⟨progress.leveled, experienced, sp⟩

/-- The loop, for less than so many level-ups. -/
def levelUps (p : Profile) (map : LevelMap) :
    ℕ → Leveled → Experienced EntityReference → Option (Leveled × Experienced EntityReference)
  | 0, _, _ => none
  | fuel + 1, leveled, experienced =>
      match map.getExpForLevel leveled.level with
      | none => some (leveled, experienced)
      | some exp =>
          match experienced.tryLevelUp exp with
          | (experienced, true) => (leveled.levelUp p).bind fun leveled => levelUps p map fuel leveled experienced
          | (experienced, false) => some (leveled, experienced)

/-- As many level-ups as there can be in a loop that ends. -/
def Progress.fuel (progress : Progress) : ℕ := 256 + progress.experienced.experience.toNat

def Progress.levelUps (p : Profile) (map : LevelMap) (progress : Progress) : Option Progress :=
  (Skrillax.levelUps p map progress.fuel progress.leveled progress.experienced).map
    fun (leveled, experienced) => ⟨leveled, experienced, progress.sp⟩

/-- An event with nothing in it is skipped. -/
def Progress.receive (p : Profile) (map : LevelMap) (event : ReceiveExperienceEvent) (progress : Progress) :
    Option Progress :=
  if event.exp = 0 ∧ event.sp = 0 then some progress
  else (progress.gain p event).bind (Progress.levelUps p map)

/-! ### Ticks -/

def receiveEvent (p : Profile) (map : LevelMap) (event : ReceiveExperienceEvent)
    (players : Entity → Option Progress) : Option (Entity → Option Progress) :=
  match players event.target.entity with
  | none => some players
  | some progress =>
      (progress.receive p map event).map fun progress =>
        Function.update players event.target.entity (some progress)

def receiveExperience (p : Profile) (map : LevelMap) (events : List ReceiveExperienceEvent)
    (players : Entity → Option Progress) : Option (Entity → Option Progress) :=
  runAll (receiveEvent p map) events players

/-- The components are reset at the end of a tick. -/
def experienceTick (p : Profile) (map : LevelMap) (events : List ReceiveExperienceEvent)
    (players : Entity → Option Progress) : Option (Entity → Option Progress) :=
  (receiveExperience p map events players).map fun players entity => (players entity).map Progress.reset

def runTicks (p : Profile) (map : LevelMap) (ticks : List (List ReceiveExperienceEvent))
    (players : Entity → Option Progress) : Option (Entity → Option Progress) :=
  runAll (experienceTick p map) ticks players

/-! ### The ladder -/

/-- The requirements as the prices of a ladder.  At level 255 the level stays the same, but the rungs go on. -/
def LevelMap.ladder (map : LevelMap) (rung : ℕ) : Option ℕ :=
  (map.getExpForLevel (UInt8.ofNat (min rung 255))).map UInt64.toNat

/-- The level that belongs to a rung. -/
def Leveled.At (leveled : Leveled) (rung : ℕ) : Prop := leveled.level.toNat = min rung 255

theorem Leveled.at_level (leveled : Leveled) : leveled.At leveled.level.toNat := by
  have hlevel := leveled.level.toNat_lt
  unfold Leveled.At
  omega

theorem Leveled.At.ladder {leveled : Leveled} {rung : ℕ} (h : leveled.At rung) (map : LevelMap) :
    map.ladder rung = (map.getExpForLevel leveled.level).map UInt64.toNat := by
  rw [LevelMap.ladder, ← h, UInt8.ofNat_toNat]

theorem Leveled.levelUp_eq_some {p : Profile} {leveled leveled' : Leveled} :
    leveled.levelUp p = some leveled' ↔
      leveled' = ⟨saturatingAddU8 leveled.level 1, max (saturatingAddU8 leveled.level 1) leveled.maxLevel,
        leveled.leveledUp + 1⟩ ∧ (leveled.leveledUp.toInt + 1 ≤ 127 ∨ p = .release) := by
  have hadd (z : Int8) : p.addI8 leveled.leveledUp 1 = some z ↔
      z = leveled.leveledUp + 1 ∧ (leveled.leveledUp.toInt + 1 ≤ 127 ∨ p = .release) := by
    have hfits : Profile.FitsI8 (leveled.leveledUp.toInt + (1 : Int8).toInt) ↔
        leveled.leveledUp.toInt + 1 ≤ 127 := by
      have hle := leveled.leveledUp.le_toInt
      have hone : (1 : Int8).toInt = 1 := rfl
      rw [Profile.FitsI8, hone]
      omega
    rw [Profile.addI8, Profile.checked_eq_some, hfits]
  simp only [Leveled.levelUp, Option.bind_eq_bind, Option.bind_eq_some_iff, hadd, Option.pure_def,
    Option.some.injEq]
  constructor
  · rintro ⟨leveledUp, ⟨rfl, hfits⟩, rfl⟩
    exact ⟨rfl, hfits⟩
  · rintro ⟨rfl, hfits⟩
    exact ⟨_, ⟨rfl, hfits⟩, rfl⟩

theorem Leveled.At.levelUp {p : Profile} {leveled leveled' : Leveled} {rung : ℕ} (h : leveled.At rung)
    (hup : leveled.levelUp p = some leveled') : leveled'.At (rung + 1) := by
  obtain ⟨rfl, -⟩ := Leveled.levelUp_eq_some.1 hup
  have hone : (1 : UInt8).toNat = 1 := rfl
  rw [Leveled.At, toNat_saturatingAddU8, h, hone]
  omega

/-! ### The loop -/

section Loop

variable {p : Profile} {map : LevelMap} {leveled : Leveled} {experienced : Experienced EntityReference}
  {rung : ℕ}

/-- The experience after a level-up. -/
theorem Experienced.tryLevelUp_of_le {required : UInt64} (h : required ≤ experienced.experience) :
    ∃ experienced', experienced.tryLevelUp required = (experienced', true) ∧
      experienced.experience.toNat = required.toNat + experienced'.experience.toNat ∧
        experienced'.spExp = experienced.spExp := by
  refine ⟨_, if_pos h, ?_, rfl⟩
  have hle := UInt64.le_iff_toNat_le.1 h
  rw [UInt64.toNat_sub_of_le _ _ h]
  omega

theorem levelUps_settled (hat : leveled.At rung)
    (hsettled : Ladder.Settled map.ladder (rung, experienced.experience.toNat)) (fuel : ℕ) :
    levelUps p map (fuel + 1) leveled experienced = some (leveled, experienced) := by
  have hladder := hat.ladder map
  cases hexp : map.getExpForLevel leveled.level with
  | none => simp only [levelUps, hexp]
  | some required =>
      have hlt : ¬ required ≤ experienced.experience := by
        intro hle
        obtain ⟨rest, -, hrest, -⟩ := Experienced.tryLevelUp_of_le hle
        refine hsettled (rung + 1, rest.experience.toNat) ?_
        rw [hrest]
        exact .climb (by rw [hladder, hexp]; rfl)
      have htry : experienced.tryLevelUp required = (experienced, false) := if_neg hlt
      simp only [levelUps, hexp, htry]

theorem levelUps_climb (hat : leveled.At rung) {rest : ℕ}
    (hstep : Ladder.Step map.ladder (rung, experienced.experience.toNat) (rung + 1, rest)) :
    ∃ experienced', experienced'.experience.toNat = rest ∧ experienced'.spExp = experienced.spExp ∧
      ∀ (p : Profile) (fuel : ℕ), levelUps p map (fuel + 1) leveled experienced =
        (leveled.levelUp p).bind fun leveled => levelUps p map fuel leveled experienced' := by
  have hladder := hat.ladder map
  obtain ⟨paid, hprice, hmoney⟩ := hstep.paid
  obtain ⟨required, hexp, rfl⟩ := Option.map_eq_some_iff.1 (hladder.symm.trans hprice)
  dsimp only at hmoney
  have hle : required ≤ experienced.experience := UInt64.le_iff_toNat_le.2 (by omega)
  obtain ⟨experienced', htry, hrest, hsp⟩ := Experienced.tryLevelUp_of_le hle
  refine ⟨experienced', by omega, hsp, fun p fuel => ?_⟩
  simp only [levelUps, hexp, htry]

/-- **The loop climbs the ladder to the end.**  The counter counts the rungs as long as it can, and in a debug
build it can. -/
theorem levelUps_spec {fuel : ℕ} {leveled' : Leveled} {experienced' : Experienced EntityReference}
    (hat : leveled.At rung) (h : levelUps p map fuel leveled experienced = some (leveled', experienced')) :
    ∃ top, Ladder.Climbs map.ladder (rung, experienced.experience.toNat)
        (top, experienced'.experience.toNat) ∧
      Ladder.Settled map.ladder (top, experienced'.experience.toNat) ∧ leveled'.At top ∧
      experienced'.spExp = experienced.spExp ∧
      (leveled.leveledUp.toInt + ((top : ℤ) - rung) ≤ 127 →
        leveled'.leveledUp.toInt = leveled.leveledUp.toInt + ((top : ℤ) - rung)) ∧
      (p = .debug → leveled.leveledUp.toInt + ((top : ℤ) - rung) ≤ 127) := by
  induction fuel generalizing leveled experienced rung with
  | zero => cases h
  | succ fuel ih =>
      by_cases hsettled : Ladder.Settled map.ladder (rung, experienced.experience.toNat)
      · rw [levelUps_settled hat hsettled] at h
        obtain ⟨rfl, rfl⟩ := Prod.mk.inj (Option.some_inj.1 h)
        have hle : leveled.leveledUp.toInt ≤ 127 := leveled.leveledUp.toInt_le
        exact ⟨rung, .refl, hsettled, hat, rfl, fun _ => by omega, fun _ => by omega⟩
      · obtain ⟨⟨next, rest⟩, hstep⟩ := not_forall_not.1 hsettled
        obtain rfl : next = rung + 1 := hstep.rung_eq
        obtain ⟨between, rfl, hspExp, hloop⟩ := levelUps_climb hat hstep
        rw [hloop] at h
        obtain ⟨upped, hup, hrest⟩ := Option.bind_eq_some_iff.1 h
        obtain ⟨top, hclimbs, htop, hat', hspExp', hcount, hdebug⟩ := ih (hat.levelUp hup) hrest
        obtain ⟨rfl, hfits⟩ := Leveled.levelUp_eq_some.1 hup
        have hle := hclimbs.le
        have hlower := leveled.leveledUp.le_toInt
        have hsucc (h : leveled.leveledUp.toInt + 1 ≤ 127) :
            (leveled.leveledUp + 1).toInt = leveled.leveledUp.toInt + 1 := by
          have hone : (1 : Int8).toInt = 1 := rfl
          rw [Int8.toInt_add, hone, Int.bmod_eq_of_le (by omega) (by omega)]
        dsimp only at hle hcount hdebug
        push_cast at hcount hdebug
        refine ⟨top, .head hstep hclimbs, htop, hat', hspExp'.trans hspExp, fun hsmall => ?_, fun hp => ?_⟩
        · rw [hsucc (by omega)] at hcount
          rw [hcount (by omega)]
          omega
        · have hsmall := Profile.or_release_iff.1 hfits hp
          have hbound := hdebug hp
          rw [hsucc hsmall] at hbound
          omega

/-- The loop returns at the end of the ladder, unless the counter leaves its range. -/
theorem levelUps_isSome {fuel top rest : ℕ} (hat : leveled.At rung)
    (hclimbs : Ladder.Climbs map.ladder (rung, experienced.experience.toNat) (top, rest))
    (hsettled : Ladder.Settled map.ladder (top, rest)) (hfuel : top < rung + fuel)
    (hcounter : leveled.leveledUp.toInt + ((top : ℤ) - rung) ≤ 127 ∨ p = .release) :
    (levelUps p map fuel leveled experienced).isSome = true := by
  induction fuel generalizing leveled experienced rung with
  | zero => exact absurd hclimbs.le (by dsimp only; omega)
  | succ fuel ih =>
      rcases Relation.ReflTransGen.cases_head hclimbs with heq | ⟨⟨next, between⟩, hstep, hrest⟩
      · rw [← heq] at hsettled
        rw [levelUps_settled hat hsettled]
        rfl
      · obtain rfl : next = rung + 1 := hstep.rung_eq
        obtain ⟨experienced', rfl, -, hloop⟩ := levelUps_climb hat hstep
        have hle : rung + 1 ≤ top := Ladder.Climbs.le hrest
        have hup : leveled.levelUp p = some ⟨saturatingAddU8 leveled.level 1,
            max (saturatingAddU8 leveled.level 1) leveled.maxLevel, leveled.leveledUp + 1⟩ :=
          Leveled.levelUp_eq_some.2 ⟨rfl, hcounter.imp_left fun h => by omega⟩
        rw [hloop, hup]
        refine ih (hat.levelUp hup) hrest (by omega) (hcounter.imp_left fun h => ?_)
        have hlower := leveled.leveledUp.le_toInt
        have hone : (1 : Int8).toInt = 1 := rfl
        dsimp only
        rw [Int8.toInt_add, hone, Int.bmod_eq_of_le (by omega) (by omega)]
        push_cast
        omega

/-- Where the end is, if there is one: beyond level 255 every rung has the same price, which is not zero. -/
theorem LevelMap.top_lt {start top money rest : ℕ} (hclimbs : Ladder.Climbs map.ladder (start, money)
    (top, rest)) (hsettled : Ladder.Settled map.ladder (top, rest)) (hstart : start ≤ 255) :
    top < start + (256 + money) := by
  obtain ⟨-, hsome, hmoney⟩ := Ladder.climbs_iff.1 hclimbs
  by_contra hfar
  have hsame (level : ℕ) (h : 255 ≤ level) : map.ladder level = map.ladder 255 := by
    rw [LevelMap.ladder, LevelMap.ladder, Nat.min_eq_right h, Nat.min_self]
  obtain ⟨paid, hpaid⟩ := Option.isSome_iff_exists.1 (hsome 255 hstart (by omega))
  have hpos : 0 < paid := by
    by_contra hzero
    obtain rfl : paid = 0 := by omega
    have hfree : map.ladder top = some 0 := (hsame top (by omega)).trans hpaid
    have hstep : Ladder.Step map.ladder (top, 0 + rest) (top + 1, rest) := .climb hfree
    rw [zero_add] at hstep
    exact hsettled (top + 1, rest) hstep
  have hcost : top - 255 ≤ Ladder.cost map.ladder 255 top := by
    have hone : ∀ level ∈ Finset.Ico 255 top, 1 ≤ (map.ladder level).getD 0 := by
      intro level hlevel
      rw [hsame level (Finset.mem_Ico.1 hlevel).1, hpaid]
      exact hpos
    calc top - 255 = ∑ level ∈ Finset.Ico 255 top, 1 := by simp
      _ ≤ Ladder.cost map.ladder 255 top := Finset.sum_le_sum hone
  have hsplit : Ladder.cost map.ladder start 255 + Ladder.cost map.ladder 255 top =
      Ladder.cost map.ladder start top := Ladder.cost_add hstart (by omega)
  omega

theorem levelUps_mono {fuel more : ℕ} {result : Leveled × Experienced EntityReference} (hle : fuel ≤ more)
    (h : levelUps p map fuel leveled experienced = some result) :
    levelUps p map more leveled experienced = some result := by
  induction fuel generalizing leveled experienced more with
  | zero => cases h
  | succ fuel ih =>
      obtain ⟨more, rfl⟩ := Nat.exists_eq_add_of_le' (Nat.le_of_add_left_le hle)
      unfold levelUps at h ⊢
      cases hexp : map.getExpForLevel leveled.level with
      | none => rwa [hexp] at h
      | some required =>
          rw [hexp] at h
          dsimp only at h ⊢
          cases htry : experienced.tryLevelUp required with
          | mk experienced' up =>
              rw [htry] at h
              cases up with
              | false => exact h
              | true =>
                  obtain ⟨leveled', hup, hrest⟩ := Option.bind_eq_some_iff.1 h
                  exact Option.bind_eq_some_iff.2 ⟨leveled', hup, ih (by omega) hrest⟩

/-- **More steps of the loop make no difference**: if it ends at all, it ends within those that it is given. -/
theorem levelUps_enough {fuel : ℕ} {result : Leveled × Experienced EntityReference} (progress : Progress)
    (h : levelUps p map fuel progress.leveled progress.experienced = some result) :
    levelUps p map progress.fuel progress.leveled progress.experienced = some result := by
  have hlevel := progress.leveled.level.toNat_lt
  obtain ⟨top, hclimbs, hsettled, -, -, -, hdebug⟩ := levelUps_spec progress.leveled.at_level h
  have htop := LevelMap.top_lt hclimbs hsettled (by omega)
  obtain ⟨result', hresult'⟩ := Option.isSome_iff_exists.1
    (levelUps_isSome progress.leveled.at_level hclimbs hsettled htop (Profile.or_release_iff.2 hdebug))
  have hsame := levelUps_mono (le_max_left fuel progress.fuel) h
  rw [levelUps_mono (le_max_right fuel progress.fuel) hresult'] at hsame
  rw [← hsame, ← hresult']
  rfl

/-- What a debug build returns is what a release build returns. -/
theorem levelUps_release {fuel : ℕ} {result : Leveled × Experienced EntityReference}
    (h : levelUps .debug map fuel leveled experienced = some result) :
    levelUps .release map fuel leveled experienced = some result := by
  induction fuel generalizing leveled experienced with
  | zero => cases h
  | succ fuel ih =>
      unfold levelUps at h ⊢
      cases hexp : map.getExpForLevel leveled.level with
      | none => rwa [hexp] at h
      | some required =>
          rw [hexp] at h
          dsimp only at h ⊢
          cases htry : experienced.tryLevelUp required with
          | mk experienced' up =>
              rw [htry] at h
              cases up with
              | false => exact h
              | true =>
                  obtain ⟨leveled', hup, hrest⟩ := Option.bind_eq_some_iff.1 h
                  have hup' : leveled.levelUp .release = some leveled' :=
                    Leveled.levelUp_eq_some.2 ⟨(Leveled.levelUp_eq_some.1 hup).1, Or.inr rfl⟩
                  exact Option.bind_eq_some_iff.2 ⟨leveled', hup', ih hrest⟩

end Loop

/-! ### What an event brings -/

section Gain

variable {p : Profile} {event : ReceiveExperienceEvent} {progress progress' : Progress}

/-- The skill points that an event makes. -/
def Progress.points (event : ReceiveExperienceEvent) (progress : Progress) : UInt32 :=
  ((progress.experienced.spExp + event.sp) / Experienced.expPerSp).toUInt32

/-- The components with what an event brings. -/
def Progress.gained (event : ReceiveExperienceEvent) (progress : Progress) : Progress where
  leveled := progress.leveled
  experienced := {
    experience := progress.experienced.experience + event.exp
    spExp := (progress.experienced.spExp + event.sp) % Experienced.expPerSp
    experienceReceived :=
      progress.experienced.experienceReceived ++ [⟨event.exp, event.sp, false, event.source⟩] }
  sp := ⟨progress.sp.sp + progress.points event⟩

/-- None of the sums overflows. -/
def Progress.GainFits (event : ReceiveExperienceEvent) (progress : Progress) : Prop :=
  progress.experienced.experience.toNat + event.exp.toNat < 2 ^ 64 ∧
    progress.experienced.spExp.toNat + event.sp.toNat < 2 ^ 64 ∧
    progress.sp.sp.toNat + (progress.points event).toNat < 2 ^ 32

theorem Progress.gain_eq_some :
    progress.gain p event = some progress' ↔
      progress' = progress.gained event ∧ (progress.GainFits event ∨ p = .release) := by
  have hreceive (experienced : Experienced EntityReference) :
      progress.experienced.receive p event.exp event.sp event.source = some experienced ↔
        experienced = ⟨progress.experienced.experience + event.exp, progress.experienced.spExp + event.sp,
          progress.experienced.experienceReceived ++ [⟨event.exp, event.sp, false, event.source⟩]⟩ ∧
        ((progress.experienced.experience.toNat + event.exp.toNat < 2 ^ 64 ∧
          progress.experienced.spExp.toNat + event.sp.toNat < 2 ^ 64) ∨ p = .release) := by
    simp only [Experienced.receive, Option.bind_eq_bind, Option.bind_eq_some_iff, Profile.addU64_eq_some,
      Option.pure_def, Option.some.injEq]
    constructor
    · rintro ⟨_, ⟨rfl, hexp⟩, _, ⟨rfl, hsp⟩, rfl⟩
      exact ⟨rfl, by tauto⟩
    · rintro ⟨rfl, hfits⟩
      exact ⟨_, ⟨rfl, by tauto⟩, _, ⟨rfl, by tauto⟩, rfl⟩
  have hpoints (sp : SP) : (if 0 < progress.points event then progress.sp.gain p (progress.points event)
      else some progress.sp) = some sp ↔ sp = ⟨progress.sp.sp + progress.points event⟩ ∧
        (progress.sp.sp.toNat + (progress.points event).toNat < 2 ^ 32 ∨ p = .release) := by
    split
    · simp only [SP.gain, Option.map_eq_some_iff, Profile.addU32_eq_some]
      constructor
      · rintro ⟨_, ⟨rfl, hfits⟩, rfl⟩
        exact ⟨rfl, hfits⟩
      · rintro ⟨rfl, hfits⟩
        exact ⟨_, ⟨rfl, hfits⟩, rfl⟩
    · rename_i hnot
      have hzero : progress.points event = 0 := by
        rw [UInt32.lt_iff_toNat_lt, UInt32.toNat_zero] at hnot
        exact UInt32.toNat_inj.1 (by rw [UInt32.toNat_zero]; omega)
      have hlt := progress.sp.sp.toNat_lt
      rw [hzero, UInt32.add_zero, UInt32.toNat_zero, Option.some_inj, Nat.add_zero]
      constructor
      · rintro rfl
        exact ⟨rfl, Or.inl hlt⟩
      · rintro ⟨rfl, -⟩
        rfl
  simp only [Progress.gain, Option.bind_eq_bind, Option.bind_eq_some_iff, hreceive, Option.map_eq_some_iff,
    Progress.GainFits]
  constructor
  · rintro ⟨_, ⟨rfl, hfits⟩, sp, hsp, rfl⟩
    obtain ⟨rfl, hsum⟩ := (hpoints sp).1 hsp
    exact ⟨rfl, by tauto⟩
  · rintro ⟨rfl, hfits⟩
    exact ⟨_, ⟨rfl, by tauto⟩, _, (hpoints _).2 ⟨rfl, by tauto⟩, rfl⟩

end Gain

end Skrillax

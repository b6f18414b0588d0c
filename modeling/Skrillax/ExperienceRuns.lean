/-
**Experience is conserved.**

The events of some ticks bring a player as far as one event would that brings all of it, as long as there is
no requirement for the last level and no sum overflows.  Only the counter of level-ups makes a difference: a
debug build panics in a tick with more than 127 of them.

Main definitions:

* `totalExp`, `totalSp` — what some events bring together;
* `Progress.Accounted` — where a player is, who has received so much since the start;
* `CounterOverflows` — in some tick there are more level-ups than the counter can count.

Main results:

* `Progress.Accounted.receive` — one event;
* `Progress.Accounted.ticks` — all events of some ticks;
* `receiveExperience_conserves` — **where a player gets to depends on the sums only, and nothing is lost**.
-/

import Skrillax.Experience

set_option relaxedAutoImplicit false
set_option autoImplicit false

namespace Skrillax

open Rust PartialAction
open Chat (ReceiveExperienceEvent)

/-! ### Sums -/

def totalExp (events : List ReceiveExperienceEvent) : ℕ := (events.map fun event => event.exp.toNat).sum

def totalSp (events : List ReceiveExperienceEvent) : ℕ := (events.map fun event => event.sp.toNat).sum

theorem totalExp_cons (event : ReceiveExperienceEvent) (events : List ReceiveExperienceEvent) :
    totalExp (event :: events) = event.exp.toNat + totalExp events := List.sum_cons

theorem totalSp_cons (event : ReceiveExperienceEvent) (events : List ReceiveExperienceEvent) :
    totalSp (event :: events) = event.sp.toNat + totalSp events := List.sum_cons

theorem totalExp_append (events more : List ReceiveExperienceEvent) :
    totalExp (events ++ more) = totalExp events + totalExp more := by
  rw [totalExp, List.map_append, List.sum_append]
  rfl

theorem totalSp_append (events more : List ReceiveExperienceEvent) :
    totalSp (events ++ more) = totalSp events + totalSp more := by
  rw [totalSp, List.map_append, List.sum_append]
  rfl

namespace Progress

variable {map : LevelMap} {start progress after : Progress} {exp sp : ℕ}

/-- Where a player stands on the ladder. -/
def standing (progress : Progress) : ℕ × ℕ :=
  (progress.leveled.level.toNat, progress.experienced.experience.toNat)

/-- So much can be received without an overflow. -/
structure Fits (start : Progress) (exp sp : ℕ) : Prop where
  exp : start.experienced.experience.toNat + exp < 2 ^ 64
  spExp : start.experienced.spExp.toNat + sp < 2 ^ 64
  points : start.sp.sp.toNat + (start.experienced.spExp.toNat + sp) / 400 < 2 ^ 32

theorem Fits.mono {exp' sp' : ℕ} (h : start.Fits exp' sp') (hexp : exp ≤ exp') (hsp : sp ≤ sp') :
    start.Fits exp sp := by
  obtain ⟨hexp', hspExp', hpoints'⟩ := h
  exact ⟨by omega, by omega, by omega⟩

/-- Where a player is, who has received so much since the start. -/
structure Accounted (map : LevelMap) (start : Progress) (exp sp : ℕ) (progress : Progress) : Prop where
  climbs : Ladder.Climbs map.ladder (start.standing.1, start.standing.2 + exp) progress.standing
  settled : Ladder.Settled map.ladder progress.standing
  points : 400 * progress.sp.sp.toNat + progress.experienced.spExp.toNat =
    400 * start.sp.sp.toNat + start.experienced.spExp.toNat + sp
  spExp_lt : progress.experienced.spExp.toNat < 400

/-- The player stands below the requirement of the level, if it has one. -/
def Below (map : LevelMap) (progress : Progress) : Prop :=
  ∀ required, map.getExpForLevel progress.leveled.level = some required →
    progress.experienced.experience < required

theorem below_iff_settled : progress.Below map ↔ Ladder.Settled map.ladder progress.standing := by
  have hladder := progress.leveled.at_level.ladder map
  constructor
  · rintro h next hstep
    obtain ⟨paid, hprice, hmoney⟩ := hstep.paid
    dsimp only [standing] at hprice hmoney
    obtain ⟨required, hrequired, rfl⟩ := Option.map_eq_some_iff.1 (hladder.symm.trans hprice)
    have hlt := UInt64.lt_iff_toNat_lt.1 (h required hrequired)
    omega
  · intro h required hrequired
    rw [UInt64.lt_iff_toNat_lt]
    by_contra hle
    obtain ⟨rest, hrest⟩ := Nat.exists_eq_add_of_le (not_lt.1 hle)
    refine h (progress.leveled.level.toNat + 1, rest) ?_
    rw [standing, hrest]
    exact .climb (by rw [hladder, hrequired]; rfl)

theorem Accounted.init (hbelow : start.Below map) (hspExp : start.experienced.spExp.toNat < 400) :
    start.Accounted map 0 0 start where
  climbs := .refl
  settled := below_iff_settled.1 hbelow
  points := rfl
  spExp_lt := hspExp

/-- The counter is not part of it. -/
theorem Accounted.reset (h : start.Accounted map exp sp progress) :
    start.Accounted map exp sp progress.reset :=
  ⟨h.climbs, h.settled, h.points, h.spExp_lt⟩

/-- **The sums decide.** -/
theorem Accounted.unique {other : Progress} (h : start.Accounted map exp sp progress)
    (hother : start.Accounted map exp sp other) :
    progress.leveled.level = other.leveled.level ∧
      progress.experienced.experience = other.experienced.experience ∧
      progress.sp.sp = other.sp.sp ∧ progress.experienced.spExp = other.experienced.spExp := by
  obtain ⟨hlevel, hexp⟩ := Prod.mk.inj (h.climbs.unique h.settled hother.climbs hother.settled)
  have hpoints := h.points.trans hother.points.symm
  have hlt := h.spExp_lt
  have hlt' := hother.spExp_lt
  exact ⟨UInt8.toNat_inj.1 hlevel, UInt64.toNat_inj.1 hexp, UInt32.toNat_inj.1 (by omega),
    UInt64.toNat_inj.1 (by omega)⟩

end Progress

/-! ### One event -/

section Event

variable {map : LevelMap} {start progress : Progress} {exp sp : ℕ} {event : ReceiveExperienceEvent}

/-- Without a requirement for the last level nobody climbs beyond it. -/
theorem LevelMap.top_le (hmap : map.getExpForLevel 255 = none) {s t : ℕ × ℕ}
    (h : Ladder.Climbs map.ladder s t) (hs : s.1 ≤ 255) : t.1 ≤ 255 := by
  have hlast : map.ladder 255 = none := by
    change (map.getExpForLevel 255).map UInt64.toNat = none
    rw [hmap]
    rfl
  by_contra htop
  have hsome := (Ladder.climbs_iff.1 h).2.1 255 hs (by omega)
  rw [hlast] at hsome
  cases hsome

theorem toNat_expPerSp : Experienced.expPerSp.toNat = 400 := rfl

/-- What is brought fits, and is accounted for. -/
theorem Progress.Accounted.gained (h : start.Accounted map exp sp progress)
    (hfits : start.Fits (exp + event.exp.toNat) (sp + event.sp.toNat)) :
    progress.GainFits event ∧
      (progress.gained event).standing = (progress.standing.1, progress.standing.2 + event.exp.toNat) ∧
      400 * (progress.gained event).sp.sp.toNat + (progress.gained event).experienced.spExp.toNat =
        400 * start.sp.sp.toNat + start.experienced.spExp.toNat + (sp + event.sp.toNat) ∧
      (progress.gained event).experienced.spExp.toNat < 400 := by
  obtain ⟨hexp, hspExp, hpoints⟩ := hfits
  have hsum := h.points
  have hlt := h.spExp_lt
  have hmoney : progress.experienced.experience.toNat ≤ start.experienced.experience.toNat + exp := by
    have hpaid : start.standing.2 + exp = progress.standing.2 + _ := (Ladder.climbs_iff.1 h.climbs).2.2
    simp only [Progress.standing] at hpaid
    omega
  have hspSum : (progress.experienced.spExp + event.sp).toNat =
      progress.experienced.spExp.toNat + event.sp.toNat := by
    rw [UInt64.toNat_add]
    omega
  have hquotient : (progress.points event).toNat =
      (progress.experienced.spExp.toNat + event.sp.toNat) / 400 := by
    rw [Progress.points, UInt64.toNat_toUInt32, UInt64.toNat_div, toNat_expPerSp, hspSum]
    omega
  have hfits : progress.GainFits event := by
    refine ⟨by omega, by omega, ?_⟩
    rw [hquotient]
    omega
  refine ⟨hfits, ?_, ?_, ?_⟩
  · rw [Progress.standing, Progress.gained, UInt64.toNat_add, Nat.mod_eq_of_lt hfits.1]
    rfl
  · rw [Progress.gained, UInt32.toNat_add, Nat.mod_eq_of_lt hfits.2.2, UInt64.toNat_mod, toNat_expPerSp,
      hspSum, hquotient]
    omega
  · rw [Progress.gained, UInt64.toNat_mod, toNat_expPerSp]
    omega

/-- A level on the ladder that there is. -/
theorem Leveled.At.eq {leveled : Leveled} {rung : ℕ} (h : leveled.At rung) (hrung : rung ≤ 255) :
    leveled.level.toNat = rung := h.trans (Nat.min_eq_left hrung)

/-- Since nobody climbs beyond the last level, the climb comes to an end. -/
theorem LevelMap.settles (hmap : map.getExpForLevel 255 = none) {s : ℕ × ℕ} (hs : s.1 ≤ 255) :
    ∃ t, Ladder.Climbs map.ladder s t ∧ Ladder.Settled map.ladder t := by
  rcases Ladder.settles_or_climbs map.ladder s 256 with ⟨t, ht, hsettled, -⟩ | ⟨rest, hrest⟩
  · exact ⟨t, ht, hsettled⟩
  · have hbeyond := LevelMap.top_le hmap hrest hs
    dsimp only at hbeyond
    omega

/-- **The loop.**  A release build returns, and so does a debug build if the counter can count. -/
theorem Progress.levelUps_settles (hmap : map.getExpForLevel 255 = none) (progress : Progress) :
    ∃ after, progress.levelUps .release map = some after ∧
      Ladder.Climbs map.ladder progress.standing after.standing ∧
      Ladder.Settled map.ladder after.standing ∧ after.sp = progress.sp ∧
      after.experienced.spExp = progress.experienced.spExp ∧
      (progress.leveled.leveledUp.toInt + ((after.standing.1 : ℤ) - progress.standing.1) ≤ 127 →
        progress.levelUps .debug map = some after ∧ after.leveled.leveledUp.toInt =
          progress.leveled.leveledUp.toInt + ((after.standing.1 : ℤ) - progress.standing.1)) := by
  have hlevel : progress.standing.1 ≤ 255 := Nat.le_of_lt_succ progress.leveled.level.toNat_lt
  obtain ⟨⟨top, rest⟩, hclimbs, hsettled⟩ := LevelMap.settles hmap hlevel
  have hloop (p : Profile) (hcounter : progress.leveled.leveledUp.toInt +
      ((top : ℤ) - progress.standing.1) ≤ 127 ∨ p = .release) :
      ∃ result, Skrillax.levelUps p map progress.fuel progress.leveled progress.experienced = some result :=
    Option.isSome_iff_exists.1 (levelUps_isSome progress.leveled.at_level hclimbs hsettled
      (LevelMap.top_lt hclimbs hsettled hlevel) hcounter)
  obtain ⟨⟨leveled, experienced⟩, hresult⟩ := hloop .release (Or.inr rfl)
  obtain ⟨top', hclimbs', hsettled', hat, hkept, hcount, -⟩ :=
    levelUps_spec progress.leveled.at_level hresult
  obtain ⟨rfl, rfl⟩ := Prod.mk.inj (hclimbs.unique hsettled hclimbs' hsettled')
  have hend : Progress.standing ⟨leveled, experienced, progress.sp⟩ =
      (top, experienced.experience.toNat) := Prod.ext (hat.eq (LevelMap.top_le hmap hclimbs hlevel)) rfl
  refine ⟨⟨leveled, experienced, progress.sp⟩, ?_, by rw [hend]; exact hclimbs, by rw [hend]; exact hsettled,
    rfl, hkept, fun hcounter => ?_⟩
  · rw [Progress.levelUps, hresult]
    rfl
  · rw [hend] at hcounter ⊢
    obtain ⟨result', hresult'⟩ := hloop .debug (Or.inl hcounter)
    obtain rfl := Option.some_inj.1 ((levelUps_release hresult').symm.trans hresult)
    refine ⟨?_, hcount hcounter⟩
    rw [Progress.levelUps, hresult']
    rfl

/-- **One event.**  A release build returns, and so does a debug build if the counter can count. -/
theorem Progress.Accounted.receive (hmap : map.getExpForLevel 255 = none)
    (h : start.Accounted map exp sp progress)
    (hfits : start.Fits (exp + event.exp.toNat) (sp + event.sp.toNat)) :
    ∃ after, progress.receive .release map event = some after ∧
      start.Accounted map (exp + event.exp.toNat) (sp + event.sp.toNat) after ∧
      progress.standing.1 ≤ after.standing.1 ∧
      (progress.leveled.leveledUp.toInt + ((after.standing.1 : ℤ) - progress.standing.1) ≤ 127 →
        progress.receive .debug map event = some after ∧ after.leveled.leveledUp.toInt =
          progress.leveled.leveledUp.toInt + ((after.standing.1 : ℤ) - progress.standing.1)) := by
  by_cases hempty : event.exp = 0 ∧ event.sp = 0
  · have hreceive (p : Profile) : progress.receive p map event = some progress := if_pos hempty
    rw [hempty.1, hempty.2]
    exact ⟨progress, hreceive .release, h, le_rfl, fun _ => ⟨hreceive .debug, by omega⟩⟩
  · obtain ⟨hgain, hstanding, hpoints, hspExp⟩ := h.gained hfits
    have hreceive (p : Profile) :
        progress.receive p map event = (progress.gained event).levelUps p map := by
      rw [Progress.receive, if_neg hempty, Progress.gain_eq_some.2 ⟨rfl, Or.inl hgain⟩, Option.bind_some]
    obtain ⟨after, hafter, hclimbs, hsettled, hsp, hkept, hdebug⟩ :=
      (progress.gained event).levelUps_settles hmap
    have hle := Ladder.Climbs.le hclimbs
    rw [hstanding] at hle
    refine ⟨after, (hreceive _).trans hafter, ⟨?_, hsettled, ?_, ?_⟩, hle, fun hcounter => ?_⟩
    · rw [← add_assoc]
      refine (h.climbs.add event.exp.toNat).trans ?_
      rw [← hstanding]
      exact hclimbs
    · rw [hsp, hkept]
      exact hpoints
    · rw [hkept]
      exact hspExp
    · rw [hreceive]
      exact hdebug hcounter

/-- What a debug build returns is what a release build returns. -/
theorem Progress.receive_release {after : Progress} (h : progress.receive .debug map event = some after) :
    progress.receive .release map event = some after := by
  unfold Progress.receive at h ⊢
  split
  · rename_i hempty
    rwa [if_pos hempty] at h
  · rename_i hempty
    rw [if_neg hempty] at h
    obtain ⟨gained, hgained, hloop⟩ := Option.bind_eq_some_iff.1 h
    obtain ⟨result, hresult, rfl⟩ := Option.map_eq_some_iff.1 hloop
    rw [Progress.gain_eq_some.2 ⟨(Progress.gain_eq_some.1 hgained).1, Or.inr rfl⟩, Option.bind_some,
      Progress.levelUps, levelUps_release hresult]
    rfl

end Event

/-! ### Ticks -/

section Ticks

variable {map : LevelMap} {start progress : Progress} {exp sp : ℕ}

/-- All events of a tick. -/
theorem Progress.Accounted.receiveAll (hmap : map.getExpForLevel 255 = none)
    (events : List ReceiveExperienceEvent) (h : start.Accounted map exp sp progress)
    (hfits : start.Fits (exp + totalExp events) (sp + totalSp events)) :
    ∃ after, runAll (Progress.receive .release map) events progress = some after ∧
      start.Accounted map (exp + totalExp events) (sp + totalSp events) after ∧
      progress.standing.1 ≤ after.standing.1 ∧
      (progress.leveled.leveledUp.toInt + ((after.standing.1 : ℤ) - progress.standing.1) ≤ 127 →
        runAll (Progress.receive .debug map) events progress = some after) := by
  induction events generalizing progress exp sp with
  | nil => exact ⟨progress, rfl, h, le_rfl, fun _ => rfl⟩
  | cons event events ih =>
      rw [totalExp_cons, totalSp_cons, ← add_assoc, ← add_assoc] at hfits ⊢
      obtain ⟨between, hbetween, haccount, hle, hdebug⟩ :=
        h.receive hmap (hfits.mono (Nat.le_add_right _ _) (Nat.le_add_right _ _))
      obtain ⟨after, hafter, haccount', hle', hdebug'⟩ := ih haccount hfits
      refine ⟨after, ?_, haccount', hle.trans hle', fun hcounter => ?_⟩
      · rw [runAll_cons, hbetween]
        exact hafter
      · obtain ⟨hone, hcount⟩ := hdebug (by omega)
        rw [runAll_cons, hone]
        exact hdebug' (by omega)

/-- A tick of a player who receives all of it. -/
def Progress.tick (p : Profile) (map : LevelMap) (events : List ReceiveExperienceEvent) (progress : Progress) :
    Option Progress :=
  (runAll (Progress.receive p map) events progress).map Progress.reset

/-- **All events of some ticks.**  A debug build returns if in each of them the counter can count. -/
theorem Progress.Accounted.ticks (hmap : map.getExpForLevel 255 = none)
    (ticks : List (List ReceiveExperienceEvent)) (h : start.Accounted map exp sp progress)
    (hfits : start.Fits (exp + totalExp ticks.flatten) (sp + totalSp ticks.flatten)) :
    ∃ after, runAll (Progress.tick .release map) ticks progress = some after ∧
      start.Accounted map (exp + totalExp ticks.flatten) (sp + totalSp ticks.flatten) after ∧
      ((∀ pre tick u v, pre ++ [tick] <+: ticks → runAll (Progress.tick .release map) pre progress = some u →
          runAll (Progress.receive .release map) tick u = some v →
            u.leveled.leveledUp.toInt + ((v.standing.1 : ℤ) - u.standing.1) ≤ 127) →
        runAll (Progress.tick .debug map) ticks progress = some after) := by
  induction ticks generalizing progress exp sp with
  | nil => exact ⟨progress, rfl, h, fun _ => rfl⟩
  | cons tick ticks ih =>
      rw [List.flatten_cons, totalExp_append, totalSp_append, ← add_assoc, ← add_assoc] at hfits ⊢
      obtain ⟨between, hbetween, haccount, -, hdebug⟩ :=
        h.receiveAll hmap tick (hfits.mono (Nat.le_add_right _ _) (Nat.le_add_right _ _))
      obtain ⟨after, hafter, haccount', hdebug'⟩ := ih haccount.reset hfits
      have htick : progress.tick .release map tick = some between.reset := by
        rw [Progress.tick, hbetween]
        rfl
      refine ⟨after, ?_, haccount', fun hcounter => ?_⟩
      · rw [runAll_cons, htick]
        exact hafter
      · have hone : progress.tick .debug map tick = some between.reset := by
          rw [Progress.tick, hdebug (hcounter [] tick progress between (by simp) rfl hbetween)]
          rfl
        rw [runAll_cons, hone]
        refine hdebug' fun pre next u v hpre hu hv => hcounter (tick :: pre) next u v ?_ ?_ hv
        · exact List.cons_prefix_cons.2 ⟨rfl, hpre⟩
        · rw [runAll_cons, htick]
          exact hu

end Ticks

/-! ### The players -/

section Players

variable {p : Profile} {map : LevelMap} {player : Entity} {players : Entity → Option Progress}
  {progress : Progress}

/-- Events for one player change nothing else. -/
theorem receiveExperience_eq {events : List ReceiveExperienceEvent} (hplayer : players player = some progress)
    (htarget : ∀ event ∈ events, event.target.entity = player) :
    receiveExperience p map events players = (runAll (Progress.receive p map) events progress).map
      fun after => Function.update players player (some after) := by
  unfold receiveExperience
  induction events generalizing players progress with
  | nil =>
      rw [runAll_nil, runAll_nil, Option.map_some, ← hplayer, Function.update_eq_self]
  | cons event events ih =>
      obtain ⟨rfl, hrest⟩ := List.forall_mem_cons.1 htarget
      have hone : receiveEvent p map event players = (progress.receive p map event).map fun progress =>
          Function.update players event.target.entity (some progress) := by
        rw [receiveEvent, hplayer]
      rw [runAll_cons, runAll_cons, hone]
      cases progress.receive p map event with
      | none => rfl
      | some between =>
          simp only [Option.map_some, Option.bind_some]
          rw [ih (Function.update_self ..) hrest]
          simp only [Function.update_idem]

theorem runTicks_player {ticks : List (List ReceiveExperienceEvent)} (hplayer : players player = some progress)
    (htarget : ∀ event ∈ ticks.flatten, event.target.entity = player) :
    (runTicks p map ticks players).map (· player) = (runAll (Progress.tick p map) ticks progress).map some := by
  unfold runTicks
  induction ticks generalizing players progress with
  | nil =>
      rw [runAll_nil, runAll_nil, Option.map_some, Option.map_some, hplayer]
  | cons tick ticks ih =>
      rw [List.flatten_cons, List.forall_mem_append] at htarget
      rw [runAll_cons, runAll_cons, experienceTick, receiveExperience_eq hplayer htarget.1, Progress.tick]
      cases runAll (Progress.receive p map) tick progress with
      | none => rfl
      | some between =>
          simp only [Option.map_some, Option.bind_some]
          exact ih (by rw [Function.update_self]; rfl) htarget.2

/-- In some tick there are more level-ups than the counter can count. -/
def CounterOverflows (map : LevelMap) (ticks : List (List ReceiveExperienceEvent))
    (players : Entity → Option Progress) (player : Entity) : Prop :=
  ∃ pre tick players' players'' before after, pre ++ [tick] <+: ticks ∧
    runTicks .release map pre players = some players' ∧ players' player = some before ∧
    receiveExperience .release map tick players' = some players'' ∧ players'' player = some after ∧
    127 < before.leveled.leveledUp.toInt +
      ((after.leveled.level.toNat : ℤ) - before.leveled.level.toNat)

end Players

/-- The requirements of the levels from `level` up to `top`. -/
def LevelMap.requirements (map : LevelMap) (level top : ℕ) : ℕ :=
  ∑ gained ∈ Finset.Ico level top, ((map.getExpForLevel (UInt8.ofNat gained)).map UInt64.toNat).getD 0

theorem LevelMap.ladder_of_le (map : LevelMap) {rung : ℕ} (h : rung ≤ 255) :
    map.ladder rung = (map.getExpForLevel (UInt8.ofNat rung)).map UInt64.toNat := by
  rw [LevelMap.ladder, Nat.min_eq_left h]

theorem LevelMap.requirements_eq_cost (map : LevelMap) {level top : ℕ} (htop : top ≤ 255) :
    map.requirements level top = Ladder.cost map.ladder level top := by
  refine Finset.sum_congr rfl fun gained hgained => ?_
  rw [map.ladder_of_le ((Finset.mem_Ico.1 hgained).2.le.trans htop)]

/-- **Where a player gets to depends on the sums only, and nothing is lost.**  A release build returns, and a
debug build unless the counter of level-ups overflows in some tick. -/
theorem receiveExperience_conserves (map : LevelMap) (hmap : map.getExpForLevel 255 = none) (player : Entity)
    (players : Entity → Option Progress) (start : Progress) (hplayer : players player = some start)
    (hbelow : start.Below map) (hspExp : start.experienced.spExp.toNat < 400)
    (ticks : List (List ReceiveExperienceEvent))
    (htarget : ∀ event ∈ ticks.flatten, event.target.entity = player)
    (hexp : start.experienced.experience.toNat + totalExp ticks.flatten < 2 ^ 64)
    (hsp : start.experienced.spExp.toNat + totalSp ticks.flatten < 2 ^ 64)
    (hpoints : start.sp.sp.toNat + (start.experienced.spExp.toNat + totalSp ticks.flatten) / 400 < 2 ^ 32) :
    ∃ players' after, runTicks .release map ticks players = some players' ∧ players' player = some after ∧
      start.leveled.level ≤ after.leveled.level ∧
      after.experienced.experience.toNat +
          map.requirements start.leveled.level.toNat after.leveled.level.toNat =
        start.experienced.experience.toNat + totalExp ticks.flatten ∧
      400 * after.sp.sp.toNat + after.experienced.spExp.toNat =
        400 * start.sp.sp.toNat + start.experienced.spExp.toNat + totalSp ticks.flatten ∧
      after.experienced.spExp.toNat < 400 ∧
      (∀ level, start.leveled.level ≤ level → level < after.leveled.level →
        (map.getExpForLevel level).isSome = true) ∧
      after.Below map ∧
      (∀ p ticks' others, (∀ event ∈ ticks'.flatten, event.target.entity = player) →
        totalExp ticks'.flatten = totalExp ticks.flatten → totalSp ticks'.flatten = totalSp ticks.flatten →
          runTicks p map ticks' players = some others → ∃ other, others player = some other ∧
            other.leveled.level = after.leveled.level ∧
            other.experienced.experience = after.experienced.experience ∧ other.sp.sp = after.sp.sp ∧
            other.experienced.spExp = after.experienced.spExp) ∧
      (runTicks .debug map ticks players = none → CounterOverflows map ticks players player) := by
  have hinit := Progress.Accounted.init hbelow hspExp
  have hfits : start.Fits (0 + totalExp ticks.flatten) (0 + totalSp ticks.flatten) := by
    rw [zero_add, zero_add]
    exact ⟨hexp, hsp, hpoints⟩
  obtain ⟨after, hafter, haccount, hdebug⟩ := hinit.ticks hmap ticks hfits
  have hrun (p : Profile) (ticks : List (List ReceiveExperienceEvent))
      (htarget : ∀ event ∈ ticks.flatten, event.target.entity = player) :
      (runTicks p map ticks players).map (· player) = (runAll (Progress.tick p map) ticks start).map some :=
    runTicks_player hplayer htarget
  have hrelease := hrun .release ticks htarget
  rw [hafter, Option.map_some, Option.map_eq_some_iff] at hrelease
  obtain ⟨players', hplayers', hplayer'⟩ := hrelease
  have htop : after.leveled.level.toNat ≤ 255 := Nat.le_of_lt_succ after.leveled.level.toNat_lt
  obtain ⟨hle, hsome, hmoney⟩ := Ladder.climbs_iff.1 haccount.climbs
  rw [zero_add] at hmoney
  refine ⟨players', after, hplayers', hplayer', UInt8.le_iff_toNat_le.2 hle, ?_, ?_, haccount.spExp_lt,
    fun level hlower hupper => ?_, Progress.below_iff_settled.2 haccount.settled,
    fun p ticks' others htarget' hexp' hsp' hothers => ?_, fun hnone => ?_⟩
  · rw [map.requirements_eq_cost htop]
    exact hmoney.symm
  · rw [haccount.points, zero_add]
  · have hlevel := hsome level.toNat (UInt8.le_iff_toNat_le.1 hlower) (UInt8.lt_iff_toNat_lt.1 hupper)
    rwa [map.ladder_of_le (Nat.le_of_lt_succ level.toNat_lt), UInt8.ofNat_toNat, Option.isSome_map] at hlevel
  · obtain ⟨after', hafter', haccount', -⟩ := hinit.ticks hmap ticks' (by rw [hexp', hsp']; exact hfits)
    rw [hexp', hsp'] at haccount'
    have hother := hrun p ticks' htarget'
    rw [hothers, Option.map_some, eq_comm, Option.map_eq_some_iff] at hother
    obtain ⟨other, hother, hvalue⟩ := hother
    have hsame : runAll (Progress.tick .release map) ticks' start = some other := by
      cases p with
      | release => exact hother
      | debug =>
          refine runAll_of_imp (fun tick s t h => ?_) hother
          obtain ⟨received, hreceived, rfl⟩ := Option.map_eq_some_iff.1 h
          rw [Progress.tick, runAll_of_imp (fun _ _ _ => Progress.receive_release) hreceived]
          rfl
    obtain rfl := Option.some_inj.1 (hsame.symm.trans hafter')
    exact ⟨other, hvalue.symm, haccount'.unique haccount⟩
  · by_contra hcounts
    have hreturns := hdebug fun pre tick u v hpre hu hv => by
      by_contra hmany
      have htarget' : ∀ event ∈ (pre ++ [tick]).flatten, event.target.entity = player := fun event hevent =>
        htarget event ((hpre.sublist.flatten).subset hevent)
      rw [List.flatten_append, List.flatten_singleton, List.forall_mem_append] at htarget'
      have hpre' := hrun .release pre htarget'.1
      rw [hu, Option.map_some, Option.map_eq_some_iff] at hpre'
      obtain ⟨before, hbefore, hu'⟩ := hpre'
      have htick : receiveExperience .release map tick before =
          some (Function.update before player (some v)) := by
        rw [receiveExperience_eq hu' htarget'.2, hv]
        rfl
      exact hcounts ⟨pre, tick, before, _, u, v, hpre, hbefore, hu', htick, Function.update_self .., by
        simpa [Progress.standing] using hmany⟩
    have hnot := hrun .debug ticks htarget
    rw [hnone, hreturns] at hnot
    cases hnot

/-- Level 2 requires nothing. -/
def sampleLevels : LevelMap := ⟨[(1, 100), (2, 0), (3, 250)], by decide⟩

def sampleProgress : Progress := ⟨Leveled.new 1 1, Experienced.new 50 399, ⟨7⟩⟩

theorem receiveExperience_conserves_over_two_ticks :
    let gain (exp sp : UInt64) : ReceiveExperienceEvent := ⟨none, ⟨1, ⟨10, 1907⟩⟩, exp, sp⟩
    let ticks := [[gain 40 1], [gain 0 0, gain 20 800]]
    let players : Entity → Option Progress := fun entity => if entity = 1 then some sampleProgress else none
    ∃ players' after, runTicks .release sampleLevels ticks players = some players' ∧
      players' 1 = some after ∧ sampleProgress.leveled.level ≤ after.leveled.level ∧
      after.experienced.experience.toNat + sampleLevels.requirements 1 after.leveled.level.toNat = 50 + 60 := by
  obtain ⟨players', after, hrun, hafter, hle, hexp, -⟩ :=
    receiveExperience_conserves sampleLevels rfl 1
      (fun entity => if entity = 1 then some sampleProgress else none) sampleProgress rfl
      (fun required h => by obtain rfl := Option.some_inj.1 (h : some 100 = some required); decide) (by decide)
      [[⟨none, ⟨1, ⟨10, 1907⟩⟩, 40, 1⟩],
        [⟨none, ⟨1, ⟨10, 1907⟩⟩, 0, 0⟩, ⟨none, ⟨1, ⟨10, 1907⟩⟩, 20, 800⟩]]
      (by simp) (by decide) (by decide) (by decide)
  exact ⟨players', after, hrun, hafter, hle, hexp⟩

end Skrillax

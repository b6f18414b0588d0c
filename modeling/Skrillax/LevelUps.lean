/-
**Whether levelling up is noticed.**

`did_level` tells `reset_health_mana_on_level` and the packets of a tick from the counter of level-ups, which
has eight bits, and counts calls of `level_up` instead of levels.  It is wrong from the 128th call on, and
where a call leaves the level at 255.

Main definitions:

* `Progress.Covers` — the experience covers the requirements of some level-ups;
* `Progress.CounterOverflows` — an event makes the counter leave its range;
* `Progress.Counts` — no event brings that much experience.

Main results:

* `levelUps_debug_none_iff` — the counter leaves its range exactly if the level-ups up to there are covered;
* `Progress.Counted.receive`, `Progress.Counted.wrong` — one event;
* `level_up_noticed_iff` — **levelling up is noticed in every tick exactly if every event meets the
  condition**.
-/

import Skrillax.Experience

set_option relaxedAutoImplicit false
set_option autoImplicit false

namespace Skrillax

open Rust PartialAction
open Chat (ReceiveExperienceEvent)

/-! ### What is demanded -/

/-- The experience covers so many requirements from the level on; at level 255 it is the same one again and
again. -/
def LevelMap.Covers (map : LevelMap) (count : ℕ) (level : UInt8) (experience : UInt64) : Prop :=
  (∀ rung, level.toNat ≤ rung → rung < level.toNat + count → (map.ladder rung).isSome = true) ∧
    Ladder.cost map.ladder level.toNat (level.toNat + count) ≤ experience.toNat

namespace Progress

/-- An event makes the counter leave its range: a debug build panics in the loop, for which there is no other
reason. -/
def CounterOverflows (p : Profile) (map : LevelMap) (event : ReceiveExperienceEvent) (progress : Progress) :
    Prop :=
  ¬ (event.exp = 0 ∧ event.sp = 0) ∧
    ∃ gained, progress.gain p event = some gained ∧ gained.levelUps .debug map = none

/-- With what the event brings, there are not as many level-ups as the counter has left, and at level 255 there
is none at all. -/
def Counts (p : Profile) (map : LevelMap) (event : ReceiveExperienceEvent) (progress : Progress) : Prop :=
  ¬ (event.exp = 0 ∧ event.sp = 0) → (progress.GainFits event ∨ p = .release) →
    ¬ map.Covers (128 - progress.leveled.leveledUp.toInt).toNat progress.leveled.level
        (progress.experienced.experience + event.exp) ∧
      (progress.leveled.level = 255 → progress.leveled.leveledUp = 0 →
        ¬ map.Covers 1 255 (progress.experienced.experience + event.exp))

/-- `did_level` is right about the level at the last reset. -/
def Noticed (base : UInt8) (progress : Progress) : Prop :=
  progress.leveled.didLevel = true ↔ base < progress.leveled.level

/-- The counter is right: every level-up was counted, and every count is a level. -/
structure Counted (base : UInt8) (progress : Progress) : Prop where
  nonneg : 0 ≤ progress.leveled.leveledUp.toInt
  level : (progress.leveled.level.toNat : ℤ) = min (base.toNat + progress.leveled.leveledUp.toInt) 255
  top : base = 255 → progress.leveled.leveledUp = 0

theorem Counted.noticed {base : UInt8} {progress : Progress} (h : progress.Counted base) :
    progress.Noticed base := by
  have hnonneg := h.nonneg
  have hlevel := h.level
  have hbase := base.toNat_lt
  have hzero : (0 : Int8).toInt = 0 := rfl
  have htop : base.toNat = 255 → progress.leveled.leveledUp.toInt = 0 := fun h255 => by
    rw [h.top (UInt8.toNat_inj.1 h255), hzero]
  rw [Noticed, Leveled.didLevel, decide_eq_true_iff, Int8.lt_iff_toInt_lt, hzero, UInt8.lt_iff_toNat_lt]
  omega

end Progress

/-! ### Covering level-ups -/

section Cover

variable {map : LevelMap} {progress : Progress}

theorem LevelMap.covers_iff {count : ℕ} {level : UInt8} {experience : UInt64} :
    map.Covers count level experience ↔
      ∃ rest, Ladder.Climbs map.ladder (level.toNat, experience.toNat) (level.toNat + count, rest) := by
  simp only [LevelMap.Covers, Ladder.climbs_iff]
  constructor
  · rintro ⟨hsome, hcost⟩
    exact ⟨_, by omega, hsome, (Nat.sub_add_cancel hcost).symm⟩
  · rintro ⟨rest, -, hsome, hmoney⟩
    exact ⟨hsome, by omega⟩

/-- Less level-ups are covered as well. -/
theorem LevelMap.Covers.mono {count more : ℕ} {level : UInt8} {experience : UInt64}
    (h : map.Covers more level experience) (hle : count ≤ more) : map.Covers count level experience := by
  refine ⟨fun rung hlower hupper => h.1 rung hlower (by omega), le_trans ?_ h.2⟩
  exact Finset.sum_le_sum_of_subset (Finset.Ico_subset_Ico_right (by omega))

/-- **The counter leaves its range exactly if the level-ups up to there are covered.** -/
theorem levelUps_debug_none_iff (map : LevelMap) (progress : Progress) (hnonneg : 0 ≤ progress.leveled.leveledUp.toInt) :
    progress.levelUps .debug map = none ↔
      map.Covers (128 - progress.leveled.leveledUp.toInt).toNat progress.leveled.level
        progress.experienced.experience := by
  have hle : progress.leveled.leveledUp.toInt ≤ 127 := progress.leveled.leveledUp.toInt_le
  rw [Progress.levelUps, Option.map_eq_none_iff, LevelMap.covers_iff]
  rcases Ladder.settles_or_climbs map.ladder
      (progress.leveled.level.toNat, progress.experienced.experience.toNat)
      (128 - progress.leveled.leveledUp.toInt).toNat with ⟨⟨top, rest⟩, hclimbs, hsettled, htop⟩ | hclimbs
  · -- the loop ends before, and nobody climbs farther
    have hreturns : (levelUps .debug map progress.fuel progress.leveled progress.experienced).isSome = true :=
      levelUps_isSome progress.leveled.at_level hclimbs hsettled (by unfold Progress.fuel; omega)
        (Or.inl (by omega))
    constructor
    · intro hnone
      rw [hnone] at hreturns
      cases hreturns
    · rintro ⟨rest', hfar⟩
      have hback := Ladder.Climbs.le (hfar.continues hclimbs hsettled)
      dsimp only at hback
      omega
  · refine ⟨fun _ => hclimbs, fun _ => ?_⟩
    obtain ⟨rest, hfar⟩ := hclimbs
    by_contra hsome
    obtain ⟨⟨leveled, experienced⟩, hresult⟩ := Option.ne_none_iff_exists'.1 hsome
    obtain ⟨top, hclimbs, hsettled, -, -, -, hdebug⟩ := levelUps_spec progress.leveled.at_level hresult
    have hback := Ladder.Climbs.le (hfar.continues hclimbs hsettled)
    have hcount := hdebug rfl
    dsimp only at hback
    omega

/-- Where the loop gets to without an overflow of the counter, in either profile. -/
theorem Progress.levelUps_of_debug (h : progress.levelUps .debug map ≠ none) :
    ∃ after top, (∀ p, progress.levelUps p map = some after) ∧
      Ladder.Climbs map.ladder (progress.leveled.level.toNat, progress.experienced.experience.toNat)
        (top, after.experienced.experience.toNat) ∧
      Ladder.Settled map.ladder (top, after.experienced.experience.toNat) ∧ after.leveled.At top ∧
      after.leveled.leveledUp.toInt =
        progress.leveled.leveledUp.toInt + ((top : ℤ) - progress.leveled.level.toNat) := by
  obtain ⟨after, hafter⟩ := Option.ne_none_iff_exists'.1 h
  obtain ⟨⟨leveled, experienced⟩, hresult, rfl⟩ := Option.map_eq_some_iff.1 hafter
  obtain ⟨top, hclimbs, hsettled, hat, -, hcount, hdebug⟩ := levelUps_spec progress.leveled.at_level hresult
  refine ⟨⟨leveled, experienced, progress.sp⟩, top, fun p => ?_, hclimbs, hsettled, hat, hcount (hdebug rfl)⟩
  cases p with
  | debug => exact hafter
  | release =>
      rw [Progress.levelUps, levelUps_release hresult]
      rfl

end Cover

/-! ### One event -/

section Event

variable {p : Profile} {map : LevelMap} {event : ReceiveExperienceEvent} {base : UInt8}
  {progress after : Progress}

/-- What an event that brings something does before the loop, if the sums do not panic. -/
theorem Progress.receive_of_gain (hevent : ¬ (event.exp = 0 ∧ event.sp = 0))
    (hfits : progress.GainFits event ∨ p = .release) :
    progress.receive p map event = (progress.gained event).levelUps p map := by
  rw [Progress.receive, if_neg hevent, Progress.gain_eq_some.2 ⟨rfl, hfits⟩, Option.bind_some]

theorem Progress.Counted.loop_iff (h : progress.Counted base) :
    (progress.gained event).levelUps .debug map = none ↔
      map.Covers (128 - progress.leveled.leveledUp.toInt).toNat progress.leveled.level
        (progress.experienced.experience + event.exp) :=
  levelUps_debug_none_iff map (progress.gained event) h.nonneg

/-- The condition speaks of the counter. -/
theorem Progress.Counted.overflows_iff (h : progress.Counted base)
    (hevent : ¬ (event.exp = 0 ∧ event.sp = 0)) (hfits : progress.GainFits event ∨ p = .release) :
    progress.CounterOverflows p map event ↔
      map.Covers (128 - progress.leveled.leveledUp.toInt).toNat progress.leveled.level
        (progress.experienced.experience + event.exp) := by
  constructor
  · rintro ⟨-, gained, hgain, hoverflow⟩
    obtain rfl := (Progress.gain_eq_some.1 hgain).1
    exact h.loop_iff.1 hoverflow
  · exact fun hcovers => ⟨hevent, _, Progress.gain_eq_some.2 ⟨rfl, hfits⟩, h.loop_iff.2 hcovers⟩

/-- **An event that meets the condition.** -/
theorem Progress.Counted.receive (h : progress.Counted base) (hcounts : progress.Counts p map event)
    (hreceive : progress.receive p map event = some after) : after.Counted base := by
  by_cases hevent : event.exp = 0 ∧ event.sp = 0
  · rw [Progress.receive, if_pos hevent] at hreceive
    exact Option.some_inj.1 hreceive ▸ h
  · have hfits : progress.GainFits event ∨ p = .release := by
      rw [Progress.receive, if_neg hevent] at hreceive
      obtain ⟨gained, hgained, -⟩ := Option.bind_eq_some_iff.1 hreceive
      exact (Progress.gain_eq_some.1 hgained).2
    obtain ⟨hcover, htop⟩ := hcounts hevent hfits
    have hreturns : (progress.gained event).levelUps .debug map ≠ none := fun hnone =>
      hcover (h.loop_iff.1 hnone)
    obtain ⟨after', top, hafter', hclimbs, -, hat, hcount⟩ := Progress.levelUps_of_debug hreturns
    rw [Progress.receive_of_gain hevent hfits, hafter' p] at hreceive
    obtain rfl := Option.some_inj.1 hreceive
    change after'.leveled.leveledUp.toInt = progress.leveled.leveledUp.toInt +
      ((top : ℤ) - progress.leveled.level.toNat) at hcount
    have hle : progress.leveled.level.toNat ≤ top := Ladder.Climbs.le hclimbs
    have hnonneg := h.nonneg
    have hlevel := h.level
    refine ⟨by omega, ?_, fun hbase => ?_⟩
    · rw [hat, hcount]
      omega
    · -- at level 255 nothing was covered, so that the loop has not climbed
      have hzero := h.top hbase
      have hlevel255 : progress.leveled.level = 255 := by
        have h255 : base.toNat = 255 := by rw [hbase]; rfl
        have hzero' : progress.leveled.leveledUp.toInt = 0 := by rw [hzero]; rfl
        have hlast : (255 : UInt8).toNat = 255 := rfl
        exact UInt8.toNat_inj.1 (by omega)
      have hnot := htop hlevel255 hzero
      rw [← hlevel255] at hnot
      have hsame : top = progress.leveled.level.toNat := by
        by_contra hne
        obtain ⟨count, rfl⟩ := Nat.exists_eq_add_of_le hle
        exact hnot ((LevelMap.covers_iff.2 ⟨_, hclimbs⟩).mono (by omega))
      refine Int8.toInt_inj.1 ?_
      rw [hcount, hsame, hzero, sub_self, add_zero]

/-- **An event that does not meet it.**  At level 255 the level-up is counted, but there is no other level. -/
theorem Progress.Counted.wrong (h : progress.Counted base) (hevent : ¬ (event.exp = 0 ∧ event.sp = 0))
    (hfits : progress.GainFits event ∨ p = .release) (hno : ¬ progress.CounterOverflows p map event)
    (hlevel : progress.leveled.level = 255) (hzero : progress.leveled.leveledUp = 0)
    (hcovers : map.Covers 1 255 (progress.experienced.experience + event.exp)) :
    ∃ after, progress.receive p map event = some after ∧ ¬ after.Noticed base := by
  rw [h.overflows_iff hevent hfits] at hno
  have hreturns : (progress.gained event).levelUps .debug map ≠ none := fun hnone =>
    hno (h.loop_iff.1 hnone)
  obtain ⟨after, top, hafter, hclimbs, hsettled, hat, hcount⟩ := Progress.levelUps_of_debug hreturns
  refine ⟨after, (Progress.receive_of_gain hevent hfits).trans (hafter p), fun hnoticed => ?_⟩
  rw [← hlevel] at hcovers
  obtain ⟨rest, hone⟩ := LevelMap.covers_iff.1 hcovers
  have hle : progress.leveled.level.toNat + 1 ≤ top := Ladder.Climbs.le (hone.continues hclimbs hsettled)
  change after.leveled.leveledUp.toInt = progress.leveled.leveledUp.toInt +
    ((top : ℤ) - progress.leveled.level.toNat) at hcount
  have hlevel' := h.level
  have h255 : progress.leveled.level.toNat = 255 := by rw [hlevel]; rfl
  have hzero' : progress.leveled.leveledUp.toInt = 0 := by rw [hzero]; rfl
  have hzeroInt : (0 : Int8).toInt = 0 := rfl
  have hup : after.leveled.didLevel = true := by
    rw [Leveled.didLevel, decide_eq_true_iff, Int8.lt_iff_toInt_lt, hzeroInt]
    omega
  have hlt := UInt8.lt_iff_toNat_lt.1 (hnoticed.1 hup)
  have hafterLevel := after.leveled.level.toNat_lt
  omega

end Event

/-! ### A tick -/

section Tick

variable {p : Profile} {map : LevelMap} {event : ReceiveExperienceEvent} {base : UInt8} {player : Entity}
  {players players' : Entity → Option Progress} {progress : Progress}

theorem receiveEvent_of_ne (hne : event.target.entity ≠ player)
    (h : receiveEvent p map event players = some players') : players' player = players player := by
  unfold receiveEvent at h
  split at h
  · exact Option.some_inj.1 h ▸ rfl
  · obtain ⟨after, -, rfl⟩ := Option.map_eq_some_iff.1 h
    exact Function.update_of_ne hne.symm _ _

theorem receiveEvent_of_eq (hplayer : players event.target.entity = some progress) :
    receiveEvent p map event players = (progress.receive p map event).map fun after =>
      Function.update players event.target.entity (some after) := by
  rw [receiveEvent, hplayer]

/-- Whenever an event for the player is handled. -/
def ForPlayer (player : Entity) (cond : ReceiveExperienceEvent → Progress → Prop)
    (players : Entity → Option Progress) (event : ReceiveExperienceEvent) : Prop :=
  event.target.entity = player → ∀ progress, players player = some progress → cond event progress

/-- The player is there, and the counter is right. -/
def CountedIn (player : Entity) (base : UInt8) (players : Entity → Option Progress) : Prop :=
  ∃ progress, players player = some progress ∧ progress.Counted base

theorem CountedIn.noticed (h : CountedIn player base players) :
    ∀ progress, players player = some progress → progress.Noticed base := by
  obtain ⟨progress, hplayer, hcounted⟩ := h
  exact fun progress' hplayer' => Option.some_inj.1 (hplayer.symm.trans hplayer') ▸ hcounted.noticed

/-- What the condition is enough for. -/
theorem CountedIn.keeps (h : CountedIn player base players)
    (hcounts : ForPlayer player (fun event progress => progress.Counts p map event) players event) :
    ForPlayer player (fun event progress => ¬ progress.CounterOverflows p map event) players event ∧
      ∀ players', receiveEvent p map event players = some players' → CountedIn player base players' := by
  obtain ⟨progress, hplayer, hcounted⟩ := h
  constructor
  · intro htarget progress' hplayer' hoverflow
    obtain rfl := Option.some_inj.1 (hplayer.symm.trans hplayer')
    obtain ⟨hevent, gained, hgain, -⟩ := id hoverflow
    have hfits := (Progress.gain_eq_some.1 hgain).2
    exact (hcounts htarget progress hplayer hevent hfits).1
      ((hcounted.overflows_iff hevent hfits).1 hoverflow)
  · intro players' hreceive
    by_cases htarget : event.target.entity = player
    · subst htarget
      rw [receiveEvent_of_eq hplayer] at hreceive
      obtain ⟨after, hafter, rfl⟩ := Option.map_eq_some_iff.1 hreceive
      exact ⟨after, Function.update_self .., hcounted.receive (hcounts rfl progress hplayer) hafter⟩
    · exact ⟨progress, (receiveEvent_of_ne htarget hreceive).trans hplayer, hcounted⟩

/-- What it is needed for. -/
theorem CountedIn.needs (h : CountedIn player base players)
    (hno : ForPlayer player (fun event progress => ¬ progress.CounterOverflows p map event) players event)
    (hnoticed : ∀ players', receiveEvent p map event players = some players' →
      ∀ progress, players' player = some progress → progress.Noticed base) :
    ForPlayer player (fun event progress => progress.Counts p map event) players event := by
  obtain ⟨progress, hplayer, hcounted⟩ := h
  rintro rfl progress' hplayer' hevent hfits
  obtain rfl := Option.some_inj.1 (hplayer.symm.trans hplayer')
  have hhere := hno rfl progress hplayer
  refine ⟨fun hcovers => hhere ((hcounted.overflows_iff hevent hfits).2 hcovers), fun hlevel hzero hcovers => ?_⟩
  obtain ⟨after, hafter, hwrong⟩ := hcounted.wrong hevent hfits hhere hlevel hzero hcovers
  have hreceive : receiveEvent p map event players =
      some (Function.update players event.target.entity (some after)) := by
    rw [receiveEvent_of_eq hplayer, hafter]
    rfl
  exact hwrong (hnoticed _ hreceive after (Function.update_self ..))

end Tick

/-- **Levelling up is noticed in every tick, exactly if every event meets the condition.**  The counter was just
reset; what is reached by some of the events is what a tick reaches that has no others. -/
theorem level_up_noticed_iff (p : Profile) (map : LevelMap) (player : Entity)
    (players : Entity → Option Progress) (start : Progress) (hplayer : players player = some start)
    (hreset : start.leveled.leveledUp = 0) (events : List ReceiveExperienceEvent) :
    (Attempted (receiveEvent p map)
        (ForPlayer player fun event progress => ¬ progress.CounterOverflows p map event) events players ∧
      Reached (receiveEvent p map) (fun players => ∀ progress, players player = some progress →
        progress.Noticed start.leveled.level) events players) ↔
      Attempted (receiveEvent p map) (ForPlayer player fun event progress => progress.Counts p map event)
        events players := by
  have hcounted : start.Counted start.leveled.level := by
    refine ⟨?_, ?_, fun _ => hreset⟩
    · rw [hreset]
      rfl
    · have hlevel := start.leveled.level.toNat_lt
      have hzero : (0 : Int8).toInt = 0 := rfl
      rw [hreset, hzero]
      omega
  have hcountedIn : CountedIn player start.leveled.level players := ⟨start, hplayer, hcounted⟩
  have hdom : Attempted (receiveEvent p map) (fun _ _ => True) events players := fun _ _ _ _ _ => trivial
  exact attempted_and_reached_iff (fun _ h => h.noticed) (fun _ _ h _ hcond => h.keeps hcond)
    (fun _ _ h _ hno hnoticed => h.needs hno hnoticed) hcountedIn hdom

theorem nodup_cheapLevels :
    (((List.range 200).map fun n => ((UInt8.ofNat (n + 1), 1) : UInt8 × UInt64)).map Prod.fst).Nodup := by
  rw [List.map_map]
  refine List.nodup_range.map_on fun m hm n hn h => ?_
  have hnat := congrArg UInt8.toNat h
  simp at hnat hm hn
  omega

/-- Every level from 1 to 200 requires one point of experience. -/
def cheapLevels : LevelMap := ⟨(List.range 200).map fun n => (UInt8.ofNat (n + 1), 1), nodup_cheapLevels⟩

def newPlayer : Progress := ⟨Leveled.new 1 1, Experienced.new 0 0, ⟨0⟩⟩

theorem level_up_noticed_for_one_level :
    let event : ReceiveExperienceEvent := ⟨none, ⟨1, ⟨10, 1907⟩⟩, 1, 0⟩
    let players : Entity → Option Progress := fun entity => if entity = 1 then some newPlayer else none
    (Attempted (receiveEvent .debug cheapLevels)
        (ForPlayer 1 fun event progress => ¬ progress.CounterOverflows .debug cheapLevels event) [event] players ∧
      Reached (receiveEvent .debug cheapLevels) (fun players => ∀ progress, players 1 = some progress →
        progress.Noticed 1) [event] players) ↔
      Attempted (receiveEvent .debug cheapLevels)
        (ForPlayer 1 fun event progress => progress.Counts .debug cheapLevels event) [event] players :=
  level_up_noticed_iff .debug cheapLevels 1 _ newPlayer rfl rfl [⟨none, ⟨1, ⟨10, 1907⟩⟩, 1, 0⟩]

/-- An event with 128 points makes the counter overflow, and a release build does not notice 128 level-ups. -/
theorem level_up_is_not_noticed :
    let event : ReceiveExperienceEvent := ⟨none, ⟨1, ⟨10, 1907⟩⟩, 128, 0⟩
    let players : Entity → Option Progress := fun entity => if entity = 1 then some newPlayer else none
    (∀ p, ¬ Attempted (receiveEvent p cheapLevels)
        (ForPlayer 1 fun event progress => ¬ progress.CounterOverflows p cheapLevels event) [event] players) ∧
      ¬ Reached (receiveEvent .release cheapLevels) (fun players => ∀ progress, players 1 = some progress →
        progress.Noticed 1) [event] players := by
  intro event players
  constructor
  · intro p h
    refine (attempted_cons_iff.1 h).1 rfl newPlayer rfl ⟨by decide, newPlayer.gained event, ?_, ?_⟩
    · exact Progress.gain_eq_some.2 ⟨rfl, Or.inl ⟨by decide, by decide, by decide⟩⟩
    · exact Option.isNone_iff_eq_none.1 (by decide +kernel)
  · intro h
    have hwraps : (newPlayer.receive .release cheapLevels event).any (fun after =>
        !after.leveled.didLevel && decide (1 < after.leveled.level)) = true := by decide +kernel
    obtain ⟨after, hafter, hvalue⟩ := (Option.any_eq_true _ _).1 hwraps
    rw [Bool.and_eq_true, Bool.not_eq_true', decide_eq_true_iff] at hvalue
    have hreceive : receiveEvent .release cheapLevels event players =
        some (Function.update players 1 (some after)) := by
      have hplayer : players event.target.entity = some newPlayer := rfl
      rw [receiveEvent_of_eq hplayer, hafter]
      rfl
    have hnoticed := ((reached_cons_iff.1 h).2 _ hreceive).head after (Function.update_self ..)
    rw [hnoticed.2 hvalue.2] at hvalue
    exact absurd hvalue.1 (by decide)

end Skrillax

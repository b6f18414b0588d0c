/-
**The command `.level`.**

The command sums up the requirements from the level of the character to the one that is asked for, subtracts
the experience of the character, and has `receive_experience` give the rest to the player.  But the level and
the experience of the character are those of the login; what was gained since is in other components, and is
not looked at.

Main definitions:

* `PlayAction`, `playStep`, `login` — what a player receives, in any order;
* `LandsOn` — a player who sends the command is at that level then, without any experience;
* `LandsWhen` — what was gained since the login covers nothing but the entry for level 255.

Main results:

* `LevelMap.sum_entries` — the sum of the command is the cost of the ladder;
* `handleCommandOf_level` — what the command computes;
* `level_command_lands_iff` — **in every reachable state the command lands on its level exactly if this is
  so**.
-/

import Skrillax.Experience

set_option relaxedAutoImplicit false
set_option autoImplicit false

namespace Skrillax

open Rust PartialAction
open Chat (ChatCommand ChatData ChatGame ChatPlayer CommandOutcome ReceiveExperienceEvent handleCommandOf
  parseUnsigned)

variable {F Position Location Rest : Type}

/-! ### A player in the game -/

/-- What a player receives: events from anywhere, and those that chat commands send. -/
inductive PlayAction where
  | receive (event : ReceiveExperienceEvent)
  | command (command : ChatCommand)
  | reset

/-- The character of the player, in `player`, stays the one of the login. -/
def playStep (p : Profile) (data : ChatData F Position Location) (map : LevelMap)
    (game : ChatGame F Position Location Rest) (player : ChatPlayer F Position) :
    PlayAction → Progress → Option Progress
  | .receive event, progress => progress.receive p map event
  | .command command, progress => do
      let outcome ← handleCommandOf p data game player command
      match outcome.experience with
      | some event => progress.receive p map event
      | none => some progress
  | .reset, progress => some progress.reset

/-- The components at login. -/
def login (player : ChatPlayer F Position) (maxLevel : UInt8) (sp spExp : UInt32) : Progress :=
  ⟨Leveled.new player.level maxLevel, Experienced.new player.exp spExp.toUInt64, ⟨sp⟩⟩

/-- What the command sums up. -/
def totalRequiredExp (p : Profile) (levels : List (UInt8 × UInt64)) (playerLevel : UInt8) (targetLevel : ℕ) :
    Option UInt64 :=
  ((levels.filter fun level => playerLevel.toNat ≤ level.1.toNat && level.1.toNat < targetLevel).map
    Prod.snd).foldlM p.addU64 0

/-- The command is computed without an underflow, and the event that it sends takes the player to the level,
without any experience. -/
def LandsOn (p : Profile) (data : ChatData F Position Location) (map : LevelMap)
    (game : ChatGame F Position Location Rest) (player : ChatPlayer F Position) (command : ChatCommand)
    (targetLevel : ℕ) (progress : Progress) : Prop :=
  ∃ total outcome event after, totalRequiredExp p data.levels player.level targetLevel = some total ∧
    player.exp ≤ total ∧ handleCommandOf p data game player command = some outcome ∧
    outcome.experience = some event ∧ progress.receive p map event = some after ∧
    after.leveled.level.toNat = targetLevel ∧ after.experienced.experience = 0

/-- What was gained since the login, which is the experience with the cost of the levels since then, less the
experience at login, is nothing; for level 255 it may be the entry for it some times, `extra`.  The level that
is asked for has no entry that requires nothing, and no sum overflows. -/
structure LandsWhen (p : Profile) (map : LevelMap) (player : ChatPlayer F Position) (targetLevel : ℕ)
    (progress : Progress) (extra : ℕ) : Prop where
  stops : map.ladder targetLevel ≠ some 0
  beyond : extra = 0 ∨ targetLevel = 255 ∧ (map.ladder 255).isSome = true
  fits : Ladder.cost map.ladder progress.leveled.level.toNat (targetLevel + extra) < 2 ^ 64
  needed : player.exp.toNat < Ladder.cost map.ladder player.level.toNat targetLevel % 2 ^ 64
  gained : progress.experienced.experience.toNat +
      Ladder.cost map.ladder player.level.toNat progress.leveled.level.toNat ≡
    player.exp.toNat + Ladder.cost map.ladder targetLevel (targetLevel + extra) [MOD 2 ^ 64]
  exact : p = .debug →
    Ladder.cost map.ladder player.level.toNat targetLevel < 2 ^ 64 ∧
      progress.experienced.experience.toNat +
          Ladder.cost map.ladder player.level.toNat progress.leveled.level.toNat =
        player.exp.toNat + Ladder.cost map.ladder targetLevel (targetLevel + extra) ∧
      progress.sp.sp.toNat + (progress.experienced.spExp / Experienced.expPerSp).toUInt32.toNat < 2 ^ 32 ∧
      progress.leveled.leveledUp.toInt + ((targetLevel + extra : ℤ) - progress.leveled.level.toNat) ≤ 127

/-! ### The sum -/

theorem foldlM_addU64_eq_some {p : Profile} {summands : List UInt64} {start total : UInt64} :
    summands.foldlM p.addU64 start = some total ↔
      total.toNat = (start.toNat + (summands.map UInt64.toNat).sum) % 2 ^ 64 ∧
        (start.toNat + (summands.map UInt64.toNat).sum < 2 ^ 64 ∨ p = .release) := by
  induction summands generalizing start with
  | nil =>
      have hlt := start.toNat_lt
      simp only [List.foldlM_nil, Option.pure_def, Option.some.injEq, List.map_nil, List.sum_nil, Nat.add_zero,
        Nat.mod_eq_of_lt hlt, hlt, true_or, and_true]
      rw [← UInt64.toNat_inj, eq_comm]
  | cons summand summands ih =>
      simp only [List.foldlM_cons, Option.bind_eq_bind, Option.bind_eq_some_iff, Profile.addU64_eq_some, ih,
        List.map_cons, List.sum_cons]
      constructor
      · rintro ⟨_, ⟨rfl, hfirst⟩, htotal, hrest⟩
        rw [UInt64.toNat_add] at htotal hrest
        refine ⟨by omega, Profile.or_release_iff.2 fun hp => ?_⟩
        have hfirst' := Profile.or_release_iff.1 hfirst hp
        have hrest' := Profile.or_release_iff.1 hrest hp
        omega
      · rintro ⟨htotal, hfits⟩
        refine ⟨_, ⟨rfl, hfits.imp_left fun h => by omega⟩, ?_, hfits.imp_left fun h => ?_⟩
        · rw [UInt64.toNat_add]
          omega
        · rw [UInt64.toNat_add]
          omega

/-- The entry of a level counts at this level, where there is no other one. -/
theorem lookup_cons_getD {level : UInt8} {required : UInt64} {entries : List (UInt8 × UInt64)}
    (hlevel : level ∉ entries.map Prod.fst) {rung : ℕ} (hrung : rung < 256) :
    ((((level, required) :: entries).lookup (UInt8.ofNat rung)).map UInt64.toNat).getD 0 =
      (if rung = level.toNat then required.toNat else 0) +
        ((entries.lookup (UInt8.ofNat rung)).map UInt64.toNat).getD 0 := by
  by_cases heq : rung = level.toNat
  · have hnone : entries.lookup level = none := by
      rw [List.lookup_eq_none_iff]
      intro other hother
      rw [bne_iff_ne]
      intro heq
      exact hlevel (List.mem_map.2 ⟨other, hother, heq.symm⟩)
    rw [heq, UInt8.ofNat_toNat, List.lookup_cons_self, hnone]
    simp
  · have hne : (UInt8.ofNat rung == level) = false := by
      rw [beq_eq_false_iff_ne]
      rintro rfl
      rw [UInt8.toNat_ofNat'] at heq
      omega
    rw [List.lookup_cons, hne, if_neg heq, zero_add]

theorem sum_lookup {entries : List (UInt8 × UInt64)} (hnodup : (entries.map Prod.fst).Nodup) {low high : ℕ}
    (hhigh : high ≤ 256) :
    (((entries.filter fun entry => low ≤ entry.1.toNat && entry.1.toNat < high).map Prod.snd).map
        UInt64.toNat).sum =
      ∑ rung ∈ Finset.Ico low high, ((entries.lookup (UInt8.ofNat rung)).map UInt64.toNat).getD 0 := by
  induction entries with
  | nil => simp
  | cons entry entries ih =>
      obtain ⟨level, required⟩ := entry
      rw [List.map_cons, List.nodup_cons] at hnodup
      rw [Finset.sum_congr rfl fun rung hrung =>
          lookup_cons_getD hnodup.1 ((Finset.mem_Ico.1 hrung).2.trans_le hhigh),
        Finset.sum_add_distrib, ← ih hnodup.2, Finset.sum_ite_eq', List.filter_cons]
      by_cases hin : low ≤ level.toNat ∧ level.toNat < high
      · rw [if_pos (by simpa using hin), if_pos (Finset.mem_Ico.2 hin)]
        simp
      · rw [if_neg (by simpa using hin), if_neg fun hmem => hin (Finset.mem_Ico.1 hmem), zero_add]

/-- The sum of the command is the cost of the ladder. -/
theorem LevelMap.sum_entries (map : LevelMap) (low : ℕ) {high : ℕ} (hhigh : high ≤ 256) :
    (((map.entries.filter fun entry => low ≤ entry.1.toNat && entry.1.toNat < high).map Prod.snd).map
        UInt64.toNat).sum = Ladder.cost map.ladder low high := by
  rw [sum_lookup map.nodup hhigh]
  refine Finset.sum_congr rfl fun rung hrung => ?_
  have hrung' := (Finset.mem_Ico.1 hrung).2
  rw [LevelMap.ladder, Nat.min_eq_left (by omega)]
  rfl

theorem totalRequiredExp_eq_some {p : Profile} {map : LevelMap} {playerLevel : UInt8} {targetLevel : ℕ}
    (htarget : targetLevel ≤ 256) {total : UInt64} :
    totalRequiredExp p map.entries playerLevel targetLevel = some total ↔
      total.toNat = Ladder.cost map.ladder playerLevel.toNat targetLevel % 2 ^ 64 ∧
        (Ladder.cost map.ladder playerLevel.toNat targetLevel < 2 ^ 64 ∨ p = .release) := by
  have hzero : (0 : UInt64).toNat = 0 := rfl
  rw [totalRequiredExp, foldlM_addU64_eq_some, map.sum_entries _ htarget, hzero, Nat.zero_add]

/-! ### The command -/

section Command

variable {p : Profile} {data : ChatData F Position Location} {map : LevelMap}
  {game : ChatGame F Position Location Rest} {player : ChatPlayer F Position} {command : ChatCommand}
  {targetLevel : ℕ} {progress progress' : Progress}

/-- What the command computes, for a level above that of the character. -/
theorem handleCommandOf_level (hname : command.name = "level")
    (hargs : command.args.head?.bind (parseUnsigned (2 ^ 8)) = some targetLevel)
    (hhigher : player.level.toNat < targetLevel) :
    handleCommandOf p data game player command =
      (totalRequiredExp p data.levels player.level targetLevel).bind fun total =>
        if total = 0 then some { CommandOutcome.respond "Level is not possible" with stops := true }
        else (p.subU64 total player.exp).map fun remaining =>
          ⟨none, none, some ⟨none, ⟨player.entity, player.gameEntity⟩, remaining, 0⟩, [], false⟩ := by
  unfold handleCommandOf
  rw [hname, if_neg (by decide), if_neg (by decide), if_neg (by decide), if_neg (by decide), if_pos rfl,
    hargs]
  dsimp only
  rw [if_neg (by omega)]
  refine congrArg _ (funext fun total => ?_)
  split
  · rfl
  · cases p.subU64 total player.exp <;> rfl

theorem parseUnsigned_lt {bound value : ℕ} {s : String} (h : parseUnsigned bound s = some value) :
    value < bound := by
  simp only [parseUnsigned, Option.ite_none_right_eq_some, Option.some.injEq, Bool.and_eq_true,
    decide_eq_true_eq] at h
  obtain ⟨⟨-, hlt⟩, rfl⟩ := h
  exact hlt

/-! ### Levels are never lost -/

theorem Progress.receive_level_le {event : ReceiveExperienceEvent}
    (h : progress.receive p map event = some progress') :
    progress.leveled.level.toNat ≤ progress'.leveled.level.toNat := by
  unfold Progress.receive at h
  split at h
  · rw [Option.some_inj.1 h]
  · obtain ⟨gained, hgained, hloop⟩ := Option.bind_eq_some_iff.1 h
    obtain rfl := (Progress.gain_eq_some.1 hgained).1
    obtain ⟨⟨leveled, experienced⟩, hresult, rfl⟩ := Option.map_eq_some_iff.1 hloop
    obtain ⟨top, hclimbs, -, hat, -⟩ := levelUps_spec (progress.gained event).leveled.at_level hresult
    have hle : progress.leveled.level.toNat ≤ top := Ladder.Climbs.le hclimbs
    have hlt := progress.leveled.level.toNat_lt
    change _ ≤ leveled.level.toNat
    rw [hat]
    omega

theorem playStep_level_le {action : PlayAction} (h : playStep p data map game player action progress =
    some progress') : progress.leveled.level.toNat ≤ progress'.leveled.level.toNat := by
  cases action with
  | receive event => exact Progress.receive_level_le h
  | command command =>
      obtain ⟨outcome, -, hreceive⟩ := Option.bind_eq_some_iff.1 h
      cases hevent : outcome.experience with
      | none =>
          rw [hevent] at hreceive
          rw [Option.some_inj.1 hreceive]
      | some event =>
          rw [hevent] at hreceive
          exact Progress.receive_level_le hreceive
  | reset =>
      obtain rfl := Option.some_inj.1 h
      exact le_rfl

theorem level_le_of_run {maxLevel : UInt8} {sp spExp : UInt32} {actions : List PlayAction}
    (hrun : runAll (playStep p data map game player) actions (login player maxLevel sp spExp) = some progress) :
    player.level.toNat ≤ progress.leveled.level.toNat := by
  have hreached : Reached (playStep p data map game player)
      (fun progress => player.level.toNat ≤ progress.leveled.level.toNat) actions
        (login player maxLevel sp spExp) :=
    reached_of_step (fun _ _ _ _ hle h => hle.trans (playStep_level_le h)) le_rfl
  exact hreached.last hrun

/-! ### The event -/

/-- Beyond level 255 all rungs are alike. -/
theorem LevelMap.ladder_add (map : LevelMap) {rung extra : ℕ} (h : extra = 0 ∨ rung = 255) :
    map.ladder (rung + extra) = map.ladder rung := by
  rcases h with rfl | rfl
  · rw [Nat.add_zero]
  · rw [LevelMap.ladder, LevelMap.ladder, Nat.min_eq_right (Nat.le_add_right _ _), Nat.min_self]

/-- Without experience one has arrived, unless there is a rung that costs nothing. -/
theorem LevelMap.settled_zero_iff {map : LevelMap} {rung : ℕ} :
    Ladder.Settled map.ladder (rung, 0) ↔ map.ladder rung ≠ some 0 := by
  constructor
  · intro hsettled hfree
    have hstep : Ladder.Step map.ladder (rung, 0 + 0) (rung + 1, 0) := .climb hfree
    exact hsettled (rung + 1, 0) hstep
  · intro hfree next hstep
    obtain ⟨paid, hprice, hmoney⟩ := hstep.paid
    obtain rfl : paid = 0 := by omega
    exact hfree hprice

/-- The loop lands on a level without any experience exactly if the experience is the cost of it. -/
theorem Progress.levelUps_lands_iff (hbelow : progress.leveled.level.toNat < targetLevel)
    (htarget : targetLevel ≤ 255)
    (hentries : ∀ rung, progress.leveled.level.toNat ≤ rung → rung < targetLevel →
      (map.ladder rung).isSome = true) :
    (∃ after, progress.levelUps p map = some after ∧ after.leveled.level.toNat = targetLevel ∧
        after.experienced.experience = 0) ↔
      ∃ extra, map.ladder targetLevel ≠ some 0 ∧
        (extra = 0 ∨ targetLevel = 255 ∧ (map.ladder 255).isSome = true) ∧
        progress.experienced.experience.toNat =
          Ladder.cost map.ladder progress.leveled.level.toNat (targetLevel + extra) ∧
        (p = .debug → progress.leveled.leveledUp.toInt +
          ((targetLevel + extra : ℤ) - progress.leveled.level.toNat) ≤ 127) := by
  constructor
  · rintro ⟨after, hafter, hlevel, hzero⟩
    obtain ⟨⟨leveled, experienced⟩, hresult, rfl⟩ := Option.map_eq_some_iff.1 hafter
    obtain ⟨top, hclimbs, hsettled, hat, -, -, hdebug⟩ := levelUps_spec progress.leveled.at_level hresult
    dsimp only at hlevel hzero
    rw [hzero, UInt64.toNat_zero] at hclimbs hsettled
    rw [hat] at hlevel
    obtain ⟨hle, hsome, hmoney⟩ := Ladder.climbs_iff.1 hclimbs
    obtain ⟨extra, rfl⟩ : ∃ extra, top = targetLevel + extra := Nat.exists_eq_add_of_le (by omega)
    have hbeyond : extra = 0 ∨ targetLevel = 255 := by omega
    refine ⟨extra, ?_, ?_, by omega, fun hp => by have hcount := hdebug hp; push_cast at hcount; exact hcount⟩
    · rw [← map.ladder_add hbeyond]
      exact LevelMap.settled_zero_iff.1 hsettled
    · rcases Nat.eq_zero_or_pos extra with hextra | hextra
      · exact Or.inl hextra
      · obtain rfl := hbeyond.resolve_left hextra.ne'
        exact Or.inr ⟨rfl, hsome 255 hbelow.le (by omega)⟩
  · rintro ⟨extra, hfree, hbeyond, hmoney, hcounter⟩
    have hsame : extra = 0 ∨ targetLevel = 255 := hbeyond.imp_right And.left
    have hsettled : Ladder.Settled map.ladder (targetLevel + extra, 0) := by
      rw [LevelMap.settled_zero_iff, map.ladder_add hsame]
      exact hfree
    have hclimbs : Ladder.Climbs map.ladder (progress.leveled.level.toNat,
        progress.experienced.experience.toNat) (targetLevel + extra, 0) := by
      refine Ladder.climbs_iff.2 ⟨by omega, fun rung hlower hupper => ?_, by rw [hmoney, zero_add]⟩
      rcases lt_or_ge rung targetLevel with hlt | hge
      · exact hentries rung hlower hlt
      · obtain ⟨rfl, hlast⟩ := hbeyond.resolve_left (by omega)
        obtain ⟨more, rfl⟩ := Nat.exists_eq_add_of_le hge
        rw [map.ladder_add (Or.inr rfl)]
        exact hlast
    have hcounter' : progress.leveled.leveledUp.toInt +
        (((targetLevel + extra : ℕ) : ℤ) - progress.leveled.level.toNat) ≤ 127 ∨ p = .release := by
      push_cast
      exact Profile.or_release_iff.2 hcounter
    have hreturns : (Skrillax.levelUps p map progress.fuel progress.leveled
        progress.experienced).isSome = true :=
      levelUps_isSome progress.leveled.at_level hclimbs hsettled
        (LevelMap.top_lt hclimbs hsettled (by omega)) hcounter'
    obtain ⟨⟨leveled, experienced⟩, hresult⟩ := Option.isSome_iff_exists.1 hreturns
    obtain ⟨top, hclimbs', hsettled', hat, -⟩ := levelUps_spec progress.leveled.at_level hresult
    obtain ⟨rfl, hzero⟩ := Prod.mk.inj (hclimbs.unique hsettled hclimbs' hsettled')
    refine ⟨⟨leveled, experienced, progress.sp⟩, by rw [Progress.levelUps, hresult]; rfl, ?_, ?_⟩
    · change leveled.level.toNat = targetLevel
      rw [hat]
      omega
    · exact UInt64.toNat_inj.1 hzero.symm

/-- What the command sends, if it sends anything. -/
theorem landsOn_iff (hdata : data.levels = map.entries) (hname : command.name = "level")
    (hargs : command.args.head?.bind (parseUnsigned (2 ^ 8)) = some targetLevel)
    (hhigher : player.level.toNat < targetLevel) (hbelow : progress.leveled.level.toNat < targetLevel) :
    LandsOn p data map game player command targetLevel progress ↔
      ∃ total event, totalRequiredExp p map.entries player.level targetLevel = some total ∧
        player.exp < total ∧ event = ⟨none, ⟨player.entity, player.gameEntity⟩, total - player.exp, 0⟩ ∧
        (progress.GainFits event ∨ p = .release) ∧
        ∃ after, (progress.gained event).levelUps p map = some after ∧
          after.leveled.level.toNat = targetLevel ∧ after.experienced.experience = 0 := by
  rw [LandsOn, handleCommandOf_level hname hargs hhigher, hdata]
  constructor
  · rintro ⟨total, outcome, event, after, htotal, hle, houtcome, hevent, hreceive, hlevel, hzero⟩
    rw [htotal, Option.bind_some] at houtcome
    split at houtcome
    · obtain rfl := Option.some_inj.1 houtcome
      cases hevent
    · obtain ⟨remaining, hremaining, rfl⟩ := Option.map_eq_some_iff.1 houtcome
      obtain rfl := Option.some_inj.1 hevent
      obtain rfl := (Profile.checked_eq_some.1 hremaining).1
      unfold Progress.receive at hreceive
      split at hreceive
      · -- an event with nothing in it is skipped, and the level stays
        obtain rfl := Option.some_inj.1 hreceive
        omega
      · rename_i hsome
        obtain ⟨gained, hgained, hloop⟩ := Option.bind_eq_some_iff.1 hreceive
        obtain ⟨rfl, hfits⟩ := Progress.gain_eq_some.1 hgained
        refine ⟨total, _, htotal, ?_, rfl, hfits, after, hloop, hlevel, hzero⟩
        refine UInt64.lt_of_le_of_ne hle fun heq => hsome ⟨?_, rfl⟩
        rw [heq]
        exact UInt64.sub_self total
  · rintro ⟨total, event, htotal, hlt, rfl, hfits, after, hloop, hlevel, hzero⟩
    have hle := UInt64.le_of_lt hlt
    have hne : total ≠ 0 := by
      rintro rfl
      exact UInt64.not_lt_zero hlt
    have hsome : ¬ (total - player.exp = 0 ∧ (0 : UInt64) = 0) := by
      rintro ⟨hnothing, -⟩
      have hnothing' := congrArg UInt64.toNat hnothing
      rw [UInt64.toNat_sub_of_le _ _ hle, UInt64.toNat_zero] at hnothing'
      have hlt' := UInt64.lt_iff_toNat_lt.1 hlt
      omega
    refine ⟨total, ⟨none, none, some ⟨none, ⟨player.entity, player.gameEntity⟩, total - player.exp, 0⟩, [],
      false⟩, _, after, htotal, hle, ?_, rfl, ?_, hlevel, hzero⟩
    · rw [htotal, Option.bind_some, if_neg hne, Profile.subU64, if_pos hle]
      rfl
    · rw [Progress.receive, if_neg hsome, Progress.gain_eq_some.2 ⟨rfl, hfits⟩, Option.bind_some]
      exact hloop

end Command

/-- The experience after the event, for a sum of the command that may have wrapped around. -/
theorem toNat_gained_eq_iff {experience total exp : UInt64} {since missing beyond : ℕ}
    (htotal : total.toNat = (since + missing) % 2 ^ 64) (hle : exp ≤ total) :
    (experience + (total - exp)).toNat = missing + beyond ↔
      missing + beyond < 2 ^ 64 ∧
        experience.toNat + since ≡ exp.toNat + beyond [MOD 2 ^ 64] := by
  have hle' := UInt64.le_iff_toNat_le.1 hle
  rw [UInt64.toNat_add, UInt64.toNat_sub_of_le _ _ hle, Nat.ModEq]
  constructor
  · intro h
    exact ⟨by omega, by omega⟩
  · rintro ⟨hfits, hgained⟩
    omega

/-- Entries that require something are rungs of the ladder. -/
theorem LevelMap.ladder_isSome {map : LevelMap} {lower : UInt8} {targetLevel : ℕ} (htarget : targetLevel ≤ 256)
    (hpositive : ∀ level, lower ≤ level → level.toNat < targetLevel →
      ∃ required, map.getExpForLevel level = some required ∧ 0 < required)
    {rung : ℕ} (hlower : lower.toNat ≤ rung) (hupper : rung < targetLevel) :
    (map.ladder rung).isSome = true := by
  have hrung : (UInt8.ofNat rung).toNat = rung := by
    rw [UInt8.toNat_ofNat']
    omega
  obtain ⟨required, hrequired, -⟩ := hpositive (UInt8.ofNat rung)
    (UInt8.le_iff_toNat_le.2 (by omega)) (by omega)
  rw [LevelMap.ladder, Nat.min_eq_left (by omega), hrequired]
  rfl

/-- **In every reachable state the command lands on its level exactly if nothing was gained since the login.**
For level 255 it may be what its entry requires, any number of times. -/
theorem level_command_lands_iff (p : Profile) (data : ChatData F Position Location) (map : LevelMap)
    (hdata : data.levels = map.entries) (game : ChatGame F Position Location Rest)
    (player : ChatPlayer F Position) (maxLevel : UInt8) (sp spExp : UInt32) (actions : List PlayAction)
    (progress : Progress)
    (hrun : runAll (playStep p data map game player) actions (login player maxLevel sp spExp) = some progress)
    (command : ChatCommand) (targetLevel : ℕ) (hname : command.name = "level")
    (hargs : command.args.head?.bind (parseUnsigned (2 ^ 8)) = some targetLevel)
    (hbelow : progress.leveled.level.toNat < targetLevel)
    (hpositive : ∀ level, player.level ≤ level → level.toNat < targetLevel →
      ∃ required, map.getExpForLevel level = some required ∧ 0 < required) :
    LandsOn p data map game player command targetLevel progress ↔
      ∃ extra, LandsWhen p map player targetLevel progress extra := by
  have hlogin := level_le_of_run hrun
  have htarget : targetLevel < 2 ^ 8 := by
    obtain ⟨arg, -, hparse⟩ := Option.bind_eq_some_iff.1 hargs
    exact parseUnsigned_lt hparse
  have hsplit : Ladder.cost map.ladder player.level.toNat progress.leveled.level.toNat +
      Ladder.cost map.ladder progress.leveled.level.toNat targetLevel =
        Ladder.cost map.ladder player.level.toNat targetLevel := Ladder.cost_add hlogin hbelow.le
  have hsplit' (extra : ℕ) : Ladder.cost map.ladder progress.leveled.level.toNat targetLevel +
      Ladder.cost map.ladder targetLevel (targetLevel + extra) =
        Ladder.cost map.ladder progress.leveled.level.toNat (targetLevel + extra) :=
    Ladder.cost_add hbelow.le (Nat.le_add_right _ _)
  have hlands (event : ReceiveExperienceEvent) :
      (∃ after, (progress.gained event).levelUps p map = some after ∧
        after.leveled.level.toNat = targetLevel ∧ after.experienced.experience = 0) ↔ _ :=
    Progress.levelUps_lands_iff hbelow (by omega) fun rung hlower hupper =>
      LevelMap.ladder_isSome (by omega) hpositive (hlogin.trans hlower) hupper
  -- the event takes the experience to the cost of the rungs that are left
  have hmoney (total : UInt64) (extra : ℕ) (htotal : total.toNat =
      Ladder.cost map.ladder player.level.toNat targetLevel % 2 ^ 64) (hlt : player.exp < total) :
      (progress.experienced.experience + (total - player.exp)).toNat =
          Ladder.cost map.ladder progress.leveled.level.toNat (targetLevel + extra) ↔
        Ladder.cost map.ladder progress.leveled.level.toNat (targetLevel + extra) < 2 ^ 64 ∧
          progress.experienced.experience.toNat +
              Ladder.cost map.ladder player.level.toNat progress.leveled.level.toNat ≡
            player.exp.toNat + Ladder.cost map.ladder targetLevel (targetLevel + extra) [MOD 2 ^ 64] := by
    rw [← hsplit] at htotal
    rw [← hsplit' extra]
    exact toNat_gained_eq_iff htotal (UInt64.le_of_lt hlt)
  rw [landsOn_iff hdata hname hargs (by omega) hbelow]
  constructor
  · rintro ⟨total, event, htotal, hlt, rfl, hfits, hloop⟩
    obtain ⟨extra, hfree, hbeyond, hcost, hcounter⟩ := (hlands _).1 hloop
    obtain ⟨hsum, hexact⟩ := (totalRequiredExp_eq_some (by omega)).1 htotal
    obtain ⟨hsmall, hgained⟩ := (hmoney total extra hsum hlt).1 hcost
    refine ⟨extra, hfree, hbeyond, hsmall, hsum ▸ UInt64.lt_iff_toNat_lt.1 hlt, hgained, fun hp => ?_⟩
    obtain ⟨hexp, -, hpoints⟩ := Profile.or_release_iff.1 hfits hp
    have hsum' := Profile.or_release_iff.1 hexact hp
    have hremaining := UInt64.toNat_sub_of_le _ _ (UInt64.le_of_lt hlt)
    have hlt' := UInt64.lt_iff_toNat_lt.1 hlt
    have hcost' := hsplit' extra
    change progress.experienced.experience.toNat + (total - player.exp).toNat < 2 ^ 64 at hexp
    change (progress.experienced.experience + (total - player.exp)).toNat =
      Ladder.cost map.ladder progress.leveled.level.toNat (targetLevel + extra) at hcost
    rw [UInt64.toNat_add, Nat.mod_eq_of_lt hexp, hremaining] at hcost
    rw [Progress.points, UInt64.add_zero] at hpoints
    exact ⟨hsum', by omega, hpoints, hcounter hp⟩
  · rintro ⟨extra, hfree, hbeyond, hfits, hneeded, hgained, hexact⟩
    have hsum : (UInt64.ofNat (Ladder.cost map.ladder player.level.toNat targetLevel)).toNat =
        Ladder.cost map.ladder player.level.toNat targetLevel % 2 ^ 64 := UInt64.toNat_ofNat'
    have hlt : player.exp < UInt64.ofNat (Ladder.cost map.ladder player.level.toNat targetLevel) :=
      UInt64.lt_iff_toNat_lt.2 (hneeded.trans_eq hsum.symm)
    have hcost := (hmoney _ extra hsum hlt).2 ⟨hfits, hgained⟩
    refine ⟨_, _, (totalRequiredExp_eq_some (by omega)).2
      ⟨hsum, Profile.or_release_iff.2 fun hp => (hexact hp).1⟩, hlt, rfl, Profile.or_release_iff.2 fun hp => ?_,
      (hlands _).2 ⟨extra, hfree, hbeyond, hcost, fun hp => (hexact hp).2.2.2⟩⟩
    obtain ⟨hsmall, hequal, hpoints, -⟩ := hexact hp
    have hremaining := UInt64.toNat_sub_of_le _ _ (UInt64.le_of_lt hlt)
    have hcost' := hsplit' extra
    refine ⟨?_, progress.experienced.spExp.toNat_lt, ?_⟩
    · dsimp only
      rw [hremaining]
      omega
    · rw [Progress.points, UInt64.add_zero]
      exact hpoints

def twoLevels : LevelMap := ⟨[(1, 100), (2, 200)], by decide⟩

def levelData : ChatData Unit Unit Unit := { Chat.sampleData with levels := twoLevels.entries }

/-- A game master at level 1, without any experience. -/
def levelPlayer : ChatPlayer Unit Unit := ⟨1, ⟨7, 1907⟩, 1, "Nobody", 1, 0, (), none, (), (), [], false, false⟩

theorem twoLevels_positive (level : UInt8) (hlower : levelPlayer.level ≤ level) (hupper : level.toNat < 2) :
    ∃ required, twoLevels.getExpForLevel level = some required ∧ 0 < required := by
  have hone : levelPlayer.level.toNat = 1 := rfl
  have hlower' := UInt8.le_iff_toNat_le.1 hlower
  obtain rfl : level = 1 := UInt8.toNat_inj.1 (by rw [UInt8.toNat_one]; omega)
  exact ⟨100, rfl, by decide⟩

theorem level_command_lands_at_login :
    LandsOn .debug levelData twoLevels Chat.sampleGame levelPlayer ⟨"level", ["2"]⟩ 2
        (login levelPlayer 1 0 0) ↔
      ∃ extra, LandsWhen .debug twoLevels levelPlayer 2 (login levelPlayer 1 0 0) extra :=
  level_command_lands_iff .debug levelData twoLevels rfl Chat.sampleGame levelPlayer 1 0 0 []
    (login levelPlayer 1 0 0) rfl ⟨"level", ["2"]⟩ 2 rfl (by decide) (by decide) twoLevels_positive

/-- After 30 points of experience the command takes the player to level 2 with 30 points. -/
theorem level_command_misses :
    ∃ progress : Progress, progress.leveled.level.toNat < 2 ∧ ∀ p,
      runAll (playStep p levelData twoLevels Chat.sampleGame levelPlayer)
          [.receive ⟨none, ⟨1, ⟨7, 1907⟩⟩, 30, 0⟩] (login levelPlayer 1 0 0) = some progress ∧
        ¬ LandsOn p levelData twoLevels Chat.sampleGame levelPlayer ⟨"level", ["2"]⟩ 2 progress := by
  refine ⟨⟨Leveled.new 1 1, ⟨30, 0, [⟨30, 0, false, none⟩]⟩, ⟨0⟩⟩, by decide, fun p => ⟨?_, ?_⟩⟩
  · cases p <;> rfl
  · have hdata : levelData.levels = twoLevels.entries := rfl
    rw [landsOn_iff hdata rfl (by decide) (by decide) (by decide)]
    rintro ⟨total, event, htotal, -, rfl, -, after, hloop, -, hzero⟩
    have hsum : totalRequiredExp p twoLevels.entries levelPlayer.level 2 = some 100 := by cases p <;> rfl
    obtain rfl := Option.some_inj.1 (hsum.symm.trans htotal)
    have hrest := congrArg (Option.map fun after => after.experienced.experience) hloop
    rw [Option.map_some, hzero] at hrest
    cases p <;> exact absurd hrest (by decide)

end Skrillax

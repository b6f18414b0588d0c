/-
**Raising a mastery.**

A request names a mastery and an amount, which the client chooses.  The cap on the total is compared with
the total before the increase, and the price is that of the present level alone, however large the amount
is.

Main definitions:

* `KnownMasteries` — the masteries of a player, as a finite map, with the list of those to report;
* `handleMasteryLevelup` — the handler of a request;
* `masteryDecision` — its checks;
* `MasterySound` — a request that stays within the cap, pays for every level and does not overflow;
* `AmountIsPaid` — the requests for which the two checks say enough.

Main results:

* `KnownMasteries.totalLevels_levelMasteryBy`, `KnownMasteries.levelOf_levelMasteryBy` — what an increase
  does;
* `handleMasteryLevelup_eq` — the handler is its checks, then the payment and the increase;
* `masterySound_iff` — one request;
* `masteries_paid_iff` — **in every sequence of requests the masteries respect the cap and are paid for
  exactly if the amounts are paid**.
-/

import Mathlib.Data.List.AList
import Skrillax.Character

set_option relaxedAutoImplicit false
set_option autoImplicit false

namespace Skrillax

open Rust PartialAction

/-! ### The masteries of a player -/

/-- `MasteryKnowledge`, with the list of the masteries to report. -/
structure KnownMasteries where
  masteries : AList fun _ : UInt32 => UInt8
  leveledMasteries : List UInt32

namespace KnownMasteries

/-- As it is stored. -/
def knowledge (known : KnownMasteries) : MasteryKnowledge := ⟨fun refId => known.masteries.lookup refId⟩

def new (values : List (UInt32 × UInt8)) : KnownMasteries where
  masteries := values.foldl (fun masteries entry => masteries.insert entry.1 entry.2) ∅
  leveledMasteries := []

def levelMasteryBy (p : Profile) (known : KnownMasteries) (refId : UInt32) (amount : UInt8) :
    Option KnownMasteries :=
  let leveledMasteries := known.leveledMasteries ++ [refId]
  match known.masteries.lookup refId with
  | some level => do
      let level ← p.addU8 level amount
      return ⟨known.masteries.insert refId level, leveledMasteries⟩
  | none => some ⟨known.masteries.insert refId amount, leveledMasteries⟩

def levelOf (known : KnownMasteries) (refId : UInt32) : Option UInt8 := known.masteries.lookup refId

/-- The values are added up in the order of the map. -/
def total (p : Profile) (known : KnownMasteries) : Option UInt16 :=
  known.masteries.entries.foldlM (fun sum entry => p.addU16 sum entry.2.toUInt16) 0

def updated (known : KnownMasteries) : List UInt32 := known.leveledMasteries

/-- The total of all levels, as a number. -/
def totalLevels (known : KnownMasteries) : ℕ := (known.masteries.entries.map fun e => e.2.toNat).sum

/-- The level of a mastery, as a number; an unknown one has level zero. -/
def level (known : KnownMasteries) (refId : UInt32) : ℕ := ((known.levelOf refId).getD 0).toNat

end KnownMasteries

/-! ### The handler -/

structure LevelUpMastery where
  mastery : UInt32
  amount : UInt8
  deriving DecidableEq, Repr

inductive LevelUpMasteryError where
  | insufficientSP
  | masteryMaxLevel
  | reachedTotalLimit
  deriving DecidableEq, Repr

/-- `GameConfig::masteries`. -/
structure MasteryConfig where
  europeanPerLevel : UInt16
  chinesePerLevel : UInt16
  deriving DecidableEq, Repr

/-- The reference data of the handler: the masteries that exist, and the column `exp_mastery` of the levels. -/
structure MasteryData where
  findId : UInt32 → Bool
  getMasterySpForLevel : UInt8 → Option UInt32

/-- The components of a player that the requests read and change. -/
structure Learner where
  race : Race
  level : UInt8
  knowledge : KnownMasteries
  skillBook : SkillBook
  sp : UInt32

/-- `SP::spend`, if there is something to pay. -/
def payRequired (p : Profile) (sp requiredSp : UInt32) : Option UInt32 :=
  if 0 < requiredSp then p.subU32 sp requiredSp else some sp

section Handler

variable (p : Profile) (data : MasteryData) (config : MasteryConfig)

def perLevelCap (race : Race) : UInt16 :=
  match race with
  | .european => config.europeanPerLevel
  | .chinese => config.chinesePerLevel

def currentCap (learner : Learner) : Option UInt16 :=
  p.mulU16 learner.level.toUInt16 (perLevelCap config learner.race)

def requiredSp (learner : Learner) (request : LevelUpMastery) : UInt32 :=
  (data.getMasterySpForLevel ((learner.knowledge.levelOf request.mastery).getD 0)).getD 0

/-- `handle_mastery_levelup`, for one player: the learner afterwards and the error that is sent, or `none`
for a panic.  An accepted request is not answered here. -/
def handleMasteryLevelup (learner : Learner) (request : LevelUpMastery) :
    Option (Learner × Option LevelUpMasteryError) :=
  if data.findId request.mastery = false then some (learner, some .insufficientSP)
  else do
    let currentCap ← currentCap p config learner
    let totalMasteryLevels ← learner.knowledge.total p
    if currentCap ≤ totalMasteryLevels then return (learner, some .reachedTotalLimit)
    let requiredSp := requiredSp data learner request
    if learner.sp < requiredSp then return (learner, some .insufficientSP)
    let sp ← payRequired p learner.sp requiredSp
    let knowledge ← learner.knowledge.levelMasteryBy p request.mastery request.amount
    return ({ learner with knowledge, sp }, none)

/-- The checks of the handler: `none` for a panic, and otherwise the error, if there is one. -/
def masteryDecision (learner : Learner) (request : LevelUpMastery) :
    Option (Option LevelUpMasteryError) :=
  if data.findId request.mastery = false then some (some .insufficientSP)
  else do
    let currentCap ← currentCap p config learner
    let totalMasteryLevels ← learner.knowledge.total p
    if currentCap ≤ totalMasteryLevels then return some .reachedTotalLimit
    if learner.sp < requiredSp data learner request then return some .insufficientSP
    return none

/-- A request of a run; what is sent is not kept. -/
def masteryStep (request : LevelUpMastery) (learner : Learner) : Option Learner :=
  (handleMasteryLevelup p data config learner request).map Prod.fst

/-! ### What is demanded of a request -/

/-- The cap on the total, as a number. -/
def masteryCap (learner : Learner) : ℕ := learner.level.toNat * (perLevelCap config learner.race).toNat

def RespectsCap (learner : Learner) : Prop := learner.knowledge.totalLevels ≤ masteryCap config learner

instance (learner : Learner) : Decidable (RespectsCap config learner) :=
  inferInstanceAs (Decidable (_ ≤ _))

/-- The price of the step from a level to the next one. -/
def levelCost (level : ℕ) : ℕ := ((data.getMasterySpForLevel (UInt8.ofNat level)).getD 0).toNat

/-- The sum of the levels, where it is computed, and the new level, where it is computed, are in range. -/
structure AdditionsFit (learner : Learner) (request : LevelUpMastery) : Prop where
  total : data.findId request.mastery = true → (currentCap p config learner).isSome = true →
    learner.knowledge.totalLevels < 2 ^ 16
  level : masteryDecision p data config learner request = some none →
    learner.knowledge.level request.mastery + request.amount.toNat < 2 ^ 8

/-- No addition overflows, and an accepted request respects the cap and pays for every level it adds. -/
structure MasterySound (learner : Learner) (request : LevelUpMastery) : Prop where
  fits : AdditionsFit p data config learner request
  cap : ∀ learner', handleMasteryLevelup p data config learner request = some (learner', none) →
    RespectsCap config learner'
  paid : ∀ learner', handleMasteryLevelup p data config learner request = some (learner', none) →
    learner.sp.toNat = learner'.sp.toNat +
      ∑ level ∈ Finset.Ico (learner.knowledge.level request.mastery)
        (learner'.knowledge.level request.mastery), levelCost data level

/-- If the checks let the request through, the amount fits the level and the cap, and the price of the
present level is that of all the levels; and the sum of the levels is in range where it is computed. -/
structure AmountIsPaid (learner : Learner) (request : LevelUpMastery) : Prop where
  total : data.findId request.mastery = true → (currentCap p config learner).isSome = true →
    learner.knowledge.totalLevels < 2 ^ 16
  level : masteryDecision p data config learner request = some none →
    learner.knowledge.level request.mastery + request.amount.toNat < 2 ^ 8
  cap : masteryDecision p data config learner request = some none →
    learner.knowledge.totalLevels + request.amount.toNat ≤ masteryCap config learner
  price : masteryDecision p data config learner request = some none →
    levelCost data (learner.knowledge.level request.mastery) =
      ∑ i ∈ Finset.range request.amount.toNat,
        levelCost data (learner.knowledge.level request.mastery + i)

end Handler

/-! ### An increase -/

namespace KnownMasteries

/-- What an increase does to the map, if the new level is in range. -/
theorem levelMasteryBy_eq {p : Profile} {known known' : KnownMasteries} {refId : UInt32}
    {amount : UInt8} (hfits : known.level refId + amount.toNat < 2 ^ 8)
    (h : known.levelMasteryBy p refId amount = some known') :
    ∃ level : UInt8, level.toNat = known.level refId + amount.toNat ∧
      known' = ⟨known.masteries.insert refId level, known.leveledMasteries ++ [refId]⟩ := by
  unfold levelMasteryBy at h
  unfold level levelOf at hfits ⊢
  cases hlookup : known.masteries.lookup refId with
  | none =>
      rw [hlookup] at h
      obtain rfl := Option.some_inj.1 h
      exact ⟨amount, by simp, rfl⟩
  | some level =>
      rw [hlookup, Option.getD_some] at hfits
      rw [hlookup] at h
      obtain ⟨sum, hsum, hret⟩ := Option.bind_eq_some_iff.1 h
      rw [Profile.addU8, if_pos hfits, Option.some_inj] at hsum
      obtain rfl := Option.some_inj.1 hret
      refine ⟨sum, ?_, rfl⟩
      rw [← hsum, UInt8.toNat_add, Option.getD_some, Nat.mod_eq_of_lt hfits]

theorem levelMasteryBy_isSome {p : Profile} {known : KnownMasteries} {refId : UInt32} {amount : UInt8}
    (hfits : known.level refId + amount.toNat < 2 ^ 8) :
    (known.levelMasteryBy p refId amount).isSome = true := by
  unfold levelMasteryBy
  cases hlookup : known.masteries.lookup refId with
  | none => rfl
  | some level =>
      have hlevel : known.level refId = level.toNat := by simp [KnownMasteries.level, levelOf, hlookup]
      rw [hlevel] at hfits
      have hsum : p.addU8 level amount = some (level + amount) := if_pos hfits
      simp [hsum]

theorem sum_kerase (refId : UInt32) :
    ∀ entries : List (Sigma fun _ : UInt32 => UInt8),
      (entries.map fun e => e.2.toNat).sum =
        ((entries.dlookup refId).getD 0).toNat + ((entries.kerase refId).map fun e => e.2.toNat).sum := by
  intro entries
  induction entries with
  | nil => simp
  | cons entry entries ih =>
      obtain ⟨key, level⟩ := entry
      by_cases heq : refId = key
      · subst heq
        have hrest : List.kerase refId (⟨refId, level⟩ :: entries) = entries := List.kerase_cons_eq rfl
        rw [List.dlookup_cons_eq, hrest]
        rfl
      · rw [List.dlookup_cons_ne entries ⟨key, level⟩ heq, List.kerase_cons_ne heq, List.map_cons,
          List.sum_cons, List.map_cons, List.sum_cons, ih]
        omega

theorem totalLevels_insert (known : KnownMasteries) (refId : UInt32) (level : UInt8)
    (leveled : List UInt32) :
    totalLevels ⟨known.masteries.insert refId level, leveled⟩ + known.level refId =
      known.totalLevels + level.toNat := by
  have hnew : totalLevels ⟨known.masteries.insert refId level, leveled⟩ =
      level.toNat + ((known.masteries.entries.kerase refId).map fun e => e.2.toNat).sum := rfl
  have hold : known.totalLevels =
      known.level refId + ((known.masteries.entries.kerase refId).map fun e => e.2.toNat).sum :=
    sum_kerase refId known.masteries.entries
  omega

/-- **The total grows by the amount.** -/
theorem totalLevels_levelMasteryBy {p : Profile} {known known' : KnownMasteries} {refId : UInt32}
    {amount : UInt8} (hfits : known.level refId + amount.toNat < 2 ^ 8)
    (h : known.levelMasteryBy p refId amount = some known') :
    known'.totalLevels = known.totalLevels + amount.toNat := by
  obtain ⟨level, hlevel, rfl⟩ := levelMasteryBy_eq hfits h
  have hinsert := totalLevels_insert known refId level (known.leveledMasteries ++ [refId])
  omega

theorem levelOf_levelMasteryBy {p : Profile} {known known' : KnownMasteries} {refId : UInt32}
    {amount : UInt8} (hfits : known.level refId + amount.toNat < 2 ^ 8)
    (h : known.levelMasteryBy p refId amount = some known') :
    known'.level refId = known.level refId + amount.toNat := by
  obtain ⟨level, hlevel, rfl⟩ := levelMasteryBy_eq hfits h
  rw [← hlevel, KnownMasteries.level, levelOf, AList.lookup_insert, Option.getD_some]

/-- The map that is stored is increased in the same way. -/
theorem knowledge_levelMasteryBy (p : Profile) (known : KnownMasteries) (refId : UInt32)
    (amount : UInt8) :
    (known.levelMasteryBy p refId amount).map KnownMasteries.knowledge =
      known.knowledge.levelMasteryBy p refId amount := by
  have hinsert : ∀ (level : UInt8) (leveled : List UInt32),
      knowledge ⟨known.masteries.insert refId level, leveled⟩ =
        ⟨known.knowledge.masteries.insert (refId, level)⟩ := by
    intro level leveled
    unfold knowledge SkillMap.insert
    congr 1
    funext key
    by_cases heq : key = refId
    · rw [heq, AList.lookup_insert, Function.update_self]
    · rw [AList.lookup_insert_ne heq, Function.update_of_ne heq]
  unfold levelMasteryBy MasteryKnowledge.levelMasteryBy
  have hlookup : known.knowledge.masteries refId = known.masteries.lookup refId := rfl
  rw [hlookup]
  cases known.masteries.lookup refId with
  | none => exact congrArg some (hinsert _ _)
  | some level =>
      cases hsum : p.addU8 level amount with
      | none => simp [hsum]
      | some sum => simp [hsum, hinsert]

end KnownMasteries

/-! ### One request -/

/-- The sum of the levels is exact as long as it is in range. -/
theorem KnownMasteries.total_eq {p : Profile} {known : KnownMasteries}
    (h : known.totalLevels < 2 ^ 16) :
    ∃ total, known.total p = some total ∧ total.toNat = known.totalLevels := by
  have hfold : ∀ (entries : List (Sigma fun _ : UInt32 => UInt8)) (sum : UInt16),
      sum.toNat + (entries.map fun e => e.2.toNat).sum < 2 ^ 16 →
      ∃ total, entries.foldlM (fun sum entry => p.addU16 sum entry.2.toUInt16) sum = some total ∧
        total.toNat = sum.toNat + (entries.map fun e => e.2.toNat).sum := by
    intro entries
    induction entries with
    | nil => exact fun sum _ => ⟨sum, rfl, rfl⟩
    | cons entry entries ih =>
        intro sum hsum
        rw [List.map_cons, List.sum_cons] at hsum
        have hlevel : entry.2.toUInt16.toNat = entry.2.toNat := rfl
        have hfits : sum.toNat + entry.2.toUInt16.toNat < 2 ^ 16 := by omega
        have hadd : p.addU16 sum entry.2.toUInt16 = some (sum + entry.2.toUInt16) := if_pos hfits
        have hnat : (sum + entry.2.toUInt16).toNat = sum.toNat + entry.2.toNat := by
          rw [UInt16.toNat_add, hlevel, Nat.mod_eq_of_lt (by omega)]
        obtain ⟨total, htotal, heq⟩ := ih (sum + entry.2.toUInt16) (by omega)
        refine ⟨total, ?_, ?_⟩
        · rw [List.foldlM_cons, hadd]
          exact htotal
        · rw [heq, hnat, List.map_cons, List.sum_cons]
          omega
  have hzero : (0 : UInt16).toNat = 0 := rfl
  obtain ⟨total, htotal, heq⟩ := hfold known.masteries.entries 0 (by rw [hzero, Nat.zero_add]; exact h)
  exact ⟨total, htotal, heq.trans (by rw [hzero, Nat.zero_add]; rfl)⟩

theorem payRequired_eq (p : Profile) {sp requiredSp : UInt32} (h : requiredSp ≤ sp) :
    payRequired p sp requiredSp = some (sp - requiredSp) := by
  unfold payRequired
  split
  · exact if_pos h
  · rename_i hzero
    have hprice : requiredSp = 0 := UInt32.le_antisymm (UInt32.not_lt.1 hzero) UInt32.zero_le
    rw [hprice, UInt32.sub_zero]

section Requests

variable {p : Profile} {data : MasteryData} {config : MasteryConfig}
variable {learner learner' : Learner} {request : LevelUpMastery}

/-- **The handler is its checks, then the payment and the increase.** -/
theorem handleMasteryLevelup_eq :
    handleMasteryLevelup p data config learner request =
      (masteryDecision p data config learner request).bind fun
        | some error => some (learner, some error)
        | none =>
            (learner.knowledge.levelMasteryBy p request.mastery request.amount).map fun knowledge =>
              ({ learner with knowledge, sp := learner.sp - requiredSp data learner request }, none) := by
  unfold handleMasteryLevelup masteryDecision
  split
  · rfl
  · cases hcap : currentCap p config learner with
    | none => rfl
    | some cap =>
        cases htotal : learner.knowledge.total p with
        | none => rfl
        | some total =>
            simp only [Option.bind_eq_bind, Option.bind_some]
            split
            · rfl
            · split
              · rfl
              · rename_i hsp
                have hle : requiredSp data learner request ≤ learner.sp := UInt32.not_lt.1 hsp
                rw [payRequired_eq p hle]
                cases learner.knowledge.levelMasteryBy p request.mastery request.amount <;> rfl

/-- An accepted request. -/
theorem handleMasteryLevelup_accepted
    (h : handleMasteryLevelup p data config learner request = some (learner', none)) :
    masteryDecision p data config learner request = some none ∧
      ∃ knowledge, learner.knowledge.levelMasteryBy p request.mastery request.amount = some knowledge ∧
        learner' = { learner with knowledge, sp := learner.sp - requiredSp data learner request } := by
  rw [handleMasteryLevelup_eq] at h
  obtain ⟨decision, hdecision, hrest⟩ := Option.bind_eq_some_iff.1 h
  cases decision with
  | some error => simp at hrest
  | none =>
      obtain ⟨knowledge, hknowledge, heq⟩ := Option.map_eq_some_iff.1 hrest
      exact ⟨hdecision, knowledge, hknowledge, (Prod.mk.inj heq).1.symm⟩

/-- The checks do not let a request through that cannot be paid. -/
theorem requiredSp_le (h : masteryDecision p data config learner request = some none) :
    requiredSp data learner request ≤ learner.sp := by
  unfold masteryDecision at h
  split at h
  · simp at h
  · obtain ⟨cap, -, hrest⟩ := Option.bind_eq_some_iff.1 h
    obtain ⟨total, -, hchecks⟩ := Option.bind_eq_some_iff.1 hrest
    split at hchecks
    · simp at hchecks
    · split at hchecks
      · simp at hchecks
      · rename_i hsp
        exact UInt32.not_lt.1 hsp

/-- What an accepted request costs. -/
theorem toNat_sp_eq (h : masteryDecision p data config learner request = some none) :
    learner.sp.toNat = (learner.sp - requiredSp data learner request).toNat +
      levelCost data (learner.knowledge.level request.mastery) := by
  have hle := requiredSp_le h
  have hnat := UInt32.le_iff_toNat_le.1 hle
  have hcost : levelCost data (learner.knowledge.level request.mastery) =
      (requiredSp data learner request).toNat := by
    unfold levelCost requiredSp KnownMasteries.level
    rw [UInt8.ofNat_toNat]
  rw [hcost, UInt32.toNat_sub_of_le _ _ hle]
  omega

/-- The levels between the old one and the new one, counted from the old one. -/
theorem sum_levelCost (level amount : ℕ) :
    ∑ n ∈ Finset.Ico level (level + amount), levelCost data n =
      ∑ i ∈ Finset.range amount, levelCost data (level + i) := by
  rw [Finset.sum_Ico_eq_sum_range, Nat.add_sub_cancel_left]

/-- **One request.** -/
theorem masterySound_iff :
    MasterySound p data config learner request ↔ AmountIsPaid p data config learner request := by
  constructor
  · intro hsound
    -- an accepted request is carried out, because the new level is in range
    have hdone : masteryDecision p data config learner request = some none →
        ∃ learner', handleMasteryLevelup p data config learner request = some (learner', none) := by
      intro hdecision
      obtain ⟨knowledge, hknowledge⟩ := Option.isSome_iff_exists.1
        (KnownMasteries.levelMasteryBy_isSome (p := p) (hsound.fits.level hdecision))
      exact ⟨_, by rw [handleMasteryLevelup_eq, hdecision, Option.bind_some, hknowledge]; rfl⟩
    refine ⟨hsound.fits.total, hsound.fits.level, fun hdecision => ?_, fun hdecision => ?_⟩
    · obtain ⟨learner', hlearner'⟩ := hdone hdecision
      obtain ⟨-, knowledge, hknowledge, rfl⟩ := handleMasteryLevelup_accepted hlearner'
      rw [← KnownMasteries.totalLevels_levelMasteryBy (hsound.fits.level hdecision) hknowledge]
      exact hsound.cap _ hlearner'
    · obtain ⟨learner', hlearner'⟩ := hdone hdecision
      have hpaid := hsound.paid _ hlearner'
      obtain ⟨-, knowledge, hknowledge, rfl⟩ := handleMasteryLevelup_accepted hlearner'
      rw [KnownMasteries.levelOf_levelMasteryBy (hsound.fits.level hdecision) hknowledge,
        sum_levelCost] at hpaid
      exact Nat.add_left_cancel ((toNat_sp_eq hdecision).symm.trans hpaid)
  · intro hpaid
    refine ⟨⟨hpaid.total, hpaid.level⟩, fun learner' hlearner' => ?_, fun learner' hlearner' => ?_⟩
    · obtain ⟨hdecision, knowledge, hknowledge, rfl⟩ := handleMasteryLevelup_accepted hlearner'
      have htotal := KnownMasteries.totalLevels_levelMasteryBy (hpaid.level hdecision) hknowledge
      exact htotal.le.trans (hpaid.cap hdecision)
    · obtain ⟨hdecision, knowledge, hknowledge, rfl⟩ := handleMasteryLevelup_accepted hlearner'
      rw [KnownMasteries.levelOf_levelMasteryBy (hpaid.level hdecision) hknowledge, sum_levelCost,
        ← hpaid.price hdecision]
      exact toNat_sp_eq hdecision

/-- A request that is refused leaves the learner as it is. -/
theorem handleMasteryLevelup_refused {error : LevelUpMasteryError}
    (h : handleMasteryLevelup p data config learner request = some (learner', some error)) :
    learner' = learner := by
  rw [handleMasteryLevelup_eq] at h
  obtain ⟨decision, -, hrest⟩ := Option.bind_eq_some_iff.1 h
  cases decision with
  | some error' => exact (Prod.mk.inj (Option.some_inj.1 hrest)).1.symm
  | none =>
      obtain ⟨knowledge, -, heq⟩ := Option.map_eq_some_iff.1 hrest
      simp at heq

end Requests

/-! ### Sequences of requests -/

/-- **Masteries within the cap, and paid.** -/
theorem masteries_paid_iff (p : Profile) (data : MasteryData) (config : MasteryConfig)
    (requests : List LevelUpMastery) (learner : Learner) (hcap : RespectsCap config learner) :
    Reached (masteryStep p data config) (RespectsCap config) requests learner ∧
        Attempted (masteryStep p data config) (MasterySound p data config) requests learner ↔
      Attempted (masteryStep p data config) (AmountIsPaid p data config) requests learner := by
  have hpointwise : Attempted (masteryStep p data config) (MasterySound p data config) requests learner ↔
      Attempted (masteryStep p data config) (AmountIsPaid p data config) requests learner := by
    unfold Attempted
    simp only [masterySound_iff]
  refine ⟨fun h => hpointwise.1 h.2, fun h => ⟨?_, hpointwise.2 h⟩⟩
  have hsteps : AllSteps (masteryStep p data config) (MasterySound p data config) requests learner :=
    allSteps_iff.2 fun pre c t _ hpre ht _ => hpointwise.2 h pre c t hpre ht
  refine reached_of_allSteps (fun request _ s t hs hsound ht => ?_) hcap hsteps
  obtain ⟨⟨t, outcome⟩, hhandle, rfl⟩ := Option.map_eq_some_iff.1 ht
  cases outcome with
  | none => exact hsound.cap t hhandle
  | some error => exact handleMasteryLevelup_refused hhandle ▸ hs

/-- A mastery that exists, two levels per level of the character, and one point for every level. -/
def sampleMasteries : MasteryData := ⟨fun refId => refId == 257, fun _ => some 1⟩

/-- A character of level one with three points, and no masteries yet. -/
def sampleLearner : Learner := ⟨.chinese, 1, KnownMasteries.new [], SkillBook.new [], 3⟩

/-- Two requests for one level each. -/
theorem masteries_paid_one_by_one :
    Attempted (masteryStep .debug sampleMasteries ⟨2, 2⟩)
      (MasterySound .debug sampleMasteries ⟨2, 2⟩) [⟨257, 1⟩, ⟨257, 1⟩] sampleLearner := by
  refine ((masteries_paid_iff .debug sampleMasteries ⟨2, 2⟩ _ sampleLearner (by decide)).2 ?_).2
  refine attempted_cons_iff.2 ⟨⟨by decide, by decide, by decide, by decide⟩, ?_⟩
  rintro t ⟨⟩
  refine attempted_cons_iff.2 ⟨⟨by decide, by decide, by decide, by decide⟩, ?_⟩
  exact fun _ _ => attempted_nil

/-- One request for a hundred levels costs one point, and exceeds the cap. -/
theorem hundred_levels_for_one_point :
    ¬ ∀ (p : Profile) (data : MasteryData) (config : MasteryConfig) (requests : List LevelUpMastery)
      (learner : Learner), RespectsCap config learner →
        Reached (masteryStep p data config) (RespectsCap config) requests learner ∧
          Attempted (masteryStep p data config) (MasterySound p data config) requests learner := by
  intro h
  obtain ⟨hreached, -⟩ := h .debug sampleMasteries ⟨2, 2⟩ [⟨257, 100⟩] sampleLearner (by decide)
  have hafter := hreached.last (t := ⟨.chinese, 1, _, _, 2⟩) rfl
  exact absurd hafter (by decide)

end Skrillax

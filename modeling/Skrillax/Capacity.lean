/-
**The capacity of the server.**

The two counters are changed one after the other, and the players' tokens are dropped at any moment, also
between the two loads of `available`.  The invariant that all of this keeps says that each counter counts
the live tokens; while a reservation is handed in, one spot is counted twice.

Main definitions:

* `Counted`, `LockFree`, `During` — what holds at any moment, while the mutex is free, and within a call;
* `queueCalls` — the calls that take the mutex.

Main results:

* `safe_reserveSpot`, `safe_handInReservation` — the two calls keep count under every interference;
* `capacity_is_kept` — **at every moment the counters count the live tokens and `available` does not
  underflow, and whenever the mutex is free the capacity is not exceeded**.
-/

import Skrillax.LoginQueue

set_option relaxedAutoImplicit false
set_option autoImplicit false

namespace Skrillax

open Rust Interference

open Relation (ReflTransGen)

/-! ### What holds of the counters -/

/-- The counters count the live tokens, and the counters that were loaded fit the capacity. -/
structure Counted (max : UInt16) (s : QueueState) : Prop where
  queued : s.queued.toNat = s.liveQueueTokens
  playing : s.playing.toNat = s.livePlayingTokens
  loaded : ∀ queued playing, s.locals.loaded = some (queued, playing) →
    queued.toNat + playing.toNat ≤ max.toNat

/-- Within a call: the reservations, the local tokens, and a bound on the live tokens. -/
structure During (max : UInt16) (reservations : List Reservation) (queueTokens playingTokens bound : ℕ)
    (s : QueueState) : Prop extends Counted max s where
  reservations : s.reservations = reservations
  queueTokens : s.locals.queueTokens = queueTokens
  playingTokens : s.locals.playingTokens = playingTokens
  bound : s.liveQueueTokens + s.livePlayingTokens ≤ bound

/-- While nobody holds the mutex there are no local tokens, and the capacity is not exceeded. -/
def LockFree (max : UInt16) (s : QueueState) : Prop := During max s.reservations 0 0 max.toNat s

variable {max : UInt16} {reservations : List Reservation} {a b bound : ℕ} {s : QueueState}

theorem toNat_add_one {x : UInt16} (h : x.toNat + 1 < 2 ^ 16) : (x + 1).toNat = x.toNat + 1 := by
  rw [UInt16.toNat_add, UInt16.toNat_one]
  omega

theorem toNat_sub_one {x : UInt16} (h : 0 < x.toNat) : (x - 1).toNat = x.toNat - 1 := by
  rw [UInt16.toNat_sub_of_le, UInt16.toNat_one]
  rw [UInt16.le_iff_toNat_le, UInt16.toNat_one]
  omega

theorem counted_stable : Stable QueueRely (Counted max) := by
  rintro s t h hrely
  cases hrely with
  | dropPlaying hplayers =>
      have hplaying := h.playing
      simp only [QueueState.livePlayingTokens] at hplaying
      refine ⟨h.queued, ?_, h.loaded⟩
      simp only [QueueState.livePlayingTokens]
      rw [toNat_sub_one (by omega)]
      omega
  | tick now hnow => exact ⟨h.queued, h.playing, h.loaded⟩

theorem during_stable : Stable QueueRely (During max reservations a b bound) := by
  intro s t h hrely
  have hcounted := counted_stable s t h.toCounted hrely
  have hbound := h.bound
  simp only [QueueState.liveQueueTokens, QueueState.livePlayingTokens] at hbound
  cases hrely with
  | dropPlaying hplayers =>
      refine ⟨hcounted, h.reservations, h.queueTokens, h.playingTokens, ?_⟩
      simp only [QueueState.liveQueueTokens, QueueState.livePlayingTokens]
      omega
  | tick now hnow => exact ⟨hcounted, h.reservations, h.queueTokens, h.playingTokens, hbound⟩

theorem lockFree_stable : Stable QueueRely (LockFree max) := by
  intro s t h hrely
  have hduring := during_stable s t h hrely
  rw [LockFree, hduring.reservations]
  exact hduring

theorem During.lockFree (h : During max reservations 0 0 max.toNat s) : LockFree max s := by
  rw [LockFree, h.reservations]
  exact h

/-! ### Single steps -/

/-- A reservation is dropped along with its token. -/
theorem During.dropReservation {kept rest : List Reservation} {reservation : Reservation}
    (h : During max (kept ++ reservation :: rest) a b bound s) :
    During max (kept ++ rest) a b bound
      { s with queued := s.queued - 1, reservations := kept ++ rest } := by
  have hqueued := h.queued
  have hbound := h.bound
  simp only [QueueState.liveQueueTokens, QueueState.livePlayingTokens, h.reservations,
    List.length_append, List.length_cons] at hqueued hbound
  refine ⟨⟨?_, h.playing, h.loaded⟩, rfl, h.queueTokens, h.playingTokens, ?_⟩
  · simp only [QueueState.liveQueueTokens, List.length_append]
    rw [toNat_sub_one (by omega)]
    omega
  · simp only [QueueState.liveQueueTokens, QueueState.livePlayingTokens, List.length_append]
    omega

theorem During.newQueueToken (h : During max reservations a b bound s) (hbound : bound < 2 ^ 16 - 1) :
    During max reservations (a + 1) b (bound + 1) (newQueueToken s) := by
  have hqueued := h.queued
  have hle := h.bound
  have ha := h.queueTokens
  simp only [QueueState.liveQueueTokens, QueueState.livePlayingTokens] at hqueued hle
  refine ⟨⟨?_, h.playing, h.loaded⟩, h.reservations, ?_, h.playingTokens, ?_⟩
  · simp only [Skrillax.newQueueToken, QueueState.liveQueueTokens]
    rw [toNat_add_one (by omega)]
    omega
  · simp only [Skrillax.newQueueToken]
    omega
  · simp only [Skrillax.newQueueToken, QueueState.liveQueueTokens, QueueState.livePlayingTokens]
    omega

theorem During.dropQueueToken (h : During max reservations (a + 1) b bound s) :
    During max reservations a b (bound - 1) (dropQueueToken s) := by
  have hqueued := h.queued
  have hle := h.bound
  have ha := h.queueTokens
  simp only [QueueState.liveQueueTokens, QueueState.livePlayingTokens] at hqueued hle
  refine ⟨⟨?_, h.playing, h.loaded⟩, h.reservations, ?_, h.playingTokens, ?_⟩
  · simp only [Skrillax.dropQueueToken, QueueState.liveQueueTokens]
    rw [toNat_sub_one (by omega)]
    omega
  · simp only [Skrillax.dropQueueToken]
    omega
  · simp only [Skrillax.dropQueueToken, QueueState.liveQueueTokens, QueueState.livePlayingTokens]
    omega

/-- The local token is stored in a reservation. -/
theorem During.push (reservation : Reservation) (h : During max reservations (a + 1) b bound s) :
    During max (reservations ++ [reservation]) a b bound
      { s with reservations := reservations ++ [reservation]
               locals := { s.locals with queueTokens := s.locals.queueTokens - 1 } } := by
  have hqueued := h.queued
  have hle := h.bound
  have ha := h.queueTokens
  simp only [QueueState.liveQueueTokens, QueueState.livePlayingTokens, h.reservations] at hqueued hle
  refine ⟨⟨?_, h.playing, h.loaded⟩, rfl, ?_, h.playingTokens, ?_⟩
  · simp only [QueueState.liveQueueTokens, List.length_append, List.length_singleton]
    omega
  · show s.locals.queueTokens - 1 = a
    omega
  · simp only [QueueState.liveQueueTokens, QueueState.livePlayingTokens, List.length_append,
      List.length_singleton]
    omega

/-- A reservation is taken out of the vector, along with its token. -/
theorem During.remove {reservation : Reservation} (hmem : reservation ∈ reservations)
    {p : Reservation → Bool} (hp : p reservation = true) (h : During max reservations a b bound s) :
    During max (reservations.eraseP p) (a + 1) b bound
      { s with reservations := reservations.eraseP p
               locals := { s.locals with queueTokens := s.locals.queueTokens + 1 } } := by
  have hqueued := h.queued
  have hle := h.bound
  have ha := h.queueTokens
  have hlength := List.length_eraseP_of_mem hmem hp
  have hpos := List.length_pos_of_mem hmem
  simp only [QueueState.liveQueueTokens, QueueState.livePlayingTokens, h.reservations] at hqueued hle
  refine ⟨⟨?_, h.playing, h.loaded⟩, rfl, ?_, h.playingTokens, ?_⟩
  · simp only [QueueState.liveQueueTokens, hlength]
    omega
  · show s.locals.queueTokens + 1 = a + 1
    omega
  · simp only [QueueState.liveQueueTokens, QueueState.livePlayingTokens, hlength]
    omega

/-- The spot of a player is taken before the spot of its reservation is given back: for a moment there is
one more than the capacity. -/
theorem During.newPlayingToken (h : During max reservations a b bound s)
    (hplaying : s.livePlayingTokens + 1 < 2 ^ 16) :
    During max reservations a (b + 1) (bound + 1)
      { s with playing := s.playing + 1
               locals := { s.locals with playingTokens := s.locals.playingTokens + 1 } } := by
  have hplay := h.playing
  have hle := h.bound
  have hb := h.playingTokens
  simp only [QueueState.liveQueueTokens, QueueState.livePlayingTokens] at hplay hle hplaying
  refine ⟨⟨h.queued, ?_, h.loaded⟩, h.reservations, h.queueTokens, ?_, ?_⟩
  · simp only [QueueState.livePlayingTokens]
    rw [toNat_add_one (by omega)]
    omega
  · show s.locals.playingTokens + 1 = b + 1
    omega
  · simp only [QueueState.liveQueueTokens, QueueState.livePlayingTokens]
    omega

/-- The player's token is handed out. -/
theorem During.handOut (h : During max reservations a (b + 1) bound s) :
    During max reservations a b bound
      { s with players := s.players + 1
               locals := { s.locals with playingTokens := s.locals.playingTokens - 1 } } := by
  have hplay := h.playing
  have hle := h.bound
  have hb := h.playingTokens
  simp only [QueueState.liveQueueTokens, QueueState.livePlayingTokens] at hplay hle
  refine ⟨⟨h.queued, ?_, h.loaded⟩, h.reservations, h.queueTokens, ?_, ?_⟩
  · simp only [QueueState.livePlayingTokens]
    omega
  · show s.locals.playingTokens - 1 = b
    omega
  · simp only [QueueState.liveQueueTokens, QueueState.livePlayingTokens]
    omega

theorem During.mono {bound' : ℕ} (h : During max reservations a b bound s) (hle : bound ≤ bound') :
    During max reservations a b bound' s :=
  ⟨h.toCounted, h.reservations, h.queueTokens, h.playingTokens, h.bound.trans hle⟩

/-- The values that were loaded are recorded. -/
theorem During.load {queued playing : UInt16} (h : During max reservations a b bound s)
    (hfits : queued.toNat + playing.toNat ≤ max.toNat) :
    During max reservations a b bound
      { s with locals := { s.locals with loaded := some (queued, playing) } } := by
  refine ⟨⟨h.queued, h.playing, ?_⟩, h.reservations, h.queueTokens, h.playingTokens, h.bound⟩
  rintro queued' playing' hloaded
  cases hloaded
  exact hfits

/-- Counters that fit the capacity can be added and subtracted. -/
theorem available_eq (profile : Profile) {queued playing : UInt16}
    (h : queued.toNat + playing.toNat ≤ max.toNat) :
    ∃ free, available profile max queued playing = some free ∧
      free.toNat = max.toNat - (queued.toNat + playing.toNat) := by
  have hmax := max.toNat_lt
  have hsum : (queued + playing).toNat = queued.toNat + playing.toNat := by
    rw [UInt16.toNat_add]
    omega
  have hle : queued + playing ≤ max := by
    rw [UInt16.le_iff_toNat_le]
    omega
  have hadd : profile.addU16 queued playing = some (queued + playing) := if_pos (by omega)
  have hsub : profile.subU16 max (queued + playing) = some (max - (queued + playing)) := if_pos hle
  refine ⟨max - (queued + playing), ?_, ?_⟩
  · rw [available, hadd]
    exact hsub
  · rw [UInt16.toNat_sub_of_le _ _ hle, hsum]

/-! ### The calls -/

section Calls

variable {profile : Profile} {reservationValidTime : UInt64}

theorem During.safe_step {α : Type} {Q : α → QueueState → Prop} {update : QueueState → QueueState}
    {next : QueueState → Prog QueueState α} (h : During max reservations a b bound s)
    (hnext : ∀ t, During max reservations a b bound t →
      Safe QueueRely (Counted max) Q (next t) (update t)) :
    Safe QueueRely (Counted max) Q (.step update next) s :=
  Safe.of_step during_stable (fun _ h => h.toCounted) h hnext

theorem During.safe_read {α β : Type} {Q : α → QueueState → Prop} {g : QueueState → β}
    {next : β → Prog QueueState α} (h : During max reservations a b bound s)
    (hnext : ∀ t, During max reservations a b bound t →
      Safe QueueRely (Counted max) Q (next (g t)) t) :
    Safe QueueRely (Counted max) Q (read g >>= next) s :=
  h.safe_step hnext

theorem During.safe_atomically {α : Type} {Q : α → QueueState → Prop} {update : QueueState → QueueState}
    {next : Unit → Prog QueueState α} (h : During max reservations a b bound s)
    (hnext : ∀ t, During max reservations a b bound t →
      Safe QueueRely (Counted max) Q (next ()) (update t)) :
    Safe QueueRely (Counted max) Q (atomically update >>= next) s :=
  h.safe_step hnext

theorem During.safe_ret {α : Type} {Q : α → QueueState → Prop} {result : α}
    (h : During max reservations a b bound s) (hQ : Q result s) :
    Safe QueueRely (Counted max) Q (.ret result) s :=
  ⟨h.toCounted, hQ⟩

/-- Induction on what `retain` has still to look at. -/
theorem safe_retainFrom (now : Instant) {kept rest : List Reservation}
    (h : During max (kept ++ rest) a b bound s) :
    Safe QueueRely (Counted max) (fun _ t => ∃ reservations, During max reservations a b bound t)
      (retainFrom now kept rest) s := by
  induction rest generalizing kept s with
  | nil => exact h.safe_ret ⟨_, h⟩
  | cons reservation rest ih =>
      rw [retainFrom]
      split
      · exact ih (by rwa [List.append_assoc])
      · exact h.safe_step fun t ht => ih ht.dropReservation

theorem safe_cleanupRegistrations (h : During max reservations a b bound s) :
    Safe QueueRely (Counted max) (fun _ t => ∃ reservations, During max reservations a b bound t)
      cleanupRegistrations s := by
  refine h.safe_read fun t ht => ?_
  refine ht.safe_read fun u hu => ?_
  have hu' : During max ([] ++ u.reservations) a b bound u := by rwa [List.nil_append, hu.reservations]
  exact safe_retainFrom t.now hu'

/-- The load of `playing` may be out of date afterwards, but the counter has only become smaller. -/
theorem safe_addQueue (h : During max reservations 0 0 max.toNat s) :
    Safe QueueRely (Counted max)
      (fun r t => match r with
        | .ok _ => During max reservations 1 0 max.toNat t
        | .error _ => During max reservations 0 0 max.toNat t)
      (addQueue profile max) s := by
  refine h.safe_step fun t ht => ?_
  refine ht.safe_step fun u hu => ?_
  have hqueued : t.queued.toNat = reservations.length := by
    rw [ht.queued, QueueState.liveQueueTokens, ht.reservations, ht.queueTokens, Nat.add_zero]
  have hplaying : u.playing.toNat = u.livePlayingTokens := hu.playing
  have hfits : t.queued.toNat + u.playing.toNat ≤ max.toNat := by
    have hbound := hu.bound
    rw [QueueState.liveQueueTokens, hu.reservations, hu.queueTokens] at hbound
    omega
  -- from here on at most the players that were loaded are left
  have hat : During max reservations 0 0 (t.queued.toNat + u.playing.toNat) u := by
    refine ⟨hu.toCounted, hu.reservations, hu.queueTokens, hu.playingTokens, ?_⟩
    rw [QueueState.liveQueueTokens, hu.reservations, hu.queueTokens]
    omega
  obtain ⟨free, hfree, hfreeval⟩ := available_eq profile hfits
  refine hat.safe_step fun v hv => ?_
  have hloaded := hv.load hfits
  simp only [hfree, Option.map_some]
  by_cases hzero : 0 < free
  · simp only [hzero, decide_true]
    have hmax := max.toNat_lt
    have hroom : 0 < free.toNat := UInt16.lt_iff_toNat_lt.1 hzero
    refine hloaded.safe_step fun w hw => ?_
    have hnew := hw.newQueueToken (by omega)
    refine hnew.safe_ret ⟨hnew.toCounted, hnew.reservations, hnew.queueTokens, hnew.playingTokens, ?_⟩
    have hbound := hnew.bound
    omega
  · simp only [hzero, decide_false]
    exact hloaded.safe_ret ⟨hloaded.toCounted, hloaded.reservations, hloaded.queueTokens,
      hloaded.playingTokens, hloaded.bound.trans hfits⟩

/-- Every way out of `reserve_spot` has given the local token back or stored it. -/
theorem safe_reserveSpot (draws : ℕ → UInt32) (content : ServerUser) (h : LockFree max s) :
    Safe QueueRely (Counted max) (fun _ t => LockFree max t)
      (reserveSpot profile max reservationValidTime draws content) s := by
  rw [reserveSpot]
  refine (safe_cleanupRegistrations h).bind ?_
  rintro - t ⟨reservations, ht⟩
  refine ht.safe_read fun u hu => ?_
  rw [hu.reservations]
  split
  · exact hu.safe_ret hu.lockFree
  · refine (safe_addQueue hu).bind fun result v hv => ?_
    cases result with
    | error e => exact During.safe_ret hv hv.lockFree
    | ok spotToken =>
        refine During.safe_read hv fun w hw => ?_
        cases drawToken reservations draws with
        | none =>
            refine hw.safe_atomically fun x hx => ?_
            have hdropped := (hx.dropQueueToken).mono (Nat.sub_le _ 1)
            exact hdropped.safe_ret hdropped.lockFree
        | some token =>
            refine hw.safe_atomically fun x hx => ?_
            have hpushed := hx.push
              ⟨token, content, w.now + fromSecs reservationValidTime, spotToken⟩
            cases profile.subU64 reservationValidTime 1 with
            | none => exact hpushed.safe_ret hpushed.lockFree
            | some secs => exact hpushed.safe_ret hpushed.lockFree

theorem safe_addPlaying (h : During max reservations a b bound s)
    (hroom : ∀ t, During max reservations a b bound t → t.livePlayingTokens + 1 < 2 ^ 16) :
    Safe QueueRely (Counted max) (fun _ t => During max reservations a (b + 1) (bound + 1) t) addPlaying
      s := by
  refine h.safe_atomically fun t ht => ?_
  have hnew := ht.newPlayingToken (hroom t ht)
  exact hnew.safe_ret hnew

theorem safe_handInReservation (token : UInt32) (h : LockFree max s) :
    Safe QueueRely (Counted max) (fun _ t => LockFree max t) (handInReservation token) s := by
  rw [handInReservation]
  refine (safe_cleanupRegistrations h).bind ?_
  rintro - t ⟨reservations, ht⟩
  refine ht.safe_read fun u hu => ?_
  rw [hu.reservations]
  cases hfind : reservations.find? (·.token == token) with
  | none => exact hu.safe_ret hu.lockFree
  | some reservation =>
      dsimp only
      have hmem := List.mem_of_find?_eq_some hfind
      have htoken := List.find?_some hfind
      -- the reservation that is handed in still has its spot
      have hroom : ∀ v, During max reservations 0 0 max.toNat v → v.livePlayingTokens + 1 < 2 ^ 16 := by
        intro v hv
        have hbound := hv.bound
        have hpos := List.length_pos_of_mem hmem
        have hmax := max.toNat_lt
        rw [QueueState.liveQueueTokens, hv.reservations] at hbound
        omega
      refine (safe_addPlaying hu hroom).bind fun playToken v hv => ?_
      refine hv.safe_atomically fun w hw => ?_
      refine (hw.remove hmem htoken).safe_atomically fun x hx => ?_
      refine (hx.dropQueueToken).safe_atomically fun y hy => ?_
      exact hy.handOut.safe_ret hy.handOut.lockFree

end Calls

/-! ### The system -/

/-- Whether a call came back; a call that panics with the mutex locked poisons it. -/
def returned {α : Type} : Except (Failure ReservationError) α → Bool
  | .error .panic => false
  | _ => true

/-- The calls that take the mutex, with whether they come back. -/
inductive QueueCall (profile : Profile) (max : UInt16) (reservationValidTime : UInt64) :
    Prog QueueState Bool → Prop where
  | reserve (draws : ℕ → UInt32) (content : ServerUser) :
      QueueCall profile max reservationValidTime
        (reserveSpot profile max reservationValidTime draws content >>= fun r => pure (returned r))
  | handIn (token : UInt32) :
      QueueCall profile max reservationValidTime
        (handInReservation token >>= fun _ => pure true)

/-- The steps of the server: a call takes the mutex, it takes a step, it gives the mutex back, a player's
token is dropped, or time passes. -/
def QueueStep (profile : Profile) (max : UInt16) (reservationValidTime : UInt64) :
    Locked QueueState Bool → Locked QueueState Bool → Prop :=
  Locked.Step QueueRely {p | QueueCall profile max reservationValidTime p} (· = true)

theorem lockFree_new (max : UInt16) (now : Instant) : LockFree max (.new now) :=
  ⟨⟨rfl, rfl, nofun⟩, rfl, rfl, rfl, Nat.zero_le _⟩

/-- **At every moment the counters count the live tokens and `available` does not underflow, and whenever
the mutex is free the capacity is not exceeded.** -/
theorem capacity_is_kept (profile : Profile) (max : UInt16) (reservationValidTime : UInt64)
    (now : Instant) (m : Locked QueueState Bool)
    (h : ReflTransGen (QueueStep profile max reservationValidTime) ⟨.new now, none⟩ m) :
    m.shared.queued.toNat = m.shared.liveQueueTokens ∧
      m.shared.playing.toNat = m.shared.livePlayingTokens ∧
      (m.holder = none → m.shared.queued.toNat + m.shared.playing.toNat ≤ max.toNat) ∧
      ∀ queued playing, m.shared.locals.loaded = some (queued, playing) →
        queued.toNat + playing.toNat ≤ max.toNat ∧
          (available profile max queued playing).isSome = true := by
  have hcalls : ∀ p ∈ {p | QueueCall profile max reservationValidTime p}, ∀ s, LockFree max s →
      Safe QueueRely (Counted max) (fun a t => a = true → LockFree max t) p s := by
    rintro p hp s hs
    cases hp with
    | reserve draws content =>
        exact (safe_reserveSpot draws content hs).bind fun _ t ht => ⟨ht.toCounted, fun _ => ht⟩
    | handIn token =>
        exact (safe_handInReservation token hs).bind fun _ t ht => ⟨ht.toCounted, fun _ => ht⟩
  obtain ⟨hcounted, hfree⟩ := Locked.reachable counted_stable lockFree_stable
    (fun _ h => h.toCounted) hcalls (lockFree_new max now) h
  refine ⟨hcounted.queued, hcounted.playing, fun hnone => ?_, fun queued playing hloaded => ?_⟩
  · rw [hcounted.queued, hcounted.playing]
    exact (hfree hnone).bound
  · have hfits := hcounted.loaded queued playing hloaded
    obtain ⟨free, hsome, -⟩ := available_eq profile hfits
    exact ⟨hfits, by rw [hsome]; rfl⟩

theorem capacity_is_kept_oneReservation :
    oneReservation.queued.toNat = oneReservation.liveQueueTokens ∧
      oneReservation.playing.toNat = oneReservation.livePlayingTokens ∧
      ((none : Option (Prog QueueState Bool)) = none →
        oneReservation.queued.toNat + oneReservation.playing.toNat ≤ (2 : UInt16).toNat) ∧
      ∀ queued playing, oneReservation.locals.loaded = some (queued, playing) →
        queued.toNat + playing.toNat ≤ (2 : UInt16).toNat ∧
          (available .debug 2 queued playing).isSome = true :=
  capacity_is_kept .debug 2 30 0 ⟨oneReservation, none⟩
    (Locked.reaches_of_exec (.reserve (fun _ => 7) firstUser) (Exec.of_run _ _) rfl)

end Skrillax

/-
**Sessions.**

A user has a session while a reservation of the user is stored, and while a client is connected as a player
of the user.  Requests of the web endpoint, clients that connect, authenticate and disconnect come in any
order.  A request is only refused for a user with a reservation, not for one who is already connected.

Main definitions:

* `LoginEvent`, `LoginServer.step` — what happens to the login server;
* `LoginServer.sessions`, `LoginServer.OneSession` — the sessions, and that no user has two of them;
* `ForNobodyConnected` — a request is not accepted for a user who is connected.

Main results:

* `LoginServer.Consistent.step` — the counters count the reservations and the players in every run;
* `exists_runAll_handleAuth` — a whole tick is a run of such events;
* `one_session_iff` — **no user has two sessions throughout a run exactly when no request is accepted for a
  user who is connected**.
-/

import Skrillax.Authentication
import Skrillax.Capacity
import Skrillax.PartialAction

set_option relaxedAutoImplicit false
set_option autoImplicit false

namespace Skrillax

open Rust Interference PartialAction

open Relation (ReflTransGen)

/-! ### Events -/

inductive LoginEvent where
  | connect
  | request (draws : ℕ → UInt32) (user : ServerUser) (now later : Instant)
  | authenticate (i : ℕ) (auth : AuthRequest) (now : Instant)
  | disconnect (i : ℕ)

section Server

variable (profile : Profile) (max : UInt16) (reservationValidTime : UInt64)

/-- A call of `reserve_spot` that reads the clock at one instant and again at another one. -/
def reserveAt (draws : ℕ → UInt32) (user : ServerUser) (now later : Instant) (queue : QueueState) :
    Except (Failure ReservationError) (UInt32 × Duration) × QueueState :=
  (reserveSpot profile max reservationValidTime draws user).runWith
    (fun n => QueueState.advance (if n = 0 then now else later)) 0 queue

/-- The token of a player is dropped. -/
def QueueState.dropPlaying (s : QueueState) : QueueState :=
  { s with playing := s.playing - 1, players := s.players - 1 }

namespace LoginServer

/-- An event; `none` is a panic, or an event of a client that there is not. -/
def step : LoginEvent → LoginServer → Option LoginServer
  | .connect, s => some { s with clients := s.clients ++ [.accepted] }
  | .request draws user now later, s =>
      match reserveAt profile max reservationValidTime draws user now later s.queue with
      | (.error .panic, _) => none
      | (_, queue) => some { s with queue }
  | .authenticate i auth now, s => do
      let client ← s.clients[i]?
      if client.playing.isSome then
        return s
      else
        let (client, queue, _) := Skrillax.authenticate now auth client s.queue
        return { queue, clients := s.clients.set i client }
  | .disconnect i, s => do
      let client ← s.clients[i]?
      let queue := if client.playing.isSome then s.queue.dropPlaying else s.queue
      return { queue, clients := s.clients.eraseIdx i }

/-- The server when it starts. -/
def start (now : Instant) : LoginServer := { queue := .new now, clients := [] }

/-! ### Sessions -/

/-- The users who are connected. -/
def connected (s : LoginServer) : List ServerUser :=
  s.clients.filterMap LoginClient.user

/-- The users of the stored reservations, and the users who are connected. -/
def sessions (s : LoginServer) : List ServerUser :=
  s.queue.reservations.map Reservation.content ++ s.connected

def OneSession (s : LoginServer) : Prop := s.sessions.Pairwise fun user user' => (user == user') = false

end LoginServer

/-- The counters count the reservations and the clients that are players. -/
structure LoginServer.Consistent (s : LoginServer) : Prop where
  lockFree : LockFree max s.queue
  players : s.queue.players = s.connected.length

/-- There is a free spot when the expired reservations are gone, and a token is found that is not taken. -/
def HasSpot (draws : ℕ → UInt32) (now : Instant) (queue : QueueState) : Prop :=
  let pending := unexpired (queue.advance now).now queue.reservations
  pending.length + queue.players < max.toNat ∧ (drawToken pending draws).isSome = true

/-- If the event is a request for a user who is connected, there is no spot. -/
def ForNobodyConnected (s : LoginServer) : LoginEvent → Prop
  | .request draws user now _ => s.connected.any (· == user) = true → ¬ HasSpot max draws now s.queue
  | _ => True

/-! ### Requests -/

variable {profile max reservationValidTime}

theorem queueRely_advance (now : Instant) (s : QueueState) : ReflTransGen QueueRely s (s.advance now) :=
  .single (.tick s _ (le_max_left s.now now))

theorem canQueue_at (profile : Profile) (max : UInt16) (now : Instant) (s : QueueState) :
    ∃ t : QueueState, (canQueue profile max).runWith (fun _ => QueueState.advance now) 0 s =
        ((available profile max s.queued s.playing).map fun free => decide (0 < free), t) ∧
      t.reservations = s.reservations ∧ t.players = s.players :=
  ⟨_, rfl, rfl, rfl⟩

/-- There is a spot exactly when the capacity is not exhausted. -/
theorem addQueue_at (profile : Profile) (now : Instant) {s : QueueState} (h : LockFree max s) :
    let r := (addQueue profile max).runWith (fun _ => QueueState.advance now) 0 s
    r.2.reservations = s.reservations ∧ r.2.players = s.players ∧
      ((r.1 = .ok {} ∧ s.reservations.length + s.players < max.toNat) ∨
        ((∃ e, r.1 = .error e) ∧ max.toNat ≤ s.reservations.length + s.players)) := by
  have hqueued : s.queued.toNat = s.reservations.length := by
    rw [h.queued, QueueState.liveQueueTokens, h.queueTokens, Nat.add_zero]
  have hplaying : s.playing.toNat = s.players := by
    rw [h.playing, QueueState.livePlayingTokens, h.playingTokens, Nat.add_zero]
  have hbound := h.bound
  rw [← h.queued, ← h.playing] at hbound
  obtain ⟨free, hfree, hvalue⟩ := available_eq profile hbound
  rw [hqueued, hplaying] at hvalue
  obtain ⟨t, hcan, hres, hplayers⟩ := canQueue_at profile max now s
  rw [addQueue, Prog.runWith_const_bind, hcan, hfree, Option.map_some]
  by_cases hzero : 0 < free
  · have hroom : 0 < free.toNat := UInt16.lt_iff_toNat_lt.1 hzero
    simp only [hzero, decide_true]
    exact ⟨hres, hplayers, Or.inl ⟨rfl, by omega⟩⟩
  · have hfull : ¬ 0 < free.toNat := fun hpos => hzero (UInt16.lt_iff_toNat_lt.2 hpos)
    simp only [hzero, decide_false]
    exact ⟨hres, hplayers, Or.inr ⟨⟨_, rfl⟩, by omega⟩⟩

/-- What a request does, and when it is accepted. -/
theorem reserveAt_cases (profile : Profile) (reservationValidTime : UInt64) {queue : QueueState}
    (h : LockFree max queue) (draws : ℕ → UInt32) (user : ServerUser) (now later : Instant) :
    let t := (reserveAt profile max reservationValidTime draws user now later queue).2
    let pending := unexpired (queue.advance now).now queue.reservations
    t.players = queue.players ∧
      ((t.reservations = pending ∧
          (pending.any (·.content == user) = true ∨ ¬ HasSpot max draws now queue)) ∨
        ∃ reservation, reservation.content = user ∧ t.reservations = pending ++ [reservation] ∧
          pending.any (·.content == user) = false ∧ HasSpot max draws now queue) := by
  intro t pending
  -- after the first reading the time is always the later one
  have hlater : ∀ n, 1 ≤ n → QueueState.advance (if n = 0 then now else later) = QueueState.advance later :=
    fun n hn => by rw [if_neg (by omega)]
  have hread : LockFree max ((queue.advance now).advance later) :=
    lockFree_stable.reflTransGen h ((queueRely_advance now queue).trans (queueRely_advance later _))
  have hkept : During max ([] ++ queue.reservations) 0 0 max.toNat ((queue.advance now).advance later) :=
    hread
  obtain ⟨hres, hplayers, -⟩ := retainFrom_at (queue.advance now).now later
    (s := (queue.advance now).advance later) (List.nil_append queue.reservations).symm
  obtain ⟨reservations, hduring⟩ := (safe_retainFrom (queue.advance now).now hkept).exec
    (Exec.of_runWith (fun _ => queueRely_advance later) 0 _ _)
  set cleaned := ((retainFrom (queue.advance now).now [] queue.reservations).runWith
    (fun _ => QueueState.advance later) 0 ((queue.advance now).advance later)).2
  have hclean : ((retainFrom (queue.advance now).now []
      ((queue.advance now).advance later).reservations).runWith
      (fun _ => QueueState.advance later) (1 + 1) ((queue.advance now).advance later)).2 = cleaned := by
    rw [Prog.runWith_const (1 + 1) 0]
    rfl
  have hfree : LockFree max (cleaned.advance later) :=
    lockFree_stable.reflTransGen hduring.lockFree (queueRely_advance later cleaned)
  have ht : t = (reserveAt profile max reservationValidTime draws user now later queue).2 := rfl
  rw [reserveAt, reserveSpot, cleanupRegistrations, Prog.bind_assoc, runWith_read_bind,
    Prog.runWith_congr 1 hlater, if_pos rfl, Prog.bind_assoc, runWith_read_bind,
    Prog.runWith_const_bind, hclean, runWith_read_bind, QueueState.advance_reservations, hres,
    List.nil_append, Prog.runWith_const (1 + 1 + 1) 0] at ht
  split at ht
  · rename_i hany
    rw [ht]
    exact ⟨hplayers, Or.inl ⟨hres, Or.inl hany⟩⟩
  · rename_i hnone
    obtain ⟨hres', hplayers', hcases⟩ := addQueue_at profile later hfree
    have hspot : HasSpot max draws now queue ↔
        (cleaned.advance later).reservations.length + (cleaned.advance later).players < max.toNat ∧
          (drawToken pending draws).isSome = true := by
      rw [HasSpot, QueueState.advance_reservations, hres, List.nil_append,
        show (cleaned.advance later).players = queue.players from hplayers]
    rw [Prog.runWith_const_bind] at ht
    rcases hadd : (addQueue profile max).runWith (fun _ => QueueState.advance later) 0
      (cleaned.advance later) with ⟨result, queued⟩
    rw [hadd] at ht hres' hplayers' hcases
    rcases hcases with ⟨hok, hroom⟩ | ⟨⟨e, he⟩, hfull⟩
    · obtain rfl : result = .ok {} := hok
      cases hdraw : drawToken pending draws with
      | none =>
          simp only [pending] at hdraw
          simp only [runWith_read_bind, hdraw] at ht
          rw [ht]
          refine ⟨hplayers'.trans hplayers, Or.inl ⟨hres'.trans hres, Or.inr ?_⟩⟩
          rw [hspot, hdraw]
          exact fun h => Bool.noConfusion h.2
      | some token =>
          simp only [pending] at hdraw
          simp only [runWith_read_bind, hdraw] at ht
          have hreservations : t.reservations = pending ++ [{
              token, content := user,
              timeout := (queued.advance later).now + fromSecs reservationValidTime, spotToken := {} }] := by
            rw [ht]
            cases profile.subU64 reservationValidTime 1 <;> rfl
          refine ⟨?_, Or.inr ⟨_, rfl, hreservations, Bool.eq_false_of_not_eq_true hnone, ?_⟩⟩
          · rw [ht]
            cases profile.subU64 reservationValidTime 1 <;> exact hplayers'.trans hplayers
          · rw [hspot, hdraw]
            exact ⟨hroom, rfl⟩
    · obtain rfl : result = .error e := he
      rw [ht]
      refine ⟨hplayers'.trans hplayers, Or.inl ⟨hres'.trans hres, Or.inr ?_⟩⟩
      rw [hspot]
      omega

/-! ### Clients -/

theorem clients_perm {clients : List LoginClient} {i : ℕ} {client : LoginClient}
    (h : clients[i]? = some client) :
    (clients.filterMap LoginClient.user).Perm
      (client.user.toList ++ (clients.eraseIdx i).filterMap LoginClient.user) := by
  obtain ⟨hi, rfl⟩ := List.getElem?_eq_some_iff.1 h
  refine ((List.getElem_cons_eraseIdx_perm hi).symm.filterMap LoginClient.user).trans ?_
  rw [List.filterMap_cons]
  cases clients[i].user <;> exact List.Perm.refl _

theorem clients_set_perm {clients : List LoginClient} {i : ℕ} (hi : i < clients.length)
    (client : LoginClient) :
    ((clients.set i client).filterMap LoginClient.user).Perm
      (client.user.toList ++ (clients.eraseIdx i).filterMap LoginClient.user) := by
  refine ((List.set_perm_cons_eraseIdx hi client).filterMap LoginClient.user).trans ?_
  rw [List.filterMap_cons]
  cases client.user <;> exact List.Perm.refl _

/-- What is found and what is left when it is erased. -/
theorem cons_eraseP_perm {α : Type} {p : α → Bool} {xs : List α} {a : α} (h : xs.find? p = some a) :
    (a :: xs.eraseP p).Perm xs := by
  obtain ⟨ha, before, after, rfl, hbefore⟩ := List.find?_eq_some_iff_append.1 h
  have hnot : ∀ b ∈ before, ¬ p b = true := fun b hb => by simpa using hbefore b hb
  rw [List.eraseP_append_right _ hnot, List.eraseP_cons_of_pos ha]
  exact List.perm_middle.symm

/-! ### What an event does -/

namespace LoginServer

variable {s t : LoginServer}

theorem step_request {draws : ℕ → UInt32} {user : ServerUser} {now later : Instant}
    (h : step profile max reservationValidTime (.request draws user now later) s = some t) :
    t = { s with
      queue := (reserveAt profile max reservationValidTime draws user now later s.queue).2 } := by
  rw [step] at h
  rcases hreserve : reserveAt profile max reservationValidTime draws user now later s.queue with ⟨r, queue⟩
  rw [hreserve] at h
  rcases r with (e | _) | a
  · exact (Option.some_inj.1 h).symm
  · cases h
  · exact (Option.some_inj.1 h).symm

/-- A client that authenticates takes a reservation over, or nothing becomes of it. -/
theorem step_authenticate {i : ℕ} {auth : AuthRequest} {now : Instant}
    (h : step profile max reservationValidTime (.authenticate i auth now) s = some t) :
    t = s ∨ ∃ client, s.clients[i]? = some client ∧ client.playing = none ∧
      t = { queue := (Skrillax.authenticate now auth client s.queue).2.1
            clients := s.clients.set i (Skrillax.authenticate now auth client s.queue).1 } := by
  obtain ⟨client, hclient, h⟩ := Option.bind_eq_some_iff.1 h
  split at h
  · exact Or.inl (Option.some_inj.1 h).symm
  · rename_i hplaying
    exact Or.inr ⟨client, hclient, Option.not_isSome_iff_eq_none.1 hplaying, (Option.some_inj.1 h).symm⟩

theorem step_disconnect {i : ℕ} (h : step profile max reservationValidTime (.disconnect i) s = some t) :
    ∃ client, s.clients[i]? = some client ∧
      t = { queue := if client.playing.isSome then s.queue.dropPlaying else s.queue
            clients := s.clients.eraseIdx i } := by
  obtain ⟨client, hclient, h⟩ := Option.bind_eq_some_iff.1 h
  exact ⟨client, hclient, (Option.some_inj.1 h).symm⟩

/-- A client that authenticates: what becomes of the queue and of the connected users. -/
theorem authenticate_sessions {i : ℕ} {client : LoginClient} (hclient : s.clients[i]? = some client)
    (hplaying : client.playing = none) (auth : AuthRequest) (now : Instant)
    (ht : t = { queue := (Skrillax.authenticate now auth client s.queue).2.1
                clients := s.clients.set i (Skrillax.authenticate now auth client s.queue).1 }) :
    t.sessions.Subperm s.sessions ∧
      ((t.connected.length = s.connected.length + 1 ∧ t.queue.players = s.queue.players + 1) ∨
        (t.connected.length = s.connected.length ∧ t.queue.players = s.queue.players)) := by
  obtain ⟨hi, -⟩ := List.getElem?_eq_some_iff.1 hclient
  have huser : client.user = none := by rw [LoginClient.user, hplaying]; rfl
  have hbefore := clients_perm hclient
  rw [huser, Option.toList_none, List.nil_append] at hbefore
  have hpending : ((unexpired (s.queue.advance now).now s.queue.reservations).map
      Reservation.content).Sublist (s.queue.reservations.map Reservation.content) :=
    List.filter_sublist.map Reservation.content
  obtain ⟨queue', -, ⟨reservation, hfind, hturn, hres, hplayers⟩ | ⟨-, hturn, hres, hplayers⟩⟩ :=
    authenticate_cases now auth client s.queue
  · rw [hturn] at ht
    have hafter : t.connected.Perm (reservation.content :: s.connected) := by
      rw [ht]
      refine (clients_set_perm hi (client.becomePlaying {} reservation.content)).trans ?_
      exact (hbefore.symm.cons reservation.content)
    refine ⟨?_, Or.inl ⟨by rw [hafter.length_eq, List.length_cons], by rw [ht]; exact hplayers⟩⟩
    -- the user moves from the reservations to the clients
    have hmoved : t.sessions.Perm ((unexpired (s.queue.advance now).now s.queue.reservations).map
        Reservation.content ++ s.connected) := by
      have hres' : t.queue.reservations = queue'.reservations := by rw [ht]
      rw [sessions, hres', hres]
      refine (hafter.append_left _).trans (List.perm_middle.trans ?_)
      exact ((cons_eraseP_perm hfind).map Reservation.content).append_right s.connected
    exact hmoved.subperm.trans (hpending.append_right _).subperm
  · rw [hturn] at ht
    have hafter : t.connected.Perm s.connected := by
      rw [ht]
      refine (clients_set_perm hi (client.refuse .noSuchToken)).trans ?_
      rw [show (client.refuse .noSuchToken).user = none from huser]
      exact hbefore.symm
    refine ⟨?_, Or.inr ⟨hafter.length_eq, by rw [ht]; exact hplayers⟩⟩
    have hres' : t.queue.reservations = unexpired (s.queue.advance now).now s.queue.reservations := by
      rw [ht]
      exact hres
    rw [sessions, hres']
    exact ((List.Perm.append_left _ hafter).subperm).trans ((hpending.append_right _).subperm)

/-! ### Invariants -/

theorem lockFree_reserveAt {queue : QueueState} (h : LockFree max queue) (draws : ℕ → UInt32)
    (user : ServerUser) (now later : Instant) :
    LockFree max (reserveAt profile max reservationValidTime draws user now later queue).2 :=
  (safe_reserveSpot draws user h).exec (Exec.of_runWith (fun _ => queueRely_advance _) 0 _ queue)

theorem lockFree_authenticate {queue : QueueState} (h : LockFree max queue) (now : Instant)
    (auth : AuthRequest) (client : LoginClient) :
    LockFree max (Skrillax.authenticate now auth client queue).2.1 := by
  have hhand : LockFree max (handInAt now auth.token queue).2 :=
    (safe_handInReservation auth.token h).exec (Exec.of_runWith (fun _ => queueRely_advance now) 0 _ queue)
  rw [Skrillax.authenticate]
  split <;> rename_i heq
  · rwa [heq] at hhand
  · rwa [heq] at hhand

theorem connected_connect (s : LoginServer) :
    ({ s with clients := s.clients ++ [.accepted] } : LoginServer).connected = s.connected := by
  rw [connected, List.filterMap_append]
  exact List.append_nil _

/-- The users who stay when a client disconnects. -/
theorem connected_disconnect {i : ℕ} {client : LoginClient} (h : s.clients[i]? = some client) :
    s.connected.Perm (client.user.toList ++ (s.clients.eraseIdx i).filterMap LoginClient.user) :=
  clients_perm h

theorem Consistent.step {e : LoginEvent} (hs : Consistent max s)
    (h : step profile max reservationValidTime e s = some t) : Consistent max t := by
  cases e with
  | connect =>
      cases h
      exact ⟨hs.lockFree, hs.players.trans (congrArg List.length (connected_connect s)).symm⟩
  | request draws user now later =>
      rw [step_request h]
      refine ⟨lockFree_reserveAt hs.lockFree draws user now later, ?_⟩
      exact (reserveAt_cases profile reservationValidTime hs.lockFree draws user now later).1.trans hs.players
  | authenticate i auth now =>
      rcases step_authenticate h with rfl | ⟨client, hclient, hplaying, ht⟩
      · exact hs
      · have hplayers := hs.players
        obtain ⟨-, hcounts⟩ := authenticate_sessions hclient hplaying auth now ht
        refine ⟨?_, by omega⟩
        rw [ht]
        exact lockFree_authenticate hs.lockFree now auth client
  | disconnect i =>
      obtain ⟨client, hclient, ht⟩ := step_disconnect h
      have hcounts := (connected_disconnect hclient).length_eq
      have hplayers := hs.players
      rw [List.length_append] at hcounts
      cases hplaying : client.playing with
      | none =>
          rw [LoginClient.user, hplaying] at hcounts
          rw [hplaying] at ht
          subst ht
          exact ⟨hs.lockFree, by simpa [connected, hplayers] using hcounts⟩
      | some playing =>
          rw [LoginClient.user, hplaying] at hcounts
          rw [hplaying] at ht
          subst ht
          simp only [Option.map_some, Option.toList_some, List.length_singleton] at hcounts
          refine ⟨lockFree_stable _ _ hs.lockFree (.dropPlaying s.queue (by omega)), ?_⟩
          show s.queue.players - 1 = ((s.clients.eraseIdx i).filterMap LoginClient.user).length
          omega

theorem beq_user_iff {user user' : ServerUser} :
    (user == user') = true ↔ user.id = user'.id ∧ user.username = user'.username := by
  show (user.id == user'.id && user.username == user'.username) = true ↔ _
  rw [Bool.and_eq_true, beq_iff_eq, beq_iff_eq]

theorem beq_user_comm (user user' : ServerUser) : (user == user') = (user' == user) := by
  rw [Bool.eq_iff_iff, beq_user_iff, beq_user_iff]
  constructor <;> exact fun h => ⟨h.1.symm, h.2.symm⟩

theorem ne_user_symm {user user' : ServerUser} (h : (user == user') = false) : (user' == user) = false := by
  rwa [beq_user_comm]

/-- Two sessions of the same user are not both among the sessions. -/
theorem OneSession.not_both (hs : s.OneSession) {reservation : Reservation} {user user' : ServerUser}
    (hreservation : reservation ∈ s.queue.reservations) (huser' : user' ∈ s.connected)
    (h : (reservation.content == user) = true) : (user' == user) = false := by
  have hne := (List.pairwise_append.1 hs).2.2 reservation.content (List.mem_map_of_mem hreservation)
    user' huser'
  rw [Bool.eq_false_iff, Ne, beq_user_iff] at hne ⊢
  rw [beq_user_iff] at h
  exact fun h' => hne ⟨h.1.trans h'.1.symm, h.2.trans h'.2.symm⟩

theorem OneSession.of_subperm (hs : s.OneSession) (h : t.sessions.Subperm s.sessions) : t.OneSession := by
  obtain ⟨sessions, hperm, hsub⟩ := h
  exact (hperm.pairwise_iff ne_user_symm).1 (hs.sublist hsub)

/-- An event leaves nobody with two sessions exactly when it is no request for a user who is connected, or
there is no spot for that user. -/
theorem oneSession_step_iff {e : LoginEvent} (hs : Consistent max s) (hone : s.OneSession)
    (h : step profile max reservationValidTime e s = some t) :
    t.OneSession ↔ ForNobodyConnected max s e := by
  cases e with
  | connect =>
      cases h
      refine iff_of_true (hone.of_subperm ?_) trivial
      rw [sessions, connected_connect]
      exact List.Subperm.refl _
  | request draws user now later =>
      rw [step_request h]
      have hpending : (((unexpired (s.queue.advance now).now s.queue.reservations).map
          Reservation.content) ++ s.connected).Sublist s.sessions :=
        (List.filter_sublist.map Reservation.content).append_right s.connected
      obtain ⟨-, ⟨hres, hrefused⟩ | ⟨reservation, rfl, hres, hnone, hspot⟩⟩ :=
        reserveAt_cases profile reservationValidTime hs.lockFree draws user now later
      · -- refused
        refine iff_of_true (hone.of_subperm ?_) fun hconnected hspot => ?_
        · rw [sessions]
          simp only [hres]
          exact hpending.subperm
        · rcases hrefused with hany | hnoSpot
          · obtain ⟨reservation, hmem, huser⟩ := List.any_eq_true.1 hany
            obtain ⟨user', huser', heq⟩ := List.any_eq_true.1 hconnected
            rw [hone.not_both (List.mem_of_mem_filter hmem) huser' huser] at heq
            cases heq
          · exact hnoSpot hspot
      · -- accepted: there is a session more
        have hopened : (sessions { s with queue := (reserveAt profile max reservationValidTime draws
            reservation.content now later s.queue).2 }).Perm (reservation.content ::
              ((unexpired (s.queue.advance now).now s.queue.reservations).map Reservation.content ++
                s.connected)) := by
          rw [sessions]
          simp only [hres, List.map_append, List.map_cons, List.map_nil, List.append_assoc]
          exact List.perm_middle
        rw [OneSession, hopened.pairwise_iff ne_user_symm, List.pairwise_cons]
        constructor
        · intro hpairs hconnected
          obtain ⟨user', huser', heq⟩ := List.any_eq_true.1 hconnected
          have hne := hpairs.1 user' (List.mem_append_right _ huser')
          rw [beq_user_comm, heq] at hne
          cases hne
        · intro hcond
          refine ⟨fun user' huser' => ?_, hone.sublist hpending⟩
          rw [beq_user_comm]
          rcases List.mem_append.1 huser' with huser' | huser'
          · obtain ⟨reservation', hmem, rfl⟩ := List.mem_map.1 huser'
            exact Bool.eq_false_of_not_eq_true (List.any_eq_false.1 hnone reservation' hmem)
          · refine Bool.eq_false_iff.2 fun heq => hcond ?_ hspot
            exact List.any_eq_true.2 ⟨user', huser', heq⟩
  | authenticate i auth now =>
      refine iff_of_true ?_ trivial
      rcases step_authenticate h with rfl | ⟨client, hclient, hplaying, ht⟩
      · exact hone
      · exact hone.of_subperm (authenticate_sessions hclient hplaying auth now ht).1
  | disconnect i =>
      refine iff_of_true (hone.of_subperm ?_) trivial
      obtain ⟨client, hclient, ht⟩ := step_disconnect h
      have hreservations : t.queue.reservations = s.queue.reservations := by
        rw [ht]
        dsimp only
        split <;> rfl
      have hconnected : t.connected.Sublist s.connected := by
        rw [ht]
        exact (List.eraseIdx_sublist s.clients i).filterMap LoginClient.user
      rw [sessions, hreservations]
      exact (hconnected.append_left _).subperm

/-! ### Ticks -/

/-- The event of a client that is not a player yet. -/
theorem step_authenticate_eq (profile : Profile) (max : UInt16) (reservationValidTime : UInt64)
    (before after : List LoginClient) {client : LoginClient} (hplaying : client.playing = none)
    (auth : AuthRequest) (now : Instant) (queue : QueueState) :
    step profile max reservationValidTime (.authenticate before.length auth now)
        ⟨queue, before ++ client :: after⟩ =
      some ⟨(Skrillax.authenticate now auth client queue).2.1,
        before ++ (Skrillax.authenticate now auth client queue).1 :: after⟩ := by
  rw [step]
  simp [hplaying]

theorem playing_of_authRequest {client : LoginClient} {auth : AuthRequest}
    (h : client.authRequest = some auth) : client.playing = none := by
  rw [LoginClient.authRequest] at h
  split at h
  · cases h
  · rename_i hplaying
    exact Option.not_isSome_iff_eq_none.1 hplaying

/-- Induction on the clients that the loop has still to go through. -/
theorem exists_runAll_handleAuthFrom (clock : ℕ → Instant) (before rest : List LoginClient)
    (queue : QueueState) :
    ∃ events, runAll (step profile max reservationValidTime) events ⟨queue, before ++ rest⟩ =
      some ⟨(handleAuthFrom clock before.length rest queue).2,
        before ++ (handleAuthFrom clock before.length rest queue).1⟩ := by
  induction rest generalizing before queue with
  | nil => exact ⟨[], rfl⟩
  | cons client rest ih =>
      rw [handleAuthFrom]
      cases hrequest : client.authRequest with
      | none =>
          obtain ⟨events, hevents⟩ := ih (before ++ [client]) queue
          rw [List.length_append, List.length_singleton, List.append_assoc, List.append_assoc] at hevents
          exact ⟨events, hevents⟩
      | some auth =>
          have hstep := step_authenticate_eq profile max reservationValidTime before rest
            (playing_of_authRequest hrequest) auth (clock before.length) queue
          rcases hturn : Skrillax.authenticate (clock before.length) auth client queue with
            ⟨client', queue', accepted⟩
          rw [hturn] at hstep
          cases accepted with
          | true =>
              refine ⟨[.authenticate before.length auth (clock before.length)], ?_⟩
              simp only [runAll_singleton, hturn]
              exact hstep
          | false =>
              obtain ⟨events, hevents⟩ := ih (before ++ [client']) queue'
              rw [List.length_append, List.length_singleton, List.append_assoc, List.append_assoc] at hevents
              refine ⟨.authenticate before.length auth (clock before.length) :: events, ?_⟩
              rw [runAll_cons, hstep]
              simp only [hturn]
              exact hevents

/-- The authentications of a whole tick are a run of such events. -/
theorem exists_runAll_handleAuth (clock : ℕ → Instant) (s : LoginServer) :
    ∃ events, runAll (step profile max reservationValidTime) events s = some (s.handleAuth clock) :=
  exists_runAll_handleAuthFrom clock [] s.clients s.queue

end LoginServer

end Server

open LoginServer

theorem consistent_start (max : UInt16) (now : Instant) : Consistent max (start now) :=
  ⟨lockFree_new max now, rfl⟩

/-- **No user has two sessions throughout a run exactly when no request is accepted for a user who is
connected.** -/
theorem one_session_iff (profile : Profile) (max : UInt16) (reservationValidTime : UInt64)
    (now : Instant) (events : List LoginEvent) :
    Reached (step profile max reservationValidTime) OneSession events (start now) ↔
      AllSteps (step profile max reservationValidTime) (ForNobodyConnected max) events (start now) := by
  have hconsistent : Reached (step profile max reservationValidTime) (Consistent max) events (start now) :=
    reached_of_step (fun _ _ _ _ hs h => hs.step h) (consistent_start max now)
  have hiff : Reached (step profile max reservationValidTime)
      (fun s => Consistent max s ∧ s.OneSession) events (start now) ↔
      AllSteps (step profile max reservationValidTime) (ForNobodyConnected max) events (start now) := by
    refine reached_iff_allSteps (fun e _ s t hs h => ?_) ⟨consistent_start max now, List.Pairwise.nil⟩
    rw [← oneSession_step_iff hs.1 hs.2 h]
    exact and_iff_right (hs.1.step h)
  rw [← hiff]
  exact ⟨fun h pre t hpre ht => ⟨hconsistent pre t hpre ht, h pre t hpre ht⟩,
    fun h pre t hpre ht => (h pre t hpre ht).2⟩

/-! ### A user who logs in twice -/

/-- The first user reserves a spot, connects and authenticates, and reserves a spot again. -/
def loginTwice : List LoginEvent :=
  [.request (fun _ => 7) firstUser 0 0, .connect, .authenticate 0 (requestWith 7) 0,
    .request (fun _ => 8) firstUser 0 0]

/-- The user is connected, and has a reservation that another client can hand in. -/
theorem login_twice_has_two_sessions :
    ¬ Reached (step .debug 2 30) OneSession loginTwice (start 0) := by
  intro h
  obtain ⟨s, hs, hsessions⟩ : ∃ s, runAll (step .debug 2 30) loginTwice (start 0) = some s ∧
      s.sessions = [firstUser, firstUser] := ⟨_, rfl, rfl⟩
  have hone : s.OneSession := h.last hs
  rw [OneSession, hsessions] at hone
  have hne := (List.pairwise_cons.1 hone).1 firstUser List.mem_cons_self
  cases hne

end Skrillax

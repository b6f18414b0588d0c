/-
**Authentication in batches.**

In a tick the packets of all clients are received, the tokens of the clients that want to authenticate are
handed in one after the other, and the inputs are reset.  The loop over the clients ends at the first token
that is accepted, so that the requests of the clients after that are lost with their inputs.

Main definitions:

* `LoginServer` — the login queue and the clients, in the order in which the systems go through them;
* `authenticate`, `LoginServer.handleAuth` — a turn of the loop, and the loop;
* `LoginServer.authTick`, `LoginServer.ownTicks` — a tick for all requests, and a tick for each of them;
* `redeemed` — who becomes a player, in terms of the reservations;
* `NoAuthDropped` — the tick does what the ticks of the single requests do.

Main results:

* `LoginServer.ownTicks_eq` — the ticks of the single requests are the turns of the loop, without its early
  end;
* `noAuthDropped_iff` — **no authentication is dropped exactly when no client with a request comes after one
  whose token is valid**.
-/

import Skrillax.LoginClient

set_option relaxedAutoImplicit false
set_option autoImplicit false

namespace Skrillax

open Interference

/-! ### Handing in tokens -/

/-- Time has passed until the given instant. -/
def QueueState.advance (now : Instant) (s : QueueState) : QueueState := { s with now := max s.now now }

/-- A call of `hand_in_reservation` at an instant. -/
def handInAt (now : Instant) (token : UInt32) (queue : QueueState) :
    Except ReservationError (PlayingToken × ServerUser) × QueueState :=
  (handInReservation token).runWith (fun _ => QueueState.advance now) 0 queue

@[simp] theorem QueueState.advance_reservations (now : Instant) (s : QueueState) :
    (s.advance now).reservations = s.reservations := rfl

theorem advance_advance (now : Instant) (s : QueueState) :
    ((s.advance now).advance now).now = (s.advance now).now :=
  max_eq_left (le_max_right s.now now)

theorem advance_now {now : Instant} {s : QueueState} (h : s.now ≤ now) : (s.advance now).now = now :=
  max_eq_right h

/-- Induction on what `retain` has still to look at. -/
theorem retainFrom_at (instant now : Instant) {kept rest : List Reservation} {s : QueueState}
    (hs : s.reservations = kept ++ rest) :
    let t := ((retainFrom instant kept rest).runWith (fun _ => QueueState.advance now) 0 s).2
    t.reservations = kept ++ unexpired instant rest ∧ t.players = s.players ∧
      t.now ≤ (s.advance now).now := by
  induction rest generalizing kept s with
  | nil => exact ⟨hs, rfl, le_max_left s.now now⟩
  | cons reservation rest ih =>
      rw [retainFrom]
      split
      · rename_i hvalid
        have hcons : unexpired instant (reservation :: rest) = reservation :: unexpired instant rest :=
          List.filter_cons_of_pos (by simpa using hvalid)
        have hs' : s.reservations = (kept ++ [reservation]) ++ rest := by simpa using hs
        have hrest := ih hs'
        rw [List.append_assoc, List.singleton_append] at hrest
        rwa [hcons]
      · rename_i hexpired
        have hcons : unexpired instant (reservation :: rest) = unexpired instant rest :=
          List.filter_cons_of_neg (by simpa using hexpired)
        rw [hcons, Prog.runWith_const_bind]
        obtain ⟨hres, hplayers, hnow⟩ := ih (s := { s.advance now with
          queued := (s.advance now).queued - 1, reservations := kept ++ rest }) rfl
        exact ⟨hres, hplayers, hnow.trans (advance_advance now s).le⟩

theorem cleanupRegistrations_at (now : Instant) (s : QueueState) :
    let t := (cleanupRegistrations.runWith (fun _ => QueueState.advance now) 0 s).2
    t.reservations = unexpired (s.advance now).now s.reservations ∧ t.players = s.players ∧
      t.now ≤ (s.advance now).now := by
  rw [cleanupRegistrations, Prog.runWith_const_bind, Prog.runWith_const_bind]
  simp only [runWith_read]
  obtain ⟨hres, hplayers, hle⟩ := retainFrom_at (s.advance now).now now
    (List.nil_append ((s.advance now).advance now).reservations).symm
  rw [advance_advance, advance_advance] at hle
  exact ⟨hres, hplayers, hle⟩

/-- What handing in a token at an instant does. -/
theorem handInAt_cases (now : Instant) (token : UInt32) (queue : QueueState) :
    let t := (handInAt now token queue).2
    let pending := unexpired (queue.advance now).now queue.reservations
    t.now ≤ (queue.advance now).now ∧
      ((∃ reservation, pending.find? (·.token == token) = some reservation ∧
          (handInAt now token queue).1 = .ok ({}, reservation.content) ∧
          t.reservations = pending.eraseP (·.token == token) ∧ t.players = queue.players + 1) ∨
        (pending.find? (·.token == token) = none ∧ (handInAt now token queue).1 = .error .noSuchToken ∧
          t.reservations = pending ∧ t.players = queue.players)) := by
  intro t pending
  obtain ⟨hres, hplayers, hnow⟩ := cleanupRegistrations_at now queue
  simp only [t]
  rw [handInAt, handInReservation, Prog.runWith_const_bind, Prog.runWith_const_bind]
  set cleaned := (cleanupRegistrations.runWith (fun _ => QueueState.advance now) 0 queue).2
  simp only [runWith_read, QueueState.advance_reservations, hres]
  have hread : (cleaned.advance now).now ≤ (queue.advance now).now :=
    max_le hnow (le_max_right queue.now now)
  cases hfind : (unexpired (queue.advance now).now queue.reservations).find? (·.token == token) with
  | none => exact ⟨hread, Or.inr ⟨rfl, rfl, hres, hplayers⟩⟩
  | some reservation =>
      dsimp only
      simp only [addPlaying, Prog.runWith_const_bind, runWith_atomically, runWith_pure, dropQueueToken]
      refine ⟨?_, Or.inl ⟨reservation, rfl, rfl, rfl, congrArg (· + 1) hplayers⟩⟩
      have hlast := max_le hread (le_max_right queue.now now)
      simpa [QueueState.advance] using hlast

def AuthResultError.ofReservationError : ReservationError → AuthResultError
  | .noSuchToken => .invalidData
  | .alreadyHasReservation => .invalidData
  | .noSpotsAvailable => .serverFull
  | .allTokensTaken => .serverFull

namespace LoginClient

/-- The request of a client that `handle_auth` looks at: clients that are `Playing` are left out. -/
def authRequest (client : LoginClient) : Option AuthRequest :=
  if client.playing.isSome then none else client.input.bind LoginInput.auth

def becomePlaying (client : LoginClient) (token : PlayingToken) (user : ServerUser) : LoginClient :=
  { client with playing := some ⟨user, token⟩, characterSelect := some .default }.send
    (.authResponse (.success 3 0))

def refuse (client : LoginClient) (err : ReservationError) : LoginClient :=
  client.send (.authResponse (.error (.ofReservationError err)))

end LoginClient

/-- A turn of the loop of `handle_auth`, and whether the token was accepted. -/
def authenticate (now : Instant) (auth : AuthRequest) (client : LoginClient) (queue : QueueState) :
    LoginClient × QueueState × Bool :=
  match handInAt now auth.token queue with
  | (.ok (token, user), queue) => (client.becomePlaying token user, queue, true)
  | (.error err, queue) => (client.refuse err, queue, false)

/-- The loop of `handle_auth`, from the client at position `i` on.  The token of the client at a position is
handed in at the instant of the position. -/
def handleAuthFrom (clock : ℕ → Instant) :
    ℕ → List LoginClient → QueueState → List LoginClient × QueueState
  | _, [], queue => ([], queue)
  | i, client :: clients, queue =>
      match client.authRequest with
      | none =>
          let (clients, queue) := handleAuthFrom clock (i + 1) clients queue
          (client :: clients, queue)
      | some auth =>
          match authenticate (clock i) auth client queue with
          -- the loop is left
          | (client, queue, true) => (client :: clients, queue)
          | (client, queue, false) =>
              let (clients, queue) := handleAuthFrom clock (i + 1) clients queue
              (client :: clients, queue)

/-! ### Ticks -/

structure LoginServer where
  queue : QueueState
  clients : List LoginClient

namespace LoginServer

/-- The packets that have arrived from the client at each position are received. -/
def receiveLoginInputs (arrived : ℕ → List LoginPacket) (s : LoginServer) : LoginServer :=
  { s with clients := s.clients.mapIdx fun i client => client.receiveLoginInputs (arrived i) }

def handleAuth (clock : ℕ → Instant) (s : LoginServer) : LoginServer :=
  let (clients, queue) := handleAuthFrom clock 0 s.clients s.queue
  { s with queue, clients }

def reset (s : LoginServer) : LoginServer := { s with clients := s.clients.map LoginClient.reset }

/-- A tick, as far as authentication is concerned. -/
def authTick (clock : ℕ → Instant) (arrived : ℕ → List LoginPacket) (s : LoginServer) : LoginServer :=
  ((s.receiveLoginInputs arrived).handleAuth clock).reset

/-- A tick in which only the request of the client at position `i` arrives. -/
def ownTick (clock : ℕ → Instant) (requests : ℕ → Option AuthRequest) (s : LoginServer) (i : ℕ) :
    LoginServer :=
  s.authTick clock fun j => if j = i then (requests i).toList.map .authRequest else []

/-- A tick for each of the clients, in order. -/
def ownTicks (clock : ℕ → Instant) (requests : ℕ → Option AuthRequest) (s : LoginServer) : LoginServer :=
  (List.range s.clients.length).foldl (ownTick clock requests) s

/-- A tick in which all requests arrive. -/
def batchTick (clock : ℕ → Instant) (requests : ℕ → Option AuthRequest) (s : LoginServer) : LoginServer :=
  s.authTick clock fun i => (requests i).toList.map .authRequest

end LoginServer

/-- Between two ticks the input of a client is empty. -/
def LoginClient.Waiting (client : LoginClient) : Prop :=
  client.input = some .default ∧ client.playing = none

/-! ### What is to be expected -/

/-- Who becomes a player, for the `n` clients from position `i` on: a token is valid if an unexpired
reservation has it, and each reservation counts once. -/
def redeemed (clock : ℕ → Instant) (requests : ℕ → Option AuthRequest) :
    ℕ → ℕ → List Reservation → List (Option ServerUser)
  | 0, _, _ => []
  | n + 1, i, reservations =>
      match requests i with
      | none => none :: redeemed clock requests n (i + 1) reservations
      | some auth =>
          let pending := unexpired (clock i) reservations
          (pending.find? (·.token == auth.token)).map Reservation.content ::
            redeemed clock requests n (i + 1) (pending.eraseP (·.token == auth.token))

/-- Every client with a request is answered once, the clients with valid tokens become players, and all is
as if each request had arrived in a tick of its own. -/
structure NoAuthDropped (clock : ℕ → Instant) (requests : ℕ → Option AuthRequest) (s : LoginServer) :
    Prop where
  answered : ∀ i client, s.clients[i]? = some client → (requests i).isSome = true →
    ∃ client' result, (s.batchTick clock requests).clients[i]? = some client' ∧
      client'.sent = client.sent ++ [.authResponse result]
  playing : (s.batchTick clock requests).clients.map LoginClient.user =
    redeemed clock requests s.clients.length 0 s.queue.reservations
  inOwnTicks : s.batchTick clock requests = s.ownTicks clock requests

/-- The token that the client at position `i` hands in is that of an unexpired reservation. -/
def TokenValid (clock : ℕ → Instant) (requests : ℕ → Option AuthRequest) (reservations : List Reservation)
    (i : ℕ) : Prop :=
  ∃ auth, requests i = some auth ∧
    (unexpired (clock i) reservations).any (·.token == auth.token) = true

/-! ### Turns -/

section Turns

variable {clock : ℕ → Instant} {requests : ℕ → Option AuthRequest}

/-- The loop with the requests by position, to the first token that is accepted. -/
def turnsToFirst (clock : ℕ → Instant) (requests : ℕ → Option AuthRequest) :
    ℕ → List LoginClient → QueueState → List LoginClient × QueueState
  | _, [], queue => ([], queue)
  | i, client :: clients, queue =>
      match requests i with
      | none =>
          let (clients, queue) := turnsToFirst clock requests (i + 1) clients queue
          (client :: clients, queue)
      | some auth =>
          match authenticate (clock i) auth client queue with
          | (client, queue, true) => (client :: clients, queue)
          | (client, queue, false) =>
              let (clients, queue) := turnsToFirst clock requests (i + 1) clients queue
              (client :: clients, queue)

/-- A turn of the loop that does not matter for the next ones. -/
def turn (clock : ℕ → Instant) (requests : ℕ → Option AuthRequest) (i : ℕ) (client : LoginClient)
    (queue : QueueState) : LoginClient × QueueState :=
  match requests i with
  | none => (client, queue)
  | some auth =>
      let (client, queue, _) := authenticate (clock i) auth client queue
      (client, queue)

/-- The loop without its early end. -/
def turns (clock : ℕ → Instant) (requests : ℕ → Option AuthRequest) :
    ℕ → List LoginClient → QueueState → List LoginClient × QueueState
  | _, [], queue => ([], queue)
  | i, client :: clients, queue =>
      let (client, queue) := turn clock requests i client queue
      let (clients, queue) := turns clock requests (i + 1) clients queue
      (client :: clients, queue)

/-- A client whose request has arrived. -/
def LoginClient.arrive (client : LoginClient) (request : Option AuthRequest) : LoginClient :=
  { client with input := some { LoginInput.default with auth := request } }

theorem receive_request {client : LoginClient} (h : client.input = some .default)
    (request : Option AuthRequest) :
    client.receiveLoginInputs (request.toList.map .authRequest) = client.arrive request := by
  obtain ⟨input, playing, characterSelect, jobs, bundle, commands, sent, history⟩ := client
  obtain rfl : input = some .default := h
  cases request <;> rfl

theorem reset_of_idle {client : LoginClient} (h : client.input = some .default) :
    client.reset = client := by
  obtain ⟨input, playing, characterSelect, jobs, bundle, commands, sent, history⟩ := client
  obtain rfl : input = some .default := h
  rfl

theorem reset_arrive {client : LoginClient} (h : client.input = some .default)
    (request : Option AuthRequest) : (client.arrive request).reset = client := by
  obtain ⟨input, playing, characterSelect, jobs, bundle, commands, sent, history⟩ := client
  obtain rfl : input = some .default := h
  rfl

theorem authRequest_of_idle {client : LoginClient} (h : client.input = some .default) :
    client.authRequest = none := by
  rw [LoginClient.authRequest, h]
  split <;> rfl

theorem authRequest_arrive {client : LoginClient} (h : client.playing = none)
    (request : Option AuthRequest) : (client.arrive request).authRequest = request := by
  rw [LoginClient.authRequest, LoginClient.arrive, h]
  rfl

/-- A turn does not look at the input. -/
theorem authenticate_arrive {client : LoginClient} (h : client.input = some .default) (now : Instant)
    (auth : AuthRequest) (request : Option AuthRequest) (queue : QueueState) :
    (authenticate now auth (client.arrive request) queue).1.reset =
        (authenticate now auth client queue).1 ∧
      (authenticate now auth (client.arrive request) queue).2 =
        (authenticate now auth client queue).2 := by
  obtain ⟨input, playing, characterSelect, jobs, bundle, commands, sent, history⟩ := client
  obtain rfl : input = some .default := h
  unfold authenticate
  split <;> exact ⟨rfl, rfl⟩

/-- The tick of all requests runs the loop to the first token that is accepted. -/
theorem handleAuthFrom_arrive {clients : List LoginClient} (h : ∀ client ∈ clients, client.Waiting) (i : ℕ)
    (queue : QueueState) :
    ((handleAuthFrom clock i (clients.mapIdx fun j client => client.arrive (requests (i + j))) queue).1.map
        LoginClient.reset,
      (handleAuthFrom clock i (clients.mapIdx fun j client => client.arrive (requests (i + j))) queue).2) =
      turnsToFirst clock requests i clients queue := by
  induction clients generalizing i queue with
  | nil => rfl
  | cons client clients ih =>
      obtain ⟨hinput, hplaying⟩ := h client List.mem_cons_self
      have hclients : ∀ client ∈ clients, client.Waiting := fun c hc => h c (List.mem_cons_of_mem _ hc)
      have hshift : (fun j (client : LoginClient) => client.arrive (requests (i + (j + 1)))) =
          fun j client => client.arrive (requests (i + 1 + j)) := by
        funext j client
        rw [Nat.add_right_comm, ← Nat.add_assoc]
      have ih' := ih hclients (i + 1)
      rw [List.mapIdx_cons, Nat.add_zero, hshift, handleAuthFrom, authRequest_arrive hplaying,
        turnsToFirst]
      cases hrequest : requests i with
      | none =>
          simp only [← ih', List.map_cons, reset_arrive hinput]
      | some auth =>
          obtain ⟨hclient, hqueue⟩ := authenticate_arrive hinput (clock i) auth (some auth) queue
          rcases hturn : authenticate (clock i) auth (client.arrive (some auth)) queue with
            ⟨client', queue', accepted⟩
          rcases hturn' : authenticate (clock i) auth client queue with ⟨client'', queue'', accepted'⟩
          rw [hturn, hturn'] at hclient hqueue
          obtain ⟨rfl, rfl⟩ := Prod.ext_iff.1 hqueue
          obtain rfl : client'.reset = client'' := hclient
          cases accepted with
          | true =>
              have hrest : (clients.mapIdx fun j client => client.arrive (requests (i + 1 + j))).map
                  LoginClient.reset = clients := by
                refine List.ext_getElem (by simp) fun j hj hj' => ?_
                rw [List.getElem_map, List.getElem_mapIdx]
                exact reset_arrive (hclients _ (List.getElem_mem hj')).1 _
              simp only [hturn, hturn', List.map_cons, hrest]
          | false => simp only [hturn, hturn', ← ih', List.map_cons]

theorem batchTick_eq {s : LoginServer} (h : ∀ client ∈ s.clients, client.Waiting) :
    s.batchTick clock requests =
      ⟨(turnsToFirst clock requests 0 s.clients s.queue).2,
        (turnsToFirst clock requests 0 s.clients s.queue).1⟩ := by
  have hreceived : (s.receiveLoginInputs fun i => (requests i).toList.map .authRequest).clients =
      s.clients.mapIdx fun j client => client.arrive (requests (0 + j)) := by
    refine List.ext_getElem (by simp [LoginServer.receiveLoginInputs]) fun j hj hj' => ?_
    have hj : j < s.clients.length := by simpa using hj'
    simp only [LoginServer.receiveLoginInputs, List.getElem_mapIdx, Nat.zero_add]
    exact receive_request (h _ (List.getElem_mem hj)).1 _
  rw [← handleAuthFrom_arrive h 0 s.queue, ← hreceived]
  rfl

theorem handleAuthFrom_skip {clients : List LoginClient}
    (h : ∀ client ∈ clients, client.authRequest = none) (i : ℕ) (queue : QueueState) :
    handleAuthFrom clock i clients queue = (clients, queue) := by
  induction clients generalizing i with
  | nil => rfl
  | cons client clients ih =>
      rw [handleAuthFrom, h client List.mem_cons_self,
        ih (fun c hc => h c (List.mem_cons_of_mem _ hc)) (i + 1)]

/-- If only one client has a request, the loop does its turn. -/
theorem handleAuthFrom_single {before after : List LoginClient} {client : LoginClient} {auth : AuthRequest}
    (hbefore : ∀ client ∈ before, client.authRequest = none)
    (hafter : ∀ client ∈ after, client.authRequest = none) (hclient : client.authRequest = some auth)
    (i : ℕ) (queue : QueueState) :
    handleAuthFrom clock i (before ++ client :: after) queue =
      (before ++ (authenticate (clock (i + before.length)) auth client queue).1 :: after,
        (authenticate (clock (i + before.length)) auth client queue).2.1) := by
  induction before generalizing i with
  | nil =>
      rw [List.nil_append, handleAuthFrom, hclient]
      rcases hturn : authenticate (clock i) auth client queue with ⟨client', queue', accepted⟩
      cases accepted <;> simp [hturn, handleAuthFrom_skip hafter]
  | cons first before ih =>
      have hlength : i + 1 + before.length = i + (before.length + 1) := by omega
      rw [List.cons_append, handleAuthFrom, hbefore first List.mem_cons_self,
        ih (fun c hc => hbefore c (List.mem_cons_of_mem _ hc)) (i + 1), List.length_cons, hlength]
      rfl

theorem map_reset_of_idle {clients : List LoginClient}
    (h : ∀ client ∈ clients, client.input = some .default) : clients.map LoginClient.reset = clients :=
  (List.map_congr_left fun client hclient => reset_of_idle (h client hclient)).trans (List.map_id' clients)

theorem receive_nothing (client : LoginClient) : client.receiveLoginInputs [] = client := by
  rw [LoginClient.receiveLoginInputs]
  split <;> rfl

/-- A tick in which a single request arrives does the turn of that request. -/
theorem ownTick_eq {before after : List LoginClient} {client : LoginClient}
    (hbefore : ∀ client ∈ before, client.input = some .default)
    (hafter : ∀ client ∈ after, client.input = some .default) (hclient : client.Waiting)
    (queue : QueueState) :
    LoginServer.ownTick clock requests ⟨queue, before ++ client :: after⟩ before.length =
      ⟨(turn clock requests before.length client queue).2,
        before ++ (turn clock requests before.length client queue).1 :: after⟩ := by
  have hreceived : ((before ++ client :: after).mapIdx fun j client => client.receiveLoginInputs
      (if j = before.length then (requests before.length).toList.map .authRequest else [])) =
      before ++ client.arrive (requests before.length) :: after := by
    rw [List.mapIdx_append, List.mapIdx_cons, Nat.zero_add, if_pos rfl, receive_request hclient.1]
    congr 1
    · refine List.ext_getElem List.length_mapIdx fun j hj hj' => ?_
      rw [List.getElem_mapIdx, if_neg (by omega), receive_nothing]
    · congr 1
      refine List.ext_getElem List.length_mapIdx fun j hj hj' => ?_
      rw [List.getElem_mapIdx, if_neg (by omega), receive_nothing]
  have hskip : ∀ client ∈ before, client.authRequest = none :=
    fun c hc => authRequest_of_idle (hbefore c hc)
  have hskip' : ∀ client ∈ after, client.authRequest = none :=
    fun c hc => authRequest_of_idle (hafter c hc)
  rw [LoginServer.ownTick, LoginServer.authTick, LoginServer.receiveLoginInputs]
  simp only [hreceived, LoginServer.handleAuth, LoginServer.reset]
  have harrived := authRequest_arrive hclient.2 (requests before.length)
  cases hrequest : requests before.length with
  | none =>
      rw [hrequest] at harrived
      have hnone : ∀ c ∈ before ++ client.arrive none :: after, c.authRequest = none := by
        intro c hc
        rcases List.mem_append.1 hc with hc | hc
        · exact hskip c hc
        · rcases List.mem_cons.1 hc with rfl | hc
          · exact harrived
          · exact hskip' c hc
      rw [handleAuthFrom_skip hnone, turn, hrequest, List.map_append, List.map_cons,
        reset_arrive hclient.1, map_reset_of_idle hbefore, map_reset_of_idle hafter]
  | some auth =>
      rw [hrequest] at harrived
      obtain ⟨hreset, hqueue⟩ := authenticate_arrive hclient.1 (clock before.length) auth (some auth) queue
      rw [handleAuthFrom_single hskip hskip' harrived, Nat.zero_add, turn, hrequest, List.map_append,
        List.map_cons, hreset, hqueue, map_reset_of_idle hbefore, map_reset_of_idle hafter]

theorem input_authenticate (now : Instant) (auth : AuthRequest) (client : LoginClient)
    (queue : QueueState) : (authenticate now auth client queue).1.input = client.input := by
  unfold authenticate
  split <;> rfl

theorem input_turn (i : ℕ) (client : LoginClient) (queue : QueueState) :
    (turn clock requests i client queue).1.input = client.input := by
  rw [turn]
  cases requests i with
  | none => rfl
  | some auth => exact input_authenticate (clock i) auth client queue

/-- Induction on the clients whose turn is still to come. -/
theorem foldl_ownTick {rest : List LoginClient} (hrest : ∀ client ∈ rest, client.Waiting)
    {before : List LoginClient} (hbefore : ∀ client ∈ before, client.input = some .default)
    (queue : QueueState) :
    (List.range' before.length rest.length).foldl (LoginServer.ownTick clock requests)
        ⟨queue, before ++ rest⟩ =
      ⟨(turns clock requests before.length rest queue).2,
        before ++ (turns clock requests before.length rest queue).1⟩ := by
  induction rest generalizing before queue with
  | nil => rfl
  | cons client rest ih =>
      have hclient := hrest client List.mem_cons_self
      have hafter : ∀ client ∈ rest, client.Waiting := fun c hc => hrest c (List.mem_cons_of_mem _ hc)
      have hturned : ∀ c ∈ before ++ [(turn clock requests before.length client queue).1],
          c.input = some .default := by
        intro c hc
        rcases List.mem_append.1 hc with hc | hc
        · exact hbefore c hc
        · rw [List.mem_singleton.1 hc, input_turn]
          exact hclient.1
      have ih' := ih hafter hturned (turn clock requests before.length client queue).2
      rw [List.length_append, List.length_singleton, List.append_assoc, List.singleton_append] at ih'
      rw [List.length_cons, List.range'_succ, List.foldl_cons,
        ownTick_eq hbefore (fun c hc => (hafter c hc).1) hclient, ih', turns, List.append_assoc]
      rfl

/-- The ticks of the single requests are the turns of the loop, without its early end. -/
theorem LoginServer.ownTicks_eq {s : LoginServer} (h : ∀ client ∈ s.clients, client.Waiting) :
    s.ownTicks clock requests =
      ⟨(turns clock requests 0 s.clients s.queue).2, (turns clock requests 0 s.clients s.queue).1⟩ := by
  have hnil : ∀ client ∈ ([] : List LoginClient), client.input = some .default :=
    List.forall_mem_nil _
  rw [LoginServer.ownTicks, List.range_eq_range']
  exact foldl_ownTick h hnil s.queue

/-! ### Valid tokens -/

theorem unexpired_unexpired {now now' : Instant} (h : now ≤ now') (reservations : List Reservation) :
    unexpired now' (unexpired now reservations) = unexpired now' reservations := by
  rw [unexpired, unexpired, List.filter_filter]
  refine List.filter_congr fun reservation _ => ?_
  have hlt : now' < reservation.timeout → now < reservation.timeout := lt_of_le_of_lt h
  simpa using hlt

theorem tokenValid_unexpired (hclock : Monotone clock) {i j : ℕ} (hij : i ≤ j)
    (reservations : List Reservation) :
    TokenValid clock requests (unexpired (clock i) reservations) j ↔
      TokenValid clock requests reservations j := by
  rw [TokenValid, TokenValid, unexpired_unexpired (hclock hij)]

/-- What a turn does to the client and to the reservations. -/
theorem authenticate_cases (now : Instant) (auth : AuthRequest) (client : LoginClient)
    (queue : QueueState) :
    let pending := unexpired (queue.advance now).now queue.reservations
    ∃ queue', queue'.now ≤ (queue.advance now).now ∧
      ((∃ reservation, pending.find? (·.token == auth.token) = some reservation ∧
          authenticate now auth client queue = (client.becomePlaying {} reservation.content, queue', true) ∧
          queue'.reservations = pending.eraseP (·.token == auth.token) ∧
          queue'.players = queue.players + 1) ∨
        (pending.find? (·.token == auth.token) = none ∧
          authenticate now auth client queue = (client.refuse .noSuchToken, queue', false) ∧
          queue'.reservations = pending ∧ queue'.players = queue.players)) := by
  intro pending
  obtain ⟨hnow, hcases⟩ := handInAt_cases now auth.token queue
  refine ⟨(handInAt now auth.token queue).2, hnow, ?_⟩
  rcases hhand : handInAt now auth.token queue with ⟨r, queue'⟩
  rw [hhand] at hcases
  rcases hcases with ⟨reservation, hfind, hr, hres⟩ | ⟨hfind, hr, hres⟩
  · obtain rfl : r = .ok ({}, reservation.content) := hr
    exact Or.inl ⟨reservation, hfind, by rw [authenticate, hhand], hres⟩
  · obtain rfl : r = .error .noSuchToken := hr
    exact Or.inr ⟨hfind, by rw [authenticate, hhand], hres⟩

theorem authenticate_at {now : Instant} {queue : QueueState} (hnow : queue.now ≤ now) (auth : AuthRequest)
    (client : LoginClient) :
    let pending := unexpired now queue.reservations
    ∃ queue', queue'.now ≤ now ∧
      ((∃ reservation, pending.find? (·.token == auth.token) = some reservation ∧
          authenticate now auth client queue = (client.becomePlaying {} reservation.content, queue', true) ∧
          queue'.reservations = pending.eraseP (·.token == auth.token)) ∨
        (pending.find? (·.token == auth.token) = none ∧
          authenticate now auth client queue = (client.refuse .noSuchToken, queue', false) ∧
          queue'.reservations = pending)) := by
  intro pending
  obtain ⟨queue', hnow', hcases⟩ := authenticate_cases now auth client queue
  rw [advance_now hnow] at hnow' hcases
  refine ⟨queue', hnow', ?_⟩
  rcases hcases with ⟨reservation, hfind, hturn, hres, -⟩ | ⟨hfind, hturn, hres, -⟩
  · exact Or.inl ⟨reservation, hfind, hturn, hres⟩
  · exact Or.inr ⟨hfind, hturn, hres⟩

/-- A token that is found is valid. -/
theorem tokenValid_iff {i : ℕ} {auth : AuthRequest} (hrequest : requests i = some auth)
    (reservations : List Reservation) :
    TokenValid clock requests reservations i ↔
      ((unexpired (clock i) reservations).find? (·.token == auth.token)).isSome = true := by
  rw [List.find?_isSome, ← List.any_eq_true]
  constructor
  · rintro ⟨auth', hauth', hany⟩
    obtain rfl : auth = auth' := Option.some_inj.1 (hrequest.symm.trans hauth')
    exact hany
  · exact fun hany => ⟨auth, hrequest, hany⟩

/-! ### The early end of the loop -/

/-- After a valid token there are no more requests, for the `n` clients from position `i` on. -/
def NoneAfterValid (clock : ℕ → Instant) (requests : ℕ → Option AuthRequest)
    (reservations : List Reservation) (i n : ℕ) : Prop :=
  ∀ j k, i ≤ j → j < k → k < i + n → TokenValid clock requests reservations j → requests k = none

theorem noneAfterValid_succ_iff {reservations : List Reservation} {i n : ℕ} :
    NoneAfterValid clock requests reservations i (n + 1) ↔
      (TokenValid clock requests reservations i → ∀ k, i < k → k < i + 1 + n → requests k = none) ∧
        NoneAfterValid clock requests reservations (i + 1) n := by
  constructor
  · intro h
    refine ⟨fun hvalid k hk hk' => h i k le_rfl hk (by omega) hvalid, fun j k hj hjk hk => ?_⟩
    exact h j k (by omega) hjk (by omega)
  · rintro ⟨hfirst, hrest⟩ j k hj hjk hk hvalid
    rcases Nat.eq_or_lt_of_le hj with rfl | hj
    · exact hfirst hvalid k hjk (by omega)
    · exact hrest j k hj hjk (by omega) hvalid

theorem noneAfterValid_unexpired (hclock : Monotone clock) {reservations : List Reservation} {i j n : ℕ}
    (hij : i ≤ j) :
    NoneAfterValid clock requests (unexpired (clock i) reservations) j n ↔
      NoneAfterValid clock requests reservations j n := by
  refine forall_congr' fun k => forall_congr' fun l => ?_
  refine forall_congr' fun hk => ?_
  rw [tokenValid_unexpired hclock (hij.trans hk)]

theorem not_tokenValid {i : ℕ} (h : requests i = none) (reservations : List Reservation) :
    ¬ TokenValid clock requests reservations i := by
  rintro ⟨auth, hauth, -⟩
  rw [h] at hauth
  cases hauth

/-- Without requests nothing happens. -/
theorem turns_of_none {clients : List LoginClient} {i : ℕ}
    (h : ∀ k, i ≤ k → k < i + clients.length → requests k = none) (queue : QueueState) :
    turns clock requests i clients queue = (clients, queue) := by
  induction clients generalizing i with
  | nil => rfl
  | cons client clients ih =>
      rw [List.length_cons] at h
      have hrest := ih (i := i + 1) fun k hk hk' => h k (by omega) (by omega)
      rw [turns, turn, h i le_rfl (by omega)]
      simp only [hrest]

/-- If no request comes after a valid token, the loop may as well go on. -/
theorem turnsToFirst_eq (hclock : Monotone clock) {clients : List LoginClient} {i : ℕ}
    {queue : QueueState} (hnow : queue.now ≤ clock i)
    (h : NoneAfterValid clock requests queue.reservations i clients.length) :
    turnsToFirst clock requests i clients queue = turns clock requests i clients queue := by
  induction clients generalizing i queue with
  | nil => rfl
  | cons client clients ih =>
      obtain ⟨hfirst, hrest⟩ := noneAfterValid_succ_iff.1 h
      have hnext : clock i ≤ clock (i + 1) := hclock (Nat.le_succ i)
      rw [turnsToFirst, turns, turn]
      cases hrequest : requests i with
      | none => simp only [ih (hnow.trans hnext) hrest]
      | some auth =>
          obtain ⟨queue', hnow', ⟨reservation, hfind, hturn, -⟩ | ⟨-, hturn, hres⟩⟩ :=
            authenticate_at hnow auth client
          · have hvalid := (tokenValid_iff hrequest queue.reservations).2 (by rw [hfind]; rfl)
            have hnone : turns clock requests (i + 1) clients queue' = (clients, queue') :=
              turns_of_none (fun k hk => hfirst hvalid k hk) queue'
            simp only [hturn, hnone]
          · have hrest' := (noneAfterValid_unexpired hclock (Nat.le_succ i)).2 hrest
            rw [← hres] at hrest'
            simp only [hturn, ih (hnow'.trans hnext) hrest']

/-- Whoever has a request is answered once. -/
def Answered (requests : ℕ → Option AuthRequest) (i : ℕ) (clients clients' : List LoginClient) : Prop :=
  ∀ j client, clients[j]? = some client → (requests (i + j)).isSome = true →
    ∃ client' result, clients'[j]? = some client' ∧ client'.sent = client.sent ++ [.authResponse result]

theorem Answered.tail {i : ℕ} {client client' : LoginClient} {clients clients' : List LoginClient}
    (h : Answered requests i (client :: clients) (client' :: clients')) :
    Answered requests (i + 1) clients clients' := by
  intro j c hc hrequest
  rw [Nat.add_right_comm, Nat.add_assoc] at hrequest
  exact h (j + 1) c hc hrequest

/-- In the loop without an early end everyone is answered. -/
theorem answered_turns (clients : List LoginClient) (i : ℕ) (queue : QueueState) :
    Answered requests i clients (turns clock requests i clients queue).1 := by
  induction clients generalizing i queue with
  | nil => exact fun j c hc => by simp at hc
  | cons client clients ih =>
      intro j c hc hrequest
      cases j with
      | zero =>
          obtain rfl : client = c := by simpa using hc
          obtain ⟨auth, hauth⟩ := Option.isSome_iff_exists.1 hrequest
          rw [Nat.add_zero] at hauth
          refine ⟨(turn clock requests i client queue).1, ?_⟩
          rw [turn, hauth]
          rcases hhand : handInAt (clock i) auth.token queue with ⟨e | ⟨token, user⟩, queue'⟩
          · exact ⟨.error (.ofReservationError e), by simp [turns, turn, hauth],
              by simp [authenticate, hhand, LoginClient.refuse, LoginClient.send]⟩
          · exact ⟨.success 3 0, by simp [turns, turn, hauth],
              by simp [authenticate, hhand, LoginClient.becomePlaying, LoginClient.send]⟩
      | succ j =>
          rw [← Nat.add_assoc, Nat.add_right_comm] at hrequest
          exact ih (i + 1) _ j c hc hrequest

/-- If everyone is answered, no request came after a valid token. -/
theorem noneAfterValid_of_answered (hclock : Monotone clock) {clients : List LoginClient} {i : ℕ}
    {queue : QueueState} (hnow : queue.now ≤ clock i)
    (h : Answered requests i clients (turnsToFirst clock requests i clients queue).1) :
    NoneAfterValid clock requests queue.reservations i clients.length := by
  induction clients generalizing i queue with
  | nil =>
      intro j k hj hjk hk
      rw [List.length_nil] at hk
      omega
  | cons client clients ih =>
      have hnext : clock i ≤ clock (i + 1) := hclock (Nat.le_succ i)
      rw [List.length_cons, noneAfterValid_succ_iff]
      rw [turnsToFirst] at h
      cases hrequest : requests i with
      | none =>
          simp only [hrequest] at h
          exact ⟨fun hvalid => absurd hvalid (not_tokenValid hrequest _), ih (hnow.trans hnext) h.tail⟩
      | some auth =>
          simp only [hrequest] at h
          obtain ⟨queue', hnow', ⟨reservation, hfind, hturn, -⟩ | ⟨hfind, hturn, hres⟩⟩ :=
            authenticate_at hnow auth client
          · -- the clients after that one are left as they were
            simp only [hturn] at h
            have hnone : ∀ k, i < k → k < i + 1 + clients.length → requests k = none := by
              intro k hk hk'
              by_contra hsome
              obtain ⟨j, rfl⟩ := Nat.exists_eq_add_of_lt hk
              have hj : j < clients.length := by omega
              obtain ⟨client', result, hclient', hsent⟩ := h.tail j clients[j]
                (List.getElem?_eq_getElem hj)
                (by rw [Nat.add_right_comm]; exact Option.isSome_iff_ne_none.2 hsome)
              rw [List.getElem?_eq_getElem hj, Option.some_inj] at hclient'
              rw [hclient'] at hsent
              simp at hsent
            exact ⟨fun _ => hnone, fun j k hj hjk hk _ => hnone k (by omega) hk⟩
          · simp only [hturn] at h
            refine ⟨fun hvalid => ?_, ?_⟩
            · rw [tokenValid_iff hrequest, hfind] at hvalid
              cases hvalid
            · have hrest := ih (hnow'.trans hnext) h.tail
              rw [hres] at hrest
              exact (noneAfterValid_unexpired hclock (Nat.le_succ i)).1 hrest

/-- In the loop without an early end the clients with valid tokens become players. -/
theorem playing_turns (hclock : Monotone clock) {clients : List LoginClient}
    (h : ∀ client ∈ clients, client.playing = none) {i : ℕ} {queue : QueueState}
    (hnow : queue.now ≤ clock i) :
    (turns clock requests i clients queue).1.map LoginClient.user =
      redeemed clock requests clients.length i queue.reservations := by
  induction clients generalizing i queue with
  | nil => rfl
  | cons client clients ih =>
      have hclient : client.playing = none := h client List.mem_cons_self
      have hclients : ∀ c ∈ clients, c.playing = none := fun c hc => h c (List.mem_cons_of_mem _ hc)
      have hnext : clock i ≤ clock (i + 1) := hclock (Nat.le_succ i)
      rw [turns, turn, List.length_cons, redeemed]
      cases hrequest : requests i with
      | none =>
          have hrest := ih hclients (hnow.trans hnext)
          simp only [List.map_cons, LoginClient.user, hclient, Option.map_none, hrest]
      | some auth =>
          obtain ⟨queue', hnow', ⟨reservation, hfind, hturn, hres⟩ | ⟨hfind, hturn, hres⟩⟩ :=
            authenticate_at hnow auth client
          · have hrest := ih hclients (hnow'.trans hnext)
            rw [hres] at hrest
            simp only [hturn, List.map_cons, hfind, Option.map_some, hrest]
            rfl
          · have hnotAny : ∀ reservation ∈ unexpired (clock i) queue.reservations,
                ¬ (reservation.token == auth.token) = true := List.find?_eq_none.1 hfind
            have hrest := ih hclients (hnow'.trans hnext)
            rw [hres, ← List.eraseP_of_forall_not hnotAny] at hrest
            simp only [hturn, List.map_cons, hfind, Option.map_none, hrest, LoginClient.user,
              LoginClient.refuse, LoginClient.send, hclient]

end Turns

/-- **No authentication is dropped exactly when no client with a request comes after one whose token is
valid.** -/
theorem noAuthDropped_iff (clock : ℕ → Instant) (hclock : Monotone clock)
    (requests : ℕ → Option AuthRequest) (s : LoginServer) (hnow : s.queue.now ≤ clock 0)
    (hwaiting : ∀ client ∈ s.clients, client.Waiting) :
    NoAuthDropped clock requests s ↔
      ∀ i j, i < j → j < s.clients.length → TokenValid clock requests s.queue.reservations i →
        requests j = none := by
  have hcond : (∀ i j, i < j → j < s.clients.length → TokenValid clock requests s.queue.reservations i →
      requests j = none) ↔ NoneAfterValid clock requests s.queue.reservations 0 s.clients.length := by
    simp only [NoneAfterValid, Nat.zero_le, Nat.zero_add, true_imp_iff]
  have hanswered : ∀ clients, Answered requests 0 s.clients clients ↔
      ∀ i client, s.clients[i]? = some client → (requests i).isSome = true →
        ∃ client' result, clients[i]? = some client' ∧
          client'.sent = client.sent ++ [.authResponse result] := by
    simp only [Answered, Nat.zero_add, implies_true]
  rw [hcond]
  constructor
  · intro h
    have hfirst := (hanswered _).2 h.answered
    rw [batchTick_eq hwaiting] at hfirst
    exact noneAfterValid_of_answered hclock hnow hfirst
  · intro h
    have hbatch : s.batchTick clock requests = ⟨(turns clock requests 0 s.clients s.queue).2,
        (turns clock requests 0 s.clients s.queue).1⟩ := by
      rw [batchTick_eq hwaiting, turnsToFirst_eq hclock hnow h]
    constructor
    · rw [hbatch]
      exact (hanswered _).1 (answered_turns s.clients 0 s.queue)
    · rw [hbatch]
      exact playing_turns hclock (fun client hclient => (hwaiting client hclient).2) hnow
    · rw [hbatch, LoginServer.ownTicks_eq hwaiting]

/-! ### Two clients at once -/

def requestWith (token : UInt32) : AuthRequest :=
  { token, username := "", password := "", unknown := 0, macBytes := Vector.replicate 6 0 }

/-- The server with one reservation, and two clients. -/
def twoClients : LoginServer := ⟨oneReservation, [.accepted, .accepted]⟩

/-- The first of two clients hands in the token of the reservation; the second one never gets an answer. -/
theorem second_request_is_dropped :
    ¬ NoAuthDropped (fun _ => 0) ([requestWith 7, requestWith 8][·]?) twoClients := by
  intro h
  obtain ⟨client, result, hclient, hsent⟩ := h.answered 1 .accepted rfl rfl
  have hdropped : (twoClients.batchTick (fun _ => 0) ([requestWith 7, requestWith 8][·]?)).clients[1]? =
      some .accepted := rfl
  rw [hdropped, Option.some_inj] at hclient
  subst hclient
  cases hsent

/-- In the other order both of them get an answer. -/
theorem noAuthDropped_other_order :
    NoAuthDropped (fun _ => 0) ([requestWith 8, requestWith 7][·]?) twoClients := by
  refine (noAuthDropped_iff (fun _ => 0) monotone_const _ twoClients (Nat.le_refl 0) ?_).2 ?_
  · intro client hclient
    have heq : client = .accepted := by simpa [twoClients] using hclient
    rw [heq]
    exact ⟨rfl, rfl⟩
  · rintro i j hij hj ⟨auth, hauth, hany⟩
    have hlength : twoClients.clients.length = 2 := rfl
    obtain rfl : i = 0 := by omega
    obtain rfl : requestWith 8 = auth := Option.some_inj.1 hauth
    cases hany

end Skrillax

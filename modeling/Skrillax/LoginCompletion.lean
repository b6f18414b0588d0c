/-
**A login that goes through.**

Whatever has happened before, a client with the credentials of an account gets a token if the user has no
reservation yet and there is a spot: the events of its login are possible one after the other, in this order.
With the token the user becomes a player, as long as the reservation has not expired.

Main definitions:

* `System.enter`, `System.obtain` — the events of a login.

Main results:

* `reserveAt_ok` — a reservation that is granted holds the token that is returned, and how long;
* `System.runAll_enter`, `System.runAll_obtain`, `System.runAll_redeem` — the parts of a login;
* `System.login_succeeds` — **from every reachable state, a client with the right credentials gets a token if
  there is a spot, and who hands it in in time becomes a player with this account**.
-/

import Skrillax.LoginProtocol

set_option relaxedAutoImplicit false
set_option autoImplicit false

namespace Skrillax.Gateway

open Rust PartialAction Interference

/-! ### Reservations -/

/-- A reservation for a user who has none, when there is a spot: the token is the one that is drawn. -/
theorem reserveAt_ok (profile : Profile) {max : UInt16} {validTime : UInt64} {queue : QueueState}
    (h : LockFree max queue) (hvalid : 0 < validTime.toNat) (draws : ℕ → UInt32) (user : ServerUser)
    (now later : Instant)
    (hnone : (unexpired (queue.advance now).now queue.reservations).any (·.content == user) = false)
    (hspot : HasSpot max draws now queue) :
    ∃ reservation, reservation.content = user ∧
      (reserveAt profile max validTime draws user now later queue).2.reservations =
        unexpired (queue.advance now).now queue.reservations ++ [reservation] ∧
      (unexpired (queue.advance now).now queue.reservations).any (·.token == reservation.token) = false ∧
      later + fromSecs validTime ≤ reservation.timeout ∧
      ∃ duration, (reserveAt profile max validTime draws user now later queue).1 =
        .ok (reservation.token, duration) := by
  -- after the first reading the time is always the later one
  have hlater : ∀ n, 1 ≤ n → QueueState.advance (if n = 0 then now else later) = QueueState.advance later :=
    fun n hn => by rw [if_neg (by omega)]
  have hread : LockFree max ((queue.advance now).advance later) :=
    lockFree_stable.reflTransGen h ((queueRely_advance now queue).trans (queueRely_advance later _))
  obtain ⟨hres, hplayers, -⟩ := retainFrom_at (queue.advance now).now later
    (s := (queue.advance now).advance later) (List.nil_append queue.reservations).symm
  obtain ⟨reservations, hduring⟩ := (safe_retainFrom (queue.advance now).now
    (show During max ([] ++ queue.reservations) 0 0 max.toNat ((queue.advance now).advance later) from
      hread)).exec (Exec.of_runWith (fun _ => queueRely_advance later) 0 _ _)
  set cleaned := ((retainFrom (queue.advance now).now [] queue.reservations).runWith
    (fun _ => QueueState.advance later) 0 ((queue.advance now).advance later)).2
  have hclean : ((retainFrom (queue.advance now).now []
      ((queue.advance now).advance later).reservations).runWith
      (fun _ => QueueState.advance later) (1 + 1) ((queue.advance now).advance later)).2 = cleaned := by
    rw [Prog.runWith_const (1 + 1) 0]
    rfl
  have hfree : LockFree max (cleaned.advance later) :=
    lockFree_stable.reflTransGen hduring.lockFree (queueRely_advance later cleaned)
  obtain ⟨-, -, hadded⟩ := addQueue_at profile later hfree
  rw [List.nil_append] at hres
  have hroom : (cleaned.advance later).reservations.length + (cleaned.advance later).players < max.toNat := by
    rw [QueueState.advance_reservations, hres, show (cleaned.advance later).players = queue.players from hplayers]
    exact hspot.1
  obtain ⟨token, hdraw⟩ := Option.isSome_iff_exists.1 hspot.2
  obtain ⟨secs, hsecs⟩ : ∃ secs, profile.subU64 validTime 1 = some secs := by
    refine ⟨validTime - 1, if_pos ?_⟩
    exact UInt64.le_iff_toNat_le.2 hvalid
  rcases hadd : (addQueue profile max).runWith (fun _ => QueueState.advance later) 0
    (cleaned.advance later) with ⟨result, queued⟩
  rw [hadd] at hadded
  obtain ⟨rfl, -⟩ | ⟨-, hfull⟩ := hadded
  · rcases hr : reserveAt profile max validTime draws user now later queue with ⟨r, t⟩
    rw [reserveAt, reserveSpot, cleanupRegistrations, Prog.bind_assoc, runWith_read_bind,
      Prog.runWith_congr 1 hlater, if_pos rfl, Prog.bind_assoc, runWith_read_bind, Prog.runWith_const_bind,
      hclean, runWith_read_bind, QueueState.advance_reservations, hres, Prog.runWith_const (1 + 1 + 1) 0,
      if_neg (Bool.not_eq_true _ ▸ hnone), Prog.runWith_const_bind, hadd] at hr
    simp only [runWith_read_bind, hdraw, hsecs] at hr
    obtain ⟨rfl, rfl⟩ := Prod.mk.inj hr
    exact ⟨⟨token, user, (queued.advance later).now + fromSecs validTime, {}⟩, rfl, rfl,
      drawTokenFrom_free hdraw, Nat.add_le_add_right (le_max_right _ _) _, fromSecs secs, rfl⟩
  · omega

namespace System

variable {d : Deployment} {s : System}

/-! ### A login that goes through -/

/-- What a client sends to log in with an account. -/
def enter (i : ℕ) (row : Account) (login : LoginRequest) (input : SecurityCodeInput) : List Event :=
  .packet i (.loginRequest login) ::
    if row.passcode.isSome then [.packet i (.securityCodeInput input)] else []

/-- The rest of a login: the task looks the server up and asks it for a spot, the request arrives as the last
one that was sent, and the answer comes back. -/
def obtain (s : System) (i : ℕ) (readings : Readings) : List Event :=
  [.serverDetails i, .reserve i, .deliver s.requests.length readings, .answer i]

theorem setClient_setClient (s : System) (i : ℕ) (client client' : GatewayClient) :
    (s.setClient i client).setClient i client' = s.setClient i client' := by
  rw [setClient, setClient, setClient, List.set_set]

theorem setClient_clients_self {i : ℕ} (h : i < s.clients.length)
    (client' : GatewayClient) : (s.setClient i client').clients[i]? = some client' := by
  rw [setClient, List.getElem?_set_self h]

theorem step_packet {i : ℕ} {client client' : GatewayClient} {packet : GatewayPacket}
    (hclient : s.clients[i]? = some client) (hreading : client.task = .reading)
    (h : client.handlePacket d.toEnvironment s.users s.servers s.notices packet = some client') :
    step d (.packet i packet) s = some (s.setClient i client') := by
  simp [step, hclient, hreading, h]

theorem step_serverDetails {i : ℕ} {client : GatewayClient} {userId : UInt32} {credentials : LastCredentials}
    {server : SocketAddr} (hclient : s.clients[i]? = some client)
    (htask : client.task = .reserving userId credentials)
    (h : Gateway.serverDetails s.servers credentials.shard = some server) :
    step d (.serverDetails i) s =
      some (s.setClient i { client with task := .detailed userId credentials server }) := by
  simp [step, hclient, htask, h]

theorem step_reserve {i : ℕ} {client : GatewayClient} {userId : UInt32} {credentials : LastCredentials}
    {server : SocketAddr} {agent : AgentServer} (hclient : s.clients[i]? = some client)
    (htask : client.task = .detailed userId credentials server)
    (h : findServer s.servers credentials.shard = some agent) :
    step d (.reserve i) s =
      some { s.setClient i { client with task := .waiting server s.asked.length } with
             requests := s.requests ++ [⟨some s.asked.length, agent.rpcAddress, some (some agent.token),
               ⟨userId, credentials.username⟩⟩]
             asked := s.asked ++ [(i, server)] } := by
  simp [step, hclient, htask, h]

theorem step_deliver {k : ℕ} {request : SpotRequest} {config : AgentConfig} (readings : Readings)
    (hrequest : s.requests[k]? = some request) (hconfig : d.agents request.address = some config) :
    step d (.deliver k readings) s =
      some (System.arrive d config request readings { s with requests := s.requests.eraseIdx k }) := by
  simp [step, hrequest, hconfig]

theorem step_answer {i n : ℕ} {client : GatewayClient} {server : SocketAddr} {response : ℕ × ReserveResponse}
    (hclient : s.clients[i]? = some client) (htask : client.task = .waiting server n)
    (h : s.responses.find? (·.1 == n) = some response) :
    step d (.answer i) s =
      some { s.setClient i (client.answered server response.2) with
             responses := s.responses.erase response } := by
  simp [step, hclient, htask, h]

theorem step_agent {address : String} {config : AgentConfig} {event : LoginEvent} {agent : LoginServer}
    (hconfig : d.agents address = some config)
    (hrequest : ∀ draws user now later, event ≠ .request draws user now later)
    (h : LoginServer.step d.profile config.maxPlayers config.reservationValidTime event (s.agents address) =
      some agent) : step d (.agent address event) s = some (s.setAgent address agent) := by
  cases event with
  | request draws user now later => exact absurd rfl (hrequest draws user now later)
  | connect | authenticate i auth now | disconnect i => simp [step, hconfig, h]

section Login

variable {i : ℕ} {client : GatewayClient} {row : Account} {login : LoginRequest} {input : SecurityCodeInput}

/-- The credentials are those of an account: the client gets to the reservation. -/
theorem runAll_enter (hclient : s.clients[i]? = some client) (hreading : client.task = .reading)
    (hrow : row ∈ s.users.rows) (haccepts : row.Accepts d.verify login.username login.password)
    (hcode : ∀ code, row.passcode = some code →
      decodePasscode d.decryptBlock input.innerSize input.data = .ok code) :
    ∃ client', runAll (step d) (enter i row login input) s = some (s.setClient i client') ∧
      client'.task = .reserving row.id.toUInt32 ⟨login.username, login.password, login.shardId⟩ ∧
      client'.told = client.told := by
  have hi := (List.getElem?_eq_some_iff.1 hclient).1
  have hlogin := tryLogin_of_account hrow haccepts
  let credentials : LastCredentials := ⟨login.username, login.password, login.shardId⟩
  cases hpasscode : row.passcode with
  | none =>
      let reserving : GatewayClient :=
        { client with lastCredentials := some credentials, task := .reserving row.id.toUInt32 credentials }
      have hfirst : client.handlePacket d.toEnvironment s.users s.servers s.notices (.loginRequest login) =
          some reserving := by
        simp [GatewayClient.handlePacket, hlogin, hpasscode, credentials, reserving]
      refine ⟨reserving, ?_, rfl, rfl⟩
      rw [enter, hpasscode]
      exact (runAll_singleton _ s).trans (step_packet hclient hreading hfirst)
  | some code =>
      let asked : GatewayClient := { client with lastCredentials := some credentials }.send
        (.passcodeRequiredResponse .passcodeRequired)
      have hfirst : client.handlePacket d.toEnvironment s.users s.servers s.notices (.loginRequest login) =
          some asked := by
        simp [GatewayClient.handlePacket, hlogin, hpasscode, credentials, asked]
      let reserving : GatewayClient :=
        { asked.send (.securityCodeResponse .ok 1 3) with task := .reserving row.id.toUInt32 credentials }
      have hsecond : asked.handlePacket d.toEnvironment s.users s.servers s.notices (.securityCodeInput input) =
          some reserving := by
        have hcredentials : asked.lastCredentials = some credentials := rfl
        simp only [GatewayClient.handlePacket, hcredentials, hcode code hpasscode,
          tryLoginPasscode_of_account hrow haccepts hpasscode, credentials, reserving]
      refine ⟨reserving, ?_, rfl, ?_⟩
      · rw [enter, hpasscode, Option.isSome_some, if_pos rfl, runAll_cons,
          step_packet hclient hreading hfirst, Option.bind_some, runAll_singleton,
          step_packet (setClient_clients_self hi asked) hreading hsecond, setClient_setClient]
      · show ((asked.send _).told) = _
        rw [GatewayClient.told_send, List.append_nil, GatewayClient.told_send, List.append_nil]
        rfl

/-- A request that shows the token, for a user who has no reservation yet, when there is a spot. -/
theorem handleSpotRequest_ok (profile : Profile) {config : AgentConfig} {users : Users}
    {userServers : List UserServer} (body : ReserveRequest) {readings : Readings} {queue : QueueState}
    {user : ServerUser}
    (hlockFree : LockFree config.maxPlayers queue) (hvalid : 0 < config.reservationValidTime.toNat)
    (hdatabase : readings.databaseFails = false)
    (hfetch : (fetch users userServers body.userId config.serverId).1 = some user)
    (hnone : (unexpired (queue.advance readings.now).now queue.reservations).any (·.content == user) = false)
    (hspot : HasSpot config.maxPlayers readings.draws readings.now queue) :
    ∃ reservation alive,
      let r := handleSpotRequest profile config users userServers (some (some config.token)) body readings queue
      reservation.content = user ∧ r.1 = some (.success reservation.token alive) ∧
        r.2.1.reservations = unexpired (queue.advance readings.now).now queue.reservations ++ [reservation] ∧
        (unexpired (queue.advance readings.now).now queue.reservations).any (·.token == reservation.token) =
          false ∧
        readings.later + fromSecs config.reservationValidTime ≤ reservation.timeout := by
  obtain ⟨reservation, huser, hres, hfree, htimeout, duration, hresult⟩ :=
    reserveAt_ok profile hlockFree hvalid readings.draws user readings.now readings.later hnone hspot
  rcases hreserve : reserveAt profile config.maxPlayers config.reservationValidTime readings.draws user
    readings.now readings.later queue with ⟨result, queue'⟩
  rcases hfetched : fetch users userServers body.userId config.serverId with ⟨user', userServers'⟩
  rw [hreserve] at hresult hres
  rw [hfetched] at hfetch
  obtain rfl : user' = some user := hfetch
  obtain rfl : result = .ok (reservation.token, duration) := hresult
  refine ⟨reservation, asSecs duration, huser, ?_, ?_, hfree, htimeout⟩
  · simp [handleSpotRequest, authorize, hdatabase, hfetched, hreserve]
  · simpa [handleSpotRequest, authorize, hdatabase, hfetched, hreserve] using hres

/-- The client waits for a spot, and gets it. -/
theorem runAll_obtain {events : List Event} {Known : AgentServer → Prop} (hinv : Inv d Known events s)
    {userId : UInt32} {credentials : LastCredentials} (hclient : s.clients[i]? = some client)
    (htask : client.task = .reserving userId credentials) {server : AgentServer} {config : AgentConfig}
    {readings : Readings} {user : ServerUser} (hserver : findServer s.servers credentials.shard = some server)
    (hconfig : d.agents server.rpcAddress = some config) (htoken : server.token = config.token)
    (hvalid : 0 < config.reservationValidTime.toNat) (hdatabase : readings.databaseFails = false)
    (hfetch : (fetch s.users s.userServers userId config.serverId).1 = some user)
    (hnone : (unexpired ((s.agents server.rpcAddress).queue.advance readings.now).now
      (s.agents server.rpcAddress).queue.reservations).any (·.content == user) = false)
    (hspot : HasSpot config.maxPlayers readings.draws readings.now (s.agents server.rpcAddress).queue) :
    ∃ t client' reservation, runAll (step d) (s.obtain i readings) s = some t ∧
      t.clients[i]? = some client' ∧ client'.told = client.told ++ [(reservation.token, server.address)] ∧
      reservation.content = user ∧
      (∃ pending, (t.agents server.rpcAddress).queue.reservations = pending ++ [reservation] ∧
        pending.any (·.token == reservation.token) = false) ∧
      readings.later + fromSecs config.reservationValidTime ≤ reservation.timeout := by
  have hi := (List.getElem?_eq_some_iff.1 hclient).1
  have hlockFree := ((hinv.agents server.rpcAddress).consistent config hconfig).lockFree
  let request : SpotRequest := ⟨some s.asked.length, server.rpcAddress, some (some server.token),
    ⟨userId, credentials.username⟩⟩
  obtain ⟨reservation, alive, huser, hanswer, hres, hfree, htimeout⟩ := handleSpotRequest_ok d.profile
    request.body hlockFree hvalid hdatabase hfetch hnone hspot
  have hheader : request.header = some (some config.token) := by rw [← htoken]
  let detailed : GatewayClient := { client with task := .detailed userId credentials server.address }
  let waiting : GatewayClient := { client with task := .waiting server.address s.asked.length }
  let sent : System := { s.setClient i waiting with asked := s.asked ++ [(i, server.address)] }
  let arrived := sent.arrive d config request readings
  have hdetails : Gateway.serverDetails s.servers credentials.shard = some server.address := by
    rw [Gateway.serverDetails, hserver, Option.map_some]
  have hfirst : step d (.serverDetails i) s = some (s.setClient i detailed) :=
    step_serverDetails hclient htask hdetails
  have hsecond : step d (.reserve i) (s.setClient i detailed) =
      some { sent with requests := s.requests ++ [request] } := by
    rw [step_reserve (setClient_clients_self hi detailed) rfl hserver]
    exact congrArg some (by rw [setClient_setClient]; rfl)
  have hthird : step d (.deliver s.requests.length readings) { sent with requests := s.requests ++ [request] } =
      some arrived := by
    rw [step_deliver readings List.getElem?_concat_length hconfig]
    exact congrArg some (congrArg (System.arrive d config request readings)
      (by simp [List.eraseIdx_append_of_length_le, sent, setClient]))
  have harrived : arrived.responses = s.responses ++ [(s.asked.length, .success reservation.token alive)] := by
    show s.responses ++ request.answers (handleSpotRequest d.profile config s.users s.userServers request.header
      request.body readings (s.agents server.rpcAddress).queue).1 = _
    rw [hheader, hanswer]
    rfl
  have hfind : arrived.responses.find? (·.1 == s.asked.length) =
      some (s.asked.length, .success reservation.token alive) := by
    rw [harrived, List.find?_append, List.find?_eq_none.2 fun response hresponse => ?_]
    · simp
    · have := (hinv.responses response hresponse).numbered
      simp only [beq_iff_eq]
      omega
  let told := waiting.answered server.address (.success reservation.token alive)
  let answered : System := { arrived.setClient i told with
    responses := arrived.responses.erase (s.asked.length, .success reservation.token alive) }
  have hwaiting : arrived.clients[i]? = some waiting := setClient_clients_self hi waiting
  have hfourth : step d (.answer i) arrived = some answered := step_answer hwaiting rfl hfind
  refine ⟨answered, told, reservation, ?_, setClient_clients_self (List.getElem?_eq_some_iff.1 hwaiting).1 told,
    GatewayClient.told_answered _ _ _, huser, ⟨_, ?_, hfree⟩, htimeout⟩
  · rw [obtain, runAll_cons, hfirst, Option.bind_some, runAll_cons, hsecond, Option.bind_some, runAll_cons,
      hthird, Option.bind_some, runAll_singleton, hfourth]
  · show (arrived.agents request.address).queue.reservations = _
    rw [arrive_agents_self, hheader]
    exact hres

/-- Whoever hands in the token of the last reservation in time becomes a player. -/
theorem runAll_redeem {address : String} {config : AgentConfig} (hconfig : d.agents address = some config)
    {pending : List Reservation} {reservation : Reservation}
    (hres : (s.agents address).queue.reservations = pending ++ [reservation])
    (hfree : pending.any (·.token == reservation.token) = false) {auth : AuthRequest}
    (htoken : auth.token = reservation.token) {now : Instant}
    (htime : ((s.agents address).queue.advance now).now < reservation.timeout) :
    ∃ t player, runAll (step d) [.agent address .connect,
        .agent address (.authenticate (s.agents address).clients.length auth now)] s = some t ∧
      (t.agents address).clients = (s.agents address).clients ++ [player] ∧
      player.user = some reservation.content := by
  have hfind : (unexpired ((s.agents address).queue.advance now).now
      (s.agents address).queue.reservations).find? (·.token == auth.token) = some reservation := by
    have hlast : unexpired ((s.agents address).queue.advance now).now [reservation] = [reservation] :=
      List.filter_cons_of_pos (by simpa using htime)
    rw [hres, unexpired, List.filter_append, List.find?_append, htoken]
    rw [unexpired] at hlast
    rw [hlast, List.find?_eq_none.2 fun other hother => ?_]
    · simp
    · exact List.any_eq_false.1 hfree other (List.mem_of_mem_filter hother)
  obtain ⟨queue, -, ⟨found, hfound, hturn, -⟩ | ⟨hnone, -⟩⟩ :=
    authenticate_cases now auth .accepted (s.agents address).queue
  · obtain rfl : reservation = found := Option.some_inj.1 (hfind.symm.trans hfound)
    let player := LoginClient.accepted.becomePlaying {} reservation.content
    let connected := s.setAgent address
      { s.agents address with clients := (s.agents address).clients ++ [.accepted] }
    have hfirst : step d (.agent address .connect) s = some connected :=
      step_agent hconfig (fun _ _ _ _ heq => by cases heq) rfl
    have hagent : connected.agents address =
        { s.agents address with clients := (s.agents address).clients ++ [.accepted] } :=
      setAgent_agents_self _ _ _
    have hevent := LoginServer.step_authenticate_eq d.profile config.maxPlayers config.reservationValidTime
      (s.agents address).clients [] (show LoginClient.accepted.playing = none from rfl) auth now
      (s.agents address).queue
    rw [hturn] at hevent
    rw [← hagent] at hevent
    let redeemed := connected.setAgent address ⟨queue, (s.agents address).clients ++ [player]⟩
    have hsecond : step d (.agent address (.authenticate (s.agents address).clients.length auth now)) connected =
        some redeemed := step_agent hconfig (fun _ _ _ _ heq => by cases heq) hevent
    refine ⟨redeemed, player, ?_, ?_, rfl⟩
    · rw [runAll_cons, hfirst, Option.bind_some, runAll_singleton, hsecond]
    · exact congrArg LoginServer.clients (setAgent_agents_self _ _ _)
  · cases hfind.symm.trans hnone

end Login

/-- The user of an account is found. -/
theorem exists_fetch {users : Users} {row : Account} (hrow : row ∈ users.rows) (userServers : List UserServer)
    (server : UInt16) : ∃ user, (fetch users userServers row.id.toUInt32 server).1 = some user ∧
      user.id = row.id ∧ user.username = row.username := by
  cases hfetch : (fetch users userServers row.id.toUInt32 server).1 with
  | none =>
      rw [fetch] at hfetch
      split at hfetch
      · rename_i hnone
        exact absurd (List.find?_eq_none.1 hnone row hrow) (by simp)
      · split at hfetch <;> cases hfetch
  | some user =>
      obtain ⟨row', hrow', hid', hid, hname⟩ := fetch_some hfetch
      rw [Int32.toInt32_toUInt32] at hid hid'
      obtain rfl := Users.eq_of_id hrow' hrow hid'
      exact ⟨user, rfl, hid, hname⟩

/-- **With the right credentials a client gets a token if there is a spot, and who hands it in in time becomes
a player with the account.** -/
theorem login_succeeds {users : Users} {userServers : List UserServer} {now : Instant} {events : List Event}
    (houtside : ∀ e ∈ events, e.Outside d)
    (hrun : runAll (step d) events (start users userServers now) = some s) {i : ℕ} {client : GatewayClient}
    {row : Account} {login : LoginRequest} {input : SecurityCodeInput} {server : AgentServer}
    {config : AgentConfig} {readings : Readings} (hclient : s.clients[i]? = some client)
    (hreading : client.task = .reading) (hrow : row ∈ s.users.rows)
    (haccepts : row.Accepts d.verify login.username login.password)
    (hcode : ∀ code, row.passcode = some code →
      decodePasscode d.decryptBlock input.innerSize input.data = .ok code)
    (hserver : findServer s.servers login.shardId = some server)
    (hconfig : d.agents server.rpcAddress = some config) (htoken : server.token = config.token)
    (hvalid : 0 < config.reservationValidTime.toNat) (hdatabase : readings.databaseFails = false)
    (hnone : ∀ reservation ∈ unexpired ((s.agents server.rpcAddress).queue.advance readings.now).now
      (s.agents server.rpcAddress).queue.reservations, reservation.content.id ≠ row.id)
    (hspot : HasSpot config.maxPlayers readings.draws readings.now (s.agents server.rpcAddress).queue) :
    ∃ t token client', runAll (step d) (enter i row login input ++ s.obtain i readings) s = some t ∧
      t.clients[i]? = some client' ∧ client'.told = client.told ++ [(token, server.address)] ∧
      ∀ auth instant, auth.token = token →
        ((t.agents server.rpcAddress).queue.advance instant).now <
          readings.later + fromSecs config.reservationValidTime →
        ∃ u player user, runAll (step d) [.agent server.rpcAddress .connect, .agent server.rpcAddress
            (.authenticate (t.agents server.rpcAddress).clients.length auth instant)] t = some u ∧
          (u.agents server.rpcAddress).clients = (t.agents server.rpcAddress).clients ++ [player] ∧
          player.user = some user ∧ user.id = row.id ∧ user.username = row.username := by
  obtain ⟨entered, henter, htask, htold⟩ := runAll_enter hclient hreading hrow haccepts hcode
  have hpackets : ∀ e ∈ enter i row login input, ∃ packet, e = .packet i packet := by
    intro e he
    rcases List.mem_cons.1 he with rfl | he
    · exact ⟨_, rfl⟩
    · split at he
      · exact ⟨_, List.mem_singleton.1 he⟩
      · cases he
  have hinv : Inv d (fun _ => True) (events ++ enter i row login input) (s.setClient i entered) := by
    refine inv_run _ (fun e he => ?_) (by rw [runAll_append, hrun, Option.bind_some, henter])
    rcases List.mem_append.1 he with he | he
    · exact ⟨houtside e he, fun _ _ _ _ => trivial⟩
    · obtain ⟨packet, rfl⟩ := hpackets e he
      exact ⟨trivial, fun _ _ _ _ => trivial⟩
  obtain ⟨user, hfetch, hid, hname⟩ := exists_fetch hrow s.userServers config.serverId
  have hfree : (unexpired ((s.agents server.rpcAddress).queue.advance readings.now).now
      (s.agents server.rpcAddress).queue.reservations).any (·.content == user) = false := by
    refine List.any_eq_false.2 fun reservation hreservation heq => hnone reservation hreservation ?_
    exact (LoginServer.beq_user_iff.1 heq).1.trans hid
  have hentered := setClient_clients_self (List.getElem?_eq_some_iff.1 hclient).1 entered
  obtain ⟨t, client', reservation, hobtain, hclient', htold', rfl, ⟨pending, hres, hpending⟩, htimeout⟩ :=
    runAll_obtain hinv hentered htask hserver hconfig htoken hvalid hdatabase hfetch hfree hspot
  refine ⟨t, reservation.token, client', ?_, hclient', htold'.trans (by rw [htold]), ?_⟩
  · rw [runAll_append, henter]
    exact hobtain
  · intro auth instant hauth htime
    obtain ⟨u, player, hredeem, hplayer, huser⟩ :=
      runAll_redeem hconfig hres hpending hauth (htime.trans_le htimeout)
    exact ⟨u, player, reservation.content, hredeem, hplayer, huser, hid, hname⟩

theorem oneClient_outside : ∀ e ∈ oneClient, e.Outside oneAgent := fun e he =>
  oneLogin_outside e (List.mem_append_left _ he)

/-- The client can log in, and gets a token with which its user can play. -/
theorem oneClient_succeeds :
    ∃ s t token client, runAll (step oneAgent) oneClient (start oneAccount [] 0) = some s ∧
      runAll (step oneAgent) (enter 0 firstAccount firstLogin firstInput ++ s.obtain 0 firstReadings) s = some t ∧
      t.clients[0]? = some client ∧ client.told = [(token, firstServer.address)] := by
  obtain ⟨s, hs⟩ := Option.isSome_iff_exists.1
    (show (runAll (step oneAgent) oneClient (start oneAccount [] 0)).isSome = true from rfl)
  have hparts : (runAll (step oneAgent) oneClient (start oneAccount [] 0)).map
      (fun s => (s.clients, s.servers, s.users.rows, (s.agents firstServer.rpcAddress).queue)) =
        some ([.accepted], [firstServer], [firstAccount], .new 0) := rfl
  rw [hs, Option.map_some, Option.some_inj] at hparts
  obtain ⟨hclients, hparts⟩ := Prod.mk.inj hparts
  obtain ⟨hservers, hparts⟩ := Prod.mk.inj hparts
  obtain ⟨hrows, hqueue⟩ := Prod.mk.inj hparts
  have hclient : s.clients[0]? = some .accepted := by rw [hclients]; rfl
  have hrow : firstAccount ∈ s.users.rows := by rw [hrows]; exact List.mem_singleton_self _
  have haccepts : firstAccount.Accepts oneAgent.verify firstLogin.username firstLogin.password :=
    ⟨rfl, by decide⟩
  have hcode : ∀ code, firstAccount.passcode = some code →
      decodePasscode oneAgent.decryptBlock firstInput.innerSize firstInput.data = .ok code := nofun
  have hserver : findServer s.servers firstLogin.shardId = some firstServer := by rw [hservers]; rfl
  have hconfig : oneAgent.agents firstServer.rpcAddress = some ⟨1, "token", 2, 30⟩ := rfl
  have hnone : ∀ reservation ∈ unexpired ((s.agents firstServer.rpcAddress).queue.advance firstReadings.now).now
      (s.agents firstServer.rpcAddress).queue.reservations, reservation.content.id ≠ firstAccount.id := by
    rw [hqueue]
    exact nofun
  have hspot : HasSpot 2 firstReadings.draws firstReadings.now (s.agents firstServer.rpcAddress).queue := by
    rw [hqueue]
    exact ⟨by decide, by decide⟩
  obtain ⟨t, token, client, hrun, hclient', htold, -⟩ := login_succeeds oneClient_outside hs hclient rfl hrow
    haccepts hcode hserver hconfig rfl (by decide) rfl hnone hspot
  exact ⟨s, t, token, client, hs, hrun, hclient', htold⟩

end System

end Skrillax.Gateway

/-
**Who gets into the game.**

A reservation at an agent server is made upon a request that shows the server's token.  The gateway makes such
requests only for accounts that a client has proved to be its own, so that nobody else gets a reservation, or
plays, in any order of what the parties do.  The invariant carries this through the tasks of the gateway, the
requests and the answers on their way, and the queues of the agent servers.

Main definitions:

* `System.ClientOk`, `System.RequestOk`, `System.ResponseOk`, `System.GrantOk`, `System.AgentOk` — what holds
  of the parts of the system;
* `System.Inv`, `System.Extends` — the invariant, and what a step does not take back.

Main results:

* `System.inv_step`, `System.inv_run` — a step keeps the invariant, and so does a run;
* `System.sessions_authenticated` — **in every run, whoever has a reservation or plays at an agent server has
  an account whose password, and passcode if there is one, was given to the gateway before**;
* `System.told_for_own_account` — **a token that a client is told was granted for an account that the client
  proved to be its own, at the server whose address it is told**.
-/

import Skrillax.LoginSystem

set_option relaxedAutoImplicit false
set_option autoImplicit false

namespace Skrillax.Gateway

open Rust PartialAction Interference

/-! ### Sessions at an agent server -/

theorem sessions_of_event {profile : Profile} {max : UInt16} {validTime : UInt64} {e : LoginEvent}
    {s t : LoginServer} (hrequest : ∀ draws user now later, e ≠ .request draws user now later)
    (h : LoginServer.step profile max validTime e s = some t) : t.sessions ⊆ s.sessions := by
  cases e with
  | connect =>
      cases h
      rw [LoginServer.sessions, LoginServer.connected_connect]
      exact List.Subset.refl _
  | request draws user now later => exact absurd rfl (hrequest draws user now later)
  | authenticate i auth now =>
      rcases LoginServer.step_authenticate h with rfl | ⟨client, hclient, hplaying, ht⟩
      · exact List.Subset.refl _
      · exact (LoginServer.authenticate_sessions hclient hplaying auth now ht).1.subset
  | disconnect i =>
      obtain ⟨client, -, rfl⟩ := LoginServer.step_disconnect h
      have hconnected := (List.eraseIdx_sublist s.clients i).filterMap LoginClient.user
      refine List.append_subset.2 ⟨?_, List.Subset.trans hconnected.subset (List.subset_append_right _ _)⟩
      dsimp only
      split <;> exact List.subset_append_left _ _

theorem sessions_of_reserveAt {profile : Profile} {max : UInt16} {validTime : UInt64} (draws : ℕ → UInt32)
    (user : ServerUser) (now later : Instant) (s : LoginServer) :
    let t := { s with queue := (reserveAt profile max validTime draws user now later s.queue).2 }
    t.sessions ⊆ user :: s.sessions := by
  intro t
  have hunexpired (instant : Instant) : ((unexpired instant s.queue.reservations).map Reservation.content) ⊆
      s.queue.reservations.map Reservation.content :=
    (List.filter_sublist.map Reservation.content).subset
  have hreservations : (t.queue.reservations.map Reservation.content) ⊆
      user :: s.queue.reservations.map Reservation.content := by
    cases exec_reserveSpot (Interference.Exec.of_runWith
      (fun n => queueRely_advance (if n = 0 then now else later)) 0
      (reserveSpot profile max validTime draws user) s.queue) with
    | failed instant _ _ _ hres _ =>
        show ((reserveAt profile max validTime draws user now later s.queue).2.reservations.map _) ⊆ _
        rw [reserveAt, hres]
        exact List.Subset.trans (hunexpired instant) (List.subset_cons_self _ _)
    | made instant instant' _ _ _ _ token spotToken _ _ hres _ =>
        show ((reserveAt profile max validTime draws user now later s.queue).2.reservations.map _) ⊆ _
        rw [reserveAt, hres, List.map_append]
        refine List.append_subset.2 ⟨List.Subset.trans (hunexpired instant) (List.subset_cons_self _ _), ?_⟩
        simp
  refine List.append_subset.2 ⟨List.Subset.trans hreservations ?_, ?_⟩
  · exact List.cons_subset_cons _ (List.subset_append_left _ _)
  · exact List.Subset.trans (List.subset_append_right _ _) (List.subset_cons_self _ _)

/-! ### The invariant -/

namespace System

section Invariant

variable (d : Deployment) (Known : AgentServer → Prop) (events : List Event)

/-- An address and an endpoint that the lists give for servers of the same identifier. -/
def Beside (server : SocketAddr) (endpoint : String) : Prop :=
  ∃ a b, Known a ∧ Known b ∧ a.id = b.id ∧ a.address = server ∧ b.rpcAddress = endpoint

/-- What is known of the request of a number: who made it and for which server. -/
structure Backed (s : System) (number : Option ℕ) (endpoint : String) (i : ℕ) (server : SocketAddr) :
    Prop where
  asked : ∃ n, number = some n ∧ s.asked[n]? = some (i, server)
  beside : Beside Known server endpoint

/-- What holds of the client at a position. -/
structure ClientOk (s : System) (i : ℕ) (client : GatewayClient) : Prop where
  credentials : ∀ credentials, client.lastCredentials = some credentials →
    ∃ login, .packet i (.loginRequest login) ∈ events ∧
      credentials = ⟨login.username, login.password, login.shardId⟩
  reserving : ∀ userId credentials, client.task = .reserving userId credentials →
    Owns d.toEnvironment events s.users i userId
  detailed : ∀ userId credentials server, client.task = .detailed userId credentials server →
    Owns d.toEnvironment events s.users i userId ∧
      ∃ a, Known a ∧ a.id = credentials.shard ∧ a.address = server
  waiting : ∀ server n, client.task = .waiting server n → s.asked[n]? = some (i, server)
  told : ∀ token server, (token, server) ∈ client.told → ∃ grant ∈ s.grants, grant.token = token ∧
    OwnsUser d.toEnvironment events s.users i grant.user ∧ Beside Known server grant.address

/-- A request that shows the token of the endpoint was made by a client for an account of its own. -/
structure RequestOk (s : System) (request : SpotRequest) : Prop where
  numbered : ∀ n, request.number = some n → n < s.asked.length
  backed : ∀ config, d.agents request.address = some config → request.header = some (some config.token) →
    ∃ i server, Backed Known s request.number request.address i server ∧
      Owns d.toEnvironment events s.users i request.body.userId

def GrantOk (s : System) (grant : Grant) : Prop :=
  ∃ i server, Backed Known s grant.number grant.address i server ∧
    OwnsUser d.toEnvironment events s.users i grant.user

/-- A token on its way has been granted. -/
structure ResponseOk (s : System) (response : ℕ × ReserveResponse) : Prop where
  numbered : response.1 < s.asked.length
  granted : ∀ token alive, response.2 = .success token alive →
    ∃ grant ∈ s.grants, grant.number = some response.1 ∧ grant.token = token

/-- The sessions at an agent server are of users who own their accounts, and its counters are right. -/
structure AgentOk (s : System) (address : String) (agent : LoginServer) : Prop where
  sessions : ∀ user ∈ agent.sessions, ∃ i, OwnsUser d.toEnvironment events s.users i user
  consistent : ∀ config, d.agents address = some config → agent.Consistent config.maxPlayers

/-- What holds in every state that a run leads to. -/
structure Inv (s : System) : Prop where
  servers : ∀ server ∈ s.servers, Known server
  clients : ∀ i client, s.clients[i]? = some client → ClientOk d Known events s i client
  requests : ∀ request ∈ s.requests, RequestOk d Known events s request
  responses : ∀ response ∈ s.responses, ResponseOk s response
  grants : ∀ grant ∈ s.grants, GrantOk d Known events s grant
  agents : ∀ address, AgentOk d events s address (s.agents address)

end Invariant

/-- What is never taken back: accounts, the numbers of the requests, and what has been granted. -/
structure Extends (s t : System) : Prop where
  users : s.users.rows ⊆ t.users.rows
  asked : s.asked <+: t.asked
  grants : s.grants ⊆ t.grants

variable {d : Deployment} {Known : AgentServer → Prop} {events events' : List Event} {s t : System}

theorem Extends.of_eq (husers : t.users = s.users) (hasked : t.asked = s.asked) (hgrants : t.grants = s.grants) :
    Extends s t :=
  ⟨by rw [husers]; exact List.Subset.refl _, by rw [hasked], by rw [hgrants]; exact List.Subset.refl _⟩

section Mono

variable (hevents : events.Sublist events') (hext : Extends s t)

include hevents hext

theorem owns_mono {i : ℕ} {userId : UInt32} (h : Owns d.toEnvironment events s.users i userId) :
    Owns d.toEnvironment events' t.users i userId := by
  obtain ⟨row, hrow, hid, hgave⟩ := h
  exact ⟨row, hext.users hrow, hid, hgave.mono hevents⟩

theorem ownsUser_mono {i : ℕ} {user : ServerUser} (h : OwnsUser d.toEnvironment events s.users i user) :
    OwnsUser d.toEnvironment events' t.users i user := by
  obtain ⟨row, hrow, hid, hname, hgave⟩ := h
  exact ⟨row, hext.users hrow, hid, hname, hgave.mono hevents⟩

omit hevents in
theorem asked_mono {n : ℕ} {x : ℕ × SocketAddr} (h : s.asked[n]? = some x) : t.asked[n]? = some x := by
  obtain ⟨rest, hrest⟩ := hext.asked
  obtain ⟨hn, rfl⟩ := List.getElem?_eq_some_iff.1 h
  rw [← hrest, List.getElem?_append_left hn, List.getElem?_eq_getElem hn]

omit hevents in
theorem backed_mono {number : Option ℕ} {endpoint : String} {i : ℕ} {server : SocketAddr}
    (h : Backed Known s number endpoint i server) : Backed Known t number endpoint i server := by
  obtain ⟨n, hnumber, hasked⟩ := h.asked
  exact ⟨⟨n, hnumber, asked_mono hext hasked⟩, h.beside⟩

theorem ClientOk.mono {i : ℕ} {client : GatewayClient} (h : ClientOk d Known events s i client) :
    ClientOk d Known events' t i client where
  credentials credentials hcredentials := by
    obtain ⟨login, hlogin, heq⟩ := h.credentials credentials hcredentials
    exact ⟨login, hevents.subset hlogin, heq⟩
  reserving userId credentials htask := owns_mono hevents hext (h.reserving userId credentials htask)
  detailed userId credentials server htask :=
    (h.detailed userId credentials server htask).imp_left (owns_mono hevents hext)
  waiting server n htask := asked_mono hext (h.waiting server n htask)
  told token server htold := by
    obtain ⟨grant, hgrant, htoken, howns, hbeside⟩ := h.told token server htold
    exact ⟨grant, hext.grants hgrant, htoken, ownsUser_mono hevents hext howns, hbeside⟩

theorem requestOk_mono {request : SpotRequest} (h : RequestOk d Known events s request) :
    RequestOk d Known events' t request where
  numbered n hn := (h.numbered n hn).trans_le hext.asked.length_le
  backed config hconfig hheader := by
    obtain ⟨i, server, hbacked, howns⟩ := h.backed config hconfig hheader
    exact ⟨i, server, backed_mono hext hbacked, owns_mono hevents hext howns⟩

theorem grantOk_mono {grant : Grant} (h : GrantOk d Known events s grant) :
    GrantOk d Known events' t grant := by
  obtain ⟨i, server, hbacked, howns⟩ := h
  exact ⟨i, server, backed_mono hext hbacked, ownsUser_mono hevents hext howns⟩

omit hevents in
theorem responseOk_mono {response : ℕ × ReserveResponse} (h : ResponseOk s response) :
    ResponseOk t response where
  numbered := h.numbered.trans_le hext.asked.length_le
  granted token alive hresponse := by
    obtain ⟨grant, hgrant, hnumber⟩ := h.granted token alive hresponse
    exact ⟨grant, hext.grants hgrant, hnumber⟩

end Mono

theorem AgentOk.mono {address : String} {agent : LoginServer} (h : AgentOk d events s address agent)
    (hevents : events.Sublist events') (hext : Extends s t) : AgentOk d events' t address agent :=
  ⟨fun user huser => (h.sessions user huser).imp fun _ => ownsUser_mono hevents hext, h.consistent⟩

/-- The invariant after a step, if it holds of what the step adds. -/
theorem Inv.of_extends (h : Inv d Known events s) (hevents : events.Sublist events') (hext : Extends s t)
    (hservers : ∀ server ∈ t.servers, server ∈ s.servers ∨ Known server)
    (hclients : ∀ i client, t.clients[i]? = some client →
      s.clients[i]? = some client ∨ ClientOk d Known events' t i client)
    (hrequests : ∀ request ∈ t.requests, request ∈ s.requests ∨ RequestOk d Known events' t request)
    (hresponses : ∀ response ∈ t.responses, response ∈ s.responses ∨ ResponseOk t response)
    (hgrants : ∀ grant ∈ t.grants, grant ∈ s.grants ∨ GrantOk d Known events' t grant)
    (hagents : ∀ address, t.agents address = s.agents address ∨
      AgentOk d events' t address (t.agents address)) : Inv d Known events' t where
  servers server hserver := (hservers server hserver).elim (h.servers server) id
  clients i client hclient := (hclients i client hclient).elim
    (fun hold => (h.clients i client hold).mono hevents hext) id
  requests request hrequest := (hrequests request hrequest).elim
    (fun hold => requestOk_mono hevents hext (h.requests request hold)) id
  responses response hresponse := (hresponses response hresponse).elim
    (fun hold => responseOk_mono hext (h.responses response hold)) id
  grants grant hgrant := (hgrants grant hgrant).elim
    (fun hold => grantOk_mono hevents hext (h.grants grant hold)) id
  agents address := (hagents address).elim
    (fun hold => hold ▸ (h.agents address).mono hevents hext) id

/-! ### Steps of the clients' tasks -/

theorem getElem?_set_cases {α : Type} {l : List α} {i j : ℕ} {a b : α} (h : (l.set i a)[j]? = some b) :
    l[j]? = some b ∨ (j = i ∧ b = a) := by
  rw [List.getElem?_set] at h
  split at h
  · rename_i hij
    split at h
    · exact Or.inr ⟨hij.symm, (Option.some_inj.1 h).symm⟩
    · cases h
  · exact Or.inl h

/-- The task of one client goes on. -/
theorem Inv.setClient (h : Inv d Known events s) (hevents : events.Sublist events') {i : ℕ}
    {client : GatewayClient} (hok : ClientOk d Known events' s i client) :
    Inv d Known events' (s.setClient i client) := by
  have hext : Extends s (s.setClient i client) := .of_eq rfl rfl rfl
  refine h.of_extends hevents hext (fun _ => Or.inl) (fun j client' hclient' => ?_) (fun _ => Or.inl)
    (fun _ => Or.inl) (fun _ => Or.inl) (fun _ => Or.inl rfl)
  obtain hold | ⟨rfl, rfl⟩ := getElem?_set_cases hclient'
  · exact Or.inl hold
  · exact Or.inr (hok.mono (List.Sublist.refl _) hext)

/-- A task that waits for a packet, or has ended. -/
def Idle (client : GatewayClient) : Prop := client.task = .reading ∨ client.task = .closed

/-- A client without obligations. -/
theorem ClientOk.of_idle {i : ℕ} {client client' : GatewayClient} (h : ClientOk d Known events s i client)
    (hidle : Idle client') (hcredentials : client'.lastCredentials = client.lastCredentials)
    (htold : client'.told = client.told) : ClientOk d Known events s i client' where
  credentials := by rw [hcredentials]; exact h.credentials
  reserving userId credentials htask := by rcases hidle with hidle | hidle <;> cases hidle.symm.trans htask
  detailed userId credentials server htask := by
    rcases hidle with hidle | hidle <;> cases hidle.symm.trans htask
  waiting server n htask := by rcases hidle with hidle | hidle <;> cases hidle.symm.trans htask
  told := by rw [htold]; exact h.told

/-- A task that ends, or goes back to reading, without a token. -/
theorem Inv.idle (h : Inv d Known events s) (hevents : events.Sublist events') {i : ℕ}
    {client client' : GatewayClient} (hclient : s.clients[i]? = some client) (hidle : Idle client')
    (hcredentials : client'.lastCredentials = client.lastCredentials) (htold : client'.told = client.told) :
    Inv d Known events' (s.setClient i client') :=
  h.setClient hevents (((h.clients i client hclient).mono hevents (.of_eq rfl rfl rfl)).of_idle hidle
    hcredentials htold)

theorem clientOk_accepted (i : ℕ) : ClientOk d Known events s i .accepted where
  credentials := nofun
  reserving := nofun
  detailed := nofun
  waiting := nofun
  told := nofun

/-- A client whose packet has been handled. -/
theorem ClientOk.handles {i : ℕ} {client client' : GatewayClient} {packet : GatewayPacket}
    (h : ClientOk d Known events s i client) (hreading : client.task = .reading)
    (hhandles : GatewayClient.Handles d.toEnvironment s.users client packet client') :
    ClientOk d Known (events ++ [.packet i packet]) s i client' := by
  have hold := h.mono (List.sublist_append_left events [.packet i packet]) (.of_eq rfl rfl rfl)
  have hlast : Event.packet i packet ∈ events ++ [.packet i packet] := by simp
  constructor
  · intro credentials hcredentials
    rcases hhandles.credentials with heq | ⟨login, rfl, heq⟩
    · exact hold.credentials credentials (heq.symm.trans hcredentials)
    · exact ⟨login, hlast, (Option.some_inj.1 (heq.symm.trans hcredentials)).symm⟩
  · intro userId credentials htask
    rcases hhandles.task with heq | ⟨row, credentials', hproves, -, heq⟩
    · cases (heq.trans hreading).symm.trans htask
    · obtain ⟨rfl, rfl⟩ : row.id.toUInt32 = userId ∧ credentials' = credentials := by
        rw [heq] at htask
        cases htask
        exact ⟨rfl, rfl⟩
      cases hproves with
      | password login hrow haccepts hpasscode =>
          exact ⟨row, hrow, rfl, .password login hlast haccepts hpasscode⟩
      | passcode input _ code hprevious hrow haccepts hpasscode hdecode =>
          obtain ⟨login, hlogin, rfl⟩ := h.credentials _ hprevious
          refine ⟨row, hrow, rfl, .passcode login input code ?_ haccepts hpasscode hdecode⟩
          exact (List.singleton_sublist.2 hlogin).append (List.Sublist.refl _)
  · intro userId credentials server htask
    rcases hhandles.task with heq | ⟨row, credentials', -, -, heq⟩
    · cases (heq.trans hreading).symm.trans htask
    · cases heq.symm.trans htask
  · intro server n htask
    rcases hhandles.task with heq | ⟨row, credentials', -, -, heq⟩
    · cases (heq.trans hreading).symm.trans htask
    · cases heq.symm.trans htask
  · rw [hhandles.told]
    exact hold.told

/-! ### Steps of the endpoints -/

theorem fetch_some {users : Users} {userServers : List UserServer} {id : UInt32} {server : UInt16}
    {user : ServerUser} (h : (fetch users userServers id server).1 = some user) :
    ∃ row ∈ users.rows, row.id = id.toInt32 ∧ user.id = id.toInt32 ∧ user.username = row.username := by
  rw [fetch] at h
  split at h
  · cases h
  · rename_i row hfind
    have hid : row.id = id.toInt32 := by simpa using List.find?_some hfind
    refine ⟨row, List.mem_of_find?_eq_some hfind, hid, ?_⟩
    split at h <;> cases h <;> exact ⟨rfl, rfl⟩

/-- The user who is fetched has the account that was asked for. -/
theorem ownsUser_of_fetch {env : Environment} {users : Users} {userServers : List UserServer} {i : ℕ}
    {id : UInt32} {server : UInt16} {user : ServerUser} (h : Owns env events users i id)
    (hfetch : (fetch users userServers id server).1 = some user) : OwnsUser env events users i user := by
  obtain ⟨row, hrow, rfl, hgave⟩ := h
  obtain ⟨row', hrow', hid', hid, hname⟩ := fetch_some hfetch
  rw [Int32.toInt32_toUInt32] at hid hid'
  obtain rfl := Users.eq_of_id hrow' hrow hid'
  exact ⟨row', hrow, hid.symm, hname.symm, hgave⟩

theorem authorize_ok_iff {config : AgentConfig} {header : TokenHeader} :
    authorize config header = .ok () ↔ header = some (some config.token) := by
  obtain _ | _ | passed := header
  · exact ⟨nofun, nofun⟩
  · exact ⟨nofun, nofun⟩
  · rw [authorize]
    split
    · rename_i hne
      exact ⟨nofun, fun h => absurd (Option.some_inj.1 (Option.some_inj.1 h)) hne⟩
    · rename_i heq
      exact ⟨fun _ => by rw [not_not.1 heq], fun _ => rfl⟩

/-- What the endpoint does: nothing, or it has a spot reserved for the user who is asked for, upon a request
that shows the token. -/
theorem handleSpotRequest_cases (profile : Profile) (config : AgentConfig) (users : Users)
    (userServers : List UserServer) (header : TokenHeader) (body : ReserveRequest) (readings : Readings)
    (queue : QueueState) :
    let r := handleSpotRequest profile config users userServers header body readings queue
    (r.2.1 = queue ∧ ∀ token alive, r.1 ≠ some (.success token alive)) ∨
      (header = some (some config.token) ∧
        ∃ user, (fetch users userServers body.userId config.serverId).1 = some user ∧
          r.2.1 = (reserveAt profile config.maxPlayers config.reservationValidTime readings.draws user
            readings.now readings.later queue).2) := by
  intro r
  simp only [r, handleSpotRequest]
  split
  · rename_i response hauthorize
    refine Or.inl ⟨rfl, fun token alive h => ?_⟩
    obtain rfl := Option.some_inj.1 h
    obtain _ | _ | passed := header <;> rw [authorize] at hauthorize <;> try cases hauthorize
    split at hauthorize <;> cases hauthorize
  · rename_i hauthorize
    split
    · exact Or.inl ⟨rfl, nofun⟩
    · split
      · exact Or.inl ⟨rfl, nofun⟩
      · rename_i user userServers' hfetch
        refine Or.inr ⟨authorize_ok_iff.1 hauthorize, user, by rw [hfetch], ?_⟩
        split <;> rename_i hreserve <;> rw [hreserve]

theorem arrive_extends (config : AgentConfig) (request : SpotRequest) (readings : Readings) (s : System) :
    Extends s (s.arrive d config request readings) :=
  ⟨List.Subset.refl _, List.prefix_refl _, List.subset_append_left _ _⟩

theorem arrive_agents_self (config : AgentConfig) (request : SpotRequest) (readings : Readings) (s : System) :
    (s.arrive d config request readings).agents request.address =
      { s.agents request.address with
        queue := (handleSpotRequest d.profile config s.users s.userServers request.header request.body readings
          (s.agents request.address).queue).2.1 } :=
  Function.update_self _ _ _

theorem arrive_agents_of_ne {config : AgentConfig} {request : SpotRequest} {readings : Readings}
    {address : String} (h : address ≠ request.address) :
    (s.arrive d config request readings).agents address = s.agents address :=
  Function.update_of_ne h _ _

/-- A request arrives. -/
theorem Inv.arrive (h : Inv d Known events s) (hevents : events.Sublist events') {config : AgentConfig}
    {request : SpotRequest} (hconfig : d.agents request.address = some config)
    (hrequest : RequestOk d Known events s request) (readings : Readings) :
    Inv d Known events' (s.arrive d config request readings) := by
  have hext := arrive_extends (d := d) config request readings s
  have hcases := handleSpotRequest_cases d.profile config s.users s.userServers request.header request.body
    readings (s.agents request.address).queue
  refine h.of_extends hevents hext (fun _ => Or.inl) (fun _ _ => Or.inl) (fun _ => Or.inl) ?_ ?_ ?_
  · rintro ⟨number, response⟩ hresponse
    refine (List.mem_append.1 hresponse).imp_right fun hanswer => ?_
    obtain ⟨hnumber, heq⟩ := SpotRequest.mem_answers_iff.1 hanswer
    refine ⟨hrequest.numbered number hnumber, ?_⟩
    rintro token alive rfl
    obtain ⟨-, hnone⟩ | ⟨-, user, hfetch, -⟩ := hcases
    · exact absurd heq (hnone token alive)
    · refine ⟨⟨request.number, request.address, token, user⟩, List.mem_append_right _ ?_, hnumber, rfl⟩
      exact SpotRequest.mem_granted_iff.2 ⟨token, alive, user, heq, hfetch, rfl⟩
  · intro grant hgrant
    refine (List.mem_append.1 hgrant).imp_right fun hgranted => ?_
    obtain ⟨token, alive, user, heq, hfetch, rfl⟩ := SpotRequest.mem_granted_iff.1 hgranted
    obtain ⟨-, hnone⟩ | ⟨hheader, -, -, -⟩ := hcases
    · exact absurd heq (hnone token alive)
    · obtain ⟨i, server, hbacked, howns⟩ := hrequest.backed config hconfig hheader
      refine ⟨i, server, backed_mono hext hbacked, ?_⟩
      exact ownsUser_mono hevents hext (ownsUser_of_fetch howns hfetch)
  · intro address
    by_cases haddress : address = request.address
    · subst haddress
      have hold := (h.agents request.address).mono hevents hext
      rw [arrive_agents_self]
      obtain ⟨hqueue, -⟩ | ⟨hheader, user, hfetch, hqueue⟩ := hcases
      · rw [hqueue]
        exact Or.inl rfl
      · rw [hqueue]
        refine Or.inr ⟨fun user' huser' => ?_, fun config' hconfig' => ?_⟩
        · rcases List.mem_cons.1 (sessions_of_reserveAt _ user _ _ _ huser') with rfl | huser'
          · obtain ⟨i, server, -, howns⟩ := hrequest.backed config hconfig hheader
            exact ⟨i, ownsUser_mono hevents hext (ownsUser_of_fetch howns hfetch)⟩
          · exact hold.sessions user' huser'
        · obtain rfl := Option.some_inj.1 (hconfig.symm.trans hconfig')
          have hcons := hold.consistent config hconfig
          exact ⟨LoginServer.lockFree_reserveAt hcons.lockFree _ user _ _,
            (reserveAt_cases d.profile _ hcons.lockFree _ user _ _).1.trans hcons.players⟩
    · exact Or.inl (arrive_agents_of_ne haddress)

/-! ### Every step -/

/-- The condition under which an event keeps the invariant. -/
structure Proper (d : Deployment) (Known : AgentServer → Prop) (e : Event) : Prop where
  outside : e.Outside d
  known : ∀ servers, e = .poll servers → ∀ server ∈ servers, Known server

/-- One client is replaced, in a state that has been extended. -/
theorem Inv.replace (h : Inv d Known events s) (hevents : events.Sublist events') {i : ℕ}
    {client : GatewayClient} (hsets : t.clients = s.clients.set i client) (hext : Extends s t)
    (hservers : t.servers = s.servers) (hagents : t.agents = s.agents) (hgrants : t.grants = s.grants)
    (hresponses : t.responses ⊆ s.responses) (hok : ClientOk d Known events' t i client)
    (hrequests : ∀ request ∈ t.requests, request ∈ s.requests ∨ RequestOk d Known events' t request) :
    Inv d Known events' t := by
  refine h.of_extends hevents hext (fun server hserver => Or.inl (hservers ▸ hserver))
    (fun j client' hclient' => ?_) hrequests (fun response hresponse => Or.inl (hresponses hresponse))
    (fun grant hgrant => Or.inl (hgrants ▸ hgrant)) (fun address => Or.inl (hagents ▸ rfl))
  rw [hsets] at hclient'
  obtain hold | ⟨rfl, rfl⟩ := getElem?_set_cases hclient'
  · exact Or.inl hold
  · exact Or.inr hok

section Steps

variable (h : Inv d Known events s)

include h

/-- A packet is handled. -/
theorem Inv.packet_step {i : ℕ} {packet : GatewayPacket}
    (hstep : step d (.packet i packet) s = some t) : Inv d Known (events ++ [.packet i packet]) t := by
  have hevents : events.Sublist (events ++ [.packet i packet]) := List.sublist_append_left _ _
  obtain ⟨client, hclient, hstep⟩ := Option.bind_eq_some_iff.1 hstep
  split at hstep
  · rename_i hreading
    split at hstep
    · rename_i client' hhandle
      obtain rfl := Option.some_inj.1 hstep
      refine h.setClient hevents ?_
      exact (h.clients i client hclient).handles hreading (GatewayClient.handles_handlePacket hhandle)
    · obtain rfl := Option.some_inj.1 hstep
      exact h.idle hevents hclient (Or.inr rfl) rfl rfl
  · cases hstep

/-- The address of the server is looked up. -/
theorem Inv.serverDetails_step {i : ℕ}
    (hstep : step d (.serverDetails i) s = some t) : Inv d Known (events ++ [.serverDetails i]) t := by
  have hevents : events.Sublist (events ++ [.serverDetails i]) := List.sublist_append_left _ _
  obtain ⟨client, hclient, hstep⟩ := Option.bind_eq_some_iff.1 hstep
  have hok := (h.clients i client hclient).mono hevents (.of_eq rfl rfl rfl : Extends s s)
  split at hstep
  · rename_i userId credentials htask
    split at hstep
    · rename_i server hdetails
      obtain rfl := Option.some_inj.1 hstep
      obtain ⟨a, ha, rfl⟩ := Option.map_eq_some_iff.1 hdetails
      refine h.setClient hevents ⟨hok.credentials, nofun, ?_, nofun, hok.told⟩
      rintro userId' credentials' server' htask'
      cases htask'
      refine ⟨hok.reserving _ _ htask, a, h.servers a (List.mem_of_find?_eq_some ha), ?_, rfl⟩
      simpa using List.find?_some ha
    · obtain rfl := Option.some_inj.1 hstep
      exact h.idle hevents hclient (Or.inl rfl) rfl (GatewayClient.told_notReserved client)
  · cases hstep

/-- The server is asked for a spot. -/
theorem Inv.reserve_step {i : ℕ}
    (hstep : step d (.reserve i) s = some t) : Inv d Known (events ++ [.reserve i]) t := by
  have hevents : events.Sublist (events ++ [.reserve i]) := List.sublist_append_left _ _
  obtain ⟨client, hclient, hstep⟩ := Option.bind_eq_some_iff.1 hstep
  split at hstep
  · rename_i userId credentials server htask
    split at hstep
    · obtain rfl := Option.some_inj.1 hstep
      refine h.idle hevents hclient (Or.inl rfl) rfl ?_
      rw [GatewayClient.told_answered, List.append_nil]
    · rename_i b hfind
      obtain rfl := Option.some_inj.1 hstep
      obtain ⟨howns, a, ha, hid, haddress⟩ := (h.clients i client hclient).detailed _ _ _ htask
      have hbeside : Beside Known server b.rpcAddress := by
        have hshard : b.id = credentials.shard := by simpa using List.find?_some hfind
        exact ⟨a, b, ha, h.servers b (List.mem_of_find?_eq_some hfind), hid.trans hshard.symm, haddress, rfl⟩
      have hext : Extends s { s.setClient i { client with task := .waiting server s.asked.length } with
          requests := s.requests ++ [⟨some s.asked.length, b.rpcAddress, some (some b.token),
            ⟨userId, credentials.username⟩⟩]
          asked := s.asked ++ [(i, server)] } :=
        ⟨List.Subset.refl _, List.prefix_append _ _, List.Subset.refl _⟩
      have hlast : (s.asked ++ [(i, server)])[s.asked.length]? = some (i, server) :=
        List.getElem?_concat_length
      refine h.replace hevents rfl hext rfl rfl rfl (List.Subset.refl _) ?_ fun request hrequest => ?_
      · have hok := (h.clients i client hclient).mono hevents hext
        refine ⟨hok.credentials, nofun, nofun, ?_, hok.told⟩
        rintro server' n htask'
        cases htask'
        exact hlast
      · refine (List.mem_append.1 hrequest).imp_right fun hrequest => ?_
        obtain rfl := List.mem_singleton.1 hrequest
        refine ⟨fun n hn => ?_, fun _ _ _ =>
          ⟨i, server, ⟨⟨s.asked.length, rfl, hlast⟩, hbeside⟩, owns_mono hevents hext howns⟩⟩
        cases hn
        exact (List.getElem?_eq_some_iff.1 hlast).1
  · cases hstep

/-- A request arrives, or gets lost. -/
theorem Inv.deliver_step {k : ℕ} {readings : Readings}
    (hstep : step d (.deliver k readings) s = some t) : Inv d Known (events ++ [.deliver k readings]) t := by
  have hevents : events.Sublist (events ++ [.deliver k readings]) := List.sublist_append_left _ _
  obtain ⟨request, hrequest, hstep⟩ := Option.bind_eq_some_iff.1 hstep
  have hmem : request ∈ s.requests := List.mem_of_getElem? hrequest
  have hremoved : Inv d Known events { s with requests := s.requests.eraseIdx k } := by
    refine h.of_extends (List.Sublist.refl _) (.of_eq rfl rfl rfl) (fun _ => Or.inl) (fun _ _ => Or.inl)
      (fun request' hrequest' => Or.inl ?_) (fun _ => Or.inl) (fun _ => Or.inl) (fun _ => Or.inl rfl)
    exact (List.eraseIdx_sublist s.requests k).subset hrequest'
  split at hstep
  · obtain rfl := Option.some_inj.1 hstep
    exact hremoved.of_extends hevents (.of_eq rfl rfl rfl) (fun _ => Or.inl) (fun _ _ => Or.inl)
      (fun _ => Or.inl) (fun _ => Or.inl) (fun _ => Or.inl) (fun _ => Or.inl rfl)
  · rename_i config hconfig
    obtain rfl := Option.some_inj.1 hstep
    have hext : Extends s { s with requests := s.requests.eraseIdx k } := .of_eq rfl rfl rfl
    exact hremoved.arrive hevents hconfig
      (requestOk_mono (List.Sublist.refl _) hext (h.requests request hmem)) readings

/-- The answer to a request comes back. -/
theorem Inv.answer_step {i : ℕ}
    (hstep : step d (.answer i) s = some t) : Inv d Known (events ++ [.answer i]) t := by
  have hevents : events.Sublist (events ++ [.answer i]) := List.sublist_append_left _ _
  obtain ⟨client, hclient, hstep⟩ := Option.bind_eq_some_iff.1 hstep
  split at hstep
  · rename_i server number htask
    obtain ⟨response, hfind, hstep⟩ := Option.bind_eq_some_iff.1 hstep
    obtain rfl := Option.some_inj.1 hstep
    have hnumber : response.1 = number := by simpa using List.find?_some hfind
    have hresponse := h.responses response (List.mem_of_find?_eq_some hfind)
    have hasked := (h.clients i client hclient).waiting server number htask
    have hext : Extends s { s.setClient i (client.answered server response.2) with
        responses := s.responses.erase response } := .of_eq rfl rfl rfl
    have hok := (h.clients i client hclient).mono hevents hext
    refine h.replace hevents rfl hext rfl rfl rfl (List.erase_subset) ?_ fun _ => Or.inl
    refine ⟨hok.credentials, nofun, nofun, nofun, fun token server' htold => ?_⟩
    rw [GatewayClient.told_answered] at htold
    rcases List.mem_append.1 htold with hold | hnew
    · exact hok.told token server' hold
    · -- the answer is the one to the client's own request
      split at hnew
      · rename_i token' alive hsuccess
        obtain ⟨rfl, rfl⟩ := Prod.mk.inj (List.mem_singleton.1 hnew)
        obtain ⟨grant, hgrant, hgrantNumber, htoken⟩ := hresponse.granted _ alive hsuccess
        obtain ⟨j, server'', ⟨⟨n, hn, hasked'⟩, hbeside⟩, howns⟩ := h.grants grant hgrant
        obtain rfl : n = number := by
          rw [hgrantNumber, Option.some_inj] at hn
          exact hn.symm.trans hnumber
        obtain ⟨rfl, rfl⟩ := Prod.mk.inj (Option.some_inj.1 (hasked'.symm.trans hasked))
        exact ⟨grant, hgrant, htoken, ownsUser_mono hevents hext howns, hbeside⟩
      · cases hnew
  · cases hstep

/-- Something happens at an agent server. -/
theorem Inv.agent_step {address : String} {event : LoginEvent}
    (hstep : step d (.agent address event) s = some t) : Inv d Known (events ++ [.agent address event]) t := by
  have hevents : events.Sublist (events ++ [.agent address event]) := List.sublist_append_left _ _
  obtain ⟨config, hconfig, hstep⟩ := Option.bind_eq_some_iff.1 hstep
  split at hstep
  · cases hstep
  · rename_i hrequest
    obtain ⟨agent, hagent, hstep⟩ := Option.bind_eq_some_iff.1 hstep
    obtain rfl := Option.some_inj.1 hstep
    refine h.of_extends hevents (.of_eq rfl rfl rfl) (fun _ => Or.inl) (fun _ _ => Or.inl)
      (fun _ => Or.inl) (fun _ => Or.inl) (fun _ => Or.inl) fun address' => ?_
    by_cases haddress : address' = address
    · subst haddress
      have hold := (h.agents address').mono hevents (.of_eq rfl rfl rfl : Extends s (s.setAgent address' agent))
      rw [setAgent_agents_self]
      refine Or.inr ⟨fun user huser => hold.sessions user (sessions_of_event hrequest hagent huser), ?_⟩
      intro config' hconfig'
      obtain rfl := Option.some_inj.1 (hconfig.symm.trans hconfig')
      exact (hold.consistent config hconfig).step hagent
    · exact Or.inl (Function.update_of_ne haddress _ _)

end Steps

/-- **Every step keeps the invariant.** -/
theorem inv_step {e : Event} (h : Inv d Known events s) (hproper : Proper d Known e)
    (hstep : step d e s = some t) : Inv d Known (events ++ [e]) t := by
  have hevents : events.Sublist (events ++ [e]) := List.sublist_append_left events [e]
  cases e with
  | connect =>
      obtain rfl := Option.some_inj.1 hstep
      refine h.of_extends hevents (.of_eq rfl rfl rfl) (fun _ => Or.inl) (fun i client hclient => ?_)
        (fun _ => Or.inl) (fun _ => Or.inl) (fun _ => Or.inl) (fun _ => Or.inl rfl)
      rw [List.getElem?_append] at hclient
      split at hclient
      · exact Or.inl hclient
      · obtain rfl := List.mem_singleton.1 (List.mem_of_getElem? hclient)
        exact Or.inr (clientOk_accepted i)
  | packet i packet => exact h.packet_step hstep
  | serverDetails i => exact h.serverDetails_step hstep
  | reserve i => exact h.reserve_step hstep
  | deliver k readings => exact h.deliver_step hstep
  | answer i => exact h.answer_step hstep
  | fail i =>
      obtain ⟨client, hclient, hstep⟩ := Option.bind_eq_some_iff.1 hstep
      split at hstep
      · obtain rfl := Option.some_inj.1 hstep
        exact h.idle hevents hclient (Or.inl rfl) rfl (GatewayClient.told_notReserved client)
      · cases hstep
  | close i =>
      obtain ⟨client, hclient, hstep⟩ := Option.bind_eq_some_iff.1 hstep
      obtain rfl := Option.some_inj.1 hstep
      exact h.idle hevents hclient (Or.inr rfl) rfl rfl
  | poll servers =>
      obtain rfl := Option.some_inj.1 hstep
      exact h.of_extends hevents (.of_eq rfl rfl rfl)
        (fun server hserver => Or.inr (hproper.known servers rfl server hserver)) (fun _ _ => Or.inl)
        (fun _ => Or.inl) (fun _ => Or.inl) (fun _ => Or.inl) (fun _ => Or.inl rfl)
  | news notices =>
      obtain rfl := Option.some_inj.1 hstep
      exact h.of_extends hevents (.of_eq rfl rfl rfl) (fun _ => Or.inl) (fun _ _ => Or.inl)
        (fun _ => Or.inl) (fun _ => Or.inl) (fun _ => Or.inl) (fun _ => Or.inl rfl)
  | register seen row =>
      obtain rfl := Option.some_inj.1 hstep
      refine h.of_extends hevents ⟨?_, List.prefix_refl _, List.Subset.refl _⟩ (fun _ => Or.inl)
        (fun _ _ => Or.inl) (fun _ => Or.inl) (fun _ => Or.inl) (fun _ => Or.inl) (fun _ => Or.inl rfl)
      exact fun account haccount => Users.mem_register haccount
  | post address header body =>
      obtain rfl := Option.some_inj.1 hstep
      refine h.of_extends hevents (.of_eq rfl rfl rfl) (fun _ => Or.inl) (fun _ _ => Or.inl)
        (fun request hrequest => ?_) (fun _ => Or.inl) (fun _ => Or.inl) (fun _ => Or.inl rfl)
      refine (List.mem_append.1 hrequest).imp_right fun hrequest => ?_
      obtain rfl := List.mem_singleton.1 hrequest
      exact ⟨nofun, fun config hconfig hheader => absurd hheader (hproper.outside config hconfig)⟩
  | agent address event => exact h.agent_step hstep

theorem inv_start (users : Users) (userServers : List UserServer) (now : Instant) :
    Inv d Known [] (start users userServers now) where
  servers := nofun
  clients := nofun
  requests := nofun
  responses := nofun
  grants := nofun
  agents _ := ⟨nofun, fun config _ => Skrillax.consistent_start config.maxPlayers now⟩

/-- The invariant in every run. -/
theorem inv_run (Known : AgentServer → Prop) {users : Users} {userServers : List UserServer} {now : Instant} {events : List Event}
    (hproper : ∀ e ∈ events, Proper d Known e)
    (hrun : runAll (step d) events (start users userServers now) = some s) : Inv d Known events s :=
  history_of_step (inv_start users userServers now) (fun _ e _ _ hpre h hstep =>
    inv_step h (hproper e (hpre.subset (by simp))) hstep) hrun

/-- **Whoever has a reservation or plays at an agent server has an account that was proved to the gateway.** -/
theorem sessions_authenticated {users : Users} {userServers : List UserServer} {now : Instant}
    {events : List Event} (houtside : ∀ e ∈ events, e.Outside d)
    (hrun : runAll (step d) events (start users userServers now) = some s) (address : String)
    (user : ServerUser) (huser : user ∈ (s.agents address).sessions) :
    ∃ i, OwnsUser d.toEnvironment events s.users i user :=
  (inv_run (fun _ => True) (fun e he => ⟨houtside e he, fun _ _ _ _ => trivial⟩) hrun).agents
    address |>.sessions user huser

/-- **A token that a client is told was granted for an account that the client has proved to be its own, by
the server at the address that it is told.** -/
theorem told_for_own_account {users : Users} {userServers : List UserServer} {now : Instant}
    {events : List Event} (place : UInt16 → SocketAddr × String) (houtside : ∀ e ∈ events, e.Outside d)
    (hpolls : ∀ e ∈ events, e.PollsAt place)
    (hrun : runAll (step d) events (start users userServers now) = some s) (i : ℕ) (client : GatewayClient)
    (hclient : s.clients[i]? = some client) (token : UInt32) (server : SocketAddr)
    (htold : (token, server) ∈ client.told) :
    ∃ grant ∈ s.grants, grant.token = token ∧ OwnsUser d.toEnvironment events s.users i grant.user ∧
      ∃ shard, place shard = (server, grant.address) := by
  have hinv := inv_run (fun server => place server.id = (server.address, server.rpcAddress))
    (fun e he => ⟨houtside e he, fun servers heq server hserver => ?_⟩) hrun
  · obtain ⟨grant, hgrant, htoken, howns, a, b, ha, hb, hid, rfl, haddress⟩ :=
      (hinv.clients i client hclient).told token server htold
    rw [hid, hb] at ha
    exact ⟨grant, hgrant, htoken, howns, b.id, by rw [hb, haddress, (Prod.mk.inj ha).1]⟩
  · have h := hpolls e he
    rw [heq] at h
    exact h server hserver
/-! ### A login -/

/-- An account without a passcode. -/
def firstAccount : Account :=
  { id := 1, username := "first", passcode := none
    password := "$2a$05$CCCCCCCCCCCCCCCCCCCCC.E5YPO9kmyuRGyh0XouQYb4YMJKvyOeW" }

def oneAccount : Users := (Users.empty.insert firstAccount).2

def firstServer : AgentServer :=
  .new 1 "Server" { ip := "127.0.0.1", port := 22230 } "127.0.0.1:1337" .eu "token"

/-- One agent server, and a password that has the hash. -/
def oneAgent : Deployment :=
  { verify := fun password hash => some (password == "U*U" && hash == firstAccount.password)
    decryptBlock := id, patcher := .acceptAll, farms := [], profile := .debug
    agents := fun address =>
      if address = firstServer.rpcAddress then some ⟨1, "token", 2, 30⟩ else none }

def firstLogin : LoginRequest := { username := "first", password := "U*U", shardId := 1 }

def firstReadings : Readings := { draws := fun _ => 7, now := 0, later := 0, databaseFails := false }

/-- The server is found, a client connects, and somebody else asks for a spot for the account in vain. -/
def oneClient : List Event :=
  [.poll [firstServer], .connect, .post firstServer.rpcAddress (some (some "guess")) ⟨1, "first"⟩,
    .deliver 0 firstReadings]

def firstInput : SecurityCodeInput := { action := .enter, innerSize := 0, data := Vector.replicate 8 0 }

/-- The client logs in. -/
def oneLogin : List Event :=
  oneClient ++ [.packet 0 (.loginRequest firstLogin), .serverDetails 0, .reserve 0, .deliver 0 firstReadings,
    .answer 0]

theorem oneLogin_outside : ∀ e ∈ oneLogin, e.Outside oneAgent := by
  intro e he
  simp only [oneLogin, oneClient, List.cons_append, List.nil_append, List.mem_cons, List.not_mem_nil,
    or_false] at he
  rcases he with rfl | rfl | rfl | rfl | rfl | rfl | rfl | rfl | rfl <;> try exact trivial
  intro config hconfig
  obtain rfl : (⟨1, "token", 2, 30⟩ : AgentConfig) = config := by simpa [oneAgent] using hconfig
  decide

/-- The reservation after the login is for the account of the client. -/
theorem oneLogin_authenticated :
    ∃ s user, runAll (step oneAgent) oneLogin (start oneAccount [] 0) = some s ∧
      user ∈ (s.agents firstServer.rpcAddress).sessions ∧
      ∃ i, OwnsUser oneAgent.toEnvironment oneLogin s.users i user := by
  obtain ⟨s, hs⟩ := Option.isSome_iff_exists.1
    (show (runAll (step oneAgent) oneLogin (start oneAccount [] 0)).isSome = true from rfl)
  have hsessions : (runAll (step oneAgent) oneLogin (start oneAccount [] 0)).map
      (fun s => (s.agents firstServer.rpcAddress).sessions) = some [⟨1, "first", 0, 0, none⟩] := rfl
  rw [hs, Option.map_some, Option.some_inj] at hsessions
  have huser : (⟨1, "first", 0, 0, none⟩ : ServerUser) ∈ (s.agents firstServer.rpcAddress).sessions := by
    rw [hsessions]
    exact List.mem_singleton_self _
  exact ⟨s, _, hs, huser, sessions_authenticated oneLogin_outside hs _ _ huser⟩

/-- The only server is where it is. -/
def firstPlace (_shard : UInt16) : SocketAddr × String := (firstServer.address, firstServer.rpcAddress)

/-- The token that the client is told is the one that was granted for its account. -/
theorem oneLogin_told :
    ∃ s client, runAll (step oneAgent) oneLogin (start oneAccount [] 0) = some s ∧
      s.clients[0]? = some client ∧ client.told = [(7, firstServer.address)] ∧
      ∃ grant ∈ s.grants, grant.token = 7 ∧ OwnsUser oneAgent.toEnvironment oneLogin s.users 0 grant.user ∧
        ∃ shard, firstPlace shard = (firstServer.address, grant.address) := by
  obtain ⟨s, hs⟩ := Option.isSome_iff_exists.1
    (show (runAll (step oneAgent) oneLogin (start oneAccount [] 0)).isSome = true from rfl)
  have htold : (runAll (step oneAgent) oneLogin (start oneAccount [] 0)).map
      (fun s => s.clients[0]?.map GatewayClient.told) = some (some [(7, firstServer.address)]) := rfl
  rw [hs, Option.map_some, Option.some_inj, Option.map_eq_some_iff] at htold
  obtain ⟨client, hclient, htold⟩ := htold
  have hpolls : ∀ e ∈ oneLogin, e.PollsAt firstPlace := by
    intro e he
    simp only [oneLogin, oneClient, List.cons_append, List.nil_append, List.mem_cons, List.not_mem_nil,
      or_false] at he
    rcases he with rfl | rfl | rfl | rfl | rfl | rfl | rfl | rfl | rfl <;> try exact trivial
    intro server hserver
    rw [List.mem_singleton.1 hserver]
    rfl
  exact ⟨s, client, hs, hclient, htold, told_for_own_account _ oneLogin_outside hpolls hs 0 client hclient 7
    firstServer.address (htold ▸ List.mem_singleton_self _)⟩

end System

end Skrillax.Gateway

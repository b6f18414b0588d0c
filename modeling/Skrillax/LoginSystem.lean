/-
**The gateway and the agent servers as one system.**

The gateway's tasks, the web endpoints of the agent servers and the clients run side by side.  A task looks up
the server twice, once for the address that the client is told and once for the request, and the list of the
servers may be replaced in between.  Requests and answers travel in any order and may be lost; others can reach
the endpoints, too, but they do not know the token that the gateway shows there.

Main definitions:

* `fetch`, `authorize`, `handleSpotRequest` — the endpoint for reservations;
* `System`, `Event`, `System.step` — the accounts, the gateway, the requests on their way, and the agent
  servers, with what happens to them;
* `Gave`, `Owns`, `OwnsUser` — what a client has sent so far proves that an account is its own;
* `Event.Outside`, `Event.PollsAt` — the assumptions about the requests of others, and about where the servers
  are.
-/

import Skrillax.Gateway
import Skrillax.Sessions

set_option relaxedAutoImplicit false
set_option autoImplicit false

namespace Skrillax.Gateway

open Rust PartialAction

/-! ### The endpoint -/

structure ReserveRequest where
  userId : UInt32
  username : String
  deriving DecidableEq, Repr

/-- A row of `user_servers`. -/
structure UserServer where
  userId : Int32
  serverId : Int32
  job : Int16
  premiumType : Int16
  premiumEnd : Option Instant
  deriving DecidableEq, Repr

/-- `ServerUser::fetch`; the row of a user who has not been at the server is inserted. -/
def fetch (users : Users) (userServers : List UserServer) (id : UInt32) (server : UInt16) :
    Option ServerUser × List UserServer :=
  let serverId := Int32.ofNat server.toNat
  match users.rows.find? (·.id == id.toInt32) with
  | none => (none, userServers)
  | some user =>
      match userServers.find? fun row => row.userId == id.toInt32 && row.serverId == serverId with
      | some data =>
          (some ⟨id.toInt32, user.username, data.job, data.premiumType, data.premiumEnd⟩, userServers)
      | none =>
          (some ⟨id.toInt32, user.username, 0, 0, none⟩, userServers ++ [⟨id.toInt32, serverId, 0, 0, none⟩])

structure AgentConfig where
  serverId : UInt16
  token : String
  maxPlayers : UInt16
  reservationValidTime : UInt64
  deriving DecidableEq, Repr

/-- `Duration::as_secs`. -/
def asSecs (duration : Duration) : UInt64 := UInt64.ofNat (duration / 1000000000)

def ReserveResponse.ofReservationError : ReservationError → ReserveResponse
  | .allTokensTaken => .full
  | .noSpotsAvailable => .full
  | .noSuchToken => .notFound
  | .alreadyHasReservation => .duplicate

/-- The header `TOKEN`, if there is one, and if it is a string. -/
abbrev TokenHeader := Option (Option String)

/-- The checks of `handle_spot_request` before the reservation. -/
def authorize (config : AgentConfig) : TokenHeader → Except ReserveResponse Unit
  | none => .error (.error "Missing auth token.")
  | some none => .error (.error "Invalid auth token.")
  | some (some passedToken) =>
      if passedToken ≠ config.token then .error (.error "Invalid auth token.") else .ok ()

/-- What the endpoint reads besides the request: the random numbers, the clock, and whether the database
fails. -/
structure Readings where
  draws : ℕ → UInt32
  now : Instant
  later : Instant
  databaseFails : Bool

/-- `handle_spot_request`; there is no answer if it panics. -/
def handleSpotRequest (profile : Profile) (config : AgentConfig) (users : Users)
    (userServers : List UserServer) (header : TokenHeader) (reservation : ReserveRequest) (readings : Readings)
    (queue : QueueState) : Option ReserveResponse × QueueState × List UserServer :=
  match authorize config header with
  | .error response => (some response, queue, userServers)
  | .ok _ =>
      if readings.databaseFails then
        (some .notFound, queue, userServers)
      else
        match fetch users userServers reservation.userId config.serverId with
        | (none, userServers) => (some .notFound, queue, userServers)
        | (some user, userServers) =>
            match reserveAt profile config.maxPlayers config.reservationValidTime readings.draws user
              readings.now readings.later queue with
            | (.ok (id, duration), queue) => (some (.success id (asSecs duration)), queue, userServers)
            | (.error (.error e), queue) => (some (.ofReservationError e), queue, userServers)
            | (.error .panic, queue) => (none, queue, userServers)

/-! ### The system -/

/-- A request on its way to an endpoint; those of the gateway are numbered. -/
structure SpotRequest where
  number : Option ℕ
  address : String
  header : TokenHeader
  body : ReserveRequest
  deriving DecidableEq, Repr

/-- A token was granted to a user, upon a request. -/
structure Grant where
  number : Option ℕ
  address : String
  token : UInt32
  user : ServerUser

namespace SpotRequest

/-- The answer on its way back. -/
def answers (request : SpotRequest) (response : Option ReserveResponse) : List (ℕ × ReserveResponse) :=
  match request.number, response with
  | some number, some response => [(number, response)]
  | _, _ => []

/-- What is granted upon the request, with the user who has been fetched. -/
def granted (request : SpotRequest) (response : Option ReserveResponse) (user : Option ServerUser) :
    List Grant :=
  match response, user with
  | some (.success token _), some user => [⟨request.number, request.address, token, user⟩]
  | _, _ => []

theorem mem_answers_iff {request : SpotRequest} {response : Option ReserveResponse}
    {answer : ℕ × ReserveResponse} :
    answer ∈ request.answers response ↔ request.number = some answer.1 ∧ response = some answer.2 := by
  obtain ⟨number, result⟩ := answer
  unfold answers
  cases request.number <;> cases response <;> simp [eq_comm]

theorem mem_granted_iff {request : SpotRequest} {response : Option ReserveResponse} {user : Option ServerUser}
    {grant : Grant} :
    grant ∈ request.granted response user ↔
      ∃ token alive user', response = some (.success token alive) ∧ user = some user' ∧
        grant = ⟨request.number, request.address, token, user'⟩ := by
  unfold granted
  split
  · simp
  · rename_i hnone
    refine ⟨nofun, ?_⟩
    rintro ⟨token, alive, user', hresponse, huser, -⟩
    exact absurd huser (hnone token alive user' hresponse)

end SpotRequest

/-- What does not change: the gateway's environment, and the agent servers by the addresses of their
endpoints. -/
structure Deployment extends Environment where
  profile : Profile
  agents : String → Option AgentConfig

structure System where
  users : Users
  userServers : List UserServer
  servers : List AgentServer
  notices : List GatewayNotice
  clients : List GatewayClient
  requests : List SpotRequest
  responses : List (ℕ × ReserveResponse)
  agents : String → LoginServer
  /-- History: which client made the request of a number, after it had looked up which address. -/
  asked : List (ℕ × SocketAddr)
  /-- History: what has been granted. -/
  grants : List Grant

inductive Event where
  | connect
  | packet (i : ℕ) (packet : GatewayPacket)
  | serverDetails (i : ℕ)
  | reserve (i : ℕ)
  | deliver (k : ℕ) (readings : Readings)
  | answer (i : ℕ)
  /-- The request of the client fails, or its answer is lost. -/
  | fail (i : ℕ)
  /-- The client is gone, has not sent anything for too long, or the database fails. -/
  | close (i : ℕ)
  | poll (servers : List AgentServer)
  | news (notices : List GatewayNotice)
  | register (seen : Users) (row : Account)
  /-- Somebody else sends a request to an endpoint. -/
  | post (address : String) (header : TokenHeader) (body : ReserveRequest)
  | agent (address : String) (event : LoginEvent)

namespace System

/-- The system when it starts. -/
def start (users : Users) (userServers : List UserServer) (now : Instant) : System :=
  { users, userServers, servers := [], notices := [], clients := [], requests := [], responses := []
    agents := fun _ => .start now, asked := [], grants := [] }

def setClient (s : System) (i : ℕ) (client : GatewayClient) : System :=
  { s with clients := s.clients.set i client }

def setAgent (s : System) (address : String) (agent : LoginServer) : System :=
  { s with agents := Function.update s.agents address agent }

theorem setAgent_agents_self (s : System) (address : String) (agent : LoginServer) :
    (s.setAgent address agent).agents address = agent :=
  Function.update_self _ _ _

/-- A request arrives at the endpoint. -/
def arrive (d : Deployment) (config : AgentConfig) (request : SpotRequest) (readings : Readings)
    (s : System) : System :=
  let agent := s.agents request.address
  let (response, queue, userServers) := handleSpotRequest d.profile config s.users s.userServers request.header
    request.body readings agent.queue
  { s.setAgent request.address { agent with queue } with
    userServers
    responses := s.responses ++ request.answers response
    grants := s.grants ++
      request.granted response (fetch s.users s.userServers request.body.userId config.serverId).1 }

/-- An event; `none` is an event that cannot happen in the state. -/
def step (d : Deployment) : Event → System → Option System
  | .connect, s => some { s with clients := s.clients ++ [.accepted] }
  | .packet i packet, s => do
      let client ← s.clients[i]?
      if client.task = .reading then
        match client.handlePacket d.toEnvironment s.users s.servers s.notices packet with
        | some client => return s.setClient i client
        -- a panic ends the task
        | none => return s.setClient i { client with task := .closed }
      else
        none
  | .serverDetails i, s => do
      let client ← s.clients[i]?
      match client.task with
      | .reserving userId credentials =>
          match Gateway.serverDetails s.servers credentials.shard with
          | some server => return s.setClient i { client with task := .detailed userId credentials server }
          | none => return s.setClient i client.notReserved
      | _ => none
  | .reserve i, s => do
      let client ← s.clients[i]?
      match client.task with
      | .detailed userId credentials server =>
          match findServer s.servers credentials.shard with
          | none => return s.setClient i (client.answered server .notFound)
          | some agent =>
              let request := { number := some s.asked.length, address := agent.rpcAddress
                               header := some (some agent.token)
                               body := ⟨userId, credentials.username⟩ : SpotRequest }
              return { s.setClient i { client with task := .waiting server s.asked.length } with
                       requests := s.requests ++ [request]
                       asked := s.asked ++ [(i, server)] }
      | _ => none
  | .deliver k readings, s => do
      let request ← s.requests[k]?
      let s := { s with requests := s.requests.eraseIdx k }
      match d.agents request.address with
      -- nobody is there
      | none => return s
      | some config => return s.arrive d config request readings
  | .answer i, s => do
      let client ← s.clients[i]?
      match client.task with
      | .waiting server number => do
          let response ← s.responses.find? (·.1 == number)
          return { s.setClient i (client.answered server response.2) with
                   responses := s.responses.erase response }
      | _ => none
  | .fail i, s => do
      let client ← s.clients[i]?
      match client.task with
      | .waiting _ _ => return s.setClient i client.notReserved
      | _ => none
  | .close i, s => do
      let client ← s.clients[i]?
      return s.setClient i { client with task := .closed }
  | .poll servers, s => some { s with servers }
  | .news notices, s => some { s with notices }
  | .register seen row, s => some { s with users := (Users.register seen s.users row).2 }
  | .post address header body, s =>
      some { s with requests := s.requests ++ [{ number := none, address, header, body }] }
  | .agent address event, s => do
      let config ← d.agents address
      match event with
      -- requests come through the endpoint
      | .request _ _ _ _ => none
      | event => do
          let agent ← LoginServer.step d.profile config.maxPlayers config.reservationValidTime event
            (s.agents address)
          return s.setAgent address agent

end System

/-! ### Credentials -/

/-- The client has sent the name and the password of an account, and after that the passcode if the account
has one. -/
inductive Gave (env : Environment) (events : List Event) (i : ℕ) (row : Account) : Prop where
  | password (login : LoginRequest) (hlogin : .packet i (.loginRequest login) ∈ events)
      (haccepts : row.Accepts env.verify login.username login.password) (hpasscode : row.passcode = none)
  | passcode (login : LoginRequest) (input : SecurityCodeInput) (code : String)
      (hpackets : [.packet i (.loginRequest login), .packet i (.securityCodeInput input)].Sublist events)
      (haccepts : row.Accepts env.verify login.username login.password) (hpasscode : row.passcode = some code)
      (hdecode : decodePasscode env.decryptBlock input.innerSize input.data = .ok code)

theorem Gave.mono {env : Environment} {events events' : List Event} {i : ℕ} {row : Account}
    (h : Gave env events i row) (hevents : events.Sublist events') : Gave env events' i row := by
  cases h with
  | password login hlogin haccepts hpasscode =>
      exact .password login (hevents.subset hlogin) haccepts hpasscode
  | passcode login input code hpackets haccepts hpasscode hdecode =>
      exact .passcode login input code (hpackets.trans hevents) haccepts hpasscode hdecode

/-- The client has proved that the account with the identifier is its own. -/
def Owns (env : Environment) (events : List Event) (users : Users) (i : ℕ) (userId : UInt32) : Prop :=
  ∃ row ∈ users.rows, row.id.toUInt32 = userId ∧ Gave env events i row

/-- The same for a user of an agent server. -/
def OwnsUser (env : Environment) (events : List Event) (users : Users) (i : ℕ) (user : ServerUser) : Prop :=
  ∃ row ∈ users.rows, row.id = user.id ∧ row.username = user.username ∧ Gave env events i row

/-- Nobody else shows the token of the agent server. -/
def Event.Outside (d : Deployment) : Event → Prop
  | .post address header _ => ∀ config, d.agents address = some config → header ≠ some (some config.token)
  | _ => True

/-- The polls find the servers where they are. -/
def Event.PollsAt (place : UInt16 → SocketAddr × String) : Event → Prop
  | .poll servers => ∀ server ∈ servers, place server.id = (server.address, server.rpcAddress)
  | _ => True

end Skrillax.Gateway

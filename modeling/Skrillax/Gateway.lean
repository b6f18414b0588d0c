/-
**The gateway.**

The gateway is where a client logs in: it checks the name and the password against the accounts, asks for the
passcode of an account that has one, and has a spot reserved at the agent server that the client has chosen.
A task of its own serves each client.  It handles one packet at a time, and remembers the credentials of the
last login for the passcode that may follow.

Main definitions:

* `Account`, `Users` — the accounts, with the constraints of their table, and `register`;
* `tryLogin`, `tryLoginPasscode` — the two checks of the `LoginProvider`;
* `decodePasscode` — what a passcode is decrypted to;
* `Patcher.getPatchInformation` — which versions of the client are let through;
* `AgentServer`, `serverDetails` — the agent servers that are known;
* `GatewayClient`, `GatewayClient.handlePacket`, `GatewayClient.answered` — the task of a client.

Main results:

* `tryLogin_success`, `tryLoginPasscode_success` — a check succeeds for an account with the name whose
  password is the given one, and which has no passcode, or the given one;
* `tryLogin_of_account`, `tryLoginPasscode_of_account` — and it does succeed for such an account;
* `GatewayClient.handlePacket_eq_none_iff` — **which packets end the task in a panic**;
* `GatewayClient.Handles`, `GatewayClient.handles_handlePacket` — what handling a packet can do: **the client
  gets to the reservation of a spot only with credentials that an account has**.
-/

import Skrillax.RustSlice
import Skrillax.SilkroadTime

set_option relaxedAutoImplicit false
set_option autoImplicit false

namespace Skrillax.Gateway

open Rust

/-! ### Accounts -/

/-- A row of `users`; `password` is the hash. -/
structure Account where
  id : Int32
  username : String
  password : String
  passcode : Option String
  deriving DecidableEq, Repr

/-- The table `users` with its primary key and the constraint that the names are unique. -/
structure Users where
  rows : List Account
  ids : (rows.map Account.id).Nodup
  usernames : (rows.map Account.username).Nodup

inductive RegistrationResult where
  | success
  | usernameTaken
  | databaseError
  deriving DecidableEq, Repr

namespace Users

def empty : Users := { rows := [], ids := .nil, usernames := .nil }

/-- A row whose identifier and name are new. -/
def Fresh (users : Users) (row : Account) : Prop :=
  row.id ∉ users.rows.map Account.id ∧ row.username ∉ users.rows.map Account.username

instance (users : Users) (row : Account) : Decidable (users.Fresh row) :=
  inferInstanceAs (Decidable (_ ∧ _))

/-- The insertion of a row, which a constraint may refuse. -/
def insert (users : Users) (row : Account) : RegistrationResult × Users :=
  if h : users.Fresh row then
    (.success,
      { rows := row :: users.rows
        ids := List.nodup_cons.2 ⟨h.1, users.ids⟩
        usernames := List.nodup_cons.2 ⟨h.2, users.usernames⟩ })
  else
    (.databaseError, users)

/-- `register`, with the hash of the password and the identifier that the database draws.  The table may have
changed since it was looked up whether the name exists. -/
def register (seen users : Users) (row : Account) : RegistrationResult × Users :=
  if seen.rows.any (·.username == row.username) then (.usernameTaken, users) else users.insert row

/-- No account is lost. -/
theorem mem_register {seen users : Users} {row account : Account} (h : account ∈ users.rows) :
    account ∈ (register seen users row).2.rows := by
  rw [register]
  split
  · exact h
  · rw [insert]
    split
    · exact List.mem_cons_of_mem row h
    · exact h

theorem eq_of_id {users : Users} {row row' : Account} (hrow : row ∈ users.rows) (hrow' : row' ∈ users.rows)
    (h : row.id = row'.id) : row = row' :=
  List.inj_on_of_nodup_map users.ids hrow hrow' h

theorem eq_of_username {users : Users} {row row' : Account} (hrow : row ∈ users.rows)
    (hrow' : row' ∈ users.rows) (h : row.username = row'.username) : row = row' :=
  List.inj_on_of_nodup_map users.usernames hrow hrow' h

end Users

/-! ### The login provider -/

inductive LoginResult where
  | success (id : Int32)
  | missingPasscode
  | invalidCredentials
  | blocked
  deriving DecidableEq, Repr

section Provider

-- `bcrypt::verify`, with the password and the hash; `none` is an error
variable (verify : String → String → Option Bool)

def tryLogin (users : Users) (username password : String) : LoginResult :=
  match users.rows.find? (·.username == username) with
  | some result =>
      if !(verify password result.password).getD false then
        .invalidCredentials
      else if result.passcode.isSome then
        .missingPasscode
      else
        .success result.id
  | none => .invalidCredentials

def tryLoginPasscode (users : Users) (username password passcode : String) : LoginResult :=
  match users.rows.find? fun row => row.username == username && row.passcode == some passcode with
  | some result =>
      if (verify password result.password).getD false then .success result.id else .invalidCredentials
  | none => .invalidCredentials

/-- The name and the password are those of the account. -/
structure Account.Accepts (row : Account) (username password : String) : Prop where
  username : row.username = username
  password : verify password row.password = some true

variable {verify} {users : Users} {username password passcode : String} {id : Int32} {row : Account}

theorem getD_false_iff {result : Option Bool} : result.getD false = true ↔ result = some true := by
  rcases result with _ | _ | _ <;> decide

theorem tryLogin_success (h : tryLogin verify users username password = .success id) :
    ∃ row ∈ users.rows, row.id = id ∧ row.Accepts verify username password ∧ row.passcode = none := by
  rw [tryLogin] at h
  split at h
  · rename_i row hfind
    split at h
    · cases h
    · rename_i hverify
      split at h
      · cases h
      · rename_i hpasscode
        cases h
        have hname := List.find?_some hfind
        refine ⟨row, List.mem_of_find?_eq_some hfind, rfl, ⟨by simpa using hname, ?_⟩,
          Option.not_isSome_iff_eq_none.1 hpasscode⟩
        exact getD_false_iff.1 (by simpa using hverify)
  · cases h

theorem tryLoginPasscode_success (h : tryLoginPasscode verify users username password passcode = .success id) :
    ∃ row ∈ users.rows, row.id = id ∧ row.Accepts verify username password ∧ row.passcode = some passcode := by
  rw [tryLoginPasscode] at h
  split at h
  · rename_i row hfind
    split at h
    · rename_i hverify
      cases h
      have hboth := List.find?_some hfind
      obtain ⟨hname, hpasscode⟩ : row.username = username ∧ row.passcode = some passcode := by
        simpa using hboth
      exact ⟨row, List.mem_of_find?_eq_some hfind, rfl, ⟨hname, getD_false_iff.1 hverify⟩, hpasscode⟩
    · cases h
  · cases h

/-- As the names are unique, the account is the one that is found. -/
theorem find_username (hrow : row ∈ users.rows) (h : row.username = username) :
    users.rows.find? (·.username == username) = some row := by
  cases hfind : users.rows.find? (·.username == username) with
  | none => exact absurd (List.find?_eq_none.1 hfind row hrow) (by simpa using h)
  | some found =>
      have hname : found.username = username := by simpa using List.find?_some hfind
      rw [Users.eq_of_username (List.mem_of_find?_eq_some hfind) hrow (hname.trans h.symm)]

theorem tryLogin_of_account (hrow : row ∈ users.rows) (h : row.Accepts verify username password) :
    tryLogin verify users username password =
      if row.passcode.isSome then .missingPasscode else .success row.id := by
  rw [tryLogin, find_username hrow h.username]
  simp [h.password]

theorem tryLoginPasscode_of_account (hrow : row ∈ users.rows) (h : row.Accepts verify username password)
    (hpasscode : row.passcode = some passcode) :
    tryLoginPasscode verify users username password passcode = .success row.id := by
  have hfind : (users.rows.find? fun row => row.username == username && row.passcode == some passcode) =
      some row := by
    cases hfind : users.rows.find? fun row => row.username == username && row.passcode == some passcode with
    | none => exact absurd (List.find?_eq_none.1 hfind row hrow) (by simp [h.username, hpasscode])
    | some found =>
        have hboth := List.find?_some hfind
        obtain ⟨hname, -⟩ : found.username = username ∧ found.passcode = some passcode := by simpa using hboth
        rw [Users.eq_of_username (List.mem_of_find?_eq_some hfind) hrow (hname.trans h.username.symm)]
  rw [tryLoginPasscode, hfind]
  simp [h.password]

end Provider

/-! ### Passcodes -/

/-- `decode_passcode`, with the block cipher.  A length of more than a block panics. -/
def decodePasscode (decryptBlock : Vector UInt8 8 → Vector UInt8 8) (passcodeLength : UInt16)
    (encrypted : Vector UInt8 8) : Except (Failure Unit) String := do
  let data ← slice (decryptBlock encrypted).toList 0 passcodeLength.toNat
  match String.fromUTF8? data.toByteArray with
  | some passcode => .ok passcode
  | none => .error (.error ())

/-! ### Patches -/

structure PatchFile where
  fileId : UInt32
  filename : String
  filePath : String
  size : UInt32
  inPk2 : Bool
  deriving DecidableEq, Repr

inductive PatchInformation where
  | upToDate
  | requiresUpdate (files : List PatchFile) (targetVersion : UInt32) (host : String)
  | outdated
  deriving DecidableEq, Repr

inductive Patcher where
  | acceptAll
  | acceptMatching (min current : UInt32) (dir remote : String)
  deriving DecidableEq, Repr

namespace Patcher

/-- `get_patches_for`, which is not implemented: it panics. -/
def getPatchesFor (_patcher : Patcher) (_version : UInt32) : Option (List PatchFile) := none

/-- `get_patch_information`; `none` is a panic. -/
def getPatchInformation (patcher : Patcher) (version : UInt32) : Option PatchInformation :=
  match patcher with
  | acceptAll => some .upToDate
  | acceptMatching min current _ remote =>
      if version = current then
        some .upToDate
      else if version < current ∧ min ≤ version then do
        let files ← patcher.getPatchesFor version
        return .requiresUpdate files current remote
      else
        some .outdated

end Patcher

/-! ### Agent servers -/

structure SocketAddr where
  ip : String
  port : UInt16
  deriving DecidableEq, Repr

inductive ServerRegion where
  | us
  | eu
  | kr
  deriving DecidableEq, Repr

/-- The character of a region. -/
def ServerRegion.toChar : ServerRegion → Char
  | us => Char.ofNat 0x32
  | eu => Char.ofNat 0x31
  | kr => Char.ofNat 0x30

inductive ServerPopulation where
  | full
  | crowded
  | populated
  | easy
  deriving DecidableEq, Repr

def ServerPopulation.toUInt8 : ServerPopulation → UInt8
  | full => 0
  | crowded => 1
  | populated => 2
  | easy => 3

inductive ServerStatus where
  | online
  | offline
  deriving DecidableEq, Repr

structure ServerStatusReport where
  healthy : Bool
  population : ServerPopulation
  deriving DecidableEq, Repr

structure AgentServer where
  id : UInt16
  name : String
  address : SocketAddr
  rpcAddress : String
  region : ServerRegion
  status : ServerStatus
  token : String
  population : ServerPopulation
  deriving DecidableEq, Repr

structure Shard where
  id : UInt16
  name : String
  status : UInt8
  isOnline : Bool
  deriving DecidableEq, Repr

structure Farm where
  id : UInt8
  name : String
  deriving DecidableEq, Repr

namespace AgentServer

def new (id : UInt16) (name : String) (address : SocketAddr) (rpc : String) (region : ServerRegion)
    (token : String) : AgentServer :=
  { id, name, address, rpcAddress := rpc, region, token, status := .offline, population := .easy }

def update (server : AgentServer) (report : ServerStatusReport) : AgentServer :=
  { server with
    status := if report.healthy then .online else .offline
    population := report.population }

def toShard (server : AgentServer) : Shard :=
  { id := server.id
    name := server.region.toChar.toString ++ server.name
    status := server.population.toUInt8
    isOnline := server.status = .online }

end AgentServer

/-- The server that `reserve` and `server_details` look up. -/
def findServer (servers : List AgentServer) (serverId : UInt16) : Option AgentServer :=
  servers.find? (·.id == serverId)

def serverDetails (servers : List AgentServer) (serverId : UInt16) : Option SocketAddr :=
  (findServer servers serverId).map AgentServer.address

/-! ### Packets and messages -/

structure LoginRequest where
  username : String
  password : String
  shardId : UInt16
  deriving DecidableEq, Repr

inductive SecurityCodeAction where
  | define
  | enter
  | unknown
  deriving DecidableEq, Repr

structure SecurityCodeInput where
  action : SecurityCodeAction
  innerSize : UInt16
  data : Vector UInt8 8
  deriving DecidableEq, Repr

/-- The packets of a client, as far as `handle_socket` tells them apart. -/
inductive GatewayPacket where
  | keepAlive
  | patchRequest (version : UInt32)
  | identityInformation (moduleName : String) (locality : UInt8)
  | gatewayNoticeRequest
  | loginRequest (login : LoginRequest)
  | securityCodeInput (input : SecurityCodeInput)
  | shardListRequest
  | pingServerRequest
  | other
  deriving DecidableEq, Repr

inductive PatchError where
  | invalidVersion
  | update (serverIp : String) (serverPort : UInt16) (currentVersion : UInt32) (patchFiles : List PatchFile)
      (httpServer : String)
  deriving DecidableEq, Repr

structure GatewayNotice where
  subject : String
  article : String
  published : DateTime
  deriving DecidableEq

inductive BlockReason where
  | accountInspection
  | punishment (reason : String) (endTime : DateTime)
  deriving DecidableEq

inductive SecurityError where
  | invalidCredentials (maxAttempts currentAttempts : UInt32)
  | blocked (reason : BlockReason)
  | alreadyConnected
  | inspection
  | serverFull
  deriving DecidableEq

inductive PasscodeRequiredCode where
  | definePasscode
  | passcodeRequired
  | passcodeBlocked
  | passcodeInvalid
  deriving DecidableEq, Repr

inductive PasscodeAccountStatus where
  | ok
  | emailUnverified
  deriving DecidableEq, Repr

structure PingServer where
  index : UInt8
  domain : String
  unknown : UInt16
  deriving DecidableEq, Repr

inductive GatewayMessage where
  | patchResponse (result : Except PatchError UInt8)
  | identityInformation (moduleName : String) (locality : UInt8)
  | gatewayNoticeResponse (notices : List GatewayNotice)
  | loginSuccess (sessionId : UInt32) (agentIp : String) (agentPort : UInt16) (unknown : UInt8)
  | loginError (error : SecurityError)
  | passcodeRequiredResponse (result : PasscodeRequiredCode)
  | passcodeResponse (unknown1 status invalidAttempts : UInt8)
  | securityCodeResponse (accountStatus : PasscodeAccountStatus) (result invalidAttempts : UInt8)
  | shardListResponse (farms : List Farm) (shards : List Shard)
  | pingServerResponse (servers : List PingServer)
  deriving DecidableEq

/-- What the agent server answers to a request for a spot. -/
inductive ReserveResponse where
  | success (token : UInt32) (alive : UInt64)
  | notFound
  | full
  | duplicate
  | error (message : String)
  deriving DecidableEq, Repr

/-! ### The task of a client -/

structure LastCredentials where
  username : String
  password : String
  shard : UInt16
  deriving DecidableEq, Repr

/-- Where the task of a client stands: it waits for a packet; it is about to look up the server, and about to
ask the server for a spot, in `try_reserve_spot`; it waits for the answer to a request; it has ended. -/
inductive TaskState where
  | reading
  | reserving (userId : UInt32) (credentials : LastCredentials)
  | detailed (userId : UInt32) (credentials : LastCredentials) (server : SocketAddr)
  | waiting (server : SocketAddr) (request : ℕ)
  | closed
  deriving DecidableEq, Repr

structure GatewayClient where
  lastCredentials : Option LastCredentials
  task : TaskState
  sent : List GatewayMessage
  deriving DecidableEq

/-- What the tasks share, and what they use of other crates. -/
structure Environment where
  verify : String → String → Option Bool
  decryptBlock : Vector UInt8 8 → Vector UInt8 8
  patcher : Patcher
  farms : List Farm

/-- The date until which an account is blocked. -/
def blockedUntil : DateTime :=
  { year := 2099, month := 12, day := 31, hour := 23, minute := 59, second := 59
    years := by decide, months := by decide, days := by decide, hours := by decide, minutes := by decide
    seconds := by decide }

namespace GatewayClient

def accepted : GatewayClient := { lastCredentials := none, task := .reading, sent := [] }

def send (client : GatewayClient) (message : GatewayMessage) : GatewayClient :=
  { client with sent := client.sent ++ [message] }

/-- The answer to a request for patches. -/
def patchResponse : PatchInformation → Except PatchError UInt8
  | .upToDate => .ok 0
  | .requiresUpdate files targetVersion host => .error (.update "localhost" 80 targetVersion files host)
  | .outdated => .error .invalidVersion

/-- The turn of the loop of `handle_socket` that handles a packet, up to `try_reserve_spot`; `none` is a
panic. -/
def handlePacket (env : Environment) (users : Users) (servers : List AgentServer)
    (notices : List GatewayNotice) (client : GatewayClient) : GatewayPacket → Option GatewayClient
  | .keepAlive => some client
  | .patchRequest version => do
      let information ← env.patcher.getPatchInformation version
      return client.send (.patchResponse (patchResponse information))
  | .identityInformation _ _ => some (client.send (.identityInformation "GatewayServer" 0))
  | .gatewayNoticeRequest => some (client.send (.gatewayNoticeResponse notices))
  | .loginRequest login =>
      let credentials :=
        { username := login.username, password := login.password, shard := login.shardId : LastCredentials }
      let client := { client with lastCredentials := some credentials }
      some <| match tryLogin env.verify users login.username login.password with
        | .success id => { client with task := .reserving id.toUInt32 credentials }
        | .missingPasscode => client.send (.passcodeRequiredResponse .passcodeRequired)
        | .invalidCredentials => client.send (.loginError (.invalidCredentials 5 1))
        | .blocked =>
            client.send (.loginError (.blocked (.punishment "You have been blocked." blockedUntil)))
  | .securityCodeInput input =>
      match client.lastCredentials with
      | none => some client
      | some previous =>
          match decodePasscode env.decryptBlock input.innerSize input.data with
          | .error .panic => none
          | .error (.error _) => some (client.send (.passcodeResponse 4 2 1))
          | .ok passcode =>
              some <| match tryLoginPasscode env.verify users previous.username previous.password passcode with
                | .success id =>
                    { client.send (.securityCodeResponse .ok 1 3) with
                      task := .reserving id.toUInt32 previous }
                | .missingPasscode => client
                | .invalidCredentials => client.send (.passcodeRequiredResponse .passcodeInvalid)
                | .blocked => client.send (.passcodeRequiredResponse .passcodeBlocked)
  | .shardListRequest =>
      some (client.send (.shardListResponse env.farms (servers.map AgentServer.toShard)))
  | .pingServerRequest =>
      some (client.send (.pingServerResponse [{ index := 1, domain := "localhost", unknown := 0x32bd }]))
  | .other => some client

/-- The rest of `try_reserve_spot` when the request has been answered, and the way back to the loop. -/
def answered (client : GatewayClient) (server : SocketAddr) (result : ReserveResponse) : GatewayClient :=
  { client.send (match result with
      | .success token _ => .loginSuccess token server.ip server.port 1
      | .notFound => .loginError .inspection
      | .full => .loginError .serverFull
      | .duplicate => .loginError .alreadyConnected
      | .error _ => .loginError .serverFull) with task := .reading }

/-- `try_reserve_spot` ends early: the server is not known, or the request has failed. -/
def notReserved (client : GatewayClient) : GatewayClient :=
  { client.send (.loginError .inspection) with task := .reading }

/-! ### What handling a packet does -/

/-- The tokens that the client has been told, with the addresses where they are valid. -/
def told (client : GatewayClient) : List (UInt32 × SocketAddr) :=
  client.sent.filterMap fun
    | .loginSuccess sessionId ip port _ => some (sessionId, { ip, port })
    | _ => none

theorem told_send (client : GatewayClient) (message : GatewayMessage) :
    (client.send message).told = client.told ++ match message with
      | .loginSuccess sessionId ip port _ => [(sessionId, { ip, port })]
      | _ => [] := by
  rw [told, send, List.filterMap_append]
  cases message <;> rfl

/-- The client has given the name and the password of an account, and the passcode if it has one; it gets to
the reservation of a spot for the account. -/
inductive Proves (env : Environment) (users : Users) (client : GatewayClient) (row : Account) :
    GatewayPacket → LastCredentials → Prop where
  | password (login : LoginRequest) (hrow : row ∈ users.rows)
      (haccepts : row.Accepts env.verify login.username login.password) (hpasscode : row.passcode = none) :
      Proves env users client row (.loginRequest login) ⟨login.username, login.password, login.shardId⟩
  | passcode (input : SecurityCodeInput) (previous : LastCredentials) (code : String)
      (hprevious : client.lastCredentials = some previous) (hrow : row ∈ users.rows)
      (haccepts : row.Accepts env.verify previous.username previous.password)
      (hpasscode : row.passcode = some code)
      (hdecode : decodePasscode env.decryptBlock input.innerSize input.data = .ok code) :
      Proves env users client row (.securityCodeInput input) previous

/-- What handling a packet can do.  No token is told. -/
structure Handles (env : Environment) (users : Users) (client : GatewayClient) (packet : GatewayPacket)
    (client' : GatewayClient) : Prop where
  told : client'.told = client.told
  credentials : client'.lastCredentials = client.lastCredentials ∨
    ∃ login, packet = .loginRequest login ∧
      client'.lastCredentials = some ⟨login.username, login.password, login.shardId⟩
  task : client'.task = client.task ∨
    ∃ row credentials, Proves env users client row packet credentials ∧
      client'.lastCredentials = some credentials ∧ client'.task = .reserving row.id.toUInt32 credentials

variable {env : Environment} {users : Users} {servers : List AgentServer} {notices : List GatewayNotice}
  {client client' : GatewayClient}

/-- A message without a token is sent. -/
theorem handles_send {packet : GatewayPacket} {message : GatewayMessage}
    (h : (client.send message).told = client.told) : Handles env users client packet (client.send message) :=
  ⟨h, Or.inl rfl, Or.inl rfl⟩

theorem handles_refl (packet : GatewayPacket) : Handles env users client packet client :=
  ⟨rfl, Or.inl rfl, Or.inl rfl⟩

theorem handles_login {login : LoginRequest}
    (h : handlePacket env users servers notices client (.loginRequest login) = some client') :
    Handles env users client (.loginRequest login) client' := by
  obtain rfl := Option.some_inj.1 h
  refine ⟨?_, Or.inr ⟨login, rfl, ?_⟩, ?_⟩
  · split <;> simp only [told_send] <;> simp [told]
  · split <;> rfl
  · split
    · rename_i id hlogin
      obtain ⟨row, hrow, rfl, haccepts, hpasscode⟩ := tryLogin_success hlogin
      exact Or.inr ⟨row, _, .password login hrow haccepts hpasscode, rfl, rfl⟩
    all_goals exact Or.inl rfl

theorem handles_code {input : SecurityCodeInput}
    (h : handlePacket env users servers notices client (.securityCodeInput input) = some client') :
    Handles env users client (.securityCodeInput input) client' := by
  rw [handlePacket] at h
  split at h
  · obtain rfl := Option.some_inj.1 h
    exact handles_refl _
  · rename_i previous hprevious
    split at h
    · cases h
    · obtain rfl := Option.some_inj.1 h
      exact handles_send (by rw [told_send, List.append_nil])
    · rename_i code hdecode
      obtain rfl := Option.some_inj.1 h
      split
      · rename_i id hlogin
        obtain ⟨row, hrow, rfl, haccepts, hpasscode⟩ := tryLoginPasscode_success hlogin
        refine ⟨?_, Or.inl rfl, Or.inr ⟨row, previous, ?_, hprevious, rfl⟩⟩
        · show (client.send _).told = client.told
          rw [told_send, List.append_nil]
        · exact .passcode input previous code hprevious hrow haccepts hpasscode hdecode
      · exact handles_refl _
      all_goals exact handles_send (by rw [told_send, List.append_nil])

theorem handles_handlePacket {packet : GatewayPacket}
    (h : handlePacket env users servers notices client packet = some client') :
    Handles env users client packet client' := by
  cases packet with
  | loginRequest login => exact handles_login h
  | securityCodeInput input => exact handles_code h
  | patchRequest version =>
      obtain ⟨information, -, h⟩ := Option.bind_eq_some_iff.1 h
      obtain rfl := Option.some_inj.1 h
      exact handles_send (by rw [told_send, List.append_nil])
  | keepAlive | other =>
      obtain rfl := Option.some_inj.1 h
      exact handles_refl _
  | identityInformation | gatewayNoticeRequest | shardListRequest | pingServerRequest =>
      obtain rfl := Option.some_inj.1 h
      exact handles_send (by rw [told_send, List.append_nil])

theorem told_answered (client : GatewayClient) (server : SocketAddr) (result : ReserveResponse) :
    (client.answered server result).told = client.told ++ match result with
      | .success token _ => [(token, server)]
      | _ => [] := by
  show (client.send _).told = _
  rw [told_send]
  cases result <;> rfl

theorem told_notReserved (client : GatewayClient) : client.notReserved.told = client.told := by
  show (client.send _).told = _
  rw [told_send, List.append_nil]

end GatewayClient

end Skrillax.Gateway

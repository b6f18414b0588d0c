/-
**The clients that log in.**

Between connecting and joining the game a client authenticates, looks at its characters and chooses one of
them.  Its packets are collected in its input, which the systems of a tick read and which is reset at the
end of the tick.  The database is asked in tasks of their own; a component of the client holds the end at
which the result of a task is to be received.  Components are inserted and removed by commands, which are
applied after the systems have run.

Main definitions:

* `LoginPacket`, `LoginInput` — the packets, and the input, with `receiveLoginInputs`;
* `CharacterSelect`, `DbCharacter` — the state of the character selection;
* `Task`, `TryRecv` — the tasks, and what receiving their results gives;
* `LoginMessage` — what is sent to a client;
* `LoginCommand` — the commands;
* `SelectionEvent` — what happens while the characters are selected;
* `LoginClient` — the components of a client.
-/

import Skrillax.Character
import Skrillax.LoginQueue
import Skrillax.MakeItem

set_option relaxedAutoImplicit false
set_option autoImplicit false

namespace Skrillax

/-! ### Packets and input -/

structure AuthRequest where
  token : UInt32
  username : String
  password : String
  unknown : UInt8
  macBytes : Vector UInt8 6
  deriving DecidableEq, Repr

inductive CharacterListRequestAction where
  | create (characterName : String) (refId : UInt32) (scale : UInt8) (chest pants boots weapon : UInt32)
  | list
  | delete (characterName : String)
  | checkName (characterName : String)
  | restore (characterName : String)
  | showJobSpread
  | assignJob (job : UInt8)
  deriving DecidableEq, Repr

structure CharacterJoinRequest where
  characterName : String
  deriving DecidableEq, Repr

/-- The packets of a client, as far as `receive_login_inputs` tells them apart. -/
inductive LoginPacket where
  | characterListRequest (action : CharacterListRequestAction)
  | characterJoinRequest (join : CharacterJoinRequest)
  | authRequest (auth : AuthRequest)
  | identityInformation
  | other
  deriving DecidableEq, Repr

/-- The requests of a tick: all of the requests about the list, and the last one of each other kind. -/
structure LoginInput where
  list : List CharacterListRequestAction
  join : Option CharacterJoinRequest
  auth : Option AuthRequest
  deriving DecidableEq, Repr

namespace LoginInput

def default : LoginInput := { list := [], join := none, auth := none }

/-- The input is taken, and the default is left. -/
def reset (_input : LoginInput) : LoginInput := default

/-- A turn of the loop of `receive_login_inputs`. -/
def receive (input : LoginInput) : LoginPacket → LoginInput
  | .characterListRequest action => { input with list := input.list ++ [action] }
  | .characterJoinRequest join => { input with join := some join }
  | .authRequest auth => { input with auth := some auth }
  | .identityInformation => input
  | .other => input

end LoginInput

/-! ### Characters -/

/-- A character as it is loaded.  The columns of the row that `CharacterData` leaves out and the selection
looks at stand beside it. -/
structure DbCharacter where
  charname : String
  characterType : Int32
  deletionEnd : Option Instant
  characterData : CharacterData
  items : List CharacterItem
  masteries : List (Int32 × Int16)
  skills : List (Int32 × Int16)
  deriving DecidableEq, Repr

structure CharacterSelect where
  characters : Option (List DbCharacter)
  checkedName : Option String
  deriving DecidableEq, Repr

def CharacterSelect.default : CharacterSelect := { characters := none, checkedName := none }

/-! ### Tasks -/

/-- The components that hold the receiver of a task: `CharacterCreate`, `CharactersLoading`,
`CharacterDelete`, `CharacterCheckName` and `CharacterRestore`. -/
inductive Job where
  | create
  | loading
  | delete
  | checkName
  | restore
  deriving DecidableEq, Repr

/-- The tasks that are started, with what they get of the request. -/
inductive Task where
  | createCharacter (userId : Int32) (serverId : UInt16) (character : DbCharacter)
  | loadCharactersSparse (userId : Int32) (serverId : UInt16)
  | startDeleteCharacter (userId : Int32) (name : String) (serverId : UInt16) (deletionTime : UInt32)
  | checkNameAvailable (name : String) (serverId : UInt16)
  | restoreCharacter (userId : Int32) (name : String) (serverId : UInt16)
  deriving DecidableEq, Repr

/-- What `try_recv` returns: the result of the task, that there is none yet, or that there will be none. -/
inductive TryRecv (α : Type) where
  | ok (a : α)
  | empty
  | closed
  deriving DecidableEq, Repr

/-! ### Messages -/

inductive AuthResultError where
  | invalidData
  | notInService
  | serverFull
  | ipLimit
  deriving DecidableEq, Repr

inductive AuthResult where
  | success (unknown1 unknown2 : UInt8)
  | error (code : AuthResultError)
  deriving DecidableEq, Repr

inductive CharacterListAction where
  | create
  | list
  | delete
  | checkName
  | restore
  | showJobSpread
  deriving DecidableEq, Repr

inductive CharacterListError where
  | invalidCharacterData
  | invalidName
  | nameAlreadyUsed
  | reachedCapacity
  | failedToJoinWorld
  deriving DecidableEq, Repr

/-- The entries of a list are made from its characters, which stand for them here. -/
inductive CharacterListContent where
  | characters (characters : List DbCharacter) (job : UInt8)
  | empty
  | jobSpread (hunters thieves : UInt8)
  deriving DecidableEq, Repr

abbrev CharacterListResult := Except CharacterListError CharacterListContent

structure GameEntity where
  uniqueId : UInt32
  refId : UInt32
  deriving DecidableEq, Repr

/-- The spawn packet of a player, as far as it depends on the components that are modelled. -/
structure CharacterSpawn where
  entity : GameEntity
  name : String
  userId : Int32
  scalars : Scalars
  maxLevel : UInt8
  inventorySize : UInt8
  items : List InventoryItemData
  masteries : List (UInt32 × UInt8)
  skills : List UInt32
  deriving DecidableEq, Repr

inductive LoginMessage where
  | identityInformation (moduleName : String) (locality : UInt8)
  | authResponse (result : AuthResult)
  | characterListResponse (action : CharacterListAction) (result : CharacterListResult)
  | characterJoinResponse (result : Except CharacterListError Unit)
  | characterSpawnStart
  | characterSpawn (spawn : CharacterSpawn)
  | characterSpawnEnd
  | macroStatus (possible : UInt8)
  deriving DecidableEq, Repr

/-! ### Clients -/

/-- A user who has authenticated, with the spot that this takes. -/
structure Playing where
  user : ServerUser
  token : PlayingToken
  deriving DecidableEq, Repr

/-- What a player has in the game. -/
structure PlayerBundle where
  user : ServerUser
  name : String
  character : LoadedPlayer
  gameEntity : GameEntity
  inventory : Inventory

inductive LoginCommand where
  | insertJob (job : Job) (task : Task)
  | removeJob (job : Job)
  | insertBundle (bundle : PlayerBundle)
  | removeCharacterSelect
  | removeLoginInput

/-- A list of characters has been loaded, a check of a name has been answered, a request is handled, and a
task is started. -/
inductive SelectionEvent where
  | loaded (characters : List DbCharacter)
  | answered (name : String) (available : Bool)
  | requested (action : CharacterListRequestAction)
  | started (task : Task)
  deriving DecidableEq, Repr

/-- The components of a client and the commands that are still to be applied, what has been sent to it, and
what has happened. -/
structure LoginClient where
  input : Option LoginInput
  playing : Option Playing
  characterSelect : Option CharacterSelect
  jobs : Job → Option Task
  bundle : Option PlayerBundle
  commands : List LoginCommand
  sent : List LoginMessage
  history : List SelectionEvent

namespace LoginClient

/-- `accept`. -/
def accepted : LoginClient :=
  { input := some .default, playing := none, characterSelect := none, jobs := fun _ => none
    bundle := none, commands := [], sent := [], history := [] }

def send (client : LoginClient) (message : LoginMessage) : LoginClient :=
  { client with sent := client.sent ++ [message] }

def record (client : LoginClient) (event : SelectionEvent) : LoginClient :=
  { client with history := client.history ++ [event] }

def queueCommand (client : LoginClient) (command : LoginCommand) : LoginClient :=
  { client with commands := client.commands ++ [command] }

/-- `create_task`, and the command that inserts the receiver of the result. -/
def startTask (client : LoginClient) (job : Job) (task : Task) : LoginClient :=
  (client.record (.started task)).queueCommand (.insertJob job task)

/-- A command is applied. -/
def apply (client : LoginClient) : LoginCommand → LoginClient
  | .insertJob job task => { client with jobs := Function.update client.jobs job (some task) }
  | .removeJob job => { client with jobs := Function.update client.jobs job none }
  | .insertBundle bundle => { client with bundle := some bundle }
  | .removeCharacterSelect => { client with characterSelect := none }
  | .removeLoginInput => { client with input := none }

/-- The user as whom the client plays. -/
def user (client : LoginClient) : Option ServerUser := client.playing.map Playing.user

/-- `reset`, for the input of this client. -/
def reset (client : LoginClient) : LoginClient :=
  { client with input := client.input.map LoginInput.reset }

/-- A packet of the client is received. -/
def receive (client : LoginClient) (packet : LoginPacket) : LoginClient :=
  match packet with
  | .identityInformation => client.send (.identityInformation "AgentServer" 0)
  | packet => { client with input := client.input.map (·.receive packet) }

/-- The loop of `receive_login_inputs` over the packets that have arrived; it leaves a client that has
joined to `receive_game_inputs`. -/
def receiveLoginInputs (client : LoginClient) (packets : List LoginPacket) : LoginClient :=
  if client.input.isSome then packets.foldl receive client else client

end LoginClient

end Skrillax

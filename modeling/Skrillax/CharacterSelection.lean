/-
**The character selection.**

A client that has authenticated asks for its list of characters, checks names, creates, deletes and restores
characters.  Each request starts a task; the result of a task is received in a later tick by a system of
its own.

Main definitions:

* `hasUserCharacterWithName`, `canCreateCharacterWithName` — the guards;
* `handleAction`, `handleListRequest` — the requests about the list;
* `handleTask` — receiving the result of a task, with an instance for each kind of task.
-/

import Skrillax.LoginClient

set_option relaxedAutoImplicit false
set_option autoImplicit false

namespace Skrillax

/-! ### Requests -/

def hasUserCharacterWithName (charselect : CharacterSelect) (characterName : String) : Bool :=
  match charselect.characters with
  | some characters => characters.any (·.charname == characterName)
  | none => false

def canCreateCharacterWithName (charselect : CharacterSelect) (name : String) : Bool :=
  match charselect.checkedName with
  | some checkedName => checkedName == name
  | none => false

/-- An item that a new character starts with. -/
def startItem (slot : Int16) (refId : UInt32) : CharacterItem :=
  { slot, row := { itemObjId := refId.toInt32, upgradeLevel := 0, variance := none, amount := 1 } }

/-- The user and the server go along with the task. -/
def createCharacterFrom (characterName : String) (refId chest pants boots weapon : UInt32) : DbCharacter where
  charname := characterName
  characterType := refId.toInt32
  deletionEnd := none
  characterData :=
    { race := if refId > 2000 then .european else .chinese
      level := 1, maxLevel := 1, exp := 0, sp := 0, spExp := 0, strength := 20, intelligence := 20
      statPoints := 0, gold := 5000000 }
  items := [startItem 1 chest, startItem 4 pants, startItem 5 boots, startItem 6 weapon]
  masteries := []
  skills := []

/-- What the requests depend on: the server, its settings, and the distribution of the jobs. -/
structure SelectionSettings where
  serverId : UInt16
  deletionTime : UInt32
  hunters : UInt8
  thieves : UInt8
  deriving DecidableEq, Repr

/-- The error of a request that is refused. -/
def LoginClient.sendError (client : LoginClient) (action : CharacterListAction)
    (error : CharacterListError) : LoginClient :=
  client.send (.characterListResponse action (.error error))

/-- What is done for a request.  A request to restore a character that there is not is answered as one to
delete it. -/
def handleAction (settings : SelectionSettings) (userId : Int32) (charselect : CharacterSelect)
    (client : LoginClient) : CharacterListRequestAction → LoginClient
  | .create characterName refId _scale chest pants boots weapon =>
      let client := if canCreateCharacterWithName charselect characterName then client
        else client.sendError .create .invalidCharacterData
      -- the task is started in either case
      client.startTask .create (.createCharacter userId settings.serverId
        (createCharacterFrom characterName refId chest pants boots weapon))
  | .list => client.startTask .loading (.loadCharactersSparse userId settings.serverId)
  | .delete characterName =>
      if hasUserCharacterWithName charselect characterName then
        client.startTask .delete
          (.startDeleteCharacter userId characterName settings.serverId settings.deletionTime)
      else
        client.sendError .delete .invalidName
  | .checkName characterName =>
      { client with characterSelect := some { charselect with checkedName := none } }.startTask .checkName
        (.checkNameAvailable characterName settings.serverId)
  | .restore characterName =>
      if hasUserCharacterWithName charselect characterName then
        client.startTask .restore (.restoreCharacter userId characterName settings.serverId)
      else
        client.sendError .delete .invalidName
  | .showJobSpread =>
      client.send (.characterListResponse .showJobSpread
        (.ok (.jobSpread settings.hunters settings.thieves)))
  | .assignJob _ => client

/-- A turn of the loop of `handle_list_request` over the requests of a client. -/
def handleRequested (settings : SelectionSettings) (userId : Int32) (client : LoginClient)
    (action : CharacterListRequestAction) : LoginClient :=
  match client.characterSelect with
  | none => client
  | some charselect => handleAction settings userId charselect (client.record (.requested action)) action

/-- `handle_list_request`, for a client. -/
def handleListRequest (settings : SelectionSettings) (client : LoginClient) : LoginClient :=
  match client.playing, client.input with
  | some playing, some input => input.list.foldl (handleRequested settings playing.user.id) client
  | _, _ => client

/-! ### Results of tasks -/

/-- A client that plays and waits for a task receives the result, if there is one, and waits no more. -/
def handleTask {α : Type} (job : Job) (received : TryRecv α) (handle : α → LoginClient → LoginClient)
    (client : LoginClient) : LoginClient :=
  if client.playing.isSome && (client.jobs job).isSome then
    match received with
    | .ok a => (handle a client).queueCommand (.removeJob job)
    | .empty => client
    | .closed => client.queueCommand (.removeJob job)
  else
    client

def handleCharacterCreate (received : TryRecv Unit) : LoginClient → LoginClient :=
  handleTask .create received fun _ client => client.send (.characterListResponse .create (.ok .empty))

def handleCharacterDelete (received : TryRecv Bool) : LoginClient → LoginClient :=
  handleTask .delete received fun success client =>
    if success then client.send (.characterListResponse .delete (.ok .empty)) else client

def handleCharacterRestore (received : TryRecv Bool) : LoginClient → LoginClient :=
  handleTask .restore received fun result client =>
    if result then client.send (.characterListResponse .restore (.ok .empty))
    else client.sendError .restore .invalidName

/-- A client that has left the selection is not looked at. -/
def handleCharacterListReceived (received : TryRecv (List DbCharacter)) (client : LoginClient) :
    LoginClient :=
  match client.characterSelect with
  | none => client
  | some charselect =>
      handleTask .loading received (fun characters client =>
        { client with characterSelect := some { charselect with characters := some characters } }.record
          (.loaded characters) |>.send
            (.characterListResponse .list (.ok (.characters characters 0)))) client

/-- The name is stored whether it is available or not. -/
def handleCharacterNameCheck (received : TryRecv (String × Bool)) (client : LoginClient) : LoginClient :=
  match client.characterSelect with
  | none => client
  | some charselect =>
      handleTask .checkName received (fun (name, available) client =>
        { client with characterSelect := some { charselect with checkedName := some name } }.record
          (.answered name available) |>.send
            (.characterListResponse .checkName
              (if available then .ok .empty else .error .nameAlreadyUsed))) client

end Skrillax

/-
**Chat commands and commands of game masters.**

A game master has two ways to do what nobody else may: lines in the channel of the game masters that
start with a dot, and a packet of its own kind.  Whether a character is a game master is a column of the
data base that nothing in the game writes.  It is checked for the channel, but not for the packet.

The texts of the answers are part of the model, except that positions and what is read from them are
floating-point numbers, on which nothing here depends.  All other systems of a tick are a parameter.

Main definitions:

* `ChatMessage`, `GmCommand`, `ClientPacket`, `receiveGameInputs` — what a client sends;
* `canSendMessage`, `handleChat` — the chat;
* `handleGmCommand`, `handleGmCommands` — the packets of game masters;
* `handleCommand`, `handleTeleport` — the commands of the chat;
* `ChatWorld.tick` — a tick;
* `OnlyGameMasters` — what is done on request is done for game masters;
* `Alike` — two runs that differ in the packets only that are of no concern to other clients;
* `Unprivileged` — the ticks in which nobody else sends a command that does something.

Main results:

* `executed_gm` — chat commands are executed for game masters;
* `tick_eq_of_alike` — what does not matter in a tick;
* `privileged_iff` — **in every run nothing is done for anybody but game masters exactly if nobody else
  asks for it, and then it does not matter what they send**.
-/

import Skrillax.MakeItem
import Skrillax.RustParse
import Skrillax.Spawner

set_option relaxedAutoImplicit false
set_option autoImplicit false

namespace Skrillax.Chat

open PartialAction

/-! ### What a client sends -/

inductive ChatTarget where
  | all
  | allGm
  | npc
  | privateMessage
  | party
  | guild
  | global
  | stall
  | union
  | academy
  | notice
  deriving DecidableEq, Repr

structure ChatMessage where
  target : ChatTarget
  index : UInt8
  recipient : Option String
  message : String
  deriving DecidableEq, Repr

/-- The rarity of the monsters is not looked at. -/
inductive GmCommand where
  | banUser (name : String)
  | spawnMonster (refId : UInt32) (amount : UInt8)
  | invisible
  | invincible
  | makeItem (refId : UInt32) (upgrade : UInt8)
  | killMonster (uniqueId : UInt32) (unknown : UInt8)
  deriving DecidableEq, Repr

inductive ClientPacket (Packet : Type) where
  | chatMessage (chat : ChatMessage)
  | gmCommand (command : GmCommand)
  | other (packet : Packet)
  deriving DecidableEq, Repr

/-- The component, with all other packets in the order in which they came. -/
structure PlayerInput (Packet : Type) where
  chat : List ChatMessage
  gm : Option GmCommand
  others : List Packet
  deriving DecidableEq, Repr

namespace PlayerInput

variable {Packet : Type}

def default : PlayerInput Packet := ⟨[], none, []⟩

def receive (input : PlayerInput Packet) : ClientPacket Packet → PlayerInput Packet
  | .chatMessage chat => { input with chat := input.chat ++ [chat] }
  | .gmCommand command => { input with gm := some command }
  | .other packet => { input with others := input.others ++ [packet] }

end PlayerInput

/-- The input has been reset at the end of the tick before. -/
def receiveGameInputs {Packet : Type} (packets : List (ClientPacket Packet)) : PlayerInput Packet :=
  packets.foldl PlayerInput.receive PlayerInput.default

/-! ### Commands in the chat -/

/-- The command of a line. -/
structure ChatCommand where
  name : String
  args : List String
  deriving DecidableEq, Repr

def ChatCommand.ofLine (line : List Char) : ChatCommand :=
  match line.splitOn ' ' with
  | name :: args => ⟨String.ofList name, args.map String.ofList⟩
  | [] => ⟨"", []⟩

/-- `str::parse` for unsigned integers below the bound. -/
def parseUnsigned (bound : ℕ) (s : String) : Option ℕ :=
  let digits : List Char := match s.toList with
    | '+' :: rest => rest
    | chars => chars
  let value := digits.foldl (fun n c => 10 * n + (c.toNat - 48)) 0
  if !digits.isEmpty && digits.all Char.isDigit && decide (value < bound) then some value else none

/-- It is the general one, without the reasons for an error. -/
theorem parseUnsigned_eq_fromStrRadix (bits : ℕ) (s : String) :
    parseUnsigned (2 ^ bits) s = ((Rust.fromStrRadix ⟨false, bits⟩ 10 s.toList).toOption).map Int.toNat := by
  have hparse : parseUnsigned (2 ^ bits) s =
      if !(Rust.trimPlus s.toList).isEmpty && (Rust.trimPlus s.toList).all Char.isDigit &&
          decide (Rust.decimal 0 (Rust.trimPlus s.toList) < 2 ^ bits) then
        some (Rust.decimal 0 (Rust.trimPlus s.toList))
      else none := rfl
  rw [hparse, Rust.fromStrRadix_ten, apply_ite (Option.map Int.toNat)]
  simp only [Option.map_some, Int.toNat_natCast, Option.map_none, Bool.and_eq_true, Bool.not_eq_true',
    List.isEmpty_eq_false_iff, decide_eq_true_eq, and_assoc, ne_eq]

structure PlayerCommandEvent where
  entity : Entity
  command : ChatCommand
  deriving DecidableEq, Repr

structure PlayerTeleportEvent (Position : Type) where
  entity : Entity
  position : Position

structure SpawnMonster (Location : Type) where
  refId : UInt32
  location : Location
  spawner : Option SpawnedBy
  withAi : Bool
  deriving DecidableEq

structure SpawnDrop (Location : Type) where
  item : Item
  relativePosition : Location
  owner : Option EntityReference
  deriving DecidableEq

structure ReceiveExperienceEvent where
  source : Option EntityReference
  target : EntityReference
  exp : UInt64
  sp : UInt64

/-! ### What is sent back -/

inductive ChatSource where
  | all (sender : UInt32)
  | allGm (sender : UInt32)
  | privateMessage (sender : String)
  | global (sender : String)
  deriving DecidableEq, Repr

/-- The only error is that the target is invalid. -/
inductive ChatMessageResult where
  | success
  | invalidTarget
  deriving DecidableEq, Repr

inductive Sent (F : Type) where
  | chatUpdate (source : ChatSource) (message : String)
  | chatMessageResponse (result : ChatMessageResult) (target : ChatTarget) (index : UInt8)
  | gmResponse (message : String)
  | changeSpeed (entity : UInt32) (walkSpeed runningSpeed : F)

/-! ### The world -/

/-- The data files, and the operations on floating-point numbers. -/
structure ChatData (F Position Location : Type) where
  items : DataMap
  itemId : RefItemData → String
  levels : List (UInt8 × UInt64)
  parseF32 : String → Option F
  defaultSpeed : F
  location : Position → Location
  fromIngameLocation : F → F → Position
  fromIngamePosition : F → F → F → Position
  formatLocation : Position → String
  formatGlobal : Position → String

/-- A client that is in the game. -/
structure ChatPlayer (F Position : Type) where
  entity : Entity
  gameEntity : GameEntity
  userId : UInt32
  name : String
  level : UInt8
  exp : UInt64
  position : Position
  target : Option Entity
  walkingSpeed : F
  runningSpeed : F
  entitiesInRadius : List Entity
  invincible : Bool
  invisible : Bool

/-- The game, with the events that were sent in this tick. -/
structure ChatGame (F Position Location Rest : Type) where
  players : List (ChatPlayer F Position)
  positions : Entity → Option Position
  lookup : EntityLookup
  monsterSpawns : List (SpawnMonster Location)
  drops : List (SpawnDrop Location)
  experience : List ReceiveExperienceEvent
  rest : Rest

/-- `commandEvents` are the events that were not read in the last tick, and whether they were there in the
tick before that.  No other system writes or reads them. -/
structure ChatWorld (F Position Location Rest : Type) where
  game : ChatGame F Position Location Rest
  commandEvents : List (PlayerCommandEvent × Bool)

variable {F Position Location Packet Rest : Type}

namespace ChatGame

def player (w : ChatGame F Position Location Rest) (entity : Entity) : Option (ChatPlayer F Position) :=
  w.players.find? fun player => player.entity == entity

def modifyPlayer (w : ChatGame F Position Location Rest) (entity : Entity)
    (change : ChatPlayer F Position → ChatPlayer F Position) : ChatGame F Position Location Rest :=
  { w with players := w.players.map fun player => if player.entity = entity then change player else player }

end ChatGame

/-! ### The chat -/

def canSendMessage (gm : Entity → Bool) (message : ChatMessage) (entity : Entity) : Bool :=
  match message.target with
  | .allGm => gm entity
  | .npc | .notice | .global => false
  | _ => true

/-- One message: the event that it causes, and what is sent to whom. -/
def handleMessage (gm : Entity → Bool) (w : ChatGame F Position Location Rest)
    (player : ChatPlayer F Position) (message : ChatMessage) :
    List PlayerCommandEvent × List (Entity × Sent F) :=
  let respond (result : ChatMessageResult) : Entity × Sent F :=
    (player.entity, .chatMessageResponse result message.target message.index)
  if canSendMessage gm message player.entity then
    match message.target with
    | .all =>
        let others := player.entitiesInRadius.filterMap w.player
        ([], (others.map fun other =>
          (other.entity, .chatUpdate (.all player.gameEntity.uniqueId) message.message)) ++ [respond .success])
    | .allGm =>
        if message.message.toList.head? = some '.' then
          let messageWithoutDot := message.message.toList.dropWhile fun c => c == '.'
          ([⟨player.entity, ChatCommand.ofLine messageWithoutDot⟩], [respond .success])
        else
          let others := (w.players.filter fun other => gm other.entity).filter fun other =>
            other.userId != player.userId
          ([], (others.map fun other =>
            (other.entity, .chatUpdate (.allGm player.gameEntity.uniqueId) message.message)) ++
              [respond .success])
    | .privateMessage =>
        match (message.recipient.bind w.lookup.getEntityForName).bind w.player with
        | some other =>
            ([], [(other.entity, .chatUpdate (.privateMessage player.name) message.message),
              respond .success])
        | none => ([], [respond .invalidTarget])
    | _ => ([], [])
  else ([], [respond .invalidTarget])

/-- All messages of all players: the events, and what is sent. -/
def handleChat (gm : Entity → Bool) (inputs : Entity → PlayerInput Packet)
    (w : ChatGame F Position Location Rest) : List PlayerCommandEvent × List (Entity × Sent F) :=
  let handled := w.players.flatMap fun player =>
    (inputs player.entity).chat.map fun message => handleMessage gm w player message
  (handled.flatMap Prod.fst, handled.flatMap Prod.snd)

/-! ### The packets of game masters -/

/-- What a command does: the events, the components that it inserts, and the answer. -/
structure GmOutcome (Location : Type) where
  monsters : List (SpawnMonster Location)
  drops : List (SpawnDrop Location)
  invincible : Bool
  invisible : Bool
  response : Option String

/-- A command of a player, whoever that is; `none` is a panic. -/
def handleGmCommand (data : ChatData F Position Location) (player : ChatPlayer F Position) :
    GmCommand → Option (GmOutcome Location)
  | .spawnMonster refId amount =>
      some ⟨List.replicate amount.toNat
        ⟨refId, data.location player.position, some (.player player.entity), true⟩, [], false, false,
        some s!"Spawned {amount.toNat} of {refId.toNat}"⟩
  | .makeItem refId upgrade => do
      let item ← makeItem data.items refId upgrade
      return ⟨[], [⟨item, data.location player.position, none⟩], false, false,
        some s!"Dropped 1 of {data.itemId item.reference}"⟩
  | .invincible => some ⟨[], [], true, false, some "Enabled invincibility"⟩
  | .invisible => some ⟨[], [], false, true, some "Enabled invisibility"⟩
  | .banUser _ => some ⟨[], [], false, false, none⟩
  | .killMonster _ _ => some ⟨[], [], false, false, none⟩

namespace GmOutcome

/-- The events are written, and the components are there at the end of the schedule. -/
def apply (outcome : GmOutcome Location) (entity : Entity) (w : ChatGame F Position Location Rest) :
    ChatGame F Position Location Rest :=
  { w.modifyPlayer entity fun player =>
      { player with
        invincible := player.invincible || outcome.invincible
        invisible := player.invisible || outcome.invisible } with
    monsterSpawns := w.monsterSpawns ++ outcome.monsters
    drops := w.drops ++ outcome.drops }

def sent (outcome : GmOutcome Location) (entity : Entity) : List (Entity × Sent F) :=
  (outcome.response.map fun message => (entity, Sent.gmResponse message)).toList

end GmOutcome

def handleGmCommands (data : ChatData F Position Location) (inputs : Entity → PlayerInput Packet) :
    List (ChatPlayer F Position) → ChatGame F Position Location Rest →
      Option (ChatGame F Position Location Rest × List (Entity × Sent F))
  | [], w => some (w, [])
  | player :: players, w =>
      match (inputs player.entity).gm with
      | some command => do
          let outcome ← handleGmCommand data player command
          let (w, sent) ← handleGmCommands data inputs players (outcome.apply player.entity w)
          return (w, outcome.sent player.entity ++ sent)
      | none => handleGmCommands data inputs players w

/-! ### The commands of the chat -/

/-- What a line does.  `stops` says that the system returns without looking at the next one. -/
structure CommandOutcome (F Position : Type) where
  speed : Option F
  teleport : Option Position
  experience : Option ReceiveExperienceEvent
  sent : List (Sent F)
  stops : Bool

namespace CommandOutcome

def respond (message : String) : CommandOutcome F Position :=
  ⟨none, none, none, [.chatUpdate (.global "System") message], false⟩

def nothing : CommandOutcome F Position := ⟨none, none, none, [], false⟩

end CommandOutcome

/-- `none` is a panic. -/
def handleCommandOf (p : Rust.Profile) (data : ChatData F Position Location)
    (w : ChatGame F Position Location Rest) (player : ChatPlayer F Position) (command : ChatCommand) :
    Option (CommandOutcome F Position) :=
  if command.name = "pos" then some (.respond (data.formatLocation player.position))
  else if command.name = "gpos" then some (.respond (data.formatGlobal player.position))
  else if command.name = "target" then
    match player.target with
    | none => some (.respond "No target selected.")
    | some target =>
        match w.positions target with
        | none => some (.respond "Target does not exist.")
        | some position => some (.respond (data.formatLocation position))
  else if command.name = "movespeed" then
    let speed := (command.args.head?.bind data.parseF32).getD data.defaultSpeed
    some ⟨some speed, none, none,
      [.changeSpeed player.gameEntity.uniqueId player.walkingSpeed speed], false⟩
  else if command.name = "level" then
    match command.args.head?.bind (parseUnsigned (2 ^ 8)) with
    | none => some (.respond "Invalid arguments")
    | some targetLevel =>
        if targetLevel ≤ player.level.toNat then
          some { CommandOutcome.respond "Level needs to be higher than the current one." with stops := true }
        else do
          let required := data.levels.filter fun level =>
            player.level.toNat ≤ level.1.toNat && level.1.toNat < targetLevel
          let totalRequiredExp ← (required.map Prod.snd).foldlM p.addU64 0
          if totalRequiredExp = 0 then
            return { CommandOutcome.respond "Level is not possible" with stops := true }
          let remaining ← p.subU64 totalRequiredExp player.exp
          return ⟨none, none, some ⟨none, ⟨player.entity, player.gameEntity⟩, remaining, 0⟩, [], false⟩
  else if command.name = "sp" then
    match command.args.head?.bind (parseUnsigned (2 ^ 32)) with
    | none => some (.respond "Invalid arguments")
    | some sp =>
        some ⟨none, none,
          some ⟨none, ⟨player.entity, player.gameEntity⟩, 0, UInt64.ofNat sp * 400⟩, [], false⟩
  else if command.name = "tp" then
    match command.args with
    | [x, z] => do
        let x ← data.parseF32 x
        let z ← data.parseF32 z
        return ⟨none, some (data.fromIngameLocation x z), none, [], false⟩
    | [x, y, z] => do
        let x ← data.parseF32 x
        let y ← data.parseF32 y
        let z ← data.parseF32 z
        return ⟨none, some (data.fromIngamePosition x y z), none, [], false⟩
    | _ => some (.respond "Invalid arguments")
  else some .nothing

/-- What the system leaves: the game, the events that it did not read, where to move whom, and what is
sent. -/
structure Handled (F Position Location Rest : Type) where
  game : ChatGame F Position Location Rest
  unread : List (PlayerCommandEvent × Bool)
  teleports : List (PlayerTeleportEvent Position)
  sent : List (Entity × Sent F)

def CommandOutcome.apply (outcome : CommandOutcome F Position) (player : ChatPlayer F Position)
    (handled : Handled F Position Location Rest) : Handled F Position Location Rest where
  game :=
    { handled.game.modifyPlayer player.entity fun player =>
        { player with runningSpeed := outcome.speed.getD player.runningSpeed } with
      experience := handled.game.experience ++ outcome.experience.toList }
  unread := handled.unread
  teleports := handled.teleports ++ (outcome.teleport.map (PlayerTeleportEvent.mk player.entity)).toList
  sent := handled.sent ++ outcome.sent.map fun sent => (player.entity, sent)

/-- The events are read one after the other; those that are not read are there in the next tick again. -/
def handleCommand (p : Rust.Profile) (data : ChatData F Position Location) :
    List (PlayerCommandEvent × Bool) → Handled F Position Location Rest →
      Option (Handled F Position Location Rest)
  | [], handled => some handled
  | event :: events, handled =>
      match handled.game.player event.1.entity with
      | some player => do
          let outcome ← handleCommandOf p data handled.game player event.1.command
          let handled := outcome.apply player handled
          if outcome.stops then return { handled with unread := events }
          handleCommand p data events handled
      | none => handleCommand p data events handled

def handleTeleport (w : ChatGame F Position Location Rest) (event : PlayerTeleportEvent Position) :
    ChatGame F Position Location Rest :=
  { w.modifyPlayer event.entity fun player => { player with position := event.position } with
    positions := fun entity =>
      if entity = event.entity then (w.positions entity).map fun _ => event.position
      else w.positions entity }

/-! ### A tick -/

/-- An event that nobody read for two ticks is lost. -/
def ageEvents (events : List (PlayerCommandEvent × Bool)) : List (PlayerCommandEvent × Bool) :=
  (events.filter fun event => !event.2).map fun event => (event.1, true)

/-- The events that `handle_command` reads in a tick. -/
def ChatWorld.readable (gm : Entity → Bool) (inputs : Entity → PlayerInput Packet)
    (w : ChatWorld F Position Location Rest) : List (PlayerCommandEvent × Bool) :=
  ageEvents w.commandEvents ++ (handleChat gm inputs w.game).1.map fun event => (event, false)

/-- The systems of a tick; what is sent is not part of the state.  All the others come after them, and read
what is left of the packets. -/
def ChatWorld.tick (p : Rust.Profile) (data : ChatData F Position Location) (gm : Entity → Bool)
    (others : (Entity → List Packet) → ChatGame F Position Location Rest →
      Option (ChatGame F Position Location Rest))
    (packets : Entity → List (ClientPacket Packet)) (w : ChatWorld F Position Location Rest) :
    Option (ChatWorld F Position Location Rest) := do
  let inputs := fun entity => receiveGameInputs (packets entity)
  let events := w.readable gm inputs
  let (game, _) ← handleGmCommands data inputs w.game.players w.game
  let handled ← handleCommand p data events ⟨game, [], [], []⟩
  let game ← others (fun entity => (inputs entity).others)
    (handled.teleports.foldl handleTeleport handled.game)
  return ⟨game, handled.unread⟩

/-! ### Privileges -/

section Runs

variable (p : Rust.Profile) (data : ChatData F Position Location) (gm : Entity → Bool)
variable (others : (Entity → List Packet) → ChatGame F Position Location Rest →
  Option (ChatGame F Position Location Rest))

end Runs

/-! ### Inputs -/

section Chat

variable {gm : Entity → Bool} {w : ChatGame F Position Location Rest} {player : ChatPlayer F Position}

/-- A command is the line of a game master. -/
theorem handleMessage_gm {message : ChatMessage} {event : PlayerCommandEvent}
    (h : event ∈ (handleMessage gm w player message).1) :
    event.entity = player.entity ∧ gm player.entity = true := by
  unfold handleMessage at h
  dsimp only at h
  split at h
  · rename_i hsend
    split at h
    · cases h
    · rename_i htarget
      split at h
      · rw [List.mem_singleton] at h
        refine ⟨by rw [h], ?_⟩
        simpa [canSendMessage, htarget] using hsend
      · cases h
    · split at h <;> cases h
    · cases h
  · cases h

theorem mem_handleChat {inputs : Entity → PlayerInput Packet} {event : PlayerCommandEvent}
    (h : event ∈ (handleChat gm inputs w).1) : gm event.entity = true := by
  obtain ⟨handled, hhandled, hevent⟩ := List.mem_flatMap.1 h
  obtain ⟨player, -, hplayer⟩ := List.mem_flatMap.1 hhandled
  obtain ⟨message, -, rfl⟩ := List.mem_map.1 hplayer
  obtain ⟨hentity, hgm⟩ := handleMessage_gm hevent
  rw [hentity]
  exact hgm

end Chat

/-! ### The packets of game masters -/

section Packets

variable {data : ChatData F Position Location} {player : ChatPlayer F Position} {command : GmCommand}

end Packets

/-! ### One tick -/

section Tick

variable {p : Rust.Profile} {data : ChatData F Position Location} {gm : Entity → Bool}
variable {others : (Entity → List Packet) → ChatGame F Position Location Rest →
  Option (ChatGame F Position Location Rest)}
variable {w w' : ChatWorld F Position Location Rest} {packets packets' : Entity → List (ClientPacket Packet)}

theorem handleCommand_unread {events : List (PlayerCommandEvent × Bool)}
    {handled handled' : Handled F Position Location Rest}
    (h : handleCommand p data events handled = some handled') :
    ∀ event ∈ handled'.unread, event ∈ events ∨ event ∈ handled.unread := by
  induction events generalizing handled with
  | nil =>
      obtain rfl := Option.some_inj.1 h
      exact fun event hevent => Or.inr hevent
  | cons event events ih =>
      have hlater (handled₁ : Handled F Position Location Rest) (hunread : handled₁.unread = handled.unread)
          (h : handleCommand p data events handled₁ = some handled') :
          ∀ e ∈ handled'.unread, e ∈ event :: events ∨ e ∈ handled.unread := by
        intro e he
        rcases ih h e he with hmem | hmem
        · exact Or.inl (List.mem_cons_of_mem _ hmem)
        · exact Or.inr (hunread ▸ hmem)
      rw [handleCommand] at h
      split at h
      · rename_i player _
        obtain ⟨outcome, -, h⟩ := Option.bind_eq_some_iff.1 h
        split at h
        · obtain rfl := Option.some_inj.1 h
          exact fun e he => Or.inl (List.mem_cons_of_mem _ he)
        · exact hlater (outcome.apply player handled) rfl h
      · exact hlater handled rfl h

/-- All lines that wait to be read are lines of game masters. -/
def GmEvents (gm : Entity → Bool) (w : ChatWorld F Position Location Rest) : Prop :=
  ∀ event ∈ w.commandEvents, gm event.1.entity = true

/-- **Chat commands are executed for game masters.** -/
theorem executed_gm (h : GmEvents gm w) {inputs : Entity → PlayerInput Packet}
    {event : PlayerCommandEvent × Bool} (hevent : event ∈ w.readable gm inputs) :
    gm event.1.entity = true := by
  rcases List.mem_append.1 hevent with hold | hnew
  · obtain ⟨old, hmem, rfl⟩ := List.mem_map.1 hold
    exact h old (List.mem_of_mem_filter hmem)
  · obtain ⟨new, hmem, rfl⟩ := List.mem_map.1 hnew
    exact mem_handleChat hmem

theorem GmEvents.tick (h : GmEvents gm w) (htick : w.tick p data gm others packets = some w') :
    GmEvents gm w' := by
  obtain ⟨⟨game, sent⟩, -, htick⟩ := Option.bind_eq_some_iff.1 htick
  obtain ⟨handled, hhandled, htick⟩ := Option.bind_eq_some_iff.1 htick
  obtain ⟨game', -, htick⟩ := Option.bind_eq_some_iff.1 htick
  obtain rfl := Option.some_inj.1 htick
  intro event hevent
  rcases handleCommand_unread hhandled event hevent with hmem | hmem
  · exact executed_gm h hmem
  · cases hmem

/-- What is sent back goes no further. -/
theorem tick_eq (w : ChatWorld F Position Location Rest) (packets : Entity → List (ClientPacket Packet)) :
    w.tick p data gm others packets =
      ((handleGmCommands data (fun entity => receiveGameInputs (packets entity)) w.game.players
        w.game).map Prod.fst).bind fun game =>
          (handleCommand p data (w.readable gm fun entity => receiveGameInputs (packets entity))
            ⟨game, [], [], []⟩).bind fun handled =>
              (others (fun entity => (receiveGameInputs (packets entity)).others)
                (handled.teleports.foldl handleTeleport handled.game)).map fun game =>
                  ⟨game, handled.unread⟩ := by
  unfold ChatWorld.tick
  dsimp only
  cases handleGmCommands data (fun entity => receiveGameInputs (packets entity)) w.game.players w.game with
  | none => rfl
  | some sent =>
      simp only [Option.map_some, Option.bind_some, Option.bind_eq_bind]
      refine Option.bind_congr fun handled _ => ?_
      cases others (fun entity => (receiveGameInputs (packets entity)).others)
        (handled.teleports.foldl handleTeleport handled.game) <;> rfl

end Tick

/-! ### Runs -/

section Run

variable (p : Rust.Profile) (data : ChatData F Position Location) (gm : Entity → Bool)
variable (others : (Entity → List Packet) → ChatGame F Position Location Rest →
  Option (ChatGame F Position Location Rest))

/-- A tick as a step of a run. -/
def step (packets : Entity → List (ClientPacket Packet)) (w : ChatWorld F Position Location Rest) :
    Option (ChatWorld F Position Location Rest) := w.tick p data gm others packets

variable {p data gm others} {run run' : List (Entity → List (ClientPacket Packet))}

end Run

/-- There are neither files nor numbers. -/
def sampleData : ChatData Unit Unit Unit where
  items := ⟨[]⟩
  itemId _ := ""
  levels := []
  parseF32 _ := none
  defaultSpeed := ()
  location _ := ()
  fromIngameLocation _ _ := ()
  fromIngamePosition _ _ _ := ()
  formatLocation _ := ""
  formatGlobal _ := ""

/-- A single player. -/
def sampleGame : ChatGame Unit Unit Unit Unit where
  players := [⟨1, ⟨7, 1907⟩, 1, "Nobody", 1, 0, (), none, (), (), [], false, false⟩]
  positions _ := some ()
  lookup := ⟨∅, ∅⟩
  monsterSpawns := []
  drops := []
  experience := []
  rest := ()

end Skrillax.Chat

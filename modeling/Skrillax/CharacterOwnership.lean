/-
**Whose characters are played.**

What a client asks for is done by tasks, which run at any time after the request, in any order, and whose
results are received later still.  In between the client goes on asking, other clients do the same, and users
come and go.  No statement checks who has started it: all that keeps users apart is that a task gets the user
of the client that asks, and that a result goes back to a client that has asked for it.

Main definitions:

* `Lobby`, `LobbyEvent`, `Lobby.event` — the login server, the database, and the tasks in between;
* `Listed` — a character was in a list of the characters of a user;
* `PlayedBy` — what a player has in the game comes from a listed character of its user;
* `ClientOwn` — the invariant: what a client has and waits for belongs to its user.

Main results:

* `ClientOwn.turn` — a turn keeps the invariant;
* `players_own_their_characters` — **in every run, whoever plays, plays a character that the database has for
  this user and that was not being deleted when it was listed**;
* `rows_of_absent_users` — **the characters of a user stay as they are throughout every run in which nobody
  is connected as this user**.
-/

import Skrillax.CharacterStore
import Skrillax.SelectionRuns

set_option relaxedAutoImplicit false
set_option autoImplicit false

namespace Skrillax

open Rust PartialAction

/-! ### The lobby -/

/-- The login server and the table of the characters, the tasks that have been started and not run yet, and the
results of those that have run. -/
structure Lobby where
  server : LoginServer
  table : CharacterTable
  now : Instant
  spawned : List Task
  results : List (Task × TaskResult)

inductive LobbyEvent where
  | login (event : LoginEvent)
  | turn (i : ℕ) (turn : ClientTurn)
  | runTask (k : ℕ)
  | later (now : Instant)

def SelectionEvent.startedTask : SelectionEvent → Option Task
  | .started task => some task
  | _ => none

/-- The tasks that have been started since. -/
def startedSince (before after : LoginClient) : List Task :=
  (after.history.drop before.history.length).filterMap SelectionEvent.startedTask

/-- The result that a system receives in a turn, and for which job. -/
def ClientTurn.received : ClientTurn → Option (Job × TaskResult)
  | .create (.ok ()) => some (.create, .created)
  | .restore (.ok success) => some (.restore, .restored success)
  | .delete (.ok success) => some (.delete, .deleted success)
  | .nameCheck (.ok (name, available)) => some (.checkName, .checked name available)
  | .listReceived (.ok characters) => some (.loading, .loaded characters)
  | _ => none

/-- What is received is the result of a task that has run, and for which the client waits. -/
def ClientTurn.Delivered (results : List (Task × TaskResult)) (turn : ClientTurn) (client : LoginClient) : Prop :=
  ∀ r ∈ turn.received, ∃ task ∈ client.jobs r.1, (task, r.2) ∈ results

instance (results : List (Task × TaskResult)) (turn : ClientTurn) (client : LoginClient) :
    Decidable (turn.Delivered results client) :=
  inferInstanceAs (Decidable (∀ r ∈ turn.received, ∃ task ∈ client.jobs r.1, (task, r.2) ∈ results))

section Lobby

variable (profile : Profile) (data : WorldData) (iteration : Iteration) (maxLevel : UInt8)
  (settings : SelectionSettings) (max : UInt16) (reservationValidTime : UInt64) (lower : String → String)

/-- An event; `none` is a panic, or something that cannot happen in this state. -/
def Lobby.event : LobbyEvent → Lobby → Option Lobby
  | .login event, s => do
      let server ← s.server.step profile max reservationValidTime event
      return { s with server }
  | .turn i turn, s => do
      let client ← s.server.clients[i]?
      if turn.Delivered s.results client then
        let after ← client.turn profile data iteration maxLevel settings turn
        return { s with
          server := { s.server with clients := s.server.clients.set i after }
          spawned := s.spawned ++ startedSince client after }
      else
        none
  | .runTask k, s => do
      let task ← s.spawned[k]?
      let (table, result) := task.run lower s.now s.table
      return { s with table, spawned := s.spawned.eraseIdx k, results := s.results ++ [(task, result)] }
  | .later now, s => some { s with now := Nat.max s.now now }

/-- The server starts with a table of characters. -/
def Lobby.start (now : Instant) (table : CharacterTable) : Lobby where
  server := .start now
  table := table
  now := now
  spawned := []
  results := []

/-! ### The invariant -/

/-- The character is in a list of the characters of the user that a task has loaded. -/
def Listed (results : List (Task × TaskResult)) (userId : Int32) (serverId : UInt16)
    (character : DbCharacter) : Prop :=
  ∃ characters, (Task.loadCharactersSparse userId serverId, TaskResult.loaded characters) ∈ results ∧
    character ∈ characters

/-- A character becomes what a player has in the game. -/
structure Becomes (character : DbCharacter) (bundle : PlayerBundle) : Prop where
  name : bundle.name = character.charname
  refId : bundle.gameEntity.refId = character.characterType.toUInt32
  loaded : loadCharacter profile character.characterData character.masteries character.skills =
    some bundle.character
  inventory : fromDbInventory data.items.findId character.items INVENTORY_SIZE (by decide) = some bundle.inventory

/-- What the player has comes from a playable character in a list of its user. -/
structure PlayedBy (results : List (Task × TaskResult)) (playing : Playing) (bundle : PlayerBundle) : Prop where
  user : bundle.user = playing.user
  listed : ∃ character, Listed results playing.user.id settings.serverId character ∧ character.Playable data ∧
    Becomes profile data character bundle

/-- The client waits for a list, or is about to. -/
def LoginClient.AwaitsList (client : LoginClient) (task : Task) : Prop :=
  client.jobs .loading = some task ∨ .insertJob .loading task ∈ client.commands

/-- The client has become a player, or is about to. -/
def LoginClient.HasBundle (client : LoginClient) (bundle : PlayerBundle) : Prop :=
  client.bundle = some bundle ∨ .insertBundle bundle ∈ client.commands

/-- What a client has and waits for belongs to its user. -/
structure ClientOwn (results : List (Task × TaskResult)) (client : LoginClient) : Prop where
  awaits : ∀ task, client.AwaitsList task →
    ∃ playing ∈ client.playing, task = .loadCharactersSparse playing.user.id settings.serverId
  characters : ∀ charselect ∈ client.characterSelect, ∀ characters ∈ charselect.characters,
    ∃ playing ∈ client.playing, ∀ character ∈ characters,
      Listed results playing.user.id settings.serverId character
  bundle : ∀ bundle, client.HasBundle bundle →
    ∃ playing ∈ client.playing, PlayedBy profile data settings results playing bundle
  started : ∀ task, .started task ∈ client.history →
    ∃ playing ∈ client.playing, ∀ userId ∈ task.userId, userId = playing.user.id

end Lobby

/-! ### Turns keep the invariant -/

section Turns

variable {profile : Profile} {data : WorldData} {iteration : Iteration} {maxLevel : UInt8}
  {settings : SelectionSettings} {results : List (Task × TaskResult)} {client client' : LoginClient}

namespace ClientOwn

/-- More results make no difference. -/
theorem mono (h : ClientOwn profile data settings results client) {more : List (Task × TaskResult)} :
    ClientOwn profile data settings (results ++ more) client := by
  have hlisted : ∀ {userId serverId character}, Listed results userId serverId character →
      Listed (results ++ more) userId serverId character := by
    rintro userId serverId character ⟨characters, hmem, hcharacter⟩
    exact ⟨characters, List.mem_append_left more hmem, hcharacter⟩
  refine ⟨h.awaits, fun charselect hcharselect characters hcharacters => ?_, fun bundle hbundle => ?_, h.started⟩
  · obtain ⟨playing, hplaying, hall⟩ := h.characters charselect hcharselect characters hcharacters
    exact ⟨playing, hplaying, fun character hcharacter => hlisted (hall character hcharacter)⟩
  · obtain ⟨playing, hplaying, huser, character, hlist, hrest⟩ := h.bundle bundle hbundle
    exact ⟨playing, hplaying, huser, character, hlisted hlist, hrest⟩

/-- What is sent and received makes no difference. -/
theorem congr (h : ClientOwn profile data settings results client) (hplaying : client'.playing = client.playing)
    (hcharselect : client'.characterSelect = client.characterSelect) (hjobs : client'.jobs = client.jobs)
    (hbundle : client'.bundle = client.bundle) (hcommands : client'.commands = client.commands)
    (hhistory : client'.history = client.history) : ClientOwn profile data settings results client' := by
  obtain ⟨hawaits, hcharacters, hbundles, hstarted⟩ := h
  refine ⟨?_, ?_, ?_, ?_⟩
  · simpa only [LoginClient.AwaitsList, hplaying, hjobs, hcommands] using hawaits
  · simpa only [hplaying, hcharselect] using hcharacters
  · simpa only [LoginClient.HasBundle, hplaying, hbundle, hcommands] using hbundles
  · simpa only [hplaying, hhistory] using hstarted

theorem send (h : ClientOwn profile data settings results client) (message : LoginMessage) :
    ClientOwn profile data settings results (client.send message) :=
  h.congr rfl rfl rfl rfl rfl rfl

/-- A command that inserts nothing. -/
theorem queueCommand (h : ClientOwn profile data settings results client) {command : LoginCommand}
    (hjob : ∀ job task, command ≠ .insertJob job task) (hbundle : ∀ bundle, command ≠ .insertBundle bundle) :
    ClientOwn profile data settings results (client.queueCommand command) := by
  refine ⟨fun task htask => h.awaits task (htask.imp_right fun hmem => ?_), h.characters,
    fun bundle hhas => h.bundle bundle (hhas.imp_right fun hmem => ?_), h.started⟩
  · exact (List.mem_append.1 hmem).resolve_right fun heq => hjob _ _ (List.mem_singleton.1 heq).symm
  · exact (List.mem_append.1 hmem).resolve_right fun heq => hbundle _ (List.mem_singleton.1 heq).symm

theorem record (h : ClientOwn profile data settings results client) {event : SelectionEvent}
    (hevent : ∀ task, event ≠ .started task) :
    ClientOwn profile data settings results (client.record event) := by
  refine ⟨h.awaits, h.characters, h.bundle, fun task htask => h.started task ?_⟩
  exact (List.mem_append.1 htask).resolve_right fun heq => hevent _ (List.mem_singleton.1 heq).symm

/-- A task of the user is started; a list is that of the user. -/
theorem startTask (h : ClientOwn profile data settings results client) {playing : Playing}
    (hplaying : client.playing = some playing) {job : Job} {task : Task}
    (hlist : job = .loading → task = .loadCharactersSparse playing.user.id settings.serverId)
    (htask : ∀ userId ∈ task.userId, userId = playing.user.id) :
    ClientOwn profile data settings results (client.startTask job task) := by
  refine ⟨fun task' hawaits => ?_, h.characters, fun bundle hhas => ?_, fun task' hstarted => ?_⟩
  · rcases hawaits with hjob | hmem
    · exact h.awaits task' (.inl hjob)
    · rcases List.mem_append.1 hmem with hmem | hmem
      · exact h.awaits task' (.inr hmem)
      · obtain ⟨hjob, rfl⟩ := LoginCommand.insertJob.inj (List.mem_singleton.1 hmem)
        exact ⟨playing, hplaying, hlist hjob.symm⟩
  · refine h.bundle bundle (hhas.imp_right fun hmem => ?_)
    exact (List.mem_append.1 hmem).resolve_right fun heq => by cases List.mem_singleton.1 heq
  · rcases List.mem_append.1 hstarted with hmem | hmem
    · exact h.started task' hmem
    · obtain rfl := SelectionEvent.started.inj (List.mem_singleton.1 hmem)
      exact ⟨playing, hplaying, htask⟩

/-- The state of the selection changes, but not its list. -/
theorem setCharselect (h : ClientOwn profile data settings results client) {charselect charselect' : CharacterSelect}
    (hcharselect : client.characterSelect = some charselect)
    (hcharacters : charselect'.characters = charselect.characters) :
    ClientOwn profile data settings results { client with characterSelect := some charselect' } := by
  refine ⟨h.awaits, fun after hafter characters hmem => ?_, h.bundle, h.started⟩
  obtain rfl := Option.some_inj.1 hafter
  exact h.characters charselect hcharselect characters (hcharacters ▸ hmem)

/-- Receiving a result keeps the invariant if handling it does. -/
theorem handleTask (h : ClientOwn profile data settings results client) {α : Type} {job : Job} {received : TryRecv α}
    {handle : α → LoginClient → LoginClient}
    (hhandle : ∀ a, received = .ok a → ClientOwn profile data settings results (handle a client)) :
    ClientOwn profile data settings results (Skrillax.handleTask job received handle client) := by
  have hremove : ∀ {client : LoginClient}, ClientOwn profile data settings results client →
      ClientOwn profile data settings results (client.queueCommand (.removeJob job)) :=
    fun h => h.queueCommand (fun _ _ heq => by cases heq) (fun _ heq => by cases heq)
  unfold Skrillax.handleTask
  split
  · cases received with
    | ok a => exact hremove (hhandle a rfl)
    | empty => exact h
    | closed => exact hremove h
  · exact h

/-- The list that is received is one of the user. -/
theorem handleCharacterListReceived (h : ClientOwn profile data settings results client)
    {received : TryRecv (List DbCharacter)}
    (hdelivered : (ClientTurn.listReceived received).Delivered results client) :
    ClientOwn profile data settings results (Skrillax.handleCharacterListReceived received client) := by
  unfold Skrillax.handleCharacterListReceived
  split
  · exact h
  · refine h.handleTask fun characters hreceived => ?_
    subst hreceived
    obtain ⟨task, hjob, hresult⟩ := hdelivered (.loading, .loaded characters) rfl
    obtain ⟨playing, hplaying, rfl⟩ := h.awaits task (.inl hjob)
    have hset : ∀ charselect : CharacterSelect, charselect.characters = some characters →
        ClientOwn profile data settings results { client with characterSelect := some charselect } := by
      intro charselect hcharacters
      refine ⟨h.awaits, fun after hafter loaded hloaded => ?_, h.bundle, h.started⟩
      obtain rfl := Option.some_inj.1 hafter
      obtain rfl := Option.some_inj.1 (hcharacters.symm.trans hloaded)
      exact ⟨playing, hplaying, fun character hcharacter => ⟨characters, hresult, hcharacter⟩⟩
    exact ((hset _ rfl).record fun _ heq => by cases heq).send _

theorem handleCharacterNameCheck (h : ClientOwn profile data settings results client)
    (received : TryRecv (String × Bool)) :
    ClientOwn profile data settings results (Skrillax.handleCharacterNameCheck received client) := by
  unfold Skrillax.handleCharacterNameCheck
  split
  · exact h
  · rename_i charselect hcharselect
    refine h.handleTask fun answer _ => ?_
    refine ClientOwn.send (ClientOwn.record (h.setCharselect hcharselect ?_) fun task heq => ?_) _
    · rfl
    · cases heq

/-- A request of a client is handled for the user as whom it plays. -/
theorem handleAction (h : ClientOwn profile data settings results client) {playing : Playing}
    (hplaying : client.playing = some playing) {charselect : CharacterSelect}
    (hcharselect : client.characterSelect = some charselect) (action : CharacterListRequestAction) :
    ClientOwn profile data settings results
        (Skrillax.handleAction settings playing.user.id charselect client action) ∧
      (Skrillax.handleAction settings playing.user.id charselect client action).playing = some playing := by
  have hself : ∀ task : Task, task.userId = some playing.user.id → ∀ userId ∈ task.userId, userId = playing.user.id :=
    fun task htask userId hmem => Option.some_inj.1 (hmem.symm.trans htask)
  cases action with
  | create characterName refId scale chest pants boots weapon =>
      simp only [Skrillax.handleAction]
      split
      · exact ⟨h.startTask hplaying (fun heq => by cases heq) (hself _ rfl), hplaying⟩
      · exact ⟨(h.send _).startTask hplaying (fun heq => by cases heq) (hself _ rfl), hplaying⟩
  | list => exact ⟨h.startTask hplaying (fun _ => rfl) (hself _ rfl), hplaying⟩
  | delete characterName =>
      simp only [Skrillax.handleAction]
      split
      · exact ⟨h.startTask hplaying (fun heq => by cases heq) (hself _ rfl), hplaying⟩
      · exact ⟨h.send _, hplaying⟩
  | checkName characterName =>
      have hset : ClientOwn profile data settings results
          { client with characterSelect := some { charselect with checkedName := none } } :=
        h.setCharselect hcharselect rfl
      exact ⟨hset.startTask hplaying (fun heq => by cases heq) (fun userId hmem => by cases hmem), hplaying⟩
  | restore characterName =>
      simp only [Skrillax.handleAction]
      split
      · exact ⟨h.startTask hplaying (fun heq => by cases heq) (hself _ rfl), hplaying⟩
      · exact ⟨h.send _, hplaying⟩
  | showJobSpread => exact ⟨h.send _, hplaying⟩
  | assignJob job => exact ⟨h, hplaying⟩

/-- Induction on the requests that are still to be handled; the client goes on playing as the same user. -/
theorem handleListRequest (h : ClientOwn profile data settings results client) :
    ClientOwn profile data settings results (Skrillax.handleListRequest settings client) := by
  have hfold : ∀ (playing : Playing) (actions : List CharacterListRequestAction) (client : LoginClient),
      ClientOwn profile data settings results client → client.playing = some playing →
        ClientOwn profile data settings results
          (actions.foldl (handleRequested settings playing.user.id) client) := by
    intro playing actions
    induction actions with
    | nil => exact fun _ h _ => h
    | cons action actions ih =>
        intro client h hplaying
        have hfirst : ClientOwn profile data settings results
              (handleRequested settings playing.user.id client action) ∧
            (handleRequested settings playing.user.id client action).playing = some playing := by
          unfold handleRequested
          split
          · exact ⟨h, hplaying⟩
          · rename_i charselect hcharselect
            exact (h.record fun _ heq => by cases heq).handleAction hplaying hcharselect action
        exact ih _ hfirst.1 hfirst.2
  unfold Skrillax.handleListRequest
  split
  · rename_i playing input hplaying _
    exact hfold playing input.list client h hplaying
  · exact h

end ClientOwn

/-- What a character becomes that is turned into a player. -/
theorem joinWorld_becomes {newId : Option UInt32} {user : ServerUser} {character : DbCharacter}
    (h : joinWorld profile data iteration maxLevel newId user character client = some client') :
    ∃ bundle sent, bundle.user = user ∧ Becomes profile data character bundle ∧
      client' = { client with sent, commands := client.commands ++ joinCommands bundle } := by
  obtain ⟨inventory, hinventory, h⟩ := Option.bind_eq_some_iff.1 h
  obtain ⟨uniqueId, hid, h⟩ := Option.bind_eq_some_iff.1 h
  obtain ⟨spawned, hspawned, h⟩ := Option.bind_eq_some_iff.1 h
  obtain ⟨loaded, hloaded, h⟩ := Option.bind_eq_some_iff.1 h
  refine ⟨{ user, name := character.charname, character := loaded
            gameEntity := { uniqueId, refId := character.characterType.toUInt32 }, inventory }, client'.sent,
    rfl, ⟨rfl, rfl, hloaded, hinventory⟩, ?_⟩
  obtain ⟨sent, rfl⟩ := sendSpawn_frame data iteration maxLevel hspawned
  obtain rfl := Option.some_inj.1 h
  simp [LoginClient.queueCommand, LoginClient.send, joinCommands]

namespace ClientOwn

/-- The character of a client that joins comes from the list of its selection. -/
theorem handleJoin (h : ClientOwn profile data settings results client) {newId : Option UInt32}
    (hjoin : Skrillax.handleJoin profile data iteration maxLevel newId client = some client') :
    ClientOwn profile data settings results client' := by
  rw [Skrillax.handleJoin] at hjoin
  split at hjoin
  · exact Option.some_inj.1 hjoin ▸ h
  · rename_i join charselect playing hrequest
    split at hjoin
    · rename_i characters hcharacters
      obtain ⟨character, hfind, hjoin⟩ := Option.bind_eq_some_iff.1 hjoin
      split at hjoin
      · exact Option.some_inj.1 hjoin ▸ h.send _
      · rename_i hknown
        split at hjoin
        · exact Option.some_inj.1 hjoin ▸ h.send _
        · rename_i hdeletion
          obtain ⟨bundle, sent, huser, hbecomes, rfl⟩ := joinWorld_becomes hjoin
          obtain ⟨input, -, hrequest⟩ := Option.bind_eq_some_iff.1 hrequest
          obtain ⟨charselect', hcharselect, hrequest⟩ := Option.bind_eq_some_iff.1 hrequest
          obtain ⟨playing', hplaying, hrequest⟩ := Option.bind_eq_some_iff.1 hrequest
          obtain ⟨join', -, hrequest⟩ := Option.bind_eq_some_iff.1 hrequest
          cases hrequest
          obtain ⟨playing', hplaying', hlisted⟩ := h.characters charselect hcharselect characters hcharacters
          obtain rfl : playing = playing' := Option.some_inj.1 (hplaying.symm.trans hplaying')
          have hplayable : character.Playable data :=
            ⟨Option.isSome_iff_ne_none.2 (by simpa using hknown), by simpa using hdeletion⟩
          refine ⟨fun task hawaits => h.awaits task (hawaits.imp_right fun hmem => ?_), h.characters,
            fun bundle' hhas => ?_, h.started⟩
          · exact (List.mem_append.1 hmem).resolve_right fun hnew => by simp [joinCommands] at hnew
          · rcases hhas with hbundle | hmem
            · exact h.bundle bundle' (.inl hbundle)
            · rcases List.mem_append.1 hmem with hmem | hmem
              · exact h.bundle bundle' (.inr hmem)
              · obtain rfl : bundle' = bundle := by simpa [joinCommands] using hmem
                exact ⟨playing, hplaying, huser, character, hlisted character (List.mem_of_find?_eq_some hfind),
                  hplayable, hbecomes⟩
    · exact Option.some_inj.1 hjoin ▸ h.send _

theorem applyPending (h : ClientOwn profile data settings results client) {k : ℕ}
    (happly : client.applyPending k = some client') : ClientOwn profile data settings results client' := by
  obtain ⟨command, hcommand, happly⟩ := Option.bind_eq_some_iff.1 happly
  obtain rfl := Option.some_inj.1 happly
  have hmem := List.mem_of_getElem? hcommand
  have hrest : ∀ {command' : LoginCommand}, command' ∈ client.commands.eraseIdx k → command' ∈ client.commands :=
    fun h => List.mem_of_mem_eraseIdx h
  have hawaits : ∀ task, (client.jobs .loading = some task ∨
      .insertJob .loading task ∈ client.commands.eraseIdx k) → client.AwaitsList task :=
    fun task hwaits => hwaits.imp_right hrest
  have hhas : ∀ bundle, (client.bundle = some bundle ∨ .insertBundle bundle ∈ client.commands.eraseIdx k) →
      client.HasBundle bundle := fun bundle hbundle => hbundle.imp_right hrest
  cases command with
  | insertJob job task =>
      refine ⟨fun task' hwaits => h.awaits task' ?_, h.characters, fun bundle hb => h.bundle bundle (hhas bundle hb),
        h.started⟩
      rcases hwaits with hjob | hlater
      · by_cases hloading : job = .loading
        · subst hloading
          simp only [LoginClient.apply, Function.update_self, Option.some_inj] at hjob
          exact .inr (hjob ▸ hmem)
        · simp only [LoginClient.apply, Function.update_of_ne (Ne.symm hloading)] at hjob
          exact .inl hjob
      · exact .inr (hrest hlater)
  | removeJob job =>
      refine ⟨fun task' hwaits => h.awaits task' ?_, h.characters, fun bundle hb => h.bundle bundle (hhas bundle hb),
        h.started⟩
      rcases hwaits with hjob | hlater
      · by_cases hloading : job = .loading
        · subst hloading
          simp [LoginClient.apply] at hjob
        · simp only [LoginClient.apply, Function.update_of_ne (Ne.symm hloading)] at hjob
          exact .inl hjob
      · exact .inr (hrest hlater)
  | insertBundle bundle =>
      refine ⟨fun task hwaits => h.awaits task (hawaits task hwaits), h.characters, fun bundle' hb => ?_, h.started⟩
      rcases hb with heq | hlater
      · obtain rfl := Option.some_inj.1 heq
        exact h.bundle bundle (.inr hmem)
      · exact h.bundle bundle' (.inr (hrest hlater))
  | removeCharacterSelect =>
      exact ⟨fun task hwaits => h.awaits task (hawaits task hwaits), fun charselect heq => (by cases heq),
        fun bundle hb => h.bundle bundle (hhas bundle hb), h.started⟩
  | removeLoginInput =>
      exact ⟨fun task hwaits => h.awaits task (hawaits task hwaits), h.characters,
        fun bundle hb => h.bundle bundle (hhas bundle hb), h.started⟩

theorem receiveLoginInputs (h : ClientOwn profile data settings results client) (packets : List LoginPacket) :
    ClientOwn profile data settings results (client.receiveLoginInputs packets) := by
  have hfold : ∀ client : LoginClient, ClientOwn profile data settings results client →
      ClientOwn profile data settings results (packets.foldl LoginClient.receive client) := by
    induction packets with
    | nil => exact fun _ h => h
    | cons packet packets ih =>
        intro client h
        refine ih _ ?_
        cases packet <;> exact h.congr rfl rfl rfl rfl rfl rfl
  unfold LoginClient.receiveLoginInputs
  split
  · exact hfold client h
  · exact h

/-- **A turn keeps the invariant.** -/
theorem turn (h : ClientOwn profile data settings results client) {turn : ClientTurn}
    (hdelivered : turn.Delivered results client)
    (hturn : client.turn profile data iteration maxLevel settings turn = some client') :
    ClientOwn profile data settings results client' := by
  cases turn with
  | receive packets => exact Option.some_inj.1 hturn ▸ h.receiveLoginInputs packets
  | create received => exact Option.some_inj.1 hturn ▸ h.handleTask fun _ _ => h.send _
  | restore received =>
      exact Option.some_inj.1 hturn ▸ h.handleTask fun result _ => by cases result <;> exact h.send _
  | delete received =>
      refine Option.some_inj.1 hturn ▸ h.handleTask fun success _ => ?_
      cases success with
      | true => exact h.send _
      | false => exact h
  | nameCheck received => exact Option.some_inj.1 hturn ▸ h.handleCharacterNameCheck received
  | listReceived received => exact Option.some_inj.1 hturn ▸ h.handleCharacterListReceived hdelivered
  | join newId => exact h.handleJoin hturn
  | listRequest => exact Option.some_inj.1 hturn ▸ h.handleListRequest
  | apply k => exact h.applyPending hturn
  | reset => exact Option.some_inj.1 hturn ▸ h.congr rfl rfl rfl rfl rfl rfl

end ClientOwn

/-- A client that authenticates had nothing before. -/
theorem ClientOwn.authenticate (h : ClientOwn profile data settings results client) (hplaying : client.playing = none)
    (now : Instant) (auth : AuthRequest) (queue : QueueState) :
    ClientOwn profile data settings results (Skrillax.authenticate now auth client queue).1 := by
  unfold Skrillax.authenticate
  split
  · have hnone : ∀ {p : Playing → Prop}, ¬ ∃ playing ∈ client.playing, p playing := by
      rintro p ⟨playing, hmem, -⟩
      rw [hplaying] at hmem
      cases hmem
    refine ⟨fun task hawaits => absurd (h.awaits task hawaits) hnone, fun charselect heq characters hmem => ?_,
      fun bundle hhas => absurd (h.bundle bundle hhas) hnone, fun task hmem => absurd (h.started task hmem) hnone⟩
    obtain rfl := Option.some_inj.1 heq
    cases hmem
  · exact h.send _

theorem clientOwn_accepted : ClientOwn profile data settings results .accepted :=
  ⟨fun task hawaits => (by rcases hawaits with h | h <;> cases h), fun charselect heq => (by cases heq),
    fun bundle hhas => (by rcases hhas with h | h <;> cases h), fun task hmem => by cases hmem⟩

end Turns

/-! ### Runs -/

/-- A list that has been loaded names characters that the table has. -/
def ResultsOwned (s : Lobby) : Prop :=
  ∀ userId serverId character, Listed s.results userId serverId character →
    Owns s.table userId (serverAsI32 serverId) character.charname

section Runs

variable {profile : Profile} {data : WorldData} {iteration : Iteration} {maxLevel : UInt8}
  {settings : SelectionSettings} {max : UInt16} {reservationValidTime : UInt64} {lower : String → String}
  {s t : Lobby}

/-- The invariant of the lobby. -/
structure Lobby.Own (profile : Profile) (data : WorldData) (settings : SelectionSettings) (s : Lobby) : Prop where
  clients : ∀ client ∈ s.server.clients, ClientOwn profile data settings s.results client
  results : ResultsOwned s

theorem mem_of_startedSince {before after : LoginClient} {task : Task} (h : task ∈ startedSince before after) :
    .started task ∈ after.history := by
  obtain ⟨event, hevent, htask⟩ := List.mem_filterMap.1 h
  cases event with
  | started task' =>
      obtain rfl := Option.some_inj.1 htask
      exact List.mem_of_mem_drop hevent
  | loaded | answered | requested => cases htask

/-- Whoever logs in, the clients keep what is theirs. -/
theorem clientOwn_step {server server' : LoginServer} {event : LoginEvent} {results : List (Task × TaskResult)}
    (h : ∀ client ∈ server.clients, ClientOwn profile data settings results client)
    (hstep : server.step profile max reservationValidTime event = some server') :
    ∀ client ∈ server'.clients, ClientOwn profile data settings results client := by
  intro client hclient
  cases event with
  | connect =>
      obtain rfl := Option.some_inj.1 hstep
      rcases List.mem_append.1 hclient with hmem | hmem
      · exact h client hmem
      · exact List.mem_singleton.1 hmem ▸ clientOwn_accepted
  | request draws user now later =>
      obtain rfl := LoginServer.step_request hstep
      exact h client hclient
  | authenticate i auth now =>
      rcases LoginServer.step_authenticate hstep with rfl | ⟨before, hbefore, hplaying, rfl⟩
      · exact h client hclient
      · rcases List.mem_or_eq_of_mem_set hclient with hmem | rfl
        · exact h client hmem
        · exact (h before (List.mem_of_getElem? hbefore)).authenticate hplaying now auth server.queue
  | disconnect i =>
      obtain ⟨gone, -, rfl⟩ := LoginServer.step_disconnect hstep
      exact h client (List.mem_of_mem_eraseIdx hclient)

theorem listed_concat_iff {results : List (Task × TaskResult)} {task : Task} {result : TaskResult} {userId : Int32}
    {serverId : UInt16} {character : DbCharacter} :
    Listed (results ++ [(task, result)]) userId serverId character ↔
      Listed results userId serverId character ∨
        (task = .loadCharactersSparse userId serverId ∧ ∃ characters, result = .loaded characters ∧
          character ∈ characters) := by
  constructor
  · rintro ⟨characters, hmem, hcharacter⟩
    rcases List.mem_append.1 hmem with hmem | hmem
    · exact .inl ⟨characters, hmem, hcharacter⟩
    · obtain ⟨rfl, rfl⟩ := Prod.mk.inj (List.mem_singleton.1 hmem)
      exact .inr ⟨rfl, characters, rfl, hcharacter⟩
  · rintro (⟨characters, hmem, hcharacter⟩ | ⟨rfl, characters, rfl, hcharacter⟩)
    · exact ⟨characters, List.mem_append_left _ hmem, hcharacter⟩
    · exact ⟨characters, List.mem_append_right _ (List.mem_singleton_self _), hcharacter⟩

/-- A task that runs leaves the lists backed by the table. -/
theorem resultsOwned_run (h : ResultsOwned s) (task : Task) {spawned : List Task} :
    ResultsOwned { s with
      table := (task.run lower s.now s.table).1
      spawned, results := s.results ++ [(task, (task.run lower s.now s.table).2)] } := by
  intro userId serverId character hlisted
  refine Task.run_owned ?_
  rcases listed_concat_iff.1 hlisted with hbefore | ⟨rfl, characters, hloaded, hcharacter⟩
  · exact h userId serverId character hbefore
  · exact Task.owns_of_loaded hloaded character hcharacter

/-- What an event does. -/
theorem Lobby.event_cases {e : LobbyEvent}
    (h : Lobby.event profile data iteration maxLevel settings max reservationValidTime lower e s = some t) :
    (∃ event server, s.server.step profile max reservationValidTime event = some server ∧ t = { s with server }) ∨
    (∃ i turn client after, s.server.clients[i]? = some client ∧ turn.Delivered s.results client ∧
      client.turn profile data iteration maxLevel settings turn = some after ∧
      t = { s with
        server := { s.server with clients := s.server.clients.set i after }
        spawned := s.spawned ++ startedSince client after }) ∨
    (∃ k task, s.spawned[k]? = some task ∧
      t = { s with
        table := (task.run lower s.now s.table).1
        spawned := s.spawned.eraseIdx k
        results := s.results ++ [(task, (task.run lower s.now s.table).2)] }) ∨
    ∃ now, t = { s with now := Nat.max s.now now } := by
  cases e with
  | login event =>
      obtain ⟨server, hserver, h⟩ := Option.bind_eq_some_iff.1 h
      exact .inl ⟨event, server, hserver, (Option.some_inj.1 h).symm⟩
  | turn i turn =>
      obtain ⟨client, hclient, h⟩ := Option.bind_eq_some_iff.1 h
      split at h
      · rename_i hdelivered
        obtain ⟨after, hafter, h⟩ := Option.bind_eq_some_iff.1 h
        exact .inr (.inl ⟨i, turn, client, after, hclient, hdelivered, hafter, (Option.some_inj.1 h).symm⟩)
      · cases h
  | runTask k =>
      obtain ⟨task, htask, h⟩ := Option.bind_eq_some_iff.1 h
      exact .inr (.inr (.inl ⟨k, task, htask, (Option.some_inj.1 h).symm⟩))
  | later now => exact .inr (.inr (.inr ⟨now, (Option.some_inj.1 h).symm⟩))

/-- An event keeps the invariant. -/
theorem Lobby.Own.event (hs : s.Own profile data settings) {e : LobbyEvent}
    (h : Lobby.event profile data iteration maxLevel settings max reservationValidTime lower e s = some t) :
    t.Own profile data settings := by
  rcases Lobby.event_cases h with ⟨event, server, hstep, rfl⟩ | ⟨i, turn, client, after, hclient, hdelivered, hturn, rfl⟩ |
    ⟨k, task, -, rfl⟩ | ⟨now, rfl⟩
  · exact ⟨clientOwn_step hs.clients hstep, hs.results⟩
  · refine ⟨fun client' hclient' => ?_, hs.results⟩
    rcases List.mem_or_eq_of_mem_set hclient' with hmem | rfl
    · exact hs.clients client' hmem
    · exact (hs.clients client (List.mem_of_getElem? hclient)).turn hdelivered hturn
  · exact ⟨fun client hclient => (hs.clients client hclient).mono, resultsOwned_run hs.results task⟩
  · exact ⟨hs.clients, hs.results⟩

theorem own_start (now : Instant) (table : CharacterTable) : (Lobby.start now table).Own profile data settings :=
  ⟨fun client hclient => (by cases hclient), fun userId serverId character ⟨characters, hmem, _⟩ => by cases hmem⟩

variable (profile data iteration maxLevel settings max reservationValidTime lower)

/-- **Whoever plays, plays a character of its own.** -/
theorem players_own_their_characters (now : Instant) (table : CharacterTable) (events : List LobbyEvent) :
    Reached (Lobby.event profile data iteration maxLevel settings max reservationValidTime lower)
      (fun s => ∀ client ∈ s.server.clients, ∀ bundle ∈ client.bundle, ∃ playing ∈ client.playing,
        PlayedBy profile data settings s.results playing bundle ∧
          Owns s.table playing.user.id (serverAsI32 settings.serverId) bundle.name)
      events (.start now table) := by
  have hown : Reached (Lobby.event profile data iteration maxLevel settings max reservationValidTime lower)
      (fun s => s.Own profile data settings) events (.start now table) :=
    reached_of_step (fun e _ s t hs h => hs.event h) (own_start now table)
  intro pre s hpre hrun client hclient bundle hbundle
  have hs := hown pre s hpre hrun
  obtain ⟨playing, hplaying, hplayed⟩ := (hs.clients client hclient).bundle bundle (.inl hbundle)
  obtain ⟨character, hlisted, -, hbecomes⟩ := hplayed.listed
  refine ⟨playing, hplaying, hplayed, ?_⟩
  rw [hbecomes.name]
  exact hs.results _ _ _ hlisted

/-- Nobody is connected as this user. -/
def Lobby.Absent (userId : Int32) (s : Lobby) : Prop :=
  ∀ client ∈ s.server.clients, ∀ playing ∈ client.playing, playing.user.id ≠ userId

instance (userId : Int32) (s : Lobby) : Decidable (s.Absent userId) :=
  inferInstanceAs (Decidable (∀ client ∈ s.server.clients, ∀ playing ∈ client.playing, playing.user.id ≠ userId))

/-- No task of the user is left, and the characters of the user are these. -/
structure Lobby.Untouched (userId : Int32) (rows : CharacterTable) (s : Lobby) : Prop where
  own : s.Own profile data settings
  spawned : ∀ task ∈ s.spawned, task.userId ≠ some userId
  rows : rowsOf userId s.table = rows

variable {profile data iteration maxLevel settings max reservationValidTime lower}

/-- An event after which nobody is connected as the user. -/
theorem Lobby.Untouched.event {userId : Int32} {rows : CharacterTable}
    (hs : s.Untouched profile data settings userId rows) {e : LobbyEvent} (habsent : t.Absent userId)
    (h : Lobby.event profile data iteration maxLevel settings max reservationValidTime lower e s = some t) :
    t.Untouched profile data settings userId rows := by
  have hown := hs.own.event h
  rcases Lobby.event_cases h with ⟨event, server, hstep, rfl⟩ | ⟨i, turn, client, after, hclient, hdelivered, hturn, rfl⟩ |
    ⟨k, task, htask, rfl⟩ | ⟨now, rfl⟩
  · exact ⟨hown, hs.spawned, hs.rows⟩
  · refine ⟨hown, fun task htask huser => ?_, hs.rows⟩
    rcases List.mem_append.1 htask with hmem | hmem
    · exact hs.spawned task hmem huser
    · have hafter : after ∈ s.server.clients.set i after :=
        List.mem_set (List.getElem?_eq_some_iff.1 hclient).1 after
      obtain ⟨playing, hplaying, hof⟩ := (hown.clients after hafter).started task (mem_of_startedSince hmem)
      exact habsent after hafter playing hplaying (hof userId huser).symm
  · refine ⟨hown, fun task' hmem => hs.spawned task' (List.mem_of_mem_eraseIdx hmem), ?_⟩
    rw [← hs.rows]
    exact Task.run_of_other (hs.spawned task (List.mem_of_getElem? htask))
  · exact ⟨hown, hs.spawned, hs.rows⟩

variable (profile data iteration maxLevel settings max reservationValidTime lower)

/-- **The characters of a user who is absent stay as they are.** -/
theorem rows_of_absent_users (now : Instant) (table : CharacterTable) (events : List LobbyEvent) (userId : Int32)
    (h : Reached (Lobby.event profile data iteration maxLevel settings max reservationValidTime lower)
      (Lobby.Absent userId) events (.start now table)) :
    Reached (Lobby.event profile data iteration maxLevel settings max reservationValidTime lower)
      (fun s => rowsOf userId s.table = rowsOf userId table) events (.start now table) := by
  have huntouched := h.of_step (P := Lobby.Untouched profile data settings userId (rowsOf userId table))
    (fun e _ s t habsent hs hstep => hs.event habsent hstep)
    ⟨own_start now table, fun task hmem => (by cases hmem), rfl⟩
  exact fun pre s hpre hrun => (huntouched pre s hpre hrun).rows

end Runs

/-! ### One user, and another one who is away -/

def storedCharacter (userId : Int32) (name : String) : CharacterRow :=
  ⟨userId, serverAsI32 1, insertedCharacter (createCharacterFrom name 1907 0 0 0 0)⟩

/-- The first user logs in, looks at the list, and has a character of the name deleted that the second user
has given to a character, too. -/
def deleteNamesake : List LobbyEvent :=
  [.login (.request (fun _ => 7) firstUser 0 0), .login .connect, .turn 0 (.receive [.authRequest (requestWith 7)]),
    .login (.authenticate 0 (requestWith 7) 0), .turn 0 .reset,
    .turn 0 (.receive [.characterListRequest .list]), .turn 0 .listRequest, .turn 0 (.apply 0), .turn 0 .reset,
    .runTask 0, .turn 0 (.listReceived (.ok [(storedCharacter 1 "Hero").character])), .turn 0 (.apply 0),
    .turn 0 (.receive [.characterListRequest (.delete "Hero")]), .turn 0 .listRequest, .runTask 0]

/-- The character of the second user is not being deleted. -/
theorem namesake_stays :
    ∃ s, runAll (Lobby.event .debug emptyWorld .ascending 80 selectionSettings 2 30 id) deleteNamesake
        (.start 0 [storedCharacter 1 "Hero", storedCharacter 2 "Hero"]) = some s ∧
      rowsOf 2 s.table = [storedCharacter 2 "Hero"] ∧ rowsOf 1 s.table ≠ [storedCharacter 1 "Hero"] := by
  have habsent : Reached (Lobby.event .debug emptyWorld .ascending 80 selectionSettings 2 30 id) (Lobby.Absent 2)
      deleteNamesake (.start 0 [storedCharacter 1 "Hero", storedCharacter 2 "Hero"]) := by
    have hall : ∀ pre ∈ deleteNamesake.inits,
        ∀ s ∈ runAll (Lobby.event .debug emptyWorld .ascending 80 selectionSettings 2 30 id) pre
          (.start 0 [storedCharacter 1 "Hero", storedCharacter 2 "Hero"]), s.Absent 2 := by decide
    exact fun pre s hpre hrun => hall pre ((List.mem_inits _ _).2 hpre) s hrun
  refine ⟨_, rfl, ?_, by decide⟩
  exact (rows_of_absent_users .debug emptyWorld .ascending 80 selectionSettings 2 30 id 0 _ deleteNamesake 2
    habsent).last rfl

end Skrillax

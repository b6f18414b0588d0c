/-
**Runs of the character selection.**

The systems of a tick go through the clients one after the other, and their commands are applied later.  A
run is any sequence of such turns, together with what happens to the login server: clients that connect,
authenticate and disconnect, and requests of the web endpoint.  A panic ends the run.

What the selection of a client is about is its state and the history of what has happened in it.  Every turn
is a sequence of steps of a small machine on these; what the steps of the machine keep holds of every client
in every run.

Main definitions:

* `ClientTurn`, `LoginClient.turn` — the turns of a client;
* `ServerEvent`, `LoginServer.event` — what happens to the server;
* `Selection`, `SelectionStep` — the machine.

Main results:

* `selection_turn`, `selection_event` — the turns and the events are steps of the machine;
* `reached_selection` — **what the steps of the machine keep holds of every client in every run**.
-/

import Skrillax.Join
import Skrillax.Sessions

set_option relaxedAutoImplicit false
set_option autoImplicit false

namespace Skrillax

open Rust PartialAction

open Relation (ReflTransGen)

/-! ### Turns -/

/-- The turn of a client in a system, with what the system receives for it.  Commands are applied in any
order, and the input is reset at the end of a tick. -/
inductive ClientTurn where
  | receive (packets : List LoginPacket)
  | create (received : TryRecv Unit)
  | restore (received : TryRecv Bool)
  | delete (received : TryRecv Bool)
  | nameCheck (received : TryRecv (String × Bool))
  | listReceived (received : TryRecv (List DbCharacter))
  | join (newId : Option UInt32)
  | listRequest
  | apply (k : ℕ)
  | reset

inductive ServerEvent where
  | login (event : LoginEvent)
  | turn (i : ℕ) (turn : ClientTurn)

section Runs

variable (profile : Profile) (data : WorldData) (iteration : Iteration) (maxLevel : UInt8)
  (settings : SelectionSettings)

/-- A pending command is applied. -/
def LoginClient.applyPending (client : LoginClient) (k : ℕ) : Option LoginClient := do
  let command ← client.commands[k]?
  return { client.apply command with commands := client.commands.eraseIdx k }

/-- A turn; `none` is a panic, or a command that there is not. -/
def LoginClient.turn : ClientTurn → LoginClient → Option LoginClient
  | .receive packets, client => some (client.receiveLoginInputs packets)
  | .create received, client => some (handleCharacterCreate received client)
  | .restore received, client => some (handleCharacterRestore received client)
  | .delete received, client => some (handleCharacterDelete received client)
  | .nameCheck received, client => some (handleCharacterNameCheck received client)
  | .listReceived received, client => some (handleCharacterListReceived received client)
  | .join newId, client => handleJoin profile data iteration maxLevel newId client
  | .listRequest, client => some (handleListRequest settings client)
  | .apply k, client => client.applyPending k
  | .reset, client => some client.reset

/-- An event; `none` is a panic, or the turn of a client that there is not. -/
def LoginServer.event (max : UInt16) (reservationValidTime : UInt64) :
    ServerEvent → LoginServer → Option LoginServer
  | .login event, s => s.step profile max reservationValidTime event
  | .turn i turn, s => do
      let client ← s.clients[i]?
      let client ← client.turn profile data iteration maxLevel settings turn
      return { s with clients := s.clients.set i client }

end Runs

/-! ### The machine -/

/-- The name of the character that is created. -/
def CharacterListRequestAction.creates : CharacterListRequestAction → Option String
  | .create characterName _ _ _ _ _ _ => some characterName
  | _ => none

def Task.creates : Task → Option String
  | .createCharacter _ _ character => some character.charname
  | _ => none

/-- A request to check a name forgets the name that was checked. -/
def CharacterSelect.afterRequest (charselect : CharacterSelect) :
    CharacterListRequestAction → CharacterSelect
  | .checkName _ => { charselect with checkedName := none }
  | _ => charselect

/-- What is recorded for a request. -/
def requestEvents (action : CharacterListRequestAction) (task : Option Task) : List SelectionEvent :=
  .requested action :: (task.map .started).toList

/-- Whether the client plays, the state of its selection, and what has happened in it. -/
structure Selection where
  playing : Bool
  charselect : Option CharacterSelect
  history : List SelectionEvent

inductive SelectionStep : Selection → Selection → Prop
  | admitted (charselect : Option CharacterSelect) (history : List SelectionEvent) :
      SelectionStep ⟨false, charselect, history⟩ ⟨true, some .default, history⟩
  | left (playing : Bool) (charselect : Option CharacterSelect) (history : List SelectionEvent) :
      SelectionStep ⟨playing, charselect, history⟩ ⟨playing, none, history⟩
  | loaded (charselect : CharacterSelect) (history : List SelectionEvent) (characters : List DbCharacter) :
      SelectionStep ⟨true, some charselect, history⟩
        ⟨true, some { charselect with characters := some characters }, history ++ [.loaded characters]⟩
  | answered (charselect : CharacterSelect) (history : List SelectionEvent) (name : String)
      (available : Bool) :
      SelectionStep ⟨true, some charselect, history⟩
        ⟨true, some { charselect with checkedName := some name }, history ++ [.answered name available]⟩
  | requested (charselect : CharacterSelect) (history : List SelectionEvent)
      (action : CharacterListRequestAction) (task : Option Task)
      (htask : task.bind Task.creates = action.creates) :
      SelectionStep ⟨true, some charselect, history⟩
        ⟨true, some (charselect.afterRequest action), history ++ requestEvents action task⟩

abbrev SelectionSteps := ReflTransGen SelectionStep

def LoginClient.selection (client : LoginClient) : Selection :=
  ⟨client.playing.isSome, client.characterSelect, client.history⟩

/-! ### Turns as steps -/

section Turns

variable {client client' : LoginClient}

@[simp] theorem selection_send (client : LoginClient) (message : LoginMessage) :
    (client.send message).selection = client.selection := rfl

@[simp] theorem selection_queueCommand (client : LoginClient) (command : LoginCommand) :
    (client.queueCommand command).selection = client.selection := rfl

theorem selection_receive (client : LoginClient) (packet : LoginPacket) :
    (client.receive packet).selection = client.selection := by
  cases packet <;> rfl

theorem selection_receiveLoginInputs (client : LoginClient) (packets : List LoginPacket) :
    (client.receiveLoginInputs packets).selection = client.selection := by
  have hfold : ∀ client : LoginClient, (packets.foldl LoginClient.receive client).selection =
      client.selection := by
    induction packets with
    | nil => exact fun _ => rfl
    | cons packet packets ih =>
        intro client
        rw [List.foldl_cons, ih, selection_receive]
  rw [LoginClient.receiveLoginInputs]
  split
  · exact hfold client
  · rfl

/-- Receiving a result is a step if handling it is one. -/
theorem steps_handleTask {α : Type} {job : Job} {received : TryRecv α}
    {handle : α → LoginClient → LoginClient}
    (h : client.playing.isSome = true → ∀ a, SelectionSteps client.selection (handle a client).selection) :
    SelectionSteps client.selection (handleTask job received handle client).selection := by
  unfold handleTask
  split
  · rename_i hplaying
    cases received with
    | ok a => exact h (Bool.and_eq_true_iff.1 hplaying).1 a
    | empty => exact .refl
    | closed => exact .refl
  · exact .refl

theorem steps_handleCharacterListReceived (received : TryRecv (List DbCharacter)) (client : LoginClient) :
    SelectionSteps client.selection (handleCharacterListReceived received client).selection := by
  rw [handleCharacterListReceived]
  split
  · exact .refl
  · rename_i charselect hcharselect
    refine steps_handleTask fun hplaying characters => .single ?_
    have hstep := SelectionStep.loaded charselect client.history characters
    rw [← hplaying] at hstep
    rw [LoginClient.selection, hcharselect]
    exact hstep

theorem steps_handleCharacterNameCheck (received : TryRecv (String × Bool)) (client : LoginClient) :
    SelectionSteps client.selection (handleCharacterNameCheck received client).selection := by
  rw [handleCharacterNameCheck]
  split
  · exact .refl
  · rename_i charselect hcharselect
    refine steps_handleTask fun hplaying answer => .single ?_
    have hstep := SelectionStep.answered charselect client.history answer.1 answer.2
    rw [← hplaying] at hstep
    rw [LoginClient.selection, hcharselect]
    exact hstep

theorem selection_handleTask {α : Type} {job : Job} {received : TryRecv α}
    {handle : α → LoginClient → LoginClient} (h : ∀ a, (handle a client).selection = client.selection) :
    (handleTask job received handle client).selection = client.selection := by
  unfold handleTask
  split
  · cases received with
    | ok a => exact h a
    | empty => rfl
    | closed => rfl
  · rfl

theorem selection_handleCharacterCreate (received : TryRecv Unit) (client : LoginClient) :
    (handleCharacterCreate received client).selection = client.selection :=
  selection_handleTask fun _ => rfl

theorem selection_handleCharacterDelete (received : TryRecv Bool) (client : LoginClient) :
    (handleCharacterDelete received client).selection = client.selection :=
  selection_handleTask fun success => by cases success <;> rfl

theorem selection_handleCharacterRestore (received : TryRecv Bool) (client : LoginClient) :
    (handleCharacterRestore received client).selection = client.selection :=
  selection_handleTask fun result => by cases result <;> rfl

/-- A request that starts a task. -/
theorem selection_started {charselect : CharacterSelect}
    (hcharselect : client.characterSelect = some charselect) (action : CharacterListRequestAction) (job : Job) (task : Task) :
    ((client.record (.requested action)).startTask job task).selection =
      ⟨client.playing.isSome, some charselect, client.history ++ requestEvents action (some task)⟩ := by
  simp [LoginClient.selection, LoginClient.startTask, LoginClient.record, LoginClient.queueCommand,
    requestEvents, hcharselect]

/-- A request that starts none. -/
theorem selection_requested {charselect : CharacterSelect}
    (hcharselect : client.characterSelect = some charselect) (action : CharacterListRequestAction) :
    (client.record (.requested action)).selection =
      ⟨client.playing.isSome, some charselect, client.history ++ requestEvents action none⟩ := by
  simp [LoginClient.selection, LoginClient.record, requestEvents, hcharselect]

/-- What is left of a request, and the task that it starts. -/
theorem selection_handleAction (settings : SelectionSettings) (userId : Int32) {charselect : CharacterSelect}
    (hcharselect : client.characterSelect = some charselect) (action : CharacterListRequestAction) :
    ∃ task : Option Task, task.bind Task.creates = action.creates ∧
      (handleAction settings userId charselect (client.record (.requested action)) action).selection =
        ⟨client.playing.isSome, some (charselect.afterRequest action),
          client.history ++ requestEvents action task⟩ := by
  cases action with
  | create characterName refId scale chest pants boots weapon =>
      let task : Task := .createCharacter userId settings.serverId
        (createCharacterFrom characterName refId chest pants boots weapon)
      have hstarted := selection_started hcharselect
        (.create characterName refId scale chest pants boots weapon) .create task
      refine ⟨some task, rfl, ?_⟩
      rw [handleAction]
      split
      · exact hstarted
      · exact hstarted
  | list => exact ⟨some _, rfl, selection_started hcharselect _ _ _⟩
  | delete characterName =>
      rw [handleAction]
      split
      · exact ⟨some _, rfl, selection_started hcharselect _ _ _⟩
      · exact ⟨none, rfl, selection_requested hcharselect _⟩
  | checkName characterName =>
      refine ⟨some (.checkNameAvailable characterName settings.serverId), rfl, ?_⟩
      let asked : LoginClient :=
        { client with characterSelect := some (charselect.afterRequest (.checkName characterName)) }
      have hasked : asked.characterSelect = some (charselect.afterRequest (.checkName characterName)) := rfl
      exact selection_started hasked _ _ _
  | restore characterName =>
      rw [handleAction]
      split
      · exact ⟨some _, rfl, selection_started hcharselect _ _ _⟩
      · exact ⟨none, rfl, selection_requested hcharselect _⟩
  | showJobSpread => exact ⟨none, rfl, selection_requested hcharselect _⟩
  | assignJob job => exact ⟨none, rfl, selection_requested hcharselect _⟩

theorem steps_handleRequested (settings : SelectionSettings) (userId : Int32)
    (hplaying : client.playing.isSome = true) (action : CharacterListRequestAction) :
    SelectionSteps client.selection (handleRequested settings userId client action).selection := by
  rw [handleRequested]
  split
  · exact .refl
  · rename_i charselect hcharselect
    obtain ⟨task, htask, hselection⟩ := selection_handleAction settings userId hcharselect action
    have hstep := SelectionStep.requested charselect client.history action task htask
    rw [← hplaying] at hstep
    rw [hselection, LoginClient.selection, hcharselect]
    exact .single hstep

theorem SelectionSteps.playing {s t : Selection} (h : SelectionSteps s t) (hs : s.playing = true) :
    t.playing = true := by
  induction h with
  | refl => exact hs
  | tail _ hstep ih => cases hstep <;> first | rfl | exact ih

/-- Induction on the requests that are still to be handled. -/
theorem steps_handleListRequest (settings : SelectionSettings) (client : LoginClient) :
    SelectionSteps client.selection (handleListRequest settings client).selection := by
  have hfold : ∀ (userId : Int32) (actions : List CharacterListRequestAction) (client : LoginClient),
      client.playing.isSome = true → SelectionSteps client.selection
        (actions.foldl (handleRequested settings userId) client).selection := by
    intro userId actions
    induction actions with
    | nil => exact fun _ _ => .refl
    | cons action actions ih =>
        intro client hplaying
        have hfirst := steps_handleRequested settings userId hplaying action
        exact hfirst.trans (ih _ (hfirst.playing hplaying))
  unfold handleListRequest
  split
  · rename_i playing input hplaying hinput
    exact hfold _ _ _ (Option.isSome_of_eq_some hplaying)
  · exact .refl

theorem selection_handleJoin {profile : Profile} {data : WorldData} {iteration : Iteration} {maxLevel : UInt8}
    {newId : Option UInt32} (h : handleJoin profile data iteration maxLevel newId client = some client') :
    client'.selection = client.selection := by
  obtain ⟨sent, commands, rfl⟩ := handleJoin_frame h
  rfl

theorem steps_applyPending {k : ℕ} (h : client.applyPending k = some client') :
    SelectionSteps client.selection client'.selection := by
  obtain ⟨command, -, h⟩ := Option.bind_eq_some_iff.1 h
  obtain rfl := Option.some_inj.1 h
  cases command with
  | removeCharacterSelect => exact .single (.left _ _ _)
  | insertJob job task => exact .refl
  | removeJob job => exact .refl
  | insertBundle bundle => exact .refl
  | removeLoginInput => exact .refl

end Turns

section Runs

variable {profile : Profile} {data : WorldData} {iteration : Iteration} {maxLevel : UInt8}
  {settings : SelectionSettings} {max : UInt16} {reservationValidTime : UInt64}

/-- A turn is a sequence of steps of the machine. -/
theorem selection_turn {turn : ClientTurn} {client client' : LoginClient}
    (h : client.turn profile data iteration maxLevel settings turn = some client') :
    SelectionSteps client.selection client'.selection := by
  cases turn with
  | receive packets =>
      obtain rfl := Option.some_inj.1 h
      rw [selection_receiveLoginInputs]
  | create received =>
      obtain rfl := Option.some_inj.1 h
      rw [selection_handleCharacterCreate]
  | restore received =>
      obtain rfl := Option.some_inj.1 h
      rw [selection_handleCharacterRestore]
  | delete received =>
      obtain rfl := Option.some_inj.1 h
      rw [selection_handleCharacterDelete]
  | nameCheck received =>
      obtain rfl := Option.some_inj.1 h
      exact steps_handleCharacterNameCheck received client
  | listReceived received =>
      obtain rfl := Option.some_inj.1 h
      exact steps_handleCharacterListReceived received client
  | join newId => rw [selection_handleJoin h]
  | listRequest =>
      obtain rfl := Option.some_inj.1 h
      exact steps_handleListRequest settings client
  | apply k => exact steps_applyPending h
  | reset =>
      obtain rfl := Option.some_inj.1 h
      exact .refl

theorem steps_authenticate (now : Instant) (auth : AuthRequest) {client : LoginClient} (queue : QueueState)
    (h : client.playing = none) :
    SelectionSteps client.selection (authenticate now auth client queue).1.selection := by
  unfold authenticate
  split
  · have hstep := SelectionStep.admitted client.characterSelect client.history
    rw [LoginClient.selection, h]
    exact .single hstep
  · exact .refl

/-- The clients after an event: those who were there before, with what they have done, and one who has
connected. -/
theorem selection_event {e : ServerEvent} {s t : LoginServer}
    (h : LoginServer.event profile data iteration maxLevel settings max reservationValidTime e s = some t) :
    ∀ client' ∈ t.clients, client' = .accepted ∨
      ∃ client ∈ s.clients, SelectionSteps client.selection client'.selection := by
  intro client' hclient'
  have hset : ∀ {i : ℕ} {before after : LoginClient}, s.clients[i]? = some before →
      SelectionSteps before.selection after.selection → client' ∈ s.clients.set i after →
        ∃ client ∈ s.clients, SelectionSteps client.selection client'.selection := by
    intro i before after hbefore hsteps hmem
    rcases List.mem_or_eq_of_mem_set hmem with hmem | rfl
    · exact ⟨client', hmem, .refl⟩
    · exact ⟨before, List.mem_of_getElem? hbefore, hsteps⟩
  cases e with
  | login e =>
      replace h : s.step profile max reservationValidTime e = some t := h
      cases e with
      | connect =>
          obtain rfl := Option.some_inj.1 h
          rcases List.mem_append.1 hclient' with hmem | hmem
          · exact Or.inr ⟨client', hmem, .refl⟩
          · exact Or.inl (List.mem_singleton.1 hmem)
      | request draws user now later =>
          obtain rfl := LoginServer.step_request h
          exact Or.inr ⟨client', hclient', .refl⟩
      | authenticate i auth now =>
          rcases LoginServer.step_authenticate h with rfl | ⟨client, hclient, hplaying, rfl⟩
          · exact Or.inr ⟨client', hclient', .refl⟩
          · exact Or.inr (hset hclient (steps_authenticate now auth s.queue hplaying) hclient')
      | disconnect i =>
          obtain ⟨client, -, rfl⟩ := LoginServer.step_disconnect h
          exact Or.inr ⟨client', List.mem_of_mem_eraseIdx hclient', .refl⟩
  | turn i turn =>
      obtain ⟨client, hclient, h⟩ := Option.bind_eq_some_iff.1 h
      obtain ⟨after, hafter, h⟩ := Option.bind_eq_some_iff.1 h
      obtain rfl := Option.some_inj.1 h
      exact Or.inr (hset hclient (selection_turn hafter) hclient')

/-- **What the steps of the machine keep holds of every client in every run.** -/
theorem reached_selection {I : Selection → Prop} (hstart : I LoginClient.accepted.selection)
    (hstep : ∀ s t, SelectionStep s t → I s → I t) (now : Instant) (events : List ServerEvent) :
    Reached (LoginServer.event profile data iteration maxLevel settings max reservationValidTime)
      (fun s => ∀ client ∈ s.clients, I client.selection) events (.start now) := by
  have hsteps : ∀ {s t : Selection}, SelectionSteps s t → I s → I t := by
    intro s t h hs
    induction h with
    | refl => exact hs
    | tail _ hlast ih => exact hstep _ _ hlast ih
  refine reached_of_step (fun e _ s t hs h client' hclient' => ?_) fun client hclient => by cases hclient
  rcases selection_event h client' hclient' with rfl | ⟨client, hclient, hsel⟩
  · exact hstart
  · exact hsteps hsel (hs client hclient)

end Runs

/-! ### A client that logs in -/

/-- The first user reserves a spot, connects and authenticates. -/
def logIn : List ServerEvent :=
  [.login (.request (fun _ => 7) firstUser 0 0), .login .connect,
    .turn 0 (.receive [.authRequest (requestWith 7)]), .login (.authenticate 0 (requestWith 7) 0),
    .turn 0 .reset]

def emptyWorld : WorldData := { items := ⟨[]⟩, characters := [], skills := [] }

def selectionSettings : SelectionSettings :=
  { serverId := 1, deletionTime := 10080, hunters := 50, thieves := 50 }

end Skrillax

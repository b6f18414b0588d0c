/-
**From the selection into the game.**

A client that selects a character can always go on: it asks for its list, the task runs, the list is received,
and with one of the characters in it the client joins.  What stands in the way is not the state of the lobby but
the character.  Nobody checks what a client asks for when it creates one, neither the type nor the items, so that
a character may well be created, stored and listed with which nobody can join.

Main definitions:

* `LoginClient.Selects` — a client that selects a character, between two ticks;
* `Lobby.play`, `Lobby.createAndPlay` — the events with which a client plays, and creates a character first;
* `Lobby.PlaysAs` — a client is in the game with a character;
* `CanStartWith` — an item with which a character can start.

Main results:

* `Lobby.runAll_turns` — turns of a client in the lobby;
* `runAll_askAndRun` — a request, and what its task leaves;
* `plays_iff` — **from every state of the lobby a client that selects a character gets into the game with any one
  of its list if and only if this one may be played, and can spawn**;
* `created_plays_iff` — **a client that creates a character under a new name gets into the game with it if and
  only if its type and its items are known and no item is a pet**.
-/

import Skrillax.CharacterOwnership
import Skrillax.JoinRuns

set_option relaxedAutoImplicit false
set_option autoImplicit false

namespace Skrillax

open Rust PartialAction

/-! ### The events -/

/-- A client that selects a character, between two ticks. -/
structure LoginClient.Selects (client : LoginClient) (playing : Playing) : Prop where
  playing : client.playing = some playing
  input : client.input.isSome = true
  charselect : client.characterSelect.isSome = true
  commands : client.commands = []

/-- A client is in the game with a character, and out of the selection. -/
structure LoginClient.PlaysAs (profile : Profile) (data : WorldData) (playing : Playing) (character : DbCharacter)
    (client : LoginClient) : Prop where
  plays : client.playing = some playing
  bundle : ∃ bundle, client.bundle = some bundle ∧ bundle.user = playing.user ∧ Becomes profile data character bundle
  input : client.input = none
  charselect : client.characterSelect = none

/-- What a client is that selects a character. -/
theorem LoginClient.Selects.eq {client : LoginClient} {playing : Playing} (h : client.Selects playing) :
    ∃ input charselect jobs bundle sent history,
      client = ⟨some input, some playing, some charselect, jobs, bundle, [], sent, history⟩ := by
  obtain ⟨input, playing', charselect, jobs, bundle, commands, sent, history⟩ := client
  obtain ⟨hplaying, hinput, hcharselect, hcommands⟩ := h
  obtain ⟨input, rfl⟩ := Option.isSome_iff_exists.1 hinput
  obtain ⟨charselect, rfl⟩ := Option.isSome_iff_exists.1 hcharselect
  obtain rfl : playing' = some playing := hplaying
  obtain rfl : commands = [] := hcommands
  exact ⟨input, charselect, jobs, bundle, sent, history, rfl⟩

/-- A client sends a request about the list, which is handled in the next tick. -/
def askTurns (action : CharacterListRequestAction) : List ClientTurn :=
  [.reset, .receive [.characterListRequest action], .listRequest, .apply 0]

/-- A client sends a request to join, which is handled in the next tick. -/
def joinTurns (name : String) (newId : Option UInt32) : List ClientTurn :=
  [.reset, .receive [.characterJoinRequest ⟨name⟩], .join newId, .apply 0, .apply 0, .apply 0]

namespace Lobby

/-- A request, and the task that it starts. -/
def askAndRun (s : Lobby) (i : ℕ) (action : CharacterListRequestAction) : List LobbyEvent :=
  (askTurns action).map (.turn i) ++ [.runTask s.spawned.length]

/-- A client asks for its list, receives it, and joins with a character of this name. -/
def play (s : Lobby) (settings : SelectionSettings) (i : ℕ) (userId : Int32) (name : String)
    (newId : Option UInt32) : List LobbyEvent :=
  s.askAndRun i .list ++
    .turn i (.listReceived (.ok (fetchCharacters s.now userId settings.serverId s.table))) ::
      (.apply 0 :: joinTurns name newId).map (.turn i)

/-- A client creates a character under a name, and plays with it. -/
def createAndPlay (s : Lobby) (settings : SelectionSettings) (i : ℕ) (userId : Int32) (name : String)
    (refId : UInt32) (scale : UInt8) (chest pants boots weapon : UInt32) (newId : Option UInt32) :
    List LobbyEvent :=
  let table := createCharacter userId settings.serverId (createCharacterFrom name refId chest pants boots weapon) s.table
  s.askAndRun i (.create name refId scale chest pants boots weapon) ++
    { s with table }.play settings i userId name newId

/-- The client `i` changes. -/
def setClient (s : Lobby) (i : ℕ) (client : LoginClient) : Lobby :=
  { s with server := { s.server with clients := s.server.clients.set i client } }

/-- The client `i` has had turns, in which it may have started tasks. -/
def afterTurns (s : Lobby) (i : ℕ) (before after : LoginClient) : Lobby :=
  { s.setClient i after with spawned := s.spawned ++ startedSince before after }

/-- The client `i` is in the game with the character. -/
def PlaysAs (profile : Profile) (data : WorldData) (i : ℕ) (playing : Playing) (character : DbCharacter)
    (s : Lobby) : Prop :=
  ∃ client, s.server.clients[i]? = some client ∧ client.PlaysAs profile data playing character

end Lobby

/-! ### Characters that have been created -/

section Created

variable {profile : Profile} {data : WorldData}

/-- A new character is at the end of the list. -/
theorem fetchCharacters_createCharacter (now : Instant) (userId : Int32) (serverId : UInt16) (character : DbCharacter)
    (table : CharacterTable) :
    fetchCharacters now userId serverId (createCharacter userId serverId character table) =
      fetchCharacters now userId serverId table ++ [insertedCharacter character] := by
  simp [fetchCharacters, createCharacter, CharacterRow.isOf, CharacterRow.isListed, insertedCharacter]

/-- An item with which a character can start: it is known, and not a pet. -/
def CanStartWith (data : WorldData) (refId : UInt32) : Prop :=
  ∃ kind, data.items.itemKind (startItem 0 refId) = some kind ∧ ∀ pet, kind ≠ .pet pet

/-- A character can spawn if no two items are in one slot, every item is known, and none is a pet. -/
theorem canSpawn_iff {character : DbCharacter}
    (hslots : ∀ item ∈ character.items, lastInSlot character.items item.inventorySlot = some item)
    (hcomputes : (fromDbCharacter character.characterData).2.level ≠ 0 ∧
      (fromDbCharacter character.characterData).2.strength.toNat * 10 < 2 ^ 16 ∧
      (fromDbCharacter character.characterData).2.intelligence.toNat * 10 < 2 ^ 16) :
    CanSpawn profile data character ↔
      ∀ item ∈ character.items, ∃ kind, data.items.itemKind item = some kind ∧ ∀ pet, kind ≠ .pet pet := by
  constructor
  · rintro ⟨hknown, hpet, -⟩ item hitem
    obtain ⟨kind, hkind⟩ := Option.isSome_iff_exists.1 (hknown item hitem)
    exact ⟨kind, hkind, fun pet heq => hpet _ item (hslots item hitem) pet (heq ▸ hkind)⟩
  · intro h
    refine ⟨fun item hitem => ?_, fun slot item hlast pet heq => ?_, fun _ => hcomputes⟩
    · obtain ⟨kind, hkind, -⟩ := h item hitem
      exact Option.isSome_of_eq_some hkind
    · obtain ⟨kind, hkind, hpet⟩ := h item (List.mem_reverse.1 (List.mem_of_find?_eq_some hlast))
      exact hpet pet (Option.some_inj.1 (hkind.symm.trans heq))

/-- A new character can spawn if it can start with its four items. -/
theorem canSpawn_created_iff (name : String) (refId chest pants boots weapon : UInt32) :
    CanSpawn profile data (insertedCharacter (createCharacterFrom name refId chest pants boots weapon)) ↔
      ∀ item ∈ [chest, pants, boots, weapon], CanStartWith data item := by
  rw [canSpawn_iff]
  · simp [insertedCharacter, createCharacterFrom, CanStartWith, DataMap.itemKind, startItem]
  · simp only [insertedCharacter, createCharacterFrom, lastInSlot, startItem, CharacterItem.inventorySlot, List.map_cons,
      List.map_nil, List.forall_mem_cons]
    exact ⟨rfl, rfl, rfl, rfl, by simp⟩
  · simp only [insertedCharacter, createCharacterFrom, fromDbCharacter]
    decide

/-- A new character is the one of its name if no other one is listed under it. -/
theorem find?_createCharacter {name : String} {refId chest pants boots weapon : UInt32} {now : Instant}
    {userId : Int32} {serverId : UInt16} {table : CharacterTable}
    (hnew : ∀ character ∈ fetchCharacters now userId serverId table, character.charname ≠ name) :
    (fetchCharacters now userId serverId
        (createCharacter userId serverId (createCharacterFrom name refId chest pants boots weapon) table)).find?
      (·.charname == name) = some (insertedCharacter (createCharacterFrom name refId chest pants boots weapon)) := by
  have hnone : (fetchCharacters now userId serverId table).find? (·.charname == name) = none :=
    List.find?_eq_none.2 fun character hmem heq => hnew character hmem (beq_iff_eq.1 heq)
  rw [fetchCharacters_createCharacter, List.find?_append, hnone]
  simp [insertedCharacter, createCharacterFrom]

end Created

/-! ### Turns -/

theorem SelectionStep.history_prefix {s t : Selection} (h : SelectionStep s t) : s.history <+: t.history := by
  cases h with
  | admitted | left => exact List.prefix_rfl
  | loaded | answered | requested => exact List.prefix_append _ _

section Turns

variable {profile : Profile} {data : WorldData} {iteration : Iteration} {maxLevel : UInt8}
  {settings : SelectionSettings} {max : UInt16} {reservationValidTime : UInt64} {lower : String → String}
  {s : Lobby} {i : ℕ} {client after last : LoginClient} {playing : Playing}

/-- What has happened stays in the history. -/
theorem LoginClient.turn_history {turn : ClientTurn}
    (h : client.turn profile data iteration maxLevel settings turn = some after) :
    client.history <+: after.history := by
  have hsteps : ∀ {s t : Selection}, SelectionSteps s t → s.history <+: t.history := by
    intro s t h
    induction h with
    | refl => exact List.prefix_rfl
    | tail _ hlast ih => exact ih.trans hlast.history_prefix
  exact hsteps (selection_turn h)

theorem LoginClient.runAll_history {turns : List ClientTurn}
    (h : runAll (LoginClient.turn profile data iteration maxLevel settings) turns client = some after) :
    client.history <+: after.history := by
  induction turns generalizing client with
  | nil => exact Option.some_inj.1 h ▸ List.prefix_rfl
  | cons turn turns ih =>
      obtain ⟨next, hnext, hrest⟩ := Option.bind_eq_some_iff.1 h
      exact (LoginClient.turn_history hnext).trans (ih hrest)

theorem startedSince_append {e : List SelectionEvent} (h : after.history = client.history ++ e) :
    startedSince client after = e.filterMap SelectionEvent.startedTask := by
  rw [startedSince, h, List.drop_left]

theorem startedSince_trans (h : client.history <+: after.history) (h' : after.history <+: last.history) :
    startedSince client last = startedSince client after ++ startedSince after last := by
  obtain ⟨events, hevents⟩ := h
  obtain ⟨more, hmore⟩ := h'
  rw [startedSince_append hevents.symm, startedSince_append hmore.symm, ← List.filterMap_append]
  exact startedSince_append (by rw [← hmore, ← hevents, List.append_assoc])

theorem Lobby.setClient_clients_self (h : i < s.server.clients.length) (client : LoginClient) :
    (s.setClient i client).server.clients[i]? = some client := by
  rw [setClient, List.getElem?_set_self h]

variable (settings) in
/-- A request that starts a task in any case; there may be an answer before. -/
def Starts (userId : Int32) (action : CharacterListRequestAction) (job : Job) (task : Task) : Prop :=
  ∀ charselect client, ∃ sent,
    handleAction settings userId charselect client action = { client with sent }.startTask job task

theorem starts_list (userId : Int32) :
    Starts settings userId .list .loading (.loadCharactersSparse userId settings.serverId) :=
  fun _ client => ⟨client.sent, rfl⟩

/-- A character is created even if its name has not been checked. -/
theorem starts_create (userId : Int32) (name : String) (refId : UInt32) (scale : UInt8)
    (chest pants boots weapon : UInt32) :
    Starts settings userId (.create name refId scale chest pants boots weapon) .create
      (.createCharacter userId settings.serverId (createCharacterFrom name refId chest pants boots weapon)) := by
  intro charselect client
  simp only [handleAction]
  split
  · exact ⟨client.sent, rfl⟩
  · exact ⟨_, rfl⟩

variable (profile data iteration maxLevel settings max reservationValidTime lower)

/-- A turn of a client. -/
theorem Lobby.event_turn {turn : ClientTurn} (hclient : s.server.clients[i]? = some client)
    (hdelivered : turn.Delivered s.results client) :
    Lobby.event profile data iteration maxLevel settings max reservationValidTime lower (.turn i turn) s =
      (client.turn profile data iteration maxLevel settings turn).map (s.afterTurns i client) := by
  rw [Lobby.event, hclient, Option.bind_eq_bind, Option.bind_some, if_pos hdelivered]
  cases client.turn profile data iteration maxLevel settings turn <;> rfl

/-- Turns in which nothing is received, as many as there are. -/
theorem Lobby.runAll_turns {turns : List ClientTurn} (hquiet : ∀ turn ∈ turns, turn.received = none)
    (hclient : s.server.clients[i]? = some client) :
    runAll (Lobby.event profile data iteration maxLevel settings max reservationValidTime lower)
        (turns.map (LobbyEvent.turn i)) s =
      (runAll (LoginClient.turn profile data iteration maxLevel settings) turns client).map (s.afterTurns i client) := by
  induction turns generalizing s client with
  | nil =>
      have hnone : startedSince client client = [] := by rw [startedSince, List.drop_length, List.filterMap_nil]
      have hset : s.server.clients.set i client = s.server.clients := by
        obtain ⟨hi, rfl⟩ := List.getElem?_eq_some_iff.1 hclient
        exact List.set_getElem_self hi
      rw [runAll_nil, Option.map_some, Lobby.afterTurns, hnone, List.append_nil, Lobby.setClient, hset]
      rfl
  | cons turn turns ih =>
      obtain ⟨hhead, htail⟩ := List.forall_mem_cons.1 hquiet
      have hdelivered : turn.Delivered s.results client := fun r hr => by
        rw [hhead] at hr
        cases hr
      rw [List.map_cons, runAll_cons, Lobby.event_turn profile data iteration maxLevel settings max
        reservationValidTime lower hclient hdelivered, runAll_cons]
      cases hnext : client.turn profile data iteration maxLevel settings turn with
      | none => rfl
      | some next =>
          have hclient' : (s.afterTurns i client next).server.clients[i]? = some next :=
            Lobby.setClient_clients_self (List.getElem?_eq_some_iff.1 hclient).1 next
          rw [Option.map_some, Option.bind_some, Option.bind_some, ih htail hclient']
          refine Option.map_congr fun after hafter => ?_
          rw [Lobby.afterTurns, Lobby.afterTurns, Lobby.afterTurns,
            startedSince_trans (LoginClient.turn_history hnext) (LoginClient.runAll_history hafter)]
          simp only [Lobby.setClient, List.set_set, List.append_assoc]

/-! ### Requests -/

/-- A client asks: the task is started, and the client waits for its result. -/
theorem runAll_askTurns {action : CharacterListRequestAction} {job : Job} {task : Task}
    (hselects : client.Selects playing) (hstarts : Starts settings playing.user.id action job task) :
    ∃ after, after.Selects playing ∧ after.jobs job = some task ∧ startedSince client after = [task] ∧
      runAll (LoginClient.turn profile data iteration maxLevel settings) (askTurns action) client = some after := by
  obtain ⟨input, charselect, jobs, bundle, sent, history, rfl⟩ := hselects.eq
  let asking : LoginClient :=
    ⟨some ⟨[action], none, none⟩, some playing, some charselect, jobs, bundle, [], sent, history⟩
  obtain ⟨answered, hanswered⟩ := hstarts charselect (asking.record (.requested action))
  let asked : LoginClient := { asking.record (.requested action) with sent := answered }.startTask job task
  have hasked : asking.turn profile data iteration maxLevel settings .listRequest = some asked :=
    congrArg some hanswered
  have hhistory : asked.history = history ++ [.requested action, .started task] := List.append_assoc ..
  refine ⟨{ asked with jobs := Function.update jobs job (some task), commands := [] }, ⟨rfl, rfl, rfl, rfl⟩,
    Function.update_self .., (startedSince_append hhistory).trans rfl, ?_⟩
  rw [askTurns, runAll_cons, LoginClient.turn, Option.bind_some, runAll_cons, LoginClient.turn, Option.bind_some,
    runAll_cons]
  show (asking.turn profile data iteration maxLevel settings .listRequest).bind _ = _
  rw [hasked]
  rfl

/-- A request, and its task, which runs at once. -/
theorem runAll_askAndRun {action : CharacterListRequestAction} {job : Job} {task : Task}
    (hclient : s.server.clients[i]? = some client) (hselects : client.Selects playing)
    (hstarts : Starts settings playing.user.id action job task) :
    ∃ after, after.Selects playing ∧ after.jobs job = some task ∧
      runAll (Lobby.event profile data iteration maxLevel settings max reservationValidTime lower)
          (s.askAndRun i action) s =
        some { s.setClient i after with
          table := (task.run lower s.now s.table).1
          results := s.results ++ [(task, (task.run lower s.now s.table).2)] } := by
  obtain ⟨after, hafter, hjob, hstarted, hrun⟩ :=
    runAll_askTurns profile data iteration maxLevel settings hselects hstarts
  have hquiet : ∀ turn ∈ askTurns action, turn.received = none := by simp [askTurns, ClientTurn.received]
  refine ⟨after, hafter, hjob, ?_⟩
  rw [Lobby.askAndRun, runAll_append, Lobby.runAll_turns profile data iteration maxLevel settings max
    reservationValidTime lower hquiet hclient, hrun, Option.map_some, Option.bind_some, runAll_singleton,
    Lobby.afterTurns, hstarted]
  have herase : (s.spawned ++ [task]).eraseIdx s.spawned.length = s.spawned := by
    rw [List.eraseIdx_append_of_length_le le_rfl, Nat.sub_self, List.eraseIdx_zero, List.tail_cons, List.append_nil]
  simp only [Lobby.event, List.getElem?_concat_length, Option.bind_eq_bind, Option.bind_some, herase]
  rfl

/-- A client receives the list for which it waits, and waits no more. -/
theorem turns_listReceived (hselects : client.Selects playing) {task : Task} (hjob : client.jobs .loading = some task)
    (characters : List DbCharacter) :
    ∃ received after, after.Selects playing ∧
      client.turn profile data iteration maxLevel settings (.listReceived (.ok characters)) = some received ∧
      runAll (LoginClient.turn profile data iteration maxLevel settings) [.apply 0] received = some after ∧
      (∀ charselect ∈ after.characterSelect, charselect.characters = latestLoaded after.history) ∧
      latestLoaded after.history = some characters := by
  obtain ⟨input, charselect, jobs, bundle, sent, history, rfl⟩ := hselects.eq
  have hjob' : jobs .loading = some task := hjob
  have hlatest := latestLoaded_concat history (.loaded characters)
  let received : LoginClient :=
    ⟨some input, some playing, some { charselect with characters := some characters }, jobs, bundle,
      [.removeJob .loading], sent ++ [.characterListResponse .list (.ok (.characters characters 0))],
      history ++ [.loaded characters]⟩
  refine ⟨received, { received with jobs := Function.update jobs .loading none, commands := [] },
    ⟨rfl, rfl, rfl, rfl⟩, ?_, rfl, ?_, hlatest⟩
  · simp only [LoginClient.turn, handleCharacterListReceived, handleTask, Option.isSome_some, hjob', Bool.and_self,
      if_true]
    rfl
  · rintro charselect' hcharselect'
    obtain rfl := Option.some_inj.1 hcharselect'
    exact hlatest.symm

/-- The list of the user is loaded, and received. -/
theorem runAll_list (hclient : s.server.clients[i]? = some client) (hselects : client.Selects playing) :
    ∃ t after, t.server.clients[i]? = some after ∧ after.Selects playing ∧
      (∀ charselect ∈ after.characterSelect, charselect.characters = latestLoaded after.history) ∧
      latestLoaded after.history = some (fetchCharacters s.now playing.user.id settings.serverId s.table) ∧
      runAll (Lobby.event profile data iteration maxLevel settings max reservationValidTime lower)
          (s.askAndRun i .list ++
            .turn i (.listReceived (.ok (fetchCharacters s.now playing.user.id settings.serverId s.table))) ::
              [ClientTurn.apply 0].map (.turn i)) s = some t := by
  obtain ⟨asked, hasked, hjob, hrun⟩ := runAll_askAndRun profile data iteration maxLevel settings max
    reservationValidTime lower hclient hselects (starts_list playing.user.id)
  set characters := fetchCharacters s.now playing.user.id settings.serverId s.table
  obtain ⟨received, after, hafter, hreceived, happlied, hlist, hlatest⟩ :=
    turns_listReceived profile data iteration maxLevel settings hasked hjob characters
  let waiting : Lobby := { s.setClient i asked with
    results := s.results ++ [(.loadCharactersSparse playing.user.id settings.serverId, .loaded characters)] }
  have hwaiting : waiting.server.clients[i]? = some asked :=
    Lobby.setClient_clients_self (List.getElem?_eq_some_iff.1 hclient).1 asked
  have hdelivered : (ClientTurn.listReceived (.ok characters)).Delivered waiting.results asked := by
    rintro r hr
    obtain rfl := Option.some_inj.1 hr
    exact ⟨_, hjob, List.mem_append_right _ (List.mem_singleton_self _)⟩
  have hself : (waiting.afterTurns i asked received).server.clients[i]? = some received :=
    Lobby.setClient_clients_self (List.getElem?_eq_some_iff.1 hwaiting).1 received
  have hquiet : ∀ turn ∈ [ClientTurn.apply 0], turn.received = none := by simp [ClientTurn.received]
  refine ⟨(waiting.afterTurns i asked received).afterTurns i received after, after,
    Lobby.setClient_clients_self (List.getElem?_eq_some_iff.1 hself).1 after, hafter, hlist, hlatest, ?_⟩
  rw [runAll_append, hrun, Option.bind_some, runAll_cons]
  show (Lobby.event profile data iteration maxLevel settings max reservationValidTime lower
    (.turn i (.listReceived (.ok characters))) waiting).bind _ = _
  rw [Lobby.event_turn profile data iteration maxLevel settings max reservationValidTime lower hwaiting hdelivered,
    hreceived, Option.map_some, Option.bind_some, Lobby.runAll_turns profile data iteration maxLevel settings max
    reservationValidTime lower hquiet hself, happlied, Option.map_some]

/-! ### Joining -/

/-- The request to join is handled. -/
theorem joinTurns_request (hselects : client.Selects playing) (name : String) :
    ∃ asking charselect, asking.joinRequest = some (⟨name⟩, charselect, playing) ∧ asking.Selects playing ∧
      asking.characterSelect = client.characterSelect ∧ asking.history = client.history ∧
      ∀ newId, runAll (LoginClient.turn profile data iteration maxLevel settings) (joinTurns name newId) client =
        (handleJoin profile data iteration maxLevel newId asking).bind
          (runAll (LoginClient.turn profile data iteration maxLevel settings) [.apply 0, .apply 0, .apply 0]) := by
  obtain ⟨input, charselect, jobs, bundle, sent, history, rfl⟩ := hselects.eq
  exact ⟨⟨some ⟨[], some ⟨name⟩, none⟩, some playing, some charselect, jobs, bundle, [], sent, history⟩, charselect,
    rfl, ⟨rfl, rfl, rfl, rfl⟩, rfl, rfl, fun newId => rfl⟩

/-- The commands of joining are applied. -/
theorem runAll_joinCommands (hselects : client.Selects playing) {bundle : PlayerBundle} {sent : List LoginMessage}
    {character : DbCharacter} (huser : bundle.user = playing.user) (hbecomes : Becomes profile data character bundle) :
    ∃ after, after.PlaysAs profile data playing character ∧
      runAll (LoginClient.turn profile data iteration maxLevel settings) [.apply 0, .apply 0, .apply 0]
        { client with sent, commands := client.commands ++ joinCommands bundle } = some after := by
  obtain ⟨input, charselect, jobs, bundle', sent', history, rfl⟩ := hselects.eq
  exact ⟨⟨none, some playing, none, jobs, some bundle, [], sent, history⟩,
    ⟨rfl, ⟨bundle, rfl, huser, hbecomes⟩, rfl, rfl⟩, rfl⟩

/-- Whether a client gets into the game with a character of its list. -/
theorem runAll_joinTurns (hselects : client.Selects playing)
    (hlist : ∀ charselect ∈ client.characterSelect, charselect.characters = latestLoaded client.history)
    {name : String} {character : DbCharacter}
    (hrequested : client.requested ⟨name⟩ = some character) (newId : Option UInt32) :
    (∃ after, after.PlaysAs profile data playing character ∧
        runAll (LoginClient.turn profile data iteration maxLevel settings) (joinTurns name newId) client = some after) ↔
      character.Playable data ∧ CanSpawn profile data character ∧ newId.isSome = true := by
  obtain ⟨asking, charselect, hrequest, hasking, hcharselect, hhistory, hrun⟩ :=
    joinTurns_request profile data iteration maxLevel settings hselects name
  have hasked : asking.requested ⟨name⟩ = some character := by
    rw [LoginClient.requested, hhistory]
    exact hrequested
  have hlatest : charselect.characters = latestLoaded asking.history := by
    rw [hhistory]
    exact hlist charselect (hcharselect ▸ characterSelect_of_joinRequest hrequest)
  rw [hrun]
  rcases handleJoin_cases profile data iteration maxLevel newId hrequest hlatest with
    ⟨-, hnone, -⟩ | ⟨-, hnone, -⟩ | ⟨character', hcharacter', hjoin⟩
  · rw [hasked] at hnone
    cases hnone
  · rw [hasked] at hnone
    cases hnone
  obtain rfl := Option.some_inj.1 (hcharacter'.symm.trans hasked)
  rcases hjoin with ⟨hplayable, error, hjoin⟩ | ⟨hplayable, hjoin⟩
  · -- an error is sent, and there is no command to apply
    refine iff_of_false ?_ fun h => hplayable h.1
    rintro ⟨after, -, hafter⟩
    rw [hjoin, Option.bind_some, runAll_cons, LoginClient.turn, LoginClient.applyPending] at hafter
    rw [LoginClient.sendJoinError, LoginClient.send, hasking.commands] at hafter
    cases hafter
  · rw [hjoin, and_iff_right hplayable,
      ← joinWorld_isSome_iff profile data iteration maxLevel newId playing.user character' asking]
    constructor
    · rintro ⟨after, -, hafter⟩
      obtain ⟨joined, hjoined, -⟩ := Option.bind_eq_some_iff.1 hafter
      exact Option.isSome_of_eq_some hjoined
    · intro hsome
      obtain ⟨joined, hjoined⟩ := Option.isSome_iff_exists.1 hsome
      obtain ⟨bundle, sent, huser, hbecomes, rfl⟩ := joinWorld_becomes hjoined
      rw [hjoined, Option.bind_some]
      exact runAll_joinCommands profile data iteration maxLevel settings hasking huser hbecomes

/-- A client plays: it gets as far as joining with a character of the list. -/
theorem runAll_play (hclient : s.server.clients[i]? = some client) (hselects : client.Selects playing) :
    ∃ (t : Lobby) (ready : LoginClient), i < t.server.clients.length ∧ ready.Selects playing ∧
      (∀ charselect ∈ ready.characterSelect, charselect.characters = latestLoaded ready.history) ∧
      latestLoaded ready.history = some (fetchCharacters s.now playing.user.id settings.serverId s.table) ∧
      ∀ name newId, runAll (Lobby.event profile data iteration maxLevel settings max reservationValidTime lower)
          (s.play settings i playing.user.id name newId) s =
        (runAll (LoginClient.turn profile data iteration maxLevel settings) (joinTurns name newId) ready).map
          (t.afterTurns i ready) := by
  obtain ⟨t, ready, hready, hselects', hlist, hlatest, hrun⟩ :=
    runAll_list profile data iteration maxLevel settings max reservationValidTime lower hclient hselects
  refine ⟨t, ready, (List.getElem?_eq_some_iff.1 hready).1, hselects', hlist, hlatest, fun name newId => ?_⟩
  have hquiet : ∀ turn ∈ joinTurns name newId, turn.received = none := by simp [joinTurns, ClientTurn.received]
  have hplay : s.play settings i playing.user.id name newId =
      (s.askAndRun i .list ++
        .turn i (.listReceived (.ok (fetchCharacters s.now playing.user.id settings.serverId s.table))) ::
          [ClientTurn.apply 0].map (.turn i)) ++ (joinTurns name newId).map (.turn i) := by
    rw [Lobby.play, List.append_assoc]
    rfl
  rw [hplay, runAll_append, hrun, Option.bind_some, Lobby.runAll_turns profile data iteration maxLevel settings max
    reservationValidTime lower hquiet hready]

variable {profile data iteration maxLevel settings max reservationValidTime lower}

/-- What has become of the client is in the lobby. -/
theorem Lobby.exists_playsAs_iff (hi : i < s.server.clients.length) {x : Option LoginClient}
    {character : DbCharacter} :
    (∃ t, t.PlaysAs profile data i playing character ∧ x.map (s.afterTurns i client) = some t) ↔
      ∃ after, after.PlaysAs profile data playing character ∧ x = some after := by
  have hself : ∀ after, (s.afterTurns i client after).server.clients[i]? = some after :=
    Lobby.setClient_clients_self hi
  constructor
  · rintro ⟨t, ⟨after, hafter, hplays⟩, ht⟩
    obtain ⟨last, hlast, rfl⟩ := Option.map_eq_some_iff.1 ht
    obtain rfl := Option.some_inj.1 ((hself last).symm.trans hafter)
    exact ⟨last, hplays, hlast⟩
  · rintro ⟨after, hplays, hafter⟩
    exact ⟨_, ⟨after, hself after, hplays⟩, Option.map_eq_some_iff.2 ⟨after, hafter, rfl⟩⟩

variable (profile data iteration maxLevel settings max reservationValidTime lower)

/-- **From every state of the lobby a client that selects a character gets into the game with any one of its list
if and only if it may be played and can spawn.** -/
theorem plays_iff (hclient : s.server.clients[i]? = some client) (hselects : client.Selects playing) (name : String)
    (newId : Option UInt32) {character : DbCharacter}
    (hlisted : (fetchCharacters s.now playing.user.id settings.serverId s.table).find? (·.charname == name) =
      some character) :
    (∃ t, t.PlaysAs profile data i playing character ∧
        runAll (Lobby.event profile data iteration maxLevel settings max reservationValidTime lower)
          (s.play settings i playing.user.id name newId) s = some t) ↔
      character.Playable data ∧ CanSpawn profile data character ∧ newId.isSome = true := by
  obtain ⟨t, ready, hi, hready, hlist, hlatest, hrun⟩ :=
    runAll_play profile data iteration maxLevel settings max reservationValidTime lower hclient hselects
  have hrequested : ready.requested ⟨name⟩ = some character := by
    rw [LoginClient.requested, hlatest]
    exact hlisted
  rw [hrun, Lobby.exists_playsAs_iff hi,
    runAll_joinTurns profile data iteration maxLevel settings hready hlist hrequested]

/-- A world with one type of characters, and one item: a garment for the chest. -/
def heroWorld : WorldData :=
  { items := ⟨[⟨⟨10, ⟨3, 1, 1, 3⟩⟩, 1, none⟩]⟩, characters := [⟨1907, ⟨1, 1, 1, 1⟩⟩], skills := [] }

/-- The first user selects a character. -/
def heroLobby (table : CharacterTable) : Lobby :=
  { Lobby.start 0 table with
    server := { LoginServer.start 0 with
      clients := [{ LoginClient.accepted with playing := some ⟨firstUser, {}⟩, characterSelect := some .default }] } }

/-- The character of the first user. -/
def hero (weapon : UInt32) : DbCharacter := insertedCharacter (createCharacterFrom "Hero" 1907 10 10 10 weapon)

/-- With a character that is stored the user gets into the game. -/
theorem stored_hero_plays :
    ∃ t, t.PlaysAs .debug heroWorld 0 ⟨firstUser, {}⟩ (hero 10) ∧
      runAll (Lobby.event .debug heroWorld .ascending 80 selectionSettings 2 30 id)
        ((heroLobby [⟨1, 1, hero 10⟩]).play selectionSettings 0 1 "Hero" (some 1)) (heroLobby [⟨1, 1, hero 10⟩]) =
          some t := by
  have hitem : CanStartWith heroWorld 10 := ⟨_, rfl, fun pet heq => by cases heq⟩
  refine (plays_iff .debug heroWorld .ascending 80 selectionSettings 2 30 id (i := 0) rfl ⟨rfl, rfl, rfl, rfl⟩
    "Hero" (some 1) (by decide)).2 ⟨⟨by decide, rfl⟩, (canSpawn_created_iff ..).2 ?_, rfl⟩
  simpa using hitem

/-! ### Creating a character -/

/-- **A client that creates a character under a new name gets into the game with it if and only if its type and its
items are known and no item is a pet.** -/
theorem created_plays_iff (hclient : s.server.clients[i]? = some client) (hselects : client.Selects playing)
    (name : String) (refId : UInt32) (scale : UInt8) (chest pants boots weapon : UInt32) (newId : Option UInt32)
    (hnew : ∀ character ∈ fetchCharacters s.now playing.user.id settings.serverId s.table,
      character.charname ≠ name) :
    (∃ t, t.PlaysAs profile data i playing
          (insertedCharacter (createCharacterFrom name refId chest pants boots weapon)) ∧
        runAll (Lobby.event profile data iteration maxLevel settings max reservationValidTime lower)
          (s.createAndPlay settings i playing.user.id name refId scale chest pants boots weapon newId) s = some t) ↔
      (data.findCharacter refId).isSome = true ∧
        (∀ item ∈ [chest, pants, boots, weapon], CanStartWith data item) ∧ newId.isSome = true := by
  obtain ⟨waiting, hwaiting, -, hrun⟩ := runAll_askAndRun profile data iteration maxLevel settings max
    reservationValidTime lower hclient hselects
    (starts_create playing.user.id name refId scale chest pants boots weapon)
  have hi : i < s.server.clients.length := (List.getElem?_eq_some_iff.1 hclient).1
  let created : Lobby := { s.setClient i waiting with
    table := createCharacter playing.user.id settings.serverId
      (createCharacterFrom name refId chest pants boots weapon) s.table
    results := s.results ++ [(.createCharacter playing.user.id settings.serverId
      (createCharacterFrom name refId chest pants boots weapon), .created)] }
  obtain ⟨t, ready, hi, hready, hlist, hlatest, hplay⟩ := runAll_play profile data iteration maxLevel settings max
    reservationValidTime lower (s := created) (Lobby.setClient_clients_self hi waiting) hwaiting
  have hrequested : ready.requested ⟨name⟩ =
      some (insertedCharacter (createCharacterFrom name refId chest pants boots weapon)) := by
    rw [LoginClient.requested, hlatest]
    exact find?_createCharacter hnew
  have hsame : runAll (Lobby.event profile data iteration maxLevel settings max reservationValidTime lower)
      (s.createAndPlay settings i playing.user.id name refId scale chest pants boots weapon newId) s =
        (runAll (LoginClient.turn profile data iteration maxLevel settings) (joinTurns name newId) ready).map
          (t.afterTurns i ready) := by
    rw [Lobby.createAndPlay, runAll_append, hrun, Option.bind_some]
    exact hplay name newId
  rw [hsame, Lobby.exists_playsAs_iff hi,
    runAll_joinTurns profile data iteration maxLevel settings hready hlist hrequested, canSpawn_created_iff]
  exact and_congr_left fun _ => and_iff_left rfl

/-- The user gets into the game with a new character that wears the garment, but not with one whose weapon is
unknown. -/
theorem new_hero_plays :
    (∃ t, t.PlaysAs .debug heroWorld 0 ⟨firstUser, {}⟩ (hero 10) ∧
      runAll (Lobby.event .debug heroWorld .ascending 80 selectionSettings 2 30 id)
        ((heroLobby []).createAndPlay selectionSettings 0 1 "Hero" 1907 0 10 10 10 10 (some 1)) (heroLobby []) =
          some t) ∧
    ¬ ∃ t, t.PlaysAs .debug heroWorld 0 ⟨firstUser, {}⟩ (hero 11) ∧
      runAll (Lobby.event .debug heroWorld .ascending 80 selectionSettings 2 30 id)
        ((heroLobby []).createAndPlay selectionSettings 0 1 "Hero" 1907 0 10 10 10 11 (some 1)) (heroLobby []) =
          some t := by
  have hitem : CanStartWith heroWorld 10 := ⟨_, rfl, fun pet heq => by cases heq⟩
  have hiff := fun weapon => created_plays_iff .debug heroWorld .ascending 80 selectionSettings 2 30 id
    (s := heroLobby []) (i := 0) rfl ⟨rfl, rfl, rfl, rfl⟩ "Hero" 1907 0 10 10 10 weapon (some 1) (by decide)
  refine ⟨(hiff 10).2 ⟨by decide, by simpa using hitem, rfl⟩, fun h => ?_⟩
  obtain ⟨kind, hkind, -⟩ := ((hiff 11).1 h).2.1 11 (by simp)
  cases hkind

end Turns

end Skrillax

/-
**Who reads what.**

A message in the chat is for everybody in sight of the player who writes it, for the game masters, or for the
player of a name; what a client reads is what others have written for it.  Whether the last kind arrives rests
on the names under which players are found.

Main definitions:

* `heard` — the messages that are sent to a client;
* `isFor`, `sourceOf` — for whom a message is, and as whose it is shown;
* `ChatGame.Of` — the players of the game are those of the entities.

Main results:

* `heard_handleMessage` — one message;
* `chat_is_delivered` — **in every run in which players are collected with distinct names, what a client reads
  in a tick is all that was written for it, once, and in the order in which it was written**.
-/

import Skrillax.GmCommands
import Skrillax.PlayerNames

set_option relaxedAutoImplicit false
set_option autoImplicit false

namespace Skrillax.Chat

open PartialAction

variable {F Position Location Packet Rest Pool : Type}

/-! ### Readers -/

/-- The messages among what is sent to an entity. -/
def heard (entity : Entity) (sent : List (Entity × Sent F)) : List (ChatSource × String) :=
  sent.filterMap fun (receiver, packet) =>
    match packet with
    | .chatUpdate source message => if receiver = entity then some (source, message) else none
    | _ => none

/-- A message is for this reader. -/
def isFor (gm : Entity → Bool) (player reader : ChatPlayer F Position) (message : ChatMessage) : Bool :=
  match message.target with
  | .all => decide (reader.entity ∈ player.entitiesInRadius)
  | .allGm => gm player.entity && message.message.toList.head? != some '.' && gm reader.entity &&
      reader.userId != player.userId
  | .privateMessage => message.recipient == some reader.name
  | _ => false

/-- As whose a message is shown. -/
def sourceOf (player : ChatPlayer F Position) (message : ChatMessage) : ChatSource :=
  match message.target with
  | .all => .all player.gameEntity.uniqueId
  | .allGm => .allGm player.gameEntity.uniqueId
  | _ => .privateMessage player.name

/-- The players of the game are the entities that are players, under the lookup of the entities; what is in
sight of a player is a set. -/
structure ChatGame.Of (game : ChatGame F Position Location Rest) (w : IdWorld Pool) : Prop where
  lookup : game.lookup = w.lookup
  nodup : (game.players.map ChatPlayer.entity).Nodup
  sight : ∀ player ∈ game.players, player.entitiesInRadius.Nodup
  record : ∀ player ∈ game.players, ∃ record ∈ w.entities, record.entity = player.entity ∧
    record.player = some player.name

/-- The player was there when players were collected last. -/
def WasCollected (w : IdWorld Pool) (player : ChatPlayer F Position) : Prop :=
  ∀ record ∈ w.entities, record.entity = player.entity → record.added = false

/-! ### What is sent -/

theorem heard_append (entity : Entity) (sent sent' : List (Entity × Sent F)) :
    heard entity (sent ++ sent') = heard entity sent ++ heard entity sent' := List.filterMap_append ..

@[simp] theorem heard_respond (entity receiver : Entity) (result : ChatMessageResult) (target : ChatTarget) (index : UInt8) :
    heard entity [((receiver, .chatMessageResponse result target index) : Entity × Sent F)] = [] := rfl

theorem heard_flatMap {α : Type} (entity : Entity) (l : List α) (f : α → List (Entity × Sent F)) :
    heard entity (l.flatMap f) = l.flatMap fun a => heard entity (f a) := by
  rw [heard, List.filterMap_flatMap]
  rfl

/-- One message to each of several players. -/
theorem heard_map (entity : Entity) {others : List (ChatPlayer F Position)}
    (h : (others.map ChatPlayer.entity).Nodup) (source : ChatSource) (message : String) :
    heard entity (others.map fun other => ((other.entity, .chatUpdate source message) : Entity × Sent F)) =
      if entity ∈ others.map ChatPlayer.entity then [(source, message)] else [] := by
  induction others with
  | nil => rfl
  | cons other others ih =>
      rw [List.map_cons, List.nodup_cons] at h
      rw [List.map_cons, List.map_cons, ← List.singleton_append, heard_append, ih h.2]
      by_cases heq : other.entity = entity
      · subst heq
        simp [heard, h.1]
      · have hne : entity ≠ other.entity := Ne.symm heq
        simp [heard, heq, hne]

namespace ChatGame.Of

variable {game : ChatGame F Position Location Rest} {w : IdWorld Pool}

theorem player_eq_some_iff (h : game.Of w) {entity : Entity} {player : ChatPlayer F Position} :
    game.player entity = some player ↔ player ∈ game.players ∧ player.entity = entity := by
  constructor
  · intro hfind
    exact ⟨List.mem_of_find?_eq_some hfind, by simpa using List.find?_some hfind⟩
  · rintro ⟨hplayer, rfl⟩
    obtain ⟨found, hfound⟩ : ∃ found, game.player player.entity = some found :=
      Option.isSome_iff_exists.1 (List.find?_isSome.2 ⟨player, hplayer, by simp⟩)
    have heq : found.entity = player.entity := by simpa using List.find?_some hfound
    rw [hfound, List.inj_on_of_nodup_map h.nodup (List.mem_of_find?_eq_some hfound) hplayer heq]

/-- Those of several entities who are players. -/
theorem map_filterMap_player (h : game.Of w) (entities : List Entity) :
    (entities.filterMap game.player).map ChatPlayer.entity =
      entities.filter fun entity => (game.player entity).isSome := by
  induction entities with
  | nil => rfl
  | cons entity entities ih =>
      cases hplayer : game.player entity with
      | none => simp [hplayer, ih]
      | some player =>
          have heq := (h.player_eq_some_iff.1 hplayer).2
          simp [hplayer, ih, heq]

end ChatGame.Of

/-! ### One message -/

/-- A private message finds the player of the name. -/
theorem recipient_iff {game : ChatGame F Position Location Rest} {w : IdWorld Pool} (h : game.Of w)
    (hfinds : w.FindsPlayers) (honly : w.OnlyFindsPlayers) {reader : ChatPlayer F Position}
    (hreader : reader ∈ game.players) (hcollected : WasCollected w reader) {recipient : Option String} :
    (recipient.bind game.lookup.getEntityForName).bind game.player = some reader ↔ recipient = some reader.name := by
  obtain ⟨record, hrecord, hentity, hname⟩ := h.record reader hreader
  constructor
  · intro hfound
    obtain ⟨entity, hentity', hplayer⟩ := Option.bind_eq_some_iff.1 hfound
    obtain ⟨name, rfl, hlookup⟩ := Option.bind_eq_some_iff.1 hentity'
    obtain ⟨-, rfl⟩ := h.player_eq_some_iff.1 hplayer
    rw [h.lookup] at hlookup
    rw [← hname, honly name _ hlookup record hrecord hentity]
  · rintro rfl
    have hlookup := hfinds record hrecord (hcollected record hrecord hentity) reader.name hname
    rw [Option.bind_some, h.lookup, hlookup, Option.bind_some, hentity]
    exact h.player_eq_some_iff.2 ⟨hreader, rfl⟩

/-- **What a client reads of one message.** -/
theorem heard_handleMessage {gm : Entity → Bool} {game : ChatGame F Position Location Rest} {w : IdWorld Pool}
    (h : game.Of w) (hfinds : w.FindsPlayers) (honly : w.OnlyFindsPlayers) {player reader : ChatPlayer F Position}
    (hplayer : player ∈ game.players) (hreader : reader ∈ game.players) (hcollected : WasCollected w reader)
    (message : ChatMessage) :
    heard reader.entity (handleMessage gm game player message).2 =
      if isFor gm player reader message then [(sourceOf player message, message.message)] else [] := by
  have hself : game.player reader.entity = some reader := h.player_eq_some_iff.2 ⟨hreader, rfl⟩
  obtain ⟨target, index, recipient, text⟩ := message
  cases target with
  | all =>
      have hnodup : ((player.entitiesInRadius.filterMap game.player).map ChatPlayer.entity).Nodup := by
        rw [h.map_filterMap_player]
        exact (h.sight player hplayer).filter _
      simp [handleMessage, canSendMessage, isFor, sourceOf, heard_append, heard_map reader.entity hnodup,
        h.map_filterMap_player, hself]
  | allGm =>
      have hnodup : (((game.players.filter fun other => gm other.entity).filter fun other =>
          other.userId != player.userId).map ChatPlayer.entity).Nodup :=
        h.nodup.sublist ((List.filter_sublist.trans List.filter_sublist).map _)
      have hmem : reader.entity ∈ ((game.players.filter fun other => gm other.entity).filter fun other =>
          other.userId != player.userId).map ChatPlayer.entity ↔
            gm reader.entity = true ∧ reader.userId ≠ player.userId := by
        rw [List.mem_map]
        constructor
        · rintro ⟨other, hother, heq⟩
          simp only [List.mem_filter, bne_iff_ne] at hother
          obtain rfl := List.inj_on_of_nodup_map h.nodup hother.1.1 hreader heq
          exact ⟨hother.1.2, hother.2⟩
        · rintro ⟨hgm, huser⟩
          exact ⟨reader, by simp [hreader, hgm, huser], rfl⟩
      cases hgm : gm player.entity with
      | false => simp [handleMessage, canSendMessage, isFor, hgm]
      | true =>
          by_cases hdot : text.toList.head? = some '.'
          · simp [handleMessage, canSendMessage, isFor, hgm, hdot]
          · simp only [handleMessage, canSendMessage, hgm, if_true, if_neg hdot, heard_append, heard_respond,
              List.append_nil, heard_map reader.entity hnodup, hmem]
            simp [isFor, sourceOf, hgm, hdot]
  | privateMessage =>
      have hrecipient : (recipient.bind game.lookup.getEntityForName).bind game.player = some reader ↔
          recipient = some reader.name := recipient_iff h hfinds honly hreader hcollected
      simp only [handleMessage, canSendMessage, if_true, isFor, sourceOf, beq_iff_eq]
      cases hother : (recipient.bind game.lookup.getEntityForName).bind game.player with
      | none =>
          have hnot : recipient ≠ some reader.name := fun heq => by
            rw [hrecipient.2 heq] at hother
            cases hother
          simp [hnot]
      | some other =>
          rw [hother, Option.some_inj] at hrecipient
          have hmem : other ∈ game.players := by
            obtain ⟨entity, -, hfound⟩ := Option.bind_eq_some_iff.1 hother
            exact (h.player_eq_some_iff.1 hfound).1
          by_cases heq : other = reader
          · simp [heard, heq, hrecipient.1 heq]
          · have hnot : recipient ≠ some reader.name := fun hname => heq (hrecipient.2 hname)
            have hne : other.entity ≠ reader.entity := fun hentity =>
              heq (List.inj_on_of_nodup_map h.nodup hmem hreader hentity)
            simp [heard, hne, hnot]
  | npc | notice | global => simp [handleMessage, canSendMessage, isFor]
  | party | guild | stall | union | academy => simp [handleMessage, canSendMessage, isFor, heard]

/-! ### A tick of a run -/

/-- **What a client reads in a tick is all that was written for it, once, and in the order in which it was
written**, if players are collected with distinct names. -/
theorem chat_is_delivered (ids : IdPool Pool) (pool : Pool) {actions : List IdAction}
    (hnames : AllSteps (IdWorld.step ids) IdWorld.DistinctNames actions (IdWorld.init pool)) (gm : Entity → Bool)
    (inputs : Entity → PlayerInput Packet) :
    Reached (IdWorld.step ids) (fun w => ∀ game : ChatGame F Position Location Rest, game.Of w →
        ∀ reader ∈ game.players, WasCollected w reader →
          heard reader.entity (handleChat gm inputs game).2 =
            game.players.flatMap fun player =>
              ((inputs player.entity).chat.filter (isFor gm player reader)).map fun message =>
                (sourceOf player message, message.message))
      actions (IdWorld.init pool) := by
  intro pre w hpre hw game h reader hreader hcollected
  obtain ⟨hfinds, honly⟩ := IdWorld.finds_players ids pool hnames pre w hpre hw
  rw [handleChat, heard_flatMap, List.flatMap_assoc]
  refine List.flatMap_congr fun player hplayer => ?_
  rw [List.flatMap_map]
  simp only [heard_handleMessage h hfinds honly hplayer hreader hcollected]
  induction (inputs player.entity).chat with
  | nil => rfl
  | cons message messages ih =>
      rw [List.flatMap_cons, ih, List.filter_cons]
      split <;> rfl

/-! ### A whisper -/

/-- Two clients join, and are collected. -/
def bothJoin : List IdAction :=
  [.accept 1, .accept 2, .applyCommand 0, .applyCommand 0, .handleJoin 1 1907 "Hero", .handleJoin 2 1907 "Bard",
    .applyCommand 0, .applyCommand 0, .collectEntities]

def heroAndBard : IdWorld (List UInt32) where
  entities := [⟨1, some ⟨7, 1907⟩, some "Hero", false, false⟩, ⟨2, some ⟨8, 1907⟩, some "Bard", false, false⟩]
  reserved := [2, 1]
  commands := []
  pool := []
  lookup := ⟨((∅ : AList _).insert "Hero" 1).insert "Bard" 2, ((∅ : AList _).insert 7 1).insert 8 2⟩

def standing (entity : Entity) (uniqueId userId : UInt32) (name : String) : ChatPlayer Unit Unit where
  entity := entity
  gameEntity := ⟨uniqueId, 1907⟩
  userId := userId
  name := name
  level := 1
  exp := 0
  position := ()
  target := none
  walkingSpeed := ()
  runningSpeed := ()
  entitiesInRadius := []
  invincible := false
  invisible := false

def heroGame : ChatGame Unit Unit Unit Unit where
  players := [standing 1 7 1 "Hero", standing 2 8 2 "Bard"]
  positions := fun _ => some ()
  lookup := heroAndBard.lookup
  monsterSpawns := []
  drops := []
  experience := []
  rest := ()

def whisper (entity : Entity) : PlayerInput Unit where
  chat := if entity = 1 then [⟨.privateMessage, 0, some "Bard", "Psst"⟩] else []
  gm := none
  others := []

/-- The bard reads what the hero has written, although they do not see each other. -/
theorem whisper_is_read :
    heard 2 (handleChat (fun _ => false) whisper heroGame).2 = [(.privateMessage "Hero", "Psst")] := by
  have hnames : AllSteps (IdWorld.step .ofList) IdWorld.DistinctNames bothJoin (IdWorld.init [7, 8]) := by decide
  have hof : heroGame.Of heroAndBard := by
    refine ⟨rfl, by decide, ?_, ?_⟩
    · simp [heroGame, standing]
    · simp [heroGame, standing, heroAndBard]
  have hread := chat_is_delivered .ofList [7, 8] hnames (fun _ => false) whisper bothJoin heroAndBard
    (List.prefix_refl _) rfl heroGame hof (standing 2 8 2 "Bard") (by simp [heroGame])
    (by simp [WasCollected, heroAndBard])
  exact hread.trans rfl

end Skrillax.Chat

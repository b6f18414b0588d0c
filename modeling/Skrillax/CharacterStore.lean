/-
**The characters in the database.**

The tasks of the character selection are statements on the table of the characters.  A deletion does not
remove a row, it only sets a date: until then the character is listed and can be restored, and afterwards no
statement finds it but another deletion.  A new character is stored with the columns that the `INSERT` names;
its race and its gold are not among them, and get the defaults of the table.  The column of the server is wider
than its id: some of the statements are handed the id as a signed number, and others are not.

Main definitions:

* `CharacterRow` — a row of `characters`, with the rows of the other tables that belong to it;
* `fetchCharacters`, `startDeleteCharacter`, `restoreCharacter`, `createCharacter`, `checkNameAvailable` — the
  statements;
* `Task.run`, `TaskResult` — running a task, and what it returns;
* `Task.userId` — the user for whom a task is.

Main results:

* `mem_fetchCharacters` — what is listed;
* `Task.run_owned` — a row keeps its user, its server and its name;
* `Task.run_of_other` — a task leaves the rows of all other users alone.
-/

import Skrillax.LoginClient

set_option relaxedAutoImplicit false
set_option autoImplicit false

namespace Skrillax

/-! ### The table -/

structure CharacterRow where
  userId : Int32
  serverId : Int32
  character : DbCharacter
  deriving DecidableEq, Repr

/-- `server_id as i32`. -/
def serverAsI32 (serverId : UInt16) : Int32 := serverId.toUInt32.toInt32

/-- `server_id as i16`, which the database widens to the type of the column. -/
def serverAsI16 (serverId : UInt16) : Int32 := serverId.toInt16.toInt32

namespace CharacterRow

/-- `user_id = $1 AND server_id = $2`. -/
def isOf (row : CharacterRow) (userId serverId : Int32) : Bool :=
  row.userId == userId && row.serverId == serverId

/-- `charname = $3`, on top of that. -/
def isNamed (row : CharacterRow) (userId serverId : Int32) (name : String) : Bool :=
  row.isOf userId serverId && row.character.charname == name

/-- `deletion_end > NOW()`. -/
def isPending (row : CharacterRow) (now : Instant) : Bool :=
  row.character.deletionEnd.any fun deletionEnd => decide (now < deletionEnd)

/-- `deletion_end > NOW() OR deletion_end is null`. -/
def isListed (row : CharacterRow) (now : Instant) : Bool :=
  row.isPending now || row.character.deletionEnd.isNone

end CharacterRow

/-- The rows, in the order of their ids. -/
abbrev CharacterTable := List CharacterRow

/-- An `UPDATE` of the rows that a condition selects, and the number of rows affected. -/
def updateWhere (cond : CharacterRow → Bool) (f : DbCharacter → DbCharacter) (table : CharacterTable) :
    CharacterTable × ℕ :=
  (table.map fun row => if cond row then { row with character := f row.character } else row,
    table.countP cond)

/-! ### The statements -/

/-- The items, masteries and skills are those of the characters that are found. -/
def fetchCharacters (now : Instant) (userId : Int32) (serverId : UInt16) (table : CharacterTable) :
    List DbCharacter :=
  (table.filter fun row => row.isOf userId (serverAsI32 serverId) && row.isListed now).map CharacterRow.character

/-- The date is `deletion_duration` minutes away; the duration is bound as an `i32`. -/
def startDeleteCharacter (now : Instant) (userId : Int32) (name : String) (serverId : UInt16)
    (deletionDuration : UInt32) (table : CharacterTable) : CharacterTable × Bool :=
  let deletionEnd : Instant := (now + deletionDuration.toInt32.toInt * 60000000000).toNat
  let (table, affected) := updateWhere (fun row => row.isNamed userId (serverAsI16 serverId) name)
    (fun character => { character with deletionEnd := some deletionEnd }) table
  (table, affected == 1)

def restoreCharacter (now : Instant) (userId : Int32) (name : String) (serverId : UInt16)
    (table : CharacterTable) : CharacterTable × Bool :=
  let (table, affected) := updateWhere
    (fun row => row.isNamed userId (serverAsI16 serverId) name && row.isPending now)
    (fun character => { character with deletionEnd := none }) table
  (table, affected == 1)

/-- The row of an `INSERT`: the columns that are not named get their defaults, and so does the amount of an
item. -/
def insertedCharacter (character : DbCharacter) : DbCharacter where
  charname := character.charname
  characterType := character.characterType
  deletionEnd := none
  characterData :=
    { race := .chinese
      level := character.characterData.level
      maxLevel := character.characterData.maxLevel
      exp := 0, sp := 0, spExp := 0
      strength := character.characterData.strength
      intelligence := character.characterData.intelligence
      statPoints := character.characterData.statPoints
      gold := 0 }
  items := character.items.map fun item =>
    { slot := item.slot
      row := { itemObjId := item.row.itemObjId, upgradeLevel := item.row.upgradeLevel, variance := none, amount := 1 } }
  masteries := []
  skills := []

def createCharacter (userId : Int32) (serverId : UInt16) (character : DbCharacter) (table : CharacterTable) :
    CharacterTable :=
  table ++ [⟨userId, serverAsI32 serverId, insertedCharacter character⟩]

/-- `lower` is the function `LOWER` of the database. -/
def checkNameAvailable (lower : String → String) (name : String) (serverId : UInt16) (table : CharacterTable) :
    String × Bool :=
  (name, table.countP (fun row =>
    lower row.character.charname == lower name && row.serverId == serverAsI16 serverId) == 0)

/-! ### Running a task -/

inductive TaskResult where
  | created
  | loaded (characters : List DbCharacter)
  | deleted (success : Bool)
  | checked (name : String) (available : Bool)
  | restored (success : Bool)
  deriving DecidableEq, Repr

namespace Task

/-- The user for whom a task is; names are checked for everybody. -/
def userId : Task → Option Int32
  | createCharacter userId _ _ => some userId
  | loadCharactersSparse userId _ => some userId
  | startDeleteCharacter userId _ _ _ => some userId
  | checkNameAvailable _ _ => none
  | restoreCharacter userId _ _ => some userId

/-- The statements of a task, at one instant. -/
def run (lower : String → String) (now : Instant) : Task → CharacterTable → CharacterTable × TaskResult
  | createCharacter userId serverId character, table =>
      (Skrillax.createCharacter userId serverId character table, .created)
  | loadCharactersSparse userId serverId, table => (table, .loaded (fetchCharacters now userId serverId table))
  | startDeleteCharacter userId name serverId deletionTime, table =>
      let (table, success) := Skrillax.startDeleteCharacter now userId name serverId deletionTime table
      (table, .deleted success)
  | checkNameAvailable name serverId, table =>
      let (name, available) := Skrillax.checkNameAvailable lower name serverId table
      (table, .checked name available)
  | restoreCharacter userId name serverId, table =>
      let (table, success) := Skrillax.restoreCharacter now userId name serverId table
      (table, .restored success)

end Task

/-! ### What stays -/

/-- There is a character of the user on the server, with this name. -/
def Owns (table : CharacterTable) (userId serverId : Int32) (name : String) : Prop :=
  ∃ row ∈ table, row.isNamed userId serverId name = true

theorem mem_fetchCharacters {now : Instant} {userId : Int32} {serverId : UInt16} {table : CharacterTable}
    {character : DbCharacter} :
    character ∈ fetchCharacters now userId serverId table ↔
      ∃ row ∈ table, row.isOf userId (serverAsI32 serverId) = true ∧ row.isListed now = true ∧ row.character = character := by
  simp only [fetchCharacters, List.mem_map, List.mem_filter, Bool.and_eq_true, and_assoc]

/-- An update that does not touch the names. -/
theorem owns_updateWhere {cond : CharacterRow → Bool} {f : DbCharacter → DbCharacter}
    (hf : ∀ character, (f character).charname = character.charname) {table : CharacterTable}
    {userId serverId : Int32} {name : String} (h : Owns table userId serverId name) :
    Owns (updateWhere cond f table).1 userId serverId name := by
  obtain ⟨row, hrow, hnamed⟩ := h
  refine ⟨_, List.mem_map_of_mem hrow, ?_⟩
  split
  · have hname : ({ row with character := f row.character } : CharacterRow).isNamed userId serverId name =
        row.isNamed userId serverId name := by
      simp only [CharacterRow.isNamed, CharacterRow.isOf, hf]
    rw [hname, hnamed]
  · exact hnamed

/-- The rows of a user. -/
def rowsOf (userId : Int32) (table : CharacterTable) : CharacterTable :=
  table.filter fun row => row.userId == userId

/-- An update of rows of another user. -/
theorem rowsOf_updateWhere {cond : CharacterRow → Bool} {f : DbCharacter → DbCharacter} {userId : Int32}
    (hcond : ∀ row, cond row = true → row.userId ≠ userId) (table : CharacterTable) :
    rowsOf userId (updateWhere cond f table).1 = rowsOf userId table := by
  simp only [updateWhere, rowsOf]
  induction table with
  | nil => rfl
  | cons row table ih =>
      rw [List.map_cons]
      cases hrow : cond row with
      | true =>
          have hother : (row.userId == userId) = false := beq_false_of_ne (hcond row hrow)
          rw [if_pos rfl, List.filter_cons_of_neg (by simpa using hother),
            List.filter_cons_of_neg (by simpa using hother), ih]
      | false => simp only [Bool.false_eq_true, if_false, List.filter_cons, ih]

theorem CharacterRow.userId_of_isNamed {row : CharacterRow} {userId serverId : Int32} {name : String}
    (h : row.isNamed userId serverId name = true) : row.userId = userId := by
  simp only [isNamed, isOf, Bool.and_eq_true, beq_iff_eq] at h
  exact h.1.1

namespace Task

variable {lower : String → String} {now : Instant} {task : Task} {table : CharacterTable}

/-- A row keeps its user, its server and its name. -/
theorem run_owned {userId serverId : Int32} {name : String} (h : Owns table userId serverId name) :
    Owns (task.run lower now table).1 userId serverId name := by
  cases task with
  | createCharacter userId' serverId' character =>
      obtain ⟨row, hrow, hnamed⟩ := h
      exact ⟨row, List.mem_append_left _ hrow, hnamed⟩
  | loadCharactersSparse => exact h
  | startDeleteCharacter =>
      simp only [run, Skrillax.startDeleteCharacter]
      refine owns_updateWhere (fun character => ?_) h
      rfl
  | checkNameAvailable => exact h
  | restoreCharacter =>
      simp only [run, Skrillax.restoreCharacter]
      refine owns_updateWhere (fun character => ?_) h
      rfl

/-- A task leaves the rows of all other users alone. -/
theorem run_of_other {userId : Int32} (h : task.userId ≠ some userId) :
    rowsOf userId (task.run lower now table).1 = rowsOf userId table := by
  cases task with
  | createCharacter userId' serverId character =>
      have hother : (userId' == userId) = false := beq_false_of_ne fun heq => h (congrArg some heq)
      show (table ++ [_]).filter _ = _
      rw [List.filter_append, List.filter_singleton]
      simp [hother, rowsOf]
  | loadCharactersSparse => rfl
  | startDeleteCharacter userId' name serverId deletionTime =>
      simp only [run, Skrillax.startDeleteCharacter]
      refine rowsOf_updateWhere (fun row hrow heq => h ?_) table
      rw [Task.userId, ← heq, CharacterRow.userId_of_isNamed hrow]
  | checkNameAvailable => rfl
  | restoreCharacter userId' name serverId =>
      simp only [run, Skrillax.restoreCharacter]
      refine rowsOf_updateWhere (fun row hrow heq => h ?_) table
      rw [Task.userId, ← heq, CharacterRow.userId_of_isNamed (Bool.and_eq_true_iff.1 hrow).1]

/-- What a task returns that loads the characters of a user: characters of that user. -/
theorem owns_of_loaded {userId : Int32} {serverId : UInt16} {characters : List DbCharacter}
    (h : ((loadCharactersSparse userId serverId).run lower now table).2 = .loaded characters) :
    ∀ character ∈ characters, Owns table userId (serverAsI32 serverId) character.charname := by
  cases h
  intro character hcharacter
  obtain ⟨row, hrow, hof, -, rfl⟩ := mem_fetchCharacters.1 hcharacter
  exact ⟨row, hrow, by rw [CharacterRow.isNamed, hof, beq_self_eq_true]; rfl⟩

end Task

end Skrillax

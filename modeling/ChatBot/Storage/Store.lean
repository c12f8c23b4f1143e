import ChatBot.Json.Reading
import ChatBot.Message
import ChatBot.Storage.FileTree

/-!
What a bot keeps for each channel.

A channel has three tables, each in a file of its own: the texts of its commands, other names for
commands, and variables. A table is read when it is first needed, and kept.

* `Store`: where the tables are, the files, and the tables that are kept;
* `Storing`: a computation that uses a store and may fail;
* `commandText?`, `aliasOf?`, `valueOf?`: what a channel has under a name;
* `setVariable`, `increment`: changes of variables. They count only once they are written;
* `prepare`, `reopen`: the folders of a new store, and a store that has kept nothing.
-/

namespace ChatBot.Storage

-- Powers are those of the core library, whatever else is imported.
attribute [local instance (high)] instPowNat

/-- Why a store cannot do what it is asked for: a file cannot be read or written, or it holds no
table. -/
inductive StorageError where
  | unusableFile
  | malformed
  deriving DecidableEq, Repr

/-- A table: values with names, in the order of the names. -/
abbrev Table := Json.Fields

/-- What is kept for channels: the folder of all tables, the files, and the tables that were read or
written. -/
structure Store where
  root : Path
  files : FileTree
  kept : List (Path × Table) := []

/-- A computation that uses a store and may fail. -/
abbrev Storing := ExceptT StorageError (StateM Store)

/-! ### Tables -/

/-- The table in a file; a file that is not there holds an empty one. -/
def readTable (files : FileTree) (path : Path) : Except StorageError Table :=
  match files.read path with
  | .ok body =>
    match Json.Fields.ofText? body.toList with
    | some table => .ok table
    | none => .error .malformed
  | .error .missing => .ok []
  | .error .unusable => .error .unusableFile

/-- The text of a table. -/
def tableText (table : Table) : String := String.ofList (Json.object table).pretty

/-- Writes a table into a file. -/
def writeTable (files : FileTree) (path : Path) (table : Table) :
    Except StorageError Unit × FileTree :=
  let (saved, files) := files.save path (tableText table)
  (saved.mapError fun _ => .unusableFile, files)

namespace Store

/-- The table of a path: the one that is kept, or else the one in the file. -/
def table (s : Store) (path : Path) : Except StorageError Table :=
  match s.kept.lookup path with
  | some table => .ok table
  | none => readTable s.files path

/-- Keeps a table. -/
def keep (s : Store) (path : Path) (table : Table) : Store :=
  { s with kept := (path, table) :: s.kept.filter (·.1 != path) }

/-- The value of a name in a table, which is kept from then on. -/
def lookUp (path : Path) (name : String) : Storing (Option Json) :=
  .mk fun s =>
    match s.table path with
    | .ok table => (.ok (Json.Fields.get? table name), s.keep path table)
    | .error cause => (.error cause, s)

/-- Changes a table. It is kept only if it could be written. -/
def update {α : Type} (path : Path) (change : Table → α × Table) : Storing α :=
  .mk fun s =>
    match s.table path with
    | .ok table =>
      match writeTable s.files path (change table).2 with
      | (.ok (), files) =>
        (.ok (change table).1, { s with files := files }.keep path (change table).2)
      | (.error cause, files) => (.error cause, { s with files := files })
    | .error cause => (.error cause, s)

/-! ### Channels -/

/-- The name of the files of a channel. -/
def fileName (channel : String) : String := (channelName channel).lowercase ++ ".json"

/-- The file with the texts of the commands of a channel. -/
def commandsPath (root : Path) (channel : String) : Path :=
  (root.join ⟨false, ["commands"]⟩).join (.ofText (fileName channel))

/-- The file with the other names for commands of a channel. -/
def aliasesPath (root : Path) (channel : String) : Path :=
  (root.join ⟨false, ["commands", "aliases"]⟩).join (.ofText (fileName channel))

/-- The file with the variables of a channel. -/
def variablesPath (root : Path) (channel : String) : Path :=
  (root.join ⟨false, ["variables"]⟩).join (.ofText (fileName channel))

/-- All files of a channel. -/
def pathsOf (root : Path) (channel : String) : List Path :=
  [commandsPath root channel, aliasesPath root channel, variablesPath root channel]

/-- The text of a command of a channel. -/
def commandText? (channel name : String) : Storing (Option String) := do
  return (← lookUp (commandsPath (← get).root channel) name).bind Json.string?

/-- The command that a name of a channel stands for. -/
def aliasOf? (channel name : String) : Storing (Option String) := do
  return (← lookUp (aliasesPath (← get).root channel) name).bind Json.string?

/-- A variable of a channel. -/
def valueOf? (channel name : String) : Storing (Option Json) := do
  lookUp (variablesPath (← get).root channel) name

/-- Sets a variable of a channel. -/
def setVariable (channel name : String) (value : Json) : Storing Unit := do
  update (variablesPath (← get).root channel) fun table =>
    ((), Json.Fields.insert table name value)

/-- The number after another, within 64 bits. -/
def successor (n : Int) : Int := Int.bmod (n + 1) (2 ^ (64 : Nat))

/-- The count in a variable; zero, if it holds no integer that fits 64 bits with a sign. -/
def countOf (value : Option Json) : Int := (value.bind Json.int64?).getD 0

/-- Adds one to a variable of a channel. -/
def increment (channel name : String) : Storing Int := do
  update (variablesPath (← get).root channel) fun table =>
    let next := successor (countOf (Json.Fields.get? table name))
    (next, Json.Fields.insert table name (.number (.integer next)))

/-! ### Stores -/

/-- Makes a folder below the root. -/
def makeFolder (names : List String) : Storing Unit :=
  .mk fun s =>
    match s.files.makeFolders (s.root.join ⟨false, names⟩) with
    | (.ok (), files) => (.ok (), { s with files := files })
    | (.error _, files) => (.error .unusableFile, { s with files := files })

/-- Makes the folders of all tables. -/
def prepare : Storing Unit := do
  makeFolder ["commands", "aliases"]
  makeFolder ["variables"]

/-- The store as if it had just been opened. -/
def reopen (s : Store) : Store := { s with kept := [] }

end Store

end ChatBot.Storage

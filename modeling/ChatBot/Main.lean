import ChatBot.Program
import Std.Time.DateTime.Timestamp

/-!
The program itself: it hands arguments, files and lines to the functions that decide, and prints
what they answer. Services cannot be reached from here.
-/

namespace ChatBot.Main

open ChatBot.Storage

-- Powers are those of the core library, whatever else is imported.
attribute [local instance (high)] instPowNat

/-- What becomes of requests. -/
def noNetwork : Web.Answer := .error "no network"

/-- The body of a file, if it can be read. -/
def readFile? (path : String) : IO (Option String) := do
  try return some (← IO.FS.readFile path)
  catch _ => return none

/-- The files among some paths that can be read. -/
def readFiles (paths : List Path) : IO FileTree := do
  let bodies ← paths.mapM fun path => do return (path, ← readFile? path.text)
  return bodies.foldl (fun t (path, body) =>
    match body with
    | some body => (t.save path body).2
    | none => t) {}

/-- Writes the files that have changed. -/
def writeChanges (old new : FileTree) : IO Unit :=
  (old.changesFrom new).forM fun (path, body) => do
    IO.FS.createDirAll path.dropLast.text
    IO.FS.writeFile path.text body

/-- The settings that come from outside. -/
def readEnvironment : IO Environment := do
  return {
    mark := ← IO.getEnv "BOT_PREFIX"
    ratesKey := ← IO.getEnv "FIXER_API_KEY"
    folder := ← IO.getEnv "HARMONBOT_DATA_DIR" }

/-- The time, and a number drawn at random. -/
def readCircumstances : IO Circumstances := do
  let now := (← Std.Time.Timestamp.now).toNanosecondsSinceUnixEpoch.val
  return {
    now := ⟨now / 1000000000, (now % 1000000000).toNat⟩
    drawn := ← IO.rand 0 (2 ^ (62 : Nat)) }

/-- Answers the lines that are left, one after another. -/
partial def converse (console : Console) (input : IO.FS.Stream) (s : Store) : IO Unit := do
  let line ← input.getLine
  if line.isEmpty then return
  let exchange := console.dispatcher.process (console.message line) (← readCircumstances) s
  let (text, next) := (exchange.run noNetwork []).result
  writeChanges s.files next.files
  if let some text := text then IO.print (Console.printed text)
  (← IO.getStdout).flush
  converse console input next

/-- Answers lines for as long as there are any. -/
def run (configFile : String) (platform : Option Platform) (channel : Option String) :
    IO UInt32 := do
  let config := Config.choose (← readFile? configFile) (← readEnvironment)
  let console := Console.ofConfig config platform channel
  try
    IO.FS.createDirAll (Store.aliasesPath console.root "").dropLast.text
    IO.FS.createDirAll (Store.variablesPath console.root "").dropLast.text
    let files ← readFiles (Store.pathsOf console.root console.channel)
    converse console (← IO.getStdin) { root := console.root, files := files }
    return 0
  catch cause =>
    IO.eprintln cause
    return failed.toUInt32

end ChatBot.Main

/-- Runs the program with the arguments of the command line. -/
def main (args : List String) : IO UInt32 := do
  match ChatBot.CommandLine.Invocation.ofArgs args with
  | some ⟨configFile, .run platform channel⟩ => ChatBot.Main.run configFile platform channel
  | some ⟨configFile, task⟩ =>
    let input ← if task == .evaluate then (← IO.getStdin).readToEnd else pure ""
    let around : ChatBot.Surroundings := { files := {}, input := input }
    let ended := ((ChatBot.perform configFile task around).run ChatBot.Main.noNetwork []).result
    IO.print ended.output
    return ended.exitCode.toUInt32
  | none =>
    IO.eprint (ChatBot.CommandLine.helpText none)
    return ChatBot.misused.toUInt32

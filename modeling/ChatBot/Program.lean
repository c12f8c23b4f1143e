import ChatBot.Command.BuiltIn
import ChatBot.CommandLine
import ChatBot.Config
import ChatBot.Service

/-!
What the program does.

* `Console`: a bot that answers the lines of a text as messages of one channel;
* `Surroundings`: the files and settings that a run of the program finds;
* `ExitState`: what a run comes to;
* `perform`: a task;
* `execute`: a run with given arguments.
-/

namespace ChatBot

open ChatBot.Storage

/-- A bot that answers the lines of a text as messages of one channel, with stored data in a
folder. -/
structure Console where
  dispatcher : Dispatcher
  channel : String
  platform : Platform
  root : Path

namespace Console

/-- The user who writes the lines. -/
def sender : User := { id := "console", login := "console" }

/-- The channel of lines for which none is given. -/
def channelOf (config : Config) (platform : Platform) : String :=
  match platform with
  | .twitch => config.twitch.channels.head?.getD "console"
  | .discord => "console"

/-- The bot of a configuration, whose platform and channel may be given apart from it. -/
def ofConfig (config : Config) (platform : Option Platform) (channel : Option String) : Console :=
  let platform := platform.getD config.bot.platform
  let builtIn : BuiltIn := { botName := config.bot.name, ratesKey := config.services.ratesKey }
  { dispatcher := {
      mark := ⟨config.bot.mark, platform⟩
      commands := builtIn.commandSet config.bot.mark platform
      counters := config.twitch.counters }
    channel := channel.getD (channelOf config platform)
    platform := platform
    root := .ofText config.storage.folder }

/-- The message of a line. -/
def message (c : Console) (line : String) : Message where
  chat := c.channel
  content := .text line
  sender := sender
  platform := c.platform

/-- A reply as it is printed. -/
def printed (text : String) : String := "[BOT] " ++ text ++ "\n"

end Console

/-- What a run of the program finds: the files, settings from outside, what is written to it, and
what replies may depend on besides the lines. -/
structure Surroundings where
  files : FileTree
  environment : Environment := {}
  input : String := ""
  circumstances : Circumstances := default

/-- What a run of the program comes to: an exit code, which is zero for success, what the program
writes, and the files afterwards. -/
structure ExitState where
  exitCode : Nat
  output : String
  files : FileTree

/-- The exit code of a run that failed. -/
def failed : Nat := 1

/-- The exit code of a run whose arguments are not understood. -/
def misused : Nat := 2

/-- Answers all lines. -/
def converse (console : Console) (around : Surroundings) : Web.Exchange ExitState :=
  match (Store.prepare.run.run { root := console.root, files := around.files }) with
  | (.error _, s) => return ⟨failed, "", s.files⟩
  | (.ok (), s) => do
    let connection : Connection :=
      { events := (Text.lines around.input.toList).map fun line =>
        .ok (console.message (String.ofList line)) }
    let served ← console.dispatcher.serve connection .asTheyCome around.circumstances s
    return ⟨if served.failure.isSome then failed else 0,
      String.join (served.sent.map fun (_, text) => Console.printed text), served.store.files⟩

/-- The default configuration as it is written for the user. -/
def initialConfig : String :=
  (Config.toYaml {}).print ++ "\n\nSave this to config.yaml and adjust as needed.\n"

/-- Performs a task, with the configuration of a file. -/
def perform (configFile : String) (task : CommandLine.Task) (around : Surroundings) :
    Web.Exchange ExitState :=
  match task with
  | .version => return ⟨0, "harmonbot v" ++ version ++ "\n", around.files⟩
  | .help name => return ⟨0, CommandLine.helpText name, around.files⟩
  | .initConfig => return ⟨0, initialConfig, around.files⟩
  | .evaluate =>
    let reply := Calculator.respond around.input.toList
    return ⟨0, String.ofList (reply.write ++ ['\n']), around.files⟩
  | .run platform channel =>
    let body := (around.files.readText configFile).toOption
    converse (.ofConfig (Config.choose body around.environment) platform channel) around

/-- Runs the program with some arguments. -/
def execute (args : List String) (around : Surroundings) : Web.Exchange ExitState :=
  match CommandLine.Invocation.ofArgs args with
  | some invocation => perform invocation.configFile invocation.task around
  | none => return ⟨misused, "", around.files⟩

end ChatBot

import ChatBot.Dispatch
import ChatBot.Yaml.Printer
import ChatBot.Yaml.Reading

/-!
The configuration of a bot.

* `Config`: the settings, in five sections, each with its defaults;
* `Config.ofYaml?`: the settings in a document, where whatever is missing has its default;
* `Environment`, `Config.overridden`: settings that come from outside and win;
* `Config.Valid`: what is demanded of settings, and `Config.check`, which says what is wrong;
* `Config.load`: the settings of a file, checked;
* `Config.choose`: the settings of a file if it has any, else the defaults;
* `Config.toYaml`: the settings as a document.
-/

namespace ChatBot

/-- Who the bot is. The mark is the text in front of the name of a command. -/
structure BotSettings where
  name : String := "Harmonbot"
  mark : String := "!"
  platform : Platform := .discord
  deriving DecidableEq, Repr

/-- How expressions are evaluated: the seconds that an evaluation may take, and how many may go on
at a time. -/
structure CalculatorSettings where
  timeoutSeconds : Nat := 10
  maxWorkers : Nat := 4
  deriving DecidableEq, Repr

/-- How services are asked: what the bot calls itself, the seconds that a request may take, and the
key for exchange rates. -/
structure ServiceSettings where
  userAgent : String := "Harmonbot/0.1.0"
  timeoutSeconds : Nat := 15
  ratesKey : Option String := none
  deriving DecidableEq, Repr

/-- Where data is stored. -/
structure StorageSettings where
  folder : String := "data"
  deriving DecidableEq, Repr

/-- The counters of every bot that is not told otherwise. -/
def Counter.defaults : List Counter :=
  [⟨"mikki", "tick", "ticks",
    "Mikki has wasted \x7bcount\x7d ticks. http://i.imgur.com/bSCnFb1.png"⟩]

/-- The names of the channels of the bot, and the counters of all channels. -/
structure ChannelSettings where
  channels : List String := ["harmonbot"]
  counters : List Counter := Counter.defaults
  deriving DecidableEq, Repr

/-- All settings. -/
structure Config where
  bot : BotSettings := {}
  calculator : CalculatorSettings := {}
  services : ServiceSettings := {}
  storage : StorageSettings := {}
  twitch : ChannelSettings := {}
  deriving DecidableEq, Repr

/-! ### Reading -/

/-- The settings of a bot in a document. -/
def BotSettings.ofYaml? (value : Yaml) : Option BotSettings := do
  let fields ← value.section? ["name", "prefix", "platform"]
  let default : BotSettings := {}
  return {
    name := ← Yaml.field? fields "name" default.name Yaml.text?
    mark := ← Yaml.field? fields "prefix" default.mark Yaml.text?
    platform := ← Yaml.field? fields "platform" default.platform (Yaml.choice? Platform.ofName?) }

/-- The settings for evaluations in a document. -/
def CalculatorSettings.ofYaml? (value : Yaml) : Option CalculatorSettings := do
  let fields ← value.section? ["timeout-secs", "max-workers"]
  let default : CalculatorSettings := {}
  return {
    timeoutSeconds := ← Yaml.field? fields "timeout-secs" default.timeoutSeconds Yaml.unsigned?
    maxWorkers := ← Yaml.field? fields "max-workers" default.maxWorkers Yaml.unsigned? }

/-- The settings for services in a document. -/
def ServiceSettings.ofYaml? (value : Yaml) : Option ServiceSettings := do
  let fields ← value.section? ["user-agent", "request-timeout-secs", "fixer-api-key"]
  let default : ServiceSettings := {}
  return {
    userAgent := ← Yaml.field? fields "user-agent" default.userAgent Yaml.text?
    timeoutSeconds :=
      ← Yaml.field? fields "request-timeout-secs" default.timeoutSeconds Yaml.unsigned?
    ratesKey := ← Yaml.field? fields "fixer-api-key" default.ratesKey Yaml.optionalText? }

/-- The settings for stored data in a document. -/
def StorageSettings.ofYaml? (value : Yaml) : Option StorageSettings := do
  let fields ← value.section? ["data-dir"]
  let default : StorageSettings := {}
  return { folder := ← Yaml.field? fields "data-dir" default.folder Yaml.text? }

/-- A counter in a document. -/
def Counter.ofYaml? (value : Yaml) : Option Counter := do
  let fields ← value.section? ["channel", "command", "variable", "template"]
  return {
    channel := ← (← fields.lookup "channel").text?
    command := ← (← fields.lookup "command").text?
    variableName := ← (← fields.lookup "variable").text?
    template := ← (← fields.lookup "template").text? }

/-- The settings for channels in a document. -/
def ChannelSettings.ofYaml? (value : Yaml) : Option ChannelSettings := do
  let fields ← value.section? ["channels", "counters"]
  let default : ChannelSettings := {}
  return {
    channels := ← Yaml.field? fields "channels" default.channels (Yaml.items? Yaml.text?)
    counters := ← Yaml.field? fields "counters" default.counters (Yaml.items? Counter.ofYaml?) }

/-- All settings in a document. -/
def Config.ofYaml? (value : Yaml) : Option Config := do
  let fields ← value.section? ["bot", "calculator", "apis", "storage", "twitch"]
  return {
    bot := ← Yaml.field? fields "bot" {} BotSettings.ofYaml?
    calculator := ← Yaml.field? fields "calculator" {} CalculatorSettings.ofYaml?
    services := ← Yaml.field? fields "apis" {} ServiceSettings.ofYaml?
    storage := ← Yaml.field? fields "storage" {} StorageSettings.ofYaml?
    twitch := ← Yaml.field? fields "twitch" {} ChannelSettings.ofYaml? }

/-! ### Loading -/

/-- Settings that come from outside: the text in front of the name of a command, the key for
exchange rates and the folder for stored data. -/
structure Environment where
  mark : Option String := none
  ratesKey : Option String := none
  folder : Option String := none
  deriving DecidableEq, Repr

/-- Why there are no settings: there is no file, it does not hold settings, or one of them must not
have its value. -/
inductive ConfigError where
  | unreadable
  | malformed
  | invalidValue (detail : String)
  deriving DecidableEq, Repr

/-- The wording of an error. What exactly is wrong with the file is not told. -/
def ConfigError.message : ConfigError → String
  | .unreadable => "Failed to read config"
  | .malformed => "Failed to parse config"
  | .invalidValue detail => "Invalid value: " ++ detail

namespace Config

/-- The settings with those that come from outside. -/
def overridden (c : Config) (e : Environment) : Config :=
  { c with
    bot := { c.bot with mark := e.mark.getD c.bot.mark }
    services := { c.services with ratesKey := e.ratesKey.orElse fun _ => c.services.ratesKey }
    storage := { c.storage with folder := e.folder.getD c.storage.folder } }

/-- What is demanded of settings. -/
def Valid (c : Config) : Prop :=
  c.bot.mark ≠ "" ∧ 1 ≤ c.calculator.timeoutSeconds ∧ 1 ≤ c.calculator.maxWorkers

instance (c : Config) : Decidable c.Valid := by
  unfold Valid
  infer_instance

/-- The settings, if they are valid. The first value that is not is reported. -/
def check (c : Config) : Except ConfigError Config :=
  if c.bot.mark.isEmpty then .error (.invalidValue "bot.prefix must not be empty")
  else if c.calculator.timeoutSeconds = 0 then
    .error (.invalidValue "calculator.timeout-secs must be at least 1")
  else if c.calculator.maxWorkers = 0 then
    .error (.invalidValue "calculator.max-workers must be at least 1")
  else .ok c

/-- The defaults with the settings that come from outside. They are not checked. -/
def ofEnvironment (e : Environment) : Config := overridden {} e

/-- The settings of a file with the given body. -/
def load (body : Option String) (e : Environment) : Except ConfigError Config :=
  match body with
  | none => .error .unreadable
  | some body =>
    match (Yaml.ofText? body).bind ofYaml? with
    | some c => (c.overridden e).check
    | none => .error .malformed

/-- The settings of a file; if there are none, the defaults. -/
def choose (body : Option String) (e : Environment) : Config :=
  match load body e with
  | .ok c => c
  | .error _ => ofEnvironment e

/-- The counters of a channel. -/
def countersOf (c : Config) (channel : String) : List Counter :=
  c.twitch.counters.filter (·.channel.equalsIgnoringAsciiCase channel)

/-! ### Writing -/

/-- A map whose keys are texts. -/
def mapOf (fields : List (String × Yaml)) : Yaml :=
  .map (fields.map fun (name, value) => (.ofText name, value))

/-- A counter as a document. -/
def counterYaml (c : Counter) : Yaml :=
  mapOf [("channel", .ofText c.channel), ("command", .ofText c.command),
    ("variable", .ofText c.variableName), ("template", .ofText c.template)]

/-- The settings as a document. -/
def toYaml (c : Config) : Yaml :=
  mapOf
    [("bot", mapOf
        [("name", .ofText c.bot.name), ("prefix", .ofText c.bot.mark),
          ("platform", .ofText c.bot.platform.name)]),
      ("calculator", mapOf
        [("timeout-secs", .ofNat c.calculator.timeoutSeconds),
          ("max-workers", .ofNat c.calculator.maxWorkers)]),
      ("apis", mapOf
        [("user-agent", .ofText c.services.userAgent),
          ("request-timeout-secs", .ofNat c.services.timeoutSeconds),
          ("fixer-api-key", match c.services.ratesKey with
            | some key => .ofText key
            | none => .null)]),
      ("storage", mapOf [("data-dir", .ofText c.storage.folder)]),
      ("twitch", mapOf
        [("channels", .list (c.twitch.channels.map .ofText)),
          ("counters", .list (c.twitch.counters.map counterYaml))])]

end Config

end ChatBot

import ChatBot.Platform

/-!
The command line of the program.

* `Task`: what the program is asked to do;
* `Flag`: an option, which has a value;
* `takeFlag?`: an option at the front of the arguments, with its value;
* `Invocation.ofArgs`: what the arguments ask for; none, if they are not understood;
* `helpText`: how the program or one of its tasks is used.
-/

namespace ChatBot.CommandLine

/-- What the program is asked to do: answer lines of text, tell the version, write the default
configuration, evaluate one expression, or tell how the program is used, or the task of a name. -/
inductive Task where
  | run (platform : Option Platform) (channel : Option String)
  | version
  | initConfig
  | evaluate
  | help (name : Option String)
  deriving DecidableEq, Repr

/-- What the arguments ask for: a task, with the configuration of a file. -/
structure Invocation where
  configFile : String
  task : Task
  deriving DecidableEq, Repr

/-- An option, which has a value. -/
inductive Flag where
  | config
  | platform
  | channel
  deriving DecidableEq, Repr

namespace Flag

/-- The name behind two dashes. -/
def name : Flag → String
  | .config => "config"
  | .platform => "platform"
  | .channel => "channel"

/-- The letter behind one dash. -/
def letter? : Flag → Option Char
  | .config => some 'c'
  | .platform => some 'p'
  | .channel => none

end Flag

/-- Options with their values. -/
abbrev Options := List (Flag × String)

/-- The text can stand for a value behind an option: it does not look like an option itself. -/
def isValue (arg : String) : Bool := arg.toList.head? != some '-' || arg == "-"

/-- A value within the argument of its option, where an equals sign in front does not count. -/
def attachedValue : List Char → String
  | '=' :: cs => String.ofList cs
  | cs => String.ofList cs

/-- The next argument as a value, and those behind it. -/
def nextValue? : List String → Option (String × List String)
  | arg :: rest => if isValue arg then some (arg, rest) else none
  | [] => none

/-- The value of an option with a name, where `cs` follows the dashes. -/
def namedFlag? (flags : List Flag) (cs : List Char) (rest : List String) :
    Option (Flag × String × List String) := do
  let name := String.ofList (cs.takeWhile (· != '='))
  let flag ← flags.find? (·.name == name)
  match cs.dropWhile (· != '=') with
  | [] => (nextValue? rest).map fun (value, rest) => (flag, value, rest)
  | value => some (flag, attachedValue value, rest)

/-- The value of an option with a letter, where `cs` follows the letter. -/
def letterFlag? (flags : List Flag) (letter : Char) (cs : List Char) (rest : List String) :
    Option (Flag × String × List String) := do
  let flag ← flags.find? (·.letter? == some letter)
  if cs.isEmpty then (nextValue? rest).map fun (value, rest) => (flag, value, rest)
  else some (flag, attachedValue cs, rest)

/-- The option that an argument is, with its value and the arguments behind it. -/
def takeFlag? (flags : List Flag) (arg : String) (rest : List String) :
    Option (Flag × String × List String) :=
  match arg.toList with
  | '-' :: '-' :: cs => namedFlag? flags cs rest
  | '-' :: letter :: cs => letterFlag? flags letter cs rest
  | _ => none

theorem length_nextValue?_lt {args rest : List String} {value : String}
    (h : nextValue? args = some (value, rest)) : rest.length < args.length := by
  cases args with
  | nil => simp [nextValue?] at h
  | cons arg others =>
    simp only [nextValue?] at h
    split at h
    · simp only [Option.some.injEq, Prod.mk.injEq] at h
      simp [← h.2]
    · simp at h

/-- What is left behind an option is no longer than what followed it. -/
theorem length_takeFlag?_le {flags : List Flag} {arg value : String} {args rest : List String}
    {flag : Flag} (h : takeFlag? flags arg args = some (flag, value, rest)) :
    rest.length ≤ args.length := by
  have next (o : Option (Flag × String × List String)) (f : Flag)
      (ho : o = (nextValue? args).map fun (value, rest) => (f, value, rest))
      (h : o = some (flag, value, rest)) : rest.length ≤ args.length := by
    rw [ho, Option.map_eq_some_iff] at h
    obtain ⟨⟨v, r⟩, hv, he⟩ := h
    simp only [Prod.mk.injEq] at he
    exact he.2.2 ▸ Nat.le_of_lt (length_nextValue?_lt hv)
  unfold takeFlag? at h
  split at h
  · simp only [namedFlag?, Option.bind_eq_bind, Option.bind_eq_some_iff] at h
    obtain ⟨f, _, h⟩ := h
    split at h
    · exact next _ f rfl h
    · simp only [Option.some.injEq, Prod.mk.injEq] at h
      simp [h.2.2]
  · simp only [letterFlag?, Option.bind_eq_bind, Option.bind_eq_some_iff] at h
    obtain ⟨f, _, h⟩ := h
    split at h
    · exact next _ f rfl h
    · simp only [Option.some.injEq, Prod.mk.injEq] at h
      simp [h.2.2]
  · simp at h

/-- An argument that asks for help. Behind the letter for help nothing counts. -/
def asksForHelp (arg : String) : Bool :=
  arg == "--help" || (arg.toList.take 2 == ['-', 'h'])

/-- The arguments in front of and behind a word: options only, options with a word and the arguments
behind it, or options with a call for help. -/
inductive Split where
  | options (found : Options)
  | word (found : Options) (name : String) (rest : List String)
  | help (found : Options)

/-- The options up to the first word. Two dashes may stand at the end. An option that is repeated or
not among the given ones is not understood. -/
def split? (flags : List Flag) (found : Options) : List String → Option Split
  | [] => some (.options found)
  | arg :: rest =>
    if asksForHelp arg then some (.help found)
    else if arg == "--" then if rest.isEmpty then some (.options found) else none
    else if isValue arg then some (.word found arg rest)
    else
      match _taken : takeFlag? flags arg rest with
      | some (flag, value, others) =>
        if (found.lookup flag).isSome then none else split? flags ((flag, value) :: found) others
      | none => none
termination_by args => args.length
decreasing_by
  have := length_takeFlag?_le _taken
  simp only [List.length_cons]
  omega

/-- The task of a name, given its options. -/
def task? (name : String) (options : Options) : Option Task :=
  match name with
  | "run" => do
    let platform ← match options.lookup .platform with
      | some value => (Platform.ofText value).toOption.map some
      | none => some none
    return .run platform (options.lookup .channel)
  | "version" => some .version
  | "init-config" => some .initConfig
  | "eval-worker" => some .evaluate
  | _ => none

/-- The options of a task. -/
def flagsOf (name : String) : List Flag :=
  if name == "run" then [.config, .platform, .channel] else [.config]

/-- The tasks and what is told about them. -/
def tasks : List (String × String) :=
  [("run", "Start the bot, reading chat lines from stdin"),
    ("version", "Show version"),
    ("init-config", "Generate default config"),
    ("eval-worker", "Evaluate one expression from stdin (used by the calculator)")]

/-- The names of the tasks. -/
def taskNames : List String := tasks.map (·.1)

/-- The task that tells about the others. -/
def helpTask : String × String :=
  ("help", "Print this message or the help of the given subcommand(s)")

/-- The file with the configuration, unless another one is given. -/
def defaultConfigFile : String := "config.yaml"

/-- A call for help about the task of a name. -/
def Invocation.help (name : Option String) : Invocation := ⟨defaultConfigFile, .help name⟩

/-- What the arguments behind the task for help ask for. -/
def Invocation.ofHelpArgs : List String → Option Invocation
  | [] => some (.help none)
  | [name] => if (helpTask.1 :: taskNames).contains name then some (.help name) else none
  | _ => none

/-- What the arguments ask for. A call for help does not make up for a wrong value before it. -/
def Invocation.ofArgs (args : List String) : Option Invocation := do
  match ← split? [.config] [] args with
  | .help _ => return .help none
  | .options _ => none
  | .word general name rest =>
    if name == helpTask.1 then Invocation.ofHelpArgs rest
    else if !taskNames.contains name then none
    else
      match ← split? (flagsOf name) [] rest with
      | .help own => (task? name own).map fun _ => .help name
      | .word _ _ _ => none
      | .options own =>
        let file := ((own.lookup .config).orElse fun _ => general.lookup .config).getD
          defaultConfigFile
        return ⟨file, ← task? name own⟩

/-! ### Help -/

/-- How an option is written. -/
def Flag.usage : Flag → String
  | .config => "-c, --config <CONFIG>"
  | .platform => "-p, --platform <PLATFORM>"
  | .channel => "    --channel <CHANNEL>"

/-- What an option is for. -/
def Flag.about : Flag → String
  | .config => "Config file path [default: " ++ defaultConfigFile ++ "]"
  | .platform => "Platform to emulate (overrides config)"
  | .channel => "Channel incoming lines belong to"

/-- Lines with a term and its description each, in two columns. -/
def table (rows : List (String × String)) : List String :=
  let width := (rows.map fun (term, _) => term.length).foldl max 0
  rows.map fun (term, description) =>
    "  " ++ String.ofList (term.toList.rightpad width ' ') ++ "  " ++ description

/-- The lines about some options. -/
def optionLines (flags : List Flag) : List String :=
  "Options:" :: table (flags.map (fun f => (f.usage, f.about)) ++ [("-h, --help", "Print help")])

/-- The lines about the program. The task that evaluates is not for users. -/
def overview : List String :=
  ["Discord and Twitch chat bot", "", "Usage: harmonbot [OPTIONS] <COMMAND>", "", "Commands:"] ++
    table (tasks.filter (·.1 != "eval-worker") ++ [helpTask]) ++ "" :: optionLines [.config]

/-- The lines about a task. -/
def taskLines (name : String) : List String :=
  if name == helpTask.1 then
    [helpTask.2, "", "Usage: harmonbot help [COMMAND]...", "", "Arguments:"] ++
      table [("[COMMAND]...", "Print help for the subcommand(s)")]
  else
    [(tasks.lookup name).getD "", "", "Usage: harmonbot " ++ name ++ " [OPTIONS]", ""] ++
      optionLines (flagsOf name)

/-- How the program, or the task of a name, is used. -/
def helpText (name : Option String) : String :=
  String.join (((name.map taskLines).getD overview).map (· ++ "\n"))

end ChatBot.CommandLine

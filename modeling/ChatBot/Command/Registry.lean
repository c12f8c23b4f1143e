import ChatBot.Command.Basic

/-!
The commands that a bot knows.

* `Registry.register`: adds a command; one with the same name is replaced;
* `Registry.find?`: a command by name or alias, in any case of letters;
* `CommandSet.help`: the help on one command or the list of all;
* `CommandSet.handle`: what a command does with a message.
-/

namespace ChatBot

/-- Commands, of which no two have the same name, in the order in which their names came up. -/
structure Registry where
  commands : List Command := []

namespace Registry

/-- The command of a name, spelled exactly so. -/
def get? (r : Registry) (name : String) : Option Command := r.commands.find? (·.name == name)

/-- Puts a command in the place of the one with its name, or behind all others. -/
def replace (command : Command) : List Command → List Command
  | [] => [command]
  | c :: rest => if c.name == command.name then command :: rest else c :: replace command rest

/-- Adds a command. -/
def register (r : Registry) (command : Command) : Registry := ⟨replace command r.commands⟩

/-- Adds commands, one after the other. -/
def registerAll (r : Registry) (commands : List Command) : Registry := commands.foldl register r

/-- The command of a name or an alias in any case of letters. A name in lower case comes first. -/
def find? (r : Registry) (input : String) : Option Command :=
  (r.get? input.lowercase).orElse fun _ => r.commands.find? (·.matches input)

/-- The number of commands. -/
def size (r : Registry) : Nat := r.commands.length

/-- The names of the commands, in ascending order. -/
def names (r : Registry) : List String :=
  (r.commands.map (·.name)).mergeSort fun a b => !decide (b < a)

end Registry

/-- The commands of a bot, and the text in front of their names in its help. -/
structure CommandSet where
  mark : String
  registry : Registry := {}

namespace CommandSet

/-- Adds a command. -/
def register (s : CommandSet) (command : Command) : CommandSet :=
  { s with registry := s.registry.register command }

/-- Adds commands, one after the other. -/
def registerAll (s : CommandSet) (commands : List Command) : CommandSet :=
  { s with registry := s.registry.registerAll commands }

/-- The name that the help goes by. -/
def helpName : String := "help"

/-- The help on a command. -/
def describe (s : CommandSet) (c : Command) : String :=
  let aliases := if c.aliases.isEmpty then "" else "\nAliases: " ++ ", ".intercalate c.aliases
  let usage := match c.usage with
    | some usage => "\nUsage: " ++ s.mark ++ usage
    | none => ""
  s.mark ++ c.name ++ " - " ++ c.description.getD "No description" ++ aliases ++ usage

/-- The help on the command of a name, or the list of all commands. -/
def help (s : CommandSet) (name : Option String) : String :=
  match name with
  | some name =>
    match s.registry.find? name with
    | some c => s.describe c
    | none => s!"Command {s.mark}{name} not found"
  | none => "Available commands: " ++ " ".intercalate (s.registry.names.map (s.mark ++ ·))

/-- What the command in a message does; nothing, if there is none with a handler. -/
def handle (s : CommandSet) (m : Message) (c : Circumstances) :
    ExceptT CommandError Web.Exchange (Option Reply) :=
  match m.content with
  | .command name args _ =>
    match s.registry.find? name with
    | none => return none
    | some command =>
      if command.name == helpName then return some (.text (s.help args.head?))
      else match command.handler with
        | some handler => some <$> handler m c
        | none => return none
  | _ => return none

end CommandSet

end ChatBot

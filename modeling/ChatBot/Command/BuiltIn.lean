import ChatBot.Arithmetic.Commands
import ChatBot.Astronomy
import ChatBot.Calendar.Commands
import ChatBot.Command.Registry
import ChatBot.Finance.Commands
import ChatBot.Greeting
import ChatBot.Links
import ChatBot.Overwatch
import ChatBot.RuneScape.Commands
import ChatBot.Units

/-!
The commands that come with the bot.

* `defaults`: the commands of every bot;
* `BuiltIn`: what commands need to know;
* `BuiltIn.commands`: the commands on a platform.
-/

namespace ChatBot

/-- The version of the bot. -/
def version : String := "0.1.0"

/-- The commands of every bot. -/
def defaults : List Command :=
  [{ name := CommandSet.helpName, description := "Show help message", usage := "help [command]" },
   { name := "version", description := "Show bot version",
     handler := Handler.ofText fun _ => "Harmonbot v" ++ version }]

/-- What the commands need to know: the name that the bot is spoken to by, what evaluates
expressions, and the key for exchange rates. -/
structure BuiltIn where
  botName : String
  worker : Calculator.Worker := .faithful
  ratesKey : Option String := none

namespace BuiltIn

/-- The commands of one platform only. -/
def special (b : BuiltIn) : Platform → List Command
  | .discord => Finance.commands b.ratesKey ++ Astronomy.commands ++ Overwatch.commands
  | .twitch =>
    Greeting.commands b.botName ++ Links.commands ++ Countdown.commands ++ RuneScape.commands ++
      Units.commands

/-- The commands on a platform. -/
def commands (b : BuiltIn) (platform : Platform) : List Command :=
  defaults ++ Arithmetic.commands b.worker ++ b.special platform

/-- The commands on a platform, behind a mark. -/
def commandSet (b : BuiltIn) (mark : String) (platform : Platform) : CommandSet :=
  CommandSet.registerAll { mark := mark } (b.commands platform)

end BuiltIn

end ChatBot

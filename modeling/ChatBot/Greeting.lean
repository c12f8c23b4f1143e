import ChatBot.Binary64.Reading
import ChatBot.Command.Basic

/-!
Greetings, gestures and dice.

* `Greeting`: who greets, and whom or what;
* `Greeting.salute`, `Greeting.gesture`, `Greeting.congratulation`: the replies;
* `sides`, `roll`: the greatest number of a die, and a throw of it;
* `commands`: the commands, given the name of the bot.
-/

namespace ChatBot

/-- Who greets, and whom or what: the sender as replies address them, and their login and the name
of the bot in lower case. The target is what follows the name of the command. -/
structure Greeting where
  source : String
  login : String
  target : String
  botName : String
  deriving DecidableEq, Repr

namespace Greeting

/-- The greeting in a message. -/
def ofMessage (botName : String) (m : Message) : Greeting where
  source := m.senderName
  login := ((m.sender.bind (·.login)).getD "").lowercase
  target := m.content.rest.trimBlanks
  botName := botName

/-- The first word of the target, in lower case. -/
def firstWord? (g : Greeting) : Option String := g.target.words.head?.map String.lowercase

/-- The target is the bot. -/
def isForBot (g : Greeting) : Bool := g.firstWord? == some g.botName

/-- A greeting: of the sender, if nobody else or the bot is the target, else of the target. -/
def salute (opener phrase : String) (g : Greeting) : String :=
  if g.target.isEmpty || g.isForBot then s!"{opener}, {g.source}!"
  else s!"{g.target.titleCase}, {g.source} says {phrase}!"

/-- A gesture toward the target, which the bot returns if it is meant. -/
def gesture (verb : String) (g : Greeting) : String :=
  match g.firstWord? with
  | none => s!"{g.source} {verb}s no one. :-/"
  | some word =>
    if word == g.login then s!"{g.source} {verb}s themselves. o_O"
    else if word == g.botName then s!"!{verb} {g.source}"
    else s!"{g.source} {verb}s {g.target.titleCase}!"

/-- A congratulation. -/
def congratulation (g : Greeting) : String :=
  if g.target.isEmpty then "Congratulations!!!!!"
  else s!"Congratulations, {g.target.titleCase}!!!!!"

end Greeting

/-! ### Dice -/

/-- The greatest number of a die when none is asked for. -/
def defaultSides : Int := 10

/-- The greatest number of a die: the whole part of the argument, if it is at least one and has no
more than 64 bits. -/
def sides (arg : Option String) : Int :=
  match arg.bind String.toFloat? with
  | some x =>
    if 1 ≤ Binary64.trunc x && Binary64.trunc x ≤ Binary64.ofInt Binary64.int64Max then
      Binary64.toInt64 x
    else defaultSides
  | none => defaultSides

/-- A throw of a die: a number from one on, made from a number drawn at random. -/
def roll (sides : Int) (drawn : Nat) : Int := 1 + (drawn : Int) % sides

namespace Greeting

/-- The command of a greeting. -/
def command (botName name description : String) (aliases : List String)
    (text : Greeting → String) : Command where
  name := name
  description := description
  aliases := aliases
  handler := Handler.ofText fun m => text (.ofMessage botName.lowercase m)

/-- The command that throws a die. -/
def dieCommand : Command where
  name := "rng"
  description := "Random number between 1 and max (default 10)"
  usage := "rng [max]"
  handler := some fun m c => .say (toString (roll (sides m.content.args.head?) c.drawn))

/-- The commands for greetings and dice. -/
def commands (botName : String) : List Command :=
  [command botName "hello" "Say hello" ["hi"] (salute "Hello" "hello"),
   command botName "bye" "Say goodbye" [] (salute "Bye" "goodbye"),
   command botName "congrats" "Congratulate someone" ["grats", "gz"] congratulation,
   command botName "hug" "Hug someone" [] (gesture "hug"),
   command botName "highfive" "Highfive someone" [] (gesture "highfive"),
   dieCommand]

end Greeting

end ChatBot

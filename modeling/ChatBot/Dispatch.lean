import ChatBot.Command.Registry
import ChatBot.Storage.Store

/-!
From a message to its reply.

The name of a command is looked up among the commands of the bot. If none of them answers,
the channel decides: first the other names that it has for commands, then its own
commands, then its counters.

* `Counter`: a command of a channel that counts how often it is used;
* `Dispatcher.channelReply`: what a channel answers to the name of a command;
* `Dispatcher.dispatch`: the reply to a message, which may change what is stored;
* `Dispatcher.respond`: the reply to a line of text.
-/

namespace ChatBot

open ChatBot.Storage

/-- A command of a channel that counts in a variable how often it is used. Its reply is the
template, which has places for the count. -/
structure Counter where
  channel : String
  command : String
  variableName : String
  template : String
  deriving DecidableEq, Repr

namespace Counter

/-- The counter is that of a channel and a command, in any case of ASCII letters. -/
def answers (c : Counter) (channel command : String) : Bool :=
  c.channel.equalsIgnoringAsciiCase channel && c.command.equalsIgnoringAsciiCase command

/-- What stands for the count in a reply, behind a brace. -/
def placeRest : List Char := "count\x7d".toList

/-- The reply with a count in its place. -/
def text (c : Counter) (count : Int) : String :=
  String.ofList (Text.replaceAll '\x7b' placeRest (toString count).toList c.template.toList)

end Counter

/-- What decides about replies: how commands start on the platform of what is read, the commands of
the bot, and the counters of all channels. -/
structure Dispatcher where
  mark : CommandMark
  commands : CommandSet
  counters : List Counter := []

namespace Dispatcher

/-- The reply of the first counter of a channel and a command, which counts. -/
def counterReply (d : Dispatcher) (channel command : String) : Storing (Option Reply) :=
  match d.counters.find? (·.answers channel command) with
  | some counter => do
    return some (.text (counter.text (← Store.increment channel counter.variableName)))
  | none => return none

/-- What a channel answers to the name of a command. -/
def channelReply (d : Dispatcher) (channel name : String) : Storing (Option Reply) := do
  let target := (← Store.aliasOf? channel name).getD name
  match ← Store.commandText? channel target with
  | some text => return some (.text text)
  | none => d.counterReply channel target

/-- The message with its text read for a command. -/
def reread (d : Dispatcher) (m : Message) : Message :=
  match m.content with
  | .text body => d.mark.message m.chat body m.sender
  | _ => m

/-- What a channel answers, where a failure of the store is no answer. -/
def fallback (d : Dispatcher) (channel name : String) (s : Store) : Option Reply × Store :=
  match (d.channelReply channel name).run.run s with
  | (.ok reply, s) => (reply, s)
  | (.error _, s) => (none, s)

/-- The reply to a message, and the store afterwards. -/
def dispatch (d : Dispatcher) (m : Message) (c : Circumstances) (s : Store) :
    Web.Exchange (Option Reply × Store) :=
  let m := d.reread m
  match m.content with
  | .command name _ _ => do
    match ← (d.commands.handle m c).run with
    | .ok (some reply) => return (some reply, s)
    | .ok none => return d.fallback m.channel name s
    | .error cause => return (some (.failure cause.message), s)
  | _ => return (none, s)

/-- The reply to a line of text. -/
def respond (d : Dispatcher) (chat line : String) (c : Circumstances) (s : Store) :
    Web.Exchange (Option Reply × Store) :=
  d.dispatch (d.mark.message chat line none) c s

end Dispatcher

end ChatBot

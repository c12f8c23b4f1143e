import ChatBot.Calendar.Moment
import ChatBot.Message
import ChatBot.Web.Exchange

/-!
Commands of the bot.

* `CommandError`: why a command has no answer, with its wording;
* `Circumstances`: what an answer may depend on besides the message;
* `Command`: a name with its aliases, its help and what it does;
* `Command.matches`: a name or an alias, in any case of letters.
-/

namespace ChatBot

/-- Why a command has no answer: the arguments are not what it takes, or a service gave no data. -/
inductive CommandError where
  | invalidArgs (detail : String)
  | api (cause : Web.ApiError)
  deriving DecidableEq, Repr

/-- The wording of an error. -/
def CommandError.message : CommandError → String
  | .invalidArgs detail => "Invalid arguments: " ++ detail
  | .api cause => cause.message

/-- What an answer may depend on besides the message: the time, and a number drawn at random. -/
structure Circumstances where
  now : Moment
  drawn : Nat
  deriving Inhabited

/-- The answer of a command, which may take requests to services. -/
abbrev Action := ExceptT CommandError Web.Exchange Reply

/-- What a command does with a message. -/
abbrev Handler := Message → Circumstances → Action

namespace Action

/-- An answer in words. -/
def say (text : String) : Action := .mk (.done (.ok (.text text)))

/-- A given result. -/
def ofExcept (result : Except CommandError Reply) : Action := .mk (.done result)

end Action

/-- A query, with its error as the error of a command. -/
def Web.Query.lift {α : Type} (q : Web.Query α) : ExceptT CommandError Web.Exchange α :=
  .mk (q.run.bind fun result => .done (result.mapError .api))

namespace Handler

/-- The handler whose answer depends on the message alone. -/
def ofResult (f : Message → Except CommandError Reply) : Handler := fun m _ => .ofExcept (f m)

/-- The handler that answers every message in words. -/
def ofText (f : Message → String) : Handler := fun m _ => .say (f m)

end Handler

/-- A command, with its description and its usage in words. One without a handler is known but does
nothing. -/
structure Command where
  name : String
  description : Option String := none
  aliases : List String := []
  usage : Option String := none
  handler : Option Handler := none

/-- The text is the name or an alias, in any case of letters. -/
def Command.matches (c : Command) (input : String) : Bool :=
  c.name.lowercase == input.lowercase || c.aliases.any fun a => a.lowercase == input.lowercase

/-- An argument of a message that must be there. -/
def Message.requiredArg (m : Message) (index : Nat) (what : String) : Except CommandError String :=
  match m.content.args[index]? with
  | some arg => .ok arg
  | none => .error (.invalidArgs ("missing " ++ what))

end ChatBot

import ChatBot.Dispatch

/-!
A bot at work on a connection.

Each message is answered on its own, so the answers may be given in any order.

* `Connection`: what comes in, and which chats take what is sent;
* `Dispatcher.process`: the reply to a message as its platform shows it;
* `Dispatcher.answerAll`: the answers to messages, one after another;
* `Dispatcher.serve`: all that is sent until the connection closes or fails.
-/

namespace ChatBot

open ChatBot.Storage

/-- Why a bot stops: there is no connection, the store failed, or something else did. -/
inductive BotError where
  | network (detail : String)
  | internal (detail : String)
  | storage (cause : StorageError)
  deriving DecidableEq, Repr

/-- The wording of an error. What exactly failed in the store is not told. -/
def BotError.message : BotError → String
  | .network detail => "Network error: " ++ detail
  | .internal detail => "Internal error: " ++ detail
  | .storage _ => "Storage error: *"

/-- What comes in on a connection, unless there is a reason why there is no connection at all, and
which chats take what is sent to them. After a failure nothing comes in, and after the last message
the connection closes. -/
structure Connection where
  startFailure : Option BotError := none
  events : List (Except BotError Message)
  accepts : String → Bool := fun _ => true

namespace Connection

/-- The messages up to the first failure. -/
def messages : List (Except BotError Message) → List Message
  | .ok m :: rest => m :: messages rest
  | _ => []

/-- The first failure. -/
def failure? : List (Except BotError Message) → Option BotError
  | [] => none
  | .ok _ :: rest => failure? rest
  | .error cause :: _ => some cause

end Connection

/-- The order in which messages are answered, and how many of them have been when the connection
fails. The others are given up. -/
structure Schedule where
  order : List Message → List Message
  progress : Nat

/-- The messages are answered as they come, and none that has not been answered is answered after a
failure. -/
def Schedule.asTheyCome : Schedule := ⟨id, 0⟩

/-- The messages that are answered. -/
def Schedule.answered (t : Schedule) (events : List (Except BotError Message)) : List Message :=
  match Connection.failure? events with
  | none => t.order (Connection.messages events)
  | some _ => (t.order (Connection.messages events)).take t.progress

namespace Dispatcher

/-- The reply to a message as its platform shows it. -/
def process (d : Dispatcher) (m : Message) (c : Circumstances) (s : Store) :
    Web.Exchange (Option String × Store) := do
  let (reply, s) ← d.dispatch m c s
  return (reply.map m.platform.render, s)

/-- The answers to messages, one after another: each chat with what is sent to it. -/
def answerAll (d : Dispatcher) (accepts : String → Bool) (c : Circumstances) :
    List Message → Store → Web.Exchange (List (String × String) × Store)
  | [], s => return ([], s)
  | m :: rest, s => do
    let (text, s) ← d.process m c s
    let (others, s) ← d.answerAll accepts c rest s
    let sent := (text.filter fun _ => accepts m.chat).toList.map fun text => (m.chat, text)
    return (sent ++ others, s)

/-- What came of serving a connection: why it ended early, what was sent to which chat, and the
store afterwards. -/
structure Served where
  failure : Option BotError
  sent : List (String × String)
  store : Store

/-- Serves a connection until it closes or fails. -/
def serve (d : Dispatcher) (connection : Connection) (t : Schedule) (c : Circumstances)
    (s : Store) : Web.Exchange Served :=
  match connection.startFailure with
  | some cause => return ⟨some cause, [], s⟩
  | none => do
    let (sent, s) ← d.answerAll connection.accepts c (t.answered connection.events) s
    return ⟨Connection.failure? connection.events, sent, s⟩

end Dispatcher

end ChatBot

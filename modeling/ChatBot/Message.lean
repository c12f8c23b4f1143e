import ChatBot.Platform
import ChatBot.User

/-!
Messages, and the commands in them.

* `Content`: plain text, a command with its arguments, or nothing;
* `Message`: where a message was written, by whom and on which platform;
* `CommandMark.read`: what a line of text says. A command is the mark, a name without blanks, and
  whatever follows.
-/

namespace ChatBot

/-- What a message says. A command has a name, the words behind it, and the same as it was typed. -/
inductive Content where
  | text (body : String)
  | command (name : String) (args : List String) (rest : String)
  | empty
  deriving DecidableEq, Repr

namespace Content

/-- The plain text. -/
def text? : Content → Option String
  | .text body => some body
  | _ => none

/-- The content is a command. -/
def isCommand : Content → Bool
  | .command .. => true
  | _ => false

/-- The words behind a command. -/
def args : Content → List String
  | .command _ args _ => args
  | _ => []

/-- What was typed behind a command. -/
def rest : Content → String
  | .command _ _ rest => rest
  | _ => ""

end Content

/-- A message in a chat of a platform. -/
structure Message where
  chat : String
  content : Content
  sender : Option User := none
  platform : Platform := .discord
  deriving DecidableEq, Repr

/-- The name of a channel: a chat without the number signs in front. -/
def channelName (chat : String) : String := String.ofList (chat.toList.dropWhile (· == '#'))

namespace Message

/-- A command that is already taken apart. -/
def ofCommand (chat name : String) (args : List String) : Message :=
  { chat, content := .command name args (" ".intercalate args) }

/-- The channel of the chat. -/
def channel (m : Message) : String := channelName m.chat

/-- The sender as replies address them. -/
def senderName (m : Message) : String :=
  match m.sender with
  | some user => user.capitalizedName
  | none => "Someone"

end Message

/-- How the commands in the messages of a platform start: with a text in front of their names. -/
structure CommandMark where
  mark : String
  platform : Platform
  deriving DecidableEq, Repr

namespace CommandMark

/-- The name of a command and what follows it, both without the blanks between them. -/
def splitName (cs : List Char) : List Char × List Char :=
  match Text.breakAtBlank cs with
  | some (name, rest) => (name, Text.trimStart rest)
  | none => (cs, [])

/-- What a text without blanks at its ends says. -/
def readTrimmed (mark cs : List Char) : Content :=
  if cs.isEmpty then .empty
  else if mark.isPrefixOf cs then
    let (name, rest) := splitName (cs.drop mark.length)
    if name.isEmpty then .text (String.ofList cs)
    else .command (String.ofList name) ((Text.words rest).map String.ofList) (String.ofList rest)
  else .text (String.ofList cs)

/-- What a line of text says. -/
def read (m : CommandMark) (line : String) : Content :=
  readTrimmed m.mark.toList (Text.trim line.toList)

/-- The message that a line of text is. -/
def message (m : CommandMark) (chat line : String) (sender : Option User) : Message :=
  { chat, content := m.read line, sender, platform := m.platform }

end CommandMark

end ChatBot

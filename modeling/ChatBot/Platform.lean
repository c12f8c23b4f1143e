import ChatBot.Text.LetterCase

/-!
Chat platforms, and replies as each of them shows them.

* `Platform.messageLimit`: how many characters a message may have;
* `Platform.ofText?`: platforms by name, in any case of letters;
* `Platform.render`: a reply as it is sent.
-/

namespace ChatBot

/-- The platforms the bot speaks on. -/
inductive Platform where
  | discord
  | twitch
  deriving DecidableEq, Repr, Inhabited

/-- What the bot answers: an ordinary text, or the report of an error. -/
inductive Reply where
  | text (body : String)
  | failure (body : String)
  deriving DecidableEq, Repr

/-- The text of a reply, without what marks an error. -/
def Reply.body : Reply → String
  | .text body => body
  | .failure body => body

namespace Platform

/-- The name of a platform. -/
def name : Platform → String
  | .discord => "discord"
  | .twitch => "twitch"

/-- The number of characters a message may have. -/
def messageLimit : Platform → Nat
  | .discord => 2048
  | .twitch => 500

/-- The platform of a name in lower case. -/
def ofName? (name : String) : Option Platform :=
  if name == "discord" then some .discord
  else if name == "twitch" then some .twitch
  else none

/-- The platform of a name in any case of letters. An unknown name is reported in lower case. -/
def ofText (s : String) : Except String Platform :=
  let name := s.lowercase
  match ofName? name with
  | some platform => .ok platform
  | none => .error s!"unknown platform: {name}"

/-- What marks a report of an error. -/
def errorMark : Platform → String
  | .discord => ":no_entry: "
  | .twitch => "⛔ "

/-- A reply as it is sent. -/
def render (platform : Platform) : Reply → String
  | .text body => body
  | .failure body => platform.errorMark ++ body

end Platform

end ChatBot

import ChatBot.Command.Basic

/-!
Links to searches and encyclopedias.

* `link`: an address with words at its end;
* `commands`: the commands.
-/

namespace ChatBot.Links

/-- A command for a place where words can be looked up. Its addresses have a start and a separator
between two words. -/
structure Site where
  name : String
  start : String
  separator : Char
  aliases : List String := []
  deriving DecidableEq, Repr

/-- The places where words can be looked up. -/
def sites : List Site :=
  [⟨"google", "https://google.com/search?q=", '+', []⟩,
   ⟨"imfeelinglucky", "https://google.com/search?btnI&q=", '+', []⟩,
   ⟨"lmgtfy", "lmgtfy.com/?q=", '+', []⟩,
   ⟨"wiki", "wikipedia.org/wiki/", '_', []⟩,
   ⟨"rswiki", "runescape.wikia.com/wiki/", '_', []⟩,
   ⟨"07rswiki", "oldschoolrunescape.wikia.com/wiki/", '_', ["rswiki07", "osrswiki", "rswikios"]⟩]

/-- An address with words at its end. -/
def link (start : String) (separator : Char) (words : List String) : String :=
  start ++ separator.toString.intercalate words

/-- The command of a place. -/
def Site.command (s : Site) : Command where
  name := s.name
  description := "Link to " ++ s.start
  aliases := s.aliases
  handler := Handler.ofText fun m => link s.start s.separator m.content.args

/-- The commands for links. -/
def commands : List Command := sites.map Site.command

end ChatBot.Links

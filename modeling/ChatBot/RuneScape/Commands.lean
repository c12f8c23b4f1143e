import ChatBot.Command.Basic
import ChatBot.RuneScape.Experience

/-!
The commands about RuneScape: `commands`.
-/

namespace ChatBot.RuneScape

/-- The commands for experience and levels. -/
def commands : List Command :=
  [{ name := "level", description := "Experience needed for a level", usage := "level <level>",
     handler := Handler.ofText fun m => levelText m.content.args.head? },
   { name := "xpat", description := "Level reached at an amount of experience",
     usage := "xpat <xp>", handler := Handler.ofText fun m => experienceText m.content.args.head? },
   { name := "xpbetween", description := "Experience between two levels",
     usage := "xpbetween <start> <end>",
     handler := Handler.ofText fun m => betweenText m.content.args }]

end ChatBot.RuneScape

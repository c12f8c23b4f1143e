import ChatBot.Binary64.Reading
import ChatBot.Command.Basic
import ChatBot.Text.Grouping

/-!
Conversion between units.

* `Conversion`: from one unit to another;
* `Conversion.text`, `toMetersText`, `toFeetText`: the replies. They repeat the amount as it was
  typed;
* `commands`: the commands.
-/

namespace ChatBot.Units

/-- A command for a conversion from one unit to another. -/
structure Conversion where
  name : String
  source : String
  target : String
  apply : Float → Float

/-- The conversions between two units. -/
def conversions : List Conversion :=
  [⟨"ctof", "°C", "°F", fun x => x * 9 / 5 + 32⟩,
   ⟨"ftoc", "°F", "°C", fun x => (x - 32) * 5 / 9⟩,
   ⟨"lbtokg", "lb", "kg", fun x => x * 0.45359237⟩,
   ⟨"kgtolb", "kg", "lb", fun x => x * 2.2046⟩,
   ⟨"fttom", "ft", "m", fun x => x * 0.3048⟩,
   ⟨"mtoft", "m", "ft", fun x => x * 3.2808⟩,
   ⟨"gtooz", "g", "oz", fun x => x * 0.035274⟩,
   ⟨"oztog", "oz", "g", fun x => x / 0.035274⟩,
   ⟨"mitokm", "mi", "km", fun x => x / 0.62137⟩,
   ⟨"kmtomi", "km", "mi", fun x => x * 0.62137⟩,
   ⟨"ozttog", "oz t", "g", fun x => x / 0.032151⟩,
   ⟨"gtoozt", "g", "oz t", fun x => x * 0.032151⟩,
   ⟨"ozttooz", "oz t", "oz", fun x => x * 1.09714996656⟩,
   ⟨"oztoozt", "oz", "oz t", fun x => x * 0.911452427176⟩]

/-- The reply where there is nothing to convert. -/
def noInput : String := "Please enter input."

/-- The reply to what is no number. -/
def malformed : String := "Syntax error."

/-- The reply to a conversion. -/
def Conversion.text (c : Conversion) (arg : Option String) : String :=
  match arg with
  | none => noInput
  | some arg =>
    match arg.toFloat? with
    | some x => s!"{arg} {c.source} = {Text.decimalText (c.apply x)} {c.target}"
    | none => malformed

/-- The reply that converts feet and inches to meters. -/
def toMetersText (args : List String) : String :=
  match args with
  | [] => noInput
  | [_] => malformed
  | first :: second :: _ =>
    match first.toFloat?, second.toFloat? with
    | some feet, some inches =>
      let meters := (feet + inches / 12) * 0.3048
      s!"{first} ft {second} in = {Text.decimalText meters} m"
    | _, _ => malformed

/-- The reply that converts meters to whole feet and the inches that are left. -/
def toFeetText (arg : Option String) : String :=
  match arg with
  | none => noInput
  | some arg =>
    match arg.toFloat? with
    | some meters =>
      let inches := meters * 39.37
      let feet := Binary64.floor (inches / 12)
      s!"{arg} m = {Text.decimalText feet} ft {Text.decimalText (inches - feet * 12)} in"
    | none => malformed

/-- The command of a conversion. -/
def Conversion.command (c : Conversion) : Command where
  name := c.name
  description := s!"Convert {c.source} to {c.target}"
  usage := c.name ++ " <value>"
  handler := Handler.ofText fun m => c.text m.content.args.head?

/-- The commands that convert. -/
def commands : List Command :=
  [{ name := "fitom", description := "Convert feet and inches to m",
     usage := "fitom <feet> <inches>",
     handler := Handler.ofText fun m => toMetersText m.content.args },
   { name := "mtofi", description := "Convert m to feet and inches", usage := "mtofi <value>",
     handler := Handler.ofText fun m => toFeetText m.content.args.head? }] ++
    conversions.map Conversion.command

end ChatBot.Units

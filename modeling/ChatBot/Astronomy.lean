import ChatBot.Calendar.Moment
import ChatBot.Command.Basic

/-!
People in space, and where the space station is.

* `StationPosition`, `Crew`: what the service tells;
* `StationPosition.text`, `Crew.text`: the replies;
* `commands`: the commands.
-/

namespace ChatBot.Astronomy

open ChatBot.Json (Node Record)

-- Powers are those of the core library, whatever else is imported.
attribute [local instance (high)] instPowNat

/-- Where the space station is: degrees to the north and to the east, which come as texts, at a time
in seconds since the start of 1970. -/
structure StationPosition where
  timestamp : Int
  latitude : String
  longitude : String
  deriving DecidableEq, Repr

/-- A person in space, and the spacecraft. -/
structure Astronaut where
  name : String
  craft : String
  deriving DecidableEq, Repr

/-- All people in space, and their number as the service tells it. -/
structure Crew where
  number : Nat
  people : List Astronaut
  deriving DecidableEq, Repr

/-- Latitude and longitude. -/
def coordinates? (node : Node) : Option (String × String) := do
  let r ← Record.ofNode? ["latitude", "longitude"] node
  return (← r.required? "latitude" Node.text?, ← r.required? "longitude" Node.text?)

/-- The position of the space station. -/
def StationPosition.ofNode? (node : Node) : Option StationPosition := do
  let r ← Record.ofNode? ["timestamp", "iss_position"] node
  let timestamp ← r.required? "timestamp" (Node.integer? Binary64.int64Min Binary64.int64Max)
  let (latitude, longitude) ← r.required? "iss_position" coordinates?
  return { timestamp, latitude, longitude }

/-- A person in space. -/
def Astronaut.ofNode? (node : Node) : Option Astronaut := do
  let r ← Record.ofNode? ["name", "craft"] node
  return { name := ← r.required? "name" Node.text?, craft := ← r.required? "craft" Node.text? }

/-- All people in space. -/
def Crew.ofNode? (node : Node) : Option Crew := do
  let r ← Record.ofNode? ["number", "people"] node
  return {
    number := ← r.required? "number" (Node.natural? (2 ^ (32 : Nat)))
    people := ← r.required? "people" (Node.list? Astronaut.ofNode?) }

/-- The picture that marks the station on the map. -/
def mapIcon : String := "http://i.imgur.com/KPfeEcc.png"

namespace StationPosition

/-- The address of a map. -/
def mapUrl (p : StationPosition) : String :=
  let place := p.latitude ++ "," ++ p.longitude
  "https://maps.googleapis.com/maps/api/staticmap?center=" ++ place ++
    "&zoom=3&size=640x640&maptype=hybrid&markers=icon:" ++ mapIcon ++ "|anchor:center|" ++ place

/-- The line with the time, if it is in the calendar. -/
def timeLines (p : StationPosition) : List String :=
  match Moment.clockTime? ⟨p.timestamp, 0⟩ with
  | some t => [String.ofList (t.date.text ++ ' ' :: t.timeText) ++ " UTC"]
  | none => []

/-- The coordinates, a map and the time, each in a line. -/
def text (p : StationPosition) : String :=
  "\n".intercalate
    (["Latitude: " ++ p.latitude, "Longitude: " ++ p.longitude, p.mapUrl] ++ p.timeLines)

end StationPosition

/-- The number of people, and a line for each. -/
def Crew.text (crew : Crew) : String :=
  "\n".intercalate
    (s!"Current People In Space ({crew.number})" ::
      crew.people.map fun p => s!"{p.name} ({p.craft})")

/-- The query for the position of the space station. -/
def stationPosition : Web.Query StationPosition :=
  Web.fetch "http://api.open-notify.org/iss-now.json" [] StationPosition.ofNode?

/-- The query for the people in space. -/
def peopleInSpace : Web.Query Crew :=
  Web.fetch "http://api.open-notify.org/astros.json" [] Crew.ofNode?

/-- The commands about space. -/
def commands : List Command :=
  [{ name := "iss", description := "Current location of the International Space Station (ISS)",
     aliases := ["international_space_station", "internationalspacestation"],
     handler := some fun _ _ => do return .text (← stationPosition.lift).text },
   { name := "people", description := "Current people in space", aliases := ["astronauts"],
     handler := some fun _ _ => do return .text (← peopleInSpace.lift).text }]

end ChatBot.Astronomy

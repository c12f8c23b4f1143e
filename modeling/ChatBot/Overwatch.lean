import ChatBot.Command.Basic

/-!
Heroes, abilities and achievements of Overwatch.

* `Hero`, `Ability`, `Achievement`: the entries of the three lists;
* `findByName?`: the first entry of a name;
* `stars`: a difficulty as stars;
* `Hero.text`, `Ability.text`, `Achievement.text`: the replies;
* `commands`: the command that looks them up.
-/

namespace ChatBot.Overwatch

open ChatBot.Json (Node Record)
open ChatBot.Web (ApiError Query)

-- Powers are those of the core library, whatever else is imported.
attribute [local instance (high)] instPowNat

/-- A hero: the name in the game and outside of it, points of health, armor and shield, and the age
in years and the height if they are known. The base is where the hero lives, and the difficulty says
how hard it is to play the hero. -/
structure Hero where
  name : String
  description : String
  health : Nat
  armor : Nat
  shield : Nat
  realName : String
  age : Option Nat
  height : Option Nat
  affiliation : Option String
  base : Option String
  difficulty : Nat
  deriving DecidableEq, Repr

/-- An ability of a hero, given by name. An ultimate one has to be charged first. -/
structure Ability where
  name : String
  description : String
  isUltimate : Bool
  hero : String
  deriving DecidableEq, Repr

/-- An achievement: what has to be done, with which hero if there is one, and the name and the kind
of the reward. -/
structure Achievement where
  name : String
  description : String
  reward : String
  rewardKind : String
  hero : Option String
  deriving DecidableEq, Repr

/-! ### Decoding -/

/-- A whole number of 32 bits. -/
def count? : Node → Option Nat := Node.natural? (2 ^ (32 : Nat))

/-- The name of what a value describes. -/
def name? (node : Node) : Option String := do
  (← Record.ofNode? ["name"] node).required? "name" Node.text?

/-- A hero. -/
def Hero.ofNode? (node : Node) : Option Hero := do
  let r ← Record.ofNode? ["name", "description", "health", "armour", "shield", "real_name", "age",
    "height", "affiliation", "base_of_operations", "difficulty"] node
  return {
    name := ← r.required? "name" Node.text?
    description := ← r.required? "description" Node.text?
    health := ← r.required? "health" count?
    armor := ← r.required? "armour" count?
    shield := ← r.required? "shield" count?
    realName := ← r.required? "real_name" Node.text?
    age := ← r.optional? "age" count?
    height := ← r.optional? "height" count?
    affiliation := ← r.optional? "affiliation" Node.text?
    base := ← r.optional? "base_of_operations" Node.text?
    difficulty := ← r.required? "difficulty" (Node.natural? 256) }

/-- An ability. -/
def Ability.ofNode? (node : Node) : Option Ability := do
  let r ← Record.ofNode? ["name", "description", "is_ultimate", "hero"] node
  return {
    name := ← r.required? "name" Node.text?
    description := ← r.required? "description" Node.text?
    isUltimate := ← r.required? "is_ultimate" Node.bool?
    hero := ← r.required? "hero" name? }

/-- A reward: its name and its kind. -/
def reward? (node : Node) : Option (String × String) := do
  let r ← Record.ofNode? ["name", "type"] node
  return (← r.required? "name" Node.text?, ← r.required? "type" name?)

/-- An achievement. -/
def Achievement.ofNode? (node : Node) : Option Achievement := do
  let r ← Record.ofNode? ["name", "description", "reward", "hero"] node
  let name ← r.required? "name" Node.text?
  let description ← r.required? "description" Node.text?
  let (reward, rewardKind) ← r.required? "reward" reward?
  return { name, description, reward, rewardKind, hero := ← r.optional? "hero" name? }

/-- A page of a list. -/
def page? {α : Type} (item? : Node → Option α) (node : Node) : Option (List α) := do
  (← Record.ofNode? ["data"] node).required? "data" (Node.list? item?)

/-! ### Text -/

/-- The highest difficulty. -/
def maxDifficulty : Nat := 3

/-- A difficulty as stars, of which the rest up to the highest difficulty is empty. -/
def stars (difficulty : Nat) : String :=
  let full := min difficulty maxDifficulty
  String.ofList (List.replicate full '★' ++ List.replicate (maxDifficulty - full) '☆')

/-- The line of something that may be unknown. -/
def lineOf (title : String) (value : Option String) : List String :=
  value.toList.map fun text => title ++ ": " ++ text

/-- What is known of a hero, each in a line. -/
def Hero.text (h : Hero) : String :=
  "\n".intercalate
    ([h.name, h.description, s!"Health: {h.health}", s!"Armor: {h.armor}", s!"Shield: {h.shield}",
        "Real Name: " ++ h.realName] ++
      lineOf "Age" (h.age.map toString) ++ lineOf "Height" (h.height.map toString) ++
      lineOf "Affiliation" (h.affiliation.filter (!·.isEmpty)) ++
      lineOf "Base Of Operations" (h.base.filter (!·.isEmpty)) ++
      ["Difficulty: " ++ stars h.difficulty])

/-- What is known of an ability, each in a line. -/
def Ability.text (a : Ability) : String :=
  "\n".intercalate
    [a.name, a.description, "Hero: " ++ a.hero,
      "Ultimate: " ++ if a.isUltimate then "Yes" else "No"]

/-- What is known of an achievement, each in a line. -/
def Achievement.text (a : Achievement) : String :=
  "\n".intercalate
    ([a.name, a.description, s!"Reward: {a.reward} {a.rewardKind}"] ++ lineOf "Hero" a.hero)

/-! ### Looking up -/

/-- The first entry of a name. The case of ASCII letters does not count, nor do blanks at the ends
of the name that is looked for. -/
def findByName? {α : Type} (nameOf : α → String) (items : List α) (name : String) : Option α :=
  items.find? fun item => (nameOf item).equalsIgnoringAsciiCase name.trimBlanks

/-- The query for all entries of a list, in one page. -/
def entries {α : Type} (list : String) (item? : Node → Option α) : Query (List α) :=
  Web.fetch ("https://overwatch-api.net/api/v1/" ++ list) [("limit", "1000")] (page? item?)

/-- The text on the entry of a name. -/
def lookUp {α : Type} (list : String) (item? : Node → Option α) (nameOf : α → String)
    (text : α → String) (what name : String) : Action := do
  let items ← (entries list item?).lift
  Action.ofExcept (match findByName? nameOf items name with
    | some item => .ok (.text (text item))
    | none => .error (.api (.notFound what)))

/-- The kind of entry and the name that a message asks for. -/
def request? (rest : String) : Option (String × String) := do
  let (kind, name) ← Text.breakAtBlank rest.toList
  let name := Text.trim name
  if name.isEmpty then none
  else some ((String.ofList kind).lowercase, String.ofList name)

/-- The text on the entry that a message asks for. -/
def reply (m : Message) : Action :=
  match request? m.content.rest with
  | none => .ofExcept (.error (.invalidArgs "usage: overwatch <hero|ability|achievement> <name>"))
  | some (kind, name) =>
    match kind with
    | "hero" => lookUp "hero" Hero.ofNode? (·.name) Hero.text "Hero" name
    | "ability" | "weapon" =>
      lookUp "ability" Ability.ofNode? (·.name) Ability.text "Ability" name
    | "achievement" =>
      lookUp "achievement" Achievement.ofNode? (·.name) Achievement.text "Achievement" name
    | _ => .ofExcept (.error (.invalidArgs ("unknown overwatch subcommand " ++ kind)))

/-- The command about Overwatch. -/
def commands : List Command :=
  [{ name := "overwatch", description := "Overwatch heroes, abilities and achievements",
     usage := "overwatch <hero|ability|achievement> <name>", handler := some fun m _ => reply m }]

end ChatBot.Overwatch

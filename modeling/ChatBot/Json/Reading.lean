import ChatBot.Json.Node

/-!
Values read from JSON.

* `Json.ofText?`: the value of a text. Its arrays and objects enclose one another at most
  `maxDepth` times, and the last of several fields with one key counts;
* `Record`: a value that is asked for certain fields. They come by name from an object, where none
  of them may be repeated, or by position from an array.
-/

namespace ChatBot

namespace Json

/-- How many arrays and objects may enclose one another. -/
def maxDepth : Nat := 127

namespace Node

mutual

/-- The value of a node whose arrays and objects enclose one another at most `room` times. -/
def value? (room : Nat) : Node → Option Json
  | .null => some .null
  | .bool b => some (.bool b)
  | .number n => n.map .number
  | .string s => s.map .string
  | .array items => if room = 0 then none else (values? (room - 1) items).map .array
  | .object fields => if room = 0 then none else (fields? (room - 1) [] fields).map .object

/-- The values of the items of an array. -/
def values? (room : Nat) : List Node → Option (List Json)
  | [] => some []
  | item :: rest => do return (← value? room item) :: (← values? room rest)

/-- The fields of an object, added to those read so far. -/
def fields? (room : Nat) (done : Fields) : List (Option String × Node) → Option Fields
  | [] => some done
  | (key, node) :: rest => do
    let key ← key
    let value ← value? room node
    fields? room (done.insert key value) rest

end

mutual

/-- A value as a node. -/
def ofValue : Json → Node
  | .null => .null
  | .bool b => .bool b
  | .number n => .number (some n)
  | .string s => .string (some s)
  | .array items => .array (ofValues items)
  | .object fields => .object (ofFields fields)

/-- The items of an array as nodes. -/
def ofValues : List Json → List Node
  | [] => []
  | item :: rest => ofValue item :: ofValues rest

/-- The fields of an object as nodes. -/
def ofFields : List (String × Json) → List (Option String × Node)
  | [] => []
  | (key, value) :: rest => (some key, ofValue value) :: ofFields rest

end

end Node

/-- The value of a whole text. -/
def ofText? (cs : List Char) : Option Json := do (← Node.ofText? cs).value? maxDepth

/-- The fields of a whole text that is an object. -/
def Fields.ofText? (cs : List Char) : Option Fields :=
  match Json.ofText? cs with
  | some (.object fields) => some fields
  | _ => none

/-! ### Values of a known form -/

namespace Node

/-- A text. -/
def text? : Node → Option String
  | .string s => s
  | _ => none

/-- A truth value. -/
def bool? : Node → Option Bool
  | .bool b => some b
  | _ => none

/-- An integer from `low` to `high`. -/
def integer? (low high : Int) : Node → Option Int
  | .number (some (.integer n)) => if low ≤ n && n ≤ high then some n else none
  | _ => none

/-- A natural number below `bound`. -/
def natural? (bound : Nat) (node : Node) : Option Nat :=
  (node.integer? 0 (bound - 1)).map Int.toNat

/-- A binary64 number, which may be written as a whole number. -/
def float? : Node → Option Float
  | .number (some (.integer n)) => some (Binary64.ofInt n)
  | .number (some (.real x)) => some x
  | _ => none

/-- The items of an array. -/
def list? {α : Type} (item? : Node → Option α) : Node → Option (List α)
  | .array items => items.mapM item?
  | _ => none

/-- Adds a key to a map in the order of the keys; a key that is there is replaced. -/
def insertKey {α : Type} (map : List (String × α)) (key : String) (value : α) : List (String × α) :=
  match map with
  | [] => [(key, value)]
  | (k, v) :: rest =>
    if key == k then (key, value) :: rest
    else if key < k then (key, value) :: (k, v) :: rest
    else (k, v) :: insertKey rest key value

/-- The fields of an object as a map, in the order of their keys. The last of several fields with
one key counts. -/
def map? {α : Type} (value? : Node → Option α) : Node → Option (List (String × α))
  | .object fields => fields.foldlM (fun map (key, node) => do
      return insertKey map (← key) (← value? node)) []
  | _ => none

end Node

/-- The fields that are there of those that a value was asked for. They may have come by position
and not by name. -/
structure Record where
  positional : Bool
  present : List (String × Node)

namespace Record

/-- The fields of an object among the given names. A key that is no text fails, and so does a
repeated field. -/
def named? (names : List String) : List (Option String × Node) → Option (List (String × Node))
  | [] => some []
  | (key, node) :: rest => do
    let key ← key
    let others ← named? names rest
    if names.contains key then
      if (others.lookup key).isSome then none else some ((key, node) :: others)
    else some others

/-- The given fields of a value. -/
def ofNode? (names : List String) : Node → Option Record
  | .object fields => (named? names fields).map fun present => ⟨false, present⟩
  | .array items => if items.length ≤ names.length then some ⟨true, names.zip items⟩ else none
  | _ => none

/-- A field that must be there. -/
def required? {α : Type} (r : Record) (name : String) (value? : Node → Option α) : Option α := do
  value? (← r.present.lookup name)

/-- A field that may be `null` or missing. -/
def optional? {α : Type} (r : Record) (name : String) (value? : Node → Option α) :
    Option (Option α) :=
  match r.present.lookup name with
  | none => some none
  | some .null => some none
  | some node => (value? node).map some

/-- A field that has a default for when it is missing. -/
def defaulted? {α : Type} (r : Record) (name : String) (default : α) (value? : Node → Option α) :
    Option α :=
  match r.present.lookup name with
  | none => some default
  | some node => value? node

end Record

end Json

end ChatBot

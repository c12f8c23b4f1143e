import ChatBot.Binary64.Layout

/-!
JSON values and their text.

* `Json`: the values; the fields of an object stand in the order of their keys, each key once;
* `Fields.get?`, `Fields.insert`: looking up and replacing a field;
* `Json.compact`: the text without any blank;
* `Json.pretty`: the text with a line for each item and each field, indented by two blanks a level.
-/

namespace ChatBot

/-- Numbers in JSON: whole ones that fit 64 bits, with or without sign, which are exact, and
binary64 numbers for all others. -/
inductive Json.Number where
  | integer (n : Int)
  | real (x : Float)
  deriving DecidableEq

/-- JSON values. -/
inductive Json where
  | null
  | bool (b : Bool)
  | number (n : Json.Number)
  | string (s : String)
  | array (items : List Json)
  | object (fields : List (String × Json))

namespace Json

/-- The fields of an object, in the order of their keys. -/
abbrev Fields := List (String × Json)

namespace Fields

/-- The value of a key. -/
def get? (fields : Fields) (key : String) : Option Json := fields.lookup key

/-- The fields with the value of one key replaced or added. -/
def insert (fields : Fields) (key : String) (value : Json) : Fields :=
  match fields with
  | [] => [(key, value)]
  | (k, v) :: rest =>
    if key == k then (key, value) :: rest
    else if key < k then (key, value) :: (k, v) :: rest
    else (k, v) :: insert rest key value

/-- The keys ascend. -/
def Ascending (fields : Fields) : Prop := fields.Pairwise fun a b => a.1 < b.1

theorem get?_insert_self (fields : Fields) (key : String) (value : Json) :
    (fields.insert key value).get? key = some value := by
  induction fields with
  | nil => simp [insert, get?]
  | cons field rest ih =>
    obtain ⟨k, v⟩ := field
    simp only [insert]
    split
    · simp [get?]
    · split
      · simp [get?]
      · next hne _ => simpa [get?, List.lookup_cons, hne] using ih

theorem get?_insert_of_ne (fields : Fields) {key other : String} (value : Json)
    (h : other ≠ key) : (fields.insert key value).get? other = fields.get? other := by
  have hbeq : (other == key) = false := beq_eq_false_iff_ne.2 h
  induction fields with
  | nil => simp [insert, get?, List.lookup_cons, hbeq]
  | cons field rest ih =>
    obtain ⟨k, v⟩ := field
    simp only [insert]
    split
    · next hk =>
      have hk' : key = k := by simpa using hk
      simp [get?, List.lookup_cons, ← hk', hbeq]
    · split
      · simp [get?, List.lookup_cons, hbeq]
      · simp only [get?, List.lookup_cons] at ih ⊢
        rw [ih]

end Fields

/-- The value as a text, if it is one. -/
def string? : Json → Option String
  | .string s => some s
  | _ => none

/-- The value as a signed 64 bit integer, if it is one. -/
def int64? : Json → Option Int
  | .number (.integer n) => if n ≤ Binary64.int64Max then some n else none
  | _ => none

/-! ### Text -/

/-- The text of a number. -/
def Number.text : Number → List Char
  | .integer n => (toString n).toList
  | .real x => Binary64.Layout.interchange.write x

/-- Two hexadecimal digits. -/
def hexPair (n : Nat) : List Char := [Nat.digitChar (n / 16), Nat.digitChar (n % 16)]

/-- A character inside of a quoted text. -/
def escape (c : Char) : List Char :=
  if c = '"' then ['\\', '"']
  else if c = '\\' then ['\\', '\\']
  else if c = '\n' then ['\\', 'n']
  else if c = '\r' then ['\\', 'r']
  else if c = '\t' then ['\\', 't']
  else if c = '\x08' then ['\\', 'b']
  else if c = '\x0c' then ['\\', 'f']
  else if c.toNat < 32 then '\\' :: 'u' :: '0' :: '0' :: hexPair c.toNat
  else [c]

/-- A quoted text. -/
def quote (s : String) : List Char := '"' :: s.toList.flatMap escape ++ ['"']

/-- The opening brace of an object. -/
def braceOpen : Char := '\x7b'

/-- The closing brace of an object. -/
def braceClose : Char := '\x7d'

mutual

/-- The text without any blank. -/
def compact : Json → List Char
  | .null => "null".toList
  | .bool b => if b then "true".toList else "false".toList
  | .number n => n.text
  | .string s => quote s
  | .array items => '[' :: compactItems items ++ [']']
  | .object fields => braceOpen :: compactFields fields ++ [braceClose]

/-- The items of an array, with a comma between them. -/
def compactItems : List Json → List Char
  | [] => []
  | [item] => compact item
  | item :: rest => compact item ++ ',' :: compactItems rest

/-- The fields of an object, with a comma between them. -/
def compactFields : List (String × Json) → List Char
  | [] => []
  | [(key, value)] => quote key ++ ':' :: compact value
  | (key, value) :: rest => quote key ++ ':' :: compact value ++ ',' :: compactFields rest

end

/-- A new line and the blanks of its indentation. -/
def newLine (level : Nat) : List Char := '\n' :: List.replicate (2 * level) ' '

mutual

/-- The text with a line for each item and field. -/
def prettyAt (level : Nat) : Json → List Char
  | .null => "null".toList
  | .bool b => if b then "true".toList else "false".toList
  | .number n => n.text
  | .string s => quote s
  | .array [] => "[]".toList
  | .array items => '[' :: prettyItems (level + 1) items ++ newLine level ++ [']']
  | .object [] => [braceOpen, braceClose]
  | .object fields => braceOpen :: prettyFields (level + 1) fields ++ newLine level ++ [braceClose]

/-- The items of an array, each on a line of its own. -/
def prettyItems (level : Nat) : List Json → List Char
  | [] => []
  | [item] => newLine level ++ prettyAt level item
  | item :: rest => newLine level ++ prettyAt level item ++ ',' :: prettyItems level rest

/-- The fields of an object, each on a line of its own. -/
def prettyFields (level : Nat) : List (String × Json) → List Char
  | [] => []
  | [(key, value)] => newLine level ++ quote key ++ ':' :: ' ' :: prettyAt level value
  | (key, value) :: rest =>
    newLine level ++ quote key ++ ':' :: ' ' :: prettyAt level value ++ ',' ::
      prettyFields level rest

end

/-- The text with a line for each item and each field. -/
def pretty (value : Json) : List Char := prettyAt 0 value

end Json

end ChatBot

import ChatBot.Yaml.Document

/-!
What YAML values stand for.

* `text?`, `optionalText?`, `unsigned?`, `choice?`: the meaning of a
  scalar, as far as one is asked for;
* `items?`: the items of a list;
* `section?`, `field?`: the fields of a map by name, where what is missing has a default.
-/

namespace ChatBot.Yaml

-- Powers are those of the core library, whatever else is imported.
attribute [local instance (high)] instPowNat

/-! ### Scalars -/

/-- The text of a scalar, whatever else it may stand for. -/
def text? : Yaml → Option String
  | .scalar _ _ text => some text
  | _ => none

/-- The words for nothing. -/
def nullWords : List String := ["~", "null", "Null", "NULL"]

/-- A word for nothing, or no word at all, without quotes. -/
def isNothing (style : Style) (text : String) : Bool :=
  style == .plain && (text.isEmpty || nullWords.contains text)

/-- A text, or nothing. Behind a tag nothing has to be written out, and only the tag of nothing
allows for it; that one allows for nothing else. -/
def optionalText? : Yaml → Option (Option String)
  | .scalar none style text => some (if isNothing style text then none else some text)
  | .scalar (some tag) style text =>
    if style == .plain && tag == Tag.null then
      if nullWords.contains text then some none else none
    else some (some text)
  | _ => none

/-- Unsigned numbers have 64 bits. -/
def unsignedBound : Nat := 2 ^ (64 : Nat)

/-- The bases of numbers, by the letter behind a leading zero. -/
def bases : List (Char × Nat) := [('x', 16), ('o', 8), ('b', 2)]

/-- The number of one or more digits in a base. -/
def numberIn? (base : Nat) (ds : List Char) : Option Nat :=
  if ds.isEmpty then none else Text.numberIn? base ds

/-- The number of some digits: those in another base behind a zero and a letter, or decimal ones, of
which the first is no zero in front of others. -/
def numberOf? : List Char → Option Nat
  | ['0'] => some 0
  | '0' :: c :: ds => (bases.lookup c).bind fun base => numberIn? base ds
  | ds => numberIn? 10 ds

/-- The number of a text that may start with a plus. -/
def unsignedText? (text : String) : Option Nat :=
  let ds := match text.toList with
    | '+' :: ds => ds
    | ds => ds
  (numberOf? ds).filter (· < unsignedBound)

/-- An unsigned number without quotes. It may stand on lines of its own behind the tag of whole
numbers. -/
def unsigned? : Yaml → Option Nat
  | .scalar tag style text =>
    if style == .plain || (style == .literal && tag == some Tag.int) then unsignedText? text
    else none
  | _ => none

/-- One of some choices by its name. The name may also be the tag of a scalar that is nothing. -/
def choice? {α : Type} (ofName? : String → Option α) : Yaml → Option α
  | .scalar tag style text =>
    match (tag.getD "").toList with
    | '!' :: name => if isNothing style text then ofName? (String.ofList name) else none
    | _ => ofName? text
  | _ => none

/-! ### Lists and maps -/

/-- The value is nothing at all, which stands for a list or a map without items. -/
def isEmpty : Yaml → Bool
  | .scalar _ .plain "" => true
  | _ => false

/-- The items of a list. -/
def items? {α : Type} (item? : Yaml → Option α) : Yaml → Option (List α)
  | .list items => items.mapM item?
  | value => if value.isEmpty then some [] else none

/-- The fields of the given names. None of them may be there twice. -/
def named? (names : List String) : List (Yaml × Yaml) → Option (List (String × Yaml))
  | [] => some []
  | (key, value) :: rest => do
    let name ← key.text?
    let others ← named? names rest
    if !names.contains name then some others
    else if (others.lookup name).isSome then none
    else some ((name, value) :: others)

/-- The fields of the given names of a map. -/
def section? (names : List String) : Yaml → Option (List (String × Yaml))
  | .map fields => named? names fields
  | value => if value.isEmpty then some [] else none

/-- The value of a field, or a default. -/
def field? {α : Type} (fields : List (String × Yaml)) (name : String) (default : α)
    (value? : Yaml → Option α) : Option α :=
  match fields.lookup name with
  | some value => value? value
  | none => some default

end ChatBot.Yaml

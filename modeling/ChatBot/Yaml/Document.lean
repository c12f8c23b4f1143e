import ChatBot.Yaml.Token

/-!
Documents of YAML: lists and maps by indentation or in brackets, with scalars in them.

* `Yaml`: the values of documents;
* `Assembly`: making values up from tokens, which also knows the anchors of the document;
* `Assembly.node`, `Assembly.document`: a value, and the value of a document;
* `Yaml.ofText?`: the value of a text that is one document. An empty document is an empty scalar.
-/

namespace ChatBot

/-- The values of documents. -/
inductive Yaml where
  /-- A scalar; one without quotes may stand for something else than a text. -/
  | scalar (tag : Option String) (style : Yaml.Style) (text : String)
  | list (items : List Yaml)
  | map (fields : List (Yaml × Yaml))

namespace Yaml

/-- The value where nothing is written. -/
def absent : Yaml := .scalar none .plain ""

/-! ### Values from tokens -/

/-- What is left of the tokens, and what the rest depends on: the handles of tags that the document
gives a meaning to, and the values of the anchors so far, the last one first. -/
structure Pending where
  tokens : List Token
  handles : List (String × String) := []
  anchors : List (String × Yaml) := []

/-- Steps that take tokens away, and may fail. -/
abbrev Assembly := StateT Pending Option

namespace Assembly

/-- The next token. It is not taken away. -/
def next : Assembly (Option Token) := return (← get).tokens.head?

/-- The next token is one of these. It is not taken away. -/
def meets (ts : List Token) : Assembly Bool := return (← next).any ts.contains

/-- Takes the next token away. -/
def skip : Assembly Unit := modify fun s => { s with tokens := s.tokens.drop 1 }

/-- Takes the next token away if it is the given one, and tells whether it was. -/
def takes (t : Token) : Assembly Bool := do
  if ← meets [t] then
    skip
    return true
  else return false

/-- Takes the next token away, which has to be the given one. -/
def expect (t : Token) : Assembly Unit := do
  unless ← takes t do failure

/-- The anchor in front of a value. -/
def anchor : Assembly (Option String) := do
  match ← next with
  | some (.anchor name) =>
    skip
    return some name
  | _ => return none

/-- The full name of the tag in front of a value. -/
def tag : Assembly (Option String) := do
  match ← next with
  | some (.tag t) =>
    skip
    match t.name? (← get).handles with
    | some name => return some name
    | none => failure
  | _ => return none

/-- The anchor and the tag in front of a value, in either order. -/
def properties : Assembly (Option String × Option String) := do
  match ← anchor with
  | some name => return (some name, ← tag)
  | none =>
    let name ← tag
    return (← anchor, name)

/-- The value of an anchor is the one of some steps. Within it, the anchor stands for nothing. It
counts as older than the anchors within it. -/
def named (name : String) (value : Assembly Yaml) : Assembly Yaml := do
  let before := (← get).anchors
  modify fun s => { s with anchors := (name, absent) :: before }
  let value ← value
  modify fun s =>
    let inner := s.anchors.take (s.anchors.length - before.length - 1)
    { s with anchors := inner ++ (name, value) :: before }
  return value

mutual

/-- A value. Within brackets there are no blocks, and only behind a key or a colon the dashes of a
list may stand in the column of the map around it. Every call uses up one of the steps. -/
def node (steps : Nat) (inBlock behindKey : Bool) : Assembly Yaml :=
  match steps with
  | 0 => failure
  | steps + 1 => do
    match ← next with
    | some (.alias name) =>
      skip
      match (← get).anchors.lookup name with
      | some value => return value
      | none => failure
    | _ =>
      match ← properties with
      | (some name, tag) => named name (content steps inBlock behindKey tag true)
      | (none, tag) => content steps inBlock behindKey tag tag.isSome

/-- A value behind its anchor and tag. If there are any, it may be left out. -/
def content (steps : Nat) (inBlock behindKey : Bool) (tag : Option String) (isNamed : Bool) :
    Assembly Yaml :=
  match steps with
  | 0 => failure
  | steps + 1 => do
    match ← next with
    | some (.scalar style text) =>
      skip
      return .scalar (tag.filter (· != Tag.plain)) style text
    | some .listStart =>
      skip
      return .list (← flowItems steps true)
    | some .mapStart =>
      skip
      return .map (← flowFields steps true)
    | token =>
      if behindKey && token == some .dash then return .list (← sharedItems steps)
      else if inBlock && token == some .itemsStart then
        skip
        return .list (← blockItems steps)
      else if inBlock && token == some .fieldsStart then
        skip
        return .map (← blockFields steps)
      else if isNamed then return .scalar tag .plain ""
      else failure

/-- A value, unless one of some tokens follows. -/
def nodeUnless (ts : List Token) (steps : Nat) (inBlock behindKey : Bool) : Assembly Yaml :=
  match steps with
  | 0 => failure
  | steps + 1 => do
    if ← meets ts then return absent
    else node steps inBlock behindKey

/-- The items of a list by dashes, with the end of the list. -/
def blockItems (steps : Nat) : Assembly (List Yaml) :=
  match steps with
  | 0 => failure
  | steps + 1 => do
    if ← takes .dash then
      let item ← nodeUnless [.dash, .blockEnd] steps true false
      return item :: (← blockItems steps)
    else
      expect .blockEnd
      return []

/-- The items of a list by dashes in the column of the map around it. -/
def sharedItems (steps : Nat) : Assembly (List Yaml) :=
  match steps with
  | 0 => failure
  | steps + 1 => do
    if ← takes .dash then
      let item ← nodeUnless [.dash, .key, .colon, .blockEnd] steps true false
      return item :: (← sharedItems steps)
    else return []

/-- The fields of a map by keys, with the end of the map. -/
def blockFields (steps : Nat) : Assembly (List (Yaml × Yaml)) :=
  match steps with
  | 0 => failure
  | steps + 1 => do
    if ← takes .key then
      let key ← nodeUnless [.key, .colon, .blockEnd] steps true true
      let value ←
        if ← takes .colon then nodeUnless [.key, .colon, .blockEnd] steps true true
        else pure absent
      return (key, value) :: (← blockFields steps)
    else
      expect .blockEnd
      return []

/-- The items of a list in brackets, with the closing one. Commas are between them, and one may be
behind the last. An item behind the mark of a key is a map of one field. -/
def flowItems (steps : Nat) (isFirst : Bool) : Assembly (List Yaml) :=
  match steps with
  | 0 => failure
  | steps + 1 => do
    if ← takes .listEnd then return []
    else
      unless isFirst do expect .comma
      if ← takes .listEnd then return []
      else
        let item ←
          if ← takes .key then flowPair steps
          else node steps false false
        return item :: (← flowItems steps false)

/-- An item that is a map of one field. Where its key is missing, the next token is lost. -/
def flowPair (steps : Nat) : Assembly Yaml :=
  match steps with
  | 0 => failure
  | steps + 1 => do
    let ends := [.comma, .listEnd]
    let key ←
      if ← meets (.colon :: ends) then
        skip
        pure absent
      else node steps false false
    let value ←
      if ← takes .colon then nodeUnless ends steps false false
      else pure absent
    return .map [(key, value)]

/-- The fields of a map in brackets, with the closing one. Commas are between them, and one may be
behind the last. A key without its mark has no value. -/
def flowFields (steps : Nat) (isFirst : Bool) : Assembly (List (Yaml × Yaml)) :=
  match steps with
  | 0 => failure
  | steps + 1 => do
    if ← takes .mapEnd then return []
    else
      unless isFirst do expect .comma
      if ← takes .mapEnd then return []
      else
        let ends := [.comma, .mapEnd]
        let field ←
          if ← takes .key then
            let key ← nodeUnless (.colon :: ends) steps false false
            let value ←
              if ← takes .colon then nodeUnless ends steps false false
              else pure absent
            pure (key, value)
          else pure (← node steps false false, absent)
        return field :: (← flowFields steps false)

end

/-! ### Whole documents -/

/-- The directives in front of a document, the last one first. None may conflict with another. Every
one uses up one of the steps. -/
def directives (steps : Nat) (before : List Directive) : Assembly (List Directive) :=
  match steps with
  | 0 => failure
  | steps + 1 => do
    match ← next with
    | some (.directive d) =>
      if !d.isSupported || before.any d.conflicts then failure
      else
        skip
        directives steps (d :: before)
    | _ => return before

/-- The token may not start the value of a document behind three dashes. -/
def endsDocument : Option Token → Bool
  | none => true
  | some (.directive _) => true
  | some t => t == .documentStart || t == .documentEnd

/-- The value of a document, with its end. Three dashes are in front of it if there are
directives. -/
def document (steps : Nat) : Assembly Yaml := do
  let token ← next
  let value ←
    match token with
    | none => pure absent
    | some (.directive _) | some .documentStart => do
      let ds ← directives steps []
      expect .documentStart
      modify fun s => { s with handles := Directive.handles ds }
      if endsDocument (← next) then pure absent
      else node steps true false
    | _ => node steps true false
  if (← get).tokens.all (· == .documentEnd) then return value
  else failure

end Assembly

/-- A character may stand in a document. -/
def isAllowed (c : Char) : Bool :=
  c == '\t' || c == '\n' || c == '\r' || (' ' ≤ c && c ≤ '~') || c == '\u0085' ||
    ('\u00a0' ≤ c && c != '\ufffe' && c != '\uffff')

/-- The value of a text that is one document. There are at most four calls for a token. -/
def ofText? (text : String) : Option Yaml := do
  let cs := plainBreaks text.toList
  if !cs.all isAllowed then none
  else
    let tokens ← Token.ofText? cs
    (Assembly.document (4 * tokens.length + 4)).run' { tokens }

end Yaml

end ChatBot

import ChatBot.Text.Split

/-!
Paths of files.

* `Path`: the names on the way to a file, from the top or from where one stands. The name `..` leads
  to the folder above;
* `Path.ofText`: the path of a text, where slashes separate names and the
  name `.` stands for nothing;
* `Path.leadsToFolder`: the text of a path that no file can have;
* `Path.join`: a path behind another; a path from the top replaces the other one;
* `Path.up`, `Path.child`: one step up or down from a place.
-/

namespace ChatBot.Storage

/-- The names on the way to a file, in order. An absolute way starts at the top. -/
structure Path where
  isAbsolute : Bool
  names : List String
  deriving DecidableEq, Repr, Inhabited

namespace Path

/-- The name of the folder above. -/
def above : String := ".."

/-- Where one stands. -/
def here : Path := ⟨false, []⟩

/-- The path of a text. -/
def ofText (s : String) : Path where
  isAbsolute := s.toList.head? == some '/'
  names := ((Text.split '/' s.toList).map String.ofList).filter fun name =>
    name != "" && name != "."

/-- The text leads to a folder if to anything: behind its last slash there is no name. -/
def leadsToFolder (s : String) : Bool :=
  match (Text.split '/' s.toList).getLast? with
  | some name => name == [] || name == ['.']
  | none => true

/-- A path behind another. -/
def join (p q : Path) : Path := if q.isAbsolute then q else ⟨p.isAbsolute, p.names ++ q.names⟩

/-- A path without its last name. -/
def dropLast (p : Path) : Path := ⟨p.isAbsolute, p.names.dropLast⟩

/-- The text of a path. -/
def text (p : Path) : String := (if p.isAbsolute then "/" else "") ++ "/".intercalate p.names

/-! ### Places

A place is a path on which `..` stands in front only, and not at all if it starts at the top. -/

/-- The place of a name in the folder at a place. -/
def child (p : Path) (name : String) : Path := ⟨p.isAbsolute, p.names ++ [name]⟩

/-- The place above. -/
def up (p : Path) : Path :=
  match p.names.getLast? with
  | none => if p.isAbsolute then p else p.child above
  | some name => if name == above then p.child above else p.dropLast

/-- The place is where one stands, above it, or the top. -/
def isOutermost (p : Path) : Bool := p.names.all (· == above)

end Path

end ChatBot.Storage

import ChatBot.Storage.Path

/-!
Files and folders.

* `FileTree`: what stands at each place;
* `FileTree.folder`, `FileTree.place`: where a path leads, name by name;
* `FileTree.read`, `FileTree.readText`, `FileTree.write`: the body of a file;
* `FileTree.makeFolders`: all folders on a path;
* `FileTree.remove`: what stands at a place, and everything below;
* `FileTree.below`: the files below where one stands;
* `FileTree.changesFrom`: the files that are new or have changed.
-/

namespace ChatBot.Storage

/-- What stands at a place. -/
inductive Entry where
  | folder
  | file (body : String)
  deriving DecidableEq, Repr

/-- Why a file cannot be used: it is missing, or there is something else than what is needed at its
path, or there can be nothing of its name. -/
inductive FileError where
  | missing
  | unusable
  deriving DecidableEq, Repr

/-- Places with what stands there. -/
structure FileTree where
  entries : List (Path × Entry) := []
  deriving Repr, Inhabited

namespace FileTree

/-- What stands at a place. The outermost places are folders. -/
def get? (t : FileTree) (place : Path) : Option Entry :=
  if place.isOutermost then some .folder else t.entries.lookup place

/-- Puts something at a place. -/
def put (t : FileTree) (place : Path) (entry : Entry) : FileTree :=
  ⟨(place, entry) :: t.entries.filter (·.1 != place)⟩

/-- The number of bytes that a name may have. -/
def maxNameSize : Nat := 255

/-- A name is too long for any file. -/
def isTooLong (name : String) : Bool := maxNameSize < name.utf8ByteSize

/-- The path can be passed on at all: no name holds the null character. -/
def isProper (p : Path) : Bool := p.names.all fun name => !name.toList.contains '\x00'

/-- The folder that a name leads to from a folder. -/
def enter (t : FileTree) (folder : Path) (name : String) : Except FileError Path :=
  if name == Path.above then .ok folder.up
  else if isTooLong name then .error .unusable
  else
    match t.get? (folder.child name) with
    | some .folder => .ok (folder.child name)
    | some (.file _) => .error .unusable
    | none => .error .missing

/-- The folder that a path leads to. -/
def folder (t : FileTree) (p : Path) : Except FileError Path :=
  if isProper p then p.names.foldlM t.enter ⟨p.isAbsolute, []⟩ else .error .unusable

/-- The place that a path leads to, if there could be a file. -/
def place (t : FileTree) (p : Path) : Except FileError Path :=
  match p.names.getLast? with
  | none => .error .unusable
  | some name => do
    if !isProper p || name == Path.above then .error .unusable
    else
      let folder ← t.folder p.dropLast
      if isTooLong name then .error .unusable else .ok (folder.child name)

/-- The body of a file. -/
def read (t : FileTree) (p : Path) : Except FileError String := do
  match t.get? (← t.place p) with
  | some (.file body) => .ok body
  | some .folder => .error .unusable
  | none => .error .missing

/-- The body of the file that a text leads to. -/
def readText (t : FileTree) (s : String) : Except FileError String :=
  if Path.leadsToFolder s then .error .unusable else t.read (.ofText s)

/-- Writes a file into a folder that is there. -/
def write (t : FileTree) (p : Path) (body : String) : Except FileError FileTree := do
  let place ← t.place p
  match t.get? place with
  | some .folder => .error .unusable
  | _ => .ok (t.put place (.file body))

/-! ### Changes to folders -/

/-- Makes the folders of some names, each in the one before, starting from a folder. Those in front
of a name that cannot be used are made all the same. -/
def makeFrom (t : FileTree) (folder : Path) : List String → Except FileError Unit × FileTree
  | [] => (.ok (), t)
  | name :: rest =>
    match t.enter folder name with
    | .ok next => t.makeFrom next rest
    | .error .missing => (t.put (folder.child name) .folder).makeFrom (folder.child name) rest
    | .error .unusable => (.error .unusable, t)

/-- Makes all folders on a path. -/
def makeFolders (t : FileTree) (p : Path) : Except FileError Unit × FileTree :=
  if isProper p then t.makeFrom ⟨p.isAbsolute, []⟩ p.names else (.error .unusable, t)

/-- Writes a file, and makes the folders on its path first. -/
def save (t : FileTree) (p : Path) (body : String) : Except FileError Unit × FileTree :=
  match t.makeFolders p.dropLast with
  | (.error cause, t) => (.error cause, t)
  | (.ok (), t) =>
    match t.write p body with
    | .ok t => (.ok (), t)
    | .error cause => (.error cause, t)

/-- Removes what stands at a place, and everything below. -/
def remove (t : FileTree) (place : Path) : FileTree :=
  ⟨t.entries.filter fun (p, _) =>
    p.isAbsolute != place.isAbsolute || !place.names.isPrefixOf p.names⟩

/-! ### All files -/

/-- The tree of some files with their bodies. -/
def ofFiles (files : List (String × String)) : FileTree :=
  files.foldl (fun t (path, body) => (t.save (.ofText path) body).2) {}

/-- The files below where one stands, each with its body. -/
def below (t : FileTree) : List (String × String) :=
  t.entries.filterMap fun (place, entry) =>
    match entry with
    | .file body =>
      if place.isAbsolute || place.names.head? == some Path.above then none
      else some (place.text, body)
    | .folder => none

/-- The files that another tree does not hold in the same form, each with its body. -/
def changesFrom (old new : FileTree) : List (Path × String) :=
  new.entries.filterMap fun (place, entry) =>
    match entry with
    | .file body => if old.get? place = some entry then none else some (place, body)
    | .folder => none

end FileTree

end ChatBot.Storage

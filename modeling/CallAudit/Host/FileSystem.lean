import CallAudit.Host.IoError
import CallAudit.Host.Path

/-!
# Files and directories

A file system says what stands at each place, a place being the names from the root down. A path is
walked name by name, each step from a directory.

* `reach`: the place a path leads to.
* `openAppend`, `makeDirectory`, `makeAll`, `readText`: what programs do with paths.
* `node?_set`: a change is seen at its place and nowhere else.
-/
namespace CallAudit

/-- What stands at a place. -/
inductive FileSystem.Node where
  | file (content : List UInt8)
  | directory
  deriving DecidableEq, Repr

/-- The names from the root down. -/
abbrev FileSystem.Place := List String

/-- What stands where, and the directory that relative paths start from. -/
structure FileSystem where
  node? : FileSystem.Place → Option FileSystem.Node
  workingDirectory : FileSystem.Place

namespace FileSystem

/-- The file system with `n` at `p`. -/
def set (fs : FileSystem) (p : Place) (n : Node) : FileSystem :=
  { fs with node? := fun q => if q = p then some n else fs.node? q }

theorem node?_set {fs : FileSystem} {p q : Place} {n : Node} :
    (fs.set p n).node? q = if q = p then some n else fs.node? q := rfl

/-- The longest name in bytes. -/
def nameLimit : Nat := 255

/-- The longest path in bytes. -/
def pathLimit : Nat := 4095

/-- One step from a directory. -/
def step (place : Place) (name : String) : Place :=
  if name = "." then place else if name = ".." then place.dropLast else place ++ [name]

/-- The place that is reached through the names. -/
def walk (fs : FileSystem) (place : Place) : List String → Except IoError Place
  | [] => .ok place
  | name :: names =>
    match fs.node? place with
    | none => .error .notFound
    | some (.file _) => .error .notADirectory
    | some .directory =>
      if nameLimit < name.utf8ByteSize then .error .nameTooLong
      else walk fs (step place name) names

/-- The place that a path leads to. Nothing need stand there yet. -/
def reach (fs : FileSystem) (path : String) : Except IoError Place :=
  if '\x00' ∈ path.toList then .error .zeroInPath
  else if path = "" then .error .notFound
  else if pathLimit < path.utf8ByteSize then .error .nameTooLong
  else walk fs (if Path.isAbsolute path then [] else fs.workingDirectory) (Path.names path)

/-- What stands at the end of a path; a final slash asks for a directory. -/
def stat (fs : FileSystem) (path : String) : Except IoError (Place × Node) :=
  match fs.reach path with
  | .error e => .error e
  | .ok place =>
    match fs.node? place with
    | none => .error .notFound
    | some (.file content) =>
      if Path.endsInSlash path then .error .notADirectory else .ok (place, .file content)
    | some .directory => .ok (place, .directory)

def contains (fs : FileSystem) (path : String) : Bool := (fs.stat path).toBool

def isDirectory (fs : FileSystem) (path : String) : Bool :=
  match fs.stat path with
  | .ok (_, .directory) => true
  | _ => false

/-- The text of a file. -/
def readText (fs : FileSystem) (path : String) : Except IoError String :=
  match fs.stat path with
  | .error e => .error e
  | .ok (_, .directory) => .error .isADirectory
  | .ok (_, .file content) =>
    match String.fromUTF8? ⟨content.toArray⟩ with
    | some text => .ok text
    | none => .error .notText

/-- Makes a directory in an existing one. -/
def makeDirectory (fs : FileSystem) (path : String) : Except IoError FileSystem :=
  match fs.reach path with
  | .error e => .error e
  | .ok place =>
    match fs.node? place with
    | some _ => .error .alreadyExists
    | none => .ok (fs.set place .directory)

/-- Makes the first of these paths a directory, the later ones being its parents from the inside
out: a parent is made only where it is missing. What was made stays when a later step fails. -/
def makeAllOf (fs : FileSystem) : List String → Except IoError Unit × FileSystem
  | [] => (.ok (), fs)
  | path :: parents =>
    match fs.makeDirectory path with
    | .ok fs => (.ok (), fs)
    | .error .notFound =>
      match makeAllOf fs parents with
      | (.error e, fs) => (.error e, fs)
      | (.ok (), fs) =>
        match fs.makeDirectory path with
        | .ok fs => (.ok (), fs)
        | .error e => if fs.isDirectory path then (.ok (), fs) else (.error e, fs)
    | .error e => if fs.isDirectory path then (.ok (), fs) else (.error e, fs)

/-- Makes a directory and its missing parents. -/
def makeAll (fs : FileSystem) (path : String) : Except IoError Unit × FileSystem :=
  fs.makeAllOf (Path.ancestors path)

/-- Opens a file to append to, making it empty where it is missing: its place. -/
def openAppend (fs : FileSystem) (path : String) : Except IoError (Place × FileSystem) :=
  match fs.reach path with
  | .error e => .error e
  | .ok place =>
    if Path.endsInSlash path then .error .isADirectory
    else match fs.node? place with
      | some .directory => .error .isADirectory
      | some (.file _) => .ok (place, fs)
      | none => .ok (place, fs.set place (.file []))

/-- The content of the file at a place, empty where there is none. -/
def content (fs : FileSystem) (place : Place) : List UInt8 :=
  match fs.node? place with
  | some (.file content) => content
  | _ => []

/-- Puts bytes at the end of a file. -/
def append (fs : FileSystem) (place : Place) (bytes : List UInt8) : FileSystem :=
  fs.set place (.file (fs.content place ++ bytes))

end FileSystem

end CallAudit

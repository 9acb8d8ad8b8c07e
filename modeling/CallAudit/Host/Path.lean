import CallAudit.Text.Split

/-!
# Paths

A path is a text of names between slashes. It starts at the root if it starts with a slash, else at
the working directory. Empty names count nothing, nor does a `.` other than in front of a relative path.

* `Path.names`: the names to walk through.
* `Path.parent?`: the path without its last name.
* `Path.ancestors`: the path and its parents, innermost first.
-/
namespace CallAudit.Path

def isAbsolute (path : String) : Bool := path.toList.head? == some '/'

/-- Does a slash follow the last name? -/
def endsInSlash (path : String) : Bool := path.toList.getLast? == some '/'

/-- The names between the slashes, the empty ones left out. -/
def names (path : String) : List String :=
  ((splitAll '/' path.toList).filter (fun n => !n.isEmpty)).map String.ofList

/-- The names that tell paths apart: `.` only in front of a relative path. -/
def steps (path : String) : List String :=
  match names path with
  | [] => []
  | n :: ns =>
    if n == "." && !isAbsolute path then n :: ns.filter (· != ".") else (n :: ns).filter (· != ".")

/-- The path through these names. -/
def ofSteps (absolute : Bool) (ns : List String) : String :=
  (if absolute then "/" else "") ++ String.intercalate "/" ns

/-- The path without its last name; none for the root and the empty path. -/
def parent? (path : String) : Option String :=
  match steps path with
  | [] => none
  | ns => some (ofSteps (isAbsolute path) ns.dropLast)

/-- The path and its parents up to the root or the first name, innermost first. -/
def ancestors (path : String) : List String :=
  let ns := steps path
  let below := ((List.range ns.length).map (fun k => ofSteps (isAbsolute path) (ns.take (k + 1)))).reverse
  if isAbsolute path then below ++ ["/"] else below

/-- `path` below the directory `base`, or `path` itself if it is absolute. -/
def join (base path : String) : String :=
  if isAbsolute path then path
  else if base.isEmpty || endsInSlash base then base ++ path
  else base ++ "/" ++ path

end CallAudit.Path

import CallAudit.Config.Reader
import CallAudit.Host.FileSystem

/-!
# The search for a configuration

A configuration is read from the first of the searched paths where something stands. What stands at
later paths plays no part.

* `ConfigSearch.standard`: the usual paths.
* `ConfigSearch.load`: the configuration of the first existing path.
-/
namespace CallAudit

/-- The paths to search, in order. -/
structure ConfigSearch where
  paths : List String

namespace ConfigSearch

/-- The user's directory for configurations: the one that the environment names by an absolute path,
else the usual one in the home directory. -/
def userDirectory? (lookup : String → Option String) : Option String :=
  match lookup "XDG_CONFIG_HOME" with
  | some dir => if Path.isAbsolute dir then some dir else inHome
  | none => inHome
where
  /-- the usual directory for configurations -/
  inHome : Option String :=
    match lookup "HOME" with
    | some home => if home = "" then none else some (Path.join home ".config")
    | none => none

/-- The usual paths: in the working directory, then in the user's directory for configurations. -/
def standard (lookup : String → Option String) : ConfigSearch :=
  ⟨".audit-logging.toml" :: match userDirectory? lookup with
    | some dir => [Path.join (Path.join dir "audit-logging") "config.toml"]
    | none => []⟩

/-- One path only. -/
def ofPath (path : String) : ConfigSearch := ⟨[path]⟩

/-- The first path where something stands. -/
def find? (s : ConfigSearch) (fs : FileSystem) : Option String := s.paths.find? fs.contains

/-- The configuration in a file, not checked yet. -/
def read (path : String) (fs : FileSystem) : Except ConfigError AuditConfig :=
  match fs.readText path with
  | .error e => .error (.unreadable path e)
  | .ok text =>
    match AuditConfig.ofToml? text with
    | some c => .ok c
    | none => .error (.malformed path)

/-- The valid configuration of the first existing path. -/
def load [PatternEngine] (s : ConfigSearch) (fs : FileSystem) : Except ConfigError AuditConfig :=
  match s.find? fs with
  | none => .error (.notFound s.paths)
  | some path =>
    match read path fs with
    | .error e => .error e
    | .ok c =>
      match c.validate with
      | .error e => .error e
      | .ok () => .ok c

end ConfigSearch

end CallAudit

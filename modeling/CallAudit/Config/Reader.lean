import CallAudit.Config.Basic
import CallAudit.Json.Fields
import CallAudit.Toml.Document

/-!
# The written form of configurations

A configuration is an object whose members all have defaults, unknown ones skipped. It is read from
JSON values or from TOML; the two differ in a few liberties, which a `Dialect` lists.

* `AuditConfig.ofJson?`, `AuditConfig.ofToml?`: the configuration that a value or a text denotes.
* `AuditConfig.toJson`: the full form, all defaults filled in.
-/
namespace CallAudit

/-- The liberties of a source of configurations. -/
structure Dialect where
  /-- may a structure that is written as a list have surplus items? -/
  surplus : Bool
  /-- what may stand for nothing under the name of a variant -/
  isUnit : Json → Bool

namespace Dialect

def json : Dialect := ⟨false, Json.isNull⟩

def toml : Dialect where
  surplus := true
  isUnit
    | .object [] => true
    | .array [] => true
    | _ => false

end Dialect

namespace Json

/-- Decodes every item. -/
def list? {α : Type} (decode : Json → Option α) : Json → Option (List α)
  | array xs => xs.mapM decode
  | _ => none

end Json

open Json

def Rule.ofJson? (d : Dialect) (v : Json) : Option Rule :=
  match v.fields? d.surplus ["selector", "directive", "log_type"] with
  | some [selector, directive, logType] => do
    let selector ← selector.bind string?
    let directive ← withDefault? .unspecified (named? d.isUnit Directive.ofName?) directive
    let logType ← withDefault? .unspecified (named? d.isUnit LogType.ofName?) logType
    some { selector, directive, logType }
  | _ => none

def Rule.toJson (r : Rule) : Json :=
  .object [("selector", .string r.selector), ("directive", .string r.directive.name),
    ("log_type", .string r.logType.name)]

def JwtSource.ofJson? (d : Dialect) (v : Json) : Option JwtSource :=
  match v.fields? d.surplus ["key", "prefix"] with
  | some [key, lead] => do
    let key ← key.bind string?
    let lead ← withDefault? "" string? lead
    some { key, lead }
  | _ => none

def JwtSource.toJson (s : JwtSource) : Json :=
  .object [("key", .string s.key), ("prefix", .string s.lead)]

namespace BackendConfig

/-- The backend of a kind, with the value of its path if one is given. -/
def ofKind? (kind : String) (path : Option Json) : Option BackendConfig :=
  match kind with
  | "stdout" => some .stdout
  | "tracing" => some .tracing
  | "file" => path.bind (fun v => v.string?.map .file)
  | _ => none

/-- A backend is written as an object with its kind, or as a list of its kind and its path. -/
def ofJson? : Json → Option BackendConfig
  | object ms => (slots? ["kind", "path"] ms).bind (fun slots => match slots with
    | [some (string kind), path] => ofKind? kind path
    | _ => none)
  | array (string kind :: rest) =>
    if kind = "file" ∧ 1 < rest.length then none else ofKind? kind rest.head?
  | _ => none

def toJson : BackendConfig → Json
  | stdout => .object [("kind", .string "stdout")]
  | file path => .object [("kind", .string "file"), ("path", .string path)]
  | tracing => .object [("kind", .string "tracing")]

end BackendConfig

namespace AuditConfig

/-- The part on where tokens stand. -/
def sources? (d : Dialect) (default : List JwtSource) (v : Json) : Option (List JwtSource) :=
  match v.fields? d.surplus ["from_raw_jwt"] with
  | some [sources] => withDefault? default (list? (JwtSource.ofJson? d)) sources
  | _ => none

/-- The part on which principals are audited. -/
def condition? (d : Dialect) (v : Json) : Option (Option String × Option String) :=
  match v.fields? d.surplus ["principal_include", "principal_exclude"] with
  | some [included, excluded] => do
    let included ← withDefault? none (nullable? string?) included
    let excluded ← withDefault? none (nullable? string?) excluded
    some (included, excluded)
  | _ => none

/-- The configuration that a value denotes, the last of repeated members counting. -/
def ofValue? (d : Dialect) (v : Json) : Option AuditConfig :=
  let default : AuditConfig := {}
  match v.fields? d.surplus ["log_mode", "rules", "security_context", "condition", "labels",
      "runtime_info", "backend"] with
  | some [logMode, rules, security, condition, labels, runtimeInfo, backend] => do
    let logMode ← withDefault? default.logMode (named? d.isUnit LogMode.ofName?) logMode
    let rules ← withDefault? default.rules (list? (Rule.ofJson? d)) rules
    let sources ← withDefault? default.sources (sources? d default.sources) security
    let (included?, excluded?) ← withDefault? (none, none) (condition? d) condition
    let labels ← withDefault? default.labels textMap? labels
    let runtimeInfo ← withDefault? default.runtimeInfo bool? runtimeInfo
    let backend ← withDefault? default.backend BackendConfig.ofJson? backend
    some { logMode, rules, sources, included?, excluded?, labels, runtimeInfo, backend }
  | _ => none

/-- The configuration that a JSON value denotes. -/
def ofJson? (v : Json) : Option AuditConfig := ofValue? .json v.canonical

/-- The configuration that a TOML text denotes. -/
def ofToml? (text : String) : Option AuditConfig := (Toml.read? text).bind (ofValue? .toml)

def patternJson : Option String → Json
  | some p => .string p
  | none => .null

def toJson (c : AuditConfig) : Json :=
  .object [("log_mode", .string c.logMode.name), ("rules", .array (c.rules.map Rule.toJson)),
    ("security_context", .object [("from_raw_jwt", .array (c.sources.map JwtSource.toJson))]),
    ("condition", .object [("principal_include", patternJson c.included?),
      ("principal_exclude", patternJson c.excluded?)]),
    ("labels", .object (c.labels.map Json.string).entries),
    ("runtime_info", .bool c.runtimeInfo), ("backend", c.backend.toJson)]

end AuditConfig

end CallAudit

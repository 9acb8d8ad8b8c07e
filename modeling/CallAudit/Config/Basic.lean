import CallAudit.Host.IoError
import CallAudit.Principal.Basic
import CallAudit.Processor.PrincipalFilter
import CallAudit.Rule
import CallAudit.Text.Quoted

/-!
# Configuration

What an audit set-up is made from, and what makes it valid.

* `AuditConfig.validate`: the first fault of a configuration, in a fixed order.
-/
namespace CallAudit

/-- Where records are delivered. -/
inductive BackendConfig where
  | stdout
  | file (path : String)
  | tracing
  deriving DecidableEq, Repr

/-- The set-up of an audit. Every part has a default. -/
structure AuditConfig where
  logMode : LogMode := .bestEffort
  rules : List Rule := []
  /-- where the tokens of calls may stand -/
  sources : List JwtSource := [⟨"authorization", "Bearer "⟩]
  /-- the pattern of the principals that are audited -/
  included? : Option String := none
  /-- the pattern of the principals that are not audited -/
  excluded? : Option String := none
  labels : Dict String := Dict.empty
  /-- does each record get the labels of the runtime? -/
  runtimeInfo : Bool := true
  backend : BackendConfig := .stdout
  deriving DecidableEq

/-- Why there is no configuration, or no set-up from it. -/
inductive ConfigError where
  | notFound (searched : List String)
  | unreadable (path : String) (e : IoError)
  /-- a text that is no configuration -/
  | malformed (path : String)
  | invalid (reason : String)
  deriving DecidableEq, Repr

/-- The text of an error; what is wrong with a malformed text follows after it. -/
def ConfigError.message : ConfigError → String
  | notFound searched =>
    "No config file found (searched: [" ++
      String.intercalate ", " (searched.map Text.Quoted.quote) ++ "])"
  | unreadable path e => "Failed to read config file " ++ path ++ ": " ++ e.message
  | malformed path => "Failed to parse config file " ++ path ++ ": "
  | invalid reason => "Invalid configuration: " ++ reason

namespace AuditConfig

/-- The filter of the configured patterns, none if one of them is wrong. -/
def filter? [PatternEngine] (c : AuditConfig) : Option PrincipalFilter :=
  PrincipalFilter.ofPatterns? c.included? c.excluded?

/-- The filter of the configured patterns. -/
def filter [PatternEngine] (c : AuditConfig) : Except ConfigError PrincipalFilter :=
  match c.filter? with
  | some f => .ok f
  | none => .error (.invalid ("condition: " ++ PrincipalFilter.wrongPattern))

/-- The first fault of the rules. -/
def ruleFault? (c : AuditConfig) : Option RuleError :=
  c.rules.findSome? (fun r => match r.validate with
    | .ok () => none
    | .error e => some e)

/-- Checks a configuration; of several faults the first in this order is reported. -/
def validate [PatternEngine] (c : AuditConfig) : Except ConfigError Unit :=
  if c.logMode = .unspecified then
    .error (.invalid "log_mode must be fail_close or best_effort")
  else if c.rules.isEmpty then .error (.invalid "at least one rule is required")
  else match c.ruleFault? with
    | some e => .error (.invalid ("rules: " ++ e.message))
    | none =>
      if c.sources.isEmpty then
        .error (.invalid "security_context.from_raw_jwt must list at least one source")
      else if c.sources.any (fun s => Blank.isAllBlank s.key) then
        .error (.invalid "security_context.from_raw_jwt keys must not be empty")
      else match c.filter with
        | .error e => .error e
        | .ok _ =>
          if c.backend = .file "" then .error (.invalid "backend.path must not be empty")
          else .ok ()

end AuditConfig

end CallAudit

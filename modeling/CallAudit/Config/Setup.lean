import CallAudit.Config.Basic
import CallAudit.Interceptor
import CallAudit.Processor.Delivery
import CallAudit.Processor.Labels
import CallAudit.Processor.RequiredFields

/-!
# Set-up from a configuration

A valid configuration becomes a client: required fields and the principal filter as validators, labels
and runtime labels as mutators, and one backend. With its sources and rules it becomes an interceptor.

* `AuditConfig.client`: the client, or why there is none.
* `AuditConfig.interceptor`: the interceptor around it.
-/
namespace CallAudit.AuditConfig

variable {σ : Type}

/-- The environment of the program. -/
abbrev Environment := String → Option String

/-- The client's validators, in order. -/
def validatorSettings (f : PrincipalFilter) : List (Client.Setting σ) :=
  .validator .requiredFields :: if f.isEmpty then [] else [.validator (.principalFilter f)]

/-- The client's mutators, in order. -/
def mutatorSettings (c : AuditConfig) (env : Environment) : List (Client.Setting σ) :=
  (if c.labels.isEmpty then [] else [.mutator (.defaultLabels c.labels)]) ++
    if c.runtimeInfo then [.mutator (.runtimeLabels (Runtime.detect env))] else []

/-- The client's backend; opening a file is all that may fail. -/
def backendSetting (c : AuditConfig) (w : World σ) : Except ConfigError (Client.Setting σ) × World σ :=
  match c.backend with
  | .tracing => (.ok (.backend .events), w)
  | .stdout =>
    let (writer, w) := LineWriter.stdout w
    (.ok (.stoppableBackend writer.processor writer.stop), w)
  | .file path =>
    match LineWriter.openFile path w with
    | (.ok writer, w) => (.ok (.stoppableBackend writer.processor writer.stop), w)
    | (.error e, w) => (.error (.invalid ("backend: " ++ e.message)), w)

/-- The client of a configuration. -/
def client [PatternEngine] (c : AuditConfig) (env : Environment) (w : World σ) :
    Except ConfigError (Client σ) × World σ :=
  match c.validate with
  | .error e => (.error e, w)
  | .ok () =>
    match c.filter with
    | .error e => (.error e, w)
    | .ok f =>
      match c.backendSetting w with
      | (.error e, w) => (.error e, w)
      | (.ok backend, w) =>
        (.ok (Client.ofSettings (.defaultMode c.logMode ::
          validatorSettings f ++ c.mutatorSettings env ++ [backend])), w)

/-- The interceptor of a configuration; it trusts every token. -/
def interceptor [PatternEngine] (c : AuditConfig) (env : Environment) (w : World σ) :
    Except ConfigError (Interceptor σ) × World σ :=
  match c.client env w with
  | (.error e, w) => (.error e, w)
  | (.ok client, w) => (.ok { principals := { sources := c.sources }, rules := c.rules, client }, w)

end CallAudit.AuditConfig

import CallAudit.MethodName
import CallAudit.Payload
import CallAudit.Pipeline.Client
import CallAudit.Principal.Basic
import CallAudit.Rule
import CallAudit.Status

/-!
# Interception

A call is audited around its handler. The principal is found first, and without one the handler does
not run. A call whose method no rule governs is only handled. Any other call is handled and then
logged, and a failure to log takes the place of what the handler gave.

* `Interceptor.record`: the record of a call.
* `Interceptor.intercept`: handles and audits a call.
-/
namespace CallAudit

/-- Why an intercepted call fails. -/
inductive InterceptError where
  | principal (e : PrincipalError)
  | handler (status : Status)
  | auditLog (e : PipelineError)
  deriving DecidableEq, Repr

namespace InterceptError

def message : InterceptError → String
  | principal e => "failed to resolve principal: " ++ e.message
  | handler status => "handler failed: " ++ status.text
  | auditLog e => "audit logging failed: " ++ e.message

/-- The status the caller gets. -/
def toStatus : InterceptError → Status
  | principal e => ⟨.unauthenticated, e.message⟩
  | handler status => status
  | auditLog e => ⟨.internal, "audit logging failed: " ++ e.message⟩

end InterceptError

/-- Values that calls carry. -/
class HasPayload (α : Type) where
  payload : α → Payload

instance : HasPayload Payload := ⟨id⟩

instance : HasPayload Json := ⟨Payload.ofJson⟩

/-- What handles calls: it sees the request, may cancel tokens and keep a state of its own. -/
abbrev Handler (σ ρ α : Type) := ρ → TokenForest → σ → Except Status α × TokenForest × σ

/-- Handles a request in the world. -/
def Handler.run {σ ρ α : Type} (h : Handler σ ρ α) (request : ρ) (w : World σ) :
    Except Status α × World σ :=
  let (outcome, tokens, user) := h request w.tokens w.user
  (outcome, { w with tokens, user })

/-- What is new in each record: the name of the operation and the time. -/
structure RecordSeed where
  operation : String
  timestamp : Timestamp

/-- Audits calls. -/
structure Interceptor (σ : Type) where
  principals : FromRawJwt σ
  rules : List Rule
  client : Client σ

/-- What an intercepted call leaves. -/
structure Intercepted (σ α : Type) where
  result : Except InterceptError α
  /-- the record that was given to the client -/
  submitted? : Option AuditRecord
  world : World σ

namespace Interceptor

variable {σ ρ α : Type}

/-- How the handler ended, as it is recorded. -/
def outcomeOf : Except Status α → CallOutcome
  | .ok _ => ⟨0, ""⟩
  | .error status => ⟨Int32.ofNat status.code.value, status.message⟩

/-- The snapshot of a response, if there is one and the directive asks for it. -/
def responseOf [HasPayload α] (directive : Directive) : Except Status α → Option Snapshot
  | .ok response =>
    if directive.includesResponse then Snapshot.ofPayload? (HasPayload.payload response) else none
  | .error _ => none

/-- The record of a call. -/
def record [HasPayload ρ] [HasPayload α] (rule : Rule) (method : MethodName) (principal : String)
    (seed : RecordSeed) (request : ρ) (outcome : Except Status α) : AuditRecord :=
  { logType := rule.logType
    body := {
      methodName := method.full
      serviceName := method.service
      resourceName := method.service
      principalEmail := principal
      request :=
        if rule.directive.includesRequest then Snapshot.ofPayload? (HasPayload.payload request)
        else none
      response := responseOf rule.directive outcome
      status := some (outcomeOf outcome) }
    operation := some seed.operation
    timestamp := seed.timestamp }

/-- Handles a call and audits it. -/
def intercept [HasPayload ρ] [HasPayload α] (x : Interceptor σ) (seed : RecordSeed)
    (ctx : CallContext) (rawMethod : String) (request : ρ) (handler : Handler σ ρ α) (w : World σ) :
    Intercepted σ α :=
  let (principal, user) := x.principals.principal ctx.metadata w.user
  let w := { w with user }
  match principal with
  | .error e => ⟨.error (.principal e), none, w⟩
  | .ok principal =>
    let method := MethodName.parse rawMethod
    let rule := mostRelevant method.full x.rules
    let (outcome, w) := handler.run request w
    if rule.isUnset then ⟨outcome.mapError .handler, none, w⟩
    else
      let submitted := record rule method principal seed request outcome
      let logged := x.client.log ctx submitted w
      match logged.result with
      | .error e => ⟨.error (.auditLog e), some submitted, logged.world⟩
      | .ok () => ⟨outcome.mapError .handler, some submitted, logged.world⟩

end Interceptor

end CallAudit

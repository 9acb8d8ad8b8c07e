import CallAudit.AuditRecord.Basic
import CallAudit.Json.Fields
import CallAudit.Json.Printer

/-!
# The written form of a record

A record is one line of compact JSON with its fields in a fixed order. An empty resource name, status
message or metadata is left out, and so is an absent request, response, status or operation; labels
are always there. Reading takes the same object, its members in any order, unknown ones skipped.

* `AuditRecord.line`: the line without its line break.
* `AuditRecord.parse?`: the record that a text holds.
-/
namespace CallAudit

/-! ## Writing -/

/-- A member that is left out where there is no value. -/
def Json.optionalMember (k : String) (v : Option Json) : List (String × Json) :=
  match v with
  | some v => [(k, v)]
  | none => []

/-- A text that is left out where it is empty. -/
def Json.nonemptyText (s : String) : Option Json := if s = "" then none else some (.string s)

def CallOutcome.toJson (s : CallOutcome) : Json :=
  .object ([("code", .number (.int s.code.toInt))] ++
    Json.optionalMember "message" (Json.nonemptyText s.message))

def Dict.toJson (d : Dict String) : Json := .object (d.map Json.string).entries

namespace AuditRecord

def Body.toJson (b : Body) : Json :=
  .object ([("method_name", .string b.methodName), ("service_name", .string b.serviceName)] ++
    Json.optionalMember "resource_name" (Json.nonemptyText b.resourceName) ++
    [("principal_email", .string b.principalEmail)] ++
    Json.optionalMember "request" (b.request.map Snapshot.toJson) ++
    Json.optionalMember "response" (b.response.map Snapshot.toJson) ++
    Json.optionalMember "status" (b.status.map CallOutcome.toJson) ++
    Json.optionalMember "metadata" (if b.metadata.isEmpty then none else some b.metadata.toJson))

def toJson (r : AuditRecord) : Json :=
  .object ([("log_type", .string r.logType.name), ("mode", .string r.mode.name),
      ("payload", r.body.toJson), ("labels", r.labels.toJson)] ++
    Json.optionalMember "operation" (r.operation.map Json.string) ++
    [("timestamp", .string r.timestamp.render)])

/-- The record in one line, without the line break. -/
def line (r : AuditRecord) : String := r.toJson.render

end AuditRecord

/-! ## Reading -/

namespace Json

/-- An integer of 32 bits. -/
def int32? : Json → Option Int32
  | number (.int n) =>
    if Int32.minValue.toInt ≤ n ∧ n ≤ Int32.maxValue.toInt then some (Int32.ofInt n) else none
  | _ => none

def snapshot? : Json → Option Snapshot
  | object ms => some (Snapshot.ofMembers ms)
  | _ => none

end Json

open Json in
def CallOutcome.ofTree? (t : Tree) : Option CallOutcome :=
  match t.fields? ["code", "message"] with
  | some [code, message] => do
    let code ← code.bind (Tree.as? int32?)
    let message ← withDefault? "" (Tree.as? string?) message
    some ⟨code, message⟩
  | _ => none

namespace AuditRecord

open Json

/-- A status that may be null or missing. -/
def optionalOutcome? (slot : Option Tree) : Option (Option CallOutcome) :=
  match slot with
  | none => some none
  | some (.leaf (some .null)) => some none
  | some t => (CallOutcome.ofTree? t).map some

def Body.ofTree? (t : Tree) : Option Body :=
  match t.fields? ["method_name", "service_name", "resource_name", "principal_email", "request",
      "response", "status", "metadata"] with
  | some [method, service, resource, principal, request, response, status, metadata] => do
    let methodName ← method.bind (Tree.as? string?)
    let serviceName ← service.bind (Tree.as? string?)
    let resourceName ← withDefault? "" (Tree.as? string?) resource
    let principalEmail ← principal.bind (Tree.as? string?)
    let request ← withDefault? none (Tree.as? (nullable? snapshot?)) request
    let response ← withDefault? none (Tree.as? (nullable? snapshot?)) response
    let status ← optionalOutcome? status
    let metadata ← withDefault? Snapshot.empty (Tree.as? snapshot?) metadata
    some { methodName, serviceName, resourceName, principalEmail, request, response, status, metadata }
  | _ => none

def ofTree? (t : Tree) : Option AuditRecord :=
  match t.fields? ["log_type", "mode", "payload", "labels", "operation", "timestamp"] with
  | some [logType, mode, body, labels, operation, timestamp] => do
    let logType ← logType.bind (Tree.as? (named? isNull LogType.ofName?))
    let mode ← mode.bind (Tree.as? (named? isNull LogMode.ofName?))
    let body ← body.bind Body.ofTree?
    let labels ← withDefault? Dict.empty (Tree.as? textMap?) labels
    let operation ← withDefault? none (Tree.as? (nullable? string?)) operation
    let timestamp ← timestamp.bind (Tree.as? (fun v => v.string?.bind Timestamp.parse?))
    some { logType, mode, body, labels, operation, timestamp }
  | _ => none

/-- The record that a text holds. -/
def parse? (s : String) : Option AuditRecord := (read? s).bind ofTree?

end AuditRecord

end CallAudit

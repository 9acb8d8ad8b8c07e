import CallAudit.Pipeline.Processor

/-!
# Required fields

A record has to name its method, its service and its principal. Of several missing names the first in
this order is reported.
-/
namespace CallAudit

namespace AuditRecord

/-- The names a record has to hold, with what they are called. -/
def requiredFields (r : AuditRecord) : List (String × String) :=
  [("method_name", r.body.methodName), ("service_name", r.body.serviceName),
    ("principal_email", r.body.principalEmail)]

/-- Refuses a record that lacks a required name. -/
def requireFields (r : AuditRecord) : Except ProcessorError Unit :=
  match r.requiredFields.find? (fun f => f.2.isEmpty) with
  | some (field, _) => .error (.invalidArgument ("payload is missing " ++ field))
  | none => .ok ()

end AuditRecord

/-- Refuses records that lack a required name. -/
def Processor.requiredFields {σ : Type} : Processor σ :=
  .judging "request_validator" AuditRecord.requireFields

end CallAudit

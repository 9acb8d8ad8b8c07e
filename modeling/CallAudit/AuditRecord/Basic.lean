import CallAudit.LogKind
import CallAudit.Snapshot
import CallAudit.Timestamp

/-!
# Audit records

A record says who called what, how the call ended, and which labels belong to it. It flows through
the pipeline, where processors may rewrite it, to the backends.
-/
namespace CallAudit

/-- How the recorded call ended. -/
structure CallOutcome where
  code : Int32
  message : String
  deriving DecidableEq

/-- What is recorded of a call. -/
structure AuditRecord.Body where
  methodName : String
  serviceName : String := ""
  /-- what the call acted on -/
  resourceName : String := ""
  principalEmail : String := ""
  request : Option Snapshot := none
  response : Option Snapshot := none
  status : Option CallOutcome := none
  metadata : Snapshot := Snapshot.empty
  deriving DecidableEq

/-- A record to be logged. -/
structure AuditRecord where
  logType : LogType := .unspecified
  mode : LogMode := .unspecified
  body : AuditRecord.Body
  labels : Dict String := Dict.empty
  /-- groups the records of one operation -/
  operation : Option String := none
  timestamp : Timestamp
  deriving DecidableEq

namespace AuditRecord

/-- A record of `method` at `timestamp`, nothing else filled in. -/
def new (method : String) (timestamp : Timestamp) : AuditRecord :=
  { body := { methodName := method }, timestamp := timestamp }

end AuditRecord

end CallAudit

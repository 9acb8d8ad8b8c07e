/-!
# Kinds of audit logging

What a record is about (`LogType`), how a failure to log it affects the call (`LogMode`), and how
much of a call a rule records (`Directive`). Each has a name in configuration and in records, and an
unspecified case to start from.
-/
namespace CallAudit

/-- The category of a record. -/
inductive LogType where
  | unspecified
  /-- calls that change configuration or metadata -/
  | adminActivity
  /-- calls that read or write user data -/
  | dataAccess
  deriving DecidableEq, Repr, Inhabited

namespace LogType

def name : LogType → String
  | unspecified => "unspecified"
  | adminActivity => "admin_activity"
  | dataAccess => "data_access"

def all : List LogType := [unspecified, adminActivity, dataAccess]

def ofName? (s : String) : Option LogType := all.find? (fun t => t.name == s)

theorem ofName?_name (t : LogType) : ofName? t.name = some t := by cases t <;> rfl

end LogType

/-- What a failure to log does to the audited call. -/
inductive LogMode where
  /-- stands for the default mode of the client that logs -/
  | unspecified
  /-- the call fails -/
  | failClose
  /-- the call goes on -/
  | bestEffort
  deriving DecidableEq, Repr, Inhabited

namespace LogMode

def name : LogMode → String
  | unspecified => "unspecified"
  | failClose => "fail_close"
  | bestEffort => "best_effort"

/-- The name as a constructor is written. -/
def title : LogMode → String
  | unspecified => "Unspecified"
  | failClose => "FailClose"
  | bestEffort => "BestEffort"

def all : List LogMode := [unspecified, failClose, bestEffort]

def ofName? (s : String) : Option LogMode := all.find? (fun m => m.name == s)

theorem ofName?_name (m : LogMode) : ofName? m.name = some m := by cases m <;> rfl

end LogMode

/-- How much of a call is recorded. -/
inductive Directive where
  | unspecified
  /-- the call without its payloads -/
  | audit
  | auditRequestOnly
  | auditRequestAndResponse
  deriving DecidableEq, Repr, Inhabited

namespace Directive

def name : Directive → String
  | unspecified => "unspecified"
  | audit => "audit"
  | auditRequestOnly => "audit_request_only"
  | auditRequestAndResponse => "audit_request_and_response"

def all : List Directive := [unspecified, audit, auditRequestOnly, auditRequestAndResponse]

def ofName? (s : String) : Option Directive := all.find? (fun d => d.name == s)

theorem ofName?_name (d : Directive) : ofName? d.name = some d := by cases d <;> rfl

def includesRequest (d : Directive) : Bool := d == auditRequestOnly || d == auditRequestAndResponse

def includesResponse (d : Directive) : Bool := d == auditRequestAndResponse

end Directive

end CallAudit

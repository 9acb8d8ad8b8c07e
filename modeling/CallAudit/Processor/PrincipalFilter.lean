import CallAudit.Pattern.Engine
import CallAudit.Pipeline.Processor

/-!
# The principal filter

Which principals are audited: those that the exclude pattern does not match and, if there is an include
pattern, that one matches. A record of another principal is not to be logged.
-/
namespace CallAudit

/-- Which principals are audited. -/
structure PrincipalFilter where
  /-- matches the principals that are audited -/
  included? : Option (String → Bool) := none
  /-- matches those that are not -/
  excluded? : Option (String → Bool) := none

namespace PrincipalFilter

/-- A pattern that may be absent; none if it is there and wrong. -/
def pattern? [PatternEngine] : Option String → Option (Option (String → Bool))
  | none => some none
  | some text => (PatternEngine.compile? text).map some

/-- The filter of two patterns, either of which may be absent; none if one of them is wrong. -/
def ofPatterns? [PatternEngine] (included excluded : Option String) : Option PrincipalFilter :=
  match pattern? included, pattern? excluded with
  | some included?, some excluded? => some { included?, excluded? }
  | _, _ => none

/-- What is said of a wrong pattern, before what is wrong with it. -/
def wrongPattern : String := "Invalid regex pattern: "

/-- Is the principal audited? -/
def allows (f : PrincipalFilter) (principal : String) : Bool :=
  !f.excluded?.any (· principal) && f.included?.all (· principal)

/-- Is there no pattern? -/
def isEmpty (f : PrincipalFilter) : Bool := f.included?.isNone && f.excluded?.isNone

/-- Refuses a record of a principal that is not audited. -/
def judge (f : PrincipalFilter) (r : AuditRecord) : Except ProcessorError Unit :=
  if f.allows r.body.principalEmail then .ok ()
  else .error (.preconditionFailed "principal is excluded from audit logging")

end PrincipalFilter

/-- Refuses records of principals that are not audited. -/
def Processor.principalFilter {σ : Type} (f : PrincipalFilter) : Processor σ :=
  .judging "principal_filter" f.judge

end CallAudit

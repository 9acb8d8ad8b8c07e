import CallAudit.Text.Split

/-!
# Method names

A method is written `/service/method`, `service/method` or `service.method`. Its full name joins
service and method by a point; the service is what stands before the last slash, or, where there is
no slash, before the last point. Slashes in front count nothing.
-/
namespace CallAudit

/-- A method by its full name and its service. -/
structure MethodName where
  full : String
  service : String
  deriving DecidableEq, Repr

namespace MethodName

/-- Full name and service of a written name, whatever slashes stand in front of it. -/
def parseChars (cs : List Char) : List Char × List Char :=
  let cs := cs.dropWhile (· == '/')
  match splitLast? '/' cs with
  | some (service, method) => (service ++ '.' :: method, service)
  | none => (cs, ((splitLast? '.' cs).map (·.1)).getD [])

/-- The method that a text names. -/
def parse (raw : String) : MethodName :=
  let (full, service) := parseChars raw.toList
  ⟨String.ofList full, String.ofList service⟩

end MethodName

end CallAudit

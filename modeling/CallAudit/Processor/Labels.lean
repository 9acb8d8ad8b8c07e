import CallAudit.Pipeline.Processor

/-!
# Labels

Processors that give records labels. A label the record already has is left alone.

* `AuditRecord.withLabels`: the record with more labels.
* `Runtime.detect`: the labels that say where the program runs, from its environment.
-/
namespace CallAudit

/-- The record with labels it does not have yet. -/
def AuditRecord.withLabels (r : AuditRecord) (labels : Dict String) : AuditRecord :=
  { r with labels := r.labels.orElse labels }

/-- Gives records these labels by default. -/
def Processor.defaultLabels {σ : Type} (labels : Dict String) : Processor σ :=
  .rewriting "default_labels" (fun r => r.withLabels labels)

/-- Where a program runs. -/
inductive Platform where
  | cloudRun
  | kubernetes
  | unknown
  deriving DecidableEq, Repr

def Platform.name : Platform → String
  | cloudRun => "cloud_run"
  | kubernetes => "kubernetes"
  | unknown => "unknown"

/-- Where a program runs, and the labels that say so. -/
structure Runtime where
  platform : Platform
  labels : Dict String
  deriving DecidableEq

namespace Runtime

/-- The label of the platform. -/
def platformLabel : String := "runtime_platform"

/-- The platform that the variables of an environment point to. -/
def platformOf (lookup : String → Option String) : Platform :=
  if (lookup "K_SERVICE").isSome then .cloudRun
  else if (lookup "KUBERNETES_SERVICE_HOST").isSome then .kubernetes
  else .unknown

/-- The labels of a platform beside its name, and the variables they come from. -/
def sources : Platform → List (String × String)
  | .cloudRun => [("runtime_service", "K_SERVICE"), ("runtime_revision", "K_REVISION"),
      ("runtime_configuration", "K_CONFIGURATION")]
  | .kubernetes => [("runtime_pod", "POD_NAME"), ("runtime_namespace", "POD_NAMESPACE")]
  | .unknown => []

/-- The label of a source, if its variable is set and not empty. -/
def label? (lookup : String → Option String) (source : String × String) : Option (String × String) :=
  match lookup source.2 with
  | some v => if v = "" then none else some (source.1, v)
  | none => none

/-- The runtime that the variables of an environment describe. -/
def detect (lookup : String → Option String) : Runtime :=
  let platform := platformOf lookup
  let found := (sources platform).filterMap (label? lookup)
  ⟨platform, (Dict.ofList found).insert platformLabel platform.name⟩

end Runtime

/-- Gives records the labels of the runtime. -/
def Processor.runtimeLabels {σ : Type} (runtime : Runtime) : Processor σ :=
  .rewriting "runtime_info" (fun r => r.withLabels runtime.labels)

end CallAudit

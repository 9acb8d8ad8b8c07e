import CallAudit.AuditRecord.Basic
import CallAudit.Host.Basic

/-!
# Processors

A step of the pipeline looks at a record, may rewrite it and may act on the world, and succeeds or
fails. A failed precondition says that the record is not to be logged; every other error is a failure
to log it.
-/
namespace CallAudit

/-- Why a processor fails. -/
inductive ProcessorError where
  /-- the record is not to be logged -/
  | preconditionFailed (reason : String)
  | invalidArgument (reason : String)
  | cancelled
  | io (e : IoError)
  | serialize (reason : String)
  | backend (reason : String)
  deriving DecidableEq, Repr

namespace ProcessorError

def message : ProcessorError → String
  | preconditionFailed reason => "precondition failed: " ++ reason
  | invalidArgument reason => "invalid audit request: " ++ reason
  | cancelled => "audit processing cancelled"
  | io e => "I/O failure: " ++ e.message
  | serialize reason => "failed to serialize audit request: " ++ reason
  | backend reason => "backend failure: " ++ reason

/-- Does the error say that the record is not to be logged? -/
def isPrecondition : ProcessorError → Bool
  | preconditionFailed _ => true
  | _ => false

end ProcessorError

/-- What a processor leaves. -/
structure Turn (σ : Type) where
  result : Except ProcessorError Unit
  record : AuditRecord
  world : World σ

/-- A step of the pipeline. -/
structure Processor (σ : Type) where
  name : String
  process : CallContext → AuditRecord → World σ → Turn σ

/-- A processor that only judges a record. -/
def Processor.judging {σ : Type} (name : String) (judge : AuditRecord → Except ProcessorError Unit) :
    Processor σ :=
  ⟨name, fun _ r w => ⟨judge r, r, w⟩⟩

/-- A processor that only rewrites a record. -/
def Processor.rewriting {σ : Type} (name : String) (rewrite : AuditRecord → AuditRecord) :
    Processor σ :=
  ⟨name, fun _ r w => ⟨.ok (), rewrite r, w⟩⟩

/-- How a processor is stopped. -/
abbrev Stopper (σ : Type) := World σ → Except ProcessorError Unit × World σ

end CallAudit

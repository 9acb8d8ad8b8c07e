import CallAudit.Pipeline.Processor
import CallAudit.Text.Quoted

/-!
# The audit client

A client runs a record through its validators, its mutators and its backends, each in the order of
registration. The first error ends the run: a failed precondition drops the record silently, another
error counts only if the record is in fail-close mode at that moment.

* `Client.ofSettings`: the client that a sequence of settings makes.
* `Client.log`: logs a record.
* `Client.stop`: stops what was registered to be stopped.
-/
namespace CallAudit

/-- The part of the pipeline that a processor is registered in. -/
inductive Stage where
  | validator
  | mutator
  | backend
  deriving DecidableEq, Repr

def Stage.name : Stage → String
  | validator => "validator"
  | mutator => "mutator"
  | backend => "backend"

/-- A processor that could not be stopped. -/
structure StopFailure where
  processor : String
  error : ProcessorError
  deriving DecidableEq, Repr

def StopFailure.text (f : StopFailure) : String := f.processor ++ ": " ++ f.error.message

/-- Why a client fails. -/
inductive PipelineError where
  /-- a processor failed on a record in fail-close mode -/
  | processingFailed (stage : Stage) (processor : String) (error : ProcessorError)
  | stopFailed (failures : List StopFailure)
  deriving DecidableEq, Repr

def PipelineError.message : PipelineError → String
  | processingFailed stage processor error =>
    stage.name ++ " '" ++ processor ++ "' failed: " ++ error.message
  | stopFailed failures =>
    "failed to stop " ++ toString failures.length ++ " processor(s): " ++
      String.intercalate "; " (failures.map StopFailure.text)

/-- A processor, and how to stop it if it was registered to be stopped. -/
structure Registration (σ : Type) where
  processor : Processor σ
  stop? : Option (Stopper σ) := none

/-- A pipeline. -/
structure Client (σ : Type) where
  validators : List (Registration σ) := []
  mutators : List (Registration σ) := []
  backends : List (Registration σ) := []
  /-- the mode of records that come without one -/
  defaultMode : LogMode := .bestEffort

/-- What a client is made from. -/
inductive Client.Setting (σ : Type) where
  | defaultMode (mode : LogMode)
  | validator (p : Processor σ)
  | stoppableValidator (p : Processor σ) (stop : Stopper σ)
  | mutator (p : Processor σ)
  | backend (p : Processor σ)
  | stoppableBackend (p : Processor σ) (stop : Stopper σ)

/-- What the logging of a record leaves. -/
structure Client.Logged (σ : Type) where
  result : Except PipelineError Unit
  record : AuditRecord
  world : World σ

namespace Client

variable {σ : Type}

/-- The client with one more setting. -/
def apply (c : Client σ) : Setting σ → Client σ
  | .defaultMode mode => { c with defaultMode := mode }
  | .validator p => { c with validators := c.validators ++ [⟨p, none⟩] }
  | .stoppableValidator p stop => { c with validators := c.validators ++ [⟨p, some stop⟩] }
  | .mutator p => { c with mutators := c.mutators ++ [⟨p, none⟩] }
  | .backend p => { c with backends := c.backends ++ [⟨p, none⟩] }
  | .stoppableBackend p stop => { c with backends := c.backends ++ [⟨p, some stop⟩] }

/-- The client that the settings make, in this order. -/
def ofSettings (settings : List (Setting σ)) : Client σ := settings.foldl apply {}

/-- All registrations with their stages, in the order of a run. -/
def stations (c : Client σ) : List (Stage × Registration σ) :=
  c.validators.map (Stage.validator, ·) ++ c.mutators.map (Stage.mutator, ·) ++
    c.backends.map (Stage.backend, ·)

/-- The turn of a processor; a call cancelled by then fails without it. -/
def turn (p : Processor σ) (ctx : CallContext) (r : AuditRecord) (w : World σ) : Turn σ :=
  if ctx.isCancelled w.tokens then ⟨.error .cancelled, r, w⟩ else p.process ctx r w

/-- What an error means for the caller, by the mode of the record. -/
def verdict (stage : Stage) (processor : String) (error : ProcessorError) (mode : LogMode) :
    Except PipelineError Unit :=
  if error.isPrecondition then .ok ()
  else if mode = .failClose then .error (.processingFailed stage processor error)
  else .ok ()

/-- Runs a record through stations until one fails. -/
def runThrough (ctx : CallContext) :
    List (Stage × Registration σ) → AuditRecord → World σ → Logged σ
  | [], r, w => ⟨.ok (), r, w⟩
  | (stage, entry) :: rest, r, w =>
    let t := turn entry.processor ctx r w
    match t.result with
    | .ok () => runThrough ctx rest t.record t.world
    | .error e => ⟨verdict stage entry.processor.name e t.record.mode, t.record, t.world⟩

/-- The record with a mode. -/
def withMode (c : Client σ) (r : AuditRecord) : AuditRecord :=
  if r.mode = .unspecified then { r with mode := c.defaultMode } else r

/-- Logs a record: what comes of it, and the record as the processors left it. -/
def log (c : Client σ) (ctx : CallContext) (r : AuditRecord) (w : World σ) : Logged σ :=
  runThrough ctx c.stations (c.withMode r) w

/-- Stops one registration after the other, failures notwithstanding. -/
def stopAll : List (Registration σ) → World σ → List StopFailure × World σ
  | [], w => ([], w)
  | ⟨_, none⟩ :: rest, w => stopAll rest w
  | ⟨p, some stop⟩ :: rest, w =>
    let (result, w) := stop w
    let (failures, w) := stopAll rest w
    match result with
    | .ok () => (failures, w)
    | .error e => (⟨p.name, e⟩ :: failures, w)

/-- Stops the validators and then the backends that were registered to be stopped. -/
def stop (c : Client σ) (w : World σ) : Except PipelineError Unit × World σ :=
  match stopAll (c.validators ++ c.backends) w with
  | ([], w) => (.ok (), w)
  | (failures, w) => (.error (.stopFailed failures), w)

/-- The names of the processors, quoted and in brackets. -/
def namesText (rs : List (Registration σ)) : String :=
  "[" ++ String.intercalate ", " (rs.map (fun r => Text.Quoted.quote r.processor.name)) ++ "]"

/-- A description of the client. -/
def describe (c : Client σ) : String :=
  "Client \x7b validators: " ++ namesText c.validators ++ ", mutators: " ++ namesText c.mutators ++
    ", backends: " ++ namesText c.backends ++ ", default_mode: " ++ c.defaultMode.title ++ " \x7d"

end Client

end CallAudit

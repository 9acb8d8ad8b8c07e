import CallAudit.AuditRecord.Line
import CallAudit.Pipeline.Processor
import CallAudit.Text.Quoted

/-!
# Delivery

The backends: records as lines of JSON into a sink, and records as events on the audit channel.

* `LineWriter.openFile`: lines appended to a file, made with its parent directories where missing.
* `LineWriter.write`: one record, one line, flushed.
-/
namespace CallAudit

/-- The bytes of a record's line with its line break. -/
def AuditRecord.lineBytes (r : AuditRecord) : List UInt8 := r.line.toUTF8.toList ++ [0x0A]

/-- Writes records as lines into a sink. -/
structure LineWriter (σ : Type) where
  name : String
  /-- the path of the file, if the sink is one that was opened by path -/
  path? : Option String
  sink : Sink (World σ)
  /-- the number of the buffer in front of the sink -/
  buffer : Nat

namespace LineWriter

variable {σ : Type}

/-- A writer into any sink. -/
def new (name : String) (sink : Sink (World σ)) (w : World σ) : LineWriter σ × World σ :=
  let (buffer, host) := w.host.newBuffer
  (⟨name, none, sink, buffer⟩, { w with host })

/-- A writer to the standard output. -/
def stdout (w : World σ) : LineWriter σ × World σ := new "stdout" World.output w

/-- Makes the missing directories above a file. -/
def makeParents (path : String) (fs : FileSystem) : Except IoError Unit × FileSystem :=
  match Path.parent? path with
  | some parent =>
    if parent = "" || fs.contains parent then (.ok (), fs) else fs.makeAll parent
  | none => (.ok (), fs)

/-- A writer at the end of a file. -/
def openFile (path : String) (w : World σ) : Except ProcessorError (LineWriter σ) × World σ :=
  let (made, files) := makeParents path w.host.files
  let host := { w.host with files }
  match made with
  | .error e => (.error (.io e), { w with host })
  | .ok () =>
    match files.openAppend path with
    | .error e => (.error (.io e), { w with host })
    | .ok (place, files) =>
      let (file, host) := { host with files }.newFile place
      let (buffer, host) := host.newBuffer
      (.ok ⟨"file", some path, World.fileSink file, buffer⟩, { w with host })

/-- The result of a step on the sink as a processor's. -/
def outcome (result : Except IoError Unit) : Except ProcessorError Unit := result.mapError .io

/-- Writes a record and flushes. -/
def write (x : LineWriter σ) (r : AuditRecord) (w : World σ) : Except ProcessorError Unit × World σ :=
  let (result, w) := World.buffered x.buffer (x.sink.writeLine r.lineBytes) w
  (outcome result, w)

/-- Flushes. -/
def stop (x : LineWriter σ) : Stopper σ := fun w =>
  let (result, w) := World.buffered x.buffer x.sink.flushAll w
  (outcome result, w)

/-- Delivers records to the sink. -/
def processor (x : LineWriter σ) : Processor σ where
  name := x.name
  process _ r w :=
    let (result, w) := x.write r w
    ⟨result, r, w⟩

/-- A description of the writer. -/
def describe (x : LineWriter σ) : String :=
  let path := match x.path? with
    | some p => "Some(" ++ Text.Quoted.quote p ++ ")"
    | none => "None"
  "JsonLinesBackend \x7b name: " ++ Text.Quoted.quote x.name ++ ", path: " ++ path ++ ", .. \x7d"

end LineWriter

/-- The event that tells of a record. -/
def AuditRecord.event (r : AuditRecord) : AuditEvent :=
  { method := r.body.methodName, principal := r.body.principalEmail, logType := r.logType.name,
    entry := r.line }

/-- Delivers records as events. -/
def Processor.events {σ : Type} : Processor σ where
  name := "tracing"
  process _ r w := ⟨.ok (), r, { w with host.events := w.host.events ++ [r.event] }⟩

end CallAudit

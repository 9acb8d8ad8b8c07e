import CallAudit.Cancellation
import CallAudit.Host.FileSystem
import CallAudit.Sink

/-!
# The host

What an audit pipeline acts on: the files, the standard output, the events it emits, the files it has
open and the buffers in front of its sinks; and, in `World`, the cancellation tokens and whatever
state the users of the pipeline keep.

* `Host.output`, `Host.fileSink`: the sinks the host offers.
* `World`: everything that a call may change.
-/
namespace CallAudit

/-- An event on the audit channel of the log. -/
structure AuditEvent where
  method : String
  principal : String
  logType : String
  /-- the record in its written form -/
  entry : String
  deriving DecidableEq, Repr

/-- An open file: its place, and the failed write that is still to be reported. -/
structure Host.OpenFile where
  place : FileSystem.Place
  failed : Option IoError := none

/-- The state of the host. -/
structure Host where
  files : FileSystem
  /-- what the next writes to files come to; they succeed after the last -/
  writeResults : List (Option IoError) := []
  opened : List Host.OpenFile := []
  printed : List UInt8 := []
  events : List AuditEvent := []
  /-- what waits in front of each sink -/
  buffers : List (List UInt8) := []

namespace Host

/-- The most bytes that a file takes in one write. -/
def chunk : Nat := 2097152

/-- A write to an open file. The file takes a chunk at most. All of it reaches the disk or, if the write
fails, none of it; which it was shows at the next write or flush. -/
def writeFile (h : Host) (number : Nat) (bytes : List UInt8) : Except IoError Nat × Host :=
  match h.opened[number]? with
  | none => (.error .notFound, h)
  | some ⟨place, some e⟩ => (.error e, { h with opened := h.opened.set number ⟨place, none⟩ })
  | some ⟨place, none⟩ =>
    let taken := bytes.take chunk
    match h.writeResults with
    | some e :: later =>
      (.ok taken.length,
        { h with writeResults := later, opened := h.opened.set number ⟨place, some e⟩ })
    | written =>
      (.ok taken.length,
        { h with writeResults := written.tail, files := h.files.append place taken })

/-- A flush of an open file reports the failed write. -/
def flushFile (h : Host) (number : Nat) : Except IoError Unit × Host :=
  match h.opened[number]? with
  | some ⟨place, some e⟩ => (.error e, { h with opened := h.opened.set number ⟨place, none⟩ })
  | _ => (.ok (), h)

/-- The number of a new buffer. -/
def newBuffer (h : Host) : Nat × Host :=
  (h.buffers.length, { h with buffers := h.buffers ++ [[]] })

/-- The number of a newly opened file. -/
def newFile (h : Host) (place : FileSystem.Place) : Nat × Host :=
  (h.opened.length, { h with opened := h.opened ++ [⟨place, none⟩] })

end Host

/-- All that calls and processors may change. -/
structure World (σ : Type) where
  tokens : TokenForest := TokenForest.empty
  host : Host
  /-- what handlers, verifiers and processors of the user's own keep -/
  user : σ

namespace World

variable {σ : Type}

/-- The sink of the standard output. -/
def output : Sink (World σ) where
  write bytes w := (.ok bytes.length, { w with host.printed := w.host.printed ++ bytes })
  flush w := (.ok (), w)

/-- The sink of an open file. -/
def fileSink (number : Nat) : Sink (World σ) where
  write bytes w :=
    let (result, host) := w.host.writeFile number bytes
    (result, { w with host })
  flush w :=
    let (result, host) := w.host.flushFile number
    (result, { w with host })

/-- Runs a buffered step on a buffer of the host. -/
def buffered (number : Nat) (step : Buffered (World σ) → Except IoError Unit × Buffered (World σ))
    (w : World σ) : Except IoError Unit × World σ :=
  let (result, b) := step ⟨(w.host.buffers[number]?).getD [], w⟩
  (result, { b.state with host.buffers := b.state.host.buffers.set number b.pending })

end World

end CallAudit

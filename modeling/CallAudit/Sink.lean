import CallAudit.Host.IoError

/-!
# Buffered writing

A sink takes bytes, perhaps fewer than it is handed, or refuses. In front of it stands a buffer of fixed
capacity. Bytes that fit wait in the buffer; others make it drain first, and a load as large as the
buffer goes past it. A flush drains the buffer and then flushes the sink. Bytes the sink has not taken
stay in the buffer when a step fails.

* `drain`: empties the buffer into the sink.
* `writeAll`: hands over bytes.
* `writeLine`: hands over a line and flushes, so that its fate is known.
-/
namespace CallAudit

/-- Something that takes bytes, with a state. -/
structure Sink (ω : Type) where
  /-- takes some of the bytes from the front and says how many -/
  write : List UInt8 → ω → Except IoError Nat × ω
  flush : ω → Except IoError Unit × ω

/-- The bytes that wait in front of a sink, and the state of the sink. -/
structure Buffered (ω : Type) where
  pending : List UInt8
  state : ω

namespace Sink

variable {ω : Type}

/-- How many bytes the buffer holds. -/
def capacity : Nat := 8192

/-- Hands all waiting bytes to the sink. -/
def drain (s : Sink ω) (pending : List UInt8) (state : ω) : Except IoError Unit × Buffered ω :=
  if _ : pending = [] then (.ok (), ⟨[], state⟩)
  else match s.write pending state with
    | (.error e, state) => (.error e, ⟨pending, state⟩)
    | (.ok 0, state) => (.error .tookNothingBuffered, ⟨pending, state⟩)
    | (.ok (n + 1), state) => drain s (pending.drop (n + 1)) state
  termination_by pending.length
  decreasing_by
    have : 0 < pending.length := List.length_pos_iff.2 ‹¬ pending = []›
    rw [List.length_drop]; omega

/-- Hands bytes to an empty buffer: what is as large as the buffer goes to the sink. -/
def pass (s : Sink ω) (bytes : List UInt8) (state : ω) : Except IoError Unit × Buffered ω :=
  if _ : bytes.length < capacity then (.ok (), ⟨bytes, state⟩)
  else match s.write bytes state with
    | (.error e, state) => (.error e, ⟨[], state⟩)
    | (.ok 0, state) => (.error .tookNothing, ⟨[], state⟩)
    | (.ok (n + 1), state) => pass s (bytes.drop (n + 1)) state
  termination_by bytes.length
  decreasing_by
    have : ¬ bytes.length < capacity := ‹_›
    unfold capacity at this
    rw [List.length_drop]; omega

/-- Hands bytes to the buffer. -/
def writeAll (s : Sink ω) (bytes : List UInt8) (b : Buffered ω) : Except IoError Unit × Buffered ω :=
  if b.pending.length + bytes.length ≤ capacity ∧ bytes.length < capacity then
    (.ok (), { b with pending := b.pending ++ bytes })
  else match s.drain b.pending b.state with
    | (.error e, b) => (.error e, b)
    | (.ok (), b) => s.pass bytes b.state

/-- Drains the buffer and flushes the sink. -/
def flushAll (s : Sink ω) (b : Buffered ω) : Except IoError Unit × Buffered ω :=
  match s.drain b.pending b.state with
  | (.error e, b) => (.error e, b)
  | (.ok (), b) =>
    let (result, state) := s.flush b.state
    (result, { b with state })

/-- Hands over a line and flushes. -/
def writeLine (s : Sink ω) (line : List UInt8) (b : Buffered ω) : Except IoError Unit × Buffered ω :=
  match s.writeAll line b with
  | (.error e, b) => (.error e, b)
  | (.ok (), b) => s.flushAll b

end Sink

end CallAudit

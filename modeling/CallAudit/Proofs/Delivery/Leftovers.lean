import CallAudit.Proofs.Delivery.FileLines
import Mathlib.Data.List.Forall2

/-!
# What a failed line leaves behind

A writer stands in front of a sink of its user's own, which may take part of what it is handed, refuse,
or fail to flush, each as it likes, and recover. To see what reached it, the sink is made to note the
bytes it takes (`Sink.noting`); that changes nothing it does.

The bytes the sink took and then those that wait in the buffer are one stream. A call adds part of its
line at the end of the stream and nothing else, and the sink only ever takes what is next in it
(`Buffered.HandedOver`). So every byte has its place in the stream, and the call that handed it over is
known by the place.

**Result.** `LineWriter.process_late_iff`: a call succeeds only when the sink has its whole line and
nothing waits. A call that fails may leave its line waiting in the buffer, and then the next call that
succeeds writes it: the line comes late, although it was reported as failed. It does not come late when
none of it waits at the end of the call. `LineWriter.refused_line_comes_late` is such a late line, written
ahead of the line of the next call.

A step on the buffer (`drain_noting`, `pass_noting`, `writeAll_noting`, `flushAll_noting`) and a call
(`offered_act`) each do what `Buffered.Offered` says, and from that it follows for a run (`handedOver_run`,
`taken_of_ok`).
-/
namespace CallAudit

variable {σ ω ε : Type}

/-! ## The stream of bytes -/

/-- The sink, noting beside its state the bytes it has taken. -/
def Sink.noting (s : Sink ω) : Sink (ω × List UInt8) where
  write bytes state :=
    let (answer, own) := s.write bytes state.1
    let taken := match answer with
      | .ok n => bytes.take n
      | .error _ => []
    (answer, (own, state.2 ++ taken))
  flush state :=
    let (answer, own) := s.flush state.1
    (answer, (own, state.2))

namespace Buffered

variable {a b c d : Buffered (ω × List UInt8)}

/-- The bytes the sink has taken. -/
def taken (b : Buffered (ω × List UInt8)) : List UInt8 := b.state.2

/-- All bytes that were handed over: those the sink has taken, then those that wait. -/
def stream (b : Buffered (ω × List UInt8)) : List UInt8 := b.taken ++ b.pending

/-- Between `a` and `b` the bytes were added to the stream, and the sink took what was next in it. -/
structure HandedOver (bytes : List UInt8) (a b : Buffered (ω × List UInt8)) : Prop where
  taken : a.taken <+: b.taken
  stream : b.stream = a.stream ++ bytes

theorem HandedOver.refl (a : Buffered (ω × List UInt8)) : HandedOver [] a a :=
  ⟨List.prefix_rfl, (List.append_nil _).symm⟩

theorem HandedOver.trans {bytes more : List UInt8} (h : HandedOver bytes a b) (h' : HandedOver more b c) :
    HandedOver (bytes ++ more) a c :=
  ⟨h.taken.trans h'.taken, by rw [h'.stream, h.stream, List.append_assoc]⟩

theorem stream_of_pending_nil (h : b.pending = []) : b.stream = b.taken := by
  rw [stream, h, List.append_nil]

/-- What becomes of a line between `a` and `b`: a part of it is handed over. It is the whole line, and
nothing waits any more, if the result is a success. If it is not, then bytes wait only where nothing of
the line was handed over or all of it was. -/
structure Offered (line handed : List UInt8) (result : Except ε Unit) (a b : Buffered (ω × List UInt8)) :
    Prop extends HandedOver handed a b where
  part : handed <+: line
  ok : result = .ok () → handed = line ∧ b.pending = []
  left : handed = [] ∨ handed = line ∨ b.pending = []

/-- Some of what was handed over between `a` and `b` waits at `b`. -/
def Leaves (a b : Buffered (ω × List UInt8)) : Prop :=
  a.stream.length < b.stream.length ∧ b.pending ≠ []

/-- Some of what was handed over between `a` and `b` reaches the sink between `b` and `d`. -/
def Late (a b d : Buffered (ω × List UInt8)) : Prop :=
  ∃ place, a.stream.length ≤ place ∧ place < b.stream.length ∧
    b.taken.length ≤ place ∧ place < d.taken.length

theorem Late.leaves (h : Late a b d) : Leaves a b := by
  obtain ⟨place, hfrom, hto, hafter, -⟩ := h
  refine ⟨by omega, fun hp => ?_⟩
  rw [stream_of_pending_nil hp] at hto
  omega

theorem Leaves.late (h : Leaves a b) (hd : b.stream <+: d.taken) : Late a b d := by
  obtain ⟨hlt, hp⟩ := h
  have hwaits : b.stream.length = b.taken.length + b.pending.length := List.length_append
  have := List.length_pos_iff.2 hp
  have := hd.length_le
  exact ⟨b.stream.length - 1, by omega, by omega, by omega, by omega⟩

end Buffered

/-! ## Steps on the buffer -/

namespace Sink

open Buffered (HandedOver Offered)

theorem noting_write_error (s : Sink ω) (bytes : List UInt8) (state after : ω × List UInt8) (e : IoError)
    (h : s.noting.write bytes state = (.error e, after)) : after.2 = state.2 := by
  unfold noting at h
  rcases hw : s.write bytes state.1 with ⟨answer, own⟩
  simp only [hw, Prod.mk.injEq] at h
  obtain ⟨rfl, rfl⟩ := h
  exact List.append_nil _

theorem noting_write_ok (s : Sink ω) (bytes : List UInt8) (state after : ω × List UInt8) (n : Nat)
    (h : s.noting.write bytes state = (.ok n, after)) : after.2 = state.2 ++ bytes.take n := by
  unfold noting at h
  rcases hw : s.write bytes state.1 with ⟨answer, own⟩
  simp only [hw, Prod.mk.injEq] at h
  obtain ⟨rfl, rfl⟩ := h
  rfl

/-- A write that takes bytes from the front of what waits leaves the stream as it is. -/
theorem handedOver_write (s : Sink ω) (bytes : List UInt8) (state after : ω × List UInt8) (n : Nat)
    (h : s.noting.write bytes state = (.ok n, after)) :
    HandedOver [] ⟨bytes, state⟩ ⟨bytes.drop n, after⟩ := by
  have htaken := noting_write_ok s bytes state after n h
  constructor
  · rw [Buffered.taken, Buffered.taken, htaken]
    exact List.prefix_append _ _
  · simp only [Buffered.stream, Buffered.taken, htaken, List.append_assoc, List.take_append_drop,
      List.append_nil]

/-- Draining adds nothing to the stream. If it succeeds, nothing waits. -/
theorem drain_noting (s : Sink ω) (pending : List UInt8) (state : ω × List UInt8) :
    HandedOver [] ⟨pending, state⟩ (s.noting.drain pending state).2 ∧
      ((s.noting.drain pending state).1 = .ok () → (s.noting.drain pending state).2.pending = []) := by
  -- write by write: what the sink takes moves from the waiting bytes to the taken ones
  induction pending, state using Sink.drain.induct s.noting with
  | case1 state =>
    rw [drain_nil]
    exact ⟨.refl _, fun _ => rfl⟩
  | case2 pending state hne e after hw =>
    rw [drain, dif_neg hne, hw]
    refine ⟨⟨?_, ?_⟩, by rintro ⟨⟩⟩ <;>
      simp [Buffered.stream, Buffered.taken, noting_write_error s pending state after e hw]
  | case3 pending state hne after hw =>
    rw [drain, dif_neg hne, hw]
    exact ⟨by simpa using handedOver_write s pending state after 0 hw, by rintro ⟨⟩⟩
  | case4 pending state hne n after hw ih =>
    rw [drain, dif_neg hne, hw]
    exact ⟨(handedOver_write s pending state after (n + 1) hw).trans ih.1, ih.2⟩

/-- What is handed to an empty buffer is handed over entirely, or torn: a part of it is with the sink,
and the rest is gone. -/
theorem pass_noting (s : Sink ω) (bytes : List UInt8) (state : ω × List UInt8) :
    ∃ handed, handed <+: bytes ∧ HandedOver handed ⟨[], state⟩ (s.noting.pass bytes state).2 ∧
      ((s.noting.pass bytes state).1 = .ok () → handed = bytes) ∧
      (handed = bytes ∨ (s.noting.pass bytes state).2.pending = []) := by
  -- write by write: the bytes go past the buffer, and only a rest that fits stays in it
  induction bytes, state using Sink.pass.induct s.noting with
  | case1 bytes state hl =>
    rw [pass, dif_pos hl]
    exact ⟨bytes, List.prefix_rfl, ⟨List.prefix_rfl, by simp [Buffered.stream, Buffered.taken]⟩,
      fun _ => rfl, .inl rfl⟩
  | case2 bytes state hl e after hw =>
    rw [pass, dif_neg hl, hw]
    refine ⟨[], List.nil_prefix, ⟨?_, ?_⟩, (by rintro ⟨⟩), .inr rfl⟩ <;>
      simp [Buffered.stream, Buffered.taken, noting_write_error s bytes state after e hw]
  | case3 bytes state hl after hw =>
    rw [pass, dif_neg hl, hw]
    refine ⟨[], List.nil_prefix, ⟨?_, ?_⟩, (by rintro ⟨⟩), .inr rfl⟩ <;>
      simp [Buffered.stream, Buffered.taken, noting_write_ok s bytes state after 0 hw]
  | case4 bytes state hl n after hw ih =>
    rw [pass, dif_neg hl, hw]
    obtain ⟨handed, hpart, hover, hok, hleft⟩ := ih
    have htaken := noting_write_ok s bytes state after (n + 1) hw
    have hwrote : HandedOver (bytes.take (n + 1)) ⟨[], state⟩ ⟨[], after⟩ :=
      ⟨by simp [Buffered.taken, htaken], by simp [Buffered.stream, Buffered.taken, htaken]⟩
    have hall : handed = bytes.drop (n + 1) → bytes.take (n + 1) ++ handed = bytes := by
      rintro rfl
      exact List.take_append_drop _ _
    refine ⟨bytes.take (n + 1) ++ handed, ?_, hwrote.trans hover, fun h => hall (hok h),
      hleft.imp hall id⟩
    have := (List.prefix_append_right_inj (bytes.take (n + 1))).2 hpart
    rwa [List.take_append_drop] at this

/-- Bytes that go to the buffer are refused, torn, or handed over entirely. -/
theorem writeAll_noting (s : Sink ω) (bytes : List UInt8) (b : Buffered (ω × List UInt8)) :
    ∃ handed, handed <+: bytes ∧ HandedOver handed b (s.noting.writeAll bytes b).2 ∧
      ((s.noting.writeAll bytes b).1 = .ok () → handed = bytes) ∧
      (handed = [] ∨ handed = bytes ∨ (s.noting.writeAll bytes b).2.pending = []) := by
  unfold writeAll
  split
  · exact ⟨bytes, List.prefix_rfl, ⟨List.prefix_rfl, by simp [Buffered.stream, Buffered.taken]⟩,
      fun _ => rfl, .inr (.inl rfl)⟩
  · have hdrain := drain_noting s b.pending b.state
    rcases hd : s.noting.drain b.pending b.state with ⟨_ | _, drained⟩
    · rw [hd] at hdrain
      exact ⟨[], List.nil_prefix, hdrain.1, (by rintro ⟨⟩), .inl rfl⟩
    · -- the buffer is empty, and the bytes go past it
      rw [hd] at hdrain
      have hempty : drained = ⟨[], drained.state⟩ := by
        rw [← hdrain.2 rfl]
      obtain ⟨handed, hpart, hover, hok, hleft⟩ := pass_noting s bytes drained.state
      rw [← hempty] at hover
      exact ⟨handed, hpart, hdrain.1.trans hover, hok, .inr hleft⟩

/-- A flush adds nothing to the stream. If it succeeds, nothing waits. -/
theorem flushAll_noting (s : Sink ω) (b : Buffered (ω × List UInt8)) :
    Offered [] [] (s.noting.flushAll b).1 b (s.noting.flushAll b).2 := by
  have hdrain := drain_noting s b.pending b.state
  unfold flushAll
  rcases hd : s.noting.drain b.pending b.state with ⟨_ | _, drained⟩
  · rw [hd] at hdrain
    exact ⟨hdrain.1, List.prefix_rfl, (by rintro ⟨⟩), .inl rfl⟩
  · rw [hd] at hdrain
    exact ⟨⟨hdrain.1.taken, hdrain.1.stream⟩, List.prefix_rfl, fun _ => ⟨rfl, hdrain.2 rfl⟩, .inl rfl⟩

theorem writeLine_noting (s : Sink ω) (line : List UInt8) (b : Buffered (ω × List UInt8)) :
    ∃ handed, Offered line handed (s.noting.writeLine line b).1 b (s.noting.writeLine line b).2 := by
  obtain ⟨handed, hpart, hover, hok, hleft⟩ := writeAll_noting s line b
  unfold writeLine
  rcases hw : s.noting.writeAll line b with ⟨_ | _, written⟩
  · rw [hw] at hover hleft
    exact ⟨handed, hover, hpart, (by rintro ⟨⟩), hleft⟩
  · rw [hw] at hover hok
    obtain rfl := hok rfl
    have hflush := flushAll_noting s written
    have hboth := hover.trans hflush.toHandedOver
    rw [List.append_nil] at hboth
    exact ⟨handed, hboth, List.prefix_rfl, fun h => ⟨rfl, (hflush.ok h).2⟩, .inr (.inl rfl)⟩

/-- A line that fits in the buffer waits there for the flush. -/
theorem writeLine_of_fits (s : Sink ω) (line : List UInt8) (b : Buffered ω)
    (hfits : b.pending.length + line.length < capacity) :
    s.writeLine line b = s.flushAll ⟨b.pending ++ line, b.state⟩ := by
  rw [writeLine, writeAll, if_pos ⟨Nat.le_of_lt hfits, by omega⟩]

/-- A sink that refuses its first write and then takes everything. -/
def refusingOnce : Sink Bool where
  write bytes willing := (if willing then .ok bytes.length else .error (.device "disk gone"), true)
  flush willing := (.ok (), willing)

theorem refusingOnce_refuses (line : List UInt8) (hne : line ≠ []) (hfits : line.length < capacity) :
    refusingOnce.noting.writeLine line ⟨[], (false, [])⟩ =
      (.error (.device "disk gone"), ⟨line, (true, [])⟩) := by
  rw [writeLine_of_fits _ _ _ (by simpa using hfits), flushAll, drain, List.nil_append, dif_neg hne]
  rfl

theorem refusingOnce_takes (pending line taken : List UInt8) (hne : pending ≠ [])
    (hfits : pending.length + line.length < capacity) :
    refusingOnce.noting.writeLine line ⟨pending, (true, taken)⟩ =
      (.ok (), ⟨[], (true, taken ++ (pending ++ line))⟩) := by
  have hwrite : refusingOnce.noting.write (pending ++ line) (true, taken) =
      (.ok (pending ++ line).length, (true, taken ++ (pending ++ line))) := by
    simp only [noting, refusingOnce, if_true, List.take_length]
  rw [writeLine_of_fits _ _ _ hfits, flushAll,
    drain_of_taken _ _ _ _ (by simp [hne]) hwrite]
  rfl

end Sink

/-! ## Sinks of the user's own -/

namespace World

/-- A sink in a pipeline that is its user's own: it sees and changes their state alone. -/
def userSink (s : Sink σ) : Sink (World σ) where
  write bytes w :=
    let (answer, user) := s.write bytes w.user
    (answer, { w with user })
  flush w :=
    let (answer, user) := s.flush w.user
    (answer, { w with user })

/-- What a step on a buffer comes to in the world, where the sink is the user's own. -/
def settle (w : World σ) (step : Except IoError Unit × Buffered σ) :
    Except IoError Unit × Buffered (World σ) :=
  (step.1, ⟨step.2.pending, { w with user := step.2.state }⟩)

variable (s : Sink σ) (bytes : List UInt8) (w : World σ)

theorem write_userSink (answer : Except IoError Nat) (after : World σ)
    (h : (userSink s).write bytes w = (answer, after)) :
    ∃ user, s.write bytes w.user = (answer, user) ∧ after = { w with user } := by
  rcases hw : s.write bytes w.user with ⟨_, user⟩
  simp only [userSink, hw, Prod.mk.injEq] at h
  obtain ⟨rfl, rfl⟩ := h
  exact ⟨user, rfl, rfl⟩

theorem drain_userSink : (userSink s).drain bytes w = w.settle (s.drain bytes w.user) := by
  induction bytes, w using Sink.drain.induct (userSink s) with
  | case1 w => simp only [Sink.drain_nil, settle]
  | case2 bytes w hne e after hw =>
    obtain ⟨user, hown, rfl⟩ := write_userSink s bytes w _ after hw
    rw [Sink.drain, Sink.drain, dif_neg hne, dif_neg hne, hw, hown]
    rfl
  | case3 bytes w hne after hw =>
    obtain ⟨user, hown, rfl⟩ := write_userSink s bytes w _ after hw
    rw [Sink.drain, Sink.drain, dif_neg hne, dif_neg hne, hw, hown]
    rfl
  | case4 bytes w hne n after hw ih =>
    obtain ⟨user, hown, rfl⟩ := write_userSink s bytes w _ after hw
    rw [Sink.drain, Sink.drain, dif_neg hne, dif_neg hne, hw, hown]
    exact ih

theorem pass_userSink : (userSink s).pass bytes w = w.settle (s.pass bytes w.user) := by
  induction bytes, w using Sink.pass.induct (userSink s) with
  | case1 bytes w hl => rw [Sink.pass, Sink.pass, dif_pos hl, dif_pos hl, settle]
  | case2 bytes w hl e after hw =>
    obtain ⟨user, hown, rfl⟩ := write_userSink s bytes w _ after hw
    rw [Sink.pass, Sink.pass, dif_neg hl, dif_neg hl, hw, hown]
    rfl
  | case3 bytes w hl after hw =>
    obtain ⟨user, hown, rfl⟩ := write_userSink s bytes w _ after hw
    rw [Sink.pass, Sink.pass, dif_neg hl, dif_neg hl, hw, hown]
    rfl
  | case4 bytes w hl n after hw ih =>
    obtain ⟨user, hown, rfl⟩ := write_userSink s bytes w _ after hw
    rw [Sink.pass, Sink.pass, dif_neg hl, dif_neg hl, hw, hown]
    exact ih

variable (pending : List UInt8)

theorem writeAll_userSink :
    (userSink s).writeAll bytes ⟨pending, w⟩ = w.settle (s.writeAll bytes ⟨pending, w.user⟩) := by
  simp only [Sink.writeAll, drain_userSink]
  split
  · rfl
  · rcases s.drain pending w.user with ⟨_ | _, drained⟩
    · rfl
    · exact pass_userSink s bytes _

theorem flushAll_userSink :
    (userSink s).flushAll ⟨pending, w⟩ = w.settle (s.flushAll ⟨pending, w.user⟩) := by
  simp only [Sink.flushAll, drain_userSink]
  rcases s.drain pending w.user with ⟨_ | _, drained⟩ <;> rfl

theorem writeLine_userSink :
    (userSink s).writeLine bytes ⟨pending, w⟩ = w.settle (s.writeLine bytes ⟨pending, w.user⟩) := by
  simp only [Sink.writeLine, writeAll_userSink]
  rcases s.writeAll bytes ⟨pending, w.user⟩ with ⟨_ | _, written⟩
  · rfl
  · exact flushAll_userSink s _ written.pending

end World

/-! ## Calls of a writer -/

namespace LineWriter

open Buffered (HandedOver Offered Late Leaves)

/-- A call of a writer. -/
inductive Act where
  | process (ctx : CallContext) (r : AuditRecord)
  | stop

/-- The line a call has to deliver. To stop delivers none. -/
def Act.line : Act → List UInt8
  | .process _ r => r.lineBytes
  | .stop => []

/-- What a call answers, and the world after it. -/
def act (x : LineWriter σ) : Act → World σ → Except ProcessorError Unit × World σ
  | .process ctx r, w =>
    let t := x.processor.process ctx r w
    (t.result, t.world)
  | .stop, w => x.stop w

/-- What one call after the other answers, and the world after them. -/
def run (x : LineWriter σ) : List Act → World σ → List (Except ProcessorError Unit) × World σ
  | [], w => ([], w)
  | call :: later, w =>
    let (answer, after) := x.act call w
    let (answers, last) := x.run later after
    (answer :: answers, last)

/-- The buffer in front of the writer's sink, and the sink's state. -/
def front (x : LineWriter σ) (w : World σ) : Buffered σ :=
  ⟨(w.host.buffers[x.buffer]?).getD [], w.user⟩

/-- The writer's sink is its user's own and notes what it takes, and the writer has a buffer. -/
structure Noting (x : LineWriter (σ × List UInt8)) (sink : Sink σ) (w : World (σ × List UInt8)) :
    Prop where
  sink : x.sink = World.userSink sink.noting
  buffer : x.buffer < w.host.buffers.length

theorem Noting.buffered {x : LineWriter (σ × List UInt8)} {sink : Sink σ} {w : World (σ × List UInt8)}
    (h : x.Noting sink w) (step : Except IoError Unit × Buffered (σ × List UInt8))
    (f : Buffered (World (σ × List UInt8)) → Except IoError Unit × Buffered (World (σ × List UInt8)))
    (hf : f ⟨(x.front w).pending, w⟩ = w.settle step) :
    let (result, after) := World.buffered x.buffer f w
    x.Noting sink after ∧ result = step.1 ∧ x.front after = step.2 := by
  rw [front] at hf
  simp only [World.buffered, hf, World.settle, true_and]
  refine ⟨⟨h.sink, by simpa using h.buffer⟩, ?_⟩
  simp only [front, List.getElem?_set_self h.buffer, Option.getD_some]

theorem ok_of_outcome (result : Except IoError Unit) (h : outcome result = .ok ()) :
    result = .ok () := by
  cases result with
  | ok => rfl
  | error e => cases h

theorem process_noting (x : LineWriter (σ × List UInt8)) (sink : Sink σ) (w : World (σ × List UInt8))
    (h : x.Noting sink w) (ctx : CallContext) (r : AuditRecord) :
    let t := x.processor.process ctx r w
    let step := sink.noting.writeLine r.lineBytes (x.front w)
    x.Noting sink t.world ∧ t.result = outcome step.1 ∧ x.front t.world = step.2 := by
  have hline : x.sink.writeLine r.lineBytes ⟨(x.front w).pending, w⟩ =
      w.settle (sink.noting.writeLine r.lineBytes (x.front w)) := by
    rw [h.sink]
    exact World.writeLine_userSink _ _ _ _
  obtain ⟨hnoting, hresult, hfront⟩ := h.buffered _ _ hline
  exact ⟨hnoting, congrArg outcome hresult, hfront⟩

theorem stop_noting (x : LineWriter (σ × List UInt8)) (sink : Sink σ) (w : World (σ × List UInt8))
    (h : x.Noting sink w) :
    let step := sink.noting.flushAll (x.front w)
    x.Noting sink (x.stop w).2 ∧ (x.stop w).1 = outcome step.1 ∧ x.front (x.stop w).2 = step.2 := by
  have hflush : x.sink.flushAll ⟨(x.front w).pending, w⟩ =
      w.settle (sink.noting.flushAll (x.front w)) := by
    rw [h.sink]
    exact World.flushAll_userSink _ _ _
  obtain ⟨hnoting, hresult, hfront⟩ := h.buffered _ _ hflush
  exact ⟨hnoting, congrArg outcome hresult, hfront⟩

/-- A call offers its line to the buffer. -/
theorem offered_act (x : LineWriter (σ × List UInt8)) (sink : Sink σ) (w : World (σ × List UInt8))
    (h : x.Noting sink w) (call : Act) :
    x.Noting sink (x.act call w).2 ∧
      ∃ handed, Offered call.line handed (x.act call w).1 (x.front w) (x.front (x.act call w).2) := by
  cases call with
  | process ctx r =>
    obtain ⟨hnoting, hanswer, hfront⟩ := x.process_noting sink w h ctx r
    obtain ⟨handed, hoffered⟩ := Sink.writeLine_noting sink r.lineBytes (x.front w)
    refine ⟨hnoting, handed, ?_⟩
    simp only [act, Act.line, hanswer, hfront]
    exact { hoffered with ok := fun h => hoffered.ok (ok_of_outcome _ h) }
  | stop =>
    obtain ⟨hnoting, hanswer, hfront⟩ := x.stop_noting sink w h
    have hoffered := Sink.flushAll_noting sink (x.front w)
    refine ⟨hnoting, [], ?_⟩
    simp only [act, Act.line, hanswer, hfront]
    exact { hoffered with ok := fun h => hoffered.ok (ok_of_outcome _ h) }

/-- Any calls hand over parts of their lines, in the order of the calls. -/
theorem handedOver_run (x : LineWriter (σ × List UInt8)) (sink : Sink σ) (calls : List Act)
    (w : World (σ × List UInt8)) (h : x.Noting sink w) :
    x.Noting sink (x.run calls w).2 ∧
      ∃ parts, List.Forall₂ (fun part call => part <+: Act.line call) parts calls ∧
        HandedOver parts.flatten (x.front w) (x.front (x.run calls w).2) := by
  induction calls generalizing w with
  | nil => exact ⟨h, [], .nil, .refl _⟩
  | cons call later ih =>
    obtain ⟨hnoting, handed, hoffered⟩ := x.offered_act sink w h call
    obtain ⟨hlast, parts, hparts, hover⟩ := ih _ hnoting
    exact ⟨hlast, handed :: parts, .cons hoffered.part hparts, hoffered.toHandedOver.trans hover⟩

/-- Once a call succeeds, the sink has all that was handed over before. -/
theorem taken_of_ok (x : LineWriter (σ × List UInt8)) (sink : Sink σ) (calls : List Act)
    (w : World (σ × List UInt8)) (h : x.Noting sink w) (hok : .ok () ∈ (x.run calls w).1) :
    (x.front w).stream <+: (x.front (x.run calls w).2).taken := by
  induction calls generalizing w with
  | nil => cases hok
  | cons call later ih =>
    obtain ⟨hnoting, handed, hoffered⟩ := x.offered_act sink w h call
    have hgrows : (x.front w).stream <+: (x.front (x.act call w).2).stream :=
      hoffered.stream ▸ List.prefix_append _ _
    rcases List.mem_cons.1 hok with hanswer | hlater
    · rw [Buffered.stream_of_pending_nil (hoffered.ok hanswer.symm).2] at hgrows
      obtain ⟨-, parts, -, hover⟩ := x.handedOver_run sink later _ hnoting
      exact hgrows.trans hover.taken
    · exact hgrows.trans (ih _ hnoting hlater)

theorem noting_new (name : String) (sink : Sink σ) (w : World (σ × List UInt8)) :
    (new name (World.userSink sink.noting) w).1.Noting sink
      (new name (World.userSink sink.noting) w).2 :=
  ⟨rfl, by simp [new, Host.newBuffer]⟩

/-- **Which failed lines come late.** For every sink, whichever of its writes take part of the bytes or
fail and whichever of its flushes fail, and for every process and stop call before and after: a record is
processed with success only when the sink has its whole line, behind all that was handed over before, and
nothing waits. If it fails, what was handed over of its line is nothing, a part with the rest gone, or all
of it. Later calls add parts of their own lines behind that, so a byte of the line that reaches the sink
later is one that waited in the buffer; and if bytes of the line wait there, then they do reach the sink
as soon as a later call succeeds, ahead of the line of that call. -/
theorem process_late_iff (name : String) (sink : Sink σ) (w : World (σ × List UInt8))
    (before later : List Act) (ctx : CallContext) (r : AuditRecord) :
    let opened := new name (World.userSink sink.noting) w
    let x := opened.1
    let found := (x.run before opened.2).2
    let t := x.processor.process ctx r found
    let last := x.run later t.world
    (t.result = .ok () →
      (x.front t.world).taken = (x.front found).stream ++ r.lineBytes ∧
        (x.front t.world).pending = []) ∧
    (∃ handed, Offered r.lineBytes handed t.result (x.front found) (x.front t.world)) ∧
    (∃ parts, List.Forall₂ (fun part call => part <+: Act.line call) parts later ∧
      HandedOver parts.flatten (x.front t.world) (x.front last.2)) ∧
    (Late (x.front found) (x.front t.world) (x.front last.2) →
      Leaves (x.front found) (x.front t.world)) ∧
    (.ok () ∈ last.1 →
      (x.front t.world).stream <+: (x.front last.2).taken ∧
        (Late (x.front found) (x.front t.world) (x.front last.2) ↔
          Leaves (x.front found) (x.front t.world))) := by
  intro opened x found t last
  have hfound : x.Noting sink found := (x.handedOver_run sink before _ (noting_new name sink w)).1
  obtain ⟨hleft, handed, hoffered⟩ : x.Noting sink t.world ∧
      ∃ handed, Offered r.lineBytes handed t.result (x.front found) (x.front t.world) :=
    x.offered_act sink found hfound (.process ctx r)
  refine ⟨fun hok => ?_, ⟨handed, hoffered⟩, (x.handedOver_run sink later t.world hleft).2,
    Buffered.Late.leaves, fun hok => ?_⟩
  · obtain ⟨hall, hnone⟩ := hoffered.ok hok
    refine ⟨?_, hnone⟩
    rw [← Buffered.stream_of_pending_nil hnone, ← hall]
    exact hoffered.stream
  · have htaken := x.taken_of_ok sink later t.world hleft hok
    exact ⟨htaken, Buffered.Late.leaves, fun h => h.late htaken⟩

/-- The first line is refused and reported as failed. The second succeeds, and the sink has both. -/
theorem refused_line_comes_late :
    let w : World (Bool × List UInt8) := { host := { files := ⟨fun _ => none, []⟩ }, user := (false, []) }
    let opened := new "mem" (World.userSink Sink.refusingOnce.noting) w
    let x := opened.1
    let ctx : CallContext := ⟨none, ⟨0⟩⟩
    let first := AuditRecord.new "a" { day := 19000, second := 60, nanos := 1 }
    let second := AuditRecord.new "b" { day := 19000, second := 60, nanos := 1 }
    let t := x.processor.process ctx first opened.2
    let u := x.processor.process ctx second t.world
    t.result = .error (.io (.device "disk gone")) ∧ (x.front t.world).taken = [] ∧
      u.result = .ok () ∧ (x.front u.world).taken = first.lineBytes ++ second.lineBytes ∧
      Late (x.front opened.2) (x.front t.world) (x.front u.world) := by
  intro w opened x ctx first second t u
  have hfits : first.lineBytes.length + second.lineBytes.length < Sink.capacity := by decide +kernel
  have hne : first.lineBytes ≠ [] := by simp [AuditRecord.lineBytes]
  have hnoting : x.Noting Sink.refusingOnce opened.2 := noting_new "mem" Sink.refusingOnce w
  have hopened : x.front opened.2 = ⟨[], (false, [])⟩ := rfl
  -- the first line waits in front of the sink
  obtain ⟨hnoting', hfailed, hwaits⟩ := x.process_noting _ opened.2 hnoting ctx first
  rw [hopened, Sink.refusingOnce_refuses _ hne (by omega)] at hfailed hwaits
  -- the second goes behind it, and the flush hands over both
  obtain ⟨-, hsucceeded, hempty⟩ := x.process_noting _ t.world hnoting' ctx second
  rw [hwaits, Sink.refusingOnce_takes _ _ _ hne hfits, List.nil_append] at hsucceeded hempty
  have htaken : (x.front u.world).taken = first.lineBytes ++ second.lineBytes := by
    rw [hempty]
    rfl
  refine ⟨hfailed, by rw [hwaits]; rfl, hsucceeded, htaken, Buffered.Leaves.late ?_ ?_⟩
  · rw [hopened, hwaits]
    exact ⟨List.length_pos_iff.2 hne, hne⟩
  · rw [hwaits, htaken]
    exact List.prefix_append _ _

end LineWriter

end CallAudit

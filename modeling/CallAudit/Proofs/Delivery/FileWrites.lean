import CallAudit.Proofs.Delivery.Places

/-!
# Writes to an open file

A file takes a chunk at most in one write, and a write that failed is reported by the next write or by
the flush. So a line goes through the buffer in one write or in several, and one of them may fail while
others before it took effect.

Results:
* `World.fileWritten`: what writes leave: bytes at the end of the file, and a failure still to be
  reported.
* `World.settled_writeLine`: a line is at the end of the file, or its writer says why not, and then its
  front is there at most.
* `World.writeLine_of_chunk`: of a line of one chunk nothing is left when its write failed.
* `World.writeLine_of_second_lost`: of a longer line the first chunk is left when the second fails.
* `World.keeps_fileWritten`: whatever steps go through the buffer, writes are all they do.
-/
namespace CallAudit

variable {σ : Type}

namespace Sink

variable {ω : Type}

theorem drain_nil (s : Sink ω) (state : ω) : s.drain [] state = (.ok (), ⟨[], state⟩) := by
  rw [drain]
  simp

/-- A step that empties the buffer leaves nothing waiting. -/
theorem pending_of_drain_ok (s : Sink ω) (pending : List UInt8) (state : ω) :
    (s.drain pending state).1 = .ok () → (s.drain pending state).2.pending = [] := by
  induction pending, state using Sink.drain.induct s with
  | case1 state => simp only [drain_nil, implies_true]
  | case2 pending state hne e after hw | case3 pending state hne after hw =>
    rw [drain, dif_neg hne, hw]
    rintro ⟨⟩
  | case4 pending state hne n after hw ih =>
    rw [drain, dif_neg hne, hw]
    exact ih

/-! ## A sink that takes everything -/

/-- Bytes that the sink takes at once leave nothing behind. -/
theorem drain_of_taken (s : Sink ω) (bytes : List UInt8) (state after : ω) (hne : bytes ≠ [])
    (hw : s.write bytes state = (.ok bytes.length, after)) :
    s.drain bytes state = (.ok (), ⟨[], after⟩) := by
  obtain ⟨n, hn⟩ : ∃ n, bytes.length = n + 1 :=
    Nat.exists_eq_succ_of_ne_zero (by simpa using hne)
  rw [drain, dif_neg hne, hw]
  simp only [hn]
  rw [← hn, List.drop_length, drain]
  simp

theorem pass_of_taken (s : Sink ω) (bytes : List UInt8) (state after : ω)
    (hl : ¬ bytes.length < capacity) (hw : s.write bytes state = (.ok bytes.length, after)) :
    s.pass bytes state = (.ok (), ⟨[], after⟩) := by
  obtain ⟨n, hn⟩ : ∃ n, bytes.length = n + 1 :=
    Nat.exists_eq_succ_of_ne_zero (by rintro h; simp [h, capacity] at hl)
  rw [pass, dif_neg hl, hw]
  simp only [hn]
  rw [← hn, List.drop_length, pass]
  simp [capacity]

/-- A line that the sink takes at once is handed over entirely, by way of the buffer or past it, and the
flush says what came of it. -/
theorem writeLine_of_taken (s : Sink ω) (line : List UInt8) (state taken after : ω)
    (result : Except IoError Unit) (hne : line ≠ [])
    (hw : s.write line state = (.ok line.length, taken)) (hf : s.flush taken = (result, after)) :
    s.writeLine line ⟨[], state⟩ = (result, ⟨[], after⟩) := by
  unfold writeLine writeAll
  by_cases hl : line.length < capacity
  · -- the line fits, and the flush drains it
    rw [if_pos ⟨by simp only [List.length_nil]; omega, hl⟩]
    simp only [flushAll, List.nil_append, drain_of_taken s line state taken hne hw, hf]
  · -- the line goes past the empty buffer, and the flush finds nothing to drain
    rw [if_neg (fun h => hl h.2)]
    simp only [drain_nil, pass_of_taken s line state taken hl hw, flushAll, hf]

/-! ## What every write and flush keeps -/

/-- The sink's writes and flushes keep `P`. -/
structure Keeps (s : Sink ω) (P : ω → Prop) : Prop where
  write : ∀ bytes state, P state → P (s.write bytes state).2
  flush : ∀ state, P state → P (s.flush state).2

namespace Keeps

variable {s : Sink ω} {P : ω → Prop}

theorem drain (h : s.Keeps P) (pending : List UInt8) (state : ω) (hp : P state) :
    P (s.drain pending state).2.state := by
  induction pending, state using Sink.drain.induct s with
  | case1 state => simpa only [drain_nil] using hp
  | case2 pending state hne e after hw | case3 pending state hne after hw =>
    have hafter := h.write pending state hp
    rw [Sink.drain, dif_neg hne]
    rw [hw] at hafter ⊢
    exact hafter
  | case4 pending state hne n after hw ih =>
    have hafter := h.write pending state hp
    rw [Sink.drain, dif_neg hne]
    rw [hw] at hafter ⊢
    exact ih hafter

theorem pass (h : s.Keeps P) (bytes : List UInt8) (state : ω) (hp : P state) :
    P (s.pass bytes state).2.state := by
  induction bytes, state using Sink.pass.induct s with
  | case1 bytes state hl => rwa [Sink.pass, dif_pos hl]
  | case2 bytes state hl e after hw | case3 bytes state hl after hw =>
    have hafter := h.write bytes state hp
    rw [Sink.pass, dif_neg hl]
    rw [hw] at hafter ⊢
    exact hafter
  | case4 bytes state hl n after hw ih =>
    have hafter := h.write bytes state hp
    rw [Sink.pass, dif_neg hl]
    rw [hw] at hafter ⊢
    exact ih hafter

theorem writeAll (h : s.Keeps P) (bytes : List UInt8) (b : Buffered ω) (hp : P b.state) :
    P (s.writeAll bytes b).2.state := by
  unfold Sink.writeAll
  split
  · exact hp
  · have hdrain := h.drain b.pending b.state hp
    split
    · rename_i heq
      rwa [heq] at hdrain
    · rename_i heq
      rw [heq] at hdrain
      exact h.pass bytes _ hdrain

theorem flushAll (h : s.Keeps P) (b : Buffered ω) (hp : P b.state) : P (s.flushAll b).2.state := by
  have hdrain := h.drain b.pending b.state hp
  unfold Sink.flushAll
  split
  · rename_i heq
    rwa [heq] at hdrain
  · rename_i heq
    rw [heq] at hdrain
    exact h.flush _ hdrain

theorem writeLine (h : s.Keeps P) (line : List UInt8) (b : Buffered ω) (hp : P b.state) :
    P (s.writeLine line b).2.state := by
  have hall := h.writeAll line b hp
  unfold Sink.writeLine
  split
  · rename_i heq
    rwa [heq] at hall
  · rename_i heq
    rw [heq] at hall
    exact h.flushAll _ hall

end Keeps

end Sink

/-! ## Writes to an open file -/

namespace World

/-- The open file `number` stands at `place`, and `failed` of it is still to be reported. -/
structure FileOpen (number : Nat) (place : FileSystem.Place) (failed : Option IoError) (w : World σ) :
    Prop where
  opened : w.host.opened[number]? = some ⟨place, failed⟩
  file : ∃ content, w.host.files.node? place = some (.file content)

/-- The world after `used` writes to the open file `number` at `place`: `bytes` are at the end of the
file, and `failed` is still to be reported. -/
def fileWritten (number : Nat) (place : FileSystem.Place) (bytes : List UInt8) (used : Nat)
    (failed : Option IoError) (w : World σ) : World σ :=
  { w with host := { w.host with
      writeResults := w.host.writeResults.drop used
      opened := w.host.opened.set number ⟨place, failed⟩
      files := w.host.files.append place bytes } }

variable {number : Nat} {place : FileSystem.Place} {failed : Option IoError} {w : World σ}

theorem set_of_getElem? {α : Type} (as : List α) (i : Nat) (a : α) (h : as[i]? = some a) :
    as.set i a = as := by
  obtain ⟨hi, rfl⟩ := List.getElem?_eq_some_iff.1 h
  exact List.set_getElem_self hi

theorem FileOpen.fileWritten_nil (h : w.FileOpen number place failed) :
    w.fileWritten number place [] 0 failed = w := by
  obtain ⟨content, hfile⟩ := h.file
  simp only [fileWritten, List.drop_zero, set_of_getElem? _ _ _ h.opened,
    FileSystem.append_nil _ _ _ hfile]

theorem FileOpen.fileWritten (h : w.FileOpen number place failed) (bytes : List UInt8) (used : Nat)
    (failed' : Option IoError) :
    (w.fileWritten number place bytes used failed').FileOpen number place failed' :=
  ⟨List.getElem?_set_self (List.getElem?_eq_some_iff.1 h.opened).1,
    _, (FileSystem.node?_append _ _ _ _).trans (if_pos rfl)⟩

theorem fileWritten_fileWritten (bytes more : List UInt8) (used used' : Nat)
    (failed failed' : Option IoError) (w : World σ) :
    (w.fileWritten number place bytes used failed).fileWritten number place more used' failed' =
      w.fileWritten number place (bytes ++ more) (used + used') failed' := by
  simp only [fileWritten, List.drop_drop, List.set_set, FileSystem.append_append]

/-- A failure is reported once, by the next write. -/
theorem write_of_failed (e : IoError) (bytes : List UInt8) (h : w.FileOpen number place (some e)) :
    (fileSink number).write bytes w = (.error e, w.fileWritten number place [] 0 none) := by
  obtain ⟨content, hfile⟩ := h.file
  simp only [fileSink, Host.writeFile, h.opened, fileWritten, List.drop_zero,
    FileSystem.append_nil _ _ _ hfile]

/-- A failure is reported once, by the next flush. -/
theorem flush_of_failed (e : IoError) (h : w.FileOpen number place (some e)) :
    (fileSink number).flush w = (.error e, w.fileWritten number place [] 0 none) := by
  obtain ⟨content, hfile⟩ := h.file
  simp only [fileSink, Host.flushFile, h.opened, fileWritten, List.drop_zero,
    FileSystem.append_nil _ _ _ hfile]

theorem flush_of_open (h : w.FileOpen number place none) : (fileSink number).flush w = (.ok (), w) := by
  simp only [fileSink, Host.flushFile, h.opened]

/-- A write that fails takes the bytes all the same. -/
theorem write_lost (e : IoError) (later : List (Option IoError)) (bytes : List UInt8)
    (h : w.FileOpen number place none) (hw : w.host.writeResults = some e :: later) :
    (fileSink number).write bytes w =
      (.ok (bytes.take Host.chunk).length, w.fileWritten number place [] 1 (some e)) := by
  obtain ⟨content, hfile⟩ := h.file
  simp only [fileSink, Host.writeFile, h.opened, hw, fileWritten, List.drop_one, List.tail_cons,
    FileSystem.append_nil _ _ _ hfile]

theorem write_taken (bytes : List UInt8) (h : w.FileOpen number place none)
    (hw : ∀ e later, w.host.writeResults ≠ some e :: later) :
    (fileSink number).write bytes w = (.ok (bytes.take Host.chunk).length,
      w.fileWritten number place (bytes.take Host.chunk) 1 none) := by
  have hopened := set_of_getElem? _ _ _ h.opened
  rcases hres : w.host.writeResults with _ | ⟨_ | e, later⟩
  · simp only [fileSink, Host.writeFile, h.opened, hres, fileWritten, hopened, List.tail_nil, List.drop_nil]
  · simp only [fileSink, Host.writeFile, h.opened, hres, fileWritten, hopened, List.tail_cons, List.drop_one]
  · exact absurd hres (hw e later)

/-- A chunk of the bytes is at the end of the file, or lost, which is still to be reported. -/
theorem write_of_open (bytes : List UInt8) (h : w.FileOpen number place none) :
    (fileSink number).write bytes w = (.ok (bytes.take Host.chunk).length,
        w.fileWritten number place (bytes.take Host.chunk) 1 none) ∨
      ∃ e, some e ∈ w.host.writeResults ∧ (fileSink number).write bytes w =
        (.ok (bytes.take Host.chunk).length, w.fileWritten number place [] 1 (some e)) := by
  by_cases hw : ∃ e later, w.host.writeResults = some e :: later
  · obtain ⟨e, later, hw⟩ := hw
    exact .inr ⟨e, by simp [hw], write_lost e later bytes h hw⟩
  · exact .inl (write_taken bytes h fun e later he => hw ⟨e, later, he⟩)

/-- The open file `number` at `place` was written to since `w`. -/
def FileWritten (number : Nat) (place : FileSystem.Place) (w w' : World σ) : Prop :=
  ∃ bytes used failed, w' = w.fileWritten number place bytes used failed

/-- Whatever a step does, what it does to the file are writes. -/
theorem keeps_fileWritten (h : w.FileOpen number place failed) :
    (fileSink number).Keeps (w.FileWritten number place) := by
  constructor
  · rintro bytes _ ⟨before, used, failed', rfl⟩
    have hopen := h.fileWritten before used failed'
    cases failed' with
    | some e =>
      rw [write_of_failed e bytes hopen, fileWritten_fileWritten]
      exact ⟨_, _, _, rfl⟩
    | none =>
      rcases write_of_open bytes hopen with hw | ⟨e, -, hw⟩ <;> rw [hw, fileWritten_fileWritten] <;>
        exact ⟨_, _, _, rfl⟩
  · rintro _ ⟨before, used, failed', rfl⟩
    have hopen := h.fileWritten before used failed'
    cases failed' with
    | some e =>
      rw [flush_of_failed e hopen, fileWritten_fileWritten]
      exact ⟨_, _, _, rfl⟩
    | none =>
      rw [flush_of_open hopen]
      exact ⟨_, _, _, rfl⟩

/-! ## Bytes in several writes -/

/-- The step reports the failure `e`, which was still to be reported in the world `lost`, or leaves it to
be reported. -/
def Reports (number : Nat) (place : FileSystem.Place) (e : IoError) (lost : World σ)
    (step : Except IoError Unit × Buffered (World σ)) : Prop :=
  (step.1 = .error e ∧ step.2.state = lost.fileWritten number place [] 0 none) ∨
    step.1 = .ok () ∧ step.2.state = lost

/-- A write failed: the front of the bytes is at the end of the file, and the step reports the failure or
leaves it to be reported. -/
def Torn (number : Nat) (place : FileSystem.Place) (bytes : List UInt8) (w : World σ)
    (step : Except IoError Unit × Buffered (World σ)) : Prop :=
  ∃ e taken used, some e ∈ w.host.writeResults ∧ taken <+: bytes ∧
    Reports number place e (w.fileWritten number place taken used (some e)) step

/-- What a step on the buffer makes of `bytes` from the world `w`: they are at the end of the file or
wait, unless a write failed. -/
def Handed (number : Nat) (place : FileSystem.Place) (bytes : List UInt8) (w : World σ)
    (step : Except IoError Unit × Buffered (World σ)) : Prop :=
  (step.1 = .ok () ∧ ∃ taken used, taken ++ step.2.pending = bytes ∧
      step.2.state = w.fileWritten number place taken used none) ∨
    Torn number place bytes w step

variable {bytes more : List UInt8} {step : Except IoError Unit × Buffered (World σ)}

/-- What tears the bytes behind others tears the whole. -/
theorem Torn.of_append {used : Nat}
    (h : Torn number place more (w.fileWritten number place bytes used none) step) :
    Torn number place (bytes ++ more) w step := by
  obtain ⟨e, taken, used', he, hpart, hreports⟩ := h
  rw [fileWritten_fileWritten] at hreports
  exact ⟨e, bytes ++ taken, used + used', List.mem_of_mem_drop he,
    (List.prefix_append_right_inj bytes).2 hpart, hreports⟩

/-- What is handed over after a write took the front of the bytes is handed over with it. -/
theorem Handed.of_write (h : Handed number place (bytes.drop Host.chunk)
      (w.fileWritten number place (bytes.take Host.chunk) 1 none) step) :
    Handed number place bytes w step := by
  rcases h with ⟨hok, taken, used, hsplit, hstate⟩ | htorn
  · refine .inl ⟨hok, bytes.take Host.chunk ++ taken, 1 + used, ?_, ?_⟩
    · rw [List.append_assoc, hsplit, List.take_append_drop]
    · rw [hstate, fileWritten_fileWritten]
  · have := htorn.of_append
    rw [List.take_append_drop] at this
    exact .inr this

theorem reports_drain (e : IoError) (bytes : List UInt8) (h : w.FileOpen number place (some e)) :
    Reports number place e w ((fileSink number).drain bytes w) := by
  by_cases hne : bytes = []
  · rw [hne, Sink.drain_nil]
    exact .inr ⟨rfl, rfl⟩
  · rw [Sink.drain, dif_neg hne, write_of_failed e bytes h]
    exact .inl ⟨rfl, rfl⟩

theorem reports_pass (e : IoError) (bytes : List UInt8) (h : w.FileOpen number place (some e)) :
    Reports number place e w ((fileSink number).pass bytes w) := by
  by_cases hl : bytes.length < Sink.capacity
  · rw [Sink.pass, dif_pos hl]
    exact .inr ⟨rfl, rfl⟩
  · rw [Sink.pass, dif_neg hl, write_of_failed e bytes h]
    exact .inl ⟨rfl, rfl⟩

/-- A flush reports what is to be reported. -/
theorem flushAll_of_failed (e : IoError) (b : Buffered (World σ))
    (h : b.state.FileOpen number place (some e)) :
    ((fileSink number).flushAll b).1 = .error e ∧
      ((fileSink number).flushAll b).2.state = b.state.fileWritten number place [] 0 none := by
  have hdrain := reports_drain e b.pending h
  unfold Sink.flushAll
  rcases hd : (fileSink number).drain b.pending b.state with ⟨_ | _, rest, state⟩ <;> rw [hd] at hdrain <;>
    rcases hdrain with ⟨hresult, hstate⟩ | ⟨hresult, hstate⟩
  · exact ⟨hresult, hstate⟩
  · cases hresult
  · cases hresult
  · obtain rfl : state = b.state := hstate
    simp only [flush_of_failed e h, and_self]

theorem length_take_chunk (hne : bytes ≠ []) :
    ∃ n, (bytes.take Host.chunk).length = n + 1 ∧ bytes.drop (n + 1) = bytes.drop Host.chunk := by
  have hpos := List.length_pos_iff.2 hne
  have hlen := List.length_take (i := Host.chunk) (l := bytes)
  refine ⟨(bytes.take Host.chunk).length - 1, by rw [hlen, Host.chunk] at *; omega, ?_⟩
  rw [Nat.sub_add_cancel (by rw [hlen, Host.chunk]; omega), hlen]
  rcases Nat.le_total Host.chunk bytes.length with hle | hle
  · rw [Nat.min_eq_left hle]
  · rw [Nat.min_eq_right hle, List.drop_length, List.drop_of_length_le hle]

theorem length_drop_chunk (hne : bytes ≠ []) : (bytes.drop Host.chunk).length < bytes.length := by
  have := List.length_pos_iff.2 hne
  rw [List.length_drop, Host.chunk]
  omega

/-- The first write of several: it takes a chunk, and the rest goes on from there. -/
theorem handed_of_first (rest : World σ → Except IoError Unit × Buffered (World σ))
    (h : w.FileOpen number place none)
    (htaken : Handed number place (bytes.drop Host.chunk)
      (w.fileWritten number place (bytes.take Host.chunk) 1 none)
      (rest (w.fileWritten number place (bytes.take Host.chunk) 1 none)))
    (hlost : ∀ e, (w.fileWritten number place [] 1 (some e)).FileOpen number place (some e) →
      Reports number place e (w.fileWritten number place [] 1 (some e))
        (rest (w.fileWritten number place [] 1 (some e)))) :
    ∃ after, (fileSink number).write bytes w = (.ok (bytes.take Host.chunk).length, after) ∧
      Handed number place bytes w (rest after) := by
  rcases write_of_open bytes h with hw | ⟨e, he, hw⟩
  · exact ⟨_, hw, htaken.of_write⟩
  · exact ⟨_, hw, .inr ⟨e, [], 1, he, List.nil_prefix, hlost e (h.fileWritten _ _ _)⟩⟩

theorem handed_drain (bytes : List UInt8) (w : World σ) (h : w.FileOpen number place none) :
    Handed number place bytes w ((fileSink number).drain bytes w) := by
  -- chunk by chunk, until one is lost
  generalize hlen : bytes.length = len
  induction len using Nat.strongRecOn generalizing bytes w with
  | ind len ih =>
    by_cases hne : bytes = []
    · rw [hne, Sink.drain_nil]
      exact .inl ⟨rfl, [], 0, rfl, h.fileWritten_nil.symm⟩
    obtain ⟨n, hn, hdrop⟩ := length_take_chunk hne
    obtain ⟨after, hw, hrest⟩ := handed_of_first (fun after => (fileSink number).drain _ after) h
      (ih _ (hlen ▸ length_drop_chunk hne) _ _ (h.fileWritten _ _ _) rfl) (fun e => reports_drain e _)
    rw [Sink.drain, dif_neg hne]
    simpa only [hw, hn, hdrop] using hrest

theorem handed_pass (bytes : List UInt8) (w : World σ) (h : w.FileOpen number place none) :
    Handed number place bytes w ((fileSink number).pass bytes w) := by
  generalize hlen : bytes.length = len
  induction len using Nat.strongRecOn generalizing bytes w with
  | ind len ih =>
    by_cases hl : bytes.length < Sink.capacity
    · rw [Sink.pass, dif_pos hl]
      exact .inl ⟨rfl, [], 0, rfl, h.fileWritten_nil.symm⟩
    have hne : bytes ≠ [] := by
      rintro rfl
      simp [Sink.capacity] at hl
    obtain ⟨n, hn, hdrop⟩ := length_take_chunk hne
    obtain ⟨after, hw, hrest⟩ := handed_of_first (fun after => (fileSink number).pass _ after) h
      (ih _ (hlen ▸ length_drop_chunk hne) _ _ (h.fileWritten _ _ _) rfl) (fun e => reports_pass e _)
    rw [Sink.pass, dif_neg hl]
    simpa only [hw, hn, hdrop] using hrest

theorem handed_writeAll (bytes : List UInt8) (h : w.FileOpen number place none) :
    Handed number place bytes w ((fileSink number).writeAll bytes ⟨[], w⟩) := by
  unfold Sink.writeAll
  split
  · exact .inl ⟨rfl, [], 0, rfl, h.fileWritten_nil.symm⟩
  · simp only [Sink.drain_nil]
    exact handed_pass bytes w h

/-! ## Lines -/

/-- What becomes of a line: it is at the end of the file and nothing waits, or its writer reports a failed
write, and then its front is there at most. -/
def Settled (number : Nat) (place : FileSystem.Place) (line : List UInt8) (w : World σ)
    (step : Except IoError Unit × Buffered (World σ)) : Prop :=
  (∃ used, step = (.ok (), ⟨[], w.fileWritten number place line used none⟩)) ∨
    ∃ e taken used, some e ∈ w.host.writeResults ∧ taken <+: line ∧ step.1 = .error e ∧
      step.2.state = w.fileWritten number place taken used none

/-- A torn line is settled once the failure is reported. -/
theorem settled_of_error {e : IoError} {b : Buffered (World σ)}
    (h : Torn number place bytes w (.error e, b)) : Settled number place bytes w (.error e, b) := by
  obtain ⟨e', taken, used, he, hpart, ⟨hresult, hstate⟩ | ⟨hresult, -⟩⟩ := h
  · cases hresult
    rw [fileWritten_fileWritten, List.append_nil] at hstate
    exact .inr ⟨e, taken, used + 0, he, hpart, rfl, hstate⟩
  · cases hresult

theorem settled_of_torn {b : Buffered (World σ)} (h : w.FileOpen number place none)
    (ht : Torn number place bytes w (.ok (), b)) :
    Settled number place bytes w ((fileSink number).flushAll b) := by
  obtain ⟨e, taken, used, he, hpart, ⟨hresult, -⟩ | ⟨-, hstate⟩⟩ := ht
  · cases hresult
  · have hopen := h.fileWritten taken used (some e)
    rw [← hstate] at hopen
    obtain ⟨hresult, hafter⟩ := flushAll_of_failed e b hopen
    rw [hstate, fileWritten_fileWritten, List.append_nil] at hafter
    exact .inr ⟨e, taken, used + 0, he, hpart, hresult, hafter⟩

/-- A flush settles what was handed over. -/
theorem Handed.flushAll {b : Buffered (World σ)} (h : w.FileOpen number place none)
    (hs : Handed number place bytes w (.ok (), b)) :
    Settled number place bytes w ((fileSink number).flushAll b) := by
  rcases hs with ⟨-, taken, used, rfl, hstate⟩ | htorn
  · obtain ⟨pending, state⟩ := b
    obtain rfl : state = w.fileWritten number place taken used none := hstate
    have hopen := h.fileWritten taken used none
    have hdrain := handed_drain pending _ hopen
    have hempty := (fileSink number).pending_of_drain_ok pending
      (w.fileWritten number place taken used none)
    unfold Sink.flushAll
    rcases hd : (fileSink number).drain pending (w.fileWritten number place taken used none) with
      ⟨e | _, rest, state⟩ <;> rw [hd] at hdrain hempty
    · rcases hdrain with ⟨hresult, -⟩ | htorn
      · cases hresult
      · exact settled_of_error htorn.of_append
    · obtain rfl : rest = [] := hempty rfl
      rcases hdrain with ⟨-, more, used', hmore, hstate⟩ | htorn
      · obtain rfl : more = pending := by simpa using hmore
        obtain rfl : state = _ := hstate
        simp only [flush_of_open (hopen.fileWritten more used' none)]
        rw [fileWritten_fileWritten]
        exact .inl ⟨used + used', rfl⟩
      · -- nothing waits, so the flush is the sink's own
        have hflush := settled_of_torn h htorn.of_append
        simpa only [Sink.flushAll, Sink.drain_nil] using hflush
  · exact settled_of_torn h htorn

theorem settled_writeLine (line : List UInt8) (h : w.FileOpen number place none) :
    Settled number place line w ((fileSink number).writeLine line ⟨[], w⟩) := by
  have hall := handed_writeAll line h
  unfold Sink.writeLine
  rcases hw : (fileSink number).writeAll line ⟨[], w⟩ with ⟨e | _, b⟩ <;> rw [hw] at hall
  · rcases hall with ⟨hresult, -⟩ | htorn
    · cases hresult
    · exact settled_of_error htorn
  · exact hall.flushAll h

/-- Of a line of one chunk nothing is left when its write failed. -/
theorem writeLine_of_chunk (line : List UInt8) (h : w.FileOpen number place none) (hne : line ≠ [])
    (hl : line.length ≤ Host.chunk) :
    (fileSink number).writeLine line ⟨[], w⟩ =
        (.ok (), ⟨[], w.fileWritten number place line 1 none⟩) ∨
      ∃ e, (fileSink number).writeLine line ⟨[], w⟩ =
        (.error e, ⟨[], w.fileWritten number place [] 1 none⟩) := by
  rcases write_of_open line h with hw | ⟨e, -, hw⟩ <;> rw [List.take_of_length_le hl] at hw
  · exact .inl (Sink.writeLine_of_taken _ line w _ _ _ hne hw (flush_of_open (h.fileWritten _ _ _)))
  · have hf := flush_of_failed e (h.fileWritten [] 1 (some e))
    rw [fileWritten_fileWritten] at hf
    exact .inr ⟨e, Sink.writeLine_of_taken _ line w _ _ _ hne hw hf⟩

/-- What the writing of a line leaves to be reported, its flush reports. -/
theorem writeLine_of_reports {e : IoError} {line : List UInt8} {lost : World σ}
    (h : lost.FileOpen number place (some e))
    (hr : Reports number place e lost ((fileSink number).writeAll line ⟨[], w⟩)) :
    ((fileSink number).writeLine line ⟨[], w⟩).1 = .error e ∧
      ((fileSink number).writeLine line ⟨[], w⟩).2.state = lost.fileWritten number place [] 0 none := by
  unfold Sink.writeLine
  rcases hall : (fileSink number).writeAll line ⟨[], w⟩ with ⟨_ | _, rest, state⟩ <;> rw [hall] at hr <;>
    rcases hr with ⟨hresult, hstate⟩ | ⟨hresult, hstate⟩
  · exact ⟨hresult, hstate⟩
  · cases hresult
  · cases hresult
  · obtain rfl : state = lost := hstate
    exact flushAll_of_failed e ⟨rest, state⟩ h

/-- The second write of a long line fails. -/
theorem reports_pass_of_second_lost (line : List UInt8) (e : IoError) (later : List (Option IoError))
    (h : w.FileOpen number place none) (hw : w.host.writeResults = none :: some e :: later)
    (hl : Host.chunk + Sink.capacity ≤ line.length) :
    Reports number place e (w.fileWritten number place (line.take Host.chunk) 2 (some e))
      ((fileSink number).pass line w) := by
  have hne : line ≠ [] := by
    rintro rfl
    simp [Host.chunk] at hl
  have hne' : line.drop Host.chunk ≠ [] := by
    rw [← List.length_pos_iff, List.length_drop]
    have : 0 < Sink.capacity := by decide
    omega
  obtain ⟨n, hn, hdrop⟩ := length_take_chunk hne
  obtain ⟨n', hn', hdrop'⟩ := length_take_chunk hne'
  have hfirst := write_taken line h (by simp [hw])
  have hsecond := write_lost e later (line.drop Host.chunk) (h.fileWritten (line.take Host.chunk) 1 none)
    (by simp [fileWritten, hw])
  rw [fileWritten_fileWritten, List.append_nil] at hsecond
  have hrest := reports_pass e ((line.drop Host.chunk).drop Host.chunk)
    (h.fileWritten (line.take Host.chunk) 2 (some e))
  rw [Sink.pass, dif_neg (by omega), hfirst]
  simp only [hn, hdrop]
  rw [Sink.pass, dif_neg (by rw [List.length_drop]; omega), hsecond]
  simpa only [hn', hdrop'] using hrest

/-- Of a longer line the first chunk is left when the second write fails. -/
theorem writeLine_of_second_lost (line : List UInt8) (e : IoError) (later : List (Option IoError))
    (h : w.FileOpen number place none) (hw : w.host.writeResults = none :: some e :: later)
    (hl : Host.chunk + Sink.capacity ≤ line.length) :
    ((fileSink number).writeLine line ⟨[], w⟩).1 = .error e ∧
      ((fileSink number).writeLine line ⟨[], w⟩).2.state =
        w.fileWritten number place (line.take Host.chunk) 2 none := by
  have hall : (fileSink number).writeAll line ⟨[], w⟩ = (fileSink number).pass line w := by
    unfold Sink.writeAll
    rw [if_neg (by omega)]
    simp only [Sink.drain_nil]
  have hpass := reports_pass_of_second_lost line e later h hw hl
  rw [← hall] at hpass
  obtain ⟨hresult, hstate⟩ := writeLine_of_reports (h.fileWritten _ _ _) hpass
  rw [fileWritten_fileWritten, List.append_nil] at hstate
  exact ⟨hresult, hstate⟩

end World

end CallAudit

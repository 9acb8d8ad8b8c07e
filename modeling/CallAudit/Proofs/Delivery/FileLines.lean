import CallAudit.Proofs.Delivery.FileWrites

/-!
# Lines at the end of a file

A writer to a file hands its lines over one by one, each with a flush. A line is at the end of the file as
soon as it is handed over, unless a write failed. If the line is one chunk, then nothing of it is in the
file: whether it waited in the buffer or was too long for it, nothing stays behind and nothing is written
twice. A longer line may be torn.

Results:
* `LineWriter.Ready`: the state between two lines.
* `LineWriter.write_of_ready`: what a line changes.
* `LineWriter.Appending`, `LineWriter.write_of_appending`: the same where no write fails.
* `LineWriter.touches_write`, `LineWriter.touches_stop`: what a call may change at most, whatever failed
  before.
* `LineWriter.openFile_ok`, `LineWriter.openFile_error`: what opening a file changes.
-/
namespace CallAudit

variable {σ : Type}

namespace LineWriter

/-! ## The state between two lines -/

/-- The writer's file is `number` among the open ones and stands at `place`. Nothing waits in front of
it, and no failure of it is still to be reported. -/
structure Ready (x : LineWriter σ) (number : Nat) (place : FileSystem.Place) (w : World σ) : Prop
    extends w.FileOpen number place none where
  sink : x.sink = World.fileSink number
  waiting : w.host.buffers[x.buffer]? = some []

/-- The writer's file is `number` among the open ones and stands at `place`, where `path` leads. It
holds `content`, nothing waits in front of it, and no write to a file is going to fail. -/
structure Appending (x : LineWriter σ) (path : String) (number : Nat) (place : FileSystem.Place)
    (content : List UInt8) (w : World σ) : Prop where
  sink : x.sink = World.fileSink number
  opened : w.host.opened[number]? = some ⟨place, none⟩
  waiting : w.host.buffers[x.buffer]? = some []
  writes : ∀ result ∈ w.host.writeResults, result = none
  stat : w.host.files.stat path = .ok (place, .file content)

theorem Appending.ready {x : LineWriter σ} {path : String} {number : Nat} {place : FileSystem.Place}
    {content : List UInt8} {w : World σ} (h : x.Appending path number place content w) :
    x.Ready number place w :=
  ⟨⟨h.opened, content, (FileSystem.of_stat _ _ _ _ h.stat).2⟩, h.sink, h.waiting⟩

/-- A step on the writer's sink that leaves its buffer as it was. -/
theorem buffered_of_ready (x : LineWriter σ) (number : Nat) (place : FileSystem.Place) (w after : World σ)
    (step : Buffered (World σ) → Except IoError Unit × Buffered (World σ)) (result : Except IoError Unit)
    (h : x.Ready number place w) (hs : step ⟨[], w⟩ = (result, ⟨[], after⟩))
    (hb : after.host.buffers = w.host.buffers) : World.buffered x.buffer step w = (result, after) := by
  have hset := World.set_of_getElem? _ _ _ h.waiting
  rw [← hb] at hset
  simp only [World.buffered, h.waiting, Option.getD_some, hs, hset]

/-! ## Lines -/

/-- All that a call of the writer may change of the host's files: `bytes` go to the end of its file, and
it is its file and its buffer where something may be left. -/
structure Touches (x : LineWriter σ) (number : Nat) (place : FileSystem.Place) (bytes : List UInt8)
    (w w' : World σ) : Prop where
  files : w'.host.files = w.host.files.append place bytes
  opened : ∃ failed, w'.host.opened = w.host.opened.set number ⟨place, failed⟩
  buffers : ∃ waiting, w'.host.buffers = w.host.buffers.set x.buffer waiting

/-- A handed over line is at the end of the file, or the writer says why not, and then the front of the
line is there at most. Nothing but the file changes, unless a line failed that is longer than a chunk. -/
theorem write_of_ready (x : LineWriter σ) (number : Nat) (place : FileSystem.Place) (w : World σ)
    (r : AuditRecord) (h : x.Ready number place w) :
    (∃ used, x.write r w = (.ok (), w.fileWritten number place r.lineBytes used none)) ∨
      ∃ e taken, some e ∈ w.host.writeResults ∧ (x.write r w).1 = .error (.io e) ∧
        taken <+: r.lineBytes ∧ x.Touches number place taken w (x.write r w).2 ∧
        (r.lineBytes.length ≤ Host.chunk →
          taken = [] ∧ (x.write r w).2 = w.fileWritten number place [] 1 none) := by
  have hopen := h.toFileOpen
  have hsettled := World.settled_writeLine r.lineBytes hopen
  have hne : r.lineBytes ≠ [] := by simp [AuditRecord.lineBytes]
  rw [← h.sink] at hsettled
  rcases hsettled with ⟨used, hline⟩ | ⟨e, taken, used, he, hpart, hresult, hstate⟩
  · left
    unfold write
    rw [x.buffered_of_ready number place w _ _ _ h hline rfl]
    exact ⟨used, rfl⟩
  right
  by_cases hl : r.lineBytes.length ≤ Host.chunk
  · -- a single write, and nothing is left of it
    rcases World.writeLine_of_chunk r.lineBytes hopen hne hl with hchunk | ⟨e', hchunk⟩ <;>
      rw [← h.sink] at hchunk <;> rw [hchunk] at hresult
    · cases hresult
    · cases hresult
      have hwrite : x.write r w = (.error (.io e), w.fileWritten number place [] 1 none) := by
        unfold write
        rw [x.buffered_of_ready number place w _ _ _ h hchunk rfl]
        rfl
      rw [hwrite]
      exact ⟨e, [], he, rfl, List.nil_prefix, ⟨rfl, ⟨none, rfl⟩, ⟨[], (World.set_of_getElem? _ _ _ h.waiting).symm⟩⟩,
        fun _ => ⟨rfl, rfl⟩⟩
  · refine ⟨e, taken, he, ?_, hpart, ?_, fun hl' => absurd hl' hl⟩ <;>
      simp only [write, World.buffered, h.waiting, Option.getD_some, hresult, hstate]
    · rfl
    · exact ⟨rfl, ⟨none, rfl⟩, ⟨_, rfl⟩⟩

/-- Stopping a writer between two lines does nothing. -/
theorem stop_of_ready (x : LineWriter σ) (number : Nat) (place : FileSystem.Place) (w : World σ)
    (h : x.Ready number place w) : x.stop w = (.ok (), w) := by
  have hflush : x.sink.flushAll ⟨[], w⟩ = (.ok (), ⟨[], w⟩) := by
    simp only [Sink.flushAll, Sink.drain_nil, h.sink, World.flush_of_open h.toFileOpen]
  unfold stop
  rw [x.buffered_of_ready number place w _ _ _ h hflush rfl]
  rfl

/-- Where no write fails, a handed over line is at the end of the file, and nothing but the file
changed. -/
theorem write_of_appending (x : LineWriter σ) (path : String) (number : Nat)
    (place : FileSystem.Place) (content : List UInt8) (w : World σ) (r : AuditRecord)
    (h : x.Appending path number place content w) :
    (x.write r w).1 = .ok () ∧ (x.write r w).2.tokens = w.tokens ∧ (x.write r w).2.user = w.user ∧
      x.Appending path number place (content ++ r.lineBytes) (x.write r w).2 := by
  rcases x.write_of_ready number place w r h.ready with ⟨used, hwrite⟩ | ⟨e, -, he, -⟩
  · rw [hwrite]
    exact ⟨rfl, rfl, rfl, h.sink, (h.ready.toFileOpen.fileWritten _ _ _).opened, h.waiting,
      fun result hr => h.writes result (List.mem_of_mem_drop hr),
      FileSystem.stat_append _ _ _ _ _ h.stat⟩
  · cases h.writes (some e) he

/-- The state does not depend on what calls leave behind. -/
theorem Appending.of_host {x : LineWriter σ} {path : String} {number : Nat}
    {place : FileSystem.Place} {content : List UInt8} {w w' : World σ}
    (h : x.Appending path number place content w) (hw : w'.host = w.host) :
    x.Appending path number place content w' :=
  ⟨h.sink, by rw [hw]; exact h.opened, by rw [hw]; exact h.waiting, by rw [hw]; exact h.writes,
    by rw [hw]; exact h.stat⟩

/-! ## After a failure -/

theorem touches_buffered (x : LineWriter σ) (number : Nat) (place : FileSystem.Place)
    (failed : Option IoError) (w : World σ) (h : w.FileOpen number place failed)
    (step : Buffered (World σ) → Except IoError Unit × Buffered (World σ))
    (hs : ∀ b, w.FileWritten number place b.state → w.FileWritten number place (step b).2.state) :
    ∃ bytes, x.Touches number place bytes w (World.buffered x.buffer step w).2 := by
  obtain ⟨bytes, used, failed', hw⟩ := hs ⟨(w.host.buffers[x.buffer]?).getD [], w⟩
    ⟨[], 0, failed, h.fileWritten_nil.symm⟩
  simp only [World.buffered, hw]
  exact ⟨bytes, rfl, ⟨failed', rfl⟩, ⟨_, rfl⟩⟩

theorem touches_write (x : LineWriter σ) (number : Nat) (place : FileSystem.Place)
    (failed : Option IoError) (w : World σ) (r : AuditRecord) (hx : x.sink = World.fileSink number)
    (h : w.FileOpen number place failed) : ∃ bytes, x.Touches number place bytes w (x.write r w).2 := by
  have hkeeps := World.keeps_fileWritten h
  rw [← hx] at hkeeps
  exact x.touches_buffered number place failed w h (x.sink.writeLine r.lineBytes)
    fun b => hkeeps.writeLine r.lineBytes b

theorem touches_stop (x : LineWriter σ) (number : Nat) (place : FileSystem.Place)
    (failed : Option IoError) (w : World σ) (hx : x.sink = World.fileSink number)
    (h : w.FileOpen number place failed) : ∃ bytes, x.Touches number place bytes w (x.stop w).2 := by
  have hkeeps := World.keeps_fileWritten h
  rw [← hx] at hkeeps
  exact x.touches_buffered number place failed w h x.sink.flushAll fun b => hkeeps.flushAll b

/-! ## Opening -/

/-- A file that does not open leaves directories behind at most. -/
theorem openFile_error (path : String) (w : World σ) (e : ProcessorError)
    (ho : (openFile path w).1 = .error e) :
    ∃ files, FileSystem.AddsDirectories (FileSystem.above path) w.host.files files ∧
      (openFile path w).2 = { w with host.files := files } := by
  have hmade := FileSystem.adds_makeParents w.host.files path
  refine ⟨_, hmade, ?_⟩
  unfold openFile at ho ⊢
  rcases hm : makeParents path w.host.files with ⟨_ | _, files⟩
  · rfl
  · simp only [hm] at ho ⊢
    cases ha : files.openAppend path with
    | error e => rfl
    | ok opened => simp only [ha] at ho; cases ho

/-- A file that opens gets a writer with an empty buffer. -/
theorem openFile_ok (path : String) (w : World σ) (x : LineWriter σ)
    (ho : (openFile path w).1 = .ok x) :
    ∃ place files, FileSystem.Opens path place w.host.files files ∧
      x = ⟨"file", some path, World.fileSink w.host.opened.length, w.host.buffers.length⟩ ∧
      (openFile path w).2 = { w with host := { w.host with
        files, opened := w.host.opened ++ [⟨place, none⟩], buffers := w.host.buffers ++ [[]] } } := by
  have hmade := FileSystem.adds_makeParents w.host.files path
  unfold openFile at ho ⊢
  rcases hm : makeParents path w.host.files with ⟨_ | _, files⟩
  · simp only [hm] at ho
    cases ho
  · rw [hm] at hmade
    simp only [hm] at ho ⊢
    cases ha : files.openAppend path with
    | error e => simp only [ha] at ho; cases ho
    | ok opened =>
      obtain ⟨place, files'⟩ := opened
      simp only [ha] at ho ⊢
      cases ho
      exact ⟨place, files', FileSystem.opens_of_adds _ files files' path place hmade ha, rfl, rfl⟩

/-- A file that opens holds what it held before, nothing if it is new. -/
theorem appending_openFile (path : String) (w : World σ) (x : LineWriter σ)
    (ho : (openFile path w).1 = .ok x) (hw : ∀ result ∈ w.host.writeResults, result = none) :
    (openFile path w).2.tokens = w.tokens ∧ (openFile path w).2.user = w.user ∧
      ∃ number place content, x.Appending path number place content (openFile path w).2 ∧
        ∀ place' n, w.host.files.stat path = .ok (place', n) → n = .file content := by
  obtain ⟨place, files, hopens, rfl, hworld⟩ := openFile_ok path w x ho
  obtain ⟨content, hs⟩ := hopens.stat
  rw [hworld]
  refine ⟨rfl, rfl, w.host.opened.length, place, content, ⟨rfl, by simp, by simp, hw, hs⟩, ?_⟩
  intro place' n hn
  have := FileSystem.stat_of_extends _ _ path place' n hopens.toExtends hn
  rw [hs] at this
  cases this
  rfl

end LineWriter

end CallAudit

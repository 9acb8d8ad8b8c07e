import CallAudit.Proofs.Delivery.FileLines

/-!
# Log files in use

Any number of files are opened for lines, several perhaps the same one, written to in turns and stopped.
The file system they are opened on is arbitrary, and so is which writes fail. `LogFiles` is what is open,
and it notes which records were written and which failed; `LogFiles.step` does one thing.

A file is whole as long as no line that failed on it was longer than a chunk. Writers of a whole file are
ready for the next line; one whose line was torn may have bytes left in front of it.

Results:
* `LogFiles.step_change`: all that a step can come to, with the guards it passed.
* `LogFiles.keeps_change`, `LogFiles.numbered_change`: what is open stays open, where it was opened.
-/
namespace CallAudit

variable {σ : Type}

/-- One thing that is done with log files. The writers are numbered in the order they were opened. -/
inductive LogFiles.Step where
  | openFile (path : String)
  | process (number : Nat) (ctx : CallContext) (record : AuditRecord)
  | stop (number : Nat)

/-- Open log files, and what was written to them. -/
structure LogFiles (σ : Type) where
  world : World σ
  writers : List (LineWriter σ) := []
  /-- the records whose processing succeeded, each with the number of its writer, in the order of the
  calls -/
  written : List (Nat × AuditRecord) := []
  /-- those whose processing failed -/
  failed : List (Nat × AuditRecord) := []

namespace LogFiles

open FileSystem (Place AddsDirectories Opens above)

def files (s : LogFiles σ) : FileSystem := s.world.host.files

/-- A step. A number that no writer has does nothing. -/
def step (s : LogFiles σ) : Step → LogFiles σ
  | .openFile path =>
    match LineWriter.openFile path s.world with
    | (.ok x, world) => { s with world, writers := s.writers ++ [x] }
    | (.error _, world) => { s with world }
  | .process number ctx r =>
    match s.writers[number]? with
    | none => s
    | some x =>
      let t := x.processor.process ctx r s.world
      match t.result with
      | .ok () => { s with world := t.world, written := s.written ++ [(number, r)] }
      | .error _ => { s with world := t.world, failed := s.failed ++ [(number, r)] }
  | .stop number =>
    match s.writers[number]? with
    | none => s
    | some x => { s with world := (x.stop s.world).2 }

/-- What any steps in a world lead to. -/
def run (w : World σ) (steps : List Step) : LogFiles σ := steps.foldl step { world := w }

/-- The place of a writer: where its path leads. -/
def place? (s : LogFiles σ) (number : Nat) : Option Place :=
  (s.writers[number]?).bind fun x => x.path?.bind fun path => (s.files.reach path).toOption

/-- The records that were written to the file at a place, by any of its writers. -/
def recordsAt (s : LogFiles σ) (p : Place) : List AuditRecord :=
  (s.written.filter (fun e => decide (s.place? e.1 = some p))).map Prod.snd

/-- Their lines. -/
def linesAt (s : LogFiles σ) (p : Place) : List UInt8 :=
  (s.recordsAt p).flatMap AuditRecord.lineBytes

/-- The record fits in one write to a file. -/
def Fits (e : Nat × AuditRecord) : Prop := e.2.lineBytes.length ≤ Host.chunk

/-- No line was torn at the place: those that failed there were not longer than a chunk. -/
def WholeAt (s : LogFiles σ) (p : Place) : Prop := ∀ e ∈ s.failed, s.place? e.1 = some p → Fits e

/-! ## What is open -/

/-- The writer `x` of this number has a file and a buffer of its own, and its path leads to the file, at
`p`. It is ready for the next line if that file is whole. The files and buffers of the world `w` were
there before. -/
structure Stands (w : World σ) (s : LogFiles σ) (number : Nat) (x : LineWriter σ) (p : Place) : Prop where
  sink : x.sink = World.fileSink (w.host.opened.length + number)
  buffer : x.buffer = w.host.buffers.length + number
  opened : ∃ failed, s.world.FileOpen (w.host.opened.length + number) p failed
  path : ∃ path, x.path? = some path ∧ s.files.reach path = .ok p
  ready : s.WholeAt p → x.Ready (w.host.opened.length + number) p s.world

/-- Files and buffers are numbered as the writers are, behind those of the world `w`. -/
structure Numbered (w : World σ) (s : LogFiles σ) : Prop where
  opened : s.world.host.opened.length = w.host.opened.length + s.writers.length
  buffers : s.world.host.buffers.length = w.host.buffers.length + s.writers.length
  writers : ∀ number x, s.writers[number]? = some x → ∃ p, Stands w s number x p

theorem numbered_start (w : World σ) : Numbered w { world := w } :=
  ⟨rfl, rfl, fun number x hx => by simp at hx⟩

theorem place?_eq_some (s : LogFiles σ) (number : Nat) (p : Place) :
    s.place? number = some p ↔
      ∃ x path, s.writers[number]? = some x ∧ x.path? = some path ∧ s.files.reach path = .ok p := by
  simp only [place?, Option.bind_eq_some_iff]
  constructor
  · rintro ⟨x, hx, path, hpath, hr⟩
    refine ⟨x, path, hx, hpath, ?_⟩
    cases h : s.files.reach path with
    | error e => rw [h] at hr; cases hr
    | ok q => rw [h] at hr; cases hr; rfl
  · rintro ⟨x, path, hx, hpath, hr⟩
    exact ⟨x, hx, path, hpath, by rw [hr]; rfl⟩

theorem lt_of_place? (s : LogFiles σ) (number : Nat) (p : Place) (h : s.place? number = some p) :
    number < s.writers.length := by
  obtain ⟨x, -, hx, -⟩ := (s.place?_eq_some number p).1 h
  exact (List.getElem?_eq_some_iff.1 hx).1

section

variable {w : World σ} {s : LogFiles σ} {number : Nat} {x : LineWriter σ} {p : Place}

theorem Stands.place? (h : Stands w s number x p) (hx : s.writers[number]? = some x) :
    s.place? number = some p := by
  obtain ⟨path, hpath, hr⟩ := h.path
  exact (s.place?_eq_some number p).2 ⟨x, path, hx, hpath, hr⟩

theorem Stands.file (h : Stands w s number x p) : ∃ content, s.files.node? p = some (.file content) := by
  obtain ⟨failed, hopen⟩ := h.opened
  exact hopen.file

/-- Every writer has a place, and a file stands there. -/
theorem Numbered.place? (h : Numbered w s) (number : Nat) (hn : number < s.writers.length) :
    ∃ p content, s.place? number = some p ∧ s.files.node? p = some (.file content) := by
  obtain ⟨p, hp⟩ := h.writers number _ (List.getElem?_eq_getElem hn)
  obtain ⟨content, hf⟩ := hp.file
  exact ⟨p, content, hp.place? (List.getElem?_eq_getElem hn), hf⟩

/-- The writer whose path leads to a place stands there. -/
theorem Numbered.stands_of_place? (h : Numbered w s) (hp : s.place? number = some p) :
    ∃ x, s.writers[number]? = some x ∧ Stands w s number x p := by
  have hx := List.getElem?_eq_getElem (s.lt_of_place? number p hp)
  obtain ⟨q, hq⟩ := h.writers number _ hx
  obtain rfl : q = p := Option.some.inj ((hq.place? hx).symm.trans hp)
  exact ⟨_, hx, hq⟩

theorem Numbered.file_of_place? (h : Numbered w s) (hp : s.place? number = some p) :
    ∃ content, s.files.node? p = some (.file content) := by
  obtain ⟨_, -, hs⟩ := h.stands_of_place? hp
  exact hs.file

end

/-! ## What a step can do -/

/-- A file that was opened at the place `p`, next to those that are open. -/
def opened (s : LogFiles σ) (path : String) (p : Place) (files : FileSystem) : LogFiles σ :=
  { s with
    world := { s.world with host := { s.world.host with
      files, opened := s.world.host.opened ++ [⟨p, none⟩], buffers := s.world.host.buffers ++ [[]] } }
    writers := s.writers ++
      [⟨"file", some path, World.fileSink s.world.host.opened.length, s.world.host.buffers.length⟩] }

/-- A call of the writer `x`, whose file is `file` among the open ones and stands at `p`: `bytes` went to
the end of the file. The records in `done` were written by the call, those in `lost` failed. If the file
was whole and nothing that failed is longer than a chunk, then the bytes are the lines of what was
written, and the writer is ready for the next line. -/
structure Called (number : Nat) (x : LineWriter σ) (file : Nat) (p : Place) (bytes : List UInt8)
    (done lost : List (Nat × AuditRecord)) (s s' : LogFiles σ) : Prop where
  touches : x.Touches file p bytes s.world s'.world
  writers : s'.writers = s.writers
  written : s'.written = s.written ++ done
  failed : s'.failed = s.failed ++ lost
  number : ∀ e ∈ done ++ lost, e.1 = number
  whole : s.WholeAt p → (∀ e ∈ lost, Fits e) →
    bytes = done.flatMap (fun e => e.2.lineBytes) ∧ x.Ready file p s'.world

/-- All that a step can come to. -/
inductive Change (w : World σ) (s : LogFiles σ) : Step → LogFiles σ → Prop
  | nothing (a : Step) : Change w s a s
  | openFailed (path : String) (files : FileSystem) (h : AddsDirectories (above path) s.files files) :
    Change w s (.openFile path) { s with world.host.files := files }
  | opened (path : String) (p : Place) (files : FileSystem) (h : Opens path p s.files files) :
    Change w s (.openFile path) (s.opened path p files)
  | called (a : Step) (number : Nat) (x : LineWriter σ) (p : Place) (bytes : List UInt8)
    (done lost : List (Nat × AuditRecord)) (s' : LogFiles σ) (hx : s.writers[number]? = some x)
    (hs : Stands w s number x p)
    (h : Called number x (w.host.opened.length + number) p bytes done lost s s') : Change w s a s'

/-- What processing a record does to its file: the line goes to the end of it, or the call fails, and then
the front of the line does at most, nothing if the line is not longer than a chunk. -/
inductive Processed (number : Nat) (r : AuditRecord) (p : Place) (s s' : LogFiles σ) : Prop
  | wrote (hw : s'.written = s.written ++ [(number, r)]) (hf : s'.failed = s.failed)
    (h : s'.files = s.files.append p r.lineBytes)
  | failed (part : List UInt8) (hpart : part <+: r.lineBytes) (hw : s'.written = s.written)
    (hf : s'.failed = s.failed ++ [(number, r)]) (h : s'.files = s.files.append p part)
    (hfits : Fits (number, r) → part = [])

section

variable {w : World σ} {s : LogFiles σ} {number : Nat} {x : LineWriter σ} {p : Place}

theorem step_process (ctx : CallContext) (r : AuditRecord) (hx : s.writers[number]? = some x) :
    s.step (.process number ctx r) =
      match (x.write r s.world).1 with
      | .ok () => { s with world := (x.write r s.world).2, written := s.written ++ [(number, r)] }
      | .error _ => { s with world := (x.write r s.world).2, failed := s.failed ++ [(number, r)] } := by
  simp only [step, hx, LineWriter.processor]

/-- A record for a whole file, by a writer that is ready for it. -/
theorem called_of_ready (ctx : CallContext) (r : AuditRecord) (hx : s.writers[number]? = some x)
    (file : Nat) (h : x.Ready file p s.world) :
    Processed number r p s (s.step (.process number ctx r)) ∧
      ∃ bytes done lost, Called number x file p bytes done lost s (s.step (.process number ctx r)) := by
  rw [step_process ctx r hx]
  rcases x.write_of_ready file p s.world r h with ⟨used, hwrite⟩ | ⟨e, part, -, hresult, hpart, htouches, hfits⟩
  · have hafter : x.Ready file p (s.world.fileWritten file p r.lineBytes used none) :=
      ⟨h.toFileOpen.fileWritten _ _ _, h.sink, h.waiting⟩
    rw [hwrite]
    exact ⟨.wrote rfl rfl rfl, r.lineBytes, [(number, r)], [],
      ⟨rfl, ⟨none, rfl⟩, [], (World.set_of_getElem? _ _ _ h.waiting).symm⟩, rfl, rfl,
      (List.append_nil _).symm, by simp, fun _ _ => ⟨by simp, hafter⟩⟩
  · rw [hresult]
    refine ⟨.failed part hpart rfl rfl htouches.files (fun hl => (hfits hl).1), part, [], [(number, r)],
      htouches, rfl, (List.append_nil _).symm, rfl, by simp, fun _ hl => ?_⟩
    have hone : Fits (number, r) := hl _ (List.mem_singleton_self _)
    obtain ⟨hnil, hworld⟩ := hfits hone
    refine ⟨hnil, ?_⟩
    simp only [hworld]
    exact ⟨h.toFileOpen.fileWritten _ _ _, h.sink, h.waiting⟩

theorem called_process (ctx : CallContext) (r : AuditRecord) (hx : s.writers[number]? = some x)
    (h : Stands w s number x p) :
    ∃ bytes done lost, Called number x (w.host.opened.length + number) p bytes done lost s
      (s.step (.process number ctx r)) := by
  by_cases hwhole : s.WholeAt p
  · exact (called_of_ready ctx r hx _ (h.ready hwhole)).2
  · obtain ⟨failed, hopen⟩ := h.opened
    obtain ⟨bytes, htouches⟩ := x.touches_write _ p failed s.world r h.sink hopen
    rw [step_process ctx r hx]
    rcases (x.write r s.world).1 with e | _
    · exact ⟨bytes, [], [(number, r)], htouches, rfl, (List.append_nil _).symm, rfl, by simp,
        fun hw => absurd hw hwhole⟩
    · exact ⟨bytes, [(number, r)], [], htouches, rfl, rfl, (List.append_nil _).symm, by simp,
        fun hw => absurd hw hwhole⟩

theorem called_stop (hx : s.writers[number]? = some x) (h : Stands w s number x p) :
    ∃ bytes, Called number x (w.host.opened.length + number) p bytes [] [] s (s.step (.stop number)) := by
  simp only [step, hx]
  obtain ⟨failed, hopen⟩ := h.opened
  by_cases hwhole : s.WholeAt p
  · have hready := h.ready hwhole
    rw [x.stop_of_ready _ p s.world hready]
    refine ⟨[], ⟨?_, ⟨none, ?_⟩, ⟨[], ?_⟩⟩, rfl, by simp, by simp, by simp, fun _ _ => ⟨rfl, hready⟩⟩
    · obtain ⟨content, hfile⟩ := hready.file
      exact (FileSystem.append_nil _ _ _ hfile).symm
    · exact (World.set_of_getElem? _ _ _ hready.opened).symm
    · exact (World.set_of_getElem? _ _ _ hready.waiting).symm
  · obtain ⟨bytes, htouches⟩ := x.touches_stop _ p failed s.world h.sink hopen
    exact ⟨bytes, htouches, rfl, by simp, by simp, by simp, fun hw => absurd hw hwhole⟩

/-- A file opens, or all that comes of it are directories. -/
theorem step_openFile (s : LogFiles σ) (path : String) :
    (∃ files, AddsDirectories (above path) s.files files ∧
        s.step (.openFile path) = { s with world.host.files := files }) ∨
      ∃ p files, Opens path p s.files files ∧ s.step (.openFile path) = s.opened path p files := by
  simp only [step]
  rcases ho : LineWriter.openFile path s.world with ⟨e | x, after⟩
  · obtain ⟨files, hadds, hw⟩ := LineWriter.openFile_error path s.world e (by rw [ho])
    rw [ho] at hw
    subst hw
    exact .inl ⟨files, hadds, rfl⟩
  · obtain ⟨p, files, hopens, rfl, hw⟩ := LineWriter.openFile_ok path s.world x (by rw [ho])
    rw [ho] at hw
    subst hw
    exact .inr ⟨p, files, hopens, rfl⟩

theorem step_change (h : Numbered w s) (a : Step) : Change w s a (s.step a) := by
  cases a with
  | openFile path =>
    rcases s.step_openFile path with ⟨files, hadds, hstep⟩ | ⟨p, files, hopens, hstep⟩ <;> rw [hstep]
    · exact .openFailed path files hadds
    · exact .opened path p files hopens
  | process number ctx r =>
    cases hx : s.writers[number]? with
    | none =>
      simp only [step, hx]
      exact .nothing _
    | some x =>
      obtain ⟨p, hp⟩ := h.writers number x hx
      obtain ⟨bytes, done, lost, hcalled⟩ := called_process ctx r hx hp
      exact .called _ number x p bytes done lost _ hx hp hcalled
  | stop number =>
    cases hx : s.writers[number]? with
    | none =>
      simp only [step, hx]
      exact .nothing _
    | some x =>
      obtain ⟨p, hp⟩ := h.writers number x hx
      obtain ⟨bytes, hcalled⟩ := called_stop hx hp
      exact .called _ number x p bytes [] [] _ hx hp hcalled

end

/-! ## What stays -/

/-- What was opened so far stays open, at the place it was opened at. -/
structure Keeps (s s' : LogFiles σ) : Prop where
  reach : ∀ path p, s.files.reach path = .ok p → s'.files.reach path = .ok p
  file : ∀ p content, s.files.node? p = some (.file content) →
    ∃ content', s'.files.node? p = some (.file content')
  writers : s.writers <+: s'.writers
  failed : s.failed <+: s'.failed

section

variable {w : World σ} {s s' : LogFiles σ} {number file : Nat} {x : LineWriter σ} {p : Place}
  {bytes : List UInt8} {done lost : List (Nat × AuditRecord)}

theorem Keeps.place? (h : Keeps s s') (number : Nat) (p : Place) (hp : s.place? number = some p) :
    s'.place? number = some p := by
  obtain ⟨x, path, hx, hpath, hr⟩ := (s.place?_eq_some number p).1 hp
  obtain ⟨more, hmore⟩ := h.writers
  refine (s'.place?_eq_some number p).2 ⟨x, path, ?_, hpath, h.reach path p hr⟩
  rw [← hmore, List.getElem?_append_left (List.getElem?_eq_some_iff.1 hx).1]
  exact hx

/-- A file that is whole was whole all the time. -/
theorem Keeps.wholeAt (h : Keeps s s') (p : Place) (hw : s'.WholeAt p) : s.WholeAt p :=
  fun e he hp => hw e (h.failed.subset he) (h.place? _ _ hp)

theorem Called.files (h : Called number x file p bytes done lost s s') :
    s'.files = s.files.append p bytes := h.touches.files

theorem Called.node? (h : Called number x file p bytes done lost s s') (content : List UInt8)
    (hp : s.files.node? p = some (.file content)) (q : Place) :
    s'.files.node? q = if q = p then some (.file (content ++ bytes)) else s.files.node? q := by
  rw [h.files, FileSystem.node?_append, FileSystem.content_of_node _ _ _ hp]

/-- The bytes go to the end of the file at `p`, and of no other. -/
theorem Called.node?_file {q : Place} {before : List UInt8}
    (h : Called number x file p bytes done lost s s') (content : List UInt8)
    (hp : s.files.node? p = some (.file content)) (hq : s.files.node? q = some (.file before)) :
    s'.files.node? q = some (.file (before ++ if q = p then bytes else [])) := by
  rw [h.node? content hp]
  by_cases hqp : q = p
  · subst hqp
    rw [hp] at hq
    cases hq
    rw [if_pos rfl, if_pos rfl]
  · rw [if_neg hqp, if_neg hqp, List.append_nil, hq]

/-- Where no file stands, nothing changes. -/
theorem Called.node?_of_no_file {q : Place} (h : Called number x file p bytes done lost s s')
    (content : List UInt8) (hp : s.files.node? p = some (.file content))
    (hq : ∀ before, s.files.node? q ≠ some (.file before)) : s'.files.node? q = s.files.node? q := by
  rw [h.node? content hp, if_neg]
  rintro rfl
  exact hq content hp

theorem Called.keeps (h : Called number x file p bytes done lost s s') (content : List UInt8)
    (hp : s.files.node? p = some (.file content)) : Keeps s s' := by
  refine ⟨fun path q hr => ?_, fun q c hq => ⟨_, h.node?_file content hp hq⟩, ?_, ?_⟩
  · rw [h.files]
    exact FileSystem.reach_append _ path p q _ (by simp [hp]) hr
  · exact h.writers ▸ List.prefix_rfl
  · rw [h.failed]
    exact List.prefix_append _ _

/-- The records of a call belong to the place of its writer. -/
theorem Called.place?_of_mem (h : Called number x file p bytes done lost s s') (hk : Keeps s s')
    (hp : s.place? number = some p) (e : Nat × AuditRecord) (he : e ∈ done ++ lost) :
    s'.place? e.1 = some p := by
  rw [h.number e he]
  exact hk.place? number p hp

theorem keeps_openFailed (path : String) (files : FileSystem)
    (h : AddsDirectories (above path) s.files files) : Keeps s { s with world.host.files := files } :=
  ⟨fun q p => FileSystem.reach_of_extends _ _ q p h.toExtends, fun p c hn => ⟨c, h.node p _ hn⟩,
    List.prefix_rfl, List.prefix_rfl⟩

theorem keeps_opened (path : String) (p : Place) (files : FileSystem) (h : Opens path p s.files files) :
    Keeps s (s.opened path p files) :=
  ⟨fun q p => FileSystem.reach_of_extends _ _ q p h.toExtends, fun p c hn => ⟨c, h.node p _ hn⟩,
    List.prefix_append _ _, List.prefix_rfl⟩

theorem keeps_change {a : Step} (h : Change w s a s') : Keeps s s' := by
  cases h with
  | nothing => exact ⟨fun _ _ h => h, fun _ c h => ⟨c, h⟩, List.prefix_rfl, List.prefix_rfl⟩
  | openFailed path files hadds => exact keeps_openFailed path files hadds
  | opened path p files hopens => exact keeps_opened path p files hopens
  | called _ number x p bytes done lost _ hx hs hcalled =>
    obtain ⟨content, hfile⟩ := hs.file
    exact hcalled.keeps content hfile

/-- A step that leaves a writer's file and buffer alone leaves the writer as it stands. -/
theorem Stands.of_keeps (h : Stands w s number x p) (hk : Keeps s s')
    (ho : ∀ f, s.world.host.opened[w.host.opened.length + number]? = some f →
      s'.world.host.opened[w.host.opened.length + number]? = some f)
    (hb : ∀ b, s.world.host.buffers[w.host.buffers.length + number]? = some b →
      s'.world.host.buffers[w.host.buffers.length + number]? = some b) : Stands w s' number x p := by
  obtain ⟨path, hpath, hr⟩ := h.path
  obtain ⟨content, hfile⟩ := h.file
  obtain ⟨failed, hopen⟩ := h.opened
  refine ⟨h.sink, h.buffer, ⟨failed, ho _ hopen.opened, hk.file p content hfile⟩,
    ⟨path, hpath, hk.reach path p hr⟩, fun hwhole => ?_⟩
  have hready := h.ready (hk.wholeAt p hwhole)
  have hwaiting := hready.waiting
  rw [h.buffer] at hwaiting
  exact ⟨⟨ho _ hready.opened, hk.file p content hfile⟩, h.sink, h.buffer ▸ hb _ hwaiting⟩

/-- The writer that was called stands as before. -/
theorem Called.stands (h : Called number x (w.host.opened.length + number) p bytes done lost s s')
    (hx : s.writers[number]? = some x) (hs : Stands w s number x p) : Stands w s' number x p := by
  obtain ⟨path, hpath, hr⟩ := hs.path
  obtain ⟨content, hfile⟩ := hs.file
  obtain ⟨failed, hopen⟩ := hs.opened
  have hk := h.keeps content hfile
  obtain ⟨failed', hopened⟩ := h.touches.opened
  refine ⟨hs.sink, hs.buffer, ⟨failed', ?_, hk.file p content hfile⟩, ⟨path, hpath, hk.reach path p hr⟩,
    fun hwhole => (h.whole (hk.wholeAt p hwhole) fun e he => hwhole e ?_ ?_).2⟩
  · rw [hopened, List.getElem?_set_self (List.getElem?_eq_some_iff.1 hopen.opened).1]
  · rw [h.failed]
    exact List.mem_append_right _ he
  · exact h.place?_of_mem hk (hs.place? hx) e (List.mem_append_right _ he)

theorem Called.numbered (h : Called number x (w.host.opened.length + number) p bytes done lost s s')
    (hn : Numbered w s) (hx : s.writers[number]? = some x) (hs : Stands w s number x p) :
    Numbered w s' := by
  obtain ⟨content, hfile⟩ := hs.file
  obtain ⟨failed, hopened⟩ := h.touches.opened
  obtain ⟨waiting, hbuffers⟩ := h.touches.buffers
  refine ⟨by rw [hopened, List.length_set, h.writers, hn.opened],
    by rw [hbuffers, List.length_set, h.writers, hn.buffers], fun i y hy => ?_⟩
  rw [h.writers] at hy
  by_cases hi : i = number
  · subst hi
    rw [hx] at hy
    cases hy
    exact ⟨p, h.stands hx hs⟩
  · -- another writer has another file and another buffer
    obtain ⟨q, hq⟩ := hn.writers i y hy
    refine ⟨q, hq.of_keeps (h.keeps content hfile) (fun f hf => ?_) (fun b hb => ?_)⟩
    · rwa [hopened, List.getElem?_set_ne (by omega)]
    · rwa [hbuffers, hs.buffer, List.getElem?_set_ne (by omega)]

theorem numbered_opened (h : Numbered w s) (path : String) (p : Place) (files : FileSystem)
    (ho : Opens path p s.files files) : Numbered w (s.opened path p files) := by
  have hlen : (s.opened path p files).writers.length = s.writers.length + 1 := by simp [opened]
  refine ⟨by simp [opened, h.opened, Nat.add_assoc], by simp [opened, h.buffers, Nat.add_assoc],
    fun i y hy => ?_⟩
  rcases Nat.lt_or_ge i s.writers.length with hi | hi
  · simp only [opened, List.getElem?_append_left hi] at hy
    obtain ⟨q, hq⟩ := h.writers i y hy
    refine ⟨q, hq.of_keeps (keeps_opened path p files ho) (fun f hf => ?_) (fun b hb => ?_)⟩
    · exact (List.getElem?_append_left (List.getElem?_eq_some_iff.1 hf).1).trans hf
    · exact (List.getElem?_append_left (List.getElem?_eq_some_iff.1 hb).1).trans hb
  · obtain rfl : i = s.writers.length := by
      have := (List.getElem?_eq_some_iff.1 hy).1
      omega
    have hy' : y = ⟨"file", some path, World.fileSink s.world.host.opened.length,
        s.world.host.buffers.length⟩ := by simpa [opened] using hy.symm
    obtain ⟨content, hstat⟩ := ho.stat
    obtain ⟨hr, hfile⟩ := FileSystem.of_stat files path p _ hstat
    have hopen : (s.opened path p files).world.FileOpen (w.host.opened.length + s.writers.length) p none :=
      ⟨by simp [opened, ← h.opened], content, hfile⟩
    subst hy'
    exact ⟨p, by rw [← h.opened], by rw [← h.buffers], ⟨none, hopen⟩, ⟨path, rfl, hr⟩,
      fun _ => ⟨hopen, by rw [← h.opened], by simp [opened]⟩⟩

theorem numbered_change {a : Step} (hn : Numbered w s) (h : Change w s a s') : Numbered w s' := by
  cases h with
  | nothing => exact hn
  | openFailed path files hadds =>
    refine ⟨hn.opened, hn.buffers, fun i y hy => ?_⟩
    obtain ⟨q, hq⟩ := hn.writers i y hy
    exact ⟨q, hq.of_keeps (keeps_openFailed path files hadds) (fun _ hf => hf) (fun _ hb => hb)⟩
  | opened path p files hopens => exact numbered_opened hn path p files hopens
  | called _ number x p bytes done lost _ hx hs hcalled => exact hcalled.numbered hn hx hs

theorem place?_opened (path : String) (p : Place) (files : FileSystem) (h : Opens path p s.files files) :
    (s.opened path p files).place? s.writers.length = some p := by
  obtain ⟨content, hs⟩ := h.stat
  have hx : (s.opened path p files).writers[s.writers.length]? = some ⟨"file", some path,
      World.fileSink s.world.host.opened.length, s.world.host.buffers.length⟩ := by simp [opened]
  exact ((s.opened path p files).place?_eq_some _ p).2
    ⟨_, path, hx, rfl, (FileSystem.of_stat files path p _ hs).1⟩

end

end LogFiles

end CallAudit

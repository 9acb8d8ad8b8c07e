import CallAudit.Proofs.Delivery.LogFiles
import CallAudit.Proofs.Json.Printable
import CallAudit.Proofs.Records.LineBack

/-!
# Log files only grow

Whatever is opened, written and stopped in whatever order, and whichever writes fail.

Results:
* `LogFiles.run_append_only`: whenever one looks, a file holds what it held at the start and more only if
  it was opened. If it is whole, then what it holds more is one line for each record that was written to
  it with success, in the order of the calls and whichever of its writers took them. Nothing else was made
  or changed but the directories above the files that were to be opened. No byte of a line lies below the
  space, so the lines are what stands between the line breaks, and they are read back as the records.
* `LogFiles.torn_line_stays`: the front of a line that failed may stay in the file, and the directory above
  a file that did not open.

The invariant is `LogFiles.Grown`. A step that writes nothing keeps it (`grown_of_extends`), and so does a
call of a writer (`grown_called`); so it holds after any steps (`grown_run`).
-/
namespace CallAudit

variable {σ : Type}

namespace LogFiles

open FileSystem (Place AddsDirectories Opens above)

/-! ## The records of a place -/

section

variable {w : World σ} {s s' : LogFiles σ} {number file : Nat} {x : LineWriter σ} {p : Place}
  {bytes : List UInt8} {done lost : List (Nat × AuditRecord)}

/-- The records at a place, after some more were written. -/
theorem recordsAt_of_keeps (hk : Keeps s s') (hw : ∀ e ∈ s.written, ∃ p, s.place? e.1 = some p)
    (hs : s'.written = s.written ++ done) (p : Place) :
    s'.recordsAt p =
      s.recordsAt p ++ (done.filter (fun e => decide (s'.place? e.1 = some p))).map Prod.snd := by
  have hold : s.written.filter (fun e => decide (s'.place? e.1 = some p)) =
      s.written.filter (fun e => decide (s.place? e.1 = some p)) := by
    refine List.filter_congr fun e he => ?_
    obtain ⟨q, hq⟩ := hw e he
    rw [hq, hk.place? _ _ hq]
  rw [recordsAt, hs, List.filter_append, List.map_append, hold]
  rfl

theorem linesAt_of_keeps (hk : Keeps s s') (hw : ∀ e ∈ s.written, ∃ p, s.place? e.1 = some p)
    (hs : s'.written = s.written) (p : Place) : s'.linesAt p = s.linesAt p := by
  have hnone : s'.written = s.written ++ [] := by simpa using hs
  rw [linesAt, recordsAt_of_keeps hk hw hnone p]
  simp [linesAt]

/-- Nothing was written to a file that is not there. -/
theorem linesAt_eq_nil (h : Numbered w s) (hp : s.files.node? p = none) : s.linesAt p = [] := by
  have hnone : s.recordsAt p = [] := by
    simp only [recordsAt, List.map_eq_nil_iff, List.filter_eq_nil_iff, decide_eq_true_eq]
    intro e _ he
    obtain ⟨content, hf⟩ := h.file_of_place? he
    rw [hp] at hf
    cases hf
  rw [linesAt, hnone]
  rfl

/-- A call adds its lines at the place of its writer. -/
theorem Called.linesAt (h : Called number x file p bytes done lost s s') (hk : Keeps s s')
    (hw : ∀ e ∈ s.written, ∃ p, s.place? e.1 = some p) (hp : s.place? number = some p) (q : Place) :
    s'.linesAt q = s.linesAt q ++ if q = p then done.flatMap (fun e => e.2.lineBytes) else [] := by
  have hplace : ∀ e ∈ done, s'.place? e.1 = some p :=
    fun e he => h.place?_of_mem hk hp e (List.mem_append_left _ he)
  rw [LogFiles.linesAt, recordsAt_of_keeps hk hw h.written q, List.flatMap_append]
  congr 1
  by_cases hq : q = p
  · have hall : done.filter (fun e => decide (s'.place? e.1 = some q)) = done :=
      List.filter_eq_self.2 fun e he => by simp [hplace e he, hq]
    rw [hall, if_pos hq, List.flatMap_map]
  · have hnone : done.filter (fun e => decide (s'.place? e.1 = some q)) = [] :=
      List.filter_eq_nil_iff.2 fun e he => by simp [hplace e he, Ne.symm hq]
    rw [hnone, if_neg hq]
    rfl

/-! ## The invariant -/

/-- What a file at `p` holds more than at the start: nothing if it was not opened, and the lines of the
records that were written if it is whole. -/
structure Added (s : LogFiles σ) (p : Place) (more : List UInt8) : Prop where
  lines : s.WholeAt p → more = s.linesAt p
  writer : more ≠ [] → ∃ number, s.place? number = some p

/-- What steps made of the files of the world `w`. -/
structure Grown (w : World σ) (steps : List Step) (s : LogFiles σ) : Prop where
  numbered : Numbered w s
  written : ∀ e ∈ s.written, ∃ p, s.place? e.1 = some p
  directory : ∀ p, w.host.files.node? p = some .directory → s.files.node? p = some .directory
  file : ∀ p before, w.host.files.node? p = some (.file before) →
    ∃ more, s.files.node? p = some (.file (before ++ more)) ∧ Added s p more
  new : ∀ p n, w.host.files.node? p = none → s.files.node? p = some n →
    (∃ more number, n = .file more ∧ s.place? number = some p ∧ Added s p more) ∨
      n = .directory ∧ ∃ path, .openFile path ∈ steps ∧
        ∃ parent ∈ above path, s.files.reach parent = .ok p

theorem grown_start (w : World σ) : Grown w [] { world := w } :=
  ⟨numbered_start w, by simp, fun _ h => h,
    fun p before h => ⟨[], by rw [List.append_nil]; exact h, fun _ => rfl, fun h => absurd rfl h⟩,
    fun p n h hn => absurd (h.symm.trans hn) (by simp)⟩

theorem Keeps.written (hk : Keeps s s') (hw : ∀ e ∈ s.written, ∃ p, s.place? e.1 = some p)
    (e : Nat × AuditRecord) (he : e ∈ s.written) : ∃ p, s'.place? e.1 = some p := by
  obtain ⟨p, hp⟩ := hw e he
  exact ⟨p, hk.place? _ _ hp⟩

theorem Added.of_keeps {more : List UInt8} (h : Added s p more) (hk : Keeps s s')
    (hw : ∀ e ∈ s.written, ∃ p, s.place? e.1 = some p) (hs : s'.written = s.written) :
    Added s' p more := by
  refine ⟨fun hwhole => ?_, fun hne => ?_⟩
  · rw [linesAt_of_keeps hk hw hs]
    exact h.lines (hk.wholeAt p hwhole)
  · obtain ⟨number, hnum⟩ := h.writer hne
    exact ⟨number, hk.place? _ _ hnum⟩

/-- A step that writes nothing: what is new is a directory above an opened file, or the empty file of a
writer. -/
theorem grown_of_extends {steps : List Step} (a : Step) (h : Grown w steps s) (hk : Keeps s s')
    (hn : Numbered w s') (hs : s'.written = s.written) (hext : FileSystem.Extends s.files s'.files)
    (hnew : ∀ p n, s.files.node? p = none → s'.files.node? p = some n →
      (n = .file [] ∧ ∃ number, s'.place? number = some p) ∨
        n = .directory ∧ ∃ path, a = .openFile path ∧
          ∃ parent ∈ above path, s'.files.reach parent = .ok p) :
    Grown w (steps ++ [a]) s' := by
  refine ⟨hn, hs ▸ hk.written h.written, fun p hp => hext.node p _ (h.directory p hp),
    fun p before hp => ?_, fun p n hp hn' => ?_⟩
  · obtain ⟨more, hf, hadded⟩ := h.file p before hp
    exact ⟨more, hext.node p _ hf, hadded.of_keeps hk h.written hs⟩
  · cases hm : s.files.node? p with
    | some m =>
      -- it was there before the step
      have := hext.node p m hm
      rw [hn'] at this
      cases this
      rcases h.new p n hp hm with ⟨more, number, hf, hnum, hadded⟩ | ⟨hd, path, hmem, parent, hpar, hr⟩
      · exact .inl ⟨more, number, hf, hk.place? _ _ hnum, hadded.of_keeps hk h.written hs⟩
      · exact .inr ⟨hd, path, List.mem_append_left _ hmem, parent, hpar, hk.reach _ _ hr⟩
    | none =>
      rcases hnew p n hm hn' with ⟨hf, number, hnum⟩ | ⟨hd, path, rfl, hpar⟩
      · refine .inl ⟨[], number, hf, hnum, fun _ => ?_, fun hne => absurd rfl hne⟩
        rw [linesAt_of_keeps hk h.written hs, linesAt_eq_nil h.numbered hm]
      · exact .inr ⟨hd, path, List.mem_append_right _ (List.mem_singleton_self _), hpar⟩

/-- What a call adds to a file, its own or another. -/
theorem Called.added {more : List UInt8} {q : Place} (h : Called number x file p bytes done lost s s')
    (hk : Keeps s s') (hw : ∀ e ∈ s.written, ∃ p, s.place? e.1 = some p)
    (hp : s.place? number = some p) (ha : Added s q more) :
    Added s' q (more ++ if q = p then bytes else []) := by
  refine ⟨fun hwhole => ?_, fun hne => ?_⟩
  · rw [h.linesAt hk hw hp, ← ha.lines (hk.wholeAt q hwhole)]
    by_cases hq : q = p
    · subst hq
      have hfits : ∀ e ∈ lost, Fits e := fun e he =>
        hwhole e (h.failed ▸ List.mem_append_right _ he)
          (h.place?_of_mem hk hp e (List.mem_append_right _ he))
      rw [if_pos rfl, if_pos rfl, (h.whole (hk.wholeAt q hwhole) hfits).1]
    · rw [if_neg hq, if_neg hq]
  · by_cases hq : q = p
    · exact ⟨number, hq ▸ hk.place? number p hp⟩
    · rw [if_neg hq, List.append_nil] at hne
      obtain ⟨i, hi⟩ := ha.writer hne
      exact ⟨i, hk.place? _ _ hi⟩

/-- A call of a writer: its file may grow, and nothing else. -/
theorem grown_called {steps : List Step} (a : Step) (hg : Grown w steps s)
    (hx : s.writers[number]? = some x) (hs : Stands w s number x p)
    (h : Called number x (w.host.opened.length + number) p bytes done lost s s') :
    Grown w (steps ++ [a]) s' := by
  obtain ⟨content, hp⟩ := hs.file
  have hk := h.keeps content hp
  have hplace := hs.place? hx
  refine ⟨h.numbered hg.numbered hx hs, fun e he => ?_, fun q hq => ?_, fun q before hq => ?_,
    fun q n hq hn => ?_⟩
  · rw [h.written] at he
    rcases List.mem_append.1 he with he | he
    · exact hk.written hg.written e he
    · exact ⟨p, h.place?_of_mem hk hplace e (List.mem_append_left _ he)⟩
  · have hd := hg.directory q hq
    rw [h.node?_of_no_file content hp (by simp [hd])]
    exact hd
  · obtain ⟨more, hf, hadded⟩ := hg.file q before hq
    refine ⟨_, ?_, h.added hk hg.written hplace hadded⟩
    rw [h.node?_file content hp hf, List.append_assoc]
  · cases hm : s.files.node? q with
    | none =>
      rw [h.node?_of_no_file content hp (by simp [hm]), hm] at hn
      cases hn
    | some m =>
      rcases hg.new q m hq hm with ⟨more, i, rfl, hi, hadded⟩ | ⟨rfl, path, hmem, parent, hpar, hr⟩
      · rw [h.node?_file content hp hm] at hn
        cases hn
        exact .inl ⟨_, i, rfl, hk.place? _ _ hi, h.added hk hg.written hplace hadded⟩
      · rw [h.node?_of_no_file content hp (by simp [hm]), hm] at hn
        cases hn
        exact .inr ⟨rfl, path, List.mem_append_left _ hmem, parent, hpar, hk.reach _ _ hr⟩

theorem grown_step {steps : List Step} (a : Step) (h : Grown w steps s) :
    Grown w (steps ++ [a]) (s.step a) := by
  have hc := step_change h.numbered a
  generalize s.step a = s' at hc
  have hk := keeps_change hc
  have hn := numbered_change h.numbered hc
  cases hc with
  | nothing =>
    exact grown_of_extends a h hk hn rfl (FileSystem.Extends.refl _)
      (fun p n hp hn => absurd (hp.symm.trans hn) (by simp))
  | openFailed path files hadds =>
    refine grown_of_extends _ h hk hn rfl hadds.toExtends fun p n hp hn => ?_
    obtain ⟨hd, hpar⟩ := hadds.new p n hp hn
    exact .inr ⟨hd, path, rfl, hpar⟩
  | opened path p files hopens =>
    refine grown_of_extends _ h hk hn rfl hopens.toExtends fun q n hq hn => ?_
    rcases hopens.new q n hq hn with ⟨rfl, hf⟩ | ⟨hd, hpar⟩
    · exact .inl ⟨hf, s.writers.length, place?_opened path q files hopens⟩
    · exact .inr ⟨hd, path, rfl, hpar⟩
  | called _ number x p bytes done lost _ hx hs hcalled => exact grown_called a h hx hs hcalled

theorem grown_foldl (more : List Step) : ∀ (steps : List Step) (s : LogFiles σ), Grown w steps s →
    Grown w (steps ++ more) (more.foldl step s) := by
  induction more with
  | nil =>
    intro steps s h
    simpa using h
  | cons a rest ih =>
    intro steps s h
    have := ih (steps ++ [a]) (s.step a) (grown_step a h)
    simpa using this

theorem grown_run (w : World σ) (steps : List Step) : Grown w steps (run w steps) :=
  grown_foldl steps [] { world := w } (grown_start w)

/-! ## The files after any steps -/

/-- A file was there before, with less in it perhaps, or a writer opened it. -/
theorem Grown.before {steps : List Step} (h : Grown w steps s) (content : List UInt8)
    (hn : s.files.node? p = some (.file content)) :
    ∃ before more, (w.host.files.node? p = some (.file before) ∨
        w.host.files.node? p = none ∧ before = [] ∧ ∃ number, s.place? number = some p) ∧
      content = before ++ more ∧ Added s p more := by
  cases hp : w.host.files.node? p with
  | none =>
    rcases h.new p _ hp hn with ⟨more, number, hf, hnum, hadded⟩ | ⟨hd, -⟩
    · cases hf
      exact ⟨[], content, .inr ⟨rfl, rfl, number, hnum⟩, rfl, hadded⟩
    · cases hd
  | some n =>
    cases n with
    | file before =>
      obtain ⟨more, hf, hadded⟩ := h.file p before hp
      rw [hn] at hf
      cases hf
      exact ⟨before, more, .inl rfl, rfl, hadded⟩
    | directory =>
      have hd := h.directory p hp
      rw [hn] at hd
      cases hd

/-- Files that are whole: those that were there, and those of the writers. -/
theorem Grown.file_iff {steps : List Step} (h : Grown w steps s) (hwhole : s.WholeAt p)
    (content : List UInt8) :
    s.files.node? p = some (.file content) ↔
      ∃ before, (w.host.files.node? p = some (.file before) ∨
          w.host.files.node? p = none ∧ before = [] ∧ ∃ number, s.place? number = some p) ∧
        content = before ++ s.linesAt p := by
  constructor
  · intro hn
    obtain ⟨before, more, hstart, rfl, hadded⟩ := h.before content hn
    exact ⟨before, hstart, by rw [hadded.lines hwhole]⟩
  · rintro ⟨before, hp | ⟨hp, rfl, number, hnum⟩, rfl⟩
    · obtain ⟨more, hf, hadded⟩ := h.file p before hp
      rw [hf, hadded.lines hwhole]
    · obtain ⟨content, hf⟩ := h.numbered.file_of_place? hnum
      rcases h.new p _ hp hf with ⟨more, -, hmore, -, hadded⟩ | ⟨hd, -⟩
      · cases hmore
        rw [hf, hadded.lines hwhole]
        rfl
      · cases hd

/-! ## Single steps -/

/-- What opening a file does to the others: nothing that stands somewhere changes, and what is new are
directories above the file and, if it opened, the file itself, empty. -/
structure OnlyOpens (path : String) (s s' : LogFiles σ) : Prop where
  kept : ∀ p n, s.files.node? p = some n → s'.files.node? p = some n
  new : ∀ p n, s.files.node? p = none → s'.files.node? p = some n →
    (n = .directory ∧ ∃ parent ∈ above path, s'.files.reach parent = .ok p) ∨
      n = .file [] ∧ s'.writers.length = s.writers.length + 1 ∧ s'.place? s.writers.length = some p

theorem onlyOpens_step (s : LogFiles σ) (path : String) :
    OnlyOpens path s (s.step (.openFile path)) := by
  rcases s.step_openFile path with ⟨files, hadds, hstep⟩ | ⟨p, files, hopens, hstep⟩ <;> rw [hstep]
  · exact ⟨hadds.node, fun p n hp hn => .inl (hadds.new p n hp hn)⟩
  · refine ⟨hopens.node, fun q n hq hn => ?_⟩
    rcases hopens.new q n hq hn with ⟨rfl, hf⟩ | hd
    · exact .inr ⟨hf, List.length_append, place?_opened path q files hopens⟩
    · exact .inl hd

theorem processed_step (h : Numbered w s) (ctx : CallContext) (r : AuditRecord)
    (hp : s.place? number = some p) (hwhole : s.WholeAt p) :
    Processed number r p s (s.step (.process number ctx r)) := by
  obtain ⟨x, hx, hs⟩ := h.stands_of_place? hp
  exact (called_of_ready ctx r hx _ (hs.ready hwhole)).1

end

/-! ## Lines -/

/-- What stands between the line breaks are the lines. -/
theorem splitOn_lines (rs : List AuditRecord) :
    (rs.flatMap AuditRecord.lineBytes).splitOn 0x0A =
      rs.map (fun r => r.line.toUTF8.toList) ++ [[]] := by
  have hjoin : rs.flatMap AuditRecord.lineBytes =
      [0x0A].intercalate (rs.map (fun r => r.line.toUTF8.toList) ++ [[]]) := by
    induction rs with
    | nil => rfl
    | cons r rest ih =>
      rw [List.flatMap_cons, ih, List.map_cons, List.cons_append,
        List.intercalate_cons_of_ne_nil (by simp)]
      rfl
  rw [hjoin]
  refine List.splitOn_intercalate 0x0A (fun l hl => ?_) (by simp)
  rcases List.mem_append.1 hl with hl | hl
  · obtain ⟨r, -, rfl⟩ := List.mem_map.1 hl
    exact r.toJson.lineBreak_notMem_render
  · rw [List.mem_singleton.1 hl]
    simp

/-- **Log files only grow.** For every file system, whatever is opened, written and stopped in whatever
order, and whichever writes fail: a file is one that was there before or one that a writer opened, and it
holds what it held before, nothing if it is new, and then more only if a writer's path leads to it. If it
is whole, then what it holds more are the lines of the records that were written with success by the
writers whose path leads to it, in the order of the calls; and a call that fails adds the front of its
line at most, which leaves the file whole if the line is not longer than a chunk. Directories stay, and
the new ones stand above files that were to be opened. To open a file changes nothing that is there, and
adds the directories above it and the empty file at most. No byte of a line lies below the space, whatever
the record says, so the lines are what stands between the line breaks; and a line is read back as its
record, if the record is one that lines can tell. -/
theorem run_append_only (w : World σ) (steps : List Step) :
    let s := run w steps
    (∀ p, s.WholeAt p → ∀ content, s.files.node? p = some (.file content) ↔
      ∃ before, (w.host.files.node? p = some (.file before) ∨
          w.host.files.node? p = none ∧ before = [] ∧ ∃ number, s.place? number = some p) ∧
        content = before ++ s.linesAt p) ∧
    (∀ p content, s.files.node? p = some (.file content) →
      ∃ before more, (w.host.files.node? p = some (.file before) ∨
          w.host.files.node? p = none ∧ before = [] ∧ ∃ number, s.place? number = some p) ∧
        content = before ++ more ∧ (more ≠ [] → ∃ number, s.place? number = some p)) ∧
    (∀ p before, w.host.files.node? p = some (.file before) →
      ∃ more, s.files.node? p = some (.file (before ++ more))) ∧
    (∀ number, number < s.writers.length →
      ∃ p content, s.place? number = some p ∧ s.files.node? p = some (.file content)) ∧
    (∀ p, w.host.files.node? p = some .directory → s.files.node? p = some .directory) ∧
    (∀ p, s.files.node? p = some .directory → w.host.files.node? p = some .directory ∨
      w.host.files.node? p = none ∧ ∃ path, .openFile path ∈ steps ∧
        ∃ parent ∈ above path, s.files.reach parent = .ok p) ∧
    (∀ path, OnlyOpens path s (s.step (.openFile path))) ∧
    (∀ number ctx r p, s.place? number = some p → s.WholeAt p →
      Processed number r p s (s.step (.process number ctx r))) ∧
    (∀ p, (s.linesAt p).splitOn 0x0A =
      (s.recordsAt p).map (fun r => r.line.toUTF8.toList) ++ [[]]) ∧
    ∀ r : AuditRecord, (∀ b ∈ r.line.toUTF8.toList, 0x20 ≤ b.toNat) ∧
      (AuditRecord.parse? r.line = some r ↔ r.Legible) := by
  intro s
  have h : Grown w steps s := grown_run w steps
  refine ⟨fun p hwhole => h.file_iff hwhole, fun p content hn => ?_, fun p before hp => ?_,
    h.numbered.place?, h.directory, fun p hn => ?_, onlyOpens_step s,
    fun number ctx r p hp hwhole => processed_step h.numbered ctx r hp hwhole,
    fun p => splitOn_lines (s.recordsAt p), fun r => ⟨r.toJson.space_le_of_mem_render,
      AuditRecord.legible_of_parse? r.line r, AuditRecord.parse?_line_of_legible r⟩⟩
  · obtain ⟨before, more, hstart, hcontent, hadded⟩ := h.before content hn
    exact ⟨before, more, hstart, hcontent, hadded.writer⟩
  · obtain ⟨more, hf, -⟩ := h.file p before hp
    exact ⟨more, hf⟩
  · cases hp : w.host.files.node? p with
    | none =>
      rcases h.new p _ hp hn with ⟨more, number, hf, -⟩ | ⟨-, hdir⟩
      · cases hf
      · exact .inr ⟨rfl, hdir⟩
    | some n =>
      cases n with
      | directory => exact .inl rfl
      | file before =>
        obtain ⟨more, hf, -⟩ := h.file p before hp
        rw [hn] at hf
        cases hf

/-! ## What failures leave -/

def noRoom : IoError := .device "No space left on device (os error 28)"

/-- An empty disk that has room for one write. -/
def fullDisk : World Unit where
  host := {
    files := ⟨fun p => if p = [] then some .directory else none, []⟩
    writeResults := [none, some noRoom] }
  user := ()

/-- A record whose line takes several writes. -/
def longRecord : AuditRecord :=
  AuditRecord.new (String.ofList (List.replicate (Host.chunk + Sink.capacity) 'a'))
    { day := 18000, second := 7, nanos := 2 }

theorem length_le_length_quote (s : String) : s.length ≤ (Json.quote s).length := by
  have hescape : ∀ cs : List Char, cs.length ≤ (Json.escape cs).length := by
    intro cs
    induction cs with
    | nil => exact Nat.zero_le _
    | cons c rest ih =>
      have hone : 1 ≤ (Json.escapeChar c).length := by
        unfold Json.escapeChar
        repeat' split
        all_goals simp
      simp only [Json.escape, List.flatMap_cons, List.length_append, List.length_cons] at ih ⊢
      omega
  have := hescape s.toList
  rw [String.length_toList] at this
  simp only [Json.quote, List.length_cons, List.length_append]
  omega

theorem length_le_length_bytes (cs : List Char) :
    cs.length ≤ (String.ofList cs).toUTF8.toList.length := by
  rw [toList_toUTF8, String.toList_ofList]
  induction cs with
  | nil => exact Nat.zero_le _
  | cons c rest ih =>
    have := String.length_utf8EncodeChar c
    have := c.utf8Size_pos
    simp only [List.flatMap_cons, List.length_append, List.length_cons]
    omega

/-- A line is no shorter than the name in it. -/
theorem length_methodName_le (r : AuditRecord) : r.body.methodName.length ≤ r.lineBytes.length := by
  have hbytes := length_le_length_bytes r.toJson.chars
  have hquote := length_le_length_quote r.body.methodName
  have hchars : (Json.quote r.body.methodName).length ≤ r.toJson.chars.length := by
    simp only [AuditRecord.toJson, AuditRecord.Body.toJson, List.cons_append, List.nil_append, Json.chars,
      Json.membersTail, List.length_cons, List.length_append]
    omega
  simp only [AuditRecord.lineBytes, AuditRecord.line, Json.render, List.length_append]
  omega

/-- A long line on a disk that takes one write of it and refuses the next. -/
theorem step_of_second_lost {w : World σ} {s : LogFiles σ} (h : Numbered w s) (number : Nat) (p : Place)
    (ctx : CallContext) (r : AuditRecord) (hp : s.place? number = some p) (hwhole : s.WholeAt p)
    (e : IoError) (later : List (Option IoError))
    (hw : s.world.host.writeResults = none :: some e :: later)
    (hl : Host.chunk + Sink.capacity ≤ r.lineBytes.length) :
    (s.step (.process number ctx r)).place? number = some p ∧
      (s.step (.process number ctx r)).written = s.written ∧
      (s.step (.process number ctx r)).files = s.files.append p (r.lineBytes.take Host.chunk) := by
  have hkeeps := keeps_change (step_change h (.process number ctx r))
  obtain ⟨x, hx, hs⟩ := h.stands_of_place? hp
  have hready := hs.ready hwhole
  obtain ⟨hresult, hstate⟩ := World.writeLine_of_second_lost r.lineBytes e later hready.toFileOpen hw hl
  rw [← hready.sink] at hresult hstate
  refine ⟨hkeeps.place? number p hp, ?_⟩
  rw [step_process ctx r hx]
  simp only [LineWriter.write, World.buffered, hready.waiting, Option.getD_some, hresult,
    LineWriter.outcome, Except.mapError, files, hstate, World.fileWritten, and_self]

theorem run_concat (w : World σ) (steps : List Step) (a : Step) :
    run w (steps ++ [a]) = (run w steps).step a := by
  simp only [run, List.foldl_append, List.foldl_cons, List.foldl_nil]

/-- The first part of a line that failed stays in the file, though no record was written to it; and a file
that did not open left the directory above it. -/
theorem torn_line_stays :
    let s : LogFiles Unit := run fullDisk ([.openFile "log"] ++ [.process 0 ⟨none, ⟨0⟩⟩ longRecord])
    let t : LogFiles Unit := run fullDisk [.openFile "d/x/"]
    (fullDisk.host.files.node? ["log"] = none ∧ s.place? 0 = some ["log"] ∧ s.linesAt ["log"] = [] ∧
      s.files.node? ["log"] = some (.file (longRecord.lineBytes.take Host.chunk)) ∧
      (longRecord.lineBytes.take Host.chunk).length = Host.chunk) ∧
    fullDisk.host.files.node? ["d"] = none ∧ t.writers.length = 0 ∧
      t.files.node? ["d"] = some .directory := by
  intro s t
  have hlong : Host.chunk + Sink.capacity ≤ longRecord.lineBytes.length := by
    have := length_methodName_le longRecord
    rwa [longRecord, AuditRecord.new, String.length_ofList, List.length_replicate] at this
  have hgrown := grown_run fullDisk [.openFile "log"]
  have hplace : (run fullDisk [.openFile "log"]).place? 0 = some ["log"] := by decide +kernel
  have hempty : (run fullDisk [.openFile "log"]).files.node? ["log"] = some (.file []) := by
    decide +kernel
  have hnone : (run fullDisk [.openFile "log"]).written = [] := rfl
  obtain ⟨hplace', hwritten, hfiles⟩ := step_of_second_lost hgrown.numbered 0 ["log"] ⟨none, ⟨0⟩⟩
    longRecord hplace (fun e he => absurd he (by rintro ⟨⟩)) noRoom [] (by decide +kernel) hlong
  rw [← run_concat] at hplace' hwritten hfiles
  refine ⟨⟨rfl, hplace', ?_, ?_, ?_⟩, rfl, by decide +kernel, by decide +kernel⟩
  · rw [linesAt, recordsAt, hwritten.trans hnone]
    rfl
  · rw [hfiles, FileSystem.node?_append, if_pos rfl, FileSystem.content_of_node _ _ _ hempty,
      List.nil_append]
  · rw [List.length_take]
    omega

end LogFiles

end CallAudit

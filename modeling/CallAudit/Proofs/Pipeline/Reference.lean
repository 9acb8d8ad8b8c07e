import CallAudit.Proofs.Pipeline.Notes

/-!
# The client as a fold over its registrations

A client is described twice. `Client.log` recurses through the stages and stops where a processor
fails. The reference here is a fold: `Client.registered` lists what the settings register, stage by
stage and in their order, and `Run.next` is one registration's turn. After a failure every further
turn does nothing.

Results:
* `Client.log_ofSettings`: logging is the fold, and the notes of the processors are those of the fold;
  the invoked registrations are the first ones, each once.
* `Run.ends_foldl`: how far a run came, by what ended it. Every registration succeeded, or those up to
  some `k` did and the one at `k` failed or found the call cancelled.
* `Run.record_foldl`: what every processor keeps of a record is kept through a run.
-/
namespace CallAudit.Client

variable {σ : Type}

/-! ## What settings register -/

namespace Setting

def mode? : Setting σ → Option LogMode
  | .defaultMode mode => some mode
  | _ => none

def validator? : Setting σ → Option (Registration σ)
  | .validator p => some ⟨p, none⟩
  | .stoppableValidator p stop => some ⟨p, some stop⟩
  | _ => none

def mutator? : Setting σ → Option (Registration σ)
  | .mutator p => some ⟨p, none⟩
  | _ => none

def backend? : Setting σ → Option (Registration σ)
  | .backend p => some ⟨p, none⟩
  | .stoppableBackend p stop => some ⟨p, some stop⟩
  | _ => none

end Setting

/-- The registrations of the settings: all validators, then all mutators, then all backends, those of
one stage in the order of registration. -/
def registered (settings : List (Setting σ)) : List (Stage × Registration σ) :=
  (settings.filterMap Setting.validator?).map (Stage.validator, ·) ++
    (settings.filterMap Setting.mutator?).map (Stage.mutator, ·) ++
    (settings.filterMap Setting.backend?).map (Stage.backend, ·)

/-- The default mode that was set last, best effort if none was. -/
def lastMode (settings : List (Setting σ)) : LogMode :=
  (settings.filterMap Setting.mode?).getLast?.getD .bestEffort

theorem foldl_apply (settings : List (Setting σ)) (c : Client σ) :
    settings.foldl apply c =
      { validators := c.validators ++ settings.filterMap Setting.validator?
        mutators := c.mutators ++ settings.filterMap Setting.mutator?
        backends := c.backends ++ settings.filterMap Setting.backend?
        defaultMode := (settings.filterMap Setting.mode?).getLast?.getD c.defaultMode } := by
  induction settings generalizing c with
  | nil => simp
  | cons s rest ih =>
    rw [List.foldl_cons, ih]
    cases s <;> simp [apply, List.filterMap_cons, Setting.validator?, Setting.mutator?,
      Setting.backend?, Setting.mode?, List.getLast?_cons]

theorem stations_ofSettings (settings : List (Setting σ)) :
    (ofSettings settings).stations = registered settings := by
  simp [ofSettings, foldl_apply, stations, registered]

theorem defaultMode_ofSettings (settings : List (Setting σ)) :
    (ofSettings settings).defaultMode = lastMode settings := by
  simp [ofSettings, foldl_apply, lastMode]

/-! ## The reference -/

/-- How far a run has come. -/
structure Run (σ : Type) where
  record : AuditRecord
  world : World σ
  notes : List Note := []
  /-- the failure that ended the run: stage, processor and error -/
  failure? : Option (Stage × String × ProcessorError) := none

namespace Run

/-- A run starts with a record whose mode is settled, before any processor is invoked. -/
def start (mode : LogMode) (r : AuditRecord) (w : World σ) : Run σ :=
  { record := if r.mode = .unspecified then { r with mode } else r, world := w }

/-- The turn of one registration. The processor is invoked on the record as it stands, unless the run
has ended or the call is cancelled by now; a cancelled call counts as a failure of its own. -/
def next (ctx : CallContext) (run : Run σ) (s : Stage × Registration σ) : Run σ :=
  if run.failure?.isSome then run
  else if ctx.isCancelled run.world.tokens then
    { run with failure? := some (s.1, s.2.processor.name, .cancelled) }
  else
    let t := s.2.processor.process ctx run.record run.world
    { record := t.record
      world := t.world
      notes := run.notes ++ [⟨run.notes.length, run.record, t.result⟩]
      failure? := match t.result with
        | .ok () => none
        | .error e => some (s.1, s.2.processor.name, e) }

/-- What a run means for the caller: a failure counts unless it is a failed precondition, and then only
for a record that is in fail-close mode as the processors left it. -/
def outcome (run : Run σ) : Except PipelineError Unit :=
  match run.failure? with
  | none => .ok ()
  | some (_, _, .preconditionFailed _) => .ok ()
  | some (stage, processor, e) =>
    if run.record.mode = .failClose then .error (.processingFailed stage processor e) else .ok ()

theorem foldl_next_of_failed (ctx : CallContext) (run : Run σ) (h : run.failure?.isSome = true)
    (stations : List (Stage × Registration σ)) : stations.foldl (next ctx) run = run := by
  induction stations with
  | nil => rfl
  | cons s rest ih => rw [List.foldl_cons, show next ctx run s = run by simp [next, h], ih]

theorem outcome_of_failure (run : Run σ) (stage : Stage) (processor : String) (e : ProcessorError)
    (h : run.failure? = some (stage, processor, e)) :
    run.outcome = verdict stage processor e run.record.mode := by
  unfold outcome verdict
  rw [h]
  cases e <;> simp [ProcessorError.isPrecondition]

/-- A turn that succeeds. -/
theorem next_of_ok (ctx : CallContext) (run : Run σ) (h : run.failure? = none)
    (s : Stage × Registration σ) (ht : (turn s.2.processor ctx run.record run.world).result = .ok ()) :
    ctx.isCancelled run.world.tokens = false ∧ (next ctx run s).failure? = none ∧
      (next ctx run s).record = (turn s.2.processor ctx run.record run.world).record ∧
      (next ctx run s).world = (turn s.2.processor ctx run.record run.world).world ∧
      (next ctx run s).notes = run.notes ++ [⟨run.notes.length, run.record, .ok ()⟩] := by
  by_cases hc : ctx.isCancelled run.world.tokens = true
  · simp [turn, hc] at ht
  · simp only [turn, hc, Bool.false_eq_true, if_false] at ht ⊢
    simp [next, h, hc, ht]

/-- A turn that fails, with or without an invocation. -/
theorem next_of_error (ctx : CallContext) (run : Run σ) (h : run.failure? = none)
    (s : Stage × Registration σ) (e : ProcessorError)
    (ht : (turn s.2.processor ctx run.record run.world).result = .error e) :
    (next ctx run s).failure? = some (s.1, s.2.processor.name, e) ∧
      (next ctx run s).record = (turn s.2.processor ctx run.record run.world).record ∧
      (next ctx run s).world = (turn s.2.processor ctx run.record run.world).world ∧
      (next ctx run s).notes = run.notes ++ if ctx.isCancelled run.world.tokens then []
        else [⟨run.notes.length, run.record, .error e⟩] := by
  by_cases hc : ctx.isCancelled run.world.tokens = true
  · simp only [turn, hc, if_true, Except.error.injEq] at ht ⊢
    simp [next, h, hc, ht]
  · simp only [turn, hc, Bool.false_eq_true, if_false] at ht ⊢
    simp [next, h, hc, ht]

end Run

theorem runThrough_eq_foldl (ctx : CallContext) (stations : List (Stage × Registration σ)) :
    ∀ run : Run σ, run.failure? = none →
      runThrough ctx stations run.record run.world =
        let last := stations.foldl (Run.next ctx) run
        ⟨last.outcome, last.record, last.world⟩ := by
  induction stations with
  | nil =>
    intro run h
    simp [runThrough, Run.outcome, h]
  | cons s rest ih =>
    intro run h
    rw [List.foldl_cons]
    simp only [runThrough]
    cases ht : (turn s.2.processor ctx run.record run.world).result with
    | ok _ =>
      obtain ⟨-, hf, hr, hw, -⟩ := Run.next_of_ok ctx run h s ht
      rw [← hr, ← hw]
      exact ih _ hf
    | error e =>
      obtain ⟨hf, hr, hw, -⟩ := Run.next_of_error ctx run h s e ht
      rw [Run.foldl_next_of_failed _ _ (by rw [hf]; rfl), Run.outcome_of_failure _ _ _ _ hf, hr, hw]

/-- A run through more stations goes on where the run through the first ones came to. -/
theorem runThrough_append (ctx : CallContext) (front rest : List (Stage × Registration σ))
    (r : AuditRecord) (w : World σ) :
    let last := front.foldl (Run.next ctx) { record := r, world := w }
    runThrough ctx (front ++ rest) r w =
      if last.failure? = none then runThrough ctx rest last.record last.world
      else ⟨last.outcome, last.record, last.world⟩ := by
  intro last
  have hall := runThrough_eq_foldl ctx (front ++ rest) { record := r, world := w } rfl
  rw [List.foldl_append] at hall
  rw [hall]
  by_cases hf : last.failure? = none
  · rw [if_pos hf, runThrough_eq_foldl ctx rest last hf]
  · rw [if_neg hf, Run.foldl_next_of_failed ctx last (Option.isSome_iff_ne_none.2 hf)]

/-- With notes the run is the same, and its notes are those of the reference. The position a
registration notes is how many were invoked before it. -/
theorem runThrough_noting_eq_foldl (ctx : CallContext) (stations : List (Stage × Registration σ)) :
    ∀ run : Run σ, run.failure? = none →
      runThrough ctx (stations.mapIdx (fun i s => (s.1, s.2.noting (i + run.notes.length))))
          run.record (run.world.beside run.notes) =
        let last := stations.foldl (Run.next ctx) run
        ⟨last.outcome, last.record, last.world.beside last.notes⟩ := by
  induction stations with
  | nil =>
    intro run h
    simp [runThrough, Run.outcome, h]
  | cons s rest ih =>
    intro run h
    rw [List.foldl_cons]
    simp only [List.mapIdx_cons, runThrough, Registration.noting, turn_noting, Nat.zero_add]
    cases ht : (turn s.2.processor ctx run.record run.world).result with
    | ok _ =>
      obtain ⟨hc, hf, hr, hw, hn⟩ := Run.next_of_ok ctx run h s ht
      have := ih _ hf
      rw [hr, hw, hn] at this
      simpa [hc, Registration.noting, Nat.add_assoc, Nat.add_comm 1] using this
    | error e =>
      obtain ⟨hf, hr, hw, hn⟩ := Run.next_of_error ctx run h s e ht
      rw [Run.foldl_next_of_failed _ _ (by rw [hf]; rfl), Run.outcome_of_failure _ _ _ _ hf, hr, hw, hn]
      rfl

/-- Logging with any client is the fold over its registrations. -/
theorem log_eq_foldl (c : Client σ) (ctx : CallContext) (r : AuditRecord) (w : World σ) :
    c.log ctx r w =
      let last := c.stations.foldl (Run.next ctx) (Run.start c.defaultMode r w)
      ⟨last.outcome, last.record, last.world⟩ :=
  runThrough_eq_foldl ctx c.stations (Run.start c.defaultMode r w) rfl

theorem log_noting_eq_foldl (c : Client σ) (ctx : CallContext) (r : AuditRecord) (w : World σ) :
    c.noting.log ctx r (w.beside []) =
      let last := c.stations.foldl (Run.next ctx) (Run.start c.defaultMode r w)
      ⟨last.outcome, last.record, last.world.beside last.notes⟩ := by
  unfold log
  rw [stations_noting, withMode_noting]
  exact runThrough_noting_eq_foldl ctx c.stations (Run.start c.defaultMode r w) rfl

/-- Noting changes nothing a client does. -/
theorem log_noting (c : Client σ) (ctx : CallContext) (r : AuditRecord) (w : World σ) :
    (c.noting.log ctx r (w.beside [])).result = (c.log ctx r w).result ∧
      (c.noting.log ctx r (w.beside [])).world.bare = (c.log ctx r w).world := by
  rw [log_noting_eq_foldl, log_eq_foldl]
  exact ⟨rfl, rfl⟩

/-! ## How far a run came -/

namespace Run

/-- What the notes of a run through `done` say. While nothing failed, every registration of `done`
succeeded. After a failure those up to some `k` succeeded, and the one at `k` either answered with the
error or was not invoked because the call was cancelled by then. -/
def Ends (ctx : CallContext) (done : List (Stage × Registration σ)) (run : Run σ) : Prop :=
  match run.failure? with
  | none => answers run.notes = passes done.length
  | some (stage, processor, e) =>
    ∃ k entry, done[k]? = some (stage, entry) ∧ entry.processor.name = processor ∧
      (answers run.notes = passes k ++ [(k, .error e)] ∨
        e = .cancelled ∧ ctx.isCancelled run.world.tokens = true ∧ answers run.notes = passes k)

theorem ends_next (ctx : CallContext) (done : List (Stage × Registration σ)) (run : Run σ)
    (s : Stage × Registration σ) (h : Ends ctx done run) : Ends ctx (done ++ [s]) (next ctx run s) := by
  cases hf : run.failure? with
  | some f =>
    -- the run has ended: the turn does nothing, and the failing registration is where it was
    rw [show next ctx run s = run by simp [next, hf]]
    obtain ⟨stage, processor, e⟩ := f
    simp only [Ends, hf] at h ⊢
    obtain ⟨k, entry, hk, hrest⟩ := h
    refine ⟨k, entry, ?_, hrest⟩
    rw [List.getElem?_append_left (List.getElem?_eq_some_iff.1 hk).1]
    exact hk
  | none =>
    simp only [Ends, hf] at h
    have hl := length_of_answers _ _ h
    cases ht : (turn s.2.processor ctx run.record run.world).result with
    | ok _ =>
      obtain ⟨-, hf', -, -, hn⟩ := next_of_ok ctx run hf s ht
      simp only [Ends, hf', hn, List.length_append, List.length_singleton, passes_succ, ← h]
      simp [answers, hl]
    | error e =>
      obtain ⟨hf', -, hw, hn⟩ := next_of_error ctx run hf s e ht
      simp only [Ends, hf', hn]
      refine ⟨done.length, s.2, by simp, rfl, ?_⟩
      by_cases hc : ctx.isCancelled run.world.tokens = true
      · right
        simp only [turn, hc, if_true, Except.error.injEq] at ht hw
        refine ⟨ht.symm, by rw [hw]; exact hc, ?_⟩
        simp [hc, h]
      · left
        rw [← h]
        simp [answers, hc, hl]

theorem ends_foldl (ctx : CallContext) (stations : List (Stage × Registration σ)) :
    ∀ (done : List (Stage × Registration σ)) (run : Run σ), Ends ctx done run →
      Ends ctx (done ++ stations) (stations.foldl (next ctx) run) := by
  induction stations with
  | nil => simp
  | cons s rest ih =>
    intro done run h
    have := ih (done ++ [s]) (next ctx run s) (ends_next ctx done run s h)
    simpa using this

theorem ends_start (ctx : CallContext) (mode : LogMode) (r : AuditRecord) (w : World σ)
    (stations : List (Stage × Registration σ)) :
    Ends ctx stations (stations.foldl (next ctx) (start mode r w)) :=
  ends_foldl ctx stations [] (start mode r w) rfl

/-- The invoked registrations are the first ones, each invoked once. -/
theorem positions_of_ends (ctx : CallContext) (stations : List (Stage × Registration σ)) (run : Run σ)
    (h : Ends ctx stations run) :
    run.notes.map Note.position = List.range run.notes.length ∧
      run.notes.length ≤ stations.length := by
  have hp : run.notes.map Note.position = (answers run.notes).map Prod.fst := by simp [answers]
  have hl : run.notes.length = (answers run.notes).length := by simp [answers]
  have hr : ∀ k, (passes k).map Prod.fst = List.range k := by simp [passes, Function.comp_def]
  cases hf : run.failure? with
  | none =>
    simp only [Ends, hf] at h
    rw [hp, hl, h, hr]
    simp [passes]
  | some f =>
    simp only [Ends, hf] at h
    obtain ⟨k, entry, hk, -, hn | ⟨-, -, hn⟩⟩ := h
    all_goals
      have := (List.getElem?_eq_some_iff.1 hk).1
      rw [hp, hl, hn]
    · simp only [List.map_append, hr, List.length_append]
      simp only [passes, List.length_map, List.length_range, List.length_singleton, List.range_succ]
      exact ⟨rfl, by omega⟩
    · rw [hr]
      simp only [passes, List.length_map, List.length_range, true_and]
      omega

/-- What every processor keeps of a record is kept through a run. -/
theorem record_foldl (ctx : CallContext) (stations : List (Stage × Registration σ))
    (P : AuditRecord → Prop)
    (hk : ∀ s ∈ stations, ∀ ctx r w, P r → P (s.2.processor.process ctx r w).record) :
    ∀ run : Run σ, P run.record → P (stations.foldl (next ctx) run).record := by
  induction stations with
  | nil => exact fun _ h => h
  | cons s rest ih =>
    intro run h
    rw [List.foldl_cons]
    refine ih (fun t ht => hk t (List.mem_cons_of_mem _ ht)) _ ?_
    unfold next
    split
    · exact h
    · split
      · exact h
      · exact hk s List.mem_cons_self ctx run.record run.world h

/-- Processors that keep the mode of a record keep it through a run. -/
theorem mode_foldl (ctx : CallContext) (stations : List (Stage × Registration σ))
    (hk : ∀ s ∈ stations, ∀ ctx r w, (s.2.processor.process ctx r w).record.mode = r.mode)
    (run : Run σ) : (stations.foldl (next ctx) run).record.mode = run.record.mode :=
  record_foldl ctx stations (·.mode = run.record.mode)
    (fun s hs ctx r w h => (hk s hs ctx r w).trans h) run rfl

end Run

/-- **A client is a fold.** For every sequence of settings: the mode a record comes without is the one
set last; the record passes through all validators, then all mutators, then all backends in the order
of their registration, each invoked on what the one before it left, until one fails or finds the call
cancelled; and a failure is reported exactly if it is no failed precondition and the record is in
fail-close mode by then. The notes of the processors say the same: the invoked registrations are the
first ones, each invoked once. -/
theorem log_ofSettings (settings : List (Setting σ)) (ctx : CallContext) (r : AuditRecord)
    (w : World σ) :
    let run := (registered settings).foldl (Run.next ctx) (Run.start (lastMode settings) r w)
    (ofSettings settings).log ctx r w = ⟨run.outcome, run.record, run.world⟩ ∧
      (ofSettings settings).noting.log ctx r (w.beside []) =
        ⟨run.outcome, run.record, run.world.beside run.notes⟩ ∧
      run.notes.map Note.position = List.range run.notes.length ∧
      run.notes.length ≤ (registered settings).length := by
  intro run
  have h1 := log_eq_foldl (ofSettings settings) ctx r w
  have h2 := log_noting_eq_foldl (ofSettings settings) ctx r w
  rw [stations_ofSettings, defaultMode_ofSettings] at h1 h2
  exact ⟨h1, h2, Run.positions_of_ends ctx _ run (Run.ends_start ctx _ r w _)⟩

end CallAudit.Client

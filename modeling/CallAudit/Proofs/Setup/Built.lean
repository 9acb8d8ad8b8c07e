import CallAudit.Config.Setup
import CallAudit.Proofs.Labels.Union
import CallAudit.Proofs.Pipeline.Reference

/-!
# What a configured client does

The client of a configuration has one or two validators, up to two mutators and one backend. None but
the backend acts on the world, so the record reaches the backend, with the configured and the runtime
labels, or nothing happens at all.

Results:
* `ofSettings_front`: the registrations of a configured client.
* `foldl_front`: what stands in front of the backend refuses a record or gives it its labels.
* `runThrough_front_of_delivers`, `world_runThrough_front_of_not_delivers`: which records reach the
  backend, and as what.
* `client_of_invalid`, `client_of_valid`, `client_parts`: what the set-up comes to, and what it makes.
* `filter_allows`: which principals the filter of a configuration allows.
-/
namespace CallAudit

variable {σ : Type}

/-! ## Required names -/

namespace AuditRecord

/-- The first required name that the record lacks, by what it is called. -/
def firstMissing? (r : AuditRecord) : Option String :=
  if r.body.methodName = "" then some "method_name"
  else if r.body.serviceName = "" then some "service_name"
  else if r.body.principalEmail = "" then some "principal_email"
  else none

theorem requireFields_eq (r : AuditRecord) :
    r.requireFields = match r.firstMissing? with
      | some name => .error (.invalidArgument ("payload is missing " ++ name))
      | none => .ok () := by
  unfold requireFields firstMissing? requiredFields
  by_cases hmethod : r.body.methodName = ""
  · simp [hmethod]
  · by_cases hservice : r.body.serviceName = ""
    · simp [hmethod, hservice]
    · by_cases hprincipal : r.body.principalEmail = ""
      · simp [hmethod, hservice, hprincipal]
      · simp [hmethod, hservice, hprincipal]

theorem firstMissing?_eq_none_iff (r : AuditRecord) :
    r.firstMissing? = none ↔
      r.body.methodName ≠ "" ∧ r.body.serviceName ≠ "" ∧ r.body.principalEmail ≠ "" := by
  unfold firstMissing?
  split
  · simp [*]
  · split
    · simp [*]
    · simp [*]

end AuditRecord

/-! ## Single registrations -/

namespace Client

namespace Run

/-- The failure that a turn with this result is. -/
def failureOf (stage : Stage) (name : String) :
    Except ProcessorError Unit → Option (Stage × String × ProcessorError)
  | .ok () => none
  | .error e => some (stage, name, e)

section
variable (ctx : CallContext) (run : Run σ) (h : run.failure? = none)
include h

theorem next_of_cancelled (hc : ctx.isCancelled run.world.tokens = true)
    (s : Stage × Registration σ) :
    next ctx run s = { run with failure? := some (s.1, s.2.processor.name, .cancelled) } := by
  simp [next, h, hc]

/-- The turn of a processor that only judges. -/
theorem next_judging (hc : ctx.isCancelled run.world.tokens = false) (stage : Stage) (name : String)
    (judge : AuditRecord → Except ProcessorError Unit) :
    ∃ notes, next ctx run (stage, ⟨.judging name judge, none⟩) =
      { run with notes, failure? := failureOf stage name (judge run.record) } := by
  refine ⟨run.notes ++ [⟨run.notes.length, run.record, judge run.record⟩], ?_⟩
  cases hj : judge run.record <;> simp [next, h, hc, Processor.judging, hj, failureOf]

/-- The turn of a processor that only rewrites. -/
theorem next_rewriting (hc : ctx.isCancelled run.world.tokens = false) (stage : Stage) (name : String)
    (rewrite : AuditRecord → AuditRecord) :
    ∃ notes, next ctx run (stage, ⟨.rewriting name rewrite, none⟩) =
      { run with record := rewrite run.record, notes } := by
  refine ⟨run.notes ++ [⟨run.notes.length, run.record, .ok ()⟩], ?_⟩
  simp [next, h, hc, Processor.rewriting]

end

end Run

/-- A last setting that registers a backend and nothing else adds that backend to the client. -/
theorem ofSettings_append_backend (settings : List (Setting σ)) (setting : Setting σ)
    (backend : Registration σ) (h : registered [setting] = [(.backend, backend)]) :
    ofSettings (settings ++ [setting]) =
      { ofSettings settings with backends := (ofSettings settings).backends ++ [backend] } := by
  rw [ofSettings, List.foldl_append]
  cases setting <;> cases h <;> rfl

end Client

namespace AuditConfig

open Client (Setting Run registered runThrough)
open PatternEngine (compile?)

/-- The labels of the runtime, if the configuration asks for them. -/
def runtimeLabels (c : AuditConfig) (env : Environment) : Dict String :=
  if c.runtimeInfo then (Runtime.detect env).labels else Dict.empty

/-! ## The registrations -/

/-- The filter, if it has a pattern. -/
def filterStations (f : PrincipalFilter) : List (Stage × Registration σ) :=
  if f.isEmpty then [] else [(.validator, ⟨.principalFilter f, none⟩)]

/-- The labels, if there are any. -/
def labelStations (c : AuditConfig) : List (Stage × Registration σ) :=
  if c.labels.isEmpty then [] else [(.mutator, ⟨.defaultLabels c.labels, none⟩)]

/-- The labels of the runtime, if the configuration asks for them. -/
def runtimeStations (c : AuditConfig) (env : Environment) : List (Stage × Registration σ) :=
  if c.runtimeInfo then [(.mutator, ⟨.runtimeLabels (Runtime.detect env), none⟩)] else []

/-- The settings of a configured client with a backend that is to be stopped. -/
def settings (c : AuditConfig) (f : PrincipalFilter) (env : Environment) (backend : Processor σ)
    (stop : Stopper σ) : List (Setting σ) :=
  .defaultMode c.logMode :: validatorSettings f ++ c.mutatorSettings env ++
    [.stoppableBackend backend stop]

/-- The registrations in front of the backend. -/
def frontStations (c : AuditConfig) (f : PrincipalFilter) (env : Environment) :
    List (Stage × Registration σ) :=
  (.validator, ⟨.requiredFields, none⟩) :: (filterStations f ++ (c.labelStations ++
    c.runtimeStations env))

/-- The client of a configuration, whatever sets its backend. -/
theorem ofSettings_front (c : AuditConfig) (f : PrincipalFilter) (env : Environment)
    (setting : Setting σ) (backend : Registration σ) (h : registered [setting] = [(.backend, backend)]) :
    let client := Client.ofSettings
      (.defaultMode c.logMode :: validatorSettings f ++ c.mutatorSettings env ++ [setting])
    client.backends = [backend] ∧ client.defaultMode = c.logMode ∧
      client.stations = c.frontStations f env ++ [(.backend, backend)] := by
  intro client
  have hclient : client = _ := Client.ofSettings_append_backend _ setting backend h
  rw [hclient]
  unfold frontStations validatorSettings mutatorSettings filterStations labelStations runtimeStations
  cases f.isEmpty <;> cases c.labels.isEmpty <;> cases c.runtimeInfo <;> exact ⟨rfl, rfl, rfl⟩

theorem registered_settings (c : AuditConfig) (f : PrincipalFilter) (env : Environment)
    (backend : Processor σ) (stop : Stopper σ) :
    registered (c.settings f env backend stop) =
      c.frontStations f env ++ [(.backend, ⟨backend, some stop⟩)] := by
  rw [← Client.stations_ofSettings]
  exact (c.ofSettings_front f env (.stoppableBackend backend stop) _ rfl).2.2

theorem lastMode_settings (c : AuditConfig) (f : PrincipalFilter) (env : Environment)
    (backend : Processor σ) (stop : Stopper σ) :
    Client.lastMode (c.settings f env backend stop) = c.logMode := by
  rw [← Client.defaultMode_ofSettings]
  exact (c.ofSettings_front f env (.stoppableBackend backend stop) _ rfl).2.1

/-! ## Runs through them -/

theorem allows_of_isEmpty (f : PrincipalFilter) (h : f.isEmpty = true) (p : String) :
    f.allows p = true := by
  simp only [PrincipalFilter.isEmpty, Bool.and_eq_true, Option.isNone_iff_eq_none] at h
  simp [PrincipalFilter.allows, h.1, h.2]

/-- The record as the mutators leave it. -/
def labelled (c : AuditConfig) (env : Environment) (r : AuditRecord) : AuditRecord :=
  (r.withLabels c.labels).withLabels (c.runtimeLabels env)

section
variable (c : AuditConfig) (f : PrincipalFilter) (env : Environment) (ctx : CallContext) (run : Run σ)
variable (h : run.failure? = none) (hc : ctx.isCancelled run.world.tokens = false)
include h hc

theorem foldl_filterStations :
    ∃ notes, (filterStations f).foldl (Run.next ctx) run =
      { run with
        notes, failure? := Run.failureOf .validator "principal_filter" (f.judge run.record) } := by
  unfold filterStations
  by_cases he : f.isEmpty = true
  · have hj : f.judge run.record = .ok () := by simp [PrincipalFilter.judge, allows_of_isEmpty f he]
    refine ⟨run.notes, ?_⟩
    rw [if_pos he, List.foldl_nil, hj, Run.failureOf, ← h]
  · rw [if_neg he]
    exact Run.next_judging ctx run h hc _ _ f.judge

theorem foldl_labelStations :
    ∃ notes, c.labelStations.foldl (Run.next ctx) run =
      { run with record := run.record.withLabels c.labels, notes } := by
  unfold labelStations
  by_cases he : c.labels.isEmpty = true
  · refine ⟨run.notes, ?_⟩
    rw [if_pos he, List.foldl_nil, AuditRecord.withLabels, Dict.eq_empty_of_isEmpty _ he,
      Dict.orElse_empty]
  · rw [if_neg he]
    exact Run.next_rewriting ctx run h hc _ _ _

theorem foldl_runtimeStations :
    ∃ notes, (c.runtimeStations env).foldl (Run.next ctx) run =
      { run with record := run.record.withLabels (c.runtimeLabels env), notes } := by
  unfold runtimeStations runtimeLabels
  by_cases hi : c.runtimeInfo = true
  · rw [if_pos hi, if_pos hi]
    exact Run.next_rewriting ctx run h hc _ _ _
  · refine ⟨run.notes, ?_⟩
    rw [if_neg hi, if_neg hi, List.foldl_nil, AuditRecord.withLabels, Dict.orElse_empty]

theorem foldl_mutators :
    ∃ notes, (c.labelStations ++ c.runtimeStations env).foldl (Run.next ctx) run =
      { run with record := c.labelled env run.record, notes } := by
  obtain ⟨notes, hlabels⟩ := foldl_labelStations c ctx run h hc
  rw [List.foldl_append, hlabels]
  exact foldl_runtimeStations c env ctx { run with record := run.record.withLabels c.labels, notes } h hc

end

/-- Which records reach the backend. -/
def Delivers (f : PrincipalFilter) (ctx : CallContext) (r : AuditRecord) (w : World σ) : Prop :=
  ctx.isCancelled w.tokens = false ∧ r.requireFields = .ok () ∧ f.allows r.body.principalEmail = true

/-- The validator that keeps a record from the backend, and its error. A cancelled call already fails the
first one. -/
def refusal? (f : PrincipalFilter) (ctx : CallContext) (r : AuditRecord) (tokens : TokenForest) :
    Option (String × ProcessorError) :=
  if ctx.isCancelled tokens then some ("request_validator", .cancelled)
  else match r.requireFields with
    | .error e => some ("request_validator", e)
    | .ok () => match f.judge r with
      | .error e => some ("principal_filter", e)
      | .ok () => none

theorem refusal?_eq_none_iff (f : PrincipalFilter) (ctx : CallContext) (r : AuditRecord) (w : World σ) :
    refusal? f ctx r w.tokens = none ↔ Delivers f ctx r w := by
  unfold refusal? Delivers PrincipalFilter.judge
  cases ctx.isCancelled w.tokens with
  | true => simp
  | false =>
    cases r.requireFields with
    | error e => simp
    | ok _ => cases f.allows r.body.principalEmail <;> simp

/-- What stands in front of the backend gives a record its labels, unless a validator refuses it. -/
theorem foldl_front (c : AuditConfig) (f : PrincipalFilter) (env : Environment) (ctx : CallContext)
    (run : Run σ) (h : run.failure? = none) :
    ∃ notes, (c.frontStations f env).foldl (Run.next ctx) run =
      match refusal? f ctx run.record run.world.tokens with
      | some (name, e) => { run with notes, failure? := some (.validator, name, e) }
      | none => { run with record := c.labelled env run.record, notes } := by
  unfold frontStations refusal? Processor.requiredFields
  rw [List.foldl_cons]
  cases hc : ctx.isCancelled run.world.tokens with
  | true =>
    refine ⟨run.notes, ?_⟩
    rw [Run.next_of_cancelled ctx run h hc, Run.foldl_next_of_failed ctx _ rfl]
    rfl
  | false =>
    obtain ⟨notes, hfields⟩ := Run.next_judging ctx run h hc .validator "request_validator"
      AuditRecord.requireFields
    rw [hfields]
    cases run.record.requireFields with
    | error e =>
      refine ⟨notes, ?_⟩
      rw [Run.foldl_next_of_failed ctx _ rfl]
      rfl
    | ok _ =>
      rw [Run.failureOf, List.foldl_append]
      obtain ⟨notes, hfilter⟩ := foldl_filterStations f ctx { run with notes, failure? := none } rfl hc
      rw [hfilter]
      dsimp only
      cases f.judge run.record with
      | error e =>
        refine ⟨notes, ?_⟩
        rw [Run.foldl_next_of_failed ctx _ rfl]
        rfl
      | ok _ =>
        rw [Run.failureOf, ← h]
        exact foldl_mutators c env ctx { run with notes } h hc

/-- A delivered record passes what stands in front of the backend, and gets its labels there. -/
theorem runThrough_front_of_delivers (c : AuditConfig) (f : PrincipalFilter) (env : Environment)
    (ctx : CallContext) (r : AuditRecord) (w : World σ) (rest : List (Stage × Registration σ))
    (h : Delivers f ctx r w) :
    runThrough ctx (c.frontStations f env ++ rest) r w = runThrough ctx rest (c.labelled env r) w := by
  obtain ⟨notes, hfront⟩ := c.foldl_front f env ctx { record := r, world := w } rfl
  dsimp only at hfront
  rw [(refusal?_eq_none_iff f ctx r w).2 h] at hfront
  rw [Client.runThrough_append, hfront]
  rfl

/-- Of any other record nothing remains. -/
theorem world_runThrough_front_of_not_delivers (c : AuditConfig) (f : PrincipalFilter)
    (env : Environment) (ctx : CallContext) (r : AuditRecord) (w : World σ)
    (rest : List (Stage × Registration σ)) (h : ¬ Delivers f ctx r w) :
    (runThrough ctx (c.frontStations f env ++ rest) r w).world = w := by
  obtain ⟨notes, hfront⟩ := c.foldl_front f env ctx { record := r, world := w } rfl
  dsimp only at hfront
  obtain ⟨refusal, hr⟩ := Option.ne_none_iff_exists'.1 (mt (refusal?_eq_none_iff f ctx r w).1 h)
  rw [hr] at hfront
  rw [Client.runThrough_append, hfront]
  rfl

theorem world_runThrough_of_delivers (c : AuditConfig) (f : PrincipalFilter) (env : Environment)
    (backend : Processor σ) (stop : Stopper σ) (ctx : CallContext) (r : AuditRecord) (w : World σ)
    (h : Delivers f ctx r w) :
    (runThrough ctx (registered (c.settings f env backend stop)) r w).world =
      (backend.process ctx (c.labelled env r) w).world := by
  rw [registered_settings, runThrough_front_of_delivers c f env ctx r w _ h]
  simp only [runThrough, Client.turn, h.1, Bool.false_eq_true, if_false]
  split <;> rfl

theorem world_runThrough_of_not_delivers (c : AuditConfig) (f : PrincipalFilter) (env : Environment)
    (backend : Processor σ) (stop : Stopper σ) (ctx : CallContext) (r : AuditRecord) (w : World σ)
    (h : ¬ Delivers f ctx r w) :
    (runThrough ctx (registered (c.settings f env backend stop)) r w).world = w := by
  rw [registered_settings]
  exact c.world_runThrough_front_of_not_delivers f env ctx r w _ h

/-! ## The client and the interceptor -/

/-- Whichever backend is configured, its setting registers a backend and nothing else. Only a file may
fail to open. -/
theorem backendSetting_cases (c : AuditConfig) (w : World σ) :
    (∃ setting backend after, c.backendSetting w = (.ok setting, after) ∧
        registered [setting] = [(.backend, backend)]) ∨
      ∃ path e, c.backend = .file path ∧ (LineWriter.openFile path w).1 = .error e ∧
        c.backendSetting w =
          (.error (.invalid ("backend: " ++ e.message)), (LineWriter.openFile path w).2) := by
  unfold backendSetting
  cases c.backend with
  | tracing => exact .inl ⟨_, _, _, rfl, rfl⟩
  | stdout => exact .inl ⟨_, _, _, rfl, rfl⟩
  | file path =>
    dsimp only
    rcases ho : LineWriter.openFile path w with ⟨result, after⟩
    cases result with
    | ok writer => exact .inl ⟨_, _, _, rfl, rfl⟩
    | error e => exact .inr ⟨path, e, rfl, by rw [ho], by rw [ho]⟩

theorem client_of_invalid [PatternEngine] (c : AuditConfig) (env : Environment) (w : World σ)
    (e : ConfigError) (h : c.validate = .error e) : c.client env w = (.error e, w) := by
  simp only [client, h]

/-- Once a configuration is valid, only its backend is left to fail. -/
theorem client_of_valid [PatternEngine] (c : AuditConfig) (f : PrincipalFilter) (env : Environment)
    (w : World σ) (hv : c.validate = .ok ()) (hf : c.filter = .ok f) :
    c.client env w =
      ((c.backendSetting w).1.map (fun setting => Client.ofSettings
        (.defaultMode c.logMode :: validatorSettings f ++ c.mutatorSettings env ++ [setting])),
      (c.backendSetting w).2) := by
  rcases hb : c.backendSetting w with ⟨result, after⟩
  cases result <;> simp only [client, hv, hf, hb] <;> rfl

/-- The interceptor stands around the client. -/
theorem interceptor_eq [PatternEngine] (c : AuditConfig) (env : Environment) (w : World σ) :
    c.interceptor env w =
      ((c.client env w).1.map (fun client =>
        { principals := { sources := c.sources }, rules := c.rules, client }), (c.client env w).2) := by
  rcases hc : c.client env w with ⟨result, after⟩
  cases result <;> simp only [interceptor, hc] <;> rfl

/-- What the client of a configuration consists of. -/
theorem client_parts [PatternEngine] (c : AuditConfig) (env : Environment) (w opened : World σ)
    (client : Client σ) (h : c.client env w = (.ok client, opened)) :
    c.validate = .ok () ∧ ∃ f setting backend, c.filter = .ok f ∧
      c.backendSetting w = (.ok setting, opened) ∧ registered [setting] = [(.backend, backend)] ∧
      client.backends = [backend] ∧ client.defaultMode = c.logMode ∧
      client.stations = c.frontStations f env ++ [(.backend, backend)] := by
  cases hv : c.validate with
  | error e =>
    rw [c.client_of_invalid env w e hv] at h
    cases h
  | ok _ =>
    cases hf : c.filter with
    | error e => simp [AuditConfig.client, hv, hf] at h
    | ok f =>
      rw [c.client_of_valid f env w hv hf] at h
      rcases c.backendSetting_cases w with ⟨setting, backend, after, hb, hbackend⟩ | ⟨_, e, -, -, hb⟩
      · rw [hb] at h
        cases h
        exact ⟨rfl, f, setting, backend, rfl, hb, hbackend, c.ofSettings_front f env setting backend hbackend⟩
      · rw [hb] at h
        cases h

/-! ## What a configuration asks for -/

theorem requireFields_ok (r : AuditRecord) :
    r.requireFields = .ok () ↔
      r.body.methodName ≠ "" ∧ r.body.serviceName ≠ "" ∧ r.body.principalEmail ≠ "" := by
  rw [r.requireFields_eq, ← r.firstMissing?_eq_none_iff]
  cases r.firstMissing? with
  | none => exact iff_of_true rfl rfl
  | some name => exact iff_of_false (fun h => nomatch h) (fun h => nomatch h)

/-- The filter of a valid configuration allows the principals that the exclude pattern does not match
and, if there is an include pattern, that one matches. -/
theorem filter_allows [PatternEngine] (c : AuditConfig) (f : PrincipalFilter) (h : c.filter = .ok f)
    (p : String) :
    f.allows p = true ↔
      (∀ pattern ∈ c.excluded?.bind compile?, pattern p = false) ∧
        ∀ pattern ∈ c.included?.bind compile?, pattern p = true := by
  have hparts : PrincipalFilter.pattern? c.included? = some f.included? ∧
      PrincipalFilter.pattern? c.excluded? = some f.excluded? := by
    unfold filter filter? PrincipalFilter.ofPatterns? at h
    cases hi : PrincipalFilter.pattern? c.included? <;>
      cases he : PrincipalFilter.pattern? c.excluded? <;> simp_all
    subst h
    simp
  have hpattern : ∀ (text : Option String) (x : Option (String → Bool)),
      PrincipalFilter.pattern? text = some x → text.bind compile? = x := by
    intro text x hx
    cases text with
    | none => simpa [PrincipalFilter.pattern?] using hx
    | some t =>
      simp only [PrincipalFilter.pattern?, Option.map_eq_some_iff] at hx
      obtain ⟨q, hq, rfl⟩ := hx
      simpa using hq
  rw [hpattern _ _ hparts.1, hpattern _ _ hparts.2]
  unfold PrincipalFilter.allows
  cases f.excluded? <;> cases f.included? <;> simp

end AuditConfig

end CallAudit

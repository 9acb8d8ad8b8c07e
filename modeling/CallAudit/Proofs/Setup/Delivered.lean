import CallAudit.Proofs.Interception.Cases
import CallAudit.Proofs.Setup.Validity

/-!
# What a configured client delivers

A record may come from anywhere: with labels, with a mode, with names left out. Whether the client of a
configuration hands it to the backend, and as what, is said here without the processors. The notes of the
client tell what the backend was handed.

Results:
* `AuditConfig.Clears`, `AuditConfig.delivered`: which records are handed over, and what becomes of them.
* `AuditConfig.client_delivers`: a record that clears is handed over once; any other leaves the world as it
  was, and the caller is told of it only if a call is cancelled or a name is missing in fail-close mode.
-/
namespace CallAudit

variable {σ : Type}

/-! ## Notes of the backends -/

namespace Client

/-- The records that backends were handed, in order. -/
def handedOver (client : Client σ) (notes : List Note) : List AuditRecord :=
  (notes.filter (fun n => client.validators.length + client.mutators.length ≤ n.position)).map Note.given

theorem handedOver_append (client : Client σ) (front back : List Note) :
    client.handedOver (front ++ back) = client.handedOver front ++ client.handedOver back := by
  simp [handedOver]

/-- A backend was not reached before all validators and mutators had their turn. -/
theorem handedOver_eq_nil (client : Client σ) (notes : List Note)
    (hpositions : notes.map Note.position = List.range notes.length)
    (hlength : notes.length ≤ client.validators.length + client.mutators.length) :
    client.handedOver notes = [] := by
  unfold handedOver
  rw [List.map_eq_nil_iff, List.filter_eq_nil_iff]
  intro n hn
  have hmem : n.position ∈ List.range notes.length := hpositions ▸ List.mem_map_of_mem hn
  have := List.mem_range.1 hmem
  simp only [decide_eq_true_eq]
  omega

end Client

namespace AuditConfig

open Client (Run registered)
open PatternEngine (compile?)

/-! ## Which records are handed over, and as what -/

/-- The call is not cancelled, no required name is missing, and the patterns allow the principal. -/
structure Clears [PatternEngine] (c : AuditConfig) (ctx : CallContext) (r : AuditRecord)
    (tokens : TokenForest) : Prop where
  live : ctx.isCancelled tokens = false
  method : r.body.methodName ≠ ""
  service : r.body.serviceName ≠ ""
  principal : r.body.principalEmail ≠ ""
  excluded : ∀ pattern ∈ c.excluded?.bind compile?, pattern r.body.principalEmail = false
  included : ∀ pattern ∈ c.included?.bind compile?, pattern r.body.principalEmail = true

/-- The record as it is handed over: with a mode, with the configured labels that it lacks, and then with
those of the runtime that it still lacks. -/
def delivered (c : AuditConfig) (env : Environment) (r : AuditRecord) : AuditRecord :=
  { r with
    mode := if r.mode = .unspecified then c.logMode else r.mode
    labels := (r.labels.orElse c.labels).orElse (c.runtimeLabels env) }

theorem labelled_start (c : AuditConfig) (env : Environment) (r : AuditRecord) (w : World σ) :
    c.labelled env (Run.start c.logMode r w).record = c.delivered env r := by
  unfold labelled delivered Run.start AuditRecord.withLabels
  split <;> rfl

theorem get?_labels_delivered (c : AuditConfig) (env : Environment) (r : AuditRecord) (key : String) :
    (c.delivered env r).labels.get? key =
      ((r.labels.get? key).or (c.labels.get? key)).or ((c.runtimeLabels env).get? key) := by
  rw [delivered, Dict.get?_orElse, Dict.get?_orElse]

theorem mode_delivered_ne (c : AuditConfig) (env : Environment) (r : AuditRecord)
    (h : c.logMode ≠ .unspecified) : (c.delivered env r).mode ≠ .unspecified := by
  unfold delivered
  dsimp only
  split <;> assumption

theorem clears_iff_delivers [PatternEngine] (c : AuditConfig) (f : PrincipalFilter) (hf : c.filter = .ok f)
    (ctx : CallContext) (r : AuditRecord) (w : World σ) :
    c.Clears ctx r w.tokens ↔ Delivers f ctx r w := by
  rw [Delivers, requireFields_ok, c.filter_allows f hf]
  constructor
  · intro h
    exact ⟨h.live, ⟨h.method, h.service, h.principal⟩, h.excluded, h.included⟩
  · rintro ⟨hlive, ⟨hmethod, hservice, hprincipal⟩, hexcluded, hincluded⟩
    exact ⟨hlive, hmethod, hservice, hprincipal, hexcluded, hincluded⟩

/-! ## Runs -/

section
variable (f : PrincipalFilter) (ctx : CallContext) (r : AuditRecord) (tokens : TokenForest)

theorem refusal?_of_cancelled (h : ctx.isCancelled tokens = true) :
    refusal? f ctx r tokens = some ("request_validator", .cancelled) := by
  rw [refusal?, if_pos h]

theorem refusal?_of_missing (h : ctx.isCancelled tokens = false) (name : String)
    (hname : r.firstMissing? = some name) :
    refusal? f ctx r tokens =
      some ("request_validator", .invalidArgument ("payload is missing " ++ name)) := by
  rw [refusal?, if_neg (by simp [h]), r.requireFields_eq, hname]

/-- The filter only has a say on records with all names. -/
theorem refusal?_of_filter (h : ctx.isCancelled tokens = false) (hnames : r.firstMissing? = none) :
    refusal? f ctx r tokens = none ∨ ∃ reason,
      refusal? f ctx r tokens = some ("principal_filter", .preconditionFailed reason) := by
  rw [refusal?, if_neg (by simp [h]), r.requireFields_eq, hnames, PrincipalFilter.judge]
  cases f.allows r.body.principalEmail with
  | true => exact .inl rfl
  | false => exact .inr ⟨_, rfl⟩

end

theorem refusal?_start (c : AuditConfig) (f : PrincipalFilter) (ctx : CallContext) (r : AuditRecord)
    (w : World σ) :
    refusal? f ctx (Run.start c.logMode r w).record w.tokens = refusal? f ctx r w.tokens := by
  unfold Run.start
  split <;> rfl

section
variable (c : AuditConfig) (f : PrincipalFilter) (env : Environment) (client : Client σ)
variable (backend : Registration σ) (hbackends : client.backends = [backend])
variable (hmode : client.defaultMode = c.logMode)
variable (hstations : client.stations = c.frontStations f env ++ [(.backend, backend)])
variable (ctx : CallContext) (r : AuditRecord) (w : World σ)
include hbackends hstations

theorem length_frontStations :
    (c.frontStations f env (σ := σ)).length = client.validators.length + client.mutators.length := by
  have hlength := congrArg List.length hstations
  simp only [Client.stations, hbackends, List.length_append, List.length_map, List.length_singleton]
    at hlength
  omega

/-- The notes of what stands in front of the backend: the backend is in none of them, and if no validator
refuses the record there is one for each registration. -/
theorem notes_front :
    ∃ notes, client.handedOver notes = [] ∧
      (refusal? f ctx r w.tokens = none →
        notes.length = client.validators.length + client.mutators.length) ∧
      (c.frontStations f env).foldl (Run.next ctx) (Run.start c.logMode r w) =
        match refusal? f ctx r w.tokens with
        | some (name, e) => { Run.start c.logMode r w with notes, failure? := some (.validator, name, e) }
        | none => { record := c.delivered env r, world := w, notes } := by
  obtain ⟨notes, hfront⟩ := c.foldl_front f env ctx (Run.start c.logMode r w) rfl
  have hends := Run.ends_start ctx c.logMode r w (c.frontStations f env)
  obtain ⟨hpositions, hlength⟩ := Run.positions_of_ends ctx _ _ hends
  rw [c.length_frontStations f env client backend hbackends hstations] at hlength
  rw [show (Run.start c.logMode r w).world = w from rfl, refusal?_start, labelled_start] at hfront
  cases hr : refusal? f ctx r w.tokens with
  | some refusal =>
    rw [hr] at hfront
    rw [hfront] at hpositions hlength
    exact ⟨notes, client.handedOver_eq_nil notes hpositions hlength, fun h => (by cases h), hfront⟩
  | none =>
    rw [hr] at hfront
    rw [hfront] at hpositions hlength hends
    refine ⟨notes, client.handedOver_eq_nil notes hpositions hlength, fun _ => ?_, hfront⟩
    rw [← c.length_frontStations f env client backend hbackends hstations]
    exact Client.length_of_answers notes _ hends

include hmode

/-- A refused record is not handed over, and the client ends with what the refusal means. -/
theorem log_of_refused (name : String) (e : ProcessorError)
    (hr : refusal? f ctx r w.tokens = some (name, e)) :
    client.handedOver (client.noting.log ctx r (w.beside [])).world.user.2 = [] ∧
      (client.log ctx r w).world = w ∧
      (client.log ctx r w).result = Client.verdict .validator name e (c.delivered env r).mode := by
  obtain ⟨notes, hnone, -, hfront⟩ :=
    c.notes_front f env client backend hbackends hstations ctx r w
  rw [hr] at hfront
  rw [Client.log_noting_eq_foldl, Client.log_eq_foldl, hmode, hstations, List.foldl_append, hfront,
    Run.foldl_next_of_failed ctx _ rfl]
  refine ⟨hnone, rfl, ?_⟩
  dsimp only
  rw [Run.outcome_of_failure _ .validator name e rfl, ← labelled_start c env r w]
  rfl

/-- A record that clears is handed over once, and the client ends with what the backend makes of it. -/
theorem log_of_delivers (h : Delivers f ctx r w) :
    let turn := backend.processor.process ctx (c.delivered env r) w
    client.handedOver (client.noting.log ctx r (w.beside [])).world.user.2 = [c.delivered env r] ∧
      (client.log ctx r w).world = turn.world ∧
      (client.log ctx r w).result = match turn.result with
        | .ok () => .ok ()
        | .error e => Client.verdict .backend backend.processor.name e turn.record.mode := by
  intro turn
  obtain ⟨notes, hnone, hlength, hfront⟩ :=
    c.notes_front f env client backend hbackends hstations ctx r w
  have hr := (refusal?_eq_none_iff f ctx r w).2 h
  rw [hr] at hfront
  rw [Client.log_noting_eq_foldl, Client.log_eq_foldl, hmode, hstations, List.foldl_append, hfront]
  dsimp only
  rw [List.foldl_cons, List.foldl_nil]
  have hnext : Run.next ctx { record := c.delivered env r, world := w, notes } (.backend, backend) =
      { record := turn.record
        world := turn.world
        notes := notes ++ [⟨notes.length, c.delivered env r, turn.result⟩]
        failure? := match turn.result with
          | .ok () => none
          | .error e => some (.backend, backend.processor.name, e) } := by
    simp only [Run.next, h.1, Option.isSome_none, Bool.false_eq_true, if_false]
    rfl
  have hlast : client.handedOver [⟨notes.length, c.delivered env r, turn.result⟩] =
      [c.delivered env r] := by
    simp [Client.handedOver, hlength hr]
  rw [hnext]
  refine ⟨?_, rfl, ?_⟩
  · dsimp only [World.user_beside]
    rw [client.handedOver_append, hnone, hlast, List.nil_append]
  · cases ht : turn.result with
    | ok _ => rfl
    | error e => exact Run.outcome_of_failure _ .backend backend.processor.name e rfl

end

/-- What the caller is told when the first validator fails with the error. -/
def told (mode : LogMode) (e : ProcessorError) : Except PipelineError Unit :=
  if mode = .failClose then .error (.processingFailed .validator "request_validator" e) else .ok ()

/-- **What a client delivers.** The client of a configuration has one backend. It hands a record over if the
call is not cancelled, no required name is missing and the patterns allow the principal, and then hands it
over once: with the mode of the configuration if it had none, with the configured labels that it lacked and
with those of the runtime that it still lacked, and otherwise as it was. The world and the result are then
what the backend makes of it. A record that is not handed over leaves the world as it was. Where only the
patterns are against it the caller is told nothing. Where the call is cancelled or a name is missing, of an
excluded principal or not, the caller is told so in fail-close mode. -/
theorem client_delivers [PatternEngine] (c : AuditConfig) (env : Environment) (w opened : World σ)
    (client : Client σ) (h : c.client env w = (.ok client, opened)) :
    ∃ setting backend, c.backendSetting w = (.ok setting, opened) ∧
      registered [setting] = [(.backend, backend)] ∧ client.backends = [backend] ∧
      ∀ (ctx : CallContext) (r : AuditRecord) (before : World σ),
        let done := client.log ctx r before
        let noted := client.noting.log ctx r (before.beside [])
        let handed := client.handedOver noted.world.user.2
        let delivered := c.delivered env r
        (noted.result = done.result ∧ noted.world.bare = done.world) ∧
        (c.Clears ctx r before.tokens →
          let turn := backend.processor.process ctx delivered before
          handed = [delivered] ∧ done.world = turn.world ∧
            done.result = match turn.result with
              | .ok () => .ok ()
              | .error e => Client.verdict .backend backend.processor.name e turn.record.mode) ∧
        (¬ c.Clears ctx r before.tokens → handed = [] ∧ done.world = before) ∧
        (¬ c.Clears ctx r before.tokens → ctx.isCancelled before.tokens = false →
          r.firstMissing? = none → done.result = .ok ()) ∧
        (ctx.isCancelled before.tokens = true → done.result = told delivered.mode .cancelled) ∧
        (∀ name, ctx.isCancelled before.tokens = false → r.firstMissing? = some name →
          done.result = told delivered.mode (.invalidArgument ("payload is missing " ++ name))) ∧
        delivered.mode ≠ .unspecified ∧
        ∀ key, delivered.labels.get? key =
          ((r.labels.get? key).or (c.labels.get? key)).or ((c.runtimeLabels env).get? key) := by
  obtain ⟨hvalid, f, setting, backend, hf, hbackend, hregistered, hbackends, hmode, hstations⟩ :=
    c.client_parts env w opened client h
  refine ⟨setting, backend, hbackend, hregistered, hbackends, ?_⟩
  intro ctx r before done noted handed delivered
  have hclears := c.clears_iff_delivers f hf ctx r before
  have hrefused := c.log_of_refused f env client backend hbackends hmode hstations ctx r before
  refine ⟨client.log_noting ctx r before, fun hc => ?_, fun hc => ?_, fun hc hlive hnames => ?_,
    fun hcancelled => ?_, fun name hlive hname => ?_, ?_, c.get?_labels_delivered env r⟩
  · exact c.log_of_delivers f env client backend hbackends hmode hstations ctx r before (hclears.1 hc)
  · obtain ⟨⟨name, e⟩, hr⟩ := Option.ne_none_iff_exists'.1
      (mt (refusal?_eq_none_iff f ctx r before).1 (mt hclears.2 hc))
    obtain ⟨hnone, hworld, -⟩ := hrefused name e hr
    exact ⟨hnone, hworld⟩
  · rcases refusal?_of_filter f ctx r before.tokens hlive hnames with hr | ⟨reason, hr⟩
    · exact absurd (hclears.2 ((refusal?_eq_none_iff f ctx r before).1 hr)) hc
    · exact (hrefused _ _ hr).2.2
  · exact (hrefused _ _ (refusal?_of_cancelled f ctx r before.tokens hcancelled)).2.2
  · exact (hrefused _ _ (refusal?_of_missing f ctx r before.tokens hlive name hname)).2.2
  · exact c.mode_delivered_ne env r (c.validate_eq_ok_iff.1 hvalid).mode

/-- Audits the people of a company, not its bots. -/
def corporate : AuditConfig where
  logMode := .failClose
  rules := [⟨"*", .audit, .dataAccess⟩]
  included? := some "@corp$"
  excluded? := some "^bot"
  labels := Dict.ofList [("stage", "production"), ("team", "core")]
  backend := .tracing

/-- A record of a call to `service` that already has a stage. -/
def stagedRecord (service principal : String) : AuditRecord where
  body := { methodName := service ++ ".Get", serviceName := service, principalEmail := principal }
  labels := Dict.ofList [("stage", "test")]
  timestamp := Interceptor.callSeed.timestamp

/-- A record of a person is handed over, with its own stage. A bot's is not, and that is no failure; but one
without a service is. -/
theorem client_delivers_corporate :
    let env : Environment := fun name => if name = "K_SERVICE" then some "api" else none
    let ctx : CallContext := ⟨none, ⟨0⟩⟩
    let w : World Unit := Interceptor.bareWorld
    ∃ client opened, corporate.client env w = (.ok client, opened) ∧
      (let noted := client.noting.log ctx (stagedRecord "pkg" "eve@corp") (w.beside [])
        ∃ r, client.handedOver noted.world.user.2 = [r] ∧ r.mode = .failClose ∧
          r.labels.get? "stage" = some "test" ∧ r.labels.get? "team" = some "core" ∧
          r.labels.get? "runtime_service" = some "api") ∧
      (client.log ctx (stagedRecord "pkg" "bot@corp") w).result = .ok () ∧
      (client.log ctx (stagedRecord "" "bot@corp") w).result = .error (.processingFailed .validator
        "request_validator" (.invalidArgument "payload is missing service_name")) := by
  intro env ctx w
  have hvalid : corporate.validate = .ok () := Interceptor.eq_ok_of_toOption _ _ (by decide +kernel)
  obtain ⟨client, opened, hclient, -⟩ | ⟨path, e, hpath, -⟩ := corporate.setsUp_of_validate env w hvalid
  · obtain ⟨setting, backend, -, -, -, hlog⟩ := corporate.client_delivers env w opened client hclient
    refine ⟨client, opened, hclient, ?_, ?_, ?_⟩
    · obtain ⟨-, hcleared, -, -, -, -, -, hlabels⟩ := hlog ctx (stagedRecord "pkg" "eve@corp") w
      have hclears : corporate.Clears ctx (stagedRecord "pkg" "eve@corp") w.tokens := {
        live := by decide
        method := by decide
        service := by decide
        principal := by decide
        excluded := by decide +kernel
        included := by decide +kernel }
      refine ⟨_, (hcleared hclears).1, rfl, ?_, ?_, ?_⟩
      · rw [hlabels]
        decide +kernel
      · rw [hlabels]
        decide +kernel
      · rw [hlabels]
        decide +kernel
    · obtain ⟨-, -, -, hfiltered, -⟩ := hlog ctx (stagedRecord "pkg" "bot@corp") w
      refine hfiltered (fun h => ?_) (by decide) (by decide)
      exact absurd h.excluded (by decide +kernel)
    · obtain ⟨-, -, -, -, -, hmissing, -⟩ := hlog ctx (stagedRecord "" "bot@corp") w
      exact hmissing "service_name" (by decide) (by decide)
  · cases hpath

end AuditConfig

end CallAudit

import CallAudit.Proofs.Interception.FailClose
import CallAudit.Proofs.Rules.Governing

/-!
# What a call does

The result of a call does not say how often its handler ran, or what was logged before an error took the
place of the answer. So the handler and the logging of the client are made to keep events, in the order in
which they happen, beside the state of the users of the pipeline.

Results:
* `Interceptor.traced_eq`: a call with events is the call.
* `Interceptor.goes`: every call goes one of four ways, each with its events and its result.
* `Interceptor.intercept_outcome`: how often handler and client are invoked, and what the caller gets.
-/
namespace CallAudit

variable {σ ρ α : Type}

/-- What a call does, and what comes of it. -/
inductive CallEvent (ρ α : Type) where
  /-- the handler is run on a request -/
  | handled (request : ρ) (outcome : Except Status α)
  /-- a record is given to the client -/
  | logged (submitted : AuditRecord) (result : Except PipelineError Unit)

/-- What the handler is run on, and what it gives. -/
def CallEvent.handled? : CallEvent ρ α → Option (ρ × Except Status α)
  | handled request outcome => some (request, outcome)
  | logged _ _ => none

/-- The handler, recording each run. -/
def Handler.recording (h : Handler σ ρ α) : Handler (σ × List (CallEvent ρ α)) ρ α :=
  fun request tokens user =>
    let (outcome, tokens, own) := h request tokens user.1
    (outcome, tokens, (own, user.2 ++ [.handled request outcome]))

/-- The logging, recording each record that it is given. -/
def Interceptor.Logging.recording (log : Logging σ) : Logging (σ × List (CallEvent ρ α)) := fun ctx r w =>
  let logged := log ctx r w.bare
  ⟨logged.result, logged.record, logged.world.beside (w.user.2 ++ [.logged r logged.result])⟩

/-- The status that the caller gets, if it gets no response. -/
def Intercepted.status? (done : Intercepted σ α) : Option Status :=
  match done.result with
  | .ok _ => none
  | .error e => some e.toStatus

theorem FromRawJwt.principal_user_beside {τ : Type} (x : FromRawJwt σ) (metadata : Option Metadata)
    (w : World σ) (t : τ) :
    x.beside.principal metadata (w.beside t).user =
      ((x.principal metadata w.user).1, ((x.principal metadata w.user).2, t)) := by
  rw [World.user_beside, principal_beside]

theorem FromRawJwt.found_beside {τ : Type} (x : FromRawJwt σ) (metadata : Option Metadata) (w : World σ)
    (t : τ) :
    (x.beside.principal metadata (w.beside t).user).1 = (x.principal metadata w.user).1 := by
  rw [principal_user_beside]

namespace Interceptor

/-! ## The ways a call can go -/

/-- The ways a call can go: by what was found of its principal, what was done, which record was submitted
and what the caller got. -/
inductive Goes (ungoverned : Bool) (request : ρ) (outcome : Except Status α) :
    Except PrincipalError String → List (CallEvent ρ α) → Option AuditRecord →
      Except InterceptError α → Prop
  | refused (e : PrincipalError) : Goes ungoverned request outcome (.error e) [] none
      (.error (.principal e))
  | unaudited (p : String) (h : ungoverned = true) : Goes ungoverned request outcome (.ok p)
      [.handled request outcome] none (outcome.mapError .handler)
  | audited (p : String) (submitted : AuditRecord) (h : ungoverned = false) :
      Goes ungoverned request outcome (.ok p)
        [.handled request outcome, .logged submitted (.ok ())] (some submitted)
        (outcome.mapError .handler)
  | unlogged (p : String) (submitted : AuditRecord) (e : PipelineError) (h : ungoverned = false) :
      Goes ungoverned request outcome (.ok p)
        [.handled request outcome, .logged submitted (.error e)] (some submitted)
        (.error (.auditLog e))

namespace Goes

variable {ungoverned : Bool} {request : ρ} {outcome : Except Status α}
variable {found : Except PrincipalError String} {events : List (CallEvent ρ α)}
variable {submitted? : Option AuditRecord} {result : Except InterceptError α}
variable (h : Goes ungoverned request outcome found events submitted? result)
include h

theorem handled_once (p : String) (hp : found = .ok p) :
    events.filterMap CallEvent.handled? = [(request, outcome)] := by
  cases h with
  | refused e => cases hp
  | unaudited | audited | unlogged => rfl

theorem events_of_error (e : PrincipalError) (he : found = .error e) : events = [] := by
  cases h with
  | refused => rfl
  | unaudited | audited | unlogged => cases he

theorem of_logged (submitted : AuditRecord) (logged : Except PipelineError Unit)
    (hmem : .logged submitted logged ∈ events) :
    events = [.handled request outcome, .logged submitted logged] ∧ submitted? = some submitted := by
  cases h with
  | refused => simp at hmem
  | unaudited => simp at hmem
  | audited | unlogged =>
    simp only [List.mem_cons, reduceCtorEq, CallEvent.logged.injEq, List.not_mem_nil, or_false,
      false_or] at hmem
    obtain ⟨rfl, rfl⟩ := hmem
    exact ⟨rfl, rfl⟩

theorem logged_iff :
    (∃ submitted logged, .logged submitted logged ∈ events) ↔
      (∃ p, found = .ok p) ∧ ungoverned = false := by
  cases h with
  | refused | unaudited => simp [*]
  | audited | unlogged => simp [*]

theorem result_of_error (e : PrincipalError) (he : found = .error e) : result = .error (.principal e) := by
  cases h with
  | refused => cases he; rfl
  | unaudited | audited | unlogged => cases he

theorem result_of_logged (submitted : AuditRecord) (e : PipelineError)
    (hmem : .logged submitted (.error e) ∈ events) :
    result = .error (.auditLog e) := by
  cases h with
  | refused | unaudited | audited => simp at hmem
  | unlogged =>
    simp only [List.mem_cons, reduceCtorEq, CallEvent.logged.injEq, Except.error.injEq,
      List.not_mem_nil, or_false, false_or] at hmem
    rw [hmem.2]

theorem result_of_quiet (hfound : ∃ p, found = .ok p)
    (hquiet : ∀ submitted e, .logged submitted (.error e) ∉ events) :
    result = outcome.mapError .handler := by
  cases h with
  | refused => simp at hfound
  | unaudited | audited => rfl
  | unlogged p submitted e => exact absurd (by simp) (hquiet submitted e)

end Goes

/-! ## The events of a call -/

variable [HasPayload ρ] [HasPayload α]

/-- The call with its events. -/
def traced (x : Interceptor σ) (seed : RecordSeed) (ctx : CallContext) (rawMethod : String) (request : ρ)
    (handler : Handler σ ρ α) (w : World σ) : Intercepted (σ × List (CallEvent ρ α)) α :=
  interceptThrough x.principals.beside x.rules (Logging.recording x.client.log) seed ctx rawMethod request
    handler.recording (w.beside [])

/-- The events of the call. -/
def events (x : Interceptor σ) (seed : RecordSeed) (ctx : CallContext) (rawMethod : String) (request : ρ)
    (handler : Handler σ ρ α) (w : World σ) : List (CallEvent ρ α) :=
  (x.traced seed ctx rawMethod request handler w).world.user.2

section
variable (x : Interceptor σ) (seed : RecordSeed) (ctx : CallContext) (rawMethod : String) (request : ρ)
variable (handler : Handler σ ρ α) (w : World σ)

theorem traced_of_no_principal (e : PrincipalError)
    (hp : (x.principals.principal ctx.metadata w.user).1 = .error e) :
    x.traced seed ctx rawMethod request handler w =
      let done := x.intercept seed ctx rawMethod request handler w
      ⟨done.result, done.submitted?, done.world.beside []⟩ := by
  rw [x.intercept_of_no_principal seed ctx rawMethod request handler w e hp, traced,
    interceptThrough_of_no_principal _ _ _ _ _ _ _ _ _ e ((x.principals.found_beside _ w []).trans hp),
    FromRawJwt.principal_user_beside]
  rfl

theorem traced_of_ungoverned (p : String) (hp : (x.principals.principal ctx.metadata w.user).1 = .ok p)
    (hr : (x.ruleFor rawMethod).isUnset = true) :
    x.traced seed ctx rawMethod request handler w =
      let done := x.intercept seed ctx rawMethod request handler w
      ⟨done.result, done.submitted?,
        done.world.beside [.handled request (x.handled ctx request handler w).1]⟩ := by
  rw [x.intercept_of_ungoverned seed ctx rawMethod request handler w p hp hr, traced,
    interceptThrough_of_ungoverned _ _ _ _ _ _ _ _ _ p ((x.principals.found_beside _ w []).trans hp) hr,
    FromRawJwt.principal_user_beside]
  rfl

theorem traced_of_governed (p : String) (hp : (x.principals.principal ctx.metadata w.user).1 = .ok p)
    (hr : (x.ruleFor rawMethod).isUnset = false) :
    x.traced seed ctx rawMethod request handler w =
      let done := x.intercept seed ctx rawMethod request handler w
      let h := x.handled ctx request handler w
      let submitted := record (x.ruleFor rawMethod) (MethodName.parse rawMethod) p seed request h.1
      ⟨done.result, done.submitted?, done.world.beside
        [.handled request h.1, .logged submitted (x.client.log ctx submitted h.2).result]⟩ := by
  rw [x.intercept_of_governed seed ctx rawMethod request handler w p hp hr, traced,
    interceptThrough_of_governed _ _ _ _ _ _ _ _ _ p ((x.principals.found_beside _ w []).trans hp) hr,
    FromRawJwt.principal_user_beside]
  rfl

/-- Tracing changes nothing. -/
theorem traced_eq :
    x.traced seed ctx rawMethod request handler w =
      let done := x.intercept seed ctx rawMethod request handler w
      ⟨done.result, done.submitted?,
        done.world.beside (x.events seed ctx rawMethod request handler w)⟩ := by
  unfold events
  cases hp : (x.principals.principal ctx.metadata w.user).1 with
  | error e =>
    rw [x.traced_of_no_principal seed ctx rawMethod request handler w e hp]
    rfl
  | ok p =>
    cases hr : (x.ruleFor rawMethod).isUnset with
    | true =>
      rw [x.traced_of_ungoverned seed ctx rawMethod request handler w p hp hr]
      rfl
    | false =>
      rw [x.traced_of_governed seed ctx rawMethod request handler w p hp hr]
      rfl

theorem events_of_no_principal (e : PrincipalError)
    (hp : (x.principals.principal ctx.metadata w.user).1 = .error e) :
    x.events seed ctx rawMethod request handler w = [] := by
  rw [events, x.traced_of_no_principal seed ctx rawMethod request handler w e hp]
  rfl

theorem events_of_ungoverned (p : String) (hp : (x.principals.principal ctx.metadata w.user).1 = .ok p)
    (hr : (x.ruleFor rawMethod).isUnset = true) :
    x.events seed ctx rawMethod request handler w =
      [.handled request (x.handled ctx request handler w).1] := by
  rw [events, x.traced_of_ungoverned seed ctx rawMethod request handler w p hp hr]
  rfl

theorem events_of_governed (p : String) (hp : (x.principals.principal ctx.metadata w.user).1 = .ok p)
    (hr : (x.ruleFor rawMethod).isUnset = false) :
    x.events seed ctx rawMethod request handler w =
      let h := x.handled ctx request handler w
      let submitted := record (x.ruleFor rawMethod) (MethodName.parse rawMethod) p seed request h.1
      [.handled request h.1, .logged submitted (x.client.log ctx submitted h.2).result] := by
  rw [events, x.traced_of_governed seed ctx rawMethod request handler w p hp hr]
  rfl

/-- Every call goes one of the ways. -/
theorem goes :
    let done := x.intercept seed ctx rawMethod request handler w
    Goes (x.ruleFor rawMethod).isUnset request (x.handled ctx request handler w).1
      (x.principals.principal ctx.metadata w.user).1 (x.events seed ctx rawMethod request handler w)
      done.submitted? done.result := by
  intro done
  cases hp : (x.principals.principal ctx.metadata w.user).1 with
  | error e =>
    rw [x.events_of_no_principal seed ctx rawMethod request handler w e hp,
      show done = _ from x.intercept_of_no_principal seed ctx rawMethod request handler w e hp]
    exact .refused e
  | ok p =>
    cases hr : (x.ruleFor rawMethod).isUnset with
    | true =>
      rw [x.events_of_ungoverned seed ctx rawMethod request handler w p hp hr,
        show done = _ from x.intercept_of_ungoverned seed ctx rawMethod request handler w p hp hr]
      exact .unaudited p rfl
    | false =>
      rw [x.events_of_governed seed ctx rawMethod request handler w p hp hr,
        show done = _ from x.intercept_of_governed seed ctx rawMethod request handler w p hp hr]
      dsimp only
      cases (x.client.log ctx _ _).result with
      | ok _ => exact .audited p _ rfl
      | error e => exact .unlogged p _ e rfl

end

/-- **What a call does and gives.** A call with events is the call. Its handler is run once, on the
request of the caller, if the principal is found, and else not at all. The client is given a record at
most once, after the handler, and is given one exactly if the principal is found and a rule governs the
method. The caller gets the error of the principal if there is one, else the error of the logging if there
is one, whatever the handler gave, and else what the handler gave; and the status it gets is that of the
part that failed. -/
theorem intercept_outcome (x : Interceptor σ) (seed : RecordSeed) (ctx : CallContext) (rawMethod : String)
    (request : ρ) (handler : Handler σ ρ α) (w : World σ) :
    let done := x.intercept seed ctx rawMethod request handler w
    let traced := x.traced seed ctx rawMethod request handler w
    let events := x.events seed ctx rawMethod request handler w
    let found := (x.principals.principal ctx.metadata w.user).1
    let outcome := (x.handled ctx request handler w).1
    traced = ⟨done.result, done.submitted?, done.world.beside events⟩ ∧
    (∀ p, found = .ok p → events.filterMap CallEvent.handled? = [(request, outcome)]) ∧
    (∀ e, found = .error e → events = []) ∧
    (∀ submitted result, .logged submitted result ∈ events →
      events = [.handled request outcome, .logged submitted result] ∧
        done.submitted? = some submitted) ∧
    ((∃ submitted result, .logged submitted result ∈ events) ↔
      (∃ p, found = .ok p) ∧ (x.ruleFor rawMethod).isUnset = false) ∧
    ((∀ r ∈ x.rules, r.selector ≠ "") →
      ((x.ruleFor rawMethod).isUnset = false ↔
        ∃ r ∈ x.rules, r.covers (MethodName.parse rawMethod).full = true)) ∧
    (∀ e, found = .error e → done.result = .error (.principal e) ∧
      done.status? = some ⟨.unauthenticated, e.message⟩) ∧
    (∀ submitted e, .logged submitted (.error e) ∈ events → done.result = .error (.auditLog e) ∧
      done.status? = some ⟨.internal, "audit logging failed: " ++ e.message⟩) ∧
    ((∃ p, found = .ok p) → (∀ submitted e, .logged submitted (.error e) ∉ events) →
      done.result = outcome.mapError .handler ∧
        ∀ status, outcome = .error status → done.status? = some status) := by
  intro done traced events found outcome
  have hgoes := x.goes seed ctx rawMethod request handler w
  refine ⟨x.traced_eq seed ctx rawMethod request handler w, hgoes.handled_once, hgoes.events_of_error,
    hgoes.of_logged, hgoes.logged_iff, isUnset_mostRelevant (MethodName.parse rawMethod).full x.rules,
    ?_, ?_, ?_⟩
  · intro e hfound
    have hresult : done.result = _ := hgoes.result_of_error e hfound
    rw [Intercepted.status?, hresult]
    exact ⟨rfl, rfl⟩
  · intro submitted e hlogged
    have hresult : done.result = _ := hgoes.result_of_logged submitted e hlogged
    rw [Intercepted.status?, hresult]
    exact ⟨rfl, rfl⟩
  · intro hfound hquiet
    have hresult : done.result = _ := hgoes.result_of_quiet hfound hquiet
    refine ⟨hresult, fun status hstatus => ?_⟩
    rw [Intercepted.status?, hresult, show (x.handled ctx request handler w).1 = _ from hstatus]
    rfl

/-- Audits the methods of one package, into a backend whose sink is gone. -/
def packageInterceptor : Interceptor Unit :=
  { offlineInterceptor with rules := [⟨"pkg.*", .audit, .dataAccess⟩] }

/-- The handler fails each time. The caller is told so where nothing is audited; where the audit fails too
it is told of that, and without a principal the handler does not run. -/
theorem intercept_outcome_failing :
    let handler : Handler Unit Payload Payload :=
      fun _ tokens user => (.error ⟨.notFound, "no such item"⟩, tokens, user)
    let call (ctx : CallContext) (method : String) :=
      packageInterceptor.intercept callSeed ctx method Payload.null handler bareWorld
    let events (ctx : CallContext) (method : String) :=
      packageInterceptor.events callSeed ctx method Payload.null handler bareWorld
    (call bearerContext "/other.Service/Get").status? = some ⟨.notFound, "no such item"⟩ ∧
      (∃ submitted e, .logged submitted (.error e) ∈ events bearerContext "/pkg.Service/Get" ∧
        (call bearerContext "/pkg.Service/Get").status? =
          some ⟨.internal, "audit logging failed: " ++ e.message⟩) ∧
      events ⟨none, ⟨0⟩⟩ "/pkg.Service/Get" = [] ∧
      (call ⟨none, ⟨0⟩⟩ "/pkg.Service/Get").status? =
        some ⟨.unauthenticated, "call carries no metadata"⟩ := by
  intro handler call events
  have hp : (packageInterceptor.principals.principal bearerContext.metadata bareWorld.user).1 = .ok "a" :=
    eq_ok_of_toOption _ _ (by decide +kernel)
  have hother : (packageInterceptor.ruleFor "/other.Service/Get").isUnset = true := by decide +kernel
  have hpackage : (packageInterceptor.ruleFor "/pkg.Service/Get").isUnset = false := by decide +kernel
  obtain ⟨-, -, -, -, -, -, -, -, hquiet⟩ := packageInterceptor.intercept_outcome callSeed bearerContext
    "/other.Service/Get" Payload.null handler bareWorld
  obtain ⟨-, -, -, -, -, -, -, hlogged, -⟩ := packageInterceptor.intercept_outcome callSeed bearerContext
    "/pkg.Service/Get" Payload.null handler bareWorld
  obtain ⟨-, -, hnothing, -, -, -, hnobody, -, -⟩ := packageInterceptor.intercept_outcome callSeed
    ⟨none, ⟨0⟩⟩ "/pkg.Service/Get" Payload.null handler bareWorld
  refine ⟨?_, ?_, hnothing .missingMetadata rfl, (hnobody .missingMetadata rfl).2⟩
  · refine (hquiet ⟨"a", hp⟩ ?_).2 _ rfl
    rw [packageInterceptor.events_of_ungoverned callSeed bearerContext _ Payload.null handler bareWorld "a"
      hp hother]
    simp
  · have hevents : events bearerContext "/pkg.Service/Get" = _ := packageInterceptor.events_of_governed
      callSeed bearerContext _ Payload.null handler bareWorld "a" hp hpackage
    obtain ⟨submitted, hmem⟩ : ∃ submitted, .logged submitted (.error (.processingFailed .backend "broken"
        (.backend "sink offline"))) ∈ events bearerContext "/pkg.Service/Get" := by
      rw [hevents]
      exact ⟨_, List.mem_cons_of_mem _ (List.mem_singleton_self _)⟩
    exact ⟨submitted, _, hmem, (hlogged submitted _ hmem).2⟩

end Interceptor

end CallAudit

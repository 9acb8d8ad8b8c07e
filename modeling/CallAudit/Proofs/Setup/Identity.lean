import CallAudit.Pattern.Reader
import CallAudit.Proofs.Interception.Cases
import CallAudit.Proofs.Methods.Written
import CallAudit.Proofs.Rules.Governing
import CallAudit.Proofs.Setup.Built

/-!
# Which handled calls are recorded

Three parts decide what an identity is. The claims give the principal, and an email may be empty; the
method's name gives the service, and a bare name has none; the first validator refuses a record that
lacks either. By then the call has been handled. So the validator is the only guard, and what it refuses
is told apart here from all else that keeps a record from its backend.

Results:
* `interceptor_parts`: what the client of a configured interceptor consists of.
* `interceptor_admits`: the record of a handled call has all required names exactly if its principal is
  not empty and its method names a service; such a record reaches the backend, unless the filter excludes
  the principal or the call is cancelled.
* `interceptor_refuses_handled`: calls that are handled and then refused.
-/
namespace CallAudit.AuditConfig

open Client (Setting)

variable {σ : Type}

/-! ## The interceptor of a configuration -/

theorem interceptor_parts [PatternEngine] (c : AuditConfig) (env : Environment) (w opened : World σ)
    (x : Interceptor σ) (h : c.interceptor env w = (.ok x, opened)) :
    ∃ f backend, c.filter = .ok f ∧ x.client.backends = [backend] ∧
      x.client.defaultMode = c.logMode ∧
      x.client.stations = c.frontStations f env ++ [(.backend, backend)] := by
  rw [interceptor_eq] at h
  rcases hc : c.client env w with ⟨result, after⟩
  rw [hc] at h
  cases result with
  | error e => cases h
  | ok client =>
    cases h
    obtain ⟨-, f, -, backend, hf, -, -, hparts⟩ := c.client_parts env w after client hc
    exact ⟨f, backend, hf, hparts⟩

/-! ## The record of a handled call -/

/-- The written name has a slash behind those in front, or a point behind its first character. -/
def NamesService (rawMethod : String) : Prop :=
  '/' ∈ rawMethod.toList.dropWhile (· == '/') ∨
    '.' ∈ (rawMethod.toList.dropWhile (· == '/')).tail

instance (rawMethod : String) : Decidable (NamesService rawMethod) :=
  inferInstanceAs (Decidable (_ ∨ _))

theorem requireFields_record {ρ α : Type} [HasPayload ρ] [HasPayload α] (rule : Rule)
    (rawMethod principal : String) (seed : RecordSeed) (request : ρ) (outcome : Except Status α)
    (mode : LogMode) :
    { Interceptor.record rule (MethodName.parse rawMethod) principal seed request outcome with
      mode }.requireFields = .ok () ↔ principal ≠ "" ∧ NamesService rawMethod := by
  rw [requireFields_ok, NamesService, ← MethodName.service_ne_empty_iff]
  simp only [Interceptor.record]
  constructor
  · rintro ⟨-, hservice, hprincipal⟩
    exact ⟨hprincipal, hservice⟩
  · rintro ⟨hprincipal, hservice⟩
    exact ⟨MethodName.full_ne_empty rawMethod hservice, hservice, hprincipal⟩

/-- A call is handled by the interceptor of a configuration, and a rule governs its method. Its record has
all required names exactly if the principal is not empty and the method names a service. Then it is given
to the backend, with the labels of the configuration, unless the filter does not allow the principal or
the call is cancelled by then; and if the backend takes it the caller gets what the handler gave. -/
theorem interceptor_admits [PatternEngine] (c : AuditConfig) (env : Environment) (w opened : World σ)
    (x : Interceptor σ) (hx : c.interceptor env w = (.ok x, opened)) :
    ∃ f backend, c.filter = .ok f ∧ x.client.backends = [backend] ∧
      ∀ (ρ α : Type) [HasPayload ρ] [HasPayload α] (seed : RecordSeed) (ctx : CallContext)
        (rawMethod : String) (request : ρ) (handler : Handler σ ρ α) (before : World σ)
        (principal : String),
        (x.principals.principal ctx.metadata before.user).1 = .ok principal →
        (x.ruleFor rawMethod).isUnset = false →
        let handled := x.handled ctx request handler before
        let out := x.intercept seed ctx rawMethod request handler before
        ∃ submitted, out.submitted? = some submitted ∧
          submitted.body.principalEmail = principal ∧
          submitted.body.methodName = (MethodName.parse rawMethod).full ∧
          submitted.body.serviceName = (MethodName.parse rawMethod).service ∧
          (submitted.requireFields = .ok () ↔ principal ≠ "" ∧ NamesService rawMethod) ∧
          (principal ≠ "" → NamesService rawMethod → f.allows principal = true →
            ctx.isCancelled handled.2.tokens = false →
            let delivered := backend.processor.process ctx
              (c.labelled env { submitted with mode := c.logMode }) handled.2
            out.world = delivered.world ∧
              (delivered.result = .ok () → out.result = handled.1.mapError .handler)) := by
  obtain ⟨f, backend, hf, hbackends, hmode, hstations⟩ := c.interceptor_parts env w opened x hx
  refine ⟨f, backend, hf, hbackends, ?_⟩
  intro ρ α _ _ seed ctx rawMethod request handler before principal hp hr handled out
  have hout : out = _ :=
    x.intercept_of_governed seed ctx rawMethod request handler before principal hp hr
  let submitted := Interceptor.record (x.ruleFor rawMethod) (MethodName.parse rawMethod) principal seed
    request handled.1
  have hfields : ∀ mode, { submitted with mode }.requireFields = .ok () ↔
      principal ≠ "" ∧ NamesService rawMethod :=
    requireFields_record (x.ruleFor rawMethod) rawMethod principal seed request handled.1
  refine ⟨submitted, congrArg Intercepted.submitted? hout, rfl, rfl, rfl, hfields .unspecified, ?_⟩
  intro hprincipal hservice hallowed hcancelled delivered
  -- with the mode of the configuration the record passes to the backend, whose turn is the last
  have hdelivers : Delivers f ctx { submitted with mode := c.logMode } handled.2 :=
    ⟨hcancelled, (hfields c.logMode).2 ⟨hprincipal, hservice⟩, hallowed⟩
  have hlog : x.client.log ctx submitted handled.2 = Client.runThrough ctx [(.backend, backend)]
      (c.labelled env { submitted with mode := c.logMode }) handled.2 := by
    rw [← c.runThrough_front_of_delivers f env ctx _ _ [(.backend, backend)] hdelivers, Client.log,
      hstations, Client.withMode, hmode]
    rfl
  have hturn : Client.turn backend.processor ctx
      (c.labelled env { submitted with mode := c.logMode }) handled.2 = delivered := by
    rw [Client.turn, if_neg (by simp [hcancelled])]
  rw [hout]
  dsimp only
  rw [hlog]
  simp only [Client.runThrough, hturn]
  cases delivered.result with
  | ok _ => exact ⟨rfl, fun _ => rfl⟩
  | error e => exact ⟨rfl, fun h => by cases h⟩

/-! ## Calls of every method -/

/-- Audits every method as an event, and fails calls that cannot be audited. -/
def ofEverything : AuditConfig where
  logMode := .failClose
  rules := [⟨"*", .audit, .dataAccess⟩]
  runtimeInfo := false
  backend := .tracing

/-- The interceptor that is made of it. -/
def everyInterceptor : Interceptor Nat where
  principals := { sources := ofEverything.sources }
  rules := ofEverything.rules
  client := Client.ofSettings
    [.defaultMode .failClose, .validator .requiredFields, .backend .events]

theorem validate_ofEverything : ofEverything.validate = .ok () :=
  Interceptor.eq_ok_of_toOption _ _ (by decide +kernel)

theorem interceptor_ofEverything (w : World Nat) :
    ofEverything.interceptor (fun _ => none) w = (.ok everyInterceptor, w) := by
  have hf : ofEverything.filter = .ok {} := rfl
  simp only [interceptor, client, validate_ofEverything, hf, backendSetting]
  rfl

/-- A call that carries the token. -/
def carrying (token : String) : CallContext :=
  ⟨some (Metadata.ofList [("authorization", "Bearer " ++ token)]), ⟨0⟩⟩

/-- Counts what it handles. -/
def counting : Handler Nat Payload Payload := fun request tokens count => (.ok request, tokens, count + 1)

def uncounted : World Nat := { host := { files := ⟨fun _ => none, []⟩ }, user := 0 }

/-- A call of the method with the token. -/
def everyCall (token rawMethod : String) : Intercepted Nat Payload :=
  everyInterceptor.intercept Interceptor.callSeed (carrying token) rawMethod (Payload.integer 7) counting
    uncounted

/-- A call of `a` whose method names a service: its record is an event, and the caller gets the answer. -/
theorem interceptor_admits_event :
    let out := everyCall "e30.eyJlbWFpbCI6ImEifQ.s" "/pkg.Service/Get"
    (∃ r, out.submitted? = some r ∧ r.requireFields = .ok ()) ∧
      out.result = .ok (.integer 7) ∧ out.world.user = 1 ∧ out.world.host.events.length = 1 := by
  intro out
  obtain ⟨f, backend, hf, hbackends, hadmits⟩ := interceptor_admits ofEverything (fun _ => none)
    uncounted uncounted everyInterceptor (interceptor_ofEverything uncounted)
  cases hf
  cases hbackends
  have hp : (everyInterceptor.principals.principal
      (carrying "e30.eyJlbWFpbCI6ImEifQ.s").metadata uncounted.user).1 = .ok "a" :=
    Interceptor.eq_ok_of_toOption _ _ (by decide +kernel)
  have hr : (everyInterceptor.ruleFor "/pkg.Service/Get").isUnset = false := by decide +kernel
  obtain ⟨r, hsubmitted, -, -, -, hfields, hdelivered⟩ := hadmits Payload Payload Interceptor.callSeed
    (carrying "e30.eyJlbWFpbCI6ImEifQ.s") "/pkg.Service/Get" (.integer 7) counting uncounted "a" hp hr
  obtain ⟨hworld, hresult⟩ := hdelivered (by decide) (by decide) rfl (by decide +kernel)
  exact ⟨⟨r, hsubmitted, hfields.2 ⟨by decide, by decide⟩⟩, hresult rfl, by decide +kernel,
    congrArg (fun w => w.host.events.length) hworld⟩

/-- An empty email, and a method that names no service: both calls are handled, and then their records
are refused. -/
theorem interceptor_refuses_handled :
    let nameless := everyCall "e30.eyJlbWFpbCI6IiJ9.s" "/pkg.Service/Get"
    let bare := everyCall "e30.eyJlbWFpbCI6ImEifQ.s" "Ping"
    ofEverything.validate = .ok () ∧
      ofEverything.interceptor (fun _ => none) uncounted = (.ok everyInterceptor, uncounted) ∧
      nameless.world.user = 1 ∧ bare.world.user = 1 ∧
      (∃ r, nameless.submitted? = some r ∧
        r.requireFields = .error (.invalidArgument "payload is missing principal_email")) ∧
      (∃ r, bare.submitted? = some r ∧
        r.requireFields = .error (.invalidArgument "payload is missing service_name")) ∧
      nameless.world.host.events = [] ∧ bare.world.host.events = [] := by
  intro nameless bare
  refine ⟨validate_ofEverything, interceptor_ofEverything uncounted, by decide +kernel,
    by decide +kernel, ?_, ?_, by decide +kernel, by decide +kernel⟩
  · have hp : (everyInterceptor.principals.principal
        (carrying "e30.eyJlbWFpbCI6IiJ9.s").metadata uncounted.user).1 = .ok "" :=
      Interceptor.eq_ok_of_toOption _ _ (by decide +kernel)
    have hr : (everyInterceptor.ruleFor "/pkg.Service/Get").isUnset = false := by decide +kernel
    exact ⟨_, congrArg Intercepted.submitted?
      (everyInterceptor.intercept_of_governed _ _ _ _ _ _ "" hp hr), rfl⟩
  · have hp : (everyInterceptor.principals.principal
        (carrying "e30.eyJlbWFpbCI6ImEifQ.s").metadata uncounted.user).1 = .ok "a" :=
      Interceptor.eq_ok_of_toOption _ _ (by decide +kernel)
    have hr : (everyInterceptor.ruleFor "Ping").isUnset = false := by decide +kernel
    exact ⟨_, congrArg Intercepted.submitted?
      (everyInterceptor.intercept_of_governed _ _ _ _ _ _ "a" hp hr), rfl⟩

end CallAudit.AuditConfig

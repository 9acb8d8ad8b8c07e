import CallAudit.Proofs.Interception.Events
import CallAudit.Proofs.Methods.Written
import CallAudit.Proofs.Principal.Selection
import CallAudit.Proofs.Setup.Validity

/-!
# What the command line foretells

The command line says of a method which rule governs it, without an interceptor and without a call. That is
worth something only if the calls go that way. So it is said here of all interceptors with the rules and the
sources of a configuration, whatever their clients and verifiers, what their calls of a method do; and what
the command line prints about the configuration is compared with it.

Results:
* `AuditConfig.OnlyHandles`, `AuditConfig.RecordsUnder`: what the calls of a method do.
* `AuditConfig.exists_principal`: the calls of a valid configuration include one with a principal.
* `AuditConfig.report_foretells`: the report is the forecast, however the method is written.
-/
namespace CallAudit

namespace CommandLine

/-- Every method can be asked about, also one that starts with a dash. -/
theorem parse_match (rawMethod : String) :
    parse ["match", "--", rawMethod] = .perform none (.governing rawMethod) := by
  rfl

theorem run_of_load [PatternEngine] (args : List String) (config? : Option String) (command : Command)
    (lookup : String → Option String) (fs : FileSystem) (c : AuditConfig)
    (hargs : parse args = .perform config? command)
    (hload : (searchOf config? lookup).load fs = .ok c) :
    run args lookup fs = ⟨0, command.answer c, none⟩ := by
  rw [run, hargs, Request.run, hload]

end CommandLine

namespace AuditConfig

/-! ## Calls of a method -/

/-- Every call of the method that has a principal is handled and nothing more, by any interceptor with the
rules and the sources. -/
def OnlyHandles (c : AuditConfig) (rawMethod : String) : Prop :=
  ∀ (σ ρ α : Type) [HasPayload ρ] [HasPayload α] (x : Interceptor σ), x.rules = c.rules →
    x.principals.sources = c.sources → ∀ (seed : RecordSeed) (ctx : CallContext) (request : ρ)
      (handler : Handler σ ρ α) (w : World σ) (p : String),
      (x.principals.principal ctx.metadata w.user).1 = .ok p →
      ∃ outcome, x.events seed ctx rawMethod request handler w = [.handled request outcome]

/-- The rule governs every such call: it is handled and then given to the client, as a record of that name,
with the log type of the rule and with the payloads that its directive asks for: the request if it asks for
one or both, and the response if it asks for both and the handler gave one. -/
def RecordsUnder (c : AuditConfig) (rawMethod name : String) (rule : Rule) : Prop :=
  ∀ (σ ρ α : Type) [HasPayload ρ] [HasPayload α] (x : Interceptor σ), x.rules = c.rules →
    x.principals.sources = c.sources → ∀ (seed : RecordSeed) (ctx : CallContext) (request : ρ)
      (handler : Handler σ ρ α) (w : World σ) (p : String),
      (x.principals.principal ctx.metadata w.user).1 = .ok p →
      ∃ outcome submitted result, x.events seed ctx rawMethod request handler w =
          [.handled request outcome, .logged submitted result] ∧
        x.ruleFor rawMethod = rule ∧ submitted.body.methodName = name ∧
        submitted.logType = rule.logType ∧
        submitted.body.request =
          (if rule.directive = .auditRequestOnly ∨ rule.directive = .auditRequestAndResponse then
            Snapshot.ofPayload? (HasPayload.payload request)
          else none) ∧
        submitted.body.response = match outcome with
          | .ok response =>
            if rule.directive = .auditRequestAndResponse then
              Snapshot.ofPayload? (HasPayload.payload response)
            else none
          | .error _ => none

theorem onlyHandles_of_ungoverned (c : AuditConfig) (rawMethod : String)
    (h : (mostRelevant (MethodName.parse rawMethod).full c.rules).isUnset = true) :
    c.OnlyHandles rawMethod := by
  intro σ ρ α _ _ x hrules hsources seed ctx request handler w p hp
  rw [← hrules] at h
  exact ⟨_, x.events_of_ungoverned seed ctx rawMethod request handler w p hp h⟩

theorem recordsUnder_of_governed (c : AuditConfig) (rawMethod : String)
    (h : (mostRelevant (MethodName.parse rawMethod).full c.rules).isUnset = false) :
    c.RecordsUnder rawMethod (MethodName.parse rawMethod).full
      (mostRelevant (MethodName.parse rawMethod).full c.rules) := by
  intro σ ρ α _ _ x hrules hsources seed ctx request handler w p hp
  rw [← hrules] at h ⊢
  refine ⟨_, _, _, x.events_of_governed seed ctx rawMethod request handler w p hp h, rfl, rfl, rfl, ?_, ?_⟩
  · simp [Interceptor.record, Directive.includesRequest, Interceptor.ruleFor]
  · cases (x.handled ctx request handler w).1 <;>
      simp [Interceptor.record, Interceptor.responseOf, Directive.includesResponse, Interceptor.ruleFor]

/-! ## A call with a principal -/

/-- A token with the claims `{"email":"a"}`. -/
def issuedToken : String := "e30.eyJlbWFpbCI6ImEifQ.s"

theorem decodePrincipal_issuedToken : decodePrincipal issuedToken = .ok "a" :=
  Interceptor.eq_ok_of_toOption _ _ (by decide +kernel)

/-- If there is a source at all, some call has a principal: its token stands where the first source looks. -/
theorem exists_principal (sources : List JwtSource) (hne : sources ≠ []) :
    ∃ ctx : CallContext,
      (FromRawJwt.principal { sources, verifier := Verifier.trusting Unit } ctx.metadata ()).1 = .ok "a" := by
  obtain ⟨source, rest, rfl⟩ := List.exists_cons_of_ne_nil hne
  let m := Metadata.ofList [(source.key, source.lead ++ issuedToken)]
  have hheld : m.get? source.key = some (source.lead ++ issuedToken) :=
    (Metadata.get?_ofList_eq_some_iff _ _ _).2 ⟨[], source.key, [], rfl, rfl, by simp⟩
  have hoffers : source.Offers m issuedToken := ⟨source.lead, hheld, rfl, by decide⟩
  have hchosen : chooseToken? (source :: rest) m = some issuedToken :=
    (chooseToken?_eq_some_iff _ _ _).2 ⟨[], source, rest, rfl, hoffers, by simp⟩
  refine ⟨⟨some m, ⟨0⟩⟩, ?_⟩
  rw [FromRawJwt.principal_of_some _ m () issuedToken hchosen]
  exact decodePrincipal_issuedToken

/-- What records the calls of a method does not only handle them. -/
theorem not_onlyHandles_of_recordsUnder (c : AuditConfig) (hsourced : c.sources ≠ []) (rawMethod name : String)
    (rule : Rule) (h : c.RecordsUnder rawMethod name rule) : ¬ c.OnlyHandles rawMethod := by
  intro honly
  obtain ⟨ctx, hp⟩ := exists_principal c.sources hsourced
  let x : Interceptor Unit := ⟨{ sources := c.sources }, c.rules, Client.ofSettings []⟩
  let handler : Handler Unit Payload Payload := fun request tokens user => (.ok request, tokens, user)
  obtain ⟨_, hhandled⟩ := honly Unit Payload Payload x rfl rfl Interceptor.callSeed ctx Payload.null handler
    Interceptor.bareWorld "a" hp
  obtain ⟨_, _, _, hrecorded, -⟩ := h Unit Payload Payload x rfl rfl Interceptor.callSeed ctx Payload.null
    handler Interceptor.bareWorld "a" hp
  cases hhandled.symm.trans hrecorded

/-! ## The report -/

theorem governingText_of_ungoverned (c : AuditConfig) (rawMethod : String)
    (h : (mostRelevant (MethodName.parse rawMethod).full c.rules).isUnset = true) :
    CommandLine.governingText c rawMethod =
      (MethodName.parse rawMethod).full ++ ": not audited (no matching rule)\n" := by
  simp only [CommandLine.governingText, h, if_true]

theorem governingText_of_governed (c : AuditConfig) (rawMethod : String)
    (h : (mostRelevant (MethodName.parse rawMethod).full c.rules).isUnset = false) :
    let rule := mostRelevant (MethodName.parse rawMethod).full c.rules
    CommandLine.governingText c rawMethod =
      (MethodName.parse rawMethod).full ++ ": selector '" ++ rule.selector ++ "', directive " ++
        rule.directive.name ++ ", log type " ++ rule.logType.name ++ "\n" := by
  simp only [CommandLine.governingText, h, Bool.false_eq_true, if_false]

theorem governingText_ne (c : AuditConfig) (rawMethod : String)
    (h : (mostRelevant (MethodName.parse rawMethod).full c.rules).isUnset = false) :
    CommandLine.governingText c rawMethod ≠
      (MethodName.parse rawMethod).full ++ ": not audited (no matching rule)\n" := by
  rw [c.governingText_of_governed rawMethod h]
  intro he
  have hchars := congrArg String.toList he
  simp [List.append_assoc] at hchars

theorem governingText_congr (c : AuditConfig) (rawMethod rawMethod' : String)
    (h : (MethodName.parse rawMethod).full = (MethodName.parse rawMethod').full) :
    CommandLine.governingText c rawMethod = CommandLine.governingText c rawMethod' := by
  simp only [CommandLine.governingText, h]

/-- **The report is the forecast.** For every configuration that is found and every method: the report says
that the method is not audited exactly if every call of it that has a principal is only handled, by any
interceptor with the rules and the sources of the configuration. Otherwise it shows a rule of the
configuration, and all those calls are recorded under that rule and under the name in the report. A method
written with slashes gets the report that it gets written with a point. -/
theorem report_foretells [PatternEngine] (args : List String) (config? : Option String) (rawMethod : String)
    (lookup : String → Option String) (fs : FileSystem) (c : AuditConfig)
    (hargs : CommandLine.parse args = .perform config? (.governing rawMethod))
    (hload : (CommandLine.searchOf config? lookup).load fs = .ok c) :
    let report := CommandLine.run args lookup fs
    let name := (MethodName.parse rawMethod).full
    (report.code = 0 ∧ report.error? = none) ∧
    (report.stdout = name ++ ": not audited (no matching rule)\n" ↔ c.OnlyHandles rawMethod) ∧
    (¬ c.OnlyHandles rawMethod → ∃ rule ∈ c.rules, rule.covers name = true ∧
      report.stdout = name ++ ": selector '" ++ rule.selector ++ "', directive " ++
        rule.directive.name ++ ", log type " ++ rule.logType.name ++ "\n" ∧
      c.RecordsUnder rawMethod name rule) ∧
    ∀ service method args', service ≠ "" → '/' ∉ service.toList → '/' ∉ method.toList →
      rawMethod = "/" ++ service ++ "/" ++ method →
      CommandLine.parse args' = .perform config? (.governing (service ++ "." ++ method)) →
      CommandLine.run args' lookup fs = report := by
  intro report name
  have hreport : report = ⟨0, CommandLine.governingText c rawMethod, none⟩ :=
    CommandLine.run_of_load args config? (.governing rawMethod) lookup fs c hargs hload
  have hsourced := (c.validate_eq_ok_iff.1 (validate_of_load _ fs c hload)).sourced
  refine ⟨by rw [hreport]; exact ⟨rfl, rfl⟩, ?_, fun hrecorded => ?_, ?_⟩
  · rw [hreport]
    cases hr : (mostRelevant name c.rules).isUnset with
    | true =>
      exact iff_of_true (c.governingText_of_ungoverned rawMethod hr)
        (c.onlyHandles_of_ungoverned rawMethod hr)
    | false =>
      exact iff_of_false (c.governingText_ne rawMethod hr)
        (c.not_onlyHandles_of_recordsUnder hsourced rawMethod name _ (c.recordsUnder_of_governed rawMethod hr))
  · cases hr : (mostRelevant name c.rules).isUnset with
    | true => exact absurd (c.onlyHandles_of_ungoverned rawMethod hr) hrecorded
    | false =>
      obtain ⟨-, hunset⟩ | ⟨rule, hmem, hcovers, hrule⟩ := mostRelevant_cases name c.rules
      · rw [hunset] at hr
        cases hr
      · have htext := c.governingText_of_governed rawMethod hr
        have hunder := c.recordsUnder_of_governed rawMethod hr
        rw [hrule] at htext hunder
        rw [hreport]
        exact ⟨rule, hmem, hcovers, htext, hunder⟩
  · intro service method args' hservice hs hm hraw hargs'
    have hreport' := CommandLine.run_of_load args' config? _ lookup fs c hargs' hload
    have hname : (MethodName.parse (service ++ "." ++ method)).full = name := by
      rw [MethodName.full_parse_point service method hs hm, show name = (MethodName.parse rawMethod).full from rfl,
        hraw, MethodName.parse_slashes service method hservice hs hm]
    rw [hreport', hreport, CommandLine.Command.answer, c.governingText_congr _ rawMethod hname]

/-- Audits the methods of one package. -/
def onePackage : AuditConfig where
  rules := [⟨"pkg.*", .audit, .dataAccess⟩]

/-- The file it is read from. -/
def packageDirectory : FileSystem :=
  workingDirectory ".audit-logging.toml"
    "rules = [\x7b selector = \"pkg.*\", directive = \"audit\", log_type = \"data_access\" \x7d]\n"

theorem load_packageDirectory :
    (CommandLine.searchOf none (fun _ => none)).load packageDirectory = .ok onePackage :=
  Interceptor.eq_ok_of_toOption _ _ (by decide +kernel)

/-- What is reported of a method there. -/
def packageReport (rawMethod : String) : CommandLine.Exit :=
  CommandLine.run ["match", "--", rawMethod] (fun _ => none) packageDirectory

theorem packageReport_eq (rawMethod : String) :
    packageReport rawMethod = ⟨0, CommandLine.governingText onePackage rawMethod, none⟩ :=
  CommandLine.run_of_load _ none (.governing rawMethod) _ _ onePackage (CommandLine.parse_match rawMethod)
    load_packageDirectory

/-- A method of the package is recorded under the rule in the report, however it is written, and one of
another package is only handled. -/
theorem report_foretells_package :
    (packageReport "/pkg.Users/Get").stdout =
        "pkg.Users.Get: selector 'pkg.*', directive audit, log type data_access\n" ∧
      onePackage.RecordsUnder "/pkg.Users/Get" "pkg.Users.Get" ⟨"pkg.*", .audit, .dataAccess⟩ ∧
      packageReport "pkg.Users.Get" = packageReport "/pkg.Users/Get" ∧
      onePackage.OnlyHandles "/other.Users/Get" := by
  have hname : (MethodName.parse "/pkg.Users/Get").full = "pkg.Users.Get" := by decide +kernel
  obtain ⟨-, hpackage, hrule, hwritten⟩ := report_foretells _ none "/pkg.Users/Get" _ _ onePackage
    (CommandLine.parse_match _) load_packageDirectory
  obtain ⟨-, hother, -⟩ := report_foretells _ none "/other.Users/Get" _ _ onePackage
    (CommandLine.parse_match _) load_packageDirectory
  have hreported : (packageReport "/pkg.Users/Get").stdout =
      "pkg.Users.Get: selector 'pkg.*', directive audit, log type data_access\n" := by
    rw [packageReport_eq]
    decide +kernel
  have hrecorded : ¬ onePackage.OnlyHandles "/pkg.Users/Get" := by
    intro h
    have hsilent : (packageReport "/pkg.Users/Get").stdout = _ := hpackage.2 h
    rw [hreported, hname] at hsilent
    exact absurd hsilent (by decide)
  refine ⟨hreported, ?_, ?_, hother.1 ?_⟩
  · obtain ⟨rule, hmem, -, -, hunder⟩ := hrule hrecorded
    rw [List.mem_singleton.1 hmem, hname] at hunder
    exact hunder
  · exact hwritten "pkg.Users" "Get" _ (by decide) (by decide) (by decide) (by decide)
      (CommandLine.parse_match "pkg.Users.Get")
  · rw [show CommandLine.run _ _ packageDirectory = _ from packageReport_eq "/other.Users/Get"]
    decide +kernel

end AuditConfig

end CallAudit

import CallAudit.Proofs.Delivery.FileLines
import CallAudit.Proofs.Interception.Cases
import CallAudit.Proofs.Json.Printable
import CallAudit.Proofs.Methods.Written
import CallAudit.Proofs.Records.LineBack
import CallAudit.Proofs.Rules.Governing
import CallAudit.Proofs.Setup.Validity

/-!
# The audit trail of a configuration

A valid configuration with a file backend promises a trail: the file is what it was when it was opened,
and one line for each audited call. `trail` says which calls are audited and what their records are,
from the configuration and the calls alone, with no client and no processor.

Results:
* `AuditConfig.interceptor_of_file`: the interceptor that is made when the file opens.
* `Call.run_of_appending`: one call appends the line of its record, or nothing.
* `AuditConfig.file_serve`: after any calls, the file is what it was and the lines of the trail.
-/
namespace CallAudit

variable {σ : Type}

/-! ## Calls -/

/-- A call, and what happens to tokens and the users' state before it. -/
structure Call (σ : Type) where
  Request : Type
  Response : Type
  [requestPayload : HasPayload Request]
  [responsePayload : HasPayload Response]
  arrive : TokenForest → σ → TokenForest × σ
  seed : RecordSeed
  context : CallContext
  method : String
  request : Request
  handler : Handler σ Request Response

attribute [instance] Call.requestPayload Call.responsePayload

namespace Call

/-- The world in which the call is made. -/
def arrived (call : Call σ) (w : World σ) : World σ :=
  { w with tokens := (call.arrive w.tokens w.user).1, user := (call.arrive w.tokens w.user).2 }

/-- The world after the intercepted call. -/
def run (x : Interceptor σ) (call : Call σ) (w : World σ) : World σ :=
  (x.intercept call.seed call.context call.method call.request call.handler (call.arrived w)).world

end Call

/-- The world after the intercepted calls, one after the other. -/
def Interceptor.serve (x : Interceptor σ) (calls : List (Call σ)) (w : World σ) : World σ :=
  calls.foldl (fun w call => call.run x w) w

/-! ## What is to be recorded -/

namespace AuditConfig

open PatternEngine (compile?)

/-- The principal of a call with this metadata. -/
def principalOf (c : AuditConfig) (metadata : Option Metadata) : Except PrincipalError String :=
  (FromRawJwt.principal ({ sources := c.sources } : FromRawJwt Unit) metadata ()).1

theorem principal_sources (c : AuditConfig) (metadata : Option Metadata) (state : σ) :
    FromRawJwt.principal { sources := c.sources } metadata state = (c.principalOf metadata, state) := by
  unfold principalOf FromRawJwt.principal
  cases metadata with
  | none => rfl
  | some m =>
    dsimp only
    cases chooseToken? c.sources m <;> rfl

/-- Is a call of this principal audited, given the tokens as its handler left them? A rule applies to
its method, it is not cancelled, its service and its principal have names, the exclude pattern does not
match the principal and the include pattern does. -/
def Audits [PatternEngine] (c : AuditConfig) (ctx : CallContext) (method : MethodName) (principal : String)
    (after : TokenForest) : Prop :=
  (∃ r ∈ c.rules, r.covers method.full = true) ∧ ctx.isCancelled after = false ∧
    method.service ≠ "" ∧ principal ≠ "" ∧
    (∀ pattern ∈ c.excluded?.bind compile?, pattern principal = false) ∧
    ∀ pattern ∈ c.included?.bind compile?, pattern principal = true

instance [PatternEngine] (c : AuditConfig) (ctx : CallContext) (method : MethodName) (principal : String)
    (after : TokenForest) : Decidable (c.Audits ctx method principal after) :=
  inferInstanceAs (Decidable (_ ∧ _))

end AuditConfig

namespace Call

/-- The record of an audited call: its method by its parsed name, the service also as the resource, the
payloads that the governing rule asks for, how the handler ended, and the configured labels, which
stand over those of the runtime. -/
def entry (call : Call σ) (c : AuditConfig) (env : AuditConfig.Environment) (principal : String)
    (outcome : Except Status call.Response) : AuditRecord :=
  let method := MethodName.parse call.method
  let rule := mostRelevant method.full c.rules
  { logType := rule.logType
    mode := c.logMode
    body := {
      methodName := method.full
      serviceName := method.service
      resourceName := method.service
      principalEmail := principal
      request :=
        if rule.directive = .auditRequestOnly ∨ rule.directive = .auditRequestAndResponse then
          Snapshot.ofPayload? (HasPayload.payload call.request)
        else none
      response := match outcome with
        | .ok response =>
          if rule.directive = .auditRequestAndResponse then
            Snapshot.ofPayload? (HasPayload.payload response)
          else none
        | .error _ => none
      status := match outcome with
        | .ok _ => some ⟨0, ""⟩
        | .error status => some ⟨Int32.ofNat status.code.value, status.message⟩
      metadata := Snapshot.empty }
    labels := c.labels.orElse (if c.runtimeInfo then (Runtime.detect env).labels else Dict.empty)
    operation := some call.seed.operation
    timestamp := call.seed.timestamp }

/-- What a call leaves: its record if it is audited, the tokens and the users' state. Without a
principal its handler does not run. -/
def leaves [PatternEngine] (call : Call σ) (c : AuditConfig) (env : AuditConfig.Environment)
    (tokens : TokenForest) (user : σ) : List AuditRecord × TokenForest × σ :=
  let (tokens, user) := call.arrive tokens user
  match c.principalOf call.context.metadata with
  | .error _ => ([], tokens, user)
  | .ok principal =>
    let (outcome, tokens, user) := call.handler call.request tokens user
    (if c.Audits call.context (MethodName.parse call.method) principal tokens then
      [call.entry c env principal outcome] else [], tokens, user)

end Call

/-- The records of the audited calls, in the order of the calls. -/
def AuditConfig.trail [PatternEngine] (c : AuditConfig) (env : Environment) :
    List (Call σ) → TokenForest → σ → List AuditRecord
  | [], _, _ => []
  | call :: rest, tokens, user =>
    let (records, tokens, user) := call.leaves c env tokens user
    records ++ c.trail env rest tokens user

/-! ## The interceptor of a file -/

namespace AuditConfig

theorem of_validate [PatternEngine] (c : AuditConfig) (h : c.validate = .ok ()) :
    (∀ r ∈ c.rules, r.validate = .ok ()) ∧ ∃ f, c.filter = .ok f := by
  have hwf := c.validate_eq_ok_iff.1 h
  exact ⟨fun r hr => r.validate_eq_ok_iff.2 (hwf.rules r hr),
    c.exists_filter_iff.2 ⟨hwf.included, hwf.excluded⟩⟩

/-- The interceptor with a writer as its backend. -/
def around (c : AuditConfig) (f : PrincipalFilter) (env : Environment) (writer : LineWriter σ) :
    Interceptor σ where
  principals := { sources := c.sources }
  rules := c.rules
  client := Client.ofSettings (c.settings f env writer.processor writer.stop)

theorem interceptor_of_file [PatternEngine] (c : AuditConfig) (f : PrincipalFilter) (env : Environment)
    (path : String) (w : World σ) (writer : LineWriter σ) (hv : c.validate = .ok ()) (hf : c.filter = .ok f)
    (hb : c.backend = .file path) (ho : (LineWriter.openFile path w).1 = .ok writer) :
    c.interceptor env w = (.ok (c.around f env writer), (LineWriter.openFile path w).2) := by
  rcases h : LineWriter.openFile path w with ⟨result, opened⟩
  rw [h] at ho
  subst ho
  simp only [interceptor, client, hv, hf, backendSetting, hb, h]
  rfl

end AuditConfig

/-! ## One call -/

theorem AuditConfig.world_log_around (c : AuditConfig) (f : PrincipalFilter) (env : Environment)
    (writer : LineWriter σ) (ctx : CallContext) (r : AuditRecord) (w : World σ)
    (hr : r.mode = .unspecified) :
    ((c.around f env writer).client.log ctx r w).world =
      (Client.runThrough ctx (Client.registered (c.settings f env writer.processor writer.stop))
        { r with mode := c.logMode } w).world := by
  unfold around Client.log Client.withMode
  rw [Client.stations_ofSettings, Client.defaultMode_ofSettings, lastMode_settings, if_pos hr]

/-- The record of an audited call is the submitted one with the mode of the configuration and labels. -/
theorem Call.entry_eq (call : Call σ) (c : AuditConfig) (env : AuditConfig.Environment)
    (principal : String) (outcome : Except Status call.Response) :
    call.entry c env principal outcome =
      c.labelled env { Interceptor.record (mostRelevant (MethodName.parse call.method).full c.rules)
        (MethodName.parse call.method) principal call.seed call.request outcome with
          mode := c.logMode } := by
  unfold entry AuditConfig.labelled AuditRecord.withLabels Interceptor.record
  simp only [Dict.empty_orElse, AuditConfig.runtimeLabels, Directive.includesRequest,
    Bool.or_eq_true, beq_iff_eq]
  cases outcome <;>
    simp [Interceptor.responseOf, Interceptor.outcomeOf, Directive.includesResponse]

/-- A governed call is audited exactly if its record reaches the backend. -/
theorem Call.audits_iff_delivers [PatternEngine] (call : Call σ) (c : AuditConfig) (f : PrincipalFilter)
    (principal : String) (outcome : Except Status call.Response) (mode : LogMode) (w : World σ)
    (hf : c.filter = .ok f)
    (hr : ∃ r ∈ c.rules, r.covers (MethodName.parse call.method).full = true) :
    c.Audits call.context (MethodName.parse call.method) principal w.tokens ↔
      AuditConfig.Delivers f call.context
        { Interceptor.record (mostRelevant (MethodName.parse call.method).full c.rules)
          (MethodName.parse call.method) principal call.seed call.request outcome with mode } w := by
  unfold AuditConfig.Audits AuditConfig.Delivers
  rw [AuditConfig.requireFields_ok]
  simp only [Interceptor.record, AuditConfig.filter_allows c f hf]
  constructor
  · rintro ⟨-, hc, hs, hp, hpatterns⟩
    exact ⟨hc, ⟨MethodName.full_ne_empty _ hs, hs, hp⟩, hpatterns⟩
  · rintro ⟨hc, ⟨-, hs, hp⟩, hpatterns⟩
    exact ⟨hr, hc, hs, hp, hpatterns⟩

/-- The client of a configuration appends the line of an audited record, or nothing. -/
theorem Call.log_of_appending [PatternEngine] (call : Call σ) (c : AuditConfig) (f : PrincipalFilter)
    (env : AuditConfig.Environment) (writer : LineWriter σ) (path : String) (number : Nat)
    (place : FileSystem.Place) (content : List UInt8) (principal : String)
    (outcome : Except Status call.Response) (w : World σ) (hf : c.filter = .ok f)
    (hr : ∃ r ∈ c.rules, r.covers (MethodName.parse call.method).full = true)
    (h : writer.Appending path number place content w) :
    let records :=
      if c.Audits call.context (MethodName.parse call.method) principal w.tokens then
        [call.entry c env principal outcome]
      else []
    let after := ((c.around f env writer).client.log call.context
      (Interceptor.record (mostRelevant (MethodName.parse call.method).full c.rules)
        (MethodName.parse call.method) principal call.seed call.request outcome) w).world
    after.tokens = w.tokens ∧ after.user = w.user ∧
      writer.Appending path number place (content ++ records.flatMap AuditRecord.lineBytes) after := by
  intro records after
  have hiff := call.audits_iff_delivers c f principal outcome c.logMode w hf hr
  simp only [records, after]
  rw [c.world_log_around f env writer _ _ _ rfl]
  by_cases ha : c.Audits call.context (MethodName.parse call.method) principal w.tokens
  · -- the record reaches the writer, which appends its line
    have hworld := c.world_runThrough_of_delivers f env writer.processor writer.stop call.context
      _ _ (hiff.1 ha)
    rw [← call.entry_eq c env principal outcome] at hworld
    obtain ⟨-, htokens, huser, happ⟩ := writer.write_of_appending path number place content _
      (call.entry c env principal outcome) h
    rw [if_pos ha, List.flatMap_cons, List.flatMap_nil, List.append_nil]
    exact ⟨(congrArg World.tokens hworld).trans htokens, (congrArg World.user hworld).trans huser,
      happ.of_host (congrArg World.host hworld)⟩
  · have hworld := c.world_runThrough_of_not_delivers f env writer.processor writer.stop
      call.context _ _ (fun hd => ha (hiff.2 hd))
    rw [if_neg ha, List.flatMap_nil, List.append_nil]
    exact ⟨congrArg World.tokens hworld, congrArg World.user hworld,
      h.of_host (congrArg World.host hworld)⟩

/-- One call appends the line of its record, or nothing, and leaves the tokens and the users' state as
its handler does. -/
theorem Call.run_of_appending [PatternEngine] (call : Call σ) (c : AuditConfig) (f : PrincipalFilter)
    (env : AuditConfig.Environment) (writer : LineWriter σ) (path : String) (number : Nat)
    (place : FileSystem.Place) (content : List UInt8) (w : World σ) (hv : c.validate = .ok ())
    (hf : c.filter = .ok f) (h : writer.Appending path number place content w) :
    let left := call.leaves c env w.tokens w.user
    let after := call.run (c.around f env writer) w
    after.tokens = left.2.1 ∧ after.user = left.2.2 ∧
      writer.Appending path number place (content ++ left.1.flatMap AuditRecord.lineBytes) after := by
  intro left after
  have harrived : writer.Appending path number place content (call.arrived w) := h.of_host rfl
  have hprincipal := c.principal_sources (σ := σ) call.context.metadata (call.arrived w).user
  simp only [left, after, leaves, run]
  cases hp : c.principalOf call.context.metadata with
  | error e =>
    rw [hp] at hprincipal
    rw [Interceptor.intercept_of_no_principal _ _ _ _ _ _ _ e (congrArg Prod.fst hprincipal)]
    simp only [AuditConfig.around, hprincipal, List.flatMap_nil, List.append_nil]
    exact ⟨rfl, rfl, harrived⟩
  | ok p =>
    rw [hp] at hprincipal
    -- the handler leaves the tokens and its state; the host is as it was
    have hhandled : (c.around f env writer).handled call.context call.request call.handler
        (call.arrived w) = Handler.run call.handler call.request (call.arrived w) := by
      simp only [Interceptor.handled, AuditConfig.around, hprincipal]
    rcases hrun : call.handler call.request (call.arrived w).tokens (call.arrived w).user with
      ⟨outcome, tokens, user⟩
    have hrun' : Handler.run call.handler call.request (call.arrived w) =
        (outcome, { call.arrived w with tokens, user }) := by
      simp only [Handler.run, hrun]
    rw [hrun'] at hhandled
    simp only [arrived] at hrun
    simp only [hrun]
    have hleft : writer.Appending path number place content { call.arrived w with tokens, user } :=
      harrived.of_host rfl
    have hgoverned : ((c.around f env writer).ruleFor call.method).isUnset = false ↔
        ∃ r ∈ c.rules, r.covers (MethodName.parse call.method).full = true :=
      isUnset_mostRelevant _ c.rules (fun r hr => r.selector_ne_of_validate ((c.of_validate hv).1 r hr))
    cases hu : ((c.around f env writer).ruleFor call.method).isUnset with
    | true =>
      have hno : ¬ c.Audits call.context (MethodName.parse call.method) p tokens := by
        rintro ⟨hr, -⟩
        rw [hgoverned.2 hr] at hu
        cases hu
      rw [Interceptor.intercept_of_ungoverned _ _ _ _ _ _ _ p (congrArg Prod.fst hprincipal) hu,
        hhandled, if_neg hno, List.flatMap_nil, List.append_nil]
      exact ⟨rfl, rfl, hleft⟩
    | false =>
      rw [Interceptor.intercept_of_governed _ _ _ _ _ _ _ p (congrArg Prod.fst hprincipal) hu, hhandled]
      exact call.log_of_appending c f env writer path number place content p outcome
        { call.arrived w with tokens, user } hf (hgoverned.1 hu) hleft

/-! ## Any number of calls -/

namespace AuditConfig

theorem serve_of_appending [PatternEngine] (c : AuditConfig) (f : PrincipalFilter) (env : Environment)
    (writer : LineWriter σ) (path : String) (number : Nat) (place : FileSystem.Place)
    (hv : c.validate = .ok ()) (hf : c.filter = .ok f) (calls : List (Call σ)) :
    ∀ (content : List UInt8) (w : World σ), writer.Appending path number place content w →
      writer.Appending path number place
        (content ++ (c.trail env calls w.tokens w.user).flatMap AuditRecord.lineBytes)
        ((c.around f env writer).serve calls w) := by
  induction calls with
  | nil =>
    intro content w h
    simpa [trail, Interceptor.serve] using h
  | cons call rest ih =>
    intro content w h
    obtain ⟨htokens, huser, happ⟩ := call.run_of_appending c f env writer path number place content w
      hv hf h
    have := ih _ _ happ
    rw [htokens, huser, List.append_assoc, ← List.flatMap_append] at this
    exact this

/-- **The audit trail of a file.** For every valid configuration whose file opens, while no write to it
fails: the interceptor is made, the file keeps what it held, and after any calls it is what it was when
it was opened and one line for each audited call, in the order of the calls. No line has a break in it, and
each is read back as its record if the record is legible. -/
theorem file_serve [PatternEngine] (c : AuditConfig) (env : Environment) (path : String) (w : World σ)
    (writer : LineWriter σ) (hv : c.validate = .ok ()) (hb : c.backend = .file path)
    (ho : (LineWriter.openFile path w).1 = .ok writer)
    (hw : ∀ result ∈ w.host.writeResults, result = none) :
    ∃ x opened place before, c.interceptor env w = (.ok x, opened) ∧
      opened.host.files.stat path = .ok (place, .file before) ∧
      (∀ place' n, w.host.files.stat path = .ok (place', n) → n = .file before) ∧
      ∀ calls : List (Call σ), (x.serve calls opened).host.files.stat path =
          .ok (place, .file (before ++
            (c.trail env calls w.tokens w.user).flatMap AuditRecord.lineBytes)) ∧
        ∀ r ∈ c.trail env calls w.tokens w.user, 0x0A ∉ r.line.toUTF8.toList ∧
          (AuditRecord.parse? r.line = some r ↔ r.Legible) := by
  obtain ⟨-, f, hf⟩ := c.of_validate hv
  obtain ⟨htokens, huser, number, place, before, happ, hbefore⟩ :=
    LineWriter.appending_openFile path w writer ho hw
  refine ⟨_, _, place, before, c.interceptor_of_file f env path w writer hv hf hb ho, happ.stat, hbefore,
    fun calls => ⟨?_, fun r _ => ⟨r.toJson.lineBreak_notMem_render, AuditRecord.legible_of_parse? r.line r,
      AuditRecord.parse?_line_of_legible r⟩⟩⟩
  rw [← htokens, ← huser]
  exact (c.serve_of_appending f env writer path number place hv hf calls before _ happ).stat

/-- Audits all methods of a package into a file, but not those of one principal. -/
def ofPackage : AuditConfig where
  rules := [⟨"pkg.*", .auditRequestOnly, .dataAccess⟩]
  excluded? := some "b"
  runtimeInfo := false
  backend := .file "audit.log"

/-- A call that carries a token. -/
def bearing (token : String) : Call Unit where
  Request := Payload
  Response := Payload
  arrive tokens user := (tokens, user)
  seed := ⟨"op", { day := 20000, second := 3600, nanos := 7 }⟩
  context := ⟨some (Metadata.ofList [("authorization", "Bearer " ++ token)]), ⟨0⟩⟩
  method := "/pkg.Service/Get"
  request := .integer 7
  handler request tokens user := (.ok request, tokens, user)

/-- Of two calls, by `a` and by `b`, the first is audited, and its line follows what the file held. -/
theorem file_serve_ofPackage :
    let held : List UInt8 := [0x7b, 0x7d, 0x0a]
    let files : FileSystem := ⟨fun p => if p = [] then some .directory
      else if p = ["audit.log"] then some (.file held) else none, []⟩
    let w : World Unit := { host := { files }, user := () }
    let first := bearing "e30.eyJlbWFpbCI6ImEifQ.s"
    let second := bearing "e30.eyJlbWFpbCI6ImIifQ.s"
    ∃ x opened place, ofPackage.interceptor (fun _ => none) w = (.ok x, opened) ∧
      (x.serve [first, second] opened).host.files.stat "audit.log" = .ok (place, .file (held ++
        (first.entry ofPackage (fun _ => none) "a" (.ok (.integer 7))).lineBytes)) := by
  intro held files w first second
  have hv : ofPackage.validate = .ok () := Interceptor.eq_ok_of_toOption _ _ (by decide +kernel)
  have ho : ∃ writer, (LineWriter.openFile "audit.log" w).1 = .ok writer := by
    have hopens : (LineWriter.openFile "audit.log" w).1.toBool = true := by decide +kernel
    cases h : (LineWriter.openFile "audit.log" w).1 with
    | ok writer => exact ⟨writer, rfl⟩
    | error e =>
      rw [h] at hopens
      cases hopens
  have htrail : ofPackage.trail (fun _ => none) [first, second] w.tokens w.user =
      [first.entry ofPackage (fun _ => none) "a" (.ok (.integer 7))] := by decide +kernel
  obtain ⟨writer, ho⟩ := ho
  obtain ⟨x, opened, place, before, hx, -, hbefore, hserve⟩ :=
    file_serve ofPackage (fun _ => none) "audit.log" w writer hv rfl ho (by simp [w])
  have hheld : FileSystem.Node.file held = .file before := hbefore ["audit.log"] _ rfl
  have := (hserve [first, second]).1
  rw [htrail, List.flatMap_singleton, ← FileSystem.Node.file.inj hheld] at this
  exact ⟨x, opened, place, hx, this⟩

end AuditConfig

end CallAudit

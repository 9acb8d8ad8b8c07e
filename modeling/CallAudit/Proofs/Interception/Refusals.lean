import CallAudit.Processor.Labels
import CallAudit.Processor.PrincipalFilter
import CallAudit.Processor.RequiredFields
import CallAudit.Proofs.Delivery.FileLines
import CallAudit.Proofs.Interception.Cases
import CallAudit.Proofs.Records.Wholeness

/-!
# Payloads that refuse

A payload that does not serialize costs its own snapshot and nothing else. Two calls are compared, one whose
request or response refuses and one with another payload in its place. Their records differ in that snapshot, so
a processor could tell them apart, and what it does could reach the caller. It cannot if every processor
overlooks the snapshot, and then the caller sees no difference.

* `AuditRecord.without`: a record without a snapshot.
* `Processor.Overlooks`: the processor does the same whatever the snapshot is. The worlds it leaves may differ
  where processors do not look: a written line shows the snapshot.

Results:
* `Client.log_overlooks`: a client of such processors reports the same.
* `Interceptor.refusal_contained`: what a payload that refuses costs.
-/
namespace CallAudit

variable {σ ρ ρ' α β : Type}

/-! ## Records without a snapshot -/

/-- The two payloads of a call. -/
inductive Side where
  | request
  | response

namespace AuditRecord

def without (side : Side) (r : AuditRecord) : AuditRecord :=
  match side with
  | .request => { r with body.request := none }
  | .response => { r with body.response := none }

theorem without_without (side : Side) (r : AuditRecord) : (r.without side).without side = r.without side := by
  cases side <;> rfl

theorem mode_without (side : Side) (r : AuditRecord) : (r.without side).mode = r.mode := by
  cases side <;> rfl

theorem mode_congr {side : Side} {r r' : AuditRecord} (h : r.without side = r'.without side) :
    r.mode = r'.mode := by
  rw [← mode_without side r, h, mode_without]

end AuditRecord

/-! ## Processors that overlook a snapshot -/

/-- On records that differ in the snapshot at most, and in worlds that it does not tell apart, the processor
ends alike, and leaves such records and worlds. -/
def Processor.Overlooks (p : Processor σ) (side : Side) (Alike : World σ → World σ → Prop) : Prop :=
  ∀ ctx r r' w w', r.without side = r'.without side → Alike w w' →
    (p.process ctx r w).result = (p.process ctx r' w').result ∧
      (p.process ctx r w).record.without side = (p.process ctx r' w').record.without side ∧
      Alike (p.process ctx r w).world (p.process ctx r' w').world

namespace Processor

variable (side : Side) (Alike : World σ → World σ → Prop)

theorem overlooks_judging (name : String) (judge : AuditRecord → Except ProcessorError Unit)
    (h : ∀ r, judge (r.without side) = judge r) : (judging name judge).Overlooks side Alike := by
  intro ctx r r' w w' hr hw
  refine ⟨?_, hr, hw⟩
  change judge r = judge r'
  rw [← h r, hr, h r']

theorem overlooks_rewriting (name : String) (rewrite : AuditRecord → AuditRecord)
    (h : ∀ r, (rewrite r).without side = rewrite (r.without side)) :
    (rewriting name rewrite).Overlooks side Alike := by
  intro ctx r r' w w' hr hw
  refine ⟨rfl, ?_, hw⟩
  change (rewrite r).without side = (rewrite r').without side
  rw [h r, hr, h r']

theorem overlooks_requiredFields : requiredFields.Overlooks side Alike :=
  overlooks_judging side Alike _ _ (fun _ => by cases side <;> rfl)

theorem overlooks_principalFilter (f : PrincipalFilter) : (principalFilter f).Overlooks side Alike :=
  overlooks_judging side Alike _ _ (fun _ => by cases side <;> rfl)

/-- Labels are given without a look at the snapshots, configured ones and those of the runtime. -/
theorem overlooks_withLabels (name : String) (labels : Dict String) :
    (rewriting name (fun r => r.withLabels labels)).Overlooks side Alike :=
  overlooks_rewriting side Alike _ _ (fun _ => by cases side <;> rfl)

end Processor

/-- Worlds in which a writer stands at the end of the same file and no write to it fails. -/
def LineWriter.Writable (x : LineWriter σ) (path : String) (w w' : World σ) : Prop :=
  w.tokens = w'.tokens ∧ ∃ number place content content',
    x.Appending path number place content w ∧ x.Appending path number place content' w'

/-- A writer to a file writes the snapshot and does not look at it. -/
theorem LineWriter.overlooks_processor (x : LineWriter σ) (path : String) (side : Side) :
    x.processor.Overlooks side (x.Writable path) := by
  rintro ctx r r' w w' hr ⟨htokens, number, place, content, content', hw, hw'⟩
  obtain ⟨hok, hkept, -, hafter⟩ := x.write_of_appending path number place content w r hw
  obtain ⟨hok', hkept', -, hafter'⟩ := x.write_of_appending path number place content' w' r' hw'
  exact ⟨hok.trans hok'.symm, hr, by rw [processor, hkept, htokens, hkept'],
    number, place, _, _, hafter, hafter'⟩

/-! ## Clients -/

namespace Client

/-- Every processor of the client overlooks the snapshot. In worlds that they do not tell apart the same calls
are cancelled. -/
structure Overlooks (c : Client σ) (side : Side) (Alike : World σ → World σ → Prop) : Prop where
  cancelled : ∀ w w', Alike w w' → ∀ ctx : CallContext,
    ctx.isCancelled w.tokens = ctx.isCancelled w'.tokens
  processors : ∀ s ∈ c.stations, s.2.processor.Overlooks side Alike

section
variable (side : Side) (Alike : World σ → World σ → Prop)
variable (hcancelled : ∀ w w', Alike w w' → ∀ ctx : CallContext,
  ctx.isCancelled w.tokens = ctx.isCancelled w'.tokens)
include hcancelled

/-- One turn. -/
theorem turn_overlooks (p : Processor σ) (hp : p.Overlooks side Alike) (ctx : CallContext)
    (r r' : AuditRecord) (w w' : World σ) (hr : r.without side = r'.without side) (hw : Alike w w') :
    (turn p ctx r w).result = (turn p ctx r' w').result ∧
      (turn p ctx r w).record.without side = (turn p ctx r' w').record.without side ∧
      Alike (turn p ctx r w).world (turn p ctx r' w').world := by
  rw [turn, turn, hcancelled w w' hw ctx]
  split
  · exact ⟨rfl, hr, hw⟩
  · exact hp ctx r r' w w' hr hw

/-- All turns, up to the first that fails. -/
theorem runThrough_overlooks (stations : List (Stage × Registration σ))
    (hs : ∀ s ∈ stations, s.2.processor.Overlooks side Alike) (ctx : CallContext) (r r' : AuditRecord)
    (w w' : World σ) (hr : r.without side = r'.without side) (hw : Alike w w') :
    (runThrough ctx stations r w).result = (runThrough ctx stations r' w').result := by
  induction stations generalizing r r' w w' with
  | nil => rfl
  | cons s rest ih =>
    obtain ⟨stage, entry⟩ := s
    obtain ⟨hfirst, hrest⟩ := List.forall_mem_cons.1 hs
    obtain ⟨hresult, hrecord, hworld⟩ :=
      turn_overlooks side Alike hcancelled entry.processor hfirst ctx r r' w w' hr hw
    simp only [runThrough]
    rw [← hresult]
    split
    · exact ih hrest _ _ _ _ hrecord hworld
    · rw [AuditRecord.mode_congr hrecord]

end

theorem withMode_without (c : Client σ) (side : Side) (r : AuditRecord) :
    (c.withMode r).without side = c.withMode (r.without side) := by
  rw [withMode, withMode, AuditRecord.mode_without]
  cases side <;> split <;> rfl

/-- A client whose processors overlook a snapshot reports the same whatever it is. -/
theorem log_overlooks (c : Client σ) (side : Side) (Alike : World σ → World σ → Prop)
    (h : c.Overlooks side Alike) (ctx : CallContext) (r r' : AuditRecord) (w w' : World σ)
    (hr : r.without side = r'.without side) (hw : Alike w w') :
    (c.log ctx r w).result = (c.log ctx r' w').result :=
  runThrough_overlooks side Alike h.cancelled c.stations h.processors ctx _ _ w w'
    (by rw [withMode_without, hr, withMode_without]) hw

end Client

/-! ## Calls -/

namespace Interceptor

variable [HasPayload ρ] [HasPayload ρ'] [HasPayload α] [HasPayload β]

theorem record_without_request (rule : Rule) (method : MethodName) (principal : String) (seed : RecordSeed)
    (request : ρ) (request' : ρ') (outcome : Except Status α) (h : (HasPayload.payload request).Refuses) :
    record rule method principal seed request outcome =
      (record rule method principal seed request' outcome).without .request := by
  simp only [record, AuditRecord.without, (Snapshot.ofPayload?_eq_none_iff _).2 h, ite_self]

theorem record_without_response (rule : Rule) (method : MethodName) (principal : String) (seed : RecordSeed)
    (request : ρ) (response : α) (response' : β) (h : (HasPayload.payload response).Refuses) :
    record rule method principal seed request (.ok response) =
      (record rule method principal seed request (.ok response' : Except Status β)).without .response := by
  simp only [record, AuditRecord.without, responseOf, outcomeOf, (Snapshot.ofPayload?_eq_none_iff _).2 h,
    ite_self]

section
variable (x : Interceptor σ) (seed : RecordSeed) (ctx : CallContext) (rawMethod : String) (request : ρ)
variable (request' : ρ') (handler : Handler σ ρ α) (handler' : Handler σ ρ' β) (w : World σ) (side : Side)

/-- The record of a call is that of another without a snapshot. -/
def RecordedWithout : Prop :=
  ∀ p, record (x.ruleFor rawMethod) (MethodName.parse rawMethod) p seed request
      (x.handled ctx request handler w).1 =
    (record (x.ruleFor rawMethod) (MethodName.parse rawMethod) p seed request'
      (x.handled ctx request' handler' w).1).without side

theorem submitted_without
    (h : x.RecordedWithout seed ctx rawMethod request request' handler handler' w side) :
    (x.intercept seed ctx rawMethod request handler w).submitted? =
      (x.intercept seed ctx rawMethod request' handler' w).submitted?.map (AuditRecord.without side) := by
  rw [submitted?_eq, submitted?_eq, Option.map_map]
  exact congrArg (fun f => (x.audited? ctx rawMethod w).map f) (funext h)

/-- If the processors overlook the snapshot, both calls end in the same error, or each as its handler did. -/
theorem results_of_overlooks
    (h : x.RecordedWithout seed ctx rawMethod request request' handler handler' w side)
    (Alike : World σ → World σ → Prop) (ho : x.client.Overlooks side Alike)
    (hw : Alike (x.handled ctx request handler w).2 (x.handled ctx request' handler' w).2) :
    (∃ e, (x.intercept seed ctx rawMethod request handler w).result = .error e ∧
      (x.intercept seed ctx rawMethod request' handler' w).result = .error e) ∨
    ((x.intercept seed ctx rawMethod request handler w).result =
        (x.handled ctx request handler w).1.mapError .handler ∧
      (x.intercept seed ctx rawMethod request' handler' w).result =
        (x.handled ctx request' handler' w).1.mapError .handler) := by
  cases hp : (x.principals.principal ctx.metadata w.user).1 with
  | error e =>
    rw [intercept_of_no_principal x seed ctx rawMethod request handler w e hp,
      intercept_of_no_principal x seed ctx rawMethod request' handler' w e hp]
    exact .inl ⟨_, rfl, rfl⟩
  | ok p =>
    cases hr : (x.ruleFor rawMethod).isUnset with
    | true =>
      rw [intercept_of_ungoverned x seed ctx rawMethod request handler w p hp hr,
        intercept_of_ungoverned x seed ctx rawMethod request' handler' w p hp hr]
      exact .inr ⟨rfl, rfl⟩
    | false =>
      rw [intercept_of_governed x seed ctx rawMethod request handler w p hp hr,
        intercept_of_governed x seed ctx rawMethod request' handler' w p hp hr]
      dsimp only
      have hrecords := congrArg (AuditRecord.without side) (h p)
      rw [AuditRecord.without_without] at hrecords
      rw [x.client.log_overlooks side Alike ho ctx _ _ _ _ hrecords hw]
      generalize (x.client.log ctx _ _).result = logged
      cases logged with
      | error e => exact .inl ⟨_, rfl, rfl⟩
      | ok _ => exact .inr ⟨rfl, rfl⟩

end

/-- **A payload that refuses is contained.** A payload has no snapshot if some part of it refuses, and only then.
Otherwise its snapshot shows all of it. A number that is none does not refuse, and is shown as null.

Two calls are compared, and what is submitted for them:
* if the request of the first refuses and the handler ends in the same way for both, the record of the first is
  the record of the second without the snapshot of the request, or nothing is submitted for either. If the
  processors overlook this snapshot, and do not tell apart the worlds that the handlers leave, both calls have
  the same result;
* if the response of the first refuses and the second has another one, the same holds of the snapshot of the
  response, and either both fail in the same way or each call has its response. -/
theorem refusal_contained (x : Interceptor σ) (seed : RecordSeed) (ctx : CallContext) (rawMethod : String)
    (w : World σ) :
    (∀ p : Payload, (Snapshot.ofPayload? p = none ↔ p.Refuses) ∧
      ∀ s, Snapshot.ofPayload? p = some s ↔ ∃ v, p.Shows v ∧ s.fields = v.topFields) ∧
    (∀ y : Binary64, ¬ y.Finite →
      ¬ (Payload.float y).Refuses ∧ ∀ v, (Payload.float y).Shows v ↔ v = .null) ∧
    (∀ (request : ρ) (request' : ρ') (handler : Handler σ ρ α) (handler' : Handler σ ρ' α),
      (HasPayload.payload request).Refuses →
      (x.handled ctx request handler w).1 = (x.handled ctx request' handler' w).1 →
      let done := x.intercept seed ctx rawMethod request handler w
      let done' := x.intercept seed ctx rawMethod request' handler' w
      done.submitted? = done'.submitted?.map (AuditRecord.without .request) ∧
        ∀ Alike, x.client.Overlooks .request Alike →
          Alike (x.handled ctx request handler w).2 (x.handled ctx request' handler' w).2 →
          done.result = done'.result) ∧
    ∀ (request : ρ) (handler : Handler σ ρ α) (handler' : Handler σ ρ β) (response : α) (response' : β),
      (HasPayload.payload response).Refuses →
      (x.handled ctx request handler w).1 = .ok response →
      (x.handled ctx request handler' w).1 = .ok response' →
      let done := x.intercept seed ctx rawMethod request handler w
      let done' := x.intercept seed ctx rawMethod request handler' w
      done.submitted? = done'.submitted?.map (AuditRecord.without .response) ∧
        ∀ Alike, x.client.Overlooks .response Alike →
          Alike (x.handled ctx request handler w).2 (x.handled ctx request handler' w).2 →
          (∃ e, done.result = .error e ∧ done'.result = .error e) ∨
            (done.result = .ok response ∧ done'.result = .ok response') := by
  refine ⟨fun p => ⟨Snapshot.ofPayload?_eq_none_iff p, Snapshot.ofPayload?_eq_some_iff p⟩,
    fun y hy => ⟨(nomatch ·), fun v => ⟨fun h => ?_, fun h => h ▸ .noNumber hy⟩⟩,
    fun request request' handler handler' hrefuses hsame => ?_,
    fun request handler handler' response response' hrefuses hok hok' => ?_⟩
  · cases h with
    | float hfinite => exact absurd hfinite hy
    | noNumber _ => rfl
  · have hrecord : x.RecordedWithout seed ctx rawMethod request request' handler handler' w .request := by
      intro p
      rw [hsame]
      exact record_without_request _ _ p seed request request' _ hrefuses
    refine ⟨submitted_without x seed ctx rawMethod request request' handler handler' w _ hrecord,
      fun Alike ho hw => ?_⟩
    rcases results_of_overlooks x seed ctx rawMethod request request' handler handler' w _ hrecord Alike ho hw
      with ⟨e, he, he'⟩ | ⟨h, h'⟩
    · exact he.trans he'.symm
    · rw [h, h', hsame]
  · have hrecord : x.RecordedWithout seed ctx rawMethod request request handler handler' w .response := by
      intro p
      rw [hok, hok']
      exact record_without_response _ _ p seed request response response' hrefuses
    refine ⟨submitted_without x seed ctx rawMethod request request handler handler' w _ hrecord,
      fun Alike ho hw => ?_⟩
    rcases results_of_overlooks x seed ctx rawMethod request request handler handler' w _ hrecord Alike ho hw
      with he | ⟨h, h'⟩
    · exact .inl he
    · rw [h, h', hok, hok']
      exact .inr ⟨rfl, rfl⟩

/-- A file that is open for records. -/
def auditFile : LineWriter Unit := ⟨"file", some "/audit.log", World.fileSink 0, 0⟩

/-- Records every call with its payloads, checked and labelled, in the file. -/
def filing : Interceptor Unit where
  principals := { sources := [⟨"authorization", "Bearer "⟩] }
  rules := [⟨"*", .auditRequestAndResponse, .dataAccess⟩]
  client := Client.ofSettings [.validator .requiredFields, .validator (.principalFilter {}),
    .mutator (.defaultLabels (Dict.ofList [("env", "prod")])), .backend auditFile.processor]

/-- The world with the file. -/
def filingWorld : World Unit :=
  { bareWorld with host := {
      files := ⟨fun place => some (if place = ["audit.log"] then .file [] else .directory), []⟩
      opened := [⟨["audit.log"], none⟩]
      buffers := [[]] } }

/-- Gives every request this response. -/
def answer (response : Payload) : Handler Unit Payload Payload := fun _ tokens user =>
  (.ok response, tokens, user)

/-- A call with this request and response that is recorded in the file. -/
def filed (request response : Payload) : Intercepted Unit Payload :=
  filing.intercept callSeed bearerContext "/pkg.Service/Get" request (answer response) filingWorld

/-- A map with an entry that refuses, and a later entry of the same key. -/
def overwritten : Payload := .map [(.text "id", .unserializable "boom"), (.text "id", .integer 7)]

/-- The map is a request and then a response. Each time its record is that of an integer in its place, without
the snapshot, and the caller sees no difference. -/
theorem refusal_contained_overwritten :
    Snapshot.ofPayload? overwritten = none ∧ Snapshot.ofPayload? (.float .nan) ≠ none ∧
      (filed overwritten .null).submitted?.map (·.body.request) = some none ∧
      (filed overwritten .null).submitted? =
        (filed (.integer 7) .null).submitted?.map (AuditRecord.without .request) ∧
      (filed overwritten .null).result = (filed (.integer 7) .null).result ∧
      (filed .null overwritten).submitted? =
        (filed .null (.integer 7)).submitted?.map (AuditRecord.without .response) ∧
      ((∃ e, (filed .null overwritten).result = .error e ∧ (filed .null (.integer 7)).result = .error e) ∨
        ((filed .null overwritten).result = .ok overwritten ∧
          (filed .null (.integer 7)).result = .ok (.integer 7))) := by
  have hrefuses : overwritten.Refuses := .value (List.mem_cons_self ..) .unserializable
  have hoverlooks : ∀ side, filing.client.Overlooks side (auditFile.Writable "/audit.log") := by
    refine fun side => ⟨fun w w' h ctx => by rw [h.1], fun s hs => ?_⟩
    simp only [filing, Client.ofSettings, List.foldl, Client.apply, Client.stations, List.nil_append,
      List.map, List.cons_append, List.mem_cons, List.not_mem_nil, or_false] at hs
    rcases hs with rfl | rfl | rfl | rfl
    · exact Processor.overlooks_requiredFields side _
    · exact Processor.overlooks_principalFilter side _ {}
    · exact Processor.overlooks_withLabels side _ _ _
    · exact auditFile.overlooks_processor "/audit.log" side
  have hworld : auditFile.Writable "/audit.log" filingWorld filingWorld := by
    have happending : auditFile.Appending "/audit.log" 0 ["audit.log"] [] filingWorld :=
      ⟨rfl, rfl, rfl, List.forall_mem_nil _, eq_ok_of_toOption _ _ (by decide +kernel)⟩
    exact ⟨rfl, 0, _, [], [], happending, happending⟩
  obtain ⟨hsnapshot, hfloat, hrequest, hresponse⟩ := @refusal_contained Unit Payload Payload Payload Payload
    _ _ _ _ filing callSeed bearerContext "/pkg.Service/Get" filingWorld
  obtain ⟨hsubmitted, hresult⟩ := hrequest overwritten (.integer 7) (answer .null) (answer .null) hrefuses rfl
  obtain ⟨hsubmitted', hresult'⟩ :=
    hresponse .null (answer overwritten) (answer (.integer 7)) overwritten (.integer 7) hrefuses rfl rfl
  refine ⟨(hsnapshot overwritten).1.2 hrefuses, ?_, ?_, hsubmitted,
    hresult _ (hoverlooks .request) hworld, hsubmitted', hresult' _ (hoverlooks .response) hworld⟩
  · exact fun h => (hfloat .nan (by decide)).1 ((hsnapshot _).1.1 h)
  · have hp : (filing.principals.principal bearerContext.metadata filingWorld.user).1 = .ok "a" :=
      eq_ok_of_toOption _ _ (by decide +kernel)
    rw [filed, intercept_of_governed filing callSeed bearerContext "/pkg.Service/Get" overwritten
      (answer .null) filingWorld "a" hp (by decide +kernel)]
    decide +kernel

end Interceptor

end CallAudit

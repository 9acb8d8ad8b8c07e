import CallAudit.Proofs.Interception.Cases

/-!
# What a record withholds

The directive of the governing rule says whether the request and the response of a call are recorded.
What it withholds could still leak: through the other snapshot, through the status, or through the choice
of the rule. So two calls are compared that differ only in what is withheld.

Results:
* `Interceptor.record_reseeded_congr`: what a record tells apart.
* `Interceptor.intercept_withholds`: two calls that differ in a withheld request or response are given
  to the client as the same record, and what is not withheld is recorded as it went in and came out.
-/
namespace CallAudit

/-- The record with what is new in each record from elsewhere. -/
def AuditRecord.reseeded (seed : RecordSeed) (r : AuditRecord) : AuditRecord :=
  { r with operation := some seed.operation, timestamp := seed.timestamp }

namespace Interceptor

variable {σ ρ ρ' α β : Type} [HasPayload ρ] [HasPayload ρ'] [HasPayload α] [HasPayload β]

/-- Outcomes that no record under the directive tells apart: the same failure, or two responses, the same
ones where responses are recorded. -/
inductive SameRecorded (directive : Directive) : Except Status α → Except Status β → Prop
  | ok (v : α) (v' : β)
    (h : directive.includesResponse = true → HasPayload.payload v = HasPayload.payload v') :
    SameRecorded directive (.ok v) (.ok v')
  | error (status : Status) : SameRecorded directive (.error status) (.error status)

theorem SameRecorded.refl (directive : Directive) (outcome : Except Status α) :
    SameRecorded directive outcome outcome := by
  cases outcome with
  | ok v => exact .ok v v (fun _ => rfl)
  | error status => exact .error status

theorem SameRecorded.responseOf_eq {directive : Directive} {outcome : Except Status α}
    {outcome' : Except Status β} (h : SameRecorded directive outcome outcome') :
    responseOf directive outcome = responseOf directive outcome' := by
  cases h with
  | ok v v' h =>
    simp only [responseOf]
    split
    · rename_i hd
      rw [h hd]
    · rfl
  | error status => rfl

theorem SameRecorded.outcomeOf_eq {directive : Directive} {outcome : Except Status α}
    {outcome' : Except Status β} (h : SameRecorded directive outcome outcome') :
    outcomeOf outcome = outcomeOf outcome' := by
  cases h with
  | ok v v' h => rfl
  | error status => rfl

/-- Records of one method and principal are the same up to what is new in each if the recorded parts of
request and outcome are. -/
theorem record_reseeded_congr (rule : Rule) (method : MethodName) (principal : String)
    (seed seed' now : RecordSeed) (request : ρ) (request' : ρ') (outcome : Except Status α)
    (outcome' : Except Status β)
    (hrequest : rule.directive.includesRequest = true →
      HasPayload.payload request = HasPayload.payload request')
    (houtcome : SameRecorded rule.directive outcome outcome') :
    (record rule method principal seed request outcome).reseeded now =
      (record rule method principal seed' request' outcome').reseeded now := by
  have hsnapshot : (if rule.directive.includesRequest then
        Snapshot.ofPayload? (HasPayload.payload request) else none) =
      if rule.directive.includesRequest then
        Snapshot.ofPayload? (HasPayload.payload request') else none := by
    split
    · rename_i hd
      rw [hrequest hd]
    · rfl
  simp only [record, AuditRecord.reseeded, hsnapshot, houtcome.responseOf_eq, houtcome.outcomeOf_eq]

/-- Calls that differ in what their records do not tell apart are given to the client alike. -/
theorem submitted_congr (x : Interceptor σ) (seed seed' now : RecordSeed) (ctx : CallContext)
    (rawMethod : String) (request : ρ) (request' : ρ') (handler : Handler σ ρ α)
    (handler' : Handler σ ρ' β) (w : World σ)
    (hrequest : (x.ruleFor rawMethod).directive.includesRequest = true →
      HasPayload.payload request = HasPayload.payload request')
    (houtcome : SameRecorded (x.ruleFor rawMethod).directive (x.handled ctx request handler w).1
      (x.handled ctx request' handler' w).1) :
    (x.intercept seed ctx rawMethod request handler w).submitted?.map (AuditRecord.reseeded now) =
      (x.intercept seed' ctx rawMethod request' handler' w).submitted?.map
        (AuditRecord.reseeded now) := by
  rw [submitted?_eq, submitted?_eq, Option.map_map, Option.map_map]
  exact congrArg (fun f => (x.audited? ctx rawMethod w).map f) (funext fun p =>
    record_reseeded_congr _ _ p seed seed' now request request' _ _ hrequest houtcome)

/-- **Withheld payloads leave no trace in the record.** Of a method with a governing rule:
* if its directive leaves out the request, any two requests on which the handler ends in the same way are
  given to the client as the same record, but for the name of the operation and the time;
* if it leaves out the response, so are any two successful responses to one request;
* each call with a principal is given to the client as one record. Where the handler fails it holds no
  response. Where the directive asks for the request, it holds the snapshot of the request that came in,
  and where it asks for the response, that of the response the caller gets, unless the caller gets the
  failure to log it. -/
theorem intercept_withholds (x : Interceptor σ) (ctx : CallContext) (rawMethod : String)
    (w : World σ) (hr : (x.ruleFor rawMethod).isUnset = false) :
    let directive := (x.ruleFor rawMethod).directive
    (directive.includesRequest = false →
      ∀ (seed seed' now : RecordSeed) (request : ρ) (request' : ρ') (handler : Handler σ ρ α)
        (handler' : Handler σ ρ' α),
        (x.handled ctx request handler w).1 = (x.handled ctx request' handler' w).1 →
        (x.intercept seed ctx rawMethod request handler w).submitted?.map (AuditRecord.reseeded now) =
          (x.intercept seed' ctx rawMethod request' handler' w).submitted?.map
            (AuditRecord.reseeded now)) ∧
    (directive.includesResponse = false →
      ∀ (seed seed' now : RecordSeed) (request : ρ) (handler : Handler σ ρ α)
        (handler' : Handler σ ρ β) (response : α) (response' : β),
        (x.handled ctx request handler w).1 = .ok response →
        (x.handled ctx request handler' w).1 = .ok response' →
        (x.intercept seed ctx rawMethod request handler w).submitted?.map (AuditRecord.reseeded now) =
          (x.intercept seed' ctx rawMethod request handler' w).submitted?.map
            (AuditRecord.reseeded now)) ∧
    ∀ (seed : RecordSeed) (request : ρ) (handler : Handler σ ρ α) (p : String),
      (x.principals.principal ctx.metadata w.user).1 = .ok p →
      let done := x.intercept seed ctx rawMethod request handler w
      let handled := x.handled ctx request handler w
      ∃ r, done.submitted? = some r ∧ done.world = (x.client.log ctx r handled.2).world ∧
        (directive.includesRequest = true →
          r.body.request = Snapshot.ofPayload? (HasPayload.payload request)) ∧
        (∀ status, handled.1 = .error status → r.body.response = none) ∧
        ∀ response, handled.1 = .ok response →
          (done.result = .ok response ∨ ∃ e, done.result = .error (.auditLog e)) ∧
          (directive.includesResponse = true →
            r.body.response = Snapshot.ofPayload? (HasPayload.payload response)) := by
  intro directive
  refine ⟨fun hd seed seed' now request request' handler handler' h => ?_,
    fun hd seed seed' now request handler handler' response response' h h' => ?_,
    fun seed request handler p hp => ?_⟩
  · refine submitted_congr x seed seed' now ctx rawMethod request request' handler handler' w
      (fun hd' => ?_) ?_
    · exact absurd (hd.symm.trans hd') Bool.false_ne_true
    · rw [h]
      exact SameRecorded.refl _ _
  · refine submitted_congr x seed seed' now ctx rawMethod request request handler handler' w
      (fun _ => rfl) ?_
    rw [h, h']
    exact .ok response response' (fun hd' => absurd (hd.symm.trans hd') Bool.false_ne_true)
  · intro done handled
    have hdone := intercept_of_governed x seed ctx rawMethod request handler w p hp hr
    refine ⟨record (x.ruleFor rawMethod) (MethodName.parse rawMethod) p seed request handled.1,
      by rw [show done = _ from hdone], by rw [show done = _ from hdone], fun hd => if_pos hd,
      fun status he => ?_, fun response hok => ⟨?_, fun hd => ?_⟩⟩
    · simp only [record, he, responseOf]
    · rw [show done = _ from hdone]
      dsimp only
      rw [show (x.handled ctx request handler w).1 = .ok response from hok]
      split
      · exact .inr ⟨_, rfl⟩
      · exact .inl rfl
    · simp only [record, hok, responseOf]
      exact if_pos hd

/-- Records every call with its payloads, but for the logins. -/
def discreet : Interceptor Unit where
  principals := { sources := [⟨"authorization", "Bearer "⟩] }
  rules := [⟨"*", .auditRequestAndResponse, .dataAccess⟩, ⟨"pkg.Service.Login", .audit, .dataAccess⟩]
  client := Client.ofSettings []

/-- The record of a login does not depend on the password, and that of another call holds its payloads. -/
theorem intercept_withholds_login :
    let handler : Handler Unit Payload Payload := fun _ tokens user =>
      (.ok (.record [("session", .text "s")]), tokens, user)
    let call (method : String) (password : String) :=
      discreet.intercept callSeed bearerContext method (Payload.record [("password", .text password)])
        handler bareWorld
    (call "/pkg.Service/Login" "a").submitted?.map (AuditRecord.reseeded callSeed) =
      (call "/pkg.Service/Login" "b").submitted?.map (AuditRecord.reseeded callSeed) ∧
    ∃ r, (call "/pkg.Service/Get" "a").submitted? = some r ∧
      r.body.request = some (Snapshot.ofMembers [("password", .string "a")]) ∧
      r.body.response = some (Snapshot.ofMembers [("session", .string "s")]) := by
  intro handler call
  have hp : (discreet.principals.principal bearerContext.metadata bareWorld.user).1 = .ok "a" :=
    eq_ok_of_toOption _ _ (by decide +kernel)
  obtain ⟨hlogin, -, -⟩ := @intercept_withholds Unit Payload Payload Payload Payload _ _ _ _ discreet
    bearerContext "/pkg.Service/Login" bareWorld (by decide +kernel)
  obtain ⟨-, -, hget⟩ := @intercept_withholds Unit Payload Payload Payload Payload _ _ _ _ discreet
    bearerContext "/pkg.Service/Get" bareWorld (by decide +kernel)
  refine ⟨hlogin (by decide +kernel) callSeed callSeed callSeed _ _ handler handler rfl, ?_⟩
  obtain ⟨r, hr, -, hrequest, -, hresponse⟩ :=
    hget callSeed (Payload.record [("password", .text "a")]) handler "a" hp
  exact ⟨r, hr, hrequest (by decide +kernel), (hresponse _ rfl).2 (by decide +kernel)⟩

end Interceptor

end CallAudit

import CallAudit.Proofs.Interception.FailClose

/-!
# Auditing that the caller does not see

Outside fail-close mode the audit of a call has no say in what the caller gets. The processors may fail,
rewrite records and cancel calls; only the mode of a record they must not close.

Results:
* `Client.log_of_neverCloses`: a client that never closes reports no failure.
* `Interceptor.intercept_bestEffort`: with any such client the caller gets what it gets without an audit,
  and for a method that no rule governs with any client at all, none of whose processors is invoked.
-/
namespace CallAudit

variable {σ ρ α : Type}

/-! ## Clients -/

namespace Client

/-- A client whose records are not in fail-close mode: not when they come without a mode, and no
processor puts one into it. -/
structure NeverCloses (c : Client σ) : Prop where
  mode : c.defaultMode ≠ .failClose
  processors : ∀ s ∈ c.stations, ∀ ctx r w,
    r.mode ≠ .failClose → (s.2.processor.process ctx r w).record.mode ≠ .failClose

theorem Run.outcome_of_mode (run : Run σ) (h : run.record.mode ≠ .failClose) :
    run.outcome = .ok () := by
  cases hf : run.failure? with
  | none => simp only [outcome, hf]
  | some f =>
    obtain ⟨stage, processor, e⟩ := f
    rw [outcome_of_failure run stage processor e hf, verdict, if_neg h, ite_self]

/-- Whatever its processors do, a client that never closes reports no failure. -/
theorem log_of_neverCloses (c : Client σ) (hc : c.NeverCloses) (ctx : CallContext) (r : AuditRecord)
    (hr : r.mode ≠ .failClose) (w : World σ) : (c.log ctx r w).result = .ok () := by
  rw [log_eq_foldl]
  refine Run.outcome_of_mode _ (Run.record_foldl ctx c.stations (·.mode ≠ .failClose)
    hc.processors _ ?_)
  simp only [Run.start]
  split
  · exact hc.mode
  · exact hr

end Client

/-! ## Calls -/

namespace Interceptor

/-- A call without an audit: only the principal is found, and then the request is handled. -/
def unaudited (principals : FromRawJwt σ) (ctx : CallContext) (request : ρ) (handler : Handler σ ρ α)
    (w : World σ) : Except InterceptError α × World σ :=
  let found := principals.principal ctx.metadata w.user
  match found.1 with
  | .error e => (.error (.principal e), { w with user := found.2 })
  | .ok _ =>
    let handled := handler.run request { w with user := found.2 }
    (handled.1.mapError .handler, handled.2)

theorem unaudited_ne_auditLog (principals : FromRawJwt σ) (ctx : CallContext) (request : ρ)
    (handler : Handler σ ρ α) (w : World σ) (e : PipelineError) :
    (unaudited principals ctx request handler w).1 ≠ .error (.auditLog e) := by
  unfold unaudited
  dsimp only
  split
  · intro h
    cases h
  · cases (handler.run request _).1 <;> exact fun h => nomatch h

theorem unaudited_of_no_principal (x : Interceptor σ) (ctx : CallContext) (request : ρ)
    (handler : Handler σ ρ α) (w : World σ) (e : PrincipalError)
    (hp : (x.principals.principal ctx.metadata w.user).1 = .error e) :
    unaudited x.principals ctx request handler w =
      (.error (.principal e), { w with user := (x.principals.principal ctx.metadata w.user).2 }) := by
  simp only [unaudited, hp]

theorem unaudited_of_principal (x : Interceptor σ) (ctx : CallContext) (request : ρ)
    (handler : Handler σ ρ α) (w : World σ) (p : String)
    (hp : (x.principals.principal ctx.metadata w.user).1 = .ok p) :
    unaudited x.principals ctx request handler w =
      ((x.handled ctx request handler w).1.mapError .handler, (x.handled ctx request handler w).2) := by
  simp only [unaudited, handled, hp]

theorem unaudited_beside (principals : FromRawJwt σ) (ctx : CallContext) (request : ρ)
    (handler : Handler σ ρ α) (w : World σ) (notes : List Client.Note) :
    unaudited principals.beside ctx request (Handler.beside handler) (w.beside notes) =
      ((unaudited principals ctx request handler w).1,
        (unaudited principals ctx request handler w).2.beside notes) := by
  simp only [unaudited, World.user_beside, FromRawJwt.principal_beside]
  cases (principals.principal ctx.metadata w.user).1 <;> rfl

variable [HasPayload ρ] [HasPayload α]

/-- With a client that never closes, the caller gets what it gets without an audit. -/
theorem result_of_neverCloses (x : Interceptor σ) (hc : x.client.NeverCloses) (seed : RecordSeed)
    (ctx : CallContext) (rawMethod : String) (request : ρ) (handler : Handler σ ρ α) (w : World σ) :
    (x.intercept seed ctx rawMethod request handler w).result =
      (unaudited x.principals ctx request handler w).1 := by
  cases hp : (x.principals.principal ctx.metadata w.user).1 with
  | error e =>
    rw [intercept_of_no_principal x seed ctx rawMethod request handler w e hp,
      unaudited_of_no_principal x ctx request handler w e hp]
  | ok p =>
    rw [unaudited_of_principal x ctx request handler w p hp]
    cases hr : (x.ruleFor rawMethod).isUnset with
    | true => rw [intercept_of_ungoverned x seed ctx rawMethod request handler w p hp hr]
    | false =>
      rw [intercept_of_governed x seed ctx rawMethod request handler w p hp hr]
      dsimp only
      rw [x.client.log_of_neverCloses hc ctx _ (by simp [record])]

/-- A call of a method without a rule is not audited. -/
theorem intercept_eq_unaudited (x : Interceptor σ) (seed : RecordSeed) (ctx : CallContext)
    (rawMethod : String) (hr : (x.ruleFor rawMethod).isUnset = true) (request : ρ)
    (handler : Handler σ ρ α) (w : World σ) :
    x.intercept seed ctx rawMethod request handler w =
      ⟨(unaudited x.principals ctx request handler w).1, none,
        (unaudited x.principals ctx request handler w).2⟩ := by
  cases hp : (x.principals.principal ctx.metadata w.user).1 with
  | error e =>
    rw [intercept_of_no_principal x seed ctx rawMethod request handler w e hp,
      unaudited_of_no_principal x ctx request handler w e hp]
  | ok p =>
    rw [intercept_of_ungoverned x seed ctx rawMethod request handler w p hp hr,
      unaudited_of_principal x ctx request handler w p hp]

/-- With notes, a call of a method without a rule leaves the notes as they were. -/
theorem intercept_noting_eq_unaudited (x : Interceptor σ) (seed : RecordSeed) (ctx : CallContext)
    (rawMethod : String) (hr : (x.ruleFor rawMethod).isUnset = true) (request : ρ)
    (handler : Handler σ ρ α) (w : World σ) (notes : List Client.Note) :
    x.noting.intercept seed ctx rawMethod request (Handler.beside handler) (w.beside notes) =
      ⟨(unaudited x.principals ctx request handler w).1, none,
        (unaudited x.principals ctx request handler w).2.beside notes⟩ := by
  rw [intercept_eq_unaudited x.noting seed ctx rawMethod hr]
  simp only [noting, unaudited_beside]

/-- **Best-effort auditing does not show.** Of two clients that never close, the caller sees no
difference, nor of any two clients if no rule governs the method. It gets what it gets without an audit:
the error of the principal if there is none, and else the response of the handler or its status. It never
gets a failure to log. A call of a method without a rule leaves the world as the handler left it, and no
processor of the client is invoked. -/
theorem intercept_bestEffort (principals : FromRawJwt σ) (rules : List Rule) (c c' : Client σ)
    (seed seed' : RecordSeed) (ctx : CallContext) (rawMethod : String) (request : ρ)
    (handler : Handler σ ρ α) (w : World σ)
    (h : c.NeverCloses ∧ c'.NeverCloses ∨
      (mostRelevant (MethodName.parse rawMethod).full rules).isUnset = true) :
    let x : Interceptor σ := ⟨principals, rules, c⟩
    let x' : Interceptor σ := ⟨principals, rules, c'⟩
    let done := x.intercept seed ctx rawMethod request handler w
    let plain := unaudited principals ctx request handler w
    done.result = (x'.intercept seed' ctx rawMethod request handler w).result ∧
      done.result = plain.1 ∧ (∀ e, done.result ≠ .error (.auditLog e)) ∧
      ((x.ruleFor rawMethod).isUnset = true →
        done = ⟨plain.1, none, plain.2⟩ ∧
          x.noting.intercept seed ctx rawMethod request (Handler.beside handler) (w.beside []) =
            ⟨plain.1, none, plain.2.beside []⟩) := by
  intro x x' done plain
  have hresults : done.result = plain.1 ∧
      (x'.intercept seed' ctx rawMethod request handler w).result = plain.1 := by
    rcases h with ⟨hc, hc'⟩ | hr
    · exact ⟨result_of_neverCloses x hc seed ctx rawMethod request handler w,
        result_of_neverCloses x' hc' seed' ctx rawMethod request handler w⟩
    · have hx := intercept_eq_unaudited x seed ctx rawMethod hr request handler w
      have hx' := intercept_eq_unaudited x' seed' ctx rawMethod hr request handler w
      exact ⟨congrArg Intercepted.result hx, congrArg Intercepted.result hx'⟩
  obtain ⟨hdone, hdone'⟩ := hresults
  refine ⟨hdone.trans hdone'.symm, hdone, fun e => ?_, fun hr => ?_⟩
  · rw [hdone]
    exact unaudited_ne_auditLog principals ctx request handler w e
  · exact ⟨intercept_eq_unaudited x seed ctx rawMethod hr request handler w,
      intercept_noting_eq_unaudited x seed ctx rawMethod hr request handler w []⟩

/-- Empties the record and cancels the call. -/
def saboteur : Processor Unit :=
  ⟨"saboteur", fun ctx r w =>
    ⟨.ok (), AuditRecord.new "" r.timestamp, { w with tokens := w.tokens.cancel ctx.token }⟩⟩

/-- A client whose processors sabotage the audit and one without processors give the caller the response
of the handler. -/
theorem intercept_bestEffort_saboteur :
    let handler : Handler Unit Payload Payload := fun request tokens user => (.ok request, tokens, user)
    let client := Client.ofSettings [.mutator saboteur, .backend offline]
    let bare : Client Unit := Client.ofSettings []
    let call (c : Client Unit) :=
      Interceptor.intercept ⟨offlineInterceptor.principals, offlineInterceptor.rules, c⟩ callSeed
        bearerContext "/pkg.Service/Get" Payload.null handler bareWorld
    client.NeverCloses ∧ bare.NeverCloses ∧ (call client).result = (call bare).result ∧
      (call client).result = .ok .null := by
  intro handler client bare call
  have hclient : client.NeverCloses := by
    refine ⟨by decide, ?_⟩
    intro s hs ctx r w hr
    simp only [client, Client.ofSettings, List.foldl, Client.apply, Client.stations, List.nil_append,
      List.map, List.cons_append, List.mem_cons, List.not_mem_nil, or_false] at hs
    rcases hs with rfl | rfl
    · simp [saboteur, AuditRecord.new]
    · exact hr
  have hbare : bare.NeverCloses :=
    ⟨by decide, fun s hs => by simp [bare, Client.ofSettings, Client.stations] at hs⟩
  obtain ⟨hsame, hplain, -⟩ := intercept_bestEffort offlineInterceptor.principals
    offlineInterceptor.rules client bare callSeed callSeed bearerContext "/pkg.Service/Get" Payload.null
    handler bareWorld (.inl ⟨hclient, hbare⟩)
  refine ⟨hclient, hbare, hsame, hplain.trans ?_⟩
  have hp : (offlineInterceptor.principals.principal bearerContext.metadata bareWorld.user).1 = .ok "a" :=
    eq_ok_of_toOption _ _ (by decide +kernel)
  rw [unaudited_of_principal offlineInterceptor bearerContext Payload.null handler bareWorld "a" hp]
  rfl

end Interceptor

end CallAudit

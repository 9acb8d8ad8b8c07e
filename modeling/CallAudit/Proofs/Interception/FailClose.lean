import CallAudit.Proofs.Interception.Cases
import CallAudit.Proofs.Pipeline.Reference
import CallAudit.Processor.RequiredFields

/-!
# No unaudited success in fail-close mode

A client in fail-close mode stands for the promise that a call whose audit failed does not look like a
success. Its processors are arbitrary, save that they leave the mode of a record alone.

Result: `Interceptor.intercept_failClose`. The caller sees what the handler gave exactly if every
registration was invoked once and succeeded, or one of them said that the record is not to be logged
after all before it had succeeded. In every other case the caller sees the first failure, whatever the
handler gave.
-/
namespace CallAudit

variable {σ ρ α : Type}

namespace Client

/-- Processors that leave the mode of a record as it is. -/
def KeepsMode (c : Client σ) : Prop :=
  ∀ s ∈ c.stations, ∀ ctx r w, (s.2.processor.process ctx r w).record.mode = r.mode

/-- Every registration was invoked once, in order, and succeeded. -/
def AllSucceeded (c : Client σ) (notes : List Note) : Prop := answers notes = passes c.stations.length

/-- A registration said that the record is not to be logged. All before it succeeded, and none after it
was invoked. -/
def Dropped (c : Client σ) (notes : List Note) : Prop :=
  ∃ k reason, k < c.stations.length ∧
    answers notes = passes k ++ [(k, .error (.preconditionFailed reason))]

/-- The first failure of a run that left the world `after`: a registration answered with the error `e`,
or was not invoked because the call was cancelled by its turn. All before it succeeded, and none after
it was invoked. -/
def FirstFailure (c : Client σ) (ctx : CallContext) (after : World σ) (notes : List Note)
    (stage : Stage) (processor : String) (e : ProcessorError) : Prop :=
  ∃ k entry, c.stations[k]? = some (stage, entry) ∧ entry.processor.name = processor ∧
    e.isPrecondition = false ∧
    (answers notes = passes k ++ [(k, .error e)] ∨
      e = .cancelled ∧ ctx.isCancelled after.tokens = true ∧ answers notes = passes k)

theorem ok_of_mem_passes {k : Nat} {a : Nat × Except ProcessorError Unit} (h : a ∈ passes k) :
    a.2 = .ok () := by
  simp only [passes, List.mem_map] at h
  obtain ⟨_, _, rfl⟩ := h
  rfl

theorem length_passes (k : Nat) : (passes k).length = k := by simp [passes]

/-- A run that failed neither succeeded throughout nor dropped the record. -/
theorem FirstFailure.not_succeeded_or_dropped {c : Client σ} {ctx : CallContext} {after : World σ}
    {notes : List Note} {stage : Stage} {processor : String} {e : ProcessorError}
    (h : c.FirstFailure ctx after notes stage processor e) :
    ¬ (c.AllSucceeded notes ∨ c.Dropped notes) := by
  obtain ⟨k, entry, hk, -, he, hn⟩ := h
  have hlt : k < c.stations.length := (List.getElem?_eq_some_iff.1 hk).1
  rintro (hs | ⟨k', reason, -, hd⟩)
  · unfold AllSucceeded at hs
    rcases hn with hn | ⟨-, -, hn⟩
    · have := ok_of_mem_passes (k := c.stations.length) (a := (k, .error e)) (by rw [← hs, hn]; simp)
      cases this
    · have := congrArg List.length (hs.symm.trans hn)
      rw [length_passes, length_passes] at this
      omega
  · rcases hn with hn | ⟨-, -, hn⟩
    · have := (List.append_inj' (hd.symm.trans hn) rfl).2
      simp only [List.cons.injEq, Prod.mk.injEq, Except.error.injEq, and_true] at this
      rw [← this.2] at he
      cases he
    · have := ok_of_mem_passes (k := k) (a := (k', .error (.preconditionFailed reason)))
        (by rw [← hn, hd]; simp)
      cases this

/-- Logging in fail-close mode: what is reported, by what the notes say. -/
theorem log_failClose (c : Client σ) (hmode : c.defaultMode = .failClose) (hkeep : c.KeepsMode)
    (ctx : CallContext) (r : AuditRecord) (hr : r.mode = .unspecified) (w : World σ)
    (notes : List Note) (hnotes : notes = (c.noting.log ctx r (w.beside [])).world.user.2) :
    ((c.log ctx r w).result = .ok () ∧ (c.AllSucceeded notes ∨ c.Dropped notes)) ∨
      ∃ stage processor e, c.FirstFailure ctx (c.log ctx r w).world notes stage processor e ∧
        (c.log ctx r w).result = .error (.processingFailed stage processor e) := by
  rw [log_noting_eq_foldl] at hnotes
  simp only [World.user_beside] at hnotes
  rw [log_eq_foldl]
  have hends := Run.ends_start ctx c.defaultMode r w c.stations
  have hm := Run.mode_foldl ctx c.stations hkeep (Run.start c.defaultMode r w)
  rw [show (Run.start c.defaultMode r w).record.mode = .failClose by simp [Run.start, hr, hmode]] at hm
  generalize c.stations.foldl (Run.next ctx) (Run.start c.defaultMode r w) = last at *
  subst hnotes
  cases hf : last.failure? with
  | none =>
    simp only [Run.Ends, hf] at hends
    exact .inl ⟨by simp [Run.outcome, hf], .inl hends⟩
  | some f =>
    obtain ⟨stage, processor, e⟩ := f
    simp only [Run.Ends, hf] at hends
    obtain ⟨k, entry, hk, hname, hn⟩ := hends
    simp only [Run.outcome_of_failure _ _ _ _ hf, verdict, hm, if_true]
    cases he : e.isPrecondition with
    | false =>
      refine .inr ⟨stage, processor, e, ⟨k, entry, hk, hname, he, hn⟩, ?_⟩
      simp
    | true =>
      -- only a processor says that the record is not to be logged, so it was invoked
      cases e <;> simp only [ProcessorError.isPrecondition, Bool.false_eq_true] at he
      rename_i reason
      rcases hn with hn | ⟨h, -⟩
      · exact .inl ⟨rfl, .inr ⟨k, reason, (List.getElem?_eq_some_iff.1 hk).1, hn⟩⟩
      · cases h

end Client

namespace Interceptor

theorem handled_noting (x : Interceptor σ) (ctx : CallContext) (request : ρ) (handler : Handler σ ρ α)
    (w : World σ) :
    x.noting.handled ctx request (Handler.beside handler) (w.beside []) =
      ((x.handled ctx request handler w).1, (x.handled ctx request handler w).2.beside []) := by
  simp only [handled, noting, World.user_beside, FromRawJwt.principal_beside]
  rfl

variable [HasPayload ρ] [HasPayload α]

/-- An intercepted call is the same with notes as without. The notes of a governed call are those that
its client makes. -/
theorem intercept_noting (x : Interceptor σ) (seed : RecordSeed) (ctx : CallContext)
    (rawMethod : String) (request : ρ) (handler : Handler σ ρ α) (w : World σ) (p : String)
    (hp : (x.principals.principal ctx.metadata w.user).1 = .ok p)
    (hr : (x.ruleFor rawMethod).isUnset = false) :
    let done := x.intercept seed ctx rawMethod request handler w
    let noted := x.noting.intercept seed ctx rawMethod request (Handler.beside handler) (w.beside [])
    let h := x.handled ctx request handler w
    let submitted := record (x.ruleFor rawMethod) (MethodName.parse rawMethod) p seed request h.1
    noted.result = done.result ∧ noted.world.bare = done.world ∧
      noted.world.user.2 = (x.client.noting.log ctx submitted (h.2.beside [])).world.user.2 := by
  have hpn : (x.noting.principals.principal ctx.metadata (w.beside ([] : List Client.Note)).user).1 =
      .ok p := by
    simp only [noting, World.user_beside, FromRawJwt.principal_beside, hp]
  have hn := intercept_of_governed x.noting seed ctx rawMethod request (Handler.beside handler)
    (w.beside []) p hpn hr
  rw [handled_noting] at hn
  rw [hn, intercept_of_governed x seed ctx rawMethod request handler w p hp hr]
  obtain ⟨hres, hbare⟩ := Client.log_noting x.client ctx
    (record (x.ruleFor rawMethod) (MethodName.parse rawMethod) p seed request
      (x.handled ctx request handler w).1) (x.handled ctx request handler w).2
  refine ⟨?_, hbare, rfl⟩
  dsimp only
  rw [← hres]
  rfl

/-- **No unaudited success in fail-close mode.** Of a governed call with a principal, the caller sees
what the handler gave exactly if every registration of the client was invoked once and succeeded, or one
said that the record is not to be logged after all before it had succeeded and none after it was invoked.
In every other case the caller sees the first failure with its stage and processor. The notes come from
the same call with noting processors, which is the same call. -/
theorem intercept_failClose (x : Interceptor σ) (seed : RecordSeed) (ctx : CallContext)
    (rawMethod : String) (request : ρ) (handler : Handler σ ρ α) (w : World σ) (p : String)
    (hmode : x.client.defaultMode = .failClose) (hkeep : x.client.KeepsMode)
    (hp : (x.principals.principal ctx.metadata w.user).1 = .ok p)
    (hr : (x.ruleFor rawMethod).isUnset = false) :
    let done := x.intercept seed ctx rawMethod request handler w
    let noted := x.noting.intercept seed ctx rawMethod request (Handler.beside handler) (w.beside [])
    let notes := noted.world.user.2
    noted.result = done.result ∧ noted.world.bare = done.world ∧
      ((∃ response, done.result = .ok response) ∨ (∃ status, done.result = .error (.handler status)) ↔
        x.client.AllSucceeded notes ∨ x.client.Dropped notes) ∧
      (x.client.AllSucceeded notes ∨ x.client.Dropped notes →
        done.result = (x.handled ctx request handler w).1.mapError .handler) ∧
      (¬ (x.client.AllSucceeded notes ∨ x.client.Dropped notes) →
        ∃ stage processor e, x.client.FirstFailure ctx done.world notes stage processor e ∧
          done.result = .error (.auditLog (.processingFailed stage processor e))) := by
  intro done noted notes
  obtain ⟨hres, hbare, hnotes⟩ := intercept_noting x seed ctx rawMethod request handler w p hp hr
  refine ⟨hres, hbare, ?_⟩
  have hdone := intercept_of_governed x seed ctx rawMethod request handler w p hp hr
  have hlog := Client.log_failClose x.client hmode hkeep ctx
    (record (x.ruleFor rawMethod) (MethodName.parse rawMethod) p seed request
      (x.handled ctx request handler w).1) rfl (x.handled ctx request handler w).2 notes hnotes
  simp only [done, hdone]
  rcases hlog with ⟨hok, hs⟩ | ⟨stage, processor, e, hf, herr⟩
  · rw [hok]
    refine ⟨⟨fun _ => hs, fun _ => ?_⟩, fun _ => rfl, fun h => absurd hs h⟩
    cases (x.handled ctx request handler w).1 with
    | ok response => exact .inl ⟨response, rfl⟩
    | error status => exact .inr ⟨status, rfl⟩
  · rw [herr]
    have hno := hf.not_succeeded_or_dropped
    refine ⟨⟨?_, fun h => absurd h hno⟩, fun h => absurd h hno,
      fun _ => ⟨stage, processor, e, hf, rfl⟩⟩
    rintro (⟨_, h⟩ | ⟨_, h⟩) <;> cases h

/-- A backend whose sink is gone. -/
def offline : Processor Unit := ⟨"broken", fun _ r w => ⟨.error (.backend "sink offline"), r, w⟩⟩

/-- Audits every method in fail-close mode, into a backend whose sink is gone. -/
def offlineInterceptor : Interceptor Unit where
  principals := { sources := [⟨"authorization", "Bearer "⟩] }
  rules := [⟨"*", .audit, .dataAccess⟩]
  client := Client.ofSettings [.defaultMode .failClose, .validator .requiredFields, .backend offline]

/-- The handler succeeds, and the caller sees that the backend failed. -/
theorem intercept_failClose_offline :
    let w : World Unit := { host := { files := ⟨fun _ => some .directory, []⟩ }, user := () }
    let seed : RecordSeed := ⟨"op", { day := 0, second := 0, nanos := 0 }⟩
    let handler : Handler Unit Payload Payload := fun request tokens user => (.ok request, tokens, user)
    let done := offlineInterceptor.intercept seed bearerContext "/pkg.Service/Get" .null handler w
    let notes := (offlineInterceptor.noting.intercept seed bearerContext "/pkg.Service/Get" .null
      (Handler.beside handler) (w.beside [])).world.user.2
    offlineInterceptor.client.KeepsMode ∧ ¬ offlineInterceptor.client.AllSucceeded notes ∧
      ∃ stage processor e,
        offlineInterceptor.client.FirstFailure bearerContext done.world notes stage processor e ∧
          done.result = .error (.auditLog (.processingFailed stage processor e)) := by
  intro w seed handler done notes
  have hkeep : offlineInterceptor.client.KeepsMode := by
    intro s hs ctx r w
    simp only [offlineInterceptor, Client.ofSettings, List.foldl, Client.apply, Client.stations,
      List.nil_append, List.map, List.append_nil, List.cons_append, List.mem_cons,
      List.not_mem_nil, or_false] at hs
    rcases hs with rfl | rfl <;> rfl
  have hp : (offlineInterceptor.principals.principal bearerContext.metadata w.user).1 = .ok "a" :=
    eq_ok_of_toOption _ _ (by decide +kernel)
  have hr : (offlineInterceptor.ruleFor "/pkg.Service/Get").isUnset = false := by decide +kernel
  have hdone : done.result =
      .error (.auditLog (.processingFailed .backend "broken" (.backend "sink offline"))) := by
    simp only [done, intercept_of_governed offlineInterceptor seed bearerContext "/pkg.Service/Get"
      Payload.null handler w "a" hp hr]
    rfl
  obtain ⟨-, -, hiff, -, hfail⟩ := intercept_failClose offlineInterceptor seed bearerContext
    "/pkg.Service/Get" Payload.null handler w "a" rfl hkeep hp hr
  have hno : ¬ (offlineInterceptor.client.AllSucceeded notes ∨
      offlineInterceptor.client.Dropped notes) := by
    intro h
    rcases hiff.2 h with ⟨_, h⟩ | ⟨_, h⟩ <;> exact absurd (hdone.symm.trans h) (by simp)
  exact ⟨hkeep, fun h => hno (.inl h), hfail hno⟩

end Interceptor

end CallAudit

import CallAudit.Interceptor

/-!
# Notes of a run

Which processors a client invokes, and with what, cannot be read off the result it gives. So every
registration of a client is made to note its invocations: beside the state `σ` of the users of the
pipeline stands a list of notes that none of them sees. The clients, handlers and verifiers
themselves are arbitrary, and noting changes nothing they do.

Results:
* `Client.stations_noting`: a noting client has the registrations of the client, numbered in the
  order of a run.
* `Client.turn_noting`: a turn of a noting processor is the turn of the processor, and one more note
  unless the call was cancelled.
-/
namespace CallAudit

/-- One invocation of a processor: the place of its registration in the order of a run, the record it
was given, and its answer. -/
structure Client.Note where
  position : Nat
  given : AuditRecord
  answer : Except ProcessorError Unit

variable {σ ρ α τ : Type}

/-! ## State beside the users' own -/

namespace World

/-- The world with `t` beside the users' state. -/
def beside (w : World σ) (t : τ) : World (σ × τ) := ⟨w.tokens, w.host, (w.user, t)⟩

/-- The world without what stands beside the users' state. -/
def bare (w : World (σ × τ)) : World σ := ⟨w.tokens, w.host, w.user.1⟩

@[simp] theorem bare_beside (w : World σ) (t : τ) : (w.beside t).bare = w := rfl

@[simp] theorem tokens_beside (w : World σ) (t : τ) : (w.beside t).tokens = w.tokens := rfl

@[simp] theorem user_beside (w : World σ) (t : τ) : (w.beside t).user = (w.user, t) := rfl

end World

/-- A handler that leaves what stands beside its state alone. -/
def Handler.beside (h : Handler σ ρ α) : Handler (σ × τ) ρ α := fun request tokens user =>
  let (outcome, tokens, own) := h request tokens user.1
  (outcome, tokens, (own, user.2))

/-- A verifier that leaves what stands beside its state alone. -/
def Verifier.beside (v : Verifier σ) : Verifier (σ × τ) where
  verify token user :=
    let (verdict, own) := v.verify token user.1
    (verdict, (own, user.2))
  enforcing := v.enforcing

def FromRawJwt.beside (x : FromRawJwt σ) : FromRawJwt (σ × τ) := ⟨x.sources, x.verifier.beside⟩

theorem FromRawJwt.principal_beside (x : FromRawJwt σ) (metadata : Option Metadata) (s : σ) (t : τ) :
    x.beside.principal metadata (s, t) =
      ((x.principal metadata s).1, ((x.principal metadata s).2, t)) := by
  unfold FromRawJwt.principal
  cases metadata with
  | none => rfl
  | some m =>
    simp only [FromRawJwt.beside]
    cases chooseToken? x.sources m with
    | none => rfl
    | some token =>
      rcases h : x.verifier.verify token s with ⟨verdict, own⟩
      simp only [Verifier.beside, h]
      cases verdict <;> rfl

/-! ## Noting registrations -/

open Client (Note)

/-- The processor, noting under `position` each time it is invoked. -/
def Processor.noting (position : Nat) (p : Processor σ) : Processor (σ × List Note) where
  name := p.name
  process ctx r w :=
    let t := p.process ctx r w.bare
    ⟨t.result, t.record, t.world.beside (w.user.2 ++ [⟨position, r, t.result⟩])⟩

/-- A stopper that leaves what stands beside the users' state alone. -/
def Stopper.beside (stop : Stopper σ) : Stopper (σ × τ) := fun w =>
  let (result, after) := stop w.bare
  (result, after.beside w.user.2)

def Registration.noting (position : Nat) (e : Registration σ) : Registration (σ × List Note) :=
  ⟨e.processor.noting position, e.stop?.map Stopper.beside⟩

namespace Client

/-- Which registrations were invoked, and what each answered. -/
def answers (notes : List Note) : List (Nat × Except ProcessorError Unit) :=
  notes.map (fun n => (n.position, n.answer))

/-- The first `k` registrations, each invoked once and successful. -/
def passes (k : Nat) : List (Nat × Except ProcessorError Unit) := (List.range k).map (·, .ok ())

theorem passes_succ (k : Nat) : passes (k + 1) = passes k ++ [(k, .ok ())] := by
  simp [passes, List.range_succ]

theorem length_of_answers (notes : List Note) (k : Nat) (h : answers notes = passes k) :
    notes.length = k := by
  have := congrArg List.length h
  simpa [answers, passes] using this

/-- The client whose registrations note under their places in the order of a run. -/
def noting (c : Client σ) : Client (σ × List Note) where
  validators := c.validators.mapIdx Registration.noting
  mutators := c.mutators.mapIdx (fun i => Registration.noting (i + c.validators.length))
  backends := c.backends.mapIdx
    (fun i => Registration.noting (i + (c.validators.length + c.mutators.length)))
  defaultMode := c.defaultMode

theorem map_mapIdx_noting (stage : Stage) (n : Nat) (es : List (Registration σ)) :
    (es.mapIdx (fun i => Registration.noting (i + n))).map (stage, ·) =
      (es.map (stage, ·)).mapIdx (fun i s => (s.1, s.2.noting (i + n))) := by
  apply List.ext_getElem?
  intro i
  simp only [List.getElem?_map, List.getElem?_mapIdx, Option.map_map]
  rfl

theorem stations_noting (c : Client σ) :
    c.noting.stations = c.stations.mapIdx (fun i s => (s.1, s.2.noting i)) := by
  have validators := map_mapIdx_noting .validator 0 c.validators
  simp only [Nat.add_zero] at validators
  simp only [stations, noting, List.mapIdx_append, List.length_append, List.length_map, validators,
    map_mapIdx_noting]

theorem withMode_noting (c : Client σ) (r : AuditRecord) : c.noting.withMode r = c.withMode r := rfl

theorem turn_noting (p : Processor σ) (position : Nat) (ctx : CallContext) (r : AuditRecord)
    (w : World σ) (notes : List Note) :
    turn (p.noting position) ctx r (w.beside notes) =
      let t := turn p ctx r w
      ⟨t.result, t.record, t.world.beside
        (notes ++ if ctx.isCancelled w.tokens then [] else [⟨position, r, t.result⟩])⟩ := by
  unfold turn
  by_cases hc : ctx.isCancelled w.tokens = true
  · simp [hc]
  · simp [hc, Processor.noting]

end Client

namespace Interceptor

/-- The interceptor whose client notes its invocations. -/
def noting (x : Interceptor σ) : Interceptor (σ × List Note) :=
  ⟨x.principals.beside, x.rules, x.client.noting⟩

end Interceptor

end CallAudit

import CallAudit.Proofs.Pipeline.Reference

/-!
# Shutdown

Stopping a client calls the stoppers of some registrations and of no others, and the result alone does
not show which. So every processor, however it is registered, comes here with a stopper of its own that
notes each call of it beside the users' state. Stoppers are arbitrary: they may fail, and what one of
them does may depend on what the ones before it did to the world.

* `BuildStep`: a setting whose processor could be stopped, also where it is not registered to be.
* `stopOrder`: the places of the steps that register something to be stopped, validators first.

Result: `stop_built`. The calls that are noted are those of `stopOrder`, each once and in this order, and
the failures that are reported are those among the noted answers.
-/
namespace CallAudit

variable {σ τ : Type}

/-- One call of a stopper: the place of its step among the steps that made the client, the name of the
processor, and the answer. -/
structure Client.StopNote where
  position : Nat
  processor : String
  answer : Except ProcessorError Unit

/-- What is to be reported of a stopper that answered so. -/
def StopFailure.of? (processor : String) : Except ProcessorError Unit → Option StopFailure
  | .ok () => none
  | .error e => some ⟨processor, e⟩

theorem StopFailure.of?_eq_none_iff (processor : String) (answer : Except ProcessorError Unit) :
    of? processor answer = none ↔ answer = .ok () := by
  cases answer with
  | ok _ => exact iff_of_true rfl rfl
  | error e => exact iff_of_false (fun h => nomatch h) (fun h => nomatch h)

open Client (StopNote)

def Client.StopNote.failure? (n : StopNote) : Option StopFailure :=
  StopFailure.of? n.processor n.answer

/-! ## Noting stoppers -/

/-- The stopper, noting under `position` each time it is called. -/
def Stopper.noting (position : Nat) (processor : String) (stop : Stopper σ) :
    Stopper (σ × List StopNote) := fun w =>
  let (answer, after) := stop w.bare
  (answer, after.beside (w.user.2 ++ [⟨position, processor, answer⟩]))

/-- A processor that leaves what stands beside the users' state alone. -/
def Processor.beside (p : Processor σ) : Processor (σ × τ) where
  name := p.name
  process ctx r w :=
    let t := p.process ctx r w.bare
    ⟨t.result, t.record, t.world.beside w.user.2⟩

def Registration.notingStop (e : Registration σ) (position : Nat) : Registration (σ × List StopNote) :=
  ⟨e.processor.beside, e.stop?.map (Stopper.noting position e.processor.name)⟩

/-- The note to expect of a registration. -/
def Registration.stopPlace? (e : Registration σ) (position : Nat) : Option (Nat × String) :=
  e.stop?.map (fun _ => (position, e.processor.name))

namespace Client

/-- A stopper is called in the world that the ones before it left, whatever they answered. -/
theorem stopAll_stoppable (p : Processor σ) (stop : Stopper σ) (rest : List (Registration σ))
    (w : World σ) :
    stopAll (⟨p, some stop⟩ :: rest) w =
      ((StopFailure.of? p.name (stop w).1).toList ++ (stopAll rest (stop w).2).1,
        (stopAll rest (stop w).2).2) := by
  rw [stopAll]
  rcases stop w with ⟨_ | _, after⟩ <;> rfl

/-- With notes the registrations are stopped as they are without. Those with a stopper are noted, each
once and in their order. -/
theorem stopAll_notingStop (rs : List (Registration σ × Nat)) (w : World σ) (notes : List StopNote) :
    let stopped := stopAll (rs.map Prod.fst) w
    ∃ new, stopAll (rs.map (fun x => x.1.notingStop x.2)) (w.beside notes) =
        (stopped.1, stopped.2.beside (notes ++ new)) ∧
      new.map (fun n => (n.position, n.processor)) = rs.filterMap (fun x => x.1.stopPlace? x.2) ∧
      stopped.1 = new.filterMap StopNote.failure? := by
  induction rs generalizing w notes with
  | nil => exact ⟨[], by simp [stopAll], rfl, rfl⟩
  | cons x rest ih =>
    obtain ⟨⟨p, stop?⟩, position⟩ := x
    cases stop? with
    | none =>
      obtain ⟨new, hworld, hplaces, hfailures⟩ := ih w notes
      exact ⟨new, hworld, hplaces, hfailures⟩
    | some stop =>
      let note : StopNote := ⟨position, p.name, (stop w).1⟩
      obtain ⟨new, hworld, hplaces, hfailures⟩ := ih (stop w).2 (notes ++ [note])
      refine ⟨note :: new, ?_, ?_, ?_⟩
      · rw [List.map_cons, List.map_cons, stopAll_stoppable, Registration.notingStop, Option.map_some,
          stopAll_stoppable]
        simp only [Stopper.noting, World.bare_beside, World.user_beside]
        rw [hworld, List.append_assoc, List.singleton_append]
        rfl
      · rw [List.map_cons, hplaces]
        rfl
      · rw [List.map_cons, stopAll_stoppable, hfailures, List.filterMap_cons]
        cases hf : note.failure? with
        | none => rw [show StopFailure.of? p.name (stop w).1 = none from hf]; rfl
        | some f => rw [show StopFailure.of? p.name (stop w).1 = some f from hf]; rfl

/-! ## The steps that make a client -/

/-- How a processor is registered. -/
inductive Way where
  | validator
  | stoppableValidator
  | mutator
  | backend
  | stoppableBackend
  deriving DecidableEq

namespace Way

def stage : Way → Stage
  | validator | stoppableValidator => .validator
  | mutator => .mutator
  | backend | stoppableBackend => .backend

/-- Is what is registered in this way to be stopped? -/
def stops : Way → Bool
  | stoppableValidator | stoppableBackend => true
  | validator | mutator | backend => false

end Way

/-- A step in the making of a client. A processor comes with a stopper, whether or not the step registers
it to be stopped. -/
inductive BuildStep (σ : Type) where
  | defaultMode (mode : LogMode)
  | register (way : Way) (p : Processor σ) (stop : Stopper σ)

namespace BuildStep

def setting : BuildStep σ → Setting σ
  | defaultMode mode => .defaultMode mode
  | register .validator p _ => .validator p
  | register .stoppableValidator p stop => .stoppableValidator p stop
  | register .mutator p _ => .mutator p
  | register .backend p _ => .backend p
  | register .stoppableBackend p stop => .stoppableBackend p stop

/-- The step whose stopper notes its calls under `position`. -/
def noting (position : Nat) : BuildStep σ → BuildStep (σ × List StopNote)
  | defaultMode mode => .defaultMode mode
  | register way p stop => .register way p.beside (Stopper.noting position p.name stop)

/-- What the step registers in a stage. -/
def registration? (stage : Stage) : BuildStep σ → Option (Registration σ)
  | defaultMode _ => none
  | register way p stop =>
    if way.stage = stage then some ⟨p, if way.stops then some stop else none⟩ else none

/-- The place and the name of what the step registers, if it does so in this way. -/
def place? (way : Way) (position : Nat) : BuildStep σ → Option (Nat × String)
  | defaultMode _ => none
  | register way' p _ => if way' = way then some (position, p.name) else none

theorem validator?_setting (step : BuildStep σ) :
    Setting.validator? step.setting = step.registration? .validator := by
  cases step with
  | defaultMode mode => rfl
  | register way p stop => cases way <;> rfl

theorem backend?_setting (step : BuildStep σ) :
    Setting.backend? step.setting = step.registration? .backend := by
  cases step with
  | defaultMode mode => rfl
  | register way p stop => cases way <;> rfl

theorem registration?_noting (stage : Stage) (step : BuildStep σ) (position : Nat) :
    (step.noting position).registration? stage =
      (step.registration? stage).map (·.notingStop position) := by
  cases step with
  | defaultMode mode => rfl
  | register way p stop =>
    simp only [noting, registration?]
    by_cases h : way.stage = stage
    · rw [if_pos h, if_pos h]
      cases way <;> rfl
    · rw [if_neg h, if_neg h]
      rfl

/-- Of what a step registers in a stage, only what is registered to be stopped has a stopper. -/
theorem stopPlace?_registration? (way : Way) (hstops : way.stops = true) (step : BuildStep σ)
    (position : Nat) :
    (step.registration? way.stage).bind (·.stopPlace? position) = step.place? way position := by
  cases step with
  | defaultMode mode => rfl
  | register way' p stop => cases way <;> cases hstops <;> cases way' <;> rfl

end BuildStep

/-- The client that the steps make. -/
def built (steps : List (BuildStep σ)) : Client σ := ofSettings (steps.map BuildStep.setting)

/-- The steps, each noting under its place. -/
def notingSteps (steps : List (BuildStep σ)) : List (BuildStep (σ × List StopNote)) :=
  steps.zipIdx.map (fun x => x.1.noting x.2)

/-- The places and names of what is registered in this way. -/
def placesOf (way : Way) (steps : List (BuildStep σ)) : List (Nat × String) :=
  steps.zipIdx.filterMap (fun x => x.1.place? way x.2)

/-- What was registered to be stopped: the validators and then the backends, those of one kind in the
order of registration. -/
def stopOrder (steps : List (BuildStep σ)) : List (Nat × String) :=
  placesOf .stoppableValidator steps ++ placesOf .stoppableBackend steps

/-- The registrations of a stage, with the places of their steps. -/
def registeredIn (stage : Stage) (steps : List (BuildStep σ)) : List (Registration σ × Nat) :=
  steps.zipIdx.filterMap (fun x => (x.1.registration? stage).map (·, x.2))

theorem map_fst_registeredIn (stage : Stage) (steps : List (BuildStep σ)) :
    (registeredIn stage steps).map Prod.fst = steps.filterMap (·.registration? stage) := by
  conv => rhs; rw [← List.zipIdx_map_fst 0 steps, List.filterMap_map]
  simp only [registeredIn, List.map_filterMap, Option.map_map, Function.comp_def, Option.map_id']

theorem map_notingStop_registeredIn (stage : Stage) (steps : List (BuildStep σ)) :
    (registeredIn stage steps).map (fun x => x.1.notingStop x.2) =
      (notingSteps steps).filterMap (·.registration? stage) := by
  simp only [registeredIn, notingSteps, List.map_filterMap, List.filterMap_map, Option.map_map,
    Function.comp_def, BuildStep.registration?_noting]

theorem stopPlace?_registeredIn (way : Way) (hstops : way.stops = true) (steps : List (BuildStep σ)) :
    (registeredIn way.stage steps).filterMap (fun x => x.1.stopPlace? x.2) = placesOf way steps := by
  simp only [registeredIn, placesOf, List.filterMap_filterMap, Option.bind_map, Function.comp_def,
    BuildStep.stopPlace?_registration? way hstops]

/-- What a stop of the client goes through. -/
theorem stop_path (steps : List (BuildStep σ)) :
    (built steps).validators ++ (built steps).backends =
      steps.filterMap (·.registration? .validator) ++ steps.filterMap (·.registration? .backend) := by
  simp only [built, ofSettings, foldl_apply, List.nil_append, List.filterMap_map, Function.comp_def,
    BuildStep.validator?_setting, BuildStep.backend?_setting]

/-! ## Stopping -/

/-- The result of a stop is told by its failures. -/
theorem stop_eq (c : Client σ) (w : World σ) :
    c.stop w =
      let stopped := stopAll (c.validators ++ c.backends) w
      (if stopped.1 = [] then .ok () else .error (.stopFailed stopped.1), stopped.2) := by
  unfold stop
  rcases stopAll (c.validators ++ c.backends) w with ⟨_ | ⟨f, fs⟩, after⟩ <;> rfl

/-- **Everything is stopped exactly once.** For every sequence of steps, and whatever the stoppers
answer: stopping the client calls the stoppers of the validators and then of the backends that were
registered to be stopped, each once and in the order of registration, and no other stopper, not even of a
processor that has one. It succeeds exactly if all of them do; otherwise it reports the failing ones in
the order they were stopped. The notes come from the same stop with noting stoppers, which is the same
stop. -/
theorem stop_built (steps : List (BuildStep σ)) (w : World σ) :
    let stopped := (built steps).stop w
    let noted := (built (notingSteps steps)).stop (w.beside [])
    let notes := noted.2.user.2
    noted.1 = stopped.1 ∧ noted.2.bare = stopped.2 ∧
      notes.map (fun n => (n.position, n.processor)) = stopOrder steps ∧
      (stopped.1 = .ok () ↔ ∀ n ∈ notes, n.answer = .ok ()) ∧
      (stopped.1 ≠ .ok () → stopped.1 = .error (.stopFailed (notes.filterMap StopNote.failure?))) := by
  obtain ⟨new, hstop, hplaces, hfailures⟩ := stopAll_notingStop
    (registeredIn .validator steps ++ registeredIn .backend steps) w []
  have hplaces : new.map (fun n => (n.position, n.processor)) = stopOrder steps := by
    have hvalidators := stopPlace?_registeredIn .stoppableValidator rfl steps
    have hbackends := stopPlace?_registeredIn .stoppableBackend rfl steps
    simp only [Way.stage] at hvalidators hbackends
    rw [hplaces, List.filterMap_append, hvalidators, hbackends, stopOrder]
  simp only [List.map_append, map_fst_registeredIn, map_notingStop_registeredIn, ← stop_path] at hstop hfailures
  simp only [stop_eq, hstop, hfailures, List.nil_append, World.bare_beside, World.user_beside]
  refine ⟨trivial, trivial, hplaces, ?_, ?_⟩
  · have hnone : new.filterMap StopNote.failure? = [] ↔ ∀ n ∈ new, n.answer = .ok () := by
      simp only [List.filterMap_eq_nil_iff, StopNote.failure?, StopFailure.of?_eq_none_iff]
    rw [← hnone]
    split
    · next h => exact iff_of_true rfl h
    · next h => exact iff_of_false (fun h => nomatch h) h
  · intro h
    split
    · next hnil => exact absurd (if_pos hnil) h
    · rfl

/-- The backend came first and is stopped last. -/
example (p : Processor σ) (stop : Stopper σ) :
    stopOrder [.register .stoppableBackend p stop, .register .validator p stop,
      .register .stoppableValidator p stop] = [(2, p.name), (0, p.name)] := rfl

end Client

end CallAudit

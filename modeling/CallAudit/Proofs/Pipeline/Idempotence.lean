import CallAudit.Processor.PrincipalFilter
import CallAudit.Processor.RequiredFields
import CallAudit.Proofs.Interception.Cases
import CallAudit.Proofs.Labels.Mutators
import CallAudit.Proofs.Pipeline.Reference

/-!
# Logging a logged record again

The processors that stand in front of a backend check a record or give it labels. A check looks at the
body alone, so labels do not change its answer; and a label that was given once is left alone from then
on. Hence a record that went through such processors, in whatever stages and order, and whether or not
they let it pass, is fixed: it may go through them again and again.

Results:
* `Preparing.process_eq`: what these processors do, all in one form.
* `turn_again`, `runThrough_again`: one turn, and a whole run, on a record that has at least the labels
  they left it with.
* `log_again`: the same for a client.
-/
namespace CallAudit

variable {σ : Type}

/-! ## More labels -/

namespace AuditRecord

/-- `r'` is `r`, perhaps with more labels. -/
def LabelledAs (r r' : AuditRecord) : Prop := ∃ labels, r' = r.withLabels labels

theorem LabelledAs.refl (r : AuditRecord) : r.LabelledAs r := ⟨Dict.empty, rfl⟩

theorem LabelledAs.trans {a b c : AuditRecord} (hab : a.LabelledAs b) (hbc : b.LabelledAs c) :
    a.LabelledAs c := by
  obtain ⟨first, rfl⟩ := hab
  obtain ⟨later, rfl⟩ := hbc
  exact ⟨first.orElse later, withLabels_withLabels a first later⟩

theorem LabelledAs.mode_eq {r r' : AuditRecord} (h : r.LabelledAs r') : r'.mode = r.mode := by
  obtain ⟨labels, rfl⟩ := h
  rfl

theorem labelledAs_withLabels (r : AuditRecord) (labels : Dict String) :
    r.LabelledAs (r.withLabels labels) := ⟨labels, rfl⟩

/-- Labels that a record was given are not given again. -/
theorem LabelledAs.withLabels_eq {r r' : AuditRecord} {labels : Dict String}
    (h : (r.withLabels labels).LabelledAs r') : r'.withLabels labels = r' := by
  obtain ⟨more, rfl⟩ := h
  rw [withLabels_withLabels r labels more]
  simp only [withLabels, Dict.orElse_orElse_left]

end AuditRecord

/-! ## Preparing processors -/

namespace Processor

/-- The processors that prepare a record for delivery. -/
inductive Preparing : Processor σ → Prop where
  | requiredFields : Preparing .requiredFields
  | principalFilter (f : PrincipalFilter) : Preparing (.principalFilter f)
  | defaultLabels (labels : Dict String) : Preparing (.defaultLabels labels)
  | runtimeLabels (runtime : Runtime) : Preparing (.runtimeLabels runtime)

/-- A preparing processor makes a judgement that labels have no part in, gives labels, and leaves the
world alone. -/
theorem Preparing.process_eq {p : Processor σ} (h : p.Preparing) :
    ∃ (judge : AuditRecord → Except ProcessorError Unit) (labels : Dict String),
      (∀ r more, judge (r.withLabels more) = judge r) ∧
      ∀ ctx r w, p.process ctx r w = ⟨judge r, r.withLabels labels, w⟩ := by
  cases h with
  | requiredFields => exact ⟨AuditRecord.requireFields, Dict.empty, fun _ _ => rfl, fun _ _ _ => rfl⟩
  | principalFilter f => exact ⟨f.judge, Dict.empty, fun _ _ => rfl, fun _ _ _ => rfl⟩
  | defaultLabels labels => exact ⟨fun _ => .ok (), labels, fun _ _ => rfl, fun _ _ _ => rfl⟩
  | runtimeLabels runtime => exact ⟨fun _ => .ok (), runtime.labels, fun _ _ => rfl, fun _ _ _ => rfl⟩

end Processor

namespace Client

open AuditRecord (LabelledAs)

/-- A later turn of the same processor answers as the first one and has nothing to add, whatever labels
the record has got since, as long as the call is cancelled as it was then. -/
theorem turn_again (p : Processor σ) (hp : p.Preparing) (ctx : CallContext) (r : AuditRecord)
    (w : World σ) :
    let first := turn p ctx r w
    first.world = w ∧ r.LabelledAs first.record ∧
      ∀ r' (later : World σ), first.record.LabelledAs r' →
        ctx.isCancelled later.tokens = ctx.isCancelled w.tokens →
        turn p ctx r' later = ⟨first.result, r', later⟩ := by
  obtain ⟨judge, labels, hjudge, hprocess⟩ := hp.process_eq
  cases hc : ctx.isCancelled w.tokens with
  | true =>
    have hturn : ∀ r (v : World σ), ctx.isCancelled v.tokens = true →
        turn p ctx r v = ⟨.error .cancelled, r, v⟩ := by
      intro r v hv
      rw [turn, if_pos hv]
    rw [hturn r w hc]
    exact ⟨rfl, LabelledAs.refl r, fun r' later _ hl => hturn r' later hl⟩
  | false =>
    have hturn : ∀ r (v : World σ), ctx.isCancelled v.tokens = false →
        turn p ctx r v = ⟨judge r, r.withLabels labels, v⟩ := by
      intro r v hv
      rw [turn, hv, if_neg Bool.false_ne_true, hprocess]
    rw [hturn r w hc]
    refine ⟨rfl, r.labelledAs_withLabels labels, fun r' later hr hl => ?_⟩
    have hsame : judge r' = judge r := by
      obtain ⟨more, rfl⟩ := hr
      rw [hjudge, hjudge]
    rw [hturn r' later hl, hr.withLabels_eq, hsame]

/-- The same for a run. The labels that a record ends up with include those of every turn it got to, so
every later turn finds its labels there. -/
theorem runThrough_again (ctx : CallContext) (stations : List (Stage × Registration σ))
    (hs : ∀ s ∈ stations, s.2.processor.Preparing) (r : AuditRecord) (w : World σ) :
    let first := runThrough ctx stations r w
    first.world = w ∧ r.LabelledAs first.record ∧
      ∀ r' (later : World σ), first.record.LabelledAs r' →
        ctx.isCancelled later.tokens = ctx.isCancelled w.tokens →
        runThrough ctx stations r' later = ⟨first.result, r', later⟩ := by
  induction stations generalizing r with
  | nil => exact ⟨rfl, LabelledAs.refl r, fun _ _ _ _ => rfl⟩
  | cons s rest ih =>
    obtain ⟨stage, entry⟩ := s
    obtain ⟨hworld, hrecord, hagain⟩ := turn_again entry.processor (hs _ (List.mem_cons_self ..)) ctx r w
    simp only [runThrough]
    cases ht : (turn entry.processor ctx r w).result with
    | error e =>
      refine ⟨hworld, hrecord, fun r' later hr hl => ?_⟩
      rw [hagain r' later hr hl, ht, hr.mode_eq]
    | ok _ =>
      obtain ⟨hworld', hrecord', hagain'⟩ :=
        ih (fun s h => hs s (List.mem_cons_of_mem _ h)) (turn entry.processor ctx r w).record
      rw [hworld]
      refine ⟨hworld', hrecord.trans hrecord', fun r' later hr hl => ?_⟩
      -- the rest of the first run only added labels, so `r'` has those of this turn
      rw [hagain r' later (hrecord'.trans hr) hl, ht]
      exact hagain' r' later hr hl

theorem withMode_of_labelledAs (c : Client σ) {r r' : AuditRecord} (h : (c.withMode r).LabelledAs r') :
    c.withMode r' = r' := by
  have hmode := h.mode_eq
  unfold withMode at hmode ⊢
  by_cases hr : r.mode = .unspecified
  · rw [if_pos hr] at hmode
    have hset : { r' with mode := c.defaultMode } = r' := by rw [← show r'.mode = c.defaultMode from hmode]
    rw [hset, ite_self]
  · rw [if_neg hr] at hmode
    rw [if_neg (hmode ▸ hr)]

/-- **Logging again changes nothing.** For a client of checks and labels, registered by any settings: what
the first run leaves of a record, a second run leaves as it is, and its result is that of the first
one. The world is left alone, and what has happened to it in between does not matter, as long as the call
is cancelled as it was then. -/
theorem log_again (settings : List (Setting σ)) (ctx : CallContext) (r : AuditRecord) (w : World σ)
    (h : ∀ s ∈ registered settings, s.2.processor.Preparing) :
    let client := ofSettings settings
    let first := client.log ctx r w
    first.world = w ∧ client.log ctx first.record first.world = first ∧
      ∀ later : World σ, ctx.isCancelled later.tokens = ctx.isCancelled w.tokens →
        client.log ctx first.record later = ⟨first.result, first.record, later⟩ := by
  intro client first
  rw [← stations_ofSettings] at h
  obtain ⟨hworld, hrecord, hagain⟩ := runThrough_again ctx client.stations h (client.withMode r) w
  have hlater : ∀ later : World σ, ctx.isCancelled later.tokens = ctx.isCancelled w.tokens →
      client.log ctx first.record later = ⟨first.result, first.record, later⟩ := by
    intro later hl
    have hmode : client.withMode first.record = first.record := client.withMode_of_labelledAs hrecord
    rw [log, hmode]
    exact hagain first.record later (LabelledAs.refl _) hl
  have hw : first.world = w := hworld
  refine ⟨hw, ?_, hlater⟩
  rw [hw, hlater w rfl, ← hw]

/-- Labels, a check among the backends, and more labels behind it. -/
def mixedSettings : List (Setting Unit) :=
  [.mutator (.defaultLabels (Dict.empty.insert "team" "storage")), .backend .requiredFields,
    .defaultMode .failClose, .backend (.runtimeLabels (Runtime.detect (fun _ => none))),
    .validator (.principalFilter {})]

/-- The check fails after the first labels were given and before the others are, in both runs. -/
theorem log_again_unnamed_service :
    let r := AuditRecord.new "pkg.Service.Get" Interceptor.callSeed.timestamp
    let ctx : CallContext := ⟨none, ⟨0⟩⟩
    let w : World Unit := Interceptor.bareWorld
    let first := (ofSettings mixedSettings).log ctx r w
    (∀ s ∈ registered mixedSettings, s.2.processor.Preparing) ∧
      first.result = .error (.processingFailed .backend "request_validator"
        (.invalidArgument "payload is missing service_name")) ∧
      first.record.labels.entries = [("team", "storage")] ∧
      (ofSettings mixedSettings).log ctx first.record first.world = first := by
  intro r ctx w first
  have h : ∀ s ∈ registered mixedSettings, s.2.processor.Preparing := by
    intro s hs
    simp only [registered, mixedSettings, List.filterMap, Setting.validator?, Setting.mutator?,
      Setting.backend?, List.map, List.cons_append, List.nil_append, List.mem_cons, List.not_mem_nil,
      or_false] at hs
    rcases hs with rfl | rfl | rfl | rfl
    · exact .principalFilter _
    · exact .defaultLabels _
    · exact .requiredFields
    · exact .runtimeLabels _
  exact ⟨h, rfl, rfl, (log_again mixedSettings ctx r w h).2.1⟩

end Client

end CallAudit

import CallAudit.Pipeline.Client
import CallAudit.Processor.Labels
import CallAudit.Proofs.Labels.Union
import Mathlib.Data.List.Nodup

/-!
# Processors that give labels

Configured labels and those of the runtime are given to a record by processors of one kind: a label that the
record already has is left alone. So a list of them gives what one processor gives that has the left-biased
union of their labels, and their order matters only where two of them have different values for a label.

* `Labeller`: such a processor, by the labels it has.
* `Processor.inTurn`: processors one after another.
* `Runtime.Tells`: which labels a runtime has, by the variables of its platform.

Results:
* `inTurn_labellers`, `runThrough_labellers`: what a list of them does, alone and as part of a client.
* `tells_detect`: the labels of the runtime that is detected in an environment.
* `labellers_compose`: the laws of such lists.
-/
namespace CallAudit

variable {σ : Type}

namespace AuditRecord

theorem withLabels_withLabels (r : AuditRecord) (first later : Dict String) :
    (r.withLabels first).withLabels later = r.withLabels (first.orElse later) := by
  simp only [withLabels, Dict.orElse_assoc]

end AuditRecord

/-! ## Lists of processors -/

/-- The turns of processors one after another, up to the first that fails. -/
def Processor.inTurn (ctx : CallContext) : List (Processor σ) → AuditRecord → World σ → Turn σ
  | [], r, w => ⟨.ok (), r, w⟩
  | p :: ps, r, w =>
    let t := p.process ctx r w
    match t.result with
    | .ok () => inTurn ctx ps t.record t.world
    | .error _ => t

/-- A processor that gives labels: configured ones, or those of the runtime. -/
inductive Labeller where
  | configured (labels : Dict String)
  | detected (found : Runtime)

namespace Labeller

def labels : Labeller → Dict String
  | configured labels => labels
  | detected found => found.labels

def processor : Labeller → Processor σ
  | configured labels => .defaultLabels labels
  | detected found => .runtimeLabels found

/-- The left-biased union of their labels. -/
def union : List Labeller → Dict String
  | [] => Dict.empty
  | l :: ls => l.labels.orElse (union ls)

theorem process_processor (l : Labeller) (ctx : CallContext) (r : AuditRecord) (w : World σ) :
    l.processor.process ctx r w = ⟨.ok (), r.withLabels l.labels, w⟩ := by
  cases l <;> rfl

theorem get?_union (ls : List Labeller) (k : String) :
    (union ls).get? k = ls.findSome? (fun l => l.labels.get? k) := by
  induction ls with
  | nil => rfl
  | cons l ls ih =>
    rw [union, Dict.get?_orElse, ih, List.findSome?_cons]
    cases l.labels.get? k <;> rfl

theorem union_append (front back : List Labeller) :
    union (front ++ back) = (union front).orElse (union back) := by
  induction front with
  | nil => rw [List.nil_append, union, Dict.empty_orElse]
  | cons l front ih => rw [List.cons_append, union, union, ih, Dict.orElse_assoc]

/-- Neighbours with the same values for the labels that both have may change places. -/
theorem union_swap (front back : List Labeller) (a b : Labeller) (h : a.labels.Agree b.labels) :
    union (front ++ b :: a :: back) = union (front ++ a :: b :: back) := by
  have hcons : ∀ x y : Labeller,
      union (x :: y :: back) = (x.labels.orElse y.labels).orElse (union back) := fun x y => by
    rw [union, union, Dict.orElse_assoc]
  rw [union_append, union_append, hcons, hcons, Dict.orElse_comm_of_agree h]

end Labeller

open Labeller (union)

/-- A list of them gives the union of their labels and does nothing else. -/
theorem inTurn_labellers (ls : List Labeller) (ctx : CallContext) (r : AuditRecord) (w : World σ) :
    Processor.inTurn ctx (ls.map Labeller.processor) r w = ⟨.ok (), r.withLabels (union ls), w⟩ := by
  induction ls generalizing r with
  | nil => rfl
  | cons l ls ih =>
    rw [List.map_cons, Processor.inTurn, l.process_processor]
    dsimp only
    rw [ih, AuditRecord.withLabels_withLabels]
    rfl

/-- The same where a client runs a record through them, in whatever stages they are registered. -/
theorem runThrough_labellers (ls : List Labeller) (stations : List (Stage × Registration σ))
    (hs : stations.map (·.2.processor) = ls.map Labeller.processor) (ctx : CallContext) (r : AuditRecord)
    (w : World σ) (hc : ctx.isCancelled w.tokens = false) :
    Client.runThrough ctx stations r w = ⟨.ok (), r.withLabels (union ls), w⟩ := by
  induction stations generalizing ls r with
  | nil =>
    rw [List.map_nil, eq_comm, List.map_eq_nil_iff] at hs
    subst hs
    rfl
  | cons s rest ih =>
    cases ls with
    | nil => cases hs
    | cons l ls =>
      obtain ⟨hl, hrest⟩ := List.cons.inj hs
      obtain ⟨stage, entry⟩ := s
      have hturn : Client.turn entry.processor ctx r w = ⟨.ok (), r.withLabels l.labels, w⟩ := by
        rw [Client.turn, hc, if_neg Bool.false_ne_true, show entry.processor = _ from hl,
          l.process_processor]
      rw [Client.runThrough, hturn]
      dsimp only
      rw [ih ls hrest, AuditRecord.withLabels_withLabels]
      rfl

/-! ## The labels of the runtime -/

namespace Keyed

variable {α : Type}

/-- Entries with different keys are all kept. -/
theorem get?_ofList_eq_some_iff {es : List (String × α)} (h : (es.map Prod.fst).Nodup) (k : String) (v : α) :
    get? k (ofList es) = some v ↔ (k, v) ∈ es := by
  rw [get?_ofList, Option.map_eq_some_iff]
  constructor
  · rintro ⟨e, he, rfl⟩
    have hk : e.1 = k := by simpa using List.find?_some he
    rw [← hk]
    exact List.mem_reverse.1 (List.mem_of_find?_eq_some he)
  · intro hmem
    obtain ⟨e, he⟩ : ∃ e, es.reverse.find? (fun e => e.1 == k) = some e :=
      Option.isSome_iff_exists.1 (List.find?_isSome.2 ⟨(k, v), List.mem_reverse.2 hmem, beq_self_eq_true k⟩)
    have hk : e.1 = k := by simpa using List.find?_some he
    have heq : e = (k, v) :=
      List.inj_on_of_nodup_map h (List.mem_reverse.1 (List.mem_of_find?_eq_some he)) hmem hk
    exact ⟨e, he, by rw [heq]⟩

end Keyed

namespace Runtime

/-- The runtime has the label of its platform, the others of these labels whose variables are set and not
empty, with the values of the variables, and no more. -/
def Tells (found : Runtime) (lookup : String → Option String) (platform : String)
    (vars : List (String × String)) : Prop :=
  ∀ k v, found.labels.get? k = some v ↔
    k = "runtime_platform" ∧ v = platform ∨
      ∃ var, (k, var) ∈ vars ∧ lookup var = some v ∧ v ≠ ""

theorem label?_eq_some_iff (lookup : String → Option String) (source : String × String) (k v : String) :
    label? lookup source = some (k, v) ↔ source.1 = k ∧ lookup source.2 = some v ∧ v ≠ "" := by
  unfold label?
  cases lookup source.2 with
  | none => simp
  | some x =>
    dsimp only
    split <;> grind

theorem nodup_sources (platform : Platform) : ((sources platform).map Prod.fst).Nodup := by
  cases platform <;> decide

theorem platformLabel_notMem_sources (platform : Platform) :
    platformLabel ∉ (sources platform).map Prod.fst := by
  cases platform <;> decide

theorem mem_found_iff (lookup : String → Option String) (platform : Platform) (k v : String) :
    (k, v) ∈ (sources platform).filterMap (label? lookup) ↔
      ∃ var, (k, var) ∈ sources platform ∧ lookup var = some v ∧ v ≠ "" := by
  rw [List.mem_filterMap]
  constructor
  · rintro ⟨⟨k', var⟩, hmem, h⟩
    obtain ⟨rfl, hset⟩ := (label?_eq_some_iff _ _ _ _).1 h
    exact ⟨var, hmem, hset⟩
  · rintro ⟨var, hmem, hset⟩
    exact ⟨(k, var), hmem, (label?_eq_some_iff _ _ _ _).2 ⟨rfl, hset⟩⟩

theorem nodup_found (lookup : String → Option String) (platform : Platform) :
    (((sources platform).filterMap (label? lookup)).map Prod.fst).Nodup := by
  have hsources := nodup_sources platform
  rw [List.Nodup, List.pairwise_map] at hsources ⊢
  rw [List.pairwise_filterMap]
  refine hsources.imp (fun {s t} hne b hb c hc => ?_)
  rw [← ((label?_eq_some_iff lookup s b.1 b.2).1 hb).1, ← ((label?_eq_some_iff lookup t c.1 c.2).1 hc).1]
  exact hne

/-- A detected runtime tells of its platform only. -/
theorem tells_detect (lookup : String → Option String) :
    (detect lookup).Tells lookup (platformOf lookup).name (sources (platformOf lookup)) := by
  intro k v
  rw [← mem_found_iff, ← Keyed.get?_ofList_eq_some_iff (nodup_found lookup _)]
  change (Dict.insert _ platformLabel _).get? k = some v ↔ _
  rw [Dict.get?_insert]
  by_cases hk : k = platformLabel
  · subst hk
    have hnone : Keyed.get? platformLabel (Keyed.ofList ((sources (platformOf lookup)).filterMap
        (label? lookup))) ≠ some v := by
      rw [ne_eq, Keyed.get?_ofList_eq_some_iff (nodup_found lookup _), mem_found_iff]
      rintro ⟨var, hmem, -⟩
      exact platformLabel_notMem_sources _ (List.mem_map_of_mem hmem)
    rw [if_pos rfl, or_iff_left hnone]
    exact ⟨fun h => ⟨rfl, (Option.some.inj h).symm⟩, fun h => congrArg some h.2.symm⟩
  · rw [if_neg hk, or_iff_right (fun h => hk h.1)]
    rfl

theorem platformOf_of_service (lookup : String → Option String) (h : (lookup "K_SERVICE").isSome) :
    platformOf lookup = .cloudRun := if_pos h

theorem platformOf_of_host (lookup : String → Option String) (h : lookup "K_SERVICE" = none)
    (hhost : (lookup "KUBERNETES_SERVICE_HOST").isSome) : platformOf lookup = .kubernetes := by
  rw [platformOf, h, if_neg (by simp), if_pos hhost]

theorem platformOf_of_none (lookup : String → Option String) (h : lookup "K_SERVICE" = none)
    (hhost : lookup "KUBERNETES_SERVICE_HOST" = none) : platformOf lookup = .unknown := by
  rw [platformOf, h, hhost, if_neg (by simp), if_neg (by simp)]

end Runtime

/-! ## The laws -/

/-- **Labels are given as by one processor.** Of processors that give labels, one after another:
* none fails, and nothing but the labels of the record changes;
* a label has the value that the record had for it, else that of the first processor with this label;
* together they are one processor with the left-biased union of their labels;
* a second time they change nothing;
* neighbours that agree on their common labels may change places;
* a client that has them in any stages does the same, unless the call is cancelled.

The labels of a detected runtime are its platform and the variables of that platform that are set and not
empty. An empty variable points to its platform all the same. -/
theorem labellers_compose (ls : List Labeller) (ctx : CallContext) (r : AuditRecord) (w : World σ) :
    let run (ls : List Labeller) (r : AuditRecord) : Turn σ :=
      Processor.inTurn ctx (ls.map Labeller.processor) r w
    let after := run ls r
    (after.result = .ok () ∧ after.world = w ∧ { after.record with labels := r.labels } = r) ∧
    (∀ k, after.record.labels.get? k =
      (r.labels.get? k).or (ls.findSome? (fun l => l.labels.get? k))) ∧
    ((∀ k, (union ls).get? k = ls.findSome? (fun l => l.labels.get? k)) ∧
      after = (Processor.defaultLabels (union ls)).process ctx r w) ∧
    run ls after.record = after ∧
    (∀ front a b back, ls = front ++ a :: b :: back → a.labels.Agree b.labels →
      run (front ++ b :: a :: back) r = after) ∧
    (∀ stations : List (Stage × Registration σ),
      stations.map (·.2.processor) = ls.map Labeller.processor → ctx.isCancelled w.tokens = false →
      Client.runThrough ctx stations r w = ⟨.ok (), after.record, w⟩) ∧
    ∀ lookup : String → Option String,
      let found := Runtime.detect lookup
      ((lookup "K_SERVICE").isSome → found.platform = .cloudRun ∧
        found.Tells lookup "cloud_run" [("runtime_service", "K_SERVICE"),
          ("runtime_revision", "K_REVISION"), ("runtime_configuration", "K_CONFIGURATION")]) ∧
      (lookup "K_SERVICE" = none → (lookup "KUBERNETES_SERVICE_HOST").isSome →
        found.platform = .kubernetes ∧ found.Tells lookup "kubernetes"
          [("runtime_pod", "POD_NAME"), ("runtime_namespace", "POD_NAMESPACE")]) ∧
      (lookup "K_SERVICE" = none → lookup "KUBERNETES_SERVICE_HOST" = none →
        found.platform = .unknown ∧ found.Tells lookup "unknown" []) := by
  intro run after
  have hrun : ∀ ls r, run ls r = ⟨.ok (), r.withLabels (union ls), w⟩ := fun ls r =>
    inTurn_labellers ls ctx r w
  have hafter : after = _ := hrun ls r
  refine ⟨?_, fun k => ?_, ⟨Labeller.get?_union ls, ?_⟩, ?_, fun front a b back hls hagree => ?_,
    fun stations hs hc => ?_, fun lookup => ⟨fun hk => ?_, fun hk hhost => ?_, fun hk hhost => ?_⟩⟩
  · rw [hafter]
    exact ⟨rfl, rfl, rfl⟩
  · rw [hafter, ← Labeller.get?_union]
    exact Dict.get?_orElse r.labels (union ls) k
  · rw [hafter]
    rfl
  · rw [hrun, hafter]
    dsimp only
    rw [AuditRecord.withLabels_withLabels, Dict.orElse_self]
  · rw [hrun, Labeller.union_swap front back a b hagree, ← hls, hafter]
  · rw [runThrough_labellers ls stations hs ctx r w hc, hafter]
  · have htells := Runtime.tells_detect lookup
    rw [Runtime.platformOf_of_service lookup hk] at htells
    exact ⟨Runtime.platformOf_of_service lookup hk, htells⟩
  · have htells := Runtime.tells_detect lookup
    rw [Runtime.platformOf_of_host lookup hk hhost] at htells
    exact ⟨Runtime.platformOf_of_host lookup hk hhost, htells⟩
  · have htells := Runtime.tells_detect lookup
    rw [Runtime.platformOf_of_none lookup hk hhost] at htells
    exact ⟨Runtime.platformOf_of_none lookup hk hhost, htells⟩

/-- Variables of both platforms, the one that names a service empty. -/
def unnamedService (name : String) : Option String :=
  [("K_SERVICE", ""), ("K_REVISION", "orders-42"), ("KUBERNETES_SERVICE_HOST", "10.0.0.1"),
    ("POD_NAME", "orders-abc")].lookup name

/-- A record with a team is given labels of a team and of a runtime, in either order. -/
theorem labellers_compose_unnamedService :
    let team := Labeller.configured (Dict.ofList [("env", "prod"), ("team", "storage")])
    let found := Labeller.detected (Runtime.detect unnamedService)
    let r := (AuditRecord.new "pkg.Service.Get" { day := 1, second := 4, nanos := 5 }).withLabels
      (Dict.ofList [("team", "search")])
    let w : World Unit := { host := { files := ⟨fun _ => none, []⟩ }, user := () }
    let run (ls : List Labeller) : Turn Unit :=
      Processor.inTurn ⟨none, ⟨0⟩⟩ (ls.map Labeller.processor) r w
    run [found, team] = run [team, found] ∧
      (run [team, found]).record.labels.get? "team" = some "search" ∧
      (run [team, found]).record.labels.get? "env" = some "prod" ∧
      (Runtime.detect unnamedService).platform = .cloudRun ∧
      (Runtime.detect unnamedService).labels.get? "runtime_revision" = some "orders-42" ∧
      (∀ v, (Runtime.detect unnamedService).labels.get? "runtime_service" ≠ some v) ∧
      Client.runThrough ⟨none, ⟨0⟩⟩
          [(.mutator, ⟨team.processor, none⟩), (.backend, ⟨found.processor, none⟩)] r w =
        ⟨.ok (), (run [team, found]).record, w⟩ := by
  intro team found r w run
  obtain ⟨-, hlabels, -, -, hswap, hclient, hdetect⟩ := labellers_compose [team, found] ⟨none, ⟨0⟩⟩ r w
  obtain ⟨hplatform, htells⟩ := (hdetect unnamedService).1 rfl
  have hagree : team.labels.Agree found.labels := by
    intro k v v' hv hv'
    have hk : k = "env" ∨ k = "team" := by
      have hmem := (Keyed.get?_ofList_eq_some_iff (by decide) k v).1 hv
      simp only [List.mem_cons, Prod.mk.injEq, List.not_mem_nil, or_false] at hmem
      exact hmem.imp And.left And.left
    rcases (htells k v').1 hv' with ⟨rfl, -⟩ | ⟨var, hmem, -⟩
    · exact absurd hk (by decide)
    · rcases hk with rfl | rfl <;> simp at hmem
  refine ⟨hswap [] team found [] rfl hagree, hlabels "team", hlabels "env", hplatform,
    (htells _ _).2 (.inr ⟨"K_REVISION", by decide, rfl, by decide⟩), fun v h => ?_,
    hclient _ rfl rfl⟩
  obtain ⟨hk, -⟩ | ⟨var, hmem, hset, hne⟩ := (htells _ v).1 h
  · exact absurd hk (by decide)
  · have hvar : var = "K_SERVICE" := by simpa using hmem
    rw [hvar] at hset
    exact hne (Option.some.inj hset).symm

end CallAudit

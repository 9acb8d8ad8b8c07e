import CallAudit.Cancellation
import Mathlib.Logic.Relation

/-!
# Which cancels a context answers for

A program makes tokens, children of them and contexts, clones contexts, attaches tokens to them, takes
tokens out of them, and cancels through whatever it holds. A ledger is kept of its steps: which token was
made as the child of which, which tokens a cancel hit, which tokens were handed out, and what each context
carries. Nothing in it is read off the forest or the contexts: the ledger goes by the steps alone, and
the lineages, the marks and the handles are proved against it. So it is a theorem here that a cancel
reaches just the descendants of the token it hits, at once and for ever, those made later included, that a
clone shares the token of its original, and that an attached token is the one that counts.

* `History.Above`: a token or one of its ancestors, by the children that were made.
* `TokenForest.Follows`: the forest's lineages and marks are those of the history.
* `Holdings.Accounted`: what a program holds is what the ledger says. Each step keeps this.

Result: `cancellation_of_run`. A context is cancelled exactly when a cancel hit a token above its own.
-/
namespace CallAudit

/-- The children made so far, each after its parent, and the tokens that were cancelled. -/
structure History where
  births : List (CancelToken × CancelToken) := []
  hits : List CancelToken := []
  deriving DecidableEq, Repr

namespace History

/-- Is `a` the token `t` or one of its ancestors? -/
def Above (h : History) (a t : CancelToken) : Prop :=
  Relation.ReflTransGen (fun p c => (p, c) ∈ h.births) a t

/-- The token `c` is made, on its own or as the child of `parent?`. -/
def born (h : History) (parent? : Option CancelToken) (c : CancelToken) : History :=
  ⟨h.births ++ (parent?.map (·, c)).toList, h.hits⟩

def hit (h : History) (t : CancelToken) : History := ⟨h.births, h.hits ++ [t]⟩

theorem mem_births_born {h : History} {parent? : Option CancelToken} {c p d : CancelToken} :
    (p, d) ∈ (h.born parent? c).births ↔ (p, d) ∈ h.births ∨ parent? = some p ∧ d = c := by
  rw [born, List.mem_append, Option.mem_toList, Option.map_eq_some_iff]
  refine or_congr_right ⟨?_, ?_⟩
  · rintro ⟨q, hq, hpair⟩
    obtain ⟨rfl, rfl⟩ := Prod.mk.inj hpair
    exact ⟨hq, rfl⟩
  · rintro ⟨hp, rfl⟩
    exact ⟨p, hp, rfl⟩

end History

/-! ## The forest against its history -/

/-- The forest tells what happened. Children come after their parents, so that no token is an ancestor
of its own ancestors. -/
structure TokenForest.Follows (f : TokenForest) (h : History) : Prop where
  births : ∀ p c, (p, c) ∈ h.births → p.id < c.id ∧ c.id < f.nodes.length
  hits : ∀ t ∈ h.hits, t.id < f.nodes.length
  lineage : ∀ t, t.id < f.nodes.length → ∀ a : CancelToken, a.id ∈ f.lineage t ↔ h.Above a t
  isCancelled : ∀ t, t.id < f.nodes.length →
    (f.isCancelled t = true ↔ ∃ hit ∈ h.hits, h.Above hit t)

namespace TokenForest

variable {f : TokenForest} {h : History} {n : TokenForest.Node} {a t u : CancelToken}

/-- The forest with one more token. -/
def append (f : TokenForest) (n : Node) : TokenForest := ⟨f.nodes ++ [n]⟩

theorem length_append : (f.append n).nodes.length = f.nodes.length + 1 := List.length_append

theorem id_lt_append_iff :
    t.id < (f.append n).nodes.length ↔ t.id < f.nodes.length ∨ t = ⟨f.nodes.length⟩ := by
  rw [length_append, Nat.lt_succ_iff_lt_or_eq, CancelToken.mk.injEq t.id]

theorem getElem?_append_of_lt (ht : t.id < f.nodes.length) :
    (f.append n).nodes[t.id]? = f.nodes[t.id]? :=
  List.getElem?_append_left ht

theorem getElem?_append_self : (f.append n).nodes[f.nodes.length]? = some n :=
  List.getElem?_concat_length

theorem lineage_append_of_lt (ht : t.id < f.nodes.length) : (f.append n).lineage t = f.lineage t := by
  rw [lineage, getElem?_append_of_lt ht, lineage]

theorem lineage_append_self : (f.append n).lineage ⟨f.nodes.length⟩ = n.lineage := by
  rw [lineage, getElem?_append_self, Option.map_some, Option.getD_some]

theorem isCancelled_append_of_lt (ht : t.id < f.nodes.length) :
    (f.append n).isCancelled t = f.isCancelled t := by
  rw [isCancelled, getElem?_append_of_lt ht, isCancelled]

theorem isCancelled_append_self : (f.append n).isCancelled ⟨f.nodes.length⟩ = n.cancelled := by
  rw [isCancelled, getElem?_append_self, Option.any_some]

theorem length_cancel : (f.cancel t).nodes.length = f.nodes.length := List.length_map _

theorem lineage_cancel : (f.cancel t).lineage u = f.lineage u := by
  unfold lineage cancel
  rw [List.getElem?_map]
  cases f.nodes[u.id]? with
  | none => rfl
  | some n => by_cases hmem : t.id ∈ n.lineage <;> simp [hmem]

theorem follows_empty : empty.Follows {} where
  births := fun _ _ hmem => nomatch hmem
  hits := fun _ hmem => nomatch hmem
  lineage := fun _ hlt => absurd hlt (Nat.not_lt_zero _)
  isCancelled := fun _ hlt => absurd hlt (Nat.not_lt_zero _)

namespace Follows

theorem id_le_of_above (hf : f.Follows h) (habove : h.Above a t) : a.id ≤ t.id := by
  induction habove with
  | refl => exact Nat.le_refl _
  | tail _ hborn ih => exact Nat.le_trans ih (Nat.le_of_lt (hf.births _ _ hborn).1)

/-- Two tokens are not above each other. -/
theorem not_above_of_above (hf : f.Follows h) (habove : h.Above a t) (hne : a ≠ t) : ¬ h.Above t a := by
  intro hback
  have hid : a.id = t.id := Nat.le_antisymm (hf.id_le_of_above habove) (hf.id_le_of_above hback)
  exact hne (by cases a; cases t; exact congrArg CancelToken.mk hid)

section Birth

variable {parent? : Option CancelToken} {c : CancelToken}

/-- Above the older tokens nothing changes. -/
theorem above_born_of_lt (hf : f.Follows h) (hc : c.id = f.nodes.length) (ht : t.id < f.nodes.length) :
    (h.born parent? c).Above a t ↔ h.Above a t := by
  constructor
  · intro habove
    induction habove with
    | refl => exact .refl
    | tail _ hborn ih =>
      rcases History.mem_births_born.mp hborn with hold | ⟨_, rfl⟩
      · exact .tail (ih (Nat.lt_trans (hf.births _ _ hold).1 ht)) hold
      · exact absurd hc (Nat.ne_of_lt ht)
  · exact Relation.ReflTransGen.mono (fun _ _ hborn => History.mem_births_born.mpr (.inl hborn)) a t

/-- Above the new token are itself and what is above its parent. -/
theorem above_born_self (hf : f.Follows h) (hc : c.id = f.nodes.length)
    (hparent : ∀ p, parent? = some p → p.id < f.nodes.length) :
    (h.born parent? c).Above a c ↔ a = c ∨ ∃ p, parent? = some p ∧ h.Above a p := by
  rw [History.Above, Relation.ReflTransGen.cases_tail_iff, eq_comm]
  refine or_congr_right ⟨?_, ?_⟩
  · rintro ⟨p, habove, hborn⟩
    rcases History.mem_births_born.mp hborn with hold | ⟨hp, _⟩
    · exact absurd hc (Nat.ne_of_lt (hf.births _ _ hold).2)
    · exact ⟨p, hp, (hf.above_born_of_lt hc (hparent p hp)).mp habove⟩
  · rintro ⟨p, hp, habove⟩
    exact ⟨p, (hf.above_born_of_lt hc (hparent p hp)).mpr habove,
      History.mem_births_born.mpr (.inr ⟨hp, rfl⟩)⟩

/-- A new token that starts with its parent's lineage and mark, if it has a parent. -/
theorem append (hf : f.Follows h) (hparent : ∀ p, parent? = some p → p.id < f.nodes.length)
    (hlineage : ∀ i, i ∈ n.lineage ↔ i = f.nodes.length ∨ ∃ p, parent? = some p ∧ i ∈ f.lineage p)
    (hmark : n.cancelled = true ↔ ∃ p, parent? = some p ∧ f.isCancelled p = true) :
    (f.append n).Follows (h.born parent? ⟨f.nodes.length⟩) := by
  refine ⟨?births, ?hits, ?lineage, ?isCancelled⟩
  case births =>
    intro p c hborn
    rw [length_append]
    rcases History.mem_births_born.mp hborn with hold | ⟨hp, rfl⟩
    · exact ⟨(hf.births p c hold).1, Nat.lt_succ_of_lt (hf.births p c hold).2⟩
    · exact ⟨hparent p hp, Nat.lt_succ_self _⟩
  case hits => exact fun t ht => id_lt_append_iff.mpr (.inl (hf.hits t ht))
  case lineage =>
    intro t ht a
    rcases id_lt_append_iff.mp ht with ht | rfl
    · rw [lineage_append_of_lt ht, hf.above_born_of_lt rfl ht, hf.lineage t ht]
    · rw [lineage_append_self, hf.above_born_self rfl hparent, hlineage]
      refine or_congr ?_ (exists_congr fun p => and_congr_right fun hp => hf.lineage p (hparent p hp) a)
      rw [CancelToken.mk.injEq a.id]
  case isCancelled =>
    intro t ht
    rcases id_lt_append_iff.mp ht with ht | rfl
    · rw [isCancelled_append_of_lt ht, hf.isCancelled t ht]
      exact exists_congr fun hit => and_congr_right fun _ => (hf.above_born_of_lt rfl ht).symm
    -- no hit is the new token itself: all of them are older
    · rw [isCancelled_append_self, hmark]
      constructor
      · rintro ⟨p, hp, hcancelled⟩
        obtain ⟨hit, hhit, habove⟩ := (hf.isCancelled p (hparent p hp)).mp hcancelled
        exact ⟨hit, hhit, (hf.above_born_self rfl hparent).mpr (.inr ⟨p, hp, habove⟩)⟩
      · rintro ⟨hit, hhit, habove⟩
        rcases (hf.above_born_self rfl hparent).mp habove with rfl | ⟨p, hp, habove⟩
        · exact absurd (hf.hits _ hhit) (Nat.lt_irrefl _)
        · exact ⟨p, hp, (hf.isCancelled p (hparent p hp)).mpr ⟨hit, hhit, habove⟩⟩

end Birth

theorem fresh (hf : f.Follows h) : f.fresh.2.Follows (h.born none f.fresh.1) :=
  hf.append (fun _ hp => nomatch hp) (by simp) (by simp)

theorem child (hf : f.Follows h) (ht : t.id < f.nodes.length) :
    (f.child t).2.Follows (h.born (some t) (f.child t).1) :=
  hf.append (fun _ hp => Option.some.inj hp ▸ ht) (by simp) (by simp)

theorem cancel (hf : f.Follows h) (ht : t.id < f.nodes.length) : (f.cancel t).Follows (h.hit t) := by
  refine ⟨?births, ?hits, ?lineage, ?isCancelled⟩ <;> rw [length_cancel]
  case births => exact hf.births
  case hits =>
    intro u hu
    rcases List.mem_append.mp hu with hu | hu
    · exact hf.hits u hu
    · exact List.mem_singleton.mp hu ▸ ht
  case lineage =>
    intro u hu a
    rw [lineage_cancel]
    exact hf.lineage u hu a
  case isCancelled =>
    intro u hu
    rw [isCancelled_cancel, Bool.or_eq_true, decide_eq_true_iff, hf.lineage u hu, hf.isCancelled u hu,
      History.hit]
    simp only [List.mem_append, List.mem_singleton, or_and_right, exists_or, exists_eq_left]
    rfl

/-- A cancel leaves alone what is above the token it hits. -/
theorem isCancelled_cancel_above (hf : f.Follows h) (ht : t.id < f.nodes.length) (habove : h.Above a t)
    (hne : a ≠ t) : (f.cancel t).isCancelled a = f.isCancelled a := by
  have ha : a.id < f.nodes.length := Nat.lt_of_le_of_lt (hf.id_le_of_above habove) ht
  have hnot : t.id ∉ f.lineage a := fun hmem =>
    hf.not_above_of_above habove hne ((hf.lineage a ha t).mp hmem)
  rw [isCancelled_cancel, decide_eq_false hnot, Bool.or_false]

end Follows

end TokenForest

/-! ## A program and what it holds -/

/-- What a program does next. Tokens and contexts go by their places among those it holds; a step about
a place that holds nothing does nothing. -/
inductive CancelStep where
  | token
  | child (parent : Nat)
  | context (metadata : Option Metadata)
  | clone (context : Nat)
  | attach (context token : Nat)
  | tokenOf (context : Nat)
  | cancelToken (token : Nat)
  | cancelContext (context : Nat)

/-- What a program has done so far: beside the history, how many tokens it made, which of them it has
handles on, and what each of its contexts carries. -/
structure Ledger extends History where
  made : Nat := 0
  handles : List CancelToken := []
  contexts : List CallContext := []
  deriving DecidableEq

namespace Ledger

/-- The token that the step cancels through one of the handles. -/
def hit? (l : Ledger) : CancelStep → Option CancelToken
  | .cancelToken i => l.handles[i]?
  | .cancelContext i => l.contexts[i]?.map (·.token)
  | _ => none

/-- A token that is made, on its own or as the child of `parent?`. -/
def birth (l : Ledger) (parent? : Option CancelToken) : Ledger :=
  { l with toHistory := l.born parent? ⟨l.made⟩, made := l.made + 1 }

def next (l : Ledger) : CancelStep → Ledger
  | .token => { l.birth none with handles := l.handles ++ [⟨l.made⟩] }
  | .child i =>
    match l.handles[i]? with
    | some p => { l.birth (some p) with handles := l.handles ++ [⟨l.made⟩] }
    | none => l
  | .context metadata => { l.birth none with contexts := l.contexts ++ [⟨metadata, ⟨l.made⟩⟩] }
  -- a clone carries what its original does, the token included
  | .clone i => { l with contexts := l.contexts ++ l.contexts[i]?.toList }
  -- from now on the context holds the other token, and keeps its metadata
  | .attach i j =>
    match l.contexts[i]?, l.handles[j]? with
    | some c, some t => { l with contexts := l.contexts.set i ⟨c.metadata, t⟩ }
    | _, _ => l
  | .tokenOf i => { l with handles := l.handles ++ (l.contexts[i]?.map (·.token)).toList }
  | a =>
    match l.hit? a with
    | some t => { l with toHistory := l.hit t }
    | none => l

/-- The ledger of steps from the start on. -/
def ofSteps (steps : List CancelStep) : Ledger := steps.foldl next {}

end Ledger

/-- The handles a program has got so far. -/
structure Holdings where
  forest : TokenForest := .empty
  tokens : List CancelToken := []
  contexts : List CallContext := []

namespace Holdings

def step (s : Holdings) : CancelStep → Holdings
  | .token =>
    let (t, forest) := s.forest.fresh
    { s with forest, tokens := s.tokens ++ [t] }
  | .child i =>
    match s.tokens[i]? with
    | some p =>
      let (t, forest) := s.forest.child p
      { s with forest, tokens := s.tokens ++ [t] }
    | none => s
  | .context metadata =>
    let (c, forest) := CallContext.new metadata s.forest
    { s with forest, contexts := s.contexts ++ [c] }
  | .clone i => { s with contexts := s.contexts ++ s.contexts[i]?.toList }
  | .attach i j =>
    match s.contexts[i]?, s.tokens[j]? with
    | some c, some t => { s with contexts := s.contexts.set i (c.withCancellation t) }
    | _, _ => s
  | .tokenOf i => { s with tokens := s.tokens ++ (s.contexts[i]?.map (·.token)).toList }
  | .cancelToken i =>
    match s.tokens[i]? with
    | some t => { s with forest := s.forest.cancel t }
    | none => s
  | .cancelContext i =>
    match s.contexts[i]? with
    | some c => { s with forest := c.cancel s.forest }
    | none => s

/-- The steps from the start on. -/
def run (steps : List CancelStep) : Holdings := steps.foldl step {}

/-- The forest follows the history, and the program holds what the ledger says. -/
structure Accounted (s : Holdings) (l : Ledger) : Prop where
  forest : s.forest.Follows l.toHistory
  made : s.forest.nodes.length = l.made
  tokens : s.tokens = l.handles
  contexts : s.contexts = l.contexts
  handles_lt : ∀ t ∈ l.handles, t.id < l.made
  contexts_lt : ∀ c ∈ l.contexts, c.token.id < l.made

variable {s : Holdings} {l : Ledger}

theorem accounted_start : Accounted {} {} :=
  ⟨TokenForest.follows_empty, rfl, rfl, rfl, fun _ hmem => (nomatch hmem), fun _ hmem => (nomatch hmem)⟩

namespace Accounted

theorem hit_lt (hs : s.Accounted l) {a : CancelStep} {t : CancelToken} (hhit : l.hit? a = some t) :
    t.id < s.forest.nodes.length := by
  rw [hs.made]
  cases a with
  | cancelToken i => exact hs.handles_lt t (List.mem_of_getElem? hhit)
  | cancelContext i =>
    obtain ⟨c, hc, rfl⟩ := Option.map_eq_some_iff.mp hhit
    exact hs.contexts_lt c (List.mem_of_getElem? hc)
  | _ => exact nomatch hhit

/-- A token that was just made, with no handle on it yet. -/
theorem birth {parent? : Option CancelToken} {n : TokenForest.Node} (hs : s.Accounted l)
    (hforest : (s.forest.append n).Follows (l.born parent? ⟨s.forest.nodes.length⟩)) :
    Accounted ⟨s.forest.append n, s.tokens, s.contexts⟩ (l.birth parent?) where
  forest := by rw [Ledger.birth, ← hs.made]; exact hforest
  made := by rw [TokenForest.length_append, hs.made, Ledger.birth]
  tokens := hs.tokens
  contexts := hs.contexts
  handles_lt t ht := Nat.lt_succ_of_lt (hs.handles_lt t ht)
  contexts_lt c hc := Nat.lt_succ_of_lt (hs.contexts_lt c hc)

/-- More handles, on tokens that were made. -/
theorem addHandles {more : List CancelToken} (hs : s.Accounted l) (hmore : ∀ t ∈ more, t.id < l.made) :
    Accounted ⟨s.forest, s.tokens ++ more, s.contexts⟩ { l with handles := l.handles ++ more } :=
  { hs with
    tokens := by rw [hs.tokens]
    handles_lt := fun t ht => (List.mem_append.mp ht).elim (hs.handles_lt t) (hmore t) }

/-- Contexts that carry tokens that were made. -/
theorem setContexts {contexts : List CallContext} (hs : s.Accounted l)
    (hlt : ∀ c ∈ contexts, c.token.id < l.made) :
    Accounted ⟨s.forest, s.tokens, contexts⟩ { l with contexts } :=
  { hs with contexts := rfl, contexts_lt := hlt }

theorem addContexts {more : List CallContext} (hs : s.Accounted l)
    (hmore : ∀ c ∈ more, c.token.id < l.made) :
    Accounted ⟨s.forest, s.tokens, s.contexts ++ more⟩ { l with contexts := l.contexts ++ more } := by
  rw [hs.contexts]
  exact hs.setContexts fun c hc => (List.mem_append.mp hc).elim (hs.contexts_lt c) (hmore c)

theorem cancel {t : CancelToken} (hs : s.Accounted l) (ht : t.id < s.forest.nodes.length) :
    Accounted ⟨s.forest.cancel t, s.tokens, s.contexts⟩ { l with toHistory := l.hit t } :=
  { hs with
    forest := hs.forest.cancel ht
    made := by rw [TokenForest.length_cancel, hs.made] }

/-- A handle on a token that was just made. -/
theorem newToken {parent? : Option CancelToken} {n : TokenForest.Node} (hs : s.Accounted l)
    (hforest : (s.forest.append n).Follows (l.born parent? ⟨s.forest.nodes.length⟩)) :
    Accounted ⟨s.forest.append n, s.tokens ++ [⟨s.forest.nodes.length⟩], s.contexts⟩
      { l.birth parent? with handles := l.handles ++ [⟨l.made⟩] } := by
  rw [hs.made]
  refine (hs.birth hforest).addHandles fun t ht => ?_
  rw [List.mem_singleton.mp ht]
  exact Nat.lt_succ_self _

/-- A context with a token that was just made. -/
theorem newContext {n : TokenForest.Node} (metadata : Option Metadata) (hs : s.Accounted l)
    (hforest : (s.forest.append n).Follows (l.born none ⟨s.forest.nodes.length⟩)) :
    Accounted ⟨s.forest.append n, s.tokens, s.contexts ++ [⟨metadata, ⟨s.forest.nodes.length⟩⟩]⟩
      { l.birth none with contexts := l.contexts ++ [⟨metadata, ⟨l.made⟩⟩] } := by
  rw [hs.made]
  refine (hs.birth hforest).addContexts fun c hc => ?_
  rw [List.mem_singleton.mp hc]
  exact Nat.lt_succ_self _

/-- One step keeps the account. -/
theorem step (hs : s.Accounted l) (a : CancelStep) : (s.step a).Accounted (l.next a) := by
  obtain ⟨forest, tokens, contexts⟩ := s
  obtain rfl : tokens = l.handles := hs.tokens
  obtain rfl : contexts = l.contexts := hs.contexts
  cases a with
  | token => exact hs.newToken hs.forest.fresh
  | child i =>
    simp only [Holdings.step, Ledger.next]
    cases hp : l.handles[i]? with
    | none => exact hs
    | some p =>
      have hlt := hs.handles_lt p (List.mem_of_getElem? hp)
      exact hs.newToken (hs.forest.child (hs.made ▸ hlt))
  | context metadata => exact hs.newContext metadata hs.forest.fresh
  | clone i =>
    exact hs.addContexts fun c hc => hs.contexts_lt c (List.mem_of_getElem? (Option.mem_toList.mp hc))
  | attach i j =>
    simp only [Holdings.step, Ledger.next]
    cases hc : l.contexts[i]? with
    | none => exact hs
    | some c =>
      cases ht : l.handles[j]? with
      | none => exact hs
      | some t =>
        refine hs.setContexts fun d hd => ?_
        rcases List.mem_or_eq_of_mem_set hd with hd | rfl
        · exact hs.contexts_lt d hd
        · exact hs.handles_lt t (List.mem_of_getElem? ht)
  | tokenOf i =>
    refine hs.addHandles fun t ht => ?_
    obtain ⟨c, hc, rfl⟩ := Option.map_eq_some_iff.mp (Option.mem_toList.mp ht)
    exact hs.contexts_lt c (List.mem_of_getElem? hc)
  | cancelToken i =>
    simp only [Holdings.step, Ledger.next, Ledger.hit?]
    cases ht : l.handles[i]? with
    | none => exact hs
    | some t => exact hs.cancel (hs.hit_lt (a := .cancelToken i) ht)
  | cancelContext i =>
    simp only [Holdings.step, Ledger.next, Ledger.hit?]
    cases hc : l.contexts[i]? with
    | none => exact hs
    | some c => exact hs.cancel (hs.hit_lt (a := .cancelContext i) (by rw [Ledger.hit?, hc]; rfl))

end Accounted

theorem accounted_run (steps : List CancelStep) : (run steps).Accounted (Ledger.ofSteps steps) := by
  have hfold : ∀ (steps : List CancelStep) (s : Holdings) (l : Ledger), s.Accounted l →
      (steps.foldl step s).Accounted (steps.foldl Ledger.next l) := by
    intro steps
    induction steps with
    | nil => exact fun _ _ hs => hs
    | cons a rest ih => exact fun s l hs => ih _ _ (hs.step a)
  exact hfold steps {} {} accounted_start

/-- A step that cancels changes the marks and nothing else. -/
theorem forest_of_hit {a : CancelStep} {t : CancelToken} (hs : s.Accounted l) (hhit : l.hit? a = some t) :
    (s.step a).forest = s.forest.cancel t := by
  cases a with
  | cancelToken i => simp only [step, hs.tokens, show l.handles[i]? = some t from hhit]
  | cancelContext i =>
    obtain ⟨c, hc, rfl⟩ := Option.map_eq_some_iff.mp hhit
    simp only [step, hs.contexts, hc]
    rfl
  | _ => exact nomatch hhit

/-- Every other context is what it was after an attachment, and so is every token. -/
theorem step_attach (i j : Nat) :
    (s.step (.attach i j)).forest = s.forest ∧
      ∀ k, k ≠ i → (s.step (.attach i j)).contexts[k]? = s.contexts[k]? := by
  simp only [step]
  split
  · exact ⟨rfl, fun k hk => List.getElem?_set_ne hk.symm⟩
  · exact ⟨rfl, fun _ _ => rfl⟩

/-- The contexts that are there keep their metadata. -/
theorem metadata_step (a : CancelStep) {k : Nat} {c : CallContext} (hc : s.contexts[k]? = some c) :
    (s.step a).contexts[k]?.map (·.metadata) = some c.metadata := by
  have hmore : ∀ more, (s.contexts ++ more)[k]?.map (·.metadata) = some c.metadata := fun more => by
    rw [List.getElem?_append_left (List.getElem?_eq_some_iff.mp hc).1, hc, Option.map_some]
  have hsame : s.contexts[k]?.map (·.metadata) = some c.metadata := by rw [hc, Option.map_some]
  cases a with
  | token | tokenOf => exact hsame
  | context | clone => exact hmore _
  | child i | cancelToken i | cancelContext i => simp only [step]; split <;> exact hsame
  | attach i j =>
    simp only [step]
    split
    case h_1 d t hd _ =>
      by_cases hk : k = i
      · subst hk
        obtain rfl : c = d := Option.some.inj (hc.symm.trans hd)
        rw [List.getElem?_set_self (List.getElem?_eq_some_iff.mp hc).1]
        rfl
      · rw [List.getElem?_set_ne (Ne.symm hk)]
        exact hsame
    case h_2 => exact hsame

/-- After any steps a program holds the tokens and contexts that the ledger says: what was made, cloned,
attached and taken out. At every moment a context is cancelled exactly when a cancel hit the token that it
holds now by the ledger, or an ancestor of it; and so is a token. A cancel leaves the ancestors of the
token that it hits alone, an attachment every other context and every mark, and any step the metadata of
the contexts that are there. -/
theorem cancellation_of_run (steps : List CancelStep) :
    let s := run steps
    let l := Ledger.ofSteps steps
    s.tokens = l.handles ∧ s.contexts = l.contexts ∧
      (∀ (k : Nat) c, l.contexts[k]? = some c →
        (s.contexts[k]?.any (·.isCancelled s.forest) = true ↔ ∃ hit ∈ l.hits, l.Above hit c.token)) ∧
      (∀ t ∈ l.handles, s.forest.isCancelled t = true ↔ ∃ hit ∈ l.hits, l.Above hit t) ∧
      (∀ a t p, l.hit? a = some t → l.Above p t → p ≠ t →
        (s.step a).forest.isCancelled p = s.forest.isCancelled p) ∧
      (∀ i j, (s.step (.attach i j)).forest = s.forest ∧
        ∀ k : Nat, k ≠ i → (s.step (.attach i j)).contexts[k]? = s.contexts[k]?) ∧
      ∀ a (k : Nat) c, s.contexts[k]? = some c →
        (s.step a).contexts[k]?.map (·.metadata) = some c.metadata := by
  intro s l
  have hs : s.Accounted l := accounted_run steps
  have hlt : ∀ t : CancelToken, t.id < l.made → t.id < s.forest.nodes.length := by
    rw [hs.made]
    exact fun _ ht => ht
  refine ⟨hs.tokens, hs.contexts, fun k c hc => ?_,
    fun t ht => hs.forest.isCancelled t (hlt t (hs.handles_lt t ht)), ?_, step_attach,
    fun a k c hc => metadata_step a hc⟩
  · rw [hs.contexts, hc]
    exact hs.forest.isCancelled c.token (hlt _ (hs.contexts_lt c (List.mem_of_getElem? hc)))
  · intro a t p hhit habove hne
    rw [forest_of_hit hs hhit]
    exact hs.forest.isCancelled_cancel_above (hs.hit_lt hhit) habove hne

/-- A context takes the child of a token, is cloned, takes another token, and the clone is cancelled. -/
def reattached : List CancelStep :=
  [.token, .child 0, .context none, .attach 0 1, .clone 0, .token, .attach 0 2, .cancelContext 1]

/-- The clone is cancelled, by a hit above its token. The context it was cloned from is not, nor is the
parent of the token that was hit, however often the clone is cancelled. -/
theorem cancellation_of_reattached :
    let s : Holdings := run reattached
    let l := Ledger.ofSteps reattached
    l.contexts = [⟨none, ⟨3⟩⟩, ⟨none, ⟨1⟩⟩] ∧ (∃ hit ∈ l.hits, l.Above hit ⟨1⟩) ∧
      (¬ ∃ hit ∈ l.hits, l.Above hit ⟨3⟩) ∧
      (s.step (.cancelContext 1)).forest.isCancelled ⟨0⟩ = false := by
  intro s l
  obtain ⟨_, _, hiff, _, habove, _, _⟩ := cancellation_of_run reattached
  refine ⟨rfl, (hiff 1 ⟨none, ⟨1⟩⟩ rfl).mp rfl, ?_, ?_⟩
  · rw [← hiff 0 ⟨none, ⟨3⟩⟩ rfl]
    decide
  · exact habove (.cancelContext 1) ⟨1⟩ ⟨0⟩ rfl (.single (by decide)) (by decide)

end Holdings
end CallAudit

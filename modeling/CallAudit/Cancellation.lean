import CallAudit.Metadata

/-!
# Cancellation

Tokens form a forest: a token may be made on its own or as the child of another. Cancelling a token
marks it and all its descendants for ever, and a child of a marked token starts marked. A call's
context holds its metadata and one token; copies of a context share the token.

* `isCancelled_cancel`: what a cancel marks.
-/
namespace CallAudit

/-- A handle on a node of the forest. -/
structure CancelToken where
  id : Nat
  deriving DecidableEq, Repr

/-- A node: the tokens from itself up to its root, and its mark. -/
structure TokenForest.Node where
  lineage : List Nat
  cancelled : Bool
  deriving DecidableEq, Repr

/-- All tokens made so far, in the order of their numbers. -/
structure TokenForest where
  nodes : List TokenForest.Node := []
  deriving DecidableEq, Repr

namespace TokenForest

def empty : TokenForest := {}

def isCancelled (f : TokenForest) (t : CancelToken) : Bool := (f.nodes[t.id]?).any (·.cancelled)

def lineage (f : TokenForest) (t : CancelToken) : List Nat := ((f.nodes[t.id]?).map (·.lineage)).getD []

/-- A token without a parent. -/
def fresh (f : TokenForest) : CancelToken × TokenForest :=
  (⟨f.nodes.length⟩, ⟨f.nodes ++ [⟨[f.nodes.length], false⟩]⟩)

/-- A token that is cancelled with `t`. -/
def child (f : TokenForest) (t : CancelToken) : CancelToken × TokenForest :=
  (⟨f.nodes.length⟩, ⟨f.nodes ++ [⟨f.nodes.length :: f.lineage t, f.isCancelled t⟩]⟩)

/-- Marks `t` and its descendants. -/
def cancel (f : TokenForest) (t : CancelToken) : TokenForest :=
  ⟨f.nodes.map (fun n => if t.id ∈ n.lineage then { n with cancelled := true } else n)⟩

theorem isCancelled_cancel {f : TokenForest} {t u : CancelToken} :
    (f.cancel t).isCancelled u = (f.isCancelled u || decide (t.id ∈ f.lineage u)) := by
  unfold isCancelled cancel lineage
  simp only [List.getElem?_map]
  cases f.nodes[u.id]? with
  | none => simp
  | some n =>
    simp only [Option.map_some, Option.any_some, Option.getD_some]
    split <;> simp_all

end TokenForest

/-- What travels with a call. -/
structure CallContext where
  metadata : Option Metadata
  token : CancelToken
  deriving DecidableEq

namespace CallContext

/-- A context with a token of its own. -/
def new (metadata : Option Metadata) (f : TokenForest) : CallContext × TokenForest :=
  let (token, f) := f.fresh
  (⟨metadata, token⟩, f)

/-- The context, cancelled with `t` from now on. -/
def withCancellation (c : CallContext) (t : CancelToken) : CallContext := { c with token := t }

def isCancelled (c : CallContext) (f : TokenForest) : Bool := f.isCancelled c.token

def cancel (c : CallContext) (f : TokenForest) : TokenForest := f.cancel c.token

end CallContext

end CallAudit

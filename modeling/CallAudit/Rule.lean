import CallAudit.LogKind

/-!
# Rules

A rule says which methods it governs and how their calls are recorded. Its selector is a method
name, or a text and a final `*` that stands for any ending; the selector `*` covers every method. Of
the rules that cover a method, the one with the method's own name governs, else the first of those
with the longest selector.

* `Rule.covers`: the methods of a rule. `Rule.covers_of_stem`, `Rule.covers_of_stem?_eq_none`: which they
  are, for a selector with a final `*` and for any other.
* `mostRelevant`: the governing rule, the unset rule if none covers the method.
-/
namespace CallAudit

/-- How the calls of some methods are recorded. -/
structure Rule where
  selector : String := ""
  directive : Directive := .unspecified
  logType : LogType := .unspecified
  deriving DecidableEq, Repr, Inhabited

/-- What is wrong with a rule. -/
inductive RuleError where
  | emptySelector
  | misplacedWildcard (selector : String)
  | missingDirective (selector : String)
  | missingLogType (selector : String)
  deriving DecidableEq, Repr

def RuleError.message : RuleError → String
  | emptySelector => "rule selector must not be empty"
  | misplacedWildcard s =>
    "rule selector '" ++ s ++ "' may only contain '*' as its last character"
  | missingDirective s => "rule '" ++ s ++ "' has no directive"
  | missingLogType s => "rule '" ++ s ++ "' has no log type"

namespace Rule

/-- The characters before a final `*`. -/
def stem? (selector : List Char) : Option (List Char) :=
  match selector.getLast? with
  | some '*' => some selector.dropLast
  | _ => none

/-- Does the rule stand for no rule? -/
def isUnset (r : Rule) : Bool := r.selector.isEmpty

/-- Does the rule's selector cover the method? -/
def covers (r : Rule) (method : String) : Bool :=
  if r.selector = "*" then true
  else match stem? r.selector.toList with
    | some stem => stem.isPrefixOf method.toList
    | none => r.selector == method

theorem stem?_append_star (stem : List Char) : stem? (stem ++ ['*']) = some stem := by
  simp [stem?]

theorem stem?_eq_some (cs stem : List Char) (h : stem? cs = some stem) : cs = stem ++ ['*'] := by
  unfold stem? at h
  split at h
  · rename_i hl
    obtain ⟨front, rfl⟩ := List.getLast?_eq_some_iff.1 hl
    rw [List.dropLast_concat] at h
    rw [Option.some.inj h]
  · cases h

theorem stem?_eq_none (cs : List Char) (h : '*' ∉ cs) : stem? cs = none := by
  cases hs : stem? cs with
  | none => rfl
  | some stem =>
    rw [stem?_eq_some cs stem hs] at h
    exact absurd (List.mem_append_right stem (List.mem_singleton_self '*')) h

/-- A text and a final `*` covers the methods that start with the text. -/
theorem covers_of_stem (r : Rule) (stem : List Char) (h : r.selector.toList = stem ++ ['*'])
    (method : String) : r.covers method = true ↔ stem <+: method.toList := by
  unfold covers
  by_cases hs : r.selector = "*"
  · -- the selector `*` is the empty text and a final `*`
    have hstem : stem = [] := by
      rw [hs] at h
      exact (List.append_inj' (h.symm.trans (List.nil_append ['*']).symm) rfl).1
    simp [hs, hstem]
  · rw [if_neg hs, h, stem?_append_star]
    exact List.isPrefixOf_iff_prefix

/-- Any other selector covers the method of that name. -/
theorem covers_of_stem?_eq_none (r : Rule) (h : stem? r.selector.toList = none) (method : String) :
    r.covers method = true ↔ r.selector = method := by
  have hs : r.selector ≠ "*" := by
    intro hs
    rw [hs] at h
    exact absurd h (by decide)
  simp [covers, hs, h]

theorem covers_selector (r : Rule) : r.covers r.selector = true := by
  cases hs : stem? r.selector.toList with
  | none => exact (r.covers_of_stem?_eq_none hs _).2 rfl
  | some stem =>
    have h := stem?_eq_some _ stem hs
    rw [r.covers_of_stem stem h, h]
    exact List.prefix_append stem ['*']

/-- What a configured rule must satisfy; of several faults the first in this order is reported. -/
def validate (r : Rule) : Except RuleError Unit :=
  let body := (stem? r.selector.toList).getD r.selector.toList
  if r.selector = "" then .error .emptySelector
  else if '*' ∈ body then .error (.misplacedWildcard r.selector)
  else if r.directive = .unspecified then .error (.missingDirective r.selector)
  else if r.logType = .unspecified then .error (.missingLogType r.selector)
  else .ok ()

/-- The longer selector by bytes, the earlier rule where they are equally long. -/
def longer (best : Option Rule) (r : Rule) : Option Rule :=
  match best with
  | some b => if b.selector.utf8ByteSize < r.selector.utf8ByteSize then some r else some b
  | none => some r

end Rule

/-- The governing rule of a list, given the best of the rules before it. -/
def mostRelevantFrom (method : String) (best : Option Rule) : List Rule → Rule
  | [] => best.getD {}
  | r :: rs =>
    if r.covers method then
      if r.selector = method then r else mostRelevantFrom method (Rule.longer best r) rs
    else mostRelevantFrom method best rs

/-- The rule that governs a method; the unset rule if no rule covers it. -/
def mostRelevant (method : String) (rules : List Rule) : Rule := mostRelevantFrom method none rules

end CallAudit

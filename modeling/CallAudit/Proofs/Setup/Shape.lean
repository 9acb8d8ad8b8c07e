import CallAudit.Config.Reader
import Mathlib.Data.List.Forall2

/-!
# The shape of a configuration

The reader of configurations takes a value apart and decodes the parts. Here it is said which values are
configurations, and which ones, with no decoding: a structure is written as an object or as a list, its
fields have values of their own shapes, and a field that is left out has a value that stands for it. The
reader accepts just these values.

Results:
* `Json.Structured`, `Json.fields?_eq_some_iff`: how structures are written.
* `Rule.Written`, `JwtSource.Written`, `BackendConfig.Written`: the parts of a configuration.
* `AuditConfig.Written`, `AuditConfig.ofValue?_eq_some_iff`: configurations.
* `AuditConfig.ofToml?_eq_some_iff`, `AuditConfig.ofToml?_eq_none_iff`: texts that are configurations.
-/
namespace CallAudit

theorem mapM_eq_some_iff {α β : Type} (f : α → Option β) (xs : List α) (ys : List β) :
    xs.mapM f = some ys ↔ List.Forall₂ (fun x y => f x = some y) xs ys := by
  induction xs generalizing ys with
  | nil => simp [eq_comm]
  | cons x xs ih =>
    simp only [List.mapM_cons, Option.bind_eq_bind, Option.bind_eq_some_iff, Option.pure_def,
      Option.some.injEq, List.forall₂_cons_left_iff, ih]
    constructor
    · rintro ⟨y, hy, rest, hrest, rfl⟩
      exact ⟨y, rest, hy, hrest, rfl⟩
    · rintro ⟨y, rest, hy, hrest, rfl⟩
      exact ⟨y, hy, rest, hrest, rfl⟩

/-! ## Structures and their fields -/

namespace Json

/-- What the members hold under a name: nothing, or the value of the one member of that name. -/
inductive Held (name : String) : List (String × Json) → Option Json → Prop
  | missing (ms : List (String × Json)) (h : ∀ m ∈ ms, m.1 ≠ name) : Held name ms none
  | once (before after : List (String × Json)) (v : Json) (hbefore : ∀ m ∈ before, m.1 ≠ name)
    (hafter : ∀ m ∈ after, m.1 ≠ name) : Held name (before ++ (name, v) :: after) (some v)

/-- The fields of these names, in a structure that is written as an object, where unknown members do not
count, or as a list, where the last fields may be left out and surplus items may be allowed. -/
inductive Structured (surplus : Bool) (names : List String) : Json → List (Option Json) → Prop
  | members (ms : List (String × Json)) (fields : List (Option Json))
    (h : List.Forall₂ (fun name field => Held name ms field) names fields) :
    Structured surplus names (.object ms) fields
  | items (xs : List Json) (missing : Nat) (h : xs.length + missing = names.length) :
    Structured surplus names (.array xs) (xs.map some ++ List.replicate missing none)
  | surplusItems (xs more : List Json) (h : xs.length = names.length) (hs : surplus = true) :
    Structured surplus names (.array (xs ++ more)) (xs.map some)

/-- What a field denotes, with a value that stands for it where it is missing. -/
inductive Filled {α : Type} (default : α) (R : Json → α → Prop) : Option Json → α → Prop
  | missing : Filled default R none default
  | given (v : Json) (a : α) (h : R v a) : Filled default R (some v) a

/-- A name: as a text, or as the one key of an object that holds nothing. -/
inductive Naming (d : Dialect) (name : String) : Json → Prop
  | text : Naming d name (.string name)
  | key (v : Json) (h : d.isUnit v = true) : Naming d name (.object [(name, v)])

/-- A list of values, each of the shape `R`. -/
def Listed {α : Type} (R : Json → α → Prop) (v : Json) (xs : List α) : Prop :=
  ∃ vs, v = .array vs ∧ List.Forall₂ R vs xs

theorem slot?_eq_some_iff (name : String) (ms : List (String × Json)) (field : Option Json) :
    slot? ms name = some field ↔ Held name ms field := by
  constructor
  · intro h
    unfold slot? at h
    split at h
    · rename_i hfilter
      cases h
      exact .missing ms (by simpa using List.filter_eq_nil_iff.1 hfilter)
    · rename_i m hfilter
      cases h
      obtain ⟨before, after, rfl, hbefore, hm, hafter⟩ := List.filter_eq_cons_iff.1 hfilter
      obtain ⟨name', v⟩ := m
      obtain rfl : name' = name := by simpa using hm
      exact .once before after v (by simpa using hbefore) (by simpa using List.filter_eq_nil_iff.1 hafter)
    · cases h
  · intro h
    cases h with
    | missing _ h =>
      rw [slot?, List.filter_eq_nil_iff.2 (by simpa using h)]
    | once before after v hbefore hafter =>
      have hfilter : (before ++ (name, v) :: after).filter (fun m => m.1 == name) = [(name, v)] :=
        List.filter_eq_cons_iff.2 ⟨before, after, rfl, by simpa using hbefore, by simp,
          List.filter_eq_nil_iff.2 (by simpa using hafter)⟩
      rw [slot?, hfilter]

theorem slots?_eq_some_iff (names : List String) (ms : List (String × Json)) (fields : List (Option Json)) :
    slots? names ms = some fields ↔ List.Forall₂ (fun name field => Held name ms field) names fields := by
  simp only [slots?, mapM_eq_some_iff, slot?_eq_some_iff]

/-- The reader of structures finds the fields. -/
theorem fields?_eq_some_iff (surplus : Bool) (names : List String) (v : Json) (fields : List (Option Json)) :
    v.fields? surplus names = some fields ↔ Structured surplus names v fields := by
  constructor
  · intro h
    cases v with
    | object ms => exact .members ms fields ((slots?_eq_some_iff names ms fields).1 h)
    | array xs =>
      simp only [Json.fields?, placed?, Bool.or_eq_true, decide_eq_true_eq] at h
      split at h
      · rename_i hfits
        cases h
        by_cases hlength : xs.length ≤ names.length
        · rw [List.take_of_length_le hlength]
          exact .items xs _ (by omega)
        · have hitems : Structured surplus names (.array (xs.take names.length ++ xs.drop names.length)) _ :=
            .surplusItems _ _ (by rw [List.length_take]; omega) (hfits.resolve_right hlength)
          rw [List.take_append_drop] at hitems
          rw [show names.length - xs.length = 0 by omega, List.replicate_zero, List.append_nil]
          exact hitems
      · cases h
    | _ => cases h
  · intro h
    cases h with
    | members ms _ h => exact (slots?_eq_some_iff names ms fields).2 h
    | items xs missing h =>
      simp only [Json.fields?, placed?]
      rw [if_pos (by simp; omega), List.take_of_length_le (by omega), show names.length - xs.length = missing
        by omega]
    | surplusItems xs more h hs =>
      simp only [Json.fields?, placed?]
      rw [if_pos (by simp [hs]), ← h, List.take_left', List.length_append, Nat.sub_eq_zero_of_le (by omega)]
      · simp
      · rfl

section
variable {α : Type} {decode : Json → Option α} {R : Json → α → Prop}
variable (h : ∀ v a, decode v = some a ↔ R v a)
include h

theorem withDefault?_eq_some_iff (default : α) (field : Option Json) (a : α) :
    withDefault? default decode field = some a ↔ Filled default R field a := by
  cases field with
  | none =>
    rw [withDefault?, Option.some.injEq]
    constructor
    · rintro rfl
      exact .missing
    · rintro ⟨⟩
      rfl
  | some v =>
    rw [withDefault?, h]
    constructor
    · exact .given v a
    · rintro ⟨⟩
      assumption

theorem list?_eq_some_iff (v : Json) (xs : List α) : list? decode v = some xs ↔ Listed R v xs := by
  cases v with
  | array vs =>
    rw [list?, mapM_eq_some_iff]
    simp only [h, Listed, array.injEq, exists_eq_left']
  | _ => simp [list?, Listed]

end

theorem string?_eq_some_iff (v : Json) (s : String) : v.string? = some s ↔ v = .string s := by
  cases v <;> simp [string?]

theorem bool?_eq_some_iff (v : Json) (b : Bool) : v.bool? = some b ↔ v = .bool b := by
  cases v <;> simp [bool?]

/-- Values that have names are read by them. -/
theorem named?_eq_some_iff {α : Type} (d : Dialect) (ofName? : String → Option α) (name : α → String)
    (h : ∀ s a, ofName? s = some a ↔ name a = s) (v : Json) (a : α) :
    named? d.isUnit ofName? v = some a ↔ Naming d (name a) v := by
  rw [named?, Option.bind_eq_some_iff]
  simp only [h]
  constructor
  · rintro ⟨s, hs, rfl⟩
    unfold variant? at hs
    split at hs
    · cases hs
      exact .text
    · split at hs
      · cases hs
        exact .key _ ‹_›
      · cases hs
    · cases hs
  · intro hn
    cases hn with
    | text => exact ⟨_, rfl, rfl⟩
    | key v hv => exact ⟨_, by rw [variant?, if_pos hv], rfl⟩

end Json

open Json

/-! ## Names -/

/-- The value of a name, if no two have the same. -/
theorem find?_name_eq_some_iff {α : Type} {all : List α} {name : α → String}
    (hall : ∀ a, all.find? (fun x => name x == name a) = some a) (s : String) (a : α) :
    all.find? (fun x => name x == s) = some a ↔ name a = s := by
  constructor
  · intro h
    simpa using List.find?_some h
  · rintro rfl
    exact hall a

theorem Directive.ofName?_eq_some_iff (s : String) (d : Directive) :
    Directive.ofName? s = some d ↔ d.name = s := find?_name_eq_some_iff ofName?_name s d

theorem LogType.ofName?_eq_some_iff (s : String) (t : LogType) :
    LogType.ofName? s = some t ↔ t.name = s := find?_name_eq_some_iff ofName?_name s t

theorem LogMode.ofName?_eq_some_iff (s : String) (m : LogMode) :
    LogMode.ofName? s = some m ↔ m.name = s := find?_name_eq_some_iff ofName?_name s m

/-! ## Parts of a configuration -/

/-- A rule has a selector; what it leaves out is unspecified. -/
def Rule.Written (d : Dialect) (v : Json) (r : Rule) : Prop :=
  ∃ directive logType,
    Structured d.surplus ["selector", "directive", "log_type"] v
      [some (.string r.selector), directive, logType] ∧
    Filled .unspecified (fun v x => Naming d x.name v) directive r.directive ∧
    Filled .unspecified (fun v x => Naming d x.name v) logType r.logType

/-- A source has a key; without a prefix the token is all that stands there. -/
def JwtSource.Written (d : Dialect) (v : Json) (s : JwtSource) : Prop :=
  ∃ lead, Structured d.surplus ["key", "prefix"] v [some (.string s.key), lead] ∧
    Filled "" (fun v x => v = .string x) lead s.lead

namespace BackendConfig

/-- The backend of a kind. Only a file has a path, and it needs one. -/
inductive OfKind : String → Option Json → BackendConfig → Prop
  | stdout (path : Option Json) : OfKind "stdout" path .stdout
  | tracing (path : Option Json) : OfKind "tracing" path .tracing
  | file (path : String) : OfKind "file" (some (.string path)) (.file path)

/-- A backend is written as an object with its kind, or as a list of its kind and its path. -/
inductive Written : Json → BackendConfig → Prop
  | members (ms : List (String × Json)) (kind : String) (path : Option Json) (b : BackendConfig)
    (hkind : Held "kind" ms (some (.string kind))) (hpath : Held "path" ms path) (h : OfKind kind path b) :
    Written (.object ms) b
  | items (kind : String) (rest : List Json) (b : BackendConfig) (h : OfKind kind rest.head? b)
    (hfile : kind = "file" → rest.length = 1) : Written (.array (.string kind :: rest)) b

end BackendConfig

namespace AuditConfig

/-- Where tokens stand: after `Bearer` in the usual header, unless sources are listed. -/
def SourcesWritten (d : Dialect) (v : Json) (sources : List JwtSource) : Prop :=
  ∃ listed, Structured d.surplus ["from_raw_jwt"] v [listed] ∧
    Filled [⟨"authorization", "Bearer "⟩] (Listed (JwtSource.Written d)) listed sources

/-- A pattern, or null for none. -/
inductive PatternWritten : Json → Option String → Prop
  | absent : PatternWritten .null none
  | text (pattern : String) : PatternWritten (.string pattern) (some pattern)

/-- Which principals are audited: the include pattern and the exclude pattern. -/
def ConditionWritten (d : Dialect) (v : Json) (patterns : Option String × Option String) : Prop :=
  ∃ included excluded,
    Structured d.surplus ["principal_include", "principal_exclude"] v [included, excluded] ∧
    Filled none PatternWritten included patterns.1 ∧ Filled none PatternWritten excluded patterns.2

/-- Labels are texts; the last of repeated ones counts. -/
def LabelsWritten (v : Json) (labels : Dict String) : Prop :=
  ∃ ts : List (String × String), v = .object (ts.map (fun t => (t.1, .string t.2))) ∧
    labels = Dict.ofList ts

/-- A written configuration. Any part may be left out. -/
def Written (d : Dialect) (v : Json) (c : AuditConfig) : Prop :=
  ∃ logMode rules security condition labels runtimeInfo backend,
    Structured d.surplus ["log_mode", "rules", "security_context", "condition", "labels", "runtime_info",
      "backend"] v [logMode, rules, security, condition, labels, runtimeInfo, backend] ∧
    Filled .bestEffort (fun v x => Naming d x.name v) logMode c.logMode ∧
    Filled [] (Listed (Rule.Written d)) rules c.rules ∧
    Filled [⟨"authorization", "Bearer "⟩] (SourcesWritten d) security c.sources ∧
    Filled (none, none) (ConditionWritten d) condition (c.included?, c.excluded?) ∧
    Filled Dict.empty LabelsWritten labels c.labels ∧
    Filled true (fun v x => v = .bool x) runtimeInfo c.runtimeInfo ∧
    Filled .stdout BackendConfig.Written backend c.backend

end AuditConfig

/-! ## Their readers -/

theorem Rule.ofJson?_eq_some_iff (d : Dialect) (v : Json) (r : Rule) :
    Rule.ofJson? d v = some r ↔ r.Written d v := by
  have hdirective := withDefault?_eq_some_iff
    (named?_eq_some_iff d Directive.ofName? Directive.name Directive.ofName?_eq_some_iff) .unspecified
  have hlogType := withDefault?_eq_some_iff
    (named?_eq_some_iff d LogType.ofName? LogType.name LogType.ofName?_eq_some_iff) .unspecified
  unfold Rule.ofJson? Rule.Written
  simp only [← fields?_eq_some_iff, ← hdirective, ← hlogType]
  constructor
  · intro h
    split at h
    · rename_i selector directive logType hfields
      simp only [Option.bind_eq_bind, Option.bind_eq_some_iff, string?_eq_some_iff] at h
      obtain ⟨s, ⟨_, rfl, rfl⟩, x, hx, t, ht, h⟩ := h
      cases h
      exact ⟨directive, logType, hfields, hx, ht⟩
    · cases h
  · rintro ⟨directive, logType, hfields, hx, ht⟩
    simp only [hfields, Option.bind_eq_bind, Option.bind_some, string?, hx, ht]

theorem JwtSource.ofJson?_eq_some_iff (d : Dialect) (v : Json) (s : JwtSource) :
    JwtSource.ofJson? d v = some s ↔ s.Written d v := by
  have hlead := withDefault?_eq_some_iff string?_eq_some_iff ""
  unfold JwtSource.ofJson? JwtSource.Written
  simp only [← fields?_eq_some_iff, ← hlead]
  constructor
  · intro h
    split at h
    · rename_i key lead hfields
      simp only [Option.bind_eq_bind, Option.bind_eq_some_iff, string?_eq_some_iff] at h
      obtain ⟨k, ⟨_, rfl, rfl⟩, x, hx, h⟩ := h
      cases h
      exact ⟨lead, hfields, hx⟩
    · cases h
  · rintro ⟨lead, hfields, hx⟩
    simp only [hfields, Option.bind_eq_bind, Option.bind_some, string?, hx]

namespace BackendConfig

theorem ofKind?_eq_some_iff (kind : String) (path : Option Json) (b : BackendConfig) :
    ofKind? kind path = some b ↔ OfKind kind path b := by
  constructor
  · intro h
    unfold ofKind? at h
    split at h
    · cases h
      exact .stdout path
    · cases h
      exact .tracing path
    · simp only [Option.bind_eq_some_iff, Option.map_eq_some_iff, string?_eq_some_iff] at h
      obtain ⟨_, rfl, p, rfl, rfl⟩ := h
      exact .file p
    · cases h
  · rintro ⟨⟩ <;> rfl

theorem ofJson?_eq_some_iff (v : Json) (b : BackendConfig) : ofJson? v = some b ↔ Written v b := by
  constructor
  · intro h
    unfold ofJson? at h
    split at h
    · rename_i ms
      obtain ⟨fields, hfields, h⟩ := Option.bind_eq_some_iff.1 h
      split at h
      · rename_i kind path
        simp only [slots?_eq_some_iff, List.forall₂_cons] at hfields
        exact .members ms kind path b hfields.1 hfields.2.1 ((ofKind?_eq_some_iff kind path b).1 h)
      · cases h
    · rename_i kind rest
      split at h
      · cases h
      · rename_i hfits
        refine .items kind rest b ((ofKind?_eq_some_iff kind rest.head? b).1 h) ?_
        rintro rfl
        cases rest with
        | nil => simp [ofKind?] at h
        | cons path more => simpa using hfits
    · cases h
  · intro h
    cases h with
    | members ms kind path _ hkind hpath h =>
      have hfields : slots? ["kind", "path"] ms = some [some (.string kind), path] :=
        (slots?_eq_some_iff _ ms _).2 (.cons hkind (.cons hpath .nil))
      rw [ofJson?, hfields]
      exact (ofKind?_eq_some_iff kind path b).2 h
    | items kind rest _ h hfile =>
      rw [ofJson?, if_neg (by rintro ⟨hkind, hmore⟩; have := hfile hkind; omega)]
      exact (ofKind?_eq_some_iff kind rest.head? b).2 h

end BackendConfig

namespace AuditConfig

theorem sources?_eq_some_iff (d : Dialect) (v : Json) (sources : List JwtSource) :
    sources? d [⟨"authorization", "Bearer "⟩] v = some sources ↔ SourcesWritten d v sources := by
  have hsources := withDefault?_eq_some_iff (list?_eq_some_iff (JwtSource.ofJson?_eq_some_iff d))
    [⟨"authorization", "Bearer "⟩]
  unfold sources? SourcesWritten
  simp only [← fields?_eq_some_iff, ← hsources]
  constructor
  · intro h
    split at h
    · exact ⟨_, ‹_›, h⟩
    · cases h
  · rintro ⟨listed, hfields, h⟩
    simpa only [hfields] using h

theorem nullable?_string?_eq_some_iff (v : Json) (pattern : Option String) :
    nullable? string? v = some pattern ↔ PatternWritten v pattern := by
  constructor
  · intro h
    unfold nullable? at h
    split at h
    · cases h
      exact .absent
    · obtain ⟨s, hs, rfl⟩ := Option.map_eq_some_iff.1 h
      obtain rfl := (string?_eq_some_iff v s).1 hs
      exact .text s
  · rintro ⟨⟩ <;> rfl

theorem condition?_eq_some_iff (d : Dialect) (v : Json) (patterns : Option String × Option String) :
    condition? d v = some patterns ↔ ConditionWritten d v patterns := by
  have hpattern := withDefault?_eq_some_iff nullable?_string?_eq_some_iff none
  unfold condition? ConditionWritten
  simp only [← fields?_eq_some_iff, ← hpattern]
  constructor
  · intro h
    split at h
    · simp only [Option.bind_eq_bind, Option.bind_eq_some_iff] at h
      obtain ⟨included, hincluded, excluded, hexcluded, h⟩ := h
      cases h
      exact ⟨_, _, ‹_›, hincluded, hexcluded⟩
    · cases h
  · rintro ⟨included, excluded, hfields, hincluded, hexcluded⟩
    simp only [hfields, Option.bind_eq_bind, hincluded, hexcluded, Option.bind_some]

theorem texts?_eq_some_iff (ms : List (String × Json)) (ts : List (String × String)) :
    texts? ms = some ts ↔ ms = ts.map (fun t => (t.1, .string t.2)) := by
  induction ms generalizing ts with
  | nil => cases ts <;> simp [texts?]
  | cons m ms ih =>
    obtain ⟨k, v⟩ := m
    constructor
    · intro h
      unfold texts? at h
      split at h
      · rename_i s rest hs hrest
        cases h
        rw [(string?_eq_some_iff v s).1 hs, (ih rest).1 hrest]
        rfl
      · cases h
    · intro h
      obtain ⟨⟨k', s⟩, rest, rfl, hm, hrest⟩ := List.map_eq_cons_iff.1 h.symm
      cases hm
      simp only [texts?, string?, (ih rest).2 hrest.symm]

theorem textMap?_eq_some_iff (v : Json) (labels : Dict String) :
    textMap? v = some labels ↔ LabelsWritten v labels := by
  cases v with
  | object ms =>
    simp only [textMap?, Option.map_eq_some_iff, texts?_eq_some_iff, LabelsWritten, object.injEq]
    exact exists_congr fun ts => and_congr_right fun _ => eq_comm
  | _ => simp [textMap?, LabelsWritten]

/-- **The reader of configurations** accepts what is written as a configuration, and nothing else. -/
theorem ofValue?_eq_some_iff (d : Dialect) (v : Json) (c : AuditConfig) :
    ofValue? d v = some c ↔ Written d v c := by
  have hlogMode := withDefault?_eq_some_iff
    (named?_eq_some_iff d LogMode.ofName? LogMode.name LogMode.ofName?_eq_some_iff) .bestEffort
  have hrules := withDefault?_eq_some_iff (list?_eq_some_iff (Rule.ofJson?_eq_some_iff d)) []
  have hsecurity := withDefault?_eq_some_iff (sources?_eq_some_iff d) [⟨"authorization", "Bearer "⟩]
  have hcondition := withDefault?_eq_some_iff (condition?_eq_some_iff d) (none, none)
  have hlabels := withDefault?_eq_some_iff textMap?_eq_some_iff Dict.empty
  have hruntime := withDefault?_eq_some_iff bool?_eq_some_iff true
  have hbackend := withDefault?_eq_some_iff BackendConfig.ofJson?_eq_some_iff .stdout
  unfold ofValue? Written
  simp only [← fields?_eq_some_iff, ← hlogMode, ← hrules, ← hsecurity, ← hcondition, ← hlabels, ← hruntime,
    ← hbackend]
  constructor
  · intro h
    split at h
    · simp only [Option.bind_eq_bind, Option.bind_eq_some_iff] at h
      obtain ⟨_, hm, _, hr, _, hs, ⟨_, _⟩, hp, _, hl, _, hi, _, hb, h⟩ := h
      cases h
      exact ⟨_, _, _, _, _, _, _, ‹_›, hm, hr, hs, hp, hl, hi, hb⟩
    · cases h
  · rintro ⟨_, _, _, _, _, _, _, hfields, hm, hr, hs, hp, hl, hi, hb⟩
    simp only [hfields, Option.bind_eq_bind, hm, hr, hs, hp, hl, hi, hb, Option.bind_some]

theorem ofToml?_eq_some_iff (text : String) (c : AuditConfig) :
    ofToml? text = some c ↔ ∃ v, Toml.read? text = some v ∧ c.Written .toml v := by
  simp only [ofToml?, Option.bind_eq_some_iff, ofValue?_eq_some_iff]

theorem ofToml?_eq_none_iff (text : String) :
    ofToml? text = none ↔ ∀ v c, Toml.read? text = some v → ¬ Written .toml v c := by
  simp only [Option.eq_none_iff_forall_ne_some, ne_eq, ofToml?_eq_some_iff, not_exists, not_and]
  exact forall_comm

end AuditConfig

end CallAudit

import CallAudit.CommandLine
import CallAudit.Proofs.Interception.Cases
import CallAudit.Proofs.Rules.Specificity
import CallAudit.Proofs.Setup.Built

/-!
# A valid configuration is enough

A configuration is gone through twice: by the check, and by the set-up that makes a filter, a client and an
interceptor of it. The two could disagree. Here it is said without the check what a configuration needs,
and that the check asks for just that. A configuration that fails the check leaves no trace in the world;
after one that passes, the file of its backend is all that can still fail.

Results:
* `Rule.validate_eq_ok_iff`, `AuditConfig.validate_eq_ok_iff`: what rules and configurations need.
* `AuditConfig.setsUp_of_validate`: what the set-up of a valid configuration comes to.
* `AuditConfig.validate_decides`: the check decides about the set-up, also for what a search finds and for
  what the command line accepts.
-/
namespace CallAudit

/-- A check that refuses under a condition goes on to succeed exactly if that does not hold and the rest
succeeds. -/
theorem refuse_else_eq_ok_iff {ε β : Type} {p : Prop} [Decidable p] {e : ε} {rest : Except ε β} {b : β} :
    (if p then .error e else rest) = .ok b ↔ ¬ p ∧ rest = .ok b := by
  by_cases hp : p <;> simp [hp]

/-! ## Rules -/

namespace Rule

/-- A selector whose `*` can only be its last character, and how calls are recorded. -/
structure WellFormed (r : Rule) : Prop where
  selector : r.selector ≠ ""
  star : '*' ∉ r.selector.toList.dropLast
  directive : r.directive ≠ .unspecified
  logType : r.logType ≠ .unspecified

theorem star_mem_body_iff (cs : List Char) : '*' ∈ (stem? cs).getD cs ↔ '*' ∈ cs.dropLast := by
  cases hs : stem? cs with
  | some stem =>
    rw [stem?_eq_some cs stem hs, List.dropLast_concat]
    rfl
  | none =>
    cases hl : cs.getLast? with
    | none => simp [List.getLast?_eq_none_iff.1 hl]
    | some last =>
      have hne : '*' ≠ last := by
        rintro rfl
        simp [stem?, hl] at hs
      have hcs : cs = cs.dropLast ++ [last] := (List.dropLast_append_getLast? last hl).symm
      rw [Option.getD_none]
      conv_lhs => rw [hcs]
      simp [hne]

theorem validate_eq_ok_iff (r : Rule) : r.validate = .ok () ↔ r.WellFormed := by
  simp only [validate, refuse_else_eq_ok_iff, star_mem_body_iff, and_true]
  constructor
  · rintro ⟨hselector, hstar, hdirective, hlogType⟩
    exact ⟨hselector, hstar, hdirective, hlogType⟩
  · intro h
    exact ⟨h.selector, h.star, h.directive, h.logType⟩

end Rule

namespace AuditConfig

open PatternEngine (compile?)

variable {σ : Type}

/-! ## What a configuration needs -/

/-- A mode, rules, sources whose keys are not all white space, patterns that can be read, and a path for a
file. -/
structure WellFormed [PatternEngine] (c : AuditConfig) : Prop where
  mode : c.logMode ≠ .unspecified
  ruled : c.rules ≠ []
  rules : ∀ r ∈ c.rules, r.WellFormed
  sourced : c.sources ≠ []
  keys : ∀ s ∈ c.sources, ∃ x ∈ s.key.toList, Blank.isBlank x = false
  included : ∀ text ∈ c.included?, (compile? text).isSome
  excluded : ∀ text ∈ c.excluded?, (compile? text).isSome
  path : c.backend ≠ .file ""

theorem ruleFault?_eq_none_iff (c : AuditConfig) :
    c.ruleFault? = none ↔ ∀ r ∈ c.rules, r.WellFormed := by
  unfold ruleFault?
  rw [List.findSome?_eq_none_iff]
  refine forall₂_congr fun r _ => ?_
  rw [← r.validate_eq_ok_iff]
  cases r.validate with
  | ok _ => exact iff_of_true rfl rfl
  | error e => exact iff_of_false (fun h => nomatch h) (fun h => nomatch h)

theorem any_isAllBlank_eq_false_iff (sources : List JwtSource) :
    sources.any (fun s => Blank.isAllBlank s.key) = false ↔
      ∀ s ∈ sources, ∃ x ∈ s.key.toList, Blank.isBlank x = false := by
  simp [Blank.isAllBlank]

theorem isSome_pattern?_iff [PatternEngine] (text : Option String) :
    (PrincipalFilter.pattern? text).isSome ↔ ∀ t ∈ text, (compile? t).isSome := by
  cases text <;> simp [PrincipalFilter.pattern?]

theorem exists_filter_iff [PatternEngine] (c : AuditConfig) :
    (∃ f, c.filter = .ok f) ↔ (∀ text ∈ c.included?, (compile? text).isSome) ∧
      ∀ text ∈ c.excluded?, (compile? text).isSome := by
  rw [← isSome_pattern?_iff, ← isSome_pattern?_iff]
  unfold filter filter? PrincipalFilter.ofPatterns?
  cases PrincipalFilter.pattern? c.included? <;> cases PrincipalFilter.pattern? c.excluded? <;> simp

theorem validate_eq_ok_iff [PatternEngine] (c : AuditConfig) : c.validate = .ok () ↔ c.WellFormed := by
  unfold validate
  constructor
  · intro h
    cases hr : c.ruleFault? with
    | some e => simp [hr, refuse_else_eq_ok_iff] at h
    | none =>
      cases hf : c.filter with
      | error e => simp [hr, hf, refuse_else_eq_ok_iff] at h
      | ok f =>
        simp only [hr, hf, refuse_else_eq_ok_iff, and_true] at h
        obtain ⟨hmode, hruled, hsourced, hkeys, hpath⟩ := h
        obtain ⟨hincluded, hexcluded⟩ := c.exists_filter_iff.1 ⟨f, hf⟩
        exact {
          mode := hmode
          ruled := fun h => hruled (List.isEmpty_iff.2 h)
          rules := c.ruleFault?_eq_none_iff.1 hr
          sourced := fun h => hsourced (List.isEmpty_iff.2 h)
          keys := (any_isAllBlank_eq_false_iff _).1 (Bool.not_eq_true _ ▸ hkeys)
          included := hincluded
          excluded := hexcluded
          path := hpath }
  · intro h
    obtain ⟨f, hf⟩ := c.exists_filter_iff.2 ⟨h.included, h.excluded⟩
    have hr := c.ruleFault?_eq_none_iff.2 h.rules
    have hkeys := (any_isAllBlank_eq_false_iff _).2 h.keys
    simp only [hr, hf, refuse_else_eq_ok_iff, and_true]
    exact ⟨h.mode, fun he => h.ruled (List.isEmpty_iff.1 he), fun he => h.sourced (List.isEmpty_iff.1 he),
      Bool.not_eq_true _ ▸ hkeys, h.path⟩

/-! ## The set-up -/

/-- Client and interceptor are made, and the interceptor stands around that client; or the file of the
backend does not open, and that is what both report. -/
def SetsUp [PatternEngine] (c : AuditConfig) (env : Environment) (w : World σ) : Prop :=
  (∃ client opened, c.client env w = (.ok client, opened) ∧
      c.interceptor env w = (.ok ⟨{ sources := c.sources }, c.rules, client⟩, opened)) ∨
    ∃ path e, c.backend = .file path ∧ (LineWriter.openFile path w).1 = .error e ∧
      c.client env w =
        (.error (.invalid ("backend: " ++ e.message)), (LineWriter.openFile path w).2) ∧
      c.interceptor env w =
        (.error (.invalid ("backend: " ++ e.message)), (LineWriter.openFile path w).2)

theorem setsUp_of_validate [PatternEngine] (c : AuditConfig) (env : Environment) (w : World σ)
    (h : c.validate = .ok ()) : c.SetsUp env w := by
  have hwf := c.validate_eq_ok_iff.1 h
  obtain ⟨f, hf⟩ := c.exists_filter_iff.2 ⟨hwf.included, hwf.excluded⟩
  have hclient := c.client_of_valid f env w h hf
  have hinterceptor := c.interceptor_eq env w
  rcases c.backendSetting_cases w with ⟨setting, -, opened, hb, -⟩ | ⟨path, e, hpath, hopen, hb⟩
  · rw [hb] at hclient
    rw [hclient] at hinterceptor
    exact .inl ⟨_, opened, hclient, hinterceptor⟩
  · rw [hb] at hclient
    rw [hclient] at hinterceptor
    exact .inr ⟨path, e, hpath, hopen, hclient, hinterceptor⟩

theorem validate_of_load [PatternEngine] (search : ConfigSearch) (fs : FileSystem) (c : AuditConfig)
    (h : search.load fs = .ok c) : c.validate = .ok () := by
  unfold ConfigSearch.load at h
  split at h
  · cases h
  · split at h
    · cases h
    · split at h
      · cases h
      · rename_i hv
        cases h
        exact hv

/-- A command that asks for a configuration succeeds only on one that its search finds. -/
theorem exists_load_of_code [PatternEngine] (config? : Option String) (command : CommandLine.Command)
    (lookup : String → Option String) (fs : FileSystem)
    (h : ((CommandLine.Request.perform config? command).run lookup fs).code = 0) :
    ∃ c, (CommandLine.searchOf config? lookup).load fs = .ok c := by
  unfold CommandLine.Request.run at h
  split at h <;> rename_i hl
  all_goals try cases hl
  cases hc : (CommandLine.searchOf config? lookup).load fs with
  | ok c => exact ⟨c, rfl⟩
  | error e => simp [hc] at h

/-- **The check decides.** It passes just the configurations that have what they need. One that fails it
gives neither a client nor an interceptor, for the reason that the check gave, and leaves the world as it
was. One that passes it is set up, unless the file of its backend does not open. A configuration that a
search finds has passed it, and so has one that the command line accepts as valid. -/
theorem validate_decides [PatternEngine] (c : AuditConfig) (env : Environment) (w : World σ) :
    (c.validate = .ok () ↔ c.WellFormed) ∧
    (∀ e, c.validate = .error e →
      c.client env w = (.error e, w) ∧ c.interceptor env w = (.error e, w)) ∧
    (c.validate = .ok () → c.SetsUp env w) ∧
    (∀ search fs, ConfigSearch.load search fs = .ok c → c.SetsUp env w) ∧
    ∀ args config? lookup fs, CommandLine.parse args = .perform config? .validate →
      (CommandLine.run args lookup fs).code = 0 →
      ∃ found, (CommandLine.searchOf config? lookup).load fs = .ok found ∧ found.SetsUp env w := by
  refine ⟨c.validate_eq_ok_iff, fun e he => ?_, c.setsUp_of_validate env w, fun search fs hload => ?_,
    fun args config? lookup fs hargs hcode => ?_⟩
  · have hclient := c.client_of_invalid env w e he
    have hinterceptor := c.interceptor_eq env w
    rw [hclient] at hinterceptor
    exact ⟨hclient, hinterceptor⟩
  · exact c.setsUp_of_validate env w (validate_of_load search fs c hload)
  · rw [CommandLine.run, hargs] at hcode
    obtain ⟨found, hload⟩ := exists_load_of_code config? .validate lookup fs hcode
    exact ⟨found, hload, found.setsUp_of_validate env w (validate_of_load _ fs found hload)⟩

/-- Asks for a file, and has a rule with a star inside its selector. -/
def strayStar : AuditConfig where
  rules := [⟨"pkg.*.Get", .audit, .dataAccess⟩]
  backend := .file "logs/audit.jsonl"

/-- What is wrong with it. -/
def strayStarError : ConfigError :=
  .invalid "rules: rule selector 'pkg.*.Get' may only contain '*' as its last character"

/-- A working directory with one file. -/
def workingDirectory (name text : String) : FileSystem :=
  ⟨fun place => if place = [] then some .directory
    else if place = [name] then some (.file text.toUTF8.toList) else none, []⟩

/-- A stray star is refused before the file is made, and a file that the command line accepts is set up. -/
theorem validate_decides_stray_star :
    let w : World Unit := Interceptor.bareWorld
    let fs := workingDirectory "audit.toml"
      "rules = [\x7b selector = \"pkg.*\", directive = \"audit\", log_type = \"data_access\" \x7d]\n"
    ¬ strayStar.WellFormed ∧
      strayStar.client (fun _ => none) w = (.error strayStarError, w) ∧
      strayStar.interceptor (fun _ => none) w = (.error strayStarError, w) ∧
      ∃ found, (ConfigSearch.ofPath "audit.toml").load fs = .ok found ∧ found.SetsUp (fun _ => none) w := by
  intro w fs
  have hrefused : strayStar.validate = .error strayStarError := rfl
  obtain ⟨hwf, herror, -, -, hcommand⟩ := validate_decides strayStar (fun _ => none) w
  obtain ⟨hclient, hinterceptor⟩ := herror _ hrefused
  refine ⟨fun h => ?_, hclient, hinterceptor, ?_⟩
  · cases hrefused.symm.trans (hwf.2 h)
  · exact hcommand ["validate", "--config", "audit.toml"] (some "audit.toml") (fun _ => none) fs
      (by decide +kernel) (by decide +kernel)

end AuditConfig

end CallAudit

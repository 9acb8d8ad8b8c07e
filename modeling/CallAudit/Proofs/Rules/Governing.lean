import CallAudit.Rule
import Mathlib.Data.Set.Finite.Lemmas

/-!
# The governing rule

The governing rule is found in one scan that keeps the best rule so far and ends early at the method's own
name. What it finds is said here of any list of rules, also of rules that no configuration may hold: with
empty selectors, with many stars, or with one selector many times.

* `Rule.Longest`: no rule that covers the method has a longer selector.
* `longest?`: the first such rule of a list. With one more rule in the list it changes as the best of the
  scan does: `longest?_concat_of_covers`, `longest?_concat_of_not_covers`.

Results:
* `mostRelevantFrom_of_named`, `mostRelevantFrom_longest?`: what the scan finds with a rule of the method's
  name and without one.
* `mostRelevant_cases`: the governing rule is one of the rules and covers the method, or no rule does.
* `isUnset_mostRelevant`: of rules with selectors, one governs a method exactly if one covers it.
* `mostRelevant_choice`: the rule of the method's name governs, else the first of the longest, else none.
-/
namespace CallAudit

/-- The rule covers the method, and no rule of the list that covers it has a longer selector. -/
def Rule.Longest (method : String) (rules : List Rule) (r : Rule) : Prop :=
  r.covers method = true ∧
    ∀ s ∈ rules, s.covers method = true → s.selector.utf8ByteSize ≤ r.selector.utf8ByteSize

instance (method : String) (rules : List Rule) (r : Rule) : Decidable (r.Longest method rules) :=
  inferInstanceAs (Decidable (_ ∧ _))

/-- The first rule among the longest that cover the method. -/
def longest? (method : String) (rules : List Rule) : Option Rule :=
  rules.find? (·.Longest method rules)

/-! ## The longest rules -/

theorem longest?_eq_some_iff (method : String) (rules : List Rule) (r : Rule) :
    longest? method rules = some r ↔ r.Longest method rules ∧
      ∃ before after, rules = before ++ r :: after ∧ ∀ s ∈ before, ¬ s.Longest method rules := by
  simp [longest?, List.find?_eq_some_iff_append]

/-- Of rules of which some cover the method, one is longest. -/
theorem exists_longest (method : String) (rules : List Rule) (h : ∃ r ∈ rules, r.covers method = true) :
    ∃ r ∈ rules, r.Longest method rules := by
  have hfinite : {r | r ∈ rules ∧ r.covers method = true}.Finite :=
    rules.finite_toSet.subset (fun _ hr => hr.1)
  obtain ⟨r, ⟨hr, hc⟩, hmax⟩ :=
    Set.exists_max_image _ (fun r => r.selector.utf8ByteSize) hfinite h
  exact ⟨r, hr, hc, fun s hs hsc => hmax s ⟨hs, hsc⟩⟩

theorem longest?_eq_none_iff (method : String) (rules : List Rule) :
    longest? method rules = none ↔ ∀ r ∈ rules, r.covers method = false := by
  simp only [longest?, List.find?_eq_none, decide_eq_true_eq]
  constructor
  · intro hno r hr
    by_contra hc
    obtain ⟨s, hs, hl⟩ := exists_longest method rules ⟨r, hr, by simpa using hc⟩
    exact hno s hs hl
  · intro hno r hr hl
    exact Bool.false_ne_true ((hno r hr).symm.trans hl.1)

/-! ## One more rule -/

theorem longest_concat_of_not_covers (method : String) (rules : List Rule) (r s : Rule)
    (h : r.covers method = false) : s.Longest method (rules ++ [r]) ↔ s.Longest method rules := by
  have hr : r.covers method = true → r.selector.utf8ByteSize ≤ s.selector.utf8ByteSize := by simp [h]
  rw [Rule.Longest, Rule.Longest, List.forall_mem_append, List.forall_mem_singleton]
  exact ⟨fun hl => ⟨hl.1, hl.2.1⟩, fun hl => ⟨hl.1, hl.2, hr⟩⟩

/-- A rule that does not cover the method changes nothing. -/
theorem longest?_concat_of_not_covers (method : String) (rules : List Rule) (r : Rule)
    (h : r.covers method = false) : longest? method (rules ++ [r]) = longest? method rules := by
  have hr : ¬ r.Longest method rules := fun hl => Bool.false_ne_true (h.symm.trans hl.1)
  simp [longest?, longest_concat_of_not_covers method rules r _ h, hr]

/-- A rule that covers the method is the first of the longest if its selector is longer than those before,
and else the first of the longest stays. -/
theorem longest?_concat_of_covers (method : String) (rules : List Rule) (r : Rule)
    (h : r.covers method = true) :
    longest? method (rules ++ [r]) = Rule.longer (longest? method rules) r := by
  cases hbest : longest? method rules with
  | none =>
    have hno := (longest?_eq_none_iff method rules).1 hbest
    have hthese : ∀ s ∈ rules, ¬ s.Longest method (rules ++ [r]) := fun s hs hl =>
      Bool.false_ne_true ((hno s hs).symm.trans hl.1)
    refine (longest?_eq_some_iff _ _ _).2 ⟨⟨h, fun s hs hc => ?_⟩, rules, [], rfl, hthese⟩
    rcases List.mem_append.1 hs with hs | hs
    · rw [hno s hs] at hc
      cases hc
    · rw [List.mem_singleton.1 hs]
  | some b =>
    obtain ⟨hb, before, after, rfl, hbefore⟩ := (longest?_eq_some_iff _ _ _).1 hbest
    simp only [Rule.longer]
    split
    · -- the new rule is longer than all before it
      rename_i hlt
      refine (longest?_eq_some_iff _ _ _).2 ⟨⟨h, fun s hs hc => ?_⟩, _, [], rfl, fun s hs hl => ?_⟩
      · rcases List.mem_append.1 hs with hs | hs
        · exact Nat.le_of_lt (Nat.lt_of_le_of_lt (hb.2 s hs hc) hlt)
        · rw [List.mem_singleton.1 hs]
      · have hle := hl.2 r (by simp) h
        have hsb := hb.2 s hs hl.1
        omega
    · rename_i hle
      refine (longest?_eq_some_iff _ _ _).2
        ⟨⟨hb.1, fun s hs hc => ?_⟩, before, after ++ [r], by simp, fun s hs hl => ?_⟩
      · rcases List.mem_append.1 hs with hs | hs
        · exact hb.2 s hs hc
        · rw [List.mem_singleton.1 hs]
          omega
      · exact hbefore s hs ⟨hl.1, fun t ht => hl.2 t (List.mem_append_left _ ht)⟩

/-! ## The scan -/

theorem exists_find?_named (method : String) (rules : List Rule) (h : ∃ r ∈ rules, r.selector = method) :
    ∃ r, rules.find? (·.selector == method) = some r := by
  obtain ⟨r, hr, he⟩ := h
  exact Option.isSome_iff_exists.1 (List.find?_isSome.2 ⟨r, hr, beq_iff_eq.2 he⟩)

/-- The scan ends at the first rule of the method's own name, whatever the best was before. -/
theorem mostRelevantFrom_of_named (method : String) (rules : List Rule) (best : Option Rule) (r : Rule)
    (h : rules.find? (·.selector == method) = some r) : mostRelevantFrom method best rules = r := by
  induction rules generalizing best with
  | nil => cases h
  | cons s rest ih =>
    by_cases hs : s.selector = method
    · rw [List.find?_cons_of_pos (by simpa using hs)] at h
      rw [mostRelevantFrom, if_pos (by rw [← hs]; exact s.covers_selector), if_pos hs]
      exact Option.some.inj h
    · rw [List.find?_cons_of_neg (by simpa using hs)] at h
      rw [mostRelevantFrom, if_neg hs, ih _ h, ih _ h, ite_self]

/-- Without such a rule, the best of the scan is at each rule the first of the longest so far. -/
theorem mostRelevantFrom_longest? (method : String) (seen rest : List Rule)
    (h : ∀ r ∈ rest, r.selector ≠ method) :
    mostRelevantFrom method (longest? method seen) rest = (longest? method (seen ++ rest)).getD {} := by
  induction rest generalizing seen with
  | nil => rw [List.append_nil, mostRelevantFrom]
  | cons r rest ih =>
    obtain ⟨hr, hrest⟩ := List.forall_mem_cons.1 h
    have hnext := ih (seen ++ [r]) hrest
    rw [List.append_assoc, List.singleton_append] at hnext
    rw [mostRelevantFrom, if_neg hr, ← hnext]
    cases hc : r.covers method with
    | true => rw [if_pos rfl, longest?_concat_of_covers method seen r hc]
    | false => rw [if_neg Bool.false_ne_true, longest?_concat_of_not_covers method seen r hc]

theorem mostRelevant_of_unnamed (method : String) (rules : List Rule)
    (h : ∀ r ∈ rules, r.selector ≠ method) :
    mostRelevant method rules = (longest? method rules).getD {} :=
  mostRelevantFrom_longest? method [] rules h

/-! ## The rule that is found -/

theorem mostRelevant_cases (method : String) (rules : List Rule) :
    ((∀ r ∈ rules, r.covers method = false) ∧ mostRelevant method rules = {}) ∨
      ∃ r ∈ rules, r.covers method = true ∧ mostRelevant method rules = r := by
  by_cases hnamed : ∃ r ∈ rules, r.selector = method
  · obtain ⟨r, hr⟩ := exists_find?_named method rules hnamed
    have hname : r.selector = method := by simpa using List.find?_some hr
    refine .inr ⟨r, List.mem_of_find?_eq_some hr, ?_, mostRelevantFrom_of_named method rules none r hr⟩
    rw [← hname]
    exact r.covers_selector
  · have hm := mostRelevant_of_unnamed method rules (fun r hr he => hnamed ⟨r, hr, he⟩)
    cases hl : longest? method rules with
    | none =>
      rw [hl] at hm
      exact .inl ⟨(longest?_eq_none_iff method rules).1 hl, hm⟩
    | some r =>
      rw [hl] at hm
      exact .inr ⟨r, List.mem_of_find?_eq_some hl, ((longest?_eq_some_iff method rules r).1 hl).1.1, hm⟩

/-- Of rules with selectors, one governs a method exactly if one covers it. -/
theorem isUnset_mostRelevant (method : String) (rules : List Rule)
    (h : ∀ r ∈ rules, r.selector ≠ "") :
    (mostRelevant method rules).isUnset = false ↔ ∃ r ∈ rules, r.covers method = true := by
  rcases mostRelevant_cases method rules with ⟨hn, hm⟩ | ⟨r, hr, hc, hm⟩
  · rw [hm]
    refine ⟨fun hu => ?_, fun ⟨r, hr, hc⟩ => ?_⟩
    · exact absurd hu (by decide)
    · rw [hn r hr] at hc
      cases hc
  · rw [hm]
    refine ⟨fun _ => ⟨r, hr, hc⟩, fun _ => ?_⟩
    simpa [Rule.isUnset] using h r hr

theorem Rule.selector_ne_of_validate (r : Rule) (h : r.validate = .ok ()) : r.selector ≠ "" := by
  intro he
  rw [validate, if_pos he] at h
  cases h

/-- **Which rule governs**, of any rules:
* the first that has the method's name as its selector, if one has;
* else, if one covers the method, the first of those with the longest selector in bytes;
* else none.

So no other rule, however long its selector and wherever it stands, keeps a rule of the method's name from
governing. -/
theorem mostRelevant_choice (method : String) (rules : List Rule) :
    let governing := mostRelevant method rules
    ((∃ r ∈ rules, r.selector = method) → rules.find? (·.selector == method) = some governing) ∧
    ((∀ r ∈ rules, r.selector ≠ method) → (∃ r ∈ rules, r.covers method = true) →
      rules.find? (·.Longest method rules) = some governing) ∧
    ((∀ r ∈ rules, r.covers method = false) → governing = {}) ∧
    ∀ before after other, rules = before ++ other :: after → other.selector ≠ method →
      (∃ r ∈ before ++ after, r.selector = method) → governing = mostRelevant method (before ++ after) := by
  intro governing
  refine ⟨fun hnamed => ?_, fun hunnamed hcovered => ?_, fun hno => ?_, ?_⟩
  · obtain ⟨r, hr⟩ := exists_find?_named method rules hnamed
    rw [show governing = r from mostRelevantFrom_of_named method rules none r hr]
    exact hr
  · obtain ⟨r, hr⟩ : ∃ r, longest? method rules = some r := by
      refine Option.ne_none_iff_exists'.1 (fun hnone => ?_)
      obtain ⟨r, hr, hc⟩ := hcovered
      rw [(longest?_eq_none_iff method rules).1 hnone r hr] at hc
      cases hc
    rw [show governing = _ from mostRelevant_of_unnamed method rules hunnamed, hr]
    exact hr
  · have hunnamed : ∀ r ∈ rules, r.selector ≠ method := fun r hr he => by
      have hc := hno r hr
      rw [← he, r.covers_selector] at hc
      cases hc
    rw [show governing = _ from mostRelevant_of_unnamed method rules hunnamed,
      (longest?_eq_none_iff method rules).2 hno]
    rfl
  · rintro before after other rfl hother hnamed
    obtain ⟨r, hr⟩ := exists_find?_named method (before ++ after) hnamed
    have hsame : (before ++ other :: after).find? (·.selector == method) = some r := by
      rw [List.find?_append, List.find?_cons_of_neg (by simpa using hother), ← List.find?_append]
      exact hr
    exact (mostRelevantFrom_of_named method _ none r hsame).trans
      (mostRelevantFrom_of_named method _ none r hr).symm

/-- Rules that no configuration may hold: one without a selector, one with two stars, and two pairs of one
selector. -/
def oddRules : List Rule :=
  [⟨"", .audit, .dataAccess⟩, ⟨"ü.*", .audit, .dataAccess⟩, ⟨"ü.get*", .audit, .dataAccess⟩,
    ⟨"ü.**", .audit, .dataAccess⟩, ⟨"ü.*", .auditRequestOnly, .dataAccess⟩,
    ⟨"ü.get", .auditRequestOnly, .dataAccess⟩, ⟨"ü.get", .audit, .adminActivity⟩]

/-- The longer selector in front of it does not hide the first rule of the method's name, and of the equally
long selectors that cover another method the first governs. -/
theorem mostRelevant_choice_oddRules :
    mostRelevant "ü.get" oddRules = ⟨"ü.get", .auditRequestOnly, .dataAccess⟩ ∧
      mostRelevant "ü.get" oddRules = mostRelevant "ü.get" (oddRules.eraseIdx 2) ∧
      mostRelevant "ü.put" oddRules = ⟨"ü.*", .audit, .dataAccess⟩ ∧
      mostRelevant "ü.*" [⟨"ü.**", .audit, .dataAccess⟩, ⟨"*", .audit, .dataAccess⟩] =
        ⟨"ü.**", .audit, .dataAccess⟩ ∧
      mostRelevant "get" oddRules = {} := by
  obtain ⟨hnamed, -, -, hother⟩ := mostRelevant_choice "ü.get" oddRules
  obtain ⟨-, hlongest, -, -⟩ := mostRelevant_choice "ü.put" oddRules
  obtain ⟨-, hstars, -, -⟩ :=
    mostRelevant_choice "ü.*" [⟨"ü.**", .audit, .dataAccess⟩, ⟨"*", .audit, .dataAccess⟩]
  obtain ⟨-, -, hnone, -⟩ := mostRelevant_choice "get" oddRules
  refine ⟨?_, ?_, ?_, ?_, hnone (by decide +kernel)⟩
  · exact Option.some.inj ((hnamed (by decide +kernel)).symm.trans (by decide +kernel))
  · exact hother (oddRules.take 2) (oddRules.drop 3) ⟨"ü.get*", .audit, .dataAccess⟩ rfl (by decide +kernel)
      (by decide +kernel)
  · exact Option.some.inj
      ((hlongest (by decide +kernel) (by decide +kernel)).symm.trans (by decide +kernel))
  · exact Option.some.inj
      ((hstars (by decide +kernel) (by decide +kernel)).symm.trans (by decide +kernel))

end CallAudit

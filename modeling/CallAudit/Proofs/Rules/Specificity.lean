import CallAudit.Proofs.Rules.Governing
import Mathlib.Data.List.Nodup

/-!
# The governing rule is the most specific one

The governing rule is found by a scan that compares the lengths of selectors in bytes, so it could depend
on the order of the rules. For valid rules it does not: what covers a method is a selector equal to it, or
the text before a final `*`, which starts the method's name. Two such texts of one length are the same,
and the longer of two covers less.

Results:
* `selector_mostRelevant_of_exact`, `size_le_mostRelevant`: what the scan finds, for any rules.
* `mostRelevant_filter`: only the rules that cover the method count.
* `mostRelevant_specific`: of valid rules the most specific governs, whatever their order.
-/
namespace CallAudit

namespace Rule

/-! ## Valid selectors -/

/-- The selector of a valid rule has a `*` as its last character or none at all. -/
theorem selector_of_validate (r : Rule) (h : r.validate = .ok ()) :
    (∃ stem, r.selector.toList = stem ++ ['*'] ∧ '*' ∉ stem) ∨ '*' ∉ r.selector.toList := by
  have hbody : '*' ∉ (stem? r.selector.toList).getD r.selector.toList := by
    intro hmem
    simp only [validate, hmem, if_true] at h
    split at h <;> cases h
  cases hs : stem? r.selector.toList with
  | none =>
    rw [hs] at hbody
    exact .inr hbody
  | some stem =>
    rw [hs] at hbody
    exact .inl ⟨stem, stem?_eq_some _ stem hs, hbody⟩

/-- A valid rule that covers a method has its name, or the start of its name and a final `*`. -/
theorem covers_cases (r : Rule) (h : r.validate = .ok ()) (method : String)
    (hc : r.covers method = true) :
    (∃ stem, r.selector.toList = stem ++ ['*'] ∧ '*' ∉ stem ∧ stem <+: method.toList) ∨
      r.selector = method ∧ '*' ∉ method.toList := by
  rcases r.selector_of_validate h with ⟨stem, hs, hn⟩ | hn
  · exact .inl ⟨stem, hs, hn, (r.covers_of_stem stem hs method).1 hc⟩
  · have he := (r.covers_of_stem?_eq_none (stem?_eq_none _ hn) method).1 hc
    rw [he] at hn
    exact .inr ⟨he, hn⟩

theorem utf8ByteSize_selector (r : Rule) (stem : List Char) (h : r.selector.toList = stem ++ ['*']) :
    r.selector.utf8ByteSize = (String.ofList stem).utf8ByteSize + 1 := by
  have hs : r.selector = String.ofList stem ++ "*" := by
    apply String.toList_inj.1
    rw [h, String.toList_append, String.toList_ofList]
    rfl
  rw [hs, String.utf8ByteSize_append]
  rfl

/-- Of two starts of a text, the one with fewer bytes starts the other. -/
theorem prefix_of_size_le {a b l : List Char} (ha : a <+: l) (hb : b <+: l)
    (h : (String.ofList a).utf8ByteSize ≤ (String.ofList b).utf8ByteSize) : a <+: b := by
  rcases List.prefix_or_prefix_of_prefix ha hb with hab | ⟨t, rfl⟩
  · exact hab
  · rw [String.ofList_append, String.utf8ByteSize_append] at h
    have ht : (String.ofList t).utf8ByteSize = 0 := by omega
    have : t = [] := by simpa using ht
    exact ⟨[], by rw [this, List.append_nil, List.append_nil]⟩

/-- Of two rules that cover a method, other than by its name, the one with the longer selector covers
no more than the other. -/
theorem covers_of_size_le (r s : Rule) (hr : r.validate = .ok ()) (hs : s.validate = .ok ())
    (method : String) (hrc : r.covers method = true) (hsc : s.covers method = true)
    (hsm : s.selector ≠ method) (hrm : r.selector ≠ method)
    (hle : s.selector.utf8ByteSize ≤ r.selector.utf8ByteSize) (other : String)
    (ho : r.covers other = true) : s.covers other = true := by
  rcases r.covers_cases hr method hrc with ⟨a, ha, -, hap⟩ | ⟨he, -⟩
  · rcases s.covers_cases hs method hsc with ⟨b, hb, -, hbp⟩ | ⟨he, -⟩
    · rw [r.utf8ByteSize_selector a ha, s.utf8ByteSize_selector b hb] at hle
      have hba : b <+: a := prefix_of_size_le hbp hap (by omega)
      rw [s.covers_of_stem b hb]
      exact hba.trans ((r.covers_of_stem a ha other).1 ho)
    · exact absurd he hsm
  · exact absurd he hrm

/-- The rule with the method's own name covers no more than any other that covers the method. -/
theorem covers_of_exact (r s : Rule) (hr : r.validate = .ok ()) (hs : s.validate = .ok ())
    (method : String) (hrm : r.selector = method) (hsc : s.covers method = true) (other : String)
    (ho : r.covers other = true) : s.covers other = true := by
  rcases r.selector_of_validate hr with ⟨a, ha, han⟩ | hn
  · -- the method's name itself ends in `*`
    have hstar : '*' ∈ method.toList := by rw [← hrm, ha]; simp
    rcases s.covers_cases hs method hsc with ⟨b, hb, hbn, hbp⟩ | ⟨-, hno⟩
    · have hba : b <+: a := by
        rw [← hrm, ha] at hbp
        rcases List.prefix_concat_iff.1 hbp with he | hba
        · rw [he] at hbn
          exact absurd (List.mem_append_right a (List.mem_singleton_self '*')) hbn
        · exact hba
      rw [s.covers_of_stem b hb]
      exact hba.trans ((r.covers_of_stem a ha other).1 ho)
    · exact absurd hstar hno
  · have he := (r.covers_of_stem?_eq_none (stem?_eq_none _ hn) other).1 ho
    rw [← he, hrm]
    exact hsc

/-- Selectors of one length that cover a method, other than by its name, are the same. -/
theorem selector_eq_of_size_eq (r s : Rule) (hr : r.validate = .ok ()) (hs : s.validate = .ok ())
    (method : String) (hrc : r.covers method = true) (hsc : s.covers method = true)
    (hrm : r.selector ≠ method) (hsm : s.selector ≠ method)
    (heq : r.selector.utf8ByteSize = s.selector.utf8ByteSize) : r.selector = s.selector := by
  rcases r.covers_cases hr method hrc with ⟨a, ha, -, hap⟩ | ⟨he, -⟩
  · rcases s.covers_cases hs method hsc with ⟨b, hb, -, hbp⟩ | ⟨he, -⟩
    · rw [r.utf8ByteSize_selector a ha, s.utf8ByteSize_selector b hb] at heq
      have hab : a <+: b := prefix_of_size_le hap hbp (by omega)
      have hba : b <+: a := prefix_of_size_le hbp hap (by omega)
      have : a = b := hab.eq_of_length (Nat.le_antisymm hab.length_le hba.length_le)
      apply String.toList_inj.1
      rw [ha, hb, this]
    · exact absurd he hsm
  · exact absurd he hrm

end Rule

/-! ## What the scan finds -/

/-- A rule with the method's own name governs it, wherever it stands. -/
theorem selector_mostRelevant_of_exact (method : String) (rules : List Rule)
    (h : ∃ r ∈ rules, r.selector = method) : (mostRelevant method rules).selector = method := by
  obtain ⟨r, hr⟩ := exists_find?_named method rules h
  rw [mostRelevant, mostRelevantFrom_of_named method rules none r hr]
  simpa using List.find?_some hr

/-- Without a rule of the method's own name, no rule that covers it has a longer selector than the
governing one. -/
theorem size_le_mostRelevant (method : String) (rules : List Rule)
    (h : ∀ r ∈ rules, r.selector ≠ method) (r : Rule) (hr : r ∈ rules) (hc : r.covers method = true) :
    r.selector.utf8ByteSize ≤ (mostRelevant method rules).selector.utf8ByteSize := by
  rw [mostRelevant_of_unnamed method rules h]
  cases hl : longest? method rules with
  | none => exact absurd hc (by rw [(longest?_eq_none_iff method rules).1 hl r hr]; decide)
  | some b => exact ((longest?_eq_some_iff method rules b).1 hl).1.2 r hr hc

theorem mostRelevantFrom_filter (method : String) (rules : List Rule) (best : Option Rule) :
    mostRelevantFrom method best (rules.filter (·.covers method)) =
      mostRelevantFrom method best rules := by
  induction rules generalizing best with
  | nil => rfl
  | cons r rest ih =>
    by_cases hc : r.covers method = true
    · rw [List.filter_cons, if_pos hc]
      simp only [mostRelevantFrom, hc, if_true]
      rw [ih]
    · rw [List.filter_cons, if_neg hc]
      simp only [mostRelevantFrom, hc, Bool.false_eq_true, if_false]
      rw [ih]

/-- Only the rules that cover the method count. -/
theorem mostRelevant_filter (method : String) (rules : List Rule) :
    mostRelevant method (rules.filter (·.covers method)) = mostRelevant method rules :=
  mostRelevantFrom_filter method rules none

/-! ## Valid rules -/

section
variable (method : String) (rules : List Rule) (h : ∀ r ∈ rules, r.validate = .ok ())
include h

/-- A rule that covers the method is at least as general as the governing one. -/
theorem covers_of_covers_mostRelevant (r : Rule) (hr : r ∈ rules) (hc : r.covers method = true)
    (other : String) (ho : (mostRelevant method rules).covers other = true) :
    r.covers other = true := by
  rcases mostRelevant_cases method rules with ⟨hn, -⟩ | ⟨g, hg, hgc, hm⟩
  · rw [hn r hr] at hc
    cases hc
  · rw [hm] at ho
    by_cases hexact : ∃ x ∈ rules, x.selector = method
    · have hgm := selector_mostRelevant_of_exact method rules hexact
      rw [hm] at hgm
      exact g.covers_of_exact r (h g hg) (h r hr) method hgm hc other ho
    · have hno : ∀ x ∈ rules, x.selector ≠ method := fun x hx he => hexact ⟨x, hx, he⟩
      have hle := size_le_mostRelevant method rules hno r hr hc
      rw [hm] at hle
      exact g.covers_of_size_le r (h g hg) (h r hr) method hgc hc (hno r hr) (hno g hg) hle other ho

/-- The selector of the governing rule depends on which rules there are only. -/
theorem selector_mostRelevant_congr (rules' : List Rule) (hmem : ∀ r, r ∈ rules' ↔ r ∈ rules) :
    (mostRelevant method rules').selector = (mostRelevant method rules).selector := by
  by_cases hexact : ∃ x ∈ rules, x.selector = method
  · have hexact' : ∃ x ∈ rules', x.selector = method := by
      obtain ⟨x, hx, he⟩ := hexact
      exact ⟨x, (hmem x).2 hx, he⟩
    rw [selector_mostRelevant_of_exact method rules hexact,
      selector_mostRelevant_of_exact method rules' hexact']
  · have hno : ∀ x ∈ rules, x.selector ≠ method := fun x hx he => hexact ⟨x, hx, he⟩
    have hno' : ∀ x ∈ rules', x.selector ≠ method := fun x hx => hno x ((hmem x).1 hx)
    rcases mostRelevant_cases method rules with ⟨hn, hm⟩ | ⟨g, hg, hgc, hm⟩
    · rcases mostRelevant_cases method rules' with ⟨-, hm'⟩ | ⟨g', hg', hgc', -⟩
      · rw [hm, hm']
      · rw [hn g' ((hmem g').1 hg')] at hgc'
        cases hgc'
    · rcases mostRelevant_cases method rules' with ⟨hn', -⟩ | ⟨g', hg', hgc', hm'⟩
      · rw [hn' g ((hmem g).2 hg)] at hgc
        cases hgc
      · -- neither is longer than the other
        have hle := size_le_mostRelevant method rules hno g' ((hmem g').1 hg') hgc'
        have hge := size_le_mostRelevant method rules' hno' g ((hmem g).2 hg) hgc
        rw [hm] at hle ⊢
        rw [hm'] at hge ⊢
        exact g'.selector_eq_of_size_eq g (h g' ((hmem g').1 hg')) (h g hg) method hgc' hgc
          (hno' g' hg') (hno g hg) (Nat.le_antisymm hle hge)

theorem isUnset_mostRelevant_iff :
    (mostRelevant method rules).isUnset = true ↔ ∀ r ∈ rules, r.covers method = false := by
  have hiff := isUnset_mostRelevant method rules (fun r hr => r.selector_ne_of_validate (h r hr))
  constructor
  · intro hu r hr
    cases hc : r.covers method with
    | false => rfl
    | true =>
      rw [hiff.2 ⟨r, hr, hc⟩] at hu
      cases hu
  · intro hn
    cases hu : (mostRelevant method rules).isUnset with
    | true => rfl
    | false =>
      obtain ⟨r, hr, hc⟩ := hiff.1 hu
      rw [hn r hr] at hc
      cases hc

end

/-- With different selectors, a rule is known by its selector. -/
theorem eq_of_selector_eq (rules : List Rule) (h : (rules.map Rule.selector).Nodup) (r s : Rule)
    (hr : r ∈ rules) (hs : s ∈ rules) (he : r.selector = s.selector) : r = s :=
  List.inj_on_of_nodup_map h hr hs he

/-- **The most specific rule governs.** For every method and valid rules:
* a governing rule is one of the rules and covers the method, and all it covers is covered by each rule
  of the list that covers the method;
* in any other order of the rules the governing rule has the same selector, and it is the same rule if
  the selectors differ from each other;
* the scan never has to choose between different selectors of one length: of two that cover the method
  one is the method's name, and that is what governs;
* rules that do not cover the method count nothing, wherever they stand;
* no rule governs exactly if none covers the method. -/
theorem mostRelevant_specific (method : String) (rules : List Rule)
    (h : ∀ r ∈ rules, r.validate = .ok ()) :
    let governing := mostRelevant method rules
    (governing.isUnset = false → governing ∈ rules ∧ governing.covers method = true ∧
      ∀ r ∈ rules, r.covers method = true →
        ∀ other, governing.covers other = true → r.covers other = true) ∧
    (∀ rules', rules'.Perm rules →
      (mostRelevant method rules').selector = governing.selector ∧
        ((rules.map Rule.selector).Nodup → mostRelevant method rules' = governing)) ∧
    (∀ r ∈ rules, ∀ s ∈ rules, r.covers method = true → s.covers method = true →
      r.selector.utf8ByteSize = s.selector.utf8ByteSize → r.selector ≠ s.selector →
        (r.selector = method ∨ s.selector = method) ∧ governing.selector = method) ∧
    (∀ rules', rules'.filter (·.covers method) = rules.filter (·.covers method) →
      mostRelevant method rules' = governing) ∧
    (governing.isUnset = true ↔ ∀ r ∈ rules, r.covers method = false) := by
  intro governing
  refine ⟨fun hset => ?_, fun rules' hperm => ?_, fun r hr s hs hrc hsc hsize hne => ?_,
    fun rules' hf => ?_, isUnset_mostRelevant_iff method rules h⟩
  · rcases mostRelevant_cases method rules with ⟨-, hm⟩ | ⟨g, hg, hgc, hm⟩
    · rw [show governing = {} from hm] at hset
      exact absurd hset (by decide)
    · refine ⟨?_, ?_, covers_of_covers_mostRelevant method rules h⟩
      · rw [show governing = g from hm]
        exact hg
      · rw [show governing = g from hm]
        exact hgc
  · have hsel := selector_mostRelevant_congr method rules h rules' (fun r => hperm.mem_iff)
    refine ⟨hsel, fun hnodup => ?_⟩
    rcases mostRelevant_cases method rules with ⟨hn, hm⟩ | ⟨g, hg, hgc, hm⟩
    · rcases mostRelevant_cases method rules' with ⟨-, hm'⟩ | ⟨g', hg', hgc', -⟩
      · exact hm'.trans hm.symm
      · rw [hn g' (hperm.mem_iff.1 hg')] at hgc'
        cases hgc'
    · rcases mostRelevant_cases method rules' with ⟨hn', -⟩ | ⟨g', hg', -, hm'⟩
      · rw [hn' g (hperm.mem_iff.2 hg)] at hgc
        cases hgc
      · rw [hm', show governing.selector = g.selector from congrArg Rule.selector hm] at hsel
        rw [hm', show governing = g from hm]
        exact eq_of_selector_eq rules hnodup g' g (hperm.mem_iff.1 hg') hg hsel
  · have hexact : r.selector = method ∨ s.selector = method := by
      by_contra hno
      rw [not_or] at hno
      exact hne (r.selector_eq_of_size_eq s (h r hr) (h s hs) method hrc hsc hno.1 hno.2 hsize)
    refine ⟨hexact, selector_mostRelevant_of_exact method rules ?_⟩
    rcases hexact with he | he
    · exact ⟨r, hr, he⟩
    · exact ⟨s, hs, he⟩
  · calc mostRelevant method rules'
      _ = mostRelevant method (rules'.filter (·.covers method)) :=
        (mostRelevant_filter method rules').symm
      _ = mostRelevant method (rules.filter (·.covers method)) := by rw [hf]
      _ = governing := mostRelevant_filter method rules

/-- Rules of which three cover `foo.get`, two of them with selectors of one length. -/
def getRules : List Rule :=
  [⟨"foo.*", .audit, .dataAccess⟩, ⟨"foo.ge*", .audit, .dataAccess⟩,
    ⟨"foo.get", .auditRequestOnly, .dataAccess⟩, ⟨"bar*", .audit, .dataAccess⟩]

/-- In whatever order these rules stand, the one with the method's name governs. -/
theorem mostRelevant_specific_getRules :
    (∀ r ∈ getRules, r.validate = .ok ()) ∧ (mostRelevant "foo.get" getRules).isUnset = false ∧
      ∀ rules, rules.Perm getRules →
        mostRelevant "foo.get" rules = ⟨"foo.get", .auditRequestOnly, .dataAccess⟩ := by
  have hvalid : ∀ r ∈ getRules, r.validate = .ok () := by
    intro r hr
    simp only [getRules, List.mem_cons, List.not_mem_nil, or_false] at hr
    rcases hr with rfl | rfl | rfl | rfl <;> rfl
  have hgoverns : mostRelevant "foo.get" getRules = ⟨"foo.get", .auditRequestOnly, .dataAccess⟩ := by
    decide +kernel
  obtain ⟨-, hperm, -⟩ := mostRelevant_specific "foo.get" getRules hvalid
  refine ⟨hvalid, by rw [hgoverns]; decide, fun rules h => ?_⟩
  rw [(hperm rules h).2 (by decide +kernel), hgoverns]

end CallAudit

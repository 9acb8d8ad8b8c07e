import CallAudit.Metadata
import CallAudit.Proofs.Text.LetterCase
import Mathlib.Data.Finset.Card

/-!
# The header inserted last counts

Headers are collected from a list and inserted one by one, under keys in any case of the letters. What
such metadata answers is a matter of the headers that went in: of those whose keys are the same up to
ASCII case the last one counts, and the others leave no trace. So many keys are counted as there are
classes of keys under that comparison, and metadata are told apart by what they answer.

Results:
* `get?_eq_none_iff`: look-ups see every entry, since keys are stored in lower case.
* `size_eq_card`: the size of metadata is the number of their key classes.
* `ext_get?`: metadata that answer every look-up alike are equal.
* `last_inserted_counts`: what metadata made of any headers answer.
-/
namespace CallAudit

namespace Ascii

theorem same_equivalence : Equivalence Same := ⟨fun _ => rfl, Eq.symm, Eq.trans⟩

/-- Texts up to ASCII case. -/
def caseSetoid : Setoid String := ⟨Same, same_equivalence⟩

instance : DecidableEq (Quotient caseSetoid) :=
  @Quotient.decidableEq String caseSetoid (fun a b => inferInstanceAs (Decidable (Same a b)))

end Ascii

theorem Keyed.get?_eq_none_iff {α : Type} (k : String) (xs : List (String × α)) :
    Keyed.get? k xs = none ↔ ∀ e ∈ xs, k ≠ e.1 := by
  induction xs with
  | nil => simp [Keyed.get?]
  | cons x xs ih =>
    by_cases hk : k = x.1
    · simp [Keyed.get?, hk]
    · simp [Keyed.get?, hk, ih]

namespace Metadata

open Ascii (Same caseSetoid)

/-- The classes of the keys of headers. -/
def keyClasses (es : List (String × String)) : Finset (Quotient caseSetoid) :=
  (es.map (fun e => Quotient.mk caseSetoid e.1)).toFinset

theorem mem_keyClasses (es : List (String × String)) (key : String) :
    Quotient.mk caseSetoid key ∈ keyClasses es ↔ ∃ e ∈ es, Same key e.1 := by
  rw [keyClasses, List.mem_toFinset, List.mem_map]
  refine exists_congr fun e => and_congr_right fun _ => ?_
  rw [Quotient.eq]
  exact ⟨Eq.symm, Eq.symm⟩

theorem keyClasses_eq_empty_iff (es : List (String × String)) : keyClasses es = ∅ ↔ es = [] := by
  rw [keyClasses, List.toFinset_eq_empty_iff, List.map_eq_nil_iff]

/-! ## Entries -/

/-- A key that is stored is its own lower-case form, so a look-up under any spelling meets it. -/
theorem get?_eq_none_iff (m : Metadata) (key : String) :
    m.get? key = none ↔ ∀ e ∈ m.entries.entries, ¬ Same key e.1 := by
  rw [get?, Dict.get?, Keyed.get?_eq_none_iff]
  refine forall₂_congr fun e he => ?_
  rw [Same, m.folded e he]

/-- No two entries have keys of one class. -/
theorem nodup_classes (m : Metadata) :
    (m.entries.entries.map (fun e => Quotient.mk caseSetoid e.1)).Nodup := by
  rw [List.Nodup, List.pairwise_map]
  refine List.Pairwise.imp_of_mem (fun {a b} ha hb hlt heq => ?_) m.entries.sorted
  have hsame : Same a.1 b.1 := Quotient.eq.1 heq
  rw [Same, m.folded a ha, m.folded b hb] at hsame
  exact String.lt_irrefl b.1 (hsame ▸ hlt)

theorem size_eq_card (m : Metadata) : m.size = (keyClasses m.entries.entries).card := by
  rw [keyClasses, List.toFinset_card_of_nodup m.nodup_classes, List.length_map]
  rfl

theorem ext_get? {a b : Metadata} (h : ∀ key, a.get? key = b.get? key) : a = b := by
  refine ext (Dict.ext_get? fun k => ?_)
  by_cases hk : Ascii.fold k = k
  · have := h k
    rwa [get?, get?, hk] at this
  · -- a key with a capital is stored in neither
    have hnone : ∀ m : Metadata, m.entries.get? k = none := fun m => by
      rw [Dict.get?, Keyed.get?_eq_none_iff]
      rintro e he rfl
      exact hk (m.folded e he)
    rw [hnone a, hnone b]

/-! ## What went in -/

theorem get?_ofList_eq_none_iff (es : List (String × String)) (key : String) :
    (ofList es).get? key = none ↔ ∀ e ∈ es, ¬ Same key e.1 := by
  rw [get?_ofList, Option.map_eq_none_iff, List.find?_eq_none]
  simp only [List.mem_reverse, decide_eq_true_eq]

theorem keyClasses_ofList (es : List (String × String)) :
    keyClasses (ofList es).entries.entries = keyClasses es := by
  ext q
  induction q using Quotient.ind with
  | _ key =>
    have hentries := (ofList es).get?_eq_none_iff key
    have hheaders := get?_ofList_eq_none_iff es key
    rw [mem_keyClasses, mem_keyClasses, ← not_iff_not]
    push Not
    exact hentries.symm.trans hheaders

theorem isEmpty_iff_size (m : Metadata) : m.isEmpty = true ↔ m.size = 0 := by
  rw [isEmpty, size, Dict.isEmpty, Dict.size, List.isEmpty_iff, List.length_eq_zero_iff]

/-- Headers collected from one list, and then those of another inserted. -/
def build (collected inserted : List (String × String)) : Metadata :=
  inserted.foldl (fun m e => m.insert e.1 e.2) (ofList collected)

/-- It does not matter how headers came in. -/
theorem build_eq (collected inserted : List (String × String)) :
    build collected inserted = ofList (collected ++ inserted) := by
  rw [build, ofList, ofList, List.foldl_append]

/-- **The header inserted last counts.** Keys are the same if at each place they have the same character or
the two forms of one letter of ASCII. Whatever headers were collected and then inserted: a look-up gives
the value of the last one whose key is the same as the key looked up, and nothing if there is none. The
size is the number of classes of their keys, and metadata are empty only if no header went in. Metadata
made of any headers are equal exactly if they answer every look-up alike. -/
theorem last_inserted_counts (collected inserted : List (String × String)) :
    (∀ a b : String, Same a b ↔ List.Forall₂ Ascii.Variants a.toList b.toList) ∧
    let es := collected ++ inserted
    let m := build collected inserted
    (∀ key value, m.get? key = some value ↔ Holds es key value) ∧
    (∀ key, m.get? key = none ↔ ∀ e ∈ es, ¬ Same key e.1) ∧
    m.size = (keyClasses es).card ∧
    (m.isEmpty = true ↔ es = []) ∧
    ∀ collected' inserted', m = build collected' inserted' ↔
      ∀ key, m.get? key = (build collected' inserted').get? key := by
  refine ⟨Ascii.same_iff, ?_⟩
  intro es m
  have hm : m = ofList es := build_eq collected inserted
  have hsize : m.size = (keyClasses es).card := by rw [hm, size_eq_card, keyClasses_ofList]
  refine ⟨fun key value => ?_, fun key => ?_, hsize, ?_, fun collected' inserted' => ?_⟩
  · rw [hm]
    exact get?_ofList_eq_some_iff es key value
  · rw [hm]
    exact get?_ofList_eq_none_iff es key
  · rw [isEmpty_iff_size, hsize, Finset.card_eq_zero, keyClasses_eq_empty_iff]
  · exact ⟨fun h key => by rw [h], ext_get?⟩

/-- Two spellings of one key, and one that differs in a letter outside ASCII. -/
example :
    let m := build [("Authorization", "Bearer a"), ("clé", "1")] [("AUTHORIZATION", "Bearer b"), ("clÉ", "2")]
    m.get? "authorization" = some "Bearer b" ∧ m.get? "Clé" = some "1" ∧ m.size = 3 := by
  decide +kernel

end Metadata

end CallAudit

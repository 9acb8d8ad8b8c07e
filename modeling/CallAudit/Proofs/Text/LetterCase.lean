import CallAudit.Text.Ascii
import Mathlib.Data.List.Forall2

/-!
# Texts that differ in the case of letters

`Ascii.Same` compares lower-case forms. Here the comparison is read off the texts as they are: they are
equally long, and at each place both have the same character, or one has the capital and the other the
small form of one of the 26 letters. A character outside ASCII stands for itself alone.

Results:
* `same_iff`: texts are the same up to ASCII case if they are variants of each other place by place.
* `utf8ByteSize_of_same`: such texts take the same number of bytes.
-/
namespace CallAudit.Ascii

/-- The same character, or the two forms of one of the 26 letters. -/
def Variants (a b : Char) : Prop :=
  a = b ∨ a.isUpper ∧ b.toNat = a.toNat + 32 ∨ b.isUpper ∧ a.toNat = b.toNat + 32

instance (a b : Char) : Decidable (Variants a b) :=
  inferInstanceAs (Decidable (a = b ∨ a.isUpper ∧ b.toNat = a.toNat + 32 ∨
    b.isUpper ∧ a.toNat = b.toNat + 32))

theorem isUpper_iff (c : Char) : c.isUpper ↔ 65 ≤ c.toNat ∧ c.toNat ≤ 90 := by
  unfold Char.isUpper
  rw [decide_eq_true_iff]
  exact and_congr UInt32.le_iff_toNat_le UInt32.le_iff_toNat_le

theorem toNat_toLower (c : Char) :
    c.toLower.toNat = if c.isUpper then c.toNat + 32 else c.toNat := by
  by_cases h : c.isUpper
  · rw [if_pos h]
    obtain ⟨-, hhigh⟩ := (isUpper_iff c).1 h
    have hval : c.toLower.val = c.val + 32 := by
      unfold Char.toLower
      rw [dif_pos (of_decide_eq_true h)]
      rfl
    rw [← Char.toNat_val, hval, UInt32.toNat_add, Char.toNat_val]
    have : (32 : UInt32).toNat = 32 := rfl
    omega
  · rw [if_neg h, toLower_of_not (fun hc => h (decide_eq_true hc))]

theorem toLower_eq_iff (a b : Char) : a.toLower = b.toLower ↔ Variants a b := by
  rw [← Char.toNat_inj, toNat_toLower, toNat_toLower, Variants, ← Char.toNat_inj]
  have ha := isUpper_iff a
  have hb := isUpper_iff b
  by_cases hau : a.isUpper <;> by_cases hbu : b.isUpper
  · simp only [hau, hbu, true_iff, if_true, true_and] at ha hb ⊢
    omega
  · simp only [hau, hbu, true_iff, false_iff, if_true, if_false, true_and, false_and, or_false,
      Bool.false_eq_true] at ha hb ⊢
    omega
  · simp only [hau, hbu, true_iff, false_iff, if_true, if_false, true_and, false_and, false_or,
      Bool.false_eq_true] at ha hb ⊢
    omega
  · simp [hau, hbu]

/-- The same up to ASCII case: variants of each other, place by place. -/
theorem same_iff (a b : String) : Same a b ↔ List.Forall₂ Variants a.toList b.toList := by
  have hchars : Same a b ↔ a.toList.map Char.toLower = b.toList.map Char.toLower := by
    rw [Same, ← String.toList_inj, toList_fold, toList_fold]
  rw [hchars, ← List.forall₂_eq_eq_eq, List.forall₂_map_left_iff, List.forall₂_map_right_iff]
  simp only [toLower_eq_iff]

/-! ## Sizes -/

/-- Both forms of a letter are one byte. -/
theorem utf8Size_of_variants {a b : Char} (h : Variants a b) : a.utf8Size = b.utf8Size := by
  have hone : ∀ c : Char, c.toNat ≤ 127 → c.utf8Size = 1 := fun c hc =>
    Char.utf8Size_eq_one_iff.2 (UInt32.le_iff_toNat_le.2 hc)
  rcases h with rfl | ⟨ha, hb⟩ | ⟨hb, ha⟩
  · rfl
  · have := (isUpper_iff a).1 ha
    rw [hone a (by omega), hone b (by omega)]
  · have := (isUpper_iff b).1 hb
    rw [hone a (by omega), hone b (by omega)]

theorem utf8ByteSize_of_variants {as bs : List Char} (h : List.Forall₂ Variants as bs) :
    (String.ofList as).utf8ByteSize = (String.ofList bs).utf8ByteSize := by
  induction h with
  | nil => rfl
  | cons hab _ ih =>
    rw [String.ofList_cons, String.ofList_cons, String.utf8ByteSize_append, String.utf8ByteSize_append,
      String.utf8ByteSize_singleton, String.utf8ByteSize_singleton, ih, utf8Size_of_variants hab]

theorem utf8ByteSize_of_same {a b : String} (h : Same a b) : a.utf8ByteSize = b.utf8ByteSize := by
  have := utf8ByteSize_of_variants ((same_iff a b).1 h)
  rwa [String.ofList_toList, String.ofList_toList] at this

end CallAudit.Ascii

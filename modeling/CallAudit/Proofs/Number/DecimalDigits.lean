import CallAudit.Number.Digits
import Mathlib.Algebra.Group.Nat.Defs

/-!
# Decimal digits and back

Results:
* `ofDecimal_decimal`: the digits of a number are read as the number.
* `ofDecimal_append`: digits in front count for more.
* `span_append_of_isDigit`: a run of digits is read up to the first other character.
* `ofDecimal_padded`: zeros in front of a number do not count.
-/
namespace CallAudit.Digits

theorem hexValue?_of_isDigit (c : Char) (h : c.isDigit = true) : hexValue? c = some (c.toNat - 48) := by
  have hc := Char.isDigit_iff_toNat.1 h
  rw [hexValue?, if_pos]
  simpa [Char.le_def, UInt32.le_iff_toNat_le] using hc

theorem isDigit_of_mem_decimal (n : Nat) (c : Char) (h : c ∈ decimal n) : c.isDigit = true :=
  Nat.isDigit_of_mem_toDigits (by decide) (by decide) h

theorem decimal_ne_nil (n : Nat) : decimal n ≠ [] := Nat.toDigits_ne_nil

theorem length_decimal_le_iff (n k : Nat) (hk : 0 < k) : (decimal n).length ≤ k ↔ n < 10 ^ k :=
  Nat.length_toDigits_le_iff (by decide) hk

theorem foldl_ofDigits (ds : List Char) (n : Nat) :
    ds.foldl (fun n c => 10 * n + (hexValue? c).getD 0) n = n * 10 ^ ds.length + ofDecimal ds := by
  induction ds generalizing n with
  | nil => simp [ofDecimal, ofDigits]
  | cons c cs ih =>
    simp only [ofDecimal, ofDigits, List.foldl_cons] at ih ⊢
    rw [ih, ih (10 * 0 + _), List.length_cons, Nat.pow_succ]
    simp only [Nat.mul_zero, Nat.zero_add, Nat.add_mul, Nat.mul_comm 10 n, Nat.mul_assoc,
      Nat.mul_comm 10 (10 ^ cs.length), Nat.add_assoc]

theorem ofDecimal_append (ds es : List Char) :
    ofDecimal (ds ++ es) = ofDecimal ds * 10 ^ es.length + ofDecimal es := by
  conv => lhs; unfold ofDecimal ofDigits
  rw [List.foldl_append, foldl_ofDigits]
  rfl

theorem ofDecimal_replicate_zero (k : Nat) : ofDecimal (List.replicate k '0') = 0 := by
  induction k with
  | zero => rfl
  | succ k ih =>
    rw [List.replicate_succ', ofDecimal_append, ih]
    decide

theorem ofDecimal_eq_ofDigitChars (ds : List Char) (h : ∀ c ∈ ds, c.isDigit = true) :
    ofDecimal ds = Nat.ofDigitChars 10 ds 0 := by
  have hfold : ∀ n, ds.foldl (fun n c => 10 * n + (hexValue? c).getD 0) n = Nat.ofDigitChars 10 ds n := by
    induction ds with
    | nil => intro n; rfl
    | cons c cs ih =>
      intro n
      rw [List.foldl_cons, ih (fun d hd => h d (List.mem_cons_of_mem _ hd)), Nat.ofDigitChars_cons,
        hexValue?_of_isDigit c (h c (List.mem_cons_self ..))]
      rfl
  exact hfold 0

/-- The digits of a number are read as the number. -/
theorem ofDecimal_decimal (n : Nat) : ofDecimal (decimal n) = n := by
  rw [ofDecimal_eq_ofDigitChars _ (isDigit_of_mem_decimal n)]
  exact Nat.ofDigitChars_ten_toDigits

/-- A number that is not zero has no zero in front. -/
theorem decimal_eq_cons (n : Nat) (h : n ≠ 0) :
    ∃ c cs, decimal n = c :: cs ∧ c.isDigit = true ∧ c ≠ '0' := by
  induction n using Nat.strongRecOn with
  | ind n ih =>
    by_cases hn : n < 10
    · refine ⟨n.digitChar, [], Nat.toDigits_of_lt_base hn, ?_, ?_⟩
      · exact isDigit_of_mem_decimal n _ (by rw [decimal, Nat.toDigits_of_lt_base hn]; simp)
      · have : ∀ k < 10, k ≠ 0 → k.digitChar ≠ '0' := by decide
        exact this n hn h
    · obtain ⟨c, cs, hc, hd, h0⟩ := ih (n / 10) (by omega) (by omega)
      refine ⟨c, cs ++ [(n % 10).digitChar], ?_, hd, h0⟩
      rw [decimal, Nat.toDigits_of_base_le (by decide) (by omega)]
      rw [decimal] at hc
      rw [hc]
      rfl

/-- What holds of the character in front holds of the first character. -/
theorem forall_head?_cons {p : Char → Prop} (c : Char) (cs : List Char) (h : p c) :
    ∀ d ∈ (c :: cs).head?, p d := by
  intro d hd
  rw [← Option.some.inj hd]
  exact h

theorem takeWhile_append_of_isDigit (ds rest : List Char) (h : ∀ c ∈ ds, c.isDigit = true)
    (hr : ∀ c ∈ rest.head?, c.isDigit = false) : (ds ++ rest).takeWhile Char.isDigit = ds := by
  rw [List.takeWhile_append_of_pos h]
  cases rest with
  | nil => simp
  | cons c cs => simp [hr c (by simp)]

theorem dropWhile_append_of_isDigit (ds rest : List Char) (h : ∀ c ∈ ds, c.isDigit = true)
    (hr : ∀ c ∈ rest.head?, c.isDigit = false) : (ds ++ rest).dropWhile Char.isDigit = rest := by
  rw [List.dropWhile_append_of_pos h]
  cases rest with
  | nil => rfl
  | cons c cs => simp [hr c (by simp)]

/-- A run of digits is read up to the first other character. -/
theorem span_append_of_isDigit (ds rest : List Char) (h : ∀ c ∈ ds, c.isDigit = true)
    (hr : ∀ c ∈ rest.head?, c.isDigit = false) : span (ds ++ rest) = (ds, rest) := by
  rw [span, takeWhile_append_of_isDigit ds rest h hr, dropWhile_append_of_isDigit ds rest h hr]

/-! ## Padding -/

theorem isDigit_of_mem_padded (width n : Nat) (c : Char) (h : c ∈ padded width n) :
    c.isDigit = true := by
  simp only [padded, List.mem_append, List.mem_replicate] at h
  rcases h with ⟨-, rfl⟩ | h
  · decide
  · exact isDigit_of_mem_decimal n c h

theorem ofDecimal_padded (width n : Nat) : ofDecimal (padded width n) = n := by
  rw [padded, ofDecimal_append, ofDecimal_replicate_zero, ofDecimal_decimal, Nat.zero_mul,
    Nat.zero_add]

theorem length_padded (width n : Nat) (hw : 0 < width) (h : n < 10 ^ width) :
    (padded width n).length = width := by
  have := (length_decimal_le_iff n width hw).2 h
  simp only [padded, List.length_append, List.length_replicate]
  omega

theorem padded_ne_nil (width n : Nat) : padded width n ≠ [] := by
  simp [padded, decimal_ne_nil]

end CallAudit.Digits

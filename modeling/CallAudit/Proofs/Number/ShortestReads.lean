import CallAudit.Proofs.Number.Decimals
import Mathlib.Algebra.Order.Floor.Semifield
import Mathlib.Data.Nat.Cast.Order.Field
import Mathlib.Data.Rat.Floor

/-!
# The shortest decimal reads back

Results:
* `isSome_withDigits?_seventeen`: of the two decimals of seventeen digits next to a double, one reads
  as it.
* `reads_shortest`: the shortest decimal of a double is found, and it reads as the double.
-/
namespace CallAudit.Binary64

/-! ## The decimal exponent -/

/-- Ten powers below two powers. -/
theorem ten_zpow_le_two_zpow (k : Int) (hk : -2000 ≤ k) (hk' : k ≤ 2000) :
    (10 : ℚ) ^ (k * 30103 / 100000 - 1) ≤ 2 ^ k := by
  have hpos : (0 : ℚ) ≤ 10 ^ (k * 30103 / 100000 - 1) := by positivity
  rcases le_or_gt 0 k with h | h
  · -- `10 ^ 59 ≤ 2 ^ 196`, and 59 / 196 is a little less than the logarithm
    refine (pow_le_pow_iff_left₀ hpos (by positivity) (by decide : 196 ≠ 0)).1 ?_
    calc ((10 : ℚ) ^ (k * 30103 / 100000 - 1)) ^ 196
        = 10 ^ ((k * 30103 / 100000 - 1) * 196) := by rw [zpow_mul]; norm_cast
      _ ≤ 10 ^ (59 * k) := zpow_le_zpow_right₀ (by norm_num) (by omega)
      _ = (10 ^ (59 : Int)) ^ k := by rw [zpow_mul]
      _ ≤ (2 ^ (196 : Int)) ^ k := zpow_le_zpow_left₀ h (by positivity) (by norm_num)
      _ = (2 ^ k) ^ 196 := by rw [← zpow_mul, mul_comm, zpow_mul]; norm_cast
  · -- `2 ^ 93 ≤ 10 ^ 28`, and 28 / 93 is a little more
    refine (pow_le_pow_iff_left₀ hpos (by positivity) (by decide : 93 ≠ 0)).1 ?_
    have hneg : ((10 : ℚ) ^ (28 : Int)) ^ k ≤ (2 ^ (93 : Int)) ^ k := by
      obtain ⟨n, hn⟩ : ∃ n : Nat, k = -(n : Int) := ⟨(-k).toNat, by omega⟩
      subst hn
      rw [zpow_neg, zpow_neg, zpow_natCast, zpow_natCast]
      exact inv_anti₀ (by positivity) (pow_le_pow_left₀ (by positivity) (by norm_num) n)
    calc ((10 : ℚ) ^ (k * 30103 / 100000 - 1)) ^ 93
        = 10 ^ ((k * 30103 / 100000 - 1) * 93) := by rw [zpow_mul]; norm_cast
      _ ≤ 10 ^ (28 * k) := zpow_le_zpow_right₀ (by norm_num) (by omega)
      _ = (10 ^ (28 : Int)) ^ k := by rw [zpow_mul]
      _ ≤ (2 ^ (93 : Int)) ^ k := hneg
      _ = (2 ^ k) ^ 93 := by rw [← zpow_mul, mul_comm, zpow_mul]; norm_cast

theorem tenPowLe_iff (e : Int) (num den : Nat) (hd : 0 < den) :
    tenPowLe e num den = true ↔ (10 : ℚ) ^ e ≤ (num : ℚ) / den := by
  have := pow_le_iff 10 (by decide) e num den hd
  push_cast at this
  rw [← this]
  simp [tenPowLe]

/-- The decimal exponent of a fraction does not exceed it, and is not far below. -/
theorem floorLog10_spec (num den : Nat) (hn : 0 < num) (hd : 0 < den)
    (hk : -2000 ≤ floorLog2 num den) (hk' : floorLog2 num den ≤ 2000) :
    (10 : ℚ) ^ floorLog10 num den ≤ (num : ℚ) / den ∧
      floorLog2 num den * 30103 / 100000 - 1 ≤ floorLog10 num den := by
  have h2 := (floorLog2_spec num den hn hd).1
  unfold floorLog10
  dsimp only
  split
  · rename_i h
    exact ⟨(tenPowLe_iff _ num den hd).1 h, by omega⟩
  · split
    · rename_i h
      exact ⟨(tenPowLe_iff _ num den hd).1 h, by omega⟩
    · exact ⟨(ten_zpow_le_two_zpow _ hk hk').trans h2, le_refl _⟩

/-! ## The value of a double -/

/-- The magnitude of a finite double. -/
def value (x : Binary64) : ℚ := (x.significand : ℚ) * 2 ^ x.scale

theorem ratio_eq (x : Binary64) : (x.ratio.1 : ℚ) / x.ratio.2 = x.value := by
  have h := zpow_eq_div 2 (by decide) x.scale
  unfold ratio value
  simp only [Nat.pow_eq]
  push_cast at h ⊢
  rw [h, mul_div_assoc]

theorem ratio_den_pos (x : Binary64) : 0 < x.ratio.2 := by
  unfold ratio
  simp only [Nat.pow_eq]
  positivity

theorem ratio_num_pos (x : Binary64) (h : x.significand ≠ 0) : 0 < x.ratio.1 := by
  have := Nat.pos_of_ne_zero h
  unfold ratio
  simp only [Nat.pow_eq]
  positivity

/-- A nonzero double lies between the least and the greatest one. -/
theorem value_bounds (x : Binary64) (hx : x.Finite) (h : x.significand ≠ 0) :
    (2 : ℚ) ^ (-1074 : Int) ≤ x.value ∧ x.value < 2 ^ (1024 : Int) := by
  have h1 : (1 : ℚ) ≤ x.significand := by exact_mod_cast Nat.pos_of_ne_zero h
  have h2 : (x.significand : ℚ) < 2 ^ (53 : Int) := by
    have := Nat.cast_lt (α := ℚ).2 x.significand_lt
    push_cast at this
    exact_mod_cast this
  unfold value
  constructor
  · calc (2 : ℚ) ^ (-1074 : Int) ≤ 2 ^ x.scale := zpow_le_zpow_right₀ (by norm_num) x.scale_ge
      _ ≤ x.significand * 2 ^ x.scale := le_mul_of_one_le_left (by positivity) h1
  · calc (x.significand : ℚ) * 2 ^ x.scale < 2 ^ (53 : Int) * 2 ^ x.scale :=
          mul_lt_mul_of_pos_right h2 (by positivity)
      _ = 2 ^ (53 + x.scale) := (zpow_add₀ (by norm_num) _ _).symm
      _ ≤ 2 ^ (1024 : Int) := zpow_le_zpow_right₀ (by norm_num) (by have := x.scale_le hx; omega)

theorem floorLog2_bounds (x : Binary64) (hx : x.Finite) (h : x.significand ≠ 0) :
    -1074 ≤ floorLog2 x.ratio.1 x.ratio.2 ∧ floorLog2 x.ratio.1 x.ratio.2 < 1024 := by
  obtain ⟨h1, h2⟩ := floorLog2_spec _ _ (x.ratio_num_pos h) x.ratio_den_pos
  obtain ⟨h3, h4⟩ := x.value_bounds hx h
  rw [ratio_eq] at h1 h2
  have h5 := (zpow_lt_zpow_iff_right₀ (by norm_num : (1 : ℚ) < 2)).1 (lt_of_le_of_lt h3 h2)
  have h6 := (zpow_lt_zpow_iff_right₀ (by norm_num : (1 : ℚ) < 2)).1 (lt_of_le_of_lt h1 h4)
  omega

/-- The decimal exponent of a nonzero double. -/
theorem floorLog10_bounds (x : Binary64) (hx : x.Finite) (h : x.significand ≠ 0) :
    (10 : ℚ) ^ floorLog10 x.ratio.1 x.ratio.2 ≤ x.value ∧
      -325 ≤ floorLog10 x.ratio.1 x.ratio.2 ∧ floorLog10 x.ratio.1 x.ratio.2 ≤ 400 := by
  obtain ⟨hk, hk'⟩ := x.floorLog2_bounds hx h
  obtain ⟨h1, h2⟩ := floorLog10_spec _ _ (x.ratio_num_pos h) x.ratio_den_pos (by omega) (by omega)
  rw [ratio_eq] at h1
  refine ⟨h1, by omega, ?_⟩
  have := lt_of_lt_of_le (lt_of_le_of_lt h1 (x.value_bounds hx h).2) two_pow_le_ten_pow
  exact ((zpow_lt_zpow_iff_right₀ (by norm_num : (1 : ℚ) < 10)).1 this).le

/-! ## Seventeen digits -/

/-- A decimal within half a unit of the seventeenth digit of a double reads as it: that is less than
half a unit of the double's last place. -/
theorem reads_of_half (x : Binary64) (hx : x.Finite) (h : x.significand ≠ 0) (d : Decimal)
    (hm : d.digits ≠ 0) (hl : -400 ≤ d.exponent) (he : d.exponent ≤ 400)
    (hs : 10 ^ 16 * 10 ^ d.exponent ≤ x.value)
    (hlow : x.value - 10 ^ d.exponent / 2 ≤ valueOf d.digits d.exponent)
    (hhigh : valueOf d.digits d.exponent ≤ x.value + 10 ^ d.exponent / 2) : x.reads double d = true := by
  have hpow : (0 : ℚ) < 2 ^ x.scale := by positivity
  have hsig : (x.significand : ℚ) + 1 ≤ 2 ^ 53 := by exact_mod_cast x.significand_lt
  unfold value at hs hlow hhigh
  -- a unit of the seventeenth digit is less than a unit of the last place
  have hunit : (10 : ℚ) ^ d.exponent < 2 ^ x.scale := by nlinarith
  refine x.reads_near hx h d hm hl he ?_ ?_ (fun h52 => ?_)
  · linarith
  · linarith
  · have : (x.significand : ℚ) = 2 ^ 52 := by rw [h52]; norm_num
    rw [this] at hs hlow ⊢
    nlinarith

/-- Of the two decimals of seventeen digits next to a double, one reads as it. -/
theorem isSome_withDigits?_seventeen (x : Binary64) (hx : x.Finite) (h : x.significand ≠ 0) :
    (x.withDigits? double 17).isSome = true := by
  obtain ⟨hten, hl, hu⟩ := x.floorLog10_bounds hx h
  have hden := x.ratio_den_pos
  unfold withDigits?
  rcases hr : x.ratio with ⟨num, den⟩
  rw [hr] at hten hl hu hden
  have hvalue := x.ratio_eq
  rw [hr] at hvalue
  dsimp only at hten hl hu hden hvalue ⊢
  generalize hs : floorLog10 num den - (17 : Nat) + 1 = s
  -- the scaled value lies between its integer part and the next integer
  have hscaled := scaled_ratio 10 (by decide) num den hden s
  rw [hvalue, Nat.cast_ofNat] at hscaled
  have hten' : 10 ^ 16 * (10 : ℚ) ^ s ≤ x.value := by
    refine le_trans (le_of_eq ?_) hten
    rw [← hs, ← zpow_natCast, ← zpow_add₀ (by norm_num)]
    congr 1
    push_cast
    ring
  have hpos : (0 : ℚ) < 10 ^ s := by positivity
  generalize num * 10 ^ (-s).toNat = num' at *
  generalize den * 10 ^ s.toNat = den' at *
  have hbelow : ((num' / den' : Nat) : ℚ) * 10 ^ s ≤ x.value := by
    rw [← le_div_iff₀ hpos, ← hscaled]
    exact Nat.cast_div_le
  have habove : x.value < (((num' / den' : Nat) : ℚ) + 1) * 10 ^ s := by
    rw [← div_lt_iff₀ hpos, ← hscaled, ← Nat.floor_div_eq_div (K := ℚ)]
    exact Nat.lt_floor_add_one _
  have hc0 : num' / den' ≠ 0 := by
    intro h0
    rw [h0, Nat.cast_zero, zero_add, one_mul] at habove
    nlinarith
  -- the nearer one reads
  have hreads : x.reads double ⟨num' / den', s⟩ = true ∨ x.reads double ⟨num' / den' + 1, s⟩ = true := by
    rcases le_or_gt (x.value - ((num' / den' : Nat) : ℚ) * 10 ^ s) (10 ^ s / 2) with hhalf | hhalf
    · left
      refine x.reads_of_half hx h _ hc0 ?_ ?_ hten' ?_ ?_
      · dsimp only; omega
      · dsimp only; omega
      · unfold valueOf; linarith
      · unfold valueOf; linarith
    · right
      refine x.reads_of_half hx h _ (Nat.succ_ne_zero _) ?_ ?_ hten' ?_ ?_
      · dsimp only; omega
      · dsimp only; omega
      · unfold valueOf; push_cast; linarith
      · unfold valueOf; push_cast; linarith
  rcases hreads with hb | ha
  · rw [hb]
    cases x.reads double ⟨num' / den' + 1, s⟩ <;> rfl
  · rw [ha]
    cases x.reads double ⟨num' / den', s⟩ <;> rfl

/-! ## The shortest one -/

/-- A hit reads as the double. -/
theorem reads_of_withDigits? (x : Binary64) (hx : x.Finite) (h : x.significand ≠ 0) (n : Nat)
    (hn : n ≤ 17) (d : Decimal) (hd : x.withDigits? double n = some d) :
    x.reads double d = true ∧ -400 ≤ d.exponent := by
  obtain ⟨-, hl, -⟩ := x.floorLog10_bounds hx h
  unfold withDigits? at hd
  dsimp only at hd
  split at hd
  · rename_i hb ha
    cases hd
    split
    · exact ⟨hb, by dsimp only; omega⟩
    · split
      · exact ⟨ha, by dsimp only; omega⟩
      · split
        · exact ⟨hb, by dsimp only; omega⟩
        · exact ⟨ha, by dsimp only; omega⟩
  · rename_i hb _
    cases hd
    exact ⟨hb, by dsimp only; omega⟩
  · rename_i _ ha
    cases hd
    exact ⟨ha, by dsimp only; omega⟩
  · cases hd

theorem exists_of_shortestFrom (x : Binary64) (fuel : Nat) : ∀ n k, n ≤ k → k < n + fuel →
    (x.withDigits? double k).isSome = true →
      ∃ d m, x.shortestFrom double fuel n = some d ∧ m ≤ k ∧ x.withDigits? double m = some d := by
  induction fuel with
  | zero => intro n k h1 h2; omega
  | succ fuel ih =>
    intro n k h1 h2 hk
    unfold shortestFrom
    cases hw : x.withDigits? double n with
    | some d => exact ⟨d, n, rfl, h1, hw⟩
    | none =>
      have hne : n ≠ k := by
        rintro rfl
        rw [hw] at hk
        cases hk
      exact ih (n + 1) k (by omega) (by omega) hk

/-- Zeros at the end may go. -/
theorem reads_trimZeros (x : Binary64) (h : x.significand ≠ 0) (fuel : Nat) : ∀ d : Decimal,
    x.reads double d = true → -400 ≤ d.exponent →
      x.reads double (d.trimZeros fuel) = true ∧ -400 ≤ (d.trimZeros fuel).exponent := by
  induction fuel with
  | zero => exact fun d hd hl => ⟨hd, hl⟩
  | succ fuel ih =>
    intro d hd hl
    unfold Decimal.trimZeros
    split
    · rename_i hz
      refine ih _ (x.reads_of_value_eq h d _ hd hl (by dsimp only; omega) (by dsimp only; omega) ?_)
        (by dsimp only; omega)
      have hten : ((d.digits : Nat) : ℚ) = ((d.digits / 10 : Nat) : ℚ) * 10 := by
        have : d.digits = d.digits / 10 * 10 := by omega
        exact_mod_cast this
      unfold valueOf
      dsimp only
      rw [hten, zpow_add₀ (by norm_num), zpow_one]
      ring
    · exact ⟨hd, hl⟩

/-- The shortest decimal of a nonzero double reads as it. -/
theorem reads_shortest (x : Binary64) (hx : x.Finite) (h : x.significand ≠ 0) :
    x.reads double (x.shortest double) = true ∧ (x.shortest double).digits ≠ 0 ∧
      -400 ≤ (x.shortest double).exponent := by
  obtain ⟨d, m, hd, hm, hw⟩ := x.exists_of_shortestFrom 17 1 17 (by omega) (by omega)
    (x.isSome_withDigits?_seventeen hx h)
  obtain ⟨hr, hl⟩ := x.reads_of_withDigits? hx h m hm d hw
  obtain ⟨hr', hl'⟩ := x.reads_trimZeros h 400 d hr hl
  have hs : x.shortest double = d.trimZeros 400 := by rw [shortest, hd, Option.getD_some]
  rw [hs]
  exact ⟨hr', (x.bounds_of_reads h _ hr' hl').1, hl'⟩

end CallAudit.Binary64

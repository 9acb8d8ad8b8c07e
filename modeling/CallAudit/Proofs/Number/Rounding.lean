import CallAudit.Number.Binary64
import Mathlib.Algebra.Order.Field.Power
import Mathlib.Tactic.FieldSimp
import Mathlib.Tactic.Linarith
import Mathlib.Tactic.NormNum
import Mathlib.Tactic.Positivity
import Mathlib.Tactic.Ring

/-!
# Rounding to doubles

The arithmetic on natural numbers, read as arithmetic on fractions.

Results:
* `floorLog2_spec`: the binary exponent of a fraction.
* `roundHalfEven_eq`: the natural number within a half of a fraction is what it is rounded to.
* `Format.round?_congr`: rounding depends on the value of a fraction only.
* `round?_double_near`: a fraction near enough to a double is rounded to it.
-/
namespace CallAudit.Binary64

/-! ## Powers -/

theorem zpow_eq_div (b : Nat) (hb : 0 < b) (e : Int) :
    (b : ℚ) ^ e = ((b ^ e.toNat : Nat) : ℚ) / ((b ^ (-e).toNat : Nat) : ℚ) := by
  have hb' : (b : ℚ) ≠ 0 := by positivity
  push_cast
  rcases le_total 0 e with h | h
  · obtain ⟨n, rfl⟩ := Int.eq_ofNat_of_zero_le h
    simp
  · obtain ⟨n, hn⟩ := Int.eq_ofNat_of_zero_le (a := -e) (by omega)
    have he : e = -(n : Int) := by omega
    subst he
    simp

/-- The test on natural numbers for a power that a fraction reaches. -/
theorem pow_le_iff (b : Nat) (hb : 0 < b) (e : Int) (num den : Nat) (hd : 0 < den) :
    den * b ^ e.toNat ≤ num * b ^ (-e).toNat ↔ (b : ℚ) ^ e ≤ (num : ℚ) / den := by
  have hp : (0 : ℚ) < ((b ^ (-e).toNat : Nat) : ℚ) := by positivity
  have hd' : (0 : ℚ) < den := by positivity
  rw [zpow_eq_div b hb, div_le_div_iff₀ hp hd', mul_comm den]
  exact_mod_cast Iff.rfl

/-! ## The binary exponent -/

theorem floorLog2_spec (num den : Nat) (hn : 0 < num) (hd : 0 < den) :
    (2 : ℚ) ^ floorLog2 num den ≤ (num : ℚ) / den ∧
      (num : ℚ) / den < (2 : ℚ) ^ (floorLog2 num den + 1) := by
  have hd' : (0 : ℚ) < den := by positivity
  have h1 : ((2 : ℚ) ^ num.log2) ≤ num := by exact_mod_cast Nat.log2_self_le (by omega)
  have h2 : (num : ℚ) < 2 ^ (num.log2 + 1) := by exact_mod_cast Nat.lt_log2_self
  have h3 : ((2 : ℚ) ^ den.log2) ≤ den := by exact_mod_cast Nat.log2_self_le (by omega)
  have h4 : (den : ℚ) < 2 ^ (den.log2 + 1) := by exact_mod_cast Nat.lt_log2_self
  have htest := pow_le_iff 2 (by decide) ((num.log2 : Int) - den.log2) num den hd
  -- the quotient of the leading bits is right or one too much
  have hupper : (num : ℚ) / den < 2 ^ ((num.log2 : Int) - den.log2 + 1) := by
    rw [div_lt_iff₀ hd']
    calc (num : ℚ) < 2 ^ (num.log2 + 1) := h2
      _ = 2 ^ ((num.log2 : Int) - den.log2 + 1) * 2 ^ den.log2 := by
        rw [← zpow_natCast, ← zpow_natCast, ← zpow_add₀ (by norm_num)]
        congr 1
        push_cast
        ring
      _ ≤ 2 ^ ((num.log2 : Int) - den.log2 + 1) * den := by gcongr
  have hlower : (2 : ℚ) ^ ((num.log2 : Int) - den.log2 - 1) ≤ (num : ℚ) / den := by
    rw [le_div_iff₀ hd']
    calc (2 : ℚ) ^ ((num.log2 : Int) - den.log2 - 1) * den
        ≤ 2 ^ ((num.log2 : Int) - den.log2 - 1) * 2 ^ (den.log2 + 1) := by gcongr
      _ = 2 ^ num.log2 := by
        rw [← zpow_natCast, ← zpow_natCast, ← zpow_add₀ (by norm_num)]
        congr 1
        push_cast
        ring
      _ ≤ num := h1
  unfold floorLog2
  dsimp only
  push_cast at htest
  split
  · rename_i h
    exact ⟨htest.1 h, hupper⟩
  · rename_i h
    refine ⟨hlower, ?_⟩
    rw [sub_add_cancel]
    exact not_le.1 (fun hle => h (htest.2 hle))

/-- The binary exponent is the only one that fits. -/
theorem floorLog2_eq (num den : Nat) (hn : 0 < num) (hd : 0 < den) (e : Int)
    (h1 : (2 : ℚ) ^ e ≤ (num : ℚ) / den) (h2 : (num : ℚ) / den < (2 : ℚ) ^ (e + 1)) :
    floorLog2 num den = e := by
  obtain ⟨h3, h4⟩ := floorLog2_spec num den hn hd
  have h5 : floorLog2 num den < e + 1 :=
    (zpow_lt_zpow_iff_right₀ (by norm_num : (1 : ℚ) < 2)).1 (lt_of_le_of_lt h3 h2)
  have h6 : e < floorLog2 num den + 1 :=
    (zpow_lt_zpow_iff_right₀ (by norm_num : (1 : ℚ) < 2)).1 (lt_of_le_of_lt h1 h4)
  omega

/-! ## Rounding to a natural number -/

theorem roundHalfEven_eq (num den m : Nat) (hd : 0 < den) (h1 : (m : ℚ) - 1 / 2 < (num : ℚ) / den)
    (h2 : (num : ℚ) / den < (m : ℚ) + 1 / 2) : roundHalfEven num den = m := by
  have hd' : (0 : ℚ) < den := by positivity
  rw [lt_div_iff₀ hd'] at h1
  rw [div_lt_iff₀ hd'] at h2
  have h1' : 2 * m * den < 2 * num + den := by
    have : (2 * m * den : ℚ) < 2 * num + den := by linarith
    exact_mod_cast this
  have h2' : 2 * num < (2 * m + 1) * den := by
    have : (2 * num : ℚ) < (2 * m + 1) * den := by linarith
    exact_mod_cast this
  have hnum := Nat.div_add_mod num den
  have hr := Nat.mod_lt num hd
  unfold roundHalfEven
  generalize num / den = q at *
  generalize num % den = r at *
  subst hnum
  -- the quotient is `m` or one less
  have hq : q ≤ m := by
    by_contra hlt
    have : (m + 1) * den ≤ q * den := Nat.mul_le_mul_right den (by omega)
    nlinarith
  have hq' : m ≤ q + 1 := by
    by_contra hlt
    have : (q + 2) * den ≤ m * den := Nat.mul_le_mul_right den (by omega)
    nlinarith
  rcases Nat.eq_or_lt_of_le hq with rfl | hlt
  · have : 2 * r < den := by nlinarith
    simp [this]
  · obtain rfl : m = q + 1 := by omega
    have h3 : den < 2 * r := by nlinarith
    simp [h3, show ¬ 2 * r < den by omega]

theorem roundHalfEven_congr (num den num' den' : Nat) (hd : 0 < den) (hd' : 0 < den')
    (h : num * den' = num' * den) : roundHalfEven num den = roundHalfEven num' den' := by
  have hq : num / den = num' / den' := by
    rw [← Nat.mul_div_mul_right num den hd', ← Nat.mul_div_mul_right num' den' hd, h,
      Nat.mul_comm den den']
  have hr : num % den * den' = num' % den' * den := by
    have h1 := Nat.div_add_mod num den
    have h2 := Nat.div_add_mod num' den'
    rw [← hq] at h2
    have h3 : (den * (num / den) + num % den) * den' = (den' * (num / den) + num' % den') * den := by
      rw [h1, h2, h]
    nlinarith
  have hlt : 2 * (num % den) < den ↔ 2 * (num' % den') < den' := by
    constructor
    · intro hl
      by_contra hge
      have := Nat.mul_lt_mul_of_pos_right hl hd'
      have := Nat.mul_le_mul_right den (Nat.not_lt.1 hge)
      nlinarith
    · intro hl
      by_contra hge
      have := Nat.mul_lt_mul_of_pos_right hl hd
      have := Nat.mul_le_mul_right den' (Nat.not_lt.1 hge)
      nlinarith
  have hgt : den < 2 * (num % den) ↔ den' < 2 * (num' % den') := by
    constructor
    · intro hl
      by_contra hge
      have := Nat.mul_lt_mul_of_pos_right hl hd'
      have := Nat.mul_le_mul_right den (Nat.not_lt.1 hge)
      nlinarith
    · intro hl
      by_contra hge
      have := Nat.mul_lt_mul_of_pos_right hl hd
      have := Nat.mul_le_mul_right den' (Nat.not_lt.1 hge)
      nlinarith
  simp only [roundHalfEven, hq, hlt, hgt]

/-! ## Rounding to a format -/

theorem Format.round?_congr (f : Format) (num den num' den' : Nat) (hn : 0 < num) (hd : 0 < den)
    (hn' : 0 < num') (hd' : 0 < den') (h : num * den' = num' * den) :
    f.round? num den = f.round? num' den' := by
  have hlog : floorLog2 num den = floorLog2 num' den' := by
    obtain ⟨h1, h2⟩ := floorLog2_spec num' den' hn' hd'
    have hq : (num : ℚ) / den = num' / den' := by
      rw [div_eq_div_iff (by positivity) (by positivity)]
      exact_mod_cast h
    rw [← hq] at h1 h2
    exact floorLog2_eq num den hn hd _ h1 h2
  have hround : ∀ a b : Nat, 0 < b →
      roundHalfEven (num * a) (den * b) = roundHalfEven (num' * a) (den' * b) := by
    intro a b hb
    refine roundHalfEven_congr _ _ _ _ (Nat.mul_pos hd hb) (Nat.mul_pos hd' hb) ?_
    calc num * a * (den' * b) = num * den' * (a * b) := by ring
      _ = num' * den * (a * b) := by rw [h]
      _ = num' * a * (den * b) := by ring
  unfold Format.round?
  rw [hlog]
  simp only [Nat.pow_eq]
  rw [hround _ _ (by positivity)]

/-- A fraction scaled by a power of a base, in natural numbers. -/
theorem scaled_ratio (b : Nat) (hb : 0 < b) (num den : Nat) (hd : 0 < den) (s : Int) :
    ((num * b ^ (-s).toNat : Nat) : ℚ) / ((den * b ^ s.toNat : Nat) : ℚ) =
      (num : ℚ) / den / (b : ℚ) ^ s := by
  have h := zpow_eq_div b hb s
  push_cast at h
  have h1 : (b : ℚ) ^ s.toNat ≠ 0 := by positivity
  have h2 : (b : ℚ) ^ (-s).toNat ≠ 0 := by positivity
  have h3 : (den : ℚ) ≠ 0 := by positivity
  rw [h]
  push_cast
  field_simp

/-- A scaled fraction within a half of a natural number is rounded to it. -/
theorem roundHalfEven_scaled (num den m : Nat) (hd : 0 < den) (s : Int)
    (h1 : ((m : ℚ) - 1 / 2) * 2 ^ s < (num : ℚ) / den)
    (h2 : (num : ℚ) / den < ((m : ℚ) + 1 / 2) * 2 ^ s) :
    roundHalfEven (num * 2 ^ (-s).toNat) (den * 2 ^ s.toNat) = m := by
  have hs : (0 : ℚ) < 2 ^ s := by positivity
  apply roundHalfEven_eq _ _ _ (by positivity)
  · rw [scaled_ratio 2 two_pos num den hd s, Nat.cast_ofNat, lt_div_iff₀ hs]
    exact h1
  · rw [scaled_ratio 2 two_pos num den hd s, Nat.cast_ofNat, div_lt_iff₀ hs]
    exact h2

/-- Rounding to a double, from the scale and the rounded significand. -/
theorem round?_double (num den m : Nat) (s : Int) (hs : max (floorLog2 num den - 52) (-1074) = s)
    (hm : roundHalfEven (num * 2 ^ (-s).toNat) (den * 2 ^ s.toNat) = m) :
    double.round? num den =
      if 2 ^ 53 ≤ m then (if 971 < s + 1 then none else some (m / 2, s + 1))
      else if 971 < s then none else some (m, s) := by
  subst hs
  subst hm
  unfold Format.round?
  have hscale : max (floorLog2 num den - (double.precision - 1 : Int)) double.minScale =
      max (floorLog2 num den - 52) (-1074) := rfl
  have hprecision : double.precision = 53 := rfl
  have hmax : double.maxScale = 971 := rfl
  simp only [hscale, Nat.pow_eq]
  simp only [hprecision, hmax]
  split <;> rfl

/-- A fraction near enough to a double is rounded to it: within half a unit of its last place, and
within a quarter where the doubles below it lie closer. -/
theorem round?_double_near (num den m : Nat) (s : Int) (hd : 0 < den) (hm : 0 < m)
    (hm53 : m < 2 ^ 53) (hs : -1074 ≤ s) (hs' : s ≤ 971) (hcanonical : 2 ^ 52 ≤ m ∨ s = -1074)
    (h1 : ((m : ℚ) - 1 / 2) * 2 ^ s < (num : ℚ) / den)
    (h2 : (num : ℚ) / den < ((m : ℚ) + 1 / 2) * 2 ^ s)
    (h3 : m = 2 ^ 52 → -1074 < s → ((m : ℚ) - 1 / 4) * 2 ^ s < (num : ℚ) / den) :
    double.round? num den = some (m, s) := by
  have hpow : ∀ k : Int, (0 : ℚ) < 2 ^ k := fun k => by positivity
  have hm1 : (1 : ℚ) ≤ m := by exact_mod_cast hm
  have hmle : (m : ℚ) ≤ 2 ^ 53 - 1 := by
    have : m + 1 ≤ 2 ^ 53 := hm53
    have : ((m + 1 : Nat) : ℚ) ≤ ((2 ^ 53 : Nat) : ℚ) := by exact_mod_cast this
    push_cast at this
    linarith
  have hn : 0 < num := by
    rcases Nat.eq_zero_or_pos num with rfl | h
    · rw [Nat.cast_zero, zero_div] at h1
      have : (0 : ℚ) < ((m : ℚ) - 1 / 2) * 2 ^ s := mul_pos (by linarith) (hpow s)
      linarith
    · exact h
  obtain ⟨hlow, hhigh⟩ := floorLog2_spec num den hn hd
  have hpow53 : (2 : ℚ) ^ (s + 53) = 2 ^ 53 * 2 ^ s := by
    rw [zpow_add₀ (by norm_num), mul_comm]
    norm_cast
  -- the binary exponent is not greater than that of `m`
  have hexp : floorLog2 num den < s + 53 := by
    apply (zpow_lt_zpow_iff_right₀ (by norm_num : (1 : ℚ) < 2)).1
    refine lt_of_le_of_lt hlow (lt_trans h2 ?_)
    rw [hpow53]
    exact mul_lt_mul_of_pos_right (by linarith) (hpow s)
  have hround := roundHalfEven_scaled num den m hd s h1 h2
  rcases eq_or_ne (max (floorLog2 num den - 52) (-1074)) s with hmax | hmax
  · rw [round?_double num den m s hmax hround, if_neg (by omega), if_neg (by omega)]
  · -- the fraction lies in the binade below, so `m` is the first of its own
    have hs1 : -1074 < s := by omega
    have hm52 : 2 ^ 52 ≤ m := by omega
    have hexp' : s + 51 < floorLog2 num den + 1 := by
      apply (zpow_lt_zpow_iff_right₀ (by norm_num : (1 : ℚ) < 2)).1
      refine lt_trans ?_ (lt_trans h1 hhigh)
      have h51 : (2 : ℚ) ^ (s + 51) = 2 ^ 51 * 2 ^ s := by
        rw [zpow_add₀ (by norm_num), mul_comm]
        norm_cast
      rw [h51]
      have : ((2 ^ 52 : Nat) : ℚ) ≤ m := Nat.cast_le.2 hm52
      push_cast at this
      exact mul_lt_mul_of_pos_right (by linarith) (hpow s)
    have hmax' : max (floorLog2 num den - 52) (-1074) = s - 1 := by omega
    have hlast : floorLog2 num den + 1 = s + 52 := by omega
    rw [hlast] at hhigh
    have h52 : (2 : ℚ) ^ (s + 52) = 2 ^ 52 * 2 ^ s := by
      rw [zpow_add₀ (by norm_num), mul_comm]
      norm_cast
    rw [h52] at hhigh
    have hlt : (m : ℚ) - 1 / 2 < 2 ^ 52 := lt_of_mul_lt_mul_right (lt_trans h1 hhigh) (hpow s).le
    have hm' : m = 2 ^ 52 := by
      have : ((m : ℕ) : ℚ) < ((2 ^ 52 + 1 : Nat) : ℚ) := by push_cast; linarith
      have : m < 2 ^ 52 + 1 := by exact_mod_cast this
      omega
    have hhalf : (2 : ℚ) ^ (s - 1) = 2 ^ s / 2 := by
      rw [zpow_sub₀ (by norm_num), zpow_one]
    have h3' := h3 hm' hs1
    have hm53' : roundHalfEven (num * 2 ^ (-(s - 1)).toNat) (den * 2 ^ (s - 1).toNat) = 2 ^ 53 := by
      apply roundHalfEven_scaled num den (2 ^ 53) hd
      · rw [hm'] at h3'
        push_cast at h3' ⊢
        rw [hhalf]
        linarith
      · push_cast
        rw [hhalf]
        have := hpow s
        linarith
    rw [round?_double num den (2 ^ 53) (s - 1) hmax' hm53', if_pos (le_refl _), sub_add_cancel,
      if_neg (by omega), hm']
    norm_num

/-- What is rounded to a double is not beyond the doubles. -/
theorem lt_of_round?_double (num den : Nat) (hn : 0 < num) (hd : 0 < den) (x : Nat × Int)
    (h : double.round? num den = some x) : (num : ℚ) / den < 2 ^ (1024 : Int) := by
  refine lt_of_lt_of_le (floorLog2_spec num den hn hd).2 (zpow_le_zpow_right₀ (by norm_num) ?_)
  rw [round?_double num den _ _ rfl rfl] at h
  split at h <;> split at h
  all_goals first
    | (cases h; omega)
    | cases h

end CallAudit.Binary64

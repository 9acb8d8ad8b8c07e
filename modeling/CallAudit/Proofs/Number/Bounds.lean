import CallAudit.Json.Basic
import CallAudit.Proofs.Number.Decimals

/-!
# Numbers that have a finite double

Rounding leaves a significand below `2 ^ 53` with a scale up to 971, or nothing. So what has a nearest double
has a finite one, and an integer within 64 bits is never beyond the doubles.

Results:
* `round?_double_bounds`: what rounding leaves.
* `finite_ofDecimal?`: a decimal that reads as a double reads as a finite one.
* `finite_ofInt`: the double of an integer within 64 bits is finite.
-/
namespace CallAudit.Binary64

/-! ## Rounding -/

theorem roundHalfEven_le (num den k : Nat) (h : num < den * k) : roundHalfEven num den ≤ k := by
  have hquotient : num / den < k := Nat.div_lt_of_lt_mul h
  unfold roundHalfEven
  dsimp only
  split_ifs <;> omega

/-- A scaled significand fills 53 bits at most, before and after it is rounded. -/
theorem roundHalfEven_scaled_le (num den : Nat) (hn : 0 < num) (hd : 0 < den) (s : Int)
    (hs : floorLog2 num den - 52 ≤ s) :
    roundHalfEven (num * 2 ^ (-s).toNat) (den * 2 ^ s.toNat) ≤ 2 ^ 53 := by
  have hpow : (0 : ℚ) < 2 ^ s := by positivity
  have hratio : (num : ℚ) / den / 2 ^ s < 2 ^ 53 := by
    rw [div_lt_iff₀ hpow]
    calc (num : ℚ) / den < 2 ^ (floorLog2 num den + 1) := (floorLog2_spec num den hn hd).2
      _ ≤ 2 ^ ((53 : Int) + s) := zpow_le_zpow_right₀ (by norm_num) (by omega)
      _ = 2 ^ 53 * 2 ^ s := by rw [zpow_add₀ (by norm_num)]; norm_num
  have hden : (0 : ℚ) < ((den * 2 ^ s.toNat : Nat) : ℚ) := by positivity
  have hscaled := scaled_ratio 2 two_pos num den hd s
  rw [Nat.cast_ofNat] at hscaled
  rw [← hscaled, div_lt_iff₀ hden, mul_comm (2 ^ 53 : ℚ)] at hratio
  exact roundHalfEven_le _ _ _ (by exact_mod_cast hratio)

theorem round?_double_bounds (num den : Nat) (hn : 0 < num) (hd : 0 < den) (x : Nat × Int)
    (h : double.round? num den = some x) : x.1 < 2 ^ 53 ∧ x.2 ≤ 971 := by
  have hle := roundHalfEven_scaled_le num den hn hd _ (le_max_left _ (-1074))
  rw [round?_double num den _ _ rfl rfl] at h
  split at h <;> split at h
  all_goals first
    | (cases h; constructor <;> omega)
    | cases h

theorem isSome_round?_double (num den : Nat) (h : floorLog2 num den ≤ 1000) :
    (double.round? num den).isSome := by
  rw [round?_double num den _ _ rfl rfl]
  split
  · rw [if_neg (by omega)]
    rfl
  · rw [if_neg (by omega)]
    rfl

/-! ## Finite doubles -/

/-- Bits below those of an infinity, behind a sign. -/
theorem finite_of_lt (negative : Bool) (k : Nat) (h : k < 2047 * 2 ^ 52) :
    Finite ⟨UInt64.ofNat (signBits negative + k)⟩ := by
  unfold Finite exponentField
  cases negative <;>
    simp only [signBits, Nat.pow_eq, UInt64.toNat_ofNat', Bool.false_eq_true, if_false, if_true] <;>
    omega

theorem finite_ofParts (negative : Bool) (m : Nat) (s : Int) (hm : m < 2 ^ 53) (hs : s ≤ 971) :
    (ofParts negative m s).Finite := by
  unfold ofParts
  split
  · exact finite_of_lt negative 0 (by decide)
  · rename_i hne
    refine finite_of_lt negative _ ?_
    generalize hk : min (52 - Nat.log2 m) (s + 1074).toNat = k
    -- shifted to the left by `k`, the significand still fits
    have hlog : m.log2 ≤ 52 := by
      have := (Nat.log2_lt hne).2 hm
      omega
    have hshifted : m * 2 ^ k < 2 ^ 53 := by
      calc m * 2 ^ k < 2 ^ (m.log2 + 1) * 2 ^ k :=
            Nat.mul_lt_mul_of_pos_right Nat.lt_log2_self (by positivity)
        _ = 2 ^ (m.log2 + 1 + k) := (pow_add ..).symm
        _ ≤ 2 ^ 53 := Nat.pow_le_pow_right (by decide) (by omega)
    simp only [Nat.pow_eq]
    split <;> omega

theorem finite_ofDecimal? (negative : Bool) (m : Nat) (e : Int) (x : Binary64)
    (h : ofDecimal? negative m e = some x) : x.Finite := by
  unfold ofDecimal? ofDecimalIn? at h
  split at h
  · cases h
    exact finite_of_lt negative 0 (by decide)
  · rename_i hm
    split at h
    · cases h
    · split at h
      · cases h
        exact finite_of_lt negative 0 (by decide)
      · split at h
        · rename_i m' s hround
          have hbounds := round?_double_bounds _ _ (by simp only [Nat.pow_eq]; positivity)
            (by simp only [Nat.pow_eq]; positivity) _ hround
          cases h
          exact finite_ofParts negative m' s hbounds.1 hbounds.2
        · cases h

theorem floorLog2_lt_of_lt (n k : Nat) (hn : 0 < n) (h : n < 2 ^ k) : floorLog2 n 1 < k := by
  have hle := (floorLog2_spec n 1 hn one_pos).1
  have hlt : (n : ℚ) / (1 : Nat) < 2 ^ (k : Int) := by
    rw [Nat.cast_one, div_one, zpow_natCast]
    exact_mod_cast h
  exact (zpow_lt_zpow_iff_right₀ (by norm_num)).1 (hle.trans_lt hlt)

/-- An integer within 64 bits has a finite double. -/
theorem finite_ofInt (n : Int) (h : Json.Number.Integral n) : (ofInt n).Finite := by
  have hbits : n.natAbs < 2 ^ 64 := by
    have hmin : Int64.minValue.toInt = -2 ^ 63 := by decide
    obtain ⟨h1, h2⟩ := h
    rw [hmin] at h1
    change n < ((2 ^ 64 : Nat) : Int) at h2
    omega
  have hsome : (ofDecimal? (decide (n < 0)) n.natAbs 0).isSome := by
    unfold ofDecimal? ofDecimalIn?
    split
    · rfl
    · rename_i hne
      have hround := isSome_round?_double n.natAbs 1
        ((floorLog2_lt_of_lt n.natAbs 64 (Nat.pos_of_ne_zero hne) hbits).le.trans (by norm_num))
      obtain ⟨x, hx⟩ := Option.isSome_iff_exists.1 hround
      rw [if_neg (by decide), if_neg (by omega)]
      simp only [Int.neg_zero, Int.toNat_zero, Nat.pow_eq, pow_zero, mul_one, hx]
      rfl
  obtain ⟨x, hx⟩ := Option.isSome_iff_exists.1 hsome
  rw [ofInt, hx, Option.getD_some]
  exact finite_ofDecimal? _ _ _ _ hx

end CallAudit.Binary64

import CallAudit.Number.Shortest
import CallAudit.Proofs.Number.Rounding

/-!
# Decimals that read as a double

Which decimals read as a given double depends on their value only, as long as they are not so far out
of range that they are settled without their digits.

Results:
* `ofDecimal?_of_magnitude`: a sign in front of a decimal is the sign of the double.
* `reads_near`: a decimal near enough to a double reads as it.
* `reads_of_value_eq`: so do all decimals of the same value as one that does.
-/
namespace CallAudit.Binary64

/-! ## Parts of a finite double -/

theorem exponentField_lt (x : Binary64) : x.exponentField < 2048 := Nat.mod_lt _ (by decide)

theorem fractionField_lt (x : Binary64) : x.fractionField < 2 ^ 52 := Nat.mod_lt _ (by decide)

theorem significand_lt (x : Binary64) : x.significand < 2 ^ 53 := by
  have := x.fractionField_lt
  unfold significand
  simp only [Nat.pow_eq]
  split <;> omega

theorem scale_ge (x : Binary64) : -1074 ≤ x.scale := by
  unfold scale
  split <;> omega

theorem scale_le (x : Binary64) (h : x.Finite) : x.scale ≤ 971 := by
  have := x.exponentField_lt
  unfold Finite at h
  unfold scale
  split <;> omega

theorem significand_canonical (x : Binary64) : 2 ^ 52 ≤ x.significand ∨ x.scale = -1074 := by
  unfold significand scale
  split
  · exact .inr rfl
  · exact .inl (Nat.le_add_right _ _)

/-- The bits below the sign are the fields one after the other. -/
theorem magnitude_toNat (x : Binary64) :
    x.bits.toNat % 2 ^ 63 = x.exponentField * 2 ^ 52 + x.fractionField := by
  unfold exponentField fractionField
  simp only [Nat.pow_eq]
  omega

theorem ofParts_of_parts (x : Binary64) (h : x.significand ≠ 0) :
    ofParts false x.significand x.scale = x.magnitude := by
  have hbits := x.magnitude_toNat
  have hfrac := x.fractionField_lt
  unfold ofParts magnitude
  rw [if_neg h]
  unfold significand scale at *
  simp only [Nat.pow_eq, hbits] at h ⊢
  by_cases he : x.exponentField = 0
  · simp only [he, if_true] at h ⊢
    simp [signBits, show x.fractionField < 4503599627370496 from hfrac]
  · simp only [he, if_false] at h ⊢
    have hlog : Nat.log2 (2 ^ 52 + x.fractionField) = 52 := by
      rw [Nat.log2_eq_iff (by omega)]
      omega
    rw [hlog]
    simp [signBits]

/-! ## Signs -/

/-- A sign only adds its bit. -/
theorem exists_ofDecimalIn?_eq (f : Format) (m : Nat) (e : Int) :
    ∃ bits : Option Nat, ∀ negative,
      ofDecimalIn? f negative m e =
        bits.map (fun k => ⟨UInt64.ofNat (signBits negative + k)⟩) := by
  have hparts : ∀ (m : Nat) (s : Int), ∃ k, ∀ negative,
      ofParts negative m s = ⟨UInt64.ofNat (signBits negative + k)⟩ := by
    intro m s
    by_cases hm : m = 0
    · exact ⟨0, fun negative => by simp [ofParts, hm, zero]⟩
    · exact ⟨_, fun negative => by simp only [ofParts, hm, if_false]; rfl⟩
  unfold ofDecimalIn?
  split
  · exact ⟨some 0, fun _ => rfl⟩
  · split
    · exact ⟨none, fun _ => rfl⟩
    · split
      · exact ⟨some 0, fun _ => rfl⟩
      · split
        · rename_i m s _
          obtain ⟨k, hk⟩ := hparts m s
          exact ⟨some k, fun negative => by rw [hk]; rfl⟩
        · exact ⟨none, fun _ => rfl⟩

/-- A decimal that reads as a magnitude reads, with the sign in front, as the double. -/
theorem ofDecimal?_of_magnitude (x : Binary64) (m : Nat) (e : Int)
    (h : ofDecimal? false m e = some x.magnitude) : ofDecimal? x.isNegative m e = some x := by
  obtain ⟨bits, hbits⟩ := exists_ofDecimalIn?_eq double m e
  unfold ofDecimal? at h ⊢
  rw [hbits] at h ⊢
  cases bits with
  | none => cases h
  | some k =>
    simp only [Option.map_some, Option.some.injEq, magnitude, Binary64.mk.injEq, signBits, Nat.pow_eq,
      Bool.false_eq_true, if_false, Nat.zero_add] at h ⊢
    have hx := x.bits.toNat_lt
    have hk := congrArg UInt64.toNat h
    simp only [UInt64.toNat_ofNat'] at hk
    obtain ⟨b⟩ := x
    congr 1
    apply UInt64.toNat_inj.1
    simp only [isNegative, Nat.pow_eq, UInt64.toNat_ofNat'] at hk hx ⊢
    by_cases hn : 2 ^ 63 ≤ b.toNat
    · simp only [hn, decide_true, if_true]
      omega
    · simp only [hn, decide_false, Bool.false_eq_true, if_false]
      omega

/-! ## Values -/

/-- The value of a decimal. -/
def valueOf (m : Nat) (e : Int) : ℚ := (m : ℚ) * 10 ^ e

theorem valueOf_eq_div (m : Nat) (e : Int) :
    ((m * 10 ^ e.toNat : Nat) : ℚ) / ((10 ^ (-e).toNat : Nat) : ℚ) = valueOf m e := by
  have h := zpow_eq_div 10 (by decide) e
  push_cast at h ⊢
  rw [valueOf, h, mul_div_assoc]

/-- Reading a decimal that is not plainly out of range. -/
theorem ofDecimal?_eq (m : Nat) (e : Int) (hm : m ≠ 0) (he : e ≤ 400) (hl : -400 ≤ e) :
    ofDecimal? false m e =
      (double.round? (m * 10 ^ e.toNat) (10 ^ (-e).toNat)).map (fun p => ofParts false p.1 p.2) := by
  unfold ofDecimal? ofDecimalIn?
  rw [if_neg hm, if_neg (by omega), if_neg (by omega)]
  cases double.round? (m * 10 ^ e.toNat) (10 ^ (-e).toNat) <;> rfl

theorem ofDecimal?_congr (m m' : Nat) (e e' : Int) (hm : m ≠ 0) (hm' : m' ≠ 0)
    (he : e ≤ 400) (hl : -400 ≤ e) (he' : e' ≤ 400) (hl' : -400 ≤ e')
    (h : valueOf m e = valueOf m' e') : ofDecimal? false m e = ofDecimal? false m' e' := by
  rw [ofDecimal?_eq m e hm he hl, ofDecimal?_eq m' e' hm' he' hl']
  have hpos : ∀ k : Nat, 0 < 10 ^ k := fun k => by positivity
  have hcross : m * 10 ^ e.toNat * 10 ^ (-e').toNat = m' * 10 ^ e'.toNat * 10 ^ (-e).toNat := by
    rw [← valueOf_eq_div, ← valueOf_eq_div, div_eq_div_iff (by positivity) (by positivity)] at h
    exact_mod_cast h
  rw [Format.round?_congr double _ _ _ _ (Nat.mul_pos (Nat.pos_of_ne_zero hm) (hpos _)) (hpos _)
    (Nat.mul_pos (Nat.pos_of_ne_zero hm') (hpos _)) (hpos _) hcross]

theorem magnitude_ne_zero (x : Binary64) (h : x.significand ≠ 0) : x.magnitude ≠ zero false := by
  intro he
  have hbits := congrArg (fun y : Binary64 => y.bits.toNat) he
  have hx := x.magnitude_toNat
  simp only [magnitude, zero, signBits, Nat.pow_eq, UInt64.toNat_ofNat', Bool.false_eq_true,
    if_false] at hbits
  unfold significand at h
  simp only [Nat.pow_eq] at h
  split at h <;> omega

theorem reads_iff (x : Binary64) (d : Decimal) :
    x.reads double d = true ↔ ofDecimal? false d.digits d.exponent = some x.magnitude := by
  simp [reads, ofDecimal?]

/-- What reads as a nonzero double has digits and is not plainly beyond the doubles. -/
theorem bounds_of_reads (x : Binary64) (h : x.significand ≠ 0) (d : Decimal)
    (hd : x.reads double d = true) (hl : -400 ≤ d.exponent) :
    d.digits ≠ 0 ∧ d.exponent ≤ 400 ∧ valueOf d.digits d.exponent < 2 ^ (1024 : Int) := by
  rw [reads_iff] at hd
  have hm : d.digits ≠ 0 := by
    intro hz
    rw [hz] at hd
    exact x.magnitude_ne_zero h (Option.some.inj hd).symm
  have he : d.exponent ≤ 400 := by
    by_contra hgt
    rw [ofDecimal?, ofDecimalIn?, if_neg hm, if_pos (by omega)] at hd
    cases hd
  refine ⟨hm, he, ?_⟩
  rw [ofDecimal?_eq _ _ hm he hl] at hd
  cases hr : double.round? (d.digits * 10 ^ d.exponent.toNat) (10 ^ (-d.exponent).toNat) with
  | none => rw [hr] at hd; cases hd
  | some p =>
    have := lt_of_round?_double _ _ (Nat.mul_pos (Nat.pos_of_ne_zero hm) (by positivity))
      (by positivity) p hr
    rwa [valueOf_eq_div] at this

theorem two_pow_le_ten_pow : (2 : ℚ) ^ (1024 : Int) ≤ 10 ^ (400 : Int) := by
  calc (2 : ℚ) ^ (1024 : Int) ≤ 2 ^ (1200 : Int) := zpow_le_zpow_right₀ (by norm_num) (by norm_num)
    _ = (2 ^ (3 : Int)) ^ (400 : Int) := by rw [← zpow_mul]; rfl
    _ ≤ 10 ^ (400 : Int) := zpow_le_zpow_left₀ (by norm_num) (by norm_num) (by norm_num)

/-- All decimals of one value read alike. -/
theorem reads_of_value_eq (x : Binary64) (h : x.significand ≠ 0) (d d' : Decimal)
    (hd : x.reads double d = true) (hl : -400 ≤ d.exponent) (hm' : d'.digits ≠ 0) (hl' : -400 ≤ d'.exponent)
    (hv : valueOf d.digits d.exponent = valueOf d'.digits d'.exponent) : x.reads double d' = true := by
  obtain ⟨hm, he, hlt⟩ := x.bounds_of_reads h d hd hl
  have he' : d'.exponent ≤ 400 := by
    by_contra hgt
    have h1 : (1 : ℚ) ≤ d'.digits := by exact_mod_cast Nat.pos_of_ne_zero hm'
    have h2 : (10 : ℚ) ^ (400 : Int) ≤ 10 ^ d'.exponent := zpow_le_zpow_right₀ (by norm_num) (by omega)
    have h3 : (10 : ℚ) ^ d'.exponent ≤ valueOf d'.digits d'.exponent :=
      le_mul_of_one_le_left (by positivity) h1
    rw [hv] at hlt
    exact absurd hlt (not_lt.2 (two_pow_le_ten_pow.trans (h2.trans h3)))
  rw [reads_iff] at hd ⊢
  rw [← hd]
  exact (ofDecimal?_congr _ _ _ _ hm hm' he hl he' hl' hv).symm

/-- A decimal near enough to a double reads as it. -/
theorem reads_near (x : Binary64) (hx : x.Finite) (h : x.significand ≠ 0) (d : Decimal)
    (hm : d.digits ≠ 0) (hl : -400 ≤ d.exponent) (he : d.exponent ≤ 400)
    (h1 : ((x.significand : ℚ) - 1 / 2) * 2 ^ x.scale < valueOf d.digits d.exponent)
    (h2 : valueOf d.digits d.exponent < ((x.significand : ℚ) + 1 / 2) * 2 ^ x.scale)
    (h3 : x.significand = 2 ^ 52 →
      ((x.significand : ℚ) - 1 / 4) * 2 ^ x.scale < valueOf d.digits d.exponent) :
    x.reads double d = true := by
  rw [← valueOf_eq_div] at h1 h2 h3
  have hround := round?_double_near _ _ x.significand x.scale (by positivity) (Nat.pos_of_ne_zero h)
    x.significand_lt x.scale_ge (x.scale_le hx) x.significand_canonical h1 h2 (fun hs _ => h3 hs)
  rw [reads_iff, ofDecimal?_eq _ _ hm he hl, hround, Option.map_some, x.ofParts_of_parts h]

end CallAudit.Binary64

import CallAudit.Json.Printer
import CallAudit.Json.Reader
import CallAudit.Proofs.Number.DecimalDigits
import CallAudit.Proofs.Number.ShortestReads

/-!
# Numbers are read back

Results:
* `Stops`: what may follow a number for it to end there.
* `number?_decimalText`: the text of a decimal is read as a decimal of the same value.
* `number?_text`: the text of a number is read as the number, and what follows is left.
-/
namespace CallAudit.Json

open Binary64 (valueOf)

/-- What may follow a number: a character that does not carry it on, or nothing. -/
def Stops (rest : List Char) : Prop :=
  ∀ c ∈ rest.head?, c.isDigit = false ∧ c ≠ '.' ∧ c ≠ 'e' ∧ c ≠ 'E'

/-- The numbers that JSON texts hold: integers of 64 bits and finite doubles. -/
def Number.Sound : Number → Prop
  | .int n => Number.Integral n
  | .float x => x.Finite

/-! ## The parts of a literal -/

theorem integerPart?_zero (rest : List Char) : integerPart? ('0' :: rest) = some (['0'], rest) := rfl

theorem integerPart?_digits (ds rest : List Char) (hd : ∀ c ∈ ds, c.isDigit = true)
    (hz : ∀ c ∈ ds.head?, c ≠ '0') (hne : ds ≠ []) (hr : ∀ c ∈ rest.head?, c.isDigit = false) :
    integerPart? (ds ++ rest) = some (ds, rest) := by
  obtain ⟨d, ds, rfl⟩ := List.exists_cons_of_ne_nil hne
  have hd0 : d ≠ '0' := hz d rfl
  have hspan := Digits.span_append_of_isDigit (d :: ds) rest hd hr
  unfold integerPart?
  split
  · rename_i heq
    simp only [List.cons_append, List.cons.injEq] at heq
    exact absurd heq.1 hd0
  · rw [hspan]

theorem fractionPart?_digits (ds rest : List Char) (hd : ∀ c ∈ ds, c.isDigit = true) (hne : ds ≠ [])
    (hr : ∀ c ∈ rest.head?, c.isDigit = false) :
    fractionPart? ('.' :: (ds ++ rest)) = some (some ds, rest) := by
  obtain ⟨d, ds, rfl⟩ := List.exists_cons_of_ne_nil hne
  simp only [fractionPart?, Digits.span_append_of_isDigit (d :: ds) rest hd hr]

theorem fractionPart?_none (rest : List Char) (hr : ∀ c ∈ rest.head?, c ≠ '.') :
    fractionPart? rest = some (none, rest) := by
  unfold fractionPart?
  split
  · exact absurd rfl (hr '.' rfl)
  · rfl

theorem exponentPart?_none (rest : List Char) (hr : Stops rest) :
    exponentPart? rest = some (none, rest) := by
  unfold exponentPart?
  cases rest with
  | nil => rfl
  | cons c cs =>
    obtain ⟨-, -, he, hE⟩ := hr c rfl
    simp only [he, hE, or_self, if_false]

theorem exponentPart?_signed (negative : Bool) (n : Nat) (rest : List Char) (hr : Stops rest) :
    exponentPart? ('e' :: (if negative then '-' else '+') :: (Digits.decimal n ++ rest)) =
      some (some (if negative then -(n : Int) else n), rest) := by
  have hspan := Digits.span_append_of_isDigit (Digits.decimal n) rest
    (Digits.isDigit_of_mem_decimal n) (fun c hc => (hr c hc).1)
  obtain ⟨d, ds, hd⟩ := List.exists_cons_of_ne_nil (Digits.decimal_ne_nil n)
  have hvalue := Digits.ofDecimal_decimal n
  rw [hd] at hspan hvalue
  rw [List.cons_append] at hspan
  cases negative <;> simp [exponentPart?, hd, hspan, hvalue]

/-- A literal is its sign and its three parts. -/
theorem number?_of_parts (negative : Bool) (cs cs₁ cs₂ rest whole : List Char)
    (fraction : Option (List Char)) (exponent : Option Int) (hsign : ∀ c ∈ cs.head?, c ≠ '-')
    (h1 : integerPart? cs = some (whole, cs₁)) (h2 : fractionPart? cs₁ = some (fraction, cs₂))
    (h3 : exponentPart? cs₂ = some (exponent, rest)) :
    number? ((if negative then ['-'] else []) ++ cs) =
      some (Number.ofLiteral? negative whole fraction exponent, rest) := by
  unfold number?
  cases negative with
  | true => simp [h1, h2, h3]
  | false =>
    simp only [Bool.false_eq_true, if_false, List.nil_append]
    split
    · exact absurd rfl (hsign '-' rfl)
    · simp [h1, h2, h3]

/-! ## Decimals -/

theorem ne_minus_of_isDigit (c : Char) (h : c.isDigit = true) : c ≠ '-' := by
  rintro rfl
  cases h

theorem valueOf_shift (m k : Nat) (e : Int) : valueOf (m * 10 ^ k) (e - k) = valueOf m e := by
  unfold valueOf
  push_cast
  rw [zpow_sub₀ (by norm_num), zpow_natCast]
  field_simp

theorem stops_point (rest : List Char) : ∀ c ∈ ('.' :: rest).head?, c.isDigit = false := by
  intro c hc
  cases hc
  decide

/-- A literal with a fraction or an exponent is a double. -/
theorem ofLiteral?_fraction (negative : Bool) (whole ds : List Char) (exponent : Option Int) :
    Number.ofLiteral? negative whole (some ds) exponent =
      (Binary64.ofDecimal? negative (Digits.ofDecimal (whole ++ ds))
        (exponent.getD 0 - ds.length)).map Number.float := by
  cases exponent <;> rfl

theorem ofLiteral?_exponent (negative : Bool) (whole : List Char) (e : Int) :
    Number.ofLiteral? negative whole none (some e) =
      (Binary64.ofDecimal? negative (Digits.ofDecimal whole) e).map Number.float := by
  simp [Number.ofLiteral?]

section
variable (negative : Bool) (d : Decimal) (rest : List Char)

/-- Digits before and after a point are read as the digits in one, and so many places. -/
theorem number?_pointed (whole fraction : List Char) (hne : whole ≠ []) (hsign : ∀ c ∈ whole.head?, c ≠ '-')
    (hwhole : integerPart? (whole ++ '.' :: (fraction ++ rest)) = some (whole, '.' :: (fraction ++ rest)))
    (hfraction : ∀ c ∈ fraction, c.isDigit = true) (hf : fraction ≠ []) (hr : Stops rest) :
    number? ((if negative then ['-'] else []) ++ (whole ++ '.' :: (fraction ++ rest))) =
      some ((Binary64.ofDecimal? negative (Digits.ofDecimal (whole ++ fraction))
        (0 - (fraction.length : Int))).map Number.float, rest) := by
  have hhead : ∀ c ∈ (whole ++ '.' :: (fraction ++ rest)).head?, c ≠ '-' := by
    rwa [List.head?_append_of_ne_nil _ hne]
  rw [number?_of_parts negative _ _ _ _ _ _ _ hhead hwhole
    (fractionPart?_digits fraction rest hfraction hf fun c hc => (hr c hc).1) (exponentPart?_none rest hr),
    ofLiteral?_fraction]
  rfl

/-- Digits, zeros and a fraction of zero. -/
theorem number?_trailingZeros (k : Nat) (h : d.digits ≠ 0) (hr : Stops rest) :
    number? ((if negative then ['-'] else []) ++
        (Digits.decimal d.digits ++ List.replicate k '0' ++ '.' :: '0' :: rest)) =
      some ((Binary64.ofDecimal? negative (d.digits * 10 ^ (k + 1)) (-1)).map Number.float, rest) := by
  obtain ⟨c, cs, hds, hc, hc0⟩ := Digits.decimal_eq_cons d.digits h
  have hzeros : ∀ c ∈ Digits.decimal d.digits ++ List.replicate k '0', c.isDigit = true := by
    intro c hc
    rcases List.mem_append.1 hc with hc | hc
    · exact Digits.isDigit_of_mem_decimal d.digits c hc
    · rw [List.eq_of_mem_replicate hc]
      decide
  have hpart := integerPart?_digits (Digits.decimal d.digits ++ List.replicate k '0')
    ('.' :: (['0'] ++ rest)) hzeros (by rw [hds]; exact Digits.forall_head?_cons _ _ hc0) (by simp [hds])
    (stops_point _)
  have hnumber := number?_pointed negative rest _ ['0'] (by simp [hds])
    (by rw [hds]; exact Digits.forall_head?_cons _ _ (ne_minus_of_isDigit c hc)) hpart (by simp) (by simp) hr
  rw [Digits.ofDecimal_append, Digits.ofDecimal_append, Digits.ofDecimal_replicate_zero,
    Digits.ofDecimal_decimal, List.length_replicate] at hnumber
  simpa [Digits.ofDecimal, Digits.ofDigits, Digits.hexValue?, Nat.pow_succ, Nat.mul_assoc] using hnumber

/-- A point between the digits. -/
theorem number?_between (k : Nat) (h : d.digits ≠ 0) (hk : k ≠ 0)
    (hp : k < (Digits.decimal d.digits).length) (hr : Stops rest) :
    let ds := Digits.decimal d.digits
    number? ((if negative then ['-'] else []) ++
        (ds.take (ds.length - k) ++ '.' :: (ds.drop (ds.length - k) ++ rest))) =
      some ((Binary64.ofDecimal? negative d.digits (-(k : Int))).map Number.float, rest) := by
  intro ds
  obtain ⟨c, cs, hds, hc, hc0⟩ := Digits.decimal_eq_cons d.digits h
  have hdigit := Digits.isDigit_of_mem_decimal d.digits
  have htake : ds.take (ds.length - k) ≠ [] := by
    rw [← List.length_pos_iff, List.length_take]
    simp only [ds]
    omega
  have hdrop : ds.drop (ds.length - k) ≠ [] := by
    rw [← List.length_pos_iff, List.length_drop]
    simp only [ds]
    omega
  have hhead : (ds.take (ds.length - k)).head? = some c := by
    rw [List.head?_take, if_neg (by simp only [ds]; omega), show ds = c :: cs from hds]
    rfl
  have hnumber := number?_pointed negative rest (ds.take (ds.length - k)) (ds.drop (ds.length - k)) htake
    (by rw [hhead]; rintro _ ⟨⟩; exact ne_minus_of_isDigit c hc)
    (integerPart?_digits _ _ (fun c hc => hdigit c (List.mem_of_mem_take hc))
      (by rw [hhead]; rintro _ ⟨⟩; exact hc0) htake (stops_point _))
    (fun c hc => hdigit c (List.mem_of_mem_drop hc)) hdrop hr
  have hplaces : (0 : Int) - (ds.drop (ds.length - k)).length = -(k : Int) := by
    rw [List.length_drop]
    simp only [ds]
    omega
  rw [List.take_append_drop, Digits.ofDecimal_decimal, hplaces] at hnumber
  exact hnumber

/-- Zeros between the point and the digits. -/
theorem number?_leadingZeros (k : Nat) (hp : (Digits.decimal d.digits).length ≤ k) (hr : Stops rest) :
    let ds := Digits.decimal d.digits
    number? ((if negative then ['-'] else []) ++
        ('0' :: '.' :: (List.replicate (k - ds.length) '0' ++ ds ++ rest))) =
      some ((Binary64.ofDecimal? negative d.digits (-(k : Int))).map Number.float, rest) := by
  intro ds
  have hfraction : ∀ c ∈ List.replicate (k - ds.length) '0' ++ ds, c.isDigit = true := by
    intro c hc
    rcases List.mem_append.1 hc with hc | hc
    · rw [List.eq_of_mem_replicate hc]
      decide
    · exact Digits.isDigit_of_mem_decimal d.digits c hc
  have hnumber := number?_pointed negative rest ['0'] (List.replicate (k - ds.length) '0' ++ ds) (by simp)
    (Digits.forall_head?_cons _ _ (by decide)) (integerPart?_zero _) hfraction
    (List.append_ne_nil_of_right_ne_nil _ (Digits.decimal_ne_nil _)) hr
  have hzero : Digits.ofDecimal ['0'] = 0 := by decide
  have hplaces : (0 : Int) - (List.replicate (k - ds.length) '0' ++ ds).length = -(k : Int) := by
    rw [List.length_append, List.length_replicate]
    simp only [ds]
    omega
  rw [hplaces, Digits.ofDecimal_append, Digits.ofDecimal_append, Digits.ofDecimal_replicate_zero,
    Digits.ofDecimal_decimal, hzero, Nat.zero_mul, Nat.zero_mul, Nat.zero_add, Nat.zero_add] at hnumber
  exact hnumber

/-- Positional notation is read as a decimal of the same value. -/
theorem number?_positional (h : d.digits ≠ 0) (hr : Stops rest) :
    ∃ m e, number? ((if negative then ['-'] else []) ++ (positional d ++ rest)) =
        some ((Binary64.ofDecimal? negative m e).map Number.float, rest) ∧
      m ≠ 0 ∧ valueOf m e = valueOf d.digits d.exponent ∧ (e = d.exponent ∨ e = -1) := by
  unfold positional
  dsimp only
  by_cases he : 0 ≤ d.exponent
  · obtain ⟨k, hk⟩ := Int.eq_ofNat_of_zero_le he
    refine ⟨d.digits * 10 ^ (k + 1), -1, ?_, Nat.mul_ne_zero h (by positivity), ?_, .inr rfl⟩
    · have hnumber := number?_trailingZeros negative d rest k h hr
      rw [if_pos he, hk]
      simpa [List.append_assoc] using hnumber
    · rw [hk, ← valueOf_shift d.digits (k + 1) (k : Int)]
      congr 1
      push_cast
      ring
  · obtain ⟨k, hk⟩ : ∃ k : Nat, d.exponent = -(k : Int) := ⟨(-d.exponent).toNat, by omega⟩
    refine ⟨d.digits, d.exponent, ?_, h, rfl, .inl rfl⟩
    rw [if_neg he, show (-d.exponent).toNat = k by omega, hk]
    by_cases hp : k < (Digits.decimal d.digits).length
    · rw [if_pos hp]
      simpa [List.append_assoc] using number?_between negative d rest k h (by omega) hp hr
    · rw [if_neg hp]
      simpa [List.append_assoc] using number?_leadingZeros negative d rest k (by omega) hr

/-- Scientific notation is read as the decimal. -/
theorem number?_scientific (h : d.digits ≠ 0) (hr : Stops rest) :
    number? ((if negative then ['-'] else []) ++ (scientific d ++ rest)) =
      some ((Binary64.ofDecimal? negative d.digits d.exponent).map Number.float, rest) := by
  obtain ⟨c, cs, hds, hc, hc0⟩ := Digits.decimal_eq_cons d.digits h
  have hdigit := Digits.isDigit_of_mem_decimal d.digits
  have hvalue := Digits.ofDecimal_decimal d.digits
  have hexp := exponentPart?_signed (decide (d.leadExponent < 0)) d.leadExponent.natAbs rest hr
  have hlead : (if d.leadExponent < 0 then -(d.leadExponent.natAbs : Int)
      else d.leadExponent.natAbs) = d.leadExponent := by
    split <;> omega
  simp only [decide_eq_true_eq] at hexp
  rw [hlead] at hexp
  have hlength : d.leadExponent = d.exponent + cs.length := by
    unfold Decimal.leadExponent
    rw [hds, List.length_cons]
    omega
  have hstop : ∀ (sign : Char) (ds : List Char), ∀ c ∈ ('e' :: sign :: ds).head?,
      c.isDigit = false := fun _ _ => Digits.forall_head?_cons _ _ (by decide)
  unfold scientific
  dsimp only
  rw [hds] at hdigit hvalue ⊢
  cases cs with
  | nil =>
    -- one digit, and no fraction
    have := number?_of_parts negative _ _ _ _ _ _ _
      (Digits.forall_head?_cons _ _ (ne_minus_of_isDigit c hc))
      (integerPart?_digits [c] _ hdigit (Digits.forall_head?_cons _ _ hc0) (by simp) (hstop _ _))
      (fractionPart?_none _ (Digits.forall_head?_cons _ _ (by decide))) hexp
    rw [ofLiteral?_exponent, hvalue] at this
    simpa [hlength] using this
  | cons c' cs =>
    have hrest : ∀ x ∈ c' :: cs, x.isDigit = true := fun x hx => hdigit x (List.mem_cons_of_mem _ hx)
    have := number?_of_parts negative _ _ _ _ _ _ _
      (Digits.forall_head?_cons _ _ (ne_minus_of_isDigit c hc))
      (integerPart?_digits [c] _ (by simpa using hc) (Digits.forall_head?_cons _ _ hc0) (by simp)
        (stops_point _))
      (fractionPart?_digits (c' :: cs) _ hrest (by simp) (hstop _ _)) hexp
    have hexponent : d.leadExponent - ((c' :: cs).length : Int) = d.exponent := by
      rw [hlength, add_sub_cancel_right]
    have hall : Digits.ofDecimal ([c] ++ c' :: cs) = d.digits := hvalue
    rw [ofLiteral?_fraction, hall, Option.getD_some, hexponent] at this
    simpa [List.append_assoc] using this

end

/-- The text of a decimal is read as a decimal of the same value. -/
theorem number?_decimalText (negative : Bool) (d : Decimal) (rest : List Char) (h : d.digits ≠ 0)
    (hr : Stops rest) :
    ∃ m e, number? ((if negative then ['-'] else []) ++ (decimalText (-5) 15 d ++ rest)) =
        some ((Binary64.ofDecimal? negative m e).map Number.float, rest) ∧
      m ≠ 0 ∧ valueOf m e = valueOf d.digits d.exponent ∧ (e = d.exponent ∨ e = -1) := by
  unfold decimalText
  by_cases hp : -5 ≤ d.leadExponent ∧ d.leadExponent ≤ 15
  · rw [if_pos hp]
    exact number?_positional negative d rest h hr
  · rw [if_neg hp]
    exact ⟨_, _, number?_scientific negative d rest h hr, h, rfl, .inl rfl⟩

/-! ## Numbers -/

/-- A finite double is read back from its text, with its sign. -/
theorem number?_floatText (x : Binary64) (hx : x.Finite) (rest : List Char) (hr : Stops rest) :
    number? (floatText x ++ rest) = some (some (.float x), rest) := by
  rw [floatText, if_pos hx, doubleText, finiteText, List.append_assoc]
  by_cases hz : x.significand = 0
  · -- a zero, of either sign
    rw [if_pos (show x.isZero = true by simp [Binary64.isZero, hz])]
    have hmag : Binary64.ofDecimal? false (Digits.ofDecimal (['0'] ++ ['0'])) (0 - 1) =
        some x.magnitude := by
      have hbits := x.magnitude_toNat
      unfold Binary64.significand at hz
      simp only [Nat.pow_eq] at hz
      have : x.bits.toNat % 2 ^ 63 = 0 := by split at hz <;> omega
      rw [Binary64.magnitude, Nat.pow_eq, this]
      rfl
    have := number?_of_parts x.isNegative _ _ _ _ _ _ _ (Digits.forall_head?_cons _ _ (by decide))
      (integerPart?_zero _) (fractionPart?_digits ['0'] rest (by simp) (by simp)
        (fun c hc => (hr c hc).1)) (exponentPart?_none rest hr)
    rw [ofLiteral?_fraction, List.length_singleton, Option.getD_none, Nat.cast_one,
      x.ofDecimal?_of_magnitude _ _ hmag] at this
    exact this
  · rw [if_neg (show ¬ x.isZero = true by simp [Binary64.isZero, hz])]
    obtain ⟨hreads, hm, hl⟩ := x.reads_shortest hx hz
    obtain ⟨m, e, hnum, hm', hv, he⟩ := number?_decimalText x.isNegative (x.shortest Binary64.double) rest hm hr
    have hsame := x.reads_of_value_eq hz (x.shortest Binary64.double) ⟨m, e⟩ hreads hl hm'
      (by rcases he with rfl | rfl <;> dsimp only <;> omega) hv.symm
    rw [hnum, x.ofDecimal?_of_magnitude m e ((x.reads_iff ⟨m, e⟩).1 hsame)]
    rfl

theorem number?_signed (n : Int) (hn : Number.Integral n) (rest : List Char) (hr : Stops rest) :
    number? (Digits.signed n ++ rest) = some (some (.int n), rest) := by
  have hrd : ∀ c ∈ rest.head?, c.isDigit = false := fun c hc => (hr c hc).1
  have hpoint := fractionPart?_none rest (fun c hc => (hr c hc).2.1)
  have hvalue := Digits.ofDecimal_decimal n.natAbs
  have hsigned : Digits.signed n ++ rest =
      (if decide (n < 0) then ['-'] else []) ++ (Digits.decimal n.natAbs ++ rest) := by
    unfold Digits.signed
    by_cases h : n < 0 <;> simp [h]
  rw [hsigned]
  by_cases hz : n = 0
  · subst hz
    have hliteral : Number.ofLiteral? false ['0'] none none = some (.int 0) := by decide
    have := number?_of_parts false _ _ _ _ _ _ _ (Digits.forall_head?_cons _ _ (by decide))
      (integerPart?_zero rest)
      hpoint (exponentPart?_none rest hr)
    rw [hliteral] at this
    exact this
  · obtain ⟨c, cs, hds, hc, hc0⟩ := Digits.decimal_eq_cons n.natAbs (by omega)
    rw [number?_of_parts (decide (n < 0)) _ _ _ _ _ _ _
      (by rw [hds]; exact Digits.forall_head?_cons _ _ (ne_minus_of_isDigit c hc))
      (integerPart?_digits _ rest (Digits.isDigit_of_mem_decimal _)
        (by rw [hds]; exact Digits.forall_head?_cons _ _ hc0) (Digits.decimal_ne_nil _) hrd)
      hpoint (exponentPart?_none rest hr)]
    have hint : (if decide (n < 0) = true then -(n.natAbs : Int) else n.natAbs) = n := by
      split <;> rename_i hneg <;> simp only [decide_eq_true_eq] at hneg <;> omega
    unfold Number.ofLiteral?
    simp only [hvalue, hint]
    rw [if_pos ⟨hn, by omega⟩]

/-- The text of a number is read as the number, and what follows is left. -/
theorem number?_text (n : Number) (hn : n.Sound) (rest : List Char) (hr : Stops rest) :
    number? (n.text ++ rest) = some (some n, rest) := by
  cases n with
  | int n => exact number?_signed n hn rest hr
  | float x => exact number?_floatText x hn rest hr

end CallAudit.Json

/-!
# Double-precision numbers

A number is its IEEE 754 bit pattern. Its value is `± significand · 2^scale`, and a rational is
rounded to the nearest number with a `Format`'s precision, a tie going to the even significand. All
arithmetic is on natural numbers, so nothing depends on a machine's float unit.

* `roundHalfEven`: the quotient rounded to nearest, ties to even.
* `ofDecimal?`: the double nearest to `m · 10^e`, none when it exceeds the largest finite one.
-/
namespace CallAudit

/-- An IEEE 754 double by its bits. -/
structure Binary64 where
  bits : UInt64
  deriving DecidableEq, Repr, Inhabited

namespace Binary64

/-! ## Parts -/

def isNegative (x : Binary64) : Bool := Nat.pow 2 63 ≤ x.bits.toNat

def exponentField (x : Binary64) : Nat := x.bits.toNat / Nat.pow 2 52 % Nat.pow 2 11

def fractionField (x : Binary64) : Nat := x.bits.toNat % Nat.pow 2 52

/-- Neither an infinity nor a NaN. -/
def Finite (x : Binary64) : Prop := x.exponentField ≠ 2047

instance (x : Binary64) : Decidable x.Finite := inferInstanceAs (Decidable (_ ≠ _))

/-- The integer that is scaled by `2 ^ scale`; the hidden bit is set above the subnormals. -/
def significand (x : Binary64) : Nat :=
  if x.exponentField = 0 then x.fractionField else Nat.pow 2 52 + x.fractionField

def scale (x : Binary64) : Int :=
  if x.exponentField = 0 then -1074 else (x.exponentField : Int) - 1075

def isZero (x : Binary64) : Bool := x.significand == 0

/-- The number without its sign. -/
def magnitude (x : Binary64) : Binary64 := ⟨UInt64.ofNat (x.bits.toNat % Nat.pow 2 63)⟩

def signBits (negative : Bool) : Nat := if negative then Nat.pow 2 63 else 0

def zero (negative : Bool) : Binary64 := ⟨UInt64.ofNat (signBits negative)⟩

def infinity (negative : Bool) : Binary64 :=
  ⟨UInt64.ofNat (signBits negative + 2047 * Nat.pow 2 52)⟩

def nan : Binary64 := ⟨UInt64.ofNat (4095 * Nat.pow 2 51)⟩

/-! ## Rounding -/

/-- `num / den` rounded to the nearest natural number, a tie to the even one. -/
def roundHalfEven (num den : Nat) : Nat :=
  let q := num / den
  let r := num % den
  if 2 * r < den then q else if den < 2 * r then q + 1 else if q % 2 = 0 then q else q + 1

/-- A binary format: bits of the significand, and the least and greatest scale. -/
structure Format where
  precision : Nat
  minScale : Int
  maxScale : Int

def double : Format := ⟨53, -1074, 971⟩

def single : Format := ⟨24, -149, 104⟩

/-- The greatest `e` with `2 ^ e ≤ num / den`. -/
def floorLog2 (num den : Nat) : Int :=
  let e : Int := (Nat.log2 num : Int) - Nat.log2 den
  if den * Nat.pow 2 e.toNat ≤ num * Nat.pow 2 (-e).toNat then e else e - 1

/-- `num / den` in the format: a significand and its scale, or none beyond the greatest number. -/
def Format.round? (f : Format) (num den : Nat) : Option (Nat × Int) :=
  let s := max (floorLog2 num den - (f.precision - 1)) f.minScale
  let m := roundHalfEven (num * Nat.pow 2 (-s).toNat) (den * Nat.pow 2 s.toNat)
  let (m, s) := if Nat.pow 2 f.precision ≤ m then (m / 2, s + 1) else (m, s)
  if f.maxScale < s then none else some (m, s)

/-- `± m · 2^s`, for `m` and `s` that some format rounded to. -/
def ofParts (negative : Bool) (m : Nat) (s : Int) : Binary64 :=
  if m = 0 then zero negative
  else
    let k := min (52 - Nat.log2 m) (s + 1074).toNat
    let m := m * Nat.pow 2 k
    let s := s - k
    let magnitude :=
      if m < Nat.pow 2 52 then m else (s + 1075).toNat * Nat.pow 2 52 + (m - Nat.pow 2 52)
    ⟨UInt64.ofNat (signBits negative + magnitude)⟩

/-- The number of format `f` nearest to `± m · 10^e`, none beyond the greatest one. A magnitude
that is plainly out of range is settled without its digits. -/
def ofDecimalIn? (f : Format) (negative : Bool) (m : Nat) (e : Int) : Option Binary64 :=
  if m = 0 then some (zero negative)
  else if 400 < e then none
  else if e + Nat.log2 m + 1 < -400 then some (zero negative)
  else
    match f.round? (m * Nat.pow 10 e.toNat) (Nat.pow 10 (-e).toNat) with
    | some (m, s) => some (ofParts negative m s)
    | none => none

/-- The double nearest to `± m · 10^e`, none beyond the greatest one. -/
def ofDecimal? (negative : Bool) (m : Nat) (e : Int) : Option Binary64 :=
  ofDecimalIn? double negative m e

/-- The double nearest to an integer; an infinity beyond the greatest one. -/
def ofInt (n : Int) : Binary64 :=
  (ofDecimal? (decide (n < 0)) n.natAbs 0).getD (infinity (decide (n < 0)))

end Binary64

end CallAudit

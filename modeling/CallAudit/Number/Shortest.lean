import CallAudit.Number.Binary64
import CallAudit.Number.Digits

/-!
# The shortest decimal of a double

A finite number is written with the fewest significant digits that read back as it, in the format it
is of. For each count of digits from 1 to 17 the two decimals next to the value are tried; the first
count with a hit wins, of two hits the nearer one, of two equally near ones the even one. Seventeen
digits always suffice for a double.

* `Decimal`: digits times a power of ten.
* `Binary64.shortest`: the decimal of a finite nonzero magnitude.
-/
namespace CallAudit

/-- `digits · 10^exponent`. -/
structure Decimal where
  digits : Nat
  exponent : Int
  deriving DecidableEq, Repr

namespace Decimal

/-- Digits with no zero at the end; `fuel` bounds the zeros. -/
def trimZeros : Nat → Decimal → Decimal
  | 0, d => d
  | fuel + 1, d =>
    if d.digits ≠ 0 ∧ d.digits % 10 = 0 then trimZeros fuel ⟨d.digits / 10, d.exponent + 1⟩ else d

/-- The exponent of the first digit: the value is `d.ddd · 10^e`. -/
def leadExponent (d : Decimal) : Int := d.exponent + (Digits.decimal d.digits).length - 1

end Decimal

namespace Binary64

/-- The magnitude as a fraction. -/
def ratio (x : Binary64) : Nat × Nat :=
  (x.significand * Nat.pow 2 x.scale.toNat, Nat.pow 2 (-x.scale).toNat)

/-- Whether `10^e ≤ num / den`. -/
def tenPowLe (e : Int) (num den : Nat) : Bool :=
  den * Nat.pow 10 e.toNat ≤ num * Nat.pow 10 (-e).toNat

/-- The greatest `e` with `10^e ≤ num / den`, from the binary exponent. -/
def floorLog10 (num den : Nat) : Int :=
  let e := (floorLog2 num den * 30103) / 100000
  if tenPowLe (e + 1) num den then e + 1 else if tenPowLe e num den then e else e - 1

/-- Does `digits · 10^exponent` read as the magnitude of `x` in the format? -/
def reads (x : Binary64) (f : Format) (d : Decimal) : Bool :=
  ofDecimalIn? f false d.digits d.exponent == some x.magnitude

/-- The decimal of `n` digits that reads back as `x`, if there is one: of the two next to the
value, the nearer that does. -/
def withDigits? (x : Binary64) (f : Format) (n : Nat) : Option Decimal :=
  let (num, den) := x.ratio
  let s := floorLog10 num den - n + 1
  let num := num * Nat.pow 10 (-s).toNat
  let den := den * Nat.pow 10 s.toNat
  let c := num / den
  let r := num % den
  let below : Decimal := ⟨c, s⟩
  let above : Decimal := ⟨c + 1, s⟩
  match x.reads f below, x.reads f above with
  | true, true =>
    some (if 2 * r < den then below else if den < 2 * r then above
      else if c % 2 = 0 then below else above)
  | true, false => some below
  | false, true => some above
  | false, false => none

/-- The first hit among `n, n + 1, …`, `fuel` of them. -/
def shortestFrom (x : Binary64) (f : Format) : (fuel n : Nat) → Option Decimal
  | 0, _ => none
  | fuel + 1, n => match x.withDigits? f n with
    | some d => some d
    | none => shortestFrom x f fuel (n + 1)

/-- The shortest decimal that reads back as the magnitude of `x`. -/
def shortest (x : Binary64) (f : Format) : Decimal :=
  ((x.shortestFrom f 17 1).getD ⟨0, 0⟩).trimZeros 400

end Binary64

end CallAudit

import CallAudit.Json.Basic
import CallAudit.Number.Digits
import CallAudit.Number.Shortest

/-!
# Compact JSON text

No spaces, members in the order they have. In a string only the quote, the backslash and the bytes
below 0x20 are escaped. A double has the shortest digits that read back: positional with a fraction
while the exponent of its first digit lies in -5 … 15, in scientific form outside; a double that is
not finite is `null`. A single-precision number has fewer digits, and is positional in -6 … 12.

* `escapeChar_ge_space`: no written character lies below 0x20.
-/
namespace CallAudit.Json

/-! ## Strings -/

def hexDigit (n : Nat) : Char := if n < 10 then Char.ofNat (48 + n) else Char.ofNat (87 + n)

/-- One character between the quotes. -/
def escapeChar (c : Char) : List Char :=
  if c = '"' then ['\\', '"']
  else if c = '\\' then ['\\', '\\']
  else if c = '\x08' then ['\\', 'b']
  else if c = '\x0c' then ['\\', 'f']
  else if c = '\n' then ['\\', 'n']
  else if c = '\r' then ['\\', 'r']
  else if c = '\t' then ['\\', 't']
  else if c.toNat < 0x20 then ['\\', 'u', '0', '0', hexDigit (c.toNat / 16), hexDigit (c.toNat % 16)]
  else [c]

/-- The characters between the quotes. -/
def escape (cs : List Char) : List Char := cs.flatMap escapeChar

/-- A string in quotes. -/
def quote (s : String) : List Char := '"' :: (escape s.toList ++ ['"'])

/-! ## Numbers -/

/-- Positional notation, always with a fraction. -/
def positional (d : Decimal) : List Char :=
  let ds := Digits.decimal d.digits
  if 0 ≤ d.exponent then ds ++ List.replicate d.exponent.toNat '0' ++ ['.', '0']
  else
    let places := (-d.exponent).toNat
    if places < ds.length then ds.take (ds.length - places) ++ '.' :: ds.drop (ds.length - places)
    else '0' :: '.' :: (List.replicate (places - ds.length) '0' ++ ds)

/-- One digit, the rest as a fraction if there is a rest, and the signed exponent. -/
def scientific (d : Decimal) : List Char :=
  let ds := Digits.decimal d.digits
  let e := d.leadExponent
  let tail := ds.drop 1
  ds.take 1 ++ (if tail.isEmpty then [] else '.' :: tail)
    ++ 'e' :: (if e < 0 then '-' else '+') :: Digits.decimal e.natAbs

/-- A decimal in the notation its size asks for: positional while the exponent of its first digit is
one of these, and scientific outside. -/
def decimalText (least greatest : Int) (d : Decimal) : List Char :=
  if least ≤ d.leadExponent ∧ d.leadExponent ≤ greatest then positional d else scientific d

/-- A finite number of the format, with its sign. -/
def finiteText (f : Binary64.Format) (least greatest : Int) (x : Binary64) : List Char :=
  (if x.isNegative then ['-'] else []) ++
    (if x.isZero then "0.0".toList else decimalText least greatest (x.shortest f))

def doubleText (x : Binary64) : List Char := finiteText Binary64.double (-5) 15 x

def singleText (x : Binary64) : List Char := finiteText Binary64.single (-6) 12 x

def floatText (x : Binary64) : List Char := if x.Finite then doubleText x else "null".toList

def Number.text : Number → List Char
  | .int n => Digits.signed n
  | .float x => floatText x

/-! ## Values -/

mutual

/-- The text of a value. -/
def chars : Json → List Char
  | null => "null".toList
  | bool true => "true".toList
  | bool false => "false".toList
  | number n => n.text
  | string s => quote s
  | array [] => ['[', ']']
  | array (x :: xs) => '[' :: (chars x ++ itemsTail xs)
  | object [] => ['\x7b', '\x7d']
  | object ((k, x) :: ms) => '\x7b' :: (quote k ++ ':' :: (chars x ++ membersTail ms))

/-- What follows the first item. -/
def itemsTail : List Json → List Char
  | [] => [']']
  | x :: xs => ',' :: (chars x ++ itemsTail xs)

/-- What follows the first member. -/
def membersTail : List (String × Json) → List Char
  | [] => ['\x7d']
  | (k, x) :: ms => ',' :: (quote k ++ ':' :: (chars x ++ membersTail ms))

end

/-- The text of a value. -/
def render (v : Json) : String := String.ofList v.chars

theorem escapeChar_ge_space {c d : Char} (h : d ∈ escapeChar c) : 0x20 ≤ d.toNat := by
  have hx : ∀ n, n < 16 → 0x20 ≤ (hexDigit n).toNat := by decide
  unfold escapeChar at h
  repeat' split at h
  all_goals simp only [List.mem_cons, List.not_mem_nil, or_false] at h
  all_goals first
    | (rcases h with rfl | rfl <;> decide)
    | (subst h; omega)
    | (rcases h with rfl | rfl | rfl | rfl | rfl | rfl
       · decide
       · decide
       · decide
       · decide
       · exact hx _ (by omega)
       · exact hx _ (by omega))

end CallAudit.Json

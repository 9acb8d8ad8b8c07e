/-!
# URL-safe base64 without padding

Each symbol stands for six bits, four symbols for three bytes. A text is canonical: the bits of the
last symbol that belong to no byte are zero, and a lone last symbol is refused. A fault is reported
with its offset.

* `encode`, `decode`: the two directions.
-/
namespace CallAudit.Base64Url

/-- The symbol of six bits. -/
def symbol (n : Nat) : Char :=
  if n < 26 then Char.ofNat (65 + n)
  else if n < 52 then Char.ofNat (71 + n)
  else if n < 62 then Char.ofNat (n - 4)
  else if n = 62 then '-'
  else '_'

/-- The six bits of a symbol, by its byte. -/
def sextet? (b : UInt8) : Option Nat :=
  let n := b.toNat
  if 65 ≤ n ∧ n ≤ 90 then some (n - 65)
  else if 97 ≤ n ∧ n ≤ 122 then some (n - 71)
  else if 48 ≤ n ∧ n ≤ 57 then some (n + 4)
  else if n = 45 then some 62
  else if n = 95 then some 63
  else none

/-- The symbols of a byte string. -/
def encode : List UInt8 → List Char
  | a :: b :: c :: rest =>
    let n := (a.toNat * 256 + b.toNat) * 256 + c.toNat
    symbol (n / 262144) :: symbol (n / 4096 % 64) :: symbol (n / 64 % 64) :: symbol (n % 64)
      :: encode rest
  | [a, b] =>
    let n := a.toNat * 256 + b.toNat
    [symbol (n / 1024), symbol (n / 16 % 64), symbol (n * 4 % 64)]
  | [a] => [symbol (a.toNat / 4), symbol (a.toNat * 16 % 64)]
  | [] => []

/-- What keeps a text from being base64. -/
inductive DecodeError where
  /-- a byte outside the alphabet -/
  | invalidByte (byte : UInt8) (offset : Nat)
  /-- one symbol too many -/
  | invalidLength (length : Nat)
  /-- bits set that belong to no byte -/
  | invalidLastSymbol (byte : UInt8) (offset : Nat)
  deriving DecidableEq, Repr

def DecodeError.message : DecodeError → String
  | invalidByte b i => "Invalid symbol " ++ toString b.toNat ++ ", offset " ++ toString i ++ "."
  | invalidLength n => "Invalid input length: " ++ toString n
  | invalidLastSymbol b i =>
    "Invalid last symbol " ++ toString b.toNat ++ ", offset " ++ toString i ++ "."

/-- The first byte outside the alphabet, with its offset. -/
def foreignByte? (offset : Nat) : List UInt8 → Option (UInt8 × Nat)
  | [] => none
  | b :: bs => if (sextet? b).isSome then foreignByte? (offset + 1) bs else some (b, offset)

/-- The bytes of six-bit groups; bits past the last whole byte are dropped. -/
def pack : List Nat → List UInt8
  | a :: b :: c :: d :: rest =>
    let n := ((a * 64 + b) * 64 + c) * 64 + d
    UInt8.ofNat (n / 65536) :: UInt8.ofNat (n / 256) :: UInt8.ofNat n :: pack rest
  | [a, b, c] =>
    let n := (a * 64 + b) * 64 + c
    [UInt8.ofNat (n / 1024), UInt8.ofNat (n / 4)]
  | [a, b] => [UInt8.ofNat ((a * 64 + b) / 16)]
  | _ => []

/-- The bits of the last symbol that belong to no byte, for this many symbols. -/
def spareBits (length : Nat) : Nat := if length % 4 = 2 then 16 else if length % 4 = 3 then 4 else 1

/-- The bytes of a text. A foreign last byte of a text with a lone last symbol is reported before
anything else, then the first foreign byte, then the length, then spare bits that are set. -/
def decode (bs : List UInt8) : Except DecodeError (List UInt8) :=
  let lone := bs.length % 4 = 1
  let last := bs.length - 1
  match bs.getLast? with
  | none => .ok []
  | some b =>
    if lone ∧ sextet? b = none then .error (.invalidByte b last)
    else match foreignByte? 0 bs with
      | some (c, i) => .error (.invalidByte c i)
      | none =>
        if lone then .error (.invalidLength bs.length)
        else if ((sextet? b).getD 0) % spareBits bs.length ≠ 0 then .error (.invalidLastSymbol b last)
        else .ok (pack (bs.map (fun c => (sextet? c).getD 0)))

end CallAudit.Base64Url

import CallAudit.Json.Basic
import CallAudit.Number.Digits

/-!
# Reading JSON text

The reader takes a list of characters and gives a value with what follows it. It works in two
layers. A `Tree` is what the grammar alone says: a number beyond the range of doubles, a string with
an unpaired surrogate escape and a container nested beyond the limit are well formed, but denote
nothing (`leaf none`). `Tree.value?` is the value of a tree whose every part denotes something. The
layers differ for a reader that skips a member it does not know: it never asks what that denotes.
Numbers are read exactly, which not all readers do (see `Number.ofLiteral?`).

* `read?`: the tree of a whole text, blanks around it allowed.
* `parse?`: its value.
-/
namespace CallAudit.Json

/-- Text that matches the grammar. -/
inductive Tree where
  | leaf (v : Option Json)
  | array (items : List Tree)
  | object (members : List (Option String × Tree))

instance : Inhabited Tree := ⟨.leaf none⟩

mutual

/-- What a tree denotes, if all its parts denote something. -/
def Tree.value? : Tree → Option Json
  | .leaf v => v
  | .array xs => (Tree.values? xs).map Json.array
  | .object ms => (Tree.members? ms).map Json.object

def Tree.values? : List Tree → Option (List Json)
  | [] => some []
  | x :: xs => match x.value?, Tree.values? xs with
    | some v, some vs => some (v :: vs)
    | _, _ => none

def Tree.members? : List (Option String × Tree) → Option (List (String × Json))
  | [] => some []
  | (k, x) :: ms => match k, x.value?, Tree.members? ms with
    | some k, some v, some vs => some ((k, v) :: vs)
    | _, _, _ => none

end

/-! ## Blanks and words -/

def isBlank (c : Char) : Bool := c == ' ' || c == '\n' || c == '\t' || c == '\r'

def skipBlank (cs : List Char) : List Char := cs.dropWhile isBlank

/-- What follows the word `w`. -/
def word? : (w cs : List Char) → Option (List Char)
  | [], cs => some cs
  | _ :: _, [] => none
  | p :: ps, c :: cs => if p = c then word? ps cs else none

/-! ## Numbers -/

/-- The integer part: a lone zero, or digits that start with none. -/
def integerPart? (cs : List Char) : Option (List Char × List Char) :=
  match cs with
  | '0' :: rest => some (['0'], rest)
  | _ => match Digits.span cs with
    | ([], _) => none
    | (ds, rest) => some (ds, rest)

/-- The digits after a point; none written if there is no point. -/
def fractionPart? (cs : List Char) : Option (Option (List Char) × List Char) :=
  match cs with
  | '.' :: rest => match Digits.span rest with
    | ([], _) => none
    | (ds, rest) => some (some ds, rest)
  | _ => some (none, cs)

/-- A signed exponent; none written if there is no `e`. -/
def exponentPart? (cs : List Char) : Option (Option Int × List Char) :=
  let magnitude (negative : Bool) (cs : List Char) :=
    match Digits.span cs with
    | ([], _) => none
    | (ds, rest) =>
      let n : Int := Digits.ofDecimal ds
      some (some (if negative then -n else n), rest)
  match cs with
  | c :: rest =>
    if c = 'e' ∨ c = 'E' then
      match rest with
      | '+' :: rest => magnitude false rest
      | '-' :: rest => magnitude true rest
      | _ => magnitude false rest
    else some (none, cs)
  | [] => some (none, cs)

/-- The number that a literal denotes, none beyond the range of doubles. A minus before an integer
zero makes a double. Readers are assumed to be exact: a literal that is no integer within 64 bits is read
as the double nearest to it. A reader that trades this for speed may miss the nearest double by one, and may
refuse literals just above the greatest one. -/
def Number.ofLiteral? (negative : Bool) (whole : List Char) (fraction : Option (List Char))
    (exponent : Option Int) : Option Number :=
  let float (m : Nat) (e : Int) := (Binary64.ofDecimal? negative m e).map Number.float
  match fraction, exponent with
  | none, none =>
    let m := Digits.ofDecimal whole
    let n : Int := if negative then -(m : Int) else m
    if Number.Integral n ∧ ¬ (negative = true ∧ m = 0) then some (.int n) else float m 0
  | _, _ =>
    let fr := fraction.getD []
    float (Digits.ofDecimal (whole ++ fr)) (exponent.getD 0 - fr.length)

/-- A number literal: what it denotes, and what follows. -/
def number? (cs : List Char) : Option (Option Number × List Char) := do
  let (negative, cs) := match cs with
    | '-' :: rest => (true, rest)
    | _ => (false, cs)
  let (whole, cs) ← integerPart? cs
  let (fraction, cs) ← fractionPart? cs
  let (exponent, cs) ← exponentPart? cs
  some (Number.ofLiteral? negative whole fraction exponent, cs)

/-! ## Strings -/

/-- Four hexadecimal digits, and what follows. -/
def hex4? (cs : List Char) : Option (Nat × List Char) :=
  match cs with
  | a :: b :: c :: d :: rest => do
    let a ← Digits.hexValue? a
    let b ← Digits.hexValue? b
    let c ← Digits.hexValue? c
    let d ← Digits.hexValue? d
    some (((a * 16 + b) * 16 + c) * 16 + d, rest)
  | _ => none

/-- A written unit of a string: a character, or a UTF-16 unit from a `\u` escape. -/
inductive TextUnit where
  | char (c : Char)
  | code (n : Nat)
  deriving DecidableEq, Repr

/-- The character of a one-letter escape. -/
def simpleEscape? (c : Char) : Option Char :=
  if c = '"' then some '"'
  else if c = '\\' then some '\\'
  else if c = '/' then some '/'
  else if c = 'b' then some '\x08'
  else if c = 'f' then some '\x0c'
  else if c = 'n' then some '\n'
  else if c = 'r' then some '\r'
  else if c = 't' then some '\t'
  else none

/-- The units up to the closing quote, and what follows it. A raw character below 0x20 is no part
of a string. -/
def textUnits? : List Char → Option (List TextUnit × List Char)
  | [] => none
  | '"' :: rest => some ([], rest)
  | '\\' :: 'u' :: a :: b :: c :: d :: rest => do
    let (n, _) ← hex4? [a, b, c, d]
    let (us, rest) ← textUnits? rest
    some (.code n :: us, rest)
  | '\\' :: e :: rest => do
    let c ← simpleEscape? e
    let (us, rest) ← textUnits? rest
    some (.char c :: us, rest)
  | c :: rest =>
    if c = '\\' ∨ c.toNat < 0x20 then none
    else do
      let (us, rest) ← textUnits? rest
      some (.char c :: us, rest)

def isLead (n : Nat) : Bool := 0xD800 ≤ n && n < 0xDC00

def isTrail (n : Nat) : Bool := 0xDC00 ≤ n && n < 0xE000

/-- The characters that the units denote; none if a surrogate has no partner. -/
def decodeUnits? : List TextUnit → Option (List Char)
  | [] => some []
  | .char c :: us => (decodeUnits? us).map (c :: ·)
  | .code n :: .code m :: us =>
    if isLead n then
      if isTrail m then
        (decodeUnits? us).map (Char.ofNat (0x10000 + (n - 0xD800) * 0x400 + (m - 0xDC00)) :: ·)
      else none
    else if isTrail n then none
    else (decodeUnits? (.code m :: us)).map (Char.ofNat n :: ·)
  | .code n :: us =>
    if isLead n || isTrail n then none else (decodeUnits? us).map (Char.ofNat n :: ·)

/-- A string after its opening quote: what it denotes, and what follows. -/
def stringBody? (cs : List Char) : Option (Option String × List Char) :=
  (textUnits? cs).map (fun r => ((decodeUnits? r.1).map String.ofList, r.2))

/-! ## Values -/

/-- A container at a depth the limit allows. -/
def Tree.within (allowed : Bool) (t : Tree) : Tree := if allowed then t else .leaf none

mutual

/-- A value and what follows it. `level` more levels of containers denote something; `fuel` bounds
the characters read. -/
def tree? (fuel level : Nat) (cs : List Char) : Option (Tree × List Char) :=
  match fuel with
  | 0 => none
  | fuel + 1 =>
    match skipBlank cs with
    | [] => none
    | c :: rest =>
      if c = '"' then (stringBody? rest).map (fun r => (.leaf (r.1.map Json.string), r.2))
      else if c = '[' then
        match skipBlank rest with
        | ']' :: rest => some (Tree.within (level != 0) (.array []), rest)
        | rest => (items? fuel (level - 1) rest).map
            (fun r => (Tree.within (level != 0) (.array r.1), r.2))
      else if c = '\x7b' then
        match skipBlank rest with
        | '\x7d' :: rest => some (Tree.within (level != 0) (.object []), rest)
        | rest => (members? fuel (level - 1) rest).map
            (fun r => (Tree.within (level != 0) (.object r.1), r.2))
      else if c = 'n' then (word? "ull".toList rest).map (fun r => (.leaf (some .null), r))
      else if c = 't' then (word? "rue".toList rest).map (fun r => (.leaf (some (.bool true)), r))
      else if c = 'f' then (word? "alse".toList rest).map (fun r => (.leaf (some (.bool false)), r))
      else (number? (c :: rest)).map (fun r => (.leaf (r.1.map Json.number), r.2))

/-- Items up to the closing bracket. -/
def items? (fuel level : Nat) (cs : List Char) : Option (List Tree × List Char) :=
  match fuel with
  | 0 => none
  | fuel + 1 =>
    match tree? fuel level cs with
    | none => none
    | some (x, rest) =>
      match skipBlank rest with
      | ']' :: rest => some ([x], rest)
      | ',' :: rest => (items? fuel level rest).map (fun r => (x :: r.1, r.2))
      | _ => none

/-- Members up to the closing brace. -/
def members? (fuel level : Nat) (cs : List Char) : Option (List (Option String × Tree) × List Char) :=
  match fuel with
  | 0 => none
  | fuel + 1 =>
    match skipBlank cs with
    | '"' :: rest =>
      match stringBody? rest with
      | none => none
      | some (k, rest) =>
        match skipBlank rest with
        | ':' :: rest =>
          match tree? fuel level rest with
          | none => none
          | some (x, rest) =>
            match skipBlank rest with
            | '\x7d' :: rest => some ([(k, x)], rest)
            | ',' :: rest => (members? fuel level rest).map (fun r => ((k, x) :: r.1, r.2))
            | _ => none
        | _ => none
    | _ => none

end

/-- The levels of nesting that a text may have. -/
def maxDepth : Nat := 127

/-- The tree of a whole text. -/
def read? (s : String) : Option Tree :=
  let cs := s.toList
  match tree? (2 * cs.length + 2) maxDepth cs with
  | some (t, rest) => if (skipBlank rest).isEmpty then some t else none
  | none => none

/-- The value of a whole text. -/
def parse? (s : String) : Option Json := (read? s).bind Tree.value?

end CallAudit.Json

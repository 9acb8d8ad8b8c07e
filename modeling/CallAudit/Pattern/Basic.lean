import CallAudit.Pattern.CharSet

/-!
# Patterns

Regular expressions over characters, and the search for a match anywhere in a text. A pattern is run on
a whole set of places at once: from the places where a match may start it gives the places where it
may end. Sets of places are written as the bits of a number.

* `Regular.ends`: where matches end, from where they start.
* `Pattern.isMatch`: does the pattern match somewhere in a text?
-/
namespace CallAudit

/-- What a pattern may ask of a place between characters. -/
inductive Pattern.Place where
  | textStart
  | textEnd
  | lineStart (carriageReturns : Bool)
  | lineEnd (carriageReturns : Bool)
  | wordBoundary (letters : CharSet)
  | notWordBoundary (letters : CharSet)
  | wordStart (letters : CharSet)
  | wordEnd (letters : CharSet)
  | wordStartHalf (letters : CharSet)
  | wordEndHalf (letters : CharSet)
  deriving Repr

/-- A regular expression over tests `χ` of one character and tests `π` of a place. -/
inductive Pattern.Regular (χ π : Type) where
  | empty
  | one (test : χ)
  | at (test : π)
  | sequence (parts : List (Pattern.Regular χ π))
  | choice (branches : List (Pattern.Regular χ π))
  | group (inner : Pattern.Regular χ π)
  /-- at least `least` times, and at most `most` times if there is a bound -/
  | repeated (inner : Pattern.Regular χ π) (least : Nat) (most : Option Nat)
  deriving Repr

/-- A regular expression over sets of characters and kinds of places. -/
abbrev Pattern := Pattern.Regular CharSet Pattern.Place

namespace Pattern

/-! ## Places -/

/-- What a place has to satisfy, by the characters before and after it. -/
def Place.holds (place : Place) (before after : Option Char) : Bool :=
  match place with
  | textStart => before.isNone
  | textEnd => after.isNone
  | lineStart cr => before.all (fun c => c == '\n' || (cr && c == '\r' && after != some '\n'))
  | lineEnd cr => after.all (fun c =>
      (c == '\n' && !(cr && before == some '\r')) || (cr && c == '\r'))
  | wordBoundary letters => before.any letters.contains != after.any letters.contains
  | notWordBoundary letters => before.any letters.contains == after.any letters.contains
  | wordStart letters => !before.any letters.contains && after.any letters.contains
  | wordEnd letters => before.any letters.contains && !after.any letters.contains
  | wordStartHalf letters => !before.any letters.contains
  | wordEndHalf letters => !after.any letters.contains

/-! ## Sets of places -/

/-- The numbers from `i` on whose flags are set, as bits. -/
def bits (i : Nat) : List Bool → Nat
  | [] => 0
  | b :: bs => (if b then 1 <<< i else 0) ||| bits (i + 1) bs

/-- The places before characters of a set. -/
def charBits (text : List Char) (set : CharSet) : Nat := bits 0 (text.map set.contains)

/-- For each place of the text whether it holds, given the character before the first. -/
def placeFlags (place : Place) (before : Option Char) : List Char → List Bool
  | [] => [place.holds before none]
  | c :: text => place.holds before (some c) :: placeFlags place (some c) text

/-! ## Matching -/

/-- `f` applied `n` times; it stops where `f` changes nothing. -/
def iterate (f : Nat → Nat) : Nat → Nat → Nat
  | 0, s => s
  | n + 1, s =>
    let next := f s
    if next = s then s else iterate f n next

/-- What `f` reaches from `s` in at most `n` steps. -/
def closure (f : Nat → Nat) (n s : Nat) : Nat := iterate (fun reached => reached ||| f reached) n s

namespace Regular

variable {χ π χ' π' : Type}

mutual

/-- The expression over other tests. -/
def map (f : χ → χ') (g : π → π') : Regular χ π → Regular χ' π'
  | empty => empty
  | one test => one (f test)
  | .at test => .at (g test)
  | sequence parts => sequence (mapAll f g parts)
  | choice branches => choice (mapAll f g branches)
  | group inner => group (map f g inner)
  | repeated inner least most => repeated (map f g inner) least most

def mapAll (f : χ → χ') (g : π → π') : List (Regular χ π) → List (Regular χ' π')
  | [] => []
  | p :: ps => map f g p :: mapAll f g ps

end

mutual

/-- The places where matches end that start at the places `s`, in a text of `length` characters. A
test is the set of the places where it holds. -/
def ends (length : Nat) : Regular Nat Nat → (s : Nat) → Nat
  | empty, s => s
  | one test, s => (s &&& test) <<< 1
  | .at test, s => s &&& test
  | sequence parts, s => endsAll length parts s
  | choice branches, s => endsAny length branches s
  | group inner, s => ends length inner s
  | repeated inner least most, s =>
    let step := ends length inner
    closure step ((most.map (· - least)).getD (length + 1)) (iterate step least s)

def endsAll (length : Nat) : List (Regular Nat Nat) → Nat → Nat
  | [], s => s
  | p :: ps, s => endsAll length ps (ends length p s)

def endsAny (length : Nat) : List (Regular Nat Nat) → Nat → Nat
  | [], _ => 0
  | p :: ps, s => ends length p s ||| endsAny length ps s

end

end Regular

/-- The pattern with each test as the set of the places of a text where it holds. -/
def onText (text : List Char) (p : Pattern) : Regular Nat Nat :=
  p.map (charBits text) (fun place => bits 0 (placeFlags place none text))

/-- Does the pattern match somewhere in the text? -/
def isMatch (p : Pattern) (text : String) : Bool :=
  let cs := text.toList
  (onText cs p).ends cs.length (1 <<< (cs.length + 1) - 1) != 0

/-! ## Size -/

mutual

/-- How deeply the parts of a pattern nest. -/
def nesting : Regular CharSet Place → Nat
  | .empty => 0
  | .one _ => 0
  | .at _ => 0
  | .sequence parts => nestingMax parts + 1
  | .choice branches => nestingMax branches + 1
  | .group inner => nesting inner + 1
  | .repeated inner _ _ => nesting inner + 1

def nestingMax : List (Regular CharSet Place) → Nat
  | [] => 0
  | p :: ps => max (nesting p) (nestingMax ps)

end

/-- An estimate of the bytes that it takes to recognise a character of a set. Other engines will come to other
numbers, so nothing is proved about it. -/
def setSize : CharSet → Nat
  | .none => 32
  | .range first last => if last.toNat < 0x80 then 40 else if first = last then 32 * first.utf8Size else 200
  | .categories _ | .script _ | .alphabetic | .lowercase | .uppercase => 20000
  | .word => 45500
  | .blank => 500
  | .union a b | .inter a b | .difference a b | .symmetricDifference a b => setSize a + setSize b - 32
  | .complement a => setSize a + 300
  | .anyCase a => 2 * setSize a

mutual

/-- An estimate of the bytes that it takes to recognise a pattern. -/
def size : Regular CharSet Place → Nat
  | .empty => 32
  | .one set => setSize set
  | .at _ => 32
  | .sequence parts => sizeSum parts
  | .choice branches => sizeSum branches + 32
  | .group inner => size inner + 64
  | .repeated inner least most =>
    size inner * least +
      (match most with
        | some n => (size inner + 40) * (n - least)
        | none => size inner + 40)

def sizeSum : List (Regular CharSet Place) → Nat
  | [] => 0
  | p :: ps => size p + sizeSum ps

end

/-- The deepest nesting that is accepted. -/
def nestingLimit : Nat := 250

/-- The bytes that the recognition of a pattern may take. -/
def sizeLimit : Nat := 10 * 1024 * 1024

end Pattern

end CallAudit

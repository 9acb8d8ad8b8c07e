import CallAudit.Number.Digits
import CallAudit.Pattern.Basic
import CallAudit.Pattern.Engine

/-!
# The syntax of patterns

Patterns are written in the usual syntax of regular expressions with Unicode classes, without
look-around and back-references. Flags in parentheses hold to the end of the group they stand in.

* `Pattern.read?`: the pattern that a text denotes.
* `Pattern.engine`: these patterns as an engine, the one that programs run with.
-/
namespace CallAudit.Pattern

open Regular

/-! ## Flags -/

/-- How what follows is to be read. -/
structure Flags where
  ignoreCase : Bool := false
  multiLine : Bool := false
  dotAll : Bool := false
  /-- a carriage return ends lines too -/
  carriageReturns : Bool := false
  /-- blanks and comments count nothing -/
  extended : Bool := false
  unicode : Bool := true

/-- The flags with one of them set. -/
def Flags.set? (f : Flags) (name : Char) (on : Bool) : Option Flags :=
  match name with
  | 'i' => some { f with ignoreCase := on }
  | 'm' => some { f with multiLine := on }
  | 's' => some { f with dotAll := on }
  | 'R' => some { f with carriageReturns := on }
  | 'x' => some { f with extended := on }
  | 'u' => some { f with unicode := on }
  | 'U' => some f
  | _ => none

/-- Reads the flags of a group up to the sign that ends them: the flags, the signs read so far from
the last to the first, and the rest with the ending sign. -/
def readFlags (f : Flags) (seen : List Char) (on : Bool) :
    List Char → Option (Flags × List Char × List Char)
  | [] => none
  | c :: cs =>
    if c = ':' ∨ c = ')' then
      if seen.head? = some '-' then none else some (f, seen, c :: cs)
    else if seen.contains c then none
    else if c = '-' then readFlags f (c :: seen) false cs
    else match f.set? c on with
      | some f => readFlags f (c :: seen) on cs
      | none => none

/-- A set under the flag for case. -/
def Flags.cased (f : Flags) (s : CharSet) : CharSet :=
  if !f.ignoreCase then s
  else if f.unicode then .anyCase s
  else .inter (.anyCase s) (.range '\x00' '\x7f')

/-! ## Blanks -/

/-- Skips blanks and comments. -/
def skipBlanks (inComment : Bool) : List Char → List Char
  | [] => []
  | c :: cs =>
    if inComment then skipBlanks (c != '\n') cs
    else if Blank.isBlank c then skipBlanks false cs
    else if c = '#' then skipBlanks true cs
    else c :: cs

/-- Skips blanks and comments where they count nothing. -/
def Flags.skip (f : Flags) (cs : List Char) : List Char :=
  if f.extended then skipBlanks false cs else cs

/-! ## Escapes -/

/-- What a single sign or an escape stands for. -/
inductive Atom where
  /-- a character, and whether it was given as a byte -/
  | char (c : Char) (asByte : Bool)
  | set (s : CharSet)
  | place (p : Place)

/-- Hexadecimal digits, at most `n`, with blanks between them skipped where they count nothing. -/
def readHex (f : Flags) : (n : Nat) → List Char → List Char × List Char
  | 0, cs => ([], cs)
  | n + 1, cs =>
    match f.skip cs with
    | c :: rest =>
      if (Digits.hexValue? c).isSome then
        let more := readHex f n rest
        (c :: more.1, more.2)
      else ([], c :: rest)
    | [] => ([], [])

/-- The character of a code point. -/
def charOf? (n : Nat) : Option Char := if n.isValidChar then some (Char.ofNat n) else none

/-- A character by its code point: in braces, or in exactly `width` digits. -/
def readCodePoint (f : Flags) (width : Nat) (cs : List Char) : Option (Char × List Char) :=
  match f.skip cs with
  | '\x7b' :: rest =>
    match readHex f rest.length rest with
    | ([], _) => none
    | (ds, rest) =>
      match f.skip rest with
      | '\x7d' :: rest => (charOf? (Digits.ofDigits 16 ds)).map (fun c => (c, rest))
      | _ => none
  | cs =>
    let (ds, rest) := readHex f width cs
    if ds.length = width then (charOf? (Digits.ofDigits 16 ds)).map (fun c => (c, f.skip rest)) else none

/-- The text before and after the first place where `mark` stands. -/
def splitAt? (mark : List Char) : List Char → Option (List Char × List Char)
  | [] => none
  | c :: cs =>
    if mark.isPrefixOf (c :: cs) then some ([], (c :: cs).drop mark.length)
    else (splitAt? mark cs).map (fun r => (c :: r.1, r.2))

/-- The set that the text in the braces of a property names. -/
def propertySet? (name : List Char) : Option CharSet :=
  match splitAt? ['!', '='] name with
  | some (key, value) => (CharSet.ofPropertyValue? key value).map .complement
  | none =>
    match (splitAt? [':'] name).orElse (fun _ => splitAt? ['='] name) with
    | some (key, value) => CharSet.ofPropertyValue? key value
    | none => CharSet.ofProperty? name

/-- A Unicode property after its letter. -/
def readProperty (f : Flags) (negated : Bool) (cs : List Char) : Option (CharSet × List Char) :=
  if !f.unicode then none
  else
    let found := match f.skip cs with
      | '\x7b' :: rest =>
        let name := if f.extended then rest.filter (fun c => !Blank.isBlank c) else rest
        match splitAt? ['\x7d'] rest, splitAt? ['\x7d'] name with
        | some (_, rest), some (name, _) => (propertySet? name).map (fun s => (s, rest))
        | _, _ => none
      | '\\' :: _ => none
      | c :: rest => (CharSet.ofProperty? [c]).map (fun s => (s, f.skip rest))
      | [] => none
    found.map (fun (s, rest) => (if negated then .complement (f.cased s) else f.cased s, rest))

/-- The set of one of the letters for digits, blanks and words. -/
def Flags.letterSet? (f : Flags) (letter : Char) : Option CharSet :=
  let positive := match letter.toLower with
    | 'd' => some (if f.unicode then CharSet.digit else CharSet.asciiDigit)
    | 's' => some (if f.unicode then CharSet.blank else CharSet.asciiBlank)
    | 'w' => some (if f.unicode then CharSet.word else CharSet.asciiWord)
    | _ => none
  match positive with
  | some s => if letter.isLower then some s else if f.unicode then some (.complement s) else none
  | none => none

/-- The letters of words under the flag for Unicode. -/
def Flags.words (f : Flags) : CharSet := if f.unicode then .word else CharSet.asciiWord

/-- A named word boundary in braces. None if what follows is no name; `some none` if it is a wrong one. -/
def readBoundaryName (f : Flags) (cs : List Char) : Option (Option (Place × List Char)) :=
  let isNameChar := fun (c : Char) => c.isAlpha || c == '-'
  match cs with
  | '\x7b' :: rest =>
    match f.skip rest with
    | [] => some none
    | c :: rest =>
      if !isNameChar c then none
      else
        let text := if f.extended then (c :: rest).filter (fun c => !Blank.isBlank c) else c :: rest
        let name := String.ofList (text.takeWhile isNameChar)
        let place := match name with
          | "start" => some (Place.wordStart f.words)
          | "end" => some (Place.wordEnd f.words)
          | "start-half" => some (Place.wordStartHalf f.words)
          | "end-half" => some (Place.wordEndHalf f.words)
          | _ => none
        match place, text.dropWhile isNameChar, splitAt? ['\x7d'] rest with
        | some p, '\x7d' :: _, some (_, rest) => some (some (p, rest))
        | _, _, _ => some none
  | _ => none

/-- The character of an escape of one letter. -/
def letterChar? : Char → Option Char
  | 'a' => some '\x07'
  | 'f' => some '\x0c'
  | 't' => some '\t'
  | 'n' => some '\n'
  | 'r' => some '\x0d'
  | 'v' => some '\x0b'
  | _ => none

/-- What stands after a backslash. -/
def readEscape (f : Flags) : List Char → Option (Atom × List Char)
  | [] => none
  | c :: cs =>
    if c.isDigit then none
    else if c = 'x' then (readCodePoint f 2 cs).map (fun r =>
      (.char r.1 ((f.skip cs).head? != some '\x7b'), r.2))
    else if c = 'u' then (readCodePoint f 4 cs).map (fun r => (.char r.1 false, r.2))
    else if c = 'U' then (readCodePoint f 8 cs).map (fun r => (.char r.1 false, r.2))
    else if c = 'p' ∨ c = 'P' then
      (readProperty f (c == 'P') cs).map (fun r => (.set r.1, r.2))
    else if "dswDSW".toList.contains c then (f.letterSet? c).map (fun s => (.set s, cs))
    else if c = 'A' then some (.place .textStart, cs)
    else if c = 'z' then some (.place .textEnd, cs)
    else if c = 'b' then
      match readBoundaryName f cs with
      | some r => r.map (fun r => (.place r.1, r.2))
      | none => some (.place (.wordBoundary f.words), cs)
    else if c = 'B' then some (.place (.notWordBoundary f.words), cs)
    else if c = '<' then some (.place (.wordStart f.words), cs)
    else if c = '>' then some (.place (.wordEnd f.words), cs)
    else match letterChar? c with
      | some d => some (.char d false, cs)
      | none => if c.toNat < 0x80 && !c.isAlphanum then some (.char c false, cs) else none

/-- May the character stand in a pattern that is matched against text? -/
def Flags.allows (f : Flags) (c : Char) (asByte : Bool) : Bool :=
  f.unicode || !asByte || c.toNat < 0x80

/-- The set of a character under the flags. -/
def Flags.charSet (f : Flags) (c : Char) : CharSet :=
  if !f.unicode && 0x80 ≤ c.toNat then .single c else f.cased (.single c)

/-- The pattern of an atom. -/
def Atom.pattern? (f : Flags) : Atom → Option Pattern
  | .char c asByte => if f.allows c asByte then some (.one (f.charSet c)) else none
  | .set s => some (.one s)
  | .place p => some (.at p)

/-! ## Classes in brackets -/

/-- The operations between the parts of a class. -/
inductive SetOperation where
  | inter
  | difference
  | symmetricDifference

/-- What stands left of an operation in a class, if anything, applied to what stands right. -/
def applyOperation (f : Flags) (left : Option (SetOperation × CharSet)) (right : CharSet) : CharSet :=
  match left with
  | none => right
  | some (.inter, l) => .inter (f.cased l) (f.cased right)
  | some (.difference, l) => .difference (f.cased l) (f.cased right)
  | some (.symmetricDifference, l) => .symmetricDifference (f.cased l) (f.cased right)

/-- A class whose sign for negation has been read. None where what it holds could match half a
character. -/
def closeClass (f : Flags) (negated : Bool) (s : CharSet) : Option CharSet :=
  if negated then if f.unicode then some (.complement (f.cased s)) else none else some (f.cased s)

/-- Dashes at the start of a class are characters. -/
def leadingDashes (f : Flags) : (fuel : Nat) → List Char → List CharSet × List Char
  | fuel + 1, '-' :: cs =>
    let more := leadingDashes f fuel (f.skip cs)
    (.single '-' :: more.1, more.2)
  | _, cs => ([], cs)

/-- The start of a class after its bracket: is it negated, what it holds already, and the rest. -/
def openClass (f : Flags) (cs : List Char) : Bool × List CharSet × List Char :=
  let cs := f.skip cs
  let (negated, cs) := match cs with
    | '^' :: cs => (true, f.skip cs)
    | cs => (false, cs)
  match leadingDashes f cs.length cs with
  | ([], ']' :: cs) => (negated, [.single ']'], cs)
  | (items, cs) => (negated, items, cs)

/-- An ASCII class in brackets and colons, after its first bracket. -/
def asciiClass? (f : Flags) : List Char → Option (CharSet × List Char)
  | ':' :: cs =>
    let (negated, cs) := match cs with
      | '^' :: cs => (true, cs)
      | cs => (false, cs)
    match cs.dropWhile (· != ':') with
    | ':' :: ']' :: rest =>
      (CharSet.ofAsciiName? (String.ofList (cs.takeWhile (· != ':')))).map (fun s =>
        (if negated then .complement (f.cased s) else f.cased s, rest))
    | _ => none
  | _ => none

/-- A character or an escape in a class. -/
def readMember (f : Flags) : List Char → Option (Atom × List Char)
  | [] => none
  | '\\' :: cs => readEscape f cs
  | c :: cs => some (.char c false, cs)

/-- A member of a class as a set. -/
def Atom.memberSet? (f : Flags) : Atom → Option CharSet
  | .char c _ => if f.unicode || c.toNat < 0x80 then some (.single c) else none
  | .set s => some s
  | .place _ => none

/-- A character, a set or a range in a class. -/
def readRange (f : Flags) (cs : List Char) : Option (CharSet × List Char) :=
  match readMember f cs with
  | none => none
  | some (first, rest) =>
    let single := (first.memberSet? f).map (fun s => (s, f.skip rest))
    match f.skip rest with
    | [] => none
    | '-' :: rest =>
      match f.skip rest with
      | [] => none
      | ']' :: _ => single
      | '-' :: _ => single
      | rest =>
        match readMember f rest, first with
        | some (.char d _, rest), .char c _ =>
          if c ≤ d && (f.unicode || d.toNat < 0x80) then some (.range c d, rest) else none
        | _, _ => none
    | _ => single

/-- The rest of a class: its set without negation, and what follows the closing bracket. -/
def readClass (f : Flags) : (fuel : Nat) → (left : Option (SetOperation × CharSet)) →
    (items : List CharSet) → List Char → Option (CharSet × List Char)
  | 0, _, _, _ => none
  | fuel + 1, left, items, cs =>
    let soFar := fun (_ : Unit) => applyOperation f left (.unionAll items)
    match f.skip cs with
    | [] => none
    | ']' :: rest => some (soFar (), rest)
    | '[' :: rest =>
      match asciiClass? f rest with
      | some (s, rest) => readClass f fuel left (s :: items) rest
      | none =>
        let (negated, inner, rest) := openClass f rest
        match readClass f fuel none inner rest with
        | none => none
        | some (s, rest) =>
          match closeClass f negated s with
          | some s => readClass f fuel left (s :: items) rest
          | none => none
    | '&' :: '&' :: rest => readClass f fuel (some (.inter, soFar ())) [] rest
    | '-' :: '-' :: rest => readClass f fuel (some (.difference, soFar ())) [] rest
    | '~' :: '~' :: rest => readClass f fuel (some (.symmetricDifference, soFar ())) [] rest
    | cs =>
      match readRange f cs with
      | some (s, rest) => readClass f fuel left (s :: items) rest
      | none => none

/-- A class after its opening bracket. -/
def readBracketed (f : Flags) (cs : List Char) : Option (CharSet × List Char) :=
  let (negated, items, rest) := openClass f cs
  match readClass f (cs.length + 1) none items rest with
  | some (s, rest) => (closeClass f negated s).map (fun s => (s, rest))
  | none => none

/-! ## Repetition -/

/-- A number between blanks, none if there are no digits. -/
def readNumber (cs : List Char) : Option Nat × List Char :=
  let (ds, rest) := (cs.dropWhile Blank.isBlank).span Char.isDigit
  let n := Digits.ofDecimal ds
  (if ds.isEmpty || UInt32.size ≤ n then none else some n, rest.dropWhile Blank.isBlank)

/-- A question mark after a repetition asks for short matches first, which is nothing to a search. -/
def skipLazy : List Char → List Char
  | '?' :: cs => cs
  | cs => cs

/-- A counted repetition after its opening brace: its bounds, and the rest. -/
def readCount (f : Flags) (cs : List Char) : Option (Nat × Option Nat × List Char) :=
  let finish := fun (least : Nat) (most : Option Nat) (rest : List Char) =>
    match rest with
    | '\x7d' :: rest =>
      if most.all (least ≤ ·) then some (least, most, skipLazy (f.skip rest)) else none
    | _ => none
  match readNumber (f.skip cs) with
  | (none, _) => none
  | (some least, ',' :: rest) =>
    match f.skip rest with
    | '\x7d' :: rest => finish least none ('\x7d' :: rest)
    | rest =>
      match readNumber rest with
      | (some most, rest) => finish least (some most) rest
      | (none, _) => none
  | (some least, rest) => finish least (some least) rest

/-! ## Groups -/

/-- The flags in force, and the names of the groups so far. -/
structure Scope where
  flags : Flags := {}
  names : List (List Char) := []

/-- What an opening parenthesis starts. -/
inductive Opened where
  /-- a group, with the scope inside it -/
  | group (inner : Scope) (rest : List Char)
  /-- no group but flags for what follows -/
  | flags (scope : Scope) (rest : List Char)

/-- The name of a group up to its closing bracket. -/
def readGroupName (cs : List Char) : Option (List Char × List Char) :=
  let name := cs.takeWhile (· != '>')
  let isNameChar := fun (c : Char) => "_.[]".toList.contains c || Text.isAlphanumeric c
  match name, cs.dropWhile (· != '>') with
  | c :: more, _ :: rest =>
    if (c == '_' || Text.isAlphabetic c) && more.all isNameChar then some (c :: more, rest) else none
  | _, _ => none

/-- A named group. -/
def openNamed (s : Scope) (cs : List Char) : Option Opened :=
  match readGroupName cs with
  | some (name, rest) =>
    if s.names.contains name then none else some (.group { s with names := name :: s.names } rest)
  | none => none

/-- What stands after an opening parenthesis. -/
def openGroup (s : Scope) (cs : List Char) : Option Opened :=
  match s.flags.skip cs with
  | '?' :: '=' :: _ => none
  | '?' :: '!' :: _ => none
  | '?' :: '<' :: '=' :: _ => none
  | '?' :: '<' :: '!' :: _ => none
  | '?' :: 'P' :: '<' :: rest => openNamed s rest
  | '?' :: '<' :: rest => openNamed s rest
  | '?' :: rest =>
    match readFlags s.flags [] true rest with
    | some (flags, _, ':' :: rest) => some (.group { s with flags } rest)
    | some (flags, _ :: _, _ :: rest) => some (.flags { s with flags } rest)
    | _ => none
  | rest => some (.group s rest)

/-! ## The whole -/

/-- A part of a sequence; flags among the parts cannot be repeated. -/
inductive Item where
  | part (p : Pattern)
  | flags

/-- The pattern of the parts of a sequence, the last first. -/
def joinItems (items : List Item) : Pattern :=
  match items.reverse.filterMap (fun i => match i with | .part p => some p | .flags => none) with
  | [] => .empty
  | [p] => p
  | ps => .sequence ps

/-- The pattern of alternatives, the last first. -/
def joinBranches (branches : List Pattern) : Pattern :=
  match branches.reverse with
  | [p] => p
  | ps => .choice ps

/-- A repetition of the last part. -/
def repeatLast (items : List Item) (least : Nat) (most : Option Nat) : Option (List Item) :=
  match items with
  | .part p :: items => some (.part (.repeated p least most) :: items)
  | _ => none

/-- The bounds of a repetition that a sign asks for, and what follows it. -/
def readRepetition (f : Flags) (sign : Char) (cs : List Char) : Option (Nat × Option Nat × List Char) :=
  match sign with
  | '?' => some (0, some 1, skipLazy cs)
  | '*' => some (0, none, skipLazy cs)
  | '+' => some (1, none, skipLazy cs)
  | _ => readCount f cs

/-- A part that is neither a group nor a repetition. -/
def readPart (f : Flags) (c : Char) (cs : List Char) : Option (Pattern × List Char) :=
  match c with
  | '[' => (readBracketed f cs).map (fun r => (.one r.1, r.2))
  | '\\' => (readEscape f cs).bind (fun r => (r.1.pattern? f).map (fun p => (p, r.2)))
  | '.' =>
    if !f.unicode then none
    else if f.dotAll then some (.one .all, cs)
    else if f.carriageReturns then
      some (.one (.complement (.union (.single '\n') (.single '\x0d'))), cs)
    else some (.one (.complement (.single '\n')), cs)
  | '^' => some (.at (if f.multiLine then .lineStart f.carriageReturns else .textStart), cs)
  | '$' => some (.at (if f.multiLine then .lineEnd f.carriageReturns else .textEnd), cs)
  | c => some (.one (f.charSet c), cs)

/-- Reads alternatives up to a closing parenthesis or the end. `done` are the alternatives before, and
`items` the parts of this one so far, the last first. -/
def readBranches : (fuel : Nat) → Scope → (done : List Pattern) → (items : List Item) →
    List Char → Option (Pattern × Scope × List Char)
  | 0, _, _, _, _ => none
  | fuel + 1, s, done, items, cs =>
    match s.flags.skip cs with
    | [] => some (joinBranches (joinItems items :: done), s, [])
    | ')' :: rest => some (joinBranches (joinItems items :: done), s, ')' :: rest)
    | '|' :: rest => readBranches fuel s (joinItems items :: done) [] rest
    | '(' :: rest =>
      match openGroup s rest with
      | none => none
      | some (.flags s rest) => readBranches fuel s done (.flags :: items) rest
      | some (.group inner rest) =>
        match readBranches fuel inner [] [] rest with
        | some (p, left, ')' :: rest) =>
          readBranches fuel { s with names := left.names } done (.part (.group p) :: items) rest
        | _ => none
    | c :: rest =>
      if c = '?' ∨ c = '*' ∨ c = '+' ∨ c = '\x7b' then
        match readRepetition s.flags c rest with
        | none => none
        | some (least, most, rest) =>
          match repeatLast items least most with
          | some items => readBranches fuel s done items rest
          | none => none
      else
        match readPart s.flags c rest with
        | some (p, rest) => readBranches fuel s done (.part p :: items) rest
        | none => none

/-- The pattern that a text denotes, if it is written by the rules and not too large. -/
def read? (text : String) : Option Pattern :=
  match readBranches (text.length + 1) {} [] [] text.toList with
  | some (p, _, []) => if nesting p ≤ nestingLimit ∧ size p ≤ sizeLimit then some p else none
  | _ => none

/-- Reads a text as a pattern and searches for it. -/
instance engine : PatternEngine where
  compile? text := (read? text).map isMatch

end CallAudit.Pattern

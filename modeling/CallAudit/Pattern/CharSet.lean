import CallAudit.Text.Alphabet
import CallAudit.Text.Blank
import CallAudit.Text.CaseFold
import CallAudit.Text.Script

/-!
# Sets of characters

The sets that patterns name: ranges, Unicode properties, and what set operations make of them.

* `CharSet.contains`: the members.
* `CharSet.ofProperty?`: the set of a property by its name.
-/
namespace CallAudit

/-- A set of characters. -/
inductive CharSet where
  | none
  | range (first last : Char)
  | categories (gs : List Text.Category)
  | script (code : String)
  | alphabetic
  | lowercase
  | uppercase
  | word
  | blank
  | union (a b : CharSet)
  | inter (a b : CharSet)
  | difference (a b : CharSet)
  | symmetricDifference (a b : CharSet)
  | complement (a : CharSet)
  /-- the characters that differ from one of `a` at most in case -/
  | anyCase (a : CharSet)
  deriving Repr

namespace CharSet

def contains : CharSet → Char → Bool
  | none, _ => false
  | range first last, c => first ≤ c && c ≤ last
  | categories gs, c => gs.contains (Text.Category.of c)
  | script code, c => Text.Script.of c == code
  | alphabetic, c => Text.isAlphabetic c
  | lowercase, c => Text.isLowercase c
  | uppercase, c => Text.isUppercase c
  | word, c => Text.isWord c
  | blank, c => Blank.isBlank c
  | union a b, c => a.contains c || b.contains c
  | inter a b, c => a.contains c && b.contains c
  | difference a b, c => a.contains c && !b.contains c
  | symmetricDifference a b, c => a.contains c != b.contains c
  | complement a, c => !a.contains c
  | anyCase a, c => a.contains c || (Text.CaseFold.variants c).any a.contains

def single (c : Char) : CharSet := range c c

def unionAll : List CharSet → CharSet
  | [] => none
  | [a] => a
  | a :: b :: sets => union a (unionAll (b :: sets))

def ofRanges (rs : List (Char × Char)) : CharSet := unionAll (rs.map (fun r => range r.1 r.2))

def all : CharSet := complement none

def digit : CharSet := categories [.nd]

/-! ## ASCII classes -/

def asciiDigit : CharSet := range '0' '9'

def asciiAlpha : CharSet := ofRanges [('A', 'Z'), ('a', 'z')]

def asciiWord : CharSet := union asciiAlpha (union asciiDigit (single '_'))

def asciiBlank : CharSet := ofRanges [('\t', '\x0d'), (' ', ' ')]

/-- The ASCII class of a name in brackets and colons. -/
def ofAsciiName? : String → Option CharSet
  | "alnum" => some (union asciiAlpha asciiDigit)
  | "alpha" => some asciiAlpha
  | "ascii" => some (range '\x00' '\x7f')
  | "blank" => some (ofRanges [('\t', '\t'), (' ', ' ')])
  | "cntrl" => some (ofRanges [('\x00', '\x1f'), ('\x7f', '\x7f')])
  | "digit" => some asciiDigit
  | "graph" => some (range '!' '~')
  | "lower" => some (range 'a' 'z')
  | "print" => some (range ' ' '~')
  | "punct" => some (ofRanges [('!', '/'), (':', '@'), ('[', '\x60'), ('\x7b', '~')])
  | "space" => some asciiBlank
  | "upper" => some (range 'A' 'Z')
  | "word" => some asciiWord
  | "xdigit" => some (ofRanges [('0', '9'), ('A', 'F'), ('a', 'f')])
  | _ => Option.none

/-! ## Unicode properties -/

/-- The groups of categories and their names. -/
def groups : List (List String × List Text.Category) :=
  [(["l", "letter"], [.lu, .ll, .lt, .lm, .lo]), (["lc", "casedletter"], [.lu, .ll, .lt]),
    (["m", "mark", "combiningmark"], [.mn, .mc, .me]), (["n", "number"], [.nd, .nl, .no]),
    (["p", "punctuation", "punct"], [.pc, .pd, .ps, .pe, .pi, .pf, .po]),
    (["s", "symbol"], [.sm, .sc, .sk, .so]), (["z", "separator"], [.zs, .zl, .zp]),
    (["c", "other"], [.cc, .cf, .cs, .co, .cn]), (["digit"], [.nd]), (["cntrl"], [.cc])]

/-- The spelling in which names of properties are compared: letters and digits in lower case, without
an `is` in front. -/
def looseName (name : List Char) : String :=
  let folded := (name.filter (fun c => c.toNat < 0x80 && c != ' ' && c != '_' && c != '-')).map Char.toLower
  match name.map Char.toLower with
  | 'i' :: 's' :: _ =>
    let bare := folded.drop 2
    String.ofList (if bare == ['c'] then folded else bare)
  | _ => String.ofList folded

/-- The set of a general category or group of categories. -/
def ofCategoryName? (loose : String) : Option CharSet :=
  match loose with
  | "any" => some all
  | "ascii" => some (range '\x00' '\x7f')
  | "assigned" => some (complement (categories [.cn]))
  | _ =>
    match groups.find? (fun g => g.1.contains loose) with
    | some g => some (categories g.2)
    | Option.none =>
      (Text.Category.names.find? (fun n =>
        looseName n.2.1.toList == loose || looseName n.2.2.toList == loose)).map
          (fun n => categories [n.1])

/-- The set of a script. -/
def ofScriptName? (loose : String) : Option CharSet :=
  (Text.Script.names.find? (fun n =>
    looseName n.1.toList == loose || looseName n.2.toList == loose)).map (fun n => script n.1)

/-- The set of a property that characters have or lack. -/
def ofBinaryName? (loose : String) : Option CharSet :=
  if ["alpha", "alphabetic"].contains loose then some alphabetic
  else if ["lower", "lowercase"].contains loose then some lowercase
  else if ["upper", "uppercase"].contains loose then some uppercase
  else if ["space", "whitespace", "wspace"].contains loose then some blank
  else if ["ahex", "asciihexdigit"].contains loose then ofAsciiName? "xdigit"
  else if ["hex", "hexdigit"].contains loose then
    some (ofRanges [('0', '9'), ('A', 'F'), ('a', 'f'), ('\uff10', '\uff19'), ('\uff21', '\uff26'),
      ('\uff41', '\uff46')])
  else if ["joinc", "joincontrol"].contains loose then some (range '\u200c' '\u200d')
  else Option.none

/-- The set of a property given by its name alone. -/
def ofProperty? (name : List Char) : Option CharSet :=
  let loose := looseName name
  let binary := if ["cf", "sc", "lc"].contains loose then Option.none else ofBinaryName? loose
  (binary.orElse (fun _ => ofCategoryName? loose)).orElse (fun _ => ofScriptName? loose)

/-- The set of a property given by its name and a value. -/
def ofPropertyValue? (name value : List Char) : Option CharSet :=
  let loose := looseName name
  if ["gc", "generalcategory"].contains loose then ofCategoryName? (looseName value)
  else if ["sc", "script"].contains loose then ofScriptName? (looseName value)
  else Option.none

end CharSet

end CallAudit

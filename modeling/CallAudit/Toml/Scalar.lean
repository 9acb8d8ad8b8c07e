import CallAudit.Json.Basic
import CallAudit.Number.Digits
import CallAudit.Timestamp

/-!
# TOML scalars

Texts, numbers, truth values and points in time, each read from the front of a text. A point in time
is given as an object that holds its text under a key of its own.
-/
namespace CallAudit.Toml

/-! ## Signs -/

def isBlank (c : Char) : Bool := c == ' ' || c == '\t'

def skipBlank (cs : List Char) : List Char := cs.dropWhile isBlank

/-- May the character stand in a line? -/
def isPrintable (c : Char) : Bool := c == '\t' || (' ' ≤ c && c != '\x7f')

/-- What follows a line break. -/
def lineBreak? : List Char → Option (List Char)
  | '\n' :: cs => some cs
  | '\r' :: '\n' :: cs => some cs
  | _ => none

/-- What follows `mark` at the front. -/
def after? (mark cs : List Char) : Option (List Char) :=
  if mark.isPrefixOf cs then some (cs.drop mark.length) else none

/-! ## Texts -/

/-- The character of this many hexadecimal digits. -/
def codePoint? (width : Nat) (cs : List Char) : Option (Char × List Char) :=
  let ds := cs.take width
  let n := Digits.ofDigits 16 ds
  if ds.length = width ∧ ds.all (fun c => (Digits.hexValue? c).isSome) ∧ n.isValidChar then
    some (Char.ofNat n, cs.drop width)
  else none

/-- The character of an escape after its backslash. -/
def escape? : List Char → Option (Char × List Char)
  | 'b' :: cs => some ('\x08', cs)
  | 't' :: cs => some ('\t', cs)
  | 'n' :: cs => some ('\n', cs)
  | 'f' :: cs => some ('\x0c', cs)
  | 'r' :: cs => some ('\r', cs)
  | '\x22' :: cs => some ('\x22', cs)
  | '\\' :: cs => some ('\\', cs)
  | 'u' :: cs => codePoint? 4 cs
  | 'U' :: cs => codePoint? 8 cs
  | _ => none

/-- The rest of a text in one line up to the closing `quote`; only double quotes allow escapes. -/
def lineText? (quote : Char) : (fuel : Nat) → List Char → Option (List Char × List Char)
  | 0, _ => none
  | _, [] => none
  | fuel + 1, c :: cs =>
    if c = quote then some ([], cs)
    else if c = '\\' ∧ quote = '\x22' then
      match escape? cs with
      | some (d, cs) => (lineText? quote fuel cs).map (fun r => (d :: r.1, r.2))
      | none => none
    else if isPrintable c then (lineText? quote fuel cs).map (fun r => (c :: r.1, r.2))
    else none

/-- Skips blanks and line breaks. -/
def skipSpace : List Char → List Char
  | [] => []
  | '\r' :: '\n' :: cs => skipSpace cs
  | c :: cs => if isBlank c || c == '\n' then skipSpace cs else c :: cs

/-- What follows a backslash that ends its line, with the blanks and lines after it skipped. -/
def foldedLine? (cs : List Char) : Option (List Char) := (lineBreak? (skipBlank cs)).map skipSpace

/-- The rest of a text in several lines up to its three closing quotes, before which two more may
stand as content. -/
def blockText? (quote : Char) : (fuel : Nat) → List Char → Option (List Char × List Char)
  | 0, _ => none
  | _, [] => none
  | fuel + 1, c :: cs =>
    let continued := fun (read : List Char) (rest : List Char) =>
      (blockText? quote fuel rest).map (fun r => (read ++ r.1, r.2))
    if c = quote then
      let run := 1 + (cs.takeWhile (· == quote)).length
      if run < 3 then continued (List.replicate run quote) (cs.drop (run - 1))
      else some (List.replicate (min 2 (run - 3)) quote, cs.drop (2 + min 2 (run - 3)))
    else if c = '\\' ∧ quote = '\x22' then
      match foldedLine? cs with
      | some cs => continued [] cs
      | none =>
        match escape? cs with
        | some (d, cs) => continued [d] cs
        | none => none
    else match lineBreak? (c :: cs) with
      | some cs => continued ['\n'] cs
      | none => if isPrintable c then continued [c] cs else none

/-- A text in quotes. -/
def text? (quote : Char) (cs : List Char) : Option (String × List Char) :=
  let found := match after? [quote, quote, quote] cs with
    | some cs => blockText? quote (cs.length + 1) ((lineBreak? cs).getD cs)
    | none => (after? [quote] cs).bind (fun cs => lineText? quote (cs.length + 1) cs)
  found.map (fun r => (String.ofList r.1, r.2))

/-! ## Numbers -/

/-- Digits with single underscores between them. -/
def digits? (isDigit : Char → Bool) : List Char → Option (List Char × List Char)
  | [] => none
  | c :: cs =>
    if !isDigit c then none
    else match cs with
      | '_' :: rest => (digits? isDigit rest).map (fun r => (c :: r.1, r.2))
      | rest =>
        match digits? isDigit rest with
        | some (ds, rest) => some (c :: ds, rest)
        | none => if (rest.head?).any isDigit then none else some ([c], rest)

/-- A sign, if there is one: is it a minus? -/
def sign? : List Char → Option Bool × List Char
  | '+' :: cs => (some false, cs)
  | '-' :: cs => (some true, cs)
  | cs => (none, cs)

/-- Decimal digits without a leading zero. -/
def whole? (cs : List Char) : Option (List Char × List Char) :=
  match cs with
  | '0' :: rest => some (['0'], rest)
  | cs => digits? Char.isDigit cs

/-- The integer, if it has 64 bits. -/
def integerOf? (n : Int) : Option Json :=
  if Int64.minValue.toInt ≤ n ∧ n ≤ Int64.maxValue.toInt then some (.number (.int n)) else none

/-- An integer in a base that its second sign names. -/
def based? (base : Nat) (isDigit : Char → Bool) (cs : List Char) : Option (Json × List Char) :=
  (digits? isDigit cs).bind (fun r =>
    (integerOf? (Digits.ofDigits base r.1)).map (fun v => (v, r.2)))

def integer? (cs : List Char) : Option (Json × List Char) :=
  match cs with
  | '0' :: 'x' :: rest => based? 16 (fun c => (Digits.hexValue? c).isSome) rest
  | '0' :: 'o' :: rest => based? 8 (fun c => '0' ≤ c && c ≤ '7') rest
  | '0' :: 'b' :: rest => based? 2 (fun c => c == '0' || c == '1') rest
  | cs =>
    let (sign, cs) := sign? cs
    (whole? cs).bind (fun r =>
      let n : Int := Digits.ofDecimal r.1
      (integerOf? (if sign = some true then -n else n)).map (fun v => (v, r.2)))

/-- An exponent after its letter. -/
def exponent? : List Char → Option (Int × List Char)
  | c :: cs =>
    if c = 'e' ∨ c = 'E' then
      let (sign, cs) := sign? cs
      (digits? Char.isDigit cs).map (fun r =>
        let n : Int := Digits.ofDecimal r.1
        (if sign = some true then -n else n, r.2))
    else none
  | [] => none

/-- A double of these parts; one that is too large is refused unless it is negative. -/
def floatOf? (negative : Bool) (whole fraction : List Char) (exponent : Int) : Option Json :=
  match Binary64.ofDecimal? negative (Digits.ofDecimal (whole ++ fraction)) (exponent - fraction.length) with
  | some x => some (.number (.float x))
  | none => if negative then some (.number (.float (Binary64.infinity true))) else none

/-- A number with a fraction or an exponent. -/
def fractional? (cs : List Char) : Option (Json × List Char) :=
  let (sign, cs) := sign? cs
  match whole? cs with
  | none => none
  | some (whole, '.' :: rest) =>
    (digits? Char.isDigit rest).bind (fun (fraction, rest) =>
      let (exponent, rest) := (exponent? rest).getD (0, rest)
      (floatOf? (sign == some true) whole fraction exponent).map (fun v => (v, rest)))
  | some (whole, rest) =>
    (exponent? rest).bind (fun (exponent, rest) =>
      (floatOf? (sign == some true) whole [] exponent).map (fun v => (v, rest)))

/-- An infinity, or what is no number. -/
def special? (cs : List Char) : Option (Json × List Char) :=
  let (sign, cs) := sign? cs
  match cs with
  | 'i' :: 'n' :: 'f' :: rest => some (.number (.float (Binary64.infinity (sign == some true))), rest)
  | 'n' :: 'a' :: 'n' :: rest => some (.number (.float Binary64.nan), rest)
  | _ => none

/-! ## Points in time -/

/-- A number of exactly `width` digits between two bounds. -/
def field? (width least most : Nat) (cs : List Char) : Option (Nat × List Char) :=
  let ds := cs.take width
  let n := Digits.ofDecimal ds
  if ds.length = width ∧ ds.all Char.isDigit ∧ least ≤ n ∧ n ≤ most then some (n, cs.drop width)
  else none

/-- A date as it is written. -/
def date? (cs : List Char) : Option (List Char × List Char) := do
  let (year, cs) ← field? 4 0 9999 cs
  let cs ← after? ['-'] cs
  let (month, cs) ← field? 2 1 12 cs
  let cs ← after? ['-'] cs
  let (day, cs) ← field? 2 1 31 cs
  if Timestamp.daysInMonth year month < day then none
  else some (Digits.padded 4 year ++ '-' :: Digits.padded 2 month ++ '-' :: Digits.padded 2 day, cs)

/-- The nanoseconds of a fraction in their shortest form; digits past the ninth count nothing. -/
def fractionText (ds : List Char) : List Char :=
  match ((ds.take 9).reverse.dropWhile (· == '0')).reverse with
  | [] => []
  | ds => '.' :: ds

/-- A time of the day in its written form. -/
def time? (cs : List Char) : Option (List Char × List Char) := do
  let (hour, cs) ← field? 2 0 23 cs
  let cs ← after? [':'] cs
  let (minute, cs) ← field? 2 0 59 cs
  let cs ← after? [':'] cs
  let (second, cs) ← field? 2 0 60 cs
  let clock := Digits.padded 2 hour ++ ':' :: Digits.padded 2 minute ++ ':' :: Digits.padded 2 second
  match cs with
  | '.' :: rest =>
    let (ds, tail) := Digits.span rest
    some (if ds.isEmpty then (clock, cs) else (clock ++ fractionText ds, tail))
  | cs => some (clock, cs)

/-- An offset in its written form. -/
def offset? (cs : List Char) : Option (List Char × List Char) :=
  match cs with
  | [] => none
  | c :: cs =>
    if c = 'Z' ∨ c = 'z' then some (['Z'], cs)
    else if c = '+' ∨ c = '-' then do
      let (hour, cs) ← field? 2 0 23 cs
      let cs ← after? [':'] cs
      let (minute, cs) ← field? 2 0 59 cs
      let sign := if hour = 0 ∧ minute = 0 then '+' else c
      some (sign :: Digits.padded 2 hour ++ ':' :: Digits.padded 2 minute, cs)
    else none

/-- The key that a point in time has its text under. -/
def timeKey : String := "$__toml_private_datetime"

def timeJson (text : List Char) : Json := .object [(timeKey, .string (String.ofList text))]

/-- A date, a time of the day, or both with or without an offset. -/
def pointInTime? (cs : List Char) : Option (Json × List Char) :=
  match date? cs with
  | none => (time? cs).map (fun r => (timeJson r.1, r.2))
  | some (date, rest) =>
    let clock := match rest with
      | c :: rest => if c = 'T' ∨ c = 't' ∨ c = ' ' then time? rest else none
      | [] => none
    match clock with
    | none => some (timeJson date, rest)
    | some (clock, rest) =>
      let (offset, rest) := (offset? rest).getD ([], rest)
      some (timeJson (date ++ 'T' :: clock ++ offset), rest)

/-! ## All scalars -/

/-- A value that is neither an array nor a table. -/
def scalar? (cs : List Char) : Option (Json × List Char) :=
  match cs with
  | [] => none
  | c :: _ =>
    if c = '\x22' ∨ c = '\x27' then (text? c cs).map (fun r => (.string r.1, r.2))
    else if c = 't' then (after? "true".toList cs).map (fun rest => (.bool true, rest))
    else if c = 'f' then (after? "false".toList cs).map (fun rest => (.bool false, rest))
    else
      (((pointInTime? cs).orElse (fun _ => fractional? cs)).orElse (fun _ => special? cs)).orElse
        (fun _ => integer? cs)

end CallAudit.Toml

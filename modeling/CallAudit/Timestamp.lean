import CallAudit.Number.Digits
import CallAudit.Text.Blank

/-!
# Points in time

A point in UTC is a day, a second of that day and nanoseconds; nanoseconds of a billion and more lie
in the leap second after that second. Written form: RFC 3339 with `Z` and 0, 3, 6 or 9 fraction
digits, the fewest that lose nothing. Reading accepts any offset and is lenient about blanks, the
separator and the case of its letters.

* `ofCivil`, `toCivil`: the proleptic Gregorian calendar as a count of days.
* `render`, `parse?`: the two text forms.
-/
namespace CallAudit

/-- A point in UTC. -/
structure Timestamp where
  /-- days since 1970-01-01 -/
  day : Int
  /-- second of the day -/
  second : Nat
  nanos : Nat
  second_lt : second < 86400 := by omega
  nanos_lt : nanos < 2000000000 := by omega
  deriving DecidableEq, Repr

namespace Timestamp

open Digits (padded ofDecimal)

/-! ## The calendar -/

/-- Days from 1970-01-01 to a date. Years are counted from March, so that the leap day ends a year,
and in eras of 400 years. -/
def ofCivil (year : Int) (month day : Nat) : Int :=
  let y := if month ≤ 2 then year - 1 else year
  let era := y / 400
  let yearOfEra := y % 400
  let dayOfYear : Int := ((153 * (if 2 < month then month - 3 else month + 9) + 2) / 5 + day : Nat) - 1
  era * 146097 + (yearOfEra * 365 + yearOfEra / 4 - yearOfEra / 100 + dayOfYear) - 719468

/-- The date of a day: year, month, day of the month. -/
def toCivil (day : Int) : Int × Nat × Nat :=
  let z := day + 719468
  let era := z / 146097
  let dayOfEra := z % 146097
  let yearOfEra := (dayOfEra - dayOfEra / 1460 + dayOfEra / 36524 - dayOfEra / 146096) / 365
  let dayOfYear := (dayOfEra - (365 * yearOfEra + yearOfEra / 4 - yearOfEra / 100)).toNat
  let shifted := (5 * dayOfYear + 2) / 153
  let month := if shifted < 10 then shifted + 3 else shifted - 9
  let year := yearOfEra + era * 400 + (if month ≤ 2 then 1 else 0)
  (year, month, dayOfYear - (153 * shifted + 2) / 5 + 1)

def isLeapYear (y : Int) : Bool := y % 4 == 0 && (y % 100 != 0 || y % 400 == 0)

def daysInMonth (year : Int) (month : Nat) : Nat :=
  if month = 2 then (if isLeapYear year then 29 else 28)
  else if month = 4 ∨ month = 6 ∨ month = 9 ∨ month = 11 then 30
  else 31

/-- The days of the years that dates range over. -/
def minDay : Int := ofCivil (-262143) 1 1

def maxDay : Int := ofCivil 262142 12 31

/-! ## Writing -/

/-- Four digits, or a sign and at least four outside 0 … 9999. -/
def yearText (y : Int) : List Char :=
  if 0 ≤ y ∧ y ≤ 9999 then padded 4 y.toNat
  else (if y < 0 then '-' else '+') :: padded 4 y.natAbs

/-- The fraction with the fewest of 0, 3, 6, 9 digits that lose nothing. -/
def fractionText (nanos : Nat) : List Char :=
  if nanos = 0 then []
  else if nanos % 1000000 = 0 then '.' :: padded 3 (nanos / 1000000)
  else if nanos % 1000 = 0 then '.' :: padded 6 (nanos / 1000)
  else '.' :: padded 9 nanos

/-- The RFC 3339 text; inside a leap second the seconds read 60. -/
def chars (t : Timestamp) : List Char :=
  let (year, month, day) := toCivil t.day
  let leap := if t.nanos < 1000000000 then 0 else 1
  yearText year ++ '-' :: padded 2 month ++ '-' :: padded 2 day ++
    'T' :: padded 2 (t.second / 3600) ++ ':' :: padded 2 (t.second / 60 % 60) ++
    ':' :: padded 2 (t.second % 60 + leap) ++ fractionText (t.nanos - leap * 1000000000) ++ ['Z']

def render (t : Timestamp) : String := String.ofList t.chars

/-! ## Reading -/

/-- At least one and at most `width` digits, after blanks. -/
def number? (width : Nat) (cs : List Char) : Option (Nat × List Char) :=
  let cs := Blank.trimLeft cs
  let ds := (cs.take width).takeWhile Char.isDigit
  if ds.isEmpty then none
  else some (ofDecimal ds, cs.drop ds.length)

/-- A year: up to four digits, or a sign and any number of them. -/
def year? (cs : List Char) : Option (Int × List Char) :=
  let signed (rest : List Char) := if rest.head?.any Char.isDigit then number? rest.length rest else none
  match Blank.trimLeft cs with
  | '-' :: rest => (signed rest).map (fun r => (-(r.1 : Int), r.2))
  | '+' :: rest => (signed rest).map (fun r => ((r.1 : Int), r.2))
  | rest => (number? 4 rest).map (fun r => ((r.1 : Int), r.2))

/-- A separator, after blanks. -/
def mark? (c : Char) (cs : List Char) : Option (List Char) :=
  match Blank.trimLeft cs with
  | d :: rest => if c = d then some rest else none
  | [] => none

/-- A fraction of a second in nanoseconds; digits past the ninth count nothing. -/
def fraction? (cs : List Char) : Option (Nat × List Char) :=
  match cs with
  | '.' :: rest =>
    let ds := rest.takeWhile Char.isDigit
    if ds.isEmpty then none
    else
      let kept := ds.take 9
      some (ofDecimal kept * Nat.pow 10 (9 - kept.length),
        rest.drop ds.length)
  | _ => some (0, cs)

/-- Two digits at the front. -/
def twoDigits? (cs : List Char) : Option (Nat × List Char) :=
  match cs with
  | a :: b :: rest =>
    if a.isDigit ∧ b.isDigit then some (ofDecimal [a, b], rest) else none
  | _ => none

/-- An offset in seconds: `Z`, `UTC`, or a sign with hours and minutes. -/
def offset? (cs : List Char) : Option (Int × List Char) :=
  match cs with
  | [] => none
  | c :: rest =>
    if (cs.take 3).map Char.toUpper = ['U', 'T', 'C'] then some (0, cs.drop 3)
    else if c = 'Z' ∨ c = 'z' then some (0, rest)
    else if c = '+' ∨ c = '-' ∨ c = '\u2212' then do
      let (hours, rest) ← twoDigits? rest
      let (minutes, rest) ← twoDigits? (rest.dropWhile (fun d => d == ':' || Blank.isBlank d))
      if 60 ≤ minutes then none
      else
        let seconds : Int := hours * 3600 + minutes * 60
        some (if c = '+' then seconds else -seconds, rest)
    else none

/-- The point with these fields, `offset` seconds east of UTC. Second 60 is the leap second after
second 59. -/
def ofFields? (year : Int) (month day hour minute second nanos : Nat) (offset : Int) :
    Option Timestamp :=
  if h : year < -262143 ∨ 262142 < year ∨ month < 1 ∨ 12 < month ∨ day < 1 ∨
      daysInMonth year month < day ∨ 23 < hour ∨ 59 < minute ∨ 60 < second ∨ 999999999 < nanos ∨
      offset ≤ -86400 ∨ 86400 ≤ offset then none
  else
    let ofDay : Int := (hour * 3600 + minute * 60 + min second 59 : Nat) - offset
    let d := ofCivil year month day + ofDay / 86400
    if d < minDay ∨ maxDay < d then none
    else some {
      day := d
      second := (ofDay % 86400).toNat
      nanos := nanos + (if second = 60 then 1000000000 else 0)
      second_lt := by omega
      nanos_lt := by split <;> omega }

/-- The point that a text names. -/
def parse? (s : String) : Option Timestamp := do
  let (year, cs) ← year? s.toList
  let cs ← mark? '-' cs
  let (month, cs) ← number? 2 cs
  let cs ← mark? '-' cs
  let (day, cs) ← number? 2 cs
  let cs ← match cs with
    | c :: rest => if c = 'T' ∨ c = 't' ∨ c = ' ' then some rest else none
    | [] => none
  let (hour, cs) ← number? 2 cs
  let cs ← mark? ':' cs
  let (minute, cs) ← number? 2 cs
  let cs ← mark? ':' cs
  let (second, cs) ← number? 2 cs
  let (nanos, cs) ← fraction? cs
  let (offset, cs) ← offset? (Blank.trimLeft cs)
  if (Blank.trimLeft cs).isEmpty then ofFields? year month day hour minute second nanos offset
  else none

end Timestamp

end CallAudit

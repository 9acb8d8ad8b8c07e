/-!
# Tables over all characters

A property that gives every code point a name is written as a text of runs in code point order: the
name, then how many code points the run has. No run is split between lines.

* `Runs.ofText`: the runs that a text describes.
* `Runs.find?`: what a code point has.
-/
namespace CallAudit.Text

/-- The first code point of each run, and what the code points of the run have. -/
structure Runs (α : Type) where
  starts : Array (Nat × α)

namespace Runs

variable {α : Type}

/-- A name or a number at the front of a text, and what follows it. -/
def token (inToken : Char → Bool) : List Char → List Char × List Char
  | c :: text =>
    if inToken c then
      let rest := token inToken text
      (c :: rest.1, rest.2)
    else ([], c :: text)
  | [] => ([], [])

/-- The number that digits denote. -/
def count (digits : List Char) : Nat :=
  digits.foldl (fun n c => 10 * n + (c.toNat - '0'.toNat)) 0

/-- The runs of a text, from the code point `next` on; the text has at most `fuel` runs. -/
def read (value : String → α) (next : Nat) (runs : Array (Nat × α)) :
    (fuel : Nat) → List Char → Array (Nat × α)
  | 0, _ => runs
  | _, [] => runs
  | fuel + 1, text =>
    let name := token (fun c => !c.isDigit) text
    let digits := token Char.isDigit name.2
    read value (next + count digits.1) (runs.push (next, value (String.ofList name.1))) fuel digits.2

/-- The runs that a text of several lines describes. -/
def ofText (value : String → α) (lines : List String) : Runs α :=
  let text := lines.flatMap String.toList
  ⟨read value 0 #[] text.length text⟩

/-- The last of the runs from number `lo` on, below `hi`, that starts no later than `point`. -/
def search (runs : Array (Nat × α)) (point lo hi : Nat) : Option α :=
  if lo + 1 < hi then
    if (runs[(lo + hi) / 2]?).any (fun r => r.1 ≤ point) then search runs point ((lo + hi) / 2) hi
    else search runs point lo ((lo + hi) / 2)
  else (runs[lo]?).map (·.2)
  termination_by hi - lo

/-- What a code point has. -/
def find? (r : Runs α) (point : Nat) : Option α := search r.starts point 0 r.starts.size

end Runs

end CallAudit.Text

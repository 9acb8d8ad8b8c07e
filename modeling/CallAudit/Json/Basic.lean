import CallAudit.Keyed
import CallAudit.Number.Binary64

/-!
# JSON values

An integer within 64 bits (signed or unsigned) stays an integer, every other number is a double.
Objects keep their members in the order of writing, repeats included; `canonical` is the value an
object denotes, with its members in key order and the last of each key.
-/
namespace CallAudit

/-- A JSON number. -/
inductive Json.Number where
  | int (n : Int)
  | float (x : Binary64)
  deriving DecidableEq, Repr

/-- A JSON value. -/
inductive Json where
  | null
  | bool (b : Bool)
  | number (n : Json.Number)
  | string (s : String)
  | array (items : List Json)
  | object (members : List (String × Json))
  deriving Repr

namespace Json

instance : Inhabited Json := ⟨null⟩

/-- The integers that are kept as integers. -/
def Number.Integral (n : Int) : Prop := Int64.minValue.toInt ≤ n ∧ n < UInt64.size

instance (n : Int) : Decidable (Number.Integral n) := inferInstanceAs (Decidable (_ ∧ _))

/-- The number as a double. -/
def Number.toBinary64 : Number → Binary64
  | .int n => Binary64.ofInt n
  | .float x => x

/-! ## Equality -/

mutual

def beq : Json → Json → Bool
  | null, null => true
  | bool a, bool b => a == b
  | number a, number b => decide (a = b)
  | string a, string b => a == b
  | array xs, array ys => beqList xs ys
  | object xs, object ys => beqMembers xs ys
  | _, _ => false

def beqList : List Json → List Json → Bool
  | [], [] => true
  | x :: xs, y :: ys => beq x y && beqList xs ys
  | _, _ => false

def beqMembers : List (String × Json) → List (String × Json) → Bool
  | [], [] => true
  | (k, x) :: xs, (l, y) :: ys => k == l && beq x y && beqMembers xs ys
  | _, _ => false

end

instance : BEq Json := ⟨beq⟩

/-! ## Parts -/

def string? : Json → Option String
  | string s => some s
  | _ => none

def bool? : Json → Option Bool
  | bool b => some b
  | _ => none

def array? : Json → Option (List Json)
  | array xs => some xs
  | _ => none

/-- The last member of the name `k`. -/
def lastMember? (k : String) (ms : List (String × Json)) : Option Json :=
  (ms.reverse.find? (fun m => m.1 == k)).map (·.2)

/-- The last member of the name `k` of an object. -/
def get? (v : Json) (k : String) : Option Json :=
  match v with
  | object ms => lastMember? k ms
  | _ => none

/-! ## Nesting -/

mutual

/-- Levels of arrays and objects, the outermost included. -/
def depth : Json → Nat
  | array xs => depthList xs + 1
  | object ms => depthMembers ms + 1
  | _ => 0

def depthList : List Json → Nat
  | [] => 0
  | x :: xs => max (depth x) (depthList xs)

def depthMembers : List (String × Json) → Nat
  | [] => 0
  | (_, x) :: xs => max (depth x) (depthMembers xs)

end

/-! ## The value an object denotes -/

mutual

/-- The value with the members of every object in key order, the last of each key kept. -/
def canonical : Json → Json
  | array xs => array (canonicalList xs)
  | object ms => object (Keyed.ofList (canonicalMembers ms))
  | v => v

def canonicalList : List Json → List Json
  | [] => []
  | x :: xs => canonical x :: canonicalList xs

def canonicalMembers : List (String × Json) → List (String × Json)
  | [] => []
  | (k, x) :: xs => (k, canonical x) :: canonicalMembers xs

end

end Json

end CallAudit

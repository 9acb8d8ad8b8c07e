import CallAudit.Json.Printer

/-!
# Payloads

What a call carries: a value of the data model that programs serialize through, or a value that
refuses. A payload has a JSON form unless some part of it refuses, is an integer beyond 64 bits, or
is a map key without a text. Numbers have a text where they are keys, of whatever size, unless they are
no number or infinite.

* `toJson?`: the JSON form.
* `NoKey`: the payloads that are no map keys.
* `Refuses`: the payloads without a JSON form, by their parts.
-/
namespace CallAudit

/-- A value to be serialized. -/
inductive Payload where
  /-- no value -/
  | null
  | bool (b : Bool)
  | integer (n : Int)
  | float (x : Binary64)
  /-- a number of single precision, by its value -/
  | single (x : Binary64)
  /-- a string, a character or the name of a bare variant -/
  | text (s : String)
  /-- a present optional value -/
  | present (inner : Payload)
  /-- a value in a type of its own -/
  | wrapped (inner : Payload)
  | sequence (items : List Payload)
  | record (fields : List (String × Payload))
  | map (entries : List (Payload × Payload))
  /-- a variant with content -/
  | variant (name : String) (inner : Payload)
  /-- a value that fails to serialize -/
  | unserializable (reason : String)

namespace Payload

instance : Inhabited Payload := ⟨null⟩

/-- The text of a map key. -/
def keyText? : Payload → Option String
  | text s => some s
  | bool b => some (if b then "true" else "false")
  | integer n => some (String.ofList (Digits.signed n))
  | float x => if x.Finite then some (String.ofList (Json.doubleText x)) else none
  | single x => if x.Finite then some (String.ofList (Json.singleText x)) else none
  | wrapped inner => inner.keyText?
  | _ => none

/-- A double as JSON, null where it is no number. -/
def floatJson (x : Binary64) : Json := if x.Finite then .number (.float x) else .null

mutual

/-- The JSON form, if every part has one. -/
def toJson? : Payload → Option Json
  | null => some .null
  | bool b => some (.bool b)
  | integer n => if Json.Number.Integral n then some (.number (.int n)) else none
  | float x | single x => some (floatJson x)
  | text s => some (.string s)
  | present inner => inner.toJson?
  | wrapped inner => inner.toJson?
  | sequence items => (itemsJson? items).map Json.array
  | record fields => (fieldsJson? fields).map (fun ms => .object (Keyed.ofList ms))
  | map entries => (entriesJson? entries).map (fun ms => .object (Keyed.ofList ms))
  | variant name inner => inner.toJson?.map (fun v => .object [(name, v)])
  | unserializable _ => none

def itemsJson? : List Payload → Option (List Json)
  | [] => some []
  | p :: ps => match p.toJson?, itemsJson? ps with
    | some v, some vs => some (v :: vs)
    | _, _ => none

def fieldsJson? : List (String × Payload) → Option (List (String × Json))
  | [] => some []
  | (k, p) :: ps => match p.toJson?, fieldsJson? ps with
    | some v, some vs => some ((k, v) :: vs)
    | _, _ => none

def entriesJson? : List (Payload × Payload) → Option (List (String × Json))
  | [] => some []
  | (k, p) :: ps => match k.keyText?, p.toJson?, entriesJson? ps with
    | some k, some v, some vs => some ((k, v) :: vs)
    | _, _, _ => none

end

/-- A payload that is no map key. -/
inductive NoKey : Payload → Prop where
  | null : NoKey null
  | float {x : Binary64} : ¬ x.Finite → NoKey (float x)
  | single {x : Binary64} : ¬ x.Finite → NoKey (single x)
  | present {p : Payload} : NoKey (present p)
  | wrapped {p : Payload} : NoKey p → NoKey (wrapped p)
  | sequence {ps : List Payload} : NoKey (sequence ps)
  | record {fs : List (String × Payload)} : NoKey (record fs)
  | map {es : List (Payload × Payload)} : NoKey (map es)
  | variant {name : String} {p : Payload} : NoKey (variant name p)
  | unserializable {reason : String} : NoKey (unserializable reason)

/-- A payload that some part keeps from having a JSON form. -/
inductive Refuses : Payload → Prop where
  | unserializable {reason : String} : Refuses (unserializable reason)
  | integer {n : Int} : ¬ Json.Number.Integral n → Refuses (integer n)
  | present {p : Payload} : Refuses p → Refuses (present p)
  | wrapped {p : Payload} : Refuses p → Refuses (wrapped p)
  | item {p : Payload} {ps : List Payload} : p ∈ ps → Refuses p → Refuses (sequence ps)
  | field {k : String} {p : Payload} {ps : List (String × Payload)} :
      (k, p) ∈ ps → Refuses p → Refuses (record ps)
  | key {k p : Payload} {ps : List (Payload × Payload)} :
      (k, p) ∈ ps → NoKey k → Refuses (map ps)
  | value {k p : Payload} {ps : List (Payload × Payload)} :
      (k, p) ∈ ps → Refuses p → Refuses (map ps)
  | variant {name : String} {p : Payload} : Refuses p → Refuses (variant name p)

mutual

/-- A JSON value as a payload. -/
def ofJson : Json → Payload
  | .null => null
  | .bool b => bool b
  | .number (.int n) => integer n
  | .number (.float x) => float x
  | .string s => text s
  | .array xs => sequence (ofItems xs)
  | .object ms => record (ofMembers ms)

def ofItems : List Json → List Payload
  | [] => []
  | x :: xs => ofJson x :: ofItems xs

def ofMembers : List (String × Json) → List (String × Payload)
  | [] => []
  | (k, x) :: ms => (k, ofJson x) :: ofMembers ms

end

end Payload

end CallAudit

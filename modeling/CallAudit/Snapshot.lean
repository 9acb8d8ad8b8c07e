import CallAudit.Payload

/-!
# Snapshots

The structured copy of a payload that a record keeps: JSON in which every number is a double and
every object has its keys in order. A snapshot is an object; a payload of any other shape is kept
under the key `value`.

* `Value.ofJson`, `Value.toJson`: to and from JSON.
* `Snapshot.ofPayload?`: the snapshot of a payload, none if it has no JSON form.
* `Value.canonical_ofJson`: conversion puts every object in key order.
-/
namespace CallAudit

/-- A structured value. -/
inductive Value where
  | null
  | bool (b : Bool)
  | number (x : Binary64)
  | text (s : String)
  | list (items : List Value)
  | struct (fields : List (String × Value))
  deriving Repr

namespace Value

instance : Inhabited Value := ⟨null⟩

/-! ## Equality -/

mutual

def beq : Value → Value → Bool
  | null, null => true
  | bool a, bool b => decide (a = b)
  | number a, number b => decide (a = b)
  | text a, text b => decide (a = b)
  | list xs, list ys => beqItems xs ys
  | struct xs, struct ys => beqFields xs ys
  | _, _ => false

def beqItems : List Value → List Value → Bool
  | [], [] => true
  | x :: xs, y :: ys => beq x y && beqItems xs ys
  | _, _ => false

def beqFields : List (String × Value) → List (String × Value) → Bool
  | [], [] => true
  | (k, x) :: xs, (l, y) :: ys => decide (k = l) && beq x y && beqFields xs ys
  | _, _ => false

end

mutual

theorem eq_of_beq {a b : Value} (h : beq a b = true) : a = b := by
  match a, b with
  | null, null => rfl
  | bool a, bool b => simp only [beq, decide_eq_true_eq] at h; rw [h]
  | number a, number b => simp only [beq, decide_eq_true_eq] at h; rw [h]
  | text a, text b => simp only [beq, decide_eq_true_eq] at h; rw [h]
  | list xs, list ys => simp only [beq] at h; rw [eq_of_beqItems h]
  | struct xs, struct ys => simp only [beq] at h; rw [eq_of_beqFields h]
  | null, bool _ | null, number _ | null, text _ | null, list _ | null, struct _
  | bool _, null | bool _, number _ | bool _, text _ | bool _, list _ | bool _, struct _
  | number _, null | number _, bool _ | number _, text _ | number _, list _ | number _, struct _
  | text _, null | text _, bool _ | text _, number _ | text _, list _ | text _, struct _
  | list _, null | list _, bool _ | list _, number _ | list _, text _ | list _, struct _
  | struct _, null | struct _, bool _ | struct _, number _ | struct _, text _ | struct _, list _ =>
    simp [beq] at h

theorem eq_of_beqItems {xs ys : List Value} (h : beqItems xs ys = true) : xs = ys := by
  match xs, ys with
  | [], [] => rfl
  | x :: xs, y :: ys =>
    simp only [beqItems, Bool.and_eq_true] at h
    rw [eq_of_beq h.1, eq_of_beqItems h.2]
  | [], _ :: _ | _ :: _, [] => simp [beqItems] at h

theorem eq_of_beqFields {xs ys : List (String × Value)} (h : beqFields xs ys = true) : xs = ys := by
  match xs, ys with
  | [], [] => rfl
  | (k, x) :: xs, (l, y) :: ys =>
    simp only [beqFields, Bool.and_eq_true, decide_eq_true_eq] at h
    rw [h.1.1, eq_of_beq h.1.2, eq_of_beqFields h.2]
  | [], _ :: _ | _ :: _, [] => simp [beqFields] at h

end

mutual

theorem beq_self (a : Value) : beq a a = true := by
  match a with
  | null | bool _ | number _ | text _ => simp [beq]
  | list xs => simp only [beq]; exact beqItems_self xs
  | struct xs => simp only [beq]; exact beqFields_self xs

theorem beqItems_self (xs : List Value) : beqItems xs xs = true := by
  match xs with
  | [] => rfl
  | x :: xs => simp [beqItems, beq_self x, beqItems_self xs]

theorem beqFields_self (xs : List (String × Value)) : beqFields xs xs = true := by
  match xs with
  | [] => rfl
  | (k, x) :: xs => simp [beqFields, beq_self x, beqFields_self xs]

end

instance : DecidableEq Value := fun a b =>
  decidable_of_iff (beq a b = true) ⟨eq_of_beq, fun h => h ▸ beq_self a⟩

/-! ## To and from JSON -/

/-- A double as a value, null where it is no number. -/
def ofFloat (x : Binary64) : Value := if x.Finite then number x else null

mutual

/-- The structured form of a JSON value. -/
def ofJson : Json → Value
  | .null => null
  | .bool b => bool b
  | .number n => ofFloat n.toBinary64
  | .string s => text s
  | .array xs => list (ofItems xs)
  | .object ms => struct (Keyed.ofList (ofMembers ms))

def ofItems : List Json → List Value
  | [] => []
  | x :: xs => ofJson x :: ofItems xs

def ofMembers : List (String × Json) → List (String × Value)
  | [] => []
  | (k, x) :: ms => (k, ofJson x) :: ofMembers ms

end

mutual

/-- The value as JSON. -/
def toJson : Value → Json
  | null => .null
  | bool b => .bool b
  | number x => .number (.float x)
  | text s => .string s
  | list xs => .array (itemsJson xs)
  | struct fs => .object (fieldsJson fs)

def itemsJson : List Value → List Json
  | [] => []
  | x :: xs => x.toJson :: itemsJson xs

def fieldsJson : List (String × Value) → List (String × Json)
  | [] => []
  | (k, x) :: fs => (k, x.toJson) :: fieldsJson fs

end

/-! ## Key order at every depth -/

mutual

/-- Every object has its keys in order. -/
def Canonical : Value → Prop
  | list xs => CanonicalItems xs
  | struct fs => Keyed.Sorted fs ∧ CanonicalFields fs
  | _ => True

def CanonicalItems : List Value → Prop
  | [] => True
  | x :: xs => Canonical x ∧ CanonicalItems xs

def CanonicalFields : List (String × Value) → Prop
  | [] => True
  | (_, x) :: fs => Canonical x ∧ CanonicalFields fs

end

mutual

/-- Every number is finite. -/
def Finite : Value → Prop
  | number x => x.Finite
  | list xs => FiniteItems xs
  | struct fs => FiniteFields fs
  | _ => True

def FiniteItems : List Value → Prop
  | [] => True
  | x :: xs => Finite x ∧ FiniteItems xs

def FiniteFields : List (String × Value) → Prop
  | [] => True
  | (_, x) :: fs => Finite x ∧ FiniteFields fs

end

theorem canonicalFields_iff {fs : List (String × Value)} :
    CanonicalFields fs ↔ ∀ f ∈ fs, f.2.Canonical := by
  induction fs with
  | nil => simp [CanonicalFields]
  | cons f fs ih => obtain ⟨k, x⟩ := f; simp [CanonicalFields, ih]

theorem canonicalFields_insert {k : String} {v : Value} {fs : List (String × Value)}
    (hv : v.Canonical) (h : CanonicalFields fs) : CanonicalFields (Keyed.insert k v fs) := by
  rw [canonicalFields_iff] at h ⊢
  intro f hf
  rcases Keyed.mem_insert hf with rfl | hf
  · exact hv
  · exact h f hf

theorem canonicalFields_foldl {es fs : List (String × Value)} (he : CanonicalFields es)
    (h : CanonicalFields fs) :
    CanonicalFields (es.foldl (fun m e => Keyed.insert e.1 e.2 m) fs) := by
  induction es generalizing fs with
  | nil => exact h
  | cons e es ih =>
    simp only [CanonicalFields] at he
    exact ih he.2 (canonicalFields_insert he.1 h)

theorem canonicalFields_ofList {es : List (String × Value)} (he : CanonicalFields es) :
    CanonicalFields (Keyed.ofList es) := canonicalFields_foldl he trivial

mutual

theorem canonical_ofJson (j : Json) : (ofJson j).Canonical := by
  match j with
  | .null | .bool _ | .string _ => trivial
  | .number n => simp only [ofJson, ofFloat]; split <;> trivial
  | .array xs => exact canonicalItems_ofItems xs
  | .object ms =>
    exact ⟨Keyed.sorted_ofList _, canonicalFields_ofList (canonicalFields_ofMembers ms)⟩

theorem canonicalItems_ofItems (xs : List Json) : CanonicalItems (ofItems xs) := by
  match xs with
  | [] => trivial
  | x :: xs => exact ⟨canonical_ofJson x, canonicalItems_ofItems xs⟩

theorem canonicalFields_ofMembers (ms : List (String × Json)) : CanonicalFields (ofMembers ms) := by
  match ms with
  | [] => trivial
  | (_, x) :: ms => exact ⟨canonical_ofJson x, canonicalFields_ofMembers ms⟩

end

end Value

/-- A structured object: a record's copy of a payload. -/
structure Snapshot where
  fields : List (String × Value)
  sorted : Keyed.Sorted fields
  canonical : Value.CanonicalFields fields

namespace Snapshot

theorem ext {a b : Snapshot} (h : a.fields = b.fields) : a = b := by
  cases a; cases b; cases h; rfl

instance : DecidableEq Snapshot := fun a b =>
  if h : a.fields = b.fields then isTrue (ext h) else isFalse (fun e => h (e ▸ rfl))

def empty : Snapshot := ⟨[], Keyed.sorted_nil, trivial⟩

instance : Inhabited Snapshot := ⟨empty⟩

def isEmpty (s : Snapshot) : Bool := s.fields.isEmpty

/-- `s` with a value under `k`. -/
def insert (s : Snapshot) (k : String) (v : Value) (h : v.Canonical) : Snapshot :=
  ⟨Keyed.insert k v s.fields, Keyed.sorted_insert s.sorted,
    Value.canonicalFields_insert h s.canonical⟩

/-- `s` with a JSON value under `k`. -/
def insertJson (s : Snapshot) (k : String) (j : Json) : Snapshot :=
  s.insert k (Value.ofJson j) (Value.canonical_ofJson j)

/-- The object with these members. -/
def ofMembers (ms : List (String × Json)) : Snapshot :=
  ⟨Keyed.ofList (Value.ofMembers ms), Keyed.sorted_ofList _,
    Value.canonicalFields_ofList (Value.canonicalFields_ofMembers ms)⟩

/-- The snapshot of a JSON value: an object is itself, anything else stands under `value`. -/
def ofJson : Json → Snapshot
  | .object ms => ofMembers ms
  | j => empty.insertJson "value" j

/-- The snapshot of a payload, none if it has no JSON form. -/
def ofPayload? (p : Payload) : Option Snapshot := p.toJson?.map ofJson

def toJson (s : Snapshot) : Json := .object (Value.fieldsJson s.fields)

end Snapshot

end CallAudit
